import WatchDogProcess.Watchdog.StatusCheck
import WatchDogProcess.Foundation.EventRun

/-! # Handling a report of the process scan

The scan reports every ten seconds whether the application runs. `OnAppCrash`
counts the reports, reads the paths and the current step from the history file,
runs the heartbeat check at every seventh report, and then either clears the
retry counter or decides what to do about the missing application: quit, cover
the screen, give up, restart.

Every read has its own outcome, so a run of reports is a list of reports with
their times and read outcomes (`WatchDog.runReports`).
-/

namespace WatchDog

/-- The outcomes of the file operations of one report. -/
structure ReportReads extends CheckReads where
  appDataPath : ReadOutcome
  appLocation : ReadOutcome
  appCurrentStep : ReadOutcome
  launchInAllConditions : ReadOutcome
  sceenCoverRequired : ReadOutcome

/-- One report of the scan, with the time it is handled and its read outcomes. -/
structure Report where
  now : Nat
  isRunning : Bool
  reads : ReportReads

/-- The part of `OnAppCrash` before `isRunning` is looked at. -/
def countReport (platform : Platform) (report : Report) (watchdog : ProctoringWatchDog) :
    Handled :=
  let watchdog :=
    { watchdog with
      counter := watchdog.counter + 1
      appDataPath := getAppDataPath report.reads.appDataPath
      appRunningPath := getAppRunningLocation report.reads.appLocation
      step := getAppCurrentStep report.reads.appCurrentStep }
  if 7 ≤ watchdog.counter then
    processRecordingThread platform report.now report.reads.toCheckReads
      { watchdog with counter := 0 }
  else Handled.pure watchdog

/-- The branch of `OnAppCrash` for a running application. -/
def appFound (watchdog : ProctoringWatchDog) : Handled :=
  Handled.pure
    { watchdog with appLaunchRetryCountre := 0, waitingSceen := watchdog.waitingSceen.hide }

/-- The text of the error page before the support link is appended. -/
def unableToStart : String := "Unable to start RemoteDesk"

/-- The reasons to go on without the application, rather than quit. -/
def mustRun (watchdog : ProctoringWatchDog) : Bool :=
  watchdog.step = "STEP2" ∨ watchdog.step = "STEP3" ∨ watchdog.isAnyStepWatchdog = true

/-- The branch of `OnAppCrash` for an application that is not running. -/
def appMissing (platform : Platform) (report : Report) (watchdog : ProctoringWatchDog) :
    Handled :=
  let watchdog :=
    { watchdog with
      isAnyStepWatchdog := getisAnyStepWatchdog report.reads.launchInAllConditions
      visible := false }
  if mustRun watchdog then
    let watchdog :=
      { watchdog with isSceenCoverReq := getisSceenCoverReq report.reads.sceenCoverRequired }
    if watchdog.isSceenCoverReq then
      let watchdog :=
        { watchdog with appLaunchRetryCountre := watchdog.appLaunchRetryCountre + 1 }
      if 5 < watchdog.appLaunchRetryCountre then
        ⟨{ watchdog with
            waitingSceen := watchdog.waitingSceen.showErrorPage unableToStart },
          [.showErrorPage unableToStart]⟩
      else
        Handled.andThen
          ⟨{ watchdog with waitingSceen := watchdog.waitingSceen.showPAge },
            [.showPAge watchdog.appLaunchRetryCountre]⟩
          (restartProctortrack platform report.now)
    else restartProctortrack platform report.now watchdog
  else quitWatchDog watchdog

def onAppCrash (platform : Platform) (report : Report) (watchdog : ProctoringWatchDog) :
    Handled :=
  (countReport platform report watchdog).andThen fun watchdog =>
    if report.isRunning then appFound watchdog else appMissing platform report watchdog

/-- Reads that all find the same history file and the same status file. -/
def ReportReads.of (history status : ReadOutcome) : ReportReads where
  threadHistoryPath := history
  statusFlag := fun _ => status
  statusObject := fun _ => status
  statusRewritten := fun _ => true
  appCurrentStepAgain := history
  appDataPath := history
  appLocation := history
  appCurrentStep := history
  launchInAllConditions := history
  sceenCoverRequired := history

/-- The state after one report. -/
def reportStep (platform : Platform) (watchdog : ProctoringWatchDog) (report : Report) :
    ProctoringWatchDog :=
  (onAppCrash platform report watchdog).watchdog

/-- The state after a list of reports. -/
abbrev runReports (platform : Platform) (watchdog : ProctoringWatchDog)
    (reports : List Report) : ProctoringWatchDog :=
  EventRun.run (reportStep platform) watchdog reports

/-! ### Counting reports -/

/-- The report is a seventh one, at which the heartbeat check runs. -/
def ChecksNow (watchdog : ProctoringWatchDog) : Prop := 6 ≤ watchdog.counter

instance (watchdog : ProctoringWatchDog) : Decidable (ChecksNow watchdog) :=
  inferInstanceAs (Decidable (_ ≤ _))

variable (platform : Platform) (report : Report) (watchdog : ProctoringWatchDog)

/-- The object a report counted, before any heartbeat check. -/
def counted (counter : Nat) : ProctoringWatchDog :=
  { watchdog with
    counter := counter
    appDataPath := getAppDataPath report.reads.appDataPath
    appRunningPath := getAppRunningLocation report.reads.appLocation
    step := getAppCurrentStep report.reads.appCurrentStep }

theorem countReport_of_checks (checks : ChecksNow watchdog) :
    countReport platform report watchdog =
      processRecordingThread platform report.now report.reads.toCheckReads
        (counted report watchdog 0) := by
  have reached : 7 ≤ watchdog.counter + 1 := Nat.succ_le_succ checks
  simp only [countReport, reached, ↓reduceIte, counted]

theorem countReport_of_not_checks (quiet : ¬ ChecksNow watchdog) :
    countReport platform report watchdog =
      Handled.pure (counted report watchdog (watchdog.counter + 1)) := by
  have below : ¬ 7 ≤ watchdog.counter + 1 := fun reached => quiet (Nat.le_of_succ_le_succ reached)
  simp only [countReport, below, ↓reduceIte, counted]

/-- Counting a report leaves the retry counter and the screen alone. -/
theorem countReport_frame :
    let after := (countReport platform report watchdog).watchdog
    after.counter = (if ChecksNow watchdog then 0 else watchdog.counter + 1) ∧
      after.appLaunchRetryCountre = watchdog.appLaunchRetryCountre ∧
      after.waitingSceen = watchdog.waitingSceen := by
  by_cases checks : ChecksNow watchdog
  · rw [countReport_of_checks platform report watchdog checks]
    simp only [checks, ↓reduceIte]
    exact processRecordingThread_frame platform report.now (counted report watchdog 0)
  · rw [countReport_of_not_checks platform report watchdog checks]
    simp only [checks, ↓reduceIte, Handled.pure_watchdog, counted, and_self]

/-- The read of the step by which the report is judged: the one the check made
again, if it ran and did not find the flag true. -/
def decidingRead : ReadOutcome :=
  if ChecksNow watchdog ∧ report.reads.flag = false then report.reads.appCurrentStepAgain
  else report.reads.appCurrentStep

/-- The step by which the report is judged. -/
def decidingStep : String := getAppCurrentStep (decidingRead report watchdog)

theorem countReport_step :
    (countReport platform report watchdog).watchdog.step = decidingStep report watchdog := by
  by_cases checks : ChecksNow watchdog
  · rw [countReport_of_checks platform report watchdog checks, processRecordingThread_step,
      decidingStep, decidingRead]
    cases alive : report.reads.flag <;> simp [checks, counted]
  · rw [countReport_of_not_checks platform report watchdog checks, decidingStep, decidingRead]
    simp only [checks, false_and, ↓reduceIte, Handled.pure_watchdog, counted]

/-- The heartbeat check of a report calls `RestartProctortrack`. -/
def CheckRestarts : Prop := ChecksNow watchdog ∧ report.reads.Broken

instance : Decidable (CheckRestarts report watchdog) := inferInstanceAs (Decidable (_ ∧ _))

theorem countReport_restarts :
    (countReport platform report watchdog).does Effect.isRestart =
      decide (CheckRestarts report watchdog) := by
  by_cases checks : ChecksNow watchdog
  · rw [countReport_of_checks platform report watchdog checks, processRecordingThread_restarts]
    simp only [CheckRestarts, checks, true_and]
  · rw [countReport_of_not_checks platform report watchdog checks]
    simp only [CheckRestarts, checks, false_and, decide_false, Handled.pure_does]

theorem countReport_checks :
    (countReport platform report watchdog).does Effect.isCheck = decide (ChecksNow watchdog) := by
  by_cases checks : ChecksNow watchdog
  · rw [countReport_of_checks platform report watchdog checks]
    simp only [processRecordingThread, Handled.andThen_does, checks, decide_true]
    rfl
  · rw [countReport_of_not_checks platform report watchdog checks, Handled.pure_does]
    simp only [checks, decide_false]

/-- Counting a report never quits, shows a page or does anything of another kind
than checking, rewriting the status file and restarting. -/
theorem countReport_does_of_not {kind : Effect → Bool}
    (notCheck : kind .processRecordingThread = false)
    (notRewrite : ∀ path object, kind (.rewriteStatus path object) = false)
    (notRestart : kind .restartProctortrack = false)
    (notSchedule : ∀ delay slot, kind (.singleShot delay slot) = false) :
    (countReport platform report watchdog).does kind = false := by
  by_cases checks : ChecksNow watchdog
  · rw [countReport_of_checks platform report watchdog checks]
    exact processRecordingThread_does_of_not _ _ _ notCheck notRewrite notRestart notSchedule
  · rw [countReport_of_not_checks platform report watchdog checks, Handled.pure_does]

/-! ### The missing application -/

/-- The reads of a report by which a missing application keeps the watchdog on. -/
def Keeps (step : String) : Prop :=
  step = "STEP2" ∨ step = "STEP3" ∨
    getisAnyStepWatchdog report.reads.launchInAllConditions = true

instance (step : String) : Decidable (Keeps report step) := inferInstanceAs (Decidable (_ ∨ _ ∨ _))

/-- The report reads that the screen is to be covered. -/
def Covers : Prop := getisSceenCoverReq report.reads.sceenCoverRequired = true

instance : Decidable (Covers report) := inferInstanceAs (Decidable (_ = _))

/-- The object once the branch for a missing application has read the reasons to
go on. -/
def judged : ProctoringWatchDog :=
  { watchdog with
    isAnyStepWatchdog := getisAnyStepWatchdog report.reads.launchInAllConditions
    visible := false }

/-- The object once the branch has read whether to cover the screen and counted
the retry. -/
def covered : ProctoringWatchDog :=
  { judged report watchdog with
    isSceenCoverReq := true
    appLaunchRetryCountre := watchdog.appLaunchRetryCountre + 1 }

/-- The four things a report of a missing application can lead to: quitting,
restarting without a cover, giving up, and restarting behind the cover. -/
theorem appMissing_cases :
    (¬ Keeps report watchdog.step ∧
      appMissing platform report watchdog = quitWatchDog (judged report watchdog)) ∨
    (Keeps report watchdog.step ∧ ¬ Covers report ∧
      appMissing platform report watchdog = restartProctortrack platform report.now
        { judged report watchdog with isSceenCoverReq := false }) ∨
    (Keeps report watchdog.step ∧ Covers report ∧ 5 ≤ watchdog.appLaunchRetryCountre ∧
      appMissing platform report watchdog =
        ⟨{ covered report watchdog with
            waitingSceen := watchdog.waitingSceen.showErrorPage unableToStart },
          [.showErrorPage unableToStart]⟩) ∨
    (Keeps report watchdog.step ∧ Covers report ∧ ¬ 5 ≤ watchdog.appLaunchRetryCountre ∧
      appMissing platform report watchdog = Handled.andThen
        ⟨{ covered report watchdog with waitingSceen := watchdog.waitingSceen.showPAge },
          [.showPAge (watchdog.appLaunchRetryCountre + 1)]⟩
        (restartProctortrack platform report.now)) := by
  by_cases keeps : Keeps report watchdog.step
  · have goesOn := keeps
    simp only [Keeps] at goesOn
    by_cases covers : Covers report
    · have required := covers
      simp only [Covers] at required
      have counts : 5 < watchdog.appLaunchRetryCountre + 1 ↔
          5 ≤ watchdog.appLaunchRetryCountre := Nat.lt_succ_iff
      by_cases spent : 5 ≤ watchdog.appLaunchRetryCountre
      · refine Or.inr (Or.inr (Or.inl ⟨keeps, covers, spent, ?_⟩))
        simp only [appMissing, mustRun, goesOn, decide_true, required, counts, spent, ↓reduceIte,
          covered, judged]
      · refine Or.inr (Or.inr (Or.inr ⟨keeps, covers, spent, ?_⟩))
        simp only [appMissing, mustRun, goesOn, decide_true, required, counts, spent, ↓reduceIte,
          covered, judged]
    · have notRequired := Bool.eq_false_iff.mpr covers
      refine Or.inr (Or.inl ⟨keeps, covers, ?_⟩)
      simp only [appMissing, mustRun, goesOn, decide_true, notRequired, ↓reduceIte,
        Bool.false_eq_true, judged]
  · have stops := keeps
    simp only [Keeps] at stops
    refine Or.inl ⟨keeps, ?_⟩
    simp only [appMissing, mustRun, stops, decide_false, Bool.false_eq_true, ↓reduceIte, judged]

/-- The branch does nothing but quit, show a page and restart: no effect of another kind. -/
theorem appMissing_does_of_not {kind : Effect → Bool} (notQuit : kind .quitWatchDog = false)
    (notPage : ∀ retry, kind (.showPAge retry) = false)
    (notErrorPage : ∀ message, kind (.showErrorPage message) = false)
    (notRestart : kind .restartProctortrack = false)
    (notSchedule : ∀ delay slot, kind (.singleShot delay slot) = false) :
    (appMissing platform report watchdog).does kind = false := by
  rcases appMissing_cases platform report watchdog with
    ⟨_, same⟩ | ⟨_, _, same⟩ | ⟨_, _, _, same⟩ | ⟨_, _, _, same⟩
  · simp [same, quitWatchDog, Handled.does, notQuit]
  · rw [same, restartProctortrack_does_of_not _ _ _ notRestart notSchedule]
  · simp [same, Handled.does, notErrorPage]
  · rw [same, Handled.andThen_does,
      restartProctortrack_does_of_not _ _ _ notRestart notSchedule]
    simp [Handled.does, notPage]

/-- A missing application makes the watchdog quit exactly when no read keeps it on. -/
theorem appMissing_quits :
    (appMissing platform report watchdog).does Effect.isQuit =
      decide (¬ Keeps report watchdog.step) := by
  rcases appMissing_cases platform report watchdog with
    ⟨keeps, same⟩ | ⟨keeps, covers, same⟩ | ⟨keeps, covers, spent, same⟩ |
      ⟨keeps, covers, spent, same⟩
  · rw [same]
    simp only [keeps, not_false_eq_true, decide_true]
    rfl
  · rw [same]
    simp only [keeps, not_true_eq_false, decide_false, restartProctortrack_quits]
  · rw [same]
    simp only [keeps, not_true_eq_false, decide_false]
    rfl
  · rw [same]
    simp only [keeps, not_true_eq_false, decide_false, Handled.andThen_does,
      restartProctortrack_quits, Bool.or_false]
    rfl

/-- The error page is shown exactly at a covered report past the fifth retry. -/
theorem appMissing_errorPage :
    (appMissing platform report watchdog).does Effect.isErrorPage =
      decide (Keeps report watchdog.step ∧ Covers report ∧
        5 ≤ watchdog.appLaunchRetryCountre) := by
  rcases appMissing_cases platform report watchdog with
    ⟨keeps, same⟩ | ⟨keeps, covers, same⟩ | ⟨keeps, covers, spent, same⟩ |
      ⟨keeps, covers, spent, same⟩
  · rw [same]
    simp only [keeps, false_and, decide_false]
    rfl
  · rw [same]
    simp only [covers, false_and, and_false, decide_false, restartProctortrack_errorPage]
  · rw [same]
    simp only [keeps, covers, spent, and_self, decide_true]
    rfl
  · rw [same]
    simp only [spent, and_false, decide_false, Handled.andThen_does,
      restartProctortrack_errorPage, Bool.or_false]
    rfl

/-- The retry counter counts the covered reports. -/
theorem appMissing_retries :
    (appMissing platform report watchdog).watchdog.appLaunchRetryCountre =
      if Keeps report watchdog.step ∧ Covers report then watchdog.appLaunchRetryCountre + 1
      else watchdog.appLaunchRetryCountre := by
  rcases appMissing_cases platform report watchdog with
    ⟨keeps, same⟩ | ⟨keeps, covers, same⟩ | ⟨keeps, covers, _, same⟩ | ⟨keeps, covers, _, same⟩
  · rw [same]
    simp only [keeps, false_and, ↓reduceIte]
    rfl
  · rw [same]
    simp only [covers, and_false, ↓reduceIte, restartProctortrack_watchdog]
    rfl
  · rw [same]
    simp only [keeps, covers, and_self, ↓reduceIte]
    rfl
  · rw [same]
    simp only [keeps, covers, and_self, ↓reduceIte, Handled.andThen_watchdog,
      restartProctortrack_watchdog]
    rfl

/-- The branch never touches the report counter. -/
theorem appMissing_counter :
    (appMissing platform report watchdog).watchdog.counter = watchdog.counter := by
  rcases appMissing_cases platform report watchdog with
    ⟨_, same⟩ | ⟨_, _, same⟩ | ⟨_, _, _, same⟩ | ⟨_, _, _, same⟩
  · rw [same]
    rfl
  · rw [same, restartProctortrack_watchdog]
    rfl
  · rw [same]
    rfl
  · rw [same, Handled.andThen_watchdog, restartProctortrack_watchdog]
    rfl

/-! ### A whole report -/

/-- The report counter runs from zero to six and wraps at each heartbeat check. -/
theorem reportStep_counter :
    (reportStep platform watchdog report).counter =
      if ChecksNow watchdog then 0 else watchdog.counter + 1 := by
  rw [← (countReport_frame platform report watchdog).1, reportStep, onAppCrash,
    Handled.andThen_watchdog]
  split
  · rfl
  · exact appMissing_counter ..

/-- The heartbeat check runs exactly at the seventh reports. -/
theorem onAppCrash_checks :
    (onAppCrash platform report watchdog).does Effect.isCheck = decide (ChecksNow watchdog) := by
  rw [onAppCrash, Handled.andThen_does, countReport_checks]
  split
  · simp only [appFound, Handled.pure_does, Bool.or_false]
  · rw [appMissing_does_of_not _ _ _ rfl (fun _ => rfl) (fun _ => rfl) rfl (fun _ _ => rfl),
      Bool.or_false]

/-- The watchdog quits exactly at a report of a missing application whose deciding
reads give no reason to go on. -/
theorem onAppCrash_quits :
    (onAppCrash platform report watchdog).does Effect.isQuit =
      decide (report.isRunning = false ∧ ¬ Keeps report (decidingStep report watchdog)) := by
  rw [onAppCrash, Handled.andThen_does,
    countReport_does_of_not _ _ _ rfl (fun _ _ => rfl) rfl (fun _ _ => rfl), Bool.false_or]
  cases running : report.isRunning with
  | true => simp only [↓reduceIte, Bool.true_eq_false, false_and, decide_false]; rfl
  | false =>
      simp only [Bool.false_eq_true, ↓reduceIte, appMissing_quits, countReport_step, true_and]

/-- The error page is shown exactly at a covered report of a missing application
past the fifth retry. -/
theorem onAppCrash_errorPage :
    (onAppCrash platform report watchdog).does Effect.isErrorPage =
      decide (report.isRunning = false ∧ Keeps report (decidingStep report watchdog) ∧
        Covers report ∧ 5 ≤ watchdog.appLaunchRetryCountre) := by
  rw [onAppCrash, Handled.andThen_does,
    countReport_does_of_not _ _ _ rfl (fun _ _ => rfl) rfl (fun _ _ => rfl), Bool.false_or]
  cases running : report.isRunning with
  | true => simp only [↓reduceIte, Bool.true_eq_false, false_and, decide_false]; rfl
  | false =>
      simp only [Bool.false_eq_true, ↓reduceIte, appMissing_errorPage, countReport_step, true_and,
        (countReport_frame platform report watchdog).2.1]

end WatchDog
