import WatchDogProcess.Watchdog.Report
import Mathlib.Data.List.DropRight

/-! # A missing application, as a function of the reports

The reports since the application was last found running are a suffix of the
reports handled (`WatchDog.sinceRunning`). A report keeps the retry counter within
the length of that suffix (`WatchDog.retries_le_step`), and as long as the
watchdog does not quit it is the number of the covered reports in it
(`WatchDog.retries_eq_coveredAbsences`). The screen changes with the report by
one rule (`WatchDog.reportStep_screen`).
-/

namespace WatchDog

open KeyedRecord EventRun

/-- The reports after the last one that found the application running, all of
them if there was none. -/
def sinceRunning (reports : List Report) : List Report :=
  reports.rtakeWhile fun report => !report.isRunning

/-- The number of reports since then that read the cover as required. -/
def coveredAbsences (reports : List Report) : Nat :=
  (sinceRunning reports).countP fun report => Covers report

/-- The report makes the watchdog quit. -/
def Quits (platform : Platform) (watchdog : ProctoringWatchDog) (report : Report) : Prop :=
  (onAppCrash platform report watchdog).does Effect.isQuit = true

instance (platform : Platform) (watchdog : ProctoringWatchDog) (report : Report) :
    Decidable (Quits platform watchdog report) :=
  inferInstanceAs (Decidable (_ = _))

section Reports

variable {report : Report} (reports : List Report)

theorem sinceRunning_concat_of_running (running : report.isRunning = true) :
    sinceRunning (reports ++ [report]) = [] := by
  apply List.rtakeWhile_concat_neg
  simp only [running, Bool.not_true, Bool.false_eq_true, not_false_eq_true]

theorem sinceRunning_concat_of_missing (missing : report.isRunning = false) :
    sinceRunning (reports ++ [report]) = sinceRunning reports ++ [report] := by
  apply List.rtakeWhile_concat_pos
  simp only [missing, Bool.not_false]

/-- None of these reports found the application running. -/
theorem missing_of_mem_sinceRunning (member : report ∈ sinceRunning reports) :
    report.isRunning = false := by
  have missing := List.mem_rtakeWhile_imp member
  rwa [Bool.not_eq_true'] at missing

/-- An absence is that many reports in a row of a missing application, in every run
that goes on from it. -/
theorem replicate_infix_of_absence {count : Nat} {reports all : List Report}
    (begins : reports <+: all) (long : count ≤ (sinceRunning reports).length) :
    List.replicate count false <:+: all.map Report.isRunning := by
  have flags : (sinceRunning reports).map Report.isRunning =
      List.replicate (sinceRunning reports).length false :=
    List.map_eq_replicate_iff.mpr fun _ member => missing_of_mem_sinceRunning reports member
  have absence : sinceRunning reports <:+: all :=
    (List.rtakeWhile_suffix _ reports).isInfix.trans begins.isInfix
  have part : List.replicate count false <:+: (sinceRunning reports).map Report.isRunning := by
    rw [flags, List.infix_replicate_iff, List.length_replicate]
    exact ⟨long, rfl⟩
  exact part.trans (absence.map Report.isRunning)

@[simp] theorem coveredAbsences_nil : coveredAbsences [] = 0 := rfl

theorem coveredAbsences_concat_of_running (running : report.isRunning = true) :
    coveredAbsences (reports ++ [report]) = 0 := by
  rw [coveredAbsences, sinceRunning_concat_of_running reports running, List.countP_nil]

theorem coveredAbsences_concat_of_missing (missing : report.isRunning = false) :
    coveredAbsences (reports ++ [report]) =
      if Covers report then coveredAbsences reports + 1 else coveredAbsences reports := by
  rw [coveredAbsences, sinceRunning_concat_of_missing reports missing, List.countP_append,
    List.countP_singleton]
  simp only [decide_eq_true_eq]
  split <;> rfl

end Reports

/-! ### One report -/

variable (platform : Platform) {watchdog : ProctoringWatchDog} {report : Report}

/-- A running application clears the retry counter. -/
theorem reportStep_retries_of_running (running : report.isRunning = true) :
    (reportStep platform watchdog report).appLaunchRetryCountre = 0 := by
  simp only [reportStep, onAppCrash, Handled.andThen_watchdog, running, ↓reduceIte, appFound,
    Handled.pure_watchdog]

/-- A missing application raises the counter when its report is covered. -/
theorem reportStep_retries_of_missing (missing : report.isRunning = false) :
    (reportStep platform watchdog report).appLaunchRetryCountre =
      if Keeps report (decidingStep report watchdog) ∧ Covers report then
        watchdog.appLaunchRetryCountre + 1
      else watchdog.appLaunchRetryCountre := by
  simp only [reportStep, onAppCrash, Handled.andThen_watchdog, missing, Bool.false_eq_true,
    ↓reduceIte, appMissing_retries, countReport_step,
    (countReport_frame platform report watchdog).2.1]

theorem not_quits_iff : ¬ Quits platform watchdog report ↔
    (report.isRunning = false → Keeps report (decidingStep report watchdog)) := by
  rw [Quits, onAppCrash_quits, decide_eq_true_eq, not_and, not_not]

/-- What a missing application does to the screen. -/
theorem appMissing_screen :
    (appMissing platform report watchdog).watchdog.waitingSceen =
      if Keeps report watchdog.step then
        if Covers report then
          if 5 ≤ watchdog.appLaunchRetryCountre then
            watchdog.waitingSceen.showErrorPage unableToStart
          else watchdog.waitingSceen.showPAge
        else watchdog.waitingSceen
      else watchdog.waitingSceen.hide := by
  rcases appMissing_cases platform report watchdog with
    ⟨keeps, same⟩ | ⟨keeps, covers, same⟩ | ⟨keeps, covers, spent, same⟩ |
      ⟨keeps, covers, spent, same⟩
  · rw [same]
    simp only [keeps, ↓reduceIte]
    rfl
  · rw [same]
    simp only [keeps, covers, ↓reduceIte, restartProctortrack_watchdog]
    rfl
  · rw [same]
    simp only [keeps, covers, spent, ↓reduceIte]
  · rw [same]
    simp only [keeps, covers, spent, ↓reduceIte, Handled.andThen_watchdog,
      restartProctortrack_watchdog]

/-- What a report does to the screen. -/
theorem reportStep_screen :
    (reportStep platform watchdog report).waitingSceen =
      if report.isRunning then watchdog.waitingSceen.hide
      else if Keeps report (decidingStep report watchdog) then
        if Covers report then
          if 5 ≤ watchdog.appLaunchRetryCountre then
            watchdog.waitingSceen.showErrorPage unableToStart
          else watchdog.waitingSceen.showPAge
        else watchdog.waitingSceen
      else watchdog.waitingSceen.hide := by
  obtain ⟨-, retries, screen⟩ := countReport_frame platform report watchdog
  rw [reportStep, onAppCrash, Handled.andThen_watchdog]
  cases running : report.isRunning with
  | true => simp only [↓reduceIte, appFound, Handled.pure_watchdog, screen]
  | false =>
      simp only [Bool.false_eq_true, ↓reduceIte, appMissing_screen, countReport_step, retries,
        screen]

/-! ### The retry counter of a run -/

/-- A report keeps the retry counter within the length of the current absence. -/
theorem retries_le_step {reports : List Report}
    (bounded : watchdog.appLaunchRetryCountre ≤ (sinceRunning reports).length) {seen : Report}
    (same : seen.isRunning = report.isRunning) :
    (reportStep platform watchdog seen).appLaunchRetryCountre ≤
      (sinceRunning (reports ++ [report])).length := by
  cases found : report.isRunning with
  | true =>
      rw [reportStep_retries_of_running platform (same.trans found)]
      exact Nat.zero_le _
  | false =>
      rw [reportStep_retries_of_missing platform (same.trans found),
        sinceRunning_concat_of_missing reports found, List.length_append, List.length_singleton]
      split
      · exact Nat.succ_le_succ bounded
      · exact Nat.le_succ_of_le bounded

/-- As long as the watchdog does not quit, the retry counter counts the covered
reports of the current absence. -/
theorem retries_eq_coveredAbsences {start : ProctoringWatchDog}
    (fresh : start.appLaunchRetryCountre = 0) {reports : List Report}
    (goesOn : Always (reportStep platform) (fun watchdog report => ¬ Quits platform watchdog report)
      start reports) :
    (runReports platform start reports).appLaunchRetryCountre = coveredAbsences reports := by
  induction reports using List.reverseRecOn with
  | nil => exact fresh
  | append_singleton reports report ih =>
      obtain ⟨earlier, last⟩ := (always_append ..).mp goesOn
      rw [runReports, run_concat]
      cases found : report.isRunning with
      | true =>
          rw [reportStep_retries_of_running platform found,
            coveredAbsences_concat_of_running reports found]
      | false =>
          have keeps := (not_quits_iff platform).mp last.1 found
          rw [reportStep_retries_of_missing platform found,
            coveredAbsences_concat_of_missing reports found, ← ih earlier]
          simp only [keeps, true_and]

/-! ### A covered absence -/

/-- A history file in `STEP2` that requires the cover. -/
def coveredVersion : QJsonObject :=
  set (set empty "app_current_step" (.string "STEP2")) "is_sceen_cover_required" (.bool true)

/-- A report of a missing application under that history file, with a status file
that has no flag. -/
def downAt (now : Nat) : Report where
  now := now
  isRunning := false
  reads := .of (.text (some coveredVersion)) (.text (some empty))

/-- The reports of the first minute of an absence, before the error page is shown. -/
def firstMinute : List Report :=
  [downAt 10000, downAt 20000, downAt 30000, downAt 40000, downAt 50000]

end WatchDog
