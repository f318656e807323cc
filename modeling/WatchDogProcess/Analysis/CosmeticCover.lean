import WatchDogProcess.Watchdog.Absence
import WatchDogProcess.Watchdog.Monitored
import WatchDogProcess.Watchdog.Scheduling

/-! # The cover is cosmetic until the retry limit

Two monitored runs see the same reports and the same writes of the application,
and differ in what each report reads about the cover. Their retry counters and
screens differ, but neither counter can pass five within five consecutive reports
of a missing application (`WatchDog.trying_of_short`), and below that a report
asks the counter nothing. So whatever drives restarts stays equal
(`WatchDog.SameCourse`), and with it every restart, every quit and the status
file (`WatchDog.cover_is_cosmetic`).
-/

namespace WatchDog

open KeyedRecord EventRun

/-- Two reports alike in all that matters but the cover. -/
structure SameButCover (report other : Report) : Prop where
  now : report.now = other.now
  isRunning : report.isRunning = other.isRunning
  step : getAppCurrentStep report.reads.appCurrentStep =
    getAppCurrentStep other.reads.appCurrentStep
  stepAgain : getAppCurrentStep report.reads.appCurrentStepAgain =
    getAppCurrentStep other.reads.appCurrentStepAgain
  launch : getisAnyStepWatchdog report.reads.launchInAllConditions =
    getisAnyStepWatchdog other.reads.launchInAllConditions
  historyPath : getThreadHistoryPath report.reads.threadHistoryPath =
    getThreadHistoryPath other.reads.threadHistoryPath

/-- The same write of the application, or reports alike but for the cover. -/
inductive SameEvent : MonitorEvent → MonitorEvent → Prop where
  | appWrites (path : String) (keys : QJsonObject) :
      SameEvent (.appWrites path keys) (.appWrites path keys)
  | report {report other : Report} (same : SameButCover report other) :
      SameEvent (.report report) (.report other)

/-- The timers an event starts, and whether the watchdog quits at it. -/
def outcome (platform : Platform) (monitored : Monitored) : MonitorEvent → List Timer × Bool
  | .appWrites _ _ => ([], false)
  | .report report =>
      let handled := onAppCrash platform (report.on monitored.disk) monitored.watchdog
      (timersOf report.now handled.effects, handled.does Effect.isQuit)

/-- Equal in all that drives restarts. -/
structure SameCourse (monitored other : Monitored) : Prop where
  counter : monitored.watchdog.counter = other.watchdog.counter
  isFirst : monitored.watchdog.isFirst = other.watchdog.isFirst
  stopwatch : monitored.watchdog.waitForAppToLaunch = other.watchdog.waitForAppToLaunch
  disk : monitored.disk = other.disk

/-- The retries are not exhausted at a report of a missing application. -/
def Trying (monitored : Monitored) : MonitorEvent → Prop
  | .appWrites _ _ => True
  | .report report => report.isRunning = false → monitored.watchdog.appLaunchRetryCountre < 5

/-- The reports of a run, without the application's writes. -/
def reportsOf (events : List MonitorEvent) : List Report :=
  events.filterMap fun event => match event with
    | .appWrites _ _ => none
    | .report report => some report

/-! ### One step of both runs -/

section Step

variable {monitored other : Monitored} {report otherReport : Report}

theorem SameCourse.checksNow (same : SameCourse monitored other) :
    ChecksNow monitored.watchdog ↔ ChecksNow other.watchdog := by
  unfold ChecksNow
  rw [same.counter]

/-- The checks of two alike reports find the same flag. -/
theorem SameCourse.flag (same : SameCourse monitored other)
    (alike : SameButCover report otherReport) :
    (report.on monitored.disk).reads.flag = (otherReport.on other.disk).reads.flag := by
  rw [Report.on_flag, Report.on_flag, same.disk, alike.historyPath]

/-- Two alike reports are judged by the same step. -/
theorem SameCourse.decidingStep (same : SameCourse monitored other)
    (alike : SameButCover report otherReport) :
    decidingStep (report.on monitored.disk) monitored.watchdog =
      decidingStep (otherReport.on other.disk) other.watchdog := by
  unfold WatchDog.decidingStep decidingRead
  rw [same.flag alike]
  simp only [same.checksNow]
  split
  · exact alike.stepAgain
  · exact alike.step

/-- Two alike reports have the same reasons to go on. -/
theorem SameCourse.keeps (same : SameCourse monitored other)
    (alike : SameButCover report otherReport) :
    Keeps (report.on monitored.disk) (WatchDog.decidingStep (report.on monitored.disk)
        monitored.watchdog) ↔
      Keeps (otherReport.on other.disk) (WatchDog.decidingStep (otherReport.on other.disk)
        other.watchdog) := by
  rw [same.decidingStep alike]
  unfold Keeps
  change _ ∨ _ ∨ getisAnyStepWatchdog report.reads.launchInAllConditions = true ↔ _
  rw [alike.launch]
  exact Iff.rfl

theorem SameCourse.checkRestarts (same : SameCourse monitored other)
    (alike : SameButCover report otherReport) :
    CheckRestarts (report.on monitored.disk) monitored.watchdog ↔
      CheckRestarts (otherReport.on other.disk) other.watchdog := by
  unfold CheckRestarts CheckReads.Broken
  rw [same.checksNow, same.flag alike]
  change _ ∧ _ ∧ getAppCurrentStep report.reads.appCurrentStepAgain = "STEP2" ↔ _
  rw [alike.stepAgain]
  exact Iff.rfl

/-- Below the limit the cover has no part in whether a report calls
`RestartProctortrack`. -/
theorem callsRestart_of_trying (trying : Trying monitored (.report report)) :
    CallsRestart (report.on monitored.disk) monitored.watchdog ↔
      CheckRestarts (report.on monitored.disk) monitored.watchdog ∨
        report.isRunning = false ∧ Keeps (report.on monitored.disk)
          (WatchDog.decidingStep (report.on monitored.disk) monitored.watchdog) := by
  unfold CallsRestart
  apply or_congr_right
  apply and_congr_right
  intro missing
  have few := trying missing
  have goesOn : ¬ (Covers (report.on monitored.disk) ∧
      5 ≤ monitored.watchdog.appLaunchRetryCountre) := fun spent => by omega
  simp only [goesOn, not_false_eq_true, and_true]

variable (platform : Platform)

theorem SameCourse.callsRestart (same : SameCourse monitored other)
    (alike : SameButCover report otherReport) (trying : Trying monitored (.report report))
    (otherTrying : Trying other (.report otherReport)) :
    CallsRestart (report.on monitored.disk) monitored.watchdog ↔
      CallsRestart (otherReport.on other.disk) other.watchdog := by
  rw [callsRestart_of_trying trying, callsRestart_of_trying otherTrying,
    same.checkRestarts alike, same.keeps alike, alike.isRunning]

/-- Alike reports keep the course the same and have the same outcome. -/
theorem sameCourse_report (same : SameCourse monitored other)
    (alike : SameButCover report otherReport) (trying : Trying monitored (.report report))
    (otherTrying : Trying other (.report otherReport)) :
    SameCourse (monitorStep platform monitored (.report report))
        (monitorStep platform other (.report otherReport)) ∧
      outcome platform monitored (.report report) =
        outcome platform other (.report otherReport) := by
  have restarts := onAppCrash_restartsWhen platform (report.on monitored.disk) monitored.watchdog
  have otherRestarts :=
    onAppCrash_restartsWhen platform (otherReport.on other.disk) other.watchdog
  change RestartsWhen platform report.now _ _ _ at restarts
  change RestartsWhen platform otherReport.now _ _ _ at otherRestarts
  rw [alike.now] at restarts
  obtain ⟨isFirst, stopwatch, timers⟩ := restarts.agree otherRestarts same.isFirst same.stopwatch
    (same.callsRestart alike trying otherTrying)
  refine ⟨⟨?_, isFirst, stopwatch, ?_⟩, Prod.ext ?_ ?_⟩
  · change (reportStep platform _ _).counter = (reportStep platform _ _).counter
    rw [reportStep_counter, reportStep_counter]
    simp only [same.checksNow, same.counter]
  · rw [monitorStep_report_disk, monitorStep_report_disk]
    simp only [same.checksNow, same.disk, alike.historyPath]
  · simp only [outcome, alike.now, timers]
  · simp only [outcome, onAppCrash_quits, decide_eq_decide]
    apply and_congr
    · rw [← Bool.not_eq_true, ← Bool.not_eq_true]
      exact not_congr (iff_of_eq (congrArg (· = true) alike.isRunning))
    · exact not_congr (same.keeps alike)

/-- One event of both runs. -/
theorem sameCourse_step {event otherEvent : MonitorEvent} (same : SameCourse monitored other)
    (alike : SameEvent event otherEvent) (trying : Trying monitored event)
    (otherTrying : Trying other otherEvent) :
    SameCourse (monitorStep platform monitored event) (monitorStep platform other otherEvent) ∧
      outcome platform monitored event = outcome platform other otherEvent := by
  cases alike with
  | appWrites path keys =>
      refine ⟨{ same with disk := ?_ }, rfl⟩
      simp only [monitorStep, same.disk]
  | report alike => exact sameCourse_report platform same alike trying otherTrying

end Step

/-! ### The retry limit -/

theorem reportsOf_append (first second : List MonitorEvent) :
    reportsOf (first ++ second) = reportsOf first ++ reportsOf second :=
  List.filterMap_append

/-- The retry counter stays within the length of the current absence. -/
theorem monitored_retries_le (platform : Platform) {start : Monitored}
    (fresh : start.watchdog.appLaunchRetryCountre = 0) (events : List MonitorEvent) :
    (run (monitorStep platform) start events).watchdog.appLaunchRetryCountre ≤
      (sinceRunning (reportsOf events)).length := by
  induction events using List.reverseRecOn with
  | nil => exact fresh.le
  | append_singleton events event ih =>
      rw [run_concat, reportsOf_append]
      cases event with
      | appWrites path keys =>
          rw [show reportsOf [.appWrites path keys] = [] from rfl, List.append_nil]
          exact ih
      | report report => exact retries_le_step platform ih rfl

/-- Without six reports of a missing application in a row, the retries are never
exhausted at such a report. -/
theorem trying_of_short (platform : Platform) {start : Monitored}
    (fresh : start.watchdog.appLaunchRetryCountre = 0) {events : List MonitorEvent}
    (short : ¬ List.replicate 6 false <:+: (reportsOf events).map Report.isRunning) :
    Always (monitorStep platform) Trying start events := by
  rw [always_iff_split]
  intro before event after split
  cases event with
  | appWrites path keys => trivial
  | report report =>
      intro missing
      apply Nat.lt_of_le_of_lt (monitored_retries_le platform fresh before)
      by_contra long
      apply short
      have begins : reportsOf before ++ [report] <+: reportsOf events := by
        rw [split, reportsOf_append]
        exact ⟨reportsOf after, List.append_assoc ..⟩
      apply replicate_infix_of_absence begins
      rw [sinceRunning_concat_of_missing _ missing, List.length_append, List.length_singleton]
      omega

theorem flags_of_matched {events others : List MonitorEvent}
    (matched : List.Forall₂ SameEvent events others) :
    (reportsOf events).map Report.isRunning = (reportsOf others).map Report.isRunning := by
  induction matched with
  | nil => rfl
  | cons alike _ ih =>
      cases alike with
      | appWrites path keys => exact ih
      | report alike => exact congrArg₂ List.cons alike.isRunning ih

/-- **The cover is cosmetic.** Two runs from the initial state over the same
reports and heartbeat writes, with arbitrary reads of the cover: as long as the
application is not missing at six reports in a row, the runs start the same
timers at the same times and quit at the same reports, and leave the same report
counter, first-call flag, stopwatch and status file. -/
theorem cover_is_cosmetic (platform : Platform) (began : Nat) (initial : ConstructorReads)
    (disk : String → FileState) {events others : List MonitorEvent}
    (matched : List.Forall₂ SameEvent events others)
    (short : ¬ List.replicate 6 false <:+: (reportsOf events).map Report.isRunning) :
    let start := Monitored.start began initial disk
    let monitored := run (monitorStep platform) start events
    let other := run (monitorStep platform) start others
    trace (monitorStep platform) (outcome platform) start events =
        trace (monitorStep platform) (outcome platform) start others ∧
      monitored.watchdog.counter = other.watchdog.counter ∧
      monitored.watchdog.isFirst = other.watchdog.isFirst ∧
      monitored.watchdog.waitForAppToLaunch = other.watchdog.waitForAppToLaunch ∧
      monitored.disk = other.disk := by
  intro start monitored other
  have trying : Always (monitorStep platform) Trying start events :=
    trying_of_short platform rfl short
  have otherTrying : Always (monitorStep platform) Trying start others :=
    trying_of_short platform rfl (flags_of_matched matched ▸ short)
  have initially : SameCourse start start := ⟨rfl, rfl, rfl, rfl⟩
  have kept : ∀ monitored other event otherEvent, SameCourse monitored other →
      SameEvent event otherEvent → Trying monitored event → Trying other otherEvent →
        SameCourse (monitorStep platform monitored event)
            (monitorStep platform other otherEvent) ∧
          outcome platform monitored event = outcome platform other otherEvent :=
    fun _ _ _ _ same alike trying otherTrying =>
      sameCourse_step platform same alike trying otherTrying
  obtain ⟨ends, same⟩ := related_run kept initially matched trying otherTrying
  exact ⟨same, ends.counter, ends.isFirst, ends.stopwatch, ends.disk⟩

/-- The report of `downAt`, with the history file gone when the cover is read. -/
def uncoveredAt (now : Nat) : Report where
  now := now
  isRunning := false
  reads := { (downAt now).reads with sceenCoverRequired := .missing }

theorem sameButCover_uncoveredAt (now : Nat) : SameButCover (downAt now) (uncoveredAt now) :=
  ⟨rfl, rfl, rfl, rfl, rfl, rfl⟩

/-- Two reports of a missing application, once covered and once not: the same
restart is scheduled. -/
theorem cover_is_cosmetic_two :
    trace (monitorStep .windows) (outcome .windows)
        (.start 0 ⟨.missing, .missing, .missing⟩ fun _ => .missing)
        [.report (downAt 10000), .report (downAt 20000)] =
      trace (monitorStep .windows) (outcome .windows)
        (.start 0 ⟨.missing, .missing, .missing⟩ fun _ => .missing)
        [.report (uncoveredAt 10000), .report (uncoveredAt 20000)] :=
  (cover_is_cosmetic .windows 0 ⟨.missing, .missing, .missing⟩ (fun _ => .missing)
    (.cons (.report (sameButCover_uncoveredAt 10000))
      (.cons (.report (sameButCover_uncoveredAt 20000)) .nil)) (by decide)).1

end WatchDog
