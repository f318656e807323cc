import WatchDogProcess.Watchdog.Absence
import WatchDogProcess.Watchdog.Scheduling

/-! # Giving up, and the heartbeat check that does not

Past the fifth retry the branch for a missing application shows the error page
and returns before `RestartProctortrack`. The heartbeat check runs earlier in the
same report and does not look at the retry counter, so a seventh report after
giving up still restarts the application (`WatchDog.restarts_after_giving_up`).
That is the only way: while the application stays missing and covered, a report
schedules a kill and a launch exactly when its heartbeat check finds the flag
not true in `STEP2` with a restart due (`WatchDog.onAppCrash_schedules_of_givenUp`),
and giving up is final exactly along the runs on which this never happens
(`WatchDog.giving_up_is_final_iff`).
-/

namespace WatchDog

open KeyedRecord EventRun

/-- The report finds the application missing and the cover required. -/
def StillDown (report : Report) : Prop := report.isRunning = false ∧ Covers report

instance (report : Report) : Decidable (StillDown report) := inferInstanceAs (Decidable (_ ∧ _))

/-- The heartbeat check of a report finds the flag not true in `STEP2` when a
restart is due. -/
def HeartbeatRestarts (platform : Platform) (watchdog : ProctoringWatchDog) (report : Report) :
    Prop :=
  CheckRestarts report watchdog ∧ RestartDue platform report.now watchdog

instance (platform : Platform) (watchdog : ProctoringWatchDog) (report : Report) :
    Decidable (HeartbeatRestarts platform watchdog report) :=
  inferInstanceAs (Decidable (_ ∧ _))

/-- The retries are exhausted. -/
def GivenUp (watchdog : ProctoringWatchDog) : Prop := 5 < watchdog.appLaunchRetryCountre

variable (platform : Platform) {watchdog : ProctoringWatchDog} {report : Report}

/-- A report that shows the error page leaves the retries exhausted. -/
theorem givenUp_of_errorPage
    (shown : (onAppCrash platform report watchdog).does Effect.isErrorPage = true) :
    GivenUp (reportStep platform watchdog report) := by
  rw [onAppCrash_errorPage, decide_eq_true_eq] at shown
  obtain ⟨missing, keeps, covers, spent⟩ := shown
  rw [GivenUp, reportStep_retries_of_missing platform missing]
  simp only [keeps, covers, and_self, ↓reduceIte]
  omega

/-- While the application stays missing the retries stay exhausted. -/
theorem givenUp_step (givenUp : GivenUp watchdog) (down : StillDown report) :
    GivenUp (reportStep platform watchdog report) := by
  rw [GivenUp] at givenUp ⊢
  rw [reportStep_retries_of_missing platform down.1]
  split <;> omega

/-- A report that can call `RestartProctortrack` only in its heartbeat check
schedules a kill and a launch exactly when the check restarts. -/
theorem onAppCrash_schedules_of_check
    (only : CallsRestart report watchdog → CheckRestarts report watchdog) :
    (onAppCrash platform report watchdog).does Effect.isSchedule =
      decide (HeartbeatRestarts platform watchdog report) := by
  rw [(onAppCrash_restartsWhen platform report watchdog).schedules, decide_eq_decide]
  exact and_congr_left' ⟨only, Or.inl⟩

/-- A running application is not restarted but by the heartbeat check. -/
theorem onAppCrash_schedules_of_running (running : report.isRunning = true) :
    (onAppCrash platform report watchdog).does Effect.isSchedule =
      decide (HeartbeatRestarts platform watchdog report) := by
  apply onAppCrash_schedules_of_check platform
  intro calls
  exact calls.resolve_right fun missing => Bool.false_ne_true (missing.1.symm.trans running)

/-- After giving up only the heartbeat check restarts. -/
theorem onAppCrash_schedules_of_givenUp (givenUp : GivenUp watchdog) (down : StillDown report) :
    (onAppCrash platform report watchdog).does Effect.isSchedule =
      decide (HeartbeatRestarts platform watchdog report) := by
  have spent : 5 ≤ watchdog.appLaunchRetryCountre := Nat.le_of_lt givenUp
  apply onAppCrash_schedules_of_check platform
  intro calls
  exact calls.resolve_right fun missing => missing.2.2 ⟨down.2, spent⟩

/-- **When giving up is final.** After a report has shown the error page, while
later reports find the application missing and the cover required, and up to the
next report that finds it running, no report schedules a kill or a launch if and
only if at none of them the heartbeat check finds the flag not true in `STEP2`
when a restart is due. -/
theorem giving_up_is_final_iff (platform : Platform) (began : Nat) (initial : ConstructorReads)
    (before : List Report) (shows : Report) (after : List Report) (last : Report)
    (shown : (onAppCrash platform shows
      (runReports platform (.construct began initial) before)).does Effect.isErrorPage = true)
    (down : ∀ report ∈ after, StillDown report)
    (ends : StillDown last ∨ last.isRunning = true) :
    let givenUp := runReports platform (.construct began initial) (before ++ [shows])
    Always (reportStep platform) (fun watchdog report =>
        (onAppCrash platform report watchdog).does Effect.isSchedule = false)
        givenUp (after ++ [last]) ↔
      Always (reportStep platform) (fun watchdog report =>
        ¬ HeartbeatRestarts platform watchdog report) givenUp (after ++ [last]) := by
  intro givenUp
  have exhausted : GivenUp givenUp := by
    change GivenUp (run (reportStep platform) _ (before ++ [shows]))
    rw [run_concat]
    exact givenUp_of_errorPage platform shown
  have stays : Always (reportStep platform) (fun _ report => StillDown report) givenUp after :=
    always_of_forall _ down
  have agree : ∀ watchdog report, GivenUp watchdog → StillDown report →
      ((onAppCrash platform report watchdog).does Effect.isSchedule = false ↔
        ¬ HeartbeatRestarts platform watchdog report) := by
    intro watchdog report isGivenUp isDown
    rw [onAppCrash_schedules_of_givenUp platform isGivenUp isDown, decide_eq_false_iff_not]
  have keeps : ∀ watchdog report, GivenUp watchdog → StillDown report →
      GivenUp (reportStep platform watchdog report) :=
    fun _ _ isGivenUp isDown => givenUp_step platform isGivenUp isDown
  rw [always_append, always_append, always_congr_of_invariant keeps agree exhausted stays]
  apply and_congr_right
  intro _
  simp only [always_cons, always_nil, and_true]
  rcases ends with isDown | running
  · exact agree _ last (invariant_run keeps exhausted stays) isDown
  · rw [onAppCrash_schedules_of_running platform running, decide_eq_false_iff_not]

/-- The report after the error page is the seventh: its heartbeat check schedules
a kill and a launch. -/
theorem restarts_after_giving_up :
    ¬ ∀ (platform : Platform) (began : Nat) (initial : ConstructorReads)
      (before : List Report) (shows : Report) (after : List Report),
      (onAppCrash platform shows
        (runReports platform (.construct began initial) before)).does Effect.isErrorPage = true →
      (∀ report ∈ after, StillDown report) →
      Always (reportStep platform) (fun watchdog report =>
          (onAppCrash platform report watchdog).does Effect.isSchedule = false)
        (runReports platform (.construct began initial) (before ++ [shows])) after := by
  intro final
  have quiet := final .windows 0 ⟨.missing, .missing, .missing⟩ firstMinute (downAt 60000)
    [downAt 70000] (by decide) (by decide)
  exact absurd quiet (by decide)

/-- The report that restarts after the error page is a heartbeat check with a
restart due; the condition fails there as the property does. -/
theorem giving_up_is_final_iff_firstMinute :
    let givenUp := runReports .windows (.construct 0 ⟨.missing, .missing, .missing⟩)
      (firstMinute ++ [downAt 60000])
    Always (reportStep .windows) (fun watchdog report =>
        (onAppCrash .windows report watchdog).does Effect.isSchedule = false)
        givenUp ([] ++ [downAt 70000]) ↔
      Always (reportStep .windows) (fun watchdog report =>
        ¬ HeartbeatRestarts .windows watchdog report) givenUp ([] ++ [downAt 70000]) :=
  giving_up_is_final_iff .windows 0 ⟨.missing, .missing, .missing⟩ firstMinute (downAt 60000)
    [] (downAt 70000) (by decide) (by decide) (by decide)

end WatchDog
