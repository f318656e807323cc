import WatchDogProcess.Watchdog.State

/-! # Restarting the application and quitting

`RestartProctortrack` schedules a kill after 100 ms and a launch after 1000 ms,
unless its stopwatch shows less than a threshold. On Windows the threshold is
always ten seconds; elsewhere it is ten seconds at the first call and three
minutes at every later one. `QTime::elapsed()` wraps after a day.
-/

namespace WatchDog

/-- The period after which `QTime::elapsed()` wraps, in milliseconds. -/
def dayMs : Nat := 86400000

def restartProctortrack (platform : Platform) (now : Nat) (watchdog : ProctoringWatchDog) :
    Handled :=
  let watchdog :=
    { watchdog with timer := if watchdog.isFirst then 10000 else 180000, isFirst := false }
  let threshold := match platform with
    | .windows => 10000
    | .macOS => watchdog.timer
  if threshold ≤ Stopwatch.elapsed dayMs watchdog.waitForAppToLaunch now then
    ⟨{ watchdog with waitForAppToLaunch := now },
      [.restartProctortrack, .singleShot 100 .killProctortrackIfNotResponding,
        .singleShot 1000 .launchApp]⟩
  else ⟨watchdog, [.restartProctortrack]⟩

/-- `closeAllWindows()` and `quit()`. -/
def quitWatchDog (watchdog : ProctoringWatchDog) : Handled :=
  ⟨{ watchdog with visible := false, waitingSceen := watchdog.waitingSceen.hide },
    [.quitWatchDog]⟩

/-! ### What a restart does -/

/-- The stopwatch reading from which a call of `RestartProctortrack` restarts. -/
def restartThreshold (platform : Platform) (watchdog : ProctoringWatchDog) : Nat :=
  match platform with
  | .windows => 10000
  | .macOS => if watchdog.isFirst then 10000 else 180000

/-- A call of `RestartProctortrack` at this moment restarts. -/
def RestartDue (platform : Platform) (now : Nat) (watchdog : ProctoringWatchDog) : Prop :=
  restartThreshold platform watchdog ≤
    Stopwatch.elapsed dayMs watchdog.waitForAppToLaunch now

instance (platform : Platform) (now : Nat) (watchdog : ProctoringWatchDog) :
    Decidable (RestartDue platform now watchdog) :=
  inferInstanceAs (Decidable (_ ≤ _))

theorem restartThreshold_le (platform : Platform) (watchdog : ProctoringWatchDog) :
    10000 ≤ restartThreshold platform watchdog := by
  cases platform with
  | windows => exact Nat.le_refl 10000
  | macOS =>
      simp only [restartThreshold]
      split <;> omega

/-- A restart that is due is at least ten seconds after the stopwatch was started. -/
theorem RestartDue.add_le {platform : Platform} {now : Nat} {watchdog : ProctoringWatchDog}
    (due : RestartDue platform now watchdog) : watchdog.waitForAppToLaunch + 10000 ≤ now := by
  apply Stopwatch.add_le_of_le_elapsed (by omega)
  exact (restartThreshold_le platform watchdog).trans due

/-- A restart that is due restarts the stopwatch and schedules the kill and the
launch; one that is not due changes neither. Both are no longer the first. -/
theorem restartProctortrack_eq (platform : Platform) (now : Nat)
    (watchdog : ProctoringWatchDog) :
    restartProctortrack platform now watchdog =
      ⟨{ watchdog with
          timer := if watchdog.isFirst then 10000 else 180000
          isFirst := false
          waitForAppToLaunch :=
            if RestartDue platform now watchdog then now else watchdog.waitForAppToLaunch },
        .restartProctortrack :: if RestartDue platform now watchdog then
          [.singleShot 100 .killProctortrackIfNotResponding, .singleShot 1000 .launchApp]
        else []⟩ := by
  unfold restartProctortrack
  change (if RestartDue platform now watchdog then _ else _) = _
  by_cases due : RestartDue platform now watchdog
  · simp only [due, ↓reduceIte]
  · simp only [due, ↓reduceIte]

@[simp] theorem restartProctortrack_watchdog (platform : Platform) (now : Nat)
    (watchdog : ProctoringWatchDog) :
    (restartProctortrack platform now watchdog).watchdog =
      { watchdog with
        timer := if watchdog.isFirst then 10000 else 180000
        isFirst := false
        waitForAppToLaunch :=
          if RestartDue platform now watchdog then now else watchdog.waitForAppToLaunch } := by
  rw [restartProctortrack_eq]

theorem restartProctortrack_effects (platform : Platform) (now : Nat)
    (watchdog : ProctoringWatchDog) :
    (restartProctortrack platform now watchdog).effects =
      .restartProctortrack :: if RestartDue platform now watchdog then
        [.singleShot 100 .killProctortrackIfNotResponding, .singleShot 1000 .launchApp]
      else [] := by
  rw [restartProctortrack_eq]

/-- A call schedules a kill and a launch exactly when a restart is due. -/
@[simp] theorem restartProctortrack_schedules (platform : Platform) (now : Nat)
    (watchdog : ProctoringWatchDog) :
    (restartProctortrack platform now watchdog).does Effect.isSchedule =
      decide (RestartDue platform now watchdog) := by
  rw [Handled.does, restartProctortrack_effects]
  by_cases due : RestartDue platform now watchdog <;>
    simp [due, Effect.isSchedule]

@[simp] theorem restartProctortrack_restarts (platform : Platform) (now : Nat)
    (watchdog : ProctoringWatchDog) :
    (restartProctortrack platform now watchdog).does Effect.isRestart = true := by
  simp [Handled.does, restartProctortrack_effects, Effect.isRestart]

/-- A call does nothing but restart: no effect of another kind. -/
theorem restartProctortrack_does_of_not (platform : Platform) (now : Nat)
    (watchdog : ProctoringWatchDog) {kind : Effect → Bool}
    (notRestart : kind .restartProctortrack = false)
    (notSchedule : ∀ delay slot, kind (.singleShot delay slot) = false) :
    (restartProctortrack platform now watchdog).does kind = false := by
  rw [Handled.does, restartProctortrack_effects]
  by_cases due : RestartDue platform now watchdog <;> simp [due, notRestart, notSchedule]

@[simp] theorem restartProctortrack_quits (platform : Platform) (now : Nat)
    (watchdog : ProctoringWatchDog) :
    (restartProctortrack platform now watchdog).does Effect.isQuit = false :=
  restartProctortrack_does_of_not platform now watchdog rfl fun _ _ => rfl

@[simp] theorem restartProctortrack_page (platform : Platform) (now : Nat)
    (watchdog : ProctoringWatchDog) :
    (restartProctortrack platform now watchdog).does Effect.isPage = false :=
  restartProctortrack_does_of_not platform now watchdog rfl fun _ _ => rfl

@[simp] theorem restartProctortrack_errorPage (platform : Platform) (now : Nat)
    (watchdog : ProctoringWatchDog) :
    (restartProctortrack platform now watchdog).does Effect.isErrorPage = false :=
  restartProctortrack_does_of_not platform now watchdog rfl fun _ _ => rfl

end WatchDog
