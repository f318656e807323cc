import WatchDogProcess.Watchdog.Report

/-! # The timers a report starts

A part of a slot is described by the case in which it calls `RestartProctortrack`
(`WatchDog.RestartsWhen`); the flag of the first call, the stopwatch and the timers
follow. Both the heartbeat check and the branch for a missing application may
call it, and at one moment only the first call can be due
(`WatchDog.RestartsWhen.andThen`). So a report starts the kill and the launch of
one restart exactly when it calls `RestartProctortrack` and a restart was due
before it (`WatchDog.onAppCrash_restartsWhen`).
-/

namespace WatchDog

/-- A single-shot timer: when it was started, when it is due, and what it calls. -/
structure Timer where
  started : Nat
  due : Nat
  slot : TimedSlot
  deriving DecidableEq, Repr

/-- The timers of some effects, started at this moment. -/
def timersOf (now : Nat) (effects : List Effect) : List Timer :=
  effects.filterMap fun effect => match effect with
    | .singleShot delay slot => some ⟨now, now + delay, slot⟩
    | _ => none

/-! ### One report restarts at most once -/

/-- The kill and the launch of one restart. -/
def restartPair (now : Nat) : List Timer :=
  [⟨now, now + 100, .killProctortrackIfNotResponding⟩, ⟨now, now + 1000, .launchApp⟩]

/-- Part of a slot that either starts no timer and leaves the stopwatch alone, or
starts one kill and one launch, restarts the stopwatch, and does so at least ten
seconds after it was last started. -/
def RestartsOnce (now stopwatch : Nat) (handled : Handled) : Prop :=
  (timersOf now handled.effects = [] ∧ handled.watchdog.waitForAppToLaunch = stopwatch) ∨
  (timersOf now handled.effects = restartPair now ∧ handled.watchdog.waitForAppToLaunch = now ∧
    stopwatch + 10000 ≤ now)

/-- The timers started are those that the effects schedule. -/
theorem timersOf_eq_nil_iff (now : Nat) (handled : Handled) :
    timersOf now handled.effects = [] ↔ handled.does Effect.isSchedule = false := by
  unfold timersOf Handled.does
  rw [List.filterMap_eq_nil_iff, List.any_eq_false]
  apply forall₂_congr
  intro effect _
  cases effect <;> simp [Effect.isSchedule]

/-- Part of a slot that calls `RestartProctortrack` in this case and not
otherwise, and leaves the first-call flag and the stopwatch to it. -/
structure RestartsWhen (platform : Platform) (now : Nat) (watchdog : ProctoringWatchDog)
    (calls : Prop) [Decidable calls] (handled : Handled) : Prop where
  isFirst : handled.watchdog.isFirst = (watchdog.isFirst && !decide calls)
  stopwatch : handled.watchdog.waitForAppToLaunch =
    if calls ∧ RestartDue platform now watchdog then now else watchdog.waitForAppToLaunch
  timers : timersOf now handled.effects =
    if calls ∧ RestartDue platform now watchdog then restartPair now else []

variable {platform : Platform} {now : Nat} {report : Report} {watchdog : ProctoringWatchDog}

/-- Whether a restart is due depends only on the first-call flag and the stopwatch. -/
theorem restartDue_congr {other : ProctoringWatchDog} (isFirst : other.isFirst = watchdog.isFirst)
    (stopwatch : other.waitForAppToLaunch = watchdog.waitForAppToLaunch) :
    RestartDue platform now other ↔ RestartDue platform now watchdog := by
  unfold RestartDue restartThreshold
  rw [isFirst, stopwatch]

/-- A call that is not due leaves none due at the same moment: the threshold only
grows. -/
theorem not_restartDue_of_called {other : ProctoringWatchDog} (called : other.isFirst = false)
    (stopwatch : other.waitForAppToLaunch = watchdog.waitForAppToLaunch)
    (early : ¬ RestartDue platform now watchdog) : ¬ RestartDue platform now other := by
  unfold RestartDue at early ⊢
  rw [stopwatch]
  have grows : restartThreshold platform watchdog ≤ restartThreshold platform other := by
    cases platform with
    | windows => exact Nat.le_refl _
    | macOS =>
        simp only [restartThreshold, called, Bool.false_eq_true, ↓reduceIte]
        split <;> omega
  omega

/-- A stopwatch just restarted leaves no restart due. -/
theorem not_restartDue_of_restarted {other : ProctoringWatchDog}
    (restarted : other.waitForAppToLaunch = now) : ¬ RestartDue platform now other := by
  intro due
  have late := due.add_le
  omega

namespace RestartsWhen

variable {calls later : Prop} [Decidable calls] [Decidable later]

/-- Part of a slot that starts no timer and leaves the flag and the stopwatch alone. -/
theorem of_quiet {handled : Handled} (isFirst : handled.watchdog.isFirst = watchdog.isFirst)
    (stopwatch : handled.watchdog.waitForAppToLaunch = watchdog.waitForAppToLaunch)
    (quiet : timersOf now handled.effects = []) (never : ¬ calls) :
    RestartsWhen platform now watchdog calls handled where
  isFirst := by simp only [isFirst, never, decide_false, Bool.not_false, Bool.and_true]
  stopwatch := by simp only [stopwatch, never, false_and, ↓reduceIte]
  timers := by simp only [quiet, never, false_and, ↓reduceIte]

theorem congr {handled : Handled} (restarts : RestartsWhen platform now watchdog calls handled)
    (same : calls ↔ later) : RestartsWhen platform now watchdog later handled where
  isFirst := by rw [restarts.isFirst, decide_eq_decide.mpr same]
  stopwatch := by simp only [restarts.stopwatch, same]
  timers := by simp only [restarts.timers, same]

/-- The stopwatch and the flag that the call finds are those of the object before. -/
theorem restartProctortrack {before : ProctoringWatchDog}
    (isFirst : before.isFirst = watchdog.isFirst)
    (stopwatch : before.waitForAppToLaunch = watchdog.waitForAppToLaunch) (always : calls) :
    RestartsWhen platform now watchdog calls
      (WatchDog.restartProctortrack platform now before) where
  isFirst := by
    simp only [restartProctortrack_watchdog, always, decide_true, Bool.not_true, Bool.and_false]
  stopwatch := by
    simp only [restartProctortrack_watchdog, restartDue_congr isFirst stopwatch, stopwatch,
      always, true_and]
  timers := by
    rw [restartProctortrack_effects]
    simp only [restartDue_congr isFirst stopwatch, always, true_and]
    split <;> rfl

/-- Two parts one after another: at one moment only the first call can be due. -/
theorem andThen {first : Handled} {rest : ProctoringWatchDog → Handled}
    (begins : RestartsWhen platform now watchdog calls first)
    (goesOn : RestartsWhen platform now first.watchdog later (rest first.watchdog)) :
    RestartsWhen platform now watchdog (calls ∨ later) (first.andThen rest) := by
  have together : timersOf now (first.andThen rest).effects =
      timersOf now first.effects ++ timersOf now (rest first.watchdog).effects :=
    List.filterMap_append
  by_cases called : calls
  · have stops : ¬ RestartDue platform now first.watchdog := by
      by_cases due : RestartDue platform now watchdog
      · apply not_restartDue_of_restarted
        simp only [begins.stopwatch, called, due, and_self, ↓reduceIte]
      · apply not_restartDue_of_called _ _ due
        · simp only [begins.isFirst, called, decide_true, Bool.not_true, Bool.and_false]
        · simp only [begins.stopwatch, due, and_false, ↓reduceIte]
    constructor
    · simp only [Handled.andThen_watchdog, goesOn.isFirst, begins.isFirst, called, decide_true,
        Bool.not_true, Bool.and_false, Bool.false_and, true_or]
    · simp only [Handled.andThen_watchdog, goesOn.stopwatch, stops, and_false, ↓reduceIte,
        begins.stopwatch, called, true_and, true_or]
    · simp only [together, goesOn.timers, stops, and_false, ↓reduceIte, List.append_nil,
        begins.timers, called, true_and, true_or]
  · have sameFlag : first.watchdog.isFirst = watchdog.isFirst := by
      simp only [begins.isFirst, called, decide_false, Bool.not_false, Bool.and_true]
    have sameWatch : first.watchdog.waitForAppToLaunch = watchdog.waitForAppToLaunch := by
      simp only [begins.stopwatch, called, false_and, ↓reduceIte]
    constructor
    · simp only [Handled.andThen_watchdog, goesOn.isFirst, sameFlag, called, false_or]
    · simp only [Handled.andThen_watchdog, goesOn.stopwatch, sameWatch, called, false_or,
        restartDue_congr sameFlag sameWatch]
    · simp only [together, begins.timers, called, false_and, ↓reduceIte, List.nil_append,
        goesOn.timers, false_or, restartDue_congr sameFlag sameWatch]

/-- A part that starts no timer leaves the calls to the rest. -/
theorem quiet_andThen {first : Handled} {rest : ProctoringWatchDog → Handled}
    (isFirst : first.watchdog.isFirst = watchdog.isFirst)
    (stopwatch : first.watchdog.waitForAppToLaunch = watchdog.waitForAppToLaunch)
    (quiet : timersOf now first.effects = [])
    (goesOn : RestartsWhen platform now first.watchdog calls (rest first.watchdog)) :
    RestartsWhen platform now watchdog calls (first.andThen rest) := by
  have begins : RestartsWhen platform now watchdog False first :=
    of_quiet isFirst stopwatch quiet id
  exact (begins.andThen goesOn).congr (iff_of_eq (false_or calls))

/-- Such a part schedules a kill and a launch exactly when it calls and a restart
is due. -/
theorem schedules {handled : Handled}
    (restarts : RestartsWhen platform now watchdog calls handled) :
    handled.does Effect.isSchedule = decide (calls ∧ RestartDue platform now watchdog) := by
  have none := timersOf_eq_nil_iff now handled
  rw [restarts.timers] at none
  by_cases due : calls ∧ RestartDue platform now watchdog
  · simp only [due, and_self, ↓reduceIte, restartPair, List.cons_ne_nil, false_iff,
      Bool.not_eq_false] at none
    rw [none, decide_eq_true due]
  · simp only [due, ↓reduceIte, true_iff] at none
    rw [none, decide_eq_false due]

/-- Two such parts that find the same flag and stopwatch, and call in the same
case, leave the same ones and start the same timers. -/
theorem agree {handled : Handled} (restarts : RestartsWhen platform now watchdog calls handled)
    {other : ProctoringWatchDog} {otherHandled : Handled}
    (otherRestarts : RestartsWhen platform now other later otherHandled)
    (isFirst : watchdog.isFirst = other.isFirst)
    (stopwatch : watchdog.waitForAppToLaunch = other.waitForAppToLaunch)
    (same : calls ↔ later) :
    handled.watchdog.isFirst = otherHandled.watchdog.isFirst ∧
      handled.watchdog.waitForAppToLaunch = otherHandled.watchdog.waitForAppToLaunch ∧
      timersOf now handled.effects = timersOf now otherHandled.effects := by
  have due : RestartDue platform now watchdog ↔ RestartDue platform now other :=
    restartDue_congr isFirst stopwatch
  refine ⟨?_, ?_, ?_⟩
  · rw [restarts.isFirst, otherRestarts.isFirst, isFirst, decide_eq_decide.mpr same]
  · rw [restarts.stopwatch, otherRestarts.stopwatch, stopwatch]
    simp only [same, due]
  · rw [restarts.timers, otherRestarts.timers]
    simp only [same, due]

end RestartsWhen

/-! ### The parts of a report -/

variable (platform) (report) (watchdog)

theorem processRecordingThread_restartsWhen (now : Nat) (reads : CheckReads) :
    RestartsWhen platform now watchdog reads.Broken
      (processRecordingThread platform now reads watchdog) := by
  cases alive : reads.flag with
  | true =>
      rw [processRecordingThread_alive _ _ _ alive]
      refine .of_quiet rfl rfl ?_ fun broken => Bool.false_ne_true (broken.1.symm.trans alive)
      simp only [timersOf]
      split <;> rfl
  | false =>
      rw [processRecordingThread_broken _ _ _ alive]
      refine RestartsWhen.quiet_andThen ?_ ?_ ?_ ?_
      · rfl
      · rfl
      · rfl
      · split
        · next exam => exact .restartProctortrack rfl rfl ⟨alive, exam⟩
        · next other => exact .of_quiet rfl rfl rfl fun broken => other broken.2

theorem countReport_restartsWhen :
    RestartsWhen platform report.now watchdog (CheckRestarts report watchdog)
      (countReport platform report watchdog) := by
  by_cases checks : ChecksNow watchdog
  · rw [countReport_of_checks platform report watchdog checks]
    have restarts := processRecordingThread_restartsWhen platform (counted report watchdog 0)
      report.now report.reads.toCheckReads
    have same : report.reads.Broken ↔ CheckRestarts report watchdog := by
      simp only [CheckRestarts, checks, true_and]
    exact ⟨(restarts.congr same).isFirst, (restarts.congr same).stopwatch,
      (restarts.congr same).timers⟩
  · rw [countReport_of_not_checks platform report watchdog checks]
    exact .of_quiet rfl rfl rfl fun restarts => checks restarts.1

/-- The branch for a missing application calls `RestartProctortrack` when it goes
on and has not given up. -/
theorem appMissing_restartsWhen :
    RestartsWhen platform report.now watchdog
      (Keeps report watchdog.step ∧ ¬ (Covers report ∧ 5 ≤ watchdog.appLaunchRetryCountre))
      (appMissing platform report watchdog) := by
  rcases appMissing_cases platform report watchdog with
    ⟨keeps, same⟩ | ⟨keeps, covers, same⟩ | ⟨keeps, covers, spent, same⟩ |
      ⟨keeps, covers, spent, same⟩
  · rw [same]
    exact .of_quiet rfl rfl rfl fun goesOn => keeps goesOn.1
  · rw [same]
    exact .restartProctortrack rfl rfl ⟨keeps, fun spent => covers spent.1⟩
  · rw [same]
    exact .of_quiet rfl rfl rfl fun goesOn => goesOn.2 ⟨covers, spent⟩
  · rw [same]
    refine RestartsWhen.quiet_andThen ?_ ?_ ?_ ?_
    · rfl
    · rfl
    · rfl
    · exact .restartProctortrack rfl rfl ⟨keeps, fun both => spent both.2⟩

/-- The report calls `RestartProctortrack`, in its heartbeat check or in the branch
for a missing application that goes on and has not given up. -/
def CallsRestart : Prop :=
  CheckRestarts report watchdog ∨ report.isRunning = false ∧
    Keeps report (decidingStep report watchdog) ∧
      ¬ (Covers report ∧ 5 ≤ watchdog.appLaunchRetryCountre)

instance : Decidable (CallsRestart report watchdog) := inferInstanceAs (Decidable (_ ∨ _))

theorem onAppCrash_restartsWhen :
    RestartsWhen platform report.now watchdog (CallsRestart report watchdog)
      (onAppCrash platform report watchdog) := by
  apply (countReport_restartsWhen platform report watchdog).andThen
  cases running : report.isRunning with
  | true => exact .of_quiet rfl rfl rfl fun missing => Bool.false_ne_true missing.1.symm
  | false =>
      have missing := appMissing_restartsWhen platform report
        (countReport platform report watchdog).watchdog
      apply missing.congr
      rw [countReport_step, (countReport_frame platform report watchdog).2.1]
      simp only [true_and]

/-- A report restarts the application at most once. -/
theorem onAppCrash_restartsOnce :
    RestartsOnce report.now watchdog.waitForAppToLaunch
      (onAppCrash platform report watchdog) := by
  obtain ⟨-, stopwatch, timers⟩ := onAppCrash_restartsWhen platform report watchdog
  rw [RestartsOnce, stopwatch, timers]
  by_cases restarts : CallsRestart report watchdog ∧ RestartDue platform report.now watchdog
  · simp only [restarts, and_self, ↓reduceIte]
    exact Or.inr ⟨trivial, trivial, restarts.2.add_le⟩
  · simp only [restarts, ↓reduceIte]
    exact Or.inl ⟨trivial, trivial⟩

end WatchDog
