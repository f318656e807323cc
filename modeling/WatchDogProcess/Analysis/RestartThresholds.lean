import WatchDogProcess.Foundation.EventRun
import WatchDogProcess.Watchdog.Restart
import Mathlib.Data.List.Forall2

/-! # Which calls of `RestartProctortrack` restart

Off Windows the first *call* uses the short threshold, whether or not it restarts.
A call in the first ten seconds therefore leaves the long threshold to the first
restart, and the law "ten seconds before the first restart, three minutes before
a later one" holds of a run exactly when no such call is followed by one between
ten seconds and three minutes (`WatchDog.short_threshold_first_iff`).

On Windows the threshold is ten seconds throughout, and the stopwatch wraps after
a day. A call that is due is skipped exactly within ten seconds after a whole
number of days since the last restart (`WatchDog.due_restart_scheduled_iff`).
-/

namespace WatchDog

open EventRun

/-- A watchdog of which only `RestartProctortrack` is called, with the time of the
last restart it scheduled. -/
structure RestartRun where
  watchdog : ProctoringWatchDog
  lastRestart : Option Nat

def RestartRun.start (began : Nat) (initial : ConstructorReads) : RestartRun :=
  ⟨ProctoringWatchDog.construct began initial, none⟩

/-- A call at this moment schedules a kill and a launch. -/
def RestartRun.schedules (platform : Platform) (state : RestartRun) (now : Nat) : Bool :=
  (restartProctortrack platform now state.watchdog).does Effect.isSchedule

def callStep (platform : Platform) (state : RestartRun) (now : Nat) : RestartRun :=
  ⟨(restartProctortrack platform now state.watchdog).watchdog,
    if state.schedules platform now then some now else state.lastRestart⟩

/-- Fewer than twenty-four hours have passed since the stopwatch was started. -/
def Unwrapped (state : RestartRun) (now : Nat) : Prop :=
  now < state.watchdog.waitForAppToLaunch + dayMs

instance (state : RestartRun) (now : Nat) : Decidable (Unwrapped state now) :=
  inferInstanceAs (Decidable (_ < _))

/-! ### What is called for -/

/-- The times from which a restart is due: ten seconds after construction, three
minutes after an earlier restart. -/
def RestartLaw (began : Nat) (lastRestart : Option Nat) (now : Nat) : Prop :=
  match lastRestart with
  | none => began + 10000 ≤ now
  | some last => last + 180000 ≤ now

instance (began : Nat) (lastRestart : Option Nat) (now : Nat) :
    Decidable (RestartLaw began lastRestart now) :=
  match lastRestart with
  | none => inferInstanceAs (Decidable (_ ≤ _))
  | some _ => inferInstanceAs (Decidable (_ ≤ _))

/-- A call schedules a restart exactly when one is due. -/
def MeetsLaw (began : Nat) (state : RestartRun) (now : Nat) : Prop :=
  state.schedules .macOS now = true ↔ RestartLaw began state.lastRestart now

instance (began : Nat) (state : RestartRun) (now : Nat) : Decidable (MeetsLaw began state now) :=
  inferInstanceAs (Decidable (_ ↔ _))

/-- A call that schedules nothing changes nothing for the calls after it. -/
def SkippedCallsInert (start : RestartRun) (times : List Nat) : Prop :=
  ∀ before skipped after, times = before ++ skipped :: after →
    (run (callStep .macOS) start before).schedules .macOS skipped = false →
    trace (callStep .macOS) (RestartRun.schedules .macOS)
        (run (callStep .macOS) start (before ++ [skipped])) after =
      trace (callStep .macOS) (RestartRun.schedules .macOS)
        (run (callStep .macOS) start before) after

/-- Between ten seconds and three minutes after construction. -/
def InGap (began now : Nat) : Prop := began + 10000 ≤ now ∧ now < began + 180000

instance (began now : Nat) : Decidable (InGap began now) := inferInstanceAs (Decidable (_ ∧ _))

/-- The first call comes no sooner than ten seconds after construction, or no call
comes between ten seconds and three minutes after it. -/
def GapUndisturbed (began : Nat) (times : List Nat) : Prop :=
  (∀ first ∈ times.head?, began + 10000 ≤ first) ∨ ∀ time ∈ times, ¬ InGap began time

instance (began : Nat) (times : List Nat) : Decidable (GapUndisturbed began times) :=
  inferInstanceAs (Decidable (_ ∨ _))

/-! ### One call -/

section Call

variable (platform : Platform) {began now : Nat} {state : RestartRun}

theorem schedules_iff : state.schedules platform now = true ↔
    RestartDue platform now state.watchdog := by
  rw [RestartRun.schedules, restartProctortrack_schedules, decide_eq_true_eq]

/-- The stopwatch was started at the last restart, or at construction, and after a
restart the next call is no longer the first. -/
structure Clocked (began : Nat) (state : RestartRun) : Prop where
  stopwatch : state.watchdog.waitForAppToLaunch = state.lastRestart.getD began
  called : state.lastRestart ≠ none → state.watchdog.isFirst = false

theorem clocked_start (began : Nat) (initial : ConstructorReads) :
    Clocked began (.start began initial) :=
  ⟨rfl, fun restarted => absurd rfl restarted⟩

theorem callStep_isFirst : (callStep platform state now).watchdog.isFirst = false := by
  rw [callStep, restartProctortrack_watchdog]

theorem clocked_step (clocked : Clocked began state) (now : Nat) :
    Clocked began (callStep platform state now) where
  stopwatch := by
    simp only [callStep, restartProctortrack_watchdog, schedules_iff]
    split
    · rfl
    · exact clocked.stopwatch
  called := fun _ => callStep_isFirst platform

theorem clocked_run (clocked : Clocked began state) (times : List Nat) :
    Clocked began (run (callStep platform) state times) := by
  have kept : ∀ state now, Clocked began state → True →
      Clocked began (callStep platform state now) :=
    fun _ now clocked _ => clocked_step platform clocked now
  exact invariant_run kept clocked (always_true state times)

/-- A call that schedules nothing leaves the stopwatch and the last restart. -/
theorem callStep_of_skipped (skipped : state.schedules platform now = false) :
    (callStep platform state now).lastRestart = state.lastRestart ∧
      (callStep platform state now).watchdog.waitForAppToLaunch =
        state.watchdog.waitForAppToLaunch := by
  have early : ¬ RestartDue platform now state.watchdog := by
    rw [← schedules_iff, skipped]
    exact Bool.false_ne_true
  simp only [callStep, skipped, Bool.false_eq_true, ↓reduceIte, restartProctortrack_watchdog,
    early, and_self]

theorem callStep_of_scheduled (scheduled : state.schedules platform now = true) :
    (callStep platform state now).lastRestart = some now := by
  simp only [callStep, scheduled, ↓reduceIte]

end Call

/-! ### The threshold off Windows -/

section MacOS

variable {began now : Nat} {state : RestartRun}

/-- Before the stopwatch wraps, a call schedules a restart when the time of its
threshold has passed. -/
theorem schedules_macOS_iff (clocked : Clocked began state) (unwrapped : Unwrapped state now) :
    state.schedules .macOS now = true ↔
      state.lastRestart.getD began +
        (if state.watchdog.isFirst then 10000 else 180000) ≤ now := by
  rw [schedules_iff, RestartDue, restartThreshold, ← clocked.stopwatch]
  apply Stopwatch.le_elapsed_iff _ unwrapped
  split <;> omega

/-- The call that breaks the law: nothing was scheduled, an earlier call has used
up the short threshold, and the long one has not passed. -/
def Disturbed (began : Nat) (state : RestartRun) (now : Nat) : Prop :=
  state.lastRestart = none ∧ state.watchdog.isFirst = false ∧ InGap began now

theorem meetsLaw_iff (clocked : Clocked began state) (unwrapped : Unwrapped state now) :
    MeetsLaw began state now ↔ ¬ Disturbed began state now := by
  rw [MeetsLaw, schedules_macOS_iff clocked unwrapped, Disturbed, InGap]
  cases restarted : state.lastRestart with
  | none =>
      simp only [Option.getD_none, RestartLaw, true_and]
      cases state.watchdog.isFirst with
      | true => simp
      | false =>
          simp only [Bool.false_eq_true, ↓reduceIte, true_and]
          omega
  | some last =>
      have called : state.watchdog.isFirst = false := clocked.called (by rw [restarted]; simp)
      simp [RestartLaw, called]

/-- After a restart no call breaks the law. -/
theorem always_of_restarted (times : List Nat) (restarted : state.lastRestart ≠ none) :
    Always (callStep .macOS) (fun state now => ¬ Disturbed began state now) state times := by
  induction times generalizing state with
  | nil => trivial
  | cons now times ih =>
      refine ⟨fun disturbed => restarted disturbed.1, ih ?_⟩
      cases scheduled : state.schedules .macOS now with
      | true =>
          rw [callStep_of_scheduled _ scheduled]
          exact Option.some_ne_none now
      | false =>
          rw [(callStep_of_skipped _ scheduled).1]
          exact restarted

theorem always_of_scheduled (times : List Nat) (scheduled : state.schedules .macOS now = true) :
    Always (callStep .macOS) (fun state now => ¬ Disturbed began state now)
      (callStep .macOS state now) times := by
  apply always_of_restarted
  rw [callStep_of_scheduled _ scheduled]
  exact Option.some_ne_none now

/-- Once the short threshold is used up, the law is kept when no call falls into
the gap. -/
theorem always_of_called (clocked : Clocked began state) (none : state.lastRestart = none)
    (called : state.watchdog.isFirst = false) {times : List Nat}
    (ordered : times.Pairwise (· ≤ ·))
    (unwrapped : Always (callStep .macOS) Unwrapped state times) :
    Always (callStep .macOS) (fun state now => ¬ Disturbed began state now) state times ↔
      ∀ time ∈ times, ¬ InGap began time := by
  induction times generalizing state with
  | nil => simp
  | cons now times ih =>
      obtain ⟨first, later⟩ := List.pairwise_cons.mp ordered
      have here : ¬ Disturbed began state now ↔ ¬ InGap began now := by
        simp only [Disturbed, none, called, true_and]
      rw [always_cons, List.forall_mem_cons, here]
      apply and_congr_right
      intro outside
      have due := schedules_macOS_iff clocked unwrapped.1
      rw [none, called] at due
      simp only [Option.getD_none, Bool.false_eq_true, ↓reduceIte] at due
      cases scheduled : state.schedules .macOS now with
      | true =>
          apply iff_of_true
          · exact always_of_scheduled times scheduled
          · intro time member inGap
            have after := first time member
            have passed := due.mp scheduled
            unfold InGap at inGap
            omega
      | false =>
          have same := callStep_of_skipped .macOS scheduled
          exact ih (clocked_step .macOS clocked now) (same.1.trans none)
            (callStep_isFirst .macOS) later unwrapped.2

/-- The law is kept along a run exactly when no call of it breaks the law. -/
theorem always_meetsLaw_congr (clocked : Clocked began state) {times : List Nat}
    (unwrapped : Always (callStep .macOS) Unwrapped state times) :
    Always (callStep .macOS) (MeetsLaw began) state times ↔
      Always (callStep .macOS) (fun state now => ¬ Disturbed began state now) state times := by
  apply always_congr_of_invariant _ _ clocked unwrapped
  · exact fun _ now clocked _ => clocked_step .macOS clocked now
  · exact fun _ _ clocked unwrapped => meetsLaw_iff clocked unwrapped

/-- The law is kept along a run exactly when the gap is undisturbed. -/
theorem always_meetsLaw_iff (began : Nat) (initial : ConstructorReads) {times : List Nat}
    (ordered : times.Pairwise (· ≤ ·))
    (unwrapped : Always (callStep .macOS) Unwrapped (.start began initial) times) :
    Always (callStep .macOS) (MeetsLaw began) (.start began initial) times ↔
      GapUndisturbed began times := by
  rw [always_meetsLaw_congr (clocked_start began initial) unwrapped]
  cases times with
  | nil => simp [GapUndisturbed]
  | cons now times =>
      have clocked := clocked_start began initial
      have due := schedules_macOS_iff clocked unwrapped.1
      obtain ⟨first, later⟩ := List.pairwise_cons.mp ordered
      have undisturbed : ¬ Disturbed began (.start began initial) now :=
        fun disturbed => Bool.false_ne_true disturbed.2.1.symm
      rw [always_cons]
      simp only [undisturbed, not_false_eq_true, true_and]
      cases scheduled : (RestartRun.start began initial).schedules .macOS now with
      | true =>
          apply iff_of_true
          · exact always_of_scheduled times scheduled
          · refine Or.inl fun time isFirst => ?_
            rw [List.head?_cons, Option.mem_some_iff] at isFirst
            exact isFirst ▸ due.mp scheduled
      | false =>
          have early : ¬ began + 10000 ≤ now := fun passed => by
            rw [due.mpr passed] at scheduled
            exact absurd scheduled Bool.true_eq_false.mp
          have same := callStep_of_skipped .macOS scheduled
          rw [always_of_called (clocked_step .macOS clocked now) same.1 (callStep_isFirst .macOS)
            later unwrapped.2]
          have outside : ¬ InGap began now := fun inGap => early inGap.1
          simp only [GapUndisturbed, List.head?_cons, Option.mem_some_iff, forall_eq', early,
            false_or, List.forall_mem_cons, outside, not_false_eq_true, true_and]

/-! ### Skipped calls -/

/-- Two runs with the same last restart, the first of which has used up the short
threshold. -/
structure SameRestarts (began : Nat) (state other : RestartRun) : Prop where
  clocked : Clocked began state
  otherClocked : Clocked began other
  lastRestart : state.lastRestart = other.lastRestart
  called : state.watchdog.isFirst = false

/-- A call outside the gap has the same effect on both. -/
theorem sameRestarts_step {other : RestartRun} (same : SameRestarts began state other)
    (unwrapped : Unwrapped state now) (undisturbed : ¬ Disturbed began state now) :
    SameRestarts began (callStep .macOS state now) (callStep .macOS other now) ∧
      state.schedules .macOS now = other.schedules .macOS now := by
  have otherUnwrapped : Unwrapped other now := by
    unfold Unwrapped at unwrapped ⊢
    rwa [same.otherClocked.stopwatch, ← same.lastRestart, ← same.clocked.stopwatch]
  have verdict : state.schedules .macOS now = other.schedules .macOS now := by
    rw [Bool.eq_iff_iff, schedules_macOS_iff same.clocked unwrapped,
      schedules_macOS_iff same.otherClocked otherUnwrapped, ← same.lastRestart, same.called]
    cases restarted : state.lastRestart with
    | none =>
        have outside : ¬ InGap began now := fun inGap =>
          undisturbed ⟨restarted, same.called, inGap⟩
        unfold InGap at outside
        simp only [Option.getD_none, Bool.false_eq_true, ↓reduceIte]
        split <;> omega
    | some last =>
        have called : other.watchdog.isFirst = false :=
          same.otherClocked.called (by rw [← same.lastRestart, restarted]; simp)
        rw [called]
  refine ⟨⟨clocked_step .macOS same.clocked now, clocked_step .macOS same.otherClocked now, ?_,
    callStep_isFirst .macOS⟩, verdict⟩
  simp only [callStep, verdict, same.lastRestart]

/-- In an undisturbed run the calls that schedule nothing are inert. -/
theorem skippedCallsInert (clocked : Clocked began state) {times : List Nat}
    (unwrapped : Always (callStep .macOS) Unwrapped state times)
    (undisturbed : Always (callStep .macOS) (fun state now => ¬ Disturbed began state now)
      state times) : SkippedCallsInert state times := by
  intro before skipped after split nothing
  rw [split, always_append, always_cons] at unwrapped undisturbed
  have reached := clocked_run .macOS clocked before
  rw [run_concat]
  have same : SameRestarts began
      (callStep .macOS (run (callStep .macOS) state before) skipped)
      (run (callStep .macOS) state before) :=
    ⟨clocked_step .macOS reached skipped, reached, (callStep_of_skipped .macOS nothing).1,
      callStep_isFirst .macOS⟩
  have kept : ∀ state other now otherNow, SameRestarts began state other → now = otherNow →
      Unwrapped state now ∧ ¬ Disturbed began state now → True →
        SameRestarts began (callStep .macOS state now) (callStep .macOS other otherNow) ∧
          state.schedules .macOS now = other.schedules .macOS otherNow := by
    rintro state other now _ same rfl ⟨unwrapped, undisturbed⟩ _
    exact sameRestarts_step same unwrapped undisturbed
  exact (related_run kept same (List.forall₂_refl after)
    ((always_and ..).mpr ⟨unwrapped.2.2, undisturbed.2.2⟩)
    (always_true ..)).2

/-- **The short threshold is for the first call.** For every sequence of calls at
nondecreasing times before the stopwatch wraps, each call schedules a restart
exactly when one is due (ten seconds after construction, or three minutes after
the last restart) and the calls that schedule nothing change nothing for later
ones, if and only if the first call comes no sooner than ten seconds after
construction or no call comes between ten seconds and three minutes after it. -/
theorem short_threshold_first_iff (began : Nat) (initial : ConstructorReads) (times : List Nat)
    (ordered : times.Pairwise (· ≤ ·))
    (unwrapped : Always (callStep .macOS) Unwrapped (.start began initial) times) :
    Always (callStep .macOS) (MeetsLaw began) (.start began initial) times ∧
        SkippedCallsInert (.start began initial) times ↔
      GapUndisturbed began times := by
  rw [← always_meetsLaw_iff began initial ordered unwrapped]
  apply and_iff_left_of_imp
  intro meets
  have clocked := clocked_start began initial
  exact skippedCallsInert clocked unwrapped ((always_meetsLaw_congr clocked unwrapped).mp meets)

/-- A call five seconds after construction takes the short threshold from the call
at twenty seconds, which then schedules nothing. -/
theorem short_threshold_lost :
    ¬ ∀ (began : Nat) (initial : ConstructorReads) (times : List Nat),
      (began :: times).Pairwise (· ≤ ·) →
      Always (callStep .macOS) Unwrapped (.start began initial) times →
      Always (callStep .macOS) (MeetsLaw began) (.start began initial) times ∧
        SkippedCallsInert (.start began initial) times := by
  intro meets
  have both := (meets 0 ⟨.missing, .missing, .missing⟩ [5000, 20000] (by decide)
    (by decide)).1
  exact absurd both (by decide)

/-- Calls at fifteen and at two hundred seconds: an undisturbed run. -/
theorem short_threshold_first_iff_undisturbed :
    Always (callStep .macOS) (MeetsLaw 0) (.start 0 ⟨.missing, .missing, .missing⟩)
        [15000, 200000] ∧
      SkippedCallsInert (.start 0 ⟨.missing, .missing, .missing⟩) [15000, 200000] :=
  (short_threshold_first_iff 0 ⟨.missing, .missing, .missing⟩ [15000, 200000] (by decide)
    (by decide)).mpr (by decide)

end MacOS

/-! ### The stopwatch on Windows -/

/-- Within ten seconds after a whole number of days since the last restart. -/
def JustAfterDays (last now : Nat) : Prop :=
  ∃ days, 0 < days ∧ last + days * dayMs ≤ now ∧ now < last + days * dayMs + 10000

/-- A call at least ten seconds after the last restart, or construction, schedules
a restart. -/
def MeetsTenSeconds (began : Nat) (state : RestartRun) (now : Nat) : Prop :=
  state.lastRestart.getD began + 10000 ≤ now → state.schedules .windows now = true

instance (began : Nat) (state : RestartRun) (now : Nat) :
    Decidable (MeetsTenSeconds began state now) :=
  inferInstanceAs (Decidable (_ → _))

theorem meetsTenSeconds_iff {began now : Nat} {state : RestartRun} (clocked : Clocked began state) :
    MeetsTenSeconds began state now ↔ ¬ JustAfterDays (state.lastRestart.getD began) now := by
  rw [MeetsTenSeconds, schedules_iff, RestartDue, restartThreshold, clocked.stopwatch]
  constructor
  · rintro meets ⟨days, positive, after, before⟩
    have dayLong : dayMs ≤ days * dayMs := Nat.le_mul_of_pos_left dayMs positive
    have reached : state.lastRestart.getD began + 10000 ≤ now := by
      unfold dayMs at dayLong after
      omega
    have shown := (Stopwatch.elapsed_lt_iff reached).mpr ⟨days, positive, after, before⟩
    exact absurd (meets reached) (Nat.not_le_of_lt shown)
  · intro apart reached
    by_contra skipped
    exact apart ((Stopwatch.elapsed_lt_iff reached).mp (Nat.lt_of_not_le skipped))

/-- **When a due restart is scheduled.** On Windows, in every run of calls of any
duration, each call at least ten seconds after the last restart (or construction)
schedules a restart if and only if no call comes within ten seconds after a whole
number of days since it. -/
theorem due_restart_scheduled_iff (began : Nat) (initial : ConstructorReads) (times : List Nat) :
    Always (callStep .windows) (MeetsTenSeconds began) (.start began initial) times ↔
      Always (callStep .windows) (fun state now =>
        ¬ JustAfterDays (state.lastRestart.getD began) now) (.start began initial) times := by
  apply always_congr_of_invariant _ _ (clocked_start began initial) (always_true _ times)
  · exact fun _ now clocked _ => clocked_step .windows clocked now
  · exact fun _ _ clocked _ => meetsTenSeconds_iff clocked

/-- The first call comes a day and five seconds after construction, and is skipped. -/
theorem due_restart_skipped :
    ¬ ∀ (began : Nat) (initial : ConstructorReads) (times : List Nat),
      (began :: times).Pairwise (· ≤ ·) →
      Always (callStep .windows) (MeetsTenSeconds began) (.start began initial) times := by
  intro meets
  exact absurd (meets 0 ⟨.missing, .missing, .missing⟩ [86405000] (by decide)) (by decide)

end WatchDog
