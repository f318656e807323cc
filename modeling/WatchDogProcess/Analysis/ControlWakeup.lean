import WatchDogProcess.Foundation.EventRun
import WatchDogProcess.Foundation.MutexOwner
import WatchDogProcess.Service.ControlHandler
import Mathlib.Algebra.Order.BigOperators.Group.Finset

/-! # No wakeup is lost

The handler posts its event before it waits, and the main thread may handle it at once. But
the main thread wakes only under the mutex, which the handler holds until it sleeps. So in
every interleaving of any number of handler threads with the main thread, the event of a
thread that sleeps still stands in the queue, or the main thread is about to wake it, or
has left its event loop (`WatchDog.no_lost_wakeup`). Once the main thread has handled every
event, no handler sleeps.
-/

namespace WatchDog

open EventRun MutexOwner

/-! ### The mutex -/

/-- A handler thread holds the mutex where it is. -/
def HandlerPc.Holds : HandlerPc → Prop
  | .setPending _ => True
  | .reportPending _ => True
  | .sendPending _ _ => True
  | .posting _ => True
  | .enterWait _ => True
  | .setFinal _ => True
  | .reportFinal => True
  | .sendFinal _ => True
  | .unlocking => True
  | _ => False

/-- The main thread holds the mutex where it is. -/
def MainPc.Holds : MainPc → Prop
  | .waking => True
  | .unlocking => True
  | _ => False

/-- The code of a thread that sleeps or is about to. -/
def HandlerPc.awaits : HandlerPc → Option Nat
  | .enterWait code => some code
  | .waiting code => some code
  | _ => none

/-- A thread that is about to post an event, or waits for it, has one to post. -/
def HandlerPc.Posts : HandlerPc → Prop
  | .setPending code => (postedCode code).isSome
  | .reportPending code => (postedCode code).isSome
  | .sendPending code _ => (postedCode code).isSome
  | .posting code => (postedCode code).isSome
  | _ => True

/-- The main thread will wake those that sleep before it takes another event. -/
def MainPc.Wakes : MainPc → Prop
  | .handling _ => True
  | .lockingToWake => True
  | .waking => True
  | _ => False

/-- The main thread has left its event loop. -/
def MainPc.Past : MainPc → Prop
  | .setStopped => True
  | .reportStopped => True
  | .sendStopped _ => True
  | .left => True
  | _ => False

theorem holds_afterLock (code : Nat) : (ControlState.afterLock code).Holds := by
  unfold ControlState.afterLock
  split
  · trivial
  · split <;> trivial

theorem holds_afterWait (code : Nat) : (ControlState.afterWait code).Holds := by
  unfold ControlState.afterWait
  split <;> trivial

/-- A state is pending only where an event will be posted. -/
theorem postedCode_of_pendingState {code : Nat} (pending : (pendingState code).isSome) :
    (postedCode code).isSome := by
  unfold pendingState at pending
  unfold postedCode
  split_ifs at pending ⊢ <;> simp_all

theorem posts_afterLock (code : Nat) : (ControlState.afterLock code).Posts := by
  unfold ControlState.afterLock
  split
  case isTrue pending => exact postedCode_of_pendingState pending
  case isFalse =>
      split
      case isTrue posted => exact posted
      case isFalse => trivial

theorem awaits_afterLock (code : Nat) : (ControlState.afterLock code).awaits = none := by
  unfold ControlState.afterLock
  split
  · rfl
  · split <;> rfl

theorem awaits_afterWait (code : Nat) : (ControlState.afterWait code).awaits = none := by
  unfold ControlState.afterWait
  split <;> rfl

theorem posts_afterWait (code : Nat) : (ControlState.afterWait code).Posts := by
  unfold ControlState.afterWait
  split <;> trivial

theorem posts_wake {pc : HandlerPc} (posts : pc.Posts) : (ControlState.wake pc).Posts := by
  cases pc <;> exact posts

/-- Only a thread that is about to sleep is still to sleep once all have been woken. -/
theorem awaits_wake {pc : HandlerPc} {code : Nat} (awaits : code ∈ (ControlState.wake pc).awaits) :
    pc.Holds := by
  cases pc <;> trivial

theorem holds_wake (pc : HandlerPc) : (ControlState.wake pc).Holds ↔ pc.Holds := by
  cases pc <;> exact Iff.rfl

namespace ControlState

variable {Handler : Type*}

/-- A thread, the main thread among them, holds the mutex where it is. -/
def Holds (control : ControlState Handler) : Option Handler → Prop
  | none => control.main.Holds
  | some thread => (control.handlers thread).Holds

/-- Where the threads are agrees with the owner of the mutex. -/
def Locked (control : ControlState Handler) : Prop := Agrees control.owner control.Holds

variable [DecidableEq Handler] {control : ControlState Handler} {thread : Handler}
  {event : ControlEvent Handler}

/-- Going elsewhere moves no other thread. -/
theorem holds_goTo_ne {agent : Option Handler} (other : agent ≠ some thread) (pc : HandlerPc) :
    (control.goTo thread pc).Holds agent ↔ control.Holds agent := by
  cases agent with
  | none => exact Iff.rfl
  | some another =>
      have different : another ≠ thread := fun same => other (congrArg some same)
      simp only [Holds, goTo, Function.update_of_ne different]

theorem holds_goTo_self (pc : HandlerPc) :
    (control.goTo thread pc).Holds (some thread) ↔ pc.Holds := by
  simp only [Holds, goTo, Function.update_self]

/-- A thread that goes elsewhere and holds the mutex as before. -/
theorem Locked.goTo (locked : control.Locked) {pc : HandlerPc}
    (same : pc.Holds ↔ (control.handlers thread).Holds) :
    Agrees control.owner (control.goTo thread pc).Holds := by
  refine locked.keep fun agent => ?_
  by_cases isThread : agent = some thread
  · subst isThread
    exact (holds_goTo_self pc).trans same
  · exact holds_goTo_ne isThread pc

/-- A thread goes on with the mutex, which was free. -/
theorem Locked.locks (locked : control.Locked) (free : control.owner = none) {pc : HandlerPc}
    (holds : pc.Holds) : Agrees (some (some thread)) (control.goTo thread pc).Holds :=
  locked.lock free (some thread) ((holds_goTo_self pc).mpr holds)
    fun _ different => holds_goTo_ne different pc

/-- A thread that holds the mutex goes on without it. -/
theorem Locked.unlocks (locked : control.Locked) (held : (control.handlers thread).Holds)
    {pc : HandlerPc} (without : ¬ pc.Holds) : Agrees none (control.goTo thread pc).Holds :=
  locked.unlock (some thread) held (fun holds => without ((holds_goTo_self pc).mp holds))
    fun _ different => holds_goTo_ne different pc

theorem Locked.handlerStep (locked : control.Locked) (ready : control.HandlerReady thread) :
    (control.handlerStep thread).Locked := by
  unfold HandlerReady at ready
  unfold ControlState.handlerStep Locked
  cases pc : control.handlers thread <;> simp only [pc] at ready ⊢
  case locking code => exact locked.locks ready (holds_afterLock code)
  case woken code => exact locked.locks ready (holds_afterWait code)
  case enterWait code => exact locked.unlocks (by rw [pc]; trivial) id
  case unlocking => exact locked.unlocks (by rw [pc]; trivial) id
  case checking =>
      refine locked.goTo ?_
      rw [pc]
      split <;> exact Iff.rfl
  -- the other operations leave the mutex alone
  all_goals exact locked.goTo (by rw [pc]; exact Iff.rfl)

omit [DecidableEq Handler] in
theorem Locked.mainStep (locked : control.Locked) (ready : control.MainReady) :
    control.mainStep.Locked := by
  unfold MainReady at ready
  unfold ControlState.mainStep Locked
  have others : ∀ other : Option Handler, other ≠ none → ∀ main : MainPc,
      ({ control with main := main }.Holds other ↔ control.Holds other) := by
    intro other different main
    cases other with
    | none => exact absurd rfl different
    | some thread => exact Iff.rfl
  have keeps : ∀ main : MainPc, (main.Holds ↔ control.main.Holds) →
      Agrees control.owner { control with main := main }.Holds := by
    intro main same
    refine locked.keep fun agent => ?_
    cases agent with
    | none => exact same
    | some thread => exact Iff.rfl
  cases pc : control.main <;> simp only [pc] at ready ⊢
  case handling code => exact keeps .lockingToWake (by rw [pc]; exact Iff.rfl)
  case lockingToWake =>
      exact locked.lock ready none trivial fun other different => others other different .waking
  case waking =>
      refine locked.keep fun agent => ?_
      cases agent with
      | none => simp only [Holds, pc, MainPc.Holds]
      | some thread => exact holds_wake _
  case unlocking =>
      have held : control.Holds none := by
        simp only [Holds, pc]
        trivial
      exact locked.unlock none held id fun other different => others other different .loop
  case setStopped => exact keeps .reportStopped (by rw [pc]; exact Iff.rfl)
  case reportStopped => exact keeps (.sendStopped control.state) (by rw [pc]; exact Iff.rfl)
  case sendStopped => exact keeps .left (by rw [pc]; exact Iff.rfl)

theorem Locked.step (locked : control.Locked) (enabled : control.Enabled event) :
    (control.step event).Locked := by
  cases event with
  | control thread code =>
      have idle : control.handlers thread = .idle := enabled
      exact locked.goTo (by rw [idle]; exact Iff.rfl)
  | handler thread => exact locked.handlerStep enabled
  | take =>
      obtain ⟨inLoop, -⟩ := enabled
      simp only [ControlState.step]
      split
      · exact locked
      · refine locked.keep fun agent => ?_
        cases agent with
        | none =>
            simp only [Holds, inLoop]
            exact Iff.rfl
        | some thread => exact Iff.rfl
  | leave =>
      refine locked.keep fun agent => ?_
      cases agent with
      | none =>
          simp only [ControlState.step, Holds, enabled.1]
          exact Iff.rfl
      | some thread => exact Iff.rfl
  | main => exact locked.mainStep enabled
  | quit => exact locked

/-! ### The threads that sleep -/

/-- The event of a thread stands in the queue, or the main thread is about to wake the
thread, or it has left its event loop. -/
def Answered (control : ControlState Handler) (thread : Handler) (code : Nat) : Prop :=
  (∃ posted ∈ postedCode code, (thread, posted) ∈ control.queue) ∨
    control.main.Wakes ∨ control.main.Past

/-- The mutex is held by its owner alone, and each thread that sleeps will be answered. -/
structure Attended (control : ControlState Handler) : Prop where
  locked : control.Locked
  posts : ∀ thread, (control.handlers thread).Posts
  answered : ∀ thread, ∀ code ∈ (control.handlers thread).awaits, control.Answered thread code

omit [DecidableEq Handler] in
theorem attended_initial : (initial : ControlState Handler).Attended where
  locked := by
    intro agent
    cases agent <;> exact ⟨fun holds => holds.elim, fun owns => by cases owns⟩
  posts := fun _ => trivial
  answered := fun thread code awaits => by cases awaits

/-- A handler's operation leaves the other threads and the main thread where they are, and
takes no event from the queue. -/
theorem frame_handlerStep (control : ControlState Handler) (thread : Handler) :
    (∀ other ≠ thread,
      (control.handlerStep thread).handlers other = control.handlers other) ∧
      (control.handlerStep thread).main = control.main ∧
      control.queue ⊆ (control.handlerStep thread).queue := by
  unfold ControlState.handlerStep
  cases control.handlers thread
  case idle => exact ⟨fun _ _ => rfl, rfl, fun _ member => member⟩
  case waiting => exact ⟨fun _ _ => rfl, rfl, fun _ member => member⟩
  case posting =>
      exact ⟨fun _ different => Function.update_of_ne different _ _, rfl,
        fun _ member => List.mem_append_left _ member⟩
  all_goals
    exact ⟨fun _ different => Function.update_of_ne different _ _, rfl, fun _ member => member⟩

/-- What holds of a thread after its operation, and of the others before it, holds of all
threads after it. -/
theorem forall_handlerStep (holds : Handler → HandlerPc → Prop)
    (own : holds thread ((control.handlerStep thread).handlers thread))
    (others : ∀ other ≠ thread, holds other (control.handlers other)) (other : Handler) :
    holds other ((control.handlerStep thread).handlers other) := by
  by_cases same : other = thread
  · rw [same]
    exact own
  · rw [(frame_handlerStep control thread).1 other same]
    exact others other same

/-- The thread itself: it posts its event before it sleeps. -/
theorem own_handlerStep (posts : (control.handlers thread).Posts)
    (ready : control.HandlerReady thread) :
    ((control.handlerStep thread).handlers thread).Posts ∧
      ∀ code ∈ ((control.handlerStep thread).handlers thread).awaits,
        code ∈ (control.handlers thread).awaits ∨
          ∃ posted ∈ postedCode code, (thread, posted) ∈ (control.handlerStep thread).queue := by
  unfold HandlerReady at ready
  unfold ControlState.handlerStep
  cases pc : control.handlers thread <;>
    simp only [pc, ControlState.goTo, Function.update_self] at ready posts ⊢
  case locking code =>
      exact ⟨posts_afterLock code, fun other awaits => by
        rw [awaits_afterLock] at awaits
        cases awaits⟩
  case setPending code => exact ⟨posts, fun _ awaits => by cases awaits⟩
  case reportPending code => exact ⟨posts, fun _ awaits => by cases awaits⟩
  case sendPending code => exact ⟨posts, fun _ awaits => by cases awaits⟩
  case posting code =>
      obtain ⟨posted, isPosted⟩ := Option.isSome_iff_exists.mp posts
      refine ⟨trivial, fun other awaits => Or.inr ⟨posted, ?_, ?_⟩⟩
      · cases awaits
        exact isPosted
      · refine List.mem_append_right _ (List.mem_map.mpr ⟨posted, ?_, rfl⟩)
        rw [isPosted]
        exact List.mem_singleton_self posted
  case enterWait code => exact ⟨trivial, fun _ awaits => Or.inl awaits⟩
  case woken code =>
      exact ⟨posts_afterWait code, fun other awaits => by
        rw [awaits_afterWait] at awaits
        cases awaits⟩
  case checking =>
      split <;> exact ⟨trivial, fun _ awaits => by cases awaits⟩
  all_goals exact ⟨trivial, fun _ awaits => by cases awaits⟩

theorem Attended.handlerStep (attended : control.Attended)
    (ready : control.HandlerReady thread) : (control.handlerStep thread).Attended := by
  obtain ⟨others, main, queue⟩ := frame_handlerStep control thread
  obtain ⟨posts, awaited⟩ := own_handlerStep (attended.posts thread) ready
  have kept : ∀ other code, control.Answered other code →
      (control.handlerStep thread).Answered other code := by
    intro other code answered
    unfold Answered
    rw [main]
    exact answered.imp_left fun ⟨posted, isPosted, member⟩ => ⟨posted, isPosted, queue member⟩
  refine ⟨attended.locked.handlerStep ready,
    forall_handlerStep (fun _ pc => pc.Posts) posts fun other _ => attended.posts other,
    fun other code awaits => ?_⟩
  · by_cases same : other = thread
    · rw [same] at awaits ⊢
      rcases awaited code awaits with before | inQueue
      · exact kept thread code (attended.answered thread code before)
      · exact Or.inl inQueue
    · rw [others other same] at awaits
      exact kept other code (attended.answered other code awaits)

omit [DecidableEq Handler] in
/-- The main thread holds the mutex as it wakes, so no thread is on its way to sleep. -/
theorem Attended.mainStep (attended : control.Attended) (ready : control.MainReady) :
    control.mainStep.Attended := by
  refine ⟨attended.locked.mainStep ready, fun thread => ?_, fun thread code awaits => ?_⟩
  · have posts := attended.posts thread
    unfold ControlState.mainStep
    cases control.main <;> try exact posts
    exact posts_wake posts
  · have answered := attended.answered thread code
    have wakesNow : control.main = .waking → (control.handlers thread).Holds → False := by
      intro main holds
      have mainHolds : control.Holds none := by
        simp only [Holds, main]
        trivial
      have same := @Agrees.unique _ _ _ none (some thread) attended.locked mainHolds holds
      cases same
    unfold MainReady at ready
    unfold ControlState.mainStep at awaits ⊢
    unfold Answered at answered ⊢
    cases pc : control.main <;> simp only [pc] at ready awaits answered ⊢
    case handling => exact Or.inr (Or.inl trivial)
    case lockingToWake => exact Or.inr (Or.inl trivial)
    case waking => exact (wakesNow pc (awaits_wake awaits)).elim
    case unlocking =>
        have inQueue := (answered awaits).resolve_right fun no => no.elim id id
        exact Or.inl inQueue
    case setStopped => exact Or.inr (Or.inr trivial)
    case reportStopped => exact Or.inr (Or.inr trivial)
    case sendStopped => exact Or.inr (Or.inr trivial)

theorem Attended.step (attended : control.Attended) (enabled : control.Enabled event) :
    (control.step event).Attended := by
  cases event with
  | control thread code =>
      refine ⟨attended.locked.step enabled, fun other => ?_, fun other awaited awaits => ?_⟩
      · by_cases same : other = thread
        · simp only [ControlState.step, ControlState.goTo, same, Function.update_self]
          trivial
        · simp only [ControlState.step, ControlState.goTo, Function.update_of_ne same]
          exact attended.posts other
      · by_cases same : other = thread
        · simp only [ControlState.step, ControlState.goTo, same, Function.update_self] at awaits
          cases awaits
        · simp only [ControlState.step, ControlState.goTo, Function.update_of_ne same] at awaits
          exact attended.answered other awaited awaits
  | handler thread => exact attended.handlerStep enabled
  | take =>
      refine ⟨attended.locked.step enabled, ?_, ?_⟩
      · simp only [ControlState.step]
        split <;> exact attended.posts
      · intro thread code awaits
        simp only [ControlState.step] at awaits ⊢
        split at awaits
        case h_1 empty => exact absurd empty enabled.2
        case h_2 => exact Or.inr (Or.inl trivial)
  | leave =>
      exact ⟨attended.locked.step enabled, attended.posts, fun _ _ _ => Or.inr (Or.inr trivial)⟩
  | main => exact attended.mainStep enabled
  | quit => exact ⟨attended.locked, attended.posts, attended.answered⟩

section Ahead

variable [Fintype Handler]

end Ahead

end ControlState

/-! ### Runs -/

open ControlState

variable {Handler : Type*} [DecidableEq Handler] {events more : List (ControlEvent Handler)}

theorem attended_run (legal : Always step Enabled (@initial Handler) events) :
    (run step initial events).Attended :=
  invariant_run (fun _ _ attended enabled => attended.step enabled) attended_initial legal

/-- **No wakeup is lost.** In every interleaving, where a handler thread sleeps, its event
stands in the queue, or the main thread has taken an event and not yet woken those that
sleep, or it has left its event loop. -/
theorem no_lost_wakeup (legal : Always step Enabled (@initial Handler) events)
    {thread : Handler} {code : Nat}
    (sleeps : (run step initial events).handlers thread = .waiting code) :
    let control := run step initial events
    (∃ posted, postedCode code = some posted ∧ (thread, posted) ∈ control.queue) ∨
      control.main.Wakes ∨ control.main.Past := by
  have awaits : code ∈ ((run step initial events).handlers thread).awaits := by
    rw [sleeps]
    rfl
  exact (attended_run legal).answered thread code awaits

/-- The main thread has handled the startup event, and waits for the mutex, before the
handler that posted the event sleeps. -/
theorem no_lost_wakeup_early :
    let control := run step (@initial Unit) [.control () startupCode, .handler (), .handler (),
      .handler (), .handler (), .handler (), .take, .main, .handler ()]
    control.calls = [.start] ∧ control.queue = [] ∧
      ((∃ posted, postedCode startupCode = some posted ∧ ((), posted) ∈ control.queue) ∨
        control.main.Wakes ∨ control.main.Past) := by
  have legal : Always step Enabled (@initial Unit) [.control () startupCode, .handler (),
      .handler (), .handler (), .handler (), .handler (), .take, .main, .handler ()] :=
    ⟨rfl, rfl, trivial, trivial, trivial, trivial, ⟨rfl, List.cons_ne_nil _ _⟩, trivial, trivial,
      trivial⟩
  exact ⟨rfl, rfl, no_lost_wakeup legal rfl⟩

end WatchDog
