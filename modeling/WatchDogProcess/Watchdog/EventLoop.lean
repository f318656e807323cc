import WatchDogProcess.Watchdog.Scheduling

/-! # The event loop: reports, waiting and single-shot timers

The loop handles reports at any times and calls the slot of each single-shot
timer exactly when it is due. Time passes only up to the first timer due, so
timers and reports of one moment come in either order. The loop keeps every
timer ever started and every timer called, in order.
-/

namespace WatchDog

structure EventLoop where
  now : Nat
  watchdog : ProctoringWatchDog
  pending : List Timer
  started : List Timer
  called : List Timer

inductive LoopEvent where
  | wait (moment : Nat)
  | call (timer : Timer)
  | report (isRunning : Bool) (reads : ReportReads)

/-- The loop of a watchdog constructed at some moment. -/
def EventLoop.start (began : Nat) (initial : ConstructorReads) : EventLoop where
  now := began
  watchdog := ProctoringWatchDog.construct began initial
  pending := []
  started := []
  called := []

/-- Time does not go back or past a pending timer, and a timer is called when it is due. -/
def LoopEvent.Legal (loop : EventLoop) : LoopEvent → Prop
  | .wait moment => loop.now ≤ moment ∧ ∀ timer ∈ loop.pending, moment ≤ timer.due
  | .call timer => timer ∈ loop.pending ∧ timer.due = loop.now
  | .report _ _ => True

instance (loop : EventLoop) : (event : LoopEvent) → Decidable (event.Legal loop)
  | .wait _ => inferInstanceAs (Decidable (_ ∧ _))
  | .call _ => inferInstanceAs (Decidable (_ ∧ _))
  | .report _ _ => .isTrue trivial

def loopStep (platform : Platform) (loop : EventLoop) : LoopEvent → EventLoop
  | .wait moment => { loop with now := moment }
  | .call timer =>
      { loop with pending := loop.pending.erase timer, called := loop.called ++ [timer] }
  | .report isRunning reads =>
      let handled := onAppCrash platform ⟨loop.now, isRunning, reads⟩ loop.watchdog
      let timers := timersOf loop.now handled.effects
      { loop with
        watchdog := handled.watchdog
        pending := loop.pending ++ timers
        started := loop.started ++ timers }

end WatchDog
