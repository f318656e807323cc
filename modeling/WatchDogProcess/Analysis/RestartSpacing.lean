import WatchDogProcess.Watchdog.EventLoop

/-! # Restarts never overlap

The timers of a restart are due within one second and restarts are at least ten
seconds apart, so the timers pending at any moment are the last ones of the last
restart. In every run of the event loop the timers called so far, followed by
those still pending, are the kills and launches of the scheduled restarts in
order (`WatchDog.RestartQueue`), which gives the spacing of the restarts, the
bound on the pending timers and the strict alternation of kills and launches
(`WatchDog.restarts_never_overlap`).
-/

namespace WatchDog

open EventRun Stopwatch

/-- What holds of the timers at every moment, for the times of the restarts
scheduled so far. -/
structure RestartQueue (began : Nat) (loop : EventLoop) (restarts : List Nat) : Prop where
  spaced : Spaced 10000 (began :: restarts)
  bounded : ∀ time ∈ began :: restarts, time ≤ loop.watchdog.waitForAppToLaunch
  started : loop.started = restarts.flatMap restartPair
  calledInOrder : loop.called ++ loop.pending = loop.started
  pendingLast : loop.pending <:+ restartPair loop.watchdog.waitForAppToLaunch
  notPast : ∀ timer ∈ loop.pending, loop.now ≤ timer.due

theorem restartQueue_start (began : Nat) (initial : ConstructorReads) :
    RestartQueue began (.start began initial) [] where
  spaced := List.pairwise_singleton _ _
  bounded := by
    intro time member
    exact (List.mem_singleton.mp member).le
  started := rfl
  calledInOrder := rfl
  pendingLast := List.nil_suffix
  notPast := by
    intro timer member
    exact absurd member List.not_mem_nil

/-- The last timers of a restart: none, the launch, or both. -/
theorem suffix_restartPair {pending : List Timer} {now : Nat}
    (last : pending <:+ restartPair now) :
    pending = [] ∨ pending = [⟨now, now + 1000, .launchApp⟩] ∨ pending = restartPair now := by
  rw [restartPair, List.suffix_cons_iff, List.suffix_cons_iff, List.suffix_nil] at last
  rcases last with both | launch | none
  · exact Or.inr (Or.inr both)
  · exact Or.inr (Or.inl launch)
  · exact Or.inl none

/-- Ten seconds after the stopwatch was started no timer is pending. -/
theorem RestartQueue.pending_nil {began : Nat} {loop : EventLoop} {restarts : List Nat}
    (queue : RestartQueue began loop restarts)
    (late : loop.watchdog.waitForAppToLaunch + 10000 ≤ loop.now) : loop.pending = [] := by
  rcases suffix_restartPair queue.pendingLast with none | launch | both
  · exact none
  · have soon := queue.notPast ⟨_, _, .launchApp⟩ (by rw [launch]; exact List.mem_singleton_self _)
    simp only at soon
    omega
  · have soon := queue.notPast ⟨_, _, .launchApp⟩
      (by rw [both]; exact List.mem_cons_of_mem _ (List.mem_singleton_self _))
    simp only at soon
    omega

/-- A timer that is due is the first one pending. -/
theorem RestartQueue.call_head {began : Nat} {loop : EventLoop} {restarts : List Nat}
    (queue : RestartQueue began loop restarts) {timer : Timer} (member : timer ∈ loop.pending)
    (due : timer.due = loop.now) : ∃ rest, loop.pending = timer :: rest := by
  rcases suffix_restartPair queue.pendingLast with none | launch | both
  · rw [none] at member
    exact absurd member List.not_mem_nil
  · rw [launch] at member ⊢
    rw [List.mem_singleton.mp member]
    exact ⟨[], rfl⟩
  · rw [both, restartPair, List.mem_cons, List.mem_singleton] at member
    rcases member with rfl | rfl
    · rw [both]
      exact ⟨_, rfl⟩
    · -- the launch is due 900 ms after the kill, which would be overdue
      have kill := queue.notPast ⟨_, _, .killProctortrackIfNotResponding⟩
        (by rw [both]; exact List.mem_cons_self)
      simp only at kill due
      omega

section Step

variable (platform : Platform) {began : Nat} {loop : EventLoop} {restarts : List Nat}

/-- Calling the timer that is due takes it from the front of the queue. -/
theorem RestartQueue.call (queue : RestartQueue began loop restarts) {timer : Timer}
    (member : timer ∈ loop.pending) (due : timer.due = loop.now) :
    RestartQueue began (loopStep platform loop (.call timer)) restarts := by
  obtain ⟨rest, head⟩ := queue.call_head member due
  have tail : (loopStep platform loop (.call timer)).pending = rest := by
    simp only [loopStep, head, List.erase_cons_head]
  refine { queue with calledInOrder := ?_, pendingLast := ?_, notPast := ?_ }
  · have before := queue.calledInOrder
    rw [head] at before
    rw [tail]
    simp only [loopStep, List.append_assoc, List.singleton_append, before]
  · rw [tail]
    exact (head ▸ List.suffix_cons timer rest).trans queue.pendingLast
  · rw [tail]
    intro other isLater
    exact queue.notPast other (head ▸ List.mem_cons_of_mem _ isLater)

variable {isRunning : Bool} {reads : ReportReads}

/-- A report that starts no timer leaves the queue as it is. -/
theorem RestartQueue.quietReport (queue : RestartQueue began loop restarts)
    (none : timersOf loop.now
      (onAppCrash platform ⟨loop.now, isRunning, reads⟩ loop.watchdog).effects = [])
    (same : (onAppCrash platform ⟨loop.now, isRunning, reads⟩
      loop.watchdog).watchdog.waitForAppToLaunch = loop.watchdog.waitForAppToLaunch) :
    RestartQueue began (loopStep platform loop (.report isRunning reads)) restarts where
  spaced := queue.spaced
  bounded := by simpa only [loopStep, same] using queue.bounded
  started := by simpa only [loopStep, none, List.append_nil] using queue.started
  calledInOrder := by simpa only [loopStep, none, List.append_nil] using queue.calledInOrder
  pendingLast := by simpa only [loopStep, none, List.append_nil, same] using queue.pendingLast
  notPast := by simpa only [loopStep, none, List.append_nil] using queue.notPast

/-- A report that restarts finds the queue empty and fills it. -/
theorem RestartQueue.restartReport (queue : RestartQueue began loop restarts)
    (pair : timersOf loop.now (onAppCrash platform ⟨loop.now, isRunning, reads⟩
      loop.watchdog).effects = restartPair loop.now)
    (restarted : (onAppCrash platform ⟨loop.now, isRunning, reads⟩
      loop.watchdog).watchdog.waitForAppToLaunch = loop.now)
    (late : loop.watchdog.waitForAppToLaunch + 10000 ≤ loop.now) :
    RestartQueue began (loopStep platform loop (.report isRunning reads))
      (restarts ++ [loop.now]) := by
  have empty := queue.pending_nil late
  constructor
  · exact queue.spaced.concat queue.bounded late
  · intro time member
    simp only [loopStep, restarted]
    rw [← List.cons_append, List.mem_append, List.mem_singleton] at member
    rcases member with earlier | rfl
    · exact (queue.bounded time earlier).trans (by omega)
    · exact Nat.le_refl _
  · simp only [loopStep, pair, queue.started, List.flatMap_append, List.flatMap_singleton]
  · have done := queue.calledInOrder
    rw [empty, List.append_nil] at done
    simp only [loopStep, pair, empty, List.nil_append, done]
  · simp only [loopStep, pair, empty, List.nil_append, restarted]
    exact List.suffix_refl _
  · intro timer member
    simp only [loopStep, pair, empty, List.nil_append, restartPair, List.mem_cons,
      List.not_mem_nil, or_false] at member
    rcases member with rfl | rfl <;> simp only [loopStep] <;> omega

/-- One legal event keeps the queue in order. -/
theorem restartQueue_step (queue : RestartQueue began loop restarts) (event : LoopEvent)
    (legal : event.Legal loop) :
    ∃ later, RestartQueue began (loopStep platform loop event) later := by
  cases event with
  | wait moment => exact ⟨restarts, { queue with notPast := legal.2 }⟩
  | call timer => exact ⟨restarts, queue.call platform legal.1 legal.2⟩
  | report isRunning reads =>
      rcases onAppCrash_restartsOnce platform ⟨loop.now, isRunning, reads⟩ loop.watchdog with
        ⟨none, same⟩ | ⟨pair, restarted, late⟩
      · exact ⟨restarts, queue.quietReport platform none same⟩
      · exact ⟨restarts ++ [loop.now], queue.restartReport platform pair restarted late⟩

end Step

/-- The queue is in order after every legal run. -/
theorem restartQueue_run (platform : Platform) (began : Nat) (initial : ConstructorReads)
    {events : List LoopEvent}
    (legal : Always (loopStep platform) (fun loop event => event.Legal loop)
      (.start began initial) events) :
    ∃ restarts, RestartQueue began (run (loopStep platform) (.start began initial) events)
      restarts := by
  have kept : ∀ loop event, (∃ restarts, RestartQueue began loop restarts) →
      event.Legal loop →
        ∃ restarts, RestartQueue began (loopStep platform loop event) restarts := by
    rintro loop event ⟨restarts, queue⟩ allowed
    exact restartQueue_step platform queue event allowed
  exact invariant_run kept ⟨[], restartQueue_start began initial⟩ legal

/-! ### The order of kills and launches -/

/-- Whether a timer kills, as a condition on its slot. -/
def Timer.kills (timer : Timer) : Bool := timer.slot = .killProctortrackIfNotResponding

def Timer.launches (timer : Timer) : Bool := timer.slot = .launchApp

/-- The timers of successive restarts alternate between kills and launches. -/
theorem flatMap_restartPair_alternates (restarts : List Nat) (index : Nat) (timer : Timer)
    (found : (restarts.flatMap restartPair)[index]? = some timer) :
    timer.slot = if index % 2 = 0 then .killProctortrackIfNotResponding else .launchApp := by
  induction restarts generalizing index with
  | nil => exact absurd found (by simp)
  | cons restart restarts ih =>
      rw [List.flatMap_cons, restartPair, List.cons_append, List.cons_append,
        List.nil_append] at found
      cases index with
      | zero =>
          rw [← Option.some.inj found]
          rfl
      | succ index =>
          cases index with
          | zero =>
              rw [← Option.some.inj found]
              rfl
          | succ index =>
              rw [ih index found]
              simp only [Nat.add_assoc, Nat.reduceAdd, Nat.add_mod_right]

/-- A kill after a launch belongs to a later restart. -/
theorem flatMap_restartPair_fresh {restarts : List Nat} (spaced : Spaced 10000 restarts) :
    (restarts.flatMap restartPair).Pairwise fun earlier later =>
      earlier.launches = true → later.kills = true → earlier.started < later.started := by
  rw [List.pairwise_flatMap]
  constructor
  · intro restart _
    simp [restartPair, Timer.launches]
  · refine spaced.imp ?_
    intro first second apart earlier inFirst later inSecond _ _
    have isFirst : earlier.started = first := by
      simp only [restartPair, List.mem_cons, List.not_mem_nil, or_false] at inFirst
      rcases inFirst with rfl | rfl <;> rfl
    have isSecond : later.started = second := by
      simp only [restartPair, List.mem_cons, List.not_mem_nil, or_false] at inSecond
      rcases inSecond with rfl | rfl <;> rfl
    rw [isFirst, isSecond]
    omega

/-- At most one kill and one launch are pending, and with a kill its launch. -/
theorem suffix_restartPair_pending {pending : List Timer} {now : Nat}
    (last : pending <:+ restartPair now) :
    pending.countP Timer.kills ≤ 1 ∧ pending.countP Timer.launches ≤ 1 ∧
      ∀ kill ∈ pending, kill.kills = true →
        ∃ launch ∈ pending, launch.launches = true ∧ launch.started = kill.started := by
  rcases suffix_restartPair last with rfl | rfl | rfl
  · simp
  · simp [Timer.kills, Timer.launches]
  · simp [restartPair, Timer.kills, Timer.launches]

/-- **Restarts never overlap.** In every run of the event loop the scheduled
restarts are at least ten seconds apart and the first is at least ten seconds
after construction; at most one kill and one launch are pending, a kill never
without the launch of its restart; and the timers called are the kills and
launches of the restarts in order, so that kills and launches strictly alternate
and a kill called after a launch belongs to a later restart. -/
theorem restarts_never_overlap (platform : Platform) (began : Nat) (initial : ConstructorReads)
    (events : List LoopEvent)
    (legal : Always (loopStep platform) (fun loop event => event.Legal loop)
      (.start began initial) events) :
    let loop := run (loopStep platform) (.start began initial) events
    ∃ restarts, loop.started = restarts.flatMap restartPair ∧
      Spaced 10000 restarts ∧ (∀ restart ∈ restarts, began + 10000 ≤ restart) ∧
      loop.pending.countP Timer.kills ≤ 1 ∧ loop.pending.countP Timer.launches ≤ 1 ∧
      (∀ kill ∈ loop.pending, kill.kills = true →
        ∃ launch ∈ loop.pending, launch.launches = true ∧ launch.started = kill.started) ∧
      loop.called ++ loop.pending = loop.started ∧
      (∀ index timer, loop.called[index]? = some timer →
        timer.slot = if index % 2 = 0 then .killProctortrackIfNotResponding else .launchApp) ∧
      loop.called.Pairwise fun earlier later =>
        earlier.launches = true → later.kills = true → earlier.started < later.started := by
  intro loop
  obtain ⟨restarts, queue⟩ := restartQueue_run platform began initial legal
  obtain ⟨first, spaced⟩ := List.pairwise_cons.mp queue.spaced
  obtain ⟨kills, launches, together⟩ := suffix_restartPair_pending queue.pendingLast
  have whole : loop.called ++ loop.pending = restarts.flatMap restartPair :=
    queue.calledInOrder.trans queue.started
  refine ⟨restarts, queue.started, spaced, first, kills, launches, together,
    queue.calledInOrder, ?_, ?_⟩
  · intro index timer found
    obtain ⟨inside, _⟩ := List.getElem?_eq_some_iff.mp found
    apply flatMap_restartPair_alternates restarts index timer
    rw [← whole, List.getElem?_append_left inside, found]
  · exact (flatMap_restartPair_fresh spaced).sublist (whole ▸ List.sublist_append_left ..)

/-- A report of a missing application in `STEP2`, with no status file. -/
def missingInExam : LoopEvent :=
  .report false (.of (.text (some (KeyedRecord.set KeyedRecord.empty "app_current_step"
    (.string "STEP2")))) .missing)

/-- A report too early to restart, one that restarts, and the two timers called. -/
def oneRestart : List LoopEvent :=
  [.wait 9999, missingInExam, .wait 10000, missingInExam, .wait 10100,
    .call ⟨10000, 10100, .killProctortrackIfNotResponding⟩, .wait 11000,
    .call ⟨10000, 11000, .launchApp⟩]

/-- The run with one restart, whose kill and launch are called in turn. -/
theorem restarts_never_overlap_oneRestart :
    let loop := run (loopStep .windows) (.start 0 ⟨.missing, .missing, .missing⟩) oneRestart
    loop.started = restartPair 10000 ∧
      ∃ restarts, loop.started = restarts.flatMap restartPair ∧
        Spaced 10000 restarts ∧ ∀ restart ∈ restarts, 0 + 10000 ≤ restart := by
  refine ⟨by decide, ?_⟩
  obtain ⟨restarts, started, spaced, first, _⟩ := restarts_never_overlap .windows 0
    ⟨.missing, .missing, .missing⟩ oneRestart (by decide)
  exact ⟨restarts, started, spaced, first⟩

end WatchDog
