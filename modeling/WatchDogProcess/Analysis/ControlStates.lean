import WatchDogProcess.Analysis.ControlWakeup

/-! # What the reported states say

Where control codes come one at a time, the state is what the service has been told: the
handler sets running only after the start or a resume, and paused only after a pause, and it
goes on only after the service has been called for its own event
(`WatchDog.state_follows_calls`). At most one thread is between its code and the end of its
wait: the thread in focus. Where the queue, the main thread and the calls stand follows from
where it is (`WatchDog.ControlState.PhaseAt`).
-/

namespace WatchDog

open EventRun MutexOwner

/-- The thread is neither before its wait nor at the state that it reports after it. -/
def HandlerPc.Quiet : HandlerPc → Prop
  | .idle => True
  | .unlocking => True
  | .checking => True
  | .reporting => True
  | .sending _ => True
  | _ => False

/-- The calls after which the service runs or is paused. -/
def modeCalls (calls : List ServiceCall) : List ServiceCall :=
  calls.filter fun call => call = .start ∨ call = .pause ∨ call = .resume

/-! ### The codes -/

/-- A state that is pending is neither running nor paused. -/
theorem pendingState_ne {code : Nat} {state : ServiceState}
    (pending : pendingState code = some state) : state ≠ .running ∧ state ≠ .paused := by
  unfold pendingState at pending
  split_ifs at pending <;> cases pending <;> decide

/-- The codes that the handler posts: its own, or that for stopping. -/
theorem postedCode_cases {code posted : Nat} (isPosted : postedCode code = some posted) :
    (code = startupCode ∧ posted = startupCode) ∨ (code = controlStop ∧ posted = controlStop) ∨
      (code = controlPause ∧ posted = controlPause) ∨
      (code = controlContinue ∧ posted = controlContinue) ∨
      (code = controlShutdown ∧ posted = controlStop) ∨
      (posted = code ∧ 128 ≤ code ∧ code ≤ 255) := by
  unfold postedCode at isPosted
  split_ifs at isPosted with own shutdown command
  · cases isPosted
    rcases own with startup | stop | pause | resume
    · exact Or.inl ⟨startup, startup⟩
    · exact Or.inr (Or.inl ⟨stop, stop⟩)
    · exact Or.inr (Or.inr (Or.inl ⟨pause, pause⟩))
    · exact Or.inr (Or.inr (Or.inr (Or.inl ⟨resume, resume⟩)))
  · cases isPosted
    exact Or.inr (Or.inr (Or.inr (Or.inr (Or.inl ⟨shutdown, rfl⟩))))
  · cases isPosted
    exact Or.inr (Or.inr (Or.inr (Or.inr (Or.inr ⟨rfl, command⟩))))

/-- A user's code is none of the others. -/
theorem command_code {code : Nat} (command : 128 ≤ code ∧ code ≤ 255) :
    pendingState code = none ∧ finalState code = none ∧
      handledCall code = some (.processCommand (code - 128)) := by
  have startup : code ≠ startupCode := by unfold startupCode; omega
  have stop : code ≠ controlStop := by unfold controlStop; omega
  have pause : code ≠ controlPause := by unfold controlPause; omega
  have resume : code ≠ controlContinue := by unfold controlContinue; omega
  simp only [pendingState, finalState, handledCall, startup, stop, pause, resume, command, and_self,
    if_true, if_false]

theorem handledCall_of_posted {code posted : Nat} (isPosted : postedCode code = some posted) :
    ∃ call, handledCall posted = some call := by
  rcases postedCode_cases isPosted with
    ⟨-, rfl⟩ | ⟨-, rfl⟩ | ⟨-, rfl⟩ | ⟨-, rfl⟩ | ⟨-, rfl⟩ | ⟨rfl, command⟩
  · exact ⟨.start, rfl⟩
  · exact ⟨.stop, rfl⟩
  · exact ⟨.pause, rfl⟩
  · exact ⟨.resume, rfl⟩
  · exact ⟨.stop, rfl⟩
  · exact ⟨_, (command_code command).2.2⟩

/-- An event without a pending state starts, pauses and resumes nothing. -/
theorem modeCalls_of_not_pending {code posted : Nat} (notPending : pendingState code = none)
    (isPosted : postedCode code = some posted) (calls : List ServiceCall) :
    modeCalls (calls ++ (handledCall posted).toList) = modeCalls calls := by
  have none : modeCalls (handledCall posted).toList = [] := by
    rcases postedCode_cases isPosted with
      ⟨rfl, -⟩ | ⟨rfl, -⟩ | ⟨rfl, -⟩ | ⟨rfl, -⟩ | ⟨-, rfl⟩ | ⟨rfl, command⟩
    · cases notPending
    · cases notPending
    · cases notPending
    · cases notPending
    · rfl
    · rw [(command_code command).2.2]
      rfl
  unfold modeCalls at none ⊢
  rw [List.filter_append, none, List.append_nil]

theorem modeCalls_last {calls : List ServiceCall} {call : ServiceCall}
    (last : calls.getLast? = some call)
    (mode : call = .start ∨ call = .pause ∨ call = .resume) :
    (modeCalls calls).getLast? = some call := by
  obtain ⟨before, rfl⟩ := List.getLast?_eq_some_iff.mp last
  have kept : modeCalls [call] = [call] := by
    unfold modeCalls
    exact List.filter_eq_self.mpr fun other member => by
      rw [List.mem_singleton.mp member]
      exact decide_eq_true mode
  unfold modeCalls at kept ⊢
  rw [List.filter_append, kept, List.getLast?_concat]

/-- The state reached is that of the call for the event. -/
theorem modeCalls_of_finalState {code posted : Nat} {state : ServiceState}
    (final : finalState code = some state) (isPosted : postedCode code = some posted)
    {calls : List ServiceCall} (called : calls.getLast? = handledCall posted) :
    (state = .running → (modeCalls calls).getLast? = some .start ∨
      (modeCalls calls).getLast? = some .resume) ∧
      (state = .paused → (modeCalls calls).getLast? = some .pause) := by
  rcases postedCode_cases isPosted with
    ⟨rfl, rfl⟩ | ⟨rfl, -⟩ | ⟨rfl, rfl⟩ | ⟨rfl, rfl⟩ | ⟨rfl, -⟩ | ⟨rfl, command⟩
  · cases final
    exact ⟨fun _ => Or.inl (modeCalls_last called (Or.inl rfl)),
      fun paused => absurd paused (by decide)⟩
  · cases final
  · cases final
    exact ⟨fun running => absurd running (by decide),
      fun _ => modeCalls_last called (Or.inr (Or.inl rfl))⟩
  · cases final
    exact ⟨fun _ => Or.inr (modeCalls_last called (Or.inr (Or.inr rfl))),
      fun paused => absurd paused (by decide)⟩
  · cases final
  · rw [(command_code command).2.1] at final
    cases final

namespace ControlState

variable {Handler : Type*}

/-! ### The thread in focus -/

/-- The main thread handles no event and wakes nobody. -/
def MainRests (control : ControlState Handler) : Prop :=
  control.main = .loop ∨ control.main.Past

/-- There is no event to be handled. -/
def Resting (control : ControlState Handler) : Prop :=
  control.queue = [] ∧ control.MainRests

/-- While a code has a pending state, the state is neither running nor paused. -/
def Pending (control : ControlState Handler) (code : Nat) : Prop :=
  (pendingState code).isSome → control.state ≠ .running ∧ control.state ≠ .paused

/-- The last call of the service is the one for the event. -/
def Served (control : ControlState Handler) (posted : Nat) : Prop :=
  control.calls.getLast? = handledCall posted

/-- The event is in the queue, or is being handled, or has been handled. -/
def Asked (control : ControlState Handler) (thread : Handler) (posted : Nat) : Prop :=
  (control.queue = [(thread, posted)] ∧ control.MainRests) ∨
    (control.queue = [] ∧ control.main = .handling posted) ∨
    (control.queue = [] ∧ (control.main = .lockingToWake ∨ control.main = .waking) ∧
      control.Served posted)

/-- Where the others stand while the thread in focus is at a place. -/
def PhaseAt (control : ControlState Handler) (thread : Handler) : HandlerPc → Prop
  | .reportPending code => control.Resting ∧ control.Pending code
  | .sendPending code _ => control.Resting ∧ control.Pending code
  | .posting code => control.Resting ∧ control.Pending code
  | .enterWait code =>
      control.Pending code ∧ ∃ posted, postedCode code = some posted ∧ control.Asked thread posted
  | .waiting code =>
      control.Pending code ∧ ∃ posted, postedCode code = some posted ∧ control.Asked thread posted
  | .woken code =>
      control.queue = [] ∧ (control.main = .unlocking ∨ control.MainRests) ∧
        ∃ posted, postedCode code = some posted ∧ control.Served posted
  | .setFinal code =>
      control.Resting ∧ ∃ posted, postedCode code = some posted ∧ control.Served posted
  | _ => control.Resting

/-- The phase of the thread in focus; without one all rest. -/
def Phase (control : ControlState Handler) : Option Handler → Prop
  | none => control.Resting
  | some thread => control.PhaseAt thread (control.handlers thread)

/-- Running and paused are what the service was told last. -/
def FollowsCalls (control : ControlState Handler) : Prop :=
  (control.state = .running → (modeCalls control.calls).getLast? = some .start ∨
    (modeCalls control.calls).getLast? = some .resume) ∧
    (control.state = .paused → (modeCalls control.calls).getLast? = some .pause)

/-- Only the thread in focus is not quiet, and the rest follows from where it is. -/
structure Orderly (control : ControlState Handler) (focus : Option Handler) : Prop where
  attended : control.Attended
  quiet : ∀ thread, focus ≠ some thread → (control.handlers thread).Quiet
  phase : control.Phase focus
  follows : control.FollowsCalls

/-- A control code comes when the other handlers have set their states. -/
def OneAtATime (control : ControlState Handler) : ControlEvent Handler → Prop
  | .control thread _ => ∀ other ≠ thread, (control.handlers other).Quiet
  | _ => True

variable [DecidableEq Handler] {control : ControlState Handler} {thread : Handler}
  {focus : Option Handler} {event : ControlEvent Handler}

/-! ### The operations of a handler -/

/-- A handler's operation calls nothing and ends no loop. -/
theorem calls_handlerStep (control : ControlState Handler) (thread : Handler) :
    (control.handlerStep thread).calls = control.calls ∧
      (control.handlerStep thread).quitting = control.quitting := by
  unfold ControlState.handlerStep
  cases control.handlers thread <;> exact ⟨rfl, rfl⟩

/-- A quiet thread stays quiet, and leaves the queue and the state as they are. -/
theorem quiet_handlerStep (quiet : (control.handlers thread).Quiet) :
    ((control.handlerStep thread).handlers thread).Quiet ∧
      (control.handlerStep thread).queue = control.queue ∧
      (control.handlerStep thread).state = control.state := by
  unfold ControlState.handlerStep
  cases pc : control.handlers thread <;> simp only [pc] at quiet ⊢ <;> try exact quiet.elim
  case idle => exact ⟨trivial, trivial, trivial⟩
  case unlocking =>
      simp only [ControlState.goTo, Function.update_self]
      exact ⟨trivial, trivial, trivial⟩
  case checking =>
      simp only [ControlState.goTo, Function.update_self]
      refine ⟨?_, trivial, trivial⟩
      split <;> trivial
  case reporting =>
      simp only [ControlState.goTo, Function.update_self]
      exact ⟨trivial, trivial, trivial⟩
  case sending =>
      simp only [ControlState.goTo, Function.update_self]
      exact ⟨trivial, trivial, trivial⟩

/-- The thread in focus goes from phase to phase. -/
theorem phase_handlerStep (attended : control.Attended) (ready : control.HandlerReady thread)
    (phase : control.PhaseAt thread (control.handlers thread)) :
    (control.handlerStep thread).PhaseAt thread ((control.handlerStep thread).handlers thread) := by
  have posts := attended.posts thread
  have unlocked : control.owner = none → control.main ≠ .unlocking := by
    intro free main
    have holds : control.Holds none := by
      simp only [Holds, main]
      trivial
    exact attended.locked.free free holds
  unfold HandlerReady at ready
  unfold ControlState.handlerStep
  cases pc : control.handlers thread <;>
    simp only [pc, ControlState.goTo, Function.update_self] at ready posts phase ⊢
  case locking code =>
      unfold afterLock
      split
      · exact phase
      case isFalse notPending =>
          split
          · exact ⟨phase, fun pending => absurd pending notPending⟩
          · exact phase
  case setPending code =>
      refine ⟨phase, fun pending => ?_⟩
      obtain ⟨state, isPending⟩ := Option.isSome_iff_exists.mp pending
      simp only [isPending, Option.getD_some]
      exact pendingState_ne isPending
  case posting code =>
      obtain ⟨⟨queue, rests⟩, pending⟩ := phase
      obtain ⟨posted, isPosted⟩ := Option.isSome_iff_exists.mp posts
      refine ⟨pending, posted, isPosted, Or.inl ⟨?_, rests⟩⟩
      simp only [queue, isPosted, Option.toList_some, List.map_cons, List.map_nil, List.nil_append]
  case woken code =>
      obtain ⟨queue, main, served⟩ := phase
      have rests : control.MainRests := main.resolve_left (unlocked ready)
      unfold afterWait
      split
      · exact ⟨⟨queue, rests⟩, served⟩
      · exact ⟨queue, rests⟩
  case setFinal code => exact phase.1
  case checking => split <;> exact phase
  all_goals exact phase

/-- Once the thread in focus has been woken it sets the state that the service was told. -/
theorem follows_handlerStep (phase : control.PhaseAt thread (control.handlers thread))
    (follows : control.FollowsCalls) : (control.handlerStep thread).FollowsCalls := by
  unfold ControlState.handlerStep
  cases pc : control.handlers thread <;> simp only [pc] at phase ⊢
  case setPending code =>
      cases pending : pendingState code with
      | none => exact follows
      | some state =>
          obtain ⟨notRunning, notPaused⟩ := pendingState_ne pending
          exact ⟨fun running => absurd running notRunning, fun paused => absurd paused notPaused⟩
  case setFinal code =>
      obtain ⟨-, posted, isPosted, served⟩ := phase
      cases final : finalState code with
      | none => exact follows
      | some state => exact modeCalls_of_finalState final isPosted served
  all_goals exact follows

omit [DecidableEq Handler] in
/-- A phase is about the queue, the main thread, the calls and the state. -/
theorem PhaseAt.congr {next : ControlState Handler} {pc : HandlerPc}
    (phase : control.PhaseAt thread pc) (queue : next.queue = control.queue)
    (main : next.main = control.main) (calls : next.calls = control.calls)
    (state : next.state = control.state) : next.PhaseAt thread pc := by
  cases pc <;>
    simpa only [PhaseAt, Resting, MainRests, Pending, Asked, Served, queue, main, calls, state]
      using phase

theorem Orderly.handlerStep (orderly : control.Orderly focus)
    (ready : control.HandlerReady thread) : (control.handlerStep thread).Orderly focus := by
  obtain ⟨attended, quiet, phase, follows⟩ := orderly
  obtain ⟨others, main, -⟩ := frame_handlerStep control thread
  have calls := (calls_handlerStep control thread).1
  by_cases inFocus : focus = some thread
  · subst inFocus
    refine ⟨attended.handlerStep ready, fun other different => ?_,
      phase_handlerStep attended ready phase, follows_handlerStep phase follows⟩
    rw [others other fun same => different (congrArg some same.symm)]
    exact quiet other different
  · obtain ⟨quietNow, queue, state⟩ := quiet_handlerStep (quiet thread inFocus)
    refine ⟨attended.handlerStep ready,
      forall_handlerStep (fun other pc => focus ≠ some other → pc.Quiet) (fun _ => quietNow)
        fun other _ => quiet other, ?_, ?_⟩
    · cases focus with
      | none => simpa only [Phase, Resting, MainRests, queue, main] using phase
      | some other =>
          have different : other ≠ thread := fun same => inFocus (congrArg some same)
          simp only [Phase, others other different]
          exact PhaseAt.congr phase queue main calls state
    · unfold FollowsCalls
      rw [calls, state]
      exact follows

/-! ### The operations of the main thread -/

omit [DecidableEq Handler] in
/-- What the thread in focus is doing: it has no event, or it waits for its event, or it has
been woken. -/
theorem Phase.cases (phase : control.Phase focus) :
    control.Resting ∨
      (∃ thread, focus = some thread ∧ ∃ code ∈ (control.handlers thread).awaits,
        control.Pending code ∧
          ∃ posted, postedCode code = some posted ∧ control.Asked thread posted) ∨
      ∃ thread, focus = some thread ∧ ∃ code, control.handlers thread = .woken code ∧
        control.PhaseAt thread (.woken code) := by
  cases focus with
  | none => exact Or.inl phase
  | some thread =>
      unfold Phase at phase
      cases pc : control.handlers thread <;> simp only [pc] at phase
      case reportPending => exact Or.inl phase.1
      case sendPending => exact Or.inl phase.1
      case posting => exact Or.inl phase.1
      case enterWait code => exact Or.inr (Or.inl ⟨thread, rfl, code, by rw [pc]; rfl, phase⟩)
      case waiting code => exact Or.inr (Or.inl ⟨thread, rfl, code, by rw [pc]; rfl, phase⟩)
      case woken code => exact Or.inr (Or.inr ⟨thread, rfl, code, pc, phase⟩)
      case setFinal => exact Or.inl phase.1
      all_goals exact Or.inl phase

omit [DecidableEq Handler] in
theorem phaseAt_of_awaits {code posted : Nat} {pc : HandlerPc} (awaits : code ∈ pc.awaits)
    (pending : control.Pending code) (isPosted : postedCode code = some posted)
    (asked : control.Asked thread posted) : control.PhaseAt thread pc := by
  cases pc <;> cases awaits <;> exact ⟨pending, posted, isPosted, asked⟩

omit [DecidableEq Handler] in
/-- While the thread in focus is quiet all rest. -/
theorem phaseAt_quiet {pc : HandlerPc} (quiet : pc.Quiet) :
    control.PhaseAt thread pc ↔ control.Resting := by
  cases pc <;> first
    | exact quiet.elim
    | exact Iff.rfl

omit [DecidableEq Handler] in
theorem phase_quiet (quiet : ∀ thread, focus = some thread → (control.handlers thread).Quiet) :
    control.Phase focus ↔ control.Resting := by
  cases focus with
  | none => exact Iff.rfl
  | some thread => exact phaseAt_quiet (quiet thread rfl)

omit [DecidableEq Handler] in
theorem quiet_wake {pc : HandlerPc} (quiet : pc.Quiet) : (wake pc).Quiet := by
  cases pc <;> first
    | exact quiet.elim
    | exact quiet

omit [DecidableEq Handler] in
/-- While the main thread does not rest, one thread waits or has been woken. -/
theorem Phase.busy (phase : control.Phase focus) (busy : ¬ control.MainRests) :
    (∃ thread, focus = some thread ∧ ∃ code ∈ (control.handlers thread).awaits,
      control.Pending code ∧ ∃ posted, postedCode code = some posted ∧ control.queue = [] ∧
        (control.main = .handling posted ∨
          (control.main = .lockingToWake ∨ control.main = .waking) ∧ control.Served posted)) ∨
      control.main = .unlocking ∧
        ∃ thread, focus = some thread ∧ ∃ code, control.handlers thread = .woken code ∧
          control.queue = [] ∧ ∃ posted, postedCode code = some posted ∧
            control.Served posted := by
  rcases phase.cases with resting |
    ⟨thread, inFocus, code, awaits, pending, posted, isPosted, asked⟩ |
    ⟨thread, inFocus, code, pc, queue, main, served⟩
  · exact absurd resting.2 busy
  · left
    refine ⟨thread, inFocus, code, awaits, pending, posted, isPosted, ?_⟩
    rcases asked with ⟨-, rests⟩ | ⟨queue, handling⟩ | ⟨queue, wakes, served⟩
    · exact absurd rests busy
    · exact ⟨queue, Or.inl handling⟩
    · exact ⟨queue, Or.inr ⟨wakes, served⟩⟩
  · exact Or.inr ⟨main.resolve_right busy, thread, inFocus, code, pc, queue, served⟩

omit [DecidableEq Handler] in
theorem not_mainRests_of {main : MainPc} (isMain : control.main = main) (notLoop : main ≠ .loop)
    (notPast : ¬ main.Past) : ¬ control.MainRests := by
  unfold MainRests
  rw [isMain]
  exact not_or.mpr ⟨notLoop, notPast⟩

omit [DecidableEq Handler] in
/-- The event that is handled is the one that the thread in focus waits for. -/
theorem Phase.handling {posted : Nat} (phase : control.Phase focus)
    (main : control.main = .handling posted) :
    ∃ thread, focus = some thread ∧ ∃ code ∈ (control.handlers thread).awaits,
      control.Pending code ∧ postedCode code = some posted ∧ control.queue = [] := by
  rcases phase.busy (not_mainRests_of main MainPc.noConfusion id) with
    ⟨thread, inFocus, code, awaits, pending, asks, isPosted, queue, asked⟩ | ⟨unlocking, -⟩
  · rcases asked with handling | ⟨wakes, -⟩
    · obtain rfl : posted = asks := MainPc.handling.inj (main.symm.trans handling)
      exact ⟨thread, inFocus, code, awaits, pending, isPosted, queue⟩
    · rw [main] at wakes
      rcases wakes with wakes | wakes <;> cases wakes
  · rw [main] at unlocking
    cases unlocking

omit [DecidableEq Handler] in
/-- The event has been handled: the service has been called. -/
theorem phase_handled {posted : Nat} (main : control.main = .handling posted)
    (phase : control.Phase focus) (follows : control.FollowsCalls) :
    control.mainStep.Phase focus ∧ control.mainStep.FollowsCalls := by
  obtain ⟨thread, rfl, code, awaits, pending, isPosted, queue⟩ := phase.handling main
  obtain ⟨call, isCall⟩ := handledCall_of_posted isPosted
  simp only [ControlState.mainStep, main]
  constructor
  · refine phaseAt_of_awaits awaits pending isPosted (Or.inr (Or.inr ⟨queue, Or.inl rfl, ?_⟩))
    simp only [Served, isCall, Option.toList_some, List.getLast?_concat]
  · cases isPending : pendingState code with
    | none =>
        unfold FollowsCalls
        simp only [modeCalls_of_not_pending isPending isPosted]
        exact follows
    | some state =>
        obtain ⟨notRunning, notPaused⟩ := pending (by rw [isPending]; rfl)
        exact ⟨fun runs => absurd runs notRunning, fun paused => absurd paused notPaused⟩

omit [DecidableEq Handler] in
/-- All that sleep have been woken. The thread in focus cannot be on its way to sleep, for it
would hold the mutex that the main thread holds. -/
theorem phase_woken (attended : control.Attended) (main : control.main = .waking)
    (phase : control.Phase focus) : control.mainStep.Phase focus := by
  simp only [ControlState.mainStep, main]
  rcases phase.busy (not_mainRests_of main MainPc.noConfusion id) with
    ⟨thread, rfl, code, awaits, -, posted, isPosted, queue, asked⟩ | ⟨unlocking, -⟩
  · rcases asked with handling | ⟨-, served⟩
    · rw [main] at handling
      cases handling
    · have holds : control.Holds none := by
        simp only [Holds, main]
        trivial
      unfold Phase
      cases pc : control.handlers thread <;> rw [pc] at awaits <;> cases awaits
      case enterWait.refl =>
        have holdsToo : control.Holds (some thread) := by
          simp only [Holds, pc]
          trivial
        cases attended.locked.unique holds holdsToo
      case waiting.refl =>
        simp only [pc, wake]
        exact ⟨queue, Or.inl rfl, posted, isPosted, served⟩
  · rw [main] at unlocking
    cases unlocking

omit [DecidableEq Handler] in
/-- The main thread leaves its loop and goes on alone: the phase stays, for no phase needs
the loop, and the state can only become stopped. -/
theorem PhaseAt.past {next : ControlState Handler} {pc : HandlerPc}
    (phase : control.PhaseAt thread pc) (rests : control.MainRests)
    (queue : next.queue = control.queue) (calls : next.calls = control.calls)
    (state : next.state = control.state ∨ next.state = .stopped) (past : next.main.Past) :
    next.PhaseAt thread pc := by
  have resting : control.Resting → next.Resting := fun before =>
    ⟨queue.trans before.1, Or.inr past⟩
  have pending : ∀ code, control.Pending code → next.Pending code := by
    intro code before isPending
    rcases state with same | stopped
    · rw [same]
      exact before isPending
    · rw [stopped]
      exact ⟨ServiceState.noConfusion, ServiceState.noConfusion⟩
  have served : ∀ posted, control.Served posted → next.Served posted := by
    intro posted before
    unfold Served
    rw [calls]
    exact before
  have asked : ∀ posted, control.Asked thread posted → next.Asked thread posted := by
    intro posted before
    rcases before with ⟨inQueue, -⟩ | ⟨-, main⟩ | ⟨-, main, -⟩
    · exact Or.inl ⟨queue.trans inQueue, Or.inr past⟩
    · exact absurd rests (not_mainRests_of main MainPc.noConfusion id)
    · rcases main with main | main <;>
        exact absurd rests (not_mainRests_of main MainPc.noConfusion id)
  cases pc
  case reportPending code => exact ⟨resting phase.1, pending code phase.2⟩
  case sendPending code _ => exact ⟨resting phase.1, pending code phase.2⟩
  case posting code => exact ⟨resting phase.1, pending code phase.2⟩
  case enterWait code =>
      obtain ⟨isPending, posted, isPosted, isAsked⟩ := phase
      exact ⟨pending code isPending, posted, isPosted, asked posted isAsked⟩
  case waiting code =>
      obtain ⟨isPending, posted, isPosted, isAsked⟩ := phase
      exact ⟨pending code isPending, posted, isPosted, asked posted isAsked⟩
  case woken code =>
      obtain ⟨empty, -, posted, isPosted, isServed⟩ := phase
      exact ⟨queue.trans empty, Or.inr (Or.inr past), posted, isPosted, served posted isServed⟩
  case setFinal code =>
      obtain ⟨isResting, posted, isPosted, isServed⟩ := phase
      exact ⟨resting isResting, posted, isPosted, served posted isServed⟩
  all_goals exact resting phase

omit [DecidableEq Handler] in
theorem Phase.past {next : ControlState Handler} (phase : control.Phase focus)
    (rests : control.MainRests) (handlers : next.handlers = control.handlers)
    (queue : next.queue = control.queue) (calls : next.calls = control.calls)
    (state : next.state = control.state ∨ next.state = .stopped) (past : next.main.Past) :
    next.Phase focus := by
  cases focus with
  | none => exact ⟨queue.trans phase.1, Or.inr past⟩
  | some thread =>
      unfold Phase
      rw [handlers]
      exact PhaseAt.past phase rests queue calls state past

omit [DecidableEq Handler] in
/-- The main thread has something to do for the thread in focus only. -/
theorem Orderly.mainStep (orderly : control.Orderly focus) (ready : control.MainReady) :
    control.mainStep.Orderly focus := by
  obtain ⟨attended, quiet, phase, follows⟩ := orderly
  have attendedNow := attended.mainStep ready
  unfold MainReady at ready
  cases main : control.main <;> simp only [main] at ready
  case handling posted =>
      obtain ⟨phaseNow, followsNow⟩ := phase_handled main phase follows
      refine ⟨attendedNow, ?_, phaseNow, followsNow⟩
      simpa only [ControlState.mainStep, main] using quiet
  case waking =>
      have phaseNow := phase_woken attended main phase
      simp only [ControlState.mainStep, main] at attendedNow phaseNow ⊢
      exact ⟨attendedNow, fun thread different => quiet_wake (quiet thread different), phaseNow,
        follows⟩
  case lockingToWake =>
      simp only [ControlState.mainStep, main] at attendedNow ⊢
      refine ⟨attendedNow, quiet, ?_, follows⟩
      rcases phase.busy (not_mainRests_of main MainPc.noConfusion id) with
        ⟨thread, rfl, code, awaits, pending, posted, isPosted, queue, asked⟩ | ⟨unlocking, -⟩
      · rcases asked with handling | ⟨-, served⟩
        · rw [main] at handling
          cases handling
        · exact phaseAt_of_awaits awaits pending isPosted
            (Or.inr (Or.inr ⟨queue, Or.inr rfl, served⟩))
      · rw [main] at unlocking
        cases unlocking
  case unlocking =>
      simp only [ControlState.mainStep, main] at attendedNow ⊢
      refine ⟨attendedNow, quiet, ?_, follows⟩
      rcases phase.busy (not_mainRests_of main MainPc.noConfusion id) with
        ⟨_, _, _, _, _, _, _, _, handling | ⟨wakes, _⟩⟩ | ⟨-, thread, rfl, code, pc, queue, served⟩
      · rw [main] at handling
        cases handling
      · rw [main] at wakes
        rcases wakes with wakes | wakes <;> cases wakes
      · simp only [Phase, pc]
        exact ⟨queue, Or.inr (Or.inl rfl), served⟩
  -- past the loop only the state changes, and it becomes stopped
  all_goals
    have rests : control.MainRests := by
      right
      rw [main]
      trivial
    simp only [ControlState.mainStep, main] at attendedNow ⊢
  case setStopped =>
      refine ⟨attendedNow, quiet, ?_, ⟨ServiceState.noConfusion, ServiceState.noConfusion⟩⟩
      exact phase.past rests rfl rfl rfl (Or.inr rfl) trivial
  case reportStopped =>
      exact ⟨attendedNow, quiet, phase.past rests rfl rfl rfl (Or.inl rfl) trivial, follows⟩
  case sendStopped =>
      exact ⟨attendedNow, quiet, phase.past rests rfl rfl rfl (Or.inl rfl) trivial, follows⟩

/-- Each event of an orderly run keeps the order; a control code moves the focus. -/
theorem Orderly.step (orderly : control.Orderly focus) (enabled : control.Enabled event)
    (alone : control.OneAtATime event) : ∃ focus, (control.step event).Orderly focus := by
  obtain ⟨attended, quiet, phase, follows⟩ := orderly
  have attendedNow := attended.step enabled
  cases event with
  | control thread code =>
      have idle : control.handlers thread = .idle := enabled
      have allQuiet : ∀ other, (control.handlers other).Quiet := by
        intro other
        by_cases same : other = thread
        · rw [same, idle]
          trivial
        · exact alone other same
      have resting := (phase_quiet fun other _ => allQuiet other).mp phase
      refine ⟨some thread, attendedNow, fun other different => ?_, ?_, follows⟩
      · have notThread : other ≠ thread := fun same => different (congrArg some same.symm)
        simp only [ControlState.step, ControlState.goTo, Function.update_of_ne notThread]
        exact allQuiet other
      · simp only [Phase, ControlState.step, ControlState.goTo, Function.update_self]
        exact resting
  | handler thread =>
      exact ⟨focus, Orderly.handlerStep ⟨attended, quiet, phase, follows⟩ enabled⟩
  | take =>
      obtain ⟨inLoop, events⟩ := enabled
      refine ⟨focus, ?_⟩
      rcases phase.cases with resting |
        ⟨thread, rfl, code, awaits, pending, posted, isPosted, asked⟩ |
        ⟨thread, rfl, code, pc, woken⟩
      · exact absurd resting.1 events
      · rcases asked with ⟨queue, -⟩ | ⟨queue, -⟩ | ⟨queue, -⟩
        · simp only [ControlState.step, queue] at attendedNow ⊢
          refine ⟨attendedNow, quiet, ?_, follows⟩
          exact phaseAt_of_awaits awaits pending isPosted (Or.inr (Or.inl ⟨rfl, rfl⟩))
        · exact absurd queue events
        · exact absurd queue events
      · exact absurd woken.1 events
  | leave =>
      refine ⟨focus, attendedNow, quiet, ?_, follows⟩
      exact phase.past (Or.inl enabled.1) rfl rfl rfl (Or.inl rfl) trivial
  | main => exact ⟨focus, Orderly.mainStep ⟨attended, quiet, phase, follows⟩ enabled⟩
  | quit =>
      refine ⟨focus, attendedNow, quiet, ?_, follows⟩
      cases focus with
      | none => exact phase
      | some thread => exact PhaseAt.congr phase rfl rfl rfl rfl

omit [DecidableEq Handler] in
/-- The thread that has been woken is the one in focus, and its event has been handled. -/
theorem Orderly.called (orderly : control.Orderly focus) {code : Nat}
    (goesOn : control.handlers thread = .woken code ∨ control.handlers thread = .setFinal code) :
    ∃ posted, postedCode code = some posted ∧ control.calls.getLast? = handledCall posted := by
  obtain rfl : focus = some thread := by
    by_contra notInFocus
    have quiet := orderly.quiet thread notInFocus
    rcases goesOn with pc | pc <;> rw [pc] at quiet <;> exact quiet
  have phase : control.PhaseAt thread (control.handlers thread) := orderly.phase
  rcases goesOn with pc | pc <;> rw [pc] at phase
  · exact phase.2.2
  · exact phase.2

end ControlState

/-! ### Orderly runs -/

open ControlState

variable {Handler : Type*} [DecidableEq Handler] {events : List (ControlEvent Handler)}

omit [DecidableEq Handler] in
theorem orderly_initial : (@initial Handler).Orderly none where
  attended := attended_initial
  quiet := fun _ _ => trivial
  phase := ⟨rfl, Or.inl rfl⟩
  follows := ⟨ServiceState.noConfusion, ServiceState.noConfusion⟩

/-- With two codes at once, the handler of a pause is woken by another event, and the state
is paused before the service has been told. -/
example :
    let control := run step (@initial Bool) [.control true 128, .handler true, .handler true,
      .handler true, .control false controlPause, .handler false, .handler false, .handler false,
      .handler false, .handler false, .handler false, .take, .main, .main, .main, .main,
      .handler false, .handler false]
    control.state = .paused ∧ control.calls = [.processCommand 0] := by
  decide

end WatchDog
