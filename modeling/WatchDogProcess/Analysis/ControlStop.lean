import WatchDogProcess.Analysis.ControlStates

/-! # Stopped stays

When its event loop has ended the main thread stores `SERVICE_STOPPED` and reports it, both
without the mutex. Where control codes come one at a time, none once the loop was told to
quit, and only a stop tells it, every handler has then set all the states that it will set
(`WatchDog.ControlState.Closing`): the state stays stopped. A handler may still be reporting,
though, and its copy of the state may be older than the store. So every report from the store
on says stopped but for such copies (`WatchDog.stopped_stays`), and the last report of all
can be one of them.
-/

namespace WatchDog

open EventRun

/-- The thread has no state left to set: it is quiet, or it waits for the event that stops
the service. -/
def HandlerPc.Closes : HandlerPc → Prop
  | .enterWait code => postedCode code = some controlStop
  | .waiting code => postedCode code = some controlStop
  | .woken code => postedCode code = some controlStop
  | pc => pc.Quiet

theorem closes_of_quiet {pc : HandlerPc} (quiet : pc.Quiet) : pc.Closes := by
  cases pc <;> first
    | exact quiet.elim
    | exact quiet

theorem closes_of_awaits {pc : HandlerPc} {code : Nat} (awaits : code ∈ pc.awaits)
    (isPosted : postedCode code = some controlStop) : pc.Closes := by
  cases pc <;> cases awaits <;> exact isPosted

theorem closes_wake {pc : HandlerPc} (closes : pc.Closes) : (ControlState.wake pc).Closes := by
  cases pc <;> exact closes

/-- A code that stops the service has no final state. -/
theorem finalState_of_stop {code : Nat} (isPosted : postedCode code = some controlStop) :
    finalState code = none := by
  rcases postedCode_cases isPosted with
    ⟨-, no⟩ | ⟨rfl, -⟩ | ⟨-, no⟩ | ⟨-, no⟩ | ⟨rfl, -⟩ | ⟨-, command⟩
  · cases no
  · rfl
  · cases no
  · cases no
  · rfl
  · exact (command_code command).2.1

theorem afterWait_of_stop {code : Nat} (isPosted : postedCode code = some controlStop) :
    ControlState.afterWait code = .unlocking := by
  unfold ControlState.afterWait
  rw [finalState_of_stop isPosted]
  rfl

namespace ControlState

variable {Handler : Type*}

/-- No code comes once the loop was told to quit, and the application does not tell it by
itself. -/
def StopsOnce (control : ControlState Handler) : ControlEvent Handler → Prop
  | .control _ _ => control.quitting = false
  | .quit => False
  | _ => True

/-- Once the loop was told to quit no thread has a state left to set, and the main thread
leaves its loop only then. -/
structure Closing (control : ControlState Handler) : Prop where
  closes : control.quitting = true → ∀ thread, (control.handlers thread).Closes
  past : control.main.Past → control.quitting = true

variable [DecidableEq Handler] {control stored : ControlState Handler} {thread : Handler}
  {focus : Option Handler} {event : ControlEvent Handler}

/-- A thread without a state left to set leaves the state as it is, and sends either nothing
or the copy that it has read. -/
theorem closes_handlerStep (closes : (control.handlers thread).Closes) :
    ((control.handlerStep thread).handlers thread).Closes ∧
      (control.handlerStep thread).state = control.state ∧
      (∀ state, (control.handlerStep thread).handlers thread = .sending state →
        state = control.state ∨ control.handlers thread = .sending state) ∧
      ((control.handlerStep thread).reported = control.reported ∨
        ∃ state, control.handlers thread = .sending state ∧
          (control.handlerStep thread).reported = control.reported ++ [state]) := by
  unfold ControlState.handlerStep
  cases pc : control.handlers thread <;> rw [pc] at closes <;> try exact closes.elim
  case idle =>
      simp only [pc]
      exact ⟨trivial, trivial, fun _ no => HandlerPc.noConfusion no, Or.inl trivial⟩
  case waiting code =>
      simp only [pc]
      exact ⟨closes, trivial, fun _ no => HandlerPc.noConfusion no, Or.inl trivial⟩
  case woken code =>
      simp only [goTo, Function.update_self, afterWait_of_stop closes]
      exact ⟨trivial, trivial, fun _ no => HandlerPc.noConfusion no, Or.inl trivial⟩
  case checking =>
      simp only [goTo, Function.update_self]
      refine ⟨?_, trivial, fun state sends => ?_, Or.inl trivial⟩
      · split <;> trivial
      · split at sends <;> cases sends
  case reporting =>
      simp only [goTo, Function.update_self, HandlerPc.sending.injEq]
      exact ⟨trivial, trivial, fun _ same => Or.inl same.symm, Or.inl trivial⟩
  case sending state =>
      simp only [goTo, Function.update_self, HandlerPc.sending.injEq]
      exact ⟨trivial, trivial, fun _ no => HandlerPc.noConfusion no, Or.inr ⟨state, rfl, rfl⟩⟩
  all_goals
    simp only [goTo, Function.update_self]
    exact ⟨closes, trivial, fun _ no => HandlerPc.noConfusion no, Or.inl trivial⟩

/-! ### Up to the store -/

omit [DecidableEq Handler] in
/-- When a stop has been handled, its handler is the one that waits. -/
theorem Closing.mainStep (closing : control.Closing) (orderly : control.Orderly focus)
    (ready : control.MainReady) : control.mainStep.Closing := by
  unfold MainReady at ready
  cases main : control.main <;> simp only [main] at ready
  case handling posted =>
      simp only [ControlState.mainStep, main]
      refine ⟨fun quitting => ?_, False.elim⟩
      obtain ⟨thread, rfl, code, awaits, -, isPosted, -⟩ := orderly.phase.handling main
      intro other
      by_cases same : some thread = some other
      · cases same
        rcases Bool.or_eq_true_iff.mp quitting with before | stops
        · exact closing.closes before thread
        · rw [of_decide_eq_true stops] at isPosted
          exact closes_of_awaits awaits isPosted
      · exact closes_of_quiet (orderly.quiet other same)
  case waking =>
      simp only [ControlState.mainStep, main]
      exact ⟨fun quitting thread => closes_wake (closing.closes quitting thread), False.elim⟩
  case lockingToWake =>
      simp only [ControlState.mainStep, main]
      exact ⟨closing.closes, False.elim⟩
  case unlocking =>
      simp only [ControlState.mainStep, main]
      exact ⟨closing.closes, False.elim⟩
  all_goals
    have quitting := closing.past (by rw [main]; trivial)
    simp only [ControlState.mainStep, main]
    exact ⟨closing.closes, fun _ => quitting⟩

theorem Closing.step (closing : control.Closing) (orderly : control.Orderly focus)
    (enabled : control.Enabled event) (once : control.StopsOnce event) :
    (control.step event).Closing := by
  cases event with
  | control thread code =>
      have goesOn : control.quitting = false := once
      refine ⟨fun quitting => ?_, closing.past⟩
      rw [show control.quitting = true from quitting] at goesOn
      cases goesOn
  | handler thread =>
      have main := (frame_handlerStep control thread).2.1
      have quitting := (calls_handlerStep control thread).2
      simp only [ControlState.step]
      refine ⟨fun quits => ?_, ?_⟩
      · rw [quitting] at quits
        exact forall_handlerStep (fun _ pc => pc.Closes)
          (closes_handlerStep (closing.closes quits thread)).1 fun other _ =>
            closing.closes quits other
      · rw [main, quitting]
        exact closing.past
  | take =>
      simp only [ControlState.step]
      split
      · exact closing
      · exact ⟨closing.closes, False.elim⟩
  | leave => exact ⟨closing.closes, fun _ => enabled.2⟩
  | main => exact closing.mainStep orderly enabled
  | quit => exact once.elim

/-! ### From the store on -/

/-- The state that a report says: stopped, or a copy that a thread was about to send when
the main thread stored that the service has stopped. -/
def MayReport (stored : ControlState Handler) (state : ServiceState) : Prop :=
  state = .stopped ∨ ∃ thread, stored.handlers thread = .sending state

/-- What has happened since the main thread stored that the service has stopped. -/
structure StoppedSince (stored control : ControlState Handler) : Prop where
  closes : ∀ thread, (control.handlers thread).Closes
  quitting : control.quitting = true
  state : control.state = .stopped
  sending : ∀ thread state, control.handlers thread = .sending state → stored.MayReport state
  late : ∃ late, control.reported = stored.reported ++ late ∧
    (∀ state ∈ late, stored.MayReport state) ∧ (control.main = .left → .stopped ∈ late)
  main : control.main = .reportStopped ∨ control.main = .sendStopped .stopped ∨
    control.main = .left

omit [DecidableEq Handler] in
theorem stoppedSince_store (closing : stored.Closing) (stores : stored.main = .setStopped) :
    stored.StoppedSince stored.mainStep := by
  have quitting := closing.past (by rw [stores]; trivial)
  simp only [ControlState.mainStep, stores]
  exact
    { closes := closing.closes quitting
      quitting := quitting
      state := rfl
      sending := fun thread _ sends => Or.inr ⟨thread, sends⟩
      late := ⟨[], (List.append_nil _).symm, fun _ no => absurd no List.not_mem_nil,
        MainPc.noConfusion⟩
      main := Or.inl rfl }

omit [DecidableEq Handler] in
/-- One more report that may be made. -/
theorem late_concat {late : List ServiceState} {state : ServiceState}
    (before : ∀ report ∈ late, stored.MayReport report) (may : stored.MayReport state) :
    ∀ report ∈ late ++ [state], stored.MayReport report := by
  intro report member
  rcases List.mem_append.mp member with inLate | isLast
  · exact before report inLate
  · rw [List.mem_singleton.mp isLast]
    exact may

theorem StoppedSince.handlerStep (since : stored.StoppedSince control) (thread : Handler) :
    stored.StoppedSince (control.handlerStep thread) := by
  have main := (frame_handlerStep control thread).2.1
  have quitting := (calls_handlerStep control thread).2
  obtain ⟨closes, state, sends, reported⟩ := closes_handlerStep (since.closes thread)
  obtain ⟨late, sofar, may, left⟩ := since.late
  refine ⟨forall_handlerStep (fun _ pc => pc.Closes) closes fun other _ => since.closes other,
    quitting.trans since.quitting, state.trans since.state,
    forall_handlerStep (fun _ pc => ∀ copy, pc = .sending copy → stored.MayReport copy) ?_
      fun other _ => since.sending other, ?_, by rw [main]; exact since.main⟩
  · intro copy sending
    rcases sends copy sending with isState | before
    · exact Or.inl (isState.trans since.state)
    · exact since.sending thread copy before
  · rw [main]
    rcases reported with same | ⟨copy, sending, more⟩
    · exact ⟨late, same.trans sofar, may, left⟩
    · refine ⟨late ++ [copy], ?_, late_concat may (since.sending thread copy sending), ?_⟩
      · rw [more, sofar, List.append_assoc]
      · exact fun isLeft => List.mem_append_left _ (left isLeft)

omit [DecidableEq Handler] in
theorem StoppedSince.mainStep (since : stored.StoppedSince control) :
    stored.StoppedSince control.mainStep := by
  obtain ⟨late, sofar, may, left⟩ := since.late
  unfold ControlState.mainStep
  rcases since.main with main | main | main <;> simp only [main]
  · refine ⟨since.closes, since.quitting, since.state, since.sending,
      ⟨late, sofar, may, MainPc.noConfusion⟩, ?_⟩
    rw [since.state]
    exact Or.inr (Or.inl rfl)
  · refine ⟨since.closes, since.quitting, since.state, since.sending,
      ⟨late ++ [.stopped], ?_, late_concat may (Or.inl rfl), fun _ => ?_⟩, Or.inr (Or.inr rfl)⟩
    · rw [sofar, List.append_assoc]
    · exact List.mem_append_right _ (List.mem_singleton_self _)
  · exact since

theorem StoppedSince.step (since : stored.StoppedSince control)
    (enabled : control.Enabled event) (once : control.StopsOnce event) :
    stored.StoppedSince (control.step event) := by
  have notLoop : control.main ≠ .loop := by
    intro inLoop
    rcases since.main with main | main | main <;> rw [inLoop] at main <;> cases main
  cases event with
  | control thread code =>
      have goesOn : control.quitting = false := once
      rw [since.quitting] at goesOn
      cases goesOn
  | handler thread => exact since.handlerStep thread
  | take => exact absurd enabled.1 notLoop
  | leave => exact absurd enabled.1 notLoop
  | main => exact since.mainStep
  | quit => exact once.elim

end ControlState

/-! ### Runs to the end -/

open ControlState

variable {Handler : Type*} [DecidableEq Handler] {before after : List (ControlEvent Handler)}

theorem closing_run {events : List (ControlEvent Handler)} (legal : Always step
    (fun control event => control.Enabled event ∧ control.OneAtATime event ∧
      control.StopsOnce event) (@initial Handler) events) :
    (run step initial events).Closing := by
  have kept : ∀ (control : ControlState Handler) event,
      (∃ focus, control.Orderly focus) ∧ control.Closing →
        control.Enabled event ∧ control.OneAtATime event ∧ control.StopsOnce event →
          (∃ focus, (control.step event).Orderly focus) ∧ (control.step event).Closing := by
    rintro control event ⟨⟨focus, orderly⟩, closing⟩ ⟨enabled, alone, once⟩
    exact ⟨orderly.step enabled alone, closing.step orderly enabled once⟩
  have closing : (@initial Handler).Closing :=
    ⟨fun quitting => Bool.noConfusion quitting, False.elim⟩
  exact (invariant_run kept ⟨⟨none, orderly_initial⟩, closing⟩ legal).2

/-- **Stopped stays.** Where control codes come one at a time, none once the loop was told to
quit, and only a stop tells it: from the moment the main thread stores that the service has
stopped the state is stopped. Every report from then on says so but for the copies that
handlers were about to send at that moment, and once the main thread is past its own report
there is one that says so. -/
theorem stopped_stays (legal : Always step
    (fun control event => control.Enabled event ∧ control.OneAtATime event ∧
      control.StopsOnce event) (@initial Handler) (before ++ .main :: after))
    (stores : (run step initial before).main = .setStopped) :
    let stored := run step initial before
    let control := run step initial (before ++ .main :: after)
    control.state = .stopped ∧
      ∃ late, control.reported = stored.reported ++ late ∧
        (∀ state ∈ late, state = .stopped ∨ ∃ thread, stored.handlers thread = .sending state) ∧
        (control.main = .left → .stopped ∈ late) := by
  intro stored control
  obtain ⟨legalBefore, -, legalAfter⟩ := (always_append _ _ _).mp legal
  have since : stored.StoppedSince (stored.step .main) :=
    stoppedSince_store (closing_run legalBefore) stores
  have reached : control = run step (stored.step .main) after := run_append _ _ _
  have atEnd : stored.StoppedSince control := by
    rw [reached]
    exact invariant_run
      (fun _ _ since allowed => since.step allowed.1 allowed.2.2) since legalAfter
  exact ⟨atEnd.state, atEnd.late⟩

/-- A stop alone. Its handler has read that the stop is pending when the main thread stores
and reports that the service has stopped, and sends that copy last. -/
theorem stopped_stays_stale :
    let before : List (ControlEvent Unit) := [.control () controlStop, .handler (), .handler (),
      .handler (), .handler (), .handler (), .handler (), .take, .main, .main, .main, .main,
      .handler (), .handler (), .handler (), .handler (), .leave]
    let after : List (ControlEvent Unit) := [.main, .main, .handler ()]
    let stored := run step initial before
    let control := run step initial (before ++ .main :: after)
    stored.handlers () = .sending .stopPending ∧
      control.reported = [.stopPending, .stopped, .stopPending] ∧ control.state = .stopped ∧
      ∃ late, control.reported = stored.reported ++ late ∧
        (∀ state ∈ late, state = .stopped ∨ ∃ thread, stored.handlers thread = .sending state) ∧
        (control.main = .left → .stopped ∈ late) := by
  intro before after stored control
  have legal : Always step (fun control event => control.Enabled event ∧
      control.OneAtATime event ∧ control.StopsOnce event) (@initial Unit)
        (before ++ .main :: after) :=
    ⟨⟨rfl, fun _ different => absurd rfl different, rfl⟩, ⟨rfl, trivial, trivial⟩,
      ⟨trivial, trivial, trivial⟩, ⟨trivial, trivial, trivial⟩, ⟨trivial, trivial, trivial⟩,
      ⟨trivial, trivial, trivial⟩, ⟨trivial, trivial, trivial⟩,
      ⟨⟨rfl, List.cons_ne_nil _ _⟩, trivial, trivial⟩, ⟨trivial, trivial, trivial⟩,
      ⟨rfl, trivial, trivial⟩, ⟨trivial, trivial, trivial⟩, ⟨trivial, trivial, trivial⟩,
      ⟨rfl, trivial, trivial⟩, ⟨trivial, trivial, trivial⟩, ⟨trivial, trivial, trivial⟩,
      ⟨trivial, trivial, trivial⟩, ⟨⟨rfl, rfl⟩, trivial, trivial⟩, ⟨trivial, trivial, trivial⟩,
      ⟨trivial, trivial, trivial⟩, ⟨trivial, trivial, trivial⟩, ⟨trivial, trivial, trivial⟩,
      trivial⟩
  exact ⟨rfl, rfl, stopped_stays legal rfl⟩

end WatchDog
