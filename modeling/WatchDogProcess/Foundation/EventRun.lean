import Mathlib.Data.List.Basic
import Mathlib.Data.List.Induction
import Mathlib.Logic.Relation
import Mathlib.Tactic.Basic

/-! # Runs of deterministic event machines

A machine is a step function from a state and an event to a state. A run folds
the step over a list of events (`EventRun.run`), and a condition on the state
before an event and the event holds *always* along a run when it holds at each
of its steps (`EventRun.Always`). Legality of a run is such a condition, so a
guarded machine is a step function together with the runs along which its guard
always holds.

An invariant kept by every legal step holds at the end of every legal run
(`EventRun.invariant_run`), and along such a run two conditions that agree in
every state satisfying the invariant always hold together
(`EventRun.always_congr_of_invariant`).

What the steps of a run put out, one output for each event, is its *trace*
(`EventRun.trace`), and the steps at which a condition holds are counted by
`EventRun.count`. Two runs over matched events whose states stay related, and
whose outputs agree from related states, have equal traces
(`EventRun.related_run`). A machine whose steps are, seen through an abstraction,
runs of a relation refines it (`EventRun.steps_run`). Machines *side by side* each
run on the events that concern them (`EventRun.run_sideBySide`).
-/

namespace EventRun

variable {State Event : Type*}

/-- The state reached by a list of events. -/
def run (step : State → Event → State) (state : State) (events : List Event) : State :=
  events.foldl step state

/-- `holds` at every step of a run: of the state before each event and the event. -/
def Always (step : State → Event → State) (holds : State → Event → Prop) :
    State → List Event → Prop
  | _, [] => True
  | state, event :: events => holds state event ∧ Always step holds (step state event) events

/-- What each step of a run puts out, in order. -/
def trace {Out : Type*} (step : State → Event → State) (emit : State → Event → Out) :
    State → List Event → List Out
  | _, [] => []
  | state, event :: events => emit state event :: trace step emit (step state event) events

/-- The number of steps of a run at which a condition holds. -/
def count (step : State → Event → State) (holds : State → Event → Prop)
    [∀ state event, Decidable (holds state event)] : State → List Event → Nat
  | _, [] => 0
  | state, event :: events =>
      (if holds state event then 1 else 0) + count step holds (step state event) events

variable {step : State → Event → State} {holds legal : State → Event → Prop}

@[simp] theorem run_nil (state : State) : run step state [] = state := rfl

@[simp] theorem run_cons (state : State) (event : Event) (events : List Event) :
    run step state (event :: events) = run step (step state event) events := rfl

theorem run_append (state : State) (first second : List Event) :
    run step state (first ++ second) = run step (run step state first) second :=
  List.foldl_append

@[simp] theorem run_concat (state : State) (events : List Event) (event : Event) :
    run step state (events ++ [event]) = step (run step state events) event := by
  rw [run_append, run_cons, run_nil]

@[simp] theorem always_nil (state : State) : Always step holds state [] := trivial

@[simp] theorem always_cons (state : State) (event : Event) (events : List Event) :
    Always step holds state (event :: events) ↔
      holds state event ∧ Always step holds (step state event) events := Iff.rfl

theorem always_append (state : State) (first second : List Event) :
    Always step holds state (first ++ second) ↔
      Always step holds state first ∧ Always step holds (run step state first) second := by
  induction first generalizing state with
  | nil => simp only [List.nil_append, always_nil, run_nil, true_and]
  | cons event first ih =>
      simp only [List.cons_append, always_cons, run_cons, ih, and_assoc]

/-- A condition holds always along a run exactly when it holds at every way of
splitting the run at an event. -/
theorem always_iff_split (state : State) (events : List Event) :
    Always step holds state events ↔
      ∀ before event after, events = before ++ event :: after →
        holds (run step state before) event := by
  constructor
  · intro always before event after split
    rw [split, always_append, always_cons] at always
    exact always.2.1
  · intro each
    induction events generalizing state with
    | nil => trivial
    | cons event events ih =>
        refine ⟨each [] event events rfl, ih (step state event) ?_⟩
        intro before next after split
        exact each (event :: before) next after (by rw [split, List.cons_append])

theorem Always.mono {stronger : State → Event → Prop}
    (implies : ∀ state event, stronger state event → holds state event) {state : State}
    {events : List Event} (always : Always step stronger state events) :
    Always step holds state events := by
  rw [always_iff_split] at always ⊢
  exact fun before event after split => implies _ _ (always before event after split)

theorem always_true (state : State) (events : List Event) :
    Always step (fun _ _ => True) state events := by
  induction events generalizing state with
  | nil => trivial
  | cons event events ih => exact ⟨trivial, ih (step state event)⟩

theorem always_and {other : State → Event → Prop} (state : State) (events : List Event) :
    Always step (fun state event => holds state event ∧ other state event) state events ↔
      Always step holds state events ∧ Always step other state events := by
  induction events generalizing state with
  | nil => simp only [always_nil, and_self]
  | cons event events ih => simp only [always_cons, ih, and_and_and_comm]

/-- A condition on events alone holds always when every event meets it. -/
theorem always_of_forall {allowed : Event → Prop} (state : State) {events : List Event}
    (each : ∀ event ∈ events, allowed event) :
    Always step (fun _ event => allowed event) state events := by
  rw [always_iff_split]
  intro before event after split
  exact each event (by rw [split]; exact List.mem_append_right _ List.mem_cons_self)

instance decidableAlways [∀ state event, Decidable (holds state event)] :
    (state : State) → (events : List Event) → Decidable (Always step holds state events)
  | _, [] => .isTrue trivial
  | state, event :: events =>
      @instDecidableAnd _ _ (inferInstance) (decidableAlways (step state event) events)

/-! ### Invariants -/

variable {invariant : State → Prop}

/-- An invariant kept by every legal step holds at the end of every legal run. -/
theorem invariant_run
    (kept : ∀ state event, invariant state → legal state event → invariant (step state event))
    {state : State} (initial : invariant state) {events : List Event}
    (always : Always step legal state events) : invariant (run step state events) := by
  induction events generalizing state with
  | nil => exact initial
  | cons event events ih => exact ih (kept state event initial always.1) always.2

/-- What an invariant gives at every legal step holds always along a legal run. -/
theorem always_of_invariant
    (kept : ∀ state event, invariant state → legal state event → invariant (step state event))
    (gives : ∀ state event, invariant state → legal state event → holds state event)
    {state : State} (initial : invariant state) {events : List Event}
    (always : Always step legal state events) : Always step holds state events := by
  induction events generalizing state with
  | nil => trivial
  | cons event events ih =>
      exact ⟨gives state event initial always.1, ih (kept state event initial always.1) always.2⟩

/-- Conditions that agree at every legal step from an invariant state hold
always along the same legal runs. -/
theorem always_congr_of_invariant {other : State → Event → Prop}
    (kept : ∀ state event, invariant state → legal state event → invariant (step state event))
    (agree : ∀ state event, invariant state → legal state event →
      (holds state event ↔ other state event))
    {state : State} (initial : invariant state) {events : List Event}
    (always : Always step legal state events) :
    Always step holds state events ↔ Always step other state events := by
  induction events generalizing state with
  | nil => exact Iff.rfl
  | cons event events ih =>
      simp only [always_cons]
      rw [agree state event initial always.1, ih (kept state event initial always.1) always.2]

/-! ### Traces and counts -/

section Outputs

variable {Out : Type*} {emit : State → Event → Out} [∀ state event, Decidable (holds state event)]

@[simp] theorem trace_cons (state : State) (event : Event) (events : List Event) :
    trace step emit state (event :: events) =
      emit state event :: trace step emit (step state event) events := rfl

@[simp] theorem count_nil (state : State) : count step holds state [] = 0 := rfl

@[simp] theorem count_cons (state : State) (event : Event) (events : List Event) :
    count step holds state (event :: events) =
      (if holds state event then 1 else 0) + count step holds (step state event) events := rfl

theorem count_le_count {weaker : State → Event → Prop}
    [∀ state event, Decidable (weaker state event)]
    (implies : ∀ state event, holds state event → weaker state event) (state : State)
    (events : List Event) : count step holds state events ≤ count step weaker state events := by
  induction events generalizing state with
  | nil => exact Nat.le_refl 0
  | cons event events ih =>
      rw [count_cons, count_cons]
      apply Nat.add_le_add _ (ih (step state event))
      by_cases both : holds state event
      · simp only [both, implies state event both, ↓reduceIte, Nat.le_refl]
      · simp only [both, ↓reduceIte, Nat.zero_le]

theorem count_congr {other : State → Event → Prop}
    [∀ state event, Decidable (other state event)]
    (agree : ∀ state event, holds state event ↔ other state event) (state : State)
    (events : List Event) : count step holds state events = count step other state events := by
  apply Nat.le_antisymm
  · exact count_le_count (fun state event => (agree state event).mp) state events
  · exact count_le_count (fun state event => (agree state event).mpr) state events

/-- The steps at which a condition holds are those at which another one holds
too and those at which it does not. -/
theorem count_split (other : State → Event → Prop) [∀ state event, Decidable (other state event)]
    (state : State) (events : List Event) :
    count step holds state events =
      count step (fun state event => holds state event ∧ other state event) state events +
        count step (fun state event => holds state event ∧ ¬ other state event) state events := by
  induction events generalizing state with
  | nil => simp only [count_nil, Nat.add_zero]
  | cons event events ih =>
      simp only [count_cons, ih (step state event)]
      by_cases both : holds state event
      · by_cases also : other state event
        · simp only [both, also, and_self, not_true_eq_false, and_false, ↓reduceIte]
          omega
        · simp only [both, also, and_self, not_false_eq_true, and_false, ↓reduceIte]
          omega
      · simp only [both, false_and, ↓reduceIte]
        omega

end Outputs

/-! ### Two runs -/

/-- Two runs over matched events, each along its legal steps: a relation that
matched steps keep holds at their ends, and outputs that agree at matched steps
give equal traces. -/
theorem related_run {Out : Type*} {emit : State → Event → Out} {related : State → State → Prop}
    {matched : Event → Event → Prop} {otherLegal : State → Event → Prop}
    (kept : ∀ state other event otherEvent, related state other → matched event otherEvent →
      legal state event → otherLegal other otherEvent →
        related (step state event) (step other otherEvent) ∧
          emit state event = emit other otherEvent)
    {state other : State} (initial : related state other) {events others : List Event}
    (pairs : List.Forall₂ matched events others) (always : Always step legal state events)
    (alwaysOther : Always step otherLegal other others) :
    related (run step state events) (run step other others) ∧
      trace step emit state events = trace step emit other others := by
  induction pairs generalizing state other with
  | nil => exact ⟨initial, rfl⟩
  | cons pair pairs ih =>
      obtain ⟨next, same⟩ := kept _ _ _ _ initial pair always.1 alwaysOther.1
      obtain ⟨ends, rest⟩ := ih next always.2 alwaysOther.2
      refine ⟨ends, ?_⟩
      rw [trace_cons, trace_cons, same, rest]

/-! ### Refinement -/

/-- A machine whose legal steps from states that satisfy an invariant are, seen
through an abstraction, runs of a relation: so are its legal runs. -/
theorem steps_run {Abstract : Type*} {abstract : State → Abstract}
    {relation : Abstract → Abstract → Prop}
    (kept : ∀ state event, invariant state → legal state event → invariant (step state event))
    (steps : ∀ state event, invariant state → legal state event →
      Relation.ReflTransGen relation (abstract state) (abstract (step state event)))
    {state : State} (initial : invariant state) {events : List Event}
    (always : Always step legal state events) :
    Relation.ReflTransGen relation (abstract state) (abstract (run step state events)) := by
  induction events generalizing state with
  | nil => exact .refl
  | cons event events ih =>
      exact (steps state event initial always.1).trans
        (ih (kept state event initial always.1) always.2)

/-! ### Machines side by side -/

section SideBySide

variable {Key : Type*} (step : State → Event → State) (concerns : Event → Key → Bool)

/-- One machine for each key: an event moves those that it concerns. -/
def sideBySide (states : Key → State) (event : Event) : Key → State :=
  fun key => if concerns event key then step (states key) event else states key

/-- Each machine runs on the events that concern it. -/
theorem run_sideBySide (states : Key → State) (events : List Event) (key : Key) :
    run (sideBySide step concerns) states events key =
      run step (states key) (events.filter (concerns · key)) := by
  induction events generalizing states with
  | nil => rfl
  | cons event events ih =>
      rw [run_cons, ih, List.filter_cons]
      cases concerned : concerns event key with
      | true => simp only [sideBySide, concerned, ↓reduceIte, run_cons]
      | false => simp only [sideBySide, concerned, Bool.false_eq_true, ↓reduceIte]

variable {step concerns} {holds : State → Event → Prop} {all : (Key → State) → Event → Prop}

/-- What every event meets in the machine of a key that it concerns holds always along the
run of that machine. -/
theorem always_sideBySide {key : Key}
    (each : ∀ states event, all states event → concerns event key = true →
      holds (states key) event)
    {states : Key → State} {events : List Event}
    (always : Always (sideBySide step concerns) all states events) :
    Always step holds (states key) (events.filter (concerns · key)) := by
  induction events generalizing states with
  | nil => trivial
  | cons event events ih =>
      obtain ⟨now, later⟩ := always
      have rest := ih later
      rw [List.filter_cons]
      cases concerned : concerns event key with
      | true =>
          simp only [sideBySide, concerned, ↓reduceIte] at rest ⊢
          exact ⟨each states event now concerned, rest⟩
      | false =>
          simp only [sideBySide, concerned, Bool.false_eq_true, ↓reduceIte] at rest ⊢
          exact rest

end SideBySide

end EventRun
