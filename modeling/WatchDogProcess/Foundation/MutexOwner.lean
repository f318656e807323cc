import Mathlib.Tactic.Basic

/-! # Who holds a mutex

A mutex has at most one owner. Agents whose next steps are known hold it or not by where
they are; the two accounts agree (`MutexOwner.Agrees`) when the agents that hold it by
where they are are the owner, and then at most one does (`MutexOwner.Agrees.unique`).
Locking, unlocking and steps that do neither keep the accounts in agreement.
-/

namespace MutexOwner

variable {Agent : Type*}

/-- The agents that hold the mutex by where they are are its owner. -/
def Agrees (owner : Option Agent) (holds : Agent → Prop) : Prop :=
  ∀ agent, holds agent ↔ owner = some agent

variable {owner : Option Agent} {holds later : Agent → Prop} {agent other : Agent}

/-- At most one agent holds the mutex. -/
theorem Agrees.unique (agrees : Agrees owner holds) (first : holds agent)
    (second : holds other) : agent = other := by
  have owns := (agrees agent).mp first
  have ownsToo := (agrees other).mp second
  exact Option.some.inj (owns.symm.trans ownsToo)

/-- A free mutex is held by none. -/
theorem Agrees.free (agrees : Agrees owner holds) (free : owner = none) : ¬ holds agent := by
  intro held
  have owns := (agrees agent).mp held
  rw [free] at owns
  cases owns

/-- A step that neither locks nor unlocks. -/
theorem Agrees.keep (agrees : Agrees owner holds) (same : ∀ agent, later agent ↔ holds agent) :
    Agrees owner later :=
  fun agent => (same agent).trans (agrees agent)

/-- An agent locks a free mutex. -/
theorem Agrees.lock (agrees : Agrees owner holds) (free : owner = none) (agent : Agent)
    (locks : later agent) (same : ∀ other, other ≠ agent → (later other ↔ holds other)) :
    Agrees (some agent) later := by
  intro other
  by_cases isAgent : other = agent
  · subst isAgent
    exact ⟨fun _ => rfl, fun _ => locks⟩
  · rw [same other isAgent]
    refine ⟨fun held => absurd held (agrees.free free), fun owns => ?_⟩
    exact absurd (Option.some.inj owns).symm isAgent

/-- The owner unlocks the mutex. -/
theorem Agrees.unlock (agrees : Agrees owner holds) (agent : Agent) (held : holds agent)
    (unlocks : ¬ later agent) (same : ∀ other, other ≠ agent → (later other ↔ holds other)) :
    Agrees none later := by
  intro other
  refine ⟨fun holdsLater => ?_, fun none => absurd none (Option.some_ne_none other).symm⟩
  by_cases isAgent : other = agent
  · subst isAgent
    exact absurd holdsLater unlocks
  · exact absurd (agrees.unique ((same other isAgent).mp holdsLater) held) isAgent

end MutexOwner
