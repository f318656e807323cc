import Mathlib.Data.Finset.Card
import Mathlib.Data.Finset.Insert

/-! # Resources that are acquired and released

A ledger holds the resources that are open. Each acquired resource is new: it is
numbered past every resource ever acquired, and a ledger carries that bound. So
acquiring one changes the open resources, by exactly one more
(`ResourceLedger.held_acquire_ne`, `ResourceLedger.card_held_acquire`), and
releasing it again restores them (`ResourceLedger.held_release_newest`).
-/

/-- The open resources, each of some kind and with its own number. -/
structure ResourceLedger (Kind : Type*) where
  next : Nat
  held : Finset (Kind × Nat)
  bounded : ∀ resource ∈ held, resource.2 < next

namespace ResourceLedger

variable {Kind : Type*} [DecidableEq Kind]

/-- No resource is open. -/
def empty : ResourceLedger Kind := ⟨0, ∅, fun _ member => absurd member (Finset.notMem_empty _)⟩

/-- The resource that is acquired next. -/
def newest (ledger : ResourceLedger Kind) (kind : Kind) : Kind × Nat := (kind, ledger.next)

def acquire (ledger : ResourceLedger Kind) (kind : Kind) : ResourceLedger Kind where
  next := ledger.next + 1
  held := insert (ledger.newest kind) ledger.held
  bounded := by
    intro resource member
    rcases Finset.mem_insert.mp member with rfl | earlier
    · exact Nat.lt_succ_self _
    · exact Nat.lt_succ_of_lt (ledger.bounded resource earlier)

def release (ledger : ResourceLedger Kind) (resource : Kind × Nat) : ResourceLedger Kind where
  next := ledger.next
  held := ledger.held.erase resource
  bounded := fun other member => ledger.bounded other (Finset.mem_of_mem_erase member)

variable (ledger : ResourceLedger Kind) (kind : Kind)

@[simp] theorem held_acquire :
    (ledger.acquire kind).held = insert (ledger.newest kind) ledger.held := rfl

@[simp] theorem held_release (resource : Kind × Nat) :
    (ledger.release resource).held = ledger.held.erase resource := rfl

omit [DecidableEq Kind] in
/-- A resource not acquired yet is not open. -/
theorem newest_notMem_held : ledger.newest kind ∉ ledger.held :=
  fun member => Nat.lt_irrefl _ (ledger.bounded _ member)

theorem held_acquire_ne : (ledger.acquire kind).held ≠ ledger.held := by
  intro same
  apply ledger.newest_notMem_held kind
  rw [← same, held_acquire]
  exact Finset.mem_insert_self _ _

theorem card_held_acquire : (ledger.acquire kind).held.card = ledger.held.card + 1 := by
  rw [held_acquire, Finset.card_insert_of_notMem (ledger.newest_notMem_held kind)]

/-- Releasing what was just acquired restores the open resources. -/
theorem held_release_newest :
    ((ledger.acquire kind).release (ledger.newest kind)).held = ledger.held := by
  rw [held_release, held_acquire, Finset.erase_insert (ledger.newest_notMem_held kind)]

end ResourceLedger
