import WatchDogProcess.Foundation.ReadersWriter
import Mathlib.Data.Fintype.Defs

/-! # Locks on a whole file, by process

The system keeps one lock for each process that has a file locked, shared or exclusive. A
process gets a lock when those of the other processes are compatible, in place of the one
that it had (`RecordLock.Grants`), and closing any handle of the file drops the lock of the
process. Locks set when they are granted exclude each other
(`RecordLock.exclusive_set`).
-/

namespace RecordLock

open ReadersWriter

variable {Process : Type*}

/-- The system lets a process have the access: only other processes stand in its way. -/
def Grants (locks : Process → Option Access) (process : Process) (access : Access) : Prop :=
  ∀ other ≠ process, Compatible (some access) (locks other)

variable {locks : Process → Option Access} {process : Process} {access : Access}

variable [DecidableEq Process]

instance [Fintype Process] : Decidable (Grants locks process access) :=
  inferInstanceAs (Decidable (∀ other, other ≠ process → Compatible (some access) (locks other)))

theorem exclusive_set (exclusive : Exclusive locks) (grants : Grants locks process access) :
    Exclusive (Function.update locks process (some access)) := by
  intro first second different
  rcases eq_or_ne first process with rfl | firstOther
  · rw [Function.update_self, Function.update_of_ne different.symm]
    exact grants second different.symm
  · rw [Function.update_of_ne firstOther]
    rcases eq_or_ne second process with rfl | secondOther
    · rw [Function.update_self]
      exact (grants first firstOther).symm
    · rw [Function.update_of_ne secondOther]
      exact exclusive first second different

theorem exclusive_clear (exclusive : Exclusive locks) :
    Exclusive (Function.update locks process none) := by
  intro first second different
  rcases eq_or_ne first process with rfl | firstOther
  · rw [Function.update_self]
    exact compatible_none_left _
  · rw [Function.update_of_ne firstOther]
    rcases eq_or_ne second process with rfl | secondOther
    · rw [Function.update_self]
      exact compatible_none_right _
    · rw [Function.update_of_ne secondOther]
      exact exclusive first second different

end RecordLock
