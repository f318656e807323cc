import Mathlib.Logic.Function.Basic
import Mathlib.Logic.Relation
import WatchDogProcess.Foundation.EventRun

/-! # Readers and writers

Holders that share a resource have it in shared or in exclusive access, or not at
all. An access is taken by a holder without one when it is compatible with what the
others have, and accesses are dropped at any time (`ReadersWriter.Step`). However
these steps interleave, a holder with exclusive access is alone
(`ReadersWriter.exclusive_of_steps`).

A machine locks the resource for its holders when every run of it, seen through
what each holder has, is a run of these steps (`EventRun.steps_run`).
-/

namespace ReadersWriter

/-- How a holder has the resource. -/
inductive Access where
  | shared
  | exclusive
  deriving DecidableEq, Repr

/-- Two holders may have the resource so at the same time. -/
def Compatible : Option Access → Option Access → Prop
  | some .exclusive, some _ => False
  | some .shared, some .exclusive => False
  | _, _ => True

instance : (first second : Option Access) → Decidable (Compatible first second)
  | some .exclusive, some _ | some .shared, some .exclusive => .isFalse id
  | none, _ | some .shared, none | some .exclusive, none | some .shared, some .shared =>
      .isTrue trivial

variable {Holder : Type*}

/-- Any two holders have the resource in compatible ways. -/
def Exclusive (held : Holder → Option Access) : Prop :=
  ∀ holder other, holder ≠ other → Compatible (held holder) (held other)

/-- A holder takes an access, or holders drop theirs. -/
inductive Step [DecidableEq Holder] :
    (Holder → Option Access) → (Holder → Option Access) → Prop
  | take {held : Holder → Option Access} (holder : Holder) (access : Access)
      (free : held holder = none)
      (compatible : ∀ other ≠ holder, Compatible (some access) (held other)) :
      Step held (Function.update held holder (some access))
  | drop {held after : Holder → Option Access}
      (dropped : ∀ holder, after holder = held holder ∨ after holder = none) :
      Step held after

@[simp] theorem compatible_none_left (access : Option Access) : Compatible none access := by
  cases access <;> trivial

@[simp] theorem compatible_none_right (access : Option Access) : Compatible access none := by
  cases access with
  | none => trivial
  | some access => cases access <;> trivial

theorem Compatible.symm {first second : Option Access} (compatible : Compatible first second) :
    Compatible second first := by
  cases first with
  | none => exact compatible_none_right second
  | some first =>
      cases second with
      | none => exact compatible_none_left (some first)
      | some second =>
          cases first with
          | exclusive => exact compatible.elim
          | shared =>
              cases second with
              | exclusive => exact compatible.elim
              | shared => trivial

theorem exclusive_none : Exclusive fun _ : Holder => none :=
  fun _ _ _ => compatible_none_left none

/-- A holder with exclusive access is alone. -/
theorem Exclusive.alone {held : Holder → Option Access} (exclusive : Exclusive held)
    {holder other : Holder} (writes : held holder = some .exclusive)
    (different : holder ≠ other) : held other = none := by
  have compatible := exclusive holder other different
  rw [writes] at compatible
  cases access : held other with
  | none => rfl
  | some access' =>
      rw [access] at compatible
      exact compatible.elim

variable [DecidableEq Holder]

theorem Step.exclusive {held after : Holder → Option Access} (step : Step held after)
    (exclusive : Exclusive held) : Exclusive after := by
  cases step with
  | take holder access free compatible =>
      intro first second different
      rcases eq_or_ne first holder with rfl | firstOther
      · rw [Function.update_self, Function.update_of_ne different.symm]
        exact compatible second different.symm
      · rw [Function.update_of_ne firstOther]
        rcases eq_or_ne second holder with rfl | secondOther
        · rw [Function.update_self]
          exact (compatible first firstOther).symm
        · rw [Function.update_of_ne secondOther]
          exact exclusive first second different
  | drop dropped =>
      intro first second different
      rcases dropped first with kept | gone
      · rcases dropped second with keptToo | gone
        · rw [kept, keptToo]
          exact exclusive first second different
        · rw [gone]
          exact compatible_none_right _
      · rw [gone]
        exact compatible_none_left _

/-- A holder changes its access by dropping the one it had. -/
theorem steps_replace {held : Holder → Option Access} {holder : Holder} {access : Access}
    (compatible : ∀ other ≠ holder, Compatible (some access) (held other)) :
    Relation.ReflTransGen Step held (Function.update held holder (some access)) := by
  have dropped : Step held (Function.update held holder none) := by
    refine .drop fun other => ?_
    rcases eq_or_ne other holder with rfl | different
    · exact .inr (Function.update_self _ _ _)
    · exact .inl (Function.update_of_ne different _ _)
  have free : Function.update held holder none holder = none := Function.update_self _ _ _
  have taken := Step.take holder access free fun other different => by
    rw [Function.update_of_ne different]
    exact compatible other different
  rw [Function.update_idem] at taken
  exact .tail (.single dropped) taken

/-- **However holders take and drop accesses, a holder with exclusive access is
alone.** -/
theorem exclusive_of_steps {held after : Holder → Option Access}
    (steps : Relation.ReflTransGen Step held after) (exclusive : Exclusive held) :
    Exclusive after := by
  induction steps with
  | refl => exact exclusive
  | tail _ step ih => exact step.exclusive ih

end ReadersWriter
