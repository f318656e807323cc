import Mathlib.Data.Finset.Basic
import Mathlib.Data.Finset.Filter
import Mathlib.Data.Set.Insert
import Mathlib.Logic.Function.Basic

/-! # Named mutexes

A named mutex exists as long as some holder has a handle to it. It is held by a
thread, which may acquire it again and then has to release it as often. Holders are
the objects of a program, each used by one thread and with at most one handle to a
mutex. A thread ends with its process: it gives up what it holds, and the handles of
its holders are closed, which the end of a thread alone would leave open.

What a holder owns is accounted for by its *claims*: mutexes it is sure to own,
mutexes it may own, and mutexes it has a handle to. When each holder has a thread
of its own, claims that follow the holder's calls stay in step with the mutexes
(`NamedMutexes.Accounts.perform`), so two holders are never sure of one mutex
(`NamedMutexes.Accounts.unique`).
-/

/-- Who holds each mutex, with the number of further acquisitions, and who has a
handle to it. -/
structure NamedMutexes (Name Thread Holder : Type*) where
  held : Name → Option (Thread × Nat)
  handles : Name → Finset Holder

/-- What a holder asks for. Waiting for several mutexes acquires them together. -/
inductive MutexCall (Name : Type*) where
  | openHandle (name : Name)
  | closeHandle (name : Name)
  | acquire (name : Name)
  | acquireAll (names : List Name)
  | release (name : Name)

/-- Calls that may fail: opening a handle and waiting. -/
def MutexCall.fallible {Name : Type*} : MutexCall Name → Bool
  | .closeHandle _ | .release _ => false
  | _ => true

namespace NamedMutexes

variable {Name Thread Holder : Type*} [DecidableEq Name] [DecidableEq Thread]
  [DecidableEq Holder]

def empty : NamedMutexes Name Thread Holder := ⟨fun _ => none, fun _ => ∅⟩

/-- A mutex exists while a handle to it is open. -/
def Exists (mutexes : NamedMutexes Name Thread Holder) (name : Name) : Prop :=
  (mutexes.handles name).Nonempty

/-- No other thread holds the mutex. -/
def Available (mutexes : NamedMutexes Name Thread Holder) (thread : Thread) (name : Name) :
    Prop :=
  ∀ owner ∈ mutexes.held name, owner.1 = thread

instance (mutexes : NamedMutexes Name Thread Holder) (name : Name) :
    Decidable (mutexes.Exists name) :=
  inferInstanceAs (Decidable (Finset.Nonempty _))

instance (mutexes : NamedMutexes Name Thread Holder) (thread : Thread) (name : Name) :
    Decidable (mutexes.Available thread name) :=
  inferInstanceAs (Decidable (∀ owner ∈ mutexes.held name, owner.1 = thread))

/-! ### Calls -/

def openHandle (mutexes : NamedMutexes Name Thread Holder) (holder : Holder) (name : Name) :
    NamedMutexes Name Thread Holder where
  held := mutexes.held
  handles := Function.update mutexes.handles name (insert holder (mutexes.handles name))

/-- Closing the last handle destroys the mutex. -/
def closeHandle (mutexes : NamedMutexes Name Thread Holder) (holder : Holder) (name : Name) :
    NamedMutexes Name Thread Holder where
  held :=
    if (mutexes.handles name).erase holder = ∅ then Function.update mutexes.held name none
    else mutexes.held
  handles := Function.update mutexes.handles name ((mutexes.handles name).erase holder)

def acquire (mutexes : NamedMutexes Name Thread Holder) (thread : Thread) (name : Name) :
    NamedMutexes Name Thread Holder where
  held := Function.update mutexes.held name
    (some (thread, match mutexes.held name with
      | none => 0
      | some owner => owner.2 + 1))
  handles := mutexes.handles

/-- Only the thread that holds a mutex can release it. -/
def release (mutexes : NamedMutexes Name Thread Holder) (thread : Thread) (name : Name) :
    NamedMutexes Name Thread Holder where
  held := Function.update mutexes.held name
    ((mutexes.held name).bind fun owner =>
      if owner.1 = thread then
        if owner.2 = 0 then none else some (owner.1, owner.2 - 1)
      else some owner)
  handles := mutexes.handles

/-- The process of the thread ends: what the thread holds is free, and the handles of its
holders are closed. -/
def endThread (mutexes : NamedMutexes Name Thread Holder) (threadOf : Holder → Thread)
    (thread : Thread) : NamedMutexes Name Thread Holder where
  held := fun name =>
    (mutexes.held name).filter fun owner => owner.1 ≠ thread ∧
      ((mutexes.handles name).filter fun holder => threadOf holder ≠ thread) ≠ ∅
  handles := fun name => (mutexes.handles name).filter fun holder => threadOf holder ≠ thread

def perform (mutexes : NamedMutexes Name Thread Holder) (threadOf : Holder → Thread)
    (holder : Holder) : MutexCall Name → NamedMutexes Name Thread Holder
  | .openHandle name => mutexes.openHandle holder name
  | .closeHandle name => mutexes.closeHandle holder name
  | .acquire name => mutexes.acquire (threadOf holder) name
  | .acquireAll names =>
      names.foldl (fun mutexes name => mutexes.acquire (threadOf holder) name) mutexes
  | .release name => mutexes.release (threadOf holder) name

/-- A wait succeeds only on mutexes that no other thread holds. -/
def Grants (mutexes : NamedMutexes Name Thread Holder) (thread : Thread) :
    MutexCall Name → Prop
  | .acquire name => mutexes.Available thread name
  | .acquireAll names => ∀ name ∈ names, mutexes.Available thread name
  | _ => True

instance (mutexes : NamedMutexes Name Thread Holder) (thread : Thread) :
    (call : MutexCall Name) → Decidable (mutexes.Grants thread call)
  | .openHandle _ => .isTrue trivial
  | .closeHandle _ => .isTrue trivial
  | .acquire name => inferInstanceAs (Decidable (mutexes.Available thread name))
  | .acquireAll names =>
      inferInstanceAs (Decidable (∀ name ∈ names, mutexes.Available thread name))
  | .release _ => .isTrue trivial

/-! ### Accounts -/

/-- What one holder's calls so far say about its mutexes. -/
@[ext] structure Claims (Name : Type*) where
  /-- mutexes it holds -/
  sure : Set Name
  /-- mutexes it may hold -/
  possible : Set Name
  /-- mutexes it has a handle to -/
  opened : Set Name
  sure_possible : sure ⊆ possible
  possible_opened : possible ⊆ opened

/-- The claims of a holder that has nothing. -/
def Claims.none : Claims Name := ⟨∅, ∅, ∅, subset_rfl, subset_rfl⟩

/-- The claims of every holder are in step with the mutexes. -/
structure Accounts (threadOf : Holder → Thread) (claims : Holder → Claims Name)
    (mutexes : NamedMutexes Name Thread Holder) : Prop where
  sure : ∀ holder, ∀ name ∈ (claims holder).sure, mutexes.held name = some (threadOf holder, 0)
  possible : ∀ name, ∀ owner ∈ mutexes.held name,
    owner.2 = 0 ∧ ∃ holder, threadOf holder = owner.1 ∧ name ∈ (claims holder).possible
  opened : ∀ holder name, holder ∈ mutexes.handles name ↔ name ∈ (claims holder).opened

end NamedMutexes

namespace MutexCall

variable {Name : Type*}

/-- The handles after a call, from those before it. -/
def opens : MutexCall Name → Set Name → Set Name
  | .openHandle name, opened => insert name opened
  | .closeHandle name, opened => opened \ {name}
  | _, opened => opened

/-- The mutexes held after a call, from those before it. -/
def holds : MutexCall Name → Set Name → Set Name
  | .acquire name, held => insert name held
  | .acquireAll names, held => held ∪ {name | name ∈ names}
  | .release name, held => held \ {name}
  | _, held => held

/-- The mutexes that a call waits for. -/
def waitsFor : MutexCall Name → List Name
  | .acquire name => [name]
  | .acquireAll names => names
  | _ => []

end MutexCall

namespace NamedMutexes

variable {Name Thread Holder : Type*}

/-- New claims that do not promise more than a call has made of the old ones. -/
structure Claims.Follow (call : MutexCall Name) (old new : Claims Name) : Prop where
  opened : new.opened = call.opens old.opened
  sure : new.sure ⊆ call.holds old.sure
  possible : call.holds old.possible ⊆ new.possible
  fresh : ∀ name ∈ call.waitsFor, name ∉ old.possible
  nodup : call.waitsFor.Nodup

/-- New claims that do not promise more than the old ones. -/
structure Claims.Weaken (old new : Claims Name) : Prop where
  opened : new.opened = old.opened
  sure : new.sure ⊆ old.sure
  possible : old.possible ⊆ new.possible

theorem Claims.Follow.acquireAll_singleton {name : Name} {old new : Claims Name}
    (follow : Claims.Follow (.acquire name) old new) :
    Claims.Follow (.acquireAll [name]) old new := by
  have same : (MutexCall.acquireAll [name]).holds = (MutexCall.acquire name).holds := by
    funext held
    ext other
    simp [MutexCall.holds, or_comm]
  exact ⟨follow.opened, same ▸ follow.sure, same ▸ follow.possible, follow.fresh, follow.nodup⟩

variable {threadOf : Holder → Thread} {claims : Holder → Claims Name}
  {mutexes : NamedMutexes Name Thread Holder}

theorem accounts_empty :
    Accounts threadOf (fun _ => Claims.none) (empty : NamedMutexes Name Thread Holder) where
  sure _ _ member := member.elim
  possible _ _ holds := by cases holds
  opened _ _ := by simp [empty, Claims.none]

/-- **Two holders with threads of their own are never sure of one mutex.** -/
theorem Accounts.unique (ownThreads : Function.Injective threadOf)
    (accounts : Accounts threadOf claims mutexes) {holder other : Holder} {name : Name}
    (sure : name ∈ (claims holder).sure) (also : name ∈ (claims other).sure) :
    holder = other := by
  have same := (accounts.sure holder name sure).symm.trans (accounts.sure other name also)
  simp only [Option.some.injEq, Prod.mk.injEq, and_true] at same
  exact ownThreads same

/-- A mutex that a holder is sure of exists. -/
theorem Accounts.exists_of_opened (accounts : Accounts threadOf claims mutexes)
    {holder : Holder} {name : Name} (opened : name ∈ (claims holder).opened) :
    mutexes.Exists name :=
  ⟨holder, (accounts.opened holder name).mpr opened⟩

/-- A granted mutex that the holder did not have is free. -/
theorem Accounts.free_of_available (ownThreads : Function.Injective threadOf)
    (accounts : Accounts threadOf claims mutexes) {holder : Holder} {name : Name}
    (available : mutexes.Available (threadOf holder) name)
    (fresh : name ∉ (claims holder).possible) : mutexes.held name = none := by
  cases holds : mutexes.held name with
  | none => rfl
  | some owner =>
      obtain ⟨_, other, thread, possible⟩ := accounts.possible name owner holds
      have same : other = holder := ownThreads (thread.trans (available owner holds))
      exact absurd (same ▸ possible) fresh

/-- Acquiring free mutexes together. -/
theorem foldl_acquire [DecidableEq Name] (thread : Thread) {names : List Name} (nodup : names.Nodup)
    (free : ∀ name ∈ names, mutexes.held name = none) :
    let after := names.foldl (fun mutexes name => mutexes.acquire thread name) mutexes
    after.handles = mutexes.handles ∧
      ∀ name, after.held name = if name ∈ names then some (thread, 0) else mutexes.held name := by
  induction names generalizing mutexes with
  | nil => simp
  | cons first rest ih =>
      obtain ⟨absent, nodup⟩ := List.nodup_cons.mp nodup
      have freeRest : ∀ name ∈ rest, (mutexes.acquire thread first).held name = none := by
        intro name member
        rw [← free name (List.mem_cons_of_mem _ member)]
        have different : name ≠ first := ne_of_mem_of_not_mem member absent
        exact Function.update_of_ne different _ _
      obtain ⟨handles, held⟩ := ih nodup freeRest
      refine ⟨handles, fun name => ?_⟩
      rw [List.foldl_cons, held]
      rcases eq_or_ne name first with rfl | different
      · simp [absent, acquire, free name List.mem_cons_self]
      · simp [acquire, different]

variable [DecidableEq Holder]

/-- The accounts after a step of one holder, from what the step does to the
mutexes: it disturbs what no other holder is sure of, holds only what the holder's
claims allow, and moves only the holder's handles. -/
theorem Accounts.step (accounts : Accounts threadOf claims mutexes) {holder : Holder}
    {new : Claims Name} {after : NamedMutexes Name Thread Holder}
    (sure : ∀ name ∈ new.sure, after.held name = some (threadOf holder, 0))
    (others : ∀ other ≠ holder, ∀ name ∈ (claims other).sure,
      after.held name = mutexes.held name)
    (possible : ∀ name, ∀ owner ∈ after.held name,
      (owner = (threadOf holder, 0) ∧ name ∈ new.possible) ∨
        (owner ∈ mutexes.held name ∧ (name ∈ (claims holder).possible → name ∈ new.possible)) ∨
        (owner ∈ mutexes.held name ∧ owner.1 ≠ threadOf holder))
    (own : ∀ name, holder ∈ after.handles name ↔ name ∈ new.opened)
    (frame : ∀ other ≠ holder, ∀ name,
      other ∈ after.handles name ↔ other ∈ mutexes.handles name) :
    Accounts threadOf (Function.update claims holder new) after where
  sure := by
    rw [Function.forall_update_iff claims fun other claims =>
      ∀ name ∈ claims.sure, after.held name = some (threadOf other, 0)]
    refine ⟨sure, fun other different name member => ?_⟩
    rw [others other different name member]
    exact accounts.sure other name member
  possible := by
    intro name owner holds
    rcases possible name owner holds with ⟨rfl, member⟩ | ⟨before, keeps⟩ | ⟨before, foreign⟩
    · refine ⟨rfl, holder, rfl, ?_⟩
      rwa [Function.update_self]
    · obtain ⟨first, other, thread, member⟩ := accounts.possible name owner before
      refine ⟨first, other, thread, ?_⟩
      rcases eq_or_ne other holder with rfl | different
      · rw [Function.update_self]
        exact keeps member
      · rwa [Function.update_of_ne different]
    · obtain ⟨first, other, thread, member⟩ := accounts.possible name owner before
      refine ⟨first, other, thread, ?_⟩
      have different : other ≠ holder := fun same => foreign (same ▸ thread.symm)
      rwa [Function.update_of_ne different]
  opened := by
    rw [Function.forall_update_iff claims fun other claims =>
      ∀ name, other ∈ after.handles name ↔ name ∈ claims.opened]
    exact ⟨own, fun other different name =>
      (frame other different name).trans (accounts.opened other name)⟩

theorem Accounts.weaken (accounts : Accounts threadOf claims mutexes) {holder : Holder}
    {new : Claims Name} (weaker : (claims holder).Weaken new) :
    Accounts threadOf (Function.update claims holder new) mutexes :=
  accounts.step (fun name member => accounts.sure holder name (weaker.sure member))
    (fun _ _ _ _ => rfl) (fun _ _ holds => .inr (.inl ⟨holds, fun old => weaker.possible old⟩))
    (fun name => weaker.opened ▸ accounts.opened holder name) (fun _ _ _ => Iff.rfl)

section EndThread

variable [DecidableEq Thread]

/-- **The end of a thread's process leaves its holders with nothing**, and the others with
what they had. -/
theorem Accounts.endThread (accounts : Accounts threadOf claims mutexes) (thread : Thread) :
    Accounts threadOf (fun holder => if threadOf holder = thread then Claims.none
      else claims holder) (mutexes.endThread threadOf thread) where
  sure holder name member := by
    split at member
    · exact member.elim
    · rename_i alive
      have opened := (claims holder).possible_opened ((claims holder).sure_possible member)
      have kept : ((mutexes.handles name).filter fun other => threadOf other ≠ thread) ≠ ∅ :=
        Finset.ne_empty_of_mem
          (Finset.mem_filter.mpr ⟨(accounts.opened holder name).mpr opened, alive⟩)
      simp only [NamedMutexes.endThread, accounts.sure holder name member, Option.filter_some,
        alive, kept, not_false_eq_true, ne_eq, and_self, decide_true, ↓reduceIte]
  possible name owner holds := by
    obtain ⟨before, alive⟩ := Option.mem_filter_iff.mp holds
    obtain ⟨first, holder, same, possible⟩ := accounts.possible name owner before
    refine ⟨first, holder, same, ?_⟩
    have survives : threadOf holder ≠ thread := by
      rw [same]
      exact (of_decide_eq_true alive).1
    rwa [if_neg survives]
  opened holder name := by
    simp only [NamedMutexes.endThread, Finset.mem_filter, accounts.opened holder name]
    split
    · rename_i ended
      simp [ended, Claims.none]
    · rename_i alive
      simp [alive]

end EndThread

variable [DecidableEq Name]

theorem Accounts.openHandle (accounts : Accounts threadOf claims mutexes) {holder : Holder}
    {new : Claims Name} {name : Name}
    (follow : Claims.Follow (.openHandle name) (claims holder) new) :
    Accounts threadOf (Function.update claims holder new) (mutexes.openHandle holder name) := by
  have handles : ∀ other name', other ∈ (mutexes.openHandle holder name).handles name' ↔
      (other = holder ∧ name' = name) ∨ other ∈ mutexes.handles name' := by
    intro other name'
    rcases eq_or_ne name' name with rfl | different
    · simp [NamedMutexes.openHandle]
    · simp [NamedMutexes.openHandle, different]
  refine accounts.step (fun name' member => accounts.sure holder name' (follow.sure member))
    (fun _ _ _ _ => rfl) (fun _ _ holds => .inr (.inl ⟨holds, fun old => follow.possible old⟩))
    ?_ ?_
  · intro name'
    rw [handles, follow.opened, accounts.opened holder name']
    simp [MutexCall.opens]
  · intro other different name'
    rw [handles]
    simp [different]

theorem Accounts.closeHandle (accounts : Accounts threadOf claims mutexes) {holder : Holder}
    {new : Claims Name} {name : Name}
    (follow : Claims.Follow (.closeHandle name) (claims holder) new) :
    Accounts threadOf (Function.update claims holder new) (mutexes.closeHandle holder name) := by
  have handles : ∀ other name', other ∈ (mutexes.closeHandle holder name).handles name' ↔
      ¬ (other = holder ∧ name' = name) ∧ other ∈ mutexes.handles name' := by
    intro other name'
    rcases eq_or_ne name' name with rfl | different
    · simp [NamedMutexes.closeHandle]
    · simp [NamedMutexes.closeHandle, different]
  -- only a mutex without another handle is destroyed
  have held : ∀ name', name' ≠ name ∨ (mutexes.handles name).erase holder ≠ ∅ →
      (mutexes.closeHandle holder name).held name' = mutexes.held name' := by
    intro name' kept
    unfold NamedMutexes.closeHandle
    dsimp only
    split
    · rename_i last
      rw [Function.update_of_ne (kept.resolve_right (not_not.mpr last))]
    · rfl
  have heldBefore : ∀ name', ∀ owner ∈ (mutexes.closeHandle holder name).held name',
      owner ∈ mutexes.held name' := by
    intro name' owner holds
    unfold NamedMutexes.closeHandle at holds
    dsimp only at holds
    split at holds
    · rcases eq_or_ne name' name with rfl | different
      · rw [Function.update_self] at holds
        cases holds
      · rwa [Function.update_of_ne different] at holds
    · exact holds
  refine accounts.step ?_ ?_ ?_ ?_ ?_
  · intro name' member
    have other : name' ≠ name := by
      rintro rfl
      have opened := new.possible_opened (new.sure_possible member)
      rw [follow.opened] at opened
      exact opened.2 rfl
    rw [held name' (.inl other)]
    exact accounts.sure holder name' (follow.sure member)
  · intro other different name' member
    refine held name' (or_iff_not_imp_left.mpr fun same => ?_)
    rw [not_not] at same
    subst same
    have opened := (claims other).possible_opened ((claims other).sure_possible member)
    exact Finset.ne_empty_of_mem
      (Finset.mem_erase.mpr ⟨different, (accounts.opened other name').mpr opened⟩)
  · exact fun name' owner holds =>
      .inr (.inl ⟨heldBefore name' owner holds, fun old => follow.possible old⟩)
  · intro name'
    rw [handles, follow.opened, accounts.opened holder name']
    simp [MutexCall.opens, and_comm]
  · intro other different name'
    rw [handles]
    simp [different]

theorem Accounts.acquireAll (ownThreads : Function.Injective threadOf)
    (accounts : Accounts threadOf claims mutexes) {holder : Holder} {new : Claims Name}
    {names : List Name} (follow : Claims.Follow (.acquireAll names) (claims holder) new)
    (grants : ∀ name ∈ names, mutexes.Available (threadOf holder) name) :
    Accounts threadOf (Function.update claims holder new)
      (names.foldl (fun mutexes name => mutexes.acquire (threadOf holder) name) mutexes) := by
  have free : ∀ name ∈ names, mutexes.held name = none := fun name member =>
    accounts.free_of_available ownThreads (grants name member) (follow.fresh name member)
  have nodup : names.Nodup := follow.nodup
  obtain ⟨handles, held⟩ := foldl_acquire (threadOf holder) nodup free
  refine accounts.step ?_ ?_ ?_ ?_ ?_
  · intro name member
    rw [held]
    split
    · rfl
    · rename_i absent
      exact accounts.sure holder name ((follow.sure member).resolve_right absent)
  · intro other _ name member
    rw [held, if_neg]
    intro waited
    have sure := accounts.sure other name member
    rw [free name waited] at sure
    cases sure
  · intro name owner holds
    rw [held] at holds
    split at holds
    · rename_i waited
      cases holds
      exact .inl ⟨rfl, follow.possible (.inr waited)⟩
    · exact .inr (.inl ⟨holds, fun old => follow.possible (.inl old)⟩)
  · intro name
    rw [handles, follow.opened]
    exact accounts.opened holder name
  · intro other _ name
    rw [handles]

variable [DecidableEq Thread]

theorem Accounts.release (ownThreads : Function.Injective threadOf)
    (accounts : Accounts threadOf claims mutexes) {holder : Holder} {new : Claims Name}
    {name : Name} (follow : Claims.Follow (.release name) (claims holder) new) :
    Accounts threadOf (Function.update claims holder new)
      (mutexes.release (threadOf holder) name) := by
  have otherName : ∀ name', name' ≠ name →
      (mutexes.release (threadOf holder) name).held name' = mutexes.held name' := by
    intro name' different
    exact Function.update_of_ne different _ _
  have foreign : ∀ owner, owner.1 ≠ threadOf holder → mutexes.held name = some owner →
      (mutexes.release (threadOf holder) name).held name = mutexes.held name := by
    intro owner different holds
    simp [NamedMutexes.release, holds, different]
  refine accounts.step ?_ ?_ ?_ ?_ (fun _ _ _ => Iff.rfl)
  · intro name' member
    obtain ⟨old, different⟩ := follow.sure member
    rw [otherName name' different]
    exact accounts.sure holder name' old
  · intro other different name' member
    rcases eq_or_ne name' name with rfl | distinct
    · exact foreign _ (ownThreads.ne different) (accounts.sure other name' member)
    · exact otherName name' distinct
  · intro name' owner holds
    rcases eq_or_ne name' name with rfl | distinct
    · cases before : mutexes.held name' with
      | none => simp [NamedMutexes.release, before] at holds
      | some held =>
          have first := (accounts.possible name' held before).1
          rcases eq_or_ne held.1 (threadOf holder) with same | different
          · simp [NamedMutexes.release, before, same, first] at holds
          · rw [foreign held different before, before] at holds
            cases holds
            exact .inr (.inr ⟨rfl, different⟩)
    · rw [otherName name' distinct] at holds
      exact .inr (.inl ⟨holds, fun old => follow.possible ⟨old, distinct⟩⟩)
  · exact fun name' => follow.opened ▸ accounts.opened holder name'

/-- **Claims that follow a granted call stay in step with the mutexes.** -/
theorem Accounts.perform (ownThreads : Function.Injective threadOf)
    (accounts : Accounts threadOf claims mutexes) {holder : Holder} {call : MutexCall Name}
    {new : Claims Name} (follow : Claims.Follow call (claims holder) new)
    (grants : mutexes.Grants (threadOf holder) call) :
    Accounts threadOf (Function.update claims holder new)
      (mutexes.perform threadOf holder call) := by
  cases call with
  | openHandle name => exact accounts.openHandle follow
  | closeHandle name => exact accounts.closeHandle follow
  | acquire name =>
      refine accounts.acquireAll ownThreads follow.acquireAll_singleton ?_
      intro other member
      rw [List.mem_singleton.mp member]
      exact grants
  | acquireAll names => exact accounts.acquireAll ownThreads follow grants
  | release name => exact accounts.release ownThreads follow

end NamedMutexes
