import WatchDogProcess.SingleInstance.LockedFileFields

/-! # What a locked file owns

The fields of a file and its place in the code tell which mutexes it holds and has
handles to (`QtLockedFile.owned`). Each system call changes what the file owns as
it changes the mutexes (`QtLockedFile.WellFormed.follow_resume`), and the code
between two calls changes it not at all, up to what the file is sure of; so the
claims of the file follow its calls.
-/

namespace WatchDog.Windows

open NamedMutexes

/-- Which mutexes a file holds, may hold and has handles to: the writer's mutex, and
reader mutexes. -/
structure Owned where
  writer : Bool
  readers : List Nat
  mayReaders : List Nat
  wmutex : Bool
  opened : List Nat

namespace QtLockedFile

/-- What the file owns before its next system call. After a wait whose result it did
not recognise it gives back whatever it may hold. -/
def owned (file : QtLockedFile) : Owned :=
  let reader := file.rmutex.toList
  match file.pc with
  | .idle => match file.lockMode with
    | .noLock => ⟨false, [], [], file.wmutex, []⟩
    | .readLock => ⟨false, reader, reader, file.wmutex, reader⟩
    | .writeLock => ⟨true, file.rmutexes, file.rmutexes, file.wmutex, file.rmutexes⟩
  | .createWrite _ _ | .waitWrite _ _ | .closeWrite => ⟨false, [], [], file.wmutex, []⟩
  | .openRead _ | .createRead _ | .releaseWriteHeld _ => ⟨true, [], [], file.wmutex, []⟩
  | .waitRead idx | .closeRead idx | .waitCreated idx | .closeCreated idx =>
      ⟨true, [], [], file.wmutex, [idx]⟩
  | .releaseWrite true => ⟨true, reader, reader, file.wmutex, reader⟩
  | .releaseWrite false => ⟨true, [], [], file.wmutex, []⟩
  | .openAll _ _ | .waitAll _ => ⟨true, [], [], file.wmutex, file.rmutexes⟩
  | .releaseRead _ => ⟨false, reader, reader, file.wmutex, reader⟩
  | .closeReadHeld _ => ⟨false, [], [], file.wmutex, reader⟩
  | .releaseOne idx rest _ => ⟨true, [], idx :: rest, file.wmutex, idx :: rest⟩
  | .closeOne idx rest _ => ⟨true, [], rest, file.wmutex, idx :: rest⟩

theorem wmutex_owned (file : QtLockedFile) : file.owned.wmutex = file.wmutex := by
  unfold owned
  dsimp only
  split
  · split <;> rfl
  all_goals rfl

theorem WellFormed.wmutex_of_owned {file : QtLockedFile} (wellFormed : file.WellFormed)
    (owns : file.owned.writer = true) : file.owned.wmutex = true := by
  rw [wmutex_owned]
  unfold WellFormed at wellFormed
  unfold owned at owns
  cases pc : file.pc with
  | idle =>
      unfold Settled at wellFormed
      cases mode : file.lockMode <;> simp_all
  | releaseWrite ok => cases ok <;> simp_all
  | _ => simp_all

theorem mayReaders_of_readers {file : QtLockedFile} {idx : Nat}
    (owns : idx ∈ file.owned.readers) : idx ∈ file.owned.mayReaders := by
  unfold owned at owns ⊢
  cases pc : file.pc with
  | idle => cases mode : file.lockMode <;> simp_all
  | releaseWrite ok => cases ok <;> simp_all
  | _ => simp_all

theorem opened_of_mayReaders {file : QtLockedFile} {idx : Nat}
    (owns : idx ∈ file.owned.mayReaders) : idx ∈ file.owned.opened := by
  unfold owned at owns ⊢
  cases pc : file.pc with
  | idle => cases mode : file.lockMode <;> simp_all
  | releaseWrite ok => cases ok <;> simp_all
  | _ => simp_all

/-! One equation for each piece of code between two system calls. -/

theorem owned_finish {file : QtLockedFile} (unlocked : file.lockMode = .noLock)
    (result : Bool) : (file.finish result).owned = ⟨false, [], [], file.wmutex, []⟩ := by
  simp only [owned, finish, unlocked]

theorem owned_beginLock (file : QtLockedFile) (mode : LockMode) (block : Bool) :
    (file.beginLock mode block).owned = ⟨false, [], [], file.wmutex, []⟩ := by
  unfold beginLock owned
  cases file.wmutex <;> rfl

theorem owned_proceed {file : QtLockedFile} (unlocked : file.lockMode = .noLock)
    (after : After) : (file.proceed after).owned = ⟨false, [], [], file.wmutex, []⟩ := by
  cases after with
  | answer result => exact owned_finish unlocked result
  | lock mode block => exact owned_beginLock file mode block
  | closeWrite =>
      unfold proceed
      cases opened : file.wmutex with
      | true => simp only [owned, ↓reduceIte]
      | false => rfl

theorem owned_releaseNext (file : QtLockedFile) (after : After) (rest : List Nat) :
    (file.releaseNext after rest).owned = ⟨true, [], rest, file.wmutex, rest⟩ := by
  cases rest <;> rfl

theorem owned_beginUnlock_of_write {file : QtLockedFile} (locked : file.lockMode = .writeLock)
    (after : After) :
    (file.beginUnlock after).owned = ⟨true, [], file.rmutexes, file.wmutex, file.rmutexes⟩ := by
  simp only [beginUnlock, locked, owned_releaseNext]

theorem owned_nextRead (file : QtLockedFile) (idx : Nat) :
    (file.nextRead idx).owned = ⟨true, [], [], file.wmutex, []⟩ := by
  unfold nextRead
  split <;> rfl

theorem owned_nextOpenAll (file : QtLockedFile) (idx : Nat) (block : Bool) :
    (file.nextOpenAll idx block).owned = ⟨true, [], [], file.wmutex, file.rmutexes⟩ := by
  unfold nextOpenAll
  split
  · rfl
  · split
    · rename_i noReaders
      simp only [owned, finish, noReaders]
    · rfl

end QtLockedFile

/-- The writer's mutex or not, and some reader mutexes. -/
def mutexSet (writer : Bool) (readers : List Nat) : Set MutexName
  | .writer => writer
  | .reader idx => idx ∈ readers

@[simp] theorem writer_mem_mutexSet (writer : Bool) (readers : List Nat) :
    MutexName.writer ∈ mutexSet writer readers ↔ writer = true := Iff.rfl

@[simp] theorem reader_mem_mutexSet (writer : Bool) (readers : List Nat) (idx : Nat) :
    MutexName.reader idx ∈ mutexSet writer readers ↔ idx ∈ readers := Iff.rfl

theorem forall_mutexName {holds : MutexName → Prop} :
    (∀ name, holds name) ↔ holds .writer ∧ ∀ idx, holds (.reader idx) := by
  refine ⟨fun each => ⟨each _, fun idx => each _⟩, fun both name => ?_⟩
  cases name with
  | writer => exact both.1
  | reader idx => exact both.2 idx

theorem mutexSet_subset {writer other : Bool} {readers others : List Nat} :
    mutexSet writer readers ⊆ mutexSet other others ↔
      (writer = true → other = true) ∧ ∀ idx ∈ readers, idx ∈ others :=
  forall_mutexName

theorem mutexSet_empty : mutexSet false [] = ∅ := by
  ext name
  cases name <;> simp

namespace Owned

/-- The file after a call owns no more and no less than the call has made of it. -/
structure Follow (call : MutexCall MutexName) (old new : Owned) : Prop where
  opened : ∀ name, name ∈ mutexSet new.wmutex new.opened ↔
    name ∈ call.opens (mutexSet old.wmutex old.opened)
  sure : ∀ name ∈ mutexSet new.writer new.readers,
    name ∈ call.holds (mutexSet old.writer old.readers)
  possible : ∀ name ∈ call.holds (mutexSet old.writer old.mayReaders),
    name ∈ mutexSet new.writer new.mayReaders
  fresh : ∀ name ∈ call.waitsFor, name ∉ mutexSet old.writer old.mayReaders
  nodup : call.waitsFor.Nodup

/-- The same handles, and no more that is sure. -/
structure Weaken (old new : Owned) : Prop where
  wmutex : new.wmutex = old.wmutex
  opened : new.opened = old.opened
  writer : new.writer = old.writer
  readers : ∀ idx ∈ new.readers, idx ∈ old.readers
  mayReaders : ∀ idx ∈ old.mayReaders, idx ∈ new.mayReaders

theorem Weaken.of_eq {old new : Owned} (same : new = old) : Weaken old new := by
  subst same
  exact ⟨rfl, rfl, rfl, fun _ => id, fun _ => id⟩

variable {writer wmutex : Bool} {readers mayReaders opened : List Nat} {idx : Nat}

/-! One rule for each kind of call. -/

theorem follow_createWriter : Follow (.openHandle .writer)
    ⟨writer, readers, mayReaders, wmutex, opened⟩ ⟨writer, readers, mayReaders, true, opened⟩ := by
  refine ⟨?_, ?_, ?_, ?_, ?_⟩ <;>
    simp [forall_mutexName, MutexCall.opens, MutexCall.holds, MutexCall.waitsFor]

theorem follow_openReader {after : List Nat} (adds : ∀ other, other ∈ after ↔
      other = idx ∨ other ∈ opened) : Follow (.openHandle (.reader idx))
    ⟨writer, readers, mayReaders, wmutex, opened⟩ ⟨writer, readers, mayReaders, wmutex, after⟩ := by
  refine ⟨?_, ?_, ?_, ?_, ?_⟩ <;>
    simp [forall_mutexName, MutexCall.opens, MutexCall.holds, MutexCall.waitsFor, adds]

theorem follow_closeWriter : Follow (.closeHandle .writer)
    ⟨writer, readers, mayReaders, wmutex, opened⟩
    ⟨writer, readers, mayReaders, false, opened⟩ := by
  refine ⟨?_, ?_, ?_, ?_, ?_⟩ <;>
    simp [forall_mutexName, MutexCall.opens, MutexCall.holds, MutexCall.waitsFor]

theorem follow_closeReader (nodup : (idx :: opened).Nodup) : Follow (.closeHandle (.reader idx))
    ⟨writer, readers, mayReaders, wmutex, idx :: opened⟩
    ⟨writer, readers, mayReaders, wmutex, opened⟩ := by
  have other : ∀ other ∈ opened, other ≠ idx :=
    fun other member => ne_of_mem_of_not_mem member (List.nodup_cons.mp nodup).1
  refine ⟨?_, ?_, ?_, ?_, ?_⟩ <;>
    simp [forall_mutexName, MutexCall.opens, MutexCall.holds, MutexCall.waitsFor]
  grind

theorem follow_acquireWriter : Follow (.acquire .writer)
    ⟨false, readers, mayReaders, wmutex, opened⟩ ⟨true, readers, mayReaders, wmutex, opened⟩ := by
  refine ⟨?_, ?_, ?_, ?_, ?_⟩ <;>
    simp [forall_mutexName, MutexCall.opens, MutexCall.holds, MutexCall.waitsFor]

theorem follow_acquireReader : Follow (.acquire (.reader idx))
    ⟨writer, [], [], wmutex, opened⟩ ⟨writer, [idx], [idx], wmutex, opened⟩ := by
  refine ⟨?_, ?_, ?_, ?_, ?_⟩ <;>
    simp [forall_mutexName, MutexCall.opens, MutexCall.holds, MutexCall.waitsFor]

theorem follow_acquireAll (nodup : opened.Nodup)
    (sure : ∀ other ∈ readers, other ∈ opened) : Follow (.acquireAll (opened.map .reader))
    ⟨writer, [], [], wmutex, opened⟩ ⟨writer, readers, opened, wmutex, opened⟩ := by
  refine ⟨?_, ?_, ?_, ?_, nodup.map fun _ _ => MutexName.reader.inj⟩ <;>
    simp [forall_mutexName, MutexCall.opens, MutexCall.holds, MutexCall.waitsFor]
  exact sure

theorem follow_releaseWriter : Follow (.release .writer)
    ⟨writer, readers, mayReaders, wmutex, opened⟩
    ⟨false, readers, mayReaders, wmutex, opened⟩ := by
  refine ⟨?_, ?_, ?_, ?_, ?_⟩ <;>
    simp [forall_mutexName, MutexCall.opens, MutexCall.holds, MutexCall.waitsFor]

theorem follow_releaseReader : Follow (.release (.reader idx))
    ⟨writer, readers, idx :: mayReaders, wmutex, opened⟩
    ⟨writer, [], mayReaders, wmutex, opened⟩ := by
  refine ⟨?_, ?_, ?_, ?_, ?_⟩ <;>
    simp [forall_mutexName, MutexCall.opens, MutexCall.holds, MutexCall.waitsFor]
  grind

end Owned

namespace QtLockedFile

/-- **What a file owns after a call that was performed is what the call has made of
it.** -/
theorem WellFormed.follow_resume {file : QtLockedFile} (wellFormed : file.WellFormed)
    {call : MutexCall MutexName} (calls : file.call = some call) {reply : Reply}
    (performed : reply = .granted ∨ reply = .unrecognised ∧ ∃ block, file.pc = .waitAll block) :
    Owned.Follow call file.owned (file.resume reply).owned := by
  unfold WellFormed at wellFormed
  unfold QtLockedFile.call at calls
  unfold QtLockedFile.resume
  cases pc : file.pc <;>
    simp only [pc, Option.some.injEq, reduceCtorEq, exists_false, and_false, or_false]
    at calls wellFormed performed
  case waitAll block =>
    subst calls
    have before : file.owned = ⟨true, [], [], file.wmutex, file.rmutexes⟩ := by
      simp only [owned, pc]
    rw [before]
    rcases performed with granted | ⟨unrecognised, _⟩
    · subst granted
      exact Owned.follow_acquireAll wellFormed.2.2.2.1 fun _ => id
    · subst unrecognised
      rw [owned_beginUnlock_of_write rfl]
      exact Owned.follow_acquireAll wellFormed.2.2.2.1 fun _ member => absurd member List.not_mem_nil
  case createWrite mode block =>
    subst calls performed
    have before : file.owned = ⟨false, [], [], file.wmutex, []⟩ := by simp only [owned, pc]
    rw [before]
    exact Owned.follow_createWriter
  case waitWrite mode block =>
    subst calls performed
    have before : file.owned = ⟨false, [], [], file.wmutex, []⟩ := by simp only [owned, pc]
    rw [before]
    cases mode with
    | noLock => exact absurd rfl wellFormed.1
    | readLock =>
        simp only [owned_nextRead]
        exact Owned.follow_acquireWriter
    | writeLock =>
        simp only [owned_nextOpenAll, wellFormed.2.2.2.2]
        exact Owned.follow_acquireWriter
  case openRead idx =>
    subst calls performed
    have before : file.owned = ⟨true, [], [], file.wmutex, []⟩ := by simp only [owned, pc]
    rw [before]
    exact Owned.follow_openReader fun _ => List.mem_cons
  case waitRead idx =>
    subst calls performed
    have before : file.owned = ⟨true, [], [], file.wmutex, [idx]⟩ := by simp only [owned, pc]
    rw [before]
    simp only [owned, wellFormed.2.2.2.1]
    exact Owned.follow_acquireReader
  case closeRead idx =>
    subst calls performed
    have before : file.owned = ⟨true, [], [], file.wmutex, [idx]⟩ := by simp only [owned, pc]
    rw [before]
    simp only [owned_nextRead]
    exact Owned.follow_closeReader (List.nodup_singleton idx)
  case createRead idx =>
    subst calls performed
    have before : file.owned = ⟨true, [], [], file.wmutex, []⟩ := by simp only [owned, pc]
    rw [before]
    exact Owned.follow_openReader fun _ => List.mem_cons
  case waitCreated idx =>
    subst calls performed
    have before : file.owned = ⟨true, [], [], file.wmutex, [idx]⟩ := by simp only [owned, pc]
    rw [before]
    simp only [owned, wellFormed.2.2.2.1]
    exact Owned.follow_acquireReader
  case closeCreated idx =>
    subst calls performed
    have before : file.owned = ⟨true, [], [], file.wmutex, [idx]⟩ := by simp only [owned, pc]
    rw [before]
    exact Owned.follow_closeReader (List.nodup_singleton idx)
  case releaseWrite ok =>
    subst calls performed
    cases ok with
    | true =>
        have before : file.owned = ⟨true, file.rmutex.toList, file.rmutex.toList, file.wmutex,
          file.rmutex.toList⟩ := by simp only [owned, pc]
        rw [before]
        exact Owned.follow_releaseWriter
    | false =>
        have before : file.owned = ⟨true, [], [], file.wmutex, []⟩ := by simp only [owned, pc]
        rw [before, owned_finish wellFormed.1]
        exact Owned.follow_releaseWriter
  case openAll idx block =>
    subst calls performed
    have before : file.owned = ⟨true, [], [], file.wmutex, file.rmutexes⟩ := by simp only [owned, pc]
    rw [before]
    simp only [owned_nextOpenAll]
    exact Owned.follow_openReader fun _ => by simp [or_comm]
  case releaseRead after =>
    obtain ⟨_, _, _, ⟨idx, reader, _⟩, _⟩ := wellFormed
    subst performed
    simp only [reader, Option.map_some, Option.some.injEq] at calls
    subst calls
    have before : file.owned = ⟨false, [idx], [idx], file.wmutex, [idx]⟩ := by
      simp only [owned, pc, reader, Option.toList_some]
    have after : ({ file with pc := .closeReadHeld after } : QtLockedFile).owned =
        ⟨false, [], [], file.wmutex, [idx]⟩ := by
      simp only [owned, reader, Option.toList_some]
    rw [before, after]
    exact Owned.follow_releaseReader
  case closeReadHeld after =>
    obtain ⟨_, _, _, ⟨idx, reader, _⟩, _⟩ := wellFormed
    subst performed
    simp only [reader, Option.map_some, Option.some.injEq] at calls
    subst calls
    have before : file.owned = ⟨false, [], [], file.wmutex, [idx]⟩ := by
      simp only [owned, pc, reader, Option.toList_some]
    rw [before, owned_proceed rfl]
    exact Owned.follow_closeReader (List.nodup_singleton idx)
  case releaseOne idx rest after =>
    subst calls performed
    have before : file.owned = ⟨true, [], idx :: rest, file.wmutex, idx :: rest⟩ := by simp only [owned, pc]
    rw [before]
    exact Owned.follow_releaseReader
  case closeOne idx rest after =>
    subst calls performed
    have before : file.owned = ⟨true, [], rest, file.wmutex, idx :: rest⟩ := by simp only [owned, pc]
    rw [before]
    simp only [owned_releaseNext]
    exact Owned.follow_closeReader wellFormed.2.2.2.2
  case releaseWriteHeld after =>
    subst calls performed
    have before : file.owned = ⟨true, [], [], file.wmutex, []⟩ := by simp only [owned, pc]
    rw [before]
    rw [owned_proceed rfl]
    exact Owned.follow_releaseWriter
  case closeWrite =>
    subst calls performed
    have before : file.owned = ⟨false, [], [], file.wmutex, []⟩ := by simp only [owned, pc]
    rw [before]
    exact Owned.follow_closeWriter

/-- A call that failed leaves the file with what it had. -/
theorem WellFormed.weaken_resume {file : QtLockedFile} (wellFormed : file.WellFormed)
    {call : MutexCall MutexName} (calls : file.call = some call) (fallible : call.fallible) :
    Owned.Weaken file.owned (file.resume .refused).owned := by
  unfold WellFormed at wellFormed
  unfold QtLockedFile.call at calls
  unfold QtLockedFile.resume
  cases pc : file.pc with
  | waitAll block =>
      have before : file.owned = ⟨true, [], [], file.wmutex, file.rmutexes⟩ := by
        simp only [owned, pc]
      rw [before, owned_beginUnlock_of_write rfl]
      exact ⟨rfl, rfl, rfl, fun _ => id, fun _ member => absurd member List.not_mem_nil⟩
  | idle =>
      rw [pc] at calls
      cases calls
  | releaseRead | closeReadHeld =>
      simp only [pc, Option.map_eq_some_iff] at calls
      obtain ⟨idx, _, rfl⟩ := calls
      exact absurd fallible Bool.false_ne_true
  | closeRead | closeCreated | releaseWrite | releaseOne | closeOne | releaseWriteHeld
    | closeWrite =>
      simp only [pc, Option.some.injEq] at calls
      subst calls
      exact absurd fallible Bool.false_ne_true
  | createWrite mode block =>
      simp only [pc] at wellFormed
      refine Owned.Weaken.of_eq ?_
      rw [owned_finish wellFormed.2.1]
      simp only [owned, pc]
  | waitWrite mode block =>
      simp only [pc] at wellFormed
      refine Owned.Weaken.of_eq ?_
      have before : file.owned = ⟨false, [], [], file.wmutex, []⟩ := by simp only [owned, pc]
      rw [before]
      cases mode with
      | noLock => exact absurd rfl wellFormed.1
      | readLock => exact owned_finish wellFormed.2.1 false
      | writeLock => exact owned_finish wellFormed.2.1 false
  | openRead | waitRead | createRead | waitCreated =>
      refine Owned.Weaken.of_eq ?_
      simp only [owned, pc]
  | openAll idx block =>
      refine Owned.Weaken.of_eq ?_
      dsimp only
      rw [owned_nextOpenAll]
      simp only [owned, pc]

/-! ### Starting a call -/

theorem owned_of_unlocked {file : QtLockedFile} (idle : file.pc = .idle)
    (unlocked : file.lockMode = .noLock) : file.owned = ⟨false, [], [], file.wmutex, []⟩ := by
  simp only [owned, idle, unlocked]

theorem weaken_finish {file : QtLockedFile} (idle : file.pc = .idle) (result : Bool) :
    Owned.Weaken file.owned (file.finish result).owned :=
  .of_eq (by simp only [owned, finish, idle])

theorem weaken_beginUnlock {file : QtLockedFile} (idle : file.pc = .idle)
    (locked : file.lockMode ≠ .noLock) (after : After) :
    Owned.Weaken file.owned (file.beginUnlock after).owned := by
  cases mode : file.lockMode with
  | noLock => exact absurd mode locked
  | readLock => exact .of_eq (by simp only [owned, beginUnlock, idle, mode])
  | writeLock =>
      have before : file.owned =
          ⟨true, file.rmutexes, file.rmutexes, file.wmutex, file.rmutexes⟩ := by
        simp only [owned, idle, mode]
      rw [before, owned_beginUnlock_of_write mode]
      exact ⟨rfl, rfl, rfl, fun _ member => absurd member List.not_mem_nil, fun _ => id⟩

theorem weaken_opened {file : QtLockedFile} (idle : file.pc = .idle) :
    Owned.Weaken file.owned file.opened.owned :=
  .of_eq (by simp only [owned, opened, idle])

theorem weaken_unlock {file : QtLockedFile} (idle : file.pc = .idle) :
    Owned.Weaken file.owned file.unlock.owned := by
  unfold unlock
  split
  · exact weaken_finish idle false
  · split
    · exact weaken_finish idle true
    · rename_i locked
      exact weaken_beginUnlock idle locked _

theorem weaken_lock {file : QtLockedFile} (idle : file.pc = .idle) (mode : LockMode)
    (block : Bool) : Owned.Weaken file.owned (file.lock mode block).owned := by
  unfold lock
  split
  · exact weaken_finish idle false
  · split
    · exact weaken_unlock idle
    · split
      · exact weaken_finish idle true
      · split
        · rename_i locked
          exact weaken_beginUnlock idle locked _
        · rename_i unlocked
          rw [owned_of_unlocked idle (not_not.mp unlocked)]
          exact .of_eq (owned_beginLock file mode block)

theorem weaken_destroy {file : QtLockedFile} (idle : file.pc = .idle)
    (opened : file.OpenedBeforeUse) : Owned.Weaken file.owned file.destroy.owned := by
  unfold destroy
  split
  · rename_i locked
    exact weaken_beginUnlock idle locked.2 _
  · rename_i skips
    have unlocked := opened.unlocked skips
    rw [owned_of_unlocked idle unlocked]
    exact .of_eq (owned_proceed unlocked _)

end QtLockedFile

namespace LockedFile

variable (locked : LockedFile)

/-- The claims that come with the fields. -/
def claims : Claims MutexName where
  sure := mutexSet locked.file.owned.writer locked.file.owned.readers
  possible := mutexSet locked.file.owned.writer locked.file.owned.mayReaders
  opened := mutexSet locked.file.owned.wmutex locked.file.owned.opened
  sure_possible := mutexSet_subset.mpr ⟨id, fun _ => QtLockedFile.mayReaders_of_readers⟩
  possible_opened := mutexSet_subset.mpr
    ⟨locked.wellFormed.wmutex_of_owned, fun _ => QtLockedFile.opened_of_mayReaders⟩

theorem claims_constructed : constructed.claims = Claims.none :=
  Claims.ext mutexSet_empty mutexSet_empty mutexSet_empty

variable {locked} {other : LockedFile} {call : MutexCall MutexName}

theorem follow_claims (follow : Owned.Follow call locked.file.owned other.file.owned) :
    Claims.Follow call locked.claims other.claims :=
  ⟨Set.ext follow.opened, follow.sure, follow.possible, follow.fresh, follow.nodup⟩

theorem weaken_claims (weaken : Owned.Weaken locked.file.owned other.file.owned) :
    Claims.Weaken locked.claims other.claims := by
  refine ⟨?_, ?_, ?_⟩
  · simp only [claims, weaken.wmutex, weaken.opened]
  · exact mutexSet_subset.mpr ⟨fun writer => weaken.writer ▸ writer, weaken.readers⟩
  · exact mutexSet_subset.mpr ⟨fun writer => weaken.writer ▸ writer, weaken.mayReaders⟩

end LockedFile

end WatchDog.Windows
