import WatchDogProcess.SingleInstance.LockedFileRun

/-! # Readers and writers of a locked file

However the objects that lock a file interleave, fail in system calls and crash, an
object with the write lock is alone (`WatchDog.Windows.lock_excludes`): seen through
the modes between two calls, a run takes and drops locks as readers and writers do.
A writer collects a mutex for every reader before it waits
(`WatchDog.Windows.LockState.Guarded`), and no reader comes in between, since a
reader too needs the writer's mutex.
-/

namespace WatchDog.Windows

open NamedMutexes EventRun ReadersWriter

namespace QtLockedFile

/-- The lock that the object has between two calls; during a call it has none. -/
def heldMode (file : QtLockedFile) : LockMode :=
  match file.pc with
  | .idle => file.lockMode
  | _ => .noLock

theorem of_heldMode {file : QtLockedFile} {mode : LockMode} (holds : file.heldMode = mode)
    (locked : mode ≠ .noLock) : file.pc = .idle ∧ file.lockMode = mode := by
  unfold heldMode at holds
  split at holds
  · rename_i idle
    exact ⟨idle, holds⟩
  · exact absurd holds.symm locked

theorem heldMode_beginUnlock (file : QtLockedFile) (after : After) :
    (file.beginUnlock after).heldMode = .noLock := by
  unfold beginUnlock
  split
  · rfl
  · cases file.rmutexes <;> rfl

theorem heldMode_unlock (file : QtLockedFile) (idle : file.pc = .idle) :
    file.unlock.heldMode = file.heldMode ∨ file.unlock.heldMode = .noLock := by
  have kept : ∀ result, (file.finish result).heldMode = file.heldMode := by
    intro result
    simp only [heldMode, finish, idle]
  unfold unlock
  split
  · exact .inl (kept false)
  · split
    · exact .inl (kept true)
    · exact .inr (heldMode_beginUnlock file _)

theorem heldMode_lock (file : QtLockedFile) (idle : file.pc = .idle) (mode : LockMode)
    (block : Bool) : (file.lock mode block).heldMode = file.heldMode ∨
      (file.lock mode block).heldMode = .noLock := by
  have kept : ∀ result, (file.finish result).heldMode = file.heldMode := by
    intro result
    simp only [heldMode, finish, idle]
  unfold lock
  split
  · exact .inl (kept false)
  · split
    · exact heldMode_unlock file idle
    · split
      · exact .inl (kept true)
      · split
        · exact .inr (heldMode_beginUnlock file _)
        · refine .inr ?_
          unfold beginLock heldMode
          cases file.wmutex <;> rfl

theorem heldMode_destroy (file : QtLockedFile) : file.destroy.heldMode = .noLock := by
  unfold destroy
  split
  · exact heldMode_beginUnlock file _
  · unfold proceed
    dsimp only
    split <;> rfl

/-- The reader indices below this one the file has asked for as a writer. -/
def covered (file : QtLockedFile) : Nat :=
  match file.pc with
  | .openAll idx _ => idx
  | .waitAll _ => maxReaders
  | .idle => if file.lockMode = .writeLock then maxReaders else 0
  | _ => 0

/-- The file does not come to read, and what it has collected as a writer stays. -/
def Keeps (old new : QtLockedFile) : Prop :=
  (new.lockMode = .readLock → old.lockMode = .readLock ∧ new.rmutex = old.rmutex) ∧
    (new.covered = 0 ∨ new.covered = old.covered ∧ new.rmutexes = old.rmutexes)

theorem keeps_of_uncovered {old new : QtLockedFile} (unread : new.lockMode ≠ .readLock)
    (uncovered : new.covered = 0) : Keeps old new :=
  ⟨fun reads => absurd reads unread, .inl uncovered⟩

theorem unread_of_unlocked {file : QtLockedFile} (unlocked : file.lockMode = .noLock) :
    file.lockMode ≠ .readLock := by
  rw [unlocked]
  exact LockMode.noConfusion

theorem keeps_finish_of_unlocked {file : QtLockedFile} (unlocked : file.lockMode = .noLock)
    (result : Bool) (old : QtLockedFile) : Keeps old (file.finish result) := by
  apply keeps_of_uncovered
  · exact unread_of_unlocked unlocked
  · simp only [covered, finish, unlocked, reduceCtorEq, ↓reduceIte]

theorem keeps_finish {file : QtLockedFile} (idle : file.pc = .idle) (result : Bool) :
    Keeps file (file.finish result) := by
  refine ⟨fun reads => ⟨reads, rfl⟩, .inr ⟨?_, rfl⟩⟩
  unfold covered
  rw [idle]
  rfl

theorem keeps_beginLock {file : QtLockedFile} (unlocked : file.lockMode = .noLock)
    (mode : LockMode) (block : Bool) (old : QtLockedFile) :
    Keeps old (file.beginLock mode block) := by
  apply keeps_of_uncovered
  · exact unread_of_unlocked unlocked
  · unfold covered beginLock
    cases file.wmutex <;> rfl

theorem keeps_proceed {file : QtLockedFile} (unlocked : file.lockMode = .noLock)
    (after : After) (old : QtLockedFile) : Keeps old (file.proceed after) := by
  cases after with
  | answer result => exact keeps_finish_of_unlocked unlocked result old
  | lock mode block => exact keeps_beginLock unlocked mode block old
  | closeWrite =>
      unfold proceed
      dsimp only
      split
      · exact keeps_of_uncovered (unread_of_unlocked unlocked) rfl
      · exact keeps_of_uncovered LockMode.noConfusion rfl

theorem keeps_releaseNext {file : QtLockedFile} (locked : file.lockMode = .writeLock)
    (after : After) (rest : List Nat) (old : QtLockedFile) :
    Keeps old (file.releaseNext after rest) := by
  have unread : file.lockMode ≠ .readLock := by
    rw [locked]
    exact LockMode.noConfusion
  cases rest with
  | nil => exact keeps_of_uncovered unread rfl
  | cons idx rest => exact keeps_of_uncovered unread rfl

theorem keeps_beginUnlock {file : QtLockedFile} (locked : file.lockMode ≠ .noLock)
    (after : After) : Keeps file (file.beginUnlock after) := by
  cases mode : file.lockMode with
  | noLock => exact absurd mode locked
  | readLock =>
      simp only [beginUnlock, mode]
      exact ⟨fun reads => ⟨mode, rfl⟩, .inl rfl⟩
  | writeLock =>
      simp only [beginUnlock, mode]
      exact keeps_releaseNext mode after _ file

theorem keeps_opened {file : QtLockedFile} (idle : file.pc = .idle) : Keeps file file.opened := by
  refine ⟨fun reads => ⟨reads, rfl⟩, .inr ⟨?_, rfl⟩⟩
  unfold covered
  rw [idle]
  simp only [opened, idle]

theorem keeps_unlock {file : QtLockedFile} (idle : file.pc = .idle) : Keeps file file.unlock := by
  unfold unlock
  split
  · exact keeps_finish idle false
  · split
    · exact keeps_finish idle true
    · rename_i locked
      exact keeps_beginUnlock locked _

theorem keeps_lock {file : QtLockedFile} (idle : file.pc = .idle) (mode : LockMode)
    (block : Bool) : Keeps file (file.lock mode block) := by
  unfold lock
  split
  · exact keeps_finish idle false
  · split
    · exact keeps_unlock idle
    · split
      · exact keeps_finish idle true
      · split
        · rename_i locked
          exact keeps_beginUnlock locked _
        · rename_i unlocked
          exact keeps_beginLock (not_not.mp unlocked) mode block file

theorem keeps_destroy {file : QtLockedFile} (opened : file.OpenedBeforeUse) :
    Keeps file file.destroy := by
  unfold destroy
  split
  · rename_i locked
    exact keeps_beginUnlock locked.2 _
  · rename_i skips
    have unlocked := opened.unlocked skips
    exact keeps_proceed unlocked _ file

theorem covered_nextOpenAll_le (file : QtLockedFile) (idx : Nat) (block : Bool) :
    (file.nextOpenAll idx block).covered ≤ idx := by
  unfold nextOpenAll
  split
  · exact Nat.le_refl idx
  · rename_i last
    split
    · exact Nat.le_of_not_lt last
    · exact Nat.le_of_not_lt last

theorem rmutexes_nextOpenAll (file : QtLockedFile) (idx : Nat) (block : Bool) :
    (file.nextOpenAll idx block).rmutexes = file.rmutexes := by
  unfold nextOpenAll
  split
  · rfl
  · split <;> rfl

theorem keeps_nextRead {file : QtLockedFile} (unlocked : file.lockMode = .noLock) (idx : Nat)
    (old : QtLockedFile) : Keeps old (file.nextRead idx) := by
  have unread := unread_of_unlocked unlocked
  unfold nextRead
  split
  · exact keeps_of_uncovered unread rfl
  · exact keeps_of_uncovered unread rfl

theorem keeps_nextOpenAll_zero {file : QtLockedFile} (unlocked : file.lockMode = .noLock)
    (block : Bool) (old : QtLockedFile) : Keeps old (file.nextOpenAll 0 block) :=
  keeps_of_uncovered (unread_of_unlocked unlocked)
    (Nat.le_zero.mp (covered_nextOpenAll_le file 0 block))

/-- A file that neither collects a reader nor becomes one keeps what it is. -/
theorem WellFormed.keeps_resume {file : QtLockedFile} (wellFormed : file.WellFormed)
    (reply : Reply) (notCollecting : ∀ idx block, file.pc ≠ .openAll idx block)
    (notRegistering : file.pc ≠ .releaseWrite true) : Keeps file (file.resume reply) := by
  unfold WellFormed at wellFormed
  unfold QtLockedFile.resume
  cases pc : file.pc <;> simp only [pc] at wellFormed
  case idle => exact ⟨fun reads => ⟨reads, rfl⟩, .inr ⟨rfl, rfl⟩⟩
  case openAll idx block => exact absurd pc (notCollecting idx block)
  case releaseRead after => exact ⟨fun reads => ⟨reads, rfl⟩, .inl rfl⟩
  case closeReadHeld after => exact keeps_proceed rfl after file
  case releaseWriteHeld after => exact keeps_proceed rfl after file
  case closeOne idx rest after => exact keeps_releaseNext wellFormed.2.1 after rest file
  case closeRead idx => exact keeps_nextRead wellFormed.2.1 (idx + 1) file
  case waitAll block =>
    have fails : Keeps file
        ({ file with lockMode := .writeLock }.releaseNext (.answer false) file.rmutexes) := by
      apply keeps_releaseNext
      rfl
    cases reply with
    | granted =>
        refine ⟨fun reads => ?_, .inr ⟨?_, rfl⟩⟩
        · cases reads
        · unfold covered
          rw [pc]
          rfl
    | refused => exact fails
    | unrecognised => exact fails
  case createWrite mode block =>
    have unlocked := wellFormed.2.1
    have fails := keeps_finish_of_unlocked unlocked false file
    cases reply with
    | granted => exact keeps_of_uncovered (unread_of_unlocked unlocked) rfl
    | refused => exact fails
    | unrecognised => exact fails
  case waitWrite mode block =>
    have unlocked := wellFormed.2.1
    have fails := keeps_finish_of_unlocked unlocked false file
    cases mode with
    | noLock => exact absurd rfl wellFormed.1
    | readLock =>
        cases reply with
        | granted => exact keeps_nextRead unlocked 0 file
        | refused => exact fails
        | unrecognised => exact fails
    | writeLock =>
        cases reply with
        | granted => exact keeps_nextOpenAll_zero unlocked block file
        | refused => exact fails
        | unrecognised => exact fails
  case closeCreated idx => exact keeps_of_uncovered (unread_of_unlocked wellFormed.2.1) rfl
  case releaseWrite ok =>
    cases ok with
    | true => exact absurd pc notRegistering
    | false => exact keeps_finish_of_unlocked wellFormed.1 false file
  case releaseOne idx rest after =>
    refine keeps_of_uncovered ?_ rfl
    rw [wellFormed.2.1]
    exact LockMode.noConfusion
  case closeWrite => exact keeps_of_uncovered LockMode.noConfusion rfl
  -- the other calls of a reader before it has the lock
  all_goals
    have unread := unread_of_unlocked wellFormed.2.1
    cases reply with
    | granted => exact keeps_of_uncovered unread rfl
    | refused => exact keeps_of_uncovered unread rfl
    | unrecognised => exact keeps_of_uncovered unread rfl

/-- A writer collects the reader mutex it is asking for, unless it is refused. -/
theorem collect_resume {file : QtLockedFile} {idx : Nat} {block : Bool}
    (collecting : file.pc = .openAll idx block) (unlocked : file.lockMode = .noLock)
    (reply : Reply) :
    (file.resume reply).lockMode ≠ .readLock ∧ (file.resume reply).covered ≤ idx + 1 ∧
      (∀ other ∈ file.rmutexes, other ∈ (file.resume reply).rmutexes) ∧
      (reply = .granted → idx ∈ (file.resume reply).rmutexes) := by
  have unread : ∀ file : QtLockedFile, file.lockMode = .noLock →
      (file.nextOpenAll (idx + 1) block).lockMode ≠ .readLock := by
    intro file unlocked
    unfold nextOpenAll
    split
    · exact unread_of_unlocked unlocked
    · split
      · exact LockMode.noConfusion
      · exact unread_of_unlocked unlocked
  have skipped : (file.nextOpenAll (idx + 1) block).lockMode ≠ .readLock ∧
      (file.nextOpenAll (idx + 1) block).covered ≤ idx + 1 ∧
      ∀ other ∈ file.rmutexes, other ∈ (file.nextOpenAll (idx + 1) block).rmutexes := by
    refine ⟨unread file unlocked, covered_nextOpenAll_le file (idx + 1) block, ?_⟩
    intro other member
    rwa [rmutexes_nextOpenAll]
  unfold resume
  rw [collecting]
  cases reply with
  | granted =>
      refine ⟨unread _ unlocked, covered_nextOpenAll_le _ (idx + 1) block, ?_, fun _ => ?_⟩
      · intro other member
        rw [rmutexes_nextOpenAll]
        exact List.mem_append_left _ member
      · rw [rmutexes_nextOpenAll]
        exact List.mem_append_right _ List.mem_cons_self
  | refused => exact ⟨skipped.1, skipped.2.1, skipped.2.2, fun granted => by cases granted⟩
  | unrecognised => exact ⟨skipped.1, skipped.2.1, skipped.2.2, fun granted => by cases granted⟩

theorem owns_of_covered {file : QtLockedFile} (collects : 0 < file.covered) :
    file.owned.writer = true := by
  unfold covered at collects
  unfold owned
  cases pc : file.pc <;> simp only [pc, Nat.lt_irrefl] at collects
  case openAll => rfl
  case waitAll => rfl
  case idle =>
    cases mode : file.lockMode <;> simp only [mode, reduceCtorEq, ↓reduceIte, Nat.lt_irrefl] at collects
    rfl

/-- A reader has a handle to its mutex as long as its mode says so. -/
theorem WellFormed.opened_of_reading {file : QtLockedFile} (wellFormed : file.WellFormed)
    (reads : file.lockMode = .readLock) {idx : Nat} (reader : file.rmutex = some idx) :
    idx < maxReaders ∧ idx ∈ file.owned.opened := by
  have small : file.HasReader → idx < maxReaders := by
    rintro ⟨⟨other, same, small⟩, _⟩
    rw [reader] at same
    cases same
    exact small
  have member : idx ∈ file.rmutex.toList := by
    simp only [reader, Option.toList_some, List.mem_singleton]
  unfold WellFormed at wellFormed
  unfold owned
  cases pc : file.pc <;> simp only [pc, reads, reduceCtorEq, and_false, false_and] at wellFormed
  case idle =>
    simp only [Settled, reads] at wellFormed
    simp only [reads]
    exact ⟨small wellFormed.2, member⟩
  case releaseWrite ok =>
    cases ok with
    | true => exact wellFormed.elim
    | false => exact wellFormed.elim
  case releaseRead after => exact ⟨small wellFormed.2.2.2, member⟩
  case closeReadHeld after => exact ⟨small wellFormed.2.2.2, member⟩

end QtLockedFile

/-- To start a call takes no lock. -/
theorem LockedFile.heldMode_begin {locked : LockedFile} (idle : locked.file.pc = .idle)
    (request : LockRequest) : (locked.begin idle request).file.heldMode = locked.file.heldMode ∨
      (locked.begin idle request).file.heldMode = .noLock := by
  cases request with
  | openFile => exact .inl (by simp only [LockedFile.begin, LockedFile.opened,
      QtLockedFile.opened, QtLockedFile.heldMode, idle])
  | lock mode block => exact locked.file.heldMode_lock idle mode block
  | unlock => exact locked.file.heldMode_unlock idle
  | destroy => exact .inr locked.file.heldMode_destroy

namespace LockState

variable {Holder Thread : Type*}

/-- A writer has collected every reader below the index it has come to. -/
def Guarded (state : LockState Holder Thread) : Prop :=
  ∀ writer reader idx, (state.files reader).file.lockMode = .readLock →
    (state.files reader).file.rmutex = some idx → idx < (state.files writer).file.covered →
      idx ∈ (state.files writer).file.rmutexes

structure Safe (threadOf : Holder → Thread) (state : LockState Holder Thread) : Prop where
  inStep : InStep threadOf state
  guarded : state.Guarded

theorem guarded_initial : (initial : LockState Holder Thread).Guarded :=
  fun _ _ _ reads => by cases reads

variable [DecidableEq Holder]

/-- The guard is kept by a file that neither collects a reader nor becomes one. -/
theorem Guarded.update {state : LockState Holder Thread} (guarded : state.Guarded)
    {holder : Holder} {new : LockedFile}
    (keeps : QtLockedFile.Keeps (state.files holder).file new.file)
    (mutexes : NamedMutexes MutexName Thread Holder) :
    Guarded ⟨mutexes, Function.update state.files holder new⟩ := by
  have reader : ∀ other idx, (Function.update state.files holder new other).file.lockMode =
      .readLock → (Function.update state.files holder new other).file.rmutex = some idx →
        (state.files other).file.lockMode = .readLock ∧
          (state.files other).file.rmutex = some idx := by
    intro other idx
    rcases eq_or_ne other holder with rfl | different
    · rw [Function.update_self]
      intro reads reader
      obtain ⟨read, same⟩ := keeps.1 reads
      exact ⟨read, same ▸ reader⟩
    · rw [Function.update_of_ne different]
      exact And.intro
  intro writer other idx reads isReader below
  obtain ⟨read, wasReader⟩ := reader other idx reads isReader
  dsimp only at below ⊢
  rcases eq_or_ne writer holder with rfl | different
  · rw [Function.update_self] at below ⊢
    rcases keeps.2 with uncovered | ⟨covered, collected⟩
    · rw [uncovered] at below
      exact absurd below (Nat.not_lt_zero idx)
    · rw [collected]
      exact guarded writer other idx read wasReader (covered ▸ below)
  · rw [Function.update_of_ne different] at below ⊢
    exact guarded writer other idx read wasReader below

/-- A reader that comes in has the writer's mutex, so no writer is collecting. -/
theorem Safe.guarded_register {threadOf : Holder → Thread}
    (ownThreads : Function.Injective threadOf) {state : LockState Holder Thread}
    (safe : Safe threadOf state) {holder : Holder}
    (registering : (state.files holder).file.pc = .releaseWrite true) (reply : Reply)
    (mutexes : NamedMutexes MutexName Thread Holder) :
    Guarded ⟨mutexes, Function.update state.files holder
      ((state.files holder).resume reply)⟩ := by
  have owns : MutexName.writer ∈ (state.files holder).claims.sure := by
    simp only [LockedFile.claims, QtLockedFile.owned, registering, writer_mem_mutexSet]
  have uncovered : ((state.files holder).resume reply).file.covered = 0 := by
    unfold LockedFile.resume QtLockedFile.resume
    simp only [registering]
    rfl
  intro writer other idx reads isReader below
  dsimp only at reads isReader below ⊢
  rcases eq_or_ne writer holder with rfl | different
  · rw [Function.update_self, uncovered] at below
    exact absurd below (Nat.not_lt_zero idx)
  · rw [Function.update_of_ne different] at below
    have collects : MutexName.writer ∈ (state.files writer).claims.sure :=
      QtLockedFile.owns_of_covered (Nat.zero_lt_of_lt below)
    exact absurd (safe.inStep.unique ownThreads collects owns) different

/-- A writer that goes on collecting has missed no reader: each has its mutex open, so
a mutex that is not found has none. -/
theorem Safe.guarded_collect {threadOf : Holder → Thread} {state : LockState Holder Thread}
    (safe : Safe threadOf state) {holder : Holder} {idx : Nat} {block : Bool}
    (collecting : (state.files holder).file.pc = .openAll idx block) {reply : Reply}
    (found : reply ≠ .granted → ¬ state.mutexes.Exists (.reader idx))
    (mutexes : NamedMutexes MutexName Thread Holder) :
    Guarded ⟨mutexes, Function.update state.files holder
      ((state.files holder).resume reply)⟩ := by
  have unlocked : (state.files holder).file.lockMode = .noLock := by
    have wellFormed := (state.files holder).wellFormed
    simp only [QtLockedFile.WellFormed, collecting] at wellFormed
    exact wellFormed.1
  have covered : (state.files holder).file.covered = idx := by
    simp only [QtLockedFile.covered, collecting]
  obtain ⟨unread, upTo, keeps, gets⟩ :=
    QtLockedFile.collect_resume collecting unlocked reply
  intro writer other reader reads isReader below
  dsimp only at reads isReader below ⊢
  have apart : other ≠ holder := by
    rintro rfl
    rw [Function.update_self] at reads
    exact unread reads
  rw [Function.update_of_ne apart] at reads isReader
  rcases eq_or_ne writer holder with rfl | different
  · rw [Function.update_self] at below ⊢
    rcases Nat.lt_succ_iff_lt_or_eq.mp (Nat.lt_of_lt_of_le below upTo) with before | same
    · exact keeps reader (safe.guarded writer other reader reads isReader (covered ▸ before))
    · subst same
      refine gets ?_
      by_contra refused
      have opened := ((state.files other).wellFormed.opened_of_reading reads isReader).2
      exact found refused (safe.inStep.exists_of_opened opened)
  · rw [Function.update_of_ne different] at below ⊢
    exact safe.guarded writer other reader reads isReader below

variable [DecidableEq Thread]

/-- **Every step that the system allows keeps the guard.** -/
theorem Safe.step {threadOf : Holder → Thread} (ownThreads : Function.Injective threadOf)
    {state : LockState Holder Thread} (safe : Safe threadOf state)
    {event : LockEvent Holder Thread} (enabled : state.Enabled threadOf event)
    (found : state.WriterFindsReaders event) : Safe threadOf (state.step threadOf event) := by
  refine ⟨inStep_step ownThreads safe.inStep _ enabled, ?_⟩
  cases event with
  | request holder request =>
      have idle : (state.files holder).file.pc = .idle := enabled
      simp only [LockState.step, idle, ↓reduceDIte]
      refine safe.guarded.update ?_ state.mutexes
      cases request with
      | openFile => exact QtLockedFile.keeps_opened idle
      | lock mode block => exact QtLockedFile.keeps_lock idle mode block
      | unlock => exact QtLockedFile.keeps_unlock idle
      | destroy => exact QtLockedFile.keeps_destroy (state.files holder).openedBeforeUse
  | reply holder reply =>
      obtain ⟨call, calls, replies⟩ := enabled
      have calls : (state.files holder).file.call = some call := calls
      simp only [LockState.step, calls]
      by_cases registering : (state.files holder).file.pc = .releaseWrite true
      · exact safe.guarded_register ownThreads registering reply _
      · by_cases collecting : ∃ idx block, (state.files holder).file.pc = .openAll idx block
        · obtain ⟨idx, block, collecting⟩ := collecting
          refine safe.guarded_collect collecting ?_ _
          intro notGranted
          cases reply with
          | granted => exact absurd rfl notGranted
          | refused =>
              exact found _ (by simp only [QtLockedFile.collects, collecting, Option.mem_def])
          | unrecognised =>
              have waits := replies.1
              simp only [QtLockedFile.waitsForAll, collecting, Bool.false_eq_true] at waits
        · have notCollecting : ∀ idx block, (state.files holder).file.pc ≠ .openAll idx block :=
            fun idx block collects => collecting ⟨idx, block, collects⟩
          exact safe.guarded.update
            ((state.files holder).wellFormed.keeps_resume reply notCollecting registering) _
  | crash thread =>
      intro writer reader idx reads isReader below
      simp only [LockState.step] at reads isReader below ⊢
      split at reads
      · cases reads
      · rename_i aliveReader
        rw [if_neg aliveReader] at isReader
        split at below
        · exact absurd below (Nat.not_lt_zero idx)
        · rename_i aliveWriter
          rw [if_neg aliveWriter]
          exact safe.guarded writer reader idx reads isReader below

/-! ### Readers and writers -/

omit [DecidableEq Holder] [DecidableEq Thread]

/-- The locks that the objects have between two calls. -/
def held (state : LockState Holder Thread) (holder : Holder) : Option Access :=
  (state.files holder).file.heldMode.access

/-- Next to a writer nobody has a lock. -/
theorem Safe.alone {threadOf : Holder → Thread} (ownThreads : Function.Injective threadOf)
    {state : LockState Holder Thread} (safe : Safe threadOf state) {writer other : Holder}
    (writes : (state.files writer).file.heldMode = .writeLock) (different : writer ≠ other) :
    (state.files other).file.heldMode = .noLock := by
  obtain ⟨idle, locked⟩ := QtLockedFile.of_heldMode writes LockMode.noConfusion
  have ownsWriter : MutexName.writer ∈ (state.files writer).claims.sure := by
    simp only [LockedFile.claims, QtLockedFile.owned, idle, locked, writer_mem_mutexSet]
  cases mode : (state.files other).file.heldMode with
  | noLock => rfl
  | writeLock =>
      obtain ⟨idleToo, lockedToo⟩ := QtLockedFile.of_heldMode mode LockMode.noConfusion
      have ownsToo : MutexName.writer ∈ (state.files other).claims.sure := by
        simp only [LockedFile.claims, QtLockedFile.owned, idleToo, lockedToo, writer_mem_mutexSet]
      exact absurd (safe.inStep.unique ownThreads ownsWriter ownsToo) different
  | readLock =>
      obtain ⟨idleToo, reads⟩ := QtLockedFile.of_heldMode mode LockMode.noConfusion
      have settled := (state.files other).settled idleToo
      simp only [QtLockedFile.Settled, reads] at settled
      obtain ⟨_, ⟨idx, reader, small⟩, _⟩ := settled
      have collected : idx ∈ (state.files writer).file.rmutexes := by
        refine safe.guarded writer other idx reads reader ?_
        simpa only [QtLockedFile.covered, idle, locked, ↓reduceIte] using small
      have ownsReader : MutexName.reader idx ∈ (state.files writer).claims.sure := by
        simpa only [LockedFile.claims, QtLockedFile.owned, idle, locked, reader_mem_mutexSet]
          using collected
      have ownsToo : MutexName.reader idx ∈ (state.files other).claims.sure := by
        simp only [LockedFile.claims, QtLockedFile.owned, idleToo, reads, reader,
          reader_mem_mutexSet, Option.toList_some, List.mem_singleton]
      exact absurd (safe.inStep.unique ownThreads ownsReader ownsToo) different

theorem Safe.exclusive {threadOf : Holder → Thread} (ownThreads : Function.Injective threadOf)
    {state : LockState Holder Thread} (safe : Safe threadOf state) : Exclusive state.held := by
  intro first second different
  unfold held
  cases mode : (state.files first).file.heldMode with
  | noLock => exact compatible_none_left _
  | writeLock =>
      rw [safe.alone ownThreads mode different]
      exact compatible_none_right _
  | readLock =>
      cases modeToo : (state.files second).file.heldMode with
      | noLock => exact compatible_none_right _
      | readLock => trivial
      | writeLock =>
          have none := safe.alone ownThreads modeToo different.symm
          rw [mode] at none
          cases none

variable [DecidableEq Holder]

theorem held_update (files : Holder → LockedFile) (holder : Holder) (new : LockedFile)
    (before after : NamedMutexes MutexName Thread Holder) :
    held ⟨after, Function.update files holder new⟩ =
      Function.update (held ⟨before, files⟩) holder new.file.heldMode.access := by
  funext other
  exact Function.apply_update (fun _ (file : LockedFile) => file.file.heldMode.access)
    files holder new other

variable [DecidableEq Thread]

/-- Between two states a reader or a writer takes a lock, or locks are dropped. -/
theorem Safe.steps {threadOf : Holder → Thread} (ownThreads : Function.Injective threadOf)
    {state : LockState Holder Thread} (safe : Safe threadOf state)
    {event : LockEvent Holder Thread} (enabled : state.Enabled threadOf event)
    (found : state.WriterFindsReaders event) :
    Step state.held (state.step threadOf event).held := by
  have safeAfter := safe.step ownThreads enabled found
  cases event with
  | request holder request =>
      have idle : (state.files holder).file.pc = .idle := enabled
      refine .drop fun other => ?_
      simp only [LockState.step, idle, ↓reduceDIte]
      rw [held_update state.files holder _ state.mutexes]
      rcases eq_or_ne other holder with rfl | different
      · rw [Function.update_self]
        rcases LockedFile.heldMode_begin idle request with same | dropped
        · exact .inl (congrArg LockMode.access same)
        · exact .inr (congrArg LockMode.access dropped)
      · rw [Function.update_of_ne different]
        exact .inl rfl
  | reply holder reply =>
      obtain ⟨call, calls, replies⟩ := enabled
      have calls : (state.files holder).file.call = some call := calls
      have exclusive := safeAfter.exclusive ownThreads
      simp only [LockState.step, calls] at exclusive ⊢
      rw [held_update state.files holder _ state.mutexes] at exclusive ⊢
      have free : state.held holder = none := by
        unfold held QtLockedFile.heldMode
        unfold QtLockedFile.call at calls
        cases pc : (state.files holder).file.pc with
        | idle =>
            rw [pc] at calls
            cases calls
        | _ => rfl
      cases access : ((state.files holder).resume reply).file.heldMode.access with
      | none =>
          refine .drop fun other => ?_
          rcases eq_or_ne other holder with rfl | different
          · exact .inr (Function.update_self _ _ _)
          · exact .inl (Function.update_of_ne different _ _)
      | some access' =>
          refine .take holder access' free fun other different => ?_
          have compatible := exclusive holder other different.symm
          rwa [Function.update_self, Function.update_of_ne different, access] at compatible
  | crash thread =>
      refine .drop fun other => ?_
      unfold held LockState.step
      dsimp only
      split
      · exact .inr rfl
      · exact .inl rfl

end LockState

variable {Holder Thread : Type*} [DecidableEq Holder] [DecidableEq Thread]

/-- **A writer of a locked file is alone.** However objects that have threads of
their own lock one file, fail in system calls and crash, the file is locked as
readers and writers lock a resource: at most by one writer, or by readers. -/
theorem lock_excludes (threadOf : Holder → Thread) (ownThreads : Function.Injective threadOf)
    (events : List (LockEvent Holder Thread))
    (enabled : Always (LockState.step threadOf) (LockState.Enabled threadOf) .initial events)
    (found : Always (LockState.step threadOf) LockState.WriterFindsReaders .initial events) :
    let final := run (LockState.step threadOf) .initial events
    Relation.ReflTransGen Step (fun _ => none) final.held ∧ Exclusive final.held := by
  have always := (always_and LockState.initial events).mpr ⟨enabled, found⟩
  have safe : LockState.Safe threadOf (.initial : LockState Holder Thread) :=
    ⟨LockState.inStep_initial threadOf, LockState.guarded_initial⟩
  have steps : Relation.ReflTransGen Step (LockState.held (.initial : LockState Holder Thread))
      (run (LockState.step threadOf) .initial events).held :=
    steps_run (fun state event safe legal => safe.step ownThreads legal.1 legal.2)
      (fun state event safe legal => .single (safe.steps ownThreads legal.1 legal.2))
      safe always
  exact ⟨steps, exclusive_of_steps steps exclusive_none⟩

/-- One object reads, and another one that wants to write has found its mutex. -/
def readerThenWriter : List (LockEvent Bool Bool) :=
  [.request false .openFile, .request false (.lock .readLock true), .reply false .granted,
    .reply false .granted, .reply false .refused, .reply false .granted, .reply false .granted,
    .reply false .granted, .request true .openFile, .request true (.lock .writeLock false),
    .reply true .granted, .reply true .granted, .reply true .granted, .reply true .refused]

theorem lock_excludes_reader_then_writer :
    let final := run (LockState.step id) .initial readerThenWriter
    Relation.ReflTransGen Step (fun _ => none) final.held ∧ Exclusive final.held :=
  lock_excludes id Function.injective_id readerThenWriter (by decide) (by decide)

end WatchDog.Windows
