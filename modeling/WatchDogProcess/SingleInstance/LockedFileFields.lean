import WatchDogProcess.SingleInstance.LockedFileWin

/-! # The fields of a locked file

The fields of a `QtLockedFile` and its place in the code fit together
(`QtLockedFile.WellFormed`), and only an open file is used
(`QtLockedFile.OpenedBeforeUse`). Every operation keeps both, so `LockedFile` is the
type of the files that a program can have.
-/

namespace WatchDog.Windows

/-- A request for a lock that continues an unlocking asks for one. -/
def After.Proper : After → Prop
  | .lock mode _ => mode ≠ .noLock
  | _ => True

namespace QtLockedFile

/-- The file has a handle to one reader mutex, and only to it. -/
def HasReader (file : QtLockedFile) : Prop :=
  (∃ idx, file.rmutex = some idx ∧ idx < maxReaders) ∧ file.rmutexes = []

/-- How the handles of a file fit its mode between two calls. -/
def Settled (file : QtLockedFile) : Prop :=
  match file.lockMode with
  | .noLock => file.rmutex = none ∧ file.rmutexes = []
  | .readLock => file.wmutex ∧ file.HasReader
  | .writeLock => file.wmutex ∧ file.rmutex = none ∧ file.rmutexes.Nodup ∧
      ∀ opened ∈ file.rmutexes, opened < maxReaders

/-- How the fields of a file fit the system call that is next. -/
def WellFormed (file : QtLockedFile) : Prop :=
  match file.pc with
  | .idle => file.Settled
  | .createWrite mode _ => mode ≠ .noLock ∧ file.lockMode = .noLock ∧ file.rmutex = none ∧
      file.rmutexes = []
  | .waitWrite mode _ => mode ≠ .noLock ∧ file.lockMode = .noLock ∧ file.wmutex ∧
      file.rmutex = none ∧ file.rmutexes = []
  | .openRead idx | .createRead idx => idx < maxReaders ∧ file.lockMode = .noLock ∧
      file.wmutex ∧ file.rmutex = none ∧ file.rmutexes = []
  | .waitRead idx | .closeRead idx | .waitCreated idx | .closeCreated idx =>
      idx < maxReaders ∧ file.lockMode = .noLock ∧ file.wmutex ∧ file.rmutex = some idx ∧
        file.rmutexes = []
  | .releaseWrite true => file.lockMode = .noLock ∧ file.wmutex ∧ file.HasReader
  | .releaseWrite false => file.lockMode = .noLock ∧ file.wmutex ∧ file.rmutex = none ∧
      file.rmutexes = []
  | .openAll idx _ => file.lockMode = .noLock ∧ file.wmutex ∧ file.rmutex = none ∧
      file.rmutexes.Nodup ∧ idx < maxReaders ∧ ∀ opened ∈ file.rmutexes, opened < idx
  | .waitAll _ => file.lockMode = .noLock ∧ file.wmutex ∧ file.rmutex = none ∧
      file.rmutexes.Nodup ∧ ∀ opened ∈ file.rmutexes, opened < maxReaders
  | .releaseRead after | .closeReadHeld after => after.Proper ∧ file.lockMode = .readLock ∧
      file.wmutex ∧ file.HasReader
  | .releaseOne idx rest after | .closeOne idx rest after => after.Proper ∧
      file.lockMode = .writeLock ∧ file.wmutex ∧ file.rmutex = none ∧ (idx :: rest).Nodup
  | .releaseWriteHeld after => after.Proper ∧ file.lockMode = .writeLock ∧ file.wmutex ∧
      file.rmutex = none ∧ file.rmutexes = []
  | .closeWrite => file.lockMode = .noLock ∧ file.wmutex ∧ file.rmutex = none ∧
      file.rmutexes = []

theorem wellFormed_constructed : constructed.WellFormed := ⟨rfl, rfl⟩

theorem WellFormed.finish {file : QtLockedFile} (unlocked : file.lockMode = .noLock)
    (noReader : file.rmutex = none) (noReaders : file.rmutexes = []) (result : Bool) :
    (file.finish result).WellFormed := by
  simp only [QtLockedFile.finish, WellFormed, Settled, unlocked, noReader, noReaders, and_self]

theorem WellFormed.beginLock {file : QtLockedFile} {mode : LockMode} (proper : mode ≠ .noLock)
    (unlocked : file.lockMode = .noLock) (noReader : file.rmutex = none)
    (noReaders : file.rmutexes = []) (block : Bool) : (file.beginLock mode block).WellFormed := by
  unfold QtLockedFile.beginLock WellFormed
  cases opened : file.wmutex with
  | true => simp [proper, unlocked, noReader, noReaders]
  | false => simp [proper, unlocked, noReader, noReaders]

theorem WellFormed.proceed {file : QtLockedFile} {after : After} (proper : after.Proper)
    (unlocked : file.lockMode = .noLock) (noReader : file.rmutex = none)
    (noReaders : file.rmutexes = []) : (file.proceed after).WellFormed := by
  cases after with
  | answer result => exact WellFormed.finish unlocked noReader noReaders result
  | lock mode block => exact WellFormed.beginLock proper unlocked noReader noReaders block
  | closeWrite =>
      unfold QtLockedFile.proceed
      dsimp only
      split
      · rename_i opened
        simp only [WellFormed, unlocked, opened, noReader, noReaders, and_self]
      · exact wellFormed_constructed

theorem WellFormed.releaseNext {file : QtLockedFile} {after : After} (proper : after.Proper)
    (locked : file.lockMode = .writeLock) (opened : file.wmutex) (noReader : file.rmutex = none)
    {rest : List Nat} (nodup : rest.Nodup) : (file.releaseNext after rest).WellFormed := by
  cases rest with
  | nil => simp only [QtLockedFile.releaseNext, WellFormed, proper, locked, opened, noReader,
      and_self]
  | cons idx rest => simp only [QtLockedFile.releaseNext, WellFormed, proper, locked, opened,
      noReader, nodup, and_self]

theorem WellFormed.beginUnlock {file : QtLockedFile} (settled : file.Settled)
    (locked : file.lockMode ≠ .noLock) {after : After} (proper : after.Proper) :
    (file.beginUnlock after).WellFormed := by
  unfold Settled at settled
  unfold QtLockedFile.beginUnlock
  cases mode : file.lockMode with
  | noLock => exact absurd mode locked
  | readLock =>
      rw [mode] at settled
      exact ⟨proper, rfl, settled⟩
  | writeLock =>
      rw [mode] at settled
      exact WellFormed.releaseNext proper mode settled.1 settled.2.1 settled.2.2.1

theorem WellFormed.nextRead {file : QtLockedFile} (unlocked : file.lockMode = .noLock)
    (opened : file.wmutex) (noReaders : file.rmutexes = []) (idx : Nat) :
    (file.nextRead idx).WellFormed := by
  unfold QtLockedFile.nextRead
  split
  · rename_i small
    simp only [WellFormed, small, unlocked, opened, noReaders, and_self]
  · simp only [WellFormed, unlocked, opened, noReaders, and_self]

theorem WellFormed.nextOpenAll {file : QtLockedFile} (unlocked : file.lockMode = .noLock)
    (opened : file.wmutex) (noReader : file.rmutex = none) (nodup : file.rmutexes.Nodup)
    {idx : Nat} (small : idx ≤ maxReaders) (below : ∀ opened ∈ file.rmutexes, opened < idx)
    (block : Bool) : (file.nextOpenAll idx block).WellFormed := by
  have bounded : ∀ opened ∈ file.rmutexes, opened < maxReaders :=
    fun other member => Nat.lt_of_lt_of_le (below other member) small
  unfold QtLockedFile.nextOpenAll
  split
  · rename_i goesOn
    exact ⟨unlocked, opened, noReader, nodup, goesOn, below⟩
  · split
    · exact ⟨opened, noReader, nodup, bounded⟩
    · exact ⟨unlocked, opened, noReader, nodup, bounded⟩

theorem WellFormed.settled {file : QtLockedFile} (wellFormed : file.WellFormed)
    (idle : file.pc = .idle) : file.Settled := by
  simpa only [WellFormed, idle] using wellFormed

theorem Settled.finish {file : QtLockedFile} (settled : file.Settled) (result : Bool) :
    (file.finish result).WellFormed := settled

theorem Settled.unlock {file : QtLockedFile} (settled : file.Settled) :
    file.unlock.WellFormed := by
  unfold QtLockedFile.unlock
  split
  · exact settled.finish false
  · split
    · exact settled.finish true
    · rename_i locked
      exact WellFormed.beginUnlock settled locked trivial

theorem Settled.unlocked {file : QtLockedFile} (settled : file.Settled)
    (unlocked : file.lockMode = .noLock) : file.rmutex = none ∧ file.rmutexes = [] := by
  simpa only [Settled, unlocked] using settled

theorem Settled.lock {file : QtLockedFile} (settled : file.Settled) (mode : LockMode)
    (block : Bool) : (file.lock mode block).WellFormed := by
  unfold QtLockedFile.lock
  split
  · exact settled.finish false
  · split
    · exact settled.unlock
    · rename_i proper
      split
      · exact settled.finish true
      · split
        · rename_i locked
          exact WellFormed.beginUnlock settled locked proper
        · rename_i unlocked
          have unlocked := not_not.mp unlocked
          have ⟨noReader, noReaders⟩ := settled.unlocked unlocked
          exact WellFormed.beginLock proper unlocked noReader noReaders block

theorem WellFormed.resume {file : QtLockedFile} (wellFormed : file.WellFormed) (reply : Reply) :
    (file.resume reply).WellFormed := by
  unfold WellFormed at wellFormed
  unfold QtLockedFile.resume
  cases pc : file.pc <;> simp only [pc] at wellFormed
  case idle => simpa only [WellFormed, pc] using wellFormed
  case createWrite mode block =>
    obtain ⟨proper, unlocked, noReader, noReaders⟩ := wellFormed
    cases reply with
    | granted => exact ⟨proper, unlocked, rfl, noReader, noReaders⟩
    | refused => exact WellFormed.finish unlocked noReader noReaders false
    | unrecognised => exact WellFormed.finish unlocked noReader noReaders false
  case waitWrite mode block =>
    obtain ⟨proper, unlocked, opened, noReader, noReaders⟩ := wellFormed
    have writes : (file.nextOpenAll 0 block).WellFormed :=
      WellFormed.nextOpenAll unlocked opened noReader (by simp [noReaders])
        (Nat.zero_le maxReaders) (by simp [noReaders]) block
    have fails := WellFormed.finish unlocked noReader noReaders false
    cases mode with
    | noLock => exact absurd rfl proper
    | readLock =>
        cases reply with
        | granted => exact WellFormed.nextRead unlocked opened noReaders 0
        | refused => exact fails
        | unrecognised => exact fails
    | writeLock =>
        cases reply with
        | granted => exact writes
        | refused => exact fails
        | unrecognised => exact fails
  case openRead idx =>
    obtain ⟨small, unlocked, opened, noReader, noReaders⟩ := wellFormed
    cases reply with
    | granted => exact ⟨small, unlocked, opened, rfl, noReaders⟩
    | refused => exact ⟨small, unlocked, opened, noReader, noReaders⟩
    | unrecognised => exact ⟨small, unlocked, opened, noReader, noReaders⟩
  case waitRead idx =>
    obtain ⟨small, unlocked, opened, reader, noReaders⟩ := wellFormed
    cases reply with
    | granted => exact ⟨unlocked, opened, ⟨idx, reader, small⟩, noReaders⟩
    | refused => exact ⟨small, unlocked, opened, reader, noReaders⟩
    | unrecognised => exact ⟨small, unlocked, opened, reader, noReaders⟩
  case closeRead idx =>
    obtain ⟨-, unlocked, opened, -, noReaders⟩ := wellFormed
    exact WellFormed.nextRead unlocked opened noReaders (idx + 1)
  case createRead idx =>
    obtain ⟨small, unlocked, opened, noReader, noReaders⟩ := wellFormed
    cases reply with
    | granted => exact ⟨small, unlocked, opened, rfl, noReaders⟩
    | refused => exact ⟨unlocked, opened, noReader, noReaders⟩
    | unrecognised => exact ⟨unlocked, opened, noReader, noReaders⟩
  case waitCreated idx =>
    obtain ⟨small, unlocked, opened, reader, noReaders⟩ := wellFormed
    cases reply with
    | granted => exact ⟨unlocked, opened, ⟨idx, reader, small⟩, noReaders⟩
    | refused => exact ⟨small, unlocked, opened, reader, noReaders⟩
    | unrecognised => exact ⟨small, unlocked, opened, reader, noReaders⟩
  case closeCreated idx =>
    obtain ⟨-, unlocked, opened, -, noReaders⟩ := wellFormed
    exact ⟨unlocked, opened, rfl, noReaders⟩
  case releaseWrite ok =>
    cases ok with
    | true =>
        obtain ⟨-, opened, reader⟩ := wellFormed
        exact ⟨opened, reader⟩
    | false =>
        obtain ⟨unlocked, -, noReader, noReaders⟩ := wellFormed
        exact WellFormed.finish unlocked noReader noReaders false
  case openAll idx block =>
    obtain ⟨unlocked, opened, noReader, nodup, small, below⟩ := wellFormed
    have skips : (file.nextOpenAll (idx + 1) block).WellFormed :=
      WellFormed.nextOpenAll unlocked opened noReader nodup small
        (fun other member => Nat.lt_succ_of_lt (below other member)) block
    have collects : ({ file with rmutexes := file.rmutexes ++ [idx] }.nextOpenAll (idx + 1)
        block).WellFormed := by
      apply WellFormed.nextOpenAll
      · exact unlocked
      · exact opened
      · exact noReader
      · refine List.Nodup.append nodup (List.nodup_singleton idx) ?_
        rw [List.disjoint_singleton]
        exact fun member => Nat.lt_irrefl idx (below idx member)
      · exact small
      · intro other member
        rcases List.mem_append.mp member with old | new
        · exact Nat.lt_succ_of_lt (below other old)
        · rw [List.mem_singleton.mp new]
          exact Nat.lt_succ_self idx
    cases reply with
    | granted => exact collects
    | refused => exact skips
    | unrecognised => exact skips
  case waitAll block =>
    obtain ⟨-, opened, noReader, nodup, bounded⟩ := wellFormed
    have fails : ({ file with lockMode := .writeLock }.releaseNext (.answer false)
        file.rmutexes).WellFormed := by
      apply WellFormed.releaseNext
      · trivial
      · rfl
      · exact opened
      · exact noReader
      · exact nodup
    cases reply with
    | granted => exact ⟨opened, noReader, nodup, bounded⟩
    | refused => exact fails
    | unrecognised => exact fails
  case releaseRead after =>
    exact wellFormed
  case closeReadHeld after =>
    obtain ⟨proper, -, -, reader⟩ := wellFormed
    exact WellFormed.proceed proper rfl rfl reader.2
  case releaseOne idx rest after =>
    exact wellFormed
  case closeOne idx rest after =>
    obtain ⟨proper, locked, opened, noReader, nodup⟩ := wellFormed
    exact WellFormed.releaseNext proper locked opened noReader (List.nodup_cons.mp nodup).2
  case releaseWriteHeld after =>
    obtain ⟨proper, -, -, noReader, noReaders⟩ := wellFormed
    exact WellFormed.proceed proper rfl noReader noReaders
  case closeWrite => exact wellFormed_constructed

/-! ### Only open files are used -/

/-- A file that is not open is as it was constructed. -/
def OpenedBeforeUse (file : QtLockedFile) : Prop :=
  file.isOpen = true ∨ file.pc = .idle ∧ file.lockMode = .noLock ∧ file.wmutex = false

theorem isOpen_releaseNext (file : QtLockedFile) (after : After) (rest : List Nat) :
    (file.releaseNext after rest).isOpen = file.isOpen := by
  cases rest <;> rfl

theorem isOpen_beginUnlock (file : QtLockedFile) (after : After) :
    (file.beginUnlock after).isOpen = file.isOpen := by
  unfold beginUnlock
  split
  · rfl
  · exact isOpen_releaseNext file after file.rmutexes

theorem isOpen_nextRead (file : QtLockedFile) (idx : Nat) :
    (file.nextRead idx).isOpen = file.isOpen := by
  unfold nextRead
  split <;> rfl

theorem isOpen_nextOpenAll (file : QtLockedFile) (idx : Nat) (block : Bool) :
    (file.nextOpenAll idx block).isOpen = file.isOpen := by
  unfold nextOpenAll
  split
  · rfl
  · split <;> rfl

theorem openedBeforeUse_proceed {file : QtLockedFile} (isOpen : file.isOpen) (after : After) :
    (file.proceed after).OpenedBeforeUse := by
  cases after with
  | answer result => exact .inl isOpen
  | lock mode block => exact .inl isOpen
  | closeWrite =>
      unfold proceed
      dsimp only
      split
      · exact .inl isOpen
      · exact .inr ⟨rfl, rfl, rfl⟩

theorem OpenedBeforeUse.resume {file : QtLockedFile} (opened : file.OpenedBeforeUse)
    (reply : Reply) : (file.resume reply).OpenedBeforeUse := by
  rcases opened with isOpen | unused
  · unfold QtLockedFile.resume
    split <;> first
      | exact .inl isOpen
      | exact .inl ((isOpen_nextRead _ _).trans isOpen)
      | exact .inl ((isOpen_nextOpenAll _ _ _).trans isOpen)
      | exact .inl ((isOpen_beginUnlock _ _).trans isOpen)
      | exact .inl ((isOpen_releaseNext _ _ _).trans isOpen)
      | exact openedBeforeUse_proceed (by exact isOpen) _
      | exact .inr ⟨rfl, rfl, rfl⟩
  · have same : file.resume reply = file := by
      unfold QtLockedFile.resume
      simp only [unused.1]
    rw [same]
    exact .inr unused

theorem OpenedBeforeUse.unlock {file : QtLockedFile} (opened : file.OpenedBeforeUse) :
    file.unlock.OpenedBeforeUse := by
  unfold QtLockedFile.unlock
  split
  · exact opened.imp_right fun unused => ⟨rfl, unused.2⟩
  · rename_i isOpen
    split
    · exact .inl (Bool.not_eq_false _ ▸ isOpen)
    · exact .inl ((isOpen_beginUnlock _ _).trans (Bool.not_eq_false _ ▸ isOpen))

theorem OpenedBeforeUse.lock {file : QtLockedFile} (opened : file.OpenedBeforeUse)
    (mode : LockMode) (block : Bool) : (file.lock mode block).OpenedBeforeUse := by
  unfold QtLockedFile.lock
  split
  · exact opened.imp_right fun unused => ⟨rfl, unused.2⟩
  · rename_i isOpen
    have isOpen : file.isOpen = true := (Bool.not_eq_false _).mp isOpen
    split
    · exact opened.unlock
    · split
      · exact .inl isOpen
      · split
        · exact .inl ((isOpen_beginUnlock _ _).trans isOpen)
        · exact .inl isOpen

/-- A destructor that unlocks nothing finds the file unlocked. -/
theorem OpenedBeforeUse.unlocked {file : QtLockedFile} (opened : file.OpenedBeforeUse)
    (skips : ¬ (file.isOpen ∧ file.lockMode ≠ .noLock)) : file.lockMode = .noLock := by
  rcases opened with isOpen | unused
  · by_contra locked
    exact skips ⟨isOpen, locked⟩
  · exact unused.2.1

theorem Settled.destroy {file : QtLockedFile} (settled : file.Settled)
    (opened : file.OpenedBeforeUse) : file.destroy.WellFormed := by
  unfold QtLockedFile.destroy
  split
  · rename_i locked
    exact WellFormed.beginUnlock settled locked.2 trivial
  · rename_i skips
    have unlocked := opened.unlocked skips
    have ⟨noReader, noReaders⟩ := settled.unlocked unlocked
    exact WellFormed.proceed trivial unlocked noReader noReaders

theorem OpenedBeforeUse.destroy {file : QtLockedFile} (opened : file.OpenedBeforeUse) :
    file.destroy.OpenedBeforeUse := by
  unfold QtLockedFile.destroy
  split
  · rename_i locked
    exact .inl ((isOpen_beginUnlock _ _).trans locked.1)
  · rcases opened with isOpen | ⟨_, _, unused⟩
    · exact openedBeforeUse_proceed isOpen _
    · simp only [proceed, unused, Bool.false_eq_true, ↓reduceIte]
      exact .inr ⟨rfl, rfl, rfl⟩

end QtLockedFile

/-- A file whose fields fit together. -/
structure LockedFile where
  file : QtLockedFile
  wellFormed : file.WellFormed
  openedBeforeUse : file.OpenedBeforeUse

namespace LockedFile

variable (locked : LockedFile)

def constructed : LockedFile :=
  ⟨.constructed, QtLockedFile.wellFormed_constructed, .inr ⟨rfl, rfl, rfl⟩⟩

/-- Between two calls the handles fit the mode. -/
theorem settled (idle : locked.file.pc = .idle) : locked.file.Settled :=
  locked.wellFormed.settled idle

/-- The operations that a program calls; none is called inside another one. -/
def opened (idle : locked.file.pc = .idle) : LockedFile where
  file := locked.file.opened
  wellFormed := by
    simp only [QtLockedFile.WellFormed, QtLockedFile.opened, idle]
    exact locked.settled idle
  openedBeforeUse := .inl rfl

def lock (idle : locked.file.pc = .idle) (mode : LockMode) (block : Bool) : LockedFile where
  file := locked.file.lock mode block
  wellFormed := (locked.settled idle).lock mode block
  openedBeforeUse := locked.openedBeforeUse.lock mode block

def unlock (idle : locked.file.pc = .idle) : LockedFile where
  file := locked.file.unlock
  wellFormed := (locked.settled idle).unlock
  openedBeforeUse := locked.openedBeforeUse.unlock

def destroy (idle : locked.file.pc = .idle) : LockedFile where
  file := locked.file.destroy
  wellFormed := (locked.settled idle).destroy locked.openedBeforeUse
  openedBeforeUse := locked.openedBeforeUse.destroy

def resume (reply : Reply) : LockedFile where
  file := locked.file.resume reply
  wellFormed := locked.wellFormed.resume reply
  openedBeforeUse := locked.openedBeforeUse.resume reply

end LockedFile

end WatchDog.Windows
