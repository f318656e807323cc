import WatchDogProcess.Analysis.FileLocking

/-! # What lock answers

Whatever the system replies, `lock` returns after a bounded number of system calls,
and it returns true exactly when the file has come to have the mode that was asked
for; a lock that is not obtained leaves the file unlocked, also when it had a lock of
the other kind before (`WatchDog.Windows.lock_answers`). An object that is unlocked
and in no call has no share in any mutex (`WatchDog.Windows.unlocked_owns_nothing`):
no failed attempt leaves a mutex locked or a reader's mutex open.
-/

namespace WatchDog.Windows

open NamedMutexes EventRun

/-- What follows an unlocking leads to an answer about this mode. -/
def After.Promises (mode : LockMode) : After → Prop
  | .answer result => result = true → mode = .noLock
  | .lock wanted _ => wanted = mode
  | .closeWrite => False

/-- At most this many system calls follow an unlocking. -/
def After.callsLeft : After → Nat
  | .answer _ => 0
  | .lock _ _ => 3 * maxReaders + 7
  | .closeWrite => 1

namespace QtLockedFile

/-- The file has answered, or is about to answer, a request for this mode. -/
def Promises (mode : LockMode) (file : QtLockedFile) : Prop :=
  match file.pc with
  | .idle => ∃ result, file.answer = some result ∧
      file.lockMode = if result then mode else .noLock
  | .createWrite wanted _ | .waitWrite wanted _ => wanted = mode
  | .openRead _ | .waitRead _ | .closeRead _ | .createRead _ | .waitCreated _
  | .closeCreated _ | .releaseWrite _ => mode = .readLock
  | .openAll _ _ | .waitAll _ => mode = .writeLock
  | .releaseRead after | .closeReadHeld after | .releaseOne _ _ after | .closeOne _ _ after
  | .releaseWriteHeld after => after.Promises mode
  | .closeWrite => False

/-- At most this many system calls are left of the call in progress. -/
def callsLeft (file : QtLockedFile) : Nat :=
  match file.pc with
  | .idle => 0
  | .createWrite _ _ => 3 * maxReaders + 7
  | .waitWrite _ _ => 3 * maxReaders + 6
  | .openRead idx => 3 * (maxReaders - idx) + 5
  | .waitRead idx => 3 * (maxReaders - idx) + 4
  | .closeRead idx => 3 * (maxReaders - idx) + 3
  | .createRead _ => 4
  | .waitCreated _ => 3
  | .closeCreated _ => 2
  | .releaseWrite _ => 1
  | .openAll idx _ => 3 * (maxReaders - idx) + 2 * file.rmutexes.length + 2
  | .waitAll _ => 2 * file.rmutexes.length + 2
  | .releaseRead after => after.callsLeft + 2
  | .closeReadHeld after => after.callsLeft + 1
  | .releaseOne _ rest after => after.callsLeft + 2 * rest.length + 3
  | .closeOne _ rest after => after.callsLeft + 2 * rest.length + 2
  | .releaseWriteHeld after => after.callsLeft + 1
  | .closeWrite => 1

theorem promises_finish_false {file : QtLockedFile} (unlocked : file.lockMode = .noLock)
    (mode : LockMode) : (file.finish false).Promises mode :=
  ⟨false, rfl, unlocked⟩

theorem promises_beginLock (file : QtLockedFile) (mode : LockMode) (block : Bool) :
    (file.beginLock mode block).Promises mode := by
  unfold beginLock Promises
  cases file.wmutex <;> rfl

theorem promises_proceed {file : QtLockedFile} (unlocked : file.lockMode = .noLock)
    {mode : LockMode} {after : After} (promises : after.Promises mode) :
    (file.proceed after).Promises mode := by
  cases after with
  | answer result =>
      refine ⟨result, rfl, ?_⟩
      cases result with
      | true => exact unlocked.trans (promises rfl).symm
      | false => exact unlocked
  | lock wanted block =>
      subst promises
      exact promises_beginLock file wanted block
  | closeWrite => exact promises.elim

theorem promises_releaseNext {mode : LockMode} {after : After} (promises : after.Promises mode)
    (file : QtLockedFile) (rest : List Nat) : (file.releaseNext after rest).Promises mode := by
  cases rest with
  | nil => exact promises
  | cons idx rest => exact promises

theorem promises_beginUnlock {mode : LockMode} {after : After} (promises : after.Promises mode)
    (file : QtLockedFile) : (file.beginUnlock after).Promises mode := by
  unfold beginUnlock
  split
  · exact promises
  · exact promises_releaseNext promises file _

theorem promises_nextRead (file : QtLockedFile) (idx : Nat) :
    (file.nextRead idx).Promises .readLock := by
  unfold nextRead
  split <;> rfl

theorem promises_nextOpenAll (file : QtLockedFile) (idx : Nat) (block : Bool) :
    (file.nextOpenAll idx block).Promises .writeLock := by
  unfold nextOpenAll
  split
  · rfl
  · split
    · exact ⟨true, rfl, rfl⟩
    · rfl

/-- No reply makes the file forget what it was asked for. -/
theorem WellFormed.promises_resume {file : QtLockedFile} (wellFormed : file.WellFormed)
    {mode : LockMode} (promises : file.Promises mode) (reply : Reply) :
    (file.resume reply).Promises mode := by
  unfold WellFormed at wellFormed
  unfold Promises at promises
  unfold QtLockedFile.resume
  cases pc : file.pc <;> simp only [pc] at wellFormed promises
  case idle =>
    unfold Promises
    rw [pc]
    exact promises
  case createWrite wanted block =>
    have fails := promises_finish_false wellFormed.2.1 mode
    cases reply with
    | granted => exact promises
    | refused => exact fails
    | unrecognised => exact fails
  case waitWrite wanted block =>
    have fails := promises_finish_false wellFormed.2.1 mode
    subst promises
    cases wanted with
    | noLock => exact absurd rfl wellFormed.1
    | readLock =>
        cases reply with
        | granted => exact promises_nextRead file 0
        | refused => exact fails
        | unrecognised => exact fails
    | writeLock =>
        cases reply with
        | granted => exact promises_nextOpenAll file 0 block
        | refused => exact fails
        | unrecognised => exact fails
  case closeRead idx =>
    subst promises
    exact promises_nextRead file (idx + 1)
  case releaseWrite ok =>
    cases ok with
    | true => exact ⟨true, rfl, promises.symm⟩
    | false => exact promises_finish_false wellFormed.1 mode
  case openAll idx block =>
    subst promises
    cases reply with
    | granted => exact promises_nextOpenAll _ (idx + 1) block
    | refused => exact promises_nextOpenAll file (idx + 1) block
    | unrecognised => exact promises_nextOpenAll file (idx + 1) block
  case waitAll block =>
    have fails : ({ file with lockMode := .writeLock }.beginUnlock (.answer false)).Promises mode :=
      promises_beginUnlock Bool.noConfusion _
    cases reply with
    | granted => exact ⟨true, rfl, promises.symm⟩
    | refused => exact fails
    | unrecognised => exact fails
  case closeReadHeld after => exact promises_proceed rfl promises
  case releaseWriteHeld after => exact promises_proceed rfl promises
  case closeOne idx rest after => exact promises_releaseNext promises file rest
  -- in the other places every reply leads on with the same request
  all_goals
    cases reply with
    | granted => exact promises
    | refused => exact promises
    | unrecognised => exact promises

/-! ### The bound -/

theorem callsLeft_proceed_le (file : QtLockedFile) (after : After) :
    (file.proceed after).callsLeft ≤ after.callsLeft := by
  cases after with
  | answer result => exact Nat.le_refl 0
  | lock mode block =>
      unfold proceed beginLock callsLeft After.callsLeft
      cases file.wmutex with
      | true => exact Nat.le_succ _
      | false => exact Nat.le_refl _
  | closeWrite =>
      unfold proceed
      dsimp only
      split
      · exact Nat.le_refl 1
      · exact Nat.zero_le 1

theorem callsLeft_releaseNext (file : QtLockedFile) (after : After) (rest : List Nat) :
    (file.releaseNext after rest).callsLeft = after.callsLeft + 2 * rest.length + 1 := by
  cases rest with
  | nil => rfl
  | cons idx rest =>
      simp only [releaseNext, callsLeft, List.length_cons]
      omega

theorem callsLeft_beginUnlock_of_write {file : QtLockedFile} (locked : file.lockMode = .writeLock)
    (after : After) : (file.beginUnlock after).callsLeft =
      after.callsLeft + 2 * file.rmutexes.length + 1 := by
  simp only [beginUnlock, locked, callsLeft_releaseNext]

theorem callsLeft_nextRead_le (file : QtLockedFile) (idx : Nat) :
    (file.nextRead idx).callsLeft ≤ 3 * (maxReaders - idx) + 5 := by
  unfold nextRead
  split
  · exact Nat.le_refl _
  · simp only [callsLeft]
    omega

theorem callsLeft_nextOpenAll_le (file : QtLockedFile) (idx : Nat) (block : Bool) :
    (file.nextOpenAll idx block).callsLeft ≤
      3 * (maxReaders - idx) + 2 * file.rmutexes.length + 2 := by
  unfold nextOpenAll
  split
  · exact Nat.le_refl _
  · split
    · exact Nat.zero_le _
    · simp only [callsLeft]
      omega

/-- Every reply brings the end of the call nearer. -/
theorem WellFormed.callsLeft_resume_lt {file : QtLockedFile} (wellFormed : file.WellFormed)
    (busy : file.pc ≠ .idle) (reply : Reply) :
    (file.resume reply).callsLeft < file.callsLeft := by
  unfold WellFormed at wellFormed
  have proceeds := fun file : QtLockedFile => callsLeft_proceed_le file
  unfold QtLockedFile.resume
  rw [callsLeft.eq_def file]
  cases pc : file.pc <;> simp only [pc] at wellFormed ⊢
  case idle => exact absurd pc busy
  case waitWrite mode block =>
    have reads := callsLeft_nextRead_le file 0
    have writes := callsLeft_nextOpenAll_le file 0 block
    rw [wellFormed.2.2.2.2, List.length_nil] at writes
    cases mode with
    | noLock => exact absurd rfl wellFormed.1
    | readLock =>
        cases reply with
        | granted => exact Nat.lt_succ_of_le reads
        | refused => exact Nat.succ_pos _
        | unrecognised => exact Nat.succ_pos _
    | writeLock =>
        cases reply with
        | granted =>
            dsimp only
            omega
        | refused => exact Nat.succ_pos _
        | unrecognised => exact Nat.succ_pos _
  case closeRead idx =>
    have next := callsLeft_nextRead_le file (idx + 1)
    have small := wellFormed.1
    omega
  case openAll idx block =>
    have small := wellFormed.2.2.2.2.1
    have skips := callsLeft_nextOpenAll_le file (idx + 1) block
    cases reply with
    | granted =>
        refine Nat.lt_of_le_of_lt (callsLeft_nextOpenAll_le _ (idx + 1) block) ?_
        simp only [List.length_append, List.length_singleton]
        omega
    | refused =>
        dsimp only
        omega
    | unrecognised =>
        dsimp only
        omega
  case waitAll block =>
    have fails : ({ file with lockMode := .writeLock }.beginUnlock (.answer false)).callsLeft <
        2 * file.rmutexes.length + 2 := by
      rw [callsLeft_beginUnlock_of_write rfl]
      simp only [After.callsLeft]
      omega
    cases reply with
    | granted => exact Nat.succ_pos _
    | refused => exact fails
    | unrecognised => exact fails
  case createWrite mode block =>
    cases reply with
    | granted => exact Nat.lt_succ_self _
    | refused => exact Nat.succ_pos _
    | unrecognised => exact Nat.succ_pos _
  case closeReadHeld after => exact Nat.lt_succ_of_le (callsLeft_proceed_le _ after)
  case releaseWriteHeld after => exact Nat.lt_succ_of_le (callsLeft_proceed_le _ after)
  case closeOne idx rest after =>
    rw [callsLeft_releaseNext]
    exact Nat.lt_succ_self _
  case releaseWrite ok =>
    cases ok with
    | true => exact Nat.succ_pos 0
    | false => exact Nat.succ_pos 0
  -- in the other places the next call is fixed up to the reply
  all_goals
    cases reply <;> simp only [callsLeft, constructed] <;> omega

theorem run_resume_of_idle {file : QtLockedFile} (idle : file.pc = .idle)
    (replies : List Reply) : run resume file replies = file := by
  have stays : ∀ reply, file.resume reply = file := by
    intro reply
    unfold resume
    rw [idle]
  induction replies with
  | nil => rfl
  | cons reply replies ih => rw [run_cons, stays, ih]

/-- After as many replies as calls were left the call is over, and the file has
answered what it was asked. -/
theorem answers_run {mode : LockMode} {file : QtLockedFile} (wellFormed : file.WellFormed)
    (promises : file.Promises mode) {replies : List Reply}
    (enough : file.callsLeft ≤ replies.length) :
    (run resume file replies).pc = .idle ∧ (run resume file replies).Promises mode := by
  induction replies generalizing file with
  | nil =>
      refine ⟨?_, promises⟩
      by_contra busy
      have less := wellFormed.callsLeft_resume_lt busy .granted
      rw [List.length_nil] at enough
      omega
  | cons reply replies ih =>
      rcases eq_or_ne file.pc .idle with idle | busy
      · rw [run_resume_of_idle idle]
        exact ⟨idle, promises⟩
      · have less := wellFormed.callsLeft_resume_lt busy reply
        refine ih (wellFormed.resume reply) (wellFormed.promises_resume promises reply) ?_
        rw [List.length_cons] at enough
        omega

/-! ### The calls of a program -/

theorem Settled.length_rmutexes_le {file : QtLockedFile} (settled : file.Settled)
    (locked : file.lockMode = .writeLock) : file.rmutexes.length ≤ maxReaders := by
  simp only [Settled, locked] at settled
  obtain ⟨_, _, nodup, small⟩ := settled
  have within : file.rmutexes ⊆ List.range maxReaders :=
    fun idx member => List.mem_range.mpr (small idx member)
  have bound := (List.subperm_of_subset nodup within).length_le
  rwa [List.length_range] at bound

theorem Settled.callsLeft_beginUnlock_le {file : QtLockedFile} (settled : file.Settled)
    (locked : file.lockMode ≠ .noLock) (after : After) :
    (file.beginUnlock after).callsLeft ≤ after.callsLeft + 2 * maxReaders + 1 := by
  cases mode : file.lockMode with
  | noLock => exact absurd mode locked
  | readLock =>
      simp only [beginUnlock, mode, callsLeft, maxReaders]
      omega
  | writeLock =>
      rw [callsLeft_beginUnlock_of_write mode]
      have bound := settled.length_rmutexes_le mode
      omega

theorem Settled.callsLeft_lock_le {file : QtLockedFile} (settled : file.Settled)
    (mode : LockMode) (block : Bool) : (file.lock mode block).callsLeft ≤ 5 * maxReaders + 8 := by
  have unlocks : file.unlock.callsLeft ≤ 5 * maxReaders + 8 := by
    unfold QtLockedFile.unlock
    split
    · exact Nat.zero_le _
    · split
      · exact Nat.zero_le _
      · rename_i locked
        have bound := settled.callsLeft_beginUnlock_le locked (.answer true)
        simp only [After.callsLeft] at bound
        omega
  unfold QtLockedFile.lock
  split
  · exact Nat.zero_le _
  · split
    · exact unlocks
    · split
      · exact Nat.zero_le _
      · split
        · rename_i locked
          have bound := settled.callsLeft_beginUnlock_le locked (.lock mode block)
          simp only [After.callsLeft] at bound
          omega
        · have bound := callsLeft_proceed_le file (.lock mode block)
          simp only [proceed, After.callsLeft] at bound
          omega

theorem OpenedBeforeUse.promises_lock {file : QtLockedFile} (opened : file.OpenedBeforeUse)
    (mode : LockMode) (block : Bool) : (file.lock mode block).Promises mode := by
  unfold QtLockedFile.lock
  split
  · rename_i closed
    have unlocked : file.lockMode = .noLock := by
      rcases opened with isOpen | unused
      · rw [isOpen] at closed
        cases closed
      · exact unused.2.1
    exact promises_finish_false unlocked mode
  · rename_i isOpen
    split
    · rename_i unlocks
      unfold QtLockedFile.unlock
      rw [if_neg isOpen]
      split
      · rename_i unlocked
        exact ⟨true, rfl, unlocked.trans unlocks.symm⟩
      · exact promises_beginUnlock (by exact fun _ => unlocks) file
    · split
      · rename_i same
        exact ⟨true, rfl, same.symm⟩
      · split
        · exact promises_beginUnlock (by exact rfl) file
        · exact promises_beginLock file mode block

end QtLockedFile

/-- **`lock` answers what it has done.** Whatever the system replies, after at most
328 system calls it has returned, true with the mode that was asked for or false with
no lock at all. -/
theorem lock_answers (locked : LockedFile) (idle : locked.file.pc = .idle) (mode : LockMode)
    (block : Bool) (replies : List Reply) (enough : 5 * maxReaders + 8 ≤ replies.length) :
    let final := run QtLockedFile.resume (locked.file.lock mode block) replies
    final.pc = .idle ∧ ∃ result, final.answer = some result ∧
      final.lockMode = if result then mode else .noLock := by
  have settled := locked.settled idle
  have bound := settled.callsLeft_lock_le mode block
  obtain ⟨ended, promises⟩ := QtLockedFile.answers_run (settled.lock mode block)
    (locked.openedBeforeUse.promises_lock mode block) (Nat.le_trans bound enough)
  refine ⟨ended, ?_⟩
  simpa only [QtLockedFile.Promises, ended] using promises

/-- A file that has been locked for reading. -/
def lockedForReading : LockedFile :=
  (List.replicate 5 Reply.granted).foldl LockedFile.resume
    ((LockedFile.constructed.opened rfl).lock rfl .readLock true)

/-- A change from reading to writing, every call granted. -/
theorem lock_answers_change_of_mode :
    let final := run QtLockedFile.resume (lockedForReading.file.lock .writeLock true)
      (List.replicate 328 .granted)
    lockedForReading.file.lockMode = .readLock ∧ final.lockMode = .writeLock ∧
      final.pc = .idle ∧ ∃ result, final.answer = some result ∧
        final.lockMode = if result then .writeLock else .noLock :=
  ⟨rfl, by decide +kernel, lock_answers lockedForReading rfl .writeLock true
    (List.replicate 328 .granted) (by rw [List.length_replicate]; decide)⟩

/-! ### Nothing is left -/

variable {Holder Thread : Type*} [DecidableEq Holder] [DecidableEq Thread]

/-- **An object without a lock owns nothing.** Whatever has failed and crashed, an
object that is in no call and has no lock has no handle to a reader's mutex, and its
thread holds no mutex. -/
theorem unlocked_owns_nothing (threadOf : Holder → Thread)
    (ownThreads : Function.Injective threadOf) (events : List (LockEvent Holder Thread))
    (enabled : Always (LockState.step threadOf) (LockState.Enabled threadOf) LockState.initial
      events) (holder : Holder) :
    let final := run (LockState.step threadOf) .initial events
    (final.files holder).file.pc = .idle → (final.files holder).file.lockMode = .noLock →
      (∀ idx, holder ∉ final.mutexes.handles (.reader idx)) ∧
        ∀ name, ∀ owner ∈ final.mutexes.held name, owner.1 ≠ threadOf holder := by
  intro final idle unlocked
  have inStep : LockState.InStep threadOf final :=
    LockState.inStep_run threadOf ownThreads enabled
  have owned := QtLockedFile.owned_of_unlocked idle unlocked
  refine ⟨fun idx handle => ?_, fun name owner holds same => ?_⟩
  · have opened := (inStep.opened holder (.reader idx)).mp handle
    simp only [LockedFile.claims, owned, reader_mem_mutexSet, List.not_mem_nil] at opened
  · obtain ⟨_, other, thread, possible⟩ := inStep.possible name owner holds
    have itself : other = holder := ownThreads (thread.trans same)
    subst itself
    simp only [LockedFile.claims, owned, mutexSet_empty, Set.mem_empty_iff_false] at possible

/-- One object reads and unlocks while another one is about to read. -/
def readAndUnlocked : List (LockEvent Bool Bool) :=
  [.request false .openFile, .request false (.lock .readLock true), .reply false .granted,
    .reply false .granted, .request true .openFile, .request true (.lock .readLock true),
    .reply false .refused, .reply false .granted, .reply false .granted, .reply false .granted,
    .request false .unlock, .reply false .granted, .reply false .granted]

theorem unlocked_owns_nothing_read_and_unlocked :
    let final := run (LockState.step id) .initial readAndUnlocked
    (∀ idx, false ∉ final.mutexes.handles (.reader idx)) ∧
      ∀ name, ∀ owner ∈ final.mutexes.held name, owner.1 ≠ false :=
  unlocked_owns_nothing id Function.injective_id readAndUnlocked (by decide) false (by decide)
    (by decide)

end WatchDog.Windows
