import Mathlib.Data.List.Nodup
import WatchDogProcess.Foundation.NamedMutex
import WatchDogProcess.SingleInstance.LockMode

/-! # Locked files over named mutexes

The locking of `QtLockedFile` on Windows (`qtlockedfile_win.cpp`). A writer holds
one mutex of the file, and each reader another one, numbered below `maxReaders`.
Who wants a lock takes the writer's mutex first: a reader takes a free numbered
mutex and gives the writer's back, a writer collects the numbered mutexes that
exist and waits for all of them.

Between two calls of the system other threads run, so a call of `lock` or `unlock`
is cut at its system calls: `Pc` says which one is next, `QtLockedFile.call` is
that call, and `QtLockedFile.resume` the code from its reply to the next one.
-/

namespace WatchDog.Windows

/-- The mutexes of one file: `getMutexHandle` appends the index to the name unless
it is negative. -/
inductive MutexName where
  | writer
  | reader (idx : Nat)
  deriving DecidableEq, Repr

/-- `MAX_READERS`, the value of `MAXIMUM_WAIT_OBJECTS`. -/
def maxReaders : Nat := 64

/-- The reply of a system call. A wait for several mutexes that finds one abandoned
may succeed with a value that the code does not recognise. -/
inductive Reply where
  | granted
  | refused
  | unrecognised
  deriving DecidableEq, Repr

/-- What follows an unlocking: `return` with a value, the rest of `lock`, or the
rest of the destructor. -/
inductive After where
  | answer (result : Bool)
  | lock (mode : LockMode) (block : Bool)
  | closeWrite
  deriving DecidableEq, Repr

/-- The next system call, with the local variables that are live there. -/
inductive Pc where
  | idle
  /-- `wmutex = getMutexHandle(-1, true)` -/
  | createWrite (mode : LockMode) (block : Bool)
  /-- `waitMutex(wmutex, block)` -/
  | waitWrite (mode : LockMode) (block : Bool)
  /-- `rmutex = getMutexHandle(idx, false)` -/
  | openRead (idx : Nat)
  /-- `waitMutex(rmutex, false)` in the loop over the indices -/
  | waitRead (idx : Nat)
  /-- `CloseHandle(rmutex)` in that loop -/
  | closeRead (idx : Nat)
  /-- `rmutex = getMutexHandle(idx, true)` -/
  | createRead (idx : Nat)
  /-- `waitMutex(rmutex, false)` on the mutex just created -/
  | waitCreated (idx : Nat)
  /-- `CloseHandle(rmutex)` when that wait fails -/
  | closeCreated (idx : Nat)
  /-- `ReleaseMutex(wmutex)` of a reader -/
  | releaseWrite (ok : Bool)
  /-- `mutex = getMutexHandle(i, false)` of a writer -/
  | openAll (idx : Nat) (block : Bool)
  /-- `WaitForMultipleObjects` -/
  | waitAll (block : Bool)
  /-- `ReleaseMutex(rmutex)` -/
  | releaseRead (after : After)
  /-- `CloseHandle(rmutex)` -/
  | closeReadHeld (after : After)
  /-- `ReleaseMutex(mutex)` for one of `rmutexes`, with those after it -/
  | releaseOne (idx : Nat) (rest : List Nat) (after : After)
  /-- `CloseHandle(mutex)` for one of `rmutexes`, with those after it -/
  | closeOne (idx : Nat) (rest : List Nat) (after : After)
  /-- `ReleaseMutex(wmutex)` of a writer -/
  | releaseWriteHeld (after : After)
  /-- `CloseHandle(wmutex)` -/
  | closeWrite
  deriving DecidableEq, Repr

/-- The object: whether it has a handle to the writer's mutex, the reader mutexes it
has handles to, and what its last call has returned. -/
structure QtLockedFile where
  isOpen : Bool
  lockMode : LockMode
  wmutex : Bool
  rmutex : Option Nat
  rmutexes : List Nat
  pc : Pc
  answer : Option Bool
  deriving DecidableEq, Repr

namespace QtLockedFile

/-- `QtLockedFile::QtLockedFile`. -/
def constructed : QtLockedFile where
  isOpen := false
  lockMode := .noLock
  wmutex := false
  rmutex := none
  rmutexes := []
  pc := .idle
  answer := none

/-- `open` in a mode without `Truncate`, when the file system lets it. -/
def opened (file : QtLockedFile) : QtLockedFile := { file with isOpen := true, answer := none }

/-- `return result`. -/
def finish (file : QtLockedFile) (result : Bool) : QtLockedFile :=
  { file with pc := .idle, answer := some result }

/-- `lock` from the request for the writer's mutex on. -/
def beginLock (file : QtLockedFile) (mode : LockMode) (block : Bool) : QtLockedFile :=
  { file with pc := if file.wmutex then .waitWrite mode block else .createWrite mode block }

/-- The code after an unlocking. -/
def proceed (file : QtLockedFile) : After → QtLockedFile
  | .answer result => file.finish result
  | .lock mode block => file.beginLock mode block
  | .closeWrite => if file.wmutex then { file with pc := .closeWrite } else constructed

/-- The next turn of the `foreach` over `rmutexes`. -/
def releaseNext (file : QtLockedFile) (after : After) : List Nat → QtLockedFile
  | [] => { file with rmutexes := [], pc := .releaseWriteHeld after }
  | idx :: rest => { file with pc := .releaseOne idx rest after }

/-- `unlock` of a locked file. -/
def beginUnlock (file : QtLockedFile) (after : After) : QtLockedFile :=
  match file.lockMode with
  | .readLock => { file with pc := .releaseRead after }
  | _ => file.releaseNext after file.rmutexes

/-- `QtLockedFile::unlock`. -/
def unlock (file : QtLockedFile) : QtLockedFile :=
  if file.isOpen = false then file.finish false
  else if file.lockMode = .noLock then file.finish true
  else file.beginUnlock (.answer true)

/-- `QtLockedFile::lock`. -/
def lock (file : QtLockedFile) (mode : LockMode) (block : Bool) : QtLockedFile :=
  if file.isOpen = false then file.finish false
  else if mode = .noLock then file.unlock
  else if mode = file.lockMode then file.finish true
  else if file.lockMode ≠ .noLock then file.beginUnlock (.lock mode block)
  else file.beginLock mode block

/-- `QtLockedFile::~QtLockedFile`. -/
def destroy (file : QtLockedFile) : QtLockedFile :=
  if file.isOpen ∧ file.lockMode ≠ .noLock then file.beginUnlock .closeWrite
  else file.proceed .closeWrite

/-- The system call that the file is about to make. `CreateMutex` and `OpenMutex`
both give a handle. -/
def call (file : QtLockedFile) : Option (MutexCall MutexName) :=
  match file.pc with
  | .idle => none
  | .createWrite _ _ => some (.openHandle .writer)
  | .waitWrite _ _ => some (.acquire .writer)
  | .openRead idx => some (.openHandle (.reader idx))
  | .waitRead idx => some (.acquire (.reader idx))
  | .closeRead idx => some (.closeHandle (.reader idx))
  | .createRead idx => some (.openHandle (.reader idx))
  | .waitCreated idx => some (.acquire (.reader idx))
  | .closeCreated idx => some (.closeHandle (.reader idx))
  | .releaseWrite _ => some (.release .writer)
  | .openAll idx _ => some (.openHandle (.reader idx))
  | .waitAll _ => some (.acquireAll (file.rmutexes.map .reader))
  | .releaseRead _ => file.rmutex.map fun idx => .release (.reader idx)
  | .closeReadHeld _ => file.rmutex.map fun idx => .closeHandle (.reader idx)
  | .releaseOne idx _ _ => some (.release (.reader idx))
  | .closeOne idx _ _ => some (.closeHandle (.reader idx))
  | .releaseWriteHeld _ => some (.release .writer)
  | .closeWrite => some (.closeHandle .writer)

/-- The next turn of a reader's loop over the indices, or its end. -/
def nextRead (file : QtLockedFile) (idx : Nat) : QtLockedFile :=
  if idx < maxReaders then { file with rmutex := none, pc := .openRead idx }
  else { file with rmutex := none, pc := .releaseWrite false }

/-- The next turn of a writer's loop over the indices, or its end. -/
def nextOpenAll (file : QtLockedFile) (idx : Nat) (block : Bool) : QtLockedFile :=
  if idx < maxReaders then { file with pc := .openAll idx block }
  else if file.rmutexes = [] then { file with lockMode := .writeLock }.finish true
  else { file with pc := .waitAll block }

/-- The code from the reply of a system call to the next one. -/
def resume (file : QtLockedFile) (reply : Reply) : QtLockedFile :=
  match file.pc, reply with
  | .idle, _ => file
  | .createWrite mode block, .granted => { file with wmutex := true, pc := .waitWrite mode block }
  | .createWrite _ _, _ => file.finish false
  | .waitWrite .readLock _, .granted => file.nextRead 0
  | .waitWrite _ block, .granted => file.nextOpenAll 0 block
  | .waitWrite _ _, _ => file.finish false
  | .openRead idx, .granted => { file with rmutex := some idx, pc := .waitRead idx }
  | .openRead idx, _ => { file with pc := .createRead idx }
  | .waitRead _, .granted => { file with pc := .releaseWrite true }
  | .waitRead idx, _ => { file with pc := .closeRead idx }
  | .closeRead idx, _ => file.nextRead (idx + 1)
  | .createRead idx, .granted => { file with rmutex := some idx, pc := .waitCreated idx }
  | .createRead _, _ => { file with pc := .releaseWrite false }
  | .waitCreated _, .granted => { file with pc := .releaseWrite true }
  | .waitCreated idx, _ => { file with pc := .closeCreated idx }
  | .closeCreated _, _ => { file with rmutex := none, pc := .releaseWrite false }
  | .releaseWrite true, _ => { file with lockMode := .readLock }.finish true
  | .releaseWrite false, _ => file.finish false
  | .openAll idx block, .granted =>
      { file with rmutexes := file.rmutexes ++ [idx] }.nextOpenAll (idx + 1) block
  | .openAll idx block, _ => file.nextOpenAll (idx + 1) block
  | .waitAll _, .granted => { file with lockMode := .writeLock }.finish true
  -- the mode is set so that the unlocking gives back what the wait may have taken
  | .waitAll _, _ => { file with lockMode := .writeLock }.beginUnlock (.answer false)
  | .releaseRead after, _ => { file with pc := .closeReadHeld after }
  | .closeReadHeld after, _ => { file with rmutex := none, lockMode := .noLock }.proceed after
  | .releaseOne idx rest after, _ => { file with pc := .closeOne idx rest after }
  | .closeOne _ rest after, _ => file.releaseNext after rest
  | .releaseWriteHeld after, _ => { file with lockMode := .noLock }.proceed after
  | .closeWrite, _ => constructed

end QtLockedFile

end WatchDog.Windows
