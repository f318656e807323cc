import WatchDogProcess.Foundation.RecordLock
import WatchDogProcess.SingleInstance.LockMode

/-! # Locked files over record locks

The locking of `QtLockedFile` on Unix (`qtlockedfile_unix.cpp`). A lock is one that the
system keeps for the process on the whole file (`fcntl`), so a change of mode is an unlock
and then a lock, between which others run. As on Windows a call is cut at its system calls:
`Pc` says which one is next, `QtLockedFile.call` is that call, and `QtLockedFile.resume` the
code from its result to the next one.

What `unlock` returns inside `lock` is not looked at.
-/

namespace WatchDog.Unix

open ReadersWriter RecordLock

/-- What follows an unlocking: the `return` of `unlock`, the rest of `lock`, or the rest of
the destructor. -/
inductive After where
  | answer
  | lock (mode : LockMode) (block : Bool)
  | close
  deriving DecidableEq, Repr

/-- The next system call, with the local variables that are live there. -/
inductive Pc where
  | idle
  /-- `fcntl(handle(), F_SETLKW, &fl)` with `F_UNLCK` -/
  | unlocking (after : After)
  /-- `fcntl(handle(), cmd, &fl)` with `F_RDLCK` or `F_WRLCK` -/
  | locking (mode : LockMode) (block : Bool)
  /-- The file is closed when the object is destroyed. -/
  | closing
  deriving DecidableEq, Repr

/-- The object, and what its last call has returned. -/
structure QtLockedFile where
  isOpen : Bool
  lockMode : LockMode
  pc : Pc
  answer : Option Bool
  deriving DecidableEq, Repr

/-- A call of the system on the locks of the process. -/
inductive LockCall where
  | set (access : Access)
  | clear
  | close
  deriving DecidableEq, Repr

namespace QtLockedFile

/-- `QtLockedFile::QtLockedFile`. -/
def constructed : QtLockedFile where
  isOpen := false
  lockMode := .noLock
  pc := .idle
  answer := none

/-- `open` in a mode without `Truncate`, when the file system lets it. -/
def opened (file : QtLockedFile) : QtLockedFile := { file with isOpen := true, answer := none }

/-- `return result`. -/
def finish (file : QtLockedFile) (result : Bool) : QtLockedFile :=
  { file with pc := .idle, answer := some result }

/-- The code after an unlocking that returns a value. -/
def proceed (file : QtLockedFile) (result : Bool) : After → QtLockedFile
  | .answer => file.finish result
  | .lock mode block => { file with pc := .locking mode block }
  | .close => { file with pc := .closing }

/-- `QtLockedFile::unlock`. -/
def unlock (file : QtLockedFile) : QtLockedFile :=
  if file.isOpen = false then file.finish false
  else if file.lockMode = .noLock then file.finish true
  else { file with pc := .unlocking .answer }

/-- `QtLockedFile::lock`. -/
def lock (file : QtLockedFile) (mode : LockMode) (block : Bool) : QtLockedFile :=
  if file.isOpen = false then file.finish false
  else if mode = .noLock then file.unlock
  else if mode = file.lockMode then file.finish true
  else if file.lockMode ≠ .noLock then { file with pc := .unlocking (.lock mode block) }
  else { file with pc := .locking mode block }

/-- `QtLockedFile::~QtLockedFile`, and the end of the `QFile`. -/
def destroy (file : QtLockedFile) : QtLockedFile :=
  if file.isOpen = false then constructed
  else if file.lockMode = .noLock then { file with pc := .closing }
  else { file with pc := .unlocking .close }

/-- The system call that the file is about to make. -/
def call (file : QtLockedFile) : Option LockCall :=
  match file.pc with
  | .idle => none
  | .unlocking _ => some .clear
  | .locking mode _ => mode.access.map .set
  | .closing => some .close

/-- The code from the result of a system call to the next one. -/
def resume (file : QtLockedFile) (ok : Bool) : QtLockedFile :=
  match file.pc with
  | .idle => file
  | .unlocking after =>
      if ok then { file with lockMode := .noLock }.proceed true after else file.proceed false after
  | .locking mode _ => if ok then { file with lockMode := mode }.finish true else file.finish false
  | .closing => constructed

end QtLockedFile

/-- What is asked of a locked file. -/
inductive LockRequest where
  | openFile
  | lock (mode : LockMode) (block : Bool)
  | unlock
  | destroy

def QtLockedFile.begin (file : QtLockedFile) : LockRequest → QtLockedFile
  | .openFile => file.opened
  | .lock mode block => file.lock mode block
  | .unlock => file.unlock
  | .destroy => file.destroy

/-- A holder is asked for something, a system call returns, or a process ends. -/
inductive LockEvent (Holder Process : Type*) where
  | request (holder : Holder) (request : LockRequest)
  | reply (holder : Holder) (ok : Bool)
  | exit (process : Process)

/-- The locked files, and the locks that the system keeps. -/
structure LockState (Holder Process : Type*) where
  files : Holder → QtLockedFile
  locks : Process → Option Access

namespace LockState

variable {Holder Process : Type*}

def initial : LockState Holder Process := ⟨fun _ => .constructed, fun _ => none⟩

/-- What a system call does to the locks. Closing a file drops the lock whatever it says. -/
def effect [DecidableEq Process] (locks : Process → Option Access) (process : Process)
    (ok : Bool) : LockCall → Process → Option Access
  | .set access => if ok then Function.update locks process (some access) else locks
  | .clear => if ok then Function.update locks process none else locks
  | .close => Function.update locks process none

variable [DecidableEq Holder] [DecidableEq Process] (processOf : Holder → Process)

def step (state : LockState Holder Process) : LockEvent Holder Process → LockState Holder Process
  | .request holder request =>
      { state with
        files := Function.update state.files holder ((state.files holder).begin request) }
  | .reply holder ok => match (state.files holder).call with
    | none => state
    | some call =>
        { files := Function.update state.files holder ((state.files holder).resume ok)
          locks := effect state.locks (processOf holder) ok call }
  | .exit process =>
      { files := fun holder =>
          if processOf holder = process then .constructed else state.files holder
        locks := Function.update state.locks process none }

/-- A holder answers a request before the next, a file is opened when it is not open, and a
lock is set only when the system grants it. Any call may fail. -/
def Enabled (state : LockState Holder Process) : LockEvent Holder Process → Prop
  | .request holder .openFile =>
      (state.files holder).isOpen = false ∧ (state.files holder).pc = .idle
  | .request holder _ => (state.files holder).pc = .idle
  | .reply holder ok => ∃ call, (state.files holder).call = some call ∧
      ∀ access, call = .set access → ok = true → Grants state.locks (processOf holder) access
  | .exit _ => True

end LockState

end WatchDog.Unix
