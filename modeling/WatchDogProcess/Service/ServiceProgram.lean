import WatchDogProcess.Foundation.EventRun
import WatchDogProcess.Service.CommandText
import WatchDogProcess.SingleInstance.LockedFileUnix
import WatchDogProcess.SingleInstance.PeerName

/-! # The program that is the service

`main` (`main.cpp`) goes on only in a process that finds no other instance of the program,
and hands its arguments to `QtServiceBase::exec` (`qtservice.cpp`): with an argument of its
own `exec` installs or controls the service, and otherwise it starts it. On Unix to start is
to ask a running service whether it is alive, and then to start the program again, detached,
with the same arguments and `QTSERVICE_RUN` set, by which the detached process knows that it
is the service (`QtServiceBasePrivate::start`, `qtservice_unix.cpp`).

The processes are of any program files, users and directories for temporary files: the lock
of an instance depends on all three, and the path of the service's socket on the user alone.
They are cut at what others can see: the lock of the instance, the socket that the path names,
and the processes started.
-/

namespace WatchDog

open EventRun Unix

/-! ### The arguments -/

/-- What `exec` does. -/
inductive ExecAction where
  | install (account password : List Char)
  | uninstall
  | version
  /-- `run(false, args)` -/
  | runApplication
  | sendCmd (cmd : List Char)
  | help
  /-- `run(true, args)` -/
  | runService
  | start
  deriving DecidableEq, Repr

/-- The argument is one of the two spellings. -/
def isOption (a : List Char) (short long : String) : Prop := a = short.toList ∨ a = long.toList

instance (a : List Char) (short long : String) : Decidable (isOption a short long) :=
  inferInstanceAs (Decidable (_ ∨ _))

/-- What `exec` does for the arguments after the program's, if the first of them is its own. -/
def serviceSpecific (spaces : Whitespace) : List (List Char) → Option ExecAction
  | [] => none
  | a :: rest =>
      if isOption a "-i" "-install" then some (.install (rest.getD 0 []) (rest.getD 1 []))
      else if isOption a "-u" "-uninstall" then some .uninstall
      else if isOption a "-v" "-version" then some .version
      else if isOption a "-e" "-exec" then some .runApplication
      else if isOption a "-t" "-terminate" then some (.sendCmd "terminate".toList)
      else if isOption a "-p" "-pause" then some (.sendCmd "pause".toList)
      else if isOption a "-r" "-resume" then some (.sendCmd "resume".toList)
      else if isOption a "-c" "-command" then
        some (.sendCmd (sendCommandLine ((rest.head?.map (toInt spaces)).getD 0)))
      else if isOption a "-h" "-help" then some .help
      else none

/-- `QtServiceBase::exec`, up to what it does. -/
def execAction (spaces : Whitespace) (args : List (List Char)) (serviceRun : Bool) : ExecAction :=
  (serviceSpecific spaces args.tail).getD (if serviceRun then .runService else .start)

/-- What `exec` sends over a connection, where it connects; `isRunning` only connects. -/
def ExecAction.line : ExecAction → Option (List Char)
  | .sendCmd cmd => some cmd
  | .start => some "alive".toList
  | _ => none

/-! ### The processes -/

/-- Where a process is in `main`. -/
inductive ProgramPc where
  | unstarted
  /-- Before `QtSingleApplication s` and `s.isRunning()`. -/
  | starting
  /-- Before `service.exec()`. -/
  | exec
  /-- `connectTo`, and the reply where a line is sent. -/
  | connecting (action : ExecAction)
  /-- `startDetached` -/
  | spawning
  /-- The event loop in `run`, with whether the server has its path. -/
  | running (asService listens : Bool)
  /-- `exec` has returned. -/
  | leaving (code : Int)
  /-- `main` returns since another instance runs. -/
  | refused
  | ended
  deriving DecidableEq, Repr

/-- What the program learns from the system: the whitespace, the path of the file that the
arguments name (`QtServiceBasePrivate::filePath`), the `applicationFilePath` of a process
started from a path, and the login name of a user. -/
structure UnixSystem where
  spaces : Whitespace
  filePath : List (List Char) → List Char
  executable : List Char → List Char
  login : Nat → List Char

/-- `encodeName`: lower case, and letters and digits only. -/
def encodeName (name : List Char) : List Char :=
  (name.map Char.toLower).filter fun character => character.isLower || character.isDigit

/-- The name of the service (`ServiceControl::ServiceControl`). -/
def serviceName : List Char := "Watchdog_Service".toList

/-- The path of the service's socket. -/
def UnixSystem.socketPath (system : UnixSystem) (owner : Nat) : List Char :=
  "/var/tmp/".toList ++ encodeName serviceName ++ ['.'] ++ system.login owner

/-- The processes with their arguments, `QTSERVICE_RUN` and what they name their lock files
after, the locks of each lock file, the process whose socket each path names, the path that
the service is installed with, and the lines that reached a service, each with its sender and
the service. -/
structure ProgramState (Pid : Type*) where
  pc : Pid → ProgramPc
  args : Pid → List (List Char)
  serviceRun : Pid → Bool
  origin : Pid → PeerOrigin
  locks : List Char → LockState Pid Pid
  bound : List Char → Option Pid
  installed : Option (List Char)
  delivered : List (Pid × Pid × List Char)

/-- A process is launched with arguments and without `QTSERVICE_RUN`, asks whether an instance
runs, looks at its arguments, connects, starts a detached process, leaves its event loop,
returns from `main`, or is killed. Where a call of the system may fail the event says whether
it does. -/
inductive ProgramEvent (Pid : Type*) where
  | launch (pid : Pid) (args : List (List Char)) (origin : PeerOrigin)
  | isRunning (pid : Pid) (opens ok : Bool)
  | exec (pid : Pid) (ok : Bool)
  | connect (pid : Pid) (reply : List Char)
  | spawn (pid : Pid) (child : Option Pid)
  | quit (pid : Pid) (code : Int)
  | leave (pid : Pid)
  | kill (pid : Pid)

namespace ProgramState

variable {Pid : Type*}

def initial : ProgramState Pid where
  pc := fun _ => .unstarted
  args := fun _ => []
  serviceRun := fun _ => false
  origin := fun _ => ⟨[], [], 0⟩
  locks := fun _ => .initial
  bound := fun _ => none
  installed := none
  delivered := []

/-- The lock file of a process. -/
def lockName (state : ProgramState Pid) (pid : Pid) : List Char := Unix.lockName (state.origin pid)

/-- The locks of the lock file of a process. -/
def lockOf (state : ProgramState Pid) (pid : Pid) : LockState Pid Pid :=
  state.locks (state.lockName pid)

variable (system : UnixSystem)

/-- The service that a connection of a process reaches: a socket file that is left behind by
a process that has ended is refused. -/
def listener (state : ProgramState Pid) (pid : Pid) : Option Pid :=
  (state.bound (system.socketPath (state.origin pid).owner)).filter fun service =>
    state.pc service = .running true true

/-- The calls of `isClient` on the lock file that the constructor opens or fails to. -/
def lockEvents (pid : Pid) (opens ok : Bool) : List (LockEvent Pid Pid) :=
  if opens then
    [.request pid .openFile, .request pid (.lock .writeLock false), .reply pid ok]
  else [.request pid (.lock .writeLock false)]

variable [DecidableEq Pid]

def goTo (state : ProgramState Pid) (pid : Pid) (pc : ProgramPc) : ProgramState Pid :=
  { state with pc := Function.update state.pc pid pc }

/-- The locks of the process's lock file change. -/
def setLocks (state : ProgramState Pid) (pid : Pid) (locks : LockState Pid Pid) :
    ProgramState Pid :=
  { state with locks := Function.update state.locks (state.lockName pid) locks }

/-- The path of the process's user names a socket of the process, or none. -/
def setBound (state : ProgramState Pid) (pid : Pid) (service : Option Pid) : ProgramState Pid :=
  { state with
    bound := Function.update state.bound (system.socketPath (state.origin pid).owner) service }

/-- The process ends, by itself or not: the system drops its locks. -/
def endProcess (state : ProgramState Pid) (pid : Pid) : ProgramState Pid :=
  (state.goTo pid .ended).setLocks pid ((state.lockOf pid).step id (.exit pid))

/-- What `exec` does at once. Only where the service is not installed is it installed. -/
def execStep (state : ProgramState Pid) (pid : Pid) (ok : Bool) : ProgramState Pid :=
  match execAction system.spaces (state.args pid) (state.serviceRun pid) with
  | .install _ _ =>
      if state.installed.isSome then state.goTo pid (.leaving 0)
      else if ok then
        { state.goTo pid (.leaving 0) with installed := some (system.filePath (state.args pid)) }
      else state.goTo pid (.leaving (-1))
  | .uninstall =>
      if state.installed.isNone then state.goTo pid (.leaving 0)
      else if ok then { state.goTo pid (.leaving 0) with installed := none }
      else state.goTo pid (.leaving (-1))
  | .help => state.goTo pid (.leaving 0)
  | .runApplication => state.goTo pid (.running false false)
  -- `setPath` removes what the path names before it binds the new socket
  | .runService =>
      (state.goTo pid (.running true ok)).setBound system pid (if ok then some pid else none)
  | action => state.goTo pid (.connecting action)

/-- What follows the connection, and what is left behind by it. -/
def connectStep (state : ProgramState Pid) (pid : Pid) (action : ExecAction) (reply : List Char) :
    ProgramState Pid :=
  { state.goTo pid (if action = .start then
      if WatchDog.sendCmd (state.listener system pid).isSome reply then .leaving (-4)
      else .spawning
    else .leaving 0) with
    delivered := state.delivered ++ match state.listener system pid, action.line with
      | some service, some line => [(pid, service, line)]
      | _, _ => [] }

/-- What the detached process names its lock file after: the program that the starter's
arguments name, and the user and the directory of the starter. -/
def childOrigin (state : ProgramState Pid) (pid : Pid) : PeerOrigin :=
  { state.origin pid with
    applicationFilePath := system.executable (system.filePath (state.args pid)) }

def step (state : ProgramState Pid) : ProgramEvent Pid → ProgramState Pid
  | .launch pid args origin =>
      { state.goTo pid .starting with
        args := Function.update state.args pid args
        origin := Function.update state.origin pid origin }
  | .isRunning pid opens ok =>
      let locks := run (LockState.step id) (state.lockOf pid) (lockEvents pid opens ok)
      (state.goTo pid (if (locks.files pid).answer = some true then .exec else .refused)).setLocks
        pid locks
  | .exec pid ok => state.execStep system pid ok
  | .connect pid reply => match state.pc pid with
    | .connecting action => state.connectStep system pid action reply
    | _ => state
  | .spawn pid none => state.goTo pid (.leaving (-4))
  | .spawn pid (some child) =>
      { (state.goTo child .starting).goTo pid (.leaving 0) with
        args := Function.update state.args child
          (system.filePath (state.args pid) :: (state.args pid).tail)
        serviceRun := Function.update state.serviceRun child true
        origin := Function.update state.origin child (state.childOrigin system pid) }
  -- `close` removes what the path names when the server had it
  | .quit pid code =>
      if state.pc pid = .running true true then
        (state.goTo pid (.leaving code)).setBound system pid none
      else state.goTo pid (.leaving code)
  | .leave pid => state.endProcess pid
  | .kill pid => state.endProcess pid

/-- A process does what comes next, and gets the lock of the instance only when the system
grants it. A detached process is a new one. -/
def Enabled (state : ProgramState Pid) : ProgramEvent Pid → Prop
  | .launch pid _ _ => state.pc pid = .unstarted
  | .isRunning pid opens ok => state.pc pid = .starting ∧
      (opens = true → ok = true → RecordLock.Grants (state.lockOf pid).locks pid .exclusive)
  | .exec pid _ => state.pc pid = .exec
  | .connect pid _ => ∃ action, state.pc pid = .connecting action
  | .spawn pid none => state.pc pid = .spawning
  | .spawn pid (some child) => state.pc pid = .spawning ∧ state.pc child = .unstarted
  | .quit pid _ => ∃ asService listens, state.pc pid = .running asService listens
  | .leave pid => state.pc pid = .refused ∨ ∃ code, state.pc pid = .leaving code
  | .kill pid => state.pc pid ≠ .unstarted ∧ state.pc pid ≠ .ended

instance : (pc : ProgramPc) → Decidable (∃ action, pc = .connecting action)
  | .connecting action => .isTrue ⟨action, rfl⟩
  | .unstarted | .starting | .exec | .spawning | .running _ _ | .leaving _ | .refused | .ended =>
      .isFalse fun ⟨_, same⟩ => ProgramPc.noConfusion same

instance : (pc : ProgramPc) → Decidable (∃ asService listens, pc = .running asService listens)
  | .running asService listens => .isTrue ⟨asService, listens, rfl⟩
  | .unstarted | .starting | .exec | .spawning | .connecting _ | .leaving _ | .refused | .ended =>
      .isFalse fun ⟨_, _, same⟩ => ProgramPc.noConfusion same

instance : (pc : ProgramPc) → Decidable (∃ code, pc = .leaving code)
  | .leaving code => .isTrue ⟨code, rfl⟩
  | .unstarted | .starting | .exec | .spawning | .connecting _ | .running _ _ | .refused | .ended =>
      .isFalse fun ⟨_, same⟩ => ProgramPc.noConfusion same

instance [Fintype Pid] (state : ProgramState Pid) :
    (event : ProgramEvent Pid) → Decidable (state.Enabled event)
  | .launch _ _ _ | .exec _ _ | .spawn _ none => inferInstanceAs (Decidable (_ = _))
  | .isRunning pid opens ok => inferInstanceAs (Decidable (_ ∧
      (opens = true → ok = true → RecordLock.Grants (state.lockOf pid).locks pid .exclusive)))
  | .connect _ _ => inferInstanceAs (Decidable (∃ action, _ = ProgramPc.connecting action))
  | .spawn _ (some _) | .kill _ => inferInstanceAs (Decidable (_ ∧ _))
  | .quit _ _ => inferInstanceAs
      (Decidable (∃ asService listens, _ = ProgramPc.running asService listens))
  | .leave _ => inferInstanceAs (Decidable (_ ∨ ∃ code, _ = ProgramPc.leaving code))

end ProgramState

end WatchDog
