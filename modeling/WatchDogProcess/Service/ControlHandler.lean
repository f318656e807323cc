import WatchDogProcess.Service.ServiceFlags
import Mathlib.Logic.Function.Basic

/-! # The control handler of a Windows service

Windows calls `handler` for control codes in the thread of the dispatcher, and
`serviceMain` calls it for the startup code in another; the model lets any number of threads
be in it. The handler locks a mutex, reports a pending state, posts an event to the main
thread and waits on a condition; the main thread calls the service for the event, locks the
mutex and wakes all that wait; the handler then reports the state reached
(`QtServiceSysPrivate::handler` and `handleCustomEvent`, `qtservice_win.cpp`). When its
event loop ends the main thread reports that the service has stopped, without the mutex
(`QtServiceBasePrivate::start`).

Each thread is cut at the operations that others can see: mutex, condition, event queue,
the state in `status`, and the report of it (`WatchDog.HandlerPc`, `WatchDog.MainPc`). A
report is two of them: `SetServiceStatus` reads the state through the pointer that it is
given, and then hands the copy to Windows, since not every report is made under the mutex.

The model ends with the report of `SERVICE_STOPPED`. What `start` does after it is left out:
it waits a second for the handler's thread, deletes the object that gets the events and
calls `sysCleanup`. So are a wait that ends without being woken, and the tests that
`available()` and the instance make, which hold while the service runs.
-/

namespace WatchDog

/-- The values of `status.dwCurrentState`. -/
inductive ServiceState where
  | stopped
  | startPending
  | stopPending
  | running
  | continuePending
  | pausePending
  | paused
  deriving DecidableEq, Repr

/-! ### The codes -/

/-- `QTSERVICE_STARTUP`. -/
def startupCode : Nat := 256

/-- `SERVICE_CONTROL_STOP`. -/
def controlStop : Nat := 1

/-- `SERVICE_CONTROL_PAUSE`. -/
def controlPause : Nat := 2

/-- `SERVICE_CONTROL_CONTINUE`. -/
def controlContinue : Nat := 3

/-- `SERVICE_CONTROL_SHUTDOWN`. -/
def controlShutdown : Nat := 5

/-- The state that the handler sets before it posts an event. -/
def pendingState (code : Nat) : Option ServiceState :=
  if code = startupCode then some .startPending
  else if code = controlStop then some .stopPending
  else if code = controlPause then some .pausePending
  else if code = controlContinue then some .continuePending
  else none

/-- The event that the handler posts; shutting down is posted as stopping. -/
def postedCode (code : Nat) : Option Nat :=
  if code = startupCode ∨ code = controlStop ∨ code = controlPause ∨ code = controlContinue then
    some code
  else if code = controlShutdown then some controlStop
  else if 128 ≤ code ∧ code ≤ 255 then some code
  else none

/-- The state that the handler sets once it has been woken. -/
def finalState (code : Nat) : Option ServiceState :=
  if code = startupCode then some .running
  else if code = controlPause then some .paused
  else if code = controlContinue then some .running
  else none

/-- The call of the service that `handleCustomEvent` makes for an event. -/
def handledCall (code : Nat) : Option ServiceCall :=
  if code = startupCode then some .start
  else if code = controlStop then some .stop
  else if code = controlPause then some .pause
  else if code = controlContinue then some .resume
  else if 128 ≤ code ∧ code ≤ 255 then some (.processCommand (code - 128))
  else none

/-! ### The threads -/

/-- Where a thread is in `handler`, with the code. -/
inductive HandlerPc where
  | idle
  /-- `mutex.lock()`. -/
  | locking (code : Nat)
  /-- `setStatus` of the pending state: it is stored, then read to be reported, and sent. -/
  | setPending (code : Nat)
  | reportPending (code : Nat)
  | sendPending (code : Nat) (state : ServiceState)
  /-- `postEvent`. -/
  | posting (code : Nat)
  /-- `condition.wait`: the thread unlocks the mutex, sleeps, and locks it again. -/
  | enterWait (code : Nat)
  | waiting (code : Nat)
  | woken (code : Nat)
  /-- `setStatus` of the state reached. -/
  | setFinal (code : Nat)
  | reportFinal
  | sendFinal (state : ServiceState)
  /-- `mutex.unlock()`. -/
  | unlocking
  /-- The test of the state, and the last report, which reads it again. -/
  | checking
  | reporting
  | sending (state : ServiceState)
  deriving DecidableEq, Repr

/-- Where the main thread is: in its event loop, handling an event, waking those that wait,
past the loop, or past the report that the service has stopped. -/
inductive MainPc where
  | loop
  | handling (code : Nat)
  | lockingToWake
  | waking
  | unlocking
  /-- `setStatus(SERVICE_STOPPED)`. -/
  | setStopped
  | reportStopped
  | sendStopped (state : ServiceState)
  | left
  deriving DecidableEq, Repr

/-- The handler threads, the main thread, the owner of the mutex (`none` inside for the main
thread), the events posted with the thread that waits for each, whether the loop was told to
quit, the state, the states reported and the calls of the service so far. -/
structure ControlState (Handler : Type*) where
  handlers : Handler → HandlerPc
  main : MainPc
  owner : Option (Option Handler)
  queue : List (Handler × Nat)
  quitting : Bool
  state : ServiceState
  reported : List ServiceState
  calls : List ServiceCall

/-- A control code comes, a handler thread goes on, the main thread takes an event or leaves
its loop or goes on, or the application quits by itself. -/
inductive ControlEvent (Handler : Type*) where
  | control (thread : Handler) (code : Nat)
  | handler (thread : Handler)
  | take
  | leave
  | main
  | quit

namespace ControlState

variable {Handler : Type*}

/-- Before the startup code. -/
def initial : ControlState Handler where
  handlers := fun _ => .idle
  main := .loop
  owner := none
  queue := []
  quitting := false
  state := .stopped
  reported := []
  calls := []

/-- Where a thread goes once it has locked the mutex. -/
def afterLock (code : Nat) : HandlerPc :=
  if (pendingState code).isSome then .setPending code
  else if (postedCode code).isSome then .posting code
  else .unlocking

/-- Where a thread goes once its wait is over. -/
def afterWait (code : Nat) : HandlerPc :=
  if (finalState code).isSome then .setFinal code else .unlocking

/-- `condition.wakeAll()` for one thread. -/
def wake : HandlerPc → HandlerPc
  | .waiting code => .woken code
  | pc => pc

variable [DecidableEq Handler]

/-- The thread goes to another place. -/
def goTo (control : ControlState Handler) (thread : Handler) (pc : HandlerPc) :
    ControlState Handler :=
  { control with handlers := Function.update control.handlers thread pc }

/-- One operation of a handler thread. -/
def handlerStep (control : ControlState Handler) (thread : Handler) : ControlState Handler :=
  match control.handlers thread with
  | .idle => control
  | .locking code => { control.goTo thread (afterLock code) with owner := some (some thread) }
  | .setPending code =>
      { control.goTo thread (.reportPending code) with
        state := (pendingState code).getD control.state }
  | .reportPending code => control.goTo thread (.sendPending code control.state)
  | .sendPending code state =>
      { control.goTo thread (.posting code) with reported := control.reported ++ [state] }
  | .posting code =>
      { control.goTo thread (.enterWait code) with
        queue := control.queue ++ (postedCode code).toList.map fun posted => (thread, posted) }
  | .enterWait code => { control.goTo thread (.waiting code) with owner := none }
  | .waiting _ => control
  | .woken code => { control.goTo thread (afterWait code) with owner := some (some thread) }
  | .setFinal code =>
      { control.goTo thread .reportFinal with state := (finalState code).getD control.state }
  | .reportFinal => control.goTo thread (.sendFinal control.state)
  | .sendFinal state =>
      { control.goTo thread .unlocking with reported := control.reported ++ [state] }
  | .unlocking => { control.goTo thread .checking with owner := none }
  | .checking => control.goTo thread (if control.state = .stopped then .idle else .reporting)
  | .reporting => control.goTo thread (.sending control.state)
  | .sending state =>
      { control.goTo thread .idle with reported := control.reported ++ [state] }

/-- One operation of the main thread, inside `handleCustomEvent` or past the loop. -/
def mainStep (control : ControlState Handler) : ControlState Handler :=
  match control.main with
  | .loop => control
  | .handling code =>
      { control with
        main := .lockingToWake
        calls := control.calls ++ (handledCall code).toList
        quitting := control.quitting || decide (code = controlStop) }
  | .lockingToWake => { control with main := .waking, owner := some none }
  | .waking =>
      { control with
        main := .unlocking
        handlers := fun thread => wake (control.handlers thread) }
  | .unlocking => { control with main := .loop, owner := none }
  | .setStopped => { control with main := .reportStopped, state := .stopped }
  | .reportStopped => { control with main := .sendStopped control.state }
  | .sendStopped state => { control with main := .left, reported := control.reported ++ [state] }
  | .left => control

def step (control : ControlState Handler) : ControlEvent Handler → ControlState Handler
  | .control thread code => control.goTo thread (.locking code)
  | .handler thread => control.handlerStep thread
  | .take => match control.queue with
    | [] => control
    | (_, code) :: rest => { control with main := .handling code, queue := rest }
  | .leave => { control with main := .setStopped }
  | .main => control.mainStep
  | .quit => { control with quitting := true }

/-- The thread can take its next operation: it is not idle or asleep, and does not wait for
the mutex. -/
def HandlerReady (control : ControlState Handler) (thread : Handler) : Prop :=
  match control.handlers thread with
  | .idle => False
  | .waiting _ => False
  | .locking _ => control.owner = none
  | .woken _ => control.owner = none
  | _ => True

/-- The main thread can take its next operation. -/
def MainReady (control : ControlState Handler) : Prop :=
  match control.main with
  | .loop => False
  | .left => False
  | .lockingToWake => control.owner = none
  | _ => True

def Enabled (control : ControlState Handler) : ControlEvent Handler → Prop
  | .control thread _ => control.handlers thread = .idle
  | .handler thread => control.HandlerReady thread
  | .take => control.main = .loop ∧ control.queue ≠ []
  | .leave => control.main = .loop ∧ control.quitting = true
  | .main => control.MainReady
  | .quit => True

end ControlState

end WatchDog
