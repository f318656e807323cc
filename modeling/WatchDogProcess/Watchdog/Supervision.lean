import WatchDogProcess.Monitor.Watch
import WatchDogProcess.Watchdog.EventLoop
import WatchDogProcess.Watchdog.TimedSlots

/-! # The watchdog and the processes that it supervises

Here the process table is part of the state: scans read it, kills take processes
out of it, launches put a process into it, and processes may start and end on
their own at any time (`WatchDog.Supervised.step`).

`ProctortrackThread` starts its ten-second timer in its own thread, but the slot
`process` belongs to the thread object, which lives in the main thread. So the
timer posts a call to the main thread's event loop; the scan runs there when the
call is handled, and the report it emits reaches `OnAppCrash` directly. A posted
call may wait, so the scans come at any moments; `WatchDog.Supervised.lastScan`
is that of the last one. Time passes between the calls of the event loop: a scan, and
a kill, which blocks until the command has ended, take none.

Seen on its event loop, a step of the supervised computer is a legal run of the
loop (`WatchDog.Supervised.loop_step`, `WatchDog.Supervised.legal_loopEvents`).
-/

namespace WatchDog

open EventRun

/-- The platform, how it compares texts and splits lines, and the name under which
its process table lists a started program. -/
structure Computer where
  platform : Platform
  folding : CaseFolding
  spaces : Whitespace
  imageOf : String → String

/-- A process: what it runs, since when, and whether `LaunchApp` started it. -/
structure OsProcess where
  pid : Nat
  executable : String
  since : Nat
  launched : Bool
  deriving DecidableEq, Repr

/-- The outcome of the system calls of one scan. -/
inductive ScanCalls where
  | windows (calls : ToolhelpCalls)
  | macOS (calls : SysctlCalls)

namespace ScanCalls

def platform : ScanCalls → Platform
  | windows _ => .windows
  | macOS _ => .macOS

/-- A scan of a process table with these outcomes. -/
def on (table : List OsProcess) : ScanCalls → ScanInput
  | windows calls => .windows calls (table.map fun process => ⟨process.executable, process.pid⟩)
  | macOS calls => .macOS calls (table.map OsProcess.executable)

@[simp] theorem platform_on (calls : ScanCalls) (table : List OsProcess) :
    (calls.on table).platform = calls.platform := by
  cases calls <;> rfl

@[simp] theorem names_on (calls : ScanCalls) (table : List OsProcess) :
    (calls.on table).names = table.map OsProcess.executable := by
  cases calls with
  | windows calls =>
      simp only [on, ScanInput.names, List.map_map]
      rfl
  | macOS calls => rfl

end ScanCalls

/-- The event loop, the thread object, the processes, and when the last scan was. -/
structure Supervised where
  loop : EventLoop
  thread : ProctortrackThread
  table : List OsProcess
  lastScan : Nat

/-- Time passes; a posted scan is handled; a due timer kills or launches, with the
read of the history file that its slot makes; a process starts or ends on its own.
A kill need not end every process it names, and a launch starts a process with
this identifier if it succeeds. -/
inductive SupervisedEvent where
  | wait (moment : Nat)
  | scan (calls : ScanCalls) (reads : ReportReads)
  | kill (timer : Timer) (history : ReadOutcome) (ends : OsProcess → Bool)
  | launch (timer : Timer) (history : ReadOutcome) (pid : Option Nat)
  | starts (pid : Nat) (executable : String)
  | exits (process : OsProcess)

namespace Supervised

/-- `CheckRunningApplication` on a watchdog constructed at some moment. -/
def start (began : Nat) (initial : ConstructorReads) (reads : ThreadReads)
    (table : List OsProcess) : Supervised :=
  let running := checkRunningApplication reads (ProctoringWatchDog.construct began initial)
  { loop := { EventLoop.start began initial with watchdog := running.1 }
    thread := running.2
    table := table
    lastScan := began }

/-- The result of a scan handled now. -/
def scanned (computer : Computer) (state : Supervised) (calls : ScanCalls) : ScanResult :=
  process computer.folding 0 (calls.on state.table) state.thread

/-- The process that a launch leaves in the table. -/
def launches (computer : Computer) (now : Nat) (history : ReadOutcome) (pid : Option Nat) :
    List OsProcess :=
  match launchApp computer.spaces computer.platform history, pid with
  | some (program, _), some pid => [⟨pid, computer.imageOf program, now, true⟩]
  | _, _ => []

def step (computer : Computer) (state : Supervised) : SupervisedEvent → Supervised
  | .wait moment => { state with loop := loopStep computer.platform state.loop (.wait moment) }
  | .scan calls reads =>
      let result := state.scanned computer calls
      { state with
        loop := result.emitted.foldl
          (fun loop isRunning => loopStep computer.platform loop (.report isRunning reads))
          state.loop
        thread := result.thread
        lastScan := state.loop.now }
  | .kill timer history ends =>
      let targets := killed computer.platform history
      { state with
        loop := loopStep computer.platform state.loop (.call timer)
        table := state.table.filter fun process =>
          !(targets.contains process.executable && ends process) }
  | .launch timer history pid =>
      { state with
        loop := loopStep computer.platform state.loop (.call timer)
        table := state.table ++ launches computer state.loop.now history pid }
  | .starts pid executable =>
      { state with table := state.table ++ [⟨pid, executable, state.loop.now, false⟩] }
  | .exits process => { state with table := state.table.erase process }

/-- Time and timers as on the event loop, scans by the calls of the platform, and
only running processes end. -/
def Enabled (computer : Computer) (state : Supervised) : SupervisedEvent → Prop
  | .wait moment => (LoopEvent.wait moment).Legal state.loop
  | .scan calls _ => calls.platform = computer.platform
  | .kill timer _ _ =>
      timer.slot = .killProctortrackIfNotResponding ∧ (LoopEvent.call timer).Legal state.loop
  | .launch timer _ _ => timer.slot = .launchApp ∧ (LoopEvent.call timer).Legal state.loop
  | .starts _ _ => True
  | .exits process => process ∈ state.table

instance (computer : Computer) (state : Supervised) :
    (event : SupervisedEvent) → Decidable (state.Enabled computer event)
  | .wait moment => inferInstanceAs (Decidable ((LoopEvent.wait moment).Legal state.loop))
  | .scan _ _ => inferInstanceAs (Decidable (_ = _))
  | .kill _ _ _ => inferInstanceAs (Decidable (_ ∧ _))
  | .launch _ _ _ => inferInstanceAs (Decidable (_ ∧ _))
  | .starts _ _ => .isTrue trivial
  | .exits _ => inferInstanceAs (Decidable (_ ∈ _))

/-! ### The event loop of a supervised computer -/

/-- What an event is on the event loop. -/
def loopEvents (computer : Computer) (state : Supervised) : SupervisedEvent → List LoopEvent
  | .wait moment => [.wait moment]
  | .scan calls reads =>
      (state.scanned computer calls).emitted.map fun isRunning => .report isRunning reads
  | .kill timer _ _ => [.call timer]
  | .launch timer _ _ => [.call timer]
  | .starts _ _ => []
  | .exits _ => []

variable {computer : Computer} {state : Supervised} {event : SupervisedEvent}

/-- The loop of a supervised computer takes the steps of the event loop. -/
theorem loop_step (computer : Computer) (state : Supervised) (event : SupervisedEvent) :
    (state.step computer event).loop =
      run (loopStep computer.platform) state.loop (state.loopEvents computer event) := by
  cases event with
  | scan calls reads => simp only [step, loopEvents, run, List.foldl_map]
  | wait moment => rfl
  | kill timer history ends => rfl
  | launch timer history pid => rfl
  | starts pid executable => rfl
  | exits process => rfl

/-- Those steps are legal. -/
theorem legal_loopEvents (enabled : state.Enabled computer event) :
    Always (loopStep computer.platform) (fun loop event => event.Legal loop) state.loop
      (state.loopEvents computer event) := by
  cases event with
  | wait moment => exact ⟨enabled, trivial⟩
  | scan calls reads =>
      generalize state.loop = loop
      simp only [loopEvents]
      induction (state.scanned computer calls).emitted generalizing loop with
      | nil => trivial
      | cons isRunning emitted ih => exact ⟨trivial, ih _⟩
  | kill timer history ends => exact ⟨enabled.2, trivial⟩
  | launch timer history pid => exact ⟨enabled.2, trivial⟩
  | starts pid executable => trivial
  | exits process => trivial

/-! ### Complete scans -/

/-- A process of the product is running. -/
def Present (computer : Computer) (product : Product) (state : Supervised) : Prop :=
  ∃ process ∈ state.table, process.executable = product.executable computer.platform

instance (computer : Computer) (product : Product) (state : Supervised) :
    Decidable (state.Present computer product) :=
  inferInstanceAs (Decidable (∃ process ∈ state.table, _))

/-- The configured name never changes. -/
theorem appName_step (computer : Computer) (state : Supervised) (event : SupervisedEvent) :
    (state.step computer event).thread.appName = state.thread.appName := by
  cases event with
  | scan calls reads =>
      simp only [step, scanned]
      cases calls with
      | windows calls =>
          simp only [ScanCalls.on, process, processWindows_eq]
          split <;> rfl
      | macOS calls =>
          have frame := (processMac_eq computer.folding 0 calls
            (state.table.map OsProcess.executable) state.thread).1
          simp only [ScanCalls.on, process, frame]
  | wait moment => rfl
  | kill timer history ends => rfl
  | launch timer history pid => rfl
  | starts pid executable => rfl
  | exits process => rfl

/-- A complete scan is handled as one report of whether the product is running. -/
theorem loop_scan {product : Product}
    (named : productOf computer.folding state.thread.appName = some product) {calls : ScanCalls}
    (onPlatform : calls.platform = computer.platform)
    (complete : (calls.on state.table).Complete) (reads : ReportReads) :
    (state.step computer (.scan calls reads)).loop =
      loopStep computer.platform state.loop
        (.report (decide (state.Present computer product)) reads) := by
  have found : AppInTable computer.folding state.thread.appName (calls.on state.table) ↔
      state.Present computer product := by
    rw [AppInTable, ScanCalls.platform_on, ScanCalls.names_on, onPlatform,
      appAmong_of_some computer.folding named, List.mem_map]
    rfl
  simp only [step, scanned, process_emitted_of_complete computer.folding complete, found,
    List.foldl_cons, List.foldl_nil]

end Supervised

end WatchDog
