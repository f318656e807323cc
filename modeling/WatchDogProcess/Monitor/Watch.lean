import WatchDogProcess.Foundation.EventRun
import WatchDogProcess.Monitor.WindowKiller

/-! # A watch over the configured application

`CheckRunningApplication` creates the thread object and copies the configured
name and two flags into it. From then on the thread scans the process table and
kills windows on its timers, while the history file may change at any time
(`WatchDog.watchStep`). The first scan is a dummy call, made before the timers
start.

No step changes the copies, and the latch `isFristTimeLaunch` is ended by the
first scan that sees the product (`WatchDog.watch_thread`).
-/

namespace WatchDog

open EventRun

/-- The reads of the history file made by `CheckRunningApplication`. -/
structure ThreadReads where
  appName : ReadOutcome
  launchInAllConditions : ReadOutcome
  isCloseBLAppUsingWd : ReadOutcome
  sceenCoverRequired : ReadOutcome

def checkRunningApplication (reads : ThreadReads) (watchdog : ProctoringWatchDog) :
    ProctoringWatchDog × ProctortrackThread :=
  ({ watchdog with
      waitingSceen :=
        { WaitingScreen.construct with
          isSceenCoverReq := getisSceenCoverReq reads.sceenCoverRequired } },
    { ProctortrackThread.construct with
      appName := getApplicationName reads.appName
      isAnyStepWatchdog := getisAnyStepWatchdog reads.launchInAllConditions
      isCloseBLAppUsingWd := getIsCloseBLAppUsingWd reads.isCloseBLAppUsingWd })

/-- The thread object, the white list that all threads share, and the history file. -/
structure Watch where
  history : FileState
  whiteListedTabList : List String
  thread : ProctortrackThread

/-- The history file changes, the table is scanned, or a kill tick comes. -/
inductive WatchEvent where
  | historyChanges (file : FileState)
  | scan (dummyCall : Int) (input : ScanInput)
  | killTick (desktops : List Desktop)

/-- The watch that a constructed watchdog starts. -/
def Watch.start (history : FileState) (now : Nat) (constructed : ConstructorReads)
    (reads : ThreadReads) : Watch :=
  let watchdog := ProctoringWatchDog.construct now constructed
  ⟨history, watchdog.whiteListedTabs, (checkRunningApplication reads watchdog).2⟩

def watchStep (folding : CaseFolding) (watch : Watch) : WatchEvent → Watch
  | .historyChanges file => { watch with history := file }
  | .scan dummyCall input =>
      { watch with thread := (process folding dummyCall input watch.thread).thread }
  | .killTick _ => watch

/-- The calls of a kill tick at some point of the watch. -/
def Watch.killTick (platform : Platform) (folding : CaseFolding) (watch : Watch)
    (desktops : List Desktop) : List OsCall :=
  killOtherApplications platform folding watch.whiteListedTabList desktops watch.thread

/-! ### What a scan leaves -/

/-- The scan enumerates an entry with the executable of the product that the name
stands for. -/
def Sees (folding : CaseFolding) (appName : String) : WatchEvent → Prop
  | .scan _ (.windows calls table) => ∃ product entry, productOf folding appName = some product ∧
      entry ∈ enumerated calls table ∧ entry.szExeFile = product.executable .windows
  | _ => False

variable (folding : CaseFolding)

theorem any_isTargetWindows_iff_sees (appName : String) (dummyCall : Int) (calls : ToolhelpCalls)
    (table : List ProcessEntry) :
    (enumerated calls table).any (isTargetWindows folding appName) = true ↔
      Sees folding appName (.scan dummyCall (.windows calls table)) := by
  rw [any_isTargetWindows_eq, decide_eq_true_iff]
  cases named : productOf folding appName with
  | none => simp [not_appAmong_of_none folding named, Sees, named]
  | some product => simp [appAmong_of_some folding named, Sees, named]

/-- A step changes nothing of the thread but the latch, and that only at a scan
that sees the product. -/
theorem watchStep_thread (watch : Watch) (event : WatchEvent) :
    (Sees folding watch.thread.appName event ∧
      (watchStep folding watch event).thread = { watch.thread with isFristTimeLaunch := false }) ∨
    (¬ Sees folding watch.thread.appName event ∧
      (watchStep folding watch event).thread = watch.thread) := by
  cases event with
  | historyChanges file => exact Or.inr ⟨id, rfl⟩
  | killTick desktops => exact Or.inr ⟨id, rfl⟩
  | scan dummyCall input =>
      cases input with
      | windows calls table =>
          rw [← any_isTargetWindows_iff_sees]
          simp only [watchStep, process, processWindows_eq]
          cases found : (enumerated calls table).any
              (isTargetWindows folding watch.thread.appName) with
          | true => exact Or.inl ⟨rfl, rfl⟩
          | false => exact Or.inr ⟨Bool.false_ne_true, rfl⟩
      | macOS calls table =>
          exact Or.inr ⟨id, (processMac_eq folding dummyCall calls table watch.thread).1⟩

/-- After any run the copies are those made at the start, and the latch stands
exactly if it stood and no scan has seen the product. -/
theorem watch_thread (watch : Watch) (events : List WatchEvent) :
    let thread := (run (watchStep folding) watch events).thread
    thread.appName = watch.thread.appName ∧
      thread.isAnyStepWatchdog = watch.thread.isAnyStepWatchdog ∧
      thread.isCloseBLAppUsingWd = watch.thread.isCloseBLAppUsingWd ∧
      (thread.isFristTimeLaunch = true ↔ watch.thread.isFristTimeLaunch = true ∧
        ∀ event ∈ events, ¬ Sees folding watch.thread.appName event) := by
  induction events generalizing watch with
  | nil => simp
  | cons event events ih =>
      obtain ⟨appName, anyStep, close, latch⟩ := ih (watchStep folding watch event)
      rw [run_cons]
      rcases watchStep_thread folding watch event with ⟨sees, step⟩ | ⟨blind, step⟩
      · simp only [step] at appName anyStep close latch
        refine ⟨appName, anyStep, close, ?_⟩
        simp only [latch, Bool.false_eq_true, false_and, List.forall_mem_cons, sees,
          not_true_eq_false, and_false]
      · simp only [step] at appName anyStep close latch
        refine ⟨appName, anyStep, close, ?_⟩
        simp only [latch, List.forall_mem_cons, blind, not_false_eq_true, true_and]

/-- No step changes the white list. -/
theorem watch_whiteListedTabList (watch : Watch) (events : List WatchEvent) :
    (run (watchStep folding) watch events).whiteListedTabList = watch.whiteListedTabList := by
  induction events generalizing watch with
  | nil => rfl
  | cons event events ih =>
      rw [run_cons, ih]
      cases event <;> rfl

end WatchDog
