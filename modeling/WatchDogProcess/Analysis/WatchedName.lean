import WatchDogProcess.Monitor.Watch

/-! # Which application is watched

The thread object holds a copy of the configured name, made once by
`CheckRunningApplication`. A complete scan answers for the product that the copy
stands for, whatever the history file says at that moment
(`WatchDog.scans_report_captured_name`). Started before the application has
written its name, the watchdog reports it missing for ever
(`WatchDog.late_name_reported_missing`).
-/

namespace WatchDog

open EventRun

/-- The name in the history file at some point of a watch. -/
def Watch.currentName (watch : Watch) : String := getApplicationName watch.history.read

/-- A complete scan that is not a dummy reports whether the application of this
name is in the table. -/
def ScanReports (folding : CaseFolding) (name : String) (watch : Watch) : WatchEvent → Prop
  | .scan dummyCall input => dummyCall = 0 → input.Complete →
      (process folding dummyCall input watch.thread).emitted =
        [decide (AppInTable folding name input)]
  | _ => True

/-- Whether the application is in a table depends on its name only through the
product that the name stands for. -/
theorem appInTable_congr {folding : CaseFolding} {first second : String}
    (same : productOf folding first = productOf folding second) (input : ScanInput) :
    AppInTable folding first input ↔ AppInTable folding second input := by
  unfold AppInTable AppAmong
  rw [same]

/-- A scan answers for every name that stands for the product of the copy. -/
theorem scanReports_of_same {folding : CaseFolding} {name : String} {watch : Watch}
    (same : productOf folding name = productOf folding watch.thread.appName) (event : WatchEvent) :
    ScanReports folding name watch event := by
  cases event with
  | historyChanges file => trivial
  | killTick desktops => trivial
  | scan dummyCall input =>
      rintro rfl complete
      rw [process_emitted_of_complete folding complete]
      simp only [appInTable_congr same input]

/-- **A watch answers for the name read at its start.** In every run that starts
with `CheckRunningApplication`, whatever becomes of the history file, each complete
scan that is not a dummy reports exactly whether the application of the name read
at the start is in the table. So it is right about the name in the file whenever
the two names stand for the same product, or for none. -/
theorem scans_report_captured_name (folding : CaseFolding) (history : FileState) (now : Nat)
    (constructed : ConstructorReads) (reads : ThreadReads) (events : List WatchEvent) :
    Always (watchStep folding) (ScanReports folding (getApplicationName reads.appName))
      (Watch.start history now constructed reads) events ∧
    Always (watchStep folding) (fun watch event =>
        productOf folding watch.currentName = productOf folding (getApplicationName reads.appName) →
          ScanReports folding watch.currentName watch event)
      (Watch.start history now constructed reads) events := by
  have copied : ∀ before : List WatchEvent, (run (watchStep folding)
      (Watch.start history now constructed reads) before).thread.appName =
        getApplicationName reads.appName :=
    fun before => (watch_thread folding _ before).1
  simp only [always_iff_split]
  constructor
  · intro before event after _
    exact scanReports_of_same (by rw [copied]) event
  · intro before event after _ same
    exact scanReports_of_same (by rw [copied]; exact same) event

/-! ### A name written late -/

/-- The history file once the application has written its name. -/
def remoteDeskHistory : FileState :=
  .text (some (KeyedRecord.set KeyedRecord.empty "app_name" (.string "RemoteDesk")))

/-- The dummy scan, the application's start, and the first report. -/
def lateName : List WatchEvent :=
  [.scan 1 (.windows ⟨true, true, fun _ => true⟩ [⟨"System", 4⟩]),
    .historyChanges remoteDeskHistory,
    .scan 0 (.windows ⟨true, true, fun _ => true⟩ [⟨"System", 4⟩, ⟨"RemoteDesk.exe", 1000⟩])]

/-- With names of one product in the file and in the copy a running application is
reported running. -/
theorem scans_report_captured_name_remoteDesk :
    (process .ascii 0 (.windows ⟨true, true, fun _ => true⟩
      [⟨"System", 4⟩, ⟨"RemoteDesk.exe", 1000⟩])
        (Watch.start remoteDeskHistory 0 ⟨.missing, .missing, .missing⟩
          ⟨remoteDeskHistory.read, .missing, .missing, .missing⟩).thread).emitted =
      [decide (AppInTable .ascii "RemoteDesk" (.windows ⟨true, true, fun _ => true⟩
        [⟨"System", 4⟩, ⟨"RemoteDesk.exe", 1000⟩]))] :=
  (scans_report_captured_name .ascii remoteDeskHistory 0 ⟨.missing, .missing, .missing⟩
    ⟨remoteDeskHistory.read, .missing, .missing, .missing⟩
    [.scan 0 (.windows ⟨true, true, fun _ => true⟩
      [⟨"System", 4⟩, ⟨"RemoteDesk.exe", 1000⟩])]).2.1 rfl rfl
    ⟨rfl, rfl, List.cons_ne_nil _ _, fun _ _ => rfl⟩

/-- An application that writes its name after the watch began is reported missing
though it runs. -/
theorem late_name_reported_missing :
    ¬ ∀ (folding : CaseFolding) (history : FileState) (now : Nat) (constructed : ConstructorReads)
      (reads : ThreadReads) (events : List WatchEvent), reads.appName = history.read →
        Always (watchStep folding) (fun watch event =>
            ScanReports folding watch.currentName watch event)
          (Watch.start history now constructed reads) events := by
  intro follows
  have reported := (follows .ascii .missing 0 ⟨.missing, .missing, .missing⟩
    ⟨.missing, .missing, .missing, .missing⟩ lateName rfl).2.2.1 rfl
    ⟨rfl, rfl, List.cons_ne_nil _ _, fun _ _ => rfl⟩
  exact absurd reported (by decide)

end WatchDog
