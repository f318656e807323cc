import WatchDogProcess.Watchdog.Report

/-! # The watchdog and the status file it shares with the application

Here the status file is part of the state. The application sets keys of the
file, each heartbeat check reads and rewrites it, every file operation succeeds,
and a check is atomic with respect to the application's writes. The reads of the
history file are still given with each report.
-/

namespace WatchDog

open KeyedRecord EventRun

/-- The watchdog together with what stands at each path of a status file. -/
structure Monitored where
  watchdog : ProctoringWatchDog
  disk : String → FileState

/-- The application sets keys of a status file, or the scan reports. -/
inductive MonitorEvent where
  | appWrites (path : String) (keys : QJsonObject)
  | report (report : Report)

/-- The report with its operations on the status file answered by the disk. -/
def Report.on (report : Report) (disk : String → FileState) : Report :=
  { report with
    reads :=
      { report.reads with
        statusFlag := fun path => (disk path).read
        statusObject := fun path => (disk path).read
        statusRewritten := fun _ => true } }

/-- A rewrite replaces the file at its path. -/
def applyEffect (disk : String → FileState) : Effect → String → FileState
  | .rewriteStatus path object => Function.update disk path (.text (some object))
  | _ => disk

def monitorStep (platform : Platform) (monitored : Monitored) : MonitorEvent → Monitored
  | .appWrites path keys =>
      { monitored with
        disk := Function.update monitored.disk path ((monitored.disk path).update keys) }
  | .report report =>
      let handled := onAppCrash platform (report.on monitored.disk) monitored.watchdog
      ⟨handled.watchdog, handled.effects.foldl applyEffect monitored.disk⟩

/-- The start of a monitored run: the constructed watchdog and some disk. -/
def Monitored.start (began : Nat) (initial : ConstructorReads) (disk : String → FileState) :
    Monitored :=
  ⟨ProctoringWatchDog.construct began initial, disk⟩

/-- The number of reports among some events. -/
def reportCount (events : List MonitorEvent) : Nat :=
  events.countP fun event => match event with
    | .appWrites _ _ => false
    | .report _ => true

@[simp] theorem reportCount_nil : reportCount [] = 0 := rfl

@[simp] theorem reportCount_appWrites (path : String) (keys : QJsonObject)
    (events : List MonitorEvent) :
    reportCount (.appWrites path keys :: events) = reportCount events :=
  List.countP_cons_of_neg (by simp)

@[simp] theorem reportCount_report (report : Report) (events : List MonitorEvent) :
    reportCount (.report report :: events) = reportCount events + 1 :=
  List.countP_cons_of_pos (by simp)

@[simp] theorem reportCount_append (first second : List MonitorEvent) :
    reportCount (first ++ second) = reportCount first + reportCount second :=
  List.countP_append

/-! ### The counter and the position in the run -/

/-- The report counter is the number of reports so far modulo seven. -/
theorem run_counter (platform : Platform) {start : Monitored} (below : start.watchdog.counter < 7)
    (events : List MonitorEvent) :
    (run (monitorStep platform) start events).watchdog.counter =
      (start.watchdog.counter + reportCount events) % 7 := by
  induction events generalizing start with
  | nil => exact (Nat.mod_eq_of_lt below).symm
  | cons event events ih =>
      cases event with
      | appWrites path keys =>
          rw [run_cons, reportCount_appWrites]
          have stillBelow :
              (monitorStep platform start (.appWrites path keys)).watchdog.counter < 7 := below
          exact ih stillBelow
      | report report =>
          have counted : (monitorStep platform start (.report report)).watchdog.counter =
              (start.watchdog.counter + 1) % 7 := by
            change (reportStep platform start.watchdog (report.on start.disk)).counter = _
            rw [reportStep_counter]
            by_cases checks : ChecksNow start.watchdog
            · simp only [checks, ↓reduceIte]
              simp only [ChecksNow] at checks
              omega
            · simp only [checks, ↓reduceIte]
              simp only [ChecksNow] at checks
              omega
          rw [run_cons, ih (by rw [counted]; omega), counted, reportCount_report]
          omega

/-! ### The flag on disk -/

/-- The flag that a check would read at a path. -/
def beating (disk : String → FileState) (path : String) : Bool :=
  recordingProcessState (disk path).read

/-- Keys that leave the flag alone leave it as it was. -/
theorem recordingProcessState_update_of_absent (file : FileState) {keys : QJsonObject}
    (absent : keys "recording_process_state" = none) :
    recordingProcessState (file.update keys).read = recordingProcessState file.read := by
  cases file with
  | missing =>
      simp only [FileState.update, FileState.read, recordingProcessState, readBool, fromJson,
        Option.getD_some, boolValue, overlay_apply_of_absent absent, empty]
  | text content =>
      simp only [FileState.update, FileState.read, recordingProcessState, readBool, fromJson,
        Option.getD_some, boolValue, overlay_apply_of_absent absent]

/-- Keys that set the flag decide it. -/
theorem recordingProcessState_update_of_present (file : FileState) {keys : QJsonObject}
    {value : QJsonValue} (present : keys "recording_process_state" = some value) :
    recordingProcessState (file.update keys).read = boolValue keys "recording_process_state" := by
  cases file <;>
    simp only [FileState.update, FileState.read, recordingProcessState, readBool, fromJson,
      Option.getD_some, boolValue, overlay_apply_of_present present, present]

/-- A rewrite by a check leaves the flag false. -/
theorem recordingProcessState_consumeHeartbeat (read : ReadOutcome) :
    recordingProcessState (.text (some (consumeHeartbeat read))) = false := by
  simp only [recordingProcessState, readBool_text, boolValue, consumeHeartbeat, set_apply_self]

/-- The flag that the check of a report reads is the one on disk. -/
theorem Report.on_flag (report : Report) (disk : String → FileState) :
    (report.on disk).reads.flag =
      beating disk (getThreadHistoryPath report.reads.threadHistoryPath) := rfl

/-! ### What a report does to the disk -/

theorem foldl_applyEffect_of_not {handled : Handled}
    (quiet : handled.does Effect.isRewrite = false) (disk : String → FileState) :
    handled.effects.foldl applyEffect disk = disk := by
  have each : ∀ effect ∈ handled.effects, effect.isRewrite = false := by
    simpa [Handled.does] using quiet
  revert each
  generalize handled.effects = effects
  induction effects with
  | nil => intro _; rfl
  | cons effect effects ih =>
      intro each
      have unchanged : applyEffect disk effect = disk := by
        have quiet := each effect List.mem_cons_self
        cases effect <;> first | rfl | exact absurd quiet (by simp [Effect.isRewrite])
      rw [List.foldl_cons, unchanged]
      exact ih fun other member => each other (List.mem_cons_of_mem _ member)

/-- A check rewrites the status file exactly when it finds the flag true. -/
theorem processRecordingThread_disk (platform : Platform) (now : Nat) {reads : CheckReads}
    (rewritten : ∀ path, reads.statusRewritten path = true) (watchdog : ProctoringWatchDog)
    (disk : String → FileState) :
    (processRecordingThread platform now reads watchdog).effects.foldl applyEffect disk =
      let path := getThreadHistoryPath reads.threadHistoryPath
      if reads.flag = true then
        Function.update disk path (.text (some (consumeHeartbeat (reads.statusObject path))))
      else disk := by
  cases alive : reads.flag with
  | true =>
      rw [processRecordingThread_alive _ _ _ alive]
      simp only [rewritten, ↓reduceIte]
      rfl
  | false =>
      rw [foldl_applyEffect_of_not]
      · simp only [Bool.false_eq_true, ↓reduceIte]
      · rw [processRecordingThread_broken _ _ _ alive, Handled.andThen_does]
        split
        · rw [restartProctortrack_does_of_not _ _ _ rfl fun _ _ => rfl]
          rfl
        · rfl

/-- A report rewrites the status file exactly when it checks and finds the flag true. -/
theorem monitorStep_report_disk (platform : Platform) (monitored : Monitored) (report : Report) :
    (monitorStep platform monitored (.report report)).disk =
      let path := getThreadHistoryPath report.reads.threadHistoryPath
      if ChecksNow monitored.watchdog ∧ beating monitored.disk path = true then
        Function.update monitored.disk path
          (.text (some (consumeHeartbeat (monitored.disk path).read)))
      else monitored.disk := by
  have rest : ∀ watchdog, Handled.does (if (report.on monitored.disk).isRunning then
      appFound watchdog else appMissing platform (report.on monitored.disk) watchdog)
        Effect.isRewrite = false := by
    intro watchdog
    split
    · rfl
    · exact appMissing_does_of_not _ _ _ rfl (fun _ => rfl) (fun _ => rfl) rfl fun _ _ => rfl
  simp only [monitorStep, onAppCrash, Handled.andThen_effects, List.foldl_append]
  rw [foldl_applyEffect_of_not (rest _)]
  by_cases checks : ChecksNow monitored.watchdog
  · rw [countReport_of_checks _ _ _ checks, processRecordingThread_disk _ _ fun _ => rfl,
      report.on_flag]
    simp only [checks, true_and]
    rfl
  · rw [countReport_of_not_checks _ _ _ checks]
    simp only [checks, false_and, ↓reduceIte, Handled.pure_effects, List.foldl_nil]

end WatchDog
