import WatchDogProcess.Watchdog.Monitored

/-! # The camera check on the status file

`CameraGrabberThread` is a near copy of `ProcessRecordingThread`. It reads
`camera_process_state`, and when the flag is true it rewrites the file as the
recording check does, setting `recording_process_state` to false; otherwise it
does nothing. Its local flag is not initialised, so that without a file its value
is whatever the variable holds.
-/

namespace WatchDog

open KeyedRecord

/-- The first read of the status file by the camera check. -/
def cameraProcessState (uninitialised : Bool) : ReadOutcome → Bool
  | .missing => uninitialised
  | .unopened => readBool "camera_process_state" .unopened
  | .text content => readBool "camera_process_state" (.text content)

def cameraGrabberThread (uninitialised : Bool) (reads : CheckReads)
    (watchdog : ProctoringWatchDog) : Handled :=
  let watchdog :=
    { watchdog with threadStatusPath := getThreadHistoryPath reads.threadHistoryPath }
  if cameraProcessState uninitialised (reads.statusFlag watchdog.threadStatusPath) then
    recordingAlive reads watchdog
  else Handled.pure watchdog

/-! ### Both checks on one disk -/

/-- The reads of a check whose operations on the status file are answered by the disk. -/
def statusReads (history : ReadOutcome) (disk : String → FileState) : CheckReads where
  threadHistoryPath := history
  statusFlag := fun path => (disk path).read
  statusObject := fun path => (disk path).read
  statusRewritten := fun _ => true
  appCurrentStepAgain := history

def recordingCheck (platform : Platform) (now : Nat) (history : ReadOutcome)
    (monitored : Monitored) : Monitored :=
  let handled :=
    processRecordingThread platform now (statusReads history monitored.disk) monitored.watchdog
  ⟨handled.watchdog, handled.effects.foldl applyEffect monitored.disk⟩

def cameraCheck (uninitialised : Bool) (history : ReadOutcome) (monitored : Monitored) :
    Monitored :=
  let handled :=
    cameraGrabberThread uninitialised (statusReads history monitored.disk) monitored.watchdog
  ⟨handled.watchdog, handled.effects.foldl applyEffect monitored.disk⟩

/-- The verdict of the recording check on a file. -/
def recordingHealthy (file : FileState) : Bool := recordingProcessState file.read

/-- The verdict of the camera check on a file. -/
def cameraHealthy (uninitialised : Bool) (file : FileState) : Bool :=
  cameraProcessState uninitialised file.read

/-- What a check leaves of a file it has found healthy. -/
def FileState.consumed (file : FileState) : FileState := .text (some (consumeHeartbeat file.read))

/-- What the recording check leaves of a file. -/
def FileState.afterRecording (file : FileState) : FileState :=
  if recordingHealthy file then file.consumed else file

/-- What the camera check leaves of a file. -/
def FileState.afterCamera (uninitialised : Bool) (file : FileState) : FileState :=
  if cameraHealthy uninitialised file then file.consumed else file

variable (platform : Platform) (now : Nat) (uninitialised : Bool) (history : ReadOutcome)
  (monitored : Monitored)

/-- The recording check changes the status file only. -/
theorem recordingCheck_disk :
    (recordingCheck platform now history monitored).disk =
      let path := getThreadHistoryPath history
      Function.update monitored.disk path (monitored.disk path).afterRecording := by
  have checked := processRecordingThread_disk platform now
    (fun _ => rfl : ∀ path, (statusReads history monitored.disk).statusRewritten path = true)
    monitored.watchdog monitored.disk
  refine checked.trans ?_
  unfold FileState.afterRecording
  by_cases healthy : recordingHealthy (monitored.disk (getThreadHistoryPath history))
  · have alive := healthy
    unfold recordingHealthy at alive
    simp only [statusReads, CheckReads.flag, alive, ↓reduceIte, healthy]
    rfl
  · have broken := healthy
    unfold recordingHealthy at broken
    simp only [statusReads, CheckReads.flag, broken, Bool.false_eq_true, ↓reduceIte, healthy,
      Function.update_eq_self]

/-- The camera check changes the status file only. -/
theorem cameraCheck_disk :
    (cameraCheck uninitialised history monitored).disk =
      let path := getThreadHistoryPath history
      Function.update monitored.disk path ((monitored.disk path).afterCamera uninitialised) := by
  unfold cameraCheck cameraGrabberThread FileState.afterCamera
  by_cases healthy : cameraHealthy uninitialised (monitored.disk (getThreadHistoryPath history))
  · have alive := healthy
    unfold cameraHealthy at alive
    simp only [statusReads, alive, ↓reduceIte, recordingAlive, healthy]
    rfl
  · have broken := healthy
    unfold cameraHealthy at broken
    simp only [statusReads, broken, ↓reduceIte, healthy, Bool.false_eq_true, Handled.pure_effects,
      List.foldl_nil, Function.update_eq_self]

end WatchDog
