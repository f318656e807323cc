import WatchDogProcess.Watchdog.CameraCheck

/-! # The two checks on one status file

The camera check is a copy of the recording check that still rewrites the key of
the recording check. So a camera check that finds its flag true takes the
recording check's heartbeat, and the two are independent exactly when the camera
flag is not true or `recording_process_state` is false already. Without a status
file the recording check finds the recording broken, and what the camera check
finds is up to an uninitialised variable (`WatchDog.checks_independent_iff`).
-/

namespace WatchDog

open KeyedRecord

section Checks

variable (platform : Platform) (now : Nat) (uninitialised : Bool) (history : ReadOutcome)
  (monitored : Monitored)

/-- Each check changes no key but its own flag, both orders leave the same file, and
neither check changes the other's verdict. -/
structure LeaveEachOther : Prop where
  cameraFrame : ∀ key, key ≠ "camera_process_state" →
    ((cameraCheck uninitialised history monitored).disk
        (getThreadHistoryPath history)).read.object key =
      (monitored.disk (getThreadHistoryPath history)).read.object key
  recordingFrame : ∀ key, key ≠ "recording_process_state" →
    ((recordingCheck platform now history monitored).disk
        (getThreadHistoryPath history)).read.object key =
      (monitored.disk (getThreadHistoryPath history)).read.object key
  sameFile : (recordingCheck platform now history
      (cameraCheck uninitialised history monitored)).disk =
    (cameraCheck uninitialised history (recordingCheck platform now history monitored)).disk
  recordingVerdict : recordingHealthy ((cameraCheck uninitialised history monitored).disk
      (getThreadHistoryPath history)) =
    recordingHealthy (monitored.disk (getThreadHistoryPath history))
  cameraVerdict : cameraHealthy uninitialised ((recordingCheck platform now history monitored).disk
      (getThreadHistoryPath history)) =
    cameraHealthy uninitialised (monitored.disk (getThreadHistoryPath history))

/-- The checks leave each other alone on a status file, and both find their part not
alive without one. -/
def ChecksIndependent : Prop :=
  match monitored.disk (getThreadHistoryPath history) with
  | .missing => recordingHealthy .missing = false ∧ cameraHealthy uninitialised .missing = false
  | .text _ => LeaveEachOther platform now uninitialised history monitored

/-- The camera flag is not true or the recording flag is false already; without a
file, the uninitialised variable happens to be false. -/
def KeysApart : Prop :=
  match monitored.disk (getThreadHistoryPath history) with
  | .missing => uninitialised = false
  | .text content => boolValue (fromJson content) "camera_process_state" = false ∨
      fromJson content "recording_process_state" = some (.bool false)

end Checks

/-! ### One file -/

section File

variable (uninitialised : Bool) (content : Option QJsonObject)

/-- The object of a consumed file has the recording flag set to false. -/
theorem consumed_object :
    (FileState.consumed (.text content)).read.object =
      set (fromJson content) "recording_process_state" (.bool false) := rfl

/-- A consumed file is broken for the recording check. -/
theorem recordingHealthy_consumed (file : FileState) : recordingHealthy file.consumed = false :=
  recordingProcessState_consumeHeartbeat file.read

/-- Consuming a file leaves the verdict of the camera check. -/
theorem cameraHealthy_consumed :
    cameraHealthy uninitialised (FileState.consumed (.text content)) =
      cameraHealthy uninitialised (.text content) := by
  change boolValue (set (fromJson content) "recording_process_state" (.bool false))
    "camera_process_state" = boolValue (fromJson content) "camera_process_state"
  unfold boolValue
  rw [set_apply_of_ne _ _ (by decide)]

/-- Consuming a file twice is consuming it once. -/
theorem consumed_consumed :
    (FileState.consumed (.text content)).consumed = FileState.consumed (.text content) := by
  have once : consumeHeartbeat (.text (some (consumeHeartbeat (.text content)))) =
      consumeHeartbeat (.text content) := set_set ..
  exact congrArg (FileState.text ∘ some) once

/-- Both orders of the checks leave the same file. -/
theorem afterRecording_afterCamera :
    ((FileState.text content).afterCamera uninitialised).afterRecording =
      ((FileState.text content).afterRecording).afterCamera uninitialised := by
  unfold FileState.afterCamera FileState.afterRecording
  cases camera : cameraHealthy uninitialised (.text content) <;>
    cases recording : recordingHealthy (.text content) <;>
      simp [camera, recording, recordingHealthy_consumed, cameraHealthy_consumed,
        consumed_consumed]

/-- The camera check changes another key than its own exactly when it consumes the
file and the recording flag was not false already. -/
theorem afterCamera_frame_iff :
    (∀ key, key ≠ "camera_process_state" →
        ((FileState.text content).afterCamera uninitialised).read.object key =
          fromJson content key) ↔
      cameraHealthy uninitialised (.text content) = false ∨
        fromJson content "recording_process_state" = some (.bool false) := by
  unfold FileState.afterCamera
  cases camera : cameraHealthy uninitialised (.text content) with
  | false => exact iff_of_true (fun _ _ => rfl) (Or.inl rfl)
  | true =>
      simp only [↓reduceIte, consumed_object, Bool.true_eq_false, false_or]
      constructor
      · intro frame
        have kept := frame "recording_process_state" (by decide)
        rw [← kept, set_apply_self]
      · intro already key _
        by_cases same : key = "recording_process_state"
        · rw [same, set_apply_self, already]
        · exact set_apply_of_ne _ _ same

/-- The recording check changes no key but its own. -/
theorem afterRecording_frame (key : String) (other : key ≠ "recording_process_state") :
    ((FileState.text content).afterRecording).read.object key = fromJson content key := by
  unfold FileState.afterRecording
  split
  · rw [consumed_object, set_apply_of_ne _ _ other]
  · rfl

/-- The camera check leaves the recording verdict when the keys are apart. -/
theorem recordingHealthy_afterCamera
    (apart : cameraHealthy uninitialised (.text content) = false ∨
      fromJson content "recording_process_state" = some (.bool false)) :
    recordingHealthy ((FileState.text content).afterCamera uninitialised) =
      recordingHealthy (.text content) := by
  unfold FileState.afterCamera
  rcases apart with broken | already
  · simp only [broken, Bool.false_eq_true, ↓reduceIte]
  · have off : recordingHealthy (.text content) = false := by
      change boolValue (fromJson content) "recording_process_state" = false
      unfold boolValue
      rw [already]
    split
    · rw [recordingHealthy_consumed, off]
    · rfl

theorem cameraHealthy_afterRecording :
    cameraHealthy uninitialised (FileState.text content).afterRecording =
      cameraHealthy uninitialised (.text content) := by
  unfold FileState.afterRecording
  split
  · exact cameraHealthy_consumed uninitialised content
  · rfl

end File

/-- **When the checks are independent.** For every status file: each check changes
no key but its own, both orders leave the same file and neither changes the
other's verdict, and without a file both find their part not alive, if and only
if the camera flag is not true or the recording flag is false already, and
without a file the uninitialised variable happens to be false. -/
theorem checks_independent_iff (platform : Platform) (now : Nat) (uninitialised : Bool)
    (history : ReadOutcome) (monitored : Monitored) :
    ChecksIndependent platform now uninitialised history monitored ↔
      KeysApart uninitialised history monitored := by
  unfold ChecksIndependent KeysApart
  have camera := cameraCheck_disk uninitialised history monitored
  have recording := recordingCheck_disk platform now history monitored
  cases file : monitored.disk (getThreadHistoryPath history) with
  | missing => exact and_iff_right rfl
  | text content =>
      simp only [file] at camera recording
      have frame := afterCamera_frame_iff uninitialised content
      constructor
      · intro independent
        have kept := independent.cameraFrame
        simp only [camera, Function.update_self, file] at kept
        exact frame.mp kept
      · intro apart
        constructor
        · intro key other
          rw [camera, file, Function.update_self]
          exact frame.mpr apart key other
        · intro key other
          rw [recording, file, Function.update_self]
          exact afterRecording_frame content key other
        · simp only [recordingCheck_disk, cameraCheck_disk, Function.update_self,
            Function.update_idem, file, afterRecording_afterCamera]
        · rw [camera, file, Function.update_self]
          exact recordingHealthy_afterCamera uninitialised content apart
        · rw [recording, file, Function.update_self]
          exact cameraHealthy_afterRecording uninitialised content

/-- A status file with both flags true. -/
def bothFlags : QJsonObject :=
  set (set empty "camera_process_state" (.bool true)) "recording_process_state" (.bool true)

/-- A history file that names the status file. -/
def statusHistory : ReadOutcome :=
  .text (some (set empty "thread_history_path" (.string "thread_status.json")))

/-- A constructed watchdog on a disk with that status file and no other. -/
def bothHealthy : Monitored :=
  .start 0 ⟨.missing, .missing, .missing⟩
    (Function.update (fun _ => .missing) "thread_status.json" (.text (some bothFlags)))

/-- The camera check on a file with both flags true consumes the recording
heartbeat. -/
theorem camera_consumes_heartbeat :
    ¬ ∀ (platform : Platform) (now : Nat) (uninitialised : Bool) (history : ReadOutcome)
      (monitored : Monitored),
      ChecksIndependent platform now uninitialised history monitored := by
  intro independent
  have leave : LeaveEachOther .windows 0 false statusHistory bothHealthy :=
    independent .windows 0 false statusHistory bothHealthy
  exact absurd leave.recordingVerdict (by decide)

end WatchDog
