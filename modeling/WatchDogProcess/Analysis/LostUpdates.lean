import WatchDogProcess.Watchdog.StatusRace

/-! # Updates of the status file around a heartbeat check

A check loses no update when the file it leaves is the one that the updates and
the check give in some serial order, every key but the flag keeps the last value
written, and a heartbeat written after the check read the flag stands
(`WatchDog.LosesNoUpdate`). No lock guards the two reads and the rewrite, and a
read that fails counts as an empty object, so an update that comes between them
can be lost, and a failed second read drops the whole file
(`WatchDog.check_loses_updates`). No update is lost when the second read
succeeds, no update between the reads sets the flag to anything but false, and
none between the second read and the rewrite changes what the check is about to
write (`WatchDog.undisturbed_check_loses_no_update`).
-/

namespace WatchDog

open KeyedRecord EventRun

/-- A check executed at once on the object in the file. A failure of the file
keeps it from acting. -/
def atomicCheck (failure : Option FileFailure) (object : QJsonObject) : QJsonObject :=
  let file := FileState.text (some object)
  if recordingProcessState (file.readFailing failure) then consumeHeartbeat file.read else object

/-- Whenever the check is over, the file shows every update, in some serial order
with the check; every key but the flag has the last value written; and a
heartbeat written after the flag was read, if the application does not write the
flag again, is still there. -/
def LosesNoUpdate (file : FileState) (events : List RaceEvent) : Prop :=
  let final := run raceStep (.start file) events
  ∀ failure, final.phase = .finished failure →
    Serial (atomicCheck failure) file.contents (updatesOf events) final.file.contents ∧
    (∀ key, key ≠ "recording_process_state" →
      final.file.contents key = overlayAll file.contents (updatesOf events) key) ∧
    ∀ before keys after, events = before ++ .appWrites keys :: after →
      (run raceStep (.start file) before).phase ≠ .readsFlag →
      keys "recording_process_state" = some (.bool true) →
      (∀ later ∈ updatesOf after, later "recording_process_state" = none) →
      final.file.contents "recording_process_state" = some (.bool true)

/-- The steps that do not disturb a check: between its reads the application sets
the flag to nothing but false and the second read succeeds, and before the
rewrite the application sets no key to anything but what is about to be written. -/
def Undisturbed (state : RaceState) : RaceEvent → Prop
  | .appWrites keys => match state.phase with
    | .readsObject => keys "recording_process_state" = none ∨
        keys "recording_process_state" = some (.bool false)
    | .rewrites object => ∀ key, keys key = none ∨ keys key = object key
    | _ => True
  | .check failure => match state.phase with
    | .readsObject => failure = none
    | _ => True

/-! ### The serial order -/

/-- A check touches no key but the flag. -/
theorem atomicCheck_apply_of_ne (failure : Option FileFailure) (object : QJsonObject)
    {key : String} (other : key ≠ "recording_process_state") :
    atomicCheck failure object key = object key := by
  unfold atomicCheck
  split
  · exact set_apply_of_ne _ _ other
  · rfl

/-- A check kept from acting is none. -/
theorem atomicCheck_of_not_found {file : FileState} {failure : Option FileFailure}
    (notFound : recordingProcessState (file.readFailing failure) = false) :
    atomicCheck failure file.contents = file.contents := by
  have same : recordingProcessState ((FileState.text (some file.contents)).readFailing failure) =
      recordingProcessState (file.readFailing failure) := by
    cases failure with
    | some failure => cases failure <;> rfl
    | none =>
        cases file with
        | missing => rfl
        | text content => rfl
  simp only [atomicCheck, same, notFound, Bool.false_eq_true, ↓reduceIte]

/-- The flag holds a truth value. -/
def FlagIsBool (object : QJsonObject) : Prop :=
  ∃ value, object "recording_process_state" = some (.bool value)

theorem FlagIsBool.overlay {object keys : QJsonObject} (isBool : FlagIsBool object)
    (quiet : keys "recording_process_state" = none ∨
      keys "recording_process_state" = some (.bool false)) :
    FlagIsBool (overlay object keys) := by
  rcases quiet with absent | cleared
  · obtain ⟨value, holds⟩ := isBool
    exact ⟨value, (overlay_apply_of_absent absent).trans holds⟩
  · exact ⟨false, overlay_apply_of_present cleared⟩

/-- On a flag that holds a truth value a check sets it to false. -/
theorem atomicCheck_of_flagIsBool {object : QJsonObject} (isBool : FlagIsBool object) :
    atomicCheck none object = set object "recording_process_state" (.bool false) := by
  obtain ⟨value, holds⟩ := isBool
  cases value with
  | true =>
      have found : recordingProcessState ((FileState.text (some object)).readFailing none) =
          true := by
        simp only [FileState.readFailing, FileState.read, recordingProcessState, readBool_text,
          boolValue, holds]
      simp only [atomicCheck, found, ↓reduceIte]
      rfl
  | false =>
      have notFound : recordingProcessState ((FileState.text (some object)).readFailing none) =
          false := by
        simp only [FileState.readFailing, FileState.read, recordingProcessState, readBool_text,
          boolValue, holds]
      rw [← FileState.contents_text object, atomicCheck_of_not_found notFound,
        FileState.contents_text]
      exact (Function.update_eq_self_iff.mpr holds.symm).symm

/-- What a check has made of the file so far: before it acts the file shows the
updates, and what it is about to write is what it would write now. -/
def InStep (base : QJsonObject) (updates : List QJsonObject) (state : RaceState) : Prop :=
  let contents := state.file.contents
  match state.phase with
  | .readsFlag => contents = overlayAll base updates
  | .readsObject => contents = overlayAll base updates ∧ FlagIsBool contents
  | .rewrites object => contents = overlayAll base updates ∧ FlagIsBool contents ∧
      object = set contents "recording_process_state" (.bool false)
  | .finished failure => Serial (atomicCheck failure) base updates contents

variable {base : QJsonObject} {updates : List QJsonObject} {state : RaceState}

theorem InStep.appWrites (inStep : InStep base updates state) {keys : QJsonObject}
    (undisturbed : Undisturbed state (.appWrites keys)) :
    InStep base (updates ++ [keys]) (raceStep state (.appWrites keys)) := by
  obtain ⟨file, phase⟩ := state
  cases phase with
  | readsFlag =>
      simp only [InStep, raceStep, FileState.contents_update, overlayAll_concat] at inStep ⊢
      rw [inStep]
  | readsObject =>
      obtain ⟨shows, isBool⟩ := inStep
      simp only [InStep, raceStep, FileState.contents_update, overlayAll_concat]
      exact ⟨by rw [shows], isBool.overlay undisturbed⟩
  | rewrites object =>
      obtain ⟨shows, isBool, about⟩ := inStep
      dsimp only at shows isBool about
      subst about
      simp only [InStep, raceStep, FileState.contents_update, overlayAll_concat]
      have quiet := undisturbed "recording_process_state"
      rw [set_apply_self] at quiet
      refine ⟨by rw [shows], isBool.overlay quiet, ?_⟩
      -- The update repeats what is about to be written, so writing it is no change.
      rw [← overlay_set _ _ _ _ quiet]
      funext key
      rcases undisturbed key with absent | repeated
      · rw [overlay_apply_of_absent absent]
      · simp only [overlay, repeated, Option.or_self]
  | finished failure =>
      simp only [InStep, raceStep, FileState.contents_update] at inStep ⊢
      exact inStep.concat keys

theorem InStep.check (inStep : InStep base updates state) {failure : Option FileFailure}
    (undisturbed : Undisturbed state (.check failure)) :
    InStep base updates (raceStep state (.check failure)) := by
  obtain ⟨file, phase⟩ := state
  cases phase with
  | readsFlag =>
      simp only [InStep] at inStep
      cases found : recordingProcessState (file.readFailing failure) with
      | true =>
          simp only [raceStep, checkStep, found, ↓reduceIte, InStep]
          exact ⟨inStep, true, (recordingProcessState_readFailing found).2⟩
      | false =>
          simp only [raceStep, checkStep, found, Bool.false_eq_true, ↓reduceIte, InStep]
          have now := Serial.now (atomicCheck failure) base updates
          rw [← inStep, atomicCheck_of_not_found found] at now
          exact now
  | readsObject =>
      obtain ⟨shows, isBool⟩ := inStep
      obtain rfl : failure = none := undisturbed
      exact ⟨shows, isBool, rfl⟩
  | rewrites object =>
      obtain ⟨shows, isBool, about⟩ := inStep
      dsimp only at shows isBool about
      subst about
      by_cases closed : failure = some .unopened
      · simp only [raceStep, checkStep, closed, ↓reduceIte, InStep]
        have now := Serial.now (atomicCheck (some .unopened)) base updates
        rwa [← shows, atomicCheck_of_not_found rfl] at now
      · simp only [raceStep, checkStep, closed, ↓reduceIte, InStep, FileState.contents_text]
        have now := Serial.now (atomicCheck none) base updates
        rwa [← shows, atomicCheck_of_flagIsBool isBool] at now
  | finished kept => exact inStep

/-- An undisturbed run stays in step. -/
theorem inStep_run (file : FileState) {events : List RaceEvent}
    (undisturbed : Always raceStep Undisturbed (.start file) events) :
    InStep file.contents (updatesOf events) (run raceStep (.start file) events) := by
  induction events using List.reverseRecOn with
  | nil => rfl
  | append_singleton events event ih =>
      rw [always_append, always_cons] at undisturbed
      obtain ⟨before, now, -⟩ := undisturbed
      rw [run_concat]
      cases event with
      | appWrites keys =>
          rw [updatesOf_concat_appWrites]
          exact (ih before).appWrites now
      | check failure =>
          rw [updatesOf_concat_check]
          exact (ih before).check now

/-! ### Heartbeats -/

/-- In an undisturbed run a heartbeat after the first read comes when the check
is over. -/
theorem finished_of_heartbeat {file : FileState} {before : List RaceEvent} {keys : QJsonObject}
    (undisturbed : Always raceStep Undisturbed (.start file) before)
    (now : Undisturbed (run raceStep (.start file) before) (.appWrites keys))
    (begun : (run raceStep (.start file) before).phase ≠ .readsFlag)
    (heartbeat : keys "recording_process_state" = some (.bool true)) :
    ∃ failure, (run raceStep (.start file) before).phase = .finished failure := by
  have inStep := inStep_run file undisturbed
  revert inStep now begun
  generalize run raceStep (.start file) before = reached
  intro now begun inStep
  obtain ⟨found, phase⟩ := reached
  cases phase with
  | readsFlag => exact absurd rfl begun
  | readsObject =>
      rcases now with absent | cleared
      · exact absurd (heartbeat.symm.trans absent) (by simp)
      · exact absurd (heartbeat.symm.trans cleared) (by simp)
  | rewrites object =>
      obtain ⟨-, -, about⟩ := inStep
      rcases now "recording_process_state" with absent | repeated
      · exact absurd (heartbeat.symm.trans absent) (by simp)
      · rw [about, set_apply_self] at repeated
        exact absurd (heartbeat.symm.trans repeated) (by simp)
  | finished failure => exact ⟨failure, rfl⟩

/-- **An undisturbed check loses no update.** From every file and for every
interleaving of updates with the operations of a check, none of which disturbs
it, the file is that of a serial order, every key but the flag has the last value
written, and a heartbeat written after the first read stands. -/
theorem undisturbed_check_loses_no_update (file : FileState) (events : List RaceEvent)
    (undisturbed : Always raceStep Undisturbed (.start file) events) :
    LosesNoUpdate file events := by
  intro failure ended
  have serial : Serial (atomicCheck failure) file.contents (updatesOf events)
      (run raceStep (.start file) events).file.contents := by
    have inStep := inStep_run file undisturbed
    simp only [InStep, ended] at inStep
    exact inStep
  refine ⟨serial, ?_, ?_⟩
  · intro key other
    exact serial.apply_of_frame fun record => atomicCheck_apply_of_ne failure record other
  · intro before keys after split begun heartbeat quiet
    rw [split, always_append, always_cons] at undisturbed
    obtain ⟨first, now, -⟩ := undisturbed
    obtain ⟨stage, finished⟩ := finished_of_heartbeat first now begun heartbeat
    have later : (run raceStep (.start file) events).file.contents = overlayAll
        (overlay (run raceStep (.start file) before).file.contents keys) (updatesOf after) := by
      simp only [split, run_append, run_cons]
      rw [run_finished (raceStep (run raceStep (.start file) before) (.appWrites keys)) finished,
        raceStep, FileState.contents_update]
    rw [later, overlayAll_apply_of_absent _ quiet]
    exact overlay_apply_of_present heartbeat

/-! ### Disturbed checks -/

/-- A status file whose flag is true, with the camera on. -/
def beatingFile : FileState :=
  .text (some (set (set empty "camera_process_state" (.bool true))
    "recording_process_state" (.bool true)))

/-- The application takes the camera off, and writes another heartbeat at the end. -/
def cameraOff : QJsonObject := set empty "camera_process_state" (.bool false)

def heartbeat : QJsonObject := set empty "recording_process_state" (.bool true)

theorem undisturbed_check_loses_no_update_cameraOff :
    LosesNoUpdate beatingFile
      [.check none, .appWrites cameraOff, .check none, .check none, .appWrites heartbeat] :=
  undisturbed_check_loses_no_update beatingFile _
    ⟨trivial, Or.inl rfl, rfl, trivial, trivial, trivial⟩

/-- An update between the second read and the rewrite is lost, a heartbeat
between the two reads is consumed with the one before it, and a second read that
finds no file drops every key. -/
theorem check_loses_updates :
    ¬ LosesNoUpdate beatingFile [.check none, .check none, .appWrites cameraOff, .check none] ∧
    ¬ LosesNoUpdate beatingFile [.check none, .appWrites heartbeat, .check none, .check none] ∧
    ¬ LosesNoUpdate beatingFile [.check none, .check (some .missing), .check none] := by
  refine ⟨?_, ?_, ?_⟩
  · intro kept
    have camera := (kept none rfl).2.1 "camera_process_state" (by decide)
    exact absurd camera (by decide)
  · intro kept
    have stands := (kept none rfl).2.2 [.check none] heartbeat [.check none, .check none] rfl
      (by simp [raceStep, checkStep, RaceState.start, beatingFile, FileState.readFailing,
        FileState.read, recordingProcessState, boolValue]) rfl (fun _ member => absurd member
        List.not_mem_nil)
    exact absurd stands (by decide)
  · intro kept
    have camera := (kept none rfl).2.1 "camera_process_state" (by decide)
    exact absurd camera (by decide)

end WatchDog
