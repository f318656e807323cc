import WatchDogProcess.Watchdog.Monitored

/-! # The heartbeat check interleaved with the application

A check that finds the flag true goes through three operations on the status
file: it reads the flag, it reads the object again, and it truncates the file
and writes the object back. The application may update the file before, between
and after them, and no lock is taken. Here each operation of the check is a step
of its own, and a read may fail in each of the ways of `WatchDog.FileFailure`.

Run without interruption the three steps change the file as
`ProcessRecordingThread` does (`WatchDog.race_uninterrupted`).
-/

namespace WatchDog

open KeyedRecord EventRun

/-- The ways an operation on a file that stands there can fail. -/
inductive FileFailure where
  | missing
  | unopened
  | unparsable
  deriving DecidableEq, Repr

/-- A read of a file that may fail. -/
def FileState.readFailing (file : FileState) : Option FileFailure → ReadOutcome
  | none => file.read
  | some .missing => .missing
  | some .unopened => .unopened
  | some .unparsable => .text none

/-- The object that a file holds. -/
def FileState.contents (file : FileState) : QJsonObject := file.read.object

@[simp] theorem FileState.contents_update (file : FileState) (keys : QJsonObject) :
    (file.update keys).contents = overlay file.contents keys := by
  cases file <;> rfl

@[simp] theorem FileState.contents_text (object : QJsonObject) :
    (FileState.text (some object)).contents = object := rfl

/-- A flag found true was read without a failure, in the object that the file holds. -/
theorem recordingProcessState_readFailing {file : FileState} {failure : Option FileFailure}
    (found : recordingProcessState (file.readFailing failure) = true) :
    failure = none ∧ file.contents "recording_process_state" = some (.bool true) := by
  cases failure with
  | some failure => cases failure <;> exact absurd found Bool.false_ne_true
  | none =>
      refine ⟨rfl, ?_⟩
      cases file with
      | missing => exact absurd found Bool.false_ne_true
      | text content =>
          simp only [FileState.readFailing, FileState.read, recordingProcessState, readBool,
            boolValue] at found
          split at found
          · next value holds =>
              rw [← found]
              exact holds
          · exact absurd found Bool.false_ne_true

/-! ### The machine -/

/-- Where a check stands: the next operation, the object it is about to write,
and at the end the failure that kept it from acting, if any. -/
inductive CheckPhase where
  | readsFlag
  | readsObject
  | rewrites (object : QJsonObject)
  | finished (failure : Option FileFailure)

/-- The status file and the check on it. -/
structure RaceState where
  file : FileState
  phase : CheckPhase

/-- The application updates the file, or the check takes its next operation. -/
inductive RaceEvent where
  | appWrites (keys : QJsonObject)
  | check (failure : Option FileFailure)

/-- A check about to begin. -/
def RaceState.start (file : FileState) : RaceState := ⟨file, .readsFlag⟩

/-- The next operation of the check. A file that cannot be opened for the rewrite
is left as it is. -/
def checkStep (failure : Option FileFailure) (state : RaceState) : RaceState :=
  match state.phase with
  | .readsFlag =>
      if recordingProcessState (state.file.readFailing failure) then
        { state with phase := .readsObject }
      else { state with phase := .finished failure }
  | .readsObject =>
      { state with phase := .rewrites (consumeHeartbeat (state.file.readFailing failure)) }
  | .rewrites object =>
      if failure = some .unopened then { state with phase := .finished failure }
      else ⟨.text (some object), .finished none⟩
  | .finished _ => state

def raceStep (state : RaceState) : RaceEvent → RaceState
  | .appWrites keys => { state with file := state.file.update keys }
  | .check failure => checkStep failure state

/-- The updates of the application among some events. -/
def updatesOf (events : List RaceEvent) : List QJsonObject :=
  events.filterMap fun event => match event with
    | .appWrites keys => some keys
    | .check _ => none

@[simp] theorem updatesOf_concat_appWrites (events : List RaceEvent) (keys : QJsonObject) :
    updatesOf (events ++ [.appWrites keys]) = updatesOf events ++ [keys] := by
  simp [updatesOf]

@[simp] theorem updatesOf_concat_check (events : List RaceEvent) (failure : Option FileFailure) :
    updatesOf (events ++ [.check failure]) = updatesOf events := by
  simp [updatesOf]

/-- Once the check is over the updates alone decide the file. -/
theorem run_finished (state : RaceState) {failure : Option FileFailure}
    (ended : state.phase = .finished failure) (events : List RaceEvent) :
    (run raceStep state events).file.contents =
      overlayAll state.file.contents (updatesOf events) := by
  induction events generalizing state with
  | nil => rfl
  | cons event events ih =>
      cases event with
      | appWrites keys =>
          rw [run_cons, ih (raceStep state (.appWrites keys)) ended, raceStep,
            FileState.contents_update]
          rfl
      | check other =>
          have unchanged : raceStep state (.check other) = state := by
            simp only [raceStep, checkStep, ended]
          rw [run_cons, unchanged, ih state ended]
          rfl

/-! ### The check as one function -/

/-- The three operations run one after another leave the file as
`ProcessRecordingThread` does. -/
theorem race_uninterrupted (platform : Platform) (now : Nat) (watchdog : ProctoringWatchDog)
    (disk : String → FileState) (first second rewriting : Option FileFailure)
    {reads : CheckReads}
    (readsFlag : reads.statusFlag = fun path => (disk path).readFailing first)
    (readsObject : reads.statusObject = fun path => (disk path).readFailing second)
    (rewrites : reads.statusRewritten = fun _ => decide (rewriting ≠ some .unopened)) :
    let path := getThreadHistoryPath reads.threadHistoryPath
    (run raceStep (.start (disk path)) [.check first, .check second, .check rewriting]).file =
      ((processRecordingThread platform now reads watchdog).effects.foldl applyEffect disk)
        path := by
  intro path
  have flag : reads.flag = recordingProcessState ((disk path).readFailing first) := by
    simp only [CheckReads.flag, readsFlag]
    rfl
  cases alive : recordingProcessState ((disk path).readFailing first) with
  | true =>
      rw [processRecordingThread_alive _ _ _ (flag.trans alive)]
      simp only [run_cons, run_nil, raceStep, checkStep, RaceState.start, alive, ↓reduceIte,
        readsObject, rewrites]
      by_cases closed : rewriting = some .unopened
      · simp [closed, applyEffect]
      · simp [closed, applyEffect, path]
  | false =>
      rw [foldl_applyEffect_of_not]
      · simp only [run_cons, run_nil, raceStep, checkStep, RaceState.start, alive,
          Bool.false_eq_true, ↓reduceIte]
      · rw [processRecordingThread_broken _ _ _ (flag.trans alive), Handled.andThen_does]
        split
        · rw [restartProctortrack_does_of_not _ _ _ rfl fun _ _ => rfl]
          rfl
        · rfl

end WatchDog
