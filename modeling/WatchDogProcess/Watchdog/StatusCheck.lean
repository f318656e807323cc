import WatchDogProcess.Watchdog.Restart

/-! # The heartbeat check on the status file

The application sets `recording_process_state` in the status file to true while
it records. `ProcessRecordingThread` reads the flag; when it is true it reads the
whole object again, sets the flag to false and rewrites the file, and otherwise
it restarts the application if the current step is `STEP2`.
-/

namespace WatchDog

open KeyedRecord

/-- The outcomes of the file operations of one check. The status file is read
and rewritten at the path that the history file names. -/
structure CheckReads where
  threadHistoryPath : ReadOutcome
  statusFlag : String → ReadOutcome
  statusObject : String → ReadOutcome
  statusRewritten : String → Bool
  appCurrentStepAgain : ReadOutcome

/-- The first read of the status file: the flag. -/
def recordingProcessState : ReadOutcome → Bool := readBool "recording_process_state"

/-- The second read of the status file: the whole object, with the flag set to false. -/
def consumeHeartbeat (read : ReadOutcome) : QJsonObject :=
  set read.object "recording_process_state" (.bool false)

/-- The part of the check after the first read found the flag true. -/
def recordingAlive (reads : CheckReads) (watchdog : ProctoringWatchDog) : Handled :=
  let path := watchdog.threadStatusPath
  let object := consumeHeartbeat (reads.statusObject path)
  ⟨watchdog, if reads.statusRewritten path then [.rewriteStatus path object] else []⟩

/-- The part of the check after the first read did not find the flag true. -/
def recordingBroken (platform : Platform) (now : Nat) (reads : CheckReads)
    (watchdog : ProctoringWatchDog) : Handled :=
  let watchdog := { watchdog with step := getAppCurrentStep reads.appCurrentStepAgain }
  if watchdog.step = "STEP2" then restartProctortrack platform now watchdog
  else Handled.pure watchdog

def processRecordingThread (platform : Platform) (now : Nat) (reads : CheckReads)
    (watchdog : ProctoringWatchDog) : Handled :=
  let watchdog :=
    { watchdog with threadStatusPath := getThreadHistoryPath reads.threadHistoryPath }
  Handled.andThen ⟨watchdog, [.processRecordingThread]⟩ fun watchdog =>
    if recordingProcessState (reads.statusFlag watchdog.threadStatusPath) then
      recordingAlive reads watchdog
    else recordingBroken platform now reads watchdog

/-! ### What a check does -/

/-- The flag that the first read of a check yields. -/
def CheckReads.flag (reads : CheckReads) : Bool :=
  recordingProcessState (reads.statusFlag (getThreadHistoryPath reads.threadHistoryPath))

/-- The inputs on which a check calls `RestartProctortrack`. -/
def CheckReads.Broken (reads : CheckReads) : Prop :=
  reads.flag = false ∧ getAppCurrentStep reads.appCurrentStepAgain = "STEP2"

instance (reads : CheckReads) : Decidable reads.Broken := inferInstanceAs (Decidable (_ ∧ _))

variable (platform : Platform) (now : Nat) {reads : CheckReads} (watchdog : ProctoringWatchDog)

/-- A check that finds the flag true only rewrites the file. -/
theorem processRecordingThread_alive (alive : reads.flag = true) :
    processRecordingThread platform now reads watchdog =
      let path := getThreadHistoryPath reads.threadHistoryPath
      ⟨{ watchdog with threadStatusPath := path },
        .processRecordingThread :: if reads.statusRewritten path then
          [.rewriteStatus path (consumeHeartbeat (reads.statusObject path))]
        else []⟩ := by
  simp only [CheckReads.flag] at alive
  simp only [processRecordingThread, Handled.andThen, alive, ↓reduceIte, recordingAlive,
    List.singleton_append]

/-- A check that does not find the flag true reads the step again, and restarts
on `STEP2`. -/
theorem processRecordingThread_broken (broken : reads.flag = false) :
    processRecordingThread platform now reads watchdog =
      let watchdog :=
        { watchdog with
          threadStatusPath := getThreadHistoryPath reads.threadHistoryPath
          step := getAppCurrentStep reads.appCurrentStepAgain }
      Handled.andThen ⟨watchdog, [.processRecordingThread]⟩ fun watchdog =>
        if watchdog.step = "STEP2" then restartProctortrack platform now watchdog
        else Handled.pure watchdog := by
  simp only [CheckReads.flag] at broken
  simp only [processRecordingThread, Handled.andThen, broken, Bool.false_eq_true, ↓reduceIte,
    recordingBroken]

/-- A check leaves the counters, the latches and the screen alone. -/
theorem processRecordingThread_frame :
    let after := (processRecordingThread platform now reads watchdog).watchdog
    after.counter = watchdog.counter ∧
      after.appLaunchRetryCountre = watchdog.appLaunchRetryCountre ∧
      after.waitingSceen = watchdog.waitingSceen := by
  cases alive : reads.flag with
  | true => simp only [processRecordingThread_alive _ _ _ alive, and_self]
  | false =>
      simp only [processRecordingThread_broken _ _ _ alive, Handled.andThen_watchdog]
      split
      · simp only [restartProctortrack_watchdog, and_self]
      · simp only [Handled.pure_watchdog, and_self]

/-- The step that the rest of the report sees: the one read again if the flag was
not true. -/
theorem processRecordingThread_step :
    (processRecordingThread platform now reads watchdog).watchdog.step =
      if reads.flag then watchdog.step else getAppCurrentStep reads.appCurrentStepAgain := by
  cases alive : reads.flag with
  | true => simp only [processRecordingThread_alive _ _ _ alive, ↓reduceIte]
  | false =>
      simp only [processRecordingThread_broken _ _ _ alive, Handled.andThen_watchdog,
        Bool.false_eq_true, ↓reduceIte]
      split
      · simp only [restartProctortrack_watchdog]
      · simp only [Handled.pure_watchdog]

/-- A check does nothing but rewrite the file and restart: no effect of another kind. -/
theorem processRecordingThread_does_of_not {kind : Effect → Bool}
    (notCheck : kind .processRecordingThread = false)
    (notRewrite : ∀ path object, kind (.rewriteStatus path object) = false)
    (notRestart : kind .restartProctortrack = false)
    (notSchedule : ∀ delay slot, kind (.singleShot delay slot) = false) :
    (processRecordingThread platform now reads watchdog).does kind = false := by
  cases alive : reads.flag with
  | true =>
      simp only [processRecordingThread_alive _ _ _ alive, Handled.does]
      split <;> simp [notCheck, notRewrite]
  | false =>
      simp only [processRecordingThread_broken _ _ _ alive, Handled.andThen_does]
      split
      · rw [restartProctortrack_does_of_not _ _ _ notRestart notSchedule]
        simp [Handled.does, notCheck]
      · simp [Handled.does, notCheck]

/-- A check calls `RestartProctortrack` exactly on broken inputs. -/
theorem processRecordingThread_restarts :
    (processRecordingThread platform now reads watchdog).does Effect.isRestart =
      decide reads.Broken := by
  cases alive : reads.flag with
  | true =>
      simp only [processRecordingThread_alive _ _ _ alive, CheckReads.Broken, alive,
        Bool.true_eq_false, false_and, decide_false, Handled.does]
      split <;> rfl
  | false =>
      simp only [processRecordingThread_broken _ _ _ alive, Handled.andThen_does,
        CheckReads.Broken, alive, true_and]
      by_cases exam : getAppCurrentStep reads.appCurrentStepAgain = "STEP2"
      · simp only [exam, ↓reduceIte, restartProctortrack_restarts, Bool.or_true, decide_true]
      · simp only [exam, ↓reduceIte, Handled.pure_does, Bool.or_false, decide_false]
        rfl

end WatchDog
