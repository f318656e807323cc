import WatchDogProcess.Watchdog.Monitored

/-! # The heartbeat check detects hangs, and only hangs

The heartbeat check runs exactly at the reports whose number is a multiple of
seven, whatever the reports say and however the earlier ones were left
(`WatchDog.checksNow_iff`). Each check consumes the heartbeat it finds, so
an application that writes one between any two checks is never restarted
(`WatchDog.fresh_beating`), and one that stops writing in `STEP2` is restarted by
the check that follows the one consuming its last heartbeat
(`WatchDog.silence_restarts`). Together these are `WatchDog.hang_detection`.
-/

namespace WatchDog

open KeyedRecord EventRun

/-- The application sets the flag of the status file at a path to true. -/
def IsHeartbeat (path : String) : MonitorEvent → Prop
  | .appWrites written keys =>
      written = path ∧ keys "recording_process_state" = some (.bool true)
  | .report _ => False

/-- Some heartbeat lies after the last report whose number is a multiple of seven. -/
def FreshHeartbeat (path : String) (before : List MonitorEvent) : Prop :=
  ∃ earlier beat later, before = earlier ++ beat :: later ∧ IsHeartbeat path beat ∧
    reportCount earlier / 7 = reportCount before / 7

/-- Every report of a run reads the same path of the status file. -/
def ConstantPath (path : String) (events : List MonitorEvent) : Prop :=
  ∀ report, .report report ∈ events →
    getThreadHistoryPath report.reads.threadHistoryPath = path

/-- A run of a healthy application: every report finds it running, it never sets
the flag to anything but true, and it sets it before the first check and between
any two consecutive ones. -/
structure HealthyRun (path : String) (events : List MonitorEvent) : Prop where
  constantPath : ConstantPath path events
  running : ∀ report, .report report ∈ events → report.isRunning = true
  neverFalse : ∀ keys, .appWrites path keys ∈ events →
    keys "recording_process_state" = none ∨ keys "recording_process_state" = some (.bool true)
  beating : ∀ before report after, events = before ++ .report report :: after →
    7 ∣ reportCount before + 1 → FreshHeartbeat path before

/-- A part of a run in which the step read by a check stays `STEP2` and the
application writes no heartbeat. -/
structure SilentExam (path : String) (events : List MonitorEvent) : Prop where
  constantPath : ConstantPath path events
  inExam : ∀ report, .report report ∈ events →
    getAppCurrentStep report.reads.appCurrentStepAgain = "STEP2"
  silent : ∀ event ∈ events, ¬ IsHeartbeat path event

variable (platform : Platform) {path : String}

/-! ### Soundness -/

/-- The heartbeat check runs exactly at the reports with a multiple of seven as number. -/
theorem checksNow_iff {start : Monitored} (fresh : start.watchdog.counter = 0)
    (before : List MonitorEvent) :
    ChecksNow (run (monitorStep platform) start before).watchdog ↔ 7 ∣ reportCount before + 1 := by
  rw [ChecksNow, run_counter platform (by rw [fresh]; omega), fresh]
  omega

/-- A fresh heartbeat of a longer run is its last event or fresh before it, with
no check in between. -/
theorem freshHeartbeat_concat (before : List MonitorEvent) (event : MonitorEvent)
    (fresh : FreshHeartbeat path (before ++ [event])) :
    IsHeartbeat path event ∨ FreshHeartbeat path before ∧
      reportCount before / 7 = reportCount (before ++ [event]) / 7 := by
  obtain ⟨earlier, beat, later, split, isBeat, sameRound⟩ := fresh
  rcases List.eq_nil_or_concat later with rfl | ⟨middle, last, rfl⟩
  · left
    rw [(List.append_singleton_inj.mp split).2]
    exact isBeat
  · right
    rw [List.concat_eq_append, ← List.cons_append, ← List.append_assoc] at split
    obtain ⟨splitBefore, -⟩ := List.append_singleton_inj.mp split
    have within : reportCount earlier ≤ reportCount before := by
      rw [splitBefore, reportCount_append]
      exact Nat.le_add_right _ _
    have longer : reportCount before ≤ reportCount (before ++ [event]) := by
      rw [reportCount_append]
      exact Nat.le_add_right _ _
    exact ⟨⟨earlier, beat, middle, splitBefore, isBeat, by omega⟩, by omega⟩

/-- While the application never sets the flag to anything but true, a check that
has a fresh heartbeat finds the flag true. -/
theorem fresh_beating {start : Monitored} (unchecked : start.watchdog.counter = 0)
    (before : List MonitorEvent)
    (neverFalse : ∀ keys, .appWrites path keys ∈ before →
      keys "recording_process_state" = none ∨ keys "recording_process_state" = some (.bool true))
    (fresh : FreshHeartbeat path before) :
    beating (run (monitorStep platform) start before).disk path = true := by
  induction before using List.reverseRecOn with
  | nil =>
      obtain ⟨earlier, beat, later, split, -, -⟩ := fresh
      exact absurd split.symm (List.append_ne_nil_of_right_ne_nil _ (List.cons_ne_nil _ _))
  | append_singleton before event ih =>
      have earlierFalse : ∀ keys, .appWrites path keys ∈ before →
          keys "recording_process_state" = none ∨
            keys "recording_process_state" = some (.bool true) :=
        fun keys member => neverFalse keys (List.mem_append_left _ member)
      rw [run_concat]
      cases event with
      | appWrites written keys =>
          by_cases same : written = path
          · subst same
            simp only [monitorStep, beating, Function.update_self]
            have isWritten : MonitorEvent.appWrites written keys ∈
                before ++ [.appWrites written keys] :=
              List.mem_append_right _ (List.mem_singleton_self _)
            rcases neverFalse keys isWritten with absent | beats
            · rw [recordingProcessState_update_of_absent _ absent]
              rcases freshHeartbeat_concat before _ fresh with isBeat | ⟨earlierFresh, -⟩
              · exact absurd (absent.symm.trans isBeat.2) (by simp)
              · exact ih earlierFalse earlierFresh
            · rw [recordingProcessState_update_of_present _ beats, boolValue, beats]
          · simp only [monitorStep, beating, Function.update_of_ne (Ne.symm same)]
            rcases freshHeartbeat_concat before _ fresh with isBeat | ⟨earlierFresh, -⟩
            · exact absurd isBeat.1 same
            · exact ih earlierFalse earlierFresh
      | report report =>
          obtain isBeat | ⟨earlierFresh, sameRound⟩ := freshHeartbeat_concat before _ fresh
          · exact isBeat.elim
          · have quiet : ¬ ChecksNow (run (monitorStep platform) start before).watchdog := by
              rw [checksNow_iff platform unchecked]
              rw [reportCount_append, reportCount_report, reportCount_nil] at sameRound
              omega
            rw [monitorStep_report_disk]
            simp only [quiet, false_and, ↓reduceIte]
            exact ih earlierFalse earlierFresh

/-- A healthy application is never restarted, and the watchdog never quits. -/
theorem healthy_undisturbed {start : Monitored} (unchecked : start.watchdog.counter = 0)
    {events : List MonitorEvent} (healthy : HealthyRun path events) :
    Always (monitorStep platform) (fun monitored event => ∀ report, event = .report report →
        let handled := onAppCrash platform (report.on monitored.disk) monitored.watchdog
        handled.does Effect.isRestart = false ∧ handled.does Effect.isQuit = false)
      start events := by
  rw [always_iff_split]
  rintro before _ after split report rfl
  have member : .report report ∈ events := by
    rw [split]
    exact List.mem_append_right _ List.mem_cons_self
  have running : (report.on (run (monitorStep platform) start before).disk).isRunning = true :=
    healthy.running report member
  constructor
  · rw [onAppCrash, Handled.andThen_does, countReport_restarts, running]
    simp only [↓reduceIte, appFound, Handled.pure_does, Bool.or_false, decide_eq_false_iff_not]
    rintro ⟨checks, broken⟩
    rw [checksNow_iff platform unchecked] at checks
    have beats := fresh_beating platform unchecked before
      (fun keys written => healthy.neverFalse keys
        (split ▸ List.mem_append_left _ written))
      (healthy.beating before report after split checks)
    rw [← healthy.constantPath report member, ← report.on_flag, broken.1] at beats
    exact Bool.false_ne_true beats
  · rw [onAppCrash_quits, running]
    rfl

/-! ### Completeness -/

/-- Keys that are not a heartbeat leave the flag false if it was false. -/
theorem beating_appWrites (disk : String → FileState) {written : String} {keys : QJsonObject}
    (silent : ¬ IsHeartbeat path (.appWrites written keys))
    (beats : beating (Function.update disk written ((disk written).update keys)) path = true) :
    beating disk path = true := by
  by_cases same : path = written
  · subst same
    simp only [beating, Function.update_self] at beats ⊢
    cases found : keys "recording_process_state" with
    | none => rwa [recordingProcessState_update_of_absent _ found] at beats
    | some value =>
        rw [recordingProcessState_update_of_present _ found, boolValue, found] at beats
        cases value with
        | bool flag => exact (silent ⟨rfl, by rw [found]; exact congrArg _ (congrArg _ beats)⟩).elim
        | null => exact absurd beats (by simp)
        | string _ => exact absurd beats (by simp)
        | other _ => exact absurd beats (by simp)
  · simpa only [beating, Function.update_of_ne same] using beats

/-- The number of silent reports after which a check is sure to restart: the check
that consumes the last heartbeat, if it is still there, and the one after it. -/
def restartBound (path : String) (monitored : Monitored) : Nat :=
  (if beating monitored.disk path = true then 14 else 7) - monitored.watchdog.counter

theorem restartBound_of_beating {monitored : Monitored}
    (beats : beating monitored.disk path = true) :
    restartBound path monitored = 14 - monitored.watchdog.counter := by
  simp only [restartBound, beats, ↓reduceIte]

theorem restartBound_of_not_beating {monitored : Monitored}
    (silent : beating monitored.disk path = false) :
    restartBound path monitored = 7 - monitored.watchdog.counter := by
  simp only [restartBound, silent, Bool.false_eq_true, ↓reduceIte]

/-- A write that is not a heartbeat never puts the bound off. -/
theorem restartBound_appWrites_le (monitored : Monitored) {written : String} {keys : QJsonObject}
    (silent : ¬ IsHeartbeat path (.appWrites written keys)) :
    restartBound path (monitorStep platform monitored (.appWrites written keys)) ≤
      restartBound path monitored := by
  have kept := beating_appWrites monitored.disk silent
  cases after : beating (monitorStep platform monitored (.appWrites written keys)).disk path with
  | true =>
      rw [restartBound_of_beating after, restartBound_of_beating (kept after)]
      exact Nat.le_refl _
  | false =>
      rw [restartBound_of_not_beating after]
      cases before : beating monitored.disk path with
      | true =>
          rw [restartBound_of_beating before]
          exact Nat.sub_le_sub_right (by omega) _
      | false =>
          rw [restartBound_of_not_beating before]
          exact Nat.le_refl _

/-- A report whose check does not restart brings the bound closer by one. -/
theorem restartBound_report {monitored : Monitored} (below : monitored.watchdog.counter < 7)
    {report : Report}
    (constantPath : getThreadHistoryPath report.reads.threadHistoryPath = path)
    (inExam : getAppCurrentStep report.reads.appCurrentStepAgain = "STEP2")
    (spared : ¬ CheckRestarts (report.on monitored.disk) monitored.watchdog) :
    let next := monitorStep platform monitored (.report report)
    next.watchdog.counter < 7 ∧ restartBound path next + 1 = restartBound path monitored := by
  intro next
  have counts : next.watchdog.counter =
      if ChecksNow monitored.watchdog then 0 else monitored.watchdog.counter + 1 :=
    reportStep_counter platform (report.on monitored.disk) monitored.watchdog
  have disk : next.disk = _ := monitorStep_report_disk platform monitored report
  rw [constantPath] at disk
  by_cases checks : ChecksNow monitored.watchdog
  · have beats : beating monitored.disk path = true := by
      by_contra silent
      refine spared ⟨checks, ?_, inExam⟩
      rw [report.on_flag, constantPath]
      exact Bool.eq_false_iff.mpr silent
    simp only [checks, beats, and_self, ↓reduceIte] at counts disk
    have consumed : beating next.disk path = false := by
      rw [disk, beating, Function.update_self]
      exact recordingProcessState_consumeHeartbeat _
    rw [restartBound_of_not_beating consumed, restartBound_of_beating beats, counts]
    simp only [ChecksNow] at checks
    omega
  · simp only [checks, false_and, ↓reduceIte] at counts disk
    simp only [ChecksNow] at checks
    cases beats : beating monitored.disk path with
    | true =>
        rw [restartBound_of_beating (disk ▸ beats), restartBound_of_beating beats, counts]
        omega
    | false =>
        rw [restartBound_of_not_beating (disk ▸ beats), restartBound_of_not_beating beats, counts]
        omega

/-- Silence lasts over the rest of a part. -/
theorem SilentExam.tail {event : MonitorEvent} {events : List MonitorEvent}
    (exam : SilentExam path (event :: events)) : SilentExam path events where
  constantPath := fun report member => exam.constantPath report (List.mem_cons_of_mem _ member)
  inExam := fun report member => exam.inExam report (List.mem_cons_of_mem _ member)
  silent := fun other member => exam.silent other (List.mem_cons_of_mem _ member)

/-- Silence in `STEP2` makes a check restart the application within the bound. -/
theorem silence_restarts {monitored : Monitored} (below : monitored.watchdog.counter < 7)
    {events : List MonitorEvent} (exam : SilentExam path events)
    (enough : restartBound path monitored ≤ reportCount events) :
    ∃ front report rest, events = front ++ .report report :: rest ∧
      reportCount front < restartBound path monitored ∧
      CheckRestarts (report.on (run (monitorStep platform) monitored front).disk)
        (run (monitorStep platform) monitored front).watchdog := by
  induction events generalizing monitored with
  | nil =>
      rw [reportCount_nil, restartBound] at enough
      split at enough <;> omega
  | cons event events ih =>
      cases event with
      | appWrites written keys =>
          have sooner :=
            restartBound_appWrites_le platform monitored (exam.silent _ List.mem_cons_self)
          rw [reportCount_appWrites] at enough
          have stillBelow :
              (monitorStep platform monitored (.appWrites written keys)).watchdog.counter < 7 :=
            below
          obtain ⟨front, report, rest, split, within, restarts⟩ :=
            ih stillBelow exam.tail (sooner.trans enough)
          refine ⟨.appWrites written keys :: front, report, rest, ?_, ?_, restarts⟩
          · rw [split, List.cons_append]
          · rw [reportCount_appWrites]
            exact Nat.lt_of_lt_of_le within sooner
      | report report =>
          by_cases now : CheckRestarts (report.on monitored.disk) monitored.watchdog
          · refine ⟨[], report, events, rfl, ?_, now⟩
            rw [reportCount_nil, restartBound]
            split <;> omega
          · obtain ⟨nextBelow, closer⟩ := restartBound_report platform below
              (exam.constantPath report List.mem_cons_self)
              (exam.inExam report List.mem_cons_self) now
            rw [reportCount_report] at enough
            obtain ⟨front, found, rest, split, within, restarts⟩ :=
              ih nextBelow exam.tail (by omega)
            refine ⟨.report report :: front, found, rest, ?_, ?_, restarts⟩
            · rw [split, List.cons_append]
            · rw [reportCount_report]
              omega

/-! ### The heartbeat check over whole runs -/

/-- **Hang detection.** The heartbeat check runs exactly at the reports whose
number is a multiple of seven. A healthy application is never restarted and the
watchdog never quits on it. Once the application is silent in `STEP2`, a check
restarts it at the latest at the fourteenth report from there. -/
theorem hang_detection (platform : Platform) (began : Nat) (initial : ConstructorReads)
    (disk : String → FileState) (path : String) :
    (∀ (before : List MonitorEvent) (report : Report),
      let monitored := run (monitorStep platform) (.start began initial disk) before
      (onAppCrash platform (report.on monitored.disk) monitored.watchdog).does Effect.isCheck =
        decide (7 ∣ reportCount before + 1)) ∧
    (∀ events, HealthyRun path events →
      Always (monitorStep platform) (fun monitored event => ∀ report, event = .report report →
          let handled := onAppCrash platform (report.on monitored.disk) monitored.watchdog
          handled.does Effect.isRestart = false ∧ handled.does Effect.isQuit = false)
        (.start began initial disk) events) ∧
    (∀ before after, SilentExam path after → 14 ≤ reportCount after →
      ∃ front report rest, after = front ++ .report report :: rest ∧ reportCount front < 14 ∧
        let monitored := run (monitorStep platform) (.start began initial disk) (before ++ front)
        (countReport platform (report.on monitored.disk) monitored.watchdog).does
          Effect.isRestart = true) := by
  refine ⟨?_, ?_, ?_⟩
  · intro before report monitored
    rw [onAppCrash_checks]
    exact decide_eq_decide.mpr (checksNow_iff platform rfl before)
  · intro events healthy
    exact healthy_undisturbed platform rfl healthy
  · intro before after exam enough
    let reached := run (monitorStep platform) (Monitored.start began initial disk) before
    have below : reached.watchdog.counter < 7 := by
      rw [run_counter platform (Nat.zero_lt_succ _)]
      exact Nat.mod_lt _ (by omega)
    have bounded : restartBound path reached ≤ 14 := by
      rw [restartBound]
      split <;> omega
    obtain ⟨front, report, rest, split, within, restarts⟩ :=
      silence_restarts platform below exam (bounded.trans enough)
    refine ⟨front, report, rest, split, Nat.lt_of_lt_of_le within bounded, ?_⟩
    rw [run_append]
    exact (countReport_restarts ..).trans (decide_eq_true restarts)

/-- A history file that names a status file during an exam. -/
def monitoredVersion : QJsonObject :=
  set (set empty "app_current_step" (.string "STEP2")) "thread_history_path"
    (.string "status.json")

/-- A report of a running application under that history file. -/
def runningReport : Report where
  now := 10000
  isRunning := true
  reads := .of (.text (some monitoredVersion)) .missing

/-- One heartbeat and the seven reports up to the first check. -/
def firstRound : List MonitorEvent :=
  .appWrites "status.json" (set empty "recording_process_state" (.bool true)) ::
    List.replicate 7 (.report runningReport)

theorem firstRound_healthy : HealthyRun "status.json" firstRound := by
  have only : ∀ report, .report report ∈ firstRound → report = runningReport := by
    intro report member
    simpa [firstRound, List.mem_replicate] using member
  refine ⟨?_, ?_, ?_, ?_⟩
  · intro report member
    rw [only report member]
    decide
  · intro report member
    rw [only report member]
    rfl
  · intro keys member
    right
    simp only [firstRound, List.mem_cons, MonitorEvent.appWrites.injEq, true_and,
      List.mem_replicate, reduceCtorEq, and_false, or_false] at member
    rw [member, set_apply_self]
  · intro before report after split _
    cases before with
    | nil => exact absurd (List.cons.inj split).1 (by simp)
    | cons head before =>
        rw [List.cons_append] at split
        obtain ⟨rfl, tail⟩ := List.cons.inj split
        have counts := congrArg reportCount tail
        have total : reportCount (List.replicate 7 (.report runningReport)) = 7 := by decide
        rw [total, reportCount_append, reportCount_report] at counts
        refine ⟨[], _, before, rfl, ⟨rfl, set_apply_self ..⟩, ?_⟩
        rw [reportCount_nil, reportCount_appWrites]
        omega

theorem replicate_silentExam :
    SilentExam "status.json" (List.replicate 14 (.report runningReport)) := by
  refine ⟨?_, ?_, ?_⟩
  · intro report member
    rw [MonitorEvent.report.inj (List.eq_of_mem_replicate member)]
    decide
  · intro report member
    rw [MonitorEvent.report.inj (List.eq_of_mem_replicate member)]
    decide
  · intro event member
    rw [List.eq_of_mem_replicate member]
    exact id

/-- A round with one heartbeat is healthy, and fourteen reports without one after
it make a check restart the application. -/
theorem hang_detection_first_rounds :
    Always (monitorStep .windows) (fun monitored event => ∀ report, event = .report report →
        let handled := onAppCrash .windows (report.on monitored.disk) monitored.watchdog
        handled.does Effect.isRestart = false ∧ handled.does Effect.isQuit = false)
      (.start 0 ⟨.missing, .missing, .missing⟩ fun _ => .missing) firstRound ∧
    ∃ front report rest,
      List.replicate 14 (.report runningReport) = front ++ .report report :: rest ∧
        reportCount front < 14 ∧
        let monitored := run (monitorStep .windows)
          (.start 0 ⟨.missing, .missing, .missing⟩ fun _ => .missing) (firstRound ++ front)
        (countReport .windows (report.on monitored.disk) monitored.watchdog).does
          Effect.isRestart = true := by
  have detection := hang_detection .windows 0 ⟨.missing, .missing, .missing⟩
    (fun _ => .missing) "status.json"
  exact ⟨detection.2.1 firstRound firstRound_healthy,
    detection.2.2 firstRound _ replicate_silentExam (by decide)⟩

end WatchDog
