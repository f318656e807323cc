import WatchDogProcess.Analysis.SupervisedKills

/-! # How long the application can stay absent

During an exam, and until the watchdog has given up, every scan of an absent
application calls `RestartProctortrack`. The call restarts unless its stopwatch
shows less than the threshold, and the stopwatch is not touched otherwise, so
after the first scan of an absence the threshold passes at most once, whatever
the stopwatch showed and although it wraps after a day
(`WatchDog.Supervised.Awaiting`). A launch follows a second after the restart.

So an absence lasts at most two waits for a scan, the longest threshold and one
second (`WatchDog.absence_is_bounded`), provided that the threshold and one wait fit
into the day after which the stopwatch wraps.
-/

namespace WatchDog

open EventRun Stopwatch

/-- The longest time that a restart can have to wait for, after the one before. -/
def longestThreshold : Platform → Nat
  | .windows => 10000
  | .macOS => 180000

theorem restartThreshold_le_longest (platform : Platform) (watchdog : ProctoringWatchDog) :
    restartThreshold platform watchdog ≤ longestThreshold platform := by
  cases platform with
  | windows => exact Nat.le_refl 10000
  | macOS =>
      simp only [restartThreshold, longestThreshold]
      split <;> omega

namespace Supervised

/-- Scans are at most `gap` apart, and complete; their reports go on with the exam
and have not given up; a launch starts the product. -/
def Attended (computer : Computer) (product : Product) (gap : Nat) (state : Supervised) :
    SupervisedEvent → Prop
  | .wait moment => moment ≤ state.lastScan + gap
  | .scan calls reads => (calls.on state.table).Complete ∧
      Keeps ⟨state.loop.now, false, reads⟩
        (decidingStep ⟨state.loop.now, false, reads⟩ state.loop.watchdog) ∧
      ¬ (Covers ⟨state.loop.now, false, reads⟩ ∧ 5 ≤ state.loop.watchdog.appLaunchRetryCountre)
  | .launch _ history pid => Locates computer product history ∧ pid ≠ none
  | _ => True

/-- How far the watchdog is in an absence that began at some moment: no scan yet;
the stopwatch runs up to the threshold; the launch is pending. -/
inductive Awaiting (computer : Computer) (gap absent : Nat) (state : Supervised) : Prop where
  | unscanned (early : state.lastScan ≤ absent) (now : state.loop.now ≤ absent + gap)
  | counting (shown : elapsed dayMs state.loop.watchdog.waitForAppToLaunch state.lastScan <
        longestThreshold computer.platform)
      (scanned : state.lastScan ≤
        absent + gap + elapsed dayMs state.loop.watchdog.waitForAppToLaunch state.lastScan)
      (started : state.loop.watchdog.waitForAppToLaunch ≤ state.lastScan)
      (now : state.loop.now ≤ state.lastScan + gap)
  | launching (restarted : state.loop.watchdog.waitForAppToLaunch ≤
        absent + 2 * gap + longestThreshold computer.platform)
      (pending : ⟨state.loop.watchdog.waitForAppToLaunch,
        state.loop.watchdog.waitForAppToLaunch + 1000, .launchApp⟩ ∈ state.loop.pending)

variable {computer : Computer} {product : Product} {began gap absent : Nat} {state : Supervised}
  {event : SupervisedEvent}

/-- In each of these phases the absence has not lasted longer than the bound. -/
theorem Awaiting.now_le (awaiting : Awaiting computer gap absent state)
    (inOrder : state.loop.InOrder began) :
    state.loop.now ≤ absent + (2 * gap + longestThreshold computer.platform + 1000) := by
  cases awaiting with
  | unscanned early now => omega
  | counting shown scanned started now =>
      generalize elapsed dayMs state.loop.watchdog.waitForAppToLaunch state.lastScan = shows
        at shown scanned
      omega
  | launching restarted pending =>
      obtain ⟨restarts, queue⟩ := inOrder.queue
      have due : state.loop.now ≤ state.loop.watchdog.waitForAppToLaunch + 1000 :=
        queue.notPast _ pending
      calc state.loop.now
        _ ≤ state.loop.watchdog.waitForAppToLaunch + 1000 := due
        _ ≤ absent + 2 * gap + longestThreshold computer.platform + 1000 :=
            Nat.add_le_add_right restarted 1000
        _ = absent + (2 * gap + longestThreshold computer.platform + 1000) := by
            simp only [Nat.add_assoc]

/-- As long as no launch is pending, the absence has lasted at most two waits for a
scan and the threshold. -/
theorem Awaiting.now_le_of_quiet (awaiting : Awaiting computer gap absent state)
    (quiet : state.loop.pending = []) :
    state.loop.now ≤ absent + 2 * gap + longestThreshold computer.platform := by
  cases awaiting with
  | unscanned early now => omega
  | counting shown scanned started now =>
      generalize elapsed dayMs state.loop.watchdog.waitForAppToLaunch state.lastScan = shows
        at shown scanned
      omega
  | launching restarted pending =>
      rw [quiet] at pending
      exact absurd pending List.not_mem_nil

/-- A scan of an absent application is handled as a report that calls `RestartProctortrack`. -/
theorem attended_scan {calls : ScanCalls} {reads : ReportReads}
    (attended : state.Attended computer product gap (.scan calls reads)) :
    CallsRestart ⟨state.loop.now, false, reads⟩ state.loop.watchdog :=
  Or.inr ⟨rfl, attended.2.1, attended.2.2⟩

/-- What such a scan leaves: a restart if one is due, and otherwise the stopwatch
and the timers as they were. -/
theorem loop_attended_scan
    (named : productOf computer.folding state.thread.appName = some product)
    {calls : ScanCalls} {reads : ReportReads} (onPlatform : calls.platform = computer.platform)
    (attended : state.Attended computer product gap (.scan calls reads))
    (missing : ¬ state.Present computer product) :
    let next := (state.step computer (.scan calls reads)).loop
    next.now = state.loop.now ∧
      next.watchdog.waitForAppToLaunch =
        (if RestartDue computer.platform state.loop.now state.loop.watchdog then state.loop.now
        else state.loop.watchdog.waitForAppToLaunch) ∧
      next.pending = state.loop.pending ++
        (if RestartDue computer.platform state.loop.now state.loop.watchdog then
          restartPair state.loop.now else []) := by
  have restarts := onAppCrash_restartsWhen computer.platform ⟨state.loop.now, false, reads⟩
    state.loop.watchdog
  have calls' := attended_scan attended
  rw [loop_scan named onPlatform attended.1]
  simp only [missing, decide_false, loopStep, restarts.stopwatch, restarts.timers, calls', true_and]

/-- A scan takes the absence one phase further, or leaves it counting. -/
theorem Awaiting.scan (awaiting : Awaiting computer gap absent state)
    (inOrder : state.loop.InOrder began) (scannedBefore : state.lastScan ≤ state.loop.now)
    (named : productOf computer.folding state.thread.appName = some product)
    (short : longestThreshold computer.platform + gap ≤ dayMs)
    {calls : ScanCalls} {reads : ReportReads} (onPlatform : calls.platform = computer.platform)
    (attended : state.Attended computer product gap (.scan calls reads))
    (missing : ¬ state.Present computer product) :
    Awaiting computer gap absent (state.step computer (.scan calls reads)) := by
  obtain ⟨now, stopwatch, pending⟩ :=
    loop_attended_scan named onPlatform attended missing
  have lastScan : (state.step computer (.scan calls reads)).lastScan = state.loop.now := rfl
  have bound := restartThreshold_le_longest computer.platform state.loop.watchdog
  have restarted := inOrder.restarted
  by_cases due : RestartDue computer.platform state.loop.now state.loop.watchdog
  · -- the restart is scheduled, and its launch is pending
    simp only [due, ↓reduceIte] at stopwatch pending
    refine .launching ?_ ?_
    · rw [stopwatch]
      have late := awaiting.now_le_of_quiet (inOrder.pending_nil due)
      omega
    · rw [stopwatch, pending, restartPair]
      exact List.mem_append_right _ (List.mem_cons_of_mem _ List.mem_cons_self)
  · simp only [due, ↓reduceIte, List.append_nil] at stopwatch pending
    cases awaiting with
    | unscanned early soon =>
        refine .counting ?_ ?_ ?_ ?_
        · rw [stopwatch, lastScan]
          exact (Nat.lt_of_not_le due).trans_le bound
        · rw [stopwatch, lastScan]
          exact soon.trans (Nat.le_add_right _ _)
        · rw [stopwatch, lastScan]
          exact restarted
        · rw [now, lastScan]
          exact Nat.le_add_right _ _
    | counting shown scanned started soon =>
        have within : elapsed dayMs state.loop.watchdog.waitForAppToLaunch state.lastScan +
            (state.loop.now - state.lastScan) < dayMs := by
          generalize elapsed dayMs state.loop.watchdog.waitForAppToLaunch state.lastScan = shows
            at shown
          omega
        have runs := elapsed_add started scannedBefore within
        refine .counting ?_ ?_ ?_ ?_
        · rw [stopwatch, lastScan]
          exact (Nat.lt_of_not_le due).trans_le bound
        · rw [stopwatch, lastScan, runs]
          generalize elapsed dayMs state.loop.watchdog.waitForAppToLaunch state.lastScan = shows
            at scanned
          omega
        · rw [stopwatch, lastScan]
          exact restarted
        · rw [now, lastScan]
          exact Nat.le_add_right _ _
    | launching began waits =>
        refine .launching ?_ ?_
        · rw [stopwatch]
          exact began
        · rw [stopwatch, pending]
          exact waits

/-! ### The whole absence -/

/-- What holds in every run of a watchdog configured for the product. -/
structure Watching (computer : Computer) (product : Product) (began : Nat) (state : Supervised) :
    Prop where
  inOrder : state.loop.InOrder began
  scannedBefore : state.lastScan ≤ state.loop.now
  named : productOf computer.folding state.thread.appName = some product

theorem Watching.step (watching : Watching computer product began state)
    (enabled : state.Enabled computer event) :
    Watching computer product began (state.step computer event) := by
  refine ⟨inOrder_step watching.inOrder enabled, ?_, ?_⟩
  · cases event with
    | wait moment => exact watching.scannedBefore.trans enabled.1
    | scan calls reads => simp only [Supervised.step, now_reports, le_refl]
    | kill timer history ends => exact watching.scannedBefore
    | launch timer history pid => exact watching.scannedBefore
    | starts pid executable => exact watching.scannedBefore
    | exits process => exact watching.scannedBefore
  · rw [appName_step]
    exact watching.named

/-- The application is still awaited, or it has come back in time. -/
def AwaitedOrBack (computer : Computer) (product : Product) (gap absent : Nat)
    (state : Supervised) : Prop :=
  Awaiting computer gap absent state ∨ state.Present computer product ∧
    state.loop.now ≤ absent + (2 * gap + longestThreshold computer.platform + 1000)

/-- One event of an absence: the application is still awaited, or back by a launch. -/
theorem Awaiting.step (awaiting : Awaiting computer gap absent state)
    (watching : Watching computer product began state)
    (short : longestThreshold computer.platform + gap ≤ dayMs)
    (enabled : state.Enabled computer event)
    (attended : state.Attended computer product gap event)
    (missing : ¬ state.Present computer product) :
    (state.step computer event).AwaitedOrBack computer product gap absent := by
  cases event with
  | wait moment =>
      refine Or.inl ?_
      have soon : moment ≤ state.lastScan + gap := attended
      cases awaiting with
      | unscanned early now =>
          exact .unscanned early (soon.trans (Nat.add_le_add_right early gap))
      | counting shown scanned started now => exact .counting shown scanned started soon
      | launching restarted pending => exact .launching restarted pending
  | scan calls reads =>
      exact Or.inl (awaiting.scan watching.inOrder watching.scannedBefore watching.named short
        enabled attended missing)
  | kill timer history ends =>
      refine Or.inl ?_
      cases awaiting with
      | unscanned early now => exact .unscanned early now
      | counting shown scanned started now => exact .counting shown scanned started now
      | launching restarted pending =>
          have other : (⟨state.loop.watchdog.waitForAppToLaunch,
              state.loop.watchdog.waitForAppToLaunch + 1000, .launchApp⟩ : Timer) ≠ timer := by
            intro same
            have kills := enabled.1
            rw [← same] at kills
            cases kills
          exact .launching restarted ((List.mem_erase_of_ne other).mpr pending)
  | launch timer history pid =>
      refine Or.inr ⟨?_, awaiting.now_le watching.inOrder⟩
      obtain ⟨number, found⟩ := Option.ne_none_iff_exists'.mp attended.2
      refine ⟨⟨number, product.executable computer.platform, state.loop.now, true⟩, ?_, rfl⟩
      simp only [Supervised.step, attended.1.launches, found, Option.toList_some, List.map_cons,
        List.map_nil, List.mem_append, List.mem_singleton, or_true]
  | starts pid executable =>
      refine Or.inl ?_
      cases awaiting with
      | unscanned early now => exact .unscanned early now
      | counting shown scanned started now => exact .counting shown scanned started now
      | launching restarted pending => exact .launching restarted pending
  | exits process =>
      refine Or.inl ?_
      cases awaiting with
      | unscanned early now => exact .unscanned early now
      | counting shown scanned started now => exact .counting shown scanned started now
      | launching restarted pending => exact .launching restarted pending

end Supervised

/-- **An absence is bounded.** In every run of a watchdog configured for a product, and
for every `gap` that fits with the longest restart threshold into a day: however the run
went before, once the product is not running, and as long as it is not, the scans are
complete and at most `gap` apart, their reports go on with the exam and have not given
up, and the launches start the product, no more time passes than two such gaps, the
longest restart threshold and one second. -/
theorem absence_is_bounded (computer : Computer) (product : Product) (began : Nat)
    (initial : ConstructorReads) (reads : ThreadReads) (table : List OsProcess)
    (before absence : List SupervisedEvent) (gap : Nat)
    (short : longestThreshold computer.platform + gap ≤ dayMs)
    (named : productOf computer.folding (getApplicationName reads.appName) = some product)
    (enabled : Always (Supervised.step computer) (Supervised.Enabled computer)
      (.start began initial reads table) (before ++ absence)) :
    let lost := run (Supervised.step computer) (.start began initial reads table) before
    Always (Supervised.step computer) (Supervised.Attended computer product gap) lost absence →
      Always (Supervised.step computer) (fun state _ => ¬ state.Present computer product) lost
        absence →
      (run (Supervised.step computer) lost absence).loop.now ≤
        lost.loop.now + (2 * gap + longestThreshold computer.platform + 1000) := by
  intro lost attended missing
  obtain ⟨enabledBefore, enabledLost⟩ := (always_append ..).mp enabled
  have initially : Supervised.Watching computer product began
      (.start began initial reads table) :=
    ⟨Supervised.inOrder_start began initial reads table, le_refl began, named⟩
  have watching : Supervised.Watching computer product began lost :=
    invariant_run (fun _ _ watching legal => watching.step legal) initially enabledBefore
  have awaiting : Supervised.AwaitedOrBack computer product gap lost.loop.now lost :=
    Or.inl (.unscanned watching.scannedBefore (Nat.le_add_right _ gap))
  have always := (always_and lost absence).mpr
    ⟨enabledLost, (always_and lost absence).mpr ⟨attended, missing⟩⟩
  have kept : ∀ state event,
      Supervised.Watching computer product began state ∧
        Supervised.AwaitedOrBack computer product gap lost.loop.now state →
      Supervised.Enabled computer state event ∧
        Supervised.Attended computer product gap state event ∧
          ¬ state.Present computer product →
      Supervised.Watching computer product began (state.step computer event) ∧
        Supervised.AwaitedOrBack computer product gap lost.loop.now
          (state.step computer event) := by
    rintro state event ⟨watching, waits | ⟨back, -⟩⟩ ⟨legal, attended, missing⟩
    · exact ⟨watching.step legal, waits.step watching short legal attended missing⟩
    · exact absurd back missing
  obtain ⟨finally', waits | ⟨-, inTime⟩⟩ := invariant_run kept ⟨watching, awaiting⟩ always
  · exact waits.now_le finally'.inOrder
  · exact inTime

/-- An absence from the start on: a scan after ten seconds, the kill and the launch. -/
def examAbsence : List SupervisedEvent :=
  [.wait 10000, .scan (.windows ⟨true, true, fun _ => true⟩) (.of examHistory .missing),
    .wait 10100, .kill ⟨10000, 10100, .killProctortrackIfNotResponding⟩ examHistory
      (fun _ => true), .wait 11000, .launch ⟨10000, 11000, .launchApp⟩ examHistory (some 9)]

theorem absence_is_bounded_exam :
    (run (Supervised.step examComputer) examStart examAbsence).loop.now ≤
      0 + (2 * 10000 + 10000 + 1000) := by
  have enabled : Always (Supervised.step examComputer) (Supervised.Enabled examComputer)
      examStart ([] ++ examAbsence) := by decide
  have missing : Always (Supervised.step examComputer)
      (fun state _ => ¬ state.Present examComputer .remoteDesk) examStart examAbsence := by decide
  have attended : Always (Supervised.step examComputer)
      (Supervised.Attended examComputer .remoteDesk 10000) examStart examAbsence := by
    have complete : ((ScanCalls.windows ⟨true, true, fun _ => true⟩).on examStart.table).Complete :=
      ⟨rfl, rfl, List.cons_ne_nil _ _, fun _ _ => rfl⟩
    have punctual : 10000 ≤ 0 + 10000 ∧ 10100 ≤ 10000 + 10000 ∧ 11000 ≤ 10000 + 10000 := by decide
    exact ⟨punctual.1, ⟨complete, by decide, by decide⟩, punctual.2.1, trivial, punctual.2.2,
      ⟨examHistory_locates, by decide⟩, trivial⟩
  exact absence_is_bounded examComputer .remoteDesk 0 ⟨.missing, .missing, .missing⟩
    ⟨examHistory, examHistory, examHistory, examHistory⟩ [⟨1, "explorer.exe", 0, false⟩] []
    examAbsence 10000 (by decide) (by decide) enabled attended missing

end WatchDog
