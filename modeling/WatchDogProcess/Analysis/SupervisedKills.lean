import WatchDogProcess.Analysis.LaunchCommand
import WatchDogProcess.Analysis.RestartSpacing
import WatchDogProcess.Watchdog.Supervision

/-! # What kills and launches find

A restart kills 100 ms after the scan that found the application missing, and
launches 900 ms after the kill. Between the scan and the kill, and between the
kill and the launch, only others can start the application.

* As long as the scans are complete and the heartbeat checks find no broken
  application, a kill finds no process that the watchdog launched and none that
  was started more than 100 ms ago (`WatchDog.kills_find_application_absent`).
* As long as the kills end what they name, a launch finds no process that the
  watchdog launched and none that was started more than 900 ms ago, so at most
  one process that it launched is running (`WatchDog.launches_replace`).
-/

namespace WatchDog

open EventRun

/-! ### The event loop -/

/-- The restarts scheduled so far are in order, and the last one is not in the future. -/
structure EventLoop.InOrder (began : Nat) (loop : EventLoop) : Prop where
  queue : ∃ restarts, RestartQueue began loop restarts
  restarted : loop.watchdog.waitForAppToLaunch ≤ loop.now

namespace EventLoop.InOrder

variable {began : Nat} {loop : EventLoop}

theorem step (platform : Platform) (inOrder : loop.InOrder began) {event : LoopEvent}
    (legal : event.Legal loop) : (loopStep platform loop event).InOrder began := by
  obtain ⟨restarts, queue⟩ := inOrder.queue
  refine ⟨restartQueue_step platform queue event legal, ?_⟩
  cases event with
  | wait moment => exact inOrder.restarted.trans legal.1
  | call timer => exact inOrder.restarted
  | report isRunning reads =>
      rcases onAppCrash_restartsOnce platform ⟨loop.now, isRunning, reads⟩ loop.watchdog with
        ⟨-, same⟩ | ⟨-, restarted, -⟩
      · simpa only [loopStep, same] using inOrder.restarted
      · simp only [loopStep, restarted, le_refl]

theorem run (platform : Platform) (inOrder : loop.InOrder began) {events : List LoopEvent}
    (legal : Always (loopStep platform) (fun loop event => event.Legal loop) loop events) :
    (EventRun.run (loopStep platform) loop events).InOrder began :=
  invariant_run (fun _ _ inOrder legal => inOrder.step platform legal) inOrder legal

/-- When a restart is due no timer is pending. -/
theorem pending_nil (inOrder : loop.InOrder began) {platform : Platform}
    (due : RestartDue platform loop.now loop.watchdog) : loop.pending = [] := by
  obtain ⟨restarts, queue⟩ := inOrder.queue
  exact queue.pending_nil due.add_le

/-- No pending timer was started in the future. -/
theorem started_le (inOrder : loop.InOrder began) {timer : Timer} (member : timer ∈ loop.pending) :
    timer.started ≤ loop.now := by
  obtain ⟨restarts, queue⟩ := inOrder.queue
  have restarted := inOrder.restarted
  have pair := queue.pendingLast.subset member
  rw [restartPair, List.mem_cons, List.mem_singleton] at pair
  rcases pair with rfl | rfl <;> exact restarted

/-- A kill that is due is followed by the launch of its restart, 100 ms after the
restart was scheduled. -/
theorem pending_of_kill (inOrder : loop.InOrder began) {timer : Timer}
    (kills : timer.slot = .killProctortrackIfNotResponding)
    (legal : (LoopEvent.call timer).Legal loop) :
    loop.pending = [timer, ⟨timer.started, timer.started + 1000, .launchApp⟩] ∧
      loop.now = timer.started + 100 := by
  obtain ⟨restarts, queue⟩ := inOrder.queue
  obtain ⟨member, due⟩ := legal
  rcases suffix_restartPair queue.pendingLast with none | launch | both
  · rw [none] at member
    exact absurd member List.not_mem_nil
  · rw [launch, List.mem_singleton] at member
    rw [member] at kills
    cases kills
  · have pair := member
    rw [both, restartPair, List.mem_cons, List.mem_singleton] at pair
    rcases pair with rfl | rfl
    · exact ⟨both, due.symm⟩
    · cases kills

/-- A launch that is due is the last timer pending, 1000 ms after its restart was
scheduled. -/
theorem pending_of_launch (inOrder : loop.InOrder began) {timer : Timer}
    (launches : timer.slot = .launchApp) (legal : (LoopEvent.call timer).Legal loop) :
    loop.pending = [timer] ∧ loop.now = timer.started + 1000 := by
  obtain ⟨restarts, queue⟩ := inOrder.queue
  obtain ⟨rest, head⟩ := queue.call_head legal.1 legal.2
  rcases suffix_restartPair queue.pendingLast with none | launch | both
  · rw [none] at head
    cases head
  · rw [launch] at head ⊢
    have same := (List.cons.inj head).1
    subst same
    exact ⟨rfl, legal.2.symm⟩
  · rw [both, restartPair] at head
    have same := (List.cons.inj head).1
    subst same
    cases launches

end EventLoop.InOrder

namespace Supervised

variable {computer : Computer} {product : Product} {began : Nat} {state : Supervised}
  {event : SupervisedEvent}

theorem inOrder_start (began : Nat) (initial : ConstructorReads) (reads : ThreadReads)
    (table : List OsProcess) : (start began initial reads table).loop.InOrder began :=
  ⟨⟨[], { restartQueue_start began initial with }⟩, le_refl began⟩

theorem inOrder_step (inOrder : state.loop.InOrder began)
    (enabled : state.Enabled computer event) : (state.step computer event).loop.InOrder began := by
  rw [loop_step]
  exact inOrder.run computer.platform (legal_loopEvents enabled)

/-! ### Kills -/

/-- The scan reads the whole table, and its report finds no broken application. -/
def Healthy (state : Supervised) : SupervisedEvent → Prop
  | .scan calls reads => (calls.on state.table).Complete ∧
      ¬ CheckRestarts ⟨state.loop.now, true, reads⟩ state.loop.watchdog
  | _ => True

/-- While a kill is pending, every process of the product was started by others
after the scan that scheduled the kill. -/
structure Backed (computer : Computer) (product : Product) (began : Nat) (state : Supervised) :
    Prop where
  inOrder : state.loop.InOrder began
  named : productOf computer.folding state.thread.appName = some product
  fresh : ∀ timer ∈ state.loop.pending, timer.kills = true → ∀ process ∈ state.table,
    process.executable = product.executable computer.platform →
      process.launched = false ∧ timer.started ≤ process.since

/-- A healthy scan starts timers only when it finds no process of the product. -/
theorem Backed.scan (backed : Backed computer product began state) {calls : ScanCalls}
    {reads : ReportReads} (onPlatform : calls.platform = computer.platform)
    (healthy : state.Healthy (.scan calls reads)) :
    (state.step computer (.scan calls reads)).loop.pending = state.loop.pending ∨
      ¬ state.Present computer product := by
  rw [loop_scan backed.named onPlatform healthy.1]
  by_cases present : state.Present computer product
  · refine Or.inl ?_
    have restarts := onAppCrash_restartsWhen computer.platform
      ⟨state.loop.now, decide (state.Present computer product), reads⟩ state.loop.watchdog
    have quiet : ¬ CallsRestart ⟨state.loop.now, decide (state.Present computer product), reads⟩
        state.loop.watchdog := by
      rintro (checks | ⟨missing, -⟩)
      · exact healthy.2 checks
      · simp only [present, decide_true, Bool.true_eq_false] at missing
    simp only [loopStep, restarts.timers, quiet, false_and, ↓reduceIte, List.append_nil]
  · exact Or.inr present

theorem Backed.step (backed : Backed computer product began state)
    (enabled : state.Enabled computer event) (healthy : state.Healthy event) :
    Backed computer product began (state.step computer event) := by
  refine ⟨inOrder_step backed.inOrder enabled, ?_, ?_⟩
  · rw [appName_step]
    exact backed.named
  · cases event with
    | wait moment => exact backed.fresh
    | scan calls reads =>
        intro timer member kills process running image
        rcases backed.scan enabled healthy with same | absent
        · rw [same] at member
          exact backed.fresh timer member kills process running image
        · exact absurd ⟨process, running, image⟩ absent
    | kill timer history ends =>
        intro other member kills process running image
        exact backed.fresh other (List.mem_of_mem_erase member) kills process
          (List.mem_of_mem_filter running) image
    | launch timer history pid =>
        intro other member
        have last := (backed.inOrder.pending_of_launch enabled.1 enabled.2).1
        simp only [Supervised.step, loopStep, last, List.erase_cons_head, List.not_mem_nil]
          at member
    | starts pid executable =>
        intro timer member kills process running image
        rcases List.mem_append.mp running with before | new
        · exact backed.fresh timer member kills process before image
        · rw [List.mem_singleton.mp new]
          exact ⟨rfl, backed.inOrder.started_le member⟩
    | exits ended =>
        intro timer member kills process running image
        exact backed.fresh timer member kills process (List.mem_of_mem_erase running) image

/-- The kill finds no process of the product but those that others started within
the last 100 ms. -/
def KillFindsNewcomers (computer : Computer) (product : Product) (state : Supervised) :
    SupervisedEvent → Prop
  | .kill _ _ _ => ∀ process ∈ state.table,
      process.executable = product.executable computer.platform →
        process.launched = false ∧ state.loop.now ≤ process.since + 100
  | _ => True

theorem Backed.kill (backed : Backed computer product began state)
    (enabled : state.Enabled computer event) : state.KillFindsNewcomers computer product event := by
  cases event with
  | kill timer history ends =>
      intro process running image
      have now := (backed.inOrder.pending_of_kill enabled.1 enabled.2).2
      have kills : timer.kills = true := by simp only [Timer.kills, enabled.1, decide_true]
      obtain ⟨notLaunched, since⟩ :=
        backed.fresh timer enabled.2.1 kills process running image
      exact ⟨notLaunched, by omega⟩
  | wait moment => trivial
  | scan calls reads => trivial
  | launch timer history pid => trivial
  | starts pid executable => trivial
  | exits process => trivial

/-! ### Launches -/

/-- The location that the history file gives is the product's program. -/
def Locates (computer : Computer) (product : Product) (history : ReadOutcome) : Prop :=
  '"' ∉ (getAppRunningLocation history).toList ∧ getAppRunningLocation history ≠ "" ∧
    computer.imageOf (launchProgram computer.platform (getAppRunningLocation history)) =
      product.executable computer.platform

instance (computer : Computer) (product : Product) (history : ReadOutcome) :
    Decidable (Locates computer product history) :=
  inferInstanceAs (Decidable (_ ∧ _ ∧ _))

/-- A launch that succeeds on such a location starts the product. -/
theorem Locates.launches {history : ReadOutcome} (locates : Locates computer product history)
    (now : Nat) (pid : Option Nat) :
    launches computer now history pid = pid.toList.map fun number =>
      ⟨number, product.executable computer.platform, now, true⟩ := by
  obtain ⟨noQuote, configured, image⟩ := locates
  unfold Supervised.launches
  rw [launchApp_of_configured noQuote configured, ← image]
  cases pid <;> rfl

/-- A kill read a history file that names no other product and ends every process
that it names; a launch read one that locates the product. -/
def Configured (computer : Computer) (product : Product) (state : Supervised) :
    SupervisedEvent → Prop
  | .kill _ history ends =>
      (∀ other : Product, getApplicationName history = other.name → other = product) ∧
        ∀ process ∈ state.table, ends process = true
  | .launch _ history _ => Locates computer product history
  | _ => True

/-- Such a kill ends every process of the product. -/
theorem Configured.ends {timer : Timer} {history : ReadOutcome} {ends : OsProcess → Bool}
    (configured : state.Configured computer product (.kill timer history ends)) :
    ∀ process ∈ (state.step computer (.kill timer history ends)).table,
      process.executable ≠ product.executable computer.platform := by
  intro process running image
  have targeted : product.executable computer.platform ∈ killed computer.platform history := by
    by_cases other : ∀ other : Product, getApplicationName history ≠ other.name
    · exact mem_killed_of_other other product
    · simp only [ne_eq, not_forall, not_not] at other
      obtain ⟨named, isName⟩ := other
      obtain rfl := configured.1 named isName
      exact (mem_killed_of_name isName _).mpr (Or.inl rfl)
  obtain ⟨before, survives⟩ := List.mem_filter.mp running
  have ended := configured.2 process before
  simp [image, ended, targeted] at survives

/-- At most one process that the watchdog launched is running. Between a kill and
its launch there is none, and every process of the product was started by others
after the kill. -/
structure Replaced (computer : Computer) (product : Product) (began : Nat) (state : Supervised) :
    Prop where
  inOrder : state.loop.InOrder began
  image : ∀ process ∈ state.table, process.launched = true →
    process.executable = product.executable computer.platform
  single : state.table.countP OsProcess.launched ≤ 1
  gone : ∀ launch, state.loop.pending = [launch] → launch.started + 100 ≤ state.loop.now ∧
    ∀ process ∈ state.table, process.executable = product.executable computer.platform →
      process.launched = false ∧ launch.started + 100 ≤ process.since

/-- Reports add no timer to a single one: a restart adds two. -/
theorem pending_of_reports (computer : Computer) (reads : ReportReads) {launch : Timer}
    {emitted : List Bool} {loop : EventLoop}
    (pending : (emitted.foldl (fun loop isRunning =>
      loopStep computer.platform loop (.report isRunning reads)) loop).pending = [launch]) :
    loop.pending = [launch] := by
  induction emitted generalizing loop with
  | nil => exact pending
  | cons isRunning emitted ih =>
      have later := ih pending
      rcases onAppCrash_restartsOnce computer.platform ⟨loop.now, isRunning, reads⟩ loop.watchdog
        with ⟨none, -⟩ | ⟨pair, -, -⟩
      · simpa only [loopStep, none, List.append_nil] using later
      · have long := congrArg List.length later
        simp only [loopStep, pair, restartPair, List.length_append, List.length_cons,
          List.length_nil] at long
        omega

theorem now_reports (computer : Computer) (reads : ReportReads) (emitted : List Bool)
    (loop : EventLoop) :
    (emitted.foldl (fun loop isRunning =>
      loopStep computer.platform loop (.report isRunning reads)) loop).now = loop.now := by
  induction emitted generalizing loop with
  | nil => rfl
  | cons isRunning emitted ih => exact ih _

/-- Just before a launch no process that the watchdog launched is running. -/
theorem Replaced.none_launched (replaced : Replaced computer product began state)
    {launch : Timer} (last : state.loop.pending = [launch]) :
    state.table.countP OsProcess.launched = 0 := by
  rw [List.countP_eq_zero]
  intro process running launched
  have fresh := (replaced.gone launch last).2 process running
    (replaced.image process running launched)
  rw [fresh.1] at launched
  cases launched

theorem Replaced.step (replaced : Replaced computer product began state)
    (enabled : state.Enabled computer event) (configured : state.Configured computer product event) :
    Replaced computer product began (state.step computer event) := by
  have inOrder := inOrder_step replaced.inOrder enabled
  cases event with
  | wait moment =>
      refine ⟨inOrder, replaced.image, replaced.single, fun launch pending => ?_⟩
      obtain ⟨due, fresh⟩ := replaced.gone launch pending
      exact ⟨due.trans enabled.1, fresh⟩
  | scan calls reads =>
      refine ⟨inOrder, replaced.image, replaced.single, fun launch pending => ?_⟩
      simp only [Supervised.step, now_reports]
      exact replaced.gone launch (pending_of_reports computer reads pending)
  | kill timer history ends =>
      have survivors : (state.step computer (.kill timer history ends)).table.Sublist state.table :=
        List.filter_sublist
      refine ⟨inOrder, fun process running => replaced.image process (survivors.subset running),
        (survivors.countP_le).trans replaced.single, fun launch pending => ⟨?_, ?_⟩⟩
      · obtain ⟨pair, now⟩ := replaced.inOrder.pending_of_kill enabled.1 enabled.2
        simp only [Supervised.step, loopStep, pair, List.erase_cons_head, List.cons.injEq,
          and_true] at pending
        simp only [← pending, Supervised.step, loopStep, now, le_refl]
      · intro process running image
        exact absurd image (configured.ends process running)
  | launch timer history pid =>
      obtain ⟨last, now⟩ := replaced.inOrder.pending_of_launch enabled.1 enabled.2
      have none := replaced.none_launched last
      have new := configured.launches state.loop.now pid
      refine ⟨inOrder, ?_, ?_, fun launch pending => ?_⟩
      · intro process running launched
        rcases List.mem_append.mp running with before | started
        · exact replaced.image process before launched
        · rw [new, List.mem_map] at started
          obtain ⟨number, -, rfl⟩ := started
          rfl
      · have few : (launches computer state.loop.now history pid).length ≤ 1 := by
          rw [new, List.length_map]
          cases pid <;> simp
        simp only [Supervised.step, List.countP_append, none, Nat.zero_add]
        exact List.countP_le_length.trans few
      · simp only [Supervised.step, loopStep, last, List.erase_cons_head, List.nil_eq,
          List.cons_ne_nil] at pending
  | starts pid executable =>
      refine ⟨inOrder, ?_, ?_, fun launch pending => ?_⟩
      · intro process running launched
        rcases List.mem_append.mp running with before | new
        · exact replaced.image process before launched
        · rw [List.mem_singleton.mp new] at launched
          cases launched
      · simpa [Supervised.step, List.countP_append] using replaced.single
      · obtain ⟨due, fresh⟩ := replaced.gone launch pending
        refine ⟨due, fun process running image => ?_⟩
        rcases List.mem_append.mp running with before | new
        · exact fresh process before image
        · rw [List.mem_singleton.mp new]
          exact ⟨rfl, due⟩
  | exits ended =>
      have survivors : (state.table.erase ended).Sublist state.table := List.erase_sublist
      refine ⟨inOrder, fun process running => replaced.image process (survivors.subset running),
        (survivors.countP_le).trans replaced.single, fun launch pending => ?_⟩
      obtain ⟨due, fresh⟩ := replaced.gone launch pending
      exact ⟨due, fun process running => fresh process (survivors.subset running)⟩

/-- The launch finds no process of the product but those that others started within
the last 900 ms. -/
def LaunchFindsNewcomers (computer : Computer) (product : Product) (state : Supervised) :
    SupervisedEvent → Prop
  | .launch _ _ _ => ∀ process ∈ state.table,
      process.executable = product.executable computer.platform →
        process.launched = false ∧ state.loop.now ≤ process.since + 900
  | _ => True

theorem Replaced.launch (replaced : Replaced computer product began state)
    (enabled : state.Enabled computer event) :
    state.LaunchFindsNewcomers computer product event := by
  cases event with
  | launch timer history pid =>
      intro process running image
      obtain ⟨last, now⟩ := replaced.inOrder.pending_of_launch enabled.1 enabled.2
      obtain ⟨notLaunched, since⟩ := (replaced.gone timer last).2 process running image
      exact ⟨notLaunched, by omega⟩
  | wait moment => trivial
  | scan calls reads => trivial
  | kill timer history ends => trivial
  | starts pid executable => trivial
  | exits process => trivial

end Supervised

/-! ### Runs -/

section Runs

variable (computer : Computer) (product : Product) (began : Nat) (initial : ConstructorReads)
  (reads : ThreadReads) (table : List OsProcess) (events : List SupervisedEvent)

/-- **A kill finds the application absent.** In every run whose scans read the
whole table and find no broken application, whatever else happens in any order, a
kill finds no process with the product's executable that the watchdog launched, and
none that was running when the scan was made that scheduled the kill, 100 ms
earlier. -/
theorem kills_find_application_absent
    (named : productOf computer.folding (getApplicationName reads.appName) = some product)
    (enabled : Always (Supervised.step computer) (Supervised.Enabled computer)
      (.start began initial reads table) events)
    (healthy : Always (Supervised.step computer) Supervised.Healthy
      (.start began initial reads table) events) :
    Always (Supervised.step computer) (Supervised.KillFindsNewcomers computer product)
      (.start began initial reads table) events := by
  have always := (always_and (Supervised.start began initial reads table) events).mpr
    ⟨enabled, healthy⟩
  have initially : Supervised.Backed computer product began
      (.start began initial reads table) := by
    refine ⟨Supervised.inOrder_start began initial reads table, named, ?_⟩
    intro timer member
    exact absurd member List.not_mem_nil
  exact always_of_invariant (fun _ _ backed legal => backed.step legal.1 legal.2)
    (fun _ _ backed legal => backed.kill legal.1) initially always

/-- Windows, with processes listed under the last part of their program's path. -/
def examComputer : Computer where
  platform := .windows
  folding := .ascii
  spaces := .ascii
  imageOf := fun program =>
    String.ofList (program.toList.reverse.takeWhile (· ≠ '/')).reverse

/-- A history file in `STEP2` that names RemoteDesk and where it is. -/
def examHistory : ReadOutcome :=
  .text (some (KeyedRecord.set (KeyedRecord.set (KeyedRecord.set KeyedRecord.empty
    "app_current_step" (.string "STEP2")) "app_name" (.string "RemoteDesk"))
      "app_location" (.string "C:\\RD\\RemoteDesk.exe")))

/-- The supervised computer at the start of an exam without the application. -/
def examStart : Supervised :=
  .start 0 ⟨.missing, .missing, .missing⟩ ⟨examHistory, examHistory, examHistory, examHistory⟩
    [⟨1, "explorer.exe", 0, false⟩]

/-- A scan finds the application missing; someone starts it before the kill. -/
def examRestart : List SupervisedEvent :=
  [.wait 10000, .scan (.windows ⟨true, true, fun _ => true⟩) (.of examHistory .missing),
    .wait 10050, .starts 7 "RemoteDesk.exe", .wait 10100,
    .kill ⟨10000, 10100, .killProctortrackIfNotResponding⟩ examHistory (fun _ => true),
    .wait 11000, .launch ⟨10000, 11000, .launchApp⟩ examHistory (some 9)]

/-- In that run every event is enabled, and the kill finds only the newcomer. -/
theorem kills_find_application_absent_exam :
    Always (Supervised.step examComputer) (Supervised.Enabled examComputer) examStart examRestart ∧
    Always (Supervised.step examComputer)
      (Supervised.KillFindsNewcomers examComputer .remoteDesk) examStart examRestart := by
  have enabled : Always (Supervised.step examComputer) (Supervised.Enabled examComputer)
      examStart examRestart := by decide
  have healthy : Always (Supervised.step examComputer) Supervised.Healthy examStart
      examRestart := by
    have complete : ((ScanCalls.windows ⟨true, true, fun _ => true⟩).on examStart.table).Complete :=
      ⟨rfl, rfl, List.cons_ne_nil _ _, fun _ _ => rfl⟩
    exact ⟨trivial, ⟨complete, by decide⟩, trivial, trivial, trivial, trivial, trivial, trivial,
      trivial⟩
  exact ⟨enabled, kills_find_application_absent examComputer .remoteDesk 0
    ⟨.missing, .missing, .missing⟩ ⟨examHistory, examHistory, examHistory, examHistory⟩
    [⟨1, "explorer.exe", 0, false⟩] examRestart (by decide) enabled healthy⟩

/-- **A launch replaces the application.** In every run whose kills name no other
product and end what they name, and whose launches start the product's executable,
whatever else happens in any order, a launch finds no process that the watchdog
launched, and none of the product that was running when the kill was made, 900 ms
earlier; so at most one process that the watchdog launched is running. -/
theorem launches_replace (others : ∀ process ∈ table, process.launched = false)
    (enabled : Always (Supervised.step computer) (Supervised.Enabled computer)
      (.start began initial reads table) events)
    (configured : Always (Supervised.step computer) (Supervised.Configured computer product)
      (.start began initial reads table) events) :
    Always (Supervised.step computer) (Supervised.LaunchFindsNewcomers computer product)
        (.start began initial reads table) events ∧
      (run (Supervised.step computer) (.start began initial reads table) events).table.countP
        OsProcess.launched ≤ 1 := by
  have always := (always_and (Supervised.start began initial reads table) events).mpr
    ⟨enabled, configured⟩
  have initially : Supervised.Replaced computer product began
      (.start began initial reads table) := by
    refine ⟨Supervised.inOrder_start began initial reads table, ?_, ?_, ?_⟩
    · intro process running launched
      rw [others process running] at launched
      cases launched
    · have none : table.countP OsProcess.launched = 0 := by
        rw [List.countP_eq_zero]
        intro process running
        simp only [others process running, Bool.false_eq_true, not_false_eq_true]
      simp only [Supervised.start, none, Nat.zero_le]
    · intro launch pending
      simp only [Supervised.start, EventLoop.start, List.nil_eq, List.cons_ne_nil] at pending
  constructor
  · exact always_of_invariant (fun _ _ replaced legal => replaced.step legal.1 legal.2)
      (fun _ _ replaced legal => replaced.launch legal.1) initially always
  · exact (invariant_run (fun _ _ replaced legal => replaced.step legal.1 legal.2)
      initially always).single

theorem examHistory_locates : Supervised.Locates examComputer .remoteDesk examHistory := by
  decide

/-- In the same run the launch finds the newcomer killed, and its process is the one
that the watchdog launched. -/
theorem launches_replace_exam :
    Always (Supervised.step examComputer)
        (Supervised.LaunchFindsNewcomers examComputer .remoteDesk) examStart examRestart ∧
      (run (Supervised.step examComputer) examStart examRestart).table.countP
        OsProcess.launched ≤ 1 := by
  have enabled : Always (Supervised.step examComputer) (Supervised.Enabled examComputer)
      examStart examRestart := by decide
  have configured : Always (Supervised.step examComputer)
      (Supervised.Configured examComputer .remoteDesk) examStart examRestart := by
    have named : ∀ other : Product,
        getApplicationName examHistory = other.name → other = .remoteDesk := by
      intro other
      cases other <;> decide
    exact ⟨trivial, trivial, trivial, trivial, trivial, ⟨named, fun _ _ => rfl⟩, trivial,
      examHistory_locates, trivial⟩
  exact launches_replace examComputer .remoteDesk 0 ⟨.missing, .missing, .missing⟩
    ⟨examHistory, examHistory, examHistory, examHistory⟩ [⟨1, "explorer.exe", 0, false⟩]
    examRestart (by decide) enabled configured

end Runs

end WatchDog
