import WatchDogProcess.Monitor.ProcessTable
import Mathlib.Data.List.Forall2

/-! # The two branches of the scan

On one process table and with every system call successful, both branches of
`process` find the product in the same cases and say so in what they emit. They
differ in two ways: the macOS branch does not look at `dummyCall`, and it never
ends the first launch. So they are the same function exactly on the calls that
are not dummy calls and do not end the first launch
(`WatchDog.branches_agree_iff`).
-/

namespace WatchDog

/-- The two entries are the same process: the name on Windows carries the suffix, or
the process is no executable of any product under either name. -/
def SameProcess (entry : ProcessEntry) (pComm : String) : Prop :=
  entry.szExeFile = pComm ++ ".exe" ∨
    entry.szExeFile = pComm ∧ ∀ (product : Product) (platform : Platform),
      pComm ≠ product.executable platform

/-- What a scan emits is true exactly when the name is that of a product up to
letter case and the table has the executable of that product. -/
def EmitsPresence (folding : CaseFolding) (input : ScanInput) (thread : ProctortrackThread)
    (emitted : List Bool) : Prop :=
  ∀ value ∈ emitted, value = true ↔ ∃ product : Product,
    folding.same thread.appName product.name = true ∧
      product.executable input.platform ∈ input.names

/-- Two scans of one table do the same: they emit the same values, none on a dummy
call, leave the latch the same, and what they emit is right. -/
structure ScansAgree (folding : CaseFolding) (dummyCall : Int) (first second : ScanInput)
    (thread : ProctortrackThread) : Prop where
  emitted : (process folding dummyCall first thread).emitted =
    (process folding dummyCall second thread).emitted
  silent : dummyCall ≠ 0 → (process folding dummyCall first thread).emitted = [] ∧
    (process folding dummyCall second thread).emitted = []
  latch : (process folding dummyCall first thread).thread.isFristTimeLaunch =
    (process folding dummyCall second thread).thread.isFristTimeLaunch
  right : EmitsPresence folding first thread (process folding dummyCall first thread).emitted ∧
    EmitsPresence folding second thread (process folding dummyCall second thread).emitted

variable (folding : CaseFolding) {entries : List ProcessEntry} {names : List String}

/-! ### One table -/

/-- The same process is the product on both platforms or on neither. -/
theorem SameProcess.executable_iff {entry : ProcessEntry} {pComm : String}
    (same : SameProcess entry pComm) (product : Product) :
    product.executable .windows = entry.szExeFile ↔ product.executable .macOS = pComm := by
  rcases same with suffixed | ⟨plain, other⟩
  · rw [suffixed]
    exact String.append_left_inj ".exe"
  · rw [plain]
    exact iff_of_false (other product .windows).symm (other product .macOS).symm

/-- The application is in the table on both platforms or on neither. -/
theorem appAmong_iff_of_sameTable (same : List.Forall₂ SameProcess entries names)
    (appName : String) :
    AppAmong folding appName .windows (entries.map ProcessEntry.szExeFile) ↔
      AppAmong folding appName .macOS names := by
  cases named : productOf folding appName with
  | none =>
      exact iff_of_false (not_appAmong_of_none folding named _ _)
        (not_appAmong_of_none folding named _ _)
  | some product =>
      rw [appAmong_of_some folding named, appAmong_of_some folding named]
      induction same with
      | nil => exact iff_of_false List.not_mem_nil List.not_mem_nil
      | cons pair _ ih => rw [List.map_cons, List.mem_cons, List.mem_cons, pair.executable_iff, ih]

theorem appAmong_iff_exists_product (appName : String) (platform : Platform)
    (names : List String) :
    AppAmong folding appName platform names ↔ ∃ product : Product,
      folding.same appName product.name = true ∧ product.executable platform ∈ names := by
  simp only [← productOf_eq_some_iff]
  cases named : productOf folding appName with
  | none => simp [not_appAmong_of_none folding named]
  | some product => simp [appAmong_of_some folding named]

/-! ### Complete scans -/

/-- A complete scan reports unless it is a dummy call on Windows. -/
theorem ScanInput.Complete.reports_iff {input : ScanInput} (complete : input.Complete)
    (dummyCall : Int) :
    input.Reports dummyCall ↔ (input.platform = .windows → dummyCall = 0) := by
  obtain ⟨reports, -⟩ := complete.reports
  cases input with
  | windows calls table => exact ⟨fun both _ => both.2, fun zero => ⟨reports.1, zero rfl⟩⟩
  | macOS calls table => exact iff_of_true reports fun other => nomatch other

theorem process_emitted_of_complete_dummy {input : ScanInput} (complete : input.Complete)
    (dummyCall : Int) (thread : ProctortrackThread) :
    (process folding dummyCall input thread).emitted =
      if input.platform = .windows → dummyCall = 0 then
        [decide (AppInTable folding thread.appName input)]
      else [] := by
  simp only [process_emitted, complete.reports_iff, complete.reports.2]

/-- What a complete scan emits is right. -/
theorem emitsPresence_of_complete {input : ScanInput} (complete : input.Complete)
    (dummyCall : Int) (thread : ProctortrackThread) :
    EmitsPresence folding input thread (process folding dummyCall input thread).emitted := by
  intro value member
  rw [process_emitted_of_complete_dummy folding complete] at member
  split at member
  · rw [List.mem_singleton.mp member, decide_eq_true_iff]
    exact appAmong_iff_exists_product folding thread.appName input.platform input.names
  · exact absurd member List.not_mem_nil

/-- The latch after a complete scan on Windows. -/
theorem processWindows_latch {calls : ToolhelpCalls}
    (complete : (ScanInput.windows calls entries).Complete) (dummyCall : Int)
    (thread : ProctortrackThread) :
    (process folding dummyCall (.windows calls entries) thread).thread.isFristTimeLaunch =
      (thread.isFristTimeLaunch &&
        !decide (AppInTable folding thread.appName (.windows calls entries))) := by
  have whole : (enumerated calls entries).map ProcessEntry.szExeFile =
      entries.map ProcessEntry.szExeFile := complete.reports.2
  rw [process, processWindows_eq, any_isTargetWindows_eq, whole]
  change (ite (decide (AppInTable folding thread.appName (.windows calls entries)) = true) _
    thread).isFristTimeLaunch = _
  by_cases found : AppInTable folding thread.appName (.windows calls entries)
  · simp only [found, decide_true, ↓reduceIte, Bool.not_true, Bool.and_false]
  · simp only [found, decide_false, Bool.false_eq_true, ↓reduceIte, Bool.not_false,
      Bool.and_true]

/-- **When the branches are one function.** For every name, table, dummy value and
thread state, with every system call successful, the two branches emit the same
values, none on a dummy call, and leave the latch the same, what they emit being
right in both, if and only if the call is not a dummy call and does not end the
first launch: the product is not in the table or the latch had ended before. -/
theorem branches_agree_iff (folding : CaseFolding) (dummyCall : Int) (toolhelp : ToolhelpCalls)
    (sysctl : SysctlCalls) {entries : List ProcessEntry} {names : List String}
    (thread : ProctortrackThread) (sameTable : List.Forall₂ SameProcess entries names)
    (complete : (ScanInput.windows toolhelp entries).Complete)
    (completeMac : (ScanInput.macOS sysctl names).Complete) :
    ScansAgree folding dummyCall (.windows toolhelp entries) (.macOS sysctl names) thread ↔
      dummyCall = 0 ∧ (¬ AppInTable folding thread.appName (.macOS sysctl names) ∨
        thread.isFristTimeLaunch = false) := by
  have verdict : decide (AppInTable folding thread.appName (.windows toolhelp entries)) =
      decide (AppInTable folding thread.appName (.macOS sysctl names)) :=
    decide_eq_decide.mpr (appAmong_iff_of_sameTable folding sameTable thread.appName)
  have emitted := process_emitted_of_complete_dummy folding complete dummyCall thread
  have emittedMac := process_emitted_of_complete_dummy folding completeMac dummyCall thread
  have latch := processWindows_latch folding complete dummyCall thread
  have latchMac : (process folding dummyCall (.macOS sysctl names) thread).thread = thread :=
    (processMac_eq folding dummyCall sysctl names thread).1
  rw [verdict] at emitted latch
  simp only [ScanInput.platform, forall_const] at emitted
  simp only [ScanInput.platform, reduceCtorEq, false_implies, ↓reduceIte] at emittedMac
  constructor
  · intro agree
    have zero : dummyCall = 0 := by
      by_contra dummy
      have silent := (agree.silent dummy).2
      rw [emittedMac] at silent
      exact List.cons_ne_nil _ _ silent
    refine ⟨zero, ?_⟩
    have same := agree.latch
    rw [latch, latchMac] at same
    by_cases inTable : AppInTable folding thread.appName (.macOS sysctl names)
    · simp only [inTable, decide_true, Bool.not_true, Bool.and_false] at same
      exact Or.inr same.symm
    · exact Or.inl inTable
  · rintro ⟨rfl, quiet⟩
    constructor
    · rw [emitted, emittedMac, if_pos rfl]
    · exact fun dummy => absurd rfl dummy
    · rw [latch, latchMac]
      rcases quiet with absent | ended
      · simp only [absent, decide_false, Bool.not_false, Bool.and_true]
      · rw [ended, Bool.false_and]
    · exact ⟨emitsPresence_of_complete folding complete 0 thread,
        emitsPresence_of_complete folding completeMac 0 thread⟩

/-- A table with one process and no product, as each platform lists it. -/
def idleTable : List ProcessEntry := [⟨"launchd.exe", 1⟩]

theorem sameProcess_idleTable : List.Forall₂ SameProcess idleTable ["launchd"] :=
  .cons (Or.inl (by decide)) .nil

/-- System calls that all succeed. -/
def allToolhelp : ToolhelpCalls := ⟨true, true, fun _ => true⟩

def allSysctl : SysctlCalls := ⟨some 1, true, true⟩

theorem complete_idleTable : (ScanInput.windows allToolhelp idleTable).Complete ∧
    (ScanInput.macOS allSysctl ["launchd"]).Complete :=
  ⟨⟨rfl, rfl, by decide, fun _ _ => rfl⟩, ⟨rfl, rfl, 1, rfl, by decide⟩⟩

/-- The dummy call, which emits nothing on Windows, emits "not running" on macOS. -/
theorem branches_differ_on_dummy :
    ¬ ∀ (folding : CaseFolding) (dummyCall : Int) (toolhelp : ToolhelpCalls)
      (sysctl : SysctlCalls) (entries : List ProcessEntry) (names : List String)
      (thread : ProctortrackThread), List.Forall₂ SameProcess entries names →
      (ScanInput.windows toolhelp entries).Complete → (ScanInput.macOS sysctl names).Complete →
      ScansAgree folding dummyCall (.windows toolhelp entries) (.macOS sysctl names) thread := by
  intro agree
  have dummy := agree .ascii 1 allToolhelp allSysctl idleTable ["launchd"]
    { ProctortrackThread.construct with appName := "Proctortrack" } sameProcess_idleTable
    complete_idleTable.1 complete_idleTable.2
  exact absurd dummy.emitted (by decide)

/-- A regular scan of that table does the same on both platforms. -/
theorem branches_agree_iff_idleTable :
    ScansAgree .ascii 0 (.windows allToolhelp idleTable) (.macOS allSysctl ["launchd"])
      { ProctortrackThread.construct with appName := "Proctortrack" } :=
  (branches_agree_iff .ascii 0 allToolhelp allSysctl
    { ProctortrackThread.construct with appName := "Proctortrack" } sameProcess_idleTable
    complete_idleTable.1 complete_idleTable.2).mpr ⟨rfl, Or.inl (by decide)⟩

end WatchDog
