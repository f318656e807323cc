import WatchDogProcess.Foundation.CaseFolding
import WatchDogProcess.Watchdog.State

/-! # The process scan

`ProctortrackThread::process` enumerates the process table and reports whether
the executable of the configured product is in it. The two platform branches use
different system calls, each of which can fail at its own point: on Windows a
snapshot is enumerated entry by entry, and on macOS the table is copied by a
second `sysctl` into a buffer of the size that a first one returned.

The abstract layer names the products (`WatchDog.Product`). Both branches
dispatch on the configured name without regard to letter case
(`WatchDog.isTargetWindows_eq`, `WatchDog.isTargetMac_eq`). A scan that gets as
far as a report says whether it read the name of the product's executable
(`WatchDog.process_emitted`), and one all of whose calls succeed says whether that
name is in the table (`WatchDog.process_emitted_of_complete`).
-/

namespace WatchDog

/-! ### The thread object and the system calls -/

/-- The fields of `ProctortrackThread` that its slots use. -/
structure ProctortrackThread where
  appName : String
  isFristTimeLaunch : Bool
  isAnyStepWatchdog : Bool
  isCloseBLAppUsingWd : Bool
  deriving DecidableEq, Repr

/-- The constructor; the name and `isAnyStepWatchdog` are set by the creator. -/
def ProctortrackThread.construct : ProctortrackThread where
  appName := ""
  isFristTimeLaunch := true
  isAnyStepWatchdog := false
  isCloseBLAppUsingWd := false

/-- A window: whether it is visible, its title, and the process it belongs to. -/
structure Window where
  visible : Bool
  title : String
  pid : Nat
  deriving DecidableEq, Repr

/-- The calls that acquire, release or terminate something, with their success, and
the enumeration of the top-level windows. -/
inductive OsCall where
  | createToolhelp32Snapshot (succeeded : Bool)
  | malloc (succeeded : Bool)
  | free
  | enumWindows
  | openProcess (window : Window) (succeeded : Bool)
  | terminateProcess (window : Window) (succeeded : Bool)
  deriving DecidableEq, Repr

/-- What one scan leaves: the thread object, the values of `isApllicationRunning`
emitted, and the calls made. -/
structure ScanResult where
  thread : ProctortrackThread
  emitted : List Bool
  calls : List OsCall
  deriving DecidableEq, Repr

/-! ### Windows -/

/-- An entry of a process snapshot. -/
structure ProcessEntry where
  szExeFile : String
  th32ProcessID : Nat
  deriving DecidableEq, Repr

def isProctortrack (entry : ProcessEntry) : Bool := entry.szExeFile = "Proctortrack.exe"

def isRemoteDesk (entry : ProcessEntry) : Bool := entry.szExeFile = "RemoteDesk.exe"

def isFreshHire (entry : ProcessEntry) : Bool := entry.szExeFile = "FreshHire.exe"

/-- The success of the calls of one scan on Windows. The call of `Process32NextW`
with some index may fail although an entry is left. -/
structure ToolhelpCalls where
  snapshot : Bool
  first : Bool
  next : Nat → Bool

/-- `Process32FirstW`: the first entry and those left, unless it fails. -/
def process32First (calls : ToolhelpCalls) (table : List ProcessEntry) :
    Option (ProcessEntry × List ProcessEntry) :=
  match table with
  | [] => none
  | entry :: rest => if calls.snapshot && calls.first then some (entry, rest) else none

/-- The dispatch in the body of the loop. -/
def isTargetWindows (folding : CaseFolding) (appName : String) (entry : ProcessEntry) : Bool :=
  if folding.same appName "Proctortrack" then isProctortrack entry
  else if folding.same appName "RemoteDesk" then isRemoteDesk entry
  else if folding.same appName "FreshHire" then isFreshHire entry
  else false

/-- The `do … while (Process32NextW(…))` loop, collecting process identifiers. -/
def scanEntries (isTarget : ProcessEntry → Bool) (next : Nat → Bool) :
    Nat → List Nat → ProcessEntry → List ProcessEntry → List Nat
  | _, pids, entry, [] => if isTarget entry then pids ++ [entry.th32ProcessID] else pids
  | index, pids, entry, following :: rest =>
      let pids := if isTarget entry then pids ++ [entry.th32ProcessID] else pids
      if next index then scanEntries isTarget next (index + 1) pids following rest else pids

/-- The Windows branch of `process`. -/
def processWindows (folding : CaseFolding) (dummyCall : Int) (calls : ToolhelpCalls)
    (table : List ProcessEntry) (thread : ProctortrackThread) : ScanResult :=
  let opened := [OsCall.createToolhelp32Snapshot calls.snapshot]
  match process32First calls table with
  | none => ⟨thread, [], opened⟩
  | some (entry, rest) =>
      let pids :=
        scanEntries (isTargetWindows folding thread.appName) calls.next 0 [] entry rest
      let processRunning := !pids.isEmpty
      let thread := if processRunning then { thread with isFristTimeLaunch := false } else thread
      ⟨thread, if dummyCall = 0 then [processRunning] else [], opened⟩

/-! ### macOS -/

/-- The success of the calls of one scan on macOS. The first `sysctl` returns the
length of a buffer, here the number of entries it has room for. -/
structure SysctlCalls where
  size : Option Nat
  malloc : Bool
  data : Bool

/-- The second `sysctl`: it copies the table, unless it fails or the table has
outgrown the buffer. -/
def sysctlData (calls : SysctlCalls) (room : Nat) (table : List String) : Option (List String) :=
  if calls.data && decide (table.length ≤ room) then some table else none

/-- The dispatch in the body of the loop, on the `p_comm` of an entry. -/
def isTargetMac (folding : CaseFolding) (appName : String) (pComm : String) : Bool :=
  if folding.same appName "Proctortrack" then pComm = "Proctortrack"
  else if folding.same appName "RemoteDesk" then pComm = "RemoteDesk"
  else if folding.same appName "FreshHire" then pComm = "FreshHire"
  else false

/-- The loop over the copied entries, setting the flag. -/
def scanCopied (isTarget : String → Bool) (entries : List String) : Int :=
  entries.foldl (fun flag pComm => if isTarget pComm then 1 else flag) 0

/-- The macOS branch of `process`. It does not look at `dummyCall`. -/
def processMac (folding : CaseFolding) (_dummyCall : Int) (calls : SysctlCalls)
    (table : List String) (thread : ProctortrackThread) : ScanResult :=
  match calls.size with
  | none => ⟨thread, [], []⟩
  | some room =>
      if calls.malloc then
        let flag : Int := match sysctlData calls room table with
          | some entries => scanCopied (isTargetMac folding thread.appName) entries
          | none => 0
        ⟨thread, [decide (flag = 1)], [.malloc true, .free]⟩
      else ⟨thread, [], [.malloc false]⟩

/-- What one scan meets: the table at that moment and the outcome of its calls. -/
inductive ScanInput where
  | windows (calls : ToolhelpCalls) (table : List ProcessEntry)
  | macOS (calls : SysctlCalls) (table : List String)

def process (folding : CaseFolding) (dummyCall : Int) (input : ScanInput)
    (thread : ProctortrackThread) : ScanResult :=
  match input with
  | .windows calls table => processWindows folding dummyCall calls table thread
  | .macOS calls table => processMac folding dummyCall calls table thread

/-! ### The products -/

/-- The products that the watchdog knows. -/
inductive Product where
  | proctortrack
  | remoteDesk
  | freshHire
  deriving DecidableEq, Repr

namespace Product

def name : Product → String
  | proctortrack => "Proctortrack"
  | remoteDesk => "RemoteDesk"
  | freshHire => "FreshHire"

/-- The name of a product's executable on a platform. -/
def executable (product : Product) : Platform → String
  | .windows => product.name ++ ".exe"
  | .macOS => product.name

end Product

/-- The product that a configured name stands for. -/
def productOf (folding : CaseFolding) (appName : String) : Option Product :=
  if folding.same appName "Proctortrack" then some .proctortrack
  else if folding.same appName "RemoteDesk" then some .remoteDesk
  else if folding.same appName "FreshHire" then some .freshHire
  else none

variable (folding : CaseFolding)

/-- A name stands for a product only if it is that product's name up to letter case. -/
theorem same_of_productOf {appName : String} {product : Product}
    (named : productOf folding appName = some product) :
    folding.same appName product.name = true := by
  simp only [productOf] at named
  split at named
  · rw [← Option.some.inj named]
    assumption
  · split at named
    · rw [← Option.some.inj named]
      assumption
    · split at named
      · rw [← Option.some.inj named]
        assumption
      · cases named

theorem folded_name (product : Product) :
    folding.folded product.name = product.name.toList.map Char.toLower := by
  apply folding.folded_ascii
  cases product <;> decide

/-- Each product is named by its own name in any letter case. -/
theorem productOf_eq_some_iff (appName : String) (product : Product) :
    productOf folding appName = some product ↔ folding.same appName product.name = true := by
  refine ⟨same_of_productOf folding, ?_⟩
  intro same
  have folded := (folding.same_iff _ _).mp same
  have first := folded_name folding .proctortrack
  have second := folded_name folding .remoteDesk
  have third := folded_name folding .freshHire
  simp only [Product.name] at first second third
  simp only [productOf, CaseFolding.same_iff, folded, first, second, third]
  rw [folded_name]
  cases product <;> decide

/-- The executable of the product that a name stands for is among some names. -/
def AppAmong (appName : String) (platform : Platform) (names : List String) : Prop :=
  match productOf folding appName with
  | some product => product.executable platform ∈ names
  | none => False

theorem appAmong_of_some {appName : String} {product : Product}
    (named : productOf folding appName = some product) (platform : Platform)
    (names : List String) :
    AppAmong folding appName platform names ↔ product.executable platform ∈ names := by
  unfold AppAmong
  rw [named]

theorem not_appAmong_of_none {appName : String} (unknown : productOf folding appName = none)
    (platform : Platform) (names : List String) : ¬ AppAmong folding appName platform names := by
  unfold AppAmong
  rw [unknown]
  exact id

instance (appName : String) (platform : Platform) (names : List String) :
    Decidable (AppAmong folding appName platform names) :=
  match found : productOf folding appName with
  | some _ => decidable_of_iff _ (appAmong_of_some folding found platform names).symm
  | none => .isFalse (not_appAmong_of_none folding found platform names)

theorem isTargetWindows_eq (appName : String) (entry : ProcessEntry) :
    isTargetWindows folding appName entry =
      decide (AppAmong folding appName .windows [entry.szExeFile]) := by
  rw [Bool.eq_iff_iff, decide_eq_true_iff]
  simp only [isTargetWindows, AppAmong, productOf, List.mem_singleton]
  split
  · exact decide_eq_true_iff.trans eq_comm
  · split
    · exact decide_eq_true_iff.trans eq_comm
    · split
      · exact decide_eq_true_iff.trans eq_comm
      · simp only [Bool.false_eq_true]

theorem isTargetMac_eq (appName pComm : String) :
    isTargetMac folding appName pComm =
      decide (AppAmong folding appName .macOS [pComm]) := by
  rw [Bool.eq_iff_iff, decide_eq_true_iff]
  simp only [isTargetMac, AppAmong, productOf, List.mem_singleton]
  split
  · exact decide_eq_true_iff.trans eq_comm
  · split
    · exact decide_eq_true_iff.trans eq_comm
    · split
      · exact decide_eq_true_iff.trans eq_comm
      · simp only [Bool.false_eq_true]

/-- The application is among some names when it is one of them. -/
theorem appAmong_iff_exists (appName : String) (platform : Platform) (names : List String) :
    AppAmong folding appName platform names ↔
      ∃ name ∈ names, AppAmong folding appName platform [name] := by
  cases named : productOf folding appName with
  | none => simp [not_appAmong_of_none folding named]
  | some product => simp [appAmong_of_some folding named]

/-! ### What a scan reports -/

/-- The entries that the calls return from some point of the enumeration on. -/
def visitedEntries (next : Nat → Bool) : Nat → ProcessEntry → List ProcessEntry →
    List ProcessEntry
  | _, entry, [] => [entry]
  | index, entry, following :: rest =>
      entry :: if next index then visitedEntries next (index + 1) following rest else []

/-- The entries that the calls of a scan return. -/
def enumerated (calls : ToolhelpCalls) (table : List ProcessEntry) : List ProcessEntry :=
  match process32First calls table with
  | none => []
  | some (entry, rest) => visitedEntries calls.next 0 entry rest

/-- The loop collects the identifiers of the visited targets. -/
theorem scanEntries_eq (isTarget : ProcessEntry → Bool) (next : Nat → Bool) (index : Nat)
    (pids : List Nat) (entry : ProcessEntry) (rest : List ProcessEntry) :
    scanEntries isTarget next index pids entry rest =
      pids ++ ((visitedEntries next index entry rest).filter isTarget).map
        ProcessEntry.th32ProcessID := by
  induction rest generalizing index pids entry with
  | nil =>
      cases target : isTarget entry <;>
        simp [scanEntries, visitedEntries, target]
  | cons following rest ih =>
      cases target : isTarget entry <;> cases goesOn : next index <;>
        simp [scanEntries, visitedEntries, target, goesOn, ih]

/-- A scan on Windows reports whether it visited a target, unless it is a dummy
call or the enumeration does not start; visiting one ends the first launch. -/
theorem processWindows_eq (dummyCall : Int) (calls : ToolhelpCalls) (table : List ProcessEntry)
    (thread : ProctortrackThread) :
    processWindows folding dummyCall calls table thread =
      let running := (enumerated calls table).any (isTargetWindows folding thread.appName)
      ⟨if running then { thread with isFristTimeLaunch := false } else thread,
        if (process32First calls table).isSome ∧ dummyCall = 0 then [running] else [],
        [.createToolhelp32Snapshot calls.snapshot]⟩ := by
  cases first : process32First calls table with
  | none => simp [processWindows, enumerated, first]
  | some pair =>
      obtain ⟨entry, rest⟩ := pair
      have collects : (!(scanEntries (isTargetWindows folding thread.appName) calls.next 0 [] entry
          rest).isEmpty) = (visitedEntries calls.next 0 entry rest).any
            (isTargetWindows folding thread.appName) := by
        rw [scanEntries_eq, List.nil_append, List.isEmpty_map, Bool.eq_iff_iff]
        simp [List.filter_eq_nil_iff]
      simp only [processWindows, enumerated, first, collects, Option.isSome_some, true_and]

/-- The loop over a copied table finds whether a target is in it. -/
theorem scanCopied_eq_one_iff (isTarget : String → Bool) (entries : List String) :
    scanCopied isTarget entries = 1 ↔ ∃ pComm ∈ entries, isTarget pComm = true := by
  have general : ∀ flag : Int, entries.foldl
      (fun flag pComm => if isTarget pComm then 1 else flag) flag = 1 ↔
        flag = 1 ∨ ∃ pComm ∈ entries, isTarget pComm = true := by
    induction entries with
    | nil => simp
    | cons head entries ih =>
        intro flag
        rw [List.foldl_cons, ih]
        cases target : isTarget head <;> simp [target]
  rw [scanCopied, general]
  simp

/-- The table that a scan on macOS copies, if it gets that far. -/
def copied (calls : SysctlCalls) (table : List String) : Option (List String) :=
  match calls.size with
  | none => none
  | some room => if calls.malloc then sysctlData calls room table else none

/-- A scan on macOS reports whether it copied a target, unless it returns before
the second `sysctl`. -/
theorem processMac_eq (dummyCall : Int) (calls : SysctlCalls) (table : List String)
    (thread : ProctortrackThread) :
    let scan := processMac folding dummyCall calls table thread
    scan.thread = thread ∧ scan.emitted =
      if calls.size.isSome ∧ calls.malloc = true then
        [((copied calls table).getD []).any (isTargetMac folding thread.appName)]
      else [] := by
  obtain ⟨size, malloc, data⟩ := calls
  cases size with
  | none => exact ⟨rfl, rfl⟩
  | some room =>
      cases malloc with
      | false => exact ⟨rfl, rfl⟩
      | true =>
          refine ⟨rfl, ?_⟩
          simp only [processMac, copied, ↓reduceIte, Option.isSome_some, and_self]
          cases sysctlData ⟨some room, true, data⟩ room table with
          | none => rfl
          | some entries =>
              rw [Option.getD_some, List.cons.injEq, Bool.eq_iff_iff, List.any_eq_true,
                decide_eq_true_iff]
              exact ⟨scanCopied_eq_one_iff _ entries, rfl⟩

/-! ### Both branches -/

/-- The executable names in the table of a scan. -/
def ScanInput.names : ScanInput → List String
  | .windows _ table => table.map ProcessEntry.szExeFile
  | .macOS _ table => table

/-- The executable names that a scan read. -/
def ScanInput.readNames : ScanInput → List String
  | .windows calls table => (enumerated calls table).map ProcessEntry.szExeFile
  | .macOS calls table => (copied calls table).getD []

def ScanInput.platform : ScanInput → Platform
  | .windows _ _ => .windows
  | .macOS _ _ => .macOS

/-- The scan gets as far as a report. -/
def ScanInput.Reports (dummyCall : Int) : ScanInput → Prop
  | .windows calls table => (process32First calls table).isSome ∧ dummyCall = 0
  | .macOS calls _ => calls.size.isSome ∧ calls.malloc = true

instance (dummyCall : Int) : (input : ScanInput) → Decidable (input.Reports dummyCall)
  | .windows _ _ => inferInstanceAs (Decidable (_ ∧ _))
  | .macOS _ _ => inferInstanceAs (Decidable (_ ∧ _))

theorem any_isTargetWindows_eq (appName : String) (entries : List ProcessEntry) :
    entries.any (isTargetWindows folding appName) =
      decide (AppAmong folding appName .windows (entries.map ProcessEntry.szExeFile)) := by
  rw [Bool.eq_iff_iff, List.any_eq_true, decide_eq_true_iff, appAmong_iff_exists]
  simp only [isTargetWindows_eq, decide_eq_true_iff, List.mem_map, exists_exists_and_eq_and]

theorem any_isTargetMac_eq (appName : String) (names : List String) :
    names.any (isTargetMac folding appName) = decide (AppAmong folding appName .macOS names) := by
  rw [Bool.eq_iff_iff, List.any_eq_true, decide_eq_true_iff, appAmong_iff_exists]
  simp only [isTargetMac_eq, decide_eq_true_iff]

/-- A scan that gets as far as a report says whether it read the name of the
product's executable. -/
theorem process_emitted (dummyCall : Int) (input : ScanInput) (thread : ProctortrackThread) :
    (process folding dummyCall input thread).emitted =
      if input.Reports dummyCall then
        [decide (AppAmong folding thread.appName input.platform input.readNames)]
      else [] := by
  cases input with
  | windows calls table =>
      rw [process, processWindows_eq, any_isTargetWindows_eq]
      rfl
  | macOS calls table =>
      rw [process, (processMac_eq folding dummyCall calls table thread).2, any_isTargetMac_eq]
      rfl

/-- A scan reports a product missing when it gets as far as a report without
having read the name of its executable. -/
theorem false_mem_emitted_iff {product : Product} {thread : ProctortrackThread}
    (named : productOf folding thread.appName = some product) (dummyCall : Int)
    (input : ScanInput) :
    false ∈ (process folding dummyCall input thread).emitted ↔
      input.Reports dummyCall ∧ product.executable input.platform ∉ input.readNames := by
  rw [process_emitted]
  by_cases reports : input.Reports dummyCall
  · simp only [reports, ↓reduceIte, List.mem_singleton, true_and]
    rw [eq_comm, decide_eq_false_iff_not, appAmong_of_some folding named]
  · simp only [reports, ↓reduceIte, List.not_mem_nil, false_and]

/-! ### Complete scans -/

/-- Every call of the scan succeeds: on Windows until the snapshot is exhausted,
on macOS with a buffer that the table fits. -/
def ScanInput.Complete : ScanInput → Prop
  | .windows calls table => calls.snapshot = true ∧ calls.first = true ∧ table ≠ [] ∧
      ∀ index, index + 1 < table.length → calls.next index = true
  | .macOS calls table => calls.malloc = true ∧ calls.data = true ∧
      ∃ room, calls.size = some room ∧ table.length ≤ room

/-- The executable of the product that a name stands for is in the table. -/
abbrev AppInTable (appName : String) (input : ScanInput) : Prop :=
  AppAmong folding appName input.platform input.names

/-- While every call succeeds the enumeration visits every entry. -/
theorem visitedEntries_of_next {next : Nat → Bool} {index : Nat} {entry : ProcessEntry}
    {rest : List ProcessEntry}
    (goesOn : ∀ offset, offset < rest.length → next (index + offset) = true) :
    visitedEntries next index entry rest = entry :: rest := by
  induction rest generalizing index entry with
  | nil => rfl
  | cons following rest ih =>
      have now : next index = true := goesOn 0 (Nat.zero_lt_succ _)
      simp only [visitedEntries, now, ↓reduceIte]
      rw [ih]
      intro offset within
      rw [Nat.add_right_comm, Nat.add_assoc]
      exact goesOn (offset + 1) (Nat.succ_lt_succ within)

/-- A complete scan that is not a dummy reports on the whole table. -/
theorem ScanInput.Complete.reports {input : ScanInput} (complete : input.Complete) :
    input.Reports 0 ∧ input.readNames = input.names := by
  cases input with
  | windows calls table =>
      obtain ⟨snapshot, first, nonempty, next⟩ := complete
      cases table with
      | nil => exact absurd rfl nonempty
      | cons entry rest =>
          simp only [Reports, readNames, names, enumerated, process32First, snapshot, first,
            Bool.and_self, ↓reduceIte, Option.isSome_some, and_self, true_and]
          rw [visitedEntries_of_next]
          intro offset within
          rw [Nat.zero_add]
          exact next offset (Nat.succ_lt_succ within)
  | macOS calls table =>
      obtain ⟨malloc, data, room, size, fits⟩ := complete
      simp only [Reports, readNames, names, copied, sysctlData, size, malloc, data, fits,
        Option.isSome_some, and_self, ↓reduceIte, decide_true, Bool.and_self, Option.getD_some]

/-- A scan that is complete and not a dummy reports exactly whether the product's
executable is in the table. -/
theorem process_emitted_of_complete {input : ScanInput} (complete : input.Complete)
    (thread : ProctortrackThread) :
    (process folding 0 input thread).emitted =
      [decide (AppInTable folding thread.appName input)] := by
  obtain ⟨reports, whole⟩ := complete.reports
  simp only [process_emitted, reports, ↓reduceIte, whole]

end WatchDog
