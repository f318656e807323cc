import WatchDogProcess.Foundation.ResourceLedger
import WatchDogProcess.Monitor.Watch

/-! # The system resources of the ticks

The open handles and heap blocks are part of the state here. A successful
`CreateToolhelp32Snapshot` or `OpenProcess` opens a handle, a successful `malloc`
allocates the buffer `result` of the scan, and `free` releases that buffer. The
source has no call that closes a handle.

The scan and the kill tick are described by the case in which they leave a handle
open (`WatchDog.tickStep_held`).
-/

namespace WatchDog

open EventRun

inductive ResourceKind where
  | handle
  | block
  deriving DecidableEq, Repr

/-- The open resources, and the buffer that a scan has allocated. -/
structure Holdings where
  ledger : ResourceLedger ResourceKind
  result : Option (ResourceKind × Nat)

/-- What a call opens or releases. -/
def perform (holdings : Holdings) : OsCall → Holdings
  | .createToolhelp32Snapshot true => { holdings with ledger := holdings.ledger.acquire .handle }
  | .createToolhelp32Snapshot false => holdings
  | .malloc true => ⟨holdings.ledger.acquire .block, some (holdings.ledger.newest .block)⟩
  | .malloc false => { holdings with result := none }
  | .free => match holdings.result with
      | some buffer => ⟨holdings.ledger.release buffer, none⟩
      | none => holdings
  | .enumWindows => holdings
  | .openProcess _ true => { holdings with ledger := holdings.ledger.acquire .handle }
  | .openProcess _ false => holdings
  | .terminateProcess _ _ => holdings

/-- The open resources after the calls of one tick. -/
def afterCalls (ledger : ResourceLedger ResourceKind) (calls : List OsCall) :
    ResourceLedger ResourceKind :=
  (calls.foldl perform ⟨ledger, none⟩).ledger

/-- A watch together with the open resources. -/
structure Ticking where
  watch : Watch
  ledger : ResourceLedger ResourceKind

/-- The calls that an event of the watch makes. -/
def osCalls (platform : Platform) (folding : CaseFolding) (watch : Watch) :
    WatchEvent → List OsCall
  | .historyChanges _ => []
  | .scan dummyCall input => (process folding dummyCall input watch.thread).calls
  | .killTick desktops => watch.killTick platform folding desktops

def tickStep (platform : Platform) (folding : CaseFolding) (ticking : Ticking)
    (event : WatchEvent) : Ticking where
  watch := watchStep folding ticking.watch event
  ledger := afterCalls ticking.ledger (osCalls platform folding ticking.watch event)

/-! ### Which ticks leave a handle open -/

/-- The callback opens the process of the window it attacks. -/
def OpensProcess (folding : CaseFolding) (tabs : List String) (desktop : Desktop) : Prop :=
  (attacked folding tabs desktop).isSome = true ∧ desktop.opens = true

instance (folding : CaseFolding) (tabs : List String) (desktop : Desktop) :
    Decidable (OpensProcess folding tabs desktop) :=
  inferInstanceAs (Decidable (_ ∧ _))

/-- A scan on Windows whose snapshot succeeds, or a kill tick that enumerates windows
and opens the process of the one it attacks. -/
def LeavesHandle (platform : Platform) (folding : CaseFolding) (watch : Watch) :
    WatchEvent → Prop
  | .historyChanges _ => False
  | .scan _ (.windows calls _) => calls.snapshot = true
  | .scan _ (.macOS _ _) => False
  | .killTick desktops => platform = .windows ∧ watch.thread.isFristTimeLaunch = true ∧
      watch.thread.isCloseBLAppUsingWd = true ∧
        ∃ desktop ∈ desktops.head?, OpensProcess folding watch.whiteListedTabList desktop

instance (platform : Platform) (folding : CaseFolding) (watch : Watch) :
    (event : WatchEvent) → Decidable (LeavesHandle platform folding watch event)
  | .historyChanges _ => .isFalse id
  | .scan _ (.windows _ _) => inferInstanceAs (Decidable (_ = _))
  | .scan _ (.macOS _ _) => .isFalse id
  | .killTick desktops =>
      match first : desktops.head? with
      | none => .isFalse fun leaves => by
          obtain ⟨desktop, member, -⟩ := leaves.2.2.2
          rw [first] at member
          exact absurd member (Option.not_mem_none _)
      | some desktop => decidable_of_iff (platform = .windows ∧
          watch.thread.isFristTimeLaunch = true ∧ watch.thread.isCloseBLAppUsingWd = true ∧
            OpensProcess folding watch.whiteListedTabList desktop) (by
          simp only [LeavesHandle, first, Option.mem_some_iff, exists_eq_left'])

variable (platform : Platform) (folding : CaseFolding)

/-- The calls of a scan on macOS: nothing, a failed allocation, or an allocation that
is released. -/
theorem processMac_calls (dummyCall : Int) (calls : SysctlCalls) (table : List String)
    (thread : ProctortrackThread) :
    let made := (processMac folding dummyCall calls table thread).calls
    made = [] ∨ made = [.malloc false] ∨ made = [.malloc true, .free] := by
  obtain ⟨size, malloc, data⟩ := calls
  cases size with
  | none => exact Or.inl rfl
  | some room =>
      cases malloc with
      | false => exact Or.inr (Or.inl rfl)
      | true => exact Or.inr (Or.inr rfl)

/-- A scan on macOS releases what it allocates. -/
theorem held_processMac (ledger : ResourceLedger ResourceKind) (dummyCall : Int)
    (calls : SysctlCalls) (table : List String) (thread : ProctortrackThread) :
    (afterCalls ledger (processMac folding dummyCall calls table thread).calls).held =
      ledger.held := by
  rcases processMac_calls folding dummyCall calls table thread with same | same | same
  · rw [same]
    rfl
  · rw [same]
    rfl
  · rw [same]
    exact ledger.held_release_newest .block

/-- A scan on Windows leaves the handle of a successful snapshot open. -/
theorem afterCalls_processWindows (ledger : ResourceLedger ResourceKind) (dummyCall : Int)
    (calls : ToolhelpCalls) (table : List ProcessEntry) (thread : ProctortrackThread) :
    afterCalls ledger (processWindows folding dummyCall calls table thread).calls =
      if calls.snapshot then ledger.acquire .handle else ledger := by
  rw [processWindows_eq]
  cases opened : calls.snapshot <;> rfl

/-- The callback leaves the handle of the process it opens open. -/
theorem afterCalls_enumWindowProc2 (ledger : ResourceLedger ResourceKind) (tabs : List String)
    (desktop : Desktop) :
    afterCalls ledger (enumWindowProc2 folding tabs desktop).2 =
      if OpensProcess folding tabs desktop then ledger.acquire .handle else ledger := by
  rw [enumWindowProc2_eq]
  by_cases opens : OpensProcess folding tabs desktop
  · rw [if_pos opens]
    obtain ⟨attacks, opened⟩ := opens
    obtain ⟨window, target⟩ := Option.isSome_iff_exists.mp attacks
    simp only [target, terminate, opened, ↓reduceIte]
    rfl
  · rw [if_neg opens]
    cases target : attacked folding tabs desktop with
    | none => rfl
    | some window =>
        have failed : desktop.opens = false := by
          rw [Bool.eq_false_iff]
          intro opened
          exact opens ⟨by rw [target]; rfl, opened⟩
        simp only [terminate, failed, Bool.false_eq_true, ↓reduceIte]
        rfl

/-- The enumeration itself opens nothing. -/
@[simp]
theorem afterCalls_enumWindows (ledger : ResourceLedger ResourceKind) (calls : List OsCall) :
    afterCalls ledger (.enumWindows :: calls) = afterCalls ledger calls := rfl

theorem afterCalls_killTick (ledger : ResourceLedger ResourceKind) (watch : Watch)
    (desktops : List Desktop) :
    afterCalls ledger (watch.killTick platform folding desktops) =
      if LeavesHandle platform folding watch (.killTick desktops) then ledger.acquire .handle
      else ledger := by
  by_cases enumerates : platform = .windows ∧ watch.thread.isFristTimeLaunch = true ∧
      watch.thread.isCloseBLAppUsingWd = true
  · obtain ⟨rfl, latch, close⟩ := enumerates
    simp only [Watch.killTick, killOtherApplications, latch, close, Bool.and_self, ↓reduceIte,
      enumWindows, afterCalls_enumWindows, callForEach_eq, LeavesHandle, true_and]
    cases first : desktops.head? with
    | none => simp [afterCalls]
    | some desktop =>
        simp only [afterCalls_enumWindowProc2, Option.mem_some_iff, exists_eq_left']
  · have never : ¬ LeavesHandle platform folding watch (.killTick desktops) := fun leaves =>
      enumerates ⟨leaves.1, leaves.2.1, leaves.2.2.1⟩
    rw [if_neg never]
    cases platform with
    | macOS => rfl
    | windows =>
        have closed : (watch.thread.isFristTimeLaunch && watch.thread.isCloseBLAppUsingWd) =
            false := by
          rw [Bool.eq_false_iff, ne_eq, Bool.and_eq_true]
          exact fun both => enumerates ⟨rfl, both⟩
        simp only [Watch.killTick, killOtherApplications, closed, Bool.false_eq_true, ↓reduceIte]
        rfl

/-- An event leaves one more handle open, or the open resources as they were. -/
theorem tickStep_held (ticking : Ticking) (event : WatchEvent) :
    (tickStep platform folding ticking event).ledger.held =
      if LeavesHandle platform folding ticking.watch event then
        (ticking.ledger.acquire .handle).held
      else ticking.ledger.held := by
  cases event with
  | historyChanges file => rfl
  | scan dummyCall input =>
      cases input with
      | windows calls table =>
          change (afterCalls _ (processWindows _ _ _ _ _).calls).held = _
          rw [afterCalls_processWindows]
          cases opened : calls.snapshot <;> simp [LeavesHandle, opened]
      | macOS calls table =>
          exact held_processMac folding ticking.ledger dummyCall calls table ticking.watch.thread
  | killTick desktops =>
      change (afterCalls _ (Watch.killTick _ _ _ _)).held = _
      rw [afterCalls_killTick, apply_ite ResourceLedger.held]

end WatchDog
