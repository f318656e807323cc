import WatchDogProcess.Monitor.OsResources

/-! # The handles that the ticks leave open

A scan on macOS releases its buffer on every path. A scan on Windows never closes
its snapshot, and the callback never closes the process it opened. So a run of
ticks keeps the open resources exactly along the events that get no handle
(`WatchDog.ticks_keep_resources_iff`), and each event that gets one leaves one
more open (`WatchDog.card_held_run`): the open handles of a run are as many as its
successful snapshots and openings.
-/

namespace WatchDog

open EventRun

variable (platform : Platform) (folding : CaseFolding)

/-- An event keeps the open resources exactly when it leaves no handle open. -/
theorem tickStep_held_eq_iff (ticking : Ticking) (event : WatchEvent) :
    (tickStep platform folding ticking event).ledger.held = ticking.ledger.held ↔
      ¬ LeavesHandle platform folding ticking.watch event := by
  rw [tickStep_held]
  by_cases leaves : LeavesHandle platform folding ticking.watch event
  · simp only [leaves, ↓reduceIte, not_true_eq_false, iff_false]
    exact ticking.ledger.held_acquire_ne .handle
  · simp only [leaves, ↓reduceIte, not_false_eq_true]

/-- The open resources grow by one at each event that leaves a handle open. -/
theorem card_held_run (ticking : Ticking) (events : List WatchEvent) :
    (run (tickStep platform folding) ticking events).ledger.held.card =
      ticking.ledger.held.card + count (tickStep platform folding)
        (fun ticking event => LeavesHandle platform folding ticking.watch event)
        ticking events := by
  induction events generalizing ticking with
  | nil => rfl
  | cons event events ih =>
      rw [run_cons, ih, count_cons, tickStep_held, ← Nat.add_assoc]
      by_cases leaves : LeavesHandle platform folding ticking.watch event
      · simp only [leaves, ↓reduceIte, ResourceLedger.card_held_acquire]
      · simp only [leaves, ↓reduceIte, Nat.add_zero]

/-- **Which ticks accumulate resources.** In every run of scans and kill ticks, with
every table, window and outcome of the system calls, each tick ends with the open
handles and blocks it started with if and only if no scan on Windows gets a
snapshot and no kill tick opens the process of the window it attacks. -/
theorem ticks_keep_resources_iff (platform : Platform) (folding : CaseFolding) (start : Ticking)
    (events : List WatchEvent) :
    Always (tickStep platform folding) (fun ticking event =>
        (tickStep platform folding ticking event).ledger.held = ticking.ledger.held)
        start events ↔
      Always (tickStep platform folding) (fun ticking event =>
        ¬ LeavesHandle platform folding ticking.watch event) start events := by
  constructor
  · exact Always.mono fun ticking event => (tickStep_held_eq_iff platform folding ticking event).mp
  · exact Always.mono fun ticking event => (tickStep_held_eq_iff platform folding ticking event).mpr

/-- The watch of a machine with an empty history file, and nothing open. -/
def idleTicking : Ticking :=
  ⟨.start .missing 0 ⟨.missing, .missing, .missing⟩ ⟨.missing, .missing, .missing, .missing⟩,
    .empty⟩

/-- One scan on Windows, with every call successful, leaves its snapshot open. -/
theorem scan_leaves_snapshot :
    ¬ ∀ (platform : Platform) (folding : CaseFolding) (start : Ticking) (events : List WatchEvent),
      Always (tickStep platform folding) (fun ticking event =>
        (tickStep platform folding ticking event).ledger.held = ticking.ledger.held)
        start events := by
  intro keeps
  have scan := keeps .windows .ascii idleTicking
    [.scan 0 (.windows ⟨true, true, fun _ => true⟩ [⟨"System", 4⟩])]
  exact absurd scan.1 (by decide)

end WatchDog
