import WatchDogProcess.Watchdog.TimedSlots

/-! # What a launch starts

`LaunchApp` quotes the configured location and appends its arguments. For every
location without a double quote the line is split into exactly that program and
those arguments, but for the empty location, which a missing history file or key
gives: its quotes contribute nothing, and the first argument is started as a
program (`WatchDog.launch_starts_configured_iff`).
-/

namespace WatchDog

/-- A launch starts no program, or the configured one with the fixed arguments. -/
def StartsConfigured (spaces : Whitespace) (platform : Platform) (history : ReadOutcome) : Prop :=
  launchApp spaces platform history = none ∨
    launchApp spaces platform history = some
      (launchProgram platform (getAppRunningLocation history), launchArguments platform)

instance (spaces : Whitespace) (platform : Platform) (history : ReadOutcome) :
    Decidable (StartsConfigured spaces platform history) :=
  inferInstanceAs (Decidable (_ ∨ _))

variable {spaces : Whitespace} {platform : Platform} {history : ReadOutcome}

/-- A location that is not empty is the program started. -/
theorem launchApp_of_configured (noQuote : '"' ∉ (getAppRunningLocation history).toList)
    (configured : getAppRunningLocation history ≠ "") :
    launchApp spaces platform history = some
      (launchProgram platform (getAppRunningLocation history), launchArguments platform) := by
  rw [launchApp, startDetached, tokens_launchLine spaces platform noQuote, if_neg configured]
  rfl

/-- With an empty location the first argument is the program started. -/
theorem launchApp_of_empty (empty : getAppRunningLocation history = "") :
    launchApp spaces platform history = match platform with
      | .windows => some ("-macUpdate", [])
      | .macOS => some ("argument", ["-macUpdate"]) := by
  have noQuote : '"' ∉ (getAppRunningLocation history).toList := by
    rw [empty]
    exact List.not_mem_nil
  rw [launchApp, startDetached, tokens_launchLine spaces platform noQuote, if_pos empty]
  cases platform <;> rfl

/-- **What a launch starts.** For every location without a double quote, on both
platforms, a launch starts nothing or exactly the configured program with the
fixed arguments if and only if the location is not empty. -/
theorem launch_starts_configured_iff (spaces : Whitespace) (platform : Platform)
    (history : ReadOutcome) (noQuote : '"' ∉ (getAppRunningLocation history).toList) :
    StartsConfigured spaces platform history ↔ getAppRunningLocation history ≠ "" := by
  constructor
  · intro starts empty
    rw [StartsConfigured, launchApp_of_empty empty, empty] at starts
    revert starts
    cases platform <;> decide
  · intro configured
    exact Or.inr (launchApp_of_configured noQuote configured)

/-- Without a history file Windows is asked to start a program `-macUpdate`. -/
theorem launch_starts_argument :
    ¬ ∀ (spaces : Whitespace) (platform : Platform) (history : ReadOutcome),
      '"' ∉ (getAppRunningLocation history).toList → StartsConfigured spaces platform history := by
  intro starts
  exact absurd (starts .ascii .windows .missing (by decide)) (by decide)

/-- A location with a blank and backslashes. -/
theorem launch_starts_configured_iff_blank :
    StartsConfigured .ascii .windows (.text (some (KeyedRecord.set KeyedRecord.empty
      "app_location" (.string "C:\\Program Files\\RemoteDesk.exe")))) :=
  (launch_starts_configured_iff .ascii .windows (.text (some (KeyedRecord.set KeyedRecord.empty
    "app_location" (.string "C:\\Program Files\\RemoteDesk.exe")))) (by decide)).mpr (by decide)

end WatchDog
