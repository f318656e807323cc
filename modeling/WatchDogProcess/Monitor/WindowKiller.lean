import WatchDogProcess.Monitor.ProcessTable

/-! # Killing the windows of other applications

On Windows a kill tick enumerates the top-level windows while the latch
`isFristTimeLaunch` and the configuration ask for it. The callback does not look
at the window it is given: it takes the foreground window, compares its title
with the white list, and terminates the process of a window that is not listed.
It always stops the enumeration, so a tick makes at most one attempt
(`WatchDog.killOtherApplications_calls`). The enumeration is one of the calls
that a tick makes.

On macOS the tick composes a script for a process that it never starts.
-/

namespace WatchDog

/-- What one call of the callback meets: the foreground window, and whether
opening and terminating its process succeed. -/
structure Desktop where
  foreground : Option Window
  opens : Bool
  terminates : Bool
  deriving DecidableEq, Repr

/-- The loop over the white list: an entry that the title contains ends it. -/
def isWhitelisted (folding : CaseFolding) (title : String) : Bool → List String → Bool
  | verdict, [] => verdict
  | _, tab :: tabs =>
      if folding.contains title tab then true else isWhitelisted folding title false tabs

/-- The attempt on a window that is not listed. -/
def terminate (window : Window) (desktop : Desktop) : List OsCall :=
  .openProcess window desktop.opens ::
    if desktop.opens then [.terminateProcess window desktop.terminates] else []

/-- The callback: whether the enumeration goes on, and the calls made. -/
def enumWindowProc2 (folding : CaseFolding) (whiteListedTabList : List String)
    (desktop : Desktop) : Bool × List OsCall :=
  match desktop.foreground with
  | none => (false, [])
  | some window =>
      if window.visible then
        if window.title.isEmpty then (false, [])
        else if isWhitelisted folding window.title true whiteListedTabList then (false, [])
        else (false, terminate window desktop)
      else (false, [])

/-- The callback is called for each top-level window until it returns false. The
desktop that each call meets is given. -/
def callForEach (callback : Desktop → Bool × List OsCall) : List Desktop → List OsCall
  | [] => []
  | desktop :: desktops =>
      let (goesOn, calls) := callback desktop
      calls ++ if goesOn then callForEach callback desktops else []

/-- `EnumWindows(callback, NULL)`. -/
def enumWindows (callback : Desktop → Bool × List OsCall) (desktops : List Desktop) :
    List OsCall :=
  .enumWindows :: callForEach callback desktops

/-- A kill tick: the calls made. -/
def killOtherApplications (platform : Platform) (folding : CaseFolding)
    (whiteListedTabList : List String) (desktops : List Desktop) (thread : ProctortrackThread) :
    List OsCall :=
  match platform with
  | .windows =>
      if thread.isFristTimeLaunch && thread.isCloseBLAppUsingWd then
        enumWindows (enumWindowProc2 folding whiteListedTabList) desktops
      else []
  | .macOS => []

/-! ### The verdict and the attempt -/

variable (folding : CaseFolding)

theorem isWhitelisted_false_eq (title : String) (tabs : List String) :
    isWhitelisted folding title false tabs = tabs.any (folding.contains title) := by
  induction tabs with
  | nil => rfl
  | cons tab tabs ih =>
      rw [isWhitelisted, ih, List.any_cons]
      cases folding.contains title tab <;> rfl

/-- A title is listed when it contains an entry of the list up to letter case; on
an empty list every title is. -/
theorem isWhitelisted_iff (title : String) (tabs : List String) :
    isWhitelisted folding title true tabs = true ↔
      tabs = [] ∨ ∃ tab ∈ tabs, folding.contains title tab = true := by
  cases tabs with
  | nil => simp only [isWhitelisted, true_or]
  | cons tab tabs =>
      have verdict : isWhitelisted folding title true (tab :: tabs) =
          (tab :: tabs).any (folding.contains title) := by
        rw [← isWhitelisted_false_eq]
        rfl
      rw [verdict, List.any_eq_true]
      simp only [reduceCtorEq, false_or]

/-- On a list with an entry, a title is not listed when it contains none. -/
theorem isWhitelisted_eq_false_iff (title : String) {tabs : List String} (nonempty : tabs ≠ []) :
    isWhitelisted folding title true tabs = false ↔
      ∀ tab ∈ tabs, folding.contains title tab = false := by
  rw [← Bool.not_eq_true, isWhitelisted_iff]
  push Not
  simp only [ne_eq, nonempty, not_false_eq_true, true_and, Bool.not_eq_true]

/-- The window that a tick attacks: the one in the foreground, if it is visible,
has a title, and the title is not listed. -/
def attacked (whiteListedTabList : List String) (desktop : Desktop) : Option Window :=
  desktop.foreground.filter fun window =>
    window.visible && !window.title.isEmpty &&
      !isWhitelisted folding window.title true whiteListedTabList

theorem enumWindowProc2_eq (whiteListedTabList : List String) (desktop : Desktop) :
    enumWindowProc2 folding whiteListedTabList desktop =
      (false, match attacked folding whiteListedTabList desktop with
        | some window => terminate window desktop
        | none => []) := by
  rcases desktop with ⟨_ | window, opens, terminates⟩
  · rfl
  · cases visible : window.visible <;> cases titled : window.title.isEmpty <;>
      cases listed : isWhitelisted folding window.title true whiteListedTabList <;>
        simp [enumWindowProc2, attacked, Option.filter, visible, titled, listed]

theorem attacked_eq_some_iff (whiteListedTabList : List String) (desktop : Desktop)
    (window : Window) :
    attacked folding whiteListedTabList desktop = some window ↔
      desktop.foreground = some window ∧ window.visible = true ∧ window.title ≠ "" ∧
        isWhitelisted folding window.title true whiteListedTabList = false := by
  simp only [attacked, Option.filter_eq_some_iff, Bool.and_eq_true, Bool.not_eq_true',
    String.isEmpty_eq_false_iff, ne_eq, and_assoc]

/-- Only the first call of the callback happens. -/
theorem callForEach_eq (whiteListedTabList : List String) (desktops : List Desktop) :
    callForEach (enumWindowProc2 folding whiteListedTabList) desktops =
      match desktops.head? with
      | some desktop => (enumWindowProc2 folding whiteListedTabList desktop).2
      | none => [] := by
  cases desktops with
  | nil => rfl
  | cons desktop desktops =>
      simp only [callForEach, enumWindowProc2_eq, Bool.false_eq_true, ↓reduceIte,
        List.append_nil, List.head?_cons]

/-- The calls of a tick are none, an enumeration, or an enumeration and one attempt. -/
theorem killOtherApplications_calls (platform : Platform) (whiteListedTabList : List String)
    (desktops : List Desktop) (thread : ProctortrackThread) :
    let calls := killOtherApplications platform folding whiteListedTabList desktops thread
    calls = [] ∨ calls = [.enumWindows] ∨ ∃ desktop window, desktops.head? = some desktop ∧
      attacked folding whiteListedTabList desktop = some window ∧
        calls = .enumWindows :: terminate window desktop := by
  intro calls
  cases platform with
  | macOS => exact Or.inl rfl
  | windows =>
      simp only [calls, killOtherApplications]
      split
      · right
        rw [enumWindows, callForEach_eq]
        cases first : desktops.head? with
        | none => exact Or.inl rfl
        | some desktop =>
            simp only [enumWindowProc2_eq]
            cases target : attacked folding whiteListedTabList desktop with
            | none => exact Or.inl rfl
            | some window => exact Or.inr ⟨desktop, window, rfl, target, rfl⟩
      · exact Or.inl rfl

@[simp]
theorem openProcess_mem_terminate (window target : Window) (desktop : Desktop) (opened : Bool) :
    .openProcess target opened ∈ terminate window desktop ↔
      target = window ∧ opened = desktop.opens := by
  cases opens : desktop.opens <;> simp [terminate, opens]

@[simp]
theorem terminateProcess_mem_terminate (window target : Window) (desktop : Desktop)
    (terminated : Bool) :
    .terminateProcess target terminated ∈ terminate window desktop ↔
      desktop.opens = true ∧ target = window ∧ terminated = desktop.terminates := by
  cases opens : desktop.opens <;> simp [terminate, opens]

end WatchDog
