import WatchDogProcess.Monitor.Watch

/-! # When windows are killed, and whose

Killing windows stops for good at the first scan, the dummy one included, that
sees the product: from then on no kill tick enumerates windows, whatever becomes
of the application (`WatchDog.window_killing_stops`).

Until then the white list decides what is spared. Its built-in names hold those of
Proctortrack and RemoteDesk and not that of FreshHire, which the scan, the kill and
the macOS script all know, so a window of FreshHire is spared exactly when the
configuration lists a part of its name (`WatchDog.spares_application_iff`,
`WatchDog.freshHire_attacked`).
-/

namespace WatchDog

open EventRun

/-! ### The latch -/

/-- An attempt to terminate a process. -/
def OsCall.isTerminate : OsCall → Bool
  | .terminateProcess _ _ => true
  | _ => false

theorem countP_terminate_le (window : Window) (desktop : Desktop) :
    (terminate window desktop).countP OsCall.isTerminate ≤ 1 := by
  simp only [terminate]
  cases desktop.opens <;> simp [OsCall.isTerminate]

/-- A window that the callback attacks: it is visible, has a title, and its title
contains no entry of the list. -/
def IsTarget (folding : CaseFolding) (tabs : List String) (window : Window) : Prop :=
  window.visible = true ∧ window.title ≠ "" ∧
    ∀ tab ∈ tabs, folding.contains window.title tab = false

theorem attacked_iff_isTarget (folding : CaseFolding) {tabs : List String} (nonempty : tabs ≠ [])
    (desktop : Desktop) (window : Window) :
    attacked folding tabs desktop = some window ↔
      desktop.foreground = some window ∧ IsTarget folding tabs window := by
  rw [attacked_eq_some_iff, isWhitelisted_eq_false_iff folding window.title nonempty, IsTarget]

section Tick

variable (folding : CaseFolding) (watch : Watch) (desktops : List Desktop)

/-- A tick on Windows enumerates windows exactly while the latch stands and the
configuration asks for it. -/
theorem enumWindows_mem_killTick :
    .enumWindows ∈ watch.killTick .windows folding desktops ↔
      watch.thread.isFristTimeLaunch = true ∧ watch.thread.isCloseBLAppUsingWd = true := by
  simp only [Watch.killTick, killOtherApplications, enumWindows]
  cases watch.thread.isFristTimeLaunch <;> cases watch.thread.isCloseBLAppUsingWd <;> simp

/-- A tick that enumerates windows makes the attempt of the first callback. -/
theorem killTick_eq_of_enumerates
    (enumerates : .enumWindows ∈ watch.killTick .windows folding desktops) :
    watch.killTick .windows folding desktops =
      .enumWindows :: (desktops.head?.elim [] fun desktop =>
        (attacked folding watch.whiteListedTabList desktop).elim [] (terminate · desktop)) := by
  obtain ⟨latch, close⟩ := (enumWindows_mem_killTick folding watch desktops).mp enumerates
  simp only [Watch.killTick, killOtherApplications, latch, close, Bool.and_self, ↓reduceIte,
    enumWindows, callForEach_eq, enumWindowProc2_eq]
  cases desktops.head? with
  | none => rfl
  | some desktop =>
      simp only [Option.elim_some]
      cases attacked folding watch.whiteListedTabList desktop <;> rfl

/-- A tick that does not enumerate windows makes no call. -/
theorem killTick_eq_nil (quiet : .enumWindows ∉ watch.killTick .windows folding desktops) :
    watch.killTick .windows folding desktops = [] := by
  rw [enumWindows_mem_killTick, ← Bool.and_eq_true, Bool.not_eq_true] at quiet
  simp only [Watch.killTick, killOtherApplications, quiet, Bool.false_eq_true, ↓reduceIte]

/-- The process that a tick opens is that of the foreground window of the first
callback. -/
theorem openProcess_mem_killTick (nonempty : watch.whiteListedTabList ≠ []) (window : Window)
    (opened : Bool) :
    .openProcess window opened ∈ watch.killTick .windows folding desktops ↔
      .enumWindows ∈ watch.killTick .windows folding desktops ∧
        ∃ desktop, desktops.head? = some desktop ∧ desktop.foreground = some window ∧
          IsTarget folding watch.whiteListedTabList window ∧ desktop.opens = opened := by
  by_cases enumerates : .enumWindows ∈ watch.killTick .windows folding desktops
  · have calls := killTick_eq_of_enumerates folding watch desktops enumerates
    simp only [enumerates, true_and]
    rw [calls]
    cases desktops.head? with
    | none => simp
    | some desktop =>
        have target := attacked_iff_isTarget folding nonempty desktop
        cases attack : attacked folding watch.whiteListedTabList desktop with
        | none =>
            simp only [attack, reduceCtorEq, false_iff] at target
            simp only [Option.elim_some, attack, Option.elim_none, List.mem_cons, reduceCtorEq,
              List.not_mem_nil, or_self, Option.some.injEq, exists_eq_left', false_iff]
            exact fun ⟨foreground, isTarget, _⟩ => target window ⟨foreground, isTarget⟩
        | some attackedWindow =>
            simp only [attack, Option.some.injEq] at target
            simp only [Option.elim_some, attack, List.mem_cons, reduceCtorEq,
              openProcess_mem_terminate, false_or, Option.some.injEq, exists_eq_left']
            rw [← and_assoc, ← target window]
            exact and_congr eq_comm eq_comm
  · simp [killTick_eq_nil folding watch desktops enumerates]

/-- A tick terminates the process that it has opened. -/
theorem terminateProcess_mem_killTick (window : Window) (terminated : Bool) :
    .terminateProcess window terminated ∈ watch.killTick .windows folding desktops ↔
      .openProcess window true ∈ watch.killTick .windows folding desktops ∧
        ∃ desktop, desktops.head? = some desktop ∧ desktop.terminates = terminated := by
  by_cases enumerates : .enumWindows ∈ watch.killTick .windows folding desktops
  · rw [killTick_eq_of_enumerates folding watch desktops enumerates]
    cases desktops.head? with
    | none => simp
    | some desktop =>
        cases attack : attacked folding watch.whiteListedTabList desktop with
        | none => simp [attack]
        | some attackedWindow =>
            simp only [Option.elim_some, attack, List.mem_cons, reduceCtorEq, false_or,
              terminateProcess_mem_terminate, openProcess_mem_terminate, Option.some.injEq,
              exists_eq_left']
            constructor
            · rintro ⟨opens, isWindow, rfl⟩
              exact ⟨⟨isWindow, opens.symm⟩, rfl⟩
            · rintro ⟨⟨isWindow, opens⟩, rfl⟩
              exact ⟨opens.symm, isWindow, rfl⟩
  · simp [killTick_eq_nil folding watch desktops enumerates]

/-- A tick makes at most one attempt to terminate a process. -/
theorem countP_killTick_le :
    (watch.killTick .windows folding desktops).countP OsCall.isTerminate ≤ 1 := by
  rcases killOtherApplications_calls folding .windows watch.whiteListedTabList desktops
    watch.thread with none | only | ⟨desktop, window, -, -, calls⟩
  · simp only [Watch.killTick, none, List.countP_nil, Nat.zero_le]
  · simp [Watch.killTick, only, OsCall.isTerminate]
  · rw [Watch.killTick, calls, List.countP_cons_of_neg Bool.false_ne_true]
    exact countP_terminate_le window desktop

/-- The history file of a configuration that asks for windows to be killed. -/
def closingHistory (config appName : String) : FileState :=
  .text (some (KeyedRecord.set (KeyedRecord.set (KeyedRecord.set KeyedRecord.empty
    "is_close_bl_apps_using_wd" (.bool true)) "app_name" (.string appName))
      "white_listed_tabs_for_wd" (.string config)))

/-- The watch that begins with that file. -/
def closingWatch (config appName : String) : Watch :=
  let history := (closingHistory config appName).read
  .start (closingHistory config appName) 0 ⟨history, history, history⟩
    ⟨history, history, history, history⟩

/-- The dummy scan of a table without any product. -/
def dummyScan : WatchEvent :=
  .scan 1 (.windows ⟨true, true, fun _ => true⟩ [⟨"System", 4⟩])

/-- **Window killing stops for good.** After every run of scans, kill ticks and
changes of the history file, a kill tick calls `EnumWindows` if and only if the
configuration asked for it and no scan of the run has seen the product. It calls
`OpenProcess` exactly for the foreground window that the first callback meets, when
the tick enumerates windows and the window is a target of the white list, and
`TerminateProcess` exactly when that opening succeeds; so each tick makes at most one
attempt to terminate a process. -/
theorem window_killing_stops (history : FileState) (now : Nat)
    (constructed : ConstructorReads) (reads : ThreadReads) (before : List WatchEvent) :
    let watch := run (watchStep folding) (Watch.start history now constructed reads) before
    let calls := watch.killTick .windows folding desktops
    (.enumWindows ∈ calls ↔ getIsCloseBLAppUsingWd reads.isCloseBLAppUsingWd = true ∧
      ∀ event ∈ before, ¬ Sees folding (getApplicationName reads.appName) event) ∧
    (∀ window opened, .openProcess window opened ∈ calls ↔ .enumWindows ∈ calls ∧
      ∃ desktop, desktops.head? = some desktop ∧ desktop.foreground = some window ∧
        IsTarget folding watch.whiteListedTabList window ∧ desktop.opens = opened) ∧
    (∀ window terminated, .terminateProcess window terminated ∈ calls ↔
      .openProcess window true ∈ calls ∧
        ∃ desktop, desktops.head? = some desktop ∧ desktop.terminates = terminated) ∧
    calls.countP OsCall.isTerminate ≤ 1 := by
  intro watch calls
  have nonempty : watch.whiteListedTabList ≠ [] := by
    rw [watch_whiteListedTabList]
    exact whiteListedTabs_ne_nil _
  refine ⟨?_, openProcess_mem_killTick folding watch desktops nonempty,
    terminateProcess_mem_killTick folding watch desktops,
    countP_killTick_le folding watch desktops⟩
  obtain ⟨-, -, close, latch⟩ :=
    watch_thread folding (Watch.start history now constructed reads) before
  rw [enumWindows_mem_killTick, latch, close, and_comm]
  simp only [Watch.start, checkRunningApplication, ProctortrackThread.construct, true_and]

/-- While the application starts a tick terminates the process of another window, and once a
scan has seen the application no tick enumerates windows. -/
theorem window_killing_stops_remoteDesk :
    let other : Window := ⟨true, "Solitaire", 1000⟩
    let seen : WatchEvent := .scan 0 (.windows ⟨true, true, fun _ => true⟩ [⟨"RemoteDesk.exe", 8⟩])
    let tick := fun before => (run (watchStep .ascii) (closingWatch "" "remotedesk")
      before).killTick .windows .ascii [⟨some other, true, true⟩]
    tick [dummyScan] = [.enumWindows, .openProcess other true, .terminateProcess other true] ∧
      .enumWindows ∉ tick [dummyScan, seen, dummyScan] := by
  intro other seen tick
  refine ⟨by decide +kernel, fun enumerates => ?_⟩
  have unseen := ((window_killing_stops .ascii _ _ _ _ _ _).1.mp enumerates).2 seen
    (List.mem_cons_of_mem _ List.mem_cons_self)
  exact unseen ⟨.remoteDesk, ⟨"RemoteDesk.exe", 8⟩, by decide +kernel, by decide +kernel, rfl⟩

end Tick

/-! ### The protected product -/

/-- In every watch with this configuration and application name, no kill tick
attempts to terminate the process of a window whose title contains the name of the
configured product in any letter case. -/
def SparesApplication (folding : CaseFolding) (config appName : String) : Prop :=
  ∀ product : Product, productOf folding appName = some product →
    ∀ (platform : Platform) (history : FileState) (now : Nat) (constructed : ConstructorReads)
      (reads : ThreadReads), getWhiteListedTabForWD constructed.whiteListedTabs = config →
    getApplicationName reads.appName = appName →
    ∀ (before : List WatchEvent) (desktops : List Desktop) (window : Window) (succeeded : Bool),
      .terminateProcess window succeeded ∈
        (run (watchStep folding) (Watch.start history now constructed reads) before).killTick
          platform folding desktops →
      folding.contains window.title product.name = false

/-- Some entry of the white list is a part of the product's name. -/
def Listed (folding : CaseFolding) (config : String) (product : Product) : Prop :=
  ∃ tab ∈ whiteListedTabs config, folding.contains product.name tab = true

variable {folding : CaseFolding} {config appName : String} {product : Product}

/-- The built-in names list every product but FreshHire. -/
theorem listed_iff :
    Listed folding config product ↔ product ≠ .freshHire ∨
      ∃ piece ∈ splitAtCommas config, piece ≠ "" ∧
        folding.contains Product.freshHire.name piece = true := by
  have builtIn : product ≠ .freshHire → product.name ∈ defaultTabs ∧ product.name ≠ "" := by
    cases product <;> decide
  have missing : ∀ tab ∈ defaultTabs, folding.contains Product.freshHire.name tab = false := by
    intro tab member
    have plain : (Product.freshHire.name :: defaultTabs).all CaseFolding.isAscii = true := by
      decide
    rw [List.all_eq_true] at plain
    rw [folding.contains_eq_ascii (plain _ List.mem_cons_self)
      (plain tab (List.mem_cons_of_mem _ member))]
    revert tab
    decide
  simp only [Listed, mem_whiteListedTabs]
  by_cases isFreshHire : product = .freshHire
  · subst isFreshHire
    simp only [ne_eq, not_true_eq_false, false_or]
    constructor
    · rintro ⟨tab, ⟨default | piece, nonempty⟩, contained⟩
      · exact absurd (contained.symm.trans (missing tab default)) Bool.true_eq_false.mp
      · exact ⟨tab, piece, nonempty, contained⟩
    · rintro ⟨tab, piece, nonempty, contained⟩
      exact ⟨tab, ⟨Or.inr piece, nonempty⟩, contained⟩
  · refine iff_of_true ?_ (Or.inl isFreshHire)
    obtain ⟨member, nonempty⟩ := builtIn isFreshHire
    exact ⟨product.name, ⟨Or.inl member, nonempty⟩, folding.contains_refl _⟩

/-- A listed product is spared. -/
theorem sparesApplication_of_listed (named : productOf folding appName = some product)
    (listed : Listed folding config product) : SparesApplication folding config appName := by
  intro other isOther platform history now constructed reads isConfig _ before desktops window
    succeeded attempt
  obtain rfl : product = other := Option.some.inj (named.symm.trans isOther)
  obtain ⟨tab, member, contained⟩ := listed
  rw [Watch.killTick, watch_whiteListedTabList] at attempt
  rcases killOtherApplications_calls folding platform _ desktops _ with
    none | only |
      ⟨desktop, target, -, isTarget, calls⟩
  · rw [none] at attempt
    exact absurd attempt List.not_mem_nil
  · rw [only] at attempt
    exact absurd (List.mem_singleton.mp attempt) OsCall.noConfusion
  · rw [calls] at attempt
    obtain rfl : window = target := by
      simp only [List.mem_cons, reduceCtorEq, terminateProcess_mem_terminate, false_or] at attempt
      exact attempt.2.1
    obtain ⟨-, unlisted⟩ := Option.filter_eq_some_iff.mp isTarget
    rw [Bool.eq_false_iff]
    intro protectedTitle
    have verdict : isWhitelisted folding window.title true (whiteListedTabs config) = true :=
      (isWhitelisted_iff folding _ _).mpr
        (Or.inr ⟨tab, member, folding.contains_trans protectedTitle contained⟩)
    rw [← isConfig] at verdict
    simp only [Watch.start, ProctoringWatchDog.construct, verdict, Bool.not_true,
      Bool.and_false, Bool.false_eq_true] at unlisted

/-- A window titled with a product's name. -/
def productWindow (product : Product) : Window := ⟨true, product.name, 1000⟩

theorem not_sees_dummyScan (folding : CaseFolding) (appName : String) :
    ¬ Sees folding appName dummyScan := by
  rintro ⟨product, entry, -, member, isProduct⟩
  obtain rfl : entry = ⟨"System", 4⟩ := by
    simpa [enumerated, process32First, visitedEntries] using member
  revert isProduct
  cases product <;> decide

/-- Before the first scan that sees an unlisted product its window is attacked. -/
theorem killTick_productWindow (unlisted : ¬ Listed folding config product) :
    .terminateProcess (productWindow product) true ∈
      (run (watchStep folding) (closingWatch config appName) [dummyScan]).killTick
        .windows folding [⟨some (productWindow product), true, true⟩] := by
  obtain ⟨-, -, close, latch⟩ :=
    watch_thread folding (closingWatch config appName) [dummyScan]
  have stands : (run (watchStep folding) (closingWatch config appName)
      [dummyScan]).thread.isFristTimeLaunch = true := by
    refine latch.mpr ⟨rfl, ?_⟩
    intro event member
    obtain rfl := List.mem_singleton.mp member
    exact not_sees_dummyScan folding _
  have asks : (run (watchStep folding) (closingWatch config appName)
      [dummyScan]).thread.isCloseBLAppUsingWd = true := close
  have listed : isWhitelisted folding product.name true (whiteListedTabs config) = false := by
    rw [Bool.eq_false_iff]
    intro verdict
    rcases (isWhitelisted_iff folding _ _).mp verdict with empty | contained
    · exact absurd empty (whiteListedTabs_ne_nil config)
    · exact unlisted contained
  have target : attacked folding (whiteListedTabs config)
      ⟨some (productWindow product), true, true⟩ = some (productWindow product) := by
    have titled : product.name.isEmpty = false := by
      cases product <;> decide
    simp [attacked, Option.filter, productWindow, titled, listed]
  rw [Watch.killTick, killOtherApplications, stands, asks, watch_whiteListedTabList]
  simp only [Bool.and_self, ↓reduceIte, enumWindows, callForEach_eq, List.head?_cons]
  have tabs : (closingWatch config appName).whiteListedTabList = whiteListedTabs config := rfl
  rw [enumWindowProc2_eq, tabs, target]
  simp [terminate]

/-- **Whose windows are spared.** For a recognised application name in any letter
case and every configuration string, no kill tick of any watch attempts to
terminate a window titled with the product's name if and only if the product is
not FreshHire or the configuration lists a part of its name. -/
theorem spares_application_iff (folding : CaseFolding) (config appName : String)
    (product : Product) (named : productOf folding appName = some product) :
    SparesApplication folding config appName ↔ product ≠ .freshHire ∨
      ∃ piece ∈ splitAtCommas config, piece ≠ "" ∧
        folding.contains Product.freshHire.name piece = true := by
  rw [← listed_iff]
  refine ⟨?_, sparesApplication_of_listed named⟩
  intro spares
  by_contra unlisted
  have spared := spares product named .windows (closingHistory config appName) 0 _ _ rfl rfl
    [dummyScan] [⟨some (productWindow product), true, true⟩] (productWindow product) true
    (killTick_productWindow unlisted)
  exact absurd ((folding.contains_refl product.name).symm.trans spared) Bool.true_eq_false.mp

theorem spares_application_iff_freshHire :
    SparesApplication .ascii "Firefox,hire" "freshhire" ↔ Product.freshHire ≠ .freshHire ∨
      ∃ piece ∈ splitAtCommas "Firefox,hire", piece ≠ "" ∧
        CaseFolding.ascii.contains Product.freshHire.name piece = true :=
  spares_application_iff .ascii "Firefox,hire" "freshhire" .freshHire (by decide)

/-- With an empty configuration FreshHire is killed while it starts. -/
theorem freshHire_attacked : ¬ SparesApplication .ascii "" "FreshHire" := by
  intro spares
  have unlisted : ¬ Listed .ascii "" .freshHire := by
    rw [listed_iff]
    decide
  have spared := spares .freshHire (by decide) .windows (closingHistory "" "FreshHire") 0 _ _
    rfl rfl [dummyScan] [⟨some (productWindow .freshHire), true, true⟩]
    (productWindow .freshHire) true (killTick_productWindow unlisted)
  exact absurd spared (by decide)

end WatchDog
