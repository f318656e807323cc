import WatchDogProcess.Monitor.WindowKiller

/-! # What the white list means

The list built by the constructor is the built-in names followed by the first
occurrences of the new, nonempty pieces of the configuration
(`WatchDog.whiteListedTabs_eq`). It is never empty and holds no empty entry, so
neither the verdict the loop starts with nor an entry contained in every title
lets a window through: the foreground window is attacked exactly when its title
contains no built-in name and no nonempty piece (`WatchDog.white_list_meaning`).
-/

namespace WatchDog

/-- The list is the built-in names, then the first occurrences of the new nonempty
pieces. -/
theorem whiteListedTabs_eq (config : String) :
    whiteListedTabs config = defaultTabs ++
      ((splitAtCommas config).filter fun piece => piece ≠ "" ∧ piece ∉ defaultTabs).eraseDups := by
  have builtIn : defaultTabs.filter (fun entry => decide (entry ≠ "")) = defaultTabs := by decide
  have distinct : defaultTabs.eraseDups = defaultTabs := by decide
  unfold whiteListedTabs removeAll removeDuplicates
  rw [filter_removeDuplicatesFrom]
  simp only [List.not_mem_nil, not_false_eq_true, decide_true, Bool.and_true, List.filter_append]
  rw [builtIn, List.eraseDups_append, distinct, List.removeAll, List.filter_filter]
  congr 2
  apply List.filter_congr
  intro piece _
  by_cases known : piece ∈ defaultTabs <;> simp [known]

/-- A title is listed exactly when it contains a built-in name or a nonempty piece. -/
theorem isWhitelisted_whiteListedTabs (folding : CaseFolding) (config title : String) :
    isWhitelisted folding title true (whiteListedTabs config) = true ↔
      ∃ tab, (tab ∈ defaultTabs ∨ tab ∈ splitAtCommas config ∧ tab ≠ "") ∧
        folding.contains title tab = true := by
  have nonempty : ∀ tab ∈ defaultTabs, tab ≠ "" := by decide
  rw [isWhitelisted_iff]
  simp only [whiteListedTabs_ne_nil, false_or, mem_whiteListedTabs]
  apply exists_congr
  intro tab
  apply and_congr_left
  intro _
  constructor
  · rintro ⟨builtIn | piece, filled⟩
    · exact Or.inl builtIn
    · exact Or.inr ⟨piece, filled⟩
  · rintro (builtIn | ⟨piece, filled⟩)
    · exact ⟨Or.inl builtIn, nonempty tab builtIn⟩
    · exact ⟨Or.inr piece, filled⟩

/-- Configurations with the same nonempty pieces list the same titles. -/
theorem isWhitelisted_congr (folding : CaseFolding) {config other : String}
    (same : ∀ piece, piece ≠ "" → (piece ∈ splitAtCommas config ↔ piece ∈ splitAtCommas other))
    (title : String) :
    isWhitelisted folding title true (whiteListedTabs config) =
      isWhitelisted folding title true (whiteListedTabs other) := by
  rw [Bool.eq_iff_iff, isWhitelisted_whiteListedTabs, isWhitelisted_whiteListedTabs]
  apply exists_congr
  intro tab
  apply and_congr_left
  intro _
  apply or_congr_right
  apply and_congr_left
  exact same tab

/-- A title that is not listed contains no built-in name and no nonempty piece. -/
theorem not_isWhitelisted_whiteListedTabs (folding : CaseFolding) (config title : String) :
    isWhitelisted folding title true (whiteListedTabs config) = false ↔
      (∀ tab ∈ defaultTabs, folding.contains title tab = false) ∧
        ∀ piece ∈ splitAtCommas config, piece ≠ "" → folding.contains title piece = false := by
  rw [← Bool.not_eq_true, isWhitelisted_whiteListedTabs]
  push Not
  simp only [Bool.not_eq_true]
  constructor
  · intro unlisted
    exact ⟨fun tab builtIn => unlisted tab (Or.inl builtIn),
      fun piece member filled => unlisted piece (Or.inr ⟨member, filled⟩)⟩
  · rintro ⟨builtIn, pieces⟩ tab (isBuiltIn | ⟨member, filled⟩)
    · exact builtIn tab isBuiltIn
    · exact pieces tab member filled

/-- The callback opens and terminates the process of the foreground window, or makes no
call. -/
theorem enumWindowProc2_attacks (folding : CaseFolding) (tabs : List String) (window : Window)
    (opens terminates : Bool) :
    let calls := (enumWindowProc2 folding tabs ⟨some window, opens, terminates⟩).2
    let attacks := window.visible = true ∧ window.title ≠ "" ∧
      isWhitelisted folding window.title true tabs = false
    attacks ∧ calls = .openProcess window opens ::
        (if opens then [.terminateProcess window terminates] else []) ∨
      ¬ attacks ∧ calls = [] := by
  intro calls attacks
  have target := attacked_eq_some_iff folding tabs ⟨some window, opens, terminates⟩ window
  simp only [true_and] at target
  by_cases attack : attacks
  · refine Or.inl ⟨attack, ?_⟩
    simp only [calls, enumWindowProc2_eq, target.mpr attack, terminate]
  · refine Or.inr ⟨attack, ?_⟩
    have none : attacked folding tabs ⟨some window, opens, terminates⟩ = none := by
      rw [Option.eq_none_iff_forall_ne_some]
      intro other isTarget
      obtain rfl : window = other :=
        Option.some.inj ((attacked_eq_some_iff folding tabs _ other).mp isTarget).1
      exact attack (target.mp isTarget)
    simp only [calls, enumWindowProc2_eq, none]

/-- **What the white list means.** For every configuration string the list is the
built-in names in order and then the first occurrences of the nonempty pieces
not among them; it has no repetition and no empty entry and is not empty. The
pieces are the only texts without a comma that joined by commas give the string.
The callback calls `OpenProcess` and, where that succeeds, `TerminateProcess` for
the foreground window if and only if the window is visible, its title is not
empty, and the title contains no built-in name and no nonempty piece up to letter
case; else it makes no call; and two configurations with the same nonempty pieces
lead to the same calls. -/
theorem white_list_meaning (folding : CaseFolding) (config : String) :
    whiteListedTabs config = defaultTabs ++
        ((splitAtCommas config).filter fun piece =>
          piece ≠ "" ∧ piece ∉ defaultTabs).eraseDups ∧
      (whiteListedTabs config).Nodup ∧ "" ∉ whiteListedTabs config ∧
      whiteListedTabs config ≠ [] ∧
      (∀ pieces : List String, pieces = splitAtCommas config ↔ pieces ≠ [] ∧
        (∀ piece ∈ pieces, ',' ∉ piece.toList) ∧ ",".intercalate pieces = config) ∧
      (∀ (window : Window) (opens terminates : Bool),
        let calls := (enumWindowProc2 folding (whiteListedTabs config)
          ⟨some window, opens, terminates⟩).2
        let attacks := window.visible = true ∧ window.title ≠ "" ∧
          (∀ tab ∈ defaultTabs, folding.contains window.title tab = false) ∧
          ∀ piece ∈ splitAtCommas config, piece ≠ "" →
            folding.contains window.title piece = false
        attacks ∧ calls = .openProcess window opens ::
            (if opens then [.terminateProcess window terminates] else []) ∨
          ¬ attacks ∧ calls = []) ∧
      (∀ opens terminates : Bool, (enumWindowProc2 folding (whiteListedTabs config)
        ⟨none, opens, terminates⟩).2 = []) ∧
      ∀ other : String,
        (∀ piece, piece ≠ "" → (piece ∈ splitAtCommas config ↔ piece ∈ splitAtCommas other)) →
        ∀ desktop, enumWindowProc2 folding (whiteListedTabs config) desktop =
          enumWindowProc2 folding (whiteListedTabs other) desktop := by
  refine ⟨whiteListedTabs_eq config, ?_, ?_, whiteListedTabs_ne_nil config,
    eq_splitAtCommas_iff config, ?_, ?_, ?_⟩
  · exact (nodup_removeDuplicatesFrom [] _).filter _
  · intro member
    exact ((mem_whiteListedTabs config "").mp member).2 rfl
  · intro window opens terminates calls attacks
    have called := enumWindowProc2_attacks folding (whiteListedTabs config) window opens terminates
    simp only [not_isWhitelisted_whiteListedTabs] at called
    exact called
  · intro opens terminates
    rfl
  · intro other same desktop
    rw [enumWindowProc2_eq, enumWindowProc2_eq]
    unfold attacked
    simp only [isWhitelisted_congr folding same]

/-- Between doubled commas nothing is listed, and a listed name in other letters spares a window. -/
theorem white_list_meaning_doubledComma :
    whiteListedTabs "Firefox,,Firefox," = defaultTabs ++ ["Firefox"] ∧
      (enumWindowProc2 .ascii (whiteListedTabs "Firefox,,Firefox,")
        ⟨some ⟨true, "Solitaire", 1000⟩, true, true⟩).2 =
          [.openProcess ⟨true, "Solitaire", 1000⟩ true,
            .terminateProcess ⟨true, "Solitaire", 1000⟩ true] ∧
      (enumWindowProc2 .ascii (whiteListedTabs "Firefox,,Firefox,")
        ⟨some ⟨true, "Mozilla FIREFOX", 1000⟩, true, true⟩).2 = [] := by
  obtain ⟨list, -, -, -, -, attempts, -⟩ := white_list_meaning .ascii "Firefox,,Firefox,"
  refine ⟨list.trans (by decide +kernel), ?_, ?_⟩
  · rcases attempts ⟨true, "Solitaire", 1000⟩ true true with ⟨-, calls⟩ | ⟨spared, -⟩
    · exact calls
    · exact absurd (by decide +kernel) spared
  · rcases attempts ⟨true, "Mozilla FIREFOX", 1000⟩ true true with ⟨attacked, -⟩ | ⟨-, none⟩
    · exact absurd attacked (by decide +kernel)
    · exact none

end WatchDog
