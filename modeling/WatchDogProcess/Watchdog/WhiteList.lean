import WatchDogProcess.Foundation.CaseFolding

/-! # The white list of window titles

The constructor of the watchdog builds the white list from nine built-in names
and the comma-separated pieces of a configuration string, drops repetitions and
drops the empty piece.
-/

namespace WatchDog

/-- The built-in names the constructor starts the list with. -/
def defaultTabs : List String :=
  ["WatchDogProcess", "RemoteDesk", "Proctortrack", "Submit a ticket", "Untitled - Google Chrome",
    "freshdesk", ": Support", "Verificient", "Program Manager"]

/-- `QString::split(",")`: empty pieces are kept. -/
def splitAtCommas (config : String) : List String :=
  (config.toList.splitOn ',').map String.ofList

/-- `QStringList::removeDuplicates()`, with the entries already seen: the first
occurrence of each entry stays. -/
def removeDuplicatesFrom (seen : List String) : List String → List String
  | [] => []
  | entry :: entries =>
      if entry ∈ seen then removeDuplicatesFrom seen entries
      else entry :: removeDuplicatesFrom (entry :: seen) entries

def removeDuplicates (entries : List String) : List String := removeDuplicatesFrom [] entries

/-- `QStringList::removeAll(entry)`. -/
def removeAll (entry : String) (entries : List String) : List String :=
  entries.filter (· ≠ entry)

/-- The white list the constructor builds from a configuration string. -/
def whiteListedTabs (config : String) : List String :=
  removeAll "" (removeDuplicates (defaultTabs ++ splitAtCommas config))

theorem mem_removeDuplicatesFrom (seen entries : List String) (entry : String) :
    entry ∈ removeDuplicatesFrom seen entries ↔ entry ∈ entries ∧ entry ∉ seen := by
  induction entries generalizing seen with
  | nil => simp only [removeDuplicatesFrom, List.not_mem_nil, false_and]
  | cons head tail ih =>
      by_cases known : head ∈ seen
      · simp only [removeDuplicatesFrom, known, ↓reduceIte, ih, List.mem_cons]
        constructor
        · rintro ⟨member, fresh⟩
          exact ⟨Or.inr member, fresh⟩
        · rintro ⟨rfl | member, fresh⟩
          · exact (fresh known).elim
          · exact ⟨member, fresh⟩
      · simp only [removeDuplicatesFrom, known, ↓reduceIte, List.mem_cons, ih, not_or]
        constructor
        · rintro (rfl | ⟨member, _, fresh⟩)
          · exact ⟨Or.inl rfl, known⟩
          · exact ⟨Or.inr member, fresh⟩
        · rintro ⟨rfl | member, fresh⟩
          · exact Or.inl rfl
          · by_cases same : entry = head
            · exact Or.inl same
            · exact Or.inr ⟨member, same, fresh⟩

theorem nodup_removeDuplicatesFrom (seen entries : List String) :
    (removeDuplicatesFrom seen entries).Nodup := by
  induction entries generalizing seen with
  | nil => exact List.nodup_nil
  | cons head tail ih =>
      unfold removeDuplicatesFrom
      split
      · exact ih seen
      · refine List.nodup_cons.mpr ⟨?_, ih (head :: seen)⟩
        intro again
        have fresh := ((mem_removeDuplicatesFrom (head :: seen) tail head).mp again).2
        exact fresh List.mem_cons_self

/-- What a filter keeps after the repetitions are dropped are the first occurrences
of what it keeps. -/
theorem filter_removeDuplicatesFrom (keep : String → Bool) (seen entries : List String) :
    (removeDuplicatesFrom seen entries).filter keep =
      (entries.filter fun entry => keep entry && decide (entry ∉ seen)).eraseDups := by
  induction entries generalizing seen with
  | nil => rfl
  | cons head tail ih =>
      by_cases known : head ∈ seen
      · simp only [removeDuplicatesFrom, known, ↓reduceIte, ih, List.filter_cons,
          not_true_eq_false, decide_false, Bool.and_false, Bool.false_eq_true]
      · simp only [removeDuplicatesFrom, known, ↓reduceIte, List.filter_cons, ih,
          not_false_eq_true, decide_true, Bool.and_true]
        cases kept : keep head with
        | true =>
            simp only [↓reduceIte, List.eraseDups_cons, List.filter_filter]
            congr 2
            apply List.filter_congr
            intro entry _
            by_cases same : entry = head <;> simp [same]
        | false =>
            simp only [Bool.false_eq_true, ↓reduceIte]
            congr 1
            apply List.filter_congr
            intro entry _
            by_cases same : entry = head
            · simp only [same, kept, Bool.false_and]
            · simp only [List.mem_cons, same, false_or]

/-- The list holds the built-in names and the nonempty pieces of the configuration. -/
theorem mem_whiteListedTabs (config entry : String) :
    entry ∈ whiteListedTabs config ↔
      (entry ∈ defaultTabs ∨ entry ∈ splitAtCommas config) ∧ entry ≠ "" := by
  simp only [whiteListedTabs, removeAll, removeDuplicates, List.mem_filter,
    mem_removeDuplicatesFrom, List.mem_append, List.not_mem_nil, not_false_eq_true, and_true,
    decide_eq_true_eq]

/-- The list is never empty. -/
theorem whiteListedTabs_ne_nil (config : String) : whiteListedTabs config ≠ [] := by
  apply List.ne_nil_of_mem
  exact (mem_whiteListedTabs config "Proctortrack").mpr ⟨Or.inl (by decide), by decide⟩

/-! ### The pieces of the configuration -/

theorem comma_not_mem_of_mem_splitOn {chars piece : List Char}
    (member : piece ∈ chars.splitOn ',') : ',' ∉ piece := by
  induction chars generalizing piece with
  | nil =>
      obtain rfl := List.mem_singleton.mp member
      exact List.not_mem_nil
  | cons char chars ih =>
      rw [List.splitOn_cons_eq_if_modifyHead] at member
      by_cases isComma : char = ','
      · simp only [isComma, BEq.rfl, ↓reduceIte, List.mem_cons] at member
        rcases member with rfl | later
        · exact List.not_mem_nil
        · exact ih later
      · simp only [beq_iff_eq, isComma, ↓reduceIte] at member
        obtain ⟨first, rest, split⟩ := List.exists_cons_of_ne_nil (List.splitOn_ne_nil ',' chars)
        rw [split] at member ih
        rcases List.mem_cons.mp member with rfl | later
        · simp only [List.mem_cons, not_or]
          exact ⟨Ne.symm isComma, ih List.mem_cons_self⟩
        · exact ih (List.mem_cons_of_mem _ later)

theorem toList_intercalate_ofList (pieces : List (List Char)) :
    (",".intercalate (pieces.map String.ofList)).toList = [','].intercalate pieces := by
  rw [String.toList_intercalate, List.map_map]
  congr 1
  simp only [Function.comp_def, String.toList_ofList, List.map_id']

/-- The pieces are the only texts without a comma, one at least, that joined by commas
give the configuration. -/
theorem eq_splitAtCommas_iff (config : String) (pieces : List String) :
    pieces = splitAtCommas config ↔ pieces ≠ [] ∧ (∀ piece ∈ pieces, ',' ∉ piece.toList) ∧
      ",".intercalate pieces = config := by
  constructor
  · rintro rfl
    refine ⟨?_, ?_, ?_⟩
    · rw [splitAtCommas, ne_eq, List.map_eq_nil_iff]
      exact List.splitOn_ne_nil _ _
    · intro piece member
      obtain ⟨chars, isPiece, rfl⟩ := List.mem_map.mp member
      rw [String.toList_ofList]
      exact comma_not_mem_of_mem_splitOn isPiece
    · rw [← String.toList_inj, splitAtCommas, toList_intercalate_ofList,
        List.intercalate_splitOn]
  · rintro ⟨nonempty, plain, rfl⟩
    have chars : (",".intercalate pieces).toList.splitOn ',' = pieces.map String.toList := by
      rw [String.toList_intercalate]
      apply List.splitOn_intercalate
      · intro piece member
        obtain ⟨text, isPiece, rfl⟩ := List.mem_map.mp member
        exact plain text isPiece
      · exact List.map_eq_nil_iff.not.mpr nonempty
    rw [splitAtCommas, chars, List.map_map]
    simp only [Function.comp_def, String.ofList_toList, List.map_id']

end WatchDog
