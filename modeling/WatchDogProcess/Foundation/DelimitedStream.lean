import Mathlib.Data.List.Basic
import Mathlib.Tactic.Basic

/-! # Lines in a stream, up to a delimiter

A delimiter is one or more symbols (`DelimitedStream.Delimiter`). The first line of a text
is what stands before the first delimiter in it (`DelimitedStream.cut`), and a text splits
into its lines and an unfinished rest (`DelimitedStream.split`).

More text only extends the rest: the lines of a text that arrives in two pieces are those
of the first piece, and those of its rest with the second (`DelimitedStream.split_append`),
even when a delimiter is cut in two. Lines in which the delimiter does not begin are read
back from the text in which each is followed by it (`DelimitedStream.split_line`).
-/

namespace DelimitedStream

/-- A delimiter: its first symbol and those behind it. -/
structure Delimiter (Symbol : Type*) where
  first : Symbol
  others : List Symbol

variable {Symbol : Type*}

def Delimiter.symbols (delimiter : Delimiter Symbol) : List Symbol :=
  delimiter.first :: delimiter.others

variable [DecidableEq Symbol] (delimiter : Delimiter Symbol)

/-- What stands before the first delimiter of a text, and what stands behind it. -/
def cut : List Symbol → Option (List Symbol × List Symbol)
  | [] => none
  | symbol :: text =>
      if delimiter.symbols <+: symbol :: text then some ([], text.drop delimiter.others.length)
      else (cut text).map fun found => (symbol :: found.1, found.2)

variable {delimiter} {text line rest : List Symbol}

theorem cut_eq (found : cut delimiter text = some (line, rest)) :
    text = line ++ delimiter.symbols ++ rest := by
  induction text generalizing line with
  | nil => cases found
  | cons symbol text ih =>
      unfold cut at found
      split at found
      · rename_i here
        obtain ⟨behind, whole⟩ := here
        cases found
        rw [Delimiter.symbols, List.cons_append] at whole
        obtain ⟨-, same⟩ := List.cons.inj whole
        rw [← whole, ← same, List.drop_left, List.nil_append, Delimiter.symbols, List.cons_append]
      · obtain ⟨⟨before, behind⟩, later, same⟩ := Option.map_eq_some_iff.mp found
        cases same
        rw [List.cons_append, List.cons_append, ← ih later]

/-- A line with its delimiter leaves less text. -/
theorem length_rest_lt (found : cut delimiter text = some (line, rest)) :
    rest.length < text.length := by
  rw [cut_eq found, List.length_append, List.length_append, Delimiter.symbols, List.length_cons]
  omega

/-- More text behind a first line extends what stands behind it. -/
theorem cut_append (found : cut delimiter text = some (line, rest)) (more : List Symbol) :
    cut delimiter (text ++ more) = some (line, rest ++ more) := by
  induction text generalizing line with
  | nil => cases found
  | cons symbol text ih =>
      unfold cut at found
      rw [List.cons_append, cut]
      split at found
      · rename_i here
        have long : delimiter.others.length ≤ text.length := by
          have short := here.length_le
          rwa [Delimiter.symbols, List.length_cons, List.length_cons, Nat.succ_le_succ_iff] at short
        have still : delimiter.symbols <+: symbol :: (text ++ more) :=
          here.trans (List.prefix_append (symbol :: text) more)
        cases found
        rw [if_pos still, List.drop_append_of_le_length long]
      · rename_i notHere
        obtain ⟨⟨before, behind⟩, later, same⟩ := Option.map_eq_some_iff.mp found
        cases same
        have long : delimiter.symbols.length ≤ (symbol :: text).length := by
          rw [cut_eq later]
          simp only [List.length_cons, List.length_append]
          omega
        have notStill : ¬ delimiter.symbols <+: symbol :: (text ++ more) := by
          intro here
          apply notHere
          rw [← List.cons_append] at here
          exact List.prefix_of_prefix_length_le here (List.prefix_append _ more) long
        rw [if_neg notStill, ih later]
        rfl

/-- A text with a delimiter in it has a first line. -/
theorem cut_ne_none (line rest : List Symbol) :
    cut delimiter (line ++ delimiter.symbols ++ rest) ≠ none := by
  induction line with
  | nil =>
      have here : delimiter.symbols <+: delimiter.symbols ++ rest := List.prefix_append _ _
      rw [Delimiter.symbols, List.cons_append] at here
      rw [List.nil_append, Delimiter.symbols, List.cons_append, cut, Delimiter.symbols,
        if_pos here]
      exact Option.some_ne_none _
  | cons symbol line ih =>
      rw [List.cons_append, List.cons_append, cut]
      split
      · exact Option.some_ne_none _
      · rw [Ne, Option.map_eq_none_iff]
        exact ih

/-- A line in which the delimiter does not begin is cut off as it is. -/
theorem cut_line (plain : delimiter.first ∉ line) (rest : List Symbol) :
    cut delimiter (line ++ delimiter.symbols ++ rest) = some (line, rest) := by
  induction line with
  | nil =>
      have here : delimiter.symbols <+: delimiter.symbols ++ rest := List.prefix_append _ _
      rw [List.nil_append, Delimiter.symbols, List.cons_append, cut]
      rw [Delimiter.symbols, List.cons_append] at here
      rw [Delimiter.symbols, if_pos here, List.drop_left]
  | cons symbol line ih =>
      rw [List.mem_cons, not_or] at plain
      obtain ⟨other, plain⟩ := plain
      have notHere : ¬ delimiter.symbols <+: symbol :: (line ++ delimiter.symbols ++ rest) := by
        intro here
        rw [Delimiter.symbols, List.cons_prefix_cons] at here
        exact other here.1
      rw [List.cons_append, List.cons_append, cut, if_neg notHere, ih plain]
      rfl

/-! ### All lines -/

variable (delimiter)

/-- The lines of a text, and the rest that no delimiter ends. -/
def split (text : List Symbol) : List (List Symbol) × List Symbol :=
  match _found : cut delimiter text with
  | none => ([], text)
  | some (line, rest) => (line :: (split rest).1, (split rest).2)
termination_by text.length
decreasing_by all_goals exact length_rest_lt _found

variable {delimiter}

theorem split_of_none (unfinished : cut delimiter text = none) :
    split delimiter text = ([], text) := by
  rw [split]
  split
  · rfl
  · rename_i found
    rw [unfinished] at found
    cases found

theorem split_of_some (found : cut delimiter text = some (line, rest)) :
    split delimiter text = (line :: (split delimiter rest).1, (split delimiter rest).2) := by
  rw [split]
  split
  · rename_i unfinished
    rw [found] at unfinished
    cases unfinished
  · rename_i again
    rw [found] at again
    cases again
    rfl

@[simp] theorem split_nil : split delimiter [] = ([], []) := split_of_none rfl

/-- The lines of a text in two pieces: those of the first piece, and those of its rest
with the second. -/
theorem split_append (text more : List Symbol) :
    split delimiter (text ++ more) =
      ((split delimiter text).1 ++ (split delimiter ((split delimiter text).2 ++ more)).1,
        (split delimiter ((split delimiter text).2 ++ more)).2) := by
  fun_induction split delimiter text with
  | case1 text unfinished => rw [List.nil_append]
  | case2 text line rest found ih =>
      rw [split_of_some (cut_append found more), ih, List.cons_append]

/-- A line in which the delimiter does not begin is read back. -/
theorem split_line (plain : delimiter.first ∉ line) (rest : List Symbol) :
    split delimiter (line ++ delimiter.symbols ++ rest) =
      (line :: (split delimiter rest).1, (split delimiter rest).2) :=
  split_of_some (cut_line plain rest)

end DelimitedStream
