import Mathlib.Data.List.Infix
import Mathlib.Tactic.Basic

/-! # Comparing texts without regard to letter case

A case folding maps each character to the representative of its letter case
variants. On ASCII it is the lower case of the character; elsewhere nothing is
assumed of it. Two texts are the same up to case when they fold to the same
characters, and one contains the other up to case when the folded one is a
contiguous part of the other's folded characters.
-/

/-- A character folding that agrees with lower case on ASCII. -/
structure CaseFolding where
  fold : Char → Char
  fold_ascii : ∀ character : Char, character.val < 128 → fold character = character.toLower

namespace CaseFolding

/-- The folding that leaves every character outside ASCII alone. -/
def ascii : CaseFolding where
  fold := Char.toLower
  fold_ascii := fun _ _ => rfl

variable (folding : CaseFolding)

/-- The folded characters of a text. -/
def folded (text : String) : List Char := text.toList.map folding.fold

/-- Two texts are equal up to letter case. -/
def same (first second : String) : Bool := folding.folded first = folding.folded second

/-- The first text contains the second up to letter case. -/
def contains (text part : String) : Bool := folding.folded part <:+: folding.folded text

/-- Every character of the text is in ASCII. -/
def isAscii (text : String) : Bool := text.toList.all fun character => character.val < 128

/-- On an ASCII text every folding is the lower case. -/
theorem folded_ascii {text : String} (plain : isAscii text = true) :
    folding.folded text = text.toList.map Char.toLower := by
  apply List.map_congr_left
  intro character member
  exact folding.fold_ascii character (of_decide_eq_true (List.all_eq_true.mp plain _ member))

@[simp] theorem same_iff (first second : String) :
    folding.same first second = true ↔ folding.folded first = folding.folded second :=
  decide_eq_true_iff

@[simp] theorem contains_iff (text part : String) :
    folding.contains text part = true ↔ folding.folded part <:+: folding.folded text :=
  decide_eq_true_iff

/-- On ASCII texts every folding contains as the ASCII one does. -/
theorem contains_eq_ascii {text part : String} (plainText : isAscii text = true)
    (plainPart : isAscii part = true) :
    folding.contains text part = ascii.contains text part := by
  unfold contains
  rw [folding.folded_ascii plainText, folding.folded_ascii plainPart,
    ascii.folded_ascii plainText, ascii.folded_ascii plainPart]

theorem contains_refl (text : String) : folding.contains text text = true :=
  (folding.contains_iff text text).mpr List.infix_rfl

theorem contains_trans {text part piece : String} (outer : folding.contains text part = true)
    (inner : folding.contains part piece = true) : folding.contains text piece = true := by
  rw [contains_iff] at outer inner ⊢
  exact inner.trans outer

end CaseFolding
