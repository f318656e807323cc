import Mathlib.Data.List.Basic

/-! # Texts as UTF-8

The bytes of a text (`Utf8.encode`) and the text of bytes that are UTF-8 (`Utf8.decode`),
which gives back what was encoded (`Utf8.decode_encode`). Only the null character has a zero
byte, so a reader that stops at the first zero byte reads the text up to its first null
character (`Utf8.takeWhile_encode`).
-/

namespace Utf8

def encode (text : List Char) : List UInt8 := text.flatMap String.utf8EncodeChar

def decode (bytes : List UInt8) : Option (List Char) :=
  (String.fromUTF8? bytes.toByteArray).map String.toList

theorem encode_cons (character : Char) (text : List Char) :
    encode (character :: text) = String.utf8EncodeChar character ++ encode text :=
  List.flatMap_cons

theorem decode_encode (text : List Char) : decode (encode text) = some text := by
  have valid : (encode text).toByteArray.IsValidUTF8 := ⟨text, rfl⟩
  have same : String.fromUTF8 (encode text).toByteArray valid = String.ofList text := by
    rw [← String.toByteArray_inj, String.toByteArray_ofList]
    rfl
  simp only [decode, String.fromUTF8?, valid, ↓reduceDIte, Option.map_some, same,
    String.toList_ofList]

/-! ### The zero byte -/

theorem ofNat_ne_zero {value : Nat} (positive : 0 < value) (small : value < 256) :
    (0 : UInt8) ≠ UInt8.ofNat value := by
  intro same
  have size := congrArg UInt8.toNat same
  rw [UInt8.toNat_ofNat_of_lt' small] at size
  exact Nat.ne_of_lt positive size

theorem zero_not_mem_encodeChar {character : Char} (other : character ≠ '\x00') :
    0 ∉ String.utf8EncodeChar character := by
  have positive : character.val.toNat ≠ 0 := fun zero =>
    other (Char.ext (UInt32.toNat.inj zero))
  unfold String.utf8EncodeChar
  dsimp only
  split
  · rw [List.mem_singleton]
    exact ofNat_ne_zero (by omega) (by omega)
  · -- a byte of a longer code has its highest bit set
    split
    · simp only [List.mem_cons, List.not_mem_nil, or_false, not_or]
      exact ⟨ofNat_ne_zero (by omega) (by omega), ofNat_ne_zero (by omega) (by omega)⟩
    · split
      · simp only [List.mem_cons, List.not_mem_nil, or_false, not_or]
        exact ⟨ofNat_ne_zero (by omega) (by omega), ofNat_ne_zero (by omega) (by omega),
          ofNat_ne_zero (by omega) (by omega)⟩
      · simp only [List.mem_cons, List.not_mem_nil, or_false, not_or]
        exact ⟨ofNat_ne_zero (by omega) (by omega), ofNat_ne_zero (by omega) (by omega),
          ofNat_ne_zero (by omega) (by omega), ofNat_ne_zero (by omega) (by omega)⟩

/-- A reader that stops at the first zero byte stops at the first null character. -/
theorem takeWhile_encode (text : List Char) :
    (encode text).takeWhile (· ≠ 0) = encode (text.takeWhile (· ≠ '\x00')) := by
  induction text with
  | nil => rfl
  | cons character text ih =>
      by_cases null : character = '\x00'
      · subst null
        have byte : String.utf8EncodeChar '\x00' = [0] := by decide
        rw [encode_cons, byte]
        rfl
      · have nonzero : ∀ byte ∈ String.utf8EncodeChar character, decide (byte ≠ 0) = true := by
          intro byte member
          rw [decide_eq_true_eq]
          rintro rfl
          exact zero_not_mem_encodeChar null member
        have goesOn : (character :: text).takeWhile (· ≠ '\x00') =
            character :: text.takeWhile (· ≠ '\x00') :=
          List.takeWhile_cons_of_pos (decide_eq_true null)
        rw [encode_cons, List.takeWhile_append_of_pos nonzero, ih, goesOn, encode_cons]

end Utf8
