import WatchDogProcess.Foundation.Utf8
import Mathlib.Data.List.TakeWhile

/-! # Texts read from bytes by Qt

Qt 5 reads a `QByteArray` as UTF-8, up to its first zero byte and without a byte order mark
in front. So a text that was encoded is read back exactly when no null character is in it
and no byte order mark in front of it (`QString.fromUtf8_encode_eq_self_iff`), and ASCII is
read byte by byte (`QString.fromUtf8_ascii`).
-/

namespace QString

/-- A text without a byte order mark in front. -/
def skipMark : List Char → List Char
  | [] => []
  | first :: rest => if first = '\uFEFF' then rest else first :: rest

/-- `QString::fromUtf8` of a `QByteArray`: its text up to the first zero byte, without a
byte order mark in front. What becomes of bytes that are not UTF-8 is given. -/
def fromUtf8 (malformed : List UInt8 → List Char) (bytes : List UInt8) : List Char :=
  let bytes := bytes.takeWhile (· ≠ 0)
  match Utf8.decode bytes with
  | some text => skipMark text
  | none => malformed bytes

/-! ### What is read of a text -/

theorem skipMark_eq_self_iff (text : List Char) :
    skipMark text = text ↔ text.head? ≠ some '\uFEFF' := by
  cases text with
  | nil => simp [skipMark]
  | cons first rest =>
      by_cases mark : first = '\uFEFF'
      · simp only [skipMark, mark, ↓reduceIte, List.head?_cons, ne_eq, not_true_eq_false,
          iff_false]
        exact fun same => absurd (congrArg List.length same) (Nat.ne_of_lt (Nat.lt_succ_self _))
      · simp [skipMark, mark]

/-- A text is read up to its first null character, without a byte order mark in front. -/
theorem fromUtf8_encode (malformed : List UInt8 → List Char) (text : List Char) :
    fromUtf8 malformed (Utf8.encode text) =
      skipMark (text.takeWhile (· ≠ '\x00')) := by
  simp only [fromUtf8, Utf8.takeWhile_encode, Utf8.decode_encode]

/-- A text is read as it was written exactly when no null character is in it and no byte
order mark in front of it. -/
theorem fromUtf8_encode_eq_self_iff (malformed : List UInt8 → List Char)
    (text : List Char) :
    fromUtf8 malformed (Utf8.encode text) = text ↔
      '\x00' ∉ text ∧ text.head? ≠ some '\uFEFF' := by
  have shorter : ∀ text : List Char, (skipMark text).length ≤ text.length := by
    intro text
    unfold skipMark
    split
    · exact Nat.le_refl _
    · split
      · exact Nat.le_succ _
      · exact Nat.le_refl _
  rw [fromUtf8_encode]
  by_cases null : '\x00' ∈ text
  · simp only [null, not_true_eq_false, false_and, iff_false]
    intro same
    have cut : text.takeWhile (· ≠ '\x00') = text := by
      apply (List.takeWhile_prefix _).eq_of_length_le
      calc text.length = (skipMark (text.takeWhile (· ≠ '\x00'))).length := by rw [same]
        _ ≤ (text.takeWhile (· ≠ '\x00')).length := shorter _
    rw [List.takeWhile_eq_self_iff] at cut
    exact absurd (cut _ null) (by decide)
  · have whole : text.takeWhile (· ≠ '\x00') = text := by
      rw [List.takeWhile_eq_self_iff]
      intro character member
      exact decide_eq_true fun same => null (same ▸ member)
    rw [whole, skipMark_eq_self_iff]
    simp only [null, not_false_eq_true, true_and]

/-! ### ASCII -/

theorem toNat_ofNat_ascii {byte : UInt8} (ascii : byte < 128) :
    (Char.ofNat byte.toNat).toNat = byte.toNat := by
  have small : byte.toNat < 128 := UInt8.lt_iff_toNat_lt.mp ascii
  have valid : byte.toNat.isValidChar := Or.inl (by omega)
  rw [Char.ofNat, dif_pos valid]
  rfl

theorem encodeChar_ascii {byte : UInt8} (ascii : byte < 128) :
    String.utf8EncodeChar (Char.ofNat byte.toNat) = [byte] := by
  have small : byte.toNat < 128 := UInt8.lt_iff_toNat_lt.mp ascii
  have code : (Char.ofNat byte.toNat).val.toNat = byte.toNat := toNat_ofNat_ascii ascii
  unfold String.utf8EncodeChar
  dsimp only
  rw [code, if_pos (by omega), UInt8.ofNat_toNat]

/-- Bytes that are ASCII and not zero are read one by one. -/
theorem fromUtf8_ascii (malformed : List UInt8 → List Char) {bytes : List UInt8}
    (ascii : ∀ byte ∈ bytes, byte ≠ 0 ∧ byte < 128) :
    fromUtf8 malformed bytes = bytes.map fun byte => Char.ofNat byte.toNat := by
  have encoded : Utf8.encode (bytes.map fun byte => Char.ofNat byte.toNat) = bytes := by
    rw [Utf8.encode, List.flatMap_map]
    have each : bytes.flatMap (fun byte => String.utf8EncodeChar (Char.ofNat byte.toNat)) =
        bytes.flatMap fun byte => [byte] :=
      List.flatMap_congr fun byte member => encodeChar_ascii (ascii byte member).2
    rw [each, List.flatMap_singleton']
  have same : ∀ byte ∈ bytes, (Char.ofNat byte.toNat).toNat = byte.toNat :=
    fun byte member => toNat_ofNat_ascii (ascii byte member).2
  have read := (fromUtf8_encode_eq_self_iff malformed
    (bytes.map fun byte => Char.ofNat byte.toNat)).mpr
  rw [encoded] at read
  apply read
  constructor
  · intro null
    obtain ⟨byte, member, isNull⟩ := List.mem_map.mp null
    apply (ascii byte member).1
    apply UInt8.toNat.inj
    rw [← same byte member, isNull]
    rfl
  · intro mark
    cases bytes with
    | nil => cases mark
    | cons byte bytes =>
        rw [List.map_cons, List.head?_cons, Option.some.injEq] at mark
        have small := UInt8.lt_iff_toNat_lt.mp (ascii byte List.mem_cons_self).2
        rw [← same byte List.mem_cons_self, mark] at small
        exact absurd small (by decide)

end QString
