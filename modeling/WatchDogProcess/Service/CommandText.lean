import WatchDogProcess.Foundation.CommandLine
import WatchDogProcess.Foundation.QtText

/-! # The text of a command to a Unix service

A controller sends each command as one line over its own connection to a local socket
(`sendCmd`, `qtservice_unix.cpp`), in Latin-1. The server reads the bytes as UTF-8 piece by
piece, each up to its first zero byte, so only ASCII is sure to be read as it was sent
(`WatchDog.sendCmdBytes_plain`). The code of `sendCommand` is written in decimal and read
back (`WatchDog.toInt_number`).
-/

namespace WatchDog

/-! ### Texts -/

/-- `QString::number` of an `int`. -/
def number (code : Int) : List Char :=
  if code < 0 then '-' :: Nat.toDigits 10 code.natAbs else Nat.toDigits 10 code.natAbs

/-- The digits of a number, all the way. -/
def readDigits (digits : List Char) : Option Nat :=
  if digits ≠ [] ∧ digits.all Char.isDigit = true then some (Nat.ofDigitChars 10 digits 0)
  else none

/-- `QString::trimmed`. -/
def trimmed (spaces : Whitespace) (text : List Char) : List Char :=
  ((text.dropWhile spaces.isSpace).reverse.dropWhile spaces.isSpace).reverse

/-- A number with an optional sign. -/
def readNumber : List Char → Option Int
  | '-' :: digits => (readDigits digits).map fun value : Nat => -(value : Int)
  | '+' :: digits => (readDigits digits).map fun value : Nat => (value : Int)
  | digits => (readDigits digits).map fun value : Nat => (value : Int)

/-- `QString::toInt`: zero on a text that is no number that an `int` can hold. -/
def toInt (spaces : Whitespace) (text : List Char) : Int :=
  match readNumber (trimmed spaces text) with
  | some value => if -2147483648 ≤ value ∧ value ≤ 2147483647 then value else 0
  | none => 0

/-! ### The client -/

/-- A character in `QString::toLatin1`. -/
def toLatin1 (character : Char) : UInt8 :=
  if character.val < 256 then UInt8.ofNat character.toNat else 63

/-- The bytes that `sendCmd` writes: the line as a C string. -/
def sendCmdBytes (cmd : List Char) : List UInt8 :=
  ((cmd ++ ['\r', '\n']).map toLatin1).takeWhile (· ≠ 0)

/-- `sendCmd`, from whether it connects and what it can read when the first bytes of the
reply have come. -/
def sendCmd (connected : Bool) (reply : List Char) : Bool :=
  connected && reply = "true".toList

/-- The line of `QtServiceController::sendCommand`. -/
def sendCommandLine (code : Int) : List Char := "num:".toList ++ number code

/-! ### What is read of it -/

/-- A character that is sent as it is and ends no line. -/
def IsPlain (character : Char) : Prop :=
  0 < character.toNat ∧ character.toNat < 128 ∧ character ≠ '\r'

instance (character : Char) : Decidable (IsPlain character) :=
  inferInstanceAs (Decidable (_ ∧ _ ∧ _))

/-- An ASCII character is sent as a byte that is read as it. -/
theorem toLatin1_ascii {character : Char} (positive : 0 < character.toNat)
    (ascii : character.toNat < 128) :
    toLatin1 character ≠ 0 ∧ toLatin1 character < 128 ∧
      Char.ofNat (toLatin1 character).toNat = character := by
  have latin : character.val < 256 := UInt32.lt_iff_toNat_lt.mpr (Nat.lt_trans ascii (by decide))
  have byte : (UInt8.ofNat character.toNat).toNat = character.toNat := by
    rw [UInt8.toNat_ofNat']
    exact Nat.mod_eq_of_lt (by omega)
  rw [toLatin1, if_pos latin]
  refine ⟨fun zero => ?_, ?_, ?_⟩
  · rw [zero] at byte
    exact Nat.ne_of_lt positive byte
  · rw [UInt8.lt_iff_toNat_lt, byte]
    exact ascii
  · rw [byte, Char.ofNat_toNat]

/-- What `sendCmd` writes for a plain command is read as its line. -/
theorem sendCmdBytes_plain {cmd : List Char} (plain : ∀ character ∈ cmd, IsPlain character) :
    (∀ byte ∈ sendCmdBytes cmd, byte ≠ 0 ∧ byte < 128) ∧
      (sendCmdBytes cmd).map (fun byte => Char.ofNat byte.toNat) = cmd ++ ['\r', '\n'] := by
  have ascii : ∀ character ∈ cmd ++ ['\r', '\n'],
      0 < character.toNat ∧ character.toNat < 128 := by
    intro character member
    rcases List.mem_append.mp member with inCmd | ending
    · exact ⟨(plain character inCmd).1, (plain character inCmd).2.1⟩
    · rw [List.mem_cons, List.mem_singleton] at ending
      rcases ending with rfl | rfl <;> decide
  have whole : sendCmdBytes cmd = (cmd ++ ['\r', '\n']).map toLatin1 := by
    rw [sendCmdBytes, List.takeWhile_eq_self_iff]
    intro byte member
    obtain ⟨character, inLine, rfl⟩ := List.mem_map.mp member
    obtain ⟨positive, small⟩ := ascii character inLine
    simp only [(toLatin1_ascii positive small).1, ne_eq, not_false_eq_true, decide_true]
  rw [whole]
  constructor
  · intro byte member
    obtain ⟨character, inLine, rfl⟩ := List.mem_map.mp member
    obtain ⟨positive, small⟩ := ascii character inLine
    exact ⟨(toLatin1_ascii positive small).1, (toLatin1_ascii positive small).2.1⟩
  · rw [List.map_map]
    refine (List.map_congr_left fun character inLine => ?_).trans (List.map_id _)
    obtain ⟨positive, small⟩ := ascii character inLine
    exact (toLatin1_ascii positive small).2.2

/-- The characters of a number: digits, and the sign. -/
theorem mem_number {code : Int} {character : Char} (member : character ∈ number code) :
    character = '-' ∨ character.isDigit = true := by
  unfold number at member
  split at member
  · rcases List.mem_cons.mp member with sign | digit
    · exact Or.inl sign
    · exact Or.inr (Nat.isDigit_of_mem_toDigits (by decide) (by decide) digit)
  · exact Or.inr (Nat.isDigit_of_mem_toDigits (by decide) (by decide) member)

theorem number_ne_nil (code : Int) : number code ≠ [] := by
  unfold number
  split
  · exact List.cons_ne_nil _ _
  · exact Nat.toDigits_ne_nil

/-- Digits and the sign are between the comma and the colon. -/
theorem toNat_of_mem_number {code : Int} {character : Char} (member : character ∈ number code) :
    45 ≤ character.toNat ∧ character.toNat ≤ 57 := by
  rcases mem_number member with rfl | digit
  · decide
  · simp only [Char.isDigit, Bool.and_eq_true, decide_eq_true_eq, ge_iff_le,
      UInt32.le_iff_toNat_le] at digit
    have low : 48 ≤ character.toNat := digit.1
    have high : character.toNat ≤ 57 := digit.2
    omega

/-- The line of a code is plain. -/
theorem plain_sendCommandLine (code : Int) :
    ∀ character ∈ sendCommandLine code, IsPlain character := by
  intro character member
  rcases List.mem_append.mp member with keyword | inNumber
  · have all : ∀ character ∈ "num:".toList, IsPlain character := by simp [IsPlain]
    exact all character keyword
  · obtain ⟨low, high⟩ := toNat_of_mem_number inNumber
    refine ⟨by omega, by omega, fun same => ?_⟩
    rw [same] at low
    exact absurd low (by decide)

/-- A text without whitespace is left as it is. -/
theorem trimmed_of_noSpace {spaces : Whitespace} {text : List Char}
    (noSpace : ∀ character ∈ text, spaces.isSpace character = false) :
    trimmed spaces text = text := by
  have stays : ∀ text : List Char, (∀ character ∈ text, spaces.isSpace character = false) →
      text.dropWhile spaces.isSpace = text := by
    intro text noSpace
    rw [List.dropWhile_eq_self_iff]
    intro nonempty space
    rw [noSpace _ (List.getElem_mem nonempty)] at space
    cases space
  rw [trimmed, stays text noSpace, stays, List.reverse_reverse]
  exact fun character member => noSpace character (List.mem_reverse.mp member)

theorem trimmed_number (spaces : Whitespace) (code : Int) :
    trimmed spaces (number code) = number code := by
  apply trimmed_of_noSpace
  intro character member
  obtain ⟨low, high⟩ := toNat_of_mem_number member
  have ascii : character.val < 128 :=
    UInt32.lt_iff_toNat_lt.mpr (Nat.lt_of_le_of_lt high (by decide))
  have notBlank : character ≠ ' ' := by
    intro same
    rw [same] at low
    exact absurd low (by decide)
  have notControl : ¬ character.val ≤ 13 := by
    intro small
    have low' : character.toNat ≤ 13 := UInt32.le_iff_toNat_le.mp small
    omega
  simp only [spaces.isSpace_ascii character ascii, notBlank, notControl, decide_false,
    Bool.and_false, Bool.or_false]

/-- The digits of a natural number are read back. -/
theorem readDigits_toDigits (value : Nat) : readDigits (Nat.toDigits 10 value) = some value := by
  have digits : (Nat.toDigits 10 value).all Char.isDigit = true := by
    rw [List.all_eq_true]
    exact fun character member => Nat.isDigit_of_mem_toDigits (by decide) (by decide) member
  rw [readDigits, if_pos ⟨Nat.toDigits_ne_nil, digits⟩, Nat.ofDigitChars_ten_toDigits]

theorem readNumber_number (code : Int) : readNumber (number code) = some code := by
  unfold number
  split
  · rw [readNumber, readDigits_toDigits, Option.map_some]
    congr 1
    omega
  · have digits : ∀ character ∈ Nat.toDigits 10 code.natAbs, character.isDigit = true :=
      fun character member => Nat.isDigit_of_mem_toDigits (by decide) (by decide) member
    unfold readNumber
    split
    · rename_i rest sign
      rw [sign] at digits
      exact absurd (digits '-' List.mem_cons_self) (by decide)
    · rename_i rest sign
      rw [sign] at digits
      exact absurd (digits '+' List.mem_cons_self) (by decide)
    · rw [readDigits_toDigits, Option.map_some]
      congr 1
      omega

/-- **The code of a command is read back from its text.** -/
theorem toInt_number (spaces : Whitespace) {code : Int} (low : -2147483648 ≤ code)
    (high : code ≤ 2147483647) : toInt spaces (number code) = code := by
  rw [toInt, trimmed_number, readNumber_number]
  exact if_pos ⟨low, high⟩

end WatchDog
