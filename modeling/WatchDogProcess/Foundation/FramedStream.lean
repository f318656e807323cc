import Mathlib.Data.List.Basic
import Mathlib.Tactic.Basic

/-! # Frames in a stream that arrives in pieces

A stream arrives in pieces of any size, with silences between them
(`FramedStream.Arrival`). A reader that waits for a number of bytes takes no notice of
how they are cut: it has the first bytes that arrive (`FramedStream.gather_eq`), or, when
it gives up at a silence, those that arrive before it (`FramedStream.gatherUntilSilence_eq`).

A frame is four bytes with the length of its body, the highest first, and the body;
the length is read back from them (`FramedStream.lengthOf_lengthBytes`).
-/

namespace FramedStream

/-- What a reader that waits for more gets next. -/
inductive Arrival (Byte : Type*) where
  | bytes (piece : List Byte)
  | silence

variable {Byte : Type*}

/-- All bytes that arrive. -/
def heard : List (Arrival Byte) → List Byte
  | [] => []
  | .bytes piece :: arrivals => piece ++ heard arrivals
  | .silence :: arrivals => heard arrivals

/-- The bytes that arrive before the first silence. -/
def heardUntilSilence : List (Arrival Byte) → List Byte
  | [] => []
  | .bytes piece :: arrivals => piece ++ heardUntilSilence arrivals
  | .silence :: _ => []

/-- Wait, however long, until the buffer holds a number of bytes: the buffer and what
arrives later, or nothing when there never are as many. -/
def gather (count : Nat) (buffer : List Byte) :
    List (Arrival Byte) → Option (List Byte × List (Arrival Byte))
  | [] => if count ≤ buffer.length then some (buffer, []) else none
  | arrival :: arrivals =>
      if count ≤ buffer.length then some (buffer, arrival :: arrivals)
      else match arrival with
        | .bytes piece => gather count (buffer ++ piece) arrivals
        | .silence => gather count buffer arrivals

/-- Take bytes out of the buffer as they arrive, until there are as many as wanted or
there is a silence. -/
def gatherUntilSilence (count : Nat) (buffer : List Byte) : List (Arrival Byte) → List Byte
  | [] => buffer.take count
  | arrival :: arrivals =>
      if count ≤ buffer.length then buffer.take count
      else match arrival with
        | .bytes piece =>
            buffer ++ gatherUntilSilence (count - buffer.length) piece arrivals
        | .silence => buffer

theorem gather_of_enough {count : Nat} {buffer : List Byte} (enough : count ≤ buffer.length)
    (arrivals : List (Arrival Byte)) : gather count buffer arrivals = some (buffer, arrivals) := by
  cases arrivals with
  | nil => simp only [gather, enough, ↓reduceIte]
  | cons arrival arrivals => simp only [gather, enough, ↓reduceIte]

/-- A reader that waits has what arrives, however it is cut, or waits for ever. -/
theorem gather_eq (count : Nat) (buffer : List Byte) (arrivals : List (Arrival Byte)) :
    (gather count buffer arrivals = none ↔ (buffer ++ heard arrivals).length < count) ∧
      ∀ got rest, gather count buffer arrivals = some (got, rest) →
        count ≤ got.length ∧ got ++ heard rest = buffer ++ heard arrivals := by
  induction arrivals generalizing buffer with
  | nil =>
      unfold gather heard
      split
      · rename_i enough
        refine ⟨?_, ?_⟩
        · simpa using enough
        · rintro got rest ⟨rfl, rfl⟩
          exact ⟨enough, rfl⟩
      · rename_i few
        refine ⟨?_, ?_⟩
        · simpa using few
        · rintro got rest ⟨⟩
  | cons arrival arrivals ih =>
      by_cases enough : count ≤ buffer.length
      · rw [gather_of_enough enough]
        refine ⟨?_, ?_⟩
        · simp only [reduceCtorEq, List.length_append, false_iff, Nat.not_lt]
          omega
        · rintro got rest ⟨rfl, rfl⟩
          exact ⟨enough, rfl⟩
      · cases arrival with
        | bytes piece =>
            simp only [gather, enough, ↓reduceIte]
            simpa only [heard, List.append_assoc] using ih (buffer ++ piece)
        | silence =>
            simp only [gather, enough, ↓reduceIte]
            exact ih buffer

theorem heard_append (first later : List (Arrival Byte)) :
    heard (first ++ later) = heard first ++ heard later := by
  induction first with
  | nil => rfl
  | cons arrival first ih =>
      cases arrival with
      | bytes piece => simp only [List.cons_append, heard, ih, List.append_assoc]
      | silence => exact ih

/-- The piece that completes the count is the last one a reader waits for. -/
theorem gather_split {count : Nat} {first : List (Arrival Byte)} {buffer piece : List Byte}
    (short : (buffer ++ heard first).length < count)
    (enough : count ≤ (buffer ++ heard first ++ piece).length) (later : List (Arrival Byte)) :
    gather count buffer (first ++ .bytes piece :: later) =
      some (buffer ++ heard first ++ piece, later) := by
  induction first generalizing buffer with
  | nil =>
      simp only [heard, List.append_nil] at short enough ⊢
      simp only [List.nil_append, gather, Nat.not_le_of_lt short, ↓reduceIte]
      exact gather_of_enough enough later
  | cons arrival first ih =>
      have few : ¬ count ≤ buffer.length := by
        rw [List.length_append] at short
        omega
      simp only [List.cons_append, gather, few, ↓reduceIte]
      cases arrival with
      | bytes next =>
          simp only [heard, ← List.append_assoc] at short enough ⊢
          exact ih short enough
      | silence => exact ih short enough

/-- Bytes that arrive in the end have a piece that completes the count. -/
theorem exists_split {count : Nat} (buffer : List Byte) {arrivals : List (Arrival Byte)}
    (short : buffer.length < count) (enough : count ≤ (buffer ++ heard arrivals).length) :
    ∃ first piece later, arrivals = first ++ .bytes piece :: later ∧
      (buffer ++ heard first).length < count ∧
      count ≤ (buffer ++ heard first ++ piece).length := by
  induction arrivals generalizing buffer with
  | nil =>
      rw [heard, List.append_nil] at enough
      omega
  | cons arrival arrivals ih =>
      cases arrival with
      | silence =>
          obtain ⟨first, piece, later, same, few, many⟩ := ih buffer short enough
          exact ⟨.silence :: first, piece, later, congrArg (.silence :: ·) same, few, many⟩
      | bytes next =>
          by_cases completes : count ≤ (buffer ++ next).length
          · refine ⟨[], next, arrivals, rfl, ?_, ?_⟩
            · simpa only [heard, List.append_nil] using short
            · simpa only [heard, List.append_nil] using completes
          · rw [heard, ← List.append_assoc] at enough
            obtain ⟨first, piece, later, same, few, many⟩ :=
              ih (buffer ++ next) (Nat.lt_of_not_le completes) enough
            refine ⟨.bytes next :: first, piece, later, congrArg (.bytes next :: ·) same, ?_, ?_⟩
            · simpa only [heard, List.append_assoc] using few
            · simpa only [heard, List.append_assoc] using many

/-- Without a silence everything is heard. -/
theorem heardUntilSilence_eq_heard {arrivals : List (Arrival Byte)}
    (loud : .silence ∉ arrivals) : heardUntilSilence arrivals = heard arrivals := by
  induction arrivals with
  | nil => rfl
  | cons arrival arrivals ih =>
      cases arrival with
      | bytes piece =>
          simp only [heardUntilSilence, heard, ih (List.not_mem_of_not_mem_cons loud)]
      | silence => exact absurd List.mem_cons_self loud

/-- A reader that gives up at a silence has the first bytes that arrive before it. -/
theorem gatherUntilSilence_eq (count : Nat) (buffer : List Byte)
    (arrivals : List (Arrival Byte)) :
    gatherUntilSilence count buffer arrivals =
      (buffer ++ heardUntilSilence arrivals).take count := by
  induction arrivals generalizing count buffer with
  | nil => simp only [gatherUntilSilence, heardUntilSilence, List.append_nil]
  | cons arrival arrivals ih =>
      by_cases enough : count ≤ buffer.length
      · simp only [gatherUntilSilence, enough, ↓reduceIte]
        rw [List.take_append_of_le_length enough]
      · have few : buffer.length ≤ count := Nat.le_of_not_le enough
        simp only [gatherUntilSilence, enough, ↓reduceIte]
        cases arrival with
        | bytes piece =>
            have split : (buffer ++ (piece ++ heardUntilSilence arrivals)).take count =
                buffer ++ (piece ++ heardUntilSilence arrivals).take (count - buffer.length) := by
              rw [List.take_append, List.take_of_length_le few]
            simp only [ih, heardUntilSilence, split]
        | silence =>
            simp only [heardUntilSilence, List.append_nil]
            exact (List.take_of_length_le few).symm

/-- A silence hides what comes after it. -/
theorem heardUntilSilence_begins (arrivals : List (Arrival Byte)) :
    heardUntilSilence arrivals <+: heard arrivals := by
  induction arrivals with
  | nil => exact List.prefix_rfl
  | cons arrival arrivals ih =>
      cases arrival with
      | bytes piece => exact (List.prefix_append_right_inj piece).mpr ih
      | silence => exact List.nil_prefix

/-! ### Lengths -/

/-- A length in four bytes, the highest first. -/
def lengthBytes (length : Nat) : List UInt8 :=
  [UInt8.ofNat (length / 16777216), UInt8.ofNat (length / 65536), UInt8.ofNat (length / 256),
    UInt8.ofNat length]

/-- The length in the first four bytes. -/
def lengthOf (bytes : List UInt8) : Nat :=
  (bytes.take 4).foldl (fun length byte => 256 * length + byte.toNat) 0

/-- The frame of a body. -/
def frame (body : List UInt8) : List UInt8 := lengthBytes body.length ++ body

@[simp] theorem length_lengthBytes (length : Nat) : (lengthBytes length).length = 4 := rfl

theorem lengthOf_append {bytes : List UInt8} (enough : 4 ≤ bytes.length) (rest : List UInt8) :
    lengthOf (bytes ++ rest) = lengthOf bytes := by
  simp only [lengthOf, List.take_append_of_le_length enough]

theorem lengthOf_lengthBytes {length : Nat} (small : length < 4294967296)
    (rest : List UInt8) : lengthOf (lengthBytes length ++ rest) = length := by
  simp only [lengthOf, lengthBytes, List.cons_append, List.nil_append, List.take_succ_cons,
    List.take_zero, List.foldl_cons, List.foldl_nil, UInt8.toNat_ofNat']
  omega

theorem drop_frame (body : List UInt8) : (frame body).drop 4 = body := rfl

/-- Bytes that begin a frame and hold its length are the length and then some of the
body. -/
theorem prefix_frame {bytes body : List UInt8} (carries : bytes <+: frame body)
    (enough : 4 ≤ bytes.length) :
    bytes.drop 4 <+: body ∧ bytes = lengthBytes body.length ++ bytes.drop 4 := by
  obtain ⟨rest, whole⟩ := carries
  have first : bytes.take 4 = lengthBytes body.length := by
    have cut := congrArg (List.take 4) whole
    rw [List.take_append_of_le_length enough] at cut
    exact cut
  refine ⟨⟨rest, ?_⟩, ?_⟩
  · have cut := congrArg (List.drop 4) whole
    rwa [List.drop_append_of_le_length enough, drop_frame] at cut
  · rw [← first, List.take_append_drop]

end FramedStream
