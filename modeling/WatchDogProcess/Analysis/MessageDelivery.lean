import WatchDogProcess.SingleInstance.PeerMessage

/-! # Delivery of a message

However a client's frame is cut into pieces and delayed, and however much of it
arrives, the server hangs exactly when the length does not arrive, and otherwise fills
its buffer with what has arrived of the body before the first two seconds of silence, and
emits the text of the buffer, whose other bytes nothing was read into
(`WatchDog.receiveConnection_of_frame`). So the buffer holds the body as it was sent
exactly when the body arrives without such a silence, and a client that sees the
acknowledgement knows only that the length arrived
(`WatchDog.sendMessage_acknowledged`).

The text emitted is then the one sent exactly when no null character is in it and no byte
order mark in front of it (`WatchDog.message_round_trip`).
-/

namespace WatchDog

open FramedStream

/-- The server waits for ever exactly when the length does not arrive. -/
theorem receiveConnection_hangs_iff (arrivals : List (Arrival UInt8)) :
    QtLocalPeer.receiveConnection arrivals = .hangs ↔ (heard arrivals).length < 4 := by
  have waits := (gather_eq 4 [] arrivals).1
  rw [List.nil_append] at waits
  rw [← waits]
  unfold QtLocalPeer.receiveConnection
  split
  · rename_i never
    simp only [never]
  · rename_i buffer rest arrived
    simp only [arrived, reduceCtorEq, iff_false]
    split <;> exact Reception.noConfusion

/-- What the buffer gets: the body as far as it arrives before a silence that follows the
piece with the end of the length. -/
theorem receiveConnection_of_split {body : List UInt8} (small : body.length < 2147483648)
    {first later : List (Arrival UInt8)} {piece : List UInt8}
    (short : (heard first).length < 4) (enough : 4 ≤ (heard first ++ piece).length)
    (carries : heard (first ++ .bytes piece :: later) <+: frame body) :
    let received := (heard first ++ piece).drop 4 ++ heardUntilSilence later
    received <+: body ∧ QtLocalPeer.receiveConnection (first ++ .bytes piece :: later) =
      .emits received (body.length - received.length) := by
  intro received
  have gathered : gather 4 [] (first ++ .bytes piece :: later) =
      some (heard first ++ piece, later) :=
    @gather_split UInt8 4 first [] piece short enough later
  have begins : heard first ++ piece ++ heardUntilSilence later <+: frame body := by
    refine List.IsPrefix.trans ?_ carries
    rw [heard_append, heard, ← List.append_assoc]
    exact (List.prefix_append_right_inj _).mpr (heardUntilSilence_begins later)
  have long : 4 ≤ (heard first ++ piece ++ heardUntilSilence later).length := by
    rw [List.length_append]
    omega
  obtain ⟨isPrefix, whole⟩ := prefix_frame begins long
  rw [List.drop_append_of_le_length enough] at isPrefix
  have declared : lengthOf (heard first ++ piece) = body.length := by
    rw [← lengthOf_append enough (heardUntilSilence later), whole]
    exact lengthOf_lengthBytes (by omega) _
  have taken : received.take body.length = received :=
    List.take_of_length_le isPrefix.length_le
  refine ⟨isPrefix, ?_⟩
  simp only [QtLocalPeer.receiveConnection, gathered, declared, gatherUntilSilence_eq,
    Nat.not_le_of_lt small, ↓reduceIte]
  rw [show (heard first ++ piece).drop 4 ++ heardUntilSilence later = received from rfl, taken]

/-- **The server reads what arrives before a silence.** Up to the piece that completes the
length silences do not matter; from then on the first one ends the message. The text of
the buffer is emitted: what was read, and behind it what the buffer held before. -/
theorem receiveConnection_of_frame (body : List UInt8) (small : body.length < 2147483648)
    (first later : List (Arrival UInt8)) (piece : List UInt8)
    (short : (heard first).length < 4) (enough : 4 ≤ (heard first ++ piece).length)
    (carries : heard (first ++ .bytes piece :: later) <+: frame body) :
    let received := (heard first ++ piece).drop 4 ++ heardUntilSilence later
    let reception := QtLocalPeer.receiveConnection (first ++ .bytes piece :: later)
    received <+: body ∧ reception = .emits received (body.length - received.length) ∧
      ∀ malformed uninitialised, reception.message malformed uninitialised =
        some (QString.fromUtf8 malformed (received ++
          (List.range' received.length (body.length - received.length)).map uninitialised)) := by
  intro received reception
  obtain ⟨isPrefix, emits⟩ := receiveConnection_of_split small short enough carries
  refine ⟨isPrefix, emits, fun malformed uninitialised => ?_⟩
  rw [show reception = .emits received _ from emits, Reception.message]

/-- A message of two bytes whose length comes in two pieces, and a silence in between: one
byte of it is emitted, and one that was not sent. -/
theorem receiveConnection_of_frame_cut :
    let arrivals : List (Arrival UInt8) :=
      [.bytes [0, 0], .silence, .bytes [0, 2, 104], .silence, .bytes [105]]
    let reception := QtLocalPeer.receiveConnection arrivals
    reception = .emits [104] 1 ∧ ∀ malformed uninitialised,
      reception.message malformed uninitialised =
        some (QString.fromUtf8 malformed [104, uninitialised 1]) := by
  intro arrivals reception
  exact (receiveConnection_of_frame [104, 105] (by decide) [.bytes [0, 0], .silence]
    [.silence, .bytes [105]] [0, 2, 104] (by decide) (by decide) (by decide)).2

/-- The buffer is filled with a body that arrives without a silence. -/
theorem receiveConnection_of_whole_frame (body : List UInt8) (small : body.length < 2147483648)
    {arrivals : List (Arrival UInt8)} (loud : .silence ∉ arrivals)
    (whole : heard arrivals = frame body) :
    QtLocalPeer.receiveConnection arrivals = .emits body 0 := by
  have enough : 4 ≤ ([] ++ heard arrivals).length := by
    rw [List.nil_append, whole, frame, List.length_append, length_lengthBytes]
    omega
  obtain ⟨first, piece, later, same, short, completes⟩ :=
    exists_split [] (Nat.succ_pos 3) enough
  rw [List.nil_append] at short completes
  subst same
  have carries : heard (first ++ .bytes piece :: later) <+: frame body :=
    whole ▸ List.prefix_rfl
  have received := (receiveConnection_of_split small short completes carries).2
  have loudLater : .silence ∉ later := fun member =>
    loud (List.mem_append_right _ (List.mem_cons_of_mem _ member))
  have all : (heard first ++ piece).drop 4 ++ heardUntilSilence later = body := by
    rw [heardUntilSilence_eq_heard loudLater, ← List.drop_append_of_le_length completes,
      List.append_assoc, ← heard, ← heard_append, whole, drop_frame]
  rw [received, all, Nat.sub_self]

/-- **A message survives being cut.** When the frame of a text arrives as a whole, in any
pieces and without a silence, the buffer holds its bytes and nothing else, and the text
emitted is the one that was sent if and only if no null character is in it and no byte
order mark in front of it. -/
theorem message_round_trip (text : List Char) (small : (Utf8.encode text).length < 2147483648)
    (arrivals : List (Arrival UInt8)) (loud : .silence ∉ arrivals)
    (whole : heard arrivals = frame (Utf8.encode text)) :
    QtLocalPeer.receiveConnection arrivals = .emits (Utf8.encode text) 0 ∧
      ∀ malformed uninitialised,
        (QtLocalPeer.receiveConnection arrivals).message malformed uninitialised = some text ↔
          '\x00' ∉ text ∧ text.head? ≠ some '\uFEFF' := by
  have received := receiveConnection_of_whole_frame (Utf8.encode text) small loud whole
  refine ⟨received, fun malformed uninitialised => ?_⟩
  rw [received, Reception.message, List.range'_zero, List.map_nil, List.append_nil,
    Option.some.injEq, QString.fromUtf8_encode_eq_self_iff]

theorem message_round_trip_in_pieces :
    let arrivals : List (Arrival UInt8) := [.bytes [0], .bytes [0, 0, 2, 104], .bytes [105]]
    QtLocalPeer.receiveConnection arrivals = .emits [104, 105] 0 ∧ ∀ malformed uninitialised,
      (QtLocalPeer.receiveConnection arrivals).message malformed uninitialised =
        some ['h', 'i'] := by
  intro arrivals
  have trip := message_round_trip ['h', 'i'] (by decide) arrivals (by simp [arrivals]) rfl
  exact ⟨trip.1, fun malformed uninitialised => (trip.2 malformed uninitialised).mpr (by decide)⟩

/-- **An acknowledgement says that the length has arrived.** A client that is told that
its message was sent has had one message emitted, which begins as its own and has its
length; what is missing from it was silent for two seconds. -/
theorem sendMessage_acknowledged (body : List UInt8) (small : body.length < 2147483648)
    (arrivals : List (Arrival UInt8)) (carries : heard arrivals <+: frame body)
    (isClient first second written : Bool) (readable : Option (List UInt8))
    (honest : ∀ bytes ∈ readable,
      ∃ reply ∈ (QtLocalPeer.receiveConnection arrivals).reply, bytes <+: reply)
    (sent : QtLocalPeer.sendMessage isClient first second written readable = true) :
    isClient = true ∧ 4 ≤ (heard arrivals).length ∧ ∃ received,
      QtLocalPeer.receiveConnection arrivals = .emits received (body.length - received.length) ∧
        received <+: body := by
  have replied : (QtLocalPeer.receiveConnection arrivals).reply ≠ none := by
    intro silent
    unfold QtLocalPeer.sendMessage at sent
    cases readable with
    | none => simp at sent
    | some bytes =>
        obtain ⟨reply, member, _⟩ := honest bytes rfl
        rw [silent] at member
        cases member
  have asked : isClient = true := by
    cases isClient with
    | true => rfl
    | false => cases sent
  have enough : 4 ≤ (heard arrivals).length := by
    by_contra short
    rw [(receiveConnection_hangs_iff arrivals).mpr (Nat.lt_of_not_le short)] at replied
    exact replied rfl
  obtain ⟨first, piece, later, same, short, completes⟩ :=
    exists_split [] (Nat.succ_pos 3) enough
  rw [List.nil_append] at short completes
  subst same
  obtain ⟨isPrefix, received⟩ := receiveConnection_of_split small short completes carries
  exact ⟨asked, enough, _, received, isPrefix⟩

theorem sendMessage_acknowledged_after_silence :
    let arrivals : List (Arrival UInt8) := [.bytes [0, 0, 0, 2, 104], .silence, .bytes [105]]
    QtLocalPeer.receiveConnection arrivals = .emits [104] 1 ∧ 4 ≤ (heard arrivals).length ∧
      ∃ received, QtLocalPeer.receiveConnection arrivals =
        .emits received (2 - received.length) ∧ received <+: [104, 105] := by
  intro arrivals
  refine ⟨by decide, ?_⟩
  exact (sendMessage_acknowledged [104, 105] (by decide) arrivals (by decide) true false true true
    (some QtLocalPeer.ack)
    (fun bytes same => ⟨QtLocalPeer.ack, rfl, by cases same; exact List.prefix_rfl⟩) rfl).2

end WatchDog
