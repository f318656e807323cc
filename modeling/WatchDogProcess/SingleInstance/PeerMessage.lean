import WatchDogProcess.Foundation.FramedStream
import WatchDogProcess.Foundation.QtText

/-! # Messages between peers

A client sends the server a message as one frame over a local socket and waits for an
acknowledgement (`QtLocalPeer::sendMessage` and `receiveConnection`, `qtlocalpeer.cpp`).
The server waits for the length without a limit, and for the body until two seconds
pass in silence; the buffer it reads into has the length of the frame from the start. What
it emits is the text of the buffer (`QString::fromUtf8`), which ends at the first zero byte
and loses a byte order mark in front.
-/

namespace WatchDog

open FramedStream

/-- `QtLocalPeer::ack`. -/
def QtLocalPeer.ack : List UInt8 := [97, 99, 107]

/-- How `receiveConnection` ends. -/
inductive Reception where
  /-- The loop that waits for the length does not end. -/
  | hangs
  /-- `readRawData` fails: the message is dropped. -/
  | fails
  /-- The message is acknowledged and the text of the buffer emitted: the bytes of the
  buffer that were read, and the number of bytes behind them that nothing was read into. -/
  | emits (received : List UInt8) (unread : Nat)
  deriving DecidableEq, Repr

/-- `QtLocalPeer::receiveConnection`. A length that `int` cannot hold is negative, so
that the buffer gets no bytes and the first read fails. -/
def QtLocalPeer.receiveConnection (arrivals : List (Arrival UInt8)) : Reception :=
  match gather 4 [] arrivals with
  | none => .hangs
  | some (buffer, arrivals) =>
      let remaining := lengthOf buffer
      if 2147483648 ≤ remaining then .fails
      else
        let received := gatherUntilSilence remaining (buffer.drop 4) arrivals
        .emits received (remaining - received.length)

/-- The text that the server emits, from what its buffer held before it was read into. -/
def Reception.message (malformed : List UInt8 → List Char) (uninitialised : Nat → UInt8) :
    Reception → Option (List Char)
  | .emits received unread => some (QString.fromUtf8 malformed
      (received ++ (List.range' received.length unread).map uninitialised))
  | _ => none

/-- What the server writes to the socket. -/
def Reception.reply : Reception → Option (List UInt8)
  | .emits _ _ => some QtLocalPeer.ack
  | _ => none

/-- `QtLocalPeer::sendMessage`, from what its calls return: `isClient`, the two attempts
to connect, `waitForBytesWritten`, and the bytes that can be read from the socket when
`waitForReadyRead` returns, if it succeeds. -/
def QtLocalPeer.sendMessage (isClient first second written : Bool)
    (readable : Option (List UInt8)) : Bool :=
  if isClient = false then false
  else if (first || second) = false then false
  else if written = false then false
  else match readable with
    | none => false
    | some bytes => bytes.take 3 == QtLocalPeer.ack

end WatchDog
