import WatchDogProcess.Foundation.Utf8

/-! # The name of a peer

The constructor of `QtLocalPeer` (`qtlocalpeer.cpp`) names the lock file after the file of
the program, the session on Windows or the user elsewhere, and the directory for temporary
files. On Windows the mutexes of the lock file are named after it in lower case, in the
namespace of the session (`QtLockedFile::getMutexHandle`, `qtlockedfile_win.cpp`), so copies
of the program elsewhere, and processes of other sessions or users, are not in one election.
-/

namespace WatchDog

/-- What the constructor reads: the file of the program, the absolute path of the directory
for temporary files, and the number of the session or of the user. -/
structure PeerOrigin where
  applicationFilePath : List Char
  tempPath : List Char
  owner : Nat
  deriving DecidableEq, Repr

/-! ### The names -/

/-- `crc_tbl` -/
def crcTable : List UInt16 :=
  [0x0000, 0x1081, 0x2102, 0x3183, 0x4204, 0x5285, 0x6306, 0x7387, 0x8408, 0x9489, 0xa50a, 0xb58b,
    0xc60c, 0xd68d, 0xe70e, 0xf78f]

/-- The checksum after half a byte. -/
def crcNibble (crc value : UInt16) : UInt16 :=
  (crc >>> 4) ^^^ crcTable.getD ((crc ^^^ value) &&& 15).toNat 0

/-- `qChecksum`: the CRC-16 of some bytes, half a byte at a time. -/
def qChecksum (bytes : List UInt8) : UInt16 :=
  ~~~(bytes.foldl (fun crc (byte : UInt8) =>
    crcNibble (crcNibble crc byte.toUInt16) (byte >>> 4).toUInt16) 0xffff)

/-- The letters in the last part of a path, six at most. -/
def pathLetters (path : List Char) : List Char :=
  (((path.reverse.takeWhile (· ≠ '/')).reverse).filter Char.isAlpha).take 6

/-- `QString::number(value, 16)` -/
def hexNumber (value : Nat) : List Char := Nat.toDigits 16 value

/-- `socketName`, for the `id` of the peer. -/
def QtLocalPeer.socketName (id : List Char) (owner : Nat) : List Char :=
  "qtsingleapp-".toList ++ pathLetters id ++ ['-'] ++
    hexNumber (qChecksum (Utf8.encode id)).toNat ++ ['-'] ++ hexNumber owner

/-- The name of `lockFile`. -/
def QtLocalPeer.lockName (id : List Char) (origin : PeerOrigin) : List Char :=
  origin.tempPath ++ ['/'] ++ QtLocalPeer.socketName id origin.owner ++ "-lockfile".toList

/-- The lock file of a process on Unix. -/
def Unix.lockName (origin : PeerOrigin) : List Char :=
  QtLocalPeer.lockName origin.applicationFilePath origin

/-! ### Windows -/

variable (toLower : List Char → List Char)

/-- The lock file of a process on Windows, from what `QString::toLower` does. -/
def Windows.lockName (origin : PeerOrigin) : List Char :=
  QtLocalPeer.lockName (toLower origin.applicationFilePath) origin

/-- The session, and the name in it of the writer's mutex; those of the readers' mutexes
follow from it. -/
def Windows.mutexName (origin : PeerOrigin) : Nat × List Char :=
  (origin.owner, "QtLockedFile mutex ".toList ++ toLower (Windows.lockName toLower origin))

/-- Processes of one session that run one program file, spelled in any letter case, with one
directory for temporary files have the same mutexes. -/
theorem Windows.mutexName_eq {first second : PeerOrigin}
    (program : toLower first.applicationFilePath = toLower second.applicationFilePath)
    (temp : first.tempPath = second.tempPath) (session : first.owner = second.owner) :
    Windows.mutexName toLower first = Windows.mutexName toLower second := by
  simp only [Windows.mutexName, Windows.lockName, QtLocalPeer.lockName, program, temp, session]

example : qChecksum (Utf8.encode "123456789".toList) = 0x906e := by decide

end WatchDog
