import WatchDogProcess.SingleInstance.LockedFileRun
import WatchDogProcess.SingleInstance.PeerName

/-! # Local peers

The election of `QtLocalPeer::isClient` (`qtlocalpeer.cpp`): each process has a peer, and
of the peers whose lock files share their mutexes the one that gets the write lock is the
server. `main` asks once, through `QtSingleApplication::isRunning`, and goes on only when
its peer is no client.

The peers with one mutex name are one election (`PeerState`), and the elections of all names
run side by side (`Peers`).
-/

namespace WatchDog.Windows

open NamedMutexes EventRun

inductive PeerEvent (Peer Thread : Type*) where
  /-- The constructor, which opens the lock file or fails to. -/
  | create (peer : Peer) (opens : Bool)
  | isClient (peer : Peer)
  /-- A system call inside `lockFile.lock` returns. -/
  | reply (peer : Peer) (reply : Reply)
  | crash (thread : Thread)

/-- The lock files of peers with one name, and what each last call of `isClient` has
returned. -/
structure PeerState (Peer Thread : Type*) where
  locks : LockState Peer Thread
  client : Peer → Option Bool

/-- What `isClient` returns once its call of `lock` is over. Whether the server comes
to listen makes no difference. -/
def LockedFile.isClientAnswer (lockFile : LockedFile) : Option Bool :=
  if lockFile.file.pc = .idle then lockFile.file.answer.map not else none

namespace PeerState

variable {Peer Thread : Type*}

def initial : PeerState Peer Thread := ⟨.initial, fun _ => none⟩

/-- The process of the peer is past the guard of `main`, which returns at once from a process
whose peer is a client. -/
def PastGuard (state : PeerState Peer Thread) (peer : Peer) : Prop :=
  state.client peer = some false

variable [DecidableEq Peer] [DecidableEq Thread]

/-- The step of the lock files that goes with an event. A locked file is not locked
again. -/
def lockEvent (state : PeerState Peer Thread) :
    PeerEvent Peer Thread → Option (LockEvent Peer Thread)
  | .create peer opens => if opens then some (.request peer .openFile) else none
  | .isClient peer =>
      if (state.locks.files peer).file.lockMode ≠ .noLock then none
      else some (.request peer (.lock .writeLock false))
  | .reply peer reply => some (.reply peer reply)
  | .crash thread => some (.crash thread)

def step (threadOf : Peer → Thread) (state : PeerState Peer Thread)
    (event : PeerEvent Peer Thread) : PeerState Peer Thread :=
  let locks := match state.lockEvent event with
    | none => state.locks
    | some lockEvent => state.locks.step threadOf lockEvent
  { locks
    client := match event with
      | .create peer _ => Function.update state.client peer none
      | .isClient peer =>
          if (state.locks.files peer).file.lockMode ≠ .noLock then
            Function.update state.client peer (some false)
          else Function.update state.client peer (locks.files peer).isClientAnswer
      | .reply peer _ => Function.update state.client peer (locks.files peer).isClientAnswer
      | .crash thread => fun peer => if threadOf peer = thread then none else state.client peer }

def Enabled (threadOf : Peer → Thread) (state : PeerState Peer Thread) :
    PeerEvent Peer Thread → Prop
  | .create peer _ => (state.locks.files peer).file = .constructed
  | .isClient peer => (state.locks.files peer).file.pc = .idle
  | .reply peer reply => state.locks.Enabled threadOf (.reply peer reply)
  | .crash _ => True

/-- Nothing fails: the lock files are opened before they are used, a call is refused
only when `OpenMutex` finds no mutex or a wait finds one that is not free, and no
process crashes. -/
def NothingFails (threadOf : Peer → Thread) (state : PeerState Peer Thread) :
    PeerEvent Peer Thread → Prop
  | .create _ opens => opens = true
  | .isClient peer => (state.locks.files peer).file.isOpen = true
  | .reply _ .granted => True
  | .reply peer .refused =>
      (∃ name ∈ (state.locks.files peer).file.opensExisting, ¬ state.locks.mutexes.Exists name) ∨
        ∃ call ∈ (state.locks.files peer).file.call,
          ¬ state.locks.mutexes.Grants (threadOf peer) call
  | .reply _ .unrecognised => False
  | .crash _ => False

instance (threadOf : Peer → Thread) (state : PeerState Peer Thread) :
    (event : PeerEvent Peer Thread) → Decidable (state.Enabled threadOf event)
  | .create peer _ => inferInstanceAs (Decidable ((state.locks.files peer).file = .constructed))
  | .isClient peer => inferInstanceAs (Decidable ((state.locks.files peer).file.pc = .idle))
  | .reply peer reply =>
      inferInstanceAs (Decidable (state.locks.Enabled threadOf (.reply peer reply)))
  | .crash _ => .isTrue trivial

instance (threadOf : Peer → Thread) (state : PeerState Peer Thread) :
    (event : PeerEvent Peer Thread) → Decidable (state.NothingFails threadOf event)
  | .create _ opens => inferInstanceAs (Decidable (opens = true))
  | .isClient peer => inferInstanceAs (Decidable ((state.locks.files peer).file.isOpen = true))
  | .reply _ .granted => .isTrue trivial
  | .reply _ .refused => inferInstanceAs (Decidable (_ ∨ _))
  | .reply _ .unrecognised | .crash _ => .isFalse id

instance (state : PeerState Peer Thread) (peer : Peer) : Decidable (state.PastGuard peer) :=
  inferInstanceAs (Decidable (state.client peer = some false))

end PeerState

/-! ### All names -/

/-- The peer that an event is about; a process that ends may be that of any. -/
def PeerEvent.peer {Peer Thread : Type*} : PeerEvent Peer Thread → Option Peer
  | .create peer _ | .isClient peer | .reply peer _ => some peer
  | .crash _ => none

/-- The elections of all names. -/
abbrev Peers (Name Peer Thread : Type*) := Name → PeerState Peer Thread

namespace Peers

variable {Name Peer Thread : Type*} [DecidableEq Name]

def initial : Peers Name Peer Thread := fun _ => .initial

/-- An event concerns the election of its peer's name. -/
def concerns (nameOf : Peer → Name) (event : PeerEvent Peer Thread) (name : Name) : Bool :=
  ∀ peer ∈ event.peer, nameOf peer = name

variable [DecidableEq Peer] [DecidableEq Thread] (threadOf : Peer → Thread)
  (nameOf : Peer → Name)

def step : Peers Name Peer Thread → PeerEvent Peer Thread → Peers Name Peer Thread :=
  sideBySide (PeerState.step threadOf) (concerns nameOf)

def Enabled (states : Peers Name Peer Thread) (event : PeerEvent Peer Thread) : Prop :=
  ∀ peer ∈ event.peer, (states (nameOf peer)).Enabled threadOf event

def NothingFails (states : Peers Name Peer Thread) (event : PeerEvent Peer Thread) : Prop :=
  ∃ peer ∈ event.peer, (states (nameOf peer)).NothingFails threadOf event

instance (states : Peers Name Peer Thread) (event : PeerEvent Peer Thread) :
    Decidable (states.Enabled threadOf nameOf event) :=
  inferInstanceAs (Decidable (∀ peer ∈ event.peer, _))

instance (states : Peers Name Peer Thread) (event : PeerEvent Peer Thread) :
    Decidable (states.NothingFails threadOf nameOf event) :=
  inferInstanceAs (Decidable (∃ peer ∈ event.peer, _))

/-- The process of the peer is past the guard of `main`. -/
def PastGuard (states : Peers Name Peer Thread) (peer : Peer) : Prop :=
  (states (nameOf peer)).PastGuard peer

instance (states : Peers Name Peer Thread) (peer : Peer) :
    Decidable (states.PastGuard nameOf peer) :=
  inferInstanceAs (Decidable ((states (nameOf peer)).PastGuard peer))

end Peers

end WatchDog.Windows
