import WatchDogProcess.Analysis.LockAnswers
import WatchDogProcess.SingleInstance.LocalPeer

/-! # One instance of the program

However processes start, ask for the write lock of their lock file and crash, and
whichever system calls fail, at most one of those whose lock files share their mutexes is
past the guard of `main` (`WatchDog.Windows.at_most_one_instance`): one in a session of the
processes that run one program file. When nothing fails, one of them is: once every process
that has asked has its answer, exactly one of each name is no client
(`WatchDog.Windows.exactly_one_instance`), however their system calls interleave.

No peer ever reads the lock file, so no reader's mutex exists and a writer that has
the writer's mutex gets the lock (`WatchDog.Windows.QtLockedFile.Electing`).
-/

namespace WatchDog.Windows

open NamedMutexes EventRun

namespace QtLockedFile

/-- A lock file that has been used by `isClient` only. -/
def Electing (file : QtLockedFile) : Prop :=
  file.rmutexes = [] ∧ match file.pc with
  | .idle => file.lockMode ≠ .readLock ∧ (file.answer = some true → file.lockMode = .writeLock)
  | .createWrite mode _ | .waitWrite mode _ => mode = .writeLock
  | .openAll _ _ => True
  | _ => False

theorem electing_constructed : constructed.Electing :=
  ⟨rfl, LockMode.noConfusion, fun answered => by cases answered⟩

theorem electing_opened {file : QtLockedFile} (electing : file.Electing)
    (idle : file.pc = .idle) : file.opened.Electing := by
  simp only [Electing, idle] at electing
  simp only [Electing, opened, idle]
  exact ⟨electing.1, electing.2.1, fun answered => by cases answered⟩

theorem electing_lock {file : QtLockedFile} (electing : file.Electing)
    (unlocked : file.lockMode = .noLock) : (file.lock .writeLock false).Electing := by
  have noReaders := electing.1
  unfold lock
  simp only [unlocked, reduceCtorEq, ↓reduceIte, ne_eq, not_true_eq_false]
  split
  · refine ⟨noReaders, ?_, fun answered => by cases answered⟩
    simp only [finish, unlocked, ne_eq, reduceCtorEq, not_false_eq_true]
  · refine ⟨noReaders, ?_⟩
    unfold beginLock
    cases file.wmutex <;> rfl

theorem lock_of_unlocked {file : QtLockedFile} (isOpen : file.isOpen = true)
    (unlocked : file.lockMode = .noLock) (block : Bool) :
    file.lock .writeLock block = file.beginLock .writeLock block := by
  simp only [lock, isOpen, unlocked, reduceCtorEq, ↓reduceIte, ne_eq, not_true_eq_false]

theorem pc_beginLock_ne_idle (file : QtLockedFile) (mode : LockMode) (block : Bool) :
    (file.beginLock mode block).pc ≠ .idle := by
  unfold beginLock
  cases file.wmutex <;> exact Pc.noConfusion

theorem electing_nextOpenAll {file : QtLockedFile} (noReaders : file.rmutexes = []) (idx : Nat)
    (block : Bool) : (file.nextOpenAll idx block).Electing := by
  unfold nextOpenAll
  split
  · exact ⟨noReaders, trivial⟩
  · exact ⟨noReaders, LockMode.noConfusion, fun _ => rfl⟩

/-- Where no reader's mutex is found, the election goes on. -/
theorem electing_resume {file : QtLockedFile} (electing : file.Electing)
    (unlocked : file.pc ≠ .idle → file.lockMode = .noLock) {reply : Reply}
    (noReader : ∀ idx block, file.pc = .openAll idx block → reply ≠ .granted) :
    (file.resume reply).Electing := by
  obtain ⟨noReaders, place⟩ := electing
  have fails : file.lockMode = .noLock → (file.finish false).Electing := by
    intro unlocked
    refine ⟨noReaders, ?_, fun answered => by cases answered⟩
    simp only [finish, unlocked, ne_eq, reduceCtorEq, not_false_eq_true]
  unfold resume
  cases pc : file.pc <;>
    simp only [pc, ne_eq, reduceCtorEq, not_false_eq_true, forall_const] at place unlocked
  case idle =>
    unfold Electing
    rw [pc]
    exact ⟨noReaders, place⟩
  case createWrite mode block =>
    cases reply with
    | granted => exact ⟨noReaders, place⟩
    | refused => exact fails unlocked
    | unrecognised => exact fails unlocked
  case waitWrite mode block =>
    subst place
    cases reply with
    | granted => exact electing_nextOpenAll noReaders 0 block
    | refused => exact fails unlocked
    | unrecognised => exact fails unlocked
  case openAll idx block =>
    cases reply with
    | granted => exact absurd rfl (noReader idx block pc)
    | refused => exact electing_nextOpenAll noReaders (idx + 1) block
    | unrecognised => exact electing_nextOpenAll noReaders (idx + 1) block

/-- A peer has no handle to a reader's mutex. -/
theorem Electing.opened_eq_nil {file : QtLockedFile} (electing : file.Electing) :
    file.owned.opened = [] := by
  obtain ⟨noReaders, place⟩ := electing
  unfold owned
  cases pc : file.pc <;> simp only [pc] at place
  case idle =>
    cases mode : file.lockMode with
    | noLock => rfl
    | readLock => exact absurd mode place.1
    | writeLock => exact noReaders
  case openAll => exact noReaders
  all_goals rfl

/-- During an election a peer in a call has no lock. -/
theorem Electing.unlocked {file : QtLockedFile} (electing : file.Electing)
    (wellFormed : file.WellFormed) (busy : file.pc ≠ .idle) : file.lockMode = .noLock := by
  unfold WellFormed at wellFormed
  have place := electing.2
  cases pc : file.pc <;> simp only [pc] at place wellFormed
  case idle => exact absurd pc busy
  case createWrite => exact wellFormed.2.1
  case waitWrite => exact wellFormed.2.1
  case openAll => exact wellFormed.1

theorem Electing.promises {file : QtLockedFile} (electing : file.Electing)
    (busy : file.pc ≠ .idle) : file.Promises .writeLock := by
  have place := electing.2
  unfold Promises
  cases pc : file.pc <;> simp only [pc] at place
  case idle => exact absurd pc busy
  case createWrite => exact place
  case waitWrite => exact place
  case openAll => rfl

/-- A peer comes out of a system call with the writer's mutex, or without an answer, or
it was refused that mutex. -/
theorem Electing.owns_or_waits {file : QtLockedFile} (electing : file.Electing)
    (busy : file.pc ≠ .idle) (reply : Reply) :
    (file.resume reply).owned.writer = true ∨ file.owned.writer = false ∧
      ((file.resume reply).pc ≠ .idle ∨ reply ≠ .granted ∧
        (file.call = some (.openHandle .writer) ∧ file.opensExisting = none ∨
          file.call = some (.acquire .writer) ∧ file.opensExisting = none)) := by
  have place := electing.2
  unfold resume
  cases pc : file.pc <;> simp only [pc] at place
  case idle => exact absurd pc busy
  case createWrite mode block =>
    refine .inr ⟨by simp only [owned, pc], ?_⟩
    have waits : file.call = some (.openHandle .writer) ∧ file.opensExisting = none := by
      simp only [call, opensExisting, pc, and_self]
    cases reply with
    | granted => exact .inl Pc.noConfusion
    | refused => exact .inr ⟨Reply.noConfusion, .inl waits⟩
    | unrecognised => exact .inr ⟨Reply.noConfusion, .inl waits⟩
  case waitWrite mode block =>
    subst place
    have waits : file.call = some (.acquire .writer) ∧ file.opensExisting = none := by
      simp only [call, opensExisting, pc, and_self]
    have foreign : file.owned.writer = false := by simp only [owned, pc]
    cases reply with
    | granted =>
        refine .inl ?_
        dsimp only
        rw [owned_nextOpenAll]
    | refused => exact .inr ⟨foreign, .inr ⟨Reply.noConfusion, .inr waits⟩⟩
    | unrecognised => exact .inr ⟨foreign, .inr ⟨Reply.noConfusion, .inr waits⟩⟩
  case openAll idx block =>
    refine .inl ?_
    cases reply with
    | granted =>
        dsimp only
        rw [owned_nextOpenAll]
    | refused =>
        dsimp only
        rw [owned_nextOpenAll]
    | unrecognised =>
        dsimp only
        rw [owned_nextOpenAll]

end QtLockedFile

/-- The answer of `isClient` comes with the lock or without it. -/
theorem LockedFile.isClientAnswer_iff {lockFile : LockedFile}
    (promises : lockFile.file.Promises .writeLock) :
    lockFile.isClientAnswer = some false ↔ lockFile.file.heldMode = .writeLock := by
  unfold LockedFile.isClientAnswer QtLockedFile.heldMode
  unfold QtLockedFile.Promises at promises
  cases pc : lockFile.file.pc <;> simp only [pc] at promises
  case idle =>
    obtain ⟨result, answer, mode⟩ := promises
    rw [answer, mode]
    cases result <;> simp
  all_goals simp

namespace PeerState

variable {Peer Thread : Type*}

/-- Every peer is in the election, and those past the guard have the lock. -/
structure Elects (threadOf : Peer → Thread) (state : PeerState Peer Thread) : Prop where
  inStep : LockState.InStep threadOf state.locks
  electing : ∀ peer, (state.locks.files peer).file.Electing
  past : ∀ peer, state.PastGuard peer ↔ (state.locks.files peer).file.heldMode = .writeLock

theorem elects_initial (threadOf : Peer → Thread) :
    Elects threadOf (initial : PeerState Peer Thread) where
  inStep := LockState.inStep_initial threadOf
  electing _ := QtLockedFile.electing_constructed
  past _ := by
    unfold PastGuard
    exact ⟨fun past => (by cases past), fun holds => (by cases holds)⟩

/-- No reader's mutex exists. -/
theorem Elects.noReaders {threadOf : Peer → Thread} {state : PeerState Peer Thread}
    (elects : Elects threadOf state) (idx : Nat) :
    ¬ state.locks.mutexes.Exists (.reader idx) := by
  rintro ⟨peer, handle⟩
  have opened := (elects.inStep.opened peer (.reader idx)).mp handle
  simp only [LockedFile.claims, (elects.electing peer).opened_eq_nil, reader_mem_mutexSet,
    List.not_mem_nil] at opened

/-- Who is past the guard has the writer's mutex. -/
theorem Elects.owns_of_past {threadOf : Peer → Thread} {state : PeerState Peer Thread}
    (elects : Elects threadOf state) {peer : Peer} (past : state.PastGuard peer) :
    MutexName.writer ∈ (state.locks.files peer).claims.sure := by
  obtain ⟨idle, locked⟩ :=
    QtLockedFile.of_heldMode ((elects.past peer).mp past) LockMode.noConfusion
  simp only [LockedFile.claims, QtLockedFile.owned, idle, locked, writer_mem_mutexSet]

variable [DecidableEq Peer]

/-- One peer's lock file and answer change. -/
theorem Elects.update {threadOf : Peer → Thread} {state : PeerState Peer Thread}
    (elects : Elects threadOf state) {peer : Peer} {lockFile : LockedFile}
    (electing : lockFile.file.Electing) {client : Option Bool}
    (answers : client = some false ↔ lockFile.file.heldMode = .writeLock)
    {mutexes : NamedMutexes MutexName Thread Peer}
    (inStep : LockState.InStep threadOf
      ⟨mutexes, Function.update state.locks.files peer lockFile⟩) :
    Elects threadOf ⟨⟨mutexes, Function.update state.locks.files peer lockFile⟩,
      Function.update state.client peer client⟩ where
  inStep := inStep
  electing := by
    intro other
    dsimp only
    rcases eq_or_ne other peer with rfl | different
    · rwa [Function.update_self]
    · rw [Function.update_of_ne different]
      exact elects.electing other
  past := by
    intro other
    unfold PastGuard
    dsimp only
    rcases eq_or_ne other peer with rfl | different
    · rw [Function.update_self, Function.update_self]
      exact answers
    · rw [Function.update_of_ne different, Function.update_of_ne different]
      exact elects.past other

/-- One peer's answer changes. -/
theorem Elects.answer {threadOf : Peer → Thread} {state : PeerState Peer Thread}
    (elects : Elects threadOf state) {peer : Peer} {client : Option Bool}
    (answers : client = some false ↔ (state.locks.files peer).file.heldMode = .writeLock) :
    Elects threadOf ⟨state.locks, Function.update state.client peer client⟩ := by
  have same : (⟨state.locks.mutexes, Function.update state.locks.files peer
      (state.locks.files peer)⟩ : LockState Peer Thread) = state.locks := by
    rw [Function.update_eq_self]
  have updated := elects.update (elects.electing peer) answers (same ▸ elects.inStep)
  rwa [same] at updated

variable [DecidableEq Thread]

/-- **Whatever a process does, it is past the guard exactly when its peer has the
lock.** -/
theorem Elects.step {threadOf : Peer → Thread} (ownThreads : Function.Injective threadOf)
    {state : PeerState Peer Thread} (elects : Elects threadOf state)
    {event : PeerEvent Peer Thread} (enabled : state.Enabled threadOf event) :
    Elects threadOf (state.step threadOf event) := by
  cases event with
  | create peer opens =>
      have unused : (state.locks.files peer).file = .constructed := enabled
      have idle : (state.locks.files peer).file.pc = .idle := congrArg QtLockedFile.pc unused
      cases opens with
      | false =>
          refine elects.answer ?_
          rw [unused]
          exact ⟨fun past => (by cases past), fun holds => (by cases holds)⟩
      | true =>
          have inStep := LockState.inStep_step ownThreads elects.inStep
            (.request peer .openFile) idle
          simp only [PeerState.step, lockEvent, ↓reduceIte, LockState.step, idle, ↓reduceDIte]
            at inStep ⊢
          refine elects.update ?_ ?_ inStep
          · exact QtLockedFile.electing_opened (elects.electing peer) idle
          · simp only [LockedFile.begin, LockedFile.opened, unused]
            exact ⟨fun past => (by cases past), fun holds => (by cases holds)⟩
  | isClient peer =>
      have idle : (state.locks.files peer).file.pc = .idle := enabled
      have electing := elects.electing peer
      by_cases unlocked : (state.locks.files peer).file.lockMode = .noLock
      · have inStep := LockState.inStep_step ownThreads elects.inStep
          (.request peer (.lock .writeLock false)) idle
        simp only [PeerState.step, lockEvent, unlocked, ne_eq, not_true_eq_false, ↓reduceIte,
          LockState.step, idle, ↓reduceDIte, Function.update_self] at inStep ⊢
        refine elects.update ?_ ?_ inStep
        · exact QtLockedFile.electing_lock electing unlocked
        · exact LockedFile.isClientAnswer_iff
            ((state.locks.files peer).openedBeforeUse.promises_lock .writeLock false)
      · simp only [PeerState.step, lockEvent, unlocked, ne_eq, not_false_eq_true, ↓reduceIte]
        refine elects.answer ?_
        have place := electing.2
        simp only [idle] at place
        simp only [QtLockedFile.heldMode, idle, true_iff]
        cases mode : (state.locks.files peer).file.lockMode with
        | noLock => exact absurd mode unlocked
        | readLock => exact absurd mode place.1
        | writeLock => rfl
  | reply peer reply =>
      obtain ⟨call, calls, replies⟩ := enabled
      have calls : (state.locks.files peer).file.call = some call := calls
      have busy : (state.locks.files peer).file.pc ≠ .idle := by
        intro idle
        simp only [QtLockedFile.call, idle, reduceCtorEq] at calls
      have electing := elects.electing peer
      have wellFormed := (state.locks.files peer).wellFormed
      have inStep := LockState.inStep_step ownThreads elects.inStep
        (.reply peer reply) ⟨call, calls, replies⟩
      simp only [PeerState.step, lockEvent, LockState.step, calls, Function.update_self]
        at inStep ⊢
      refine elects.update ?_ ?_ inStep
      · refine QtLockedFile.electing_resume electing (electing.unlocked wellFormed) ?_
        rintro idx block collecting rfl
        have name : MutexName.reader idx ∈ (state.locks.files peer).file.opensExisting := by
          simp only [QtLockedFile.opensExisting, collecting, Option.mem_def]
        exact elects.noReaders idx (replies.2 _ name)
      · exact LockedFile.isClientAnswer_iff
          (wellFormed.promises_resume (electing.promises busy) reply)
  | crash thread =>
      have inStep := LockState.inStep_step ownThreads elects.inStep (.crash thread) trivial
      refine ⟨inStep, fun other => ?_, fun other => ?_⟩
      · simp only [PeerState.step, lockEvent, LockState.step]
        split
        · exact QtLockedFile.electing_constructed
        · exact elects.electing other
      · simp only [PeerState.step, lockEvent, LockState.step, PastGuard]
        split
        · exact ⟨fun past => (by cases past), fun holds => (by cases holds)⟩
        · exact elects.past other

theorem elects_run (threadOf : Peer → Thread) (ownThreads : Function.Injective threadOf)
    {events : List (PeerEvent Peer Thread)}
    (enabled : Always (step threadOf) (Enabled threadOf) initial events) :
    Elects threadOf (run (step threadOf) initial events) := by
  have kept : ∀ (state : PeerState Peer Thread) event, Elects threadOf state →
      Enabled threadOf state event → Elects threadOf (state.step threadOf event) :=
    fun state event elects legal => elects.step ownThreads legal
  exact invariant_run kept (elects_initial threadOf) enabled

end PeerState

namespace PeerState

variable {Peer Thread : Type*}

/-- When a peer has its answer, some peer has the writer's mutex. -/
def Elected (state : PeerState Peer Thread) : Prop :=
  (∃ peer, state.client peer ≠ none) → ∃ peer, (state.locks.files peer).file.owned.writer = true

theorem elected_initial : (initial : PeerState Peer Thread).Elected :=
  fun ⟨_, answered⟩ => absurd rfl answered

/-- A peer that finds the writer's mutex taken finds a peer that has it. -/
theorem Elects.owner_of_refused {threadOf : Peer → Thread} {state : PeerState Peer Thread}
    (elects : Elects threadOf state) {peer : Peer}
    (taken : ¬ state.locks.mutexes.Grants (threadOf peer) (.acquire .writer)) :
    ∃ other ≠ peer, (state.locks.files other).file.owned.writer = true := by
  simp only [Grants, Available, not_forall] at taken
  obtain ⟨owner, holds, foreign⟩ := taken
  obtain ⟨_, other, thread, possible⟩ := elects.inStep.possible .writer owner holds
  refine ⟨other, ?_, possible⟩
  rintro rfl
  exact foreign thread.symm

variable [DecidableEq Peer]

/-- The writer's mutex is still owned after another peer's change, unless that peer
has its answer now. -/
theorem Elected.update {state : PeerState Peer Thread} (elected : state.Elected) {peer : Peer}
    {lockFile : LockedFile} {client : Option Bool}
    (ownsOrWaits : lockFile.file.owned.writer = true ∨
      (state.locks.files peer).file.owned.writer = false ∧ (client ≠ none →
        ∃ other ≠ peer, (state.locks.files other).file.owned.writer = true))
    (mutexes : NamedMutexes MutexName Thread Peer) :
    Elected ⟨⟨mutexes, Function.update state.locks.files peer lockFile⟩,
      Function.update state.client peer client⟩ := by
  rintro ⟨asked, answered⟩
  dsimp only at answered ⊢
  rcases ownsOrWaits with owns | ⟨foreign, elsewhere⟩
  · exact ⟨peer, by rwa [Function.update_self]⟩
  · have owner : ∃ other ≠ peer, (state.locks.files other).file.owned.writer = true := by
      rcases eq_or_ne asked peer with rfl | different
      · rw [Function.update_self] at answered
        exact elsewhere answered
      · rw [Function.update_of_ne different] at answered
        obtain ⟨other, owns⟩ := elected ⟨asked, answered⟩
        refine ⟨other, ?_, owns⟩
        rintro rfl
        rw [foreign] at owns
        cases owns
    obtain ⟨other, different, owns⟩ := owner
    exact ⟨other, by rwa [Function.update_of_ne different]⟩

variable [DecidableEq Thread]

theorem Elected.step {threadOf : Peer → Thread} {state : PeerState Peer Thread}
    (elects : Elects threadOf state) (elected : state.Elected)
    {event : PeerEvent Peer Thread} (enabled : state.Enabled threadOf event)
    (nothingFails : state.NothingFails threadOf event) :
    (state.step threadOf event).Elected := by
  cases event with
  | create peer opens =>
      have unused : (state.locks.files peer).file = .constructed := enabled
      have idle : (state.locks.files peer).file.pc = .idle := congrArg QtLockedFile.pc unused
      have opens : opens = true := nothingFails
      subst opens
      simp only [PeerState.step, lockEvent, ↓reduceIte, LockState.step, idle, ↓reduceDIte]
      refine elected.update (.inr ⟨?_, fun answered => absurd rfl answered⟩) _
      rw [unused]
      rfl
  | isClient peer =>
      have idle : (state.locks.files peer).file.pc = .idle := enabled
      have isOpen : (state.locks.files peer).file.isOpen = true := nothingFails
      by_cases unlocked : (state.locks.files peer).file.lockMode = .noLock
      · simp only [PeerState.step, lockEvent, unlocked, ne_eq, not_true_eq_false, ↓reduceIte,
          LockState.step, idle, ↓reduceDIte, Function.update_self]
        refine elected.update (.inr ⟨?_, fun answered => absurd ?_ answered⟩) _
        · rw [QtLockedFile.owned_of_unlocked idle unlocked]
        · simp only [LockedFile.isClientAnswer, LockedFile.begin, LockedFile.lock,
            QtLockedFile.lock_of_unlocked isOpen unlocked, QtLockedFile.pc_beginLock_ne_idle,
            ↓reduceIte]
      · have place := (elects.electing peer).2
        simp only [idle] at place
        simp only [PeerState.step, lockEvent, unlocked, ne_eq, not_false_eq_true, ↓reduceIte]
        refine fun _ => ⟨peer, ?_⟩
        cases mode : (state.locks.files peer).file.lockMode with
        | noLock => exact absurd mode unlocked
        | readLock => exact absurd mode place.1
        | writeLock => simp only [QtLockedFile.owned, idle, mode]
  | reply peer reply =>
      obtain ⟨call, calls, replies⟩ := enabled
      have calls : (state.locks.files peer).file.call = some call := calls
      have busy : (state.locks.files peer).file.pc ≠ .idle := by
        intro idle
        simp only [QtLockedFile.call, idle, reduceCtorEq] at calls
      simp only [PeerState.step, lockEvent, LockState.step, calls, Function.update_self]
      refine elected.update ?_ _
      refine ((elects.electing peer).owns_or_waits busy reply).imp_right fun waits => ?_
      refine ⟨waits.1, fun answered => ?_⟩
      rcases waits.2 with inCall | ⟨notGranted, asked⟩
      · refine absurd ?_ answered
        simp only [LockedFile.isClientAnswer, LockedFile.resume, inCall, ↓reduceIte]
      · have refused : reply = .refused := by
          cases reply with
          | granted => exact absurd rfl notGranted
          | refused => rfl
          | unrecognised => exact nothingFails.elim
        subst refused
        rcases asked with ⟨creates, found⟩ | ⟨waits, found⟩
        · rcases nothingFails with ⟨name, opens, _⟩ | ⟨other, also, taken⟩
          · rw [found] at opens
            cases opens
          · rw [creates] at also
            cases also
            exact absurd trivial taken
        · rcases nothingFails with ⟨name, opens, _⟩ | ⟨other, also, taken⟩
          · rw [found] at opens
            cases opens
          · rw [waits] at also
            cases also
            exact elects.owner_of_refused taken
  | crash thread => exact nothingFails.elim

end PeerState

/-! ### One election -/

namespace PeerState

variable {Peer Thread : Type*} [DecidableEq Peer] [DecidableEq Thread] {threadOf : Peer → Thread}
  {events : List (PeerEvent Peer Thread)}

/-- A peer that no event is about is as it was constructed. -/
theorem run_untouched {peer : Peer} (others : ∀ event ∈ events, event.peer ≠ some peer) :
    let final := run (step threadOf) initial events
    final.locks.files peer = .constructed ∧ final.client peer = none := by
  have always : Always (step threadOf) (fun _ event => event.peer ≠ some peer) initial events :=
    always_of_forall initial others
  have kept : ∀ (state : PeerState Peer Thread) (event : PeerEvent Peer Thread),
      state.locks.files peer = .constructed ∧ state.client peer = none →
        event.peer ≠ some peer → (state.step threadOf event).locks.files peer = .constructed ∧
          (state.step threadOf event).client peer = none := by
    rintro state event ⟨file, client⟩ other
    cases event with
    | create asked opens =>
        have different : peer ≠ asked := fun same => other (congrArg some same.symm)
        refine ⟨?_, by simp only [PeerState.step, Function.update_of_ne different, client]⟩
        cases opens with
        | false => exact file
        | true =>
            simp only [PeerState.step, lockEvent, ↓reduceIte, LockState.step]
            split
            · simp only [Function.update_of_ne different, file]
            · exact file
    | isClient asked =>
        have different : peer ≠ asked := fun same => other (congrArg some same.symm)
        by_cases locked : (state.locks.files asked).file.lockMode ≠ .noLock
        · simp only [PeerState.step, lockEvent, if_pos locked, Function.update_of_ne different]
          exact ⟨file, client⟩
        · simp only [PeerState.step, lockEvent, if_neg locked, Function.update_of_ne different]
          refine ⟨?_, client⟩
          simp only [LockState.step]
          split
          · simp only [Function.update_of_ne different, file]
          · exact file
    | reply asked reply =>
        have different : peer ≠ asked := fun same => other (congrArg some same.symm)
        refine ⟨?_, by simp only [PeerState.step, Function.update_of_ne different, client]⟩
        simp only [PeerState.step, lockEvent, LockState.step]
        split
        · exact file
        · simp only [Function.update_of_ne different, file]
    | crash thread =>
        simp only [PeerState.step, lockEvent, LockState.step, file, client, ite_self, and_self]
  exact invariant_run kept ⟨rfl, rfl⟩ always

/-- At most one peer of an election is past the guard. -/
theorem eq_of_pastGuard (ownThreads : Function.Injective threadOf)
    (enabled : Always (step threadOf) (Enabled threadOf) initial events) {peer other : Peer}
    (past : (run (step threadOf) initial events).PastGuard peer)
    (pastToo : (run (step threadOf) initial events).PastGuard other) : peer = other := by
  have elects := elects_run threadOf ownThreads enabled
  exact elects.inStep.unique ownThreads (elects.owns_of_past past) (elects.owns_of_past pastToo)

/-- When nothing fails, a peer of an election in which somebody has asked is past the guard
once all calls are over. -/
theorem exists_pastGuard (ownThreads : Function.Injective threadOf)
    (enabled : Always (step threadOf) (Enabled threadOf) initial events)
    (nothingFails : Always (step threadOf) (NothingFails threadOf) initial events)
    (ended : ∀ peer, ((run (step threadOf) initial events).locks.files peer).file.pc = .idle)
    (asked : ∃ peer, (run (step threadOf) initial events).client peer ≠ none) :
    ∃ peer, (run (step threadOf) initial events).PastGuard peer := by
  have always := (always_and initial events).mpr ⟨enabled, nothingFails⟩
  have kept : ∀ (state : PeerState Peer Thread) event,
      Elects threadOf state ∧ state.Elected →
        state.Enabled threadOf event ∧ state.NothingFails threadOf event →
          Elects threadOf (state.step threadOf event) ∧ (state.step threadOf event).Elected :=
    fun state event both legal =>
      ⟨both.1.step ownThreads legal.1, both.2.step both.1 legal.1 legal.2⟩
  obtain ⟨elects, elected⟩ := invariant_run kept ⟨elects_initial threadOf, elected_initial⟩ always
  obtain ⟨peer, owns⟩ := elected asked
  refine ⟨peer, (elects.past peer).mpr ?_⟩
  have place := (elects.electing peer).2
  simp only [ended peer] at place
  simp only [QtLockedFile.heldMode, ended peer]
  simp only [QtLockedFile.owned, ended peer] at owns
  cases mode : ((run (step threadOf) initial events).locks.files peer).file.lockMode with
  | noLock => simp only [mode, Bool.false_eq_true] at owns
  | readLock => exact absurd mode place.1
  | writeLock => rfl

end PeerState

/-! ### All elections -/

section Elections

variable {Peer Thread : Type*} [DecidableEq Peer] [DecidableEq Thread] {Name : Type*}
  [DecidableEq Name] {threadOf : Peer → Thread} {nameOf : Peer → Name}
  {events : List (PeerEvent Peer Thread)}

/-- The election of a name runs on the events of its peers. -/
theorem Peers.run_at (name : Name) :
    run (Peers.step threadOf nameOf) Peers.initial events name =
      run (PeerState.step threadOf) .initial (events.filter (Peers.concerns nameOf · name)) :=
  run_sideBySide _ _ _ events name

theorem Peers.enabled_at (name : Name)
    (enabled : Always (Peers.step threadOf nameOf) (Peers.Enabled threadOf nameOf) Peers.initial
      events) :
    Always (PeerState.step threadOf) (PeerState.Enabled threadOf) .initial
      (events.filter (Peers.concerns nameOf · name)) := by
  refine always_sideBySide (fun states event legal concerned => ?_) enabled
  have concerned : ∀ peer ∈ event.peer, nameOf peer = name := of_decide_eq_true concerned
  cases event with
  | create peer opens =>
      rw [← concerned peer rfl]
      exact legal peer rfl
  | isClient peer =>
      rw [← concerned peer rfl]
      exact legal peer rfl
  | reply peer reply =>
      rw [← concerned peer rfl]
      exact legal peer rfl
  | crash thread => exact trivial

theorem Peers.nothingFails_at (name : Name)
    (nothingFails : Always (Peers.step threadOf nameOf) (Peers.NothingFails threadOf nameOf)
      Peers.initial events) :
    Always (PeerState.step threadOf) (PeerState.NothingFails threadOf) .initial
      (events.filter (Peers.concerns nameOf · name)) := by
  refine always_sideBySide (fun states event succeeds concerned => ?_) nothingFails
  obtain ⟨peer, isPeer, succeeds⟩ := succeeds
  have concerned : ∀ peer ∈ event.peer, nameOf peer = name := of_decide_eq_true concerned
  rwa [concerned peer isPeer] at succeeds

/-- The other peers are not in the election of a name. -/
theorem Peers.run_at_other {name : Name} {peer : Peer} (other : nameOf peer ≠ name) :
    let final := run (Peers.step threadOf nameOf) Peers.initial events name
    final.locks.files peer = .constructed ∧ final.client peer = none := by
  intro final
  simp only [final, Peers.run_at]
  refine PeerState.run_untouched fun event member isPeer => other ?_
  have concerned := (List.mem_filter.mp member).2
  exact of_decide_eq_true concerned peer isPeer

end Elections

section Results

variable {Peer Thread : Type*} [DecidableEq Peer] [DecidableEq Thread]
  (toLower : List Char → List Char) (originOf : Peer → PeerOrigin)

/-- **At most one process of a name is past the guard.** Processes of any program files,
sessions and directories for temporary files start, ask and crash in any order, and any of
their system calls may fail: of those whose lock files share their mutexes at most one gets
past the guard of `main`. -/
theorem at_most_one_instance (threadOf : Peer → Thread)
    (ownThreads : Function.Injective threadOf) (events : List (PeerEvent Peer Thread)) :
    let nameOf := fun peer => mutexName toLower (originOf peer)
    Always (Peers.step threadOf nameOf) (Peers.Enabled threadOf nameOf) Peers.initial events →
      let final := run (Peers.step threadOf nameOf) Peers.initial events
      ∀ peer other, mutexName toLower (originOf peer) = mutexName toLower (originOf other) →
        final.PastGuard nameOf peer → final.PastGuard nameOf other → peer = other := by
  intro nameOf enabled final peer other sameName past pastToo
  simp only [Peers.PastGuard, final, Peers.run_at] at past pastToo
  rw [← show nameOf peer = nameOf other from sameName] at pastToo
  exact PeerState.eq_of_pastGuard ownThreads (Peers.enabled_at (nameOf peer) enabled) past pastToo

/-- Two processes of one program file, and one of another session. -/
inductive Racer where
  | slow
  | fast
  | elsewhere
  deriving DecidableEq

/-- The two of one program file ask at once, and the one that asks first takes the lock file;
the third one is alone. -/
def race : List (PeerEvent Racer Racer) :=
  [.create .slow true, .create .fast true, .isClient .fast, .create .elsewhere true,
    .isClient .slow, .isClient .elsewhere, .reply .slow .granted, .reply .fast .granted,
    .reply .elsewhere .granted, .reply .fast .granted, .reply .elsewhere .granted,
    .reply .slow .refused] ++
    List.replicate 64 (.reply .fast .refused) ++ List.replicate 64 (.reply .elsewhere .refused)

/-- The same file in two spellings, and the session. -/
def raceOrigin : Racer → PeerOrigin
  | .slow => ⟨"C:/App/RemoteDesk.exe".toList, "C:/Temp".toList, 1⟩
  | .fast => ⟨"c:/app/remotedesk.exe".toList, "C:/Temp".toList, 1⟩
  | .elsewhere => ⟨"c:/app/remotedesk.exe".toList, "C:/Temp".toList, 2⟩

/-- `QString::toLower` on ASCII. -/
def lowerAscii : List Char → List Char := List.map Char.toLower

theorem raceOrigin_sameName :
    mutexName lowerAscii (raceOrigin .fast) = mutexName lowerAscii (raceOrigin .slow) :=
  mutexName_eq lowerAscii (by decide) rfl rfl

set_option maxRecDepth 10000 in
theorem at_most_one_instance_race :
    let nameOf := fun peer => mutexName lowerAscii (raceOrigin peer)
    let final := run (Peers.step id nameOf) Peers.initial race
    final.PastGuard nameOf .fast ∧ final.PastGuard nameOf .elsewhere ∧
      ¬ final.PastGuard nameOf .slow := by
  intro nameOf final
  have first : final.PastGuard nameOf .fast := by decide +kernel
  refine ⟨first, by decide +kernel, fun second => ?_⟩
  have same := at_most_one_instance lowerAscii raceOrigin id Function.injective_id race
    (by decide +kernel) .fast .slow raceOrigin_sameName first second
  exact absurd same (by decide)

/-- **When nothing fails, one process of each name is past the guard.** Processes start and
ask in any order, and their system calls interleave in any way: once every call of those with
a name is over and one of them has asked, exactly one has been told that it is no client. -/
theorem exactly_one_instance (threadOf : Peer → Thread)
    (ownThreads : Function.Injective threadOf) (events : List (PeerEvent Peer Thread)) :
    let nameOf := fun peer => mutexName toLower (originOf peer)
    Always (Peers.step threadOf nameOf) (Peers.Enabled threadOf nameOf) Peers.initial events →
      Always (Peers.step threadOf nameOf) (Peers.NothingFails threadOf nameOf) Peers.initial
        events →
      let final := run (Peers.step threadOf nameOf) Peers.initial events
      ∀ name, (∀ peer, nameOf peer = name → ((final name).locks.files peer).file.pc = .idle) →
        (∃ peer, nameOf peer = name ∧ (final name).client peer ≠ none) →
          ∃! peer, nameOf peer = name ∧ final.PastGuard nameOf peer := by
  intro nameOf enabled nothingFails final name ended asked
  have outside : ∀ peer, nameOf peer ≠ name →
      (final name).locks.files peer = .constructed ∧ (final name).client peer = none :=
    fun peer other => Peers.run_at_other other
  have allEnded : ∀ peer, ((final name).locks.files peer).file.pc = .idle := by
    intro peer
    by_cases inside : nameOf peer = name
    · exact ended peer inside
    · rw [(outside peer inside).1]
      rfl
  have legal := Peers.enabled_at name enabled
  simp only [final, Peers.run_at] at allEnded asked
  obtain ⟨asker, -, answered⟩ := asked
  obtain ⟨peer, past⟩ := PeerState.exists_pastGuard ownThreads legal
    (Peers.nothingFails_at name nothingFails) allEnded ⟨asker, answered⟩
  have inside : nameOf peer = name := by
    by_contra other
    have client : (final name).client peer = none := (outside peer other).2
    simp only [final, Peers.run_at] at client
    rw [PeerState.PastGuard, client] at past
    cases past
  refine ⟨peer, ⟨inside, ?_⟩, ?_⟩
  · simp only [Peers.PastGuard, final, Peers.run_at, inside]
    exact past
  · rintro other ⟨insideToo, pastToo⟩
    simp only [Peers.PastGuard, final, Peers.run_at, insideToo] at pastToo
    exact PeerState.eq_of_pastGuard ownThreads legal pastToo past

set_option maxRecDepth 10000 in
theorem exactly_one_instance_race :
    let nameOf := fun peer => mutexName lowerAscii (raceOrigin peer)
    ∃! peer, nameOf peer = nameOf .fast ∧
      (run (Peers.step id nameOf) Peers.initial race).PastGuard nameOf peer :=
  exactly_one_instance lowerAscii raceOrigin id Function.injective_id race (by decide +kernel)
    (by decide +kernel) _ (fun peer => by cases peer <;> decide +kernel)
    ⟨.slow, raceOrigin_sameName.symm, by decide +kernel⟩

end Results

end WatchDog.Windows
