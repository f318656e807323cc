import WatchDogProcess.SingleInstance.LockedFileUnix

/-! # Readers and writers over record locks

On Unix the mode that an object records is the lock that the system keeps for its process,
after failed calls too, so objects in processes of their own lock the file as readers and
writers do (`WatchDog.Unix.record_lock_excludes`), as they do on Windows. Two objects in one
process share its lock and exclude nobody.
-/

namespace WatchDog.Unix

open EventRun ReadersWriter RecordLock

namespace QtLockedFile

/-- A file that is not open is neither locked nor in a system call. -/
def Closed (file : QtLockedFile) : Prop :=
  file.isOpen = false → file.lockMode = .noLock ∧ file.pc = .idle

/-- What a request makes of a file before its first system call: the mode stays, and a file
that is not open stays idle. -/
structure Keeps (old new : QtLockedFile) : Prop where
  lockMode : new.lockMode = old.lockMode
  closed : new.Closed

theorem keeps_finish {file : QtLockedFile} (closed : file.Closed) (result : Bool) :
    file.Keeps (file.finish result) :=
  ⟨rfl, fun notOpen => ⟨(closed notOpen).1, rfl⟩⟩

theorem keeps_pc {file : QtLockedFile} (isOpen : ¬ file.isOpen = false) (pc : Pc) :
    file.Keeps { file with pc := pc } :=
  ⟨rfl, fun notOpen => absurd notOpen isOpen⟩

theorem keeps_unlock {file : QtLockedFile} (closed : file.Closed) : file.Keeps file.unlock := by
  unfold unlock
  split
  · exact keeps_finish closed false
  case isFalse isOpen =>
      split
      · exact keeps_finish closed true
      · exact keeps_pc isOpen _

theorem keeps_lock {file : QtLockedFile} (closed : file.Closed) (mode : LockMode) (block : Bool) :
    file.Keeps (file.lock mode block) := by
  unfold lock
  split
  · exact keeps_finish closed false
  case isFalse isOpen =>
      split
      · exact keeps_unlock closed
      · split
        · exact keeps_finish closed true
        · split <;> exact keeps_pc isOpen _

theorem keeps_destroy {file : QtLockedFile} (closed : file.Closed) : file.Keeps file.destroy := by
  unfold destroy
  split
  case isTrue notOpen => exact ⟨(closed notOpen).1.symm, fun _ => ⟨rfl, rfl⟩⟩
  case isFalse isOpen => split <;> exact keeps_pc isOpen _

theorem keeps_begin {file : QtLockedFile} (closed : file.Closed) (request : LockRequest) :
    file.Keeps (file.begin request) := by
  cases request with
  | openFile => exact ⟨rfl, fun notOpen => by cases notOpen⟩
  | lock mode block => exact keeps_lock closed mode block
  | unlock => exact keeps_unlock closed
  | destroy => exact keeps_destroy closed

theorem proceed_lockMode (file : QtLockedFile) (result : Bool) (after : After) :
    (file.proceed result after).lockMode = file.lockMode := by
  cases after <;> rfl

theorem proceed_isOpen (file : QtLockedFile) (result : Bool) (after : After) :
    (file.proceed result after).isOpen = file.isOpen := by
  cases after <;> rfl

/-- The mode recorded after a system call is the lock that the system keeps after it. -/
theorem mode_resume {Process : Type*} [DecidableEq Process] {file : QtLockedFile} {call : LockCall}
    (calls : file.call = some call) (closed : file.Closed) {locks : Process → Option Access}
    {process : Process} (agrees : locks process = file.lockMode.access) (ok : Bool) :
    LockState.effect locks process ok call process = (file.resume ok).lockMode.access ∧
      (file.resume ok).Closed := by
  have isOpen : file.pc ≠ .idle → ¬ file.isOpen = false :=
    fun busy notOpen => busy (closed notOpen).2
  unfold QtLockedFile.call at calls
  unfold resume
  cases pc : file.pc with
  | idle =>
      rw [pc] at calls
      cases calls
  | unlocking after =>
      obtain rfl : LockCall.clear = call := by simpa only [pc, Option.some.injEq] using calls
      have busy := isOpen (by rw [pc]; exact Pc.noConfusion)
      cases ok with
      | true =>
          simp only [LockState.effect, ↓reduceIte, Function.update_self, proceed_lockMode, Closed,
            proceed_isOpen]
          exact ⟨rfl, fun notOpen => absurd notOpen busy⟩
      | false =>
          simp only [LockState.effect, Bool.false_eq_true, ↓reduceIte, proceed_lockMode, Closed,
            proceed_isOpen]
          exact ⟨agrees, fun notOpen => absurd notOpen busy⟩
  | locking mode block =>
      have busy := isOpen (by rw [pc]; exact Pc.noConfusion)
      simp only [pc, Option.map_eq_some_iff] at calls
      obtain ⟨access, isAccess, rfl⟩ := calls
      cases ok with
      | true =>
          simp only [LockState.effect, ↓reduceIte, Function.update_self, finish]
          exact ⟨isAccess.symm, fun notOpen => absurd notOpen busy⟩
      | false =>
          simp only [LockState.effect, Bool.false_eq_true, ↓reduceIte, finish]
          exact ⟨agrees, fun notOpen => absurd notOpen busy⟩
  | closing =>
      obtain rfl : LockCall.close = call := by simpa only [pc, Option.some.injEq] using calls
      simp only [LockState.effect, Function.update_self]
      exact ⟨rfl, fun _ => ⟨rfl, rfl⟩⟩

end QtLockedFile

namespace LockState

variable {Holder Process : Type*} [DecidableEq Process] {locks : Process → Option Access}

theorem effect_ne {process other : Process} (different : other ≠ process) (ok : Bool)
    (call : LockCall) : effect locks process ok call other = locks other := by
  cases call <;> cases ok <;> first
    | rfl
    | exact Function.update_of_ne different _ _

theorem exclusive_effect (exclusive : Exclusive locks) {process : Process} {ok : Bool}
    {call : LockCall}
    (granted : ∀ access, call = .set access → ok = true → Grants locks process access) :
    Exclusive (effect locks process ok call) := by
  cases call with
  | set access =>
      cases ok with
      | true => exact exclusive_set exclusive (granted access rfl rfl)
      | false => exact exclusive
  | clear =>
      cases ok with
      | true => exact exclusive_clear exclusive
      | false => exact exclusive
  | close => exact exclusive_clear exclusive

/-- The mode that each object records is the lock of its process, and these exclude each
other. -/
structure Safe (processOf : Holder → Process) (state : LockState Holder Process) : Prop where
  agrees : ∀ holder, state.locks (processOf holder) = (state.files holder).lockMode.access
  exclusive : Exclusive state.locks
  closed : ∀ holder, (state.files holder).Closed

omit [DecidableEq Process] in
theorem safe_initial (processOf : Holder → Process) :
    Safe processOf (initial : LockState Holder Process) :=
  ⟨fun _ => rfl, exclusive_none, fun _ _ => ⟨rfl, rfl⟩⟩

variable [DecidableEq Holder] {processOf : Holder → Process}

/-- **Every step that the system allows keeps the modes and the locks in agreement.** -/
theorem Safe.step (ownProcesses : Function.Injective processOf)
    {state : LockState Holder Process} (safe : Safe processOf state)
    {event : LockEvent Holder Process} (enabled : state.Enabled processOf event) :
    Safe processOf (state.step processOf event) := by
  cases event with
  | request holder request =>
      have keeps := QtLockedFile.keeps_begin (safe.closed holder) request
      refine ⟨fun other => ?_, safe.exclusive, fun other => ?_⟩
      · simp only [LockState.step]
        rcases eq_or_ne other holder with rfl | different
        · rw [Function.update_self, keeps.lockMode]
          exact safe.agrees other
        · rw [Function.update_of_ne different]
          exact safe.agrees other
      · simp only [LockState.step]
        rcases eq_or_ne other holder with rfl | different
        · rw [Function.update_self]
          exact keeps.closed
        · rw [Function.update_of_ne different]
          exact safe.closed other
  | reply holder ok =>
      obtain ⟨call, calls, granted⟩ := enabled
      obtain ⟨agrees, closed⟩ :=
        QtLockedFile.mode_resume calls (safe.closed holder) (safe.agrees holder) ok
      simp only [LockState.step, calls]
      refine ⟨fun other => ?_, exclusive_effect safe.exclusive granted, fun other => ?_⟩
      · dsimp only
        rcases eq_or_ne other holder with rfl | different
        · rw [Function.update_self]
          exact agrees
        · rw [Function.update_of_ne different,
            effect_ne fun same => different (ownProcesses same)]
          exact safe.agrees other
      · dsimp only
        rcases eq_or_ne other holder with rfl | different
        · rw [Function.update_self]
          exact closed
        · rw [Function.update_of_ne different]
          exact safe.closed other
  | exit process =>
      refine ⟨fun other => ?_, exclusive_clear safe.exclusive, fun other => ?_⟩
      · simp only [LockState.step]
        split
        case isTrue ended =>
            rw [ended, Function.update_self]
            rfl
        case isFalse alive =>
            rw [Function.update_of_ne alive]
            exact safe.agrees other
      · simp only [LockState.step]
        split
        · exact fun _ => ⟨rfl, rfl⟩
        · exact safe.closed other

/-- The locks that the objects have recorded. -/
def held (state : LockState Holder Process) (holder : Holder) : Option Access :=
  (state.files holder).lockMode.access

omit [DecidableEq Process] [DecidableEq Holder] in
theorem Safe.exclusive_held (ownProcesses : Function.Injective processOf)
    {state : LockState Holder Process} (safe : Safe processOf state) : Exclusive state.held := by
  intro first second different
  have compatible := safe.exclusive (processOf first) (processOf second)
    fun same => different (ownProcesses same)
  rwa [safe.agrees first, safe.agrees second] at compatible

omit [DecidableEq Process] in
theorem held_update (files : Holder → QtLockedFile) (holder : Holder) (new : QtLockedFile)
    (before after : Process → Option Access) :
    held ⟨Function.update files holder new, after⟩ =
      Function.update (held ⟨files, before⟩) holder new.lockMode.access := by
  funext other
  exact Function.apply_update (fun _ (file : QtLockedFile) => file.lockMode.access)
    files holder new other

/-- Between two states locks are dropped, and one is taken. -/
theorem Safe.steps (ownProcesses : Function.Injective processOf)
    {state : LockState Holder Process} (safe : Safe processOf state)
    {event : LockEvent Holder Process} (enabled : state.Enabled processOf event) :
    Relation.ReflTransGen Step state.held (state.step processOf event).held := by
  have exclusive := (safe.step ownProcesses enabled).exclusive_held ownProcesses
  cases event with
  | request holder request =>
      have keeps := QtLockedFile.keeps_begin (safe.closed holder) request
      have same : (state.step processOf (.request holder request)).held = state.held := by
        simp only [LockState.step]
        rw [held_update state.files holder _ state.locks, keeps.lockMode]
        exact Function.update_eq_self holder _
      rw [same]
  | reply holder ok =>
      obtain ⟨call, calls, -⟩ := enabled
      simp only [LockState.step, calls] at exclusive ⊢
      rw [held_update state.files holder _ state.locks] at exclusive ⊢
      cases access : ((state.files holder).resume ok).lockMode.access with
      | none =>
          refine .single (.drop fun other => ?_)
          rcases eq_or_ne other holder with rfl | different
          · exact .inr (Function.update_self _ _ _)
          · exact .inl (Function.update_of_ne different _ _)
      | some access' =>
          refine steps_replace fun other different => ?_
          have compatible := exclusive holder other different.symm
          rwa [Function.update_self, Function.update_of_ne different, access] at compatible
  | exit process =>
      refine .single (.drop fun other => ?_)
      unfold held LockState.step
      dsimp only
      split
      · exact .inr rfl
      · exact .inl rfl

end LockState

variable {Holder Process : Type*} [DecidableEq Holder] [DecidableEq Process]

/-- **The objects' modes are the system's locks.** However objects in processes of their own
lock one file, fail in system calls and end, each has recorded the lock that the system
keeps for its process, and the file is locked as readers and writers lock a resource. -/
theorem record_lock_excludes (processOf : Holder → Process)
    (ownProcesses : Function.Injective processOf) (events : List (LockEvent Holder Process))
    (enabled : Always (LockState.step processOf) (LockState.Enabled processOf) .initial events) :
    let final := run (LockState.step processOf) .initial events
    (∀ holder, final.locks (processOf holder) = (final.files holder).lockMode.access) ∧
      Relation.ReflTransGen Step (fun _ => none) final.held ∧ Exclusive final.held := by
  have kept : ∀ (state : LockState Holder Process) event, LockState.Safe processOf state →
      state.Enabled processOf event → LockState.Safe processOf (state.step processOf event) :=
    fun _ _ safe legal => safe.step ownProcesses legal
  have initial := @LockState.safe_initial Holder Process processOf
  have steps : Relation.ReflTransGen Step (LockState.held (.initial : LockState Holder Process))
      (run (LockState.step processOf) .initial events).held :=
    steps_run kept (fun _ _ safe legal => safe.steps ownProcesses legal) initial enabled
  exact ⟨(invariant_run kept initial enabled).agrees, steps, exclusive_of_steps steps exclusive_none⟩

/-- One process writes, another one fails to, and gets the lock when the first has ended. -/
theorem record_lock_excludes_in_turn :
    let events : List (LockEvent Bool Bool) := [.request false .openFile,
      .request false (.lock .writeLock false), .reply false true, .request true .openFile,
      .request true (.lock .writeLock false), .reply true false, .exit false,
      .request true (.lock .writeLock true), .reply true true]
    let final := run (LockState.step id) .initial events
    final.held true = some .exclusive ∧ Exclusive final.held := by
  intro events
  have enabled : Always (LockState.step id) (LockState.Enabled id) .initial events := by
    refine ⟨⟨rfl, rfl⟩, rfl, ⟨_, rfl, fun _ _ _ _ _ => compatible_none_right _⟩, ⟨rfl, rfl⟩, rfl,
      ⟨_, rfl, fun _ _ fails => absurd fails Bool.false_ne_true⟩, trivial, rfl,
      ⟨_, rfl, fun _ _ _ other different => ?_⟩, trivial⟩
    cases other with
    | false => exact compatible_none_right _
    | true => exact absurd rfl different
  exact ⟨rfl, (record_lock_excludes id Function.injective_id events enabled).2.2⟩

/-- Two objects in one process both get the write lock. -/
example :
    let final := run (LockState.step fun _ : Bool => ()) .initial [.request false .openFile,
      .request false (.lock .writeLock false), .reply false true, .request true .openFile,
      .request true (.lock .writeLock false), .reply true true]
    final.held false = some .exclusive ∧ final.held true = some .exclusive :=
  ⟨rfl, rfl⟩

end WatchDog.Unix
