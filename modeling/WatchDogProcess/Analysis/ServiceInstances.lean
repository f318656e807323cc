import WatchDogProcess.Analysis.RecordLocking
import WatchDogProcess.Service.ServiceProgram
import Mathlib.Data.Fintype.Basic

/-! # The service and the guard of its program

Of the processes that share a lock file `main` lets one at a time past `isRunning`, and the
service is a process past it. So the options that control a service do not reach the one that
was started from the same program file by the same user with the same directory for temporary
files: whatever instances are launched, started, killed and interleaved, a line that reaches a
service comes from a process with another lock file (`WatchDog.instances_reach_no_service`).
And a start hands the guard over: the system lets the detached process past it exactly when no
process with its lock file is past the guard at the time it asks, the starter among them
(`WatchDog.detached_serves_iff`).
-/

namespace WatchDog

open EventRun ReadersWriter RecordLock Unix

/-- The process has found no other instance, and has not returned from `main`. -/
def ProgramPc.PastGuard : ProgramPc → Prop
  | .exec => True
  | .connecting _ => True
  | .spawning => True
  | .running _ _ => True
  | .leaving _ => True
  | _ => False

/-- The process has not asked yet. -/
def ProgramPc.Fresh : ProgramPc → Prop
  | .unstarted => True
  | .starting => True
  | .ended => True
  | _ => False

theorem ProgramPc.Fresh.not_pastGuard {pc : ProgramPc} (fresh : pc.Fresh) : ¬ pc.PastGuard := by
  cases pc <;> first
    | exact fresh.elim
    | exact id

/-- No argument makes `exec` start the service. -/
theorem serviceSpecific_ne_start (spaces : Whitespace) (rest : List (List Char)) :
    serviceSpecific spaces rest ≠ some .start := by
  cases rest with
  | nil => simp only [serviceSpecific, ne_eq, reduceCtorEq, not_false_eq_true]
  | cons a rest =>
      simp only [serviceSpecific]
      split_ifs <;> simp only [ne_eq, Option.some.injEq, reduceCtorEq, not_false_eq_true]

/-- The service is started without an argument of the program's own. -/
theorem execAction_start {spaces : Whitespace} {args : List (List Char)} {serviceRun : Bool}
    (starts : execAction spaces args serviceRun = .start) :
    serviceSpecific spaces args.tail = none ∧ serviceRun = false := by
  unfold execAction at starts
  cases specific : serviceSpecific spaces args.tail with
  | some action =>
      rw [specific] at starts
      rw [Option.getD_some] at starts
      rw [starts] at specific
      exact absurd specific (serviceSpecific_ne_start spaces args.tail)
  | none =>
      rw [specific, Option.getD_none] at starts
      cases serviceRun with
      | true => cases starts
      | false => exact ⟨rfl, rfl⟩

namespace ProgramState

variable {Pid : Type*} [DecidableEq Pid] {state : ProgramState Pid} {pid : Pid}

/-! ### The guard -/

theorem step_reply {locks : LockState Pid Pid} {call : LockCall}
    (calls : (locks.files pid).call = some call) (ok : Bool) :
    locks.step id (.reply pid ok) =
      { files := Function.update locks.files pid ((locks.files pid).resume ok)
        locks := LockState.effect locks.locks pid ok call } := by
  simp only [LockState.step, calls, id_eq]

/-- The lock file that the constructor has opened, asked for the write lock. -/
def asked : QtLockedFile := (QtLockedFile.constructed.opened).lock .writeLock false

theorem files_asked {locks : LockState Pid Pid} (fresh : locks.files pid = .constructed) :
    (run (LockState.step id) locks
      [.request pid .openFile, .request pid (.lock .writeLock false)]).files pid = asked := by
  simp only [run_cons, run_nil, LockState.step, Function.update_self, fresh, QtLockedFile.begin,
    asked]

/-- The lock file after the calls of `isClient`. -/
theorem files_lockEvents {locks : LockState Pid Pid} (fresh : locks.files pid = .constructed)
    (opens ok : Bool) :
    let after := run (LockState.step id) locks (lockEvents pid opens ok)
    (after.files pid).answer = some (opens && ok) ∧
      (after.files pid).lockMode = (if opens && ok then .writeLock else .noLock) ∧
      ∀ other ≠ pid, after.files other = locks.files other := by
  cases opens with
  | false =>
      refine ⟨?_, ?_, fun other different => ?_⟩
      · simp only [lockEvents, Bool.false_eq_true, ↓reduceIte, run_cons, run_nil, LockState.step,
          Function.update_self, fresh]
        rfl
      · simp only [lockEvents, Bool.false_eq_true, ↓reduceIte, run_cons, run_nil, LockState.step,
          Function.update_self, fresh]
        rfl
      · simp only [lockEvents, Bool.false_eq_true, ↓reduceIte, run_cons, run_nil, LockState.step]
        exact Function.update_of_ne different _ _
  | true =>
      have files := files_asked fresh
      have calls : ((run (LockState.step id) locks
          [.request pid .openFile, .request pid (.lock .writeLock false)]).files pid).call =
            some (.set .exclusive) := by
        rw [files]
        rfl
      have others : ∀ other ≠ pid, (run (LockState.step id) locks
          [.request pid .openFile, .request pid (.lock .writeLock false)]).files other =
            locks.files other := by
        intro other different
        simp only [run_cons, run_nil, LockState.step, Function.update_of_ne different]
      have split : lockEvents pid true ok =
          [.request pid .openFile, .request pid (.lock .writeLock false)] ++ [.reply pid ok] := rfl
      dsimp only
      rw [split, run_concat, step_reply calls, files]
      refine ⟨?_, ?_, fun other different => ?_⟩
      · simp only [Function.update_self]
        cases ok <;> rfl
      · simp only [Function.update_self]
        cases ok <;> rfl
      · simp only [Function.update_of_ne different]
        exact others other different

theorem safe_lockEvents {locks : LockState Pid Pid} (safe : LockState.Safe id locks)
    (fresh : locks.files pid = .constructed) {opens ok : Bool}
    (grants : opens = true → ok = true → Grants locks.locks pid .exclusive) :
    LockState.Safe id (run (LockState.step id) locks (lockEvents pid opens ok)) := by
  have kept : ∀ (state : LockState Pid Pid) event, LockState.Safe id state →
      state.Enabled id event → LockState.Safe id (state.step id event) :=
    fun _ _ safe legal => safe.step Function.injective_id legal
  refine invariant_run kept safe ?_
  cases opens with
  | false =>
      have idle : (locks.files pid).pc = .idle := by
        rw [fresh]
        rfl
      exact ⟨idle, trivial⟩
  | true =>
      have opened : (locks.step id (.request pid .openFile)).files pid =
          QtLockedFile.constructed.opened := by
        simp only [LockState.step, Function.update_self, fresh, QtLockedFile.begin]
      have idle : ((locks.step id (.request pid .openFile)).files pid).pc = .idle := by
        rw [opened]
        rfl
      have closed : (locks.files pid).isOpen = false ∧ (locks.files pid).pc = .idle := by
        rw [fresh]
        exact ⟨rfl, rfl⟩
      refine ⟨closed, idle, ⟨.set .exclusive, ?_, fun access isAccess granted => ?_⟩, trivial⟩
      · have files := files_asked fresh
        simp only [run_cons, run_nil] at files
        rw [files]
        rfl
      · cases isAccess
        exact grants rfl granted

/-! ### The invariant -/

/-- Two processes that have started and do not share a lock file. -/
def Apart (state : ProgramState Pid) (pid other : Pid) : Prop :=
  state.pc pid ≠ .unstarted ∧ state.pc other ≠ .unstarted ∧
    state.lockName pid ≠ state.lockName other

/-- Who is past the guard has its lock file locked, and nobody uses the lock file of another
name; lines have reached services with other lock files only; and a detached process has
what its starter hands on, without an argument of the program's own. -/
structure Guarded (system : UnixSystem) (state : ProgramState Pid) : Prop where
  safe : ∀ name, LockState.Safe id (state.locks name)
  elsewhere : ∀ pid, ∀ name ≠ state.lockName pid, (state.locks name).files pid = .constructed
  fresh : ∀ pid, (state.pc pid).Fresh → (state.lockOf pid).files pid = .constructed
  holds : ∀ pid, (state.pc pid).PastGuard → ((state.lockOf pid).files pid).lockMode = .writeLock
  free : ∀ pid, ¬ (state.pc pid).PastGuard → ((state.lockOf pid).files pid).lockMode = .noLock
  starts : ∀ pid, state.pc pid = .spawning ∨ state.pc pid = .connecting .start →
    serviceSpecific system.spaces (state.args pid).tail = none ∧ state.serviceRun pid = false
  detached : ∀ pid, state.serviceRun pid = true →
    serviceSpecific system.spaces (state.args pid).tail = none ∧
      ∃ starter, state.pc starter ≠ .unstarted ∧ state.serviceRun starter = false ∧
        (state.args pid).tail = (state.args starter).tail ∧
          state.origin pid = state.childOrigin system starter
  attached : ∀ pid, state.pc pid = .unstarted → state.serviceRun pid = false
  delivered : ∀ entry ∈ state.delivered, state.Apart entry.1 entry.2.1

omit [DecidableEq Pid] in
theorem guarded_initial (system : UnixSystem) : (initial : ProgramState Pid).Guarded system where
  safe := fun _ => LockState.safe_initial id
  elsewhere := fun _ _ _ => rfl
  fresh := fun _ _ => rfl
  holds := fun _ past => past.elim
  free := fun _ _ => rfl
  starts := fun pid spawning => by rcases spawning with no | no <;> cases no
  detached := fun _ detached => by cases detached
  attached := fun _ _ => rfl
  delivered := fun _ member => absurd member List.not_mem_nil

variable {system : UnixSystem}

omit [DecidableEq Pid] in
/-- A process that has not asked has used no lock file. -/
theorem Guarded.constructed (guarded : state.Guarded system) (fresh : (state.pc pid).Fresh)
    (name : List Char) : (state.locks name).files pid = .constructed := by
  by_cases own : name = state.lockName pid
  · rw [own]
    exact guarded.fresh pid fresh
  · exact guarded.elsewhere pid name own

omit [DecidableEq Pid] in
/-- A process past the guard has its lock file locked. -/
theorem Guarded.writes (guarded : state.Guarded system) (past : (state.pc pid).PastGuard) :
    (state.lockOf pid).locks pid = some .exclusive := by
  have agrees := (guarded.safe (state.lockName pid)).agrees pid
  rw [id_eq] at agrees
  rw [lockOf, agrees]
  have holds := guarded.holds pid past
  rw [lockOf] at holds
  rw [holds]
  rfl

omit [DecidableEq Pid] in
/-- At most one process is past the guard of a lock file. -/
theorem Guarded.unique (guarded : state.Guarded system) {other : Pid}
    (sameLock : state.lockName pid = state.lockName other)
    (past : (state.pc pid).PastGuard) (pastToo : (state.pc other).PastGuard) : pid = other := by
  by_contra different
  have writes := guarded.writes past
  have writesToo := guarded.writes pastToo
  rw [lockOf] at writes writesToo
  rw [← sameLock] at writesToo
  have alone := (guarded.safe (state.lockName pid)).exclusive.alone writes different
  rw [writesToo] at alone
  cases alone

omit [DecidableEq Pid] in
/-- A process that connects has the guard, so it reaches no service with its lock file. -/
theorem Guarded.listener_apart (guarded : state.Guarded system) {action : ExecAction}
    (connecting : state.pc pid = .connecting action) {service : Pid}
    (reached : state.listener system pid = some service) : state.Apart pid service := by
  obtain ⟨-, listens⟩ := Option.filter_eq_some_iff.mp reached
  have listens : state.pc service = .running true true := of_decide_eq_true listens
  refine ⟨?_, ?_, fun sameLock => ?_⟩
  · rw [connecting]
    exact ProgramPc.noConfusion
  · rw [listens]
    exact ProgramPc.noConfusion
  · have past : (state.pc pid).PastGuard := by
      rw [connecting]
      trivial
    have pastToo : (state.pc service).PastGuard := by
      rw [listens]
      trivial
    have same := guarded.unique sameLock past pastToo
    rw [same, listens] at connecting
    cases connecting

omit [DecidableEq Pid] in
/-- What a starter hands on depends on its arguments and its own origin. -/
theorem childOrigin_congr {other : ProgramState Pid} (origin : state.origin pid = other.origin pid)
    (args : state.args pid = other.args pid) :
    state.childOrigin system pid = other.childOrigin system pid := by
  rw [childOrigin, childOrigin, origin, args]

/-! ### The steps -/

/-- One process goes on: what is to be shown of it, as the others stay as they are. -/
structure Moves (system : UnixSystem) (state next : ProgramState Pid) (pid : Pid)
    (now : ProgramPc) : Prop where
  pc : next.pc = Function.update state.pc pid now
  started : now ≠ .unstarted
  args : ∀ other, state.pc other ≠ .unstarted ∨ other ≠ pid → next.args other = state.args other
  origin : ∀ other, state.pc other ≠ .unstarted ∨ other ≠ pid →
    next.origin other = state.origin other
  serviceRun : next.serviceRun = state.serviceRun
  safe : ∀ name, LockState.Safe id (next.locks name)
  files : ∀ other ≠ pid, ∀ name, (next.locks name).files other = (state.locks name).files other
  elsewhere : ∀ name ≠ next.lockName pid, (next.locks name).files pid = .constructed
  fresh : now.Fresh → (next.lockOf pid).files pid = .constructed
  holds : now.PastGuard → ((next.lockOf pid).files pid).lockMode = .writeLock
  free : ¬ now.PastGuard → ((next.lockOf pid).files pid).lockMode = .noLock
  starts : now = .spawning ∨ now = .connecting .start →
    serviceSpecific system.spaces (next.args pid).tail = none ∧ next.serviceRun pid = false
  delivered : ∀ entry ∈ next.delivered, entry ∈ state.delivered ∨ state.Apart entry.1 entry.2.1

variable {next : ProgramState Pid} {now : ProgramPc}

/-- The lock file of another process stays as it is. -/
theorem Moves.lockOf_other (moves : Moves system state next pid now) {other : Pid}
    (different : other ≠ pid) :
    (next.lockOf other).files other = (state.lockOf other).files other := by
  have sameName : next.lockName other = state.lockName other := by
    rw [lockName, lockName, moves.origin other (Or.inr different)]
  rw [lockOf, lockOf, sameName, moves.files other different]

/-- Processes that have started apart stay apart. -/
theorem Moves.apart (moves : Moves system state next pid now) {first second : Pid}
    (apart : state.Apart first second) : next.Apart first second := by
  obtain ⟨firstStarted, secondStarted, names⟩ := apart
  have stays : ∀ other, state.pc other ≠ .unstarted → next.pc other ≠ .unstarted := by
    intro other started
    rw [moves.pc]
    rcases eq_or_ne other pid with rfl | different
    · rw [Function.update_self]
      exact moves.started
    · rwa [Function.update_of_ne different]
  refine ⟨stays first firstStarted, stays second secondStarted, ?_⟩
  rwa [lockName, lockName, moves.origin first (Or.inl firstStarted),
    moves.origin second (Or.inl secondStarted)]

theorem Guarded.moves (guarded : state.Guarded system) (moves : Moves system state next pid now) :
    next.Guarded system := by
  have same : next.pc pid = now := by
    rw [moves.pc]
    exact Function.update_self _ _ _
  have others : ∀ other ≠ pid, next.pc other = state.pc other := by
    intro other different
    rw [moves.pc]
    exact Function.update_of_ne different _ _
  constructor
  · exact moves.safe
  · intro other name elsewhere
    rcases eq_or_ne other pid with rfl | different
    · exact moves.elsewhere name elsewhere
    · rw [moves.files other different]
      apply guarded.elsewhere other name
      rwa [lockName, ← moves.origin other (Or.inr different)]
  · intro other fresh
    rcases eq_or_ne other pid with rfl | different
    · exact moves.fresh (same ▸ fresh)
    · rw [moves.lockOf_other different]
      exact guarded.fresh other (others other different ▸ fresh)
  · intro other past
    rcases eq_or_ne other pid with rfl | different
    · exact moves.holds (same ▸ past)
    · rw [moves.lockOf_other different]
      exact guarded.holds other (others other different ▸ past)
  · intro other notPast
    rcases eq_or_ne other pid with rfl | different
    · exact moves.free (same ▸ notPast)
    · rw [moves.lockOf_other different]
      exact guarded.free other (others other different ▸ notPast)
  · intro other starting
    rcases eq_or_ne other pid with rfl | different
    · exact moves.starts (same ▸ starting)
    · rw [moves.args other (Or.inr different), moves.serviceRun]
      exact guarded.starts other (others other different ▸ starting)
  · intro other detached
    rw [moves.serviceRun] at detached ⊢
    obtain ⟨specific, starter, started, attached, tail, origin⟩ := guarded.detached other detached
    have otherStarted : state.pc other ≠ .unstarted := by
      intro unstarted
      rw [guarded.attached other unstarted] at detached
      cases detached
    rw [moves.args other (Or.inl otherStarted), moves.origin other (Or.inl otherStarted)]
    refine ⟨specific, starter, ?_, attached, ?_, ?_⟩
    · rcases eq_or_ne starter pid with rfl | different
      · rw [same]
        exact moves.started
      · rw [others starter different]
        exact started
    · rw [moves.args starter (Or.inl started)]
      exact tail
    · exact origin.trans (childOrigin_congr (moves.origin starter (Or.inl started))
        (moves.args starter (Or.inl started))).symm
  · intro other unstarted
    rw [moves.serviceRun]
    rcases eq_or_ne other pid with rfl | different
    · rw [same] at unstarted
      exact absurd unstarted moves.started
    · exact guarded.attached other (others other different ▸ unstarted)
  · intro entry member
    rcases moves.delivered entry member with before | apart
    · exact moves.apart (guarded.delivered entry before)
    · exact moves.apart apart

/-- A process past the guard stays past it. -/
theorem Guarded.stays (guarded : state.Guarded system) {next : ProgramState Pid} (pid : Pid)
    (now : ProgramPc) (past : (state.pc pid).PastGuard) (pastNow : now.PastGuard)
    (pc : next.pc = Function.update state.pc pid now) (args : next.args = state.args)
    (origin : next.origin = state.origin) (serviceRun : next.serviceRun = state.serviceRun)
    (locks : next.locks = state.locks)
    (delivered : ∀ entry ∈ next.delivered,
      entry ∈ state.delivered ∨ state.Apart entry.1 entry.2.1)
    (starts : now = .spawning ∨ now = .connecting .start →
      serviceSpecific system.spaces (state.args pid).tail = none ∧ state.serviceRun pid = false) :
    next.Guarded system := by
  have sameName : next.lockName pid = state.lockName pid := by
    rw [lockName, lockName, origin]
  have sameLock : next.lockOf pid = state.lockOf pid := by
    rw [lockOf, lockOf, locks, sameName]
  have moves : Moves system state next pid now := by
    refine ⟨pc, ?_, ?_, ?_, serviceRun, ?_, ?_, ?_, ?_, ?_, ?_, ?_, delivered⟩
    · intro unstarted
      rw [unstarted] at pastNow
      exact pastNow
    · exact fun _ _ => by rw [args]
    · exact fun _ _ => by rw [origin]
    · rw [locks]
      exact guarded.safe
    · exact fun _ _ _ => by rw [locks]
    · rw [locks, sameName]
      exact guarded.elsewhere pid
    · exact fun fresh => (fresh.not_pastGuard pastNow).elim
    · rw [sameLock]
      exact fun _ => guarded.holds pid past
    · exact fun notPast => absurd pastNow notPast
    · rw [args, serviceRun]
      exact starts
  exact guarded.moves moves

omit [DecidableEq Pid] in
/-- The locks of the process's lock file change: those of the others stay. -/
theorem setLocks_files {locks : LockState Pid Pid}
    (others : ∀ other ≠ pid, locks.files other = (state.lockOf pid).files other) :
    ∀ other ≠ pid, ∀ name,
      ((state.setLocks pid locks).locks name).files other = (state.locks name).files other := by
  intro other different name
  simp only [setLocks]
  by_cases own : name = state.lockName pid
  · rw [own, Function.update_self, others other different, lockOf]
  · rw [Function.update_of_ne own]

omit [DecidableEq Pid] in
theorem setLocks_safe (guarded : state.Guarded system) {locks : LockState Pid Pid}
    (safe : LockState.Safe id locks) (name : List Char) :
    LockState.Safe id ((state.setLocks pid locks).locks name) := by
  simp only [setLocks]
  by_cases own : name = state.lockName pid
  · rw [own, Function.update_self]
    exact safe
  · rw [Function.update_of_ne own]
    exact guarded.safe name

/-- A process goes on with its lock file changed. -/
theorem Guarded.relocks (guarded : state.Guarded system) {locks : LockState Pid Pid}
    (safe : LockState.Safe id locks)
    (others : ∀ other ≠ pid, locks.files other = (state.lockOf pid).files other)
    (started : now ≠ .unstarted)
    (fresh : now.Fresh → locks.files pid = .constructed)
    (holds : now.PastGuard → (locks.files pid).lockMode = .writeLock)
    (free : ¬ now.PastGuard → (locks.files pid).lockMode = .noLock)
    (notStarts : ¬ (now = .spawning ∨ now = .connecting .start)) :
    ((state.goTo pid now).setLocks pid locks).Guarded system := by
  have own : ((state.goTo pid now).setLocks pid locks).lockOf pid = locks :=
    Function.update_self _ _ _
  have moves : Moves system state ((state.goTo pid now).setLocks pid locks) pid now := by
    refine ⟨rfl, started, fun _ _ => rfl, fun _ _ => rfl, rfl, ?_, ?_, ?_, ?_, ?_, ?_, ?_, ?_⟩
    · exact setLocks_safe guarded safe
    · exact setLocks_files others
    · intro name elsewhere
      have other : name ≠ state.lockName pid := elsewhere
      have same : ((state.goTo pid now).setLocks pid locks).locks name = state.locks name :=
        Function.update_of_ne other _ _
      rw [same]
      exact guarded.elsewhere pid name other
    · rw [own]
      exact fresh
    · rw [own]
      exact holds
    · rw [own]
      exact free
    · exact fun starts => absurd starts notStarts
    · exact fun _ member => Or.inl member
  exact guarded.moves moves

/-- The process ends. -/
theorem Guarded.ends (guarded : state.Guarded system) (pid : Pid) :
    (state.endProcess pid).Guarded system := by
  have file : ((state.lockOf pid).step id (.exit pid)).files pid = .constructed := by
    simp only [LockState.step, id_eq, ↓reduceIte]
  have exits : (state.lockOf pid).Enabled id (.exit pid) := trivial
  refine guarded.relocks ?_ ?_ ProgramPc.noConfusion (fun _ => file) (fun no => no.elim) ?_ ?_
  · exact (guarded.safe (state.lockName pid)).step Function.injective_id exits
  · intro other different
    simp only [LockState.step, id_eq, different, ↓reduceIte]
  · intro _
    rw [file]
    rfl
  · intro no
    rcases no with no | no <;> cases no

/-- A process is launched by the user. -/
theorem Guarded.launches (guarded : state.Guarded system) (unstarted : state.pc pid = .unstarted)
    (args : List (List Char)) (origin : PeerOrigin) :
    (state.step system (.launch pid args origin)).Guarded system := by
  have fresh : (state.pc pid).Fresh := by
    rw [unstarted]
    trivial
  have unused := guarded.constructed fresh
  have kept : ∀ other, state.pc other ≠ .unstarted ∨ other ≠ pid → other ≠ pid := by
    rintro other started rfl
    exact started.elim (fun started => started unstarted) (fun different => different rfl)
  have moves : Moves system state (state.step system (.launch pid args origin)) pid
      .starting := by
    refine ⟨rfl, ProgramPc.noConfusion, fun other started => ?_, fun other started => ?_, rfl,
      guarded.safe, fun _ _ _ => rfl, fun name _ => unused name, fun _ => unused _,
      fun no => no.elim, fun _ => ?_, fun no => ?_, fun _ member => Or.inl member⟩
    · exact Function.update_of_ne (kept other started) _ _
    · exact Function.update_of_ne (kept other started) _ _
    · exact congrArg QtLockedFile.lockMode (unused _)
    · rcases no with no | no <;> cases no
  exact guarded.moves moves

/-- A process asks whether another instance runs: it gets past the guard with the lock. -/
theorem Guarded.asks (guarded : state.Guarded system) (starting : state.pc pid = .starting)
    {opens ok : Bool}
    (grants : opens = true → ok = true → Grants (state.lockOf pid).locks pid .exclusive) :
    (state.step system (.isRunning pid opens ok)).Guarded system := by
  have fresh := guarded.fresh pid (by rw [starting]; trivial)
  obtain ⟨answer, lockMode, others⟩ := files_lockEvents fresh opens ok
  have safe := safe_lockEvents (guarded.safe (state.lockName pid)) fresh grants
  simp only [ProgramState.step, answer]
  cases granted : opens && ok with
  | true =>
      simp only [granted, ↓reduceIte] at lockMode ⊢
      refine guarded.relocks safe others ProgramPc.noConfusion (fun no => no.elim)
        (fun _ => lockMode) (fun notPast => absurd trivial notPast) fun no => ?_
      rcases no with no | no <;> cases no
  | false =>
      simp only [granted, Option.some.injEq, Bool.false_eq_true, ↓reduceIte] at lockMode ⊢
      refine guarded.relocks safe others ProgramPc.noConfusion (fun no => no.elim)
        (fun past => past.elim) (fun _ => lockMode) fun no => ?_
      rcases no with no | no <;> cases no

/-- A process does what its arguments say. -/
theorem Guarded.execs (guarded : state.Guarded system) (exec : state.pc pid = .exec) (ok : Bool) :
    (state.execStep system pid ok).Guarded system := by
  have past : (state.pc pid).PastGuard := by
    rw [exec]
    trivial
  have stays : ∀ (next : ProgramState Pid) (now : ProgramPc), now.PastGuard →
      ¬ (now = .spawning ∨ now = .connecting .start) →
      next.pc = Function.update state.pc pid now → next.args = state.args →
      next.origin = state.origin → next.serviceRun = state.serviceRun →
      next.locks = state.locks → next.delivered = state.delivered → next.Guarded system := by
    intro next now pastNow notStarting pc args origin serviceRun locks delivered
    refine guarded.stays pid now past pastNow pc args origin serviceRun locks
      (fun entry member => Or.inl ?_) fun starts => absurd starts notStarting
    rwa [delivered] at member
  have leaves : ∀ (code : Int) (installed : Option (List Char)),
      ({ state.goTo pid (.leaving code) with installed := installed }).Guarded system :=
    fun code installed => stays _ (.leaving code) trivial (by simp) rfl rfl rfl rfl rfl rfl
  have connects : ∀ action : ExecAction, action ≠ .start →
      (state.goTo pid (.connecting action)).Guarded system := by
    intro action notStart
    refine stays _ (.connecting action) trivial ?_ rfl rfl rfl rfl rfl rfl
    simpa only [reduceCtorEq, ProgramPc.connecting.injEq, false_or] using notStart
  unfold execStep
  cases action : execAction system.spaces (state.args pid) (state.serviceRun pid) with
  | install account password =>
      dsimp only
      split_ifs
      · exact leaves 0 state.installed
      · exact leaves 0 (some (system.filePath (state.args pid)))
      · exact leaves (-1) state.installed
  | uninstall =>
      dsimp only
      split_ifs
      · exact leaves 0 state.installed
      · exact leaves 0 none
      · exact leaves (-1) state.installed
  | version => exact connects .version ExecAction.noConfusion
  | runApplication =>
      exact stays _ (.running false false) trivial (by simp) rfl rfl rfl rfl rfl rfl
  | sendCmd cmd => exact connects (.sendCmd cmd) ExecAction.noConfusion
  | help => exact leaves 0 state.installed
  | runService => exact stays _ (.running true ok) trivial (by simp) rfl rfl rfl rfl rfl rfl
  | start =>
      exact guarded.stays pid (.connecting .start) past trivial rfl rfl rfl rfl rfl
        (fun _ member => Or.inl member) fun _ => execAction_start action

/-- A connection reaches no service with the lock file of its process. -/
theorem Guarded.connects (guarded : state.Guarded system) {action : ExecAction}
    (connecting : state.pc pid = .connecting action) (reply : List Char) :
    (state.connectStep system pid action reply).Guarded system := by
  have past : (state.pc pid).PastGuard := by
    rw [connecting]
    trivial
  have delivered : ∀ entry ∈ (state.connectStep system pid action reply).delivered,
      entry ∈ state.delivered ∨ state.Apart entry.1 entry.2.1 := by
    intro entry member
    rcases List.mem_append.mp member with before | sent
    · exact Or.inl before
    · right
      split at sent
      · rename_i service line reached _
        obtain rfl := List.mem_singleton.mp sent
        exact guarded.listener_apart connecting reached
      · exact absurd sent List.not_mem_nil
  have starts : action = .start →
      serviceSpecific system.spaces (state.args pid).tail = none ∧ state.serviceRun pid = false :=
    fun start => guarded.starts pid (Or.inr (start ▸ connecting))
  by_cases start : action = .start
  · by_cases alive : WatchDog.sendCmd (state.listener system pid).isSome reply = true
    · refine guarded.stays pid (.leaving (-4)) past trivial ?_ rfl rfl rfl rfl delivered
        fun no => ?_
      · simp only [connectStep, goTo, start, alive, ↓reduceIte]
      · rcases no with no | no <;> cases no
    · refine guarded.stays pid .spawning past trivial ?_ rfl rfl rfl rfl delivered
        fun _ => starts start
      simp only [connectStep, goTo, start, alive, ↓reduceIte, Bool.false_eq_true]
  · refine guarded.stays pid (.leaving 0) past trivial ?_ rfl rfl rfl rfl delivered fun no => ?_
    · simp only [connectStep, goTo, start, ↓reduceIte]
    · rcases no with no | no <;> cases no

/-- A process starts the program again, detached. -/
theorem Guarded.spawns (guarded : state.Guarded system) (spawning : state.pc pid = .spawning)
    {child : Pid} (unstarted : state.pc child = .unstarted) :
    (state.step system (.spawn pid (some child))).Guarded system := by
  obtain ⟨specific, attached⟩ := guarded.starts pid (Or.inl spawning)
  have apart : pid ≠ child := by
    rintro rfl
    rw [spawning] at unstarted
    cases unstarted
  have launched := guarded.launches unstarted
    (system.filePath (state.args pid) :: (state.args pid).tail) (state.childOrigin system pid)
  have others : ∀ other ≠ child,
      Function.update state.pc child .starting other = state.pc other ∧
        Function.update state.args child (system.filePath (state.args pid) ::
          (state.args pid).tail) other = state.args other ∧
        Function.update state.serviceRun child true other = state.serviceRun other ∧
        Function.update state.origin child (state.childOrigin system pid) other =
          state.origin other :=
    fun other different => ⟨Function.update_of_ne different _ _,
      Function.update_of_ne different _ _, Function.update_of_ne different _ _,
      Function.update_of_ne different _ _⟩
  have handed : ∀ starter ≠ child,
      childOrigin system (state.step system (.launch child
        (system.filePath (state.args pid) :: (state.args pid).tail)
        (state.childOrigin system pid))) starter = state.childOrigin system starter := by
    intro starter different
    obtain ⟨-, args, -, origin⟩ := others starter different
    exact childOrigin_congr origin args
  have withChild : ({ state.step system (.launch child
      (system.filePath (state.args pid) :: (state.args pid).tail)
      (state.childOrigin system pid)) with
        serviceRun := Function.update state.serviceRun child true } :
          ProgramState Pid).Guarded system := by
    refine ⟨launched.safe, launched.elsewhere, launched.fresh, launched.holds, launched.free,
      fun other starts => ?_, fun other detached => ?_, fun other fresh => ?_, launched.delivered⟩
    · simp only [ProgramState.step, goTo] at starts ⊢
      rcases eq_or_ne other child with rfl | different
      · rw [Function.update_self] at starts
        rcases starts with no | no <;> cases no
      · obtain ⟨pc, args, serviceRun, -⟩ := others other different
        rw [pc] at starts
        rw [args, serviceRun]
        exact guarded.starts other starts
    · rcases eq_or_ne other child with rfl | different
      · obtain ⟨pc, args, serviceRun, -⟩ := others pid apart
        simp only [ProgramState.step, goTo, Function.update_self, List.tail_cons]
        refine ⟨specific, pid, ?_, serviceRun.trans attached, by rw [args], ?_⟩
        · rw [pc, spawning]
          exact ProgramPc.noConfusion
        · exact (handed pid apart).symm
      · obtain ⟨pc, args, serviceRun, origin⟩ := others other different
        simp only [serviceRun] at detached
        obtain ⟨specific, starter, started, attached, tail, handedOn⟩ :=
          guarded.detached other detached
        have notChild : starter ≠ child := by
          rintro rfl
          exact started unstarted
        obtain ⟨starterPc, starterArgs, starterRun, -⟩ := others starter notChild
        simp only [ProgramState.step, goTo, args, origin]
        refine ⟨specific, starter, ?_, starterRun.trans attached, by rw [starterArgs]; exact tail,
          handedOn.trans (handed starter notChild).symm⟩
        rw [starterPc]
        exact started
    · simp only [ProgramState.step, goTo] at fresh ⊢
      rcases eq_or_ne other child with rfl | different
      · rw [Function.update_self] at fresh
        cases fresh
      · obtain ⟨pc, -, serviceRun, -⟩ := others other different
        rw [pc] at fresh
        rw [serviceRun]
        exact guarded.attached other fresh
  refine withChild.stays pid (.leaving 0) ?_ trivial rfl rfl rfl rfl rfl
    (fun _ member => Or.inl member) fun no => ?_
  · simp only [ProgramState.step, goTo, Function.update_of_ne apart, spawning]
    trivial
  · rcases no with no | no <;> cases no

theorem Guarded.step (guarded : state.Guarded system) {event : ProgramEvent Pid}
    (enabled : state.Enabled event) : (state.step system event).Guarded system := by
  cases event with
  | launch pid args origin => exact guarded.launches enabled args origin
  | isRunning pid opens ok => exact guarded.asks enabled.1 enabled.2
  | exec pid ok => exact guarded.execs enabled ok
  | connect pid reply =>
      obtain ⟨action, connecting⟩ := enabled
      simp only [ProgramState.step, connecting]
      exact guarded.connects connecting reply
  | spawn pid child =>
      cases child with
      | none =>
          have spawning : state.pc pid = .spawning := enabled
          refine guarded.stays pid (.leaving (-4)) (by rw [spawning]; trivial) trivial rfl rfl rfl
            rfl rfl (fun _ member => Or.inl member) fun no => ?_
          rcases no with no | no <;> cases no
      | some child => exact guarded.spawns enabled.1 enabled.2
  | quit pid code =>
      obtain ⟨asService, listens, running⟩ := enabled
      have past : (state.pc pid).PastGuard := by
        rw [running]
        trivial
      simp only [ProgramState.step]
      split
      all_goals
        refine guarded.stays pid (.leaving code) past trivial rfl rfl rfl rfl rfl
          (fun _ member => Or.inl member) fun no => ?_
        rcases no with no | no <;> cases no
  | leave pid => exact guarded.ends pid
  | kill pid => exact guarded.ends pid

end ProgramState

/-! ### Runs -/

variable {Pid : Type*} [DecidableEq Pid] {system : UnixSystem} {events : List (ProgramEvent Pid)}

theorem guarded_run (legal : Always (ProgramState.step system) ProgramState.Enabled
    (@ProgramState.initial Pid) events) :
    (run (ProgramState.step system) .initial events).Guarded system :=
  invariant_run (fun _ _ guarded enabled => guarded.step enabled)
    (ProgramState.guarded_initial system) legal

/-- **No instance reaches a service that shares its lock file.** However instances of the
program are launched from any files by any users, interleaved and killed, and whatever their
arguments are, at most one with each lock file is past `isRunning`, so that one that connects
finds no service with its lock file, and every command delivered to a service comes from a
process with another one. -/
theorem instances_reach_no_service (legal : Always (ProgramState.step system)
    ProgramState.Enabled (@ProgramState.initial Pid) events) :
    let state := run (ProgramState.step system) .initial events
    (∀ pid other, state.lockName pid = state.lockName other → (state.pc pid).PastGuard →
      (state.pc other).PastGuard → pid = other) ∧
      (∀ pid action service, state.pc pid = .connecting action →
        state.listener system pid = some service →
          state.lockName service ≠ state.lockName pid) ∧
      ∀ pid service line, (pid, service, line) ∈ state.delivered →
        state.lockName service ≠ state.lockName pid := by
  intro state
  have guarded : state.Guarded system := guarded_run legal
  refine ⟨fun _ _ sameLock past pastToo => guarded.unique sameLock past pastToo, ?_, ?_⟩
  · intro pid action service connecting reached
    exact (guarded.listener_apart connecting reached).2.2.symm
  · intro pid service line member
    exact (guarded.delivered _ member).2.2.symm

/-- The arguments name the file of the program by its path, and every user is called so. -/
def plainSystem : UnixSystem where
  spaces := .ascii
  filePath := fun args => args.headD []
  executable := id
  login := fun _ => "user".toList

/-- A start: the starter finds no service, starts the detached process and returns, and then
the detached process asks. -/
def startRun : List (ProgramEvent (Fin 3)) :=
  [.launch 0 ["/opt/a/wd".toList] ⟨"/opt/a/wd".toList, "/tmp".toList, 501⟩,
    .isRunning 0 true true, .exec 0 true, .connect 0 [], .spawn 0 (some 1), .leave 0]

/-- A copy of the program then tells the service to terminate. -/
def copyRun : List (ProgramEvent (Fin 3)) :=
  startRun ++ [.isRunning 1 true true, .exec 1 true,
    .launch 2 ["/opt/b/wd".toList, "-t".toList] ⟨"/opt/b/wd".toList, "/tmp".toList, 501⟩,
    .isRunning 2 true true, .exec 2 true, .connect 2 "true".toList]

theorem instances_reach_no_service_copy :
    let state := run (ProgramState.step plainSystem) .initial copyRun
    state.delivered = [(2, 1, "terminate".toList)] ∧ state.lockName 1 ≠ state.lockName 2 := by
  intro state
  have delivered : state.delivered = [(2, 1, "terminate".toList)] := by decide +kernel
  obtain ⟨-, -, apart⟩ := @instances_reach_no_service (Fin 3) _ plainSystem copyRun
    (by decide +kernel)
  exact ⟨delivered, apart 2 1 "terminate".toList (delivered ▸ List.mem_cons_self)⟩

end WatchDog
