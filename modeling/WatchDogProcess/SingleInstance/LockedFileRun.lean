import WatchDogProcess.Foundation.EventRun
import WatchDogProcess.SingleInstance.LockedFileClaims

/-! # Locked files running together

The objects of several threads that lock one file, together with its mutexes. A
thread may start a call, get the reply of a system call, or end with its process, without
running any destructor, in any order. System calls may fail, but a wait succeeds only on
free mutexes, and `OpenMutex` only on one that exists (`Enabled`).

Along a run the claims of the files stay in step with the mutexes
(`LockState.inStep_run`).
-/

namespace WatchDog.Windows

open NamedMutexes EventRun

/-- What a program asks of a file. -/
inductive LockRequest where
  | openFile
  | lock (mode : LockMode) (block : Bool)
  | unlock
  | destroy
  deriving DecidableEq, Repr

inductive LockEvent (Holder Thread : Type*) where
  | request (holder : Holder) (request : LockRequest)
  | reply (holder : Holder) (reply : Reply)
  | crash (thread : Thread)

structure LockState (Holder Thread : Type*) where
  mutexes : NamedMutexes MutexName Thread Holder
  files : Holder → LockedFile

/-- `OpenMutex`, which unlike `CreateMutex` finds only a mutex that exists: the name it
asks for. -/
def QtLockedFile.opensExisting (file : QtLockedFile) : Option MutexName :=
  match file.pc with
  | .openRead idx => some (.reader idx)
  | .openAll idx _ => some (.reader idx)
  | _ => none

/-- The reader's mutex that a writer is about to collect. -/
def QtLockedFile.collects (file : QtLockedFile) : Option MutexName :=
  match file.pc with
  | .openAll idx _ => some (.reader idx)
  | _ => none

/-- The wait whose result may not be recognised. -/
def QtLockedFile.waitsForAll (file : QtLockedFile) : Bool :=
  match file.pc with
  | .waitAll _ => true
  | _ => false

def LockedFile.begin (locked : LockedFile) (idle : locked.file.pc = .idle) :
    LockRequest → LockedFile
  | .openFile => locked.opened idle
  | .lock mode block => locked.lock idle mode block
  | .unlock => locked.unlock idle
  | .destroy => locked.destroy idle

variable {Holder Thread : Type*}

namespace LockState

/-- No file is used, and no mutex exists. -/
def initial : LockState Holder Thread := ⟨.empty, fun _ => .constructed⟩

/-- The claims of the files are in step with the mutexes. -/
def InStep (threadOf : Holder → Thread) (state : LockState Holder Thread) : Prop :=
  Accounts threadOf (fun holder => (state.files holder).claims) state.mutexes

theorem inStep_initial (threadOf : Holder → Thread) :
    InStep threadOf (initial : LockState Holder Thread) := by
  unfold InStep initial
  simp only [LockedFile.claims_constructed]
  exact accounts_empty

variable [DecidableEq Holder]

theorem claims_update (files : Holder → LockedFile) (holder : Holder) (file : LockedFile) :
    (fun other => (Function.update files holder file other).claims) =
      Function.update (fun other => (files other).claims) holder file.claims := by
  funext other
  exact Function.apply_update (fun _ => LockedFile.claims) files holder file other

theorem inStep_begin {threadOf : Holder → Thread}
    {state : LockState Holder Thread} (inStep : InStep threadOf state) {holder : Holder}
    (idle : (state.files holder).file.pc = .idle) (request : LockRequest) :
    Accounts threadOf (fun other => (Function.update state.files holder
      ((state.files holder).begin idle request) other).claims) state.mutexes := by
  rw [claims_update]
  refine inStep.weaken (LockedFile.weaken_claims ?_)
  cases request with
  | openFile => exact QtLockedFile.weaken_opened idle
  | lock mode block => exact QtLockedFile.weaken_lock idle mode block
  | unlock => exact QtLockedFile.weaken_unlock idle
  | destroy => exact QtLockedFile.weaken_destroy idle (state.files holder).openedBeforeUse

variable [DecidableEq Thread]

def step (threadOf : Holder → Thread) (state : LockState Holder Thread) :
    LockEvent Holder Thread → LockState Holder Thread
  | .request holder request =>
      if idle : (state.files holder).file.pc = .idle then
        { state with
          files := Function.update state.files holder ((state.files holder).begin idle request) }
      else state
  | .reply holder reply => match (state.files holder).file.call with
    | none => state
    | some call =>
        { mutexes :=
            if reply = .refused then state.mutexes else state.mutexes.perform threadOf holder call
          files := Function.update state.files holder ((state.files holder).resume reply) }
  | .crash thread =>
      { mutexes := state.mutexes.endThread threadOf thread
        files := fun holder =>
          if threadOf holder = thread then .constructed else state.files holder }

/-- The replies that the system can give. -/
def Replies (threadOf : Holder → Thread) (state : LockState Holder Thread) (holder : Holder)
    (call : MutexCall MutexName) : Reply → Prop
  | .granted => state.mutexes.Grants (threadOf holder) call ∧
      ∀ name ∈ (state.files holder).file.opensExisting, state.mutexes.Exists name
  | .refused => call.fallible
  | .unrecognised => (state.files holder).file.waitsForAll ∧
      state.mutexes.Grants (threadOf holder) call

def Enabled (threadOf : Holder → Thread) (state : LockState Holder Thread) :
    LockEvent Holder Thread → Prop
  | .request holder _ => (state.files holder).file.pc = .idle
  | .reply holder reply =>
      ∃ call ∈ (state.files holder).file.call, state.Replies threadOf holder call reply
  | .crash _ => True

/-- A writer that asks for a reader's mutex finds it when it exists, whether or not a
reader still holds it: `OpenMutex` fails only for a name that nobody has a handle to. -/
def WriterFindsReaders (state : LockState Holder Thread) : LockEvent Holder Thread → Prop
  | .reply holder .refused =>
      ∀ name ∈ (state.files holder).file.collects, ¬ state.mutexes.Exists name
  | _ => True

instance (threadOf : Holder → Thread) (state : LockState Holder Thread) (holder : Holder)
    (call : MutexCall MutexName) :
    (reply : Reply) → Decidable (state.Replies threadOf holder call reply)
  | .granted => inferInstanceAs (Decidable (_ ∧ _))
  | .refused => inferInstanceAs (Decidable (call.fallible = true))
  | .unrecognised => inferInstanceAs (Decidable (_ ∧ _))

instance (threadOf : Holder → Thread) (state : LockState Holder Thread) :
    (event : LockEvent Holder Thread) → Decidable (state.Enabled threadOf event)
  | .request holder _ => inferInstanceAs (Decidable ((state.files holder).file.pc = .idle))
  | .reply _ _ => inferInstanceAs (Decidable (∃ call ∈ _, _))
  | .crash _ => .isTrue trivial

instance (state : LockState Holder Thread) :
    (event : LockEvent Holder Thread) → Decidable (state.WriterFindsReaders event)
  | .reply holder .refused => inferInstanceAs (Decidable
      (∀ name ∈ (state.files holder).file.collects, ¬ state.mutexes.Exists name))
  | .reply _ .granted | .reply _ .unrecognised | .request _ _ | .crash _ => .isTrue trivial

variable {threadOf : Holder → Thread} {state : LockState Holder Thread}

theorem inStep_reply (ownThreads : Function.Injective threadOf) (inStep : InStep threadOf state)
    {holder : Holder} {call : MutexCall MutexName} (calls : (state.files holder).file.call = some call)
    {reply : Reply} (replies : state.Replies threadOf holder call reply) :
    InStep threadOf (state.step threadOf (.reply holder reply)) := by
  have wellFormed := (state.files holder).wellFormed
  have performed : reply ≠ .refused → state.mutexes.Grants (threadOf holder) call →
      (reply = .granted ∨ reply = .unrecognised ∧ ∃ block, (state.files holder).file.pc =
        .waitAll block) → InStep threadOf (state.step threadOf (.reply holder reply)) := by
    intro notRefused grants recognised
    simp only [step, calls, notRefused, ↓reduceIte, InStep, claims_update]
    exact inStep.perform ownThreads
      (LockedFile.follow_claims (wellFormed.follow_resume calls recognised)) grants
  cases reply with
  | granted => exact performed (by simp) replies.1 (.inl rfl)
  | unrecognised =>
      refine performed (by simp) replies.2 (.inr ⟨rfl, ?_⟩)
      have waits := replies.1
      unfold QtLockedFile.waitsForAll at waits
      split at waits
      · rename_i block pc
        exact ⟨block, pc⟩
      · cases waits
  | refused =>
      simp only [step, calls, ↓reduceIte, InStep, claims_update]
      exact inStep.weaken (LockedFile.weaken_claims (wellFormed.weaken_resume calls replies))

/-- **Whatever a thread does, the claims of the files stay in step with the
mutexes.** -/
theorem inStep_step (ownThreads : Function.Injective threadOf) (inStep : InStep threadOf state)
    (event : LockEvent Holder Thread) (enabled : state.Enabled threadOf event) :
    InStep threadOf (state.step threadOf event) := by
  cases event with
  | request holder request =>
      have idle : (state.files holder).file.pc = .idle := enabled
      simp only [step, idle, ↓reduceDIte, InStep]
      exact inStep_begin inStep idle request
  | reply holder reply =>
      obtain ⟨call, calls, replies⟩ := enabled
      exact inStep_reply ownThreads inStep calls replies
  | crash thread =>
      unfold InStep step
      have claims : (fun holder => (if threadOf holder = thread then LockedFile.constructed
          else state.files holder).claims) = fun holder => if threadOf holder = thread
            then Claims.none else (state.files holder).claims := by
        funext holder
        split
        · exact LockedFile.claims_constructed
        · rfl
      rw [claims]
      exact inStep.endThread thread

theorem inStep_run (threadOf : Holder → Thread) (ownThreads : Function.Injective threadOf)
    {events : List (LockEvent Holder Thread)}
    (enabled : Always (step threadOf) (Enabled threadOf) initial events) :
    InStep threadOf (run (step threadOf) initial events) := by
  have kept : ∀ (state : LockState Holder Thread) event, InStep threadOf state →
      Enabled threadOf state event → InStep threadOf (state.step threadOf event) :=
    fun state event inStep legal => inStep_step ownThreads inStep event legal
  exact invariant_run kept (inStep_initial threadOf) enabled

end LockState

end WatchDog.Windows
