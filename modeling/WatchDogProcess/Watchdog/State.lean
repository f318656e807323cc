import WatchDogProcess.Watchdog.JsonFile
import WatchDogProcess.Watchdog.WhiteList
import WatchDogProcess.Foundation.Stopwatch

/-! # The state of the watchdog and what its slots ask for

A slot of `ProctoringWatchDog` runs to completion on the event loop. It changes
the fields of the object and asks for effects outside it: single-shot timers, a
rewrite of the status file, quitting. `WatchDog.Handled` is the state a slot
leaves together with its effects in order, and `WatchDog.Handled.andThen` runs
one part of a slot after another.

`appLaunchRetryCountre` is a signed `int` in the source, whose overflow is
undefined behaviour; here it is unbounded, so a run models the source as long as
fewer than 2^31 reports raise it in a row. `counter` is reset at seven.
-/

namespace WatchDog

/-- The branches of the conditionally compiled code. -/
inductive Platform where
  | windows
  | macOS
  deriving DecidableEq, Repr

/-! ### The waiting screen -/

/-- The full-screen cover: whether it is shown, and the text of its label. -/
structure WaitingScreen where
  visible : Bool
  label : String
  isSceenCoverReq : Bool
  deriving DecidableEq, Repr

namespace WaitingScreen

/-- A new screen is hidden and carries the label of its form. -/
def construct : WaitingScreen where
  visible := false
  label := "Please wait while we start RemoteDesk for you"
  isSceenCoverReq := false

def showPAge (screen : WaitingScreen) : WaitingScreen :=
  { screen with label := " Please wait while we start RemoteDesk for you", visible := true }

def supportLink : String := "<a href=\"https://www.remotedesk.com/support/\">"

/-- Only the label changes: the window is not shown here. -/
def showErrorPage (message : String) (screen : WaitingScreen) : WaitingScreen :=
  { screen with label := message ++ (supportLink ++ " contact support.</a>") }

def hide (screen : WaitingScreen) : WaitingScreen := { screen with visible := false }

end WaitingScreen

/-! ### The watchdog object -/

/-- The fields of `ProctoringWatchDog` that its slots use. `waitForAppToLaunch`
is the real time at which the stopwatch was last started. -/
structure ProctoringWatchDog where
  counter : Nat
  isFirst : Bool
  appLaunchRetryCountre : Nat
  waitForAppToLaunch : Nat
  timer : Nat
  step : String
  appDataPath : String
  appRunningPath : String
  threadStatusPath : String
  whiteListedTabs : List String
  isAnyStepWatchdog : Bool
  isSceenCoverReq : Bool
  visible : Bool
  waitingSceen : WaitingScreen
  deriving DecidableEq, Repr

/-- The reads of the history file made by the constructor. -/
structure ConstructorReads where
  whiteListedTabs : ReadOutcome
  launchInAllConditions : ReadOutcome
  sceenCoverRequired : ReadOutcome

/-- The constructor. `timer` and `waiting_sceen` are not initialised in it; the
first is written before it is read, and the second is created before any report
is connected. -/
def ProctoringWatchDog.construct (now : Nat) (reads : ConstructorReads) : ProctoringWatchDog where
  counter := 0
  isFirst := true
  appLaunchRetryCountre := 0
  waitForAppToLaunch := now
  timer := 0
  step := ""
  appDataPath := ""
  appRunningPath := ""
  threadStatusPath := ""
  whiteListedTabs := WatchDog.whiteListedTabs (getWhiteListedTabForWD reads.whiteListedTabs)
  isAnyStepWatchdog := getisAnyStepWatchdog reads.launchInAllConditions
  isSceenCoverReq := getisSceenCoverReq reads.sceenCoverRequired
  visible := false
  waitingSceen := WaitingScreen.construct

/-! ### Effects -/

/-- The slots that single-shot timers call. -/
inductive TimedSlot where
  | killProctortrackIfNotResponding
  | launchApp
  deriving DecidableEq, Repr

/-- What a slot does besides changing its object, calls of other slots included. -/
inductive Effect where
  | processRecordingThread
  | restartProctortrack
  | singleShot (delay : Nat) (slot : TimedSlot)
  | rewriteStatus (path : String) (object : QJsonObject)
  | showPAge (retry : Nat)
  | showErrorPage (message : String)
  | quitWatchDog

namespace Effect

def isCheck : Effect → Bool
  | processRecordingThread => true
  | _ => false

def isRestart : Effect → Bool
  | restartProctortrack => true
  | _ => false

def isSchedule : Effect → Bool
  | singleShot _ _ => true
  | _ => false

def isRewrite : Effect → Bool
  | rewriteStatus _ _ => true
  | _ => false

def isPage : Effect → Bool
  | showPAge _ => true
  | _ => false

def isErrorPage : Effect → Bool
  | showErrorPage _ => true
  | _ => false

def isQuit : Effect → Bool
  | quitWatchDog => true
  | _ => false

end Effect

/-- The state a slot leaves and its effects in order. -/
structure Handled where
  watchdog : ProctoringWatchDog
  effects : List Effect

namespace Handled

/-- No effect. -/
def pure (watchdog : ProctoringWatchDog) : Handled := ⟨watchdog, []⟩

/-- Run the rest of a slot. -/
def andThen (first : Handled) (rest : ProctoringWatchDog → Handled) : Handled :=
  ⟨(rest first.watchdog).watchdog, first.effects ++ (rest first.watchdog).effects⟩

/-- Whether an effect of some kind was asked for. -/
def does (handled : Handled) (kind : Effect → Bool) : Bool := handled.effects.any kind

@[simp] theorem pure_watchdog (watchdog : ProctoringWatchDog) :
    (pure watchdog).watchdog = watchdog := rfl

@[simp] theorem pure_effects (watchdog : ProctoringWatchDog) : (pure watchdog).effects = [] := rfl

@[simp] theorem pure_does (watchdog : ProctoringWatchDog) (kind : Effect → Bool) :
    (pure watchdog).does kind = false := rfl

@[simp] theorem andThen_watchdog (first : Handled) (rest : ProctoringWatchDog → Handled) :
    (first.andThen rest).watchdog = (rest first.watchdog).watchdog := rfl

@[simp] theorem andThen_effects (first : Handled) (rest : ProctoringWatchDog → Handled) :
    (first.andThen rest).effects = first.effects ++ (rest first.watchdog).effects := rfl

@[simp] theorem andThen_does (first : Handled) (rest : ProctoringWatchDog → Handled)
    (kind : Effect → Bool) :
    (first.andThen rest).does kind = (first.does kind || (rest first.watchdog).does kind) :=
  List.any_append

end Handled

end WatchDog
