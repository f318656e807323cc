import WatchDogProcess.Monitor.Watch
import WatchDogProcess.Watchdog.Absence

/-! # The cover and the absence of the application

Until the watchdog quits, the retry counter is the number of covered reports of
the current absence, and the screen is a function of it: hidden at zero, the
please-wait text up to five, the error text beyond (`WatchDog.CoverTracks`).
`showErrorPage` does not show the window; it is reached only past five covered
reports, when `ShowPAge` has shown it (`WatchDog.cover_tracks_absence`).
-/

namespace WatchDog

open KeyedRecord EventRun

/-- The label that `ShowPAge` sets. -/
def waitText : String := " Please wait while we start RemoteDesk for you"

/-- The label that `showErrorPage` sets when the retries are exhausted. -/
def errorText : String :=
  unableToStart ++ (WaitingScreen.supportLink ++ " contact support.</a>")

/-- The screen shows what an absence with this many covered reports calls for. -/
structure CoverTracks (absences : Nat) (screen : WaitingScreen) : Prop where
  visible : screen.visible = true ↔ 0 < absences
  label : 0 < absences → screen.label = if 5 < absences then errorText else waitText

namespace CoverTracks

variable {absences : Nat} {screen : WaitingScreen}

/-- A hidden screen calls for nothing. -/
theorem hide (screen : WaitingScreen) : CoverTracks 0 screen.hide where
  visible := by simp only [WaitingScreen.hide, Bool.false_eq_true, Nat.lt_irrefl]
  label := fun positive => absurd positive (Nat.lt_irrefl 0)

theorem showPAge (screen : WaitingScreen) (few : absences < 5) :
    CoverTracks (absences + 1) screen.showPAge where
  visible := by simp only [WaitingScreen.showPAge, Nat.zero_lt_succ]
  label := by
    intro _
    have within : ¬ 5 < absences + 1 := by omega
    simp only [WaitingScreen.showPAge, within, ↓reduceIte, waitText]

/-- The error page relies on the window being shown already. -/
theorem showErrorPage (tracks : CoverTracks absences screen) (spent : 5 ≤ absences) :
    CoverTracks (absences + 1) (screen.showErrorPage unableToStart) where
  visible := by
    have shown : screen.visible = true := tracks.visible.mpr (by omega)
    simp only [WaitingScreen.showErrorPage, shown, Nat.zero_lt_succ]
  label := by
    intro _
    have beyond : 5 < absences + 1 := by omega
    simp only [WaitingScreen.showErrorPage, beyond, ↓reduceIte, errorText]

theorem error_iff (tracks : CoverTracks absences screen) :
    screen.visible = true ∧ screen.label = errorText ↔ 5 < absences := by
  rw [tracks.visible]
  constructor
  · rintro ⟨positive, text⟩
    by_contra few
    rw [tracks.label positive, if_neg few] at text
    exact absurd text (by decide)
  · intro beyond
    have positive : 0 < absences := by omega
    exact ⟨positive, by rw [tracks.label positive, if_pos beyond]⟩

theorem wait_iff (tracks : CoverTracks absences screen) :
    screen.visible = true ∧ screen.label = waitText ↔ 1 ≤ absences ∧ absences ≤ 5 := by
  rw [tracks.visible]
  constructor
  · rintro ⟨positive, text⟩
    refine ⟨positive, ?_⟩
    by_contra many
    rw [tracks.label positive, if_pos (by omega)] at text
    exact absurd text (by decide)
  · rintro ⟨positive, few⟩
    exact ⟨positive, by rw [tracks.label positive, if_neg (by omega)]⟩

end CoverTracks

variable (platform : Platform)

/-- One report that does not quit keeps the screen in step. -/
theorem coverTracks_step {watchdog : ProctoringWatchDog} {reports : List Report} {report : Report}
    (tracks : CoverTracks (coveredAbsences reports) watchdog.waitingSceen)
    (retries : watchdog.appLaunchRetryCountre = coveredAbsences reports)
    (goesOn : ¬ Quits platform watchdog report) :
    CoverTracks (coveredAbsences (reports ++ [report]))
      (reportStep platform watchdog report).waitingSceen := by
  rw [reportStep_screen, retries]
  cases found : report.isRunning with
  | true =>
      rw [coveredAbsences_concat_of_running reports found]
      exact .hide _
  | false =>
      have keeps := (not_quits_iff platform).mp goesOn found
      rw [coveredAbsences_concat_of_missing reports found]
      simp only [Bool.false_eq_true, ↓reduceIte, keeps]
      by_cases covers : Covers report
      · simp only [covers, ↓reduceIte]
        split
        · next spent => exact tracks.showErrorPage spent
        · next few => exact .showPAge _ (Nat.lt_of_not_le few)
      · simp only [covers, ↓reduceIte]
        exact tracks

/-- The screen is in step after every run without a quit. -/
theorem coverTracks_run {start : ProctoringWatchDog} (fresh : start.appLaunchRetryCountre = 0)
    (hidden : start.waitingSceen.visible = false) {reports : List Report}
    (goesOn : Always (reportStep platform) (fun watchdog report => ¬ Quits platform watchdog report)
      start reports) :
    CoverTracks (coveredAbsences reports) (runReports platform start reports).waitingSceen := by
  induction reports using List.reverseRecOn with
  | nil =>
      refine ⟨?_, fun positive => absurd positive (Nat.lt_irrefl 0)⟩
      simp only [runReports, run_nil, hidden, Bool.false_eq_true, coveredAbsences_nil,
        Nat.lt_irrefl]
  | append_singleton reports report ih =>
      obtain ⟨earlier, last⟩ := (always_append ..).mp goesOn
      rw [runReports, run_concat]
      exact coverTracks_step platform (ih earlier)
        (retries_eq_coveredAbsences platform fresh earlier) last.1

/-- **The cover tracks the absence.** In every run of reports without a quit, the
retry counter is the number of covered reports of the current absence; the
screen is visible exactly when that number is positive, with the error text
exactly when it exceeds five and with the please-wait text exactly from one to
five; it is hidden after a report that finds the application running; and the
error page is only ever put on a visible screen. -/
theorem cover_tracks_absence (platform : Platform) (began : Nat) (initial : ConstructorReads)
    (threadReads : ThreadReads) (reports : List Report)
    (goesOn : Always (reportStep platform) (fun watchdog report => ¬ Quits platform watchdog report)
      (checkRunningApplication threadReads (.construct began initial)).1 reports) :
    let start := (checkRunningApplication threadReads (.construct began initial)).1
    let watchdog := runReports platform start reports
    let screen := watchdog.waitingSceen
    let absences := coveredAbsences reports
    watchdog.appLaunchRetryCountre = absences ∧
      (screen.visible = true ↔ 0 < absences) ∧
      (screen.visible = true ∧ screen.label = errorText ↔ 5 < absences) ∧
      (screen.visible = true ∧ screen.label = waitText ↔ 1 ≤ absences ∧ absences ≤ 5) ∧
      (∀ last ∈ reports.getLast?, last.isRunning = true → screen.visible = false) ∧
      Always (reportStep platform) (fun watchdog report =>
        (onAppCrash platform report watchdog).does Effect.isErrorPage = true →
          watchdog.waitingSceen.visible = true) start reports := by
  intro start watchdog screen absences
  have tracks : CoverTracks absences screen := coverTracks_run platform rfl rfl goesOn
  have retries : watchdog.appLaunchRetryCountre = absences :=
    retries_eq_coveredAbsences platform rfl goesOn
  refine ⟨retries, tracks.visible, tracks.error_iff, tracks.wait_iff, ?_, ?_⟩
  · intro last isLast running
    obtain ⟨earlier, split⟩ := List.getLast?_eq_some_iff.mp isLast
    have none : absences = 0 := by
      change coveredAbsences reports = 0
      rw [split, coveredAbsences_concat_of_running earlier running]
    rw [Bool.eq_false_iff, ne_eq, tracks.visible, none]
    exact Nat.lt_irrefl 0
  · rw [always_iff_split]
    intro before report after split shown
    rw [split, always_append] at goesOn
    have tracksBefore := coverTracks_run platform rfl rfl goesOn.1
    rw [tracksBefore.visible, ← retries_eq_coveredAbsences platform rfl goesOn.1]
    rw [onAppCrash_errorPage, decide_eq_true_eq] at shown
    have spent := shown.2.2.2
    change 0 < (run (reportStep platform) start before).appLaunchRetryCountre
    omega

/-- A first minute without the application and one more report: six covered
reports, and the error text on a visible screen. -/
theorem cover_tracks_absence_firstMinute :
    let start := (checkRunningApplication ⟨.missing, .missing, .missing, .missing⟩
      (.construct 0 ⟨.missing, .missing, .missing⟩)).1
    let screen := (runReports .windows start (firstMinute ++ [downAt 60000])).waitingSceen
    screen.visible = true ∧ screen.label = errorText :=
  (cover_tracks_absence .windows 0 ⟨.missing, .missing, .missing⟩
    ⟨.missing, .missing, .missing, .missing⟩ (firstMinute ++ [downAt 60000])
    (by decide)).2.2.1.mpr (by decide)

end WatchDog
