import WatchDogProcess.Watchdog.Absence
import WatchDogProcess.Watchdog.Scheduling

/-! # How many restarts lie behind the error page

The retry counter counts the covered reports of an absence. The first five of
them are attempts: each shows the cover and calls `RestartProctortrack`, which
schedules a kill and a launch only when its stopwatch has reached the threshold.
The error page therefore has exactly five attempts behind it, and five restarts
less the attempts that came too early (`WatchDog.error_page_attempts`). Reports
delivered back to back, and off Windows reports at their ordinary ten seconds,
show it after a single restart (`WatchDog.error_page_after_one_restart`).
-/

namespace WatchDog

open KeyedRecord EventRun

/-- A report that covers the screen and calls `RestartProctortrack`, by what it reads and
the retries before it; by its effects see `attempts_iff_effects`. -/
def Attempts (watchdog : ProctoringWatchDog) (report : Report) : Prop :=
  report.isRunning = false ∧ Keeps report (decidingStep report watchdog) ∧ Covers report ∧
    ¬ 5 ≤ watchdog.appLaunchRetryCountre

instance (watchdog : ProctoringWatchDog) (report : Report) :
    Decidable (Attempts watchdog report) :=
  inferInstanceAs (Decidable (_ ∧ _))

/-- Only an attempt shows the cover. -/
theorem attempts_of_page (platform : Platform) (watchdog : ProctoringWatchDog) (report : Report)
    (shows : (onAppCrash platform report watchdog).does Effect.isPage = true) :
    Attempts watchdog report := by
  rw [onAppCrash, Handled.andThen_does,
    countReport_does_of_not _ _ _ rfl (fun _ _ => rfl) rfl (fun _ _ => rfl), Bool.false_or] at shows
  cases running : report.isRunning with
  | true =>
      rw [running, if_pos rfl, appFound, Handled.pure_does] at shows
      exact absurd shows Bool.false_ne_true
  | false =>
      rw [running, if_neg Bool.false_ne_true] at shows
      obtain ⟨-, retries, -⟩ := countReport_frame platform report watchdog
      rcases appMissing_cases platform report (countReport platform report watchdog).watchdog with
        ⟨_, same⟩ | ⟨_, _, same⟩ | ⟨_, _, _, same⟩ | ⟨keeps, covers, spent, _⟩
      · rw [same] at shows
        exact absurd shows Bool.false_ne_true
      · rw [same, restartProctortrack_page] at shows
        exact absurd shows Bool.false_ne_true
      · rw [same] at shows
        exact absurd shows Bool.false_ne_true
      · rw [countReport_step] at keeps
        rw [retries] at spent
        exact ⟨running, keeps, covers, spent⟩

/-- A report is an attempt exactly when among its effects the cover is shown and
`RestartProctortrack` called right after it. -/
theorem attempts_iff_effects (platform : Platform) (watchdog : ProctoringWatchDog)
    (report : Report) :
    Attempts watchdog report ↔ ∃ earlier later, (onAppCrash platform report watchdog).effects =
      earlier ++ .showPAge (watchdog.appLaunchRetryCountre + 1) ::
        .restartProctortrack :: later := by
  constructor
  · rintro ⟨missing, keeps, covers, retries⟩
    obtain ⟨-, same, -⟩ := countReport_frame platform report watchdog
    rw [← countReport_step platform] at keeps
    rw [← same] at retries
    rcases appMissing_cases platform report (countReport platform report watchdog).watchdog with
      ⟨quits, _⟩ | ⟨_, uncovered, _⟩ | ⟨_, _, spent, _⟩ | ⟨_, _, _, attempt⟩
    · exact absurd keeps quits
    · exact absurd covers uncovered
    · exact absurd spent retries
    · rw [onAppCrash, Handled.andThen_effects, missing, if_neg Bool.false_ne_true, attempt,
        Handled.andThen_effects, restartProctortrack_effects, ← same]
      exact ⟨_, _, rfl⟩
  · rintro ⟨earlier, later, effects⟩
    apply attempts_of_page platform
    rw [Handled.does, effects]
    simp [Effect.isPage]

/-- An attempt before the stopwatch has reached the threshold. -/
def AttemptsEarly (platform : Platform) (watchdog : ProctoringWatchDog) (report : Report) : Prop :=
  Attempts watchdog report ∧ ¬ RestartDue platform report.now watchdog

instance (platform : Platform) (watchdog : ProctoringWatchDog) (report : Report) :
    Decidable (AttemptsEarly platform watchdog report) :=
  inferInstanceAs (Decidable (_ ∧ _))

/-- The report schedules a kill and a launch. -/
def SchedulesPair (platform : Platform) (watchdog : ProctoringWatchDog) (report : Report) : Prop :=
  timersOf report.now (onAppCrash platform report watchdog).effects = restartPair report.now

instance (platform : Platform) (watchdog : ProctoringWatchDog) (report : Report) :
    Decidable (SchedulesPair platform watchdog report) :=
  inferInstanceAs (Decidable (_ = _))

variable (platform : Platform) {watchdog : ProctoringWatchDog} {report : Report}

theorem schedulesPair_iff : SchedulesPair platform watchdog report ↔
    CallsRestart report watchdog ∧ RestartDue platform report.now watchdog := by
  unfold SchedulesPair
  rw [(onAppCrash_restartsWhen platform report watchdog).timers]
  by_cases restarts : CallsRestart report watchdog ∧ RestartDue platform report.now watchdog
  · simp only [restarts, and_self, ↓reduceIte]
  · simp only [restarts, ↓reduceIte, restartPair, iff_false]
    exact (List.cons_ne_nil _ _).symm

/-- An attempt schedules a kill and a launch exactly when a restart is due. -/
theorem schedulesPair_iff_of_attempts (attempts : Attempts watchdog report) :
    SchedulesPair platform watchdog report ↔ RestartDue platform report.now watchdog := by
  obtain ⟨missing, keeps, -, retries⟩ := attempts
  rw [schedulesPair_iff]
  have calls : CallsRestart report watchdog := Or.inr ⟨missing, keeps, fun spent => retries spent.2⟩
  simp only [calls, true_and]

/-- A report of a missing application is an attempt exactly when it raises the
retry counter up to five. -/
theorem attempts_step (missing : report.isRunning = false) :
    (if Attempts watchdog report then 1 else 0) + min 5 watchdog.appLaunchRetryCountre =
      min 5 (reportStep platform watchdog report).appLaunchRetryCountre := by
  rw [reportStep_retries_of_missing platform missing]
  by_cases counts : Keeps report (decidingStep report watchdog) ∧ Covers report
  · by_cases spent : 5 ≤ watchdog.appLaunchRetryCountre
    · simp only [Attempts, missing, counts, spent, not_true_eq_false, and_false, ↓reduceIte,
        and_self]
      omega
    · simp only [Attempts, missing, counts, spent, not_false_eq_true, and_self, ↓reduceIte]
      omega
  · have never : ¬ Attempts watchdog report := fun attempts => counts ⟨attempts.2.1, attempts.2.2.1⟩
    simp only [never, counts, ↓reduceIte, Nat.zero_add]

/-- The attempts of an absence are its retries, up to five. -/
theorem count_attempts (watchdog : ProctoringWatchDog) {since : List Report}
    (absent : ∀ report ∈ since, report.isRunning = false) :
    count (reportStep platform) Attempts watchdog since + min 5 watchdog.appLaunchRetryCountre =
      min 5 (runReports platform watchdog since).appLaunchRetryCountre := by
  induction since generalizing watchdog with
  | nil =>
      rw [count_nil, Nat.zero_add]
      rfl
  | cons report since ih =>
      obtain ⟨missing, rest⟩ := List.forall_mem_cons.mp absent
      have step : (if Attempts watchdog report then 1 else 0) +
          min 5 watchdog.appLaunchRetryCountre =
            min 5 (reportStep platform watchdog report).appLaunchRetryCountre :=
        attempts_step platform missing
      have later := ih (reportStep platform watchdog report) rest
      change _ = min 5
        (runReports platform (reportStep platform watchdog report) since).appLaunchRetryCountre
      rw [count_cons]
      omega

/-- An attempt schedules a kill and a launch or comes too early. -/
theorem count_attempts_split (watchdog : ProctoringWatchDog) (reports : List Report) :
    count (reportStep platform) Attempts watchdog reports =
      count (reportStep platform) (fun watchdog report =>
          Attempts watchdog report ∧ SchedulesPair platform watchdog report) watchdog reports +
        count (reportStep platform) (AttemptsEarly platform) watchdog reports := by
  have early : count (reportStep platform) (AttemptsEarly platform) watchdog reports =
      count (reportStep platform) (fun watchdog report =>
        Attempts watchdog report ∧ ¬ SchedulesPair platform watchdog report) watchdog reports := by
    apply count_congr
    intro watchdog report
    unfold AttemptsEarly
    apply and_congr_right
    intro attempts
    rw [schedulesPair_iff_of_attempts platform attempts]
  rw [early]
  exact count_split (SchedulesPair platform) watchdog reports

/-- An absence starts with no retries. -/
theorem retries_of_resumed {start : ProctoringWatchDog} (fresh : start.appLaunchRetryCountre = 0)
    {before : List Report} (resumes : ∀ last ∈ before.getLast?, last.isRunning = true) :
    (runReports platform start before).appLaunchRetryCountre = 0 := by
  rcases List.eq_nil_or_concat before with rfl | ⟨earlier, last, rfl⟩
  · exact fresh
  · rw [runReports, List.concat_eq_append, run_concat]
    apply reportStep_retries_of_running platform
    apply resumes
    simp only [List.concat_eq_append, List.getLast?_concat, Option.mem_some_iff]

/-- **What lies behind the error page.** Whenever the error page is shown, exactly
five reports since the last running one (or since the start) were attempts; each
of them scheduled a kill and a launch unless it came before the stopwatch had
reached the threshold of `RestartProctortrack`; so at least five kills and
launches have been scheduled, less the attempts that came too early. -/
theorem error_page_attempts (platform : Platform) (began : Nat) (initial : ConstructorReads)
    (before since : List Report) (shows : Report)
    (resumes : ∀ last ∈ before.getLast?, last.isRunning = true)
    (absent : ∀ report ∈ since, report.isRunning = false)
    (shown : (onAppCrash platform shows (runReports platform (.construct began initial)
      (before ++ since))).does Effect.isErrorPage = true) :
    let resumed := runReports platform (.construct began initial) before
    count (reportStep platform) Attempts resumed since = 5 ∧
      count (reportStep platform) (fun watchdog report =>
          Attempts watchdog report ∧ SchedulesPair platform watchdog report) resumed since +
        count (reportStep platform) (AttemptsEarly platform) resumed since = 5 ∧
      5 ≤ count (reportStep platform) (SchedulesPair platform) resumed since +
        count (reportStep platform) (AttemptsEarly platform) resumed since := by
  intro resumed
  have fresh : resumed.appLaunchRetryCountre = 0 := retries_of_resumed platform rfl resumes
  rw [onAppCrash_errorPage, decide_eq_true_eq, runReports, run_append] at shown
  have spent : 5 ≤ (runReports platform resumed since).appLaunchRetryCountre := shown.2.2.2
  have five : count (reportStep platform) Attempts resumed since = 5 := by
    have counted := count_attempts platform resumed absent
    omega
  have among : count (reportStep platform) (fun watchdog report =>
        Attempts watchdog report ∧ SchedulesPair platform watchdog report) resumed since ≤
      count (reportStep platform) (SchedulesPair platform) resumed since :=
    count_le_count (fun _ _ both => both.2) resumed since
  have split := count_attempts_split platform resumed since
  refine ⟨five, split.symm.trans five, ?_⟩
  omega

/-- Reports of a missing application, delivered back to back ten seconds after the
start. -/
def backToBack : List Report := List.replicate 5 (downAt 10000)

/-- Five kills and launches lie behind every error page, whenever the reports come. -/
def FiveRestartsBehindErrorPage (platform : Platform) : Prop :=
  ∀ (began : Nat) (initial : ConstructorReads) (before since : List Report) (shows : Report),
    (before ++ since ++ [shows]).Pairwise (fun earlier later => earlier.now ≤ later.now) →
    (∀ report ∈ before ++ since ++ [shows], began ≤ report.now) →
    (∀ last ∈ before.getLast?, last.isRunning = true) →
    (∀ report ∈ since, report.isRunning = false) →
    (onAppCrash platform shows (runReports platform (.construct began initial)
      (before ++ since))).does Effect.isErrorPage = true →
    5 ≤ count (reportStep platform) (SchedulesPair platform)
      (runReports platform (.construct began initial) before) (since ++ [shows])

/-- The page is shown after a single restart: on Windows by reports delivered back
to back, elsewhere by reports ten seconds apart. -/
theorem error_page_after_one_restart :
    ¬ FiveRestartsBehindErrorPage .windows ∧ ¬ FiveRestartsBehindErrorPage .macOS := by
  constructor
  · intro tried
    have five := tried 0 ⟨.missing, .missing, .missing⟩ [] backToBack (downAt 10000) (by decide)
      (by decide) (by decide) (by decide) (by decide)
    exact absurd five (by decide)
  · intro tried
    have five := tried 0 ⟨.missing, .missing, .missing⟩ [] firstMinute (downAt 60000) (by decide)
      (by decide) (by decide) (by decide) (by decide)
    exact absurd five (by decide)

/-- Reports ten seconds apart on Windows: every attempt restarts. -/
theorem error_page_attempts_firstMinute :
    let resumed := runReports .windows (.construct 0 ⟨.missing, .missing, .missing⟩) []
    count (reportStep .windows) (AttemptsEarly .windows) resumed firstMinute = 0 ∧
      5 ≤ count (reportStep .windows) (SchedulesPair .windows) resumed firstMinute +
        count (reportStep .windows) (AttemptsEarly .windows) resumed firstMinute :=
  ⟨by decide, (error_page_attempts .windows 0 ⟨.missing, .missing, .missing⟩ [] firstMinute
    (downAt 60000) (by decide) (by decide) (by decide)).2.2⟩

end WatchDog
