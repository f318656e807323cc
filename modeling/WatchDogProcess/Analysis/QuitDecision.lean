import WatchDogProcess.Watchdog.Report
import Mathlib.Data.Set.Insert

/-! # When the watchdog quits

A complete version of the history file *keeps an exam* when its step is `STEP2`
or `STEP3` or it asks for a launch in all conditions. A read of the file yields
one of its complete versions or fails, and a failed read counts as the empty
step or as false. The watchdog quits exactly at the reports of a missing
application whose two deciding reads give no reason to go on
(`WatchDog.onAppCrash_quits`), so one unopened file in the middle of an exam is
enough (`WatchDog.unopened_step_quits`). While every complete version keeps an
exam, it quits only at a report whose two deciding reads did not both yield one
version (`WatchDog.quits_only_on_split_reads`).
-/

namespace WatchDog

open KeyedRecord EventRun

/-- The version of the history file keeps the watchdog on. -/
def KeepsExam (version : QJsonObject) : Prop :=
  stringValue version "app_current_step" = "STEP2" ∨
    stringValue version "app_current_step" = "STEP3" ∨
      boolValue version "launch_app_in_all_conditions" = true

/-- The read yields one of the versions or fails. -/
def ReadOutcome.Sees (versions : Set QJsonObject) (read : ReadOutcome) : Prop :=
  ∀ version, read = .text (some version) → version ∈ versions

/-- The reads a report makes of the history file. -/
def ReportReads.history (reads : ReportReads) : List ReadOutcome :=
  [reads.appDataPath, reads.appLocation, reads.appCurrentStep, reads.threadHistoryPath,
    reads.appCurrentStepAgain, reads.launchInAllConditions, reads.sceenCoverRequired]

/-- Deciding reads that yield one version that keeps an exam keep the watchdog on. -/
theorem keeps_of_version {version : QJsonObject} (exam : KeepsExam version) {report : Report}
    {watchdog : ProctoringWatchDog}
    (stepRead : decidingRead report watchdog = .text (some version))
    (launchRead : report.reads.launchInAllConditions = .text (some version)) :
    Keeps report (decidingStep report watchdog) := by
  simp only [Keeps, decidingStep, stepRead, launchRead, getAppCurrentStep, getisAnyStepWatchdog,
    readString_text, readBool_text]
  exact exam

/-- The report quits exactly when the application is missing and the deciding
reads give no reason to go on, and then these did not both yield one version. -/
def QuitsOnlyOnSplitReads (platform : Platform) (watchdog : ProctoringWatchDog)
    (report : Report) : Prop :=
  ((onAppCrash platform report watchdog).does Effect.isQuit = true ↔
    report.isRunning = false ∧ ¬ Keeps report (decidingStep report watchdog)) ∧
  ((onAppCrash platform report watchdog).does Effect.isQuit = true →
    ∀ version, ¬ (decidingRead report watchdog = .text (some version) ∧
      report.reads.launchInAllConditions = .text (some version)))

/-- **Quitting in an exam takes a bad read.** While every complete version of the
history file keeps an exam, the watchdog quits only at a report of a missing
application whose reads of the step and of the launch condition give no reason to
go on, and only if these did not both yield one and the same version. -/
theorem quits_only_on_split_reads (platform : Platform) (began : Nat) (initial : ConstructorReads)
    (versions : Set QJsonObject) (exam : ∀ version ∈ versions, KeepsExam version)
    (reports : List Report)
    (seen : ∀ report ∈ reports, ∀ read ∈ report.reads.history, read.Sees versions) :
    Always (reportStep platform) (QuitsOnlyOnSplitReads platform)
      (ProctoringWatchDog.construct began initial) reports := by
  refine (always_of_forall _ seen).mono ?_
  intro watchdog report sees
  have quits : (onAppCrash platform report watchdog).does Effect.isQuit = true ↔
      report.isRunning = false ∧ ¬ Keeps report (decidingStep report watchdog) := by
    rw [onAppCrash_quits, decide_eq_true_eq]
  refine ⟨quits, ?_⟩
  rintro quit version ⟨stepRead, launchRead⟩
  have member : report.reads.launchInAllConditions ∈ report.reads.history := by
    simp only [ReportReads.history, List.mem_cons, true_or, or_true]
  exact (quits.mp quit).2 (keeps_of_version (exam version (sees _ member version launchRead))
    stepRead launchRead)

/-- A version of the history file in the middle of an exam. -/
def examVersion : QJsonObject := set empty "app_current_step" (.string "STEP2")

theorem keepsExam_examVersion : ∀ version ∈ ({examVersion} : Set QJsonObject),
    KeepsExam version := by
  rintro version rfl
  exact Or.inl (by decide)

/-- A report of a missing application that fails to open the history file for the
step and finds it complete in every other read. -/
def unopenedStep : Report where
  now := 10000
  isRunning := false
  reads := { ReportReads.of (.text (some examVersion)) .missing with appCurrentStep := .unopened }

theorem unopenedStep_sees : ∀ report ∈ [unopenedStep], ∀ read ∈ report.reads.history,
    read.Sees {examVersion} := by
  intro report isReport read member version yields
  obtain rfl := List.mem_singleton.mp isReport
  simp only [ReportReads.history, unopenedStep, ReportReads.of, List.mem_cons, List.not_mem_nil,
    or_false, or_self, yields, reduceCtorEq, ReadOutcome.text.injEq, Option.some.injEq,
    false_or] at member
  exact Set.mem_singleton_iff.mpr (by simpa using member)

/-- The condition on the reads can be met, here with a read that fails. -/
theorem quits_only_on_split_reads_unopened :
    Always (reportStep .windows) (QuitsOnlyOnSplitReads .windows)
      (ProctoringWatchDog.construct 0 ⟨.missing, .missing, .missing⟩) [unopenedStep] :=
  quits_only_on_split_reads .windows 0 ⟨.missing, .missing, .missing⟩ {examVersion}
    keepsExam_examVersion [unopenedStep] unopenedStep_sees

/-- One failed read of the step is enough to quit in the middle of an exam. -/
theorem unopened_step_quits :
    ¬ ∀ (platform : Platform) (began : Nat) (initial : ConstructorReads)
      (versions : Set QJsonObject), (∀ version ∈ versions, KeepsExam version) →
      ∀ reports : List Report,
        (∀ report ∈ reports, ∀ read ∈ report.reads.history, read.Sees versions) →
        Always (reportStep platform) (fun watchdog report =>
            (onAppCrash platform report watchdog).does Effect.isQuit = false)
          (ProctoringWatchDog.construct began initial) reports := by
  intro never
  have quiet := never .windows 0 ⟨.missing, .missing, .missing⟩ {examVersion}
    keepsExam_examVersion [unopenedStep] unopenedStep_sees
  exact absurd quiet.1 (by decide)

end WatchDog
