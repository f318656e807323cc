import WatchDogProcess.Monitor.ProcessTable

/-! # When a report of a missing application can be trusted

A report that the application is not running should rest on a table that was
read out and does not hold the executable. The scan returns without a report when
a snapshot, its first entry, the first `sysctl` or the allocation fails; it does
not notice a `Process32NextW` that fails with entries left, nor a second `sysctl`
that fails, and reports the application missing
(`WatchDog.false_report_on_failed_calls`). A false report is sound exactly when
neither happens, unless an entry of the application was returned before
(`WatchDog.false_report_sound_iff`).
-/

namespace WatchDog

/-- The whole table was read. -/
def ScanInput.ReadOut : ScanInput → Prop
  | .windows calls table => enumerated calls table = table
  | .macOS calls table => copied calls table = some table

/-- A report that the product is not running rests on the whole table, and its
executable is not there. -/
def FalseReportSound (folding : CaseFolding) (dummyCall : Int) (input : ScanInput)
    (thread : ProctortrackThread) (product : Product) : Prop :=
  false ∈ (process folding dummyCall input thread).emitted →
    input.ReadOut ∧ product.executable input.platform ∉ input.names

/-- The call of `Process32NextW` with this index is the first to fail, and fails
although an entry is left. -/
def StopsEarly (calls : ToolhelpCalls) (table : List ProcessEntry) (index : Nat) : Prop :=
  index + 1 < table.length ∧ (∀ earlier < index, calls.next earlier = true) ∧
    calls.next index = false

/-- The failures that a scan would not notice do not happen: on Windows an
enumeration that is reported on does not stop early unless it has returned an
entry of the product; on macOS the second `sysctl`, if reached, succeeds. -/
def NoSilentFailure (dummyCall : Int) (product : Product) : ScanInput → Prop
  | .windows calls table => dummyCall = 0 → calls.snapshot = true → calls.first = true →
      ∀ index, StopsEarly calls table index →
        ∃ entry ∈ table.take (index + 1), entry.szExeFile = product.executable .windows
  | .macOS calls table => ∀ room, calls.size = some room → calls.malloc = true →
      calls.data = true ∧ table.length ≤ room

/-! ### The enumeration on Windows -/

theorem StopsEarly.unique {calls : ToolhelpCalls} {table : List ProcessEntry} {first second : Nat}
    (stopsFirst : StopsEarly calls table first) (stopsSecond : StopsEarly calls table second) :
    first = second := by
  rcases Nat.lt_trichotomy first second with before | same | after
  · exact absurd (stopsSecond.2.1 first before) (by rw [stopsFirst.2.2]; exact Bool.false_ne_true)
  · exact same
  · exact absurd (stopsFirst.2.1 second after) (by rw [stopsSecond.2.2]; exact Bool.false_ne_true)

/-- From any point an enumeration visits all that is left, or stops at the first
call that fails. -/
theorem visitedEntries_cases (next : Nat → Bool) (index : Nat) (entry : ProcessEntry)
    (rest : List ProcessEntry) :
    (∀ offset < rest.length, next (index + offset) = true) ∧
      visitedEntries next index entry rest = entry :: rest ∨
    ∃ stop < rest.length, (∀ offset < stop, next (index + offset) = true) ∧
      next (index + stop) = false ∧
      visitedEntries next index entry rest = (entry :: rest).take (stop + 1) := by
  induction rest generalizing index entry with
  | nil =>
      left
      refine ⟨?_, rfl⟩
      intro offset within
      exact absurd within (Nat.not_lt_zero _)
  | cons following rest ih =>
      have shift : ∀ offset, index + 1 + offset = index + (offset + 1) := by
        intro offset
        omega
      cases now : next index with
      | false =>
          right
          refine ⟨0, Nat.zero_lt_succ _, ?_, now, ?_⟩
          · intro offset within
            exact absurd within (Nat.not_lt_zero _)
          · simp [visitedEntries, now]
      | true =>
          have goesOn : visitedEntries next index entry (following :: rest) =
              entry :: visitedEntries next (index + 1) following rest := by
            simp only [visitedEntries, now, ↓reduceIte]
          rw [goesOn]
          rcases ih (index + 1) following with ⟨all, whole⟩ | ⟨stop, within, before, fails, part⟩
          · left
            refine ⟨?_, by rw [whole]⟩
            rintro (_ | offset) within
            · exact now
            · rw [← shift]
              exact all offset (Nat.lt_of_succ_lt_succ within)
          · right
            refine ⟨stop + 1, Nat.succ_lt_succ within, ?_, ?_, ?_⟩
            · rintro (_ | offset) earlier
              · exact now
              · rw [← shift]
                exact before offset (Nat.lt_of_succ_lt_succ earlier)
            · rw [← shift]
              exact fails
            · rw [part]
              rfl

/-- An enumeration that starts reads the whole table or stops early. -/
theorem enumerated_cases {calls : ToolhelpCalls} {table : List ProcessEntry}
    (started : (process32First calls table).isSome) :
    (∀ index, ¬ StopsEarly calls table index) ∧ enumerated calls table = table ∨
    ∃ index, StopsEarly calls table index ∧
      enumerated calls table = table.take (index + 1) := by
  cases table with
  | nil => cases started
  | cons entry rest =>
      have first : process32First calls (entry :: rest) = some (entry, rest) := by
        simp only [process32First] at started ⊢
        split at started
        · simp only [*, ↓reduceIte]
        · cases started
      simp only [enumerated, first]
      rcases visitedEntries_cases calls.next 0 entry rest with
        ⟨all, whole⟩ | ⟨stop, within, before, fails, part⟩
      · left
        refine ⟨?_, whole⟩
        rintro index ⟨left, _, fails⟩
        have goesOn := all index (Nat.lt_of_succ_lt_succ left)
        rw [Nat.zero_add, fails] at goesOn
        exact Bool.false_ne_true goesOn
      · right
        refine ⟨stop, ⟨Nat.succ_lt_succ within, ?_, ?_⟩, part⟩
        · intro earlier isEarlier
          simpa only [Nat.zero_add] using before earlier isEarlier
        · simpa only [Nat.zero_add] using fails

/-- The first entry is there exactly when the snapshot was taken, the call
succeeds and the table is not empty. -/
theorem process32First_isSome_iff (calls : ToolhelpCalls) (table : List ProcessEntry) :
    (process32First calls table).isSome ↔
      calls.snapshot = true ∧ calls.first = true ∧ table ≠ [] := by
  cases table with
  | nil => simp [process32First]
  | cons entry rest =>
      simp only [process32First]
      split <;> simp_all

/-! ### The two branches -/

theorem ScanInput.ReadOut.readNames_eq {input : ScanInput} (readOut : input.ReadOut) :
    input.readNames = input.names := by
  cases input with
  | windows calls table => exact congrArg (List.map ProcessEntry.szExeFile) readOut
  | macOS calls table =>
      have whole : copied calls table = some table := readOut
      simp only [ScanInput.readNames, ScanInput.names, whole, Option.getD_some]

variable {folding : CaseFolding} {thread : ProctortrackThread} {product : Product}

/-- A false report is sound when the scan read the product's executable, and so
gives none, or read the whole table. -/
theorem falseReportSound_iff_read (named : productOf folding thread.appName = some product)
    (dummyCall : Int) (input : ScanInput) :
    FalseReportSound folding dummyCall input thread product ↔
      (input.Reports dummyCall →
        product.executable input.platform ∈ input.readNames ∨ input.ReadOut) := by
  unfold FalseReportSound
  rw [false_mem_emitted_iff folding named]
  constructor
  · intro sound reports
    by_cases seen : product.executable input.platform ∈ input.readNames
    · exact Or.inl seen
    · exact Or.inr (sound ⟨reports, seen⟩).1
  · rintro read ⟨reports, missing⟩
    have readOut := (read reports).resolve_left missing
    exact ⟨readOut, readOut.readNames_eq ▸ missing⟩

theorem read_windows_iff (dummyCall : Int) (calls : ToolhelpCalls) (table : List ProcessEntry) :
    ((ScanInput.windows calls table).Reports dummyCall →
      product.executable .windows ∈ (ScanInput.windows calls table).readNames ∨
        (ScanInput.windows calls table).ReadOut) ↔
    NoSilentFailure dummyCall product (.windows calls table) := by
  simp only [ScanInput.Reports, ScanInput.readNames, ScanInput.ReadOut, List.mem_map]
  constructor
  · intro read isReport snapshot first index stops
    have nonempty : table ≠ [] := by
      rintro rfl
      exact absurd stops.1 (Nat.not_lt_zero _)
    have started := (process32First_isSome_iff calls table).mpr ⟨snapshot, first, nonempty⟩
    rcases enumerated_cases started with ⟨never, -⟩ | ⟨other, stopsOther, part⟩
    · exact absurd stops (never index)
    · obtain rfl := stops.unique stopsOther
      rcases read ⟨started, isReport⟩ with seen | readOut
      · rwa [part] at seen
      · -- an enumeration that stops early is shorter than the table
        have short := congrArg List.length (part.symm.trans readOut)
        rw [List.length_take, Nat.min_eq_left stops.1.le] at short
        exact absurd short (Nat.ne_of_lt stops.1)
  · rintro noticed ⟨started, isReport⟩
    obtain ⟨snapshot, first, -⟩ := (process32First_isSome_iff calls table).mp started
    rcases enumerated_cases started with ⟨-, whole⟩ | ⟨index, stops, part⟩
    · exact Or.inr whole
    · left
      rw [part]
      exact noticed isReport snapshot first index stops

theorem read_macOS_iff (dummyCall : Int) (calls : SysctlCalls) (table : List String) :
    ((ScanInput.macOS calls table).Reports dummyCall →
      product.executable .macOS ∈ (ScanInput.macOS calls table).readNames ∨
        (ScanInput.macOS calls table).ReadOut) ↔
    NoSilentFailure dummyCall product (.macOS calls table) := by
  obtain ⟨size, malloc, data⟩ := calls
  simp only [ScanInput.Reports, ScanInput.readNames, ScanInput.ReadOut, NoSilentFailure, copied]
  cases size with
  | none => simp
  | some room =>
      cases malloc with
      | false => simp
      | true =>
          by_cases reads : data = true ∧ table.length ≤ room
          · simp [sysctlData, reads]
          · have unread : sysctlData ⟨some room, true, data⟩ room table = none := by
              simp only [sysctlData, Bool.and_eq_true, decide_eq_true_eq, reads, ↓reduceIte]
            simp [unread, reads]

/-- **When a false report is sound.** For a recognised product name, whatever the
table and the outcome of the calls, a report that the application is not running
rests on the whole table and is right if and only if no failure goes unnoticed. -/
theorem false_report_sound_iff (folding : CaseFolding) (thread : ProctortrackThread)
    (product : Product) (named : productOf folding thread.appName = some product)
    (dummyCall : Int) (input : ScanInput) :
    FalseReportSound folding dummyCall input thread product ↔
      NoSilentFailure dummyCall product input := by
  rw [falseReportSound_iff_read named]
  cases input with
  | windows calls table => exact read_windows_iff dummyCall calls table
  | macOS calls table => exact read_macOS_iff dummyCall calls table

/-- A thread configured for RemoteDesk, in another letter case. -/
def remoteDeskThread : ProctortrackThread :=
  { ProctortrackThread.construct with appName := "remotedesk" }

/-- The table outgrows the buffer between the two `sysctl` calls. -/
def outgrownBuffer : ScanInput :=
  .macOS ⟨some 1, true, true⟩ ["launchd", "RemoteDesk"]

/-- The second entry of a snapshot is not returned. -/
def truncatedSnapshot : ScanInput :=
  .windows ⟨true, true, fun _ => false⟩ [⟨"System", 4⟩, ⟨"RemoteDesk.exe", 1000⟩]

theorem false_report_sound_iff_remoteDesk :
    FalseReportSound .ascii 0 outgrownBuffer remoteDeskThread .remoteDesk ↔
      NoSilentFailure 0 .remoteDesk outgrownBuffer :=
  false_report_sound_iff .ascii remoteDeskThread .remoteDesk (by decide) 0 outgrownBuffer

/-- Both branches report a running application missing when such a call fails. -/
theorem false_report_on_failed_calls :
    ¬ FalseReportSound .ascii 0 outgrownBuffer remoteDeskThread .remoteDesk ∧
    ¬ FalseReportSound .ascii 0 truncatedSnapshot remoteDeskThread .remoteDesk := by
  constructor
  · intro sound
    exact (sound (by decide)).2 (by decide)
  · intro sound
    exact (sound (by decide)).2 (by decide)

end WatchDog
