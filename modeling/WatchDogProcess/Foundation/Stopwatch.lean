import Mathlib.Data.List.Basic
import Mathlib.Data.List.Pairwise
import Mathlib.Tactic.Basic

/-! # Stopwatches that wrap, and schedules spaced by them

A stopwatch read against a clock that wraps after a period shows the real time
since its start modulo that period (`Stopwatch.elapsed`). It may show too little
and never too much, so an action taken only when it shows at least a threshold
is at least that threshold of real time after the start
(`Stopwatch.add_le_of_le_elapsed`); it shows too little exactly for a threshold's
time after each wrap (`Stopwatch.elapsed_lt_iff`). Restarting the stopwatch at
each such action spaces the actions (`Stopwatch.Spaced.concat`).
-/

namespace Stopwatch

/-- What a stopwatch started at `start` shows at `now`. -/
def elapsed (period start now : Nat) : Nat := (now - start) % period

/-- A stopwatch that shows a positive threshold was started that long ago. -/
theorem add_le_of_le_elapsed {period start now threshold : Nat} (positive : 0 < threshold)
    (shown : threshold ≤ elapsed period start now) : start + threshold ≤ now := by
  have real : elapsed period start now ≤ now - start := Nat.mod_le _ _
  omega

/-- Within one period of its start a stopwatch shows the real time. -/
theorem le_elapsed_iff {period start now threshold : Nat} (positive : 0 < threshold)
    (within : now < start + period) :
    threshold ≤ elapsed period start now ↔ start + threshold ≤ now := by
  have real : elapsed period start now = now - start := by
    unfold elapsed
    rcases Nat.eq_zero_or_pos (now - start) with none | some
    · rw [none, Nat.zero_mod]
    · exact Nat.mod_eq_of_lt (by omega)
  rw [real]
  omega

/-- Until it wraps a stopwatch runs with real time. -/
theorem elapsed_add {period start now later : Nat} (started : start ≤ now) (passes : now ≤ later)
    (within : elapsed period start now + (later - now) < period) :
    elapsed period start later = elapsed period start now + (later - now) := by
  have split : later - start = now - start + (later - now) := by omega
  unfold elapsed at within ⊢
  rw [split, Nat.add_mod]
  rcases Nat.eq_zero_or_pos period with none | some
  · omega
  · rw [Nat.mod_eq_of_lt (by omega : later - now < period), Nat.mod_eq_of_lt within]

/-- A stopwatch shows less than a threshold that real time has reached exactly when
it has wrapped less than the threshold ago. -/
theorem elapsed_lt_iff {period start now threshold : Nat} (reached : start + threshold ≤ now) :
    elapsed period start now < threshold ↔
      ∃ laps, 0 < laps ∧ start + laps * period ≤ now ∧
        now < start + laps * period + threshold := by
  have whole : (now - start) / period * period + (now - start) % period = now - start :=
    Nat.div_add_mod' (now - start) period
  unfold elapsed
  constructor
  · intro shown
    refine ⟨(now - start) / period, ?_, by omega, by omega⟩
    rw [Nat.pos_iff_ne_zero]
    intro none
    rw [none, Nat.zero_mul] at whole
    omega
  · rintro ⟨laps, -, after, before⟩
    obtain ⟨rest, split⟩ := Nat.exists_eq_add_of_le after
    have shown : (now - start) % period = rest % period := by
      rw [show now - start = rest + laps * period by omega, Nat.add_mul_mod_self_right]
    rw [shown]
    exact Nat.lt_of_le_of_lt (Nat.mod_le _ _) (by omega)

/-- Any two times of a schedule, taken in order, are at least `gap` apart. -/
def Spaced (gap : Nat) (times : List Nat) : Prop :=
  times.Pairwise fun earlier later => earlier + gap ≤ later

/-- A time at least `gap` after a bound on the earlier ones extends a schedule. -/
theorem Spaced.concat {gap last next : Nat} {times : List Nat} (spaced : Spaced gap times)
    (bounded : ∀ time ∈ times, time ≤ last) (later : last + gap ≤ next) :
    Spaced gap (times ++ [next]) := by
  refine List.pairwise_append.mpr ⟨spaced, List.pairwise_singleton _ _, ?_⟩
  intro earlier member time isNext
  have before := bounded earlier member
  rw [List.mem_singleton.mp isNext]
  omega

end Stopwatch
