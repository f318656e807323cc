import Mathlib.Data.List.Basic
import Mathlib.Logic.Function.Basic
import Mathlib.Tactic.Basic

/-! # Keyed records under partial updates

A record gives each key at most one value. An update is itself a record: the
keys it sets, each with its new value. Updates are applied one after another
(`KeyedRecord.overlayAll`), the last one that sets a key deciding its value.

An operation executed somewhere among the updates gives a *serial* result
(`KeyedRecord.Serial`). A key that the operation never touches has in a serial
result the value that the updates alone give it
(`KeyedRecord.Serial.apply_of_frame`). Setting one key commutes with every
update that leaves the key alone or sets it to the same value
(`KeyedRecord.overlay_set`).
-/

namespace KeyedRecord

variable {Key Value : Type*}

/-- The value of each key, `none` where the key is absent. -/
abbrev Record (Key Value : Type*) := Key → Option Value

/-- The record with no key. -/
def empty : Record Key Value := fun _ => none

/-- Set the keys that `update` holds, and keep the others. -/
def overlay (base update : Record Key Value) : Record Key Value :=
  fun key => (update key).or (base key)

/-- Apply updates in order. -/
def overlayAll (base : Record Key Value) (updates : List (Record Key Value)) :
    Record Key Value :=
  updates.foldl overlay base

theorem overlay_apply_of_absent {base update : Record Key Value} {key : Key}
    (absent : update key = none) : overlay base update key = base key := by
  simp only [overlay, absent, Option.none_or]

theorem overlay_apply_of_present {base update : Record Key Value} {key : Key} {value : Value}
    (present : update key = some value) : overlay base update key = some value := by
  simp only [overlay, present, Option.some_or]

@[simp] theorem overlayAll_cons (base update : Record Key Value)
    (updates : List (Record Key Value)) :
    overlayAll base (update :: updates) = overlayAll (overlay base update) updates := rfl

@[simp] theorem overlayAll_concat (base update : Record Key Value)
    (updates : List (Record Key Value)) :
    overlayAll base (updates ++ [update]) = overlay (overlayAll base updates) update := by
  simp only [overlayAll, List.foldl_append, List.foldl_cons, List.foldl_nil]

/-- The value of a key depends on the base only through that key. -/
theorem overlayAll_apply_congr {first second : Record Key Value} {key : Key}
    (same : first key = second key) (updates : List (Record Key Value)) :
    overlayAll first updates key = overlayAll second updates key := by
  induction updates generalizing first second with
  | nil => exact same
  | cons update updates ih =>
      apply ih
      simp only [overlay, same]

/-- A key that no update sets keeps its value. -/
theorem overlayAll_apply_of_absent (base : Record Key Value) {updates : List (Record Key Value)}
    {key : Key} (absent : ∀ update ∈ updates, update key = none) :
    overlayAll base updates key = base key := by
  induction updates generalizing base with
  | nil => rfl
  | cons update updates ih =>
      rw [overlayAll_cons, ih _ fun later member => absent later (List.mem_cons_of_mem _ member)]
      exact overlay_apply_of_absent (absent update List.mem_cons_self)

/-! ### Setting one key -/

variable [DecidableEq Key]

/-- Give one key a value. -/
def set (base : Record Key Value) (key : Key) (value : Value) : Record Key Value :=
  Function.update base key (some value)

@[simp] theorem set_apply_self (base : Record Key Value) (key : Key) (value : Value) :
    set base key value key = some value := Function.update_self ..

@[simp] theorem set_apply_of_ne (base : Record Key Value) {key other : Key} (value : Value)
    (different : other ≠ key) : set base key value other = base other :=
  Function.update_of_ne different ..

/-- The last value set counts. -/
theorem set_set (base : Record Key Value) (key : Key) (first second : Value) :
    set (set base key first) key second = set base key second := Function.update_idem ..

/-- Setting a key commutes with an update that leaves it alone or sets it to the
same value. -/
theorem overlay_set (base update : Record Key Value) (key : Key) (value : Value)
    (agrees : update key = none ∨ update key = some value) :
    overlay (set base key value) update = set (overlay base update) key value := by
  funext other
  by_cases same : other = key
  · subst same
    rw [set_apply_self]
    rcases agrees with absent | present
    · rw [overlay_apply_of_absent absent, set_apply_self]
    · exact overlay_apply_of_present present
  · rw [set_apply_of_ne _ _ same]
    simp only [overlay, set_apply_of_ne _ _ same]

/-! ### Serial results -/

omit [DecidableEq Key]

/-- `final` is the result of applying the updates in order with the operation
executed once, after some of them and before the others. -/
def Serial (operation : Record Key Value → Record Key Value) (base : Record Key Value)
    (updates : List (Record Key Value)) (final : Record Key Value) : Prop :=
  ∃ before after, updates = before ++ after ∧
    final = overlayAll (operation (overlayAll base before)) after

variable {operation : Record Key Value → Record Key Value} {base final : Record Key Value}
  {updates : List (Record Key Value)}

/-- Executing the operation now, after all the updates, is serial. -/
theorem Serial.now (operation : Record Key Value → Record Key Value) (base : Record Key Value)
    (updates : List (Record Key Value)) :
    Serial operation base updates (operation (overlayAll base updates)) :=
  ⟨updates, [], (List.append_nil updates).symm, rfl⟩

/-- A serial result followed by one more update is serial. -/
theorem Serial.concat (serial : Serial operation base updates final)
    (update : Record Key Value) :
    Serial operation base (updates ++ [update]) (overlay final update) := by
  obtain ⟨before, after, split, rfl⟩ := serial
  refine ⟨before, after ++ [update], ?_, ?_⟩
  · rw [split, List.append_assoc]
  · rw [overlayAll_concat]

/-- A key the operation never touches has in a serial result its last updated value. -/
theorem Serial.apply_of_frame (serial : Serial operation base updates final) {key : Key}
    (frame : ∀ record, operation record key = record key) :
    final key = overlayAll base updates key := by
  obtain ⟨before, after, rfl, rfl⟩ := serial
  rw [overlayAll_apply_congr (frame _) after]
  simp only [overlayAll, List.foldl_append]

end KeyedRecord
