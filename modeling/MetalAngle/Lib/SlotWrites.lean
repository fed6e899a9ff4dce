import Mathlib.Data.List.Basic

/-!
# Loops that write the slots of a table

Every step of a loop writes some slots of a table, with values that do not depend on the table.
After the loop a slot depends on what the table was before only if no step has written it.
-/

namespace SlotWrites

variable {Step Slot Value : Type*} (written : Step → Slot → Option Value)

def write (table : Slot → Value) (step : Step) : Slot → Value :=
  fun slot => (written step slot).getD (table slot)

def after (steps : List Step) (table : Slot → Value) : Slot → Value :=
  steps.foldl (write written) table

variable {written} {steps : List Step} {slot : Slot}

theorem after_cons (step : Step) (table : Slot → Value) :
    after written (step :: steps) table = after written steps (write written table step) := rfl

theorem after_of_not_written (table : Slot → Value)
    (h : ∀ step ∈ steps, written step slot = none) : after written steps table slot = table slot := by
  induction steps generalizing table with
  | nil => rfl
  | cons step steps ih =>
      rw [after_cons, ih _ fun next hmem => h next (List.mem_cons_of_mem _ hmem), write,
        h step List.mem_cons_self]
      rfl

/-- Tables that agree on a slot agree on it after the loop. -/
theorem after_congr {table table' : Slot → Value} (h : table slot = table' slot) :
    after written steps table slot = after written steps table' slot := by
  induction steps generalizing table table' with
  | nil => exact h
  | cons step steps ih =>
      apply ih
      show (written step slot).getD (table slot) = (written step slot).getD (table' slot)
      rw [h]

theorem after_of_written (table table' : Slot → Value)
    (h : ∃ step ∈ steps, (written step slot).isSome) :
    after written steps table slot = after written steps table' slot := by
  induction steps generalizing table table' with
  | nil => exact absurd h fun ⟨_, hmem, _⟩ => List.not_mem_nil hmem
  | cons step steps ih =>
    rw [after_cons, after_cons]
    obtain ⟨next, hmem, hwritten⟩ := h
    rcases List.mem_cons.mp hmem with rfl | hlater
    · apply after_congr
      obtain ⟨value, hvalue⟩ := Option.isSome_iff_exists.mp hwritten
      rw [write, write, hvalue]
      rfl
    · exact ih _ _ ⟨next, hlater, hwritten⟩

/-- A slot is independent of the table before the loop exactly when some step writes it. -/
theorem independent_iff [Nontrivial Value] :
    (∀ table table' : Slot → Value,
      after written steps table slot = after written steps table' slot) ↔
      ∃ step ∈ steps, (written step slot).isSome := by
  refine ⟨fun h => ?_, fun h table table' => after_of_written table table' h⟩
  by_contra hnone
  have hunwritten : ∀ step ∈ steps, written step slot = none := by
    intro step hmem
    by_contra hsome
    exact hnone ⟨step, hmem, Option.isSome_iff_ne_none.mpr hsome⟩
  obtain ⟨a, b, hne⟩ := exists_pair_ne Value
  have hsame := h (fun _ => a) fun _ => b
  rw [after_of_not_written _ hunwritten, after_of_not_written _ hunwritten] at hsame
  exact hne hsame

/-- A loop over a range that updates the slot of each index. -/
theorem foldl_update_range' (f : Nat → Value) (table : Nat → Value) (start length i : Nat) :
    (List.range' start length).foldl (fun table i => Function.update table i (f i)) table i =
      if start ≤ i ∧ i < start + length then f i else table i := by
  induction length with
  | zero =>
      rw [if_neg (by omega)]
      rfl
  | succ length ih =>
      rw [List.range'_concat, List.foldl_concat, Nat.one_mul]
      by_cases hlast : i = start + length
      · rw [hlast, Function.update_self, if_pos (by omega)]
      · rw [Function.update_of_ne hlast, ih]
        exact if_congr (by omega) rfl rfl

end SlotWrites
