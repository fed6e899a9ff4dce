import Mathlib.Data.List.Sort

/-!
# The sort of the C++ standard library

The standard does not say in which order `std::sort` leaves equivalent elements.  A `StdSort` is any
implementation for a comparison.
-/

structure StdSort {α : Type*} (less : α → α → Bool) where
  sort : List α → List α
  perm : ∀ l, (sort l).Perm l
  sorted : ∀ l, (sort l).Pairwise fun a b => less b a = false

namespace StdSort

variable {α κ : Type*} {less : α → α → Bool}

def insertion (hasymm : ∀ a b, less a b → less b a = false)
    (htrans : ∀ a b c, less b a = false → less c b = false → less c a = false) :
    StdSort less where
  sort l := l.insertionSort fun a b => less b a = false
  perm := fun _ => List.perm_insertionSort _ _
  sorted := fun l => by
    have htotal : Std.Total fun a b => less b a = false := by
      constructor
      intro a b
      cases hba : less b a with
      | false => exact Or.inl rfl
      | true => exact Or.inr (hasymm b a hba)
    have htransitive : IsTrans α fun a b => less b a = false := ⟨fun a b c => htrans a b c⟩
    exact List.pairwise_insertionSort _ _

end StdSort
