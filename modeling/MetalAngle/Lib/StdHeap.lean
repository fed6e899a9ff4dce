import Mathlib.Data.List.Sort

/-!
# The heap functions of the C++ standard library

The standard says what `push_heap`, `pop_heap` and `make_heap` do to a range that is a heap, not
where they put each element.  A `StdHeap` is any implementation, for heaps with the least element
in front, as `std::greater` makes them.
-/

/-- `is_heap`: no element is less than its parent in the level order. -/
def IsHeap (l : List Nat) : Prop :=
  ∀ i (hi : i < l.length), 0 < i → l[(i - 1) / 2] ≤ l[i]

theorem isHeap_nil : IsHeap [] := by
  intro i hi
  contradiction

theorem isHeap_of_pairwise {l : List Nat} (h : l.Pairwise (· ≤ ·)) : IsHeap l := by
  intro i hi hpos
  exact List.pairwise_iff_getElem.mp h _ _ (by omega) hi (by omega)

theorem IsHeap.front_le {front : Nat} {rest : List Nat} (h : IsHeap (front :: rest)) :
    ∀ x ∈ front :: rest, front ≤ x := by
  have hindex : ∀ n, ∀ hn : n < (front :: rest).length, front ≤ (front :: rest)[n] := by
    intro n
    induction n using Nat.strong_induction_on with
    | h n ih =>
        intro hn
        by_cases hzero : n = 0
        · subst hzero
          exact Nat.le_refl _
        · exact (ih ((n - 1) / 2) (by omega) (by omega)).trans (h n hn (by omega))
  intro x hx
  obtain ⟨n, hn, rfl⟩ := List.mem_iff_getElem.mp hx
  exact hindex n hn

structure StdHeap where
  pushHeap : List Nat → List Nat
  popHeap : List Nat → List Nat
  makeHeap : List Nat → List Nat
  /-- The last element joins the heap of the others. -/
  pushHeap_spec : ∀ l x, IsHeap l →
    IsHeap (pushHeap (l ++ [x])) ∧ (pushHeap (l ++ [x])).Perm (l ++ [x])
  /-- The front moves to the back, and the others are a heap. -/
  popHeap_spec : ∀ front rest, IsHeap (front :: rest) →
    ∃ l, popHeap (front :: rest) = l ++ [front] ∧ IsHeap l ∧ l.Perm rest
  makeHeap_spec : ∀ l, IsHeap (makeHeap l) ∧ (makeHeap l).Perm l

namespace StdHeap

def sorted : StdHeap where
  pushHeap l := l.insertionSort (· ≤ ·)
  popHeap
    | [] => []
    | front :: rest => rest.insertionSort (· ≤ ·) ++ [front]
  makeHeap l := l.insertionSort (· ≤ ·)
  pushHeap_spec := fun _ _ _ =>
    ⟨isHeap_of_pairwise (List.pairwise_insertionSort _ _), List.perm_insertionSort _ _⟩
  popHeap_spec := fun _ rest _ => ⟨rest.insertionSort (· ≤ ·), rfl,
    isHeap_of_pairwise (List.pairwise_insertionSort _ _), List.perm_insertionSort _ _⟩
  makeHeap_spec := fun _ =>
    ⟨isHeap_of_pairwise (List.pairwise_insertionSort _ _), List.perm_insertionSort _ _⟩

end StdHeap
