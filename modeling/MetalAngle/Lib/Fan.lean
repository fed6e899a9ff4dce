import Mathlib.Tactic

/-!
# Triangle fans

The triangles of a fan over a list of vertices, and of the fans that a restart value
cuts a list of indices into.
-/

namespace Fan

open List

variable {α : Type*}

/-- The fan over `v0 .. vn`: the triangles `(v0, vi, vi+1)`, in order. -/
def triangles : List α → List (α × α × α)
  | [] => []
  | first :: rest => (rest.zip rest.tail).map fun edge => (first, edge.1, edge.2)

def withRestart [DecidableEq α] (restart : α) (indices : List α) : List (α × α × α) :=
  (indices.splitOn restart).flatMap triangles

@[simp] theorem triangles_nil : triangles ([] : List α) = [] := rfl

@[simp] theorem triangles_singleton (a : α) : triangles [a] = [] := rfl

@[simp] theorem triangles_pair (a b : α) : triangles [a, b] = [] := rfl

theorem zip_tail_append_singleton (l : List α) (last x : α) :
    (l ++ [last, x]).zip (l ++ [last, x]).tail =
      (l ++ [last]).zip (l ++ [last]).tail ++ [(last, x)] := by
  induction l with
  | nil => rfl
  | cons a l ih =>
      cases l with
      | nil => rfl
      | cons b l => simpa using ih

/-- One more vertex adds one triangle to a fan that already has an edge. -/
theorem triangles_append_singleton (first : α) (l : List α) (last x : α) :
    triangles (first :: l ++ [last, x]) =
      triangles (first :: l ++ [last]) ++ [(first, last, x)] := by
  simp [triangles, zip_tail_append_singleton]

section Restart

variable [DecidableEq α] {restart : α}

theorem withRestart_of_notMem {seg : List α} (hseg : restart ∉ seg) :
    withRestart restart seg = triangles seg := by
  rw [withRestart, splitOn_eq_singleton hseg, flatMap_singleton]

/-- A restart value separates what stands before it from what comes after. -/
theorem withRestart_append_cons (before after : List α) :
    withRestart restart (before ++ restart :: after) =
      withRestart restart before ++ withRestart restart after := by
  rw [withRestart, splitOn_append_cons_self, flatMap_append, withRestart, withRestart]

theorem withRestart_nil : withRestart restart ([] : List α) = [] :=
  withRestart_of_notMem (not_mem_nil)

theorem withRestart_append_restart (before : List α) :
    withRestart restart (before ++ [restart]) = withRestart restart before := by
  rw [withRestart_append_cons, withRestart_nil, append_nil]

theorem withRestart_cons_restart (after : List α) :
    withRestart restart (restart :: after) = withRestart restart after := by
  have h : withRestart restart ([] ++ restart :: after) =
      withRestart restart [] ++ withRestart restart after := withRestart_append_cons [] after
  rwa [withRestart_nil, nil_append] at h

/-- A list after which a new segment starts: nothing, or a list that ends in a restart. -/
def Closed (restart : α) (before : List α) : Prop :=
  before = [] ∨ ∃ front, before = front ++ [restart]

theorem withRestart_append_segment {before seg : List α} (hbefore : Closed restart before)
    (hseg : restart ∉ seg) :
    withRestart restart (before ++ seg) = withRestart restart before ++ triangles seg := by
  rcases hbefore with rfl | ⟨front, rfl⟩
  · rw [nil_append, withRestart_nil, nil_append, withRestart_of_notMem hseg]
  · rw [append_assoc, singleton_append, withRestart_append_cons,
      withRestart_append_restart, withRestart_of_notMem hseg]

theorem withRestart_pair (a b : α) : withRestart restart [a, b] = [] := by
  by_cases ha : a = restart
  · subst ha
    rw [withRestart_cons_restart]
    by_cases hb : b = a
    · rw [hb, withRestart_cons_restart, withRestart_nil]
    · exact withRestart_of_notMem (by simpa using Ne.symm hb)
  · by_cases hb : b = restart
    · subst hb
      rw [show [a, b] = [a] ++ [b] from rfl, withRestart_append_restart]
      exact withRestart_of_notMem (by simpa using Ne.symm ha)
    · exact withRestart_of_notMem (by simp [Ne.symm ha, Ne.symm hb])

end Restart

end Fan
