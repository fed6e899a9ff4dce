import Mathlib.Data.List.Basic

/-!
# Segments between restart values

A restart value cuts a list of indices into segments, each of which is drawn for itself.  Of line
strips and line loops the edges are drawn.
-/

namespace Segments

open List

variable {α β : Type*}

def stripEdges (vertices : List α) : List (α × α) := vertices.zip vertices.tail

def loopEdges : List α → List (α × α)
  | [] => []
  | first :: rest => stripEdges (first :: rest ++ [first])

theorem stripEdges_map (f : α → β) (vertices : List α) :
    stripEdges (vertices.map f) = (stripEdges vertices).map (Prod.map f f) := by
  rw [stripEdges, ← map_tail, zip_map, stripEdges]

/-- A list after which a new segment starts: nothing, or a list that ends in a restart. -/
def Closed (restart : α) (before : List α) : Prop :=
  before = [] ∨ ∃ front, before = front ++ [restart]

variable {restart : α}

theorem closed_concat (front : List α) : Closed restart (front ++ [restart]) := .inr ⟨front, rfl⟩

theorem closed_replicate (n : Nat) : Closed restart (List.replicate n restart) := by
  cases n with
  | zero => exact .inl rfl
  | succ n =>
      rw [replicate_succ']
      exact closed_concat _

variable [DecidableEq α] {draw : List α → List β}

def drawn (draw : List α → List β) (restart : α) (indices : List α) : List β :=
  (indices.splitOn restart).flatMap draw

theorem drawn_of_notMem {seg : List α} (hseg : restart ∉ seg) :
    drawn draw restart seg = draw seg := by
  rw [drawn, splitOn_eq_singleton hseg, flatMap_singleton]

/-- A restart value separates what stands before it from what comes after. -/
theorem drawn_append_cons (before after : List α) :
    drawn draw restart (before ++ restart :: after) =
      drawn draw restart before ++ drawn draw restart after := by
  rw [drawn, splitOn_append_cons_self, flatMap_append, drawn, drawn]

section

variable (hdraw : draw [] = [])
include hdraw

theorem drawn_nil : drawn draw restart [] = [] :=
  (drawn_of_notMem not_mem_nil).trans hdraw

theorem drawn_append_restart (before : List α) :
    drawn draw restart (before ++ [restart]) = drawn draw restart before := by
  rw [drawn_append_cons, drawn_nil hdraw, append_nil]

theorem drawn_replicate (n : Nat) :
    drawn draw restart (List.replicate n restart) = [] := by
  induction n with
  | zero => exact drawn_nil hdraw
  | succ n ih => rw [replicate_succ', drawn_append_restart hdraw, ih]

theorem drawn_append_segment {before seg : List α}
    (hbefore : Closed restart before) (hseg : restart ∉ seg) :
    drawn draw restart (before ++ seg) = drawn draw restart before ++ draw seg := by
  rcases hbefore with rfl | ⟨front, rfl⟩
  · rw [nil_append, drawn_nil hdraw, nil_append, drawn_of_notMem hseg]
  · rw [append_assoc, singleton_append, drawn_append_cons, drawn_append_restart hdraw,
      drawn_of_notMem hseg]

end

end Segments
