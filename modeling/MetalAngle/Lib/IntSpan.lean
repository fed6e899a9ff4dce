import Mathlib.Data.Set.Basic

/-!
# Spans of integers

A span is the set of the integers from `lo` up to, but not including, `hi`.  Two spans meet when
they share an integer; they are separate when one lies, as a range on the line, entirely to one
side of the other.  For empty spans the two notions differ.
-/

/-- The integers from `lo` up to `hi`. -/
@[ext]
structure IntSpan where
  lo : Int
  hi : Int
deriving DecidableEq

namespace IntSpan

instance : Membership Int IntSpan := ⟨fun s i => s.lo ≤ i ∧ i < s.hi⟩

variable {s : IntSpan}

theorem mem_iff {i : Int} : i ∈ s ↔ s.lo ≤ i ∧ i < s.hi := Iff.rfl

instance (i : Int) (s : IntSpan) : Decidable (i ∈ s) := inferInstanceAs (Decidable (_ ∧ _))

def between (a b : Int) : IntSpan := ⟨min a b, max a b⟩

def inter (s t : IntSpan) : IntSpan := ⟨max s.lo t.lo, min s.hi t.hi⟩

/-- The spans share an integer. -/
def Meets (s t : IntSpan) : Prop := (s.inter t).lo < (s.inter t).hi

/-- One span ends before the other begins. -/
def Separate (s t : IntSpan) : Prop := s.lo ≥ t.hi ∨ s.hi ≤ t.lo

instance (s t : IntSpan) : Decidable (s.Meets t) := inferInstanceAs (Decidable (_ < _))

instance (s t : IntSpan) : Decidable (s.Separate t) := inferInstanceAs (Decidable (_ ∨ _))

variable {t : IntSpan}

theorem mem_inter {i : Int} : i ∈ s.inter t ↔ i ∈ s ∧ i ∈ t := by
  simp only [mem_iff, inter]
  omega

/-- Spans with the same members are equal, when they have any. -/
theorem eq_of_mem_iff (hne : s.lo < s.hi) (hmem : ∀ i, i ∈ s ↔ i ∈ t) : s = t := by
  have hfirst := (hmem s.lo).mp ⟨Int.le_refl _, hne⟩
  have hlast := (hmem (s.hi - 1)).mp ⟨by omega, by omega⟩
  have hbefore := (hmem (s.lo - 1)).mpr
  have hafter := (hmem s.hi).mpr
  simp only [mem_iff] at hfirst hlast hbefore hafter
  ext
  · omega
  · omega

def points (s t : IntSpan) : Set (Int × Int) := {p | p.1 ∈ s ∧ p.2 ∈ t}

theorem mem_points {p : Int × Int} : p ∈ points s t ↔ p.1 ∈ s ∧ p.2 ∈ t := Iff.rfl

theorem points_inter (s t s' t' : IntSpan) :
    points s t ∩ points s' t' = points (s.inter s') (t.inter t') := by
  ext p
  simp only [Set.mem_inter_iff, mem_points, mem_inter]
  exact and_and_and_comm

theorem points_nonempty_iff :
    (points s t).Nonempty ↔ s.lo < s.hi ∧ t.lo < t.hi := by
  constructor
  · rintro ⟨p, hs, ht⟩
    exact ⟨Int.lt_of_le_of_lt hs.1 hs.2, Int.lt_of_le_of_lt ht.1 ht.2⟩
  · rintro ⟨hs, ht⟩
    exact ⟨(s.lo, t.lo), ⟨Int.le_refl _, hs⟩, Int.le_refl _, ht⟩

theorem points_eq_iff {s' t' : IntSpan} (hs : s.lo < s.hi) (ht : t.lo < t.hi) :
    points s' t' = points s t ↔ s' = s ∧ t' = t := by
  constructor
  · intro heq
    have hiff : ∀ i j, (i ∈ s' ∧ j ∈ t') ↔ (i ∈ s ∧ j ∈ t) := fun i j => by
      have hpoint := Set.ext_iff.mp heq (i, j)
      exact hpoint
    have hs' := (hiff s.lo t.lo).mpr ⟨⟨Int.le_refl _, hs⟩, Int.le_refl _, ht⟩
    constructor
    · exact (eq_of_mem_iff hs fun i => ⟨fun hi => ((hiff i t.lo).mpr ⟨hi, Int.le_refl _, ht⟩).1,
        fun hi => ((hiff i t.lo).mp ⟨hi, hs'.2⟩).1⟩).symm
    · exact (eq_of_mem_iff ht fun j => ⟨fun hj => ((hiff s.lo j).mpr ⟨⟨Int.le_refl _, hs⟩, hj⟩).2,
        fun hj => ((hiff s.lo j).mp ⟨hs'.1, hj⟩).2⟩).symm
  · rintro ⟨rfl, rfl⟩
    rfl

end IntSpan
