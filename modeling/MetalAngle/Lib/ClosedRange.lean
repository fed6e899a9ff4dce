import Mathlib.Tactic

/-!
# Sorted lists of closed ranges

A list of closed ranges stands for the numbers that they cover.  The ranges are in order, with
more than `gap` numbers from the end of each one to the start of the next.
-/

structure ClosedRange where
  first : Nat
  last : Nat

namespace ClosedRange

open List

def Contains (r : ClosedRange) (x : Nat) : Prop := r.first ≤ x ∧ x ≤ r.last

instance (r : ClosedRange) (x : Nat) : Decidable (r.Contains x) :=
  inferInstanceAs (Decidable (_ ∧ _))

def Covers (l : List ClosedRange) (x : Nat) : Prop := ∃ r ∈ l, r.Contains x

instance (l : List ClosedRange) (x : Nat) : Decidable (Covers l x) :=
  inferInstanceAs (Decidable (∃ r ∈ l, _))

variable {gap x : Nat} {r : ClosedRange} {l l' : List ClosedRange}

@[simp] theorem not_covers_nil : ¬ Covers [] x := by
  simp [Covers]

@[simp] theorem covers_cons : Covers (r :: l) x ↔ r.Contains x ∨ Covers l x := by
  simp [Covers]

@[simp] theorem covers_append : Covers (l ++ l') x ↔ Covers l x ∨ Covers l' x := by
  simp [Covers, or_and_right, exists_or]

/-- Nonempty ranges, in order and apart. -/
structure Separated (gap : Nat) (l : List ClosedRange) : Prop where
  nonempty : ∀ r ∈ l, r.first ≤ r.last
  apart : l.Pairwise fun r r' => r.last + gap < r'.first

theorem separated_nil (gap : Nat) : Separated gap [] :=
  ⟨fun r hr => by contradiction, .nil⟩

theorem separated_cons : Separated gap (r :: l) ↔
    r.first ≤ r.last ∧ (∀ r' ∈ l, r.last + gap < r'.first) ∧ Separated gap l := by
  constructor
  case mp =>
    intro h
    obtain ⟨hfirst, hrest⟩ := pairwise_cons.mp h.apart
    exact ⟨h.nonempty r mem_cons_self, hfirst,
      fun r' hr' => h.nonempty r' (mem_cons_of_mem r hr'), hrest⟩
  case mpr =>
    rintro ⟨hr, hfirst, h⟩
    exact ⟨forall_mem_cons.mpr ⟨hr, h.nonempty⟩, pairwise_cons.mpr ⟨hfirst, h.apart⟩⟩

theorem separated_append : Separated gap (l ++ l') ↔ Separated gap l ∧ Separated gap l' ∧
    ∀ r ∈ l, ∀ r' ∈ l', r.last + gap < r'.first := by
  constructor
  case mp =>
    intro h
    obtain ⟨hl, hl', hcross⟩ := pairwise_append.mp h.apart
    exact ⟨⟨fun r hr => h.nonempty r (mem_append_left l' hr), hl⟩,
      ⟨fun r hr => h.nonempty r (mem_append_right l hr), hl'⟩, hcross⟩
  case mpr =>
    rintro ⟨hl, hl', hcross⟩
    refine ⟨fun r hr => ?_, pairwise_append.mpr ⟨hl.apart, hl'.apart, hcross⟩⟩
    exact (mem_append.mp hr).elim (hl.nonempty r) (hl'.nonempty r)

theorem Separated.pairwise_first_lt (h : Separated gap l) :
    l.Pairwise fun r r' => r.first < r'.first := by
  apply h.apart.imp_of_mem
  intro r r' hr _ hlt
  have hle := h.nonempty r hr
  omega

theorem Separated.pairwise_last_lt (h : Separated gap l) :
    l.Pairwise fun r r' => r.last < r'.last := by
  apply h.apart.imp_of_mem
  intro r r' _ hr' hlt
  have hle := h.nonempty r' hr'
  omega

variable {before after : List ClosedRange}

theorem separated_split : Separated gap (before ++ r :: after) ↔
    Separated gap before ∧ Separated gap after ∧ r.first ≤ r.last ∧
      (∀ r' ∈ before, r'.last + gap < r.first) ∧ (∀ r' ∈ after, r.last + gap < r'.first) := by
  constructor
  case mp =>
    intro h
    obtain ⟨hbefore, hrest, hcross⟩ := separated_append.mp h
    obtain ⟨hr, hafter, hlater⟩ := separated_cons.mp hrest
    exact ⟨hbefore, hlater, hr, fun r' hr' => hcross r' hr' r mem_cons_self, hafter⟩
  case mpr =>
    rintro ⟨hbefore, hlater, hr, hleft, hright⟩
    apply separated_append.mpr
    refine ⟨hbefore, separated_cons.mpr ⟨hr, hright, hlater⟩, fun r' hr' r'' hr'' => ?_⟩
    have hr' := hleft r' hr'
    rcases mem_cons.mp hr'' with rfl | hr''
    · exact hr'
    · have hr'' := hright r'' hr''
      omega

/-- Nothing is covered between an entry and the next one. -/
theorem Separated.not_covers_of_gap
    (h : Separated gap (before ++ r :: after)) (hlast : r.last < x)
    (hafter : ∀ r' ∈ after, x < r'.first) : ¬ Covers (before ++ r :: after) x := by
  obtain ⟨-, -, hnonempty, hbefore, -⟩ := separated_split.mp h
  rintro ⟨r', hr', hfirst', hlast'⟩
  rcases mem_append.mp hr' with hr' | hr'
  · have hlt := hbefore r' hr'
    omega
  · rcases mem_cons.mp hr' with rfl | hr'
    · omega
    · have hlt := hafter r' hr'
      omega

/-- An entry may be replaced by separated ranges inside it. -/
theorem Separated.replace {kept : List ClosedRange}
    (h : Separated gap (before ++ r :: after)) (hkept : Separated gap kept)
    (hwithin : ∀ k ∈ kept, r.first ≤ k.first ∧ k.last ≤ r.last) :
    Separated gap (before ++ (kept ++ after)) := by
  obtain ⟨hbefore, hafter, hnonempty, hleft, hright⟩ := separated_split.mp h
  apply separated_append.mpr
  refine ⟨hbefore, separated_append.mpr ⟨hkept, hafter, fun k hk r' hr' => ?_⟩,
    fun r' hr' k hk => ?_⟩
  · have hlast := (hwithin k hk).2
    have hnext := hright r' hr'
    omega
  · have hprevious := hleft r' hr'
    rcases mem_append.mp hk with hk | hk
    · have hstart := (hwithin k hk).1
      omega
    · have hnext := hright k hk
      omega

theorem covers_replace {kept : List ClosedRange} {P : Nat → Prop}
    (hkept : ∀ x, Covers kept x ↔ r.Contains x ∧ P x) :
    Covers (before ++ (kept ++ after)) x ↔
      Covers before x ∨ r.Contains x ∧ P x ∨ Covers after x := by
  rw [covers_append, covers_append, hkept]

theorem separated_singleton (gap : Nat) (hr : r.first ≤ r.last) : Separated gap [r] :=
  separated_cons.mpr ⟨hr, fun r' hr' => by contradiction, separated_nil gap⟩

/-- The entries from the one that a binary search finds on all fail the test. -/
theorem not_of_mem_dropWhile {R : ClosedRange → ClosedRange → Prop} {p : ClosedRange → Bool}
    (hsorted : l.Pairwise R) (hdown : ∀ r r', R r r' → p r' → p r)
    (hr : r ∈ l.dropWhile p) : p r = false := by
  induction l with
  | nil => contradiction
  | cons first rest ih =>
    obtain ⟨hfirst, hrest⟩ := pairwise_cons.mp hsorted
    cases htest : p first with
    | true =>
        rw [dropWhile_cons_of_pos htest] at hr
        exact ih hrest hr
    | false =>
      rw [dropWhile_cons_of_neg (by rw [htest]; exact Bool.false_ne_true)] at hr
      rcases mem_cons.mp hr with rfl | hlater
      · exact htest
      · apply Bool.eq_false_iff.mpr
        intro hpass
        exact Bool.false_ne_true (htest.symm.trans (hdown first r (hfirst r hlater) hpass))

end ClosedRange
