import MetalAngle.Gl.IndexRangeCache

/-!
# What an index range spans

The range that the loops over the indices of a draw compute goes from the smallest vertex to the
largest one.
-/

namespace MetalAngle.Gl

open IndexRange

/-- The indices that are vertices. -/
def RealIndex (indices : Nat → Nat) (count : Nat) (restart : Option Nat) (v : Nat) : Prop :=
  ∃ k < count, indices k = v ∧ restart ≠ some v

/-- A range goes from the smallest vertex to the largest one. -/
structure IndexRange.Spans (range : IndexRange) (Vertex : Nat → Prop) : Prop where
  bounds : ∀ v, Vertex v → range.start ≤ v ∧ v ≤ range.last
  start : (∃ v, Vertex v) → Vertex range.start
  last : (∃ v, Vertex v) → Vertex range.last
  count : 0 < range.vertexIndexCount ↔ ∃ v, Vertex v
  empty : (¬ ∃ v, Vertex v) → range.last = 0

namespace IndexRange

/-- The range of the vertices that a loop has visited, of which there is one already. -/
structure Spanning (range : IndexRange) (Vertex : Nat → Prop) : Prop where
  bounds : ∀ v, Vertex v → range.start ≤ v ∧ v ≤ range.last
  start : Vertex range.start
  last : Vertex range.last
  count : 0 < range.vertexIndexCount

variable {range : IndexRange} {Vertex : Nat → Prop}

section

variable (h : range.Spanning Vertex)
include h

theorem Spanning.spans :
    range.Spans Vertex where
  __ := h
  start _ := h.start
  last _ := h.last
  count := ⟨fun _ => ⟨_, h.start⟩, fun _ => h.count⟩
  empty hnone := (hnone ⟨_, h.start⟩).elim

theorem Spanning.congr {Vertex' : Nat → Prop} (hiff : ∀ v, Vertex' v ↔ Vertex v) : range.Spanning Vertex' where
  __ := h
  bounds v hv := h.bounds v ((hiff v).mp hv)
  start := (hiff _).mpr h.start
  last := (hiff _).mpr h.last

theorem Spanning.visit (index : Nat) : (range.visit index).Spanning fun v => Vertex v ∨ v = index where
  __ := h
  bounds v hv := by
    unfold IndexRange.visit
    dsimp only
    rcases hv with hv | rfl
    · have hbounds := h.bounds v hv
      split <;> split <;> omega
    · have hbounds := h.bounds _ h.start
      split <;> split <;> omega
  start := by
    unfold IndexRange.visit
    dsimp only
    split
    · exact .inr rfl
    · exact .inl h.start
  last := by
    unfold IndexRange.visit
    dsimp only
    split
    · exact .inr rfl
    · exact .inl h.last

theorem Spanning.counted :
    range.count.Spanning Vertex where
  __ := h
  count := Nat.succ_pos _

end

theorem spanning_first (index n : Nat) (hn : 0 < n) :
    (IndexRange.mk index index n).Spanning (· = index) where
  bounds v hv := by
    subst hv
    exact ⟨le_refl _, le_refl _⟩
  start := rfl
  last := rfl
  count := hn

theorem firstIndex_spec (indices : Nat → Nat) (restart i n : Nat) :
    i ≤ firstIndex indices restart i n ∧ firstIndex indices restart i n ≤ i + n ∧
      (∀ k, i ≤ k → k < firstIndex indices restart i n → indices k = restart) ∧
        (firstIndex indices restart i n < i + n →
          indices (firstIndex indices restart i n) ≠ restart) := by
  induction n generalizing i with
  | zero =>
      unfold firstIndex
      exact ⟨le_refl _, le_refl _, fun k hle hlt => by omega, fun hlt => by omega⟩
  | succ n ih =>
    unfold firstIndex
    split
    case isTrue hreal =>
      exact ⟨le_refl _, by omega, fun k hle hlt => by omega, fun _ => hreal⟩
    case isFalse hrestart =>
      obtain ⟨hle, hbound, hskipped, hfound⟩ := ih (i + 1)
      refine ⟨by omega, by omega, fun k hk hlt => ?_, fun hlt => hfound (by omega)⟩
      by_cases hki : k = i
      · subst hki
        exact not_not.mp hrestart
      · exact hskipped k (by omega) hlt

/-- The loop over the indices from `i` on. -/
theorem spanning_loop (indices : Nat → Nat) (restart : Option Nat)
    (round : IndexRange → Nat → IndexRange) (i n : Nat) (hrange : range.Spanning Vertex)
    (hround : ∀ (range : IndexRange) k (Vertex : Nat → Prop), range.Spanning Vertex →
      (round range k).Spanning fun v => Vertex v ∨ indices k = v ∧ restart ≠ some v) :
    ((List.range' i n).foldl round range).Spanning fun v =>
      Vertex v ∨ ∃ k, i ≤ k ∧ k < i + n ∧ indices k = v ∧ restart ≠ some v := by
  induction n generalizing i range Vertex with
  | zero =>
      refine hrange.congr fun v => ⟨fun hv => ?_, .inl⟩
      rcases hv with hv | ⟨k, hle, hlt, -⟩
      · exact hv
      · omega
  | succ n ih =>
    rw [List.range'_succ, List.foldl_cons]
    refine (ih (i + 1) (hround range i Vertex hrange)).congr fun v => ?_
    constructor
    · rintro (hv | ⟨k, hle, hlt, hk⟩)
      · exact .inl (.inl hv)
      · by_cases hki : k = i
        · subst hki
          exact .inl (.inr hk)
        · exact .inr ⟨k, by omega, by omega, hk⟩
    · rintro ((hv | hv) | ⟨k, hle, hlt, hk⟩)
      · exact .inl hv
      · exact .inr ⟨i, le_refl _, by omega, hv⟩
      · exact .inr ⟨k, by omega, by omega, hk⟩

end IndexRange

/-- The range of indices goes from the smallest vertex to the largest one. -/
theorem computeTypedIndexRange_spans (indices : Nat → Nat) {count : Nat} (hcount : 0 < count)
    (enabled : Bool) (restartIndex : Nat) :
    (computeTypedIndexRange indices count enabled restartIndex).Spans
      (RealIndex indices count (if enabled then some restartIndex else none)) := by
  unfold computeTypedIndexRange
  cases enabled with
  | false =>
    rw [if_neg Bool.false_ne_true, if_neg Bool.false_ne_true]
    apply IndexRange.Spanning.spans
    have hloop := spanning_loop indices none (fun range k => range.visit (indices k)) 1
      (count - 1) (spanning_first (indices 0) count hcount)
      fun range k Vertex hrange => (hrange.visit (indices k)).congr fun v => by simp [eq_comm]
    refine hloop.congr fun v => ?_
    constructor
    · rintro ⟨k, hk, hv, -⟩
      by_cases hzero : k = 0
      · subst hzero
        exact .inl hv.symm
      · exact .inr ⟨k, by omega, by omega, hv, nofun⟩
    · rintro (hv | ⟨k, hle, hlt, hk⟩)
      · exact ⟨0, hcount, hv.symm, nofun⟩
      · exact ⟨k, by omega, hk⟩
  | true =>
    rw [if_pos rfl, if_pos rfl]
    dsimp only
    obtain ⟨i, hi⟩ : ∃ i, i = firstIndex indices restartIndex 0 count := ⟨_, rfl⟩
    obtain ⟨-, hbound, hskipped, hfound⟩ :=
      firstIndex_spec indices restartIndex 0 count
    rw [← hi] at hbound hskipped hfound ⊢
    by_cases hreal : i < count
    case neg =>
      -- All indices are restart indices.
      have hcountEq : count - i = 0 := by omega
      have hnone : ¬ ∃ v, RealIndex indices count (some restartIndex) v := by
        rintro ⟨v, k, hk, hv, hne⟩
        rw [hskipped k (Nat.zero_le _) (by omega)] at hv
        exact hne (congrArg some hv)
      rw [if_neg hreal, hcountEq]
      exact ⟨fun v hv => (hnone ⟨v, hv⟩).elim, fun hv => (hnone hv).elim,
        fun hv => (hnone hv).elim, ⟨fun hpos => absurd hpos (lt_irrefl 0),
          fun hv => (hnone hv).elim⟩, fun _ => rfl⟩
    case pos =>
      rw [if_pos hreal]
      apply IndexRange.Spanning.spans
      have hround : ∀ (range : IndexRange) k (Vertex : Nat → Prop), range.Spanning Vertex →
          (if indices k ≠ restartIndex then (range.visit (indices k)).count else range).Spanning
            fun v => Vertex v ∨ indices k = v ∧ some restartIndex ≠ some v := by
        intro range k Vertex hrange
        split
        case isTrue hk =>
          refine (hrange.visit (indices k)).counted.congr fun v => ?_
          constructor
          · rintro (hv | ⟨hv, -⟩)
            · exact .inl hv
            · exact .inr hv.symm
          · rintro (hv | rfl)
            · exact .inl hv
            · exact .inr ⟨rfl, fun heq => hk (Option.some.inj heq).symm⟩
        case isFalse hk =>
          refine hrange.congr fun v => ⟨fun hv => ?_, .inl⟩
          rcases hv with hv | ⟨hv, hne⟩
          · exact hv
          · exact (hne (congrArg some ((not_not.mp hk).symm.trans hv))).elim
      have hloop := spanning_loop indices (some restartIndex) _ i (count - i)
        (spanning_first (indices i) 1 Nat.one_pos) hround
      refine hloop.congr fun v => ?_
      constructor
      · rintro ⟨k, hk, hv, hne⟩
        refine .inr ⟨k, ?_, by omega, hv, hne⟩
        by_contra hlt
        rw [hskipped k (Nat.zero_le _) (by omega)] at hv
        exact hne (congrArg some hv)
      · rintro (hv | ⟨k, hle, hlt, hk⟩)
        · refine ⟨i, hreal, hv.symm, fun heq => ?_⟩
          rw [Option.some.inj heq] at hfound
          exact hfound (by omega) hv.symm
        · exact ⟨k, by omega, hk⟩

end MetalAngle.Gl
