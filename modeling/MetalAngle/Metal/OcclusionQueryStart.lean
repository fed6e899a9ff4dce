import MetalAngle.Metal.OcclusionQueryPasses

/-!
# Occlusion queries: starting a query in a pass

A query starts with a new slot at the end of the pool: afresh at its begin, with its old
value as the first query of a pass, or with an additional slot after a temporary disabling.
In each case the asserts hold and the state becomes live.
-/

namespace MetalAngle.Metal

open OcclusionQueryPool List Nat
open Function (update update_self update_of_ne)

namespace OcclusionContext

open VisibilityBufferOffsetsMtl RenderCommandEncoder

variable {s t : OcclusionContext}

/-! ## Starting a query in a pass -/

/-- The state `t` has a new last slot for `query`, not drawn into yet. -/
structure Allocated (s t : OcclusionContext) (query : Nat) : Prop where
  base : t.Base
  encoder : t.mRenderEncoder = s.mRenderEncoder
  active : t.mOcclusionQuery = s.mOcclusionQuery
  buffer : t.mOcclusionQueryPool.hasBuffer = s.mOcclusionQueryPool.hasBuffer
  allow : t.allowBufferReadWrite = s.allowBufferReadWrite
  nonempty : (t.offsets query).mNumOffsets ≠ 0
  last : (t.offsets query).slot + (t.offsets query).mNumOffsets =
    t.mOcclusionQueryPool.mAllocatedQueries.length
  counted : t.Counted (t.mOcclusionQueryPool.mAllocatedQueries.length - 1)
  earlier : ∀ q j, (t.offsets q).Covers j → t.Counted j →
    j ≠ t.mOcclusionQueryPool.mAllocatedQueries.length - 1 → t.drawnSlots j
  undrawn : t.drawnSlots (t.mOcclusionQueryPool.mAllocatedQueries.length - 1) = false

def enable (s : OcclusionContext) (query : Nat) : OcclusionContext :=
  { s with
    mRenderEncoder := s.mRenderEncoder.setVisibilityResultMode .Boolean (s.offsets query).back
    drawCalls := 0 }

theorem startOcclusionQueryInRenderPass_eq (hrecording : s.mRenderEncoder.mRecording)
    (query : Nat) (clear : Bool) :
    s.startOcclusionQueryInRenderPass query clear =
      (s.allocateQueryOffset query clear).enable query := by
  unfold startOcclusionQueryInRenderPass
  rw [assert_of_true hrecording]
  rfl

theorem Allocated.enable {query : Nat} (h : Allocated s t query)
    (hrecording : s.mRenderEncoder.mRecording) :
    (t.enable query).Base ∧ (t.enable query).Live query := by
  have hinv := visibilityInv_setVisibilityResultMode h.base.encoder
    (h.encoder ▸ hrecording) .Boolean (t.offsets query).back
  have hbase := h.base.setEncoder hinv (setVisibilityResultMode_mRecording _ _)
  refine ⟨{ hbase with }, ?_⟩
  exact { h with
    mode := setVisibilityResultMode_mode _ _
    offset := setVisibilityResultMode_offset _ _
    lastDrawn := iff_of_false (by
      change ¬ t.drawnSlots _
      rw [Bool.not_eq_true]
      exact h.undrawn) (not_not.mpr rfl) }

def withFirstOffset (s : OcclusionContext) (query : Nat) : OcclusionContext :=
  { s.pushQuery (some query) with
    offsets := update s.offsets query
      { mStartOffset := s.mOcclusionQueryPool.currentOffset, mNumOffsets := 1 } }

def withAdditionalOffset (s : OcclusionContext) (query : Nat) : OcclusionContext :=
  { s.pushQuery none with
    offsets := update s.offsets query (s.offsets query).addOffset }

theorem allocateNextOffset_of_asserts {query : Nat} {clear : Bool}
    (hassert : (clear || s.mOcclusionQueryPool.mAllocatedQueries.isEmpty ||
      !(s.offsets query).isEmpty))
    (hcan : s.mOcclusionQueryPool.canAllocateQueryOffset)
    (hcleared : t = if clear then s.deallocateQueryOffset query else s) :
    s.allocateNextOffset query clear = if (t.offsets query).isEmpty then
        { t.pushQuery (some query) with
          offsets := update t.offsets query
            { mStartOffset := s.mOcclusionQueryPool.currentOffset, mNumOffsets := 1 } }
      else
        (t.assert (s.mOcclusionQueryPool.currentOffset ==
          (t.offsets query).back + kOcclusionQueryResultSize)).withAdditionalOffset query := by
  unfold allocateNextOffset
  rw [assert_of_true hassert]
  simp only [assert_of_true hcan, ← hcleared]
  rfl

theorem allocateNextOffset_of_empty {query : Nat} (clear : Bool)
    (hcan : s.mOcclusionQueryPool.canAllocateQueryOffset)
    (hfirst : clear ∨ s.mOcclusionQueryPool.mAllocatedQueries = [])
    (hnum : (s.offsets query).mNumOffsets = 0) :
    s.allocateNextOffset query clear = s.withFirstOffset query := by
  have hempty : (s.offsets query).isEmpty := isEmpty_iff.mpr hnum
  have hassert : (clear || s.mOcclusionQueryPool.mAllocatedQueries.isEmpty ||
      !(s.offsets query).isEmpty) := by
    rcases hfirst with rfl | hnil
    · rfl
    · rw [hnil, isEmpty_nil, Bool.or_true, Bool.true_or]
  have hcleared : s = if clear then s.deallocateQueryOffset query else s := by
    unfold deallocateQueryOffset
    rw [if_pos hempty, ite_self]
  rw [allocateNextOffset_of_asserts hassert hcan hcleared, if_pos hempty]
  rfl

theorem allocateNextOffset_of_nonempty (h : s.Base) {query : Nat}
    (hcan : s.mOcclusionQueryPool.canAllocateQueryOffset)
    (hnum : (s.offsets query).mNumOffsets ≠ 0)
    (hlast : (s.offsets query).slot + (s.offsets query).mNumOffsets =
      s.mOcclusionQueryPool.mAllocatedQueries.length) :
    s.allocateNextOffset query false = s.withAdditionalOffset query := by
  have hempty : (s.offsets query).isEmpty = false := isEmpty_eq_false_iff.mpr hnum
  have hassert : (false || s.mOcclusionQueryPool.mAllocatedQueries.isEmpty ||
      !(s.offsets query).isEmpty) := by
    rw [hempty, Bool.not_false, Bool.or_true]
  have hcontinuous : (s.mOcclusionQueryPool.currentOffset ==
      (s.offsets query).back + kOcclusionQueryResultSize) := by
    rw [beq_iff_eq, back_eq h hnum, ← succ_mul]
    unfold currentOffset
    rw [← hlast, Nat.succ_eq_add_one, Nat.sub_add_cancel (by omega)]
  rw [allocateNextOffset_of_asserts hassert hcan rfl]
  simp [hempty, assert_of_true hcontinuous]

theorem allocateNextOffset_clear {query : Nat}
    (hcan : s.mOcclusionQueryPool.canAllocateQueryOffset) :
    s.allocateNextOffset query true = (s.deallocateQueryOffset query).withFirstOffset query := by
  by_cases hempty : (s.offsets query).isEmpty
  · have hsame : s.deallocateQueryOffset query = s := by
      unfold deallocateQueryOffset
      rw [if_pos hempty]
    rw [hsame]
    exact allocateNextOffset_of_empty true hcan (.inl rfl) (isEmpty_iff.mp hempty)
  · have hfreed : (s.deallocateQueryOffset query).offsets query = {} := by
      unfold deallocateQueryOffset
      rw [if_neg hempty]
      exact update_self _ _ _
    have hlength : (s.deallocateQueryOffset query).mOcclusionQueryPool.currentOffset =
        s.mOcclusionQueryPool.currentOffset := by
      unfold deallocateQueryOffset currentOffset
      rw [if_neg hempty]
      simp only [length_set]
    have hassert : (true || s.mOcclusionQueryPool.mAllocatedQueries.isEmpty ||
        !(s.offsets query).isEmpty) := by
      rw [Bool.true_or, Bool.true_or]
    rw [allocateNextOffset_of_asserts hassert hcan rfl]
    simp only [if_true, hfreed]
    rw [← hlength]
    rfl

def withReset (s : OcclusionContext) (reset : Bool) : OcclusionContext :=
  { s with mOcclusionQueryPool := { s.mOcclusionQueryPool with mResetFirstQuery := reset } }

@[simp] theorem withReset_offsets (reset : Bool) : (s.withReset reset).offsets = s.offsets := rfl

@[simp] theorem withReset_queries (reset : Bool) :
    (s.withReset reset).mOcclusionQueryPool.mAllocatedQueries =
      s.mOcclusionQueryPool.mAllocatedQueries := rfl

theorem Base.deallocateQueryOffset (h : s.Base) (query : Nat) :
    (s.deallocateQueryOffset query).Base := by
  unfold OcclusionContext.deallocateQueryOffset
  split
  · exact h
  · rename_i hempty
    have hnum := isEmpty_iff.not.mp hempty
    exact { h with
      layout := h.layout.deallocate hnum
      fresh := fun j hj => by
        simp only [length_set]
        exact h.fresh j hj
      idle := fun hidle => absurd (h.num_eq_zero (h.idle hidle) query) hnum }

theorem deallocateQueryOffset_eq (s : OcclusionContext) (query : Nat) :
    ∃ queries, queries.length = s.mOcclusionQueryPool.mAllocatedQueries.length ∧
      s.deallocateQueryOffset query = { s with
        mOcclusionQueryPool := { s.mOcclusionQueryPool with mAllocatedQueries := queries }
        offsets := (s.deallocateQueryOffset query).offsets } := by
  unfold deallocateQueryOffset
  split
  · exact ⟨_, rfl, rfl⟩
  · exact ⟨_, length_set, rfl⟩

theorem deallocateQueryOffset_self (query : Nat) :
    ((s.deallocateQueryOffset query).offsets query).mNumOffsets = 0 := by
  unfold deallocateQueryOffset
  split
  · rename_i hempty
    exact isEmpty_iff.mp hempty
  · simp only [update_self]

variable {q : Nat}

theorem deallocateQueryOffset_other {query : Nat} (hne : q ≠ query) :
    (s.deallocateQueryOffset query).offsets q = s.offsets q := by
  unfold deallocateQueryOffset
  split
  · rfl
  · exact update_of_ne hne _ _

theorem undrawn_length (h : s.Base) :
    s.drawnSlots s.mOcclusionQueryPool.mAllocatedQueries.length = false := by
  rw [← Bool.not_eq_true]
  exact fun hdrawn => absurd (h.fresh _ hdrawn) (lt_irrefl _)

section Push

variable {query : Nat} {reset : Bool}

theorem withFirstOffset_slot (s : OcclusionContext) (query : Nat) :
    ((s.withFirstOffset query).offsets query).slot =
      s.mOcclusionQueryPool.mAllocatedQueries.length := by
  unfold withFirstOffset
  simp only [update_self]
  exact Nat.mul_div_cancel _ (by decide)

theorem withFirstOffset_num (s : OcclusionContext) (query : Nat) :
    ((s.withFirstOffset query).offsets query).mNumOffsets = 1 := by
  unfold withFirstOffset
  simp only [update_self]

theorem withFirstOffset_length (s : OcclusionContext) (query : Nat) :
    (s.withFirstOffset query).mOcclusionQueryPool.mAllocatedQueries.length =
      s.mOcclusionQueryPool.mAllocatedQueries.length + 1 :=
  length_append

variable {j : Nat}

theorem withFirstOffset_covers
    (hj : ((s.withFirstOffset query).offsets query).Covers j) :
    j = s.mOcclusionQueryPool.mAllocatedQueries.length := by
  unfold Covers at hj
  rw [withFirstOffset_slot, withFirstOffset_num] at hj
  omega

theorem Base.withFirstOffset (h : s.Base) (hrecording : s.mRenderEncoder.mRecording)
    (hnum : (s.offsets query).mNumOffsets = 0) :
    ((s.withFirstOffset query).withReset reset).Base where
  __ := h
  layout := h.layout.push hnum
  fresh j hj := by
    rw [withReset_queries, withFirstOffset_length]
    exact (h.fresh j hj).trans (lt_succ_self _)
  idle hidle := absurd (hidle.symm.trans hrecording) Bool.false_ne_true

theorem withFirstOffset_other (h : s.Base) (hreset : s.mOcclusionQueryPool.mAllocatedQueries ≠ [] →
      reset = s.mOcclusionQueryPool.mResetFirstQuery) (hne : q ≠ query) :
    ((s.withFirstOffset query).withReset reset).Pending q ↔ s.Pending q := by
  refine pending_congr (update_of_ne hne _ _) rfl rfl rfl rfl fun hnum => hreset ?_
  intro hnil
  exact hnum (h.num_eq_zero hnil q)

theorem withFirstOffset_pending (h : s.Base) :
    ((s.withFirstOffset query).withReset reset).Pending query ↔
      s.mOcclusionQueryPool.mAllocatedQueries = [] ∧ reset = false ∧
        s.visibilityResult query ≠ 0 := by
  have hnum : (((s.withFirstOffset query).withReset reset).offsets query).mNumOffsets ≠ 0 := by
    rw [withReset_offsets, withFirstOffset_num]
    exact one_ne_zero
  rw [pending_of_nonempty hnum]
  unfold KeepsOld
  rw [withReset_offsets, withFirstOffset_slot, length_eq_zero_iff, and_assoc]
  apply or_iff_left
  rintro ⟨j, hj, -, hdrawn, -⟩
  rw [withFirstOffset_covers hj] at hdrawn
  exact absurd ((undrawn_length h).symm.trans hdrawn) Bool.false_ne_true

theorem allocated_withFirstOffset (h : s.Base) (hdrawn : s.AllDrawn)
    (hrecording : s.mRenderEncoder.mRecording) (hnum : (s.offsets query).mNumOffsets = 0)
    (hreset : s.mOcclusionQueryPool.mAllocatedQueries ≠ [] →
      reset = s.mOcclusionQueryPool.mResetFirstQuery)
    (hcounted : s.mOcclusionQueryPool.mAllocatedQueries = [] →
      reset ∨ s.allowBufferReadWrite) :
    Allocated s ((s.withFirstOffset query).withReset reset) query := by
  have hlength : ((s.withFirstOffset query).withReset
      reset).mOcclusionQueryPool.mAllocatedQueries.length - 1 =
      s.mOcclusionQueryPool.mAllocatedQueries.length := by
    rw [withReset_queries, withFirstOffset_length, Nat.add_sub_cancel]
  refine ⟨h.withFirstOffset hrecording hnum, rfl, rfl, rfl, rfl, ?_, ?_, ?_, ?_, ?_⟩
  · rw [withReset_offsets, withFirstOffset_num]
    exact one_ne_zero
  · rw [withReset_offsets, withFirstOffset_num, withFirstOffset_slot, withReset_queries,
      withFirstOffset_length]
  · rw [hlength]
    rintro ⟨hzero, hfalse, hallow⟩
    rcases hcounted (length_eq_zero_iff.mp hzero) with htrue | htrue
    · exact absurd (hfalse.symm.trans htrue) Bool.false_ne_true
    · exact absurd (hallow.symm.trans htrue) Bool.false_ne_true
  · intro q j hj hjcounted hjne
    rw [hlength] at hjne
    have hne : q ≠ query := by
      rintro rfl
      exact hjne (withFirstOffset_covers hj)
    have hold : (s.offsets q).Covers j := by
      rwa [show ((s.withFirstOffset query).withReset reset).offsets q = s.offsets q from
        update_of_ne hne _ _] at hj
    have hnonempty : s.mOcclusionQueryPool.mAllocatedQueries ≠ [] := by
      intro hnil
      exact num_ne_zero_of_covers hold (h.num_eq_zero hnil q)
    apply hdrawn q j hold
    unfold Counted at hjcounted ⊢
    rwa [← hreset hnonempty]
  · rw [hlength]
    exact undrawn_length h

theorem withAdditionalOffset_length (s : OcclusionContext) (query : Nat) :
    (s.withAdditionalOffset query).mOcclusionQueryPool.mAllocatedQueries.length =
      s.mOcclusionQueryPool.mAllocatedQueries.length + 1 :=
  length_append

theorem withAdditionalOffset_covers (hlast : (s.offsets query).slot +
      (s.offsets query).mNumOffsets = s.mOcclusionQueryPool.mAllocatedQueries.length)
    (hj : ((s.withAdditionalOffset query).offsets q).Covers j)
    (hne : j ≠ s.mOcclusionQueryPool.mAllocatedQueries.length) : (s.offsets q).Covers j := by
  by_cases hq : q = query
  · subst hq
    rw [show (s.withAdditionalOffset q).offsets q = (s.offsets q).addOffset from
      update_self _ _ _, addOffset_covers, hlast] at hj
    exact hj.resolve_right hne
  · rwa [show (s.withAdditionalOffset query).offsets q = s.offsets q from
      update_of_ne hq _ _] at hj

theorem withAdditionalOffset_keeps_covers (hj : (s.offsets q).Covers j) :
    ((s.withAdditionalOffset query).offsets q).Covers j := by
  by_cases hq : q = query
  · subst hq
    rw [show (s.withAdditionalOffset q).offsets q = (s.offsets q).addOffset from
      update_self _ _ _, addOffset_covers]
    exact .inl hj
  · rwa [show (s.withAdditionalOffset query).offsets q = s.offsets q from
      update_of_ne hq _ _]

theorem withAdditionalOffset_slot (q : Nat) :
    ((s.withAdditionalOffset query).offsets q).slot = (s.offsets q).slot := by
  by_cases hq : q = query
  · subst hq
    rw [show (s.withAdditionalOffset q).offsets q = (s.offsets q).addOffset from
      update_self _ _ _, addOffset_slot]
  · rw [show (s.withAdditionalOffset query).offsets q = s.offsets q from
      update_of_ne hq _ _]

theorem withAdditionalOffset_num :
    ((s.withAdditionalOffset query).offsets query).mNumOffsets =
      (s.offsets query).mNumOffsets + 1 := by
  rw [show (s.withAdditionalOffset query).offsets query = (s.offsets query).addOffset from
    update_self _ _ _]
  rfl

theorem allocated_withAdditionalOffset (h : s.Base) (hdrawn : s.AllDrawn)
    (hnum : (s.offsets query).mNumOffsets ≠ 0)
    (hlast : (s.offsets query).slot + (s.offsets query).mNumOffsets =
      s.mOcclusionQueryPool.mAllocatedQueries.length) :
    Allocated s (s.withAdditionalOffset query) query := by
  have hlength : (s.withAdditionalOffset query).mOcclusionQueryPool.mAllocatedQueries.length - 1 =
      s.mOcclusionQueryPool.mAllocatedQueries.length := by
    rw [withAdditionalOffset_length, Nat.add_sub_cancel]
  have hbase : (s.withAdditionalOffset query).Base := { h with
    layout := h.layout.pushAdditional hnum hlast
    fresh := fun j hj => by
      rw [withAdditionalOffset_length]
      exact (h.fresh j hj).trans (lt_succ_self _)
    idle := fun hidle =>
      absurd (hidle.symm.trans (h.recording hnum)) Bool.false_ne_true }
  refine ⟨hbase, rfl, rfl, rfl, rfl, ?_, ?_, ?_, ?_, ?_⟩
  · rw [withAdditionalOffset_num]
    exact succ_ne_zero _
  · rw [withAdditionalOffset_slot, withAdditionalOffset_num, withAdditionalOffset_length, ← hlast,
      add_assoc]
  · rw [hlength]
    rintro ⟨hzero, -⟩
    omega
  · intro q j hj hcounted hjne
    rw [hlength] at hjne
    exact hdrawn q j (withAdditionalOffset_covers hlast hj hjne) hcounted
  · rw [hlength]
    exact undrawn_length h

theorem withAdditionalOffset_pending (h : s.Base) (hnum : (s.offsets query).mNumOffsets ≠ 0)
    (hlast : (s.offsets query).slot + (s.offsets query).mNumOffsets =
      s.mOcclusionQueryPool.mAllocatedQueries.length) (q : Nat) :
    (s.withAdditionalOffset query).Pending q ↔ s.Pending q := by
  by_cases hq : q = query
  · subst hq
    have hnum' : ((s.withAdditionalOffset q).offsets q).mNumOffsets ≠ 0 := by
      rw [withAdditionalOffset_num]
      exact succ_ne_zero _
    rw [pending_of_nonempty hnum, pending_of_nonempty hnum']
    unfold KeepsOld
    rw [withAdditionalOffset_slot]
    apply or_congr_right
    constructor
    · rintro ⟨j, hj, hcounted, hdrawn, hpool⟩
      refine ⟨j, withAdditionalOffset_covers hlast hj ?_, hcounted, hdrawn, hpool⟩
      exact (h.fresh j hdrawn).ne
    · rintro ⟨j, hj, hcounted, hdrawn, hpool⟩
      exact ⟨j, withAdditionalOffset_keeps_covers hj, hcounted, hdrawn, hpool⟩
  · exact pending_congr (update_of_ne hq _ _) rfl rfl rfl rfl fun _ => rfl

end Push

section Start

variable {query : Nat}

theorem allocateQueryOffset_of_nonempty
    (hne : s.mOcclusionQueryPool.mAllocatedQueries ≠ []) (clear : Bool) :
    s.allocateQueryOffset query clear = s.allocateNextOffset query clear := by
  have hoffset : s.mOcclusionQueryPool.currentOffset ≠ 0 := by
    unfold currentOffset kOcclusionQueryResultSize
    have := length_pos_iff.mpr hne
    omega
  unfold allocateQueryOffset
  rw [if_neg hoffset]

theorem allocateQueryOffset_of_nil
    (hnil : s.mOcclusionQueryPool.mAllocatedQueries = []) (clear : Bool) :
    s.allocateQueryOffset query clear =
      if !clear && !(s.allocateNextOffset query clear).allowBufferReadWrite then
        ((s.allocateNextOffset query clear).withReset clear).allocateNextOffset query false
      else (s.allocateNextOffset query clear).withReset clear := by
  have hoffset : s.mOcclusionQueryPool.currentOffset = 0 := by
    unfold currentOffset
    rw [hnil, length_nil, zero_mul]
  unfold allocateQueryOffset
  rw [if_pos hoffset]
  rfl

/-- Starting a query afresh: its pending value is zero, and the others keep theirs. -/
theorem startClear_spec (query : Nat) (h : s.Base) (hdrawn : s.AllDrawn)
    (hrecording : s.mRenderEncoder.mRecording)
    (hcan : s.mOcclusionQueryPool.canAllocateQueryOffset) :
    ∃ t, s.startOcclusionQueryInRenderPass query true = t.enable query ∧ Allocated s t query ∧
      ¬ t.Pending query ∧ ∀ q, q ≠ query → (t.Pending q ↔ s.Pending q) := by
  refine ⟨_, startOcclusionQueryInRenderPass_eq hrecording query true, ?_⟩
  by_cases hnil : s.mOcclusionQueryPool.mAllocatedQueries = []
  · have hnum := h.num_eq_zero hnil query
    rw [allocateQueryOffset_of_nil hnil, allocateNextOffset_of_empty true hcan (.inl rfl) hnum]
    simp only [Bool.not_true, Bool.false_and, Bool.false_eq_true, if_false]
    refine ⟨allocated_withFirstOffset h hdrawn hrecording hnum (fun hne => absurd hnil hne)
      fun _ => .inl rfl, ?_, fun q hne => withFirstOffset_other h (fun hq => absurd hnil hq) hne⟩
    rw [withFirstOffset_pending h]
    rintro ⟨-, hfalse, -⟩
    exact absurd hfalse.symm Bool.false_ne_true
  · rw [allocateQueryOffset_of_nonempty hnil, allocateNextOffset_clear hcan]
    have hbase := h.deallocateQueryOffset query
    have hself := deallocateQueryOffset_self (s := s) query
    have hother := fun q (hne : q ≠ query) => deallocateQueryOffset_other (s := s) hne
    obtain ⟨queries, hlength, heq⟩ := deallocateQueryOffset_eq s query
    obtain ⟨u, hu⟩ : ∃ u, u = s.deallocateQueryOffset query := ⟨_, rfl⟩
    rw [← hu] at hbase hself hother heq ⊢
    have hqueries : u.mOcclusionQueryPool.mAllocatedQueries ≠ [] := by
      rw [heq, ← length_pos_iff]
      exact hlength ▸ length_pos_iff.mpr hnil
    have hudrawn : u.AllDrawn := by
      intro q j hj hcounted
      have hne : q ≠ query := by
        rintro rfl
        exact num_ne_zero_of_covers hj hself
      rw [heq] at hcounted ⊢
      rw [hother q hne] at hj
      exact hdrawn q j hj hcounted
    have hallocated : Allocated u (u.withFirstOffset query) query :=
      allocated_withFirstOffset hbase hudrawn (by rw [heq]; exact hrecording) hself
        (fun _ => rfl) fun hq => absurd hq hqueries
    refine ⟨{ hallocated with encoder := ?_, active := ?_, buffer := ?_, allow := ?_ }, ?_,
      fun q hne => ?_⟩
    · rw [hallocated.encoder, heq]
    · rw [hallocated.active, heq]
    · rw [hallocated.buffer, heq]
    · rw [hallocated.allow, heq]
    · have hself : (u.withFirstOffset query).Pending query ↔ _ := withFirstOffset_pending hbase
      rw [hself]
      exact fun hpending => hqueries hpending.1
    · have hsame : (u.withFirstOffset query).Pending q ↔ u.Pending q :=
        withFirstOffset_other hbase (fun _ => rfl) hne
      refine hsame.trans ?_
      refine pending_congr (hother q hne) ?_ ?_ ?_ ?_ fun _ => ?_
      all_goals rw [heq]

theorem canAllocateQueryOffset_of_fits (hbuffer : s.mOcclusionQueryPool.hasBuffer)
    (hfits : (s.mOcclusionQueryPool.mAllocatedQueries.length + 1) * kOcclusionQueryResultSize ≤
      s.mOcclusionQueryPool.mMaxRenderPassResultsPoolSize) :
    s.mOcclusionQueryPool.canAllocateQueryOffset := by
  unfold canAllocateQueryOffset currentOffset
  rw [hbuffer, Bool.true_and, decide_eq_true_iff, ← succ_mul]
  exact hfits

/-- Going on with a query in a new pass: it keeps its value, in its buffer. -/
theorem startFirst_spec (query : Nat) (h : s.Base) (hrecording : s.mRenderEncoder.mRecording)
    (hbuffer : s.mOcclusionQueryPool.hasBuffer)
    (hnil : s.mOcclusionQueryPool.mAllocatedQueries = []) :
    ∃ t, s.startOcclusionQueryInRenderPass query false = t.enable query ∧
      Allocated s t query ∧ ∀ q, t.Pending q ↔ s.Pending q := by
  refine ⟨_, startOcclusionQueryInRenderPass_eq hrecording query false, ?_⟩
  have hnum := h.num_eq_zero hnil query
  have hroom := h.room
  have hcan : s.mOcclusionQueryPool.canAllocateQueryOffset := by
    apply canAllocateQueryOffset_of_fits hbuffer
    rw [hnil, length_nil]
    omega
  rw [allocateQueryOffset_of_nil hnil, allocateNextOffset_of_empty false hcan (.inr hnil) hnum]
  have hbase : ((s.withFirstOffset query).withReset false).Base :=
    h.withFirstOffset hrecording hnum
  have hpending : ∀ q, ((s.withFirstOffset query).withReset false).Pending q ↔ s.Pending q := by
    intro q
    by_cases hq : q = query
    · subst hq
      rw [withFirstOffset_pending h, pending_of_empty hnum]
      simp only [hnil, true_and]
    · exact withFirstOffset_other h (fun hne => absurd hnil hne) hq
  by_cases hallow : s.allowBufferReadWrite
  · rw [if_neg (by
      rw [show (s.withFirstOffset query).allowBufferReadWrite = true from hallow]
      decide)]
    exact ⟨allocated_withFirstOffset h (allDrawn_of_nil h hnil) hrecording hnum
      (fun hne => absurd hnil hne) fun _ => .inr hallow, hpending⟩
  · have hallow : s.allowBufferReadWrite = false := Bool.not_eq_true _ ▸ hallow
    rw [if_pos (by
      rw [show (s.withFirstOffset query).allowBufferReadWrite = false from hallow]
      decide)]
    obtain ⟨u, hu⟩ : ∃ u, u = (s.withFirstOffset query).withReset false := ⟨_, rfl⟩
    have hnumu : (u.offsets query).mNumOffsets ≠ 0 := by
      rw [hu, withReset_offsets, withFirstOffset_num]
      exact one_ne_zero
    have hlast : (u.offsets query).slot + (u.offsets query).mNumOffsets =
        u.mOcclusionQueryPool.mAllocatedQueries.length := by
      rw [hu, withReset_offsets, withFirstOffset_num, withFirstOffset_slot, withReset_queries,
        withFirstOffset_length]
    have hcanu : u.mOcclusionQueryPool.canAllocateQueryOffset := by
      apply canAllocateQueryOffset_of_fits (hu ▸ hbuffer)
      rw [hu, withReset_queries, withFirstOffset_length, hnil, length_nil]
      exact hroom
    -- the only slot so far does not count: it is for the old value
    have hdrawnu : u.AllDrawn := by
      intro q j hj hcounted
      have hq : q = query := by
        by_contra hne
        rw [hu, withReset_offsets, show (s.withFirstOffset query).offsets q = s.offsets q from
          update_of_ne hne _ _] at hj
        exact num_ne_zero_of_covers hj (h.num_eq_zero hnil q)
      rw [hq, hu, withReset_offsets] at hj
      have hzero := withFirstOffset_covers hj
      rw [hnil, length_nil] at hzero
      exact absurd ⟨hzero, hu ▸ rfl, hu ▸ hallow⟩ hcounted
    rw [← hu] at hbase hpending ⊢
    rw [allocateNextOffset_of_nonempty hbase hcanu hnumu hlast]
    have hallocated := allocated_withAdditionalOffset hbase hdrawnu hnumu hlast
    refine ⟨{ hallocated with encoder := ?_, active := ?_, buffer := ?_, allow := ?_ }, fun q => ?_⟩
    · rw [hallocated.encoder, hu]
      rfl
    · rw [hallocated.active, hu]
      rfl
    · rw [hallocated.buffer, hu]
      rfl
    · rw [hallocated.allow, hu]
      rfl
    · exact (withAdditionalOffset_pending hbase hnumu hlast q).trans (hpending q)

theorem startAgain_spec (query : Nat) (h : s.Base) (hdrawn : s.AllDrawn)
    (hcan : s.mOcclusionQueryPool.canAllocateQueryOffset)
    (hnum : (s.offsets query).mNumOffsets ≠ 0)
    (hlast : (s.offsets query).slot + (s.offsets query).mNumOffsets =
      s.mOcclusionQueryPool.mAllocatedQueries.length) :
    s.startOcclusionQueryInRenderPass query false = (s.withAdditionalOffset query).enable query ∧
      Allocated s (s.withAdditionalOffset query) query ∧
      ∀ q, (s.withAdditionalOffset query).Pending q ↔ s.Pending q := by
  rw [startOcclusionQueryInRenderPass_eq (h.recording hnum) query false]
  have hne : s.mOcclusionQueryPool.mAllocatedQueries ≠ [] := by
    intro hnil
    exact hnum (h.num_eq_zero hnil query)
  rw [allocateQueryOffset_of_nonempty hne, allocateNextOffset_of_nonempty h hcan hnum hlast]
  exact ⟨rfl, allocated_withAdditionalOffset h hdrawn hnum hlast,
    withAdditionalOffset_pending h hnum hlast⟩

end Start

end OcclusionContext

end MetalAngle.Metal
