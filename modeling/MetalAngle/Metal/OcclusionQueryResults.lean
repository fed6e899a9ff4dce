import MetalAngle.Metal.OcclusionQuery
import MetalAngle.Metal.RenderCommandEncoderEager

/-!
# What an occlusion query counts

The queries of GL, as an abstract state that follows the actions, and the invariant that
relates it to the slots of the pool: at any time the result that a query would be
resolved to is nonzero exactly when GL says that samples passed.
-/

namespace MetalAngle.Metal

open Function List

/-! ## The visibility mode of the encoder -/

namespace RenderCommandEncoder

variable {e : RenderCommandEncoder}

/-- The mode in force at a draw is the cached one, and an encoder that is not recording has
none. -/
structure VisibilityInv (e : RenderCommandEncoder) : Prop where
  mode : e.effective.visibilityResultMode = e.mStateCache.visibilityResultMode
  offset : e.mStateCache.visibilityResultMode ≠ .Disabled →
    e.effective.visibilityResultOffset = e.mStateCache.visibilityResultBufferOffset
  idle : e.mRecording = false → e.get = none ∧ e.mStateCache.visibilityResultMode = .Disabled

section

variable (m : MTLVisibilityResultMode)

theorem setVisibilityResultMode_mode (o : Nat) :
    (e.setVisibilityResultMode m o).mStateCache.visibilityResultMode = m := by
  unfold setVisibilityResultMode
  split
  · rename_i hcached
    exact hcached.1
  · rfl

theorem setVisibilityResultMode_offset (o : Nat) :
    (e.setVisibilityResultMode m o).mStateCache.visibilityResultBufferOffset = o := by
  unfold setVisibilityResultMode
  split
  · rename_i hcached
    exact hcached.2
  · rfl

@[simp] theorem setVisibilityResultMode_mRecording (o : Nat) :
    (e.setVisibilityResultMode m o).mRecording = e.mRecording := by
  unfold setVisibilityResultMode
  split <;> rfl

@[simp] theorem setVisibilityResultMode_mRenderPassDesc (o : Nat) :
    (e.setVisibilityResultMode m o).mRenderPassDesc = e.mRenderPassDesc := by
  unfold setVisibilityResultMode
  split <;> rfl

end

theorem get_setVisibilityResultMode_of_none (hget : e.get = none) (m : MTLVisibilityResultMode)
    (o : Nat) : (e.setVisibilityResultMode m o).get = none := by
  unfold setVisibilityResultMode
  split
  · exact hget
  · simp [update, hget]

theorem visibilityInv_setVisibilityResultMode (h : VisibilityInv e)
    (hrecording : e.mRecording) (m : MTLVisibilityResultMode) (o : Nat) :
    VisibilityInv (e.setVisibilityResultMode m o) := by
  unfold setVisibilityResultMode
  split
  · exact h
  · have hidle : (e.update ({ · with visibilityResultMode := m, visibilityResultBufferOffset := o })
        ({ · with visibilityResultMode := m, visibilityResultOffset := o })).mRecording = false →
        False := by
      intro hfalse
      exact Bool.false_ne_true (hfalse.symm.trans hrecording)
    cases hget : e.get with
    | some d =>
        refine ⟨?_, fun _ => ?_, fun hfalse => (hidle hfalse).elim⟩
        · simp [effective, update, hget]
        · simp [effective, update, hget]
    | none =>
        refine ⟨?_, fun hmode => ?_, fun hfalse => (hidle hfalse).elim⟩
        · simp only [effective, update, hget, Option.map_none, Option.getD_none]
          rfl
        · simp only [effective, update, hget, Option.map_none, Option.getD_none]
          exact if_pos hmode

theorem visibilityInv_ensureMetalEncoderStarted (h : VisibilityInv e)
    (hrecording : e.mRecording) : VisibilityInv e.ensureMetalEncoderStarted := by
  have hcache := ensureMetalEncoderStarted_mStateCache (e := e)
  have heffective := effective_ensureMetalEncoderStarted (e := e)
  have hstarted : e.ensureMetalEncoderStarted.mRecording := by
    unfold ensureMetalEncoderStarted
    split
    · exact hrecording
    · exact hrecording
  refine ⟨?_, ?_, ?_⟩
  · rw [heffective, hcache]
    exact h.mode
  · rw [heffective, hcache]
    exact h.offset
  · intro hfalse
    exact absurd (hfalse.symm.trans hstarted) Bool.false_ne_true

@[simp] theorem ensureMetalEncoderStarted_mRecording :
    e.ensureMetalEncoderStarted.mRecording = e.mRecording := by
  unfold ensureMetalEncoderStarted
  split <;> rfl

@[simp] theorem ensureMetalEncoderStarted_mRenderPassDesc :
    e.ensureMetalEncoderStarted.mRenderPassDesc = e.mRenderPassDesc := by
  unfold ensureMetalEncoderStarted
  split <;> rfl

theorem visibilityInv_setRenderPipelineState (h : VisibilityInv e) (state : Option ObjectId) :
    VisibilityInv (e.setRenderPipelineState state) := by
  unfold setRenderPipelineState
  split
  · exact h
  · have heffective : (e.update ({ · with renderPipeline := state })
        ({ · with renderPipelineState := state })).effective =
        { e.effective with renderPipelineState := state } := effective_update rfl
    refine ⟨?_, ?_, ?_⟩
    · rw [heffective]
      exact h.mode
    · rw [heffective]
      exact h.offset
    · intro hfalse
      obtain ⟨hget, hmode⟩ := h.idle hfalse
      exact ⟨by simp only [update, hget, Option.map_none], hmode⟩

@[simp] theorem setRenderPipelineState_mRecording (state : Option ObjectId) :
    (e.setRenderPipelineState state).mRecording = e.mRecording := by
  unfold setRenderPipelineState
  split <;> rfl

@[simp] theorem setRenderPipelineState_mode (state : Option ObjectId) :
    (e.setRenderPipelineState state).mStateCache.visibilityResultMode =
      e.mStateCache.visibilityResultMode := by
  unfold setRenderPipelineState
  split <;> rfl

@[simp] theorem setRenderPipelineState_offset (state : Option ObjectId) :
    (e.setRenderPipelineState state).mStateCache.visibilityResultBufferOffset =
      e.mStateCache.visibilityResultBufferOffset := by
  unfold setRenderPipelineState
  split <;> rfl

theorem endEncoding_of_recording (hrecording : e.mRecording) :
    e.endEncoding.mRecording = false ∧ e.endEncoding.get = none ∧
      e.endEncoding.mStateCache = {} := by
  unfold endEncoding
  simp [reset, hrecording]

theorem visibilityInv_of_reset (hget : e.get = none) (hcache : e.mStateCache = {}) :
    VisibilityInv e := by
  have heffective : e.effective = applyStates {} := by
    rw [effective, hget, hcache, Option.getD_none]
  refine ⟨?_, ?_, ?_⟩
  · rw [heffective, hcache]
    rfl
  · intro _
    rw [heffective, hcache]
    rfl
  · intro _
    exact ⟨hget, by rw [hcache]⟩

theorem restart_of_idle (hidle : e.mRecording = false) (desc : RenderPassDesc) :
    e.restart true desc = { e with
      mRenderPassDesc := desc
      mRecording := true
      mRenderPassMaxScissorRect := maxScissorRect desc } := by
  unfold restart
  simp [hidle]

theorem visibilityInv_restart (h : VisibilityInv e) (hidle : e.mRecording = false)
    (desc : RenderPassDesc) : VisibilityInv (e.restart true desc) := by
  rw [restart_of_idle hidle]
  exact ⟨h.mode, h.offset, fun hfalse => absurd hfalse Bool.false_ne_true.symm⟩

end RenderCommandEncoder

/-! ## The layout of the pool -/

namespace VisibilityBufferOffsetsMtl

def slot (o : VisibilityBufferOffsetsMtl) : Nat := o.front / kOcclusionQueryResultSize

/-- The slots of all the offsets. -/
def Covers (o : VisibilityBufferOffsetsMtl) (j : Nat) : Prop :=
  o.slot ≤ j ∧ j < o.slot + o.mNumOffsets

variable {o : VisibilityBufferOffsetsMtl}

theorem isEmpty_iff :
    o.isEmpty ↔ o.mNumOffsets = 0 := by
  exact beq_iff_eq

theorem isEmpty_eq_false_iff :
    o.isEmpty = false ↔ o.mNumOffsets ≠ 0 := by
  exact beq_eq_false_iff_ne

@[simp] theorem addOffset_slot (o : VisibilityBufferOffsetsMtl) : o.addOffset.slot = o.slot := rfl

theorem not_covers_of_empty (hnum : o.mNumOffsets = 0) (j : Nat) : ¬ o.Covers j := by
  unfold Covers
  omega

theorem num_ne_zero_of_covers {j : Nat} (hj : o.Covers j) :
    o.mNumOffsets ≠ 0 :=
  fun hnum => not_covers_of_empty hnum j hj

theorem covers_slot (hnum : o.mNumOffsets ≠ 0) :
    o.Covers o.slot := by
  unfold Covers
  omega

theorem addOffset_covers {j : Nat} :
    o.addOffset.Covers j ↔ o.Covers j ∨ j = o.slot + o.mNumOffsets := by
  unfold Covers
  rw [addOffset_slot]
  change _ ∧ j < o.slot + (o.mNumOffsets + 1) ↔ _
  omega

end VisibilityBufferOffsetsMtl

open VisibilityBufferOffsetsMtl

/-- Every query with offsets has its entry at its first slot and null entries at the others. -/
structure Layout (queries : List (Option Nat)) (offsets : Nat → VisibilityBufferOffsetsMtl) :
    Prop where
  first : ∀ q, (offsets q).mNumOffsets ≠ 0 → queries[(offsets q).slot]? = some (some q)
  others : ∀ q j, (offsets q).Covers j → j ≠ (offsets q).slot → queries[j]? = some none
  aligned : ∀ q, (offsets q).mNumOffsets ≠ 0 →
    (offsets q).mStartOffset = (offsets q).slot * kOcclusionQueryResultSize
  entry : ∀ i q, queries[i]? = some (some q) →
    (offsets q).mNumOffsets ≠ 0 ∧ (offsets q).slot = i

namespace Layout

variable {queries : List (Option Nat)} {offsets : Nat → VisibilityBufferOffsetsMtl}

theorem of_empty {offsets : Nat → VisibilityBufferOffsetsMtl}
    (hnum : ∀ q, (offsets q).mNumOffsets = 0) : Layout [] offsets where
  first q h := absurd (hnum q) h
  others q j h := absurd h (not_covers_of_empty (hnum q) j)
  aligned q h := absurd (hnum q) h
  entry i q h := by simp at h

variable {q : Nat}

theorem lt_length (h : Layout queries offsets) {j : Nat} (hj : (offsets q).Covers j) :
    j < queries.length := by
  by_cases hfirst : j = (offsets q).slot
  · have hnum : (offsets q).mNumOffsets ≠ 0 := by
      intro hzero
      exact not_covers_of_empty hzero j hj
    rw [hfirst]
    exact (List.getElem?_eq_some_iff.mp (h.first q hnum)).1
  · exact (List.getElem?_eq_some_iff.mp (h.others q j hj hfirst)).1

theorem num_eq_zero_of_nil (h : Layout [] offsets) (q : Nat) : (offsets q).mNumOffsets = 0 := by
  by_contra hnum
  have hfirst := h.first q hnum
  simp at hfirst

section

variable (h : Layout queries offsets)
include h

theorem slot_le {q' j : Nat} (hj : (offsets q).Covers j)
    (hj' : (offsets q').Covers j) : (offsets q).slot ≤ (offsets q').slot := by
  by_contra hlt
  -- the first slot of `q` would be a later slot of `q'`, which has a null entry
  have hcovers : (offsets q').Covers (offsets q).slot := by
    unfold Covers at hj hj' ⊢
    omega
  have hnull := h.others q' _ hcovers (by omega)
  rw [h.first q (num_ne_zero_of_covers hj)] at hnull
  simp at hnull

theorem disjoint {q' j : Nat} (hj : (offsets q).Covers j)
    (hj' : (offsets q').Covers j) : q = q' := by
  have hslot : (offsets q).slot = (offsets q').slot :=
    Nat.le_antisymm (h.slot_le hj hj') (h.slot_le hj' hj)
  have hentry := h.first q (num_ne_zero_of_covers hj)
  rw [hslot, h.first q' (num_ne_zero_of_covers hj')] at hentry
  simpa using hentry.symm

/-- Clearing the entry and the offsets of a query keeps the others. -/
theorem deallocate (hnum : (offsets q).mNumOffsets ≠ 0) :
    Layout (queries.set (offsets q).slot none) (Function.update offsets q {}) := by
  have hkept : ∀ q' j, q' ≠ q → (offsets q').Covers j →
      (queries.set (offsets q).slot none)[j]? = queries[j]? := by
    intro q' j hne hj
    rw [getElem?_set_ne]
    intro hslot
    refine hne (h.disjoint hj ?_)
    rw [← hslot]
    exact covers_slot hnum
  have hother : ∀ q', (update offsets q {} q').mNumOffsets ≠ 0 →
      q' ≠ q ∧ update offsets q {} q' = offsets q' := by
    intro q' hnum'
    have hne : q' ≠ q := by
      rintro rfl
      rw [update_self] at hnum'
      exact hnum' rfl
    exact ⟨hne, update_of_ne hne _ _⟩
  refine ⟨?_, ?_, ?_, ?_⟩
  · intro q' hnum'
    obtain ⟨hne, heq⟩ := hother q' hnum'
    rw [heq] at hnum' ⊢
    rw [hkept q' _ hne (covers_slot hnum')]
    exact h.first q' hnum'
  · intro q' j hj hlater
    obtain ⟨hne, heq⟩ := hother q' (num_ne_zero_of_covers hj)
    rw [heq] at hj hlater
    rw [hkept q' _ hne hj]
    exact h.others q' j hj hlater
  · intro q' hnum'
    obtain ⟨-, heq⟩ := hother q' hnum'
    rw [heq] at hnum' ⊢
    exact h.aligned q' hnum'
  · intro i q' hentry
    have hi : (offsets q).slot ≠ i := by
      rintro rfl
      rw [getElem?_set_self'] at hentry
      cases hold : queries[(offsets q).slot]? <;> simp [hold] at hentry
    rw [getElem?_set_ne hi] at hentry
    obtain ⟨hnum', hslot⟩ := h.entry i q' hentry
    have hne : q' ≠ q := by
      rintro rfl
      exact hi hslot
    rw [update_of_ne hne]
    exact ⟨hnum', hslot⟩

/-- A query without offsets gets its first one at the end of the list. -/
theorem push (hnum : (offsets q).mNumOffsets = 0) :
    Layout (queries ++ [some q]) (Function.update offsets q
      { mStartOffset := queries.length * kOcclusionQueryResultSize, mNumOffsets := 1 }) := by
  have hself : slot
      { mStartOffset := queries.length * kOcclusionQueryResultSize, mNumOffsets := 1 } =
      queries.length := Nat.mul_div_cancel _ (by decide)
  refine ⟨?_, ?_, ?_, ?_⟩
  · intro q' hnum'
    by_cases hq : q' = q
    · subst hq
      rw [update_self, hself, getElem?_concat_length]
    · rw [update_of_ne hq] at hnum' ⊢
      rw [getElem?_append_left (h.lt_length (covers_slot hnum'))]
      exact h.first q' hnum'
  · intro q' j hj hlater
    by_cases hq : q' = q
    · subst hq
      rw [update_self] at hj hlater
      unfold Covers at hj
      exact absurd hj (by simp only; omega)
    · rw [update_of_ne hq] at hj hlater
      rw [getElem?_append_left (h.lt_length hj)]
      exact h.others q' j hj hlater
  · intro q' hnum'
    by_cases hq : q' = q
    · subst hq
      rw [update_self, hself]
    · rw [update_of_ne hq] at hnum' ⊢
      exact h.aligned q' hnum'
  · intro i q' hentry
    rcases Nat.lt_or_ge i queries.length with hlt | hge
    · rw [getElem?_append_left hlt] at hentry
      have hold := h.entry i q' hentry
      have hne : q' ≠ q := by
        rintro rfl
        exact hold.1 hnum
      rw [update_of_ne hne]
      exact hold
    · have hi : i = queries.length := by
        have := (List.getElem?_eq_some_iff.mp hentry).1
        rw [length_append, length_singleton] at this
        omega
      rw [hi, getElem?_concat_length] at hentry
      obtain rfl : q = q' := by simpa using hentry
      rw [update_self, hself]
      exact ⟨Nat.one_ne_zero, hi.symm⟩

theorem pushAdditional (hnum : (offsets q).mNumOffsets ≠ 0)
    (hlast : (offsets q).slot + (offsets q).mNumOffsets = queries.length) :
    Layout (queries ++ [none]) (Function.update offsets q (offsets q).addOffset) := by
  have hslot : ∀ q', (update offsets q (offsets q).addOffset q').slot =
      (offsets q').slot := by
    intro q'
    by_cases hq : q' = q
    · subst hq
      rw [update_self, addOffset_slot]
    · rw [update_of_ne hq]
  have hold : ∀ q', (update offsets q (offsets q).addOffset q').mNumOffsets ≠ 0 ↔
      (offsets q').mNumOffsets ≠ 0 := by
    intro q'
    by_cases hq : q' = q
    · subst hq
      rw [update_self]
      exact iff_of_true (Nat.succ_ne_zero _) hnum
    · rw [update_of_ne hq]
  refine ⟨?_, ?_, ?_, ?_⟩
  · intro q' hnum'
    rw [hold] at hnum'
    rw [hslot, getElem?_append_left (h.lt_length (covers_slot hnum'))]
    exact h.first q' hnum'
  · intro q' j hj hlater
    rw [hslot] at hlater
    by_cases hq : q' = q
    · subst hq
      rw [update_self, addOffset_covers] at hj
      rcases hj with hj | rfl
      · rw [getElem?_append_left (h.lt_length hj)]
        exact h.others q' j hj hlater
      · rw [hlast, getElem?_concat_length]
    · rw [update_of_ne hq] at hj
      rw [getElem?_append_left (h.lt_length hj)]
      exact h.others q' j hj hlater
  · intro q' hnum'
    rw [hold] at hnum'
    rw [hslot, ← h.aligned q' hnum']
    by_cases hq : q' = q
    · subst hq
      rw [update_self]
      rfl
    · rw [update_of_ne hq]
  · intro i q' hentry
    rw [hslot, hold]
    apply h.entry
    rcases Nat.lt_or_ge i queries.length with hlt | hge
    · rwa [getElem?_append_left hlt] at hentry
    · have hi : i = queries.length := by
        have := (List.getElem?_eq_some_iff.mp hentry).1
        rw [length_append, length_singleton] at this
        omega
      rw [hi, getElem?_concat_length] at hentry
      simp at hentry

end

end Layout

/-! ## The resolve -/

theorem or_ne_zero_iff {w : Nat} {x y : BitVec w} : x ||| y ≠ 0 ↔ x ≠ 0 ∨ y ≠ 0 := by
  rw [Ne, show (x ||| y = 0) ↔ _ from BitVec.or_eq_zero_iff, not_and_or]
  rfl

namespace OcclusionContext

variable {s : OcclusionContext}

theorem combineKernel_ne_zero_iff (keep : Bool) (poolResult : Nat → BitVec 64)
    (startOffset numOffsets : Nat) (finalResult : BitVec 64) :
    combineKernel keep poolResult startOffset numOffsets finalResult ≠ 0 ↔
      (keep ∧ finalResult ≠ 0) ∨
        ∃ j, startOffset ≤ j ∧ j < startOffset + numOffsets ∧ poolResult j ≠ 0 := by
  unfold combineKernel
  induction numOffsets with
  | zero =>
      have hnone : ¬ ∃ j, startOffset ≤ j ∧ j < startOffset + 0 ∧ poolResult j ≠ 0 := by
        rintro ⟨j, hle, hlt, -⟩
        omega
      rw [range_zero, foldl_nil, or_iff_left hnone]
      cases keep <;> simp
  | succ n ih =>
    rw [range_succ, foldl_append, foldl_cons, foldl_nil, or_ne_zero_iff, ih,
      or_assoc]
    apply or_congr_right
    constructor
    · rintro (⟨j, hle, hlt, hpool⟩ | hpool)
      · exact ⟨j, hle, by omega, hpool⟩
      · exact ⟨startOffset + n, by omega, by omega, hpool⟩
    · rintro ⟨j, hle, hlt, hpool⟩
      by_cases hj : j = startOffset + n
      · exact .inr (hj ▸ hpool)
      · exact .inl ⟨j, hle, by omega, hpool⟩

/-- Whether the resolve reads the slot as the pass left it: without read-write buffers, the first
slot is overwritten with the old value of a first query that keeps it. -/
def Counted (s : OcclusionContext) (j : Nat) : Prop :=
  ¬ (j = 0 ∧ s.mOcclusionQueryPool.mResetFirstQuery = false ∧ s.allowBufferReadWrite = false)

/-- The first query of a pass may keep the result of earlier passes. -/
def KeepsOld (s : OcclusionContext) (q : Nat) : Prop :=
  (s.offsets q).slot = 0 ∧ s.mOcclusionQueryPool.mResetFirstQuery = false

/-- A query with offsets is resolved to a nonzero value. -/
def Resolved (s : OcclusionContext) (q : Nat) : Prop :=
  (s.KeepsOld q ∧ s.visibilityResult q ≠ 0) ∨
    ∃ j, (s.offsets q).Covers j ∧ s.Counted j ∧ s.poolResult j ≠ 0

theorem combineVisibilityResult_self (keep : Bool) (q : Nat) :
    (s.combineVisibilityResult keep q).visibilityResult q =
      if (s.offsets q).mNumOffsets = 1 ∧ keep = false then s.poolResult (s.offsets q).slot
      else combineKernel keep s.poolResult (s.offsets q).slot (s.offsets q).mNumOffsets
        (s.visibilityResult q) :=
  update_self _ _ _

theorem combineVisibilityResult_ne_zero_iff (keep : Bool) {q : Nat} :
    (s.combineVisibilityResult keep q).visibilityResult q ≠ 0 ↔
      (keep ∧ s.visibilityResult q ≠ 0) ∨
        ∃ j, (s.offsets q).Covers j ∧ s.poolResult j ≠ 0 := by
  rw [combineVisibilityResult_self]
  by_cases hblit : (s.offsets q).mNumOffsets = 1 ∧ keep = false
  · -- the copy of the only slot is what the kernel would compute
    rw [if_pos hblit, hblit.2]
    constructor
    · intro hpool
      exact .inr ⟨(s.offsets q).slot, covers_slot (by omega), hpool⟩
    · rintro (⟨hfalse, -⟩ | ⟨j, hj, hpool⟩)
      · exact absurd hfalse Bool.false_ne_true
      · have hslot : j = (s.offsets q).slot := by
          unfold Covers at hj
          omega
        rwa [hslot] at hpool
  · rw [if_neg hblit, combineKernel_ne_zero_iff]
    simp only [Covers, and_assoc]

/-- What resolving one query leaves alone. -/
structure ResolveFrame (s t : OcclusionContext) : Prop where
  offsets : t.offsets = s.offsets
  pool : t.mOcclusionQueryPool = s.mOcclusionQueryPool
  allow : t.allowBufferReadWrite = s.allowBufferReadWrite
  encoder : t.mRenderEncoder = s.mRenderEncoder
  active : t.mOcclusionQuery = s.mOcclusionQuery
  drawn : t.drawnSlots = s.drawnSlots
  asserts : t.assertsHold = s.assertsHold
  counted : ∀ j, s.Counted j → t.poolResult j = s.poolResult j

theorem ResolveFrame.refl (s : OcclusionContext) : ResolveFrame s s :=
  ⟨rfl, rfl, rfl, rfl, rfl, rfl, rfl, fun _ _ => rfl⟩

variable {t : OcclusionContext}

theorem ResolveFrame.counted_iff (h : ResolveFrame s t) (j : Nat) :
    t.Counted j ↔ s.Counted j := by
  unfold Counted
  rw [h.pool, h.allow]

theorem ResolveFrame.trans {u : OcclusionContext} (h : ResolveFrame s t)
    (h' : ResolveFrame t u) : ResolveFrame s u where
  offsets := h'.offsets.trans h.offsets
  pool := h'.pool.trans h.pool
  allow := h'.allow.trans h.allow
  encoder := h'.encoder.trans h.encoder
  active := h'.active.trans h.active
  drawn := h'.drawn.trans h.drawn
  asserts := h'.asserts.trans h.asserts
  counted j hj := (h'.counted j ((h.counted_iff j).mpr hj)).trans (h.counted j hj)

theorem ResolveFrame.resolved_iff (h : ResolveFrame s t) {q : Nat}
    (hresult : t.visibilityResult q = s.visibilityResult q) : t.Resolved q ↔ s.Resolved q := by
  unfold Resolved KeepsOld
  rw [h.offsets, h.pool, hresult]
  apply or_congr_right
  apply exists_congr
  intro j
  rw [h.counted_iff j]
  constructor
  · rintro ⟨hj, hcounted, hpool⟩
    exact ⟨hj, hcounted, h.counted j hcounted ▸ hpool⟩
  · rintro ⟨hj, hcounted, hpool⟩
    exact ⟨hj, hcounted, (h.counted j hcounted).symm ▸ hpool⟩

theorem combineVisibilityResult_frame (keep : Bool) {q : Nat}
    (hnum : (s.offsets q).mNumOffsets ≠ 0) :
    ResolveFrame s (s.combineVisibilityResult keep q) := by
  have hempty : (s.offsets q).isEmpty = false := isEmpty_eq_false_iff.mpr hnum
  refine ⟨rfl, rfl, rfl, rfl, rfl, rfl, ?_, fun _ _ => rfl⟩
  unfold combineVisibilityResult
  simp [assert, hempty]

variable {i : Nat}

theorem resolveQuery_frame {q : Nat} (hnum : (s.offsets q).mNumOffsets ≠ 0)
    (hslot : (s.offsets q).slot = i) : ResolveFrame s (s.resolveQuery i q) := by
  unfold resolveQuery
  split
  · split
    · rename_i hi hkeep
      rw [Bool.and_eq_true, Bool.not_eq_true', Bool.not_eq_true'] at hkeep
      have hcopied : ResolveFrame s { s with
          poolResult := update s.poolResult
            ((s.offsets q).front / kOcclusionQueryResultSize) (s.visibilityResult q) } := by
        refine ⟨rfl, rfl, rfl, rfl, rfl, rfl, rfl, ?_⟩
        intro j hj
        apply update_of_ne
        rintro rfl
        exact hj ⟨hslot.trans hi, hkeep⟩
      exact hcopied.trans (combineVisibilityResult_frame false hnum)
    · exact combineVisibilityResult_frame _ hnum
  · exact combineVisibilityResult_frame _ hnum

theorem resolveQuery_other (i : Nat) {q q' : Nat} (hne : q' ≠ q) :
    (s.resolveQuery i q).visibilityResult q' = s.visibilityResult q' := by
  unfold resolveQuery combineVisibilityResult
  split
  · split <;> exact update_of_ne hne _ _
  · exact update_of_ne hne _ _

theorem resolveQuery_ne_zero_iff {q : Nat} (hnum : (s.offsets q).mNumOffsets ≠ 0)
    (hslot : (s.offsets q).slot = i) :
    (s.resolveQuery i q).visibilityResult q ≠ 0 ↔ s.Resolved q := by
  unfold resolveQuery Resolved KeepsOld
  split
  · rename_i hi
    rw [hi] at hslot
    split
    · -- the first slot now holds the old value, the other ones count
      rename_i hkeep
      rw [Bool.and_eq_true, Bool.not_eq_true', Bool.not_eq_true'] at hkeep
      have hfront : (s.offsets q).front / kOcclusionQueryResultSize = 0 := hslot
      rw [combineVisibilityResult_ne_zero_iff]
      simp only [Bool.false_eq_true, false_and, false_or, hfront, Counted, hkeep.1, hkeep.2,
        hslot, true_and, and_true]
      constructor
      · rintro ⟨j, hj, hpool⟩
        by_cases hzero : j = 0
        · rw [hzero, update_self] at hpool
          exact .inl hpool
        · rw [update_of_ne hzero] at hpool
          exact .inr ⟨j, hj, hzero, hpool⟩
      · rintro (hold | ⟨j, hj, hzero, hpool⟩)
        · exact ⟨0, hslot ▸ covers_slot hnum, by rwa [update_self]⟩
        · exact ⟨j, hj, by rwa [update_of_ne hzero]⟩
    · rename_i hkeep
      rw [Bool.and_eq_true, Bool.not_eq_true', Bool.not_eq_true'] at hkeep
      have hcounted : ∀ j, s.Counted j := fun j hj => hkeep hj.2
      rw [combineVisibilityResult_ne_zero_iff, Bool.not_eq_true']
      simp [hslot, hcounted]
  · rename_i hi
    have hcounted : ∀ j, (s.offsets q).Covers j → s.Counted j := by
      intro j hj hfirst
      have := hj.1
      omega
    rw [combineVisibilityResult_ne_zero_iff]
    simp only [Bool.false_eq_true, false_and, hslot, hi]
    apply or_congr_right
    apply exists_congr
    intro j
    constructor
    · rintro ⟨hj, hpool⟩
      exact ⟨hj, hcounted j hj, hpool⟩
    · rintro ⟨hj, -, hpool⟩
      exact ⟨hj, hpool⟩

theorem resolveFrom_spec (queries : List (Option Nat))
    (hentries : ∀ k q, queries[k]? = some (some q) →
      (s.offsets q).mNumOffsets ≠ 0 ∧ (s.offsets q).slot = i + k) :
    ResolveFrame s (s.resolveFrom i queries) ∧ ∀ q, (some q ∈ queries →
          ((s.resolveFrom i queries).visibilityResult q ≠ 0 ↔ s.Resolved q)) ∧
        (some q ∉ queries →
          (s.resolveFrom i queries).visibilityResult q = s.visibilityResult q) := by
  induction queries generalizing s i with
  | nil =>
      refine ⟨.refl s, fun q => ⟨fun h => ?_, fun _ => rfl⟩⟩
      exact absurd h (not_mem_nil)
  | cons entry rest ih =>
    have hrest : ∀ k q, rest[k]? = some (some q) →
        (s.offsets q).mNumOffsets ≠ 0 ∧ (s.offsets q).slot = i + 1 + k := by
      intro k q hk
      have := hentries (k + 1) q (by rwa [getElem?_cons_succ])
      exact ⟨this.1, by omega⟩
    cases entry with
    | none =>
        obtain ⟨hframe, hresults⟩ := ih hrest
        refine ⟨hframe, fun q => ⟨fun hq => (hresults q).1 ?_, fun hq => (hresults q).2 ?_⟩⟩
        · simpa using hq
        · simpa using hq
    | some query =>
      obtain ⟨hnum, hslot⟩ := hentries 0 query rfl
      have hfirst := resolveQuery_frame (i := i) hnum hslot
      obtain ⟨hframe, hresults⟩ := ih (s := s.resolveQuery i query) (i := i + 1) (fun k q hk => by
          rw [hfirst.offsets]
          exact hrest k q hk)
      -- the query does not occur again: its slot is the one of this entry
      have honce : some query ∉ rest := by
        intro hmem
        obtain ⟨k, hk⟩ := mem_iff_getElem?.mp hmem
        have := (hrest k query hk).2
        omega
      have hunfold : s.resolveFrom i (some query :: rest) =
          (s.resolveQuery i query).resolveFrom (i + 1) rest := rfl
      rw [hunfold]
      refine ⟨hfirst.trans hframe, fun q => ?_⟩
      by_cases hq : q = query
      · subst hq
        rw [(hresults q).2 honce]
        refine ⟨fun _ => resolveQuery_ne_zero_iff hnum hslot, fun hq => ?_⟩
        exact absurd mem_cons_self hq
      · have hsame := resolveQuery_other (s := s) i hq
        refine ⟨fun hmem => ?_, fun hmem => ?_⟩
        · rw [(hresults q).1 (by simpa [hq] using hmem)]
          exact hfirst.resolved_iff hsame
        · rw [(hresults q).2 (by simpa [hq] using hmem)]
          exact hsame

/-- The value that the next resolve would find, with the slots not drawn yet as zero. -/
def Pending (s : OcclusionContext) (q : Nat) : Prop :=
  if (s.offsets q).mNumOffsets = 0 then s.visibilityResult q ≠ 0
  else
    (s.KeepsOld q ∧ s.visibilityResult q ≠ 0) ∨
      ∃ j, (s.offsets q).Covers j ∧ s.Counted j ∧ s.drawnSlots j ∧ s.poolResult j ≠ 0

theorem pending_of_empty {q : Nat} (hnum : (s.offsets q).mNumOffsets = 0) :
    s.Pending q ↔ s.visibilityResult q ≠ 0 := by
  unfold Pending
  rw [if_pos hnum]

theorem pending_of_nonempty {q : Nat} (hnum : (s.offsets q).mNumOffsets ≠ 0) :
    s.Pending q ↔ (s.KeepsOld q ∧ s.visibilityResult q ≠ 0) ∨
      ∃ j, (s.offsets q).Covers j ∧ s.Counted j ∧ s.drawnSlots j ∧ s.poolResult j ≠ 0 := by
  unfold Pending
  rw [if_neg hnum]

/-- Every slot that counts has been drawn into since the pass began. -/
def AllDrawn (s : OcclusionContext) : Prop :=
  ∀ q j, (s.offsets q).Covers j → s.Counted j → s.drawnSlots j

theorem resolved_iff_pending (hdrawn : s.AllDrawn) {q : Nat}
    (hnum : (s.offsets q).mNumOffsets ≠ 0) : s.Resolved q ↔ s.Pending q := by
  rw [pending_of_nonempty hnum]
  apply or_congr_right
  apply exists_congr
  intro j
  constructor
  · rintro ⟨hj, hcounted, hpool⟩
    exact ⟨hj, hcounted, hdrawn q j hj hcounted, hpool⟩
  · rintro ⟨hj, hcounted, -, hpool⟩
    exact ⟨hj, hcounted, hpool⟩

/-- The resolve empties the pool and leaves its value in the buffer of every query. -/
structure ResolvedTo (s t : OcclusionContext) : Prop where
  allow : t.allowBufferReadWrite = s.allowBufferReadWrite
  pool : t.mOcclusionQueryPool = { s.mOcclusionQueryPool with mAllocatedQueries := [] }
  encoder : t.mRenderEncoder = s.mRenderEncoder
  active : t.mOcclusionQuery = s.mOcclusionQuery
  drawn : t.drawnSlots = s.drawnSlots
  asserts : t.assertsHold = s.assertsHold
  empty : ∀ q, (t.offsets q).mNumOffsets = 0
  kept : ∀ q, (s.offsets q).mNumOffsets = 0 → t.visibilityResult q = s.visibilityResult q
  resolved : ∀ q, (s.offsets q).mNumOffsets ≠ 0 → (t.visibilityResult q ≠ 0 ↔ s.Resolved q)

theorem resolveVisibilityResults_spec
    (hlayout : Layout s.mOcclusionQueryPool.mAllocatedQueries s.offsets) :
    ResolvedTo s s.resolveVisibilityResults := by
  unfold resolveVisibilityResults
  split
  · rename_i hempty
    have hnil : s.mOcclusionQueryPool.mAllocatedQueries = [] := isEmpty_iff.mp hempty
    have hnum : ∀ q, (s.offsets q).mNumOffsets = 0 := by
      rw [hnil] at hlayout
      exact hlayout.num_eq_zero_of_nil
    refine ⟨rfl, ?_, rfl, rfl, rfl, rfl, hnum, fun _ _ => rfl, fun q h => absurd (hnum q) h⟩
    rw [← hnil]
  · obtain ⟨hframe, hresults⟩ := resolveFrom_spec (s := s) (i := 0)
      s.mOcclusionQueryPool.mAllocatedQueries (fun k q hk => by
        obtain ⟨hnum, hslot⟩ := hlayout.entry k q hk
        exact ⟨hnum, by omega⟩)
    have hmem : ∀ q, some q ∈ s.mOcclusionQueryPool.mAllocatedQueries ↔
        (s.offsets q).mNumOffsets ≠ 0 := by
      intro q
      constructor
      · intro hq
        obtain ⟨k, hk⟩ := mem_iff_getElem?.mp hq
        exact (hlayout.entry k q hk).1
      · intro hnum
        exact mem_of_getElem? (hlayout.first q hnum)
    refine { hframe with pool := ?_, empty := ?_, kept := ?_, resolved := ?_ }
    · simp only [hframe.pool]
    · intro q
      simp only [hmem]
      split
      · rfl
      · rename_i hnum
        rw [hframe.offsets]
        exact not_not.mp hnum
    · intro q hnum
      exact (hresults q).2 ((hmem q).not.mpr (not_not.mpr hnum))
    · intro q hnum
      exact (hresults q).1 ((hmem q).mpr hnum)

end OcclusionContext

end MetalAngle.Metal
