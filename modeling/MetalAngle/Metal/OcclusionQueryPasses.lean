import MetalAngle.Metal.OcclusionQueryResults

/-!
# Occlusion queries within a pass: draws, disabling and the end of the pass

A state is quiet when no draw counts, and live when draws count into the last slot of the
pool.  Disabling the active query makes a live state quiet and keeps what every query
would be resolved to; the end of a pass then moves these values into the query buffers.
-/

namespace MetalAngle.Metal

open Function (update update_self update_of_ne)

namespace OcclusionContext

open VisibilityBufferOffsetsMtl RenderCommandEncoder

variable {s t : OcclusionContext}

/-- What holds of the pool and the encoder at any time. -/
structure Base (s : OcclusionContext) : Prop where
  layout : Layout s.mOcclusionQueryPool.mAllocatedQueries s.offsets
  fresh : ∀ j, s.drawnSlots j → j < s.mOcclusionQueryPool.mAllocatedQueries.length
  encoder : s.mRenderEncoder.VisibilityInv
  idle : s.mRenderEncoder.mRecording = false → s.mOcclusionQueryPool.mAllocatedQueries = []
  asserts : s.assertsHold
  room : 2 * kOcclusionQueryResultSize ≤ s.mOcclusionQueryPool.mMaxRenderPassResultsPoolSize

/-- No draw counts. -/
structure Quiet (s : OcclusionContext) : Prop where
  mode : s.mRenderEncoder.mStateCache.visibilityResultMode = .Disabled
  drawn : s.AllDrawn

/-- Draws count into the last slot of the pool, which belongs to `query`. -/
structure Live (s : OcclusionContext) (query : Nat) : Prop where
  nonempty : (s.offsets query).mNumOffsets ≠ 0
  mode : s.mRenderEncoder.mStateCache.visibilityResultMode = .Boolean
  offset : s.mRenderEncoder.mStateCache.visibilityResultBufferOffset = (s.offsets query).back
  last : (s.offsets query).slot + (s.offsets query).mNumOffsets =
    s.mOcclusionQueryPool.mAllocatedQueries.length
  counted : s.Counted (s.mOcclusionQueryPool.mAllocatedQueries.length - 1)
  earlier : ∀ q j, (s.offsets q).Covers j → s.Counted j →
    j ≠ s.mOcclusionQueryPool.mAllocatedQueries.length - 1 → s.drawnSlots j
  lastDrawn :
    s.drawnSlots (s.mOcclusionQueryPool.mAllocatedQueries.length - 1) ↔ s.drawCalls ≠ 0

/-- The state `t` keeps the active query and the pending values of `s`. -/
structure Follows (s t : OcclusionContext) : Prop where
  base : t.Base
  pending : ∀ q, t.Pending q ↔ s.Pending q
  active : t.mOcclusionQuery = s.mOcclusionQuery
  buffer : t.mOcclusionQueryPool.hasBuffer = s.mOcclusionQueryPool.hasBuffer
  allow : t.allowBufferReadWrite = s.allowBufferReadWrite

theorem Follows.refl (h : s.Base) : Follows s s := ⟨h, fun _ => .rfl, rfl, rfl, rfl⟩

theorem Follows.trans {u : OcclusionContext} (h : Follows s t) (h' : Follows t u) :
    Follows s u where
  __ := h'
  pending q := (h'.pending q).trans (h.pending q)
  active := h'.active.trans h.active
  buffer := h'.buffer.trans h.buffer
  allow := h'.allow.trans h.allow

theorem Base.num_eq_zero (h : s.Base) (hnil : s.mOcclusionQueryPool.mAllocatedQueries = [])
    (q : Nat) : (s.offsets q).mNumOffsets = 0 := by
  have hlayout := h.layout
  rw [hnil] at hlayout
  exact hlayout.num_eq_zero_of_nil q

variable {q : Nat}

theorem Base.recording (h : s.Base) (hnum : (s.offsets q).mNumOffsets ≠ 0) :
    s.mRenderEncoder.mRecording := by
  by_contra hidle
  exact hnum (h.num_eq_zero (h.idle (Bool.not_eq_true _ ▸ hidle)) q)

theorem allDrawn_of_nil (h : s.Base) (hnil : s.mOcclusionQueryPool.mAllocatedQueries = []) :
    s.AllDrawn := fun q j hj _ =>
  absurd hj (not_covers_of_empty (h.num_eq_zero hnil q) j)

theorem pending_congr (hoffsets : t.offsets q = s.offsets q)
    (hresult : t.visibilityResult q = s.visibilityResult q)
    (hallow : t.allowBufferReadWrite = s.allowBufferReadWrite)
    (hdrawn : t.drawnSlots = s.drawnSlots) (hpool : t.poolResult = s.poolResult)
    (hreset : (s.offsets q).mNumOffsets ≠ 0 →
      t.mOcclusionQueryPool.mResetFirstQuery = s.mOcclusionQueryPool.mResetFirstQuery) :
    t.Pending q ↔ s.Pending q := by
  by_cases hnum : (s.offsets q).mNumOffsets = 0
  · rw [pending_of_empty hnum, pending_of_empty (hoffsets ▸ hnum), hresult]
  · rw [pending_of_nonempty hnum, pending_of_nonempty (hoffsets ▸ hnum)]
    unfold KeepsOld Counted
    rw [hoffsets, hresult, hallow, hdrawn, hpool, hreset hnum]

theorem assert_of_true {condition : Bool} (h : condition) : s.assert condition = s := by
  unfold assert
  rw [h, Bool.and_true]

/-! ## The encoder -/

/-- The encoder `e'` counts visible samples as `e` does. -/
structure SameVisibility (e e' : RenderCommandEncoder) : Prop where
  inv : e'.VisibilityInv
  recording : e'.mRecording = e.mRecording
  desc : e'.mRenderPassDesc = e.mRenderPassDesc
  mode : e'.mStateCache.visibilityResultMode = e.mStateCache.visibilityResultMode
  offset : e'.mStateCache.visibilityResultBufferOffset =
    e.mStateCache.visibilityResultBufferOffset

variable {e : RenderCommandEncoder}

theorem SameVisibility.trans {e' e'' : RenderCommandEncoder} (h : SameVisibility e e')
    (h' : SameVisibility e' e'') : SameVisibility e e'' where
  __ := h'
  recording := h'.recording.trans h.recording
  desc := h'.desc.trans h.desc
  mode := h'.mode.trans h.mode
  offset := h'.offset.trans h.offset

theorem sameVisibility_ensureMetalEncoderStarted
    (h : e.VisibilityInv) (hrecording : e.mRecording) :
    SameVisibility e e.ensureMetalEncoderStarted where
  inv := visibilityInv_ensureMetalEncoderStarted h hrecording
  recording := ensureMetalEncoderStarted_mRecording
  desc := ensureMetalEncoderStarted_mRenderPassDesc
  mode := by rw [ensureMetalEncoderStarted_mStateCache]
  offset := by rw [ensureMetalEncoderStarted_mStateCache]

theorem sameVisibility_setRenderPipelineState (h : e.VisibilityInv)
    (state : Option ObjectId) : SameVisibility e (e.setRenderPipelineState state) where
  inv := visibilityInv_setRenderPipelineState h state
  recording := setRenderPipelineState_mRecording state
  desc := by
    unfold setRenderPipelineState
    split <;> rfl
  mode := setRenderPipelineState_mode state
  offset := setRenderPipelineState_offset state

theorem Base.setEncoder (h : s.Base) (hinv : e.VisibilityInv)
    (hrecording : e.mRecording = s.mRenderEncoder.mRecording) :
    Base { s with mRenderEncoder := e } where
  __ := h
  encoder := hinv
  idle hidle := h.idle (hrecording ▸ hidle)

/-! ## Draws -/

def countedSlot (s : OcclusionContext) : Nat :=
  s.mRenderEncoder.mStateCache.visibilityResultBufferOffset / kOcclusionQueryResultSize

def countInto (s : OcclusionContext) (slot : Nat) (visible : Bool) : OcclusionContext :=
  { s with
    poolResult := update s.poolResult slot
      ((if s.drawnSlots slot then s.poolResult slot else 0) ||| if visible then 1 else 0)
    drawnSlots := update s.drawnSlots slot true }

section

variable (h : s.mRenderEncoder.VisibilityInv)
include h

theorem nativeDraw_of_disabled (hmode : s.mRenderEncoder.mStateCache.visibilityResultMode = .Disabled) (visible : Bool) :
    s.nativeDraw visible =
      { s with mRenderEncoder := s.mRenderEncoder.ensureMetalEncoderStarted } := by
  unfold nativeDraw
  simp [get_ensureMetalEncoderStarted, h.mode, hmode]

theorem nativeDraw_of_enabled (hmode : s.mRenderEncoder.mStateCache.visibilityResultMode ≠ .Disabled) (visible : Bool) :
    s.nativeDraw visible = { s.countInto s.countedSlot visible with
      mRenderEncoder := s.mRenderEncoder.ensureMetalEncoderStarted } := by
  unfold nativeDraw countInto countedSlot
  simp [get_ensureMetalEncoderStarted, h.mode, hmode, h.offset hmode]

theorem restorePipeline_eq (old : Option ObjectId) :
    ∃ e, SameVisibility s.mRenderEncoder e ∧ (if old.isSome then
        { s with mRenderEncoder := s.mRenderEncoder.setRenderPipelineState old }
      else s) = { s with mRenderEncoder := e } := by
  by_cases hold : old.isSome
  · exact ⟨_, sameVisibility_setRenderPipelineState h old, if_pos hold⟩
  · exact ⟨_, ⟨h, rfl, rfl, rfl, rfl⟩, if_neg hold⟩

end

/-- The dummy draw is a draw without visible samples, as far as queries are concerned. -/
theorem drawInvisibleFragments_eq (h : s.Base) (hrecording : s.mRenderEncoder.mRecording) :
    ∃ e, SameVisibility s.mRenderEncoder e ∧ s.drawInvisibleFragments =
      { (if s.mRenderEncoder.mStateCache.visibilityResultMode = .Disabled then s
          else s.countInto s.countedSlot false) with mRenderEncoder := e } := by
  obtain ⟨e₀, he₀⟩ : ∃ e₀, e₀ =
    s.mRenderEncoder.setRenderPipelineState (some noVisibleFragPipeline) := ⟨_, rfl⟩
  have hset : SameVisibility s.mRenderEncoder e₀ :=
    he₀ ▸ sameVisibility_setRenderPipelineState h.encoder _
  have hstarted := sameVisibility_ensureMetalEncoderStarted hset.inv
    (hset.recording.trans hrecording)
  obtain ⟨t, ht⟩ : ∃ t, t = nativeDraw { s with mRenderEncoder := e₀ } false := ⟨_, rfl⟩
  have hdraw : t = { (if s.mRenderEncoder.mStateCache.visibilityResultMode = .Disabled then s
      else s.countInto s.countedSlot false) with
      mRenderEncoder := e₀.ensureMetalEncoderStarted } := by
    by_cases hmode : s.mRenderEncoder.mStateCache.visibilityResultMode = .Disabled
    · rw [ht, if_pos hmode]
      exact nativeDraw_of_disabled hset.inv (hset.mode.trans hmode) false
    · have hslot : countedSlot { s with mRenderEncoder := e₀ } = s.countedSlot := by
        unfold countedSlot
        rw [hset.offset]
      rw [ht, if_neg hmode, ← hslot]
      exact nativeDraw_of_enabled hset.inv (hset.mode.trans_ne hmode) false
  have hencoder : t.mRenderEncoder = e₀.ensureMetalEncoderStarted := by
    rw [hdraw]
  obtain ⟨e, he, heq⟩ := restorePipeline_eq (s := t) (hencoder ▸ hstarted.inv)
    s.mRenderEncoder.mStateCache.renderPipeline
  have hunfold : s.drawInvisibleFragments = { t with mRenderEncoder := e } := by
    rw [← heq, ht, he₀]
    rfl
  refine ⟨e, hset.trans (hstarted.trans (hencoder ▸ he)), ?_⟩
  rw [hunfold, hdraw]

section Live

variable {query : Nat}

theorem Live.covers (hlive : Live s query) : (s.offsets query).Covers
    (s.mOcclusionQueryPool.mAllocatedQueries.length - 1) := by
  have hnum := hlive.nonempty
  have hlast := hlive.last
  unfold Covers
  omega

theorem Live.lt_length (hlive : Live s query) :
    s.mOcclusionQueryPool.mAllocatedQueries.length - 1 <
      s.mOcclusionQueryPool.mAllocatedQueries.length := by
  have hnum := hlive.nonempty
  have hlast := hlive.last
  omega

theorem back_eq (h : s.Base) (hnum : (s.offsets q).mNumOffsets ≠ 0) :
    (s.offsets q).back =
      ((s.offsets q).slot + (s.offsets q).mNumOffsets - 1) * kOcclusionQueryResultSize := by
  unfold back
  rw [h.layout.aligned q hnum, ← Nat.add_mul, Nat.add_sub_assoc (by omega)]

theorem Live.countedSlot_eq (h : s.Base) (hlive : Live s query) :
    s.countedSlot = s.mOcclusionQueryPool.mAllocatedQueries.length - 1 := by
  unfold countedSlot
  rw [hlive.offset, back_eq h hlive.nonempty, Nat.mul_div_cancel _ (by decide), hlive.last]

/-- A counting draw adds its visible samples to the pending value of the live query. -/
theorem Live.pending_countInto (h : s.Base) (hlive : Live s query) (visible : Bool) (q : Nat) :
    (s.countInto s.countedSlot visible).Pending q ↔ s.Pending q ∨ (q = query ∧ visible) := by
  rw [hlive.countedSlot_eq h]
  by_cases hnum : (s.offsets q).mNumOffsets = 0
  · have hne : q ≠ query := by
      rintro rfl
      exact hlive.nonempty hnum
    rw [pending_of_empty hnum, pending_of_empty (s := s.countInto _ _) hnum]
    simp only [hne, false_and, or_false]
    rfl
  · rw [pending_of_nonempty hnum, pending_of_nonempty (s := s.countInto _ _) hnum, or_assoc]
    apply or_congr_right
    have hpool : ∀ j, j ≠ s.mOcclusionQueryPool.mAllocatedQueries.length - 1 →
        (s.countInto (s.mOcclusionQueryPool.mAllocatedQueries.length - 1) visible).poolResult j =
          s.poolResult j := fun j hj => update_of_ne hj _ _
    have hdrawn : ∀ j, j ≠ s.mOcclusionQueryPool.mAllocatedQueries.length - 1 →
        (s.countInto (s.mOcclusionQueryPool.mAllocatedQueries.length - 1) visible).drawnSlots j =
          s.drawnSlots j := fun j hj => update_of_ne hj _ _
    have hself : (s.countInto (s.mOcclusionQueryPool.mAllocatedQueries.length - 1)
        visible).poolResult (s.mOcclusionQueryPool.mAllocatedQueries.length - 1) ≠ 0 ↔
        (s.drawnSlots (s.mOcclusionQueryPool.mAllocatedQueries.length - 1) ∧
          s.poolResult (s.mOcclusionQueryPool.mAllocatedQueries.length - 1) ≠ 0) ∨
        visible := by
      unfold countInto
      simp only [update_self]
      rw [or_ne_zero_iff]
      apply or_congr
      · split <;> simp [*]
      · cases visible <;> simp
    constructor
    · rintro ⟨j, hj, hcounted, hjdrawn, hjpool⟩
      by_cases hlast : j = s.mOcclusionQueryPool.mAllocatedQueries.length - 1
      · subst hlast
        have hq : q = query := h.layout.disjoint hj hlive.covers
        rcases hself.mp hjpool with ⟨holdDrawn, holdPool⟩ | hvisible
        · exact .inl ⟨_, hj, hcounted, holdDrawn, holdPool⟩
        · exact .inr ⟨hq, hvisible⟩
      · rw [hdrawn j hlast] at hjdrawn
        rw [hpool j hlast] at hjpool
        exact .inl ⟨j, hj, hcounted, hjdrawn, hjpool⟩
    · rintro (⟨j, hj, hcounted, hjdrawn, hjpool⟩ | ⟨rfl, hvisible⟩)
      · refine ⟨j, hj, hcounted, ?_⟩
        by_cases hlast : j = s.mOcclusionQueryPool.mAllocatedQueries.length - 1
        · subst hlast
          exact ⟨update_self _ _ _, hself.mpr (.inl ⟨hjdrawn, hjpool⟩)⟩
        · rw [hdrawn j hlast, hpool j hlast]
          exact ⟨hjdrawn, hjpool⟩
      · exact ⟨_, hlive.covers, hlive.counted, update_self _ _ _, hself.mpr (.inr hvisible)⟩

theorem Live.base_countInto (h : s.Base) (hlive : Live s query) (visible : Bool) :
    (s.countInto s.countedSlot visible).Base where
  __ := h
  fresh j hj := by
    rw [hlive.countedSlot_eq h] at hj
    by_cases hlast : j = s.mOcclusionQueryPool.mAllocatedQueries.length - 1
    · subst hlast
      exact hlive.lt_length
    · exact h.fresh j ((update_of_ne hlast _ _).symm.trans hj)

theorem Live.allDrawn_countInto (h : s.Base) (hlive : Live s query) (visible : Bool) :
    (s.countInto s.countedSlot visible).AllDrawn := by
  intro q j hj hcounted
  rw [hlive.countedSlot_eq h]
  by_cases hlast : j = s.mOcclusionQueryPool.mAllocatedQueries.length - 1
  · subst hlast
    exact update_self _ _ _
  · exact (update_of_ne hlast _ _).trans (hlive.earlier q j hj hcounted hlast)

theorem Live.mode_ne (hlive : Live s query) :
    s.mRenderEncoder.mStateCache.visibilityResultMode ≠ .Disabled := by
  rw [hlive.mode]
  decide

theorem Live.allDrawn (hlive : Live s query) (hdraws : s.drawCalls ≠ 0) : s.AllDrawn := by
  intro q j hj hcounted
  by_cases hlast : j = s.mOcclusionQueryPool.mAllocatedQueries.length - 1
  · rw [hlast]
    exact hlive.lastDrawn.mpr hdraws
  · exact hlive.earlier q j hj hcounted hlast

end Live

/-! ## Disabling and the end of a pass -/

/-- The mode of the encoder fits the query that is active. -/
def QuietOrLive (s : OcclusionContext) : Prop :=
  s.Quiet ∨ ∃ query, s.mOcclusionQuery = some query ∧ s.Live query

/-- The state `t` follows `s` in the same pass, with every slot drawn. -/
structure Drawn (s t : OcclusionContext) : Prop extends Follows s t where
  drawn : t.AllDrawn
  pool : t.mOcclusionQueryPool = s.mOcclusionQueryPool
  offsets : t.offsets = s.offsets
  recording : t.mRenderEncoder.mRecording = s.mRenderEncoder.mRecording
  desc : t.mRenderEncoder.mRenderPassDesc = s.mRenderEncoder.mRenderPassDesc

theorem Drawn.refl (h : s.Base) (hdrawn : s.AllDrawn) : Drawn s s :=
  ⟨.refl h, hdrawn, rfl, rfl, rfl, rfl⟩

theorem Drawn.setEncoder (h : Drawn s t)
    (hinv : e.VisibilityInv) (hrecording : e.mRecording = t.mRenderEncoder.mRecording)
    (hdesc : e.mRenderPassDesc = t.mRenderEncoder.mRenderPassDesc) :
    Drawn s { t with mRenderEncoder := e } where
  __ := h
  base := h.base.setEncoder hinv hrecording
  recording := hrecording.trans h.recording
  desc := hdesc.trans h.desc

/-- The dummy draw makes up for the draws that there have not been. -/
theorem dummyDraw_spec (h : s.Base) (hrecording : s.mRenderEncoder.mRecording)
    (hmode : s.QuietOrLive) :
    Drawn s (if s.drawCalls = 0 then s.drawInvisibleFragments else s) := by
  by_cases hdraws : s.drawCalls = 0
  · rw [if_pos hdraws]
    obtain ⟨e, he, heq⟩ := drawInvisibleFragments_eq h hrecording
    rw [heq]
    rcases hmode with hquiet | ⟨query, -, hlive⟩
    · rw [if_pos hquiet.mode]
      exact (Drawn.refl h hquiet.drawn).setEncoder he.inv he.recording he.desc
    · rw [if_neg hlive.mode_ne]
      have hcounted : Drawn s (s.countInto s.countedSlot false) := {
        base := hlive.base_countInto h false
        pending := fun q => by
          rw [hlive.pending_countInto h]
          simp
        active := rfl
        buffer := rfl
        allow := rfl
        drawn := hlive.allDrawn_countInto h false
        pool := rfl
        offsets := rfl
        recording := rfl
        desc := rfl }
      exact hcounted.setEncoder he.inv he.recording he.desc
  · rw [if_neg hdraws]
    rcases hmode with hquiet | ⟨query, -, hlive⟩
    · exact .refl h hquiet.drawn
    · exact .refl h (hlive.allDrawn hdraws)

theorem disable_spec (h : s.Base) (hmode : s.QuietOrLive) :
    Drawn s s.disableActiveOcclusionQueryInRenderPass ∧
      s.disableActiveOcclusionQueryInRenderPass.Quiet := by
  -- nothing is done when no query has offsets, and then none is live
  have hskip : (∀ q, s.mOcclusionQuery = some q → (s.offsets q).mNumOffsets = 0) →
      Drawn s s ∧ s.Quiet := by
    intro hempty
    rcases hmode with hquiet | ⟨query, hactive, hlive⟩
    · exact ⟨.refl h hquiet.drawn, hquiet⟩
    · exact absurd (hempty query hactive) hlive.nonempty
  unfold disableActiveOcclusionQueryInRenderPass
  split
  · rename_i hactive
    apply hskip
    simp [hactive]
  · rename_i query hactive
    split
    · rename_i hempty
      apply hskip
      intro q hq
      obtain rfl : query = q := by simpa [hactive] using hq
      exact isEmpty_iff.mp hempty
    · rename_i hempty
      have hrecording := h.recording (isEmpty_iff.not.mp hempty)
      simp only [assert_of_true hrecording]
      have hdrawn := dummyDraw_spec h hrecording hmode
      have hinv := visibilityInv_setVisibilityResultMode hdrawn.base.encoder
        (hdrawn.recording.trans hrecording) .Disabled (s.offsets query).back
      rw [← hdrawn.offsets] at hinv
      exact ⟨hdrawn.setEncoder hinv (setVisibilityResultMode_mRecording _ _)
        (setVisibilityResultMode_mRenderPassDesc _ _),
        setVisibilityResultMode_mode _ _, hdrawn.drawn⟩

theorem endEncoding_spec (h : s.Base) (hmode : s.QuietOrLive) :
    Follows s s.endEncoding ∧ s.endEncoding.Quiet ∧
      s.endEncoding.mRenderEncoder.mRecording = false := by
  unfold endEncoding
  split
  · rename_i hrecording
    obtain ⟨hdrawn, hquiet⟩ := disable_spec h hmode
    obtain ⟨u, hu⟩ : ∃ u, u = s.disableActiveOcclusionQueryInRenderPass := ⟨_, rfl⟩
    rw [← hu] at hdrawn hquiet
    simp only [← hu]
    obtain ⟨hidle, hget, hcache⟩ := endEncoding_of_recording (e := u.mRenderEncoder)
      (hdrawn.recording.trans hrecording)
    have hresolved := resolveVisibilityResults_spec (s := { u with
      mRenderEncoder := u.mRenderEncoder.endEncoding, drawnSlots := fun _ => false })
      hdrawn.base.layout
    obtain ⟨t, ht⟩ : ∃ t, t = resolveVisibilityResults { u with
      mRenderEncoder := u.mRenderEncoder.endEncoding, drawnSlots := fun _ => false } := ⟨_, rfl⟩
    rw [← ht] at hresolved ⊢
    have hnil : t.mOcclusionQueryPool.mAllocatedQueries = [] := by
      rw [hresolved.pool]
    have hbase : t.Base := {
      layout := hnil ▸ Layout.of_empty hresolved.empty
      fresh := fun j hj => by
        rw [hresolved.drawn] at hj
        exact absurd hj Bool.false_ne_true
      encoder := by
        rw [hresolved.encoder]
        exact visibilityInv_of_reset hget hcache
      idle := fun _ => hnil
      asserts := hresolved.asserts.trans hdrawn.base.asserts
      room := by
        rw [hresolved.pool]
        exact hdrawn.base.room }
    refine ⟨⟨hbase, ?_, hresolved.active.trans hdrawn.active, ?_,
      hresolved.allow.trans hdrawn.allow⟩, ⟨?_, ?_⟩, ?_⟩
    · intro q
      rw [pending_of_empty (hresolved.empty q), ← hdrawn.pending q]
      by_cases hnum : (u.offsets q).mNumOffsets = 0
      · rw [pending_of_empty hnum, hresolved.kept q hnum]
      · rw [hresolved.resolved q hnum, ← resolved_iff_pending hdrawn.drawn hnum]
        rfl
    · rw [hresolved.pool]
      exact hdrawn.buffer
    · rw [hresolved.encoder]
      simp only [hcache]
    · exact allDrawn_of_nil hbase hnil
    · rw [hresolved.encoder]
      exact hidle
  · rename_i hidle
    have hidle : s.mRenderEncoder.mRecording = false := Bool.not_eq_true _ ▸ hidle
    rcases hmode with hquiet | ⟨query, -, hlive⟩
    · exact ⟨.refl h, hquiet, hidle⟩
    · exact absurd (h.num_eq_zero (h.idle hidle) query) hlive.nonempty

theorem getRenderCommandEncoder_spec (h : s.Base) (hmode : s.QuietOrLive) (desc : RenderPassDesc) :
    Follows s (s.getRenderCommandEncoder desc) ∧
      (s.getRenderCommandEncoder desc).mRenderEncoder.mRecording ∧
      (s.getRenderCommandEncoder desc).mRenderEncoder.mRenderPassDesc = desc ∧
      (s.getRenderCommandEncoder desc = s ∨ ((s.getRenderCommandEncoder desc).Quiet ∧
        (s.getRenderCommandEncoder desc).mOcclusionQueryPool.mAllocatedQueries = [])) := by
  unfold getRenderCommandEncoder
  split
  · rename_i hsame
    exact ⟨.refl h, hsame.1, hsame.2, .inl rfl⟩
  · obtain ⟨hfollows, hquiet, hidle⟩ := endEncoding_spec h hmode
    obtain ⟨u, hu⟩ : ∃ u, u = s.endEncoding := ⟨_, rfl⟩
    rw [← hu] at hfollows hquiet hidle
    simp only [← hu]
    have hnil := hfollows.base.idle hidle
    have hinv := visibilityInv_restart hfollows.base.encoder hidle desc
    rw [restart_of_idle hidle] at hinv ⊢
    refine ⟨{ hfollows with base := ⟨hfollows.base.layout, hfollows.base.fresh, hinv,
      fun _ => hnil, hfollows.base.asserts, hfollows.base.room⟩ }, rfl, rfl, .inr ⟨⟨hquiet.mode,
      hquiet.drawn⟩, hnil⟩⟩

end OcclusionContext

end MetalAngle.Metal
