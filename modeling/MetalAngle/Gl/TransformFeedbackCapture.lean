import MetalAngle.Gl.TransformFeedback

/-!
# What transform feedback captures

The capacity that begins with a transform feedback is what its buffers have room for, and a draw is
validated against what is left of it.  A run keeps within its buffers as long as the capacity stays
what the buffers have room for and every draw of a call is counted before the next is validated.
-/

namespace MetalAngle.Gl.Capture

open Option Function Context List Draw

def bytesAvailable (bufferSize : Int) (binding : Binding) : Int :=
  if binding.size = 0 then bufferSize
  else max 0 (min (binding.offset + binding.size) bufferSize - binding.offset)

/-- A draw of the vertices that a transform feedback captures, counted with its instances. -/
def Draw.countsVertices (draw : Draw) (primitiveMode : PrimitiveMode) (d : SubDraw) : Prop :=
  draw.call ≠ .drawElements ∧ draw.geometryStage = false ∧ draw.mode = primitiveMode ∧
    (draw.call = .drawArraysInstancedBaseInstance → d.instanceCount = 1)

instance (draw : Draw) (primitiveMode : PrimitiveMode) (d : SubDraw) :
    Decidable (draw.countsVertices primitiveMode d) :=
  inferInstanceAs (Decidable (_ ∧ _ ∧ _ ∧ _))

namespace Context

variable (c : Context)

/-- Every buffer that the program of `tf` writes has room for `vertices`. -/
def HasRoom (tf : TransformFeedback) (vertices : Int) : Prop :=
  ∀ program ∈ tf.mProgram, ∀ entry ∈ program.strides.zipIdx,
    ∀ binding ∈ tf.mIndexedBuffers entry.2,
      vertices * entry.1 ≤ bytesAvailable (c.mSize binding.buffer) binding

/-- What has been captured for `t` fits its capacity and its buffers, and is what is counted. -/
structure Captured (t : TransformFeedbackID) : Prop where
  drawn_le : (c.transformFeedbacks t).mVerticesDrawn ≤ (c.transformFeedbacks t).mVertexCapacity
  room : c.HasRoom (c.transformFeedbacks t) (c.transformFeedbacks t).mVerticesDrawn
  drawn_eq : (c.transformFeedbacks t).mVerticesDrawn = c.captured t

/-- The steps that keep the capacity what the buffers have room for, and the count what is
captured. -/
def KeepsCapacity (c : Context) : Action → Prop
  -- No buffer ends before the range that is bound of it.
  | .beginTransformFeedback _ => ∀ program ∈ c.program, 0 ≤ c.vertexCapacity c.current program
  -- A buffer that is captured to keeps the size that its capacity was computed with.
  | .bufferData p size => ∀ t, (c.transformFeedbacks t).mActive →
      (c.bufferData p size).HasRoom (c.transformFeedbacks t)
        (c.transformFeedbacks t).mVertexCapacity
  | .draw draw => c.isTransformFeedbackActiveUnpaused →
      (∀ d ∈ draw.draws, draw.call.noop draw.mode d ∨
        ∀ primitiveMode ∈ c.current.mPrimitiveMode, draw.countsVertices primitiveMode d) ∧
      -- The draws of a call are validated before the first of them is counted.
      (draw.draws.length ≤ 1 ∨ ∀ primitiveMode ∈ c.current.mPrimitiveMode,
        c.current.mVerticesDrawn + (draw.draws.map (draw.counts primitiveMode)).sum ≤
          c.current.mVertexCapacity)
  | _ => True

end Context

/-! ## The capacity -/

theorem checkedInt64_eq_some {x y : Int} (h : checkedInt64 x = some y) : y = x := by
  unfold checkedInt64 at h
  split at h
  · exact (some.inj h).symm
  · cases h

theorem checkedInt64_getD_le {x y : Int} (hx : x ≤ y) (hy : 0 ≤ y) :
    (checkedInt64 x).getD 0 ≤ y := by
  unfold checkedInt64
  split
  · exact hx
  · exact hy

theorem bytesAvailable_nonneg {bufferSize : Int} (hsize : 0 ≤ bufferSize) (binding : Binding) :
    0 ≤ bytesAvailable bufferSize binding := by
  unfold bytesAvailable
  split
  · exact hsize
  · exact le_max_left _ _

theorem getBoundBufferAvailableSize_le (bufferSize : Int) (binding : Binding) :
    getBoundBufferAvailableSize bufferSize binding ≤ bytesAvailable bufferSize binding := by
  unfold getBoundBufferAvailableSize bytesAvailable
  split
  · exact le_refl _
  · cases hlast : checkedInt64 (binding.offset + binding.size) with
    | none => exact le_max_left _ _
    | some last =>
      obtain rfl := checkedInt64_eq_some hlast
      simp only [bind_eq_bind, bind_some]
      cases hdifference : checkedInt64 (binding.offset + binding.size - bufferSize) with
      | none => exact le_max_left _ _
      | some difference =>
        obtain rfl := checkedInt64_eq_some hdifference
        dsimp only
        split
        · refine checkedInt64_getD_le ?_ (le_max_left _ _)
          omega
        · omega

theorem mul_le_of_le_tdiv {capacity available bytes : Int} {stride : Nat} (hstride : 0 < stride)
    (hcapacity : 0 ≤ capacity) (hle : capacity ≤ available.tdiv stride)
    (havailable : available ≤ bytes) (hbytes : 0 ≤ bytes) : capacity * stride ≤ bytes := by
  have hpos : (0 : Int) < stride := by omega
  rcases le_or_gt 0 available with hnonneg | hneg
  · rw [Int.tdiv_eq_ediv_of_nonneg hnonneg] at hle
    calc
      capacity * stride ≤ available / stride * stride := Int.mul_le_mul_of_nonneg_right hle hpos.le
      _ ≤ available := Int.ediv_mul_le _ hpos.ne'
      _ ≤ bytes := havailable
  · have hzero : 0 ≤ (-available).tdiv stride := Int.tdiv_nonneg (by omega) hpos.le
    rw [Int.neg_tdiv] at hzero
    obtain rfl : capacity = 0 := by omega
    simpa using hbytes

theorem foldl_min_le {α : Type*} (f : α → Int) (xs : List α) (init : Int) :
    (xs.foldl (fun minimum x => min minimum (f x)) init ≤ init) ∧
      ∀ x ∈ xs, xs.foldl (fun minimum x => min minimum (f x)) init ≤ f x := by
  induction xs generalizing init with
  | nil => simp
  | cons x xs ih =>
    obtain ⟨hinit, hmem⟩ := ih (min init (f x))
    constructor
    · exact hinit.trans (min_le_left _ _)
    · intro y hy
      rcases mem_cons.mp hy with rfl | hy
      · exact hinit.trans (min_le_right _ _)
      · exact hmem y hy

theorem stride_pos (program : Program) {entry : Nat × Nat}
    (hentry : entry ∈ program.strides.zipIdx) : 0 < entry.1 :=
  program.positive _ (fst_mem_of_mem_zipIdx hentry)

theorem getVerticesNeededForDraw_eq_assembled {mode : PrimitiveMode} {count primcount : Int}
    (hmode : mode.capturable) (hcount : 0 ≤ count) (hprimcount : 0 ≤ primcount) :
    getVerticesNeededForDraw mode count primcount = primcount * mode.assembled count := by
  have hvalid : ¬(count < 0 ∨ primcount < 0) := by omega
  cases mode with
  | Points => exact if_neg hvalid
  | Lines => exact if_neg hvalid
  | Triangles => exact if_neg hvalid
  | _ => cases hmode

variable {draw : Draw} {primitiveMode : PrimitiveMode} {d : SubDraw}

theorem Draw.counts_eq_needed
    (hnoop : draw.call.noop draw.mode d = false) (hdraw : draw.countsVertices primitiveMode d) :
    draw.counts primitiveMode d =
      getVerticesNeededForDraw primitiveMode d.count (draw.call.instances d) := by
  obtain ⟨hcall, _, _, hbaseInstance⟩ := hdraw
  have hmarked : draw.call.markedInstances d = draw.call.instances d := by
    revert hbaseInstance
    cases draw.call <;> simp [DrawCall.markedInstances, DrawCall.instances]
    exact Eq.symm
  rw [counts, if_neg (by simp [hcall, hnoop]), hmarked]

theorem Draw.counts_eq_captures
    (hmode : primitiveMode.capturable) (hcount : 0 ≤ d.count)
    (hinstances : 0 ≤ draw.call.instances d)
    (hdraw : draw.call.noop draw.mode d ∨ draw.countsVertices primitiveMode d) :
    draw.counts primitiveMode d = draw.captures d := by
  cases hnoop : draw.call.noop draw.mode d with
  | true => simp [counts, captures, hnoop]
  | false =>
    have hdraw := hdraw.resolve_left (by simp [hnoop])
    rw [counts_eq_needed hnoop hdraw,
      getVerticesNeededForDraw_eq_assembled hmode hcount hinstances]
    obtain ⟨hcall, hstage, hdrawMode, _⟩ := hdraw
    rw [captures]
    rcases hinstances.eq_or_lt with hzero | hpos
    · rw [if_pos (Or.inr hzero.symm.le), ← hzero, Int.zero_mul]
    · rw [if_neg (by simp [hnoop, hpos]), if_neg (by simp [hcall, hstage]), hdrawMode]

theorem DrawCall.count_pos_of_noop {call : DrawCall} {mode : PrimitiveMode}
    (hnoop : call.noop mode d = false) : 0 < d.count := by
  have hmin : 0 < mode.minimumCount := by cases mode <;> decide
  have hle : mode.minimumCount ≤ d.count := by
    cases call <;> simp [DrawCall.noop] at hnoop <;> omega
  omega

namespace Context

variable {c c' : Context}

variable {tf tf' : TransformFeedback}

theorem vertexCapacity_hasRoom {program : Program}
    (hsizes : ∀ p, 0 ≤ c.mSize p) (hprogram : tf'.mProgram = some program)
    (hbuffers : tf'.mIndexedBuffers = tf.mIndexedBuffers)
    (hcapacity : 0 ≤ c.vertexCapacity tf program) :
    c.HasRoom tf' (c.vertexCapacity tf program) := by
  intro program' hprogram' entry hentry binding hbinding
  obtain rfl : program = program' := by simpa [hprogram] using hprogram'
  rw [hbuffers] at hbinding
  have hle : c.vertexCapacity tf program ≤ (c.availableSize tf entry.2).tdiv entry.1 :=
    (foldl_min_le (fun entry : Nat × Nat => (c.availableSize tf entry.2).tdiv entry.1)
      program.strides.zipIdx int64Max).2 entry hentry
  have havailable : c.availableSize tf entry.2 ≤
      bytesAvailable (c.mSize binding.buffer) binding := by
    unfold availableSize
    rw [mem_def.mp hbinding]
    exact getBoundBufferAvailableSize_le _ _
  exact mul_le_of_le_tdiv (stride_pos program hentry) hcapacity hle havailable
    (bytesAvailable_nonneg (hsizes _) _)

theorem HasRoom.anti {vertices fewer : Int}
    (hroom : c.HasRoom tf vertices) (hle : fewer ≤ vertices) : c.HasRoom tf fewer := by
  intro program hprogram entry hentry binding hbinding
  calc
    fewer * entry.1 ≤ vertices * entry.1 := Int.mul_le_mul_of_nonneg_right hle (Int.natCast_nonneg _)
    _ ≤ _ := hroom program hprogram entry hentry binding hbinding

theorem HasRoom.congr {vertices : Int} (hroom : c.HasRoom tf vertices)
    (hsizes : c'.mSize = c.mSize) (hprogram : tf'.mProgram = tf.mProgram)
    (hbuffers : ∀ index, ∀ binding ∈ tf'.mIndexedBuffers index,
      binding ∈ tf.mIndexedBuffers index) : c'.HasRoom tf' vertices := by
  intro program hmem entry hentry binding hbinding
  rw [hsizes]
  rw [hprogram] at hmem
  exact hroom program hmem entry hentry binding (hbuffers _ _ hbinding)

/-! ## What a run keeps -/

/-- What `tf` counts, of which `captured` has been captured, fits its buffers. -/
structure Fits (c : Context) (tf : TransformFeedback) (captured : Int) : Prop where
  mode : ∃ primitiveMode, tf.mPrimitiveMode = some primitiveMode ∧ primitiveMode.capturable
  room : c.HasRoom tf tf.mVertexCapacity
  drawn_le : tf.mVerticesDrawn ≤ tf.mVertexCapacity
  drawn_eq : tf.mVerticesDrawn = captured

structure WellFormed (c : Context) : Prop where
  flag : c.mCachedTransformFeedbackActiveUnpaused = c.isTransformFeedbackActiveUnpaused
  sizes : ∀ p, 0 ≤ c.mSize p
  -- Only the current object captures.
  paused : ∀ t, t ≠ c.mTransformFeedback → (c.transformFeedbacks t).mActive →
    (c.transformFeedbacks t).mPaused
  fits : ∀ t, (c.transformFeedbacks t).mActive → c.Fits (c.transformFeedbacks t) (c.captured t)

theorem WellFormed.captured_of_active (h : c.WellFormed) {t : TransformFeedbackID}
    (hactive : (c.transformFeedbacks t).mActive) : c.Captured t where
  drawn_le := (h.fits t hactive).drawn_le
  room := (h.fits t hactive).room.anti (h.fits t hactive).drawn_le
  drawn_eq := (h.fits t hactive).drawn_eq

theorem initial_wellFormed (geometryShader : Bool) (maxTransformFeedbackSeparateAttributes : Nat) :
    (initial geometryShader maxTransformFeedbackSeparateAttributes).WellFormed where
  flag := rfl
  sizes _ := le_refl _
  paused _ _ hactive := by cases hactive
  fits _ hactive := by cases hactive

theorem Fits.congr {captured : Int} (hfits : c.Fits tf captured)
    (hsizes : c'.mSize = c.mSize) (hmode : tf'.mPrimitiveMode = tf.mPrimitiveMode)
    (hcapacity : tf'.mVertexCapacity = tf.mVertexCapacity)
    (hdrawn : tf'.mVerticesDrawn = tf.mVerticesDrawn) (hprogram : tf'.mProgram = tf.mProgram)
    (hbuffers : ∀ index, ∀ binding ∈ tf'.mIndexedBuffers index,
      binding ∈ tf.mIndexedBuffers index) : c'.Fits tf' captured where
  mode := hmode ▸ hfits.mode
  room := hcapacity ▸ hfits.room.congr hsizes hprogram hbuffers
  drawn_le := by
    rw [hdrawn, hcapacity]
    exact hfits.drawn_le
  drawn_eq := hdrawn.trans hfits.drawn_eq

/-- What a call that changes the current object has to keep. -/
theorem WellFormed.of_current (h : c.WellFormed)
    (hflag : c'.mCachedTransformFeedbackActiveUnpaused = c'.isTransformFeedbackActiveUnpaused)
    (hsizes : c'.mSize = c.mSize) (hid : c'.mTransformFeedback = c.mTransformFeedback)
    (hothers : ∀ t, t ≠ c.mTransformFeedback →
      c'.transformFeedbacks t = c.transformFeedbacks t ∧ c'.captured t = c.captured t)
    (hcurrent : c'.current.mActive → c'.Fits c'.current (c'.captured c.mTransformFeedback)) :
    c'.WellFormed where
  flag := hflag
  sizes p := by
    rw [hsizes]
    exact h.sizes p
  paused t ht hactive := by
    rw [hid] at ht
    rw [(hothers t ht).1] at hactive ⊢
    exact h.paused t ht hactive
  fits t hactive := by
    by_cases ht : t = c.mTransformFeedback
    · subst ht
      have hself : c'.transformFeedbacks c.mTransformFeedback = c'.current := by
        rw [current, hid]
      rw [hself] at hactive ⊢
      exact hcurrent hactive
    · obtain ⟨htf, hcaptured⟩ := hothers t ht
      rw [htf] at hactive ⊢
      rw [hcaptured]
      exact (h.fits t hactive).congr hsizes rfl rfl rfl rfl fun _ _ hmem => hmem

/-! ### Calls -/

@[simp] theorem modifyCurrent_current (f : TransformFeedback → TransformFeedback) :
    (c.modifyCurrent f).current = f c.current := by
  simp [modifyCurrent, current]

@[simp] theorem onActiveTransformFeedbackChange_current :
    c.onActiveTransformFeedbackChange.current = c.current := rfl

theorem onActiveTransformFeedbackChange_flag :
    c.onActiveTransformFeedbackChange.mCachedTransformFeedbackActiveUnpaused =
      c.onActiveTransformFeedbackChange.isTransformFeedbackActiveUnpaused := rfl

section

variable (h : c.WellFormed)
include h

theorem WellFormed.modifyCurrent (f : TransformFeedback → TransformFeedback)
    (hcurrent : (f c.current).mActive → c.Fits (f c.current) (c.captured c.mTransformFeedback)) :
    (c.modifyCurrent f).onActiveTransformFeedbackChange.WellFormed := by
  refine h.of_current onActiveTransformFeedbackChange_flag rfl rfl ?_ ?_
  · intro t ht
    simp [onActiveTransformFeedbackChange, Context.modifyCurrent, ht]
  · rw [onActiveTransformFeedbackChange_current, modifyCurrent_current]
    intro hactive
    exact (hcurrent hactive).congr rfl rfl rfl rfl rfl fun _ _ hmem => hmem

theorem beginTransformFeedback_wellFormed (hmode : primitiveMode.capturable) (hprogram : c.program.isSome)
    (hguard : c.KeepsCapacity (.beginTransformFeedback primitiveMode)) :
    (c.beginTransformFeedback primitiveMode).WellFormed := by
  obtain ⟨program, hprogram⟩ := isSome_iff_exists.mp hprogram
  have hcapacity : 0 ≤ c.vertexCapacity c.current program := hguard program hprogram
  have hcurrent : (c.beginTransformFeedback primitiveMode).current = { c.current with
        mActive := true, mPrimitiveMode := some primitiveMode, mPaused := false
        mVerticesDrawn := 0, mProgram := some program
        mVertexCapacity := c.vertexCapacity c.current program } := by
    unfold beginTransformFeedback
    simp [current, modifyCurrent, onActiveTransformFeedbackChange, hprogram]
  have hroom : c.HasRoom (c.beginTransformFeedback primitiveMode).current
      (c.vertexCapacity c.current program) := by
    rw [hcurrent]
    exact vertexCapacity_hasRoom h.sizes rfl rfl hcapacity
  rw [hcurrent] at hroom
  refine h.of_current onActiveTransformFeedbackChange_flag rfl rfl ?_ ?_
  · intro t ht
    simp [beginTransformFeedback, onActiveTransformFeedbackChange, modifyCurrent, ht]
  · intro _
    rw [hcurrent]
    constructor
    · exact ⟨primitiveMode, rfl, hmode⟩
    · exact hroom.congr rfl rfl fun _ _ hmem => hmem
    · exact hcapacity
    · simp [beginTransformFeedback, onActiveTransformFeedbackChange]

theorem endTransformFeedback_wellFormed :
    c.endTransformFeedback.WellFormed :=
  h.modifyCurrent _ fun hactive => by cases hactive

theorem current_fits (hactive : c.current.mActive) :
    c.Fits c.current (c.captured c.mTransformFeedback) :=
  h.fits c.mTransformFeedback hactive

theorem pauseTransformFeedback_wellFormed :
    c.pauseTransformFeedback.WellFormed :=
  h.modifyCurrent _ fun hactive =>
    (current_fits h hactive).congr rfl rfl rfl rfl rfl fun _ _ hmem => hmem

theorem resumeTransformFeedback_wellFormed :
    c.resumeTransformFeedback.WellFormed :=
  h.modifyCurrent _ fun hactive =>
    (current_fits h hactive).congr rfl rfl rfl rfl rfl fun _ _ hmem => hmem

/-- An object that is not captured to is active only while it is paused, so the switch between two
of them leaves the flag as it is. -/
theorem bindTransformFeedback_wellFormed (t : TransformFeedbackID)
    (hunpaused : c.isTransformFeedbackActiveUnpaused = false) :
    (c.bindTransformFeedback t).WellFormed where
  __ := h
  flag := by
    change c.mCachedTransformFeedbackActiveUnpaused = _
    rw [h.flag, hunpaused]
    by_cases ht : t = c.mTransformFeedback
    · subst ht
      exact hunpaused.symm
    · have hpaused := h.paused t ht
      simp only [isTransformFeedbackActiveUnpaused, current, bindTransformFeedback]
      grind
  paused u _ hactive := by
    by_cases hu : u = c.mTransformFeedback
    · subst hu
      simp only [isTransformFeedbackActiveUnpaused, current] at hunpaused
      change (c.transformFeedbacks c.mTransformFeedback).mActive = true at hactive
      change (c.transformFeedbacks c.mTransformFeedback).mPaused
      grind
    · exact h.paused u hu hactive
  fits u hactive := (h.fits u hactive).congr rfl rfl rfl rfl rfl fun _ _ hmem => hmem

theorem deleteTransformFeedback_wellFormed {t : TransformFeedbackID}
    (ht : t ≠ 0) (hinactive : (c.transformFeedbacks t).mActive = false) :
    (c.deleteTransformFeedback t).WellFormed := by
  obtain ⟨bound, hbound⟩ :
      ∃ bound, bound = if t = c.mTransformFeedback then c.bindTransformFeedback 0 else c :=
    ⟨_, rfl⟩
  have hdelete : c.deleteTransformFeedback t =
      { bound with transformFeedbacks := update c.transformFeedbacks t .new } := by
    rw [deleteTransformFeedback, hbound]
    split <;> rfl
  have hwellFormed : bound.WellFormed := by
    rw [hbound]
    split
    · next hcurrent =>
        subst hcurrent
        refine bindTransformFeedback_wellFormed h 0 ?_
        simp [isTransformFeedbackActiveUnpaused, current, hinactive]
    · exact h
  have htfs : bound.transformFeedbacks = c.transformFeedbacks := by
    rw [hbound]
    split <;> rfl
  have hne : bound.mTransformFeedback ≠ t := by
    rw [hbound]
    split
    · exact ht.symm
    · next hcurrent => exact fun heq => hcurrent heq.symm
  have hactive : ∀ u, (update c.transformFeedbacks t .new u).mActive →
      u ≠ t ∧ update c.transformFeedbacks t .new u = bound.transformFeedbacks u := by
    intro u hactive
    by_cases hu : u = t
    · subst hu
      rw [update_self] at hactive
      cases hactive
    · exact ⟨hu, by rw [update_of_ne hu, htfs]⟩
  rw [hdelete]
  constructor
  · rw [hwellFormed.flag]
    simp [isTransformFeedbackActiveUnpaused, current, update_of_ne hne, htfs]
  · exact hwellFormed.sizes
  · intro u hu hu'
    obtain ⟨_, heq⟩ := hactive u hu'
    dsimp only at hu' ⊢
    rw [heq] at hu' ⊢
    exact hwellFormed.paused u hu hu'
  · intro u hu'
    obtain ⟨_, heq⟩ := hactive u hu'
    dsimp only at hu' ⊢
    rw [heq] at hu' ⊢
    exact (hwellFormed.fits u hu').congr rfl rfl rfl rfl rfl fun _ _ hmem => hmem

theorem bindIndexedBuffer_wellFormed (index : Nat) (binding : Option Binding)
    (hinactive : c.current.mActive = false) : (c.bindIndexedBuffer index binding).WellFormed := by
  refine h.of_current ?_ rfl rfl ?_ ?_
  · change c.mCachedTransformFeedbackActiveUnpaused = _
    rw [h.flag, isTransformFeedbackActiveUnpaused, isTransformFeedbackActiveUnpaused,
      bindIndexedBuffer, modifyCurrent_current]
  · intro t ht
    simp [bindIndexedBuffer, modifyCurrent, ht]
  · intro hactive
    rw [bindIndexedBuffer, modifyCurrent_current] at hactive
    rw [hinactive] at hactive
    cases hactive

theorem detachBuffer_wellFormed (p : BufferPtr) :
    (c.detachBuffer p).WellFormed := by
  refine h.of_current ?_ rfl rfl ?_ ?_
  · change c.mCachedTransformFeedbackActiveUnpaused = _
    rw [h.flag, isTransformFeedbackActiveUnpaused, isTransformFeedbackActiveUnpaused,
      detachBuffer, modifyCurrent_current]
  · intro t ht
    simp [detachBuffer, modifyCurrent, ht]
  · intro hactive
    rw [detachBuffer, modifyCurrent_current] at hactive ⊢
    refine (current_fits h hactive).congr rfl rfl rfl rfl rfl ?_
    intro index binding hmem
    exact (filter_eq_some_iff.mp hmem).1

theorem bufferData_wellFormed {p : BufferPtr} {size : Int} (hsize : 0 ≤ size)
    (hguard : c.KeepsCapacity (.bufferData p size)) : (c.bufferData p size).WellFormed where
  __ := h
  sizes q := by
    by_cases hq : q = p
    · subst hq
      simpa [bufferData] using hsize
    · simpa [bufferData, hq] using h.sizes q
  fits t hactive :=
    { h.fits t hactive with room := hguard t hactive }

theorem useProgram_wellFormed (program : Option Program) :
    { c with program := program }.WellFormed where
  __ := h
  fits t hactive := (h.fits t hactive).congr rfl rfl rfl rfl rfl fun _ _ hmem => hmem

end

/-! ### Draws -/

/-- What the draws of a call change: `vertices` are counted and `primitives` are captured. -/
def counted (c : Context) (vertices primitives : Int) : Context :=
  { c with
    transformFeedbacks :=
      Function.update c.transformFeedbacks c.mTransformFeedback
        { c.current with mVerticesDrawn := c.current.mVerticesDrawn + vertices }
    captured :=
      Function.update c.captured c.mTransformFeedback
        (c.captured c.mTransformFeedback + primitives) }

theorem counted_zero : c.counted 0 0 = c := by
  simp [counted, current]

theorem counted_counted (vertices primitives vertices' primitives' : Int) :
    (c.counted vertices primitives).counted vertices' primitives' =
      c.counted (vertices + vertices') (primitives + primitives') := by
  simp [counted, current, Int.add_assoc]

@[simp] theorem counted_current (vertices primitives : Int) :
    (c.counted vertices primitives).current =
      { c.current with mVerticesDrawn := c.current.mVerticesDrawn + vertices } := by
  simp [counted, current]

theorem counted_isActiveUnpaused (vertices primitives : Int) :
    (c.counted vertices primitives).isTransformFeedbackActiveUnpaused =
      c.isTransformFeedbackActiveUnpaused := by
  simp [isTransformFeedbackActiveUnpaused]

theorem drawOne_eq_self
    (hflag : c.mCachedTransformFeedbackActiveUnpaused = false)
    (hunpaused : c.isTransformFeedbackActiveUnpaused = false) : c.drawOne draw d = some c := by
  simp [drawOne, capture, hflag, hunpaused]

theorem drawOne_eq_counted
    (hflag : c.mCachedTransformFeedbackActiveUnpaused)
    (hunpaused : c.isTransformFeedbackActiveUnpaused)
    (hmode : c.current.mPrimitiveMode = some primitiveMode) (hdraw : c.drawOne draw d = some c') :
    c' = c.counted (draw.counts primitiveMode d) (draw.captures d) := by
  have hcurrent : (c.capture (draw.captures d)).current = c.current := by
    simp [capture, hunpaused, current]
  have hcachedFlag : (c.capture (draw.captures d)).mCachedTransformFeedbackActiveUnpaused := by
    simp [capture, hunpaused, hflag]
  simp only [drawOne, hcachedFlag, if_true, onVerticesDrawn, hcurrent, hmode, getD_some]
    at hdraw
  obtain ⟨drawn, hdrawn, rfl⟩ := map_eq_some_iff.mp hdraw
  obtain rfl := checkedInt64_eq_some hdrawn
  simp [counted, modifyCurrent, capture, hunpaused, current]

theorem foldlM_drawOne_eq_counted
    (draws : List SubDraw) (hflag : c.mCachedTransformFeedbackActiveUnpaused)
    (hunpaused : c.isTransformFeedbackActiveUnpaused)
    (hmode : c.current.mPrimitiveMode = some primitiveMode)
    (hdraw : draws.foldlM (fun c d => c.drawOne draw d) c = some c') :
    c' = c.counted (draws.map (draw.counts primitiveMode)).sum (draws.map draw.captures).sum := by
  induction draws generalizing c with
  | nil =>
      obtain rfl : c = c' := by simpa using hdraw
      simp [counted_zero]
  | cons d draws ih =>
    rw [foldlM_cons, bind_eq_bind, bind_eq_some_iff] at hdraw
    obtain ⟨drawn, hone, hrest⟩ := hdraw
    obtain rfl := drawOne_eq_counted hflag hunpaused hmode hone
    have hactive := (counted_isActiveUnpaused (c := c) (draw.counts primitiveMode d)
      (draw.captures d)).trans hunpaused
    have hmode' : (c.counted (draw.counts primitiveMode d)
        (draw.captures d)).current.mPrimitiveMode = some primitiveMode := by
      rw [counted_current]
      exact hmode
    rw [ih (by exact hflag) hactive hmode' hrest, counted_counted, map_cons, map_cons, sum_cons, sum_cons]

theorem foldlM_drawOne_eq_self (draws : List SubDraw)
    (hflag : c.mCachedTransformFeedbackActiveUnpaused = false)
    (hunpaused : c.isTransformFeedbackActiveUnpaused = false) :
    draws.foldlM (fun c d => c.drawOne draw d) c = some c := by
  induction draws with
  | nil => rfl
  | cons d draws ih =>
      rw [foldlM_cons, drawOne_eq_self hflag hunpaused]
      exact ih

theorem validateSubDraw_of_validateDraw (hvalid : c.validateDraw draw)
    (hd : d ∈ draw.draws) : c.validateSubDraw draw.call d := by
  simp only [validateDraw, decide_eq_true_eq] at hvalid
  exact hvalid.2.2.2.2.2 d hd

/-- A draw that is validated has room for what it counts. -/
theorem drawn_add_counts_le
    (hflag : c.mCachedTransformFeedbackActiveUnpaused)
    (hmode : c.current.mPrimitiveMode = some primitiveMode) (hvalid : c.validateSubDraw draw.call d)
    (hdrawn : c.current.mVerticesDrawn ≤ c.current.mVertexCapacity)
    (hdraw : draw.call.noop draw.mode d ∨ draw.countsVertices primitiveMode d) :
    c.current.mVerticesDrawn + draw.counts primitiveMode d ≤ c.current.mVertexCapacity := by
  cases hnoop : draw.call.noop draw.mode d with
  | true => simpa [counts, hnoop] using hdrawn
  | false =>
    have hdraw := hdraw.resolve_left (by simp [hnoop])
    simp only [validateSubDraw, decide_eq_true_eq] at hvalid
    have hspace := hvalid.2.2 hdraw.1 (DrawCall.count_pos_of_noop hnoop) hflag
    simp only [checkBufferSpaceForDraw, hmode, getD_some] at hspace
    rw [counts_eq_needed hnoop hdraw]
    split at hspace
    · cases hspace
    · next hvertices =>
        obtain rfl := checkedInt64_eq_some hvertices
        exact of_decide_eq_true hspace

theorem draw_wellFormed (h : c.WellFormed) (hvalid : c.validateDraw draw)
    (hguard : c.KeepsCapacity (.draw draw)) (hdraw : c.draw draw = some c') : c'.WellFormed := by
  cases hunpaused : c.isTransformFeedbackActiveUnpaused with
  | false =>
      rw [Context.draw, foldlM_drawOne_eq_self _ (h.flag.trans hunpaused) hunpaused] at hdraw
      cases hdraw
      exact h
  | true =>
    have hflag := h.flag.trans hunpaused
    have hactive : c.current.mActive := by
      simp only [isTransformFeedbackActiveUnpaused, Bool.and_eq_true] at hunpaused
      exact hunpaused.1
    have hfits := current_fits h hactive
    obtain ⟨primitiveMode, hmode, hcapturable⟩ := hfits.mode
    obtain ⟨hdraws, htotal⟩ := hguard hunpaused
    have hcounted : ∀ d ∈ draw.draws,
        draw.call.noop draw.mode d ∨ draw.countsVertices primitiveMode d := by
      intro d hd
      exact (hdraws d hd).imp id fun hall => hall _ hmode
    have hsum : draw.draws.map (draw.counts primitiveMode) = draw.draws.map draw.captures := by
      refine map_congr_left fun d hd => ?_
      have hsub := validateSubDraw_of_validateDraw hvalid hd
      simp only [validateSubDraw, decide_eq_true_eq] at hsub
      exact counts_eq_captures hcapturable hsub.1 hsub.2.1 (hcounted d hd)
    have hle : c.current.mVerticesDrawn + (draw.draws.map (draw.counts primitiveMode)).sum ≤
        c.current.mVertexCapacity := by
      refine htotal.elim (fun hlength => ?_) fun hall => hall _ hmode
      match hlist : draw.draws, hlength with
      | [], _ => simpa using hfits.drawn_le
      | [d], _ =>
          have hd : d ∈ draw.draws := by simp [hlist]
          simpa using drawn_add_counts_le hflag hmode
            (validateSubDraw_of_validateDraw hvalid hd) hfits.drawn_le (hcounted d hd)
    obtain rfl := foldlM_drawOne_eq_counted _ hflag hunpaused hmode hdraw
    refine h.of_current ?_ rfl rfl ?_ ?_
    · exact h.flag.trans (counted_isActiveUnpaused _ _).symm
    · intro t ht
      simp [counted, ht]
    · intro _
      rw [counted_current]
      constructor
      · exact ⟨primitiveMode, hmode, hcapturable⟩
      · exact hfits.room.congr rfl rfl fun _ _ hmem => hmem
      · exact hle
      · simp only [counted, update_self]
        rw [hfits.drawn_eq, hsum]

/-! ## Runs -/

theorem step_eq_some {action : Action} (hstep : step c action = some c') :
    c.validates action ∧ c.apply action = some c' := by
  exact ite_none_right_eq_some.mp hstep

theorem step_wellFormed (h : c.WellFormed) {action : Action} (hguard : c.KeepsCapacity action)
    (hstep : step c action = some c') : c'.WellFormed := by
  obtain ⟨hvalid, happly⟩ := step_eq_some hstep
  cases action with
  | beginTransformFeedback primitiveMode =>
      cases happly
      simp only [validates, Bool.and_eq_true] at hvalid
      exact beginTransformFeedback_wellFormed h hvalid.1.1 hvalid.2 hguard
  | pauseTransformFeedback =>
      cases happly
      exact pauseTransformFeedback_wellFormed h
  | resumeTransformFeedback =>
      cases happly
      exact resumeTransformFeedback_wellFormed h
  | endTransformFeedback =>
      cases happly
      exact endTransformFeedback_wellFormed h
  | bindTransformFeedback t =>
      cases happly
      exact bindTransformFeedback_wellFormed h t (by simpa [validates] using hvalid)
  | deleteTransformFeedback t =>
      cases happly
      simp only [validates, decide_eq_true_eq] at hvalid
      exact deleteTransformFeedback_wellFormed h hvalid.1 hvalid.2
  | bindIndexedBuffer index binding =>
      cases happly
      simp only [validates, decide_eq_true_eq] at hvalid
      exact bindIndexedBuffer_wellFormed h index binding hvalid.2.1
  | useProgram program =>
      cases happly
      exact useProgram_wellFormed h program
  | bufferData p size =>
      cases happly
      exact bufferData_wellFormed h (by simpa [validates] using hvalid) hguard
  | deleteBuffer p =>
      cases happly
      exact detachBuffer_wellFormed h p
  | draw draw => exact draw_wellFormed h hvalid hguard happly

/-- In every run that keeps the capacity what the buffers have room for, and counts every draw for
what it captures, what is captured for an active object fits its capacity and its buffers. -/
theorem run_captured {geometryShader : Bool} {maxTransformFeedbackSeparateAttributes : Nat}
    {actions : List Action} (hrun : LabelledRun.Run step KeepsCapacity
      (initial geometryShader maxTransformFeedbackSeparateAttributes) actions c)
    {t : TransformFeedbackID} (hactive : (c.transformFeedbacks t).mActive) : c.Captured t :=
  (hrun.invariant (fun _ _ _ h hguard hstep => step_wellFormed h hguard hstep)
    (initial_wellFormed _ _)).captured_of_active hactive

def checkKeepsCapacity (c : Context) : Action → Bool
  | .beginTransformFeedback _ =>
      c.program.elim true fun program => 0 ≤ c.vertexCapacity c.current program
  | .bufferData _ _ => false
  | .draw draw => draw.draws.length ≤ 1 ∧ ∀ d ∈ draw.draws,
      ∀ primitiveMode ∈ c.current.mPrimitiveMode, draw.countsVertices primitiveMode d
  | _ => true

theorem keepsCapacity_of_check (c : Context) (action : Action)
    (hcheck : c.checkKeepsCapacity action) : c.KeepsCapacity action := by
  cases action with
  | beginTransformFeedback primitiveMode =>
      intro program hprogram
      simp only [checkKeepsCapacity, mem_def.mp hprogram, elim_some,
        decide_eq_true_eq] at hcheck
      exact hcheck
  | bufferData p size => cases hcheck
  | draw draw =>
      simp only [checkKeepsCapacity, decide_eq_true_eq] at hcheck
      exact fun _ => ⟨fun d hd => Or.inr (hcheck.2 d hd), Or.inl hcheck.1⟩
  | _ => trivial

def oneComponent : Program := ⟨[4], by decide, by decide⟩

def threeVertices : Context := (initial false 4).bufferData 1 12

def captureCalls (draw : Draw) : List Action :=
  [.useProgram (some oneComponent), .bindIndexedBuffer 0 (some ⟨1, 0, 0⟩),
    .beginTransformFeedback .Points, .draw draw]

def captures (c : Context) : Bool × Int × Int :=
  (c.current.mActive, c.current.mVerticesDrawn, c.current.mVertexCapacity)

theorem run_captured_threePoints :
    ∃ actions c, LabelledRun.Run step KeepsCapacity (initial false 4) actions c ∧
      (c.transformFeedbacks c.mTransformFeedback).mVerticesDrawn = 3 ∧
      c.Captured c.mTransformFeedback := by
  have hexec : (LabelledRun.exec (LabelledRun.checked step checkKeepsCapacity) threeVertices
      (captureCalls ⟨.drawArrays, .Points, false, [⟨3, 1, 0⟩]⟩)).map captures =
        some (true, 3, 3) := by
    decide +kernel
  obtain ⟨c, hc, hcaptures⟩ := map_eq_some_iff.mp hexec
  obtain ⟨hactive, hcounts⟩ := Prod.mk.inj hcaptures
  have hrun := LabelledRun.Run.of_exec_checked _ keepsCapacity_of_check hc
  have hkeeps : (initial false 4).KeepsCapacity (.bufferData 1 12) := by
    intro t hactive
    cases hactive
  have hrun := LabelledRun.Run.cons hkeeps rfl hrun
  exact ⟨_, c, hrun, (Prod.mk.inj hcounts).1, run_captured hrun hactive⟩

/-- Every draw of a call is validated against what is captured before the call: two draws of two
points are accepted for a buffer with room for three. -/
theorem multiDraw_overruns :
    ¬ ∀ (geometryShader : Bool) (maxTransformFeedbackSeparateAttributes : Nat)
      (actions : List Action) (c : Context),
      LabelledRun.Run step LabelledRun.anyStep
        (initial geometryShader maxTransformFeedbackSeparateAttributes) actions c →
      ∀ t, (c.transformFeedbacks t).mActive → c.Captured t := by
  intro hall
  have hexec : (LabelledRun.exec step threeVertices
      (captureCalls ⟨.multiDrawArrays, .Points, false, [⟨2, 1, 0⟩, ⟨2, 1, 0⟩]⟩)).map captures =
        some (true, 4, 3) := by
    decide +kernel
  obtain ⟨c, hc, hcaptures⟩ := map_eq_some_iff.mp hexec
  obtain ⟨hactive, hcounts⟩ := Prod.mk.inj hcaptures
  obtain ⟨hdrawn, hcapacity⟩ := Prod.mk.inj hcounts
  have hrun := LabelledRun.Run.cons (a := .bufferData 1 12) trivial rfl (.of_exec hc)
  have hle := (hall false 4 _ c hrun c.mTransformFeedback hactive).drawn_le
  rw [← current, hdrawn, hcapacity] at hle
  omega

end Context

end MetalAngle.Gl.Capture
