import MetalAngle.Gl.TransformFeedbackCapture

/-!
# Uniform buffers

A draw is accepted when what is available of the buffer of every active uniform block is enough for
it.  The available size is signed and is compared as an unsigned size, so the comparison tells the
truth only where the available size is not negative.
-/

namespace MetalAngle.Gl.UniformBuffers

open Capture Option

inductive DrawError
  | uniformBufferUnbound
  | uniformBufferTooSmall
  | uniformBufferBoundForTransformFeedback

structure UniformBlock where
  blockBinding : Nat
  dataSize : Nat

structure State where
  webglCompatibility : Bool
  uniformBufferOffsetAlignment : Nat
  maxUniformBufferBindings : Nat
  mSize : BufferPtr → Int
  isBoundForTransformFeedbackAndOtherUse : BufferPtr → Bool
  mUniformBuffers : Nat → Option Binding
  uniformBlocks : List UniformBlock

inductive Action
  | bindBufferRange (index : Nat) (p : BufferPtr) (offset size : Int)
  | bindBufferBase (index : Nat) (p : Option BufferPtr)
  | bufferData (p : BufferPtr) (size : Int)
  | deleteBuffer (p : BufferPtr)
  | useProgram (uniformBlocks : List UniformBlock)
  | uniformBlockBinding (uniformBlockIndex blockBinding : Nat)
  | bindForTransformFeedback (p : BufferPtr) (andOtherUse : Bool)

def toSizeT (size : Int) : Nat := (size % 2 ^ 64).toNat

namespace State

variable (s : State)

/-- The uniform buffer validation of `ValidateDrawStates` for one block. -/
def validateUniformBlock (block : UniformBlock) : Option DrawError :=
  match s.mUniformBuffers block.blockBinding with
  | none => some .uniformBufferUnbound
  | some binding =>
    let uniformBufferSize :=
      toSizeT (getBoundBufferAvailableSize (s.mSize binding.buffer) binding)
    if uniformBufferSize < block.dataSize then some .uniformBufferTooSmall
    else if s.webglCompatibility ∧ s.isBoundForTransformFeedbackAndOtherUse binding.buffer then
      some .uniformBufferBoundForTransformFeedback
    else none

def validateUniformBlocks : Option DrawError :=
  s.uniformBlocks.findSome? s.validateUniformBlock

def setIndexedBuffer (index : Nat) (binding : Option Binding) : State :=
  { s with mUniformBuffers := Function.update s.mUniformBuffers index binding }

def validates : Action → Bool
  | .bindBufferRange index _ offset size =>
      index < s.maxUniformBufferBindings ∧ 0 < size ∧ size ≤ int64Max ∧ 0 ≤ offset ∧
        offset ≤ int64Max ∧ offset % s.uniformBufferOffsetAlignment = 0
  | .bindBufferBase index _ => index < s.maxUniformBufferBindings
  | .bufferData _ size => 0 ≤ size ∧ size ≤ int64Max
  | .uniformBlockBinding uniformBlockIndex blockBinding =>
      uniformBlockIndex < s.uniformBlocks.length ∧ blockBinding < s.maxUniformBufferBindings
  | _ => true

def apply : Action → State
  | .bindBufferRange index p offset size => s.setIndexedBuffer index (some ⟨p, offset, size⟩)
  | .bindBufferBase index p => s.setIndexedBuffer index (p.map fun p => ⟨p, 0, 0⟩)
  | .bufferData p size => { s with mSize := Function.update s.mSize p size }
  | .deleteBuffer p =>
      { s with mUniformBuffers := fun index =>
          (s.mUniformBuffers index).filter fun binding => binding.buffer ≠ p }
  | .useProgram uniformBlocks => { s with uniformBlocks := uniformBlocks }
  | .uniformBlockBinding uniformBlockIndex blockBinding =>
      { s with
        uniformBlocks := s.uniformBlocks.modify uniformBlockIndex fun block =>
          { block with blockBinding := blockBinding } }
  | .bindForTransformFeedback p andOtherUse =>
      { s with
        isBoundForTransformFeedbackAndOtherUse :=
          Function.update s.isBoundForTransformFeedbackAndOtherUse p andOtherUse }

def step (s : State) (action : Action) : Option State :=
  if s.validates action then some (s.apply action) else none

def initial (webglCompatibility : Bool)
    (uniformBufferOffsetAlignment maxUniformBufferBindings : Nat) : State :=
  { webglCompatibility := webglCompatibility
    uniformBufferOffsetAlignment := uniformBufferOffsetAlignment
    maxUniformBufferBindings := maxUniformBufferBindings
    mSize := fun _ => 0
    isBoundForTransformFeedbackAndOtherUse := fun _ => false
    mUniformBuffers := fun _ => none
    uniformBlocks := [] }

/-- The bytes that a block reads of its binding lie in the buffer. -/
def ReadsInside (block : UniformBlock) : Prop :=
  ∃ binding ∈ s.mUniformBuffers block.blockBinding, ∀ byte : Int, binding.offset ≤ byte →
    byte < binding.offset + block.dataSize → 0 ≤ byte ∧ byte < s.mSize binding.buffer

/-- The available sizes are what lies in the buffers, and accepted draws read only that. -/
structure InBounds : Prop where
  available : ∀ index, ∀ binding ∈ s.mUniformBuffers index,
    getBoundBufferAvailableSize (s.mSize binding.buffer) binding =
      bytesAvailable (s.mSize binding.buffer) binding
  reads : s.validateUniformBlocks = none → ∀ block ∈ s.uniformBlocks, s.ReadsInside block

end State

/-- The range starts in the buffer and ends at an offset of 64 bits, or does neither. -/
def startsInside (bufferSize : Int) (binding : Binding) : Prop :=
  binding.size = 0 ∨ (binding.offset ≤ bufferSize ∧ binding.offset + binding.size ≤ int64Max) ∨
    bufferSize ≤ binding.offset ∧ int64Max < binding.offset + binding.size

/-- What validation has checked of a binding. -/
structure Admitted (binding : Binding) : Prop where
  offset_nonneg : 0 ≤ binding.offset
  size_nonneg : 0 ≤ binding.size
  -- Only `bindBufferBase` has no size.
  offset_eq : binding.size = 0 → binding.offset = 0

theorem checkedInt64_of_le {x : Int} (hlow : kIntegerOverflow ≤ x) (hhigh : x ≤ int64Max) :
    checkedInt64 x = some x :=
  if_pos ⟨hlow, hhigh⟩

theorem checkedInt64_of_gt {x : Int} (hhigh : int64Max < x) : checkedInt64 x = none :=
  if_neg (by omega)

variable {bufferSize : Int} {binding : Binding}

theorem getBoundBufferAvailableSize_of_le
    (hbinding : Admitted binding) (hsize : binding.size ≠ 0) (hbuffer : 0 ≤ bufferSize)
    (hbufferMax : bufferSize ≤ int64Max) (hend : binding.offset + binding.size ≤ int64Max) :
    getBoundBufferAvailableSize bufferSize binding =
      min binding.size (bufferSize - binding.offset) := by
  have hoffset := hbinding.offset_nonneg
  have hnonneg := hbinding.size_nonneg
  have hlow : kIntegerOverflow ≤ -int64Max := by decide
  have hlast : checkedInt64 (binding.offset + binding.size) =
      some (binding.offset + binding.size) := checkedInt64_of_le (by omega) hend
  have hdifference : checkedInt64 (binding.offset + binding.size - bufferSize) =
      some (binding.offset + binding.size - bufferSize) :=
    checkedInt64_of_le (by omega) (by omega)
  have hclamped : checkedInt64 (binding.size - (binding.offset + binding.size - bufferSize)) =
      some (binding.size - (binding.offset + binding.size - bufferSize)) :=
    checkedInt64_of_le (by omega) (by omega)
  simp only [getBoundBufferAvailableSize, if_neg hsize, bind_eq_bind, hlast,
    bind_some, hdifference, hclamped, getD_some]
  split <;> omega

theorem getBoundBufferAvailableSize_of_gt
    (hsize : binding.size ≠ 0) (hend : int64Max < binding.offset + binding.size) :
    getBoundBufferAvailableSize bufferSize binding = 0 := by
  simp [getBoundBufferAvailableSize, hsize, checkedInt64_of_gt hend]

theorem getBoundBufferAvailableSize_eq_iff
    (hbinding : Admitted binding) (hbuffer : 0 ≤ bufferSize) (hbufferMax : bufferSize ≤ int64Max) :
    getBoundBufferAvailableSize bufferSize binding = bytesAvailable bufferSize binding ↔
      startsInside bufferSize binding := by
  have hoffset := hbinding.offset_nonneg
  have hnonneg := hbinding.size_nonneg
  unfold startsInside
  by_cases hsize : binding.size = 0
  · simp [getBoundBufferAvailableSize, bytesAvailable, hsize]
  · rw [bytesAvailable, if_neg hsize]
    rcases le_or_gt (binding.offset + binding.size) int64Max with hend | hend
    · rw [getBoundBufferAvailableSize_of_le hbinding hsize hbuffer hbufferMax hend]
      omega
    · rw [getBoundBufferAvailableSize_of_gt hsize hend]
      omega

theorem toSizeT_of_nonneg {size : Int} (hnonneg : 0 ≤ size) (hmax : size ≤ int64Max) :
    (toSizeT size : Int) = size := by
  unfold int64Max at hmax
  rw [toSizeT, Int.emod_eq_of_lt hnonneg (by omega), Int.toNat_of_nonneg hnonneg]

theorem bytesAvailable_le (hbuffer : 0 ≤ bufferSize)
    (hoffset : 0 ≤ binding.offset) : bytesAvailable bufferSize binding ≤ bufferSize := by
  unfold bytesAvailable
  split <;> omega

namespace State

variable {s s' : State}

structure WellFormed (s : State) : Prop where
  sizes : ∀ p, 0 ≤ s.mSize p ∧ s.mSize p ≤ int64Max
  admitted : ∀ index, ∀ binding ∈ s.mUniformBuffers index, Admitted binding

theorem initial_wellFormed (webglCompatibility : Bool)
    (uniformBufferOffsetAlignment maxUniformBufferBindings : Nat) :
    (initial webglCompatibility uniformBufferOffsetAlignment
      maxUniformBufferBindings).WellFormed where
  sizes _ := by
    constructor
    · exact le_refl _
    · exact (by decide : (0 : Int) ≤ int64Max)
  admitted _ _ hbinding := by cases hbinding

theorem WellFormed.setIndexedBuffer (h : s.WellFormed) (index : Nat) {binding : Option Binding}
    (hbinding : ∀ b ∈ binding, Admitted b) : (s.setIndexedBuffer index binding).WellFormed where
  __ := h
  admitted i b hb := by
    simp only [State.setIndexedBuffer] at hb
    by_cases hi : i = index
    · subst hi
      rw [Function.update_self] at hb
      exact hbinding b hb
    · rw [Function.update_of_ne hi] at hb
      exact h.admitted i b hb

theorem step_wellFormed (h : s.WellFormed) {action : Action} (hstep : step s action = some s') :
    s'.WellFormed := by
  obtain ⟨hvalid, hs'⟩ := ite_none_right_eq_some.mp hstep
  cases hs'
  cases action with
  | bindBufferRange index p offset size =>
      simp only [validates, decide_eq_true_eq] at hvalid
      obtain ⟨_, hsize, _, hoffset, _, _⟩ := hvalid
      refine h.setIndexedBuffer index fun b hb => ?_
      obtain rfl := mem_some.mp hb
      exact ⟨hoffset, hsize.le, fun hzero => absurd hzero hsize.ne'⟩
  | bindBufferBase index p =>
      refine h.setIndexedBuffer index fun b hb => ?_
      obtain ⟨q, _, rfl⟩ := map_eq_some_iff.mp hb
      exact ⟨le_refl _, le_refl _, fun _ => rfl⟩
  | bufferData p size =>
    simp only [validates, decide_eq_true_eq] at hvalid
    refine ⟨fun q => ?_, h.admitted⟩
    simp only [apply]
    by_cases hq : q = p
    · subst hq
      rwa [Function.update_self]
    · rw [Function.update_of_ne hq]
      exact h.sizes q
  | deleteBuffer p =>
      refine ⟨h.sizes, fun index b hb => ?_⟩
      exact h.admitted index b (filter_eq_some_iff.mp hb).1
  | useProgram uniformBlocks => exact ⟨h.sizes, h.admitted⟩
  | uniformBlockBinding uniformBlockIndex blockBinding => exact ⟨h.sizes, h.admitted⟩
  | bindForTransformFeedback p andOtherUse => exact ⟨h.sizes, h.admitted⟩

/-- An accepted block reads what is available of its binding. -/
theorem readsInside_of_available (h : s.WellFormed)
    (havailable : ∀ index, ∀ binding ∈ s.mUniformBuffers index,
      getBoundBufferAvailableSize (s.mSize binding.buffer) binding =
        bytesAvailable (s.mSize binding.buffer) binding)
    {block : UniformBlock} (hblock : s.validateUniformBlock block = none) :
    s.ReadsInside block := by
  unfold validateUniformBlock at hblock
  split at hblock
  · cases hblock
  · next binding hbinding =>
      have hadmitted := h.admitted _ binding hbinding
      obtain ⟨hbuffer, hbufferMax⟩ := h.sizes binding.buffer
      rw [havailable _ binding hbinding] at hblock
      have hsizeT := toSizeT_of_nonneg (bytesAvailable_nonneg hbuffer binding)
        ((bytesAvailable_le hbuffer hadmitted.offset_nonneg).trans hbufferMax)
      refine ⟨binding, hbinding, fun byte hlow hhigh => ?_⟩
      have hdata : (block.dataSize : Int) ≤ bytesAvailable (s.mSize binding.buffer) binding := by
        rw [← hsizeT]
        by_contra hlt
        rw [if_pos (by omega)] at hblock
        cases hblock
      constructor
      · exact hadmitted.offset_nonneg.trans hlow
      · unfold bytesAvailable at hdata
        split at hdata
        · next hsize =>
            have hoffset := hadmitted.offset_eq hsize
            omega
        · omega

/-- In every state that is reached, the available sizes are what lies in the buffers, and with them
accepted draws read inside, exactly when the bound ranges start in their buffers. -/
theorem inBounds_iff {webglCompatibility : Bool}
    {uniformBufferOffsetAlignment maxUniformBufferBindings : Nat} {actions : List Action}
    (hrun : LabelledRun.Run step LabelledRun.anyStep
      (initial webglCompatibility uniformBufferOffsetAlignment maxUniformBufferBindings)
      actions s) :
    s.InBounds ↔ ∀ index, ∀ binding ∈ s.mUniformBuffers index,
      startsInside (s.mSize binding.buffer) binding := by
  have h : s.WellFormed := hrun.invariant (fun _ _ _ h _ hstep => step_wellFormed h hstep)
    (initial_wellFormed _ _ _)
  have hiff : ∀ index, ∀ binding ∈ s.mUniformBuffers index,
      (getBoundBufferAvailableSize (s.mSize binding.buffer) binding =
        bytesAvailable (s.mSize binding.buffer) binding ↔
          startsInside (s.mSize binding.buffer) binding) := by
    intro index binding hbinding
    obtain ⟨hbuffer, hbufferMax⟩ := h.sizes binding.buffer
    exact getBoundBufferAvailableSize_eq_iff (h.admitted index binding hbinding) hbuffer hbufferMax
  constructor
  · intro hinBounds index binding hbinding
    exact (hiff index binding hbinding).mp (hinBounds.available index binding hbinding)
  · intro hstarts
    have havailable := fun index binding hbinding =>
      (hiff index binding hbinding).mpr (hstarts index binding hbinding)
    refine ⟨havailable, fun hvalid block hblock => ?_⟩
    exact readsInside_of_available h havailable (List.findSome?_eq_none_iff.mp hvalid block hblock)

def rangeCalls : List Action :=
  [.bufferData 1 64, .bindBufferRange 0 1 32 16, .useProgram [⟨0, 16⟩]]

theorem inBounds_iff_rangeCalls :
    ∃ s, LabelledRun.exec step (initial false 4 1) rangeCalls = some s ∧
      (s.InBounds ↔ ∀ index, ∀ binding ∈ s.mUniformBuffers index,
        startsInside (s.mSize binding.buffer) binding) := by
  obtain ⟨s, hs⟩ : ∃ s, LabelledRun.exec step (initial false 4 1) rangeCalls = some s := ⟨_, rfl⟩
  exact ⟨s, hs, inBounds_iff (.of_exec hs)⟩

/-- The buffer is reallocated to end before the range: the available size is negative, and the draw
is accepted. -/
theorem bufferData_readsOutside :
    ¬ ∀ (webglCompatibility : Bool) (uniformBufferOffsetAlignment maxUniformBufferBindings : Nat)
      (actions : List Action) (s : State),
      LabelledRun.Run step LabelledRun.anyStep
        (initial webglCompatibility uniformBufferOffsetAlignment maxUniformBufferBindings)
        actions s → s.InBounds := by
  intro hall
  obtain ⟨s, hs⟩ : ∃ s, LabelledRun.exec step (initial false 4 1)
      (rangeCalls ++ [.bufferData 1 8]) = some s := ⟨_, rfl⟩
  have hinBounds := hall false 4 1 _ s (.of_exec hs)
  cases hs
  obtain ⟨binding, hbinding, hbytes⟩ := hinBounds.reads (by decide) ⟨0, 16⟩
    (List.mem_singleton.mpr rfl)
  cases hbinding
  exact absurd (hbytes 32 (by decide) (by decide)).2 (by decide)

end State

end MetalAngle.Gl.UniformBuffers
