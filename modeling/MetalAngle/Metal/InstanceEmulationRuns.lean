import MetalAngle.Metal.InstanceEmulation

/-!
# Draws with emulated instances

A draw for instance `i` is right where the shader reads `i` as its instance ID and every attribute
is bound at the element of instance `i`.  The draws of a call leave the vertex buffers bound as they
were before it, but not the driver uniforms: the instance ID stays the one of the last instance
until something else has the driver uniforms sent again.
-/

namespace MetalAngle.Metal.InstanceEmulation

open MetalAngle.Gl.Capture (PrimitiveMode)
open Fallible LabelledRun Triple Function List Encoder

/-! ## What is right -/

/-- Where an element of an attribute is: in its buffer, from the offset of its binding on, or where
the elements have been put that are converted, copied or taken from the memory of the client. -/
def VertexArray.element (va : VertexArray) (v index : Nat) : Bound :=
  let a := va.attribs v
  match a.buffer with
  | some buffer =>
      if a.needConversion then (va.current v).element index
      else .buffer buffer (a.offset + index * a.stride)
  | none => (va.current v).element index

/-- The draw runs with the instance that it stands for.  Where the divisor is 0 that is element 0,
from which on the vertices are taken. -/
structure SubDraw.Right (d : SubDraw) : Prop where
  instanceID : d.instanceID = some d.inst
  vertexBuffers : ∀ v < kMaxVertexAttribs, d.activeAttribs v →
    (d.vertexArray.attribs v).enabled →
    d.vertexBuffers v = some (d.vertexArray.element v (d.inst / (d.vertexArray.attribs v).divisor))

/-- Nothing else fails while a draw is set up. -/
structure Environment.Ready (env : Environment) : Prop where
  indexRange : env.indexRange.isSome
  stream : ∀ v, (env.memory v).stream.isSome
  smallArray : ∀ v, (env.memory v).smallArray.isSome
  texturesReady : env.texturesReady
  newRenderPass : env.newRenderPass.isSome
  queryStarts : env.queryStarts
  programReady : env.programReady

namespace Context

def passInstances (instances : Nat) : List Nat := List.range (max 1 instances)

/-- The passes of a draw without an index buffer: while transform feedback is active there is one
that captures, and one that rasterizes unless that is off. -/
def passes (s : Context) : Nat :=
  if s.transformFeedback.isSome ∧ s.rasterizerDiscard = false then 2 else 1

def genericInstances (s : Context) (instances : Nat) : List Nat :=
  (List.replicate s.passes (passInstances instances)).flatten

def arraysInstances (s : Context) (mode : PrimitiveMode) (count instances : Nat) : List Nat :=
  if s.mCullAllPolygons && IsPolygonMode mode then []
  else
    match mode with
    | .TriangleFan =>
        if count ≤ 3 then s.genericInstances instances else passInstances instances
    | .LineLoop =>
        if instances ≤ 1 then s.genericInstances instances ++ [0] else passInstances instances
    | _ => s.genericInstances instances

def elementsInstances (s : Context) (mode : PrimitiveMode) (count instances : Nat) : List Nat :=
  if s.mCullAllPolygons && IsPolygonMode mode then []
  else
    match mode with
    | .LineLoop =>
        if count ≥ 2 ∧ instances ≤ 1 ∧ s.primitiveRestart = false then [0, 0]
        else passInstances instances
    | _ => passInstances instances

def instancesOf (s : Context) : Action → List Nat
  | .drawArrays mode _ count _ => s.arraysInstances mode count 0
  | .drawArraysInstanced mode _ count instances _ =>
      if instances = 0 then [] else s.arraysInstances mode count instances
  | .drawElements mode count _ => s.elementsInstances mode count 0
  | .drawElementsInstanced mode count instances _ =>
      if instances = 0 then [] else s.elementsInstances mode count instances
  | _ => []

/-- The call draws every instance once in every pass, in their order, and each of them as it should
be drawn. -/
structure Exact (s : Context) (a : Action) : Prop where
  instances : ((operation a).run s).2 →
    ((operation a).run s).1.drawn.map SubDraw.inst =
      s.drawn.map SubDraw.inst ++ s.instancesOf a
  right : ∀ d ∈ ((operation a).run s).1.drawn, d ∈ s.drawn ∨ d.Right

/-! ## When it is right -/

/-- The next draw runs with instance ID 0: it is 0, or the driver uniforms will be sent. -/
def ResetsInstanceID (s : Context) : Prop :=
  s.emulatedInstanceID = 0 ∨ s.mDirtyBits.driverUniforms ∨
    s.mDirtyBits.drawFramebuffer ∨ s.mRenderEncoder.valid = false ∨
    (s.mDirtyBits.rasterizerDiscard ∧ s.transformFeedback.isSome)

/-- The offsets of the last instance fit in 32 bits, also in the memory that client attributes
get. -/
def OffsetsFit (s : Context) (env : Environment) (instances : Nat) : Prop :=
  ∀ v < kMaxVertexAttribs, s.activeAttribs v → (s.vertexArray.attribs v).enabled →
    let a := s.vertexArray.attribs v
    let c := s.vertexArray.current v
    let last := (instances - 1) / a.divisor
    match a.buffer with
    | some _ => c.offset + last * c.stride < 2 ^ 32
    | none => ∀ range ∈ (env.memory v).stream, range.2 + last * a.convertedBytes < 2 ^ 32

/-- No offset of a transform feedback buffer overflows between the instances. -/
def Captures (s : Context) (first count instances : Nat) : Prop :=
  ∀ inst, 1 ≤ inst → inst < instances → ∀ xfb ∈ s.transformFeedback,
    xfb.getBufferOffsets first (uint32 (count * inst))

structure GenericCondition (s : Context) (c : Circumstances) (first count instances : Nat) :
    Prop where
  resets : s.ResetsInstanceID
  offsets : s.OffsetsFit (c.environment 0) instances
  captures : s.Captures first count instances
  /-- The second pass starts with the instance ID that the first one ends with. -/
  secondPass : s.passes = 2 → instances ≤ 1 ∧ s.OffsetsFit (c.environment 1) instances

/-- The condition of a draw with an index buffer. -/
structure IndexedCondition (s : Context) (c : Circumstances) (instances : Nat) : Prop where
  resets : s.ResetsInstanceID
  offsets : s.OffsetsFit (c.environment 0) instances

/-- The last segment of a line loop is drawn, if it is, after draws that do not fail. -/
def LastSegmentCondition (s : Context) (c : Circumstances) (first : Nat) : Prop :=
  match c.lastSegment with
  | .notAllocated => True
  | .notGenerated => False
  | .ready => (∀ pass, Environment.Ready (c.environment pass)) ∧ c.indexBuffer ∧
      ∀ xfb ∈ s.transformFeedback, xfb.getBufferOffsets first 0

def ArraysCondition (s : Context) (c : Circumstances) (mode : PrimitiveMode)
    (first count instances : Nat) : Prop :=
  (s.mCullAllPolygons && IsPolygonMode mode) = false →
    match mode with
    | .TriangleFan =>
        if count ≤ 3 then s.GenericCondition c first count instances
        else s.IndexedCondition c instances
    | .LineLoop =>
        if instances ≤ 1 then
          s.GenericCondition c first count instances ∧ s.LastSegmentCondition c first
        else s.IndexedCondition c instances
    | _ => s.GenericCondition c first count instances

def ElementsCondition (s : Context) (c : Circumstances) (mode : PrimitiveMode)
    (count instances : Nat) : Prop :=
  (s.mCullAllPolygons && IsPolygonMode mode) = false →
    s.IndexedCondition c instances ∧
    (mode = .LineLoop → count ≥ 2 → instances ≤ 1 → s.primitiveRestart = false →
      s.LastSegmentCondition c 0)

def Condition (s : Context) : Action → Prop
  | .drawArrays mode first count c => s.ArraysCondition c mode first count 0
  | .drawArraysInstanced mode first count instances c =>
      instances ≠ 0 → s.ArraysCondition c mode first count instances
  | .drawElements mode count c => s.ElementsCondition c mode count 0
  | .drawElementsInstanced mode count instances c =>
      instances ≠ 0 → s.ElementsCondition c mode count instances
  | _ => True

end Context

/-! ## Elements -/

theorem UnsignedCeilDivide_sub_one {value divisor : Nat} (hvalue : 0 < value)
    (hdivisor : 0 < divisor) :
    UnsignedCeilDivide value divisor - 1 = (value - 1) / divisor := by
  have hsplit := Nat.div_add_mod value divisor
  have hlt := Nat.mod_lt value hdivisor
  unfold UnsignedCeilDivide
  generalize value / divisor = quotient at hsplit ⊢
  generalize value % divisor = rest at hsplit hlt ⊢
  cases rest with
  | zero =>
    -- The last instance of a whole number of elements is the last one of its element.
    cases quotient with
    | zero => omega
    | succ quotient =>
        have hvalue : value - 1 = divisor * quotient + (divisor - 1) := by
          rw [← hsplit, Nat.mul_add]
          omega
        rw [hvalue, Nat.mul_add_div hdivisor, Nat.div_eq_of_lt (by omega)]
        simp
  | succ rest =>
      have hvalue : value - 1 = divisor * quotient + rest := by omega
      rw [hvalue, Nat.mul_add_div hdivisor, Nat.div_eq_of_lt (by omega)]
      simp

theorem uint32_of_lt {n : Nat} (h : n < 2 ^ 32) : uint32 n = n := Nat.mod_eq_of_lt h

theorem uint32_add (m n : Nat) : uint32 (uint32 m + uint32 n) = uint32 (m + n) := by
  unfold uint32
  omega

namespace CurrentArray

variable {c : CurrentArray}

/-- An element is in the memory of the array, and its offset fits in 32 bits. -/
structure Holds (c : CurrentArray) (index : Nat) : Prop where
  offset : c.buffer.isSome → c.offset + index * c.stride < 2 ^ 32
  inlineData : c.buffer = none →
    index * c.stride ≤ c.inlineDataSize ∧ c.inlineDataSize ≤ kInlineConstDataMaxSize

theorem Holds.mono {index last : Nat} (h : c.Holds last) (hle : index ≤ last) :
    c.Holds index where
  offset hbuffer := by
    have hmul := Nat.mul_le_mul_right c.stride hle
    have hlast := h.offset hbuffer
    omega
  inlineData hbuffer := by
    have hmul := Nat.mul_le_mul_right c.stride hle
    obtain ⟨hlast, hsize⟩ := h.inlineData hbuffer
    exact ⟨by omega, hsize⟩

/-- `emulateInstanceDrawStep` binds an array at the element of the instance. -/
theorem step_eq_element {instanceId divisor : Nat} (h : c.Holds (instanceId / divisor)) :
    c.step instanceId divisor = c.element (instanceId / divisor) := by
  cases hbuffer : c.buffer with
  | some buffer =>
      have hfits := h.offset (by simp [hbuffer])
      simp only [step, element, hbuffer, Bound.buffer.injEq, true_and]
      rw [uint32_add, uint32_of_lt (by omega), Nat.add_comm]
  | none =>
    obtain ⟨hsize, hmax⟩ := h.inlineData hbuffer
    have hsmall : uint32 (instanceId / divisor * c.stride) = instanceId / divisor * c.stride := by
      apply uint32_of_lt
      unfold kInlineConstDataMaxSize at hmax
      omega
    simp only [step, element, hbuffer, hsmall]
    rw [if_neg (by omega)]

/-- What `setupDraw` binds is what the step of instance 0 binds. -/
theorem base_eq_step (divisor : Nat) : c.base = c.step 0 divisor := by
  cases hbuffer : c.buffer with
  | some buffer => simp [base, step, hbuffer, uint32]
  | none => simp [base, step, hbuffer, uint32]

end CurrentArray

/-! ## The vertex array -/

namespace Encoder

variable {e : Encoder} {index : Nat} {bound : Bound}

theorem vertexBuffers_setVertexBuffer (other : Nat) :
    (e.setVertexBuffer index bound).vertexBuffers other =
      if other = index then some bound else e.vertexBuffers other := by
  simp [setVertexBuffer, update_apply]

theorem foldl_setVertexBuffer (vs : List Nat) (bound : Nat → Bound) (e : Encoder) :
    let after := vs.foldl (fun e v => e.setVertexBuffer v (bound v)) e
    after.valid = e.valid ∧ after.instanceID = e.instanceID ∧
      ∀ v, after.vertexBuffers v = if v ∈ vs then some (bound v) else e.vertexBuffers v := by
  induction vs generalizing e with
  | nil => exact ⟨rfl, rfl, fun v => by simp⟩
  | cons w vs ih =>
    obtain ⟨hvalid, hid, hbuffers⟩ := ih (e.setVertexBuffer w (bound w))
    refine ⟨hvalid, hid, fun v => ?_⟩
    rw [foldl_cons, hbuffers, vertexBuffers_setVertexBuffer]
    by_cases hv : v = w
    · subst hv
      simp
    · simp [hv]

end Encoder

namespace VertexArray

variable {va : VertexArray} {e : Encoder} {active : Nat → Bool}

/-- The loop of `setupDraw` binds what is usable, and collects what has a divisor. -/
theorem foldl_setupAttrib (vs : List Nat) (va : VertexArray) (e : Encoder) :
    vs.foldl (setupAttrib active) (va, e) = ({ va with
          mEmulatedInstanceAttribs := va.mEmulatedInstanceAttribs ++
            vs.filter fun v => active v && va.usable v && decide ((va.attribs v).divisor ≠ 0) },
        (vs.filter fun v => active v && va.usable v).foldl
          (fun e v => e.setVertexBuffer v (va.current v).base) e) := by
  induction vs generalizing va e with
  | nil => simp
  | cons v vs ih =>
    rw [foldl_cons]
    by_cases husable : active v && va.usable v
    · by_cases hdivisor : (va.attribs v).divisor = 0
      · rw [setupAttrib, if_pos husable, if_pos hdivisor, ih]
        simp [husable, hdivisor]
      · rw [setupAttrib, if_pos husable, if_neg hdivisor, ih]
        have hsame : ∀ w, ({ va with
            mEmulatedInstanceAttribs := va.mEmulatedInstanceAttribs ++ [v] }).usable w =
              va.usable w := fun _ => rfl
        simp [husable, hdivisor, hsame]
    · rw [setupAttrib, if_neg husable, ih]
      simp [husable]

/-- Every active attribute that is enabled is bound at its base, and the ones with a divisor are
those of which the instances are emulated. -/
structure Settled (va : VertexArray) (active : Nat → Bool) (e : Encoder) : Prop where
  bound : ∀ v < kMaxVertexAttribs, active v → (va.attribs v).enabled →
    e.vertexBuffers v = some (va.current v).base
  emulated : ∀ v, v ∈ va.mEmulatedInstanceAttribs ↔
    v < kMaxVertexAttribs ∧ active v ∧ (va.attribs v).enabled ∧
      (va.attribs v).divisor ≠ 0

/-- What `setupDraw` leaves of the tables of the vertex array and of the encoder. -/
theorem setupDraw_keeps (changed : Bool) :
    (va.setupDraw active e changed).1.attribs = va.attribs ∧
    (va.setupDraw active e changed).1.current = va.current ∧
    (va.setupDraw active e changed).1.mInlineDataMaxSize = va.mInlineDataMaxSize ∧
    (va.setupDraw active e changed).1.mVertexArrayDirty = false ∧
    (va.setupDraw active e changed).2.valid = e.valid ∧
    (va.setupDraw active e changed).2.instanceID = e.instanceID := by
  unfold setupDraw
  split
  · rw [foldl_setupAttrib]
    obtain ⟨hvalid, hid, -⟩ := foldl_setVertexBuffer
      ((range kMaxVertexAttribs).filter fun v => active v && va.usable v)
      (fun v => (va.current v).base) e
    exact ⟨rfl, rfl, rfl, rfl, hvalid, hid⟩
  · have hclean : va.mVertexArrayDirty = false := by
      simp_all
    exact ⟨rfl, rfl, rfl, hclean, rfl, rfl⟩

theorem settled_setupDraw {changed : Bool}
    (husable : ∀ v < kMaxVertexAttribs, active v → (va.attribs v).enabled →
      va.usable v)
    (hclean : va.mVertexArrayDirty = false → changed = false → va.Settled active e) :
    (va.setupDraw active e changed).1.Settled active (va.setupDraw active e changed).2 := by
  by_cases hdirty : (va.mVertexArrayDirty || changed)
  · unfold setupDraw
    rw [if_pos hdirty, foldl_setupAttrib]
    obtain ⟨-, -, hbuffers⟩ := foldl_setVertexBuffer
      ((range kMaxVertexAttribs).filter fun v => active v && va.usable v)
      (fun v => (va.current v).base) e
    constructor
    · intro v hv hactive henabled
      have hmem : v ∈ (range kMaxVertexAttribs).filter fun v => active v && va.usable v := by
        simp [hv, hactive, husable v hv hactive henabled]
      exact (hbuffers v).trans (if_pos hmem)
    · intro v
      have hlist : v ∈ (range kMaxVertexAttribs).filter (fun v =>
          active v && va.usable v && decide ((va.attribs v).divisor ≠ 0)) ↔
          v < kMaxVertexAttribs ∧ active v ∧ va.usable v ∧
            (va.attribs v).divisor ≠ 0 := by
        simp only [mem_filter, mem_range, Bool.and_eq_true, decide_eq_true_eq, and_assoc]
      refine hlist.trans ?_
      constructor
      · rintro ⟨hv, hactive, husable', hdivisor⟩
        have henabled : (va.attribs v).enabled := by
          simp only [usable, Bool.and_eq_true] at husable'
          exact husable'.1
        exact ⟨hv, hactive, henabled, hdivisor⟩
      · rintro ⟨hv, hactive, henabled, hdivisor⟩
        exact ⟨hv, hactive, husable v hv hactive henabled, hdivisor⟩
  · have hfalse : va.mVertexArrayDirty = false ∧ changed = false := by
      simpa using hdirty
    unfold setupDraw
    rw [if_neg hdirty]
    exact hclean hfalse.1 hfalse.2

/-- The vertex buffers are bound at the elements of an instance. -/
def BoundAt (va : VertexArray) (active : Nat → Bool) (inst : Nat) (e : Encoder) : Prop :=
  ∀ v < kMaxVertexAttribs, active v → (va.attribs v).enabled →
    e.vertexBuffers v = some ((va.current v).step inst (va.attribs v).divisor)

/-- The attributes of which the instances are emulated are the ones with a divisor. -/
def EmulatesDivisors (va : VertexArray) (active : Nat → Bool) : Prop :=
  ∀ v, v ∈ va.mEmulatedInstanceAttribs ↔ v < kMaxVertexAttribs ∧ active v ∧
    (va.attribs v).enabled ∧ (va.attribs v).divisor ≠ 0

theorem settled_iff : va.Settled active e ↔ va.BoundAt active 0 e ∧ va.EmulatesDivisors active := by
  constructor
  · intro h
    refine ⟨fun v hv hactive henabled => ?_, h.emulated⟩
    rw [h.bound v hv hactive henabled, CurrentArray.base_eq_step]
  · rintro ⟨hbound, hemulated⟩
    refine ⟨fun v hv hactive henabled => ?_, hemulated⟩
    rw [hbound v hv hactive henabled, CurrentArray.base_eq_step]

theorem emulateInstanceDrawStep_keeps (inst : Nat) :
    (va.emulateInstanceDrawStep e inst).valid = e.valid ∧
      (va.emulateInstanceDrawStep e inst).instanceID = e.instanceID := by
  obtain ⟨hvalid, hid, -⟩ := foldl_setVertexBuffer va.mEmulatedInstanceAttribs
    (fun v => (va.current v).step inst (va.attribs v).divisor) e
  exact ⟨hvalid, hid⟩

theorem boundAt_emulateInstanceDrawStep {from' : Nat} (inst : Nat)
    (hemulated : va.EmulatesDivisors active) (hbound : va.BoundAt active from' e) :
    va.BoundAt active inst (va.emulateInstanceDrawStep e inst) := by
  obtain ⟨-, -, hbuffers⟩ := foldl_setVertexBuffer va.mEmulatedInstanceAttribs
    (fun v => (va.current v).step inst (va.attribs v).divisor) e
  intro v hv hactive henabled
  by_cases hdivisor : (va.attribs v).divisor = 0
  · have hnot : v ∉ va.mEmulatedInstanceAttribs := by
      rw [hemulated]
      rintro ⟨-, -, -, h⟩
      exact h hdivisor
    refine (hbuffers v).trans ((if_neg hnot).trans ?_)
    rw [hbound v hv hactive henabled]
    simp [hdivisor, CurrentArray.step]
  · have hmem : v ∈ va.mEmulatedInstanceAttribs :=
      (hemulated v).mpr ⟨hv, hactive, henabled, hdivisor⟩
    exact (hbuffers v).trans (if_pos hmem)

/-! ### Current arrays -/

/-- The current array of an attribute with a buffer is that buffer, unless it is converted. -/
def Synced (va : VertexArray) : Prop :=
  ∀ v buffer, (va.attribs v).enabled → (va.attribs v).buffer = some buffer →
    (va.current v).buffer.isSome ∧
    ((va.attribs v).needConversion = false →
      (va.current v).buffer = some buffer ∧ (va.current v).offset = (va.attribs v).offset ∧
        (va.current v).stride = (va.attribs v).stride)

theorem Synced.element_eq (h : va.Synced) {v : Nat} (henabled : (va.attribs v).enabled)
    (index : Nat) : va.element v index = (va.current v).element index := by
  unfold element
  cases hbuffer : (va.attribs v).buffer with
  | none => simp [hbuffer]
  | some buffer =>
    cases hconvert : (va.attribs v).needConversion with
    | true => simp [hbuffer, hconvert]
    | false =>
        obtain ⟨-, hdirect⟩ := h v buffer henabled hbuffer
        obtain ⟨hcurrent, hoffset, hstride⟩ := hdirect hconvert
        simp [hbuffer, CurrentArray.element, hcurrent, hoffset, hstride]

theorem synced_syncDirtyAttrib (h : va.Synced) (v : Nat) (attrib : VertexAttribute)
    (converted : Option (BufferID × Nat)) : (va.syncDirtyAttrib v attrib converted).Synced := by
  intro w buffer henabled hbuffer
  by_cases hw : w = v
  · subst hw
    simp only [syncDirtyAttrib, setCurrent, update_self] at henabled hbuffer ⊢
    rw [henabled, hbuffer]
    cases hconvert : attrib.needConversion with
    | true => cases converted <;> simp
    | false => simp
  · simp only [syncDirtyAttrib, setCurrent, update_of_ne hw] at henabled hbuffer ⊢
    exact h w buffer henabled hbuffer

/-- The current array of a client attribute: memory that it has got, or inline data that the
elements of the draw fit in. -/
def ClientArray (a : VertexAttribute) (memory : Allocation) (max startElement elementCount : Nat)
    (c : CurrentArray) : Prop :=
  (∃ range ∈ memory.stream, c.buffer = some range.1 ∧ c.offset = range.2 ∧
    c.stride = a.convertedBytes) ∨
  (c.buffer = none ∧ c.inlineDataPointer.isSome ∧
    (startElement + elementCount - 1) * c.stride ≤ c.inlineDataSize ∧ c.inlineDataSize ≤ max)

theorem updateClientAttrib_eq (va : VertexArray) (v : Nat) (memory : Allocation)
    (startElement elementCount : Nat) :
    ∃ c, (va.updateClientAttrib v memory startElement elementCount).1 = va.setCurrent v c ∧
      ((va.updateClientAttrib v memory startElement elementCount).2 →
        ClientArray (va.attribs v) memory va.mInlineDataMaxSize startElement elementCount c) := by
  unfold updateClientAttrib
  simp only []
  split
  · split
    · rename_i hsmall
      cases harray : memory.smallArray with
      | none => exact ⟨_, rfl, fun h => by simp at h⟩
      | some array =>
          refine ⟨_, rfl, fun _ => .inr ⟨rfl, rfl, ?_, hsmall⟩⟩
          exact Nat.mul_le_mul_right _ (Nat.sub_le _ 1)
    · cases hstream : memory.stream with
      | none => exact ⟨_, rfl, fun h => by simp at h⟩
      | some range => exact ⟨_, rfl, fun _ => .inl ⟨range, hstream, rfl, rfl, rfl⟩⟩
  · rename_i hdirect
    refine ⟨_, rfl, fun _ => .inr ⟨rfl, rfl, ?_, ?_⟩⟩
    · exact Nat.le_add_right _ _
    · simp only [VertexAttribute.needStreaming, Bool.or_eq_true, not_or, decide_eq_true_eq,
        not_lt] at hdirect
      exact hdirect.2

/-- A client attribute is at the elements of all instances. -/
theorem ClientArray.holds {a : VertexAttribute} {memory : Allocation}
    {max startVertex vertexCount instanceCount : Nat} {c : CurrentArray}
    (h : ClientArray a memory max (a.elements startVertex vertexCount instanceCount).1
      (a.elements startVertex vertexCount instanceCount).2 c)
    (hmax : max ≤ kInlineConstDataMaxSize) (hcount : 0 < instanceCount)
    (hfits : ∀ range ∈ memory.stream,
      range.2 + (instanceCount - 1) / a.divisor * a.convertedBytes < 2 ^ 32) :
    (c.buffer.isSome || c.inlineDataPointer.isSome) ∧
      c.Holds ((instanceCount - 1) / a.divisor) := by
  rcases h with ⟨range, hmem, hbuffer, hoffset, hstride⟩ | ⟨hbuffer, hpointer, hsize, hle⟩
  · refine ⟨by simp [hbuffer], ⟨fun _ => ?_, fun hnone => ?_⟩⟩
    · rw [hoffset, hstride]
      exact hfits range hmem
    · simp [hbuffer] at hnone
  · refine ⟨by simp [hpointer], ⟨fun hsome => ?_, fun _ => ⟨?_, hle.trans hmax⟩⟩⟩
    · simp [hbuffer] at hsome
    · by_cases hdivisor : a.divisor = 0
      · simp [hdivisor]
      · rw [VertexAttribute.elements, if_neg hdivisor, Nat.zero_add,
          UnsignedCeilDivide_sub_one hcount (Nat.pos_of_ne_zero hdivisor)] at hsize
        exact hsize

end VertexArray

/-! ## The invariant -/

namespace Context

variable {s t : Context} {n : Nat}

@[simp] theorem vertexArray_setVertexArray (va : VertexArray) :
    (s.setVertexArray va).vertexArray = va :=
  update_self ..

theorem forall_setVertexArray {P : VertexArray → Prop} {va : VertexArray} (hva : P va)
    (h : ∀ k, P (s.vertexArrays k)) (k : Nat) : P ((s.setVertexArray va).vertexArrays k) := by
  by_cases hk : k = s.mVertexArray
  · simpa [setVertexArray, hk] using hva
  · simpa [setVertexArray, update_of_ne hk] using h k

/-- What holds between the calls of a run whose draws meet the condition. -/
structure Inv (s : Context) : Prop where
  synced : ∀ k, (s.vertexArrays k).Synced
  inlineMax : ∀ k, (s.vertexArrays k).mInlineDataMaxSize ≤ kInlineConstDataMaxSize
  right : ∀ d ∈ s.drawn, d.Right
  /-- The encoder has the driver uniforms of the context, unless they are dirty. -/
  instanceID : s.mRenderEncoder.valid → s.mDirtyBits.driverUniforms = false →
    s.mRenderEncoder.instanceID = some s.emulatedInstanceID
  settled : s.mRenderEncoder.valid → s.mDirtyBits.renderPipeline = false →
    s.vertexArray.mVertexArrayDirty = false → s.activeClientAttribs = [] →
    s.vertexArray.Settled s.activeAttribs s.mRenderEncoder

/-- The tables of the vertex arrays and the draws are what they were. -/
structure SameTables (s t : Context) : Prop where
  attribs : ∀ k, (t.vertexArrays k).attribs = (s.vertexArrays k).attribs
  current : ∀ k, (t.vertexArrays k).current = (s.vertexArrays k).current
  inlineMax : ∀ k, (t.vertexArrays k).mInlineDataMaxSize = (s.vertexArrays k).mInlineDataMaxSize
  mVertexArray : t.mVertexArray = s.mVertexArray
  activeAttribs : t.activeAttribs = s.activeAttribs
  drawn : t.drawn = s.drawn

namespace SameTables

theorem setVertexArray {va : VertexArray} (hattribs : va.attribs = s.vertexArray.attribs)
    (hcurrent : va.current = s.vertexArray.current)
    (hmax : va.mInlineDataMaxSize = s.vertexArray.mInlineDataMaxSize) :
    SameTables s (s.setVertexArray va) := by
  refine ⟨fun k => ?_, fun k => ?_, fun k => ?_, rfl, rfl, rfl⟩
  all_goals
    by_cases hk : k = s.mVertexArray
    · subst hk
      simpa [Context.setVertexArray]
    · simp [Context.setVertexArray, update_of_ne hk]

section

variable (h : SameTables s t)
include h

theorem attribs_vertexArray :
    t.vertexArray.attribs = s.vertexArray.attribs := by
  rw [vertexArray, vertexArray, h.mVertexArray, h.attribs]

theorem current_vertexArray :
    t.vertexArray.current = s.vertexArray.current := by
  rw [vertexArray, vertexArray, h.mVertexArray, h.current]

theorem synced {k : Nat} (hs : (s.vertexArrays k).Synced) :
    (t.vertexArrays k).Synced := by
  unfold VertexArray.Synced
  rw [h.attribs, h.current]
  exact hs

theorem inv (hs : s.Inv)
    (hid : t.mRenderEncoder.valid → t.mDirtyBits.driverUniforms = false →
      t.mRenderEncoder.instanceID = some t.emulatedInstanceID)
    (hsettled : t.mRenderEncoder.valid → t.mDirtyBits.renderPipeline = false →
      t.vertexArray.mVertexArrayDirty = false → t.activeClientAttribs = [] →
      t.vertexArray.Settled t.activeAttribs t.mRenderEncoder) : t.Inv where
  synced k := h.synced (hs.synced k)
  inlineMax k := (h.inlineMax k).trans_le (hs.inlineMax k)
  right := by
    rw [h.drawn]
    exact hs.right
  instanceID := hid
  settled := hsettled

end

end SameTables

theorem Inv.setDirtyBits (hs : s.Inv) {bits : DirtyBits}
    (hdriver : bits.driverUniforms = false → s.mDirtyBits.driverUniforms = false)
    (hpipeline : bits.renderPipeline = false → s.mDirtyBits.renderPipeline = false) :
    ({ s with mDirtyBits := bits } : Context).Inv where
  __ := hs
  instanceID hvalid hclean := hs.instanceID hvalid (hdriver hclean)
  settled hvalid hclean := hs.settled hvalid (hpipeline hclean)

theorem Inv.setEncoder (hs : s.Inv) (e : Encoder) :
    ({ s with mRenderEncoder := e, mDirtyBits := .all } : Context).Inv where
  __ := hs
  instanceID _ hclean := absurd hclean (by simp [DirtyBits.all])
  settled _ hclean := absurd hclean (by simp [DirtyBits.all])

theorem mem_activeClientAttribs {v : Nat} : v ∈ s.activeClientAttribs ↔
    v < kMaxVertexAttribs ∧ s.activeAttribs v ∧ s.vertexArray.isClient v := by
  simp [activeClientAttribs]

/-- A draw finds the elements of its last instance of an attribute. -/
def AttribHeld (s : Context) (n v : Nat) : Prop :=
  s.vertexArray.usable v ∧
    (s.vertexArray.current v).Holds ((n - 1) / (s.vertexArray.attribs v).divisor)

/-- A draw finds the elements of its last instance. -/
def Held (s : Context) (n : Nat) : Prop :=
  ∀ v < kMaxVertexAttribs, s.activeAttribs v → (s.vertexArray.attribs v).enabled →
    s.AttribHeld n v

theorem SameTables.held (h : SameTables s t) (hs : s.Held n) : t.Held n := by
  intro v hv hactive henabled
  rw [h.activeAttribs] at hactive
  rw [h.attribs_vertexArray] at henabled
  have hheld := hs v hv hactive henabled
  unfold AttribHeld VertexArray.usable at hheld ⊢
  rw [h.attribs_vertexArray, h.current_vertexArray]
  exact hheld

/-! ### Client attributes -/

/-- While the current arrays of client attributes are set. -/
structure Updating (env : Environment) (n : Nat) (clients : List Nat) (s : Context) : Prop where
  inv : s.Inv
  resets : s.ResetsInstanceID
  offsets : s.OffsetsFit env n
  clients : s.activeClientAttribs = clients

theorem OffsetsFit.congr {env : Environment} {m : Nat} (h : s.OffsetsFit env n)
    (hlast : m - 1 = n - 1) : s.OffsetsFit env m := by
  unfold OffsetsFit
  rw [hlast]
  exact h

theorem held_of_clients {env : Environment} (hs : s.Inv) (hoffsets : s.OffsetsFit env n)
    (hclients : ∀ v ∈ s.activeClientAttribs, s.AttribHeld n v) : s.Held n := by
  intro v hv hactive henabled
  cases hbuffer : (s.vertexArray.attribs v).buffer with
  | none =>
      apply hclients
      rw [mem_activeClientAttribs]
      exact ⟨hv, hactive, by simp [VertexArray.isClient, henabled, hbuffer]⟩
  | some buffer =>
    obtain ⟨hcurrent, -⟩ := hs.synced _ v buffer henabled hbuffer
    have hfits := hoffsets v hv hactive henabled
    simp only [hbuffer] at hfits
    have hsome : (s.vertexArray.current v).buffer.isSome := hcurrent
    refine ⟨by simp [VertexArray.usable, henabled, hsome], fun _ => hfits, fun hnone => ?_⟩
    simp [hnone] at hsome

theorem Updating.setCurrent {env : Environment} {clients : List Nat} (h : s.Updating env n clients)
    {v : Nat} (hv : v ∈ clients) (c : CurrentArray) :
    (s.setVertexArray (s.vertexArray.setCurrent v c)).Updating env n clients := by
  have hclient : s.vertexArray.isClient v := by
    have hmem := hv
    rw [← h.clients, mem_activeClientAttribs] at hmem
    exact hmem.2.2
  have hnone : (s.vertexArray.attribs v).buffer = none := by
    simp only [VertexArray.isClient, Bool.and_eq_true, Option.isNone_iff_eq_none] at hclient
    exact hclient.2
  have hlist : (s.setVertexArray (s.vertexArray.setCurrent v c)).activeClientAttribs =
      s.activeClientAttribs := by
    unfold activeClientAttribs
    rw [vertexArray_setVertexArray]
    rfl
  refine ⟨⟨forall_setVertexArray ?_ h.inv.synced,
    forall_setVertexArray (P := fun va => va.mInlineDataMaxSize ≤ _) (h.inv.inlineMax _)
      h.inv.inlineMax, h.inv.right, h.inv.instanceID, fun _ _ _ hempty => ?_⟩, h.resets, ?_,
    hlist.trans h.clients⟩
  · intro w buffer henabled hbuffer
    have hw : w ≠ v := by
      rintro rfl
      simp [VertexArray.setCurrent, hnone] at hbuffer
    simp only [VertexArray.setCurrent, update_of_ne hw]
    exact h.inv.synced _ w buffer henabled hbuffer
  · rw [hlist, h.clients] at hempty
    rw [hempty] at hv
    exact absurd hv not_mem_nil
  · intro w hw hactive henabled
    rw [vertexArray_setVertexArray] at henabled ⊢
    have hfits := h.offsets w hw hactive henabled
    by_cases hwv : w = v
    · subst hwv
      simp only [VertexArray.setCurrent, hnone] at hfits ⊢
      exact hfits
    · simp only [VertexArray.setCurrent, update_of_ne hwv]
      exact hfits

theorem updateClientAttrib_triple (env : Environment) {clients : List Nat}
    {startVertex vertexCount instanceCount v : Nat} (hcount : 0 < instanceCount)
    (hv : v ∈ clients) :
    Triple (Updating env instanceCount clients)
      (updateClientAttrib env startVertex vertexCount instanceCount v)
      (fun s => s.Updating env instanceCount clients ∧ s.AttribHeld instanceCount v) Inv := by
  intro s hs
  obtain ⟨c, heq, hclient⟩ := s.vertexArray.updateClientAttrib_eq v (env.memory v)
    ((s.vertexArray.attribs v).elements startVertex vertexCount instanceCount).1
    ((s.vertexArray.attribs v).elements startVertex vertexCount instanceCount).2
  have hafter := hs.setCurrent hv c
  have hmem := hv
  rw [← hs.clients, mem_activeClientAttribs, VertexArray.isClient, Bool.and_eq_true] at hmem
  obtain ⟨hlt, hactive, henabled, hnone⟩ := hmem
  have hfits := hs.offsets v hlt hactive henabled
  simp only [Option.isNone_iff_eq_none.mp hnone] at hfits
  simp only [updateClientAttrib, heq]
  split
  · obtain ⟨husable, hholds⟩ := (hclient ‹_›).holds (hs.inv.inlineMax _) hcount hfits
    refine ⟨hafter, ?_, ?_⟩
    · simpa [VertexArray.usable, VertexArray.setCurrent, henabled] using husable
    · simpa [VertexArray.setCurrent] using hholds
  · exact hafter.inv

theorem updateClientAttrib_keeps (env : Environment) {clients : List Nat}
    {startVertex vertexCount instanceCount v w : Nat} (hcount : 0 < instanceCount)
    (hv : v ∈ clients) :
    Triple (fun s => s.Updating env instanceCount clients ∧ s.AttribHeld instanceCount w)
      (updateClientAttrib env startVertex vertexCount instanceCount v)
      (fun s => s.AttribHeld instanceCount w) fun _ => True := by
  intro s hs
  by_cases hw : w = v
  · subst hw
    have htriple := @updateClientAttrib_triple env clients startVertex vertexCount instanceCount w
      hcount hv s hs.1
    split
    · rw [if_pos ‹_›] at htriple
      exact htriple.2
    · trivial
  · obtain ⟨c, heq, -⟩ := s.vertexArray.updateClientAttrib_eq v (env.memory v)
      ((s.vertexArray.attribs v).elements startVertex vertexCount instanceCount).1
      ((s.vertexArray.attribs v).elements startVertex vertexCount instanceCount).2
    simp only [updateClientAttrib, heq]
    split
    · have hheld := hs.2
      simpa [AttribHeld, VertexArray.usable, VertexArray.setCurrent, update_of_ne hw]
        using hheld
    · trivial

/-- After the client attributes: a draw finds its elements, and new current arrays are still to be
bound. -/
structure Prepared (n : Nat) (resets : Context → Prop) (s : Context) : Prop where
  inv : s.Inv
  held : s.Held n
  clients : s.activeClientAttribs ≠ [] → s.vertexArray.mVertexArrayDirty
  resets : resets s

theorem Updating.setDirty {env : Environment} {clients : List Nat} (h : s.Updating env n clients)
    (hheld : ∀ v ∈ clients, s.AttribHeld n v) :
    (s.setVertexArray { s.vertexArray with mVertexArrayDirty := true }).Prepared n
      ResetsInstanceID := by
  have htables : SameTables s
      (s.setVertexArray { s.vertexArray with mVertexArrayDirty := true }) :=
    .setVertexArray rfl rfl rfl
  refine ⟨htables.inv h.inv h.inv.instanceID fun _ _ hclean => ?_, htables.held ?_, fun _ => ?_,
    h.resets⟩
  · simp [vertexArray_setVertexArray] at hclean
  · apply held_of_clients h.inv h.offsets
    rw [h.clients]
    exact hheld
  · rw [vertexArray_setVertexArray]

theorem updateClientAttribs_triple (env : Environment) {firstVertex vertexOrIndexCount n : Nat}
    {indexed : Bool} (hcount : 0 < n) :
    Triple (fun s => s.Updating env n s.activeClientAttribs)
      (updateClientAttribs env firstVertex vertexOrIndexCount n indexed)
      (Prepared n ResetsInstanceID) Inv := by
  unfold updateClientAttribs
  split
  · exact attempt nofun fun _ s hs => hs.inv
  · refine andThen (Q := fun s => ∃ clients, s.Updating env n clients ∧
      ∀ v ∈ clients, s.AttribHeld n v) ?_ ?_
    · apply Triple.ofState
      intro s hs
      refine (forEach_all (fun v hv => updateClientAttrib_triple env hcount hv)
        fun v hv w _ => updateClientAttrib_keeps env hcount hv).mono ?_ ?_ fun _ h => h
      · rintro t rfl
        exact hs
      · intro t ht
        exact ⟨_, ht⟩
    · apply Triple.update
      rintro s ⟨clients, hs, hheld⟩
      exact hs.setDirty hheld

/-! ### Setting up a draw -/

namespace Prepared

variable {resets resets' : Context → Prop}

theorem setDirtyBits (h : s.Prepared n resets) {bits : DirtyBits}
    (hdriver : bits.driverUniforms = false → s.mDirtyBits.driverUniforms = false)
    (hpipeline : bits.renderPipeline = false → s.mDirtyBits.renderPipeline = false)
    (hresets : resets' { s with mDirtyBits := bits }) :
    ({ s with mDirtyBits := bits } : Context).Prepared n resets' :=
  ⟨h.inv.setDirtyBits hdriver hpipeline, h.held, h.clients, hresets⟩

theorem mono (h : s.Prepared n resets) (hresets : resets' s) : s.Prepared n resets' :=
  { h with resets := hresets }

end Prepared

/-- The driver uniforms will be sent, whether or not a render pass is started first. -/
def ResetsOrStarts (s : Context) : Prop :=
  s.emulatedInstanceID = 0 ∨ s.mDirtyBits.driverUniforms ∨
    s.mDirtyBits.drawFramebuffer ∨ s.mRenderEncoder.valid = false

/-- A render pass is started, or is to be started. -/
def ValidOrStarts (s : Context) : Prop :=
  (s.emulatedInstanceID = 0 ∨ s.mDirtyBits.driverUniforms ∨
    s.mDirtyBits.drawFramebuffer) ∧
  (s.mRenderEncoder.valid ∨ s.mDirtyBits.drawFramebuffer)

/-- A render pass is started, and the driver uniforms are sent in it. -/
def ResetsInPass (s : Context) : Prop :=
  (s.emulatedInstanceID = 0 ∨ s.mDirtyBits.driverUniforms) ∧
    s.mRenderEncoder.valid

theorem prepared_handleDirtyRasterizerDiscard (h : s.Prepared n ResetsInstanceID) :
    s.handleDirtyRasterizerDiscard.Prepared n ResetsOrStarts := by
  have hresets := h.resets
  unfold handleDirtyRasterizerDiscard
  by_cases hdiscard : s.mDirtyBits.rasterizerDiscard
  · rw [if_pos hdiscard]
    by_cases hxfb : s.transformFeedback.isSome
    · rw [if_pos hxfb]
      exact h.setDirtyBits nofun
        nofun (.inr (.inl rfl))
    · rw [if_neg hxfb]
      refine h.setDirtyBits (fun hclean => hclean) nofun ?_
      rcases hresets with hzero | hdriver | hframebuffer | hvalid | ⟨-, hxfb'⟩
      · exact .inl hzero
      · exact .inr (.inl hdriver)
      · exact .inr (.inr (.inl hframebuffer))
      · exact .inr (.inr (.inr hvalid))
      · exact absurd hxfb' hxfb
  · rw [if_neg hdiscard]
    apply h.mono
    rcases hresets with hzero | hdriver | hframebuffer | hvalid | ⟨hdiscard', -⟩
    · exact .inl hzero
    · exact .inr (.inl hdriver)
    · exact .inr (.inr (.inl hframebuffer))
    · exact .inr (.inr (.inr hvalid))
    · exact absurd hdiscard' hdiscard

theorem prepared_validOrStarts (h : s.Prepared n ResetsOrStarts) :
    (if s.mRenderEncoder.valid then s else s.invalidateState).Prepared n ValidOrStarts := by
  by_cases hvalid : s.mRenderEncoder.valid
  · rw [if_pos hvalid]
    apply h.mono
    refine ⟨?_, .inl hvalid⟩
    rcases h.resets with hzero | hdriver | hframebuffer | hinvalid
    · exact .inl hzero
    · exact .inr (.inl hdriver)
    · exact .inr (.inr hframebuffer)
    · simp [hinvalid] at hvalid
  · rw [if_neg hvalid]
    exact h.setDirtyBits nofun
      nofun
      ⟨.inr (.inl rfl), .inr rfl⟩

theorem handleDirtyRenderPass_triple (env : Environment) :
    Triple (Prepared n ValidOrStarts) (handleDirtyRenderPass env) (Prepared n ResetsInPass)
      Inv := by
  unfold handleDirtyRenderPass
  split
  · exact attempt nofun fun _ s hs => hs.inv
  · rename_i newRenderPass _
    apply Triple.update
    intro s hs
    refine ⟨hs.inv.setEncoder _, hs.held, hs.clients, .inr rfl, ?_⟩
    show (if newRenderPass || !s.mRenderEncoder.valid then started
      else s.mRenderEncoder).valid
    split
    · rfl
    · simp_all

theorem drawFramebuffer_triple (env : Environment) :
    Triple (Prepared n ValidOrStarts)
      (ofState fun s => when s.mDirtyBits.drawFramebuffer (handleDirtyRenderPass env))
      (Prepared n ResetsInPass) Inv := by
  apply Triple.ofState
  intro s hs
  refine when (fun _ => ?_) fun hclean t ht => ?_
  · exact (handleDirtyRenderPass_triple (n := n) env).here hs
  · subst ht
    apply hs.mono
    obtain ⟨hresets, hvalid⟩ := hs.resets
    refine ⟨hresets.imp_right fun h => h.resolve_right (by simp [hclean]),
      hvalid.resolve_right (by simp [hclean])⟩

/-- After the vertex buffers are bound. -/
structure Laid (n : Nat) (s : Context) : Prop where
  inv : s.Inv
  held : s.Held n
  valid : s.mRenderEncoder.valid
  resets : s.emulatedInstanceID = 0 ∨ s.mDirtyBits.driverUniforms
  settled : s.vertexArray.Settled s.activeAttribs s.mRenderEncoder

theorem sameTables_checkIfPipelineChanged (s : Context) :
    SameTables s s.checkIfPipelineChanged := by
  obtain ⟨hattribs, hcurrent, hmax, -⟩ := @VertexArray.setupDraw_keeps s.vertexArray
    s.mRenderEncoder s.activeAttribs s.mDirtyBits.renderPipeline
  exact { SameTables.setVertexArray hattribs hcurrent hmax with }

theorem laid_checkIfPipelineChanged (h : s.Prepared n ResetsInPass) :
    s.checkIfPipelineChanged.Laid n := by
  obtain ⟨hattribs, hcurrent, hmax, hclean, hvalid, hid⟩ := @VertexArray.setupDraw_keeps
    s.vertexArray s.mRenderEncoder s.activeAttribs s.mDirtyBits.renderPipeline
  have hsettled : (s.vertexArray.setupDraw s.activeAttribs s.mRenderEncoder
      s.mDirtyBits.renderPipeline).1.Settled s.activeAttribs
      (s.vertexArray.setupDraw s.activeAttribs s.mRenderEncoder s.mDirtyBits.renderPipeline).2 := by
    apply VertexArray.settled_setupDraw
    · intro v hv hactive henabled
      exact (h.held v hv hactive henabled).1
    · intro hdirty hpipeline
      apply h.inv.settled h.resets.2 hpipeline hdirty
      by_contra hclients
      simp [h.clients hclients] at hdirty
  have hsettled' : s.checkIfPipelineChanged.vertexArray.Settled
      s.checkIfPipelineChanged.activeAttribs s.checkIfPipelineChanged.mRenderEncoder := by
    have hva : s.checkIfPipelineChanged.vertexArray = (s.vertexArray.setupDraw s.activeAttribs
        s.mRenderEncoder s.mDirtyBits.renderPipeline).1 := update_self ..
    rw [hva]
    exact hsettled
  have htables := sameTables_checkIfPipelineChanged s
  refine ⟨htables.inv h.inv (fun hv hdriver => ?_) fun _ _ _ _ => hsettled', htables.held h.held,
    hvalid.trans h.resets.2, h.resets.1, hsettled'⟩
  exact hid.trans (h.inv.instanceID h.resets.2 hdriver)

/-- After the driver uniforms are sent: the draw for instance 0 can be made. -/
structure Ready (n : Nat) (s : Context) : Prop where
  inv : s.Inv
  held : s.Held n
  valid : s.mRenderEncoder.valid
  instanceID : s.mRenderEncoder.instanceID = some 0
  emulatedInstanceID : s.emulatedInstanceID = 0
  settled : s.vertexArray.Settled s.activeAttribs s.mRenderEncoder

theorem Laid.setEmulatedInstanceID (h : s.Laid n) (hdriver : s.mDirtyBits.driverUniforms) :
    ({ s with emulatedInstanceID := 0 } : Context).Laid n where
  __ := h
  inv := { h.inv with
    instanceID _ hclean := absurd hclean (by simp [hdriver]) }
  resets := .inl rfl

theorem Laid.sendDriverUniforms (h : s.Laid n) (hzero : s.emulatedInstanceID = 0) :
    s.sendDriverUniforms.Ready n where
  __ := h
  inv := { h.inv with
    instanceID _ _ := rfl
    settled _ _ _ _ := ⟨h.settled.bound, h.settled.emulated⟩ }
  instanceID := congrArg some hzero
  emulatedInstanceID := hzero
  settled := ⟨h.settled.bound, h.settled.emulated⟩

theorem fillAndSend_triple (first count skipped : Nat) :
    Triple (fun s => s.Laid n ∧ s.emulatedInstanceID = 0)
      (fillDriverXFBUniforms first count skipped >> update Context.sendDriverUniforms)
      (Ready n) Inv := by
  refine andThen (Q := fun s => s.Laid n ∧ s.emulatedInstanceID = 0) ?_
    (.update fun s hs => hs.1.sendDriverUniforms hs.2)
  apply Triple.ofState
  intro s hs
  refine attempt (fun _ t ht => ?_) fun _ t ht => ?_
  · subst ht
    exact hs
  · subst ht
    exact hs.1.inv

theorem driverUniforms_triple (first count : Nat) (xfbPass : Bool) :
    Triple (Laid n) (ofState fun s =>
        if s.mDirtyBits.driverUniforms then handleDirtyDriverUniforms first count
        else when xfbPass
          (fillDriverXFBUniforms first count 0 >> update Context.sendDriverUniforms))
      (Ready n) Inv := by
  apply Triple.ofState
  intro s hs
  by_cases hdriver : s.mDirtyBits.driverUniforms
  · rw [if_pos hdriver]
    refine andThen (Q := fun t : Context => t.Laid n ∧ t.emulatedInstanceID = 0) ?_
      (fillAndSend_triple first count 0)
    apply Triple.update
    rintro t rfl
    exact ⟨hs.setEmulatedInstanceID hdriver, rfl⟩
  · rw [if_neg hdriver]
    have hzero : s.emulatedInstanceID = 0 := hs.resets.resolve_right hdriver
    refine when (fun _ => ?_) fun _ t ht => ?_
    · exact (fillAndSend_triple first count 0).here ⟨hs, hzero⟩
    · subst ht
      have hid := hs.inv.instanceID hs.valid (by simpa using hdriver)
      exact ⟨hs.inv, hs.held, hs.valid, hid.trans (congrArg some hzero), hzero, hs.settled⟩

theorem Ready.resetDirtyBits (h : s.Ready n) :
    ({ s with mDirtyBits := .none } : Context).Ready n where
  __ := h
  inv := { h.inv with
    instanceID _ _ := h.instanceID.trans (congrArg some h.emulatedInstanceID.symm)
    settled _ _ _ _ := h.settled }

/-- A draw that is set up runs with instance ID 0, at the elements of instance 0. -/
theorem setupDraw_triple (env : Environment) (first count instances : Nat)
    (indexed xfbPass : Bool) :
    Triple (fun s => s.Inv ∧ s.ResetsInstanceID ∧ s.OffsetsFit env instances)
      (setupDraw env first count instances indexed xfbPass) (Ready instances) Inv := by
  have hclients : Triple (fun s => s.Inv ∧ s.ResetsInstanceID ∧ s.OffsetsFit env instances)
      (ofState fun s : Context => when (!s.activeClientAttribs.isEmpty) (updateClientAttribs env
        first count (if instances = 0 then 1 else instances) indexed))
      (Prepared instances ResetsInstanceID) Inv := by
    apply Triple.ofState
    rintro s ⟨hinv, hresets, hoffsets⟩
    have hsame : (if instances = 0 then 1 else instances) - 1 = instances - 1 := by
      split <;> omega
    refine when (fun _ => ?_) fun hempty t ht => ?_
    · refine (updateClientAttribs_triple (n := if instances = 0 then 1 else instances) env
        (by split <;> omega)).mono ?_ ?_ fun _ h => h
      · rintro t rfl
        exact ⟨hinv, hresets, hoffsets.congr hsame, rfl⟩
      · intro t ht
        refine { ht with held := ?_ }
        have hheld := ht.held
        unfold Held AttribHeld at hheld ⊢
        rw [hsame] at hheld
        exact hheld
    · rw [ht]
      have hnil : s.activeClientAttribs = [] := by simpa using hempty
      refine ⟨hinv, held_of_clients hinv hoffsets ?_, fun h => absurd hnil h, hresets⟩
      rw [hnil]
      exact nofun
  refine hclients.andThen ?_
  refine andThen (.attempt (fun _ _ h => h) fun _ _ h => h.inv) ?_
  refine andThen (.update fun _ h => prepared_handleDirtyRasterizerDiscard h) ?_
  refine andThen (.update fun _ h => prepared_validOrStarts h) ?_
  refine andThen (drawFramebuffer_triple env) ?_
  refine andThen (.attempt (fun _ _ h => h) fun _ _ h => h.inv) ?_
  refine andThen (.update fun _ h => laid_checkIfPipelineChanged h) ?_
  refine andThen (driverUniforms_triple first count xfbPass) ?_
  refine andThen (.update fun _ h => h.resetDirtyBits) ?_
  exact .attempt (fun _ _ h => h) fun _ _ h => h.inv

/-! ### The instances of a draw -/

/-- The next draw is the one of an instance. -/
structure At (n inst : Nat) (s : Context) : Prop where
  synced : ∀ k, (s.vertexArrays k).Synced
  inlineMax : ∀ k, (s.vertexArrays k).mInlineDataMaxSize ≤ kInlineConstDataMaxSize
  right : ∀ d ∈ s.drawn, d.Right
  held : s.Held n
  valid : s.mRenderEncoder.valid
  instanceID : s.mRenderEncoder.instanceID = some inst
  emulatedInstanceID : s.emulatedInstanceID = inst
  bound : s.vertexArray.BoundAt s.activeAttribs inst s.mRenderEncoder
  emulates : s.vertexArray.EmulatesDivisors s.activeAttribs

theorem Ready.at (h : s.Ready n) : s.At n 0 where
  __ := h
  synced := h.inv.synced
  inlineMax := h.inv.inlineMax
  right := h.inv.right
  bound := (VertexArray.settled_iff.mp h.settled).1
  emulates := (VertexArray.settled_iff.mp h.settled).2

namespace At

variable {inst : Nat}

theorem draw (h : s.At n inst) (hle : inst ≤ n - 1) : (s.draw inst).At n inst := by
  refine { h with right := ?_ }
  intro d hd
  rcases mem_append.mp hd with hd | hd
  · exact h.right d hd
  · obtain rfl := mem_singleton.mp hd
    refine ⟨h.instanceID, fun v hv hactive henabled => ?_⟩
    have hholds := (h.held v hv hactive henabled).2.mono (Nat.div_le_div_right hle)
    calc s.mRenderEncoder.vertexBuffers v
        = some ((s.vertexArray.current v).step inst (s.vertexArray.attribs v).divisor) :=
          h.bound v hv hactive henabled
      _ = some ((s.vertexArray.current v).element (inst / (s.vertexArray.attribs v).divisor)) := by
          rw [CurrentArray.step_eq_element hholds]
      _ = some (s.vertexArray.element v (inst / (s.vertexArray.attribs v).divisor)) := by
          have hsynced : s.vertexArray.Synced := h.synced _
          rw [hsynced.element_eq henabled]

theorem next (h : s.At n inst) (inst' : Nat) :
    (emulateInstanceDrawStep inst' (sendDriverUniforms
      { s with emulatedInstanceID := inst' })).At n inst' := by
  obtain ⟨hvalid, hid⟩ := @VertexArray.emulateInstanceDrawStep_keeps s.vertexArray
    { s.mRenderEncoder with instanceID := some inst' } inst'
  refine ⟨h.synced, h.inlineMax, h.right, h.held, hvalid.trans h.valid, hid, rfl, ?_, h.emulates⟩
  exact VertexArray.boundAt_emulateInstanceDrawStep inst' h.emulates h.bound

/-- The last step of a draw binds the vertex buffers as they were before it, and leaves the
instance ID. -/
theorem last (h : s.At n inst) : (emulateInstanceDrawStep 0 s).Inv := by
  obtain ⟨-, hid⟩ := @VertexArray.emulateInstanceDrawStep_keeps s.vertexArray s.mRenderEncoder 0
  refine { h with instanceID := fun _ _ => ?_, settled := fun _ _ _ _ => ?_ }
  · exact hid.trans (h.instanceID.trans (congrArg some h.emulatedInstanceID.symm))
  · exact VertexArray.settled_iff.mpr
      ⟨VertexArray.boundAt_emulateInstanceDrawStep 0 h.emulates h.bound, h.emulates⟩

theorem last_zero (h : s.At n 0) : (emulateInstanceDrawStep 0 s).At n 0 := by
  obtain ⟨hvalid, hid⟩ :=
    @VertexArray.emulateInstanceDrawStep_keeps s.vertexArray s.mRenderEncoder 0
  exact ⟨h.synced, h.inlineMax, h.right, h.held, hvalid.trans h.valid, hid.trans h.instanceID,
    h.emulatedInstanceID, VertexArray.boundAt_emulateInstanceDrawStep 0 h.emulates h.bound,
    h.emulates⟩

theorem inv (h : s.At n 0) : s.Inv where
  __ := h
  instanceID _ _ := h.instanceID.trans (congrArg some h.emulatedInstanceID.symm)
  settled _ _ _ _ := VertexArray.settled_iff.mpr ⟨h.bound, h.emulates⟩

end At

/-- Some instance has been drawn; of a draw of one instance it is the first. -/
def Drawing (n : Nat) (s : Context) : Prop := ∃ inst, (n ≤ 1 → inst = 0) ∧ s.At n inst

/-- A draw has ended.  The instance ID is known to be 0 only after a draw of one instance. -/
structure Ended (n : Nat) (s : Context) : Prop where
  inv : s.Inv
  first : n ≤ 1 → s.At n 0

theorem Drawing.last (h : s.Drawing n) : (emulateInstanceDrawStep 0 s).Ended n := by
  obtain ⟨inst, hfirst, hat⟩ := h
  refine ⟨hat.last, fun hn => ?_⟩
  obtain rfl := hfirst hn
  exact hat.last_zero

theorem mem_instances {inst : Nat} (h : inst ∈ List.range' 1 (n - 1)) :
    1 ≤ inst ∧ inst < n := by
  rw [mem_range'_1] at h
  omega

theorem execDrawInstanced_triple (first count : Nat) :
    Triple (fun s => s.Ready n ∧ s.Captures first count n) (execDrawInstanced first count n)
      (Ended n) Inv := by
  refine andThen (Q := fun s => s.Drawing n ∧ s.Captures first count n)
    (.update fun s hs => ⟨⟨0, fun _ => rfl, hs.1.at.draw (Nat.zero_le _)⟩, hs.2⟩) ?_
  refine andThen (forEach fun inst hmem => ?_) (.update fun s hs => hs.1.last)
  obtain ⟨hpos, hlt⟩ := mem_instances hmem
  intro s hs
  obtain ⟨⟨inst', -, hat⟩, hcaptures⟩ := hs
  have hfill : (s.transformFeedback.all fun xfb =>
      xfb.getBufferOffsets first (uint32 (count * inst))) := by
    rw [Option.all_eq_true]
    exact hcaptures inst hpos hlt
  have hdraw := (hat.next inst).draw (by omega)
  simp only [run_andThen, fillDriverXFBUniforms, run_update, run_ofState, run_attempt, hfill,
    if_true]
  exact ⟨⟨inst, fun hn => by omega, hdraw⟩, hcaptures⟩

theorem execDrawIndexedInstanced_triple :
    Triple (Ready n) (execDrawIndexedInstanced n) (Ended n) Inv := by
  refine andThen (Q := Drawing n)
    (.update fun s hs => ⟨0, fun _ => rfl, hs.at.draw (Nat.zero_le _)⟩) ?_
  refine andThen (forEach fun inst hmem => ?_) (.update fun s hs => hs.last)
  obtain ⟨hpos, hlt⟩ := mem_instances hmem
  rintro s ⟨inst', -, hat⟩
  have hdraw := (hat.next inst).draw (by omega)
  exact ⟨inst, fun hn => by omega, hdraw⟩

theorem draw_triple : Triple (Ready n) (update (draw 0)) (Ended n) Inv :=
  .update fun _ h => ⟨(h.at.draw (Nat.zero_le _)).inv, fun _ => h.at.draw (Nat.zero_le _)⟩

/-! ### What a draw leaves as it is -/

/-- The inputs of a draw are what they were at the start, and some instances have been drawn since
then. -/
structure Follows (s₀ : Context) (insts : List Nat) (s : Context) : Prop where
  activeAttribs : s.activeAttribs = s₀.activeAttribs
  attribs : s.vertexArray.attribs = s₀.vertexArray.attribs
  current : ∀ v, (s₀.vertexArray.attribs v).buffer.isSome →
    s.vertexArray.current v = s₀.vertexArray.current v
  transformFeedback : s.transformFeedback = s₀.transformFeedback
  rasterizerDiscard : s.rasterizerDiscard = s₀.rasterizerDiscard
  drawn : s.drawn.map SubDraw.inst = s₀.drawn.map SubDraw.inst ++ insts

namespace Follows

variable {s₀ : Context} {insts : List Nat}

theorem refl (s : Context) : Follows s [] s :=
  ⟨rfl, rfl, fun _ _ => rfl, rfl, rfl, by simp⟩

section

variable (h : Follows s₀ insts s)
include h

theorem of_eq (hva : t.vertexArray = s.vertexArray)
    (hactive : t.activeAttribs = s.activeAttribs)
    (hxfb : t.transformFeedback = s.transformFeedback)
    (hdiscard : t.rasterizerDiscard = s.rasterizerDiscard) (hdrawn : t.drawn = s.drawn) :
    Follows s₀ insts t where
  activeAttribs := hactive.trans h.activeAttribs
  attribs := by rw [hva, h.attribs]
  current v hv := by rw [hva, h.current v hv]
  transformFeedback := hxfb.trans h.transformFeedback
  rasterizerDiscard := hdiscard.trans h.rasterizerDiscard
  drawn := by rw [hdrawn, h.drawn]

theorem setVertexArray {va : VertexArray}
    (hattribs : va.attribs = s.vertexArray.attribs)
    (hcurrent : ∀ v, (s.vertexArray.attribs v).buffer.isSome →
      va.current v = s.vertexArray.current v) : Follows s₀ insts (s.setVertexArray va) where
  __ := h
  attribs := by rw [vertexArray_setVertexArray, hattribs, h.attribs]
  current v hv := by
    rw [vertexArray_setVertexArray, hcurrent v (by rw [h.attribs]; exact hv), h.current v hv]

theorem draw (inst : Nat) :
    Follows s₀ (insts ++ [inst]) (s.draw inst) where
  __ := h
  drawn := by
    rw [Context.draw, map_append, h.drawn, append_assoc]
    rfl

theorem offsetsFit {env : Environment} (hfits : s₀.OffsetsFit env n) :
    s.OffsetsFit env n := by
  intro v hv hactive henabled
  rw [h.activeAttribs] at hactive
  rw [h.attribs] at henabled ⊢
  have hold := hfits v hv hactive henabled
  cases hbuffer : (s₀.vertexArray.attribs v).buffer with
  | none =>
      simp only [hbuffer] at hold ⊢
      exact hold
  | some buffer =>
      rw [h.current v (by simp [hbuffer])]
      exact hold

theorem captures {first count : Nat}
    (hcaptures : s₀.Captures first count n) : s.Captures first count n := by
  unfold Captures at hcaptures ⊢
  rw [h.transformFeedback]
  exact hcaptures

end

end Follows

/-- Nothing fails while a draw is set up. -/
def SetupReady (s : Context) (env : Environment) (first : Nat) : Prop :=
  env.Ready ∧ ∀ xfb ∈ s.transformFeedback, xfb.getBufferOffsets first 0

section Follows

variable {s₀ : Context} {insts : List Nat} {env : Environment} {first : Nat}

theorem updateClientAttrib_follows {startVertex vertexCount instanceCount v : Nat}
    (hv : v ∈ s₀.activeClientAttribs) :
    Triple (Follows s₀ insts) (updateClientAttrib env startVertex vertexCount instanceCount v)
      (Follows s₀ insts) fun _ => ¬s₀.SetupReady env first := by
  intro s hs
  have hnone : (s.vertexArray.attribs v).buffer.isSome = false := by
    rw [mem_activeClientAttribs, VertexArray.isClient, Bool.and_eq_true] at hv
    rw [hs.attribs]
    simpa using hv.2.2.2
  obtain ⟨c, heq, -⟩ := s.vertexArray.updateClientAttrib_eq v (env.memory v)
    ((s.vertexArray.attribs v).elements startVertex vertexCount instanceCount).1
    ((s.vertexArray.attribs v).elements startVertex vertexCount instanceCount).2
  split
  · simp only [updateClientAttrib, heq]
    refine @Follows.setVertexArray _ _ _ hs (s.vertexArray.setCurrent v c) rfl fun w hw => ?_
    have hne : w ≠ v := by
      rintro rfl
      simp [hnone] at hw
    simp [VertexArray.setCurrent, update_of_ne hne]
  · rintro ⟨hready, -⟩
    obtain ⟨array, harray⟩ := Option.isSome_iff_exists.mp (hready.smallArray v)
    obtain ⟨range, hrange⟩ := Option.isSome_iff_exists.mp (hready.stream v)
    rename_i hfailed
    apply hfailed
    simp only [updateClientAttrib, VertexArray.updateClientAttrib]
    split
    · split
      · simp [harray]
      · simp [hrange]
    · rfl

theorem updateClientAttribs_follows {count instanceCount : Nat} {indexed : Bool} :
    Triple (Follows s₀ insts) (updateClientAttribs env first count instanceCount indexed)
      (Follows s₀ insts) fun _ => ¬s₀.SetupReady env first := by
  unfold updateClientAttribs
  split
  · rename_i hrange
    refine attempt nofun fun _ s _ hready => ?_
    have hsome := hready.1.indexRange
    unfold getVertexRangeInfo at hrange
    split at hrange
    · simp [hrange] at hsome
    · simp at hrange
  · refine andThen (Q := Follows s₀ insts) ?_
      (.update fun s hs => hs.setVertexArray rfl fun _ _ => rfl)
    apply Triple.ofState
    intro s hs
    have hclients : s.activeClientAttribs = s₀.activeClientAttribs := by
      unfold Context.activeClientAttribs
      simp [hs.activeAttribs, VertexArray.isClient, hs.attribs]
    refine (forEach (P := Follows s₀ insts) fun v hv => ?_).mono ?_ (fun _ h => h)
      fun _ h => h
    · rw [hclients] at hv
      exact updateClientAttrib_follows hv
    · rintro t rfl
      exact hs

theorem fillDriverXFBUniforms_follows {count : Nat} :
    Triple (Follows s₀ insts) (fillDriverXFBUniforms first count 0) (Follows s₀ insts)
      fun _ => ¬s₀.SetupReady env first := by
  apply Triple.ofState
  intro s hs
  refine attempt (fun _ t ht => ?_) fun hfailed t _ hready => ?_
  · rw [ht]
    exact hs
  · have hfill : (s.transformFeedback.all fun xfb =>
        xfb.getBufferOffsets first (uint32 (count * 0))) := by
      rw [Option.all_eq_true, hs.transformFeedback]
      exact hready.2
    rw [hfill] at hfailed
    simp at hfailed

/-- Setting up a draw draws nothing and changes no input of it. -/
theorem setupDraw_follows {count instances : Nat} {indexed xfbPass : Bool} :
    Triple (Follows s₀ insts) (setupDraw env first count instances indexed xfbPass)
      (Follows s₀ insts) fun _ => ¬s₀.SetupReady env first := by
  have hattempt {ok : Bool} (hok : env.Ready → ok) :
      Triple (Follows s₀ insts) (attempt ok) (Follows s₀ insts)
        fun _ => ¬s₀.SetupReady env first := by
    refine attempt (fun _ _ h => h) fun hfailed _ _ hready => ?_
    simp [hok hready.1] at hfailed
  have hofState {op : Context → Fallible Context}
      (hop : ∀ s, Triple (Follows s₀ insts) (op s) (Follows s₀ insts)
        fun _ => ¬s₀.SetupReady env first) :
      Triple (Follows s₀ insts) (ofState op) (Follows s₀ insts)
        fun _ => ¬s₀.SetupReady env first := by
    exact reads fun s _ => hop s
  refine andThen (hofState fun s => .when (fun _ => updateClientAttribs_follows)
    fun _ _ h => h) ?_
  refine andThen (hattempt fun h => h.texturesReady) ?_
  refine andThen (Q := Follows s₀ insts) (.update fun s hs => ?_) ?_
  · unfold handleDirtyRasterizerDiscard
    repeat' split
    all_goals exact hs.of_eq rfl rfl rfl rfl rfl
  refine andThen (Q := Follows s₀ insts) (.update fun s hs => ?_) ?_
  · split <;> exact hs.of_eq rfl rfl rfl rfl rfl
  refine andThen (hofState fun s => .when (fun _ => ?_) fun _ _ h => h) ?_
  · unfold handleDirtyRenderPass
    split
    · rename_i hnone
      apply hattempt
      intro h
      have hsome := h.newRenderPass
      simp [hnone] at hsome
    · exact .update fun _ hs => hs.of_eq rfl rfl rfl rfl rfl
  refine andThen (hattempt fun h => h.queryStarts) ?_
  refine andThen ?_ (.andThen (hofState fun s => ?_)
    (.andThen (.update fun _ hs => hs.of_eq rfl rfl rfl rfl rfl) (hattempt fun h => h.programReady)))
  · apply Triple.update
    intro s hs
    obtain ⟨hattribs, hcurrent, -⟩ := @VertexArray.setupDraw_keeps s.vertexArray
      s.mRenderEncoder s.activeAttribs s.mDirtyBits.renderPipeline
    exact (hs.setVertexArray hattribs fun v _ => congrFun hcurrent v).of_eq rfl rfl rfl rfl rfl
  · have hsend : Triple (Follows s₀ insts) (update Context.sendDriverUniforms) (Follows s₀ insts)
        fun _ => ¬s₀.SetupReady env first := .update fun _ hs => hs.of_eq rfl rfl rfl rfl rfl
    split
    · refine andThen ?_ (fillDriverXFBUniforms_follows.andThen hsend)
      exact .update fun _ hs => hs.of_eq rfl rfl rfl rfl rfl
    · exact .when (fun _ => fillDriverXFBUniforms_follows.andThen hsend) fun _ _ h => h

theorem forEach_follows {op : Nat → Fallible Context}
    (hop : ∀ insts inst, Triple (Follows s₀ insts) (op inst) (Follows s₀ (insts ++ [inst]))
      fun _ => True) (xs : List Nat) :
    ∀ insts, Triple (Follows s₀ insts) (forEach xs op) (Follows s₀ (insts ++ xs))
      fun _ => True := by
  induction xs with
  | nil =>
      intro insts
      apply Triple.done
      intro s hs
      rwa [append_nil]
  | cons x xs ih =>
      intro insts
      refine (hop insts x).andThen ?_
      have hrest := ih (insts ++ [x])
      rwa [append_assoc, singleton_append] at hrest

theorem range_of_pos {instances : Nat} (h : 0 < instances) :
    [0] ++ List.range' 1 (instances - 1) = passInstances instances := by
  obtain ⟨last, rfl⟩ : ∃ last, instances = last + 1 := ⟨instances - 1, by omega⟩
  rw [passInstances, max_eq_right (by omega), range_eq_range', range'_succ]
  rfl

theorem draw_follows {inst : Nat} {E : Context → Prop} :
    Triple (Follows s₀ insts) (update (draw inst)) (Follows s₀ (insts ++ [inst])) E :=
  .update fun _ hs => hs.draw inst

theorem execDrawInstanced_follows {count instances : Nat} (hpos : 0 < instances) :
    Triple (Follows s₀ insts) (execDrawInstanced first count instances)
      (Follows s₀ (insts ++ passInstances instances)) fun _ => True := by
  rw [← range_of_pos hpos, ← append_assoc]
  refine draw_follows.andThen (.andThen (forEach_follows (fun insts inst => ?_) _ _) ?_)
  · refine andThen (Q := Follows s₀ insts) ?_ (.andThen (Q := Follows s₀ insts)
      ?_ (.andThen (Q := Follows s₀ insts) ?_ (.andThen (Q := Follows s₀ insts) ?_ draw_follows)))
    · exact .update fun _ hs => hs.of_eq rfl rfl rfl rfl rfl
    · apply Triple.ofState
      intro s hs
      refine attempt (fun _ t ht => ?_) fun _ _ _ => trivial
      rw [ht]
      exact hs
    · exact .update fun _ hs => hs.of_eq rfl rfl rfl rfl rfl
    · exact .update fun _ hs => hs.of_eq rfl rfl rfl rfl rfl
  · exact .update fun _ hs => hs.of_eq rfl rfl rfl rfl rfl

theorem execDrawIndexedInstanced_follows {instances : Nat} (hpos : 0 < instances) :
    Triple (Follows s₀ insts) (execDrawIndexedInstanced instances)
      (Follows s₀ (insts ++ passInstances instances)) fun _ => True := by
  rw [← range_of_pos hpos, ← append_assoc]
  refine draw_follows.andThen (.andThen (forEach_follows (fun insts inst => ?_) _ _) ?_)
  · refine andThen (Q := Follows s₀ insts) ?_ (.andThen (Q := Follows s₀ insts) ?_
      (.andThen (Q := Follows s₀ insts) ?_ draw_follows))
    · exact .update fun _ hs => hs.of_eq rfl rfl rfl rfl rfl
    · exact .update fun _ hs => hs.of_eq rfl rfl rfl rfl rfl
    · exact .update fun _ hs => hs.of_eq rfl rfl rfl rfl rfl
  · exact .update fun _ hs => hs.of_eq rfl rfl rfl rfl rfl

end Follows

/-! ### Draw calls -/

section Calls

variable {s₀ : Context} {c : Circumstances} {first count : Nat}

/-- A pass that is drawn right, and its instances in their order.  A pass that draws no more than
one instance fails only where it is set up. -/
theorem drawGenericArray_triple {insts : List Nat} {pass : Nat} {xfbPass : Bool}
    (hoffsets : s₀.OffsetsFit (c.environment pass) n) (hcaptures : s₀.Captures first count n) :
    Triple (fun s => s.Inv ∧ s.ResetsInstanceID ∧ Follows s₀ insts s)
      (drawGenericArray c first count n pass xfbPass)
      (fun s => s.Ended n ∧ Follows s₀ (insts ++ passInstances n) s)
      fun s => s.Inv ∧ (n = 0 → ¬s₀.SetupReady (c.environment pass) first) := by
  have hsetup := (setupDraw_triple (c.environment pass) first count n false xfbPass).and
    (@setupDraw_follows s₀ insts (c.environment pass) first count n false xfbPass)
  refine andThen (hsetup.mono (fun s hs => ⟨⟨hs.1, hs.2.1, hs.2.2.offsetsFit hoffsets⟩,
    hs.2.2⟩) (fun s hs => hs) fun s hs => ⟨hs.1, fun _ => hs.2⟩) ?_
  by_cases hn : n = 0
  · subst hn
    exact (draw_triple.and (draw_follows (E := fun _ => False))).fails fun s hs => hs.2.elim
  · rw [if_neg hn]
    refine ((execDrawInstanced_triple first count).and
      (execDrawInstanced_follows (Nat.pos_of_ne_zero hn))).mono
      (fun s hs => ⟨⟨hs.1, hs.2.captures hcaptures⟩, hs.2⟩) (fun s hs => hs) fun s hs => ?_
    exact ⟨hs.1, fun h => absurd h hn⟩

theorem drawIndexBuffer_triple {indexed : Bool} (hinv : s₀.Inv)
    (hcond : s₀.IndexedCondition c n) :
    Triple (fun s => s = s₀) (drawIndexBuffer c first count n indexed)
      (fun s => s.Ended n ∧ Follows s₀ (passInstances n) s)
      fun s => s.Inv ∧ (n = 0 → c.indexBuffer → ¬s₀.SetupReady (c.environment 0) first) := by
  have hsetup := (setupDraw_triple (c.environment 0) first count n indexed false).and
    (@setupDraw_follows s₀ [] (c.environment 0) first count n indexed false)
  refine andThen (Q := fun s => s = s₀) (.attempt (fun _ _ h => h) fun hfailed s hs => ?_)
    (andThen (hsetup.mono (fun s hs => ?_) (fun s hs => hs)
      fun s hs => ⟨hs.1, fun _ _ => hs.2⟩) ?_)
  · rw [hs]
    exact ⟨hinv, fun _ hready => absurd hready (by simp [hfailed])⟩
  · rw [hs]
    exact ⟨⟨hinv, hcond.resets, hcond.offsets⟩, .refl s₀⟩
  · by_cases hn : n = 0
    · subst hn
      exact (draw_triple.and (draw_follows (E := fun _ => False))).fails fun s hs => hs.2.elim
    · rw [if_neg hn]
      have hexec := execDrawIndexedInstanced_triple.and
        (@execDrawIndexedInstanced_follows s₀ [] n (Nat.pos_of_ne_zero hn))
      refine hexec.mono (fun s hs => hs) (fun s hs => ?_) fun s hs => ?_
      · rwa [nil_append] at hs
      · exact ⟨hs.1, fun h => absurd h hn⟩

theorem xfbDraw_triple (hinv : s₀.Inv) (hcond : s₀.GenericCondition c first count n) :
    Triple (fun s => s = s₀) (xfbDraw (drawGenericArray c first count n))
      (fun s => s.Ended n ∧ Follows s₀ (s₀.genericInstances n) s)
      fun s => s.Inv ∧ (n = 0 → ¬∀ pass, s₀.SetupReady (c.environment pass) first) := by
  have hpass (xfbPass : Bool) : Triple (fun s => s = s₀)
      (drawGenericArray c first count n 0 xfbPass)
      (fun s => s.Ended n ∧ Follows s₀ (passInstances n) s)
      fun s => s.Inv ∧ (n = 0 → ¬∀ pass, s₀.SetupReady (c.environment pass) first) := by
    refine (@drawGenericArray_triple n s₀ c first count [] 0 xfbPass hcond.offsets
      hcond.captures).mono
      (fun s hs => ?_) (fun s hs => ?_) fun s hs => ?_
    · rw [hs]
      exact ⟨hinv, hcond.resets, .refl s₀⟩
    · rwa [nil_append] at hs
    · exact ⟨hs.1, fun hn hready => hs.2 hn (hready 0)⟩
  apply Triple.ofState
  intro s hs
  subst hs
  by_cases hxfb : s.transformFeedback.isNone
  · rw [if_pos hxfb]
    have hpasses : s.genericInstances n = passInstances n := by
      rw [Option.isNone_iff_eq_none] at hxfb
      simp [genericInstances, passes, hxfb]
    rw [hpasses]
    exact hpass false
  · rw [if_neg hxfb]
    have hsome : s.transformFeedback.isSome := by
      simpa [Option.isSome_iff_ne_none] using hxfb
    refine (hpass true).andThen (when (fun hrasterizes => ?_) fun hdiscards t ht => ?_)
    · have hdiscard : s.rasterizerDiscard = false := by simpa using hrasterizes
      have hpasses : s.passes = 2 := by simp [passes, hsome, hdiscard]
      obtain ⟨hn, hoffsets⟩ := hcond.secondPass hpasses
      have hinstances : s.genericInstances n = passInstances n ++ passInstances n := by
        simp [genericInstances, hpasses, replicate]
      rw [hinstances]
      refine andThen (Q := fun t =>
        t.Inv ∧ t.ResetsInstanceID ∧ Follows s (passInstances n) t) ?_ ?_
      · apply Triple.update
        rintro t ⟨hended, hfollows⟩
        refine ⟨hended.inv.setDirtyBits (fun h => h) nofun,
          .inl (hended.first hn).emulatedInstanceID, hfollows.of_eq rfl rfl rfl rfl rfl⟩
      · exact (drawGenericArray_triple hoffsets hcond.captures).fails
          fun t ht => ⟨ht.1, fun hn hready => ht.2 hn (hready 1)⟩
    · have hdiscard : s.rasterizerDiscard = true := by simpa using hdiscards
      have hpasses : s.genericInstances n = passInstances n := by
        simp [genericInstances, passes, hdiscard]
      rw [hpasses]
      exact ht

/-- The last segment of a line loop comes after draws that end with instance 0. -/
theorem withLastSegment_triple {op : Fallible Context} {insts : List Nat} (hinv : s₀.Inv)
    (hcond : s₀.LastSegmentCondition c first)
    (hop : Triple (fun s => s = s₀) op (fun s => s.Ended 0 ∧ Follows s₀ insts s)
      fun _ => ¬(c.indexBuffer ∧ ∀ pass, s₀.SetupReady (c.environment pass) first)) :
    Triple (fun s => s = s₀) (withLastSegment c op)
      (fun s => s.Inv ∧ Follows s₀ (insts ++ [0]) s) Inv := by
  unfold withLastSegment
  unfold LastSegmentCondition at hcond
  cases hsegment : c.lastSegment with
  | notAllocated =>
      refine .attempt nofun fun _ s hs => ?_
      rw [hs]
      exact hinv
  | notGenerated =>
      rw [hsegment] at hcond
      exact hcond.elim
  | ready =>
    rw [hsegment] at hcond
    obtain ⟨henv, hbuffer, hxfb⟩ := hcond
    intro s hs
    have hdrawn := hop s hs
    cases hok : (op.run s).2 with
    | false =>
        rw [hok] at hdrawn
        exact absurd ⟨hbuffer, fun pass => ⟨henv pass, hxfb⟩⟩ hdrawn
    | true =>
        rw [hok] at hdrawn
        exact ⟨((hdrawn.1.first (Nat.zero_le _)).draw (Nat.zero_le _)).inv, hdrawn.2.draw 0⟩

theorem GenericCondition.congr {m : Nat} (h : s₀.GenericCondition c first count n)
    (hmax : max 1 m = max 1 n) : s₀.GenericCondition c first count m where
  __ := h
  offsets := h.offsets.congr (by omega)
  captures inst hpos hlt := h.captures inst hpos (by omega)
  secondPass hpasses := by
    obtain ⟨hn, hoffsets⟩ := h.secondPass hpasses
    exact ⟨by omega, hoffsets.congr (by omega)⟩

theorem IndexedCondition.congr {m : Nat} (h : s₀.IndexedCondition c n)
    (hmax : max 1 m = max 1 n) : s₀.IndexedCondition c m where
  __ := h
  offsets := h.offsets.congr (by omega)

theorem passInstances_congr {m n : Nat} (hmax : max 1 m = max 1 n) :
    passInstances m = passInstances n := by
  rw [passInstances, passInstances, hmax]

theorem genericInstances_congr {m n : Nat} (hmax : max 1 m = max 1 n) :
    s₀.genericInstances m = s₀.genericInstances n := by
  rw [genericInstances, genericInstances, passInstances_congr hmax]

theorem max_instanceCount (n : Nat) : max 1 (if n = 0 then 1 else n) = max 1 n := by
  split <;> omega

/-- The draws of a call that is right. -/
def Call (s₀ : Context) (insts : List Nat) (op : Fallible Context) : Prop :=
  Triple (fun s => s = s₀) op (fun s => s.Inv ∧ Follows s₀ insts s) Inv

theorem call_generic {m : Nat} (hinv : s₀.Inv) (hcond : s₀.GenericCondition c first count n)
    (hmax : max 1 m = max 1 n) :
    s₀.Call (s₀.genericInstances n) (xfbDraw (drawGenericArray c first count m)) := by
  rw [← genericInstances_congr hmax]
  exact (xfbDraw_triple hinv (hcond.congr hmax)).mono (fun s hs => hs)
    (fun s hs => ⟨hs.1.inv, hs.2⟩) fun s hs => hs.1

theorem call_indexed {m : Nat} {indexed : Bool} (hinv : s₀.Inv) (hcond : s₀.IndexedCondition c n)
    (hmax : max 1 m = max 1 n) :
    s₀.Call (passInstances n) (drawIndexBuffer c first count m indexed) := by
  rw [← passInstances_congr hmax]
  exact (drawIndexBuffer_triple hinv (hcond.congr hmax)).mono (fun s hs => hs)
    (fun s hs => ⟨hs.1.inv, hs.2⟩) fun s hs => hs.1

theorem drawArraysImpl_call {mode : PrimitiveMode} (hinv : s₀.Inv)
    (hcond : s₀.ArraysCondition c mode first count n) :
    s₀.Call (s₀.arraysInstances mode count n) (drawArraysImpl c mode first count n) := by
  apply Triple.ofState
  intro s hs
  subst hs
  have hcount := max_instanceCount n
  unfold arraysInstances
  by_cases hcull : (s.mCullAllPolygons && IsPolygonMode mode)
  · rw [if_pos hcull, if_pos hcull]
    apply Triple.done
    rintro t rfl
    exact ⟨hinv, .refl t⟩
  · rw [if_neg hcull, if_neg hcull]
    have hmode := hcond (by simpa using hcull)
    cases mode with
    | TriangleFan =>
      simp only [drawTriFanArrays] at hmode ⊢
      split
      · rw [if_pos ‹_›] at hmode
        exact call_generic hinv hmode hcount
      · rw [if_neg ‹_›] at hmode
        exact call_indexed hinv hmode hcount
    | LineLoop =>
      simp only [drawLineLoopArrays] at hmode ⊢
      by_cases hone : n ≤ 1
      · rw [if_pos (by split <;> omega), if_pos hone]
        rw [if_pos hone] at hmode
        have hzero : max 1 0 = max 1 n := by omega
        rw [← genericInstances_congr hzero]
        refine withLastSegment_triple hinv hmode.2 ?_
        exact (xfbDraw_triple hinv (hmode.1.congr hzero)).fails fun s hs hready => hs.2 rfl hready.2
      · rw [if_neg (by split <;> omega), if_neg hone]
        rw [if_neg hone] at hmode
        exact call_indexed hinv hmode hcount
    | _ => exact call_generic hinv hmode rfl

theorem drawElementsImpl_call {mode : PrimitiveMode} (hinv : s₀.Inv)
    (hcond : s₀.ElementsCondition c mode count n) :
    s₀.Call (s₀.elementsInstances mode count n) (drawElementsImpl c mode count n) := by
  apply Triple.ofState
  intro s hs
  subst hs
  have hcount := max_instanceCount n
  unfold elementsInstances
  by_cases hcull : (s.mCullAllPolygons && IsPolygonMode mode)
  · rw [if_pos hcull, if_pos hcull]
    apply Triple.done
    rintro t rfl
    exact ⟨hinv, .refl t⟩
  · rw [if_neg hcull, if_neg hcull]
    obtain ⟨hindexed, hsegment⟩ := hcond (by simpa using hcull)
    cases mode with
    | TriangleFan => exact call_indexed hinv hindexed hcount
    | LineLoop =>
      apply Triple.ofState
      intro t ht
      subst ht
      by_cases hloop : count ≥ 2 ∧ n ≤ 1 ∧ t.primitiveRestart = false
      · obtain ⟨hcount2, hone, hrestart⟩ := hloop
        have hzero : max 1 0 = max 1 n := by omega
        rw [if_pos ⟨hcount2, by split <;> omega, hrestart⟩]
        simp only [if_pos (show count ≥ 2 ∧ n ≤ 1 ∧ t.primitiveRestart = false from
          ⟨hcount2, hone, hrestart⟩)]
        refine @withLastSegment_triple _ _ 0 _ [0] hinv (hsegment rfl hcount2 hone hrestart) ?_
        exact (drawIndexBuffer_triple hinv (hindexed.congr hzero)).fails
          fun s hs hready => hs.2 rfl hready.1 (hready.2 0)
      · rw [if_neg (by
          rintro ⟨h1, h2, h3⟩
          exact hloop ⟨h1, by split at h2 <;> omega, h3⟩)]
        simp only [if_neg hloop]
        exact call_indexed hinv hindexed hcount
    | _ => exact call_indexed hinv hindexed rfl

theorem call_update {f : Context → Context} (hf : (f s₀).Inv) (hdrawn : (f s₀).drawn = s₀.drawn) :
    Triple (fun s => s = s₀) (update f)
      (fun s => s.Inv ∧ s.drawn.map SubDraw.inst = s₀.drawn.map SubDraw.inst ++ []) Inv := by
  apply Triple.update
  rintro s rfl
  exact ⟨hf, by rw [hdrawn, append_nil]⟩

end Calls

/-- Vertex arrays that are not dirty, or not bound while the pipeline is clean, stay as they are. -/
theorem Inv.syncDirtyAttrib (h : s.Inv) (v : Nat) (attrib : VertexAttribute)
    (converted : Option (BufferID × Nat)) :
    (s.setVertexArray (s.vertexArray.syncDirtyAttrib v attrib converted)).Inv where
  __ := h
  synced := forall_setVertexArray
    (VertexArray.synced_syncDirtyAttrib (h.synced _) v attrib converted) h.synced
  inlineMax := forall_setVertexArray (P := fun va => va.mInlineDataMaxSize ≤ _) (h.inlineMax _)
    h.inlineMax
  settled _ _ hclean := by
    simp [vertexArray_setVertexArray, VertexArray.syncDirtyAttrib] at hclean

theorem Inv.setPipelineDirty (h : s.Inv) (mVertexArray : Nat) (activeAttribs : Nat → Bool) :
    ({ s with mVertexArray := mVertexArray, activeAttribs := activeAttribs } :
      Context).invalidateRenderPipeline.Inv where
  __ := h
  settled _ hclean := absurd hclean (by simp [invalidateRenderPipeline])

theorem Inv.endEncoding (h : s.Inv) : ({ s with mRenderEncoder := .ended } : Context).Inv where
  __ := h
  instanceID hvalid := absurd hvalid (by simp [ended])
  settled hvalid := absurd hvalid (by simp [ended])

theorem inv_initial (allowInlineConstVertexData : Bool) :
    (initial allowInlineConstVertexData).Inv where
  synced _ _ _ henabled := absurd henabled (by
    simp [initial, VertexArray.reset, VertexAttribute.disabled])
  inlineMax _ := by
    simp only [initial, VertexArray.reset]
    split
    · exact le_rfl
    · exact Nat.zero_le _
  right _ hd := absurd hd not_mem_nil
  instanceID hvalid := absurd hvalid (by simp [initial, ended])
  settled hvalid := absurd hvalid (by simp [initial, ended])

/-- A call that meets the condition draws what it should, and leaves the invariant. -/
theorem operation_triple {a : Action} (h : s.Inv) (hcond : s.Condition a) :
    Triple (fun t => t = s) (operation a) (fun t => t.Inv ∧
        t.drawn.map SubDraw.inst = s.drawn.map SubDraw.inst ++ s.instancesOf a) Inv := by
  have hcall {insts : List Nat} {op : Fallible Context} (hop : s.Call insts op) :
      Triple (fun t => t = s) op
        (fun t => t.Inv ∧ t.drawn.map SubDraw.inst = s.drawn.map SubDraw.inst ++ insts) Inv :=
    hop.mono (fun t ht => ht) (fun t ht => ⟨ht.1, ht.2.drawn⟩) fun t ht => ht
  have hnone : Triple (fun t => t = s) done
      (fun t => t.Inv ∧ t.drawn.map SubDraw.inst = s.drawn.map SubDraw.inst ++ []) Inv := by
    apply Triple.done
    rintro t rfl
    exact ⟨h, by rw [append_nil]⟩
  cases a with
  | drawArrays mode first count c => exact hcall (drawArraysImpl_call h hcond)
  | drawArraysInstanced mode first count instances c =>
    simp only [operation, instancesOf]
    by_cases hzero : instances = 0
    · rw [if_pos hzero, if_pos hzero]
      exact hnone
    · rw [if_neg hzero, if_neg hzero]
      exact hcall (drawArraysImpl_call h (hcond hzero))
  | drawElements mode count c => exact hcall (drawElementsImpl_call h hcond)
  | drawElementsInstanced mode count instances c =>
    simp only [operation, instancesOf]
    by_cases hzero : instances = 0
    · rw [if_pos hzero, if_pos hzero]
      exact hnone
    · rw [if_neg hzero, if_neg hzero]
      exact hcall (drawElementsImpl_call h (hcond hzero))
  | syncDirtyAttrib v attrib converted =>
      exact call_update (h.syncDirtyAttrib v attrib converted) rfl
  | updateVertexArray vertexArray =>
      exact call_update (h.setPipelineDirty vertexArray s.activeAttribs) rfl
  | updateProgramExecutable activeAttribs =>
      exact call_update (h.setPipelineDirty s.mVertexArray activeAttribs) rfl
  | setRasterizerDiscard enabled =>
      exact call_update { h with } rfl
  | setTransformFeedback transformFeedback =>
      exact call_update { h with } rfl
  | updateCullMode cullAllPolygons =>
      exact call_update { h with } rfl
  | updatePrimitiveRestart enabled =>
      exact call_update { h with } rfl
  | invalidateState =>
      exact call_update (h.setDirtyBits nofun
        nofun) rfl
  | invalidateDriverUniforms =>
      exact call_update (h.setDirtyBits nofun
        fun hclean => hclean) rfl
  | invalidateRenderPipeline =>
      exact call_update (h.setDirtyBits (fun hclean => hclean)
        nofun) rfl
  | endEncoding => exact call_update h.endEncoding rfl

theorem step_exact {a : Action} (h : s.Inv) (hcond : s.Condition a) (hstep : step s a = some t) :
    s.Exact a ∧ t.Inv := by
  obtain rfl : ((operation a).run s).1 = t := by simpa [step] using hstep
  have htriple := operation_triple h hcond s rfl
  have hinv : ((operation a).run s).1.Inv := by
    split at htriple
    · exact htriple.1
    · exact htriple
  refine ⟨⟨fun hok => ?_, fun d hd => .inr (hinv.right d hd)⟩, hinv⟩
  rw [if_pos hok] at htriple
  exact htriple.2

/-! ## Emulated instancing -/

/-- In a run whose draws meet the condition, every instance of every draw runs with its own number
as the instance ID and with its own elements. -/
theorem run_exact_of_condition {allowInlineConstVertexData : Bool} {actions : List Action}
    (hrun : Run step Condition (initial allowInlineConstVertexData) actions t) :
    Run step Exact (initial allowInlineConstVertexData) actions t ∧ ∀ d ∈ t.drawn, d.Right := by
  have hinitial := inv_initial allowInlineConstVertexData
  have hstep : ∀ s a t, s.Inv → s.Condition a → step s a = some t → s.Exact a ∧ t.Inv :=
    fun _ _ _ hs hcond hstep => step_exact hs hcond hstep
  refine ⟨hrun.guard_of_invariant hstep hinitial, ?_⟩
  exact (hrun.invariant (fun s a t hs hcond h => (hstep s a t hs hcond h).2) hinitial).right

def smoothly : Circumstances where
  environment _ :=
    { indexRange := some (0, 4), memory := fun _ => ⟨some (9, 0), some 100⟩, texturesReady := true,
      newRenderPass := some true, queryStarts := true, programReady := true }
  indexBuffer := true
  lastSegment := .ready

def twoForEach : VertexAttribute :=
  { enabled := true, buffer := some 1, offset := 32, pointer := 0, stride := 16, divisor := 2,
    converts := false, pixelBytes := 16, convertedBytes := 16 }

def instancedDraws : List Action :=
  [.syncDirtyAttrib 0 twoForEach none,
   .updateProgramExecutable fun v => v == 0,
   .drawArraysInstanced .Triangles 0 3 5 smoothly,
   .invalidateDriverUniforms,
   .drawArrays .Triangles 0 3 smoothly]

theorem condition_instancedDraws {s : Context} {instances : Nat} (hresets : s.ResetsInstanceID)
    (hva : s.vertexArray.attribs = Function.update (fun _ => .disabled) 0 twoForEach ∧
      s.vertexArray.current 0 = ⟨some 1, 32, 16, none, 0⟩)
    (hactive : s.activeAttribs = fun v => v == 0) (hxfb : s.transformFeedback = none)
    (hinstances : instances ≤ 5) :
    s.GenericCondition smoothly 0 3 instances where
  resets := hresets
  offsets v _ hv _ := by
    obtain rfl : v = 0 := by simpa [hactive] using hv
    simp only [hva.1, hva.2, update_self, twoForEach]
    omega
  captures _ _ _ xfb hmem := by
    rw [hxfb] at hmem
    exact absurd hmem (Option.not_mem_none xfb)
  secondPass hpasses := by simp [passes, hxfb] at hpasses

theorem run_exact_of_condition_instancedDraws :
    ∃ t, (Run step Exact (initial true) instancedDraws t ∧ ∀ d ∈ t.drawn, d.Right) ∧
      t.drawn.map (fun d => (d.inst, d.instanceID, d.vertexBuffers 0)) =
        [(0, some 0, some (.buffer 1 32)), (1, some 1, some (.buffer 1 32)),
         (2, some 2, some (.buffer 1 48)), (3, some 3, some (.buffer 1 48)),
         (4, some 4, some (.buffer 1 64)), (0, some 0, some (.buffer 1 32))] := by
  refine ⟨_, @run_exact_of_condition _ true _
    (.cons trivial rfl (.cons trivial rfl (.cons (fun _ => fun _ => ?_) rfl
      (.cons trivial rfl (.cons (fun _ => ?_) rfl (.nil _)))))), by decide +kernel⟩
  · exact condition_instancedDraws (.inl rfl) ⟨rfl, rfl⟩ rfl rfl le_rfl
  · exact condition_instancedDraws (.inr (.inl rfl)) ⟨rfl, rfl⟩ rfl rfl (Nat.zero_le _)

def drawAfterInstances : List Action :=
  [.drawArraysInstanced .Triangles 0 3 2 smoothly, .drawArrays .Triangles 0 3 smoothly]

/-- The draw runs with the ID of the last instance of the draw before it. -/
theorem not_run_exact_drawAfterInstances :
    ¬∀ (allowInlineConstVertexData : Bool) (actions : List Action) (t : Context),
      Run step anyStep (initial allowInlineConstVertexData) actions t →
        Run step Exact (initial allowInlineConstVertexData) actions t := by
  intro hall
  obtain ⟨t, ht⟩ : ∃ t, exec step (initial true) drawAfterInstances = some t := ⟨_, rfl⟩
  have hrun := hall true drawAfterInstances t (.of_exec ht)
  have hright : ∀ d ∈ t.drawn, d.Right := by
    refine hrun.invariant (fun s a u (hs : ∀ d ∈ s.drawn, d.Right) hexact hstep d hd => ?_) ?_
    · obtain rfl : ((operation a).run s).1 = u := by simpa [step] using hstep
      rcases hexact.right d hd with hold | hright
      · exact hs d hold
      · exact hright
    · exact fun d hd => absurd hd not_mem_nil
  have hids : (t.drawn.map fun d => (d.inst, d.instanceID)) =
      [(0, some 0), (1, some 1), (0, some 1)] := by
    obtain rfl : _ = t := Option.some.inj ht
    decide +kernel
  have hsame : ∀ p ∈ t.drawn.map (fun d => (d.inst, d.instanceID)), p.2 = some p.1 := by
    intro p hp
    obtain ⟨d, hd, rfl⟩ := mem_map.mp hp
    exact (hright d hd).instanceID
  rw [hids] at hsame
  exact absurd (hsame (0, some 1) (by simp)) (by simp)

end Context

end MetalAngle.Metal.InstanceEmulation
