import MetalAngle.Gl.ValueTypes
import MetalAngle.Lib.SlotWrites

/-!
# The vertex descriptor of `VertexArrayMtl`

`setupDraw` writes the attribute and layout slots of the vertex descriptor, which is a part of the
key of the pipeline state, when the vertex array or the pipeline has changed.
-/

namespace MetalAngle.Metal.VertexArrayMtl

open MetalAngle.Gl.LinkedProgram SlotWrites

abbrev kMaxVertexAttribs : Nat := 16

abbrev kVboBindingIndexStart : Nat := 0

abbrev kDefaultAttribsBindingIndex : Nat := kVboBindingIndexStart + kMaxVertexAttribs

abbrev kDefaultAttributeSize : Nat := 4 * 4

abbrev MTLVertexFormat : Type := Nat

def MTLVertexFormatInvalid : MTLVertexFormat := 0

inductive MTLVertexStepFunction
  | invalid | constant | perVertex | perInstance

structure VertexAttributeDesc where
  format : BitVec 6
  offset : BitVec 8
  bufferIndex : BitVec 5
deriving DecidableEq

instance : Nontrivial VertexAttributeDesc := ⟨⟨0, 0, 0⟩, ⟨1, 0, 0⟩, by decide⟩

def VertexAttributeDesc.make (format : MTLVertexFormat) (offset bufferIndex : Nat) :
    VertexAttributeDesc :=
  ⟨BitVec.ofNat 6 format, BitVec.ofNat 8 offset, BitVec.ofNat 5 bufferIndex⟩

structure VertexBufferLayoutDesc where
  stepRate : UInt32
  stride : UInt32
  stepFunction : MTLVertexStepFunction

structure VertexDesc where
  attributes : Nat → VertexAttributeDesc
  layouts : Nat → VertexBufferLayoutDesc
  numAttribs : Nat
  numBufferLayouts : Nat

/-- What `setupDraw` reads of an attribute of the vertex array. -/
structure VertexAttribute where
  enabled : Bool
  bindingIndex : Nat

/-- `VertexArrayMtl`.  Of the current buffers and of the inline data it only matters whether there
is one. -/
structure VertexArray where
  attribs : Nat → VertexAttribute
  /-- The divisors of the bindings. -/
  divisors : Nat → UInt32
  mCurrentArrayBuffers : Nat → Bool
  mCurrentArrayInlineDataPointers : Nat → Bool
  mCurrentArrayBufferStrides : Nat → UInt32
  mCurrentArrayBufferFormats : Nat → MTLVertexFormat
  mDefaultFloatVertexFormat : MTLVertexFormat
  mDefaultIntVertexFormat : MTLVertexFormat
  mDefaultUIntVertexFormat : MTLVertexFormat
  mEmulatedInstanceAttribs : List Nat
  mVertexArrayDirty : Bool

/-- What `setupDraw` reads of the program and of the display. -/
structure DrawState where
  programState : LinkedInterface
  hasBaseVertexInstancedDraw : Bool

def SetDefaultVertexBufferLayout : VertexBufferLayoutDesc := ⟨0, 0, .invalid⟩

namespace VertexArray

variable (a : VertexArray)

def getVertexAttribFormatAndArraySize (var : ShaderVariable) : MTLVertexFormat × UInt32 :=
  let arraySize := var.arraySizes.foldl (· * ·) 1 * UInt32.ofNat (VariableRegisterCount var.type)
  let format :=
    match VariableComponentType var.type with
    | some .int => a.mDefaultIntVertexFormat
    | some .unsignedInt => a.mDefaultUIntVertexFormat
    | _ => a.mDefaultFloatVertexFormat
  (format, arraySize)

def attribEnabled (v : Nat) : Bool :=
  (a.attribs v).enabled && (a.mCurrentArrayBuffers v || a.mCurrentArrayInlineDataPointers v)

end VertexArray

/-- The program input whose location is exactly `v`. -/
def DrawState.findInput (d : DrawState) (v : Nat) : Option ProgramInput :=
  d.programState.mProgramInputs.find? fun sv => (sv.location % 2 ^ 32).toNat = v

/-- The slots behind the default attribute at `v`. -/
def slotEnd (v : Nat) (arraySize : UInt32) : Nat := (UInt32.ofNat v + arraySize).toNat

variable (d : DrawState) (a : VertexArray)

def setupAttributeSlots (attributes : Nat → VertexAttributeDesc) (v : Nat) :
    Nat → VertexAttributeDesc :=
  if !d.programState.mActiveAttribLocationsMask.getLsbD v then
    Function.update attributes v (.make MTLVertexFormatInvalid 0 0)
  else if !a.attribEnabled v then
    match d.findInput v with
    | none => attributes
    | some attribInfo =>
      let (format, arraySize) :=
        a.getVertexAttribFormatAndArraySize attribInfo.toShaderVariable
      (List.range' v (slotEnd v arraySize - v)).foldl
        (fun attributes vaIdx => Function.update attributes vaIdx
          (.make format (vaIdx * kDefaultAttributeSize) kDefaultAttribsBindingIndex))
        attributes
  else
    Function.update attributes v
      (.make (a.mCurrentArrayBufferFormats v) 0 (kVboBindingIndexStart + v))

def setupLayoutSlots (layouts : Nat → VertexBufferLayoutDesc) (v : Nat) :
    Nat → VertexBufferLayoutDesc :=
  if !d.programState.mActiveAttribLocationsMask.getLsbD v || !a.attribEnabled v then layouts
  else
    let bufferIdx := kVboBindingIndexStart + v
    let divisor := a.divisors (a.attribs v).bindingIndex
    let stride := a.mCurrentArrayBufferStrides v
    if divisor = 0 then Function.update layouts bufferIdx ⟨1, stride, .perVertex⟩
    else if d.hasBaseVertexInstancedDraw then
      Function.update layouts bufferIdx ⟨divisor, stride, .perInstance⟩
    else Function.update layouts bufferIdx ⟨0, stride, .constant⟩

def emulatesInstances (v : Nat) : Bool :=
  d.programState.mActiveAttribLocationsMask.getLsbD v && a.attribEnabled v &&
    a.divisors (a.attribs v).bindingIndex != 0 && !d.hasBaseVertexInstancedDraw

/-- `setupDraw`: the vertex array, `vertexDescChanged` and the descriptor, without the calls of the
encoder. -/
def setupDraw (vertexDescChanged : Bool) (vertexDescOut : VertexDesc) :
    VertexArray × Bool × VertexDesc :=
  let dirty := a.mVertexArrayDirty || vertexDescChanged
  if dirty then
    let layouts := fun b =>
      if b < kMaxVertexAttribs then SetDefaultVertexBufferLayout else vertexDescOut.layouts b
    let slots := List.range kMaxVertexAttribs
    ({ a with
        mVertexArrayDirty := false
        mEmulatedInstanceAttribs := slots.filter (emulatesInstances d a) },
      true,
      { attributes := slots.foldl (setupAttributeSlots d a) vertexDescOut.attributes
        layouts := slots.foldl (setupLayoutSlots d a) layouts
        numAttribs := kMaxVertexAttribs
        numBufferLayouts := kMaxVertexAttribs })
  else (a, false, vertexDescOut)

/-! ## Which slots a round writes -/

/-- The default attribute at `u` fills the slot `v`. -/
def Fills (u v : Nat) : Prop :=
  d.programState.mActiveAttribLocationsMask.getLsbD u ∧ a.attribEnabled u = false ∧
    ∃ attribInfo, d.findInput u = some attribInfo ∧ u ≤ v ∧
      v < slotEnd u (a.getVertexAttribFormatAndArraySize attribInfo.toShaderVariable).2

/-- The slot of an active location whose attribute is not enabled and which no default attribute
fills: a later column of a matrix whose first column is enabled. -/
def Unfilled (v : Nat) : Prop :=
  d.programState.mActiveAttribLocationsMask.getLsbD v ∧ a.attribEnabled v = false ∧
    ∀ u < kMaxVertexAttribs, ¬ Fills d a u v

/-- The value that the round at `v` writes in an attribute slot. -/
def writtenAttribute (v slot : Nat) : Option VertexAttributeDesc :=
  if !d.programState.mActiveAttribLocationsMask.getLsbD v then
    if slot = v then some (.make MTLVertexFormatInvalid 0 0) else none
  else if !a.attribEnabled v then
    (d.findInput v).bind fun attribInfo =>
      let (format, arraySize) :=
        a.getVertexAttribFormatAndArraySize attribInfo.toShaderVariable
      if v ≤ slot ∧ slot < slotEnd v arraySize then
        some (.make format (slot * kDefaultAttributeSize) kDefaultAttribsBindingIndex)
      else none
  else if slot = v then
    some (.make (a.mCurrentArrayBufferFormats v) 0 (kVboBindingIndexStart + v))
  else none

/-- The value that the round at `v` writes in a layout slot. -/
def writtenLayout (v slot : Nat) : Option VertexBufferLayoutDesc :=
  if !d.programState.mActiveAttribLocationsMask.getLsbD v || !a.attribEnabled v then none
  else
    let divisor := a.divisors (a.attribs v).bindingIndex
    let stride := a.mCurrentArrayBufferStrides v
    if divisor = 0 then
      if slot = kVboBindingIndexStart + v then some ⟨1, stride, .perVertex⟩ else none
    else if d.hasBaseVertexInstancedDraw then
      if slot = kVboBindingIndexStart + v then some ⟨divisor, stride, .perInstance⟩ else none
    else if slot = kVboBindingIndexStart + v then some ⟨0, stride, .constant⟩ else none

variable {d a}

theorem update_eq_getD {Value : Type} (table : Nat → Value) (v slot : Nat) (value : Value) :
    Function.update table v value slot =
      (if slot = v then some value else none).getD (table slot) := by
  by_cases hslot : slot = v
  · rw [hslot, Function.update_self, if_pos rfl]
    rfl
  · rw [Function.update_of_ne hslot, if_neg hslot]
    rfl

theorem setupAttributeSlots_eq (attributes : Nat → VertexAttributeDesc) (v : Nat) :
    setupAttributeSlots d a attributes v =
      SlotWrites.write (writtenAttribute d a) attributes v := by
  funext slot
  unfold setupAttributeSlots write writtenAttribute
  split
  case isTrue => exact update_eq_getD attributes v slot _
  case isFalse =>
    split
    case isTrue =>
      cases d.findInput v with
      | none => rfl
      | some attribInfo =>
        dsimp only [Option.bind_some]
        rw [foldl_update_range']
        by_cases hslot : v ≤ slot ∧
            slot < slotEnd v (a.getVertexAttribFormatAndArraySize attribInfo.toShaderVariable).2
        · rw [if_pos hslot, if_pos (by omega)]
          rfl
        · rw [if_neg hslot, if_neg (by omega)]
          rfl
    case isFalse => exact update_eq_getD attributes v slot _

theorem setupLayoutSlots_eq (layouts : Nat → VertexBufferLayoutDesc) (v : Nat) :
    setupLayoutSlots d a layouts v = SlotWrites.write (writtenLayout d a) layouts v := by
  funext slot
  unfold setupLayoutSlots write writtenLayout
  split
  case isTrue => rfl
  case isFalse =>
    dsimp only
    split
    case isTrue => exact update_eq_getD layouts _ slot _
    case isFalse =>
      split
      case isTrue => exact update_eq_getD layouts _ slot _
      case isFalse => exact update_eq_getD layouts _ slot _

theorem foldl_setupAttributeSlots (attributes : Nat → VertexAttributeDesc) (slots : List Nat) :
    slots.foldl (setupAttributeSlots d a) attributes =
      SlotWrites.after (writtenAttribute d a) slots attributes := by
  have hsame : setupAttributeSlots d a = write (writtenAttribute d a) :=
    funext fun attributes => funext fun v => setupAttributeSlots_eq attributes v
  rw [hsame, after]

theorem foldl_setupLayoutSlots (layouts : Nat → VertexBufferLayoutDesc) (slots : List Nat) :
    slots.foldl (setupLayoutSlots d a) layouts =
      SlotWrites.after (writtenLayout d a) slots layouts := by
  have hsame : setupLayoutSlots d a = write (writtenLayout d a) :=
    funext fun layouts => funext fun v => setupLayoutSlots_eq layouts v
  rw [hsame, after]

theorem exists_writtenAttribute_iff {v : Nat} (hv : v < kMaxVertexAttribs) :
    (∃ u ∈ List.range kMaxVertexAttribs, (writtenAttribute d a u v).isSome) ↔
      ¬ Unfilled d a v := by
  constructor
  · rintro ⟨u, hu, hwritten⟩ ⟨hactive, hdisabled, hunfilled⟩
    unfold writtenAttribute at hwritten
    split at hwritten
    case isTrue hinactive =>
      have hslot : v = u := by
        by_contra hne
        rw [if_neg hne] at hwritten
        contradiction
      rw [← hslot, hactive] at hinactive
      contradiction
    case isFalse huactive =>
      split at hwritten
      case isTrue hudisabled =>
        simp only [Bool.not_eq_true', Bool.not_eq_false] at huactive hudisabled
        apply hunfilled u (List.mem_range.mp hu)
        refine ⟨huactive, hudisabled, ?_⟩
        cases hinput : d.findInput u with
        | none =>
            rw [hinput] at hwritten
            contradiction
        | some attribInfo =>
            rw [hinput, Option.bind_some] at hwritten
            dsimp only at hwritten
            by_contra hrange
            rw [if_neg fun h => hrange ⟨attribInfo, rfl, h⟩] at hwritten
            contradiction
      case isFalse henabled =>
        have hslot : v = u := by
          by_contra hne
          rw [if_neg hne] at hwritten
          contradiction
        rw [← hslot, hdisabled] at henabled
        exact henabled rfl
  · intro hfilled
    cases hactive : d.programState.mActiveAttribLocationsMask.getLsbD v with
    | false =>
        refine ⟨v, List.mem_range.mpr hv, ?_⟩
        unfold writtenAttribute
        rw [hactive, if_pos rfl, if_pos rfl]
        rfl
    | true =>
      cases henabled : a.attribEnabled v with
      | true =>
          refine ⟨v, List.mem_range.mpr hv, ?_⟩
          unfold writtenAttribute
          rw [hactive, henabled]
          simp
      | false =>
        have hexists : ∃ u, u < kMaxVertexAttribs ∧ Fills d a u v := by
          by_contra hnone
          exact hfilled ⟨hactive, henabled, fun u hu hfills => hnone ⟨u, hu, hfills⟩⟩
        obtain ⟨u, hu, huactive, hudisabled, attribInfo, hinput, hrange⟩ := hexists
        refine ⟨u, List.mem_range.mpr hu, ?_⟩
        unfold writtenAttribute
        rw [huactive, hudisabled, hinput]
        dsimp only [Option.bind_some]
        have hactive' : ¬ (!true) := Bool.false_ne_true
        have hdisabled' : (!false) := rfl
        rw [if_neg hactive', if_pos hdisabled', if_pos hrange]
        rfl

/-! ## Canonical descriptors -/

/-- The descriptors have the same slots. -/
structure SlotsAgree (desc desc' : VertexDesc) : Prop where
  attributes : ∀ v < kMaxVertexAttribs, desc.attributes v = desc'.attributes v
  layouts : ∀ v < kMaxVertexAttribs, desc.layouts v = desc'.layouts v
  numAttribs : desc.numAttribs = desc'.numAttribs
  numBufferLayouts : desc.numBufferLayouts = desc'.numBufferLayouts

variable (d a) in
/-- Whatever the descriptor was before, the one that `setupDraw` returns as changed has the same
slots: it is a function of the vertex array, the program and the display. -/
def Canonical (vertexDescChanged : Bool) : Prop :=
  ∀ before before', (setupDraw d a vertexDescChanged before).2.1 →
    SlotsAgree (setupDraw d a vertexDescChanged before).2.2
      (setupDraw d a vertexDescChanged before').2.2

theorem setupDraw_clean {vertexDescChanged : Bool}
    (h : (a.mVertexArrayDirty || vertexDescChanged) = false) (before : VertexDesc) :
    setupDraw d a vertexDescChanged before = (a, false, before) := by
  unfold setupDraw
  rw [h]
  rfl

theorem setupDraw_dirty {vertexDescChanged : Bool}
    (h : (a.mVertexArrayDirty || vertexDescChanged)) (before : VertexDesc) :
    (setupDraw d a vertexDescChanged before).2 = (true,
      { attributes := SlotWrites.after (writtenAttribute d a) (List.range kMaxVertexAttribs)
          before.attributes
        layouts := SlotWrites.after (writtenLayout d a) (List.range kMaxVertexAttribs)
          fun b => if b < kMaxVertexAttribs then SetDefaultVertexBufferLayout else before.layouts b
        numAttribs := kMaxVertexAttribs
        numBufferLayouts := kMaxVertexAttribs }) := by
  rw [← foldl_setupAttributeSlots, ← foldl_setupLayoutSlots]
  unfold setupDraw
  rw [h]
  rfl

/-- The descriptor that is returned is canonical exactly when no slot is unfilled. -/
theorem canonical_iff (vertexDescChanged : Bool) :
    Canonical d a vertexDescChanged ↔ ((a.mVertexArrayDirty || vertexDescChanged) = true →
        ∀ v < kMaxVertexAttribs, ¬ Unfilled d a v) := by
  cases hdirty : a.mVertexArrayDirty || vertexDescChanged with
  | false =>
      refine iff_of_true (fun before before' hchanged => ?_) fun h => absurd h Bool.false_ne_true
      rw [setupDraw_clean hdirty] at hchanged
      contradiction
  | true =>
    have hindependent : ∀ v < kMaxVertexAttribs, ¬ Unfilled d a v ↔
        ∀ attributes attributes' : Nat → VertexAttributeDesc,
          after (writtenAttribute d a) (List.range kMaxVertexAttribs) attributes v =
            after (writtenAttribute d a) (List.range kMaxVertexAttribs)
              attributes' v :=
      fun v hv => (exists_writtenAttribute_iff hv).symm.trans independent_iff.symm
    constructor
    · intro hcanonical _ v hv
      refine (hindependent v hv).mpr fun attributes attributes' => ?_
      have hagree := hcanonical ⟨attributes, fun _ => SetDefaultVertexBufferLayout, 0, 0⟩
        ⟨attributes', fun _ => SetDefaultVertexBufferLayout, 0, 0⟩
      rw [setupDraw_dirty hdirty, setupDraw_dirty hdirty] at hagree
      exact (hagree rfl).attributes v hv
    · intro hfilled before before' _
      rw [setupDraw_dirty hdirty, setupDraw_dirty hdirty]
      refine ⟨fun v hv => (hindependent v hv).mp (hfilled rfl v hv) _ _, fun v hv => ?_, rfl, rfl⟩
      apply after_congr
      rw [if_pos hv, if_pos hv]

/-- `in mat2 m` at location 0. -/
def mat2Program : DrawState where
  programState := { LinkedInterface.cleared with
    mProgramInputs := [{
      type := 0x8B5A
      precision := 0
      name := [0x6D]
      mappedName := [0x6D]
      arraySizes := []
      staticUse := true
      active := true
      structName := []
      flattenedOffsetInParentArrays := -1
      location := 0 }]
    mActiveAttribLocationsMask := 3#16 }
  hasBaseVertexInstancedDraw := true

def firstColumnArray : VertexArray where
  attribs v := ⟨v == 0, v⟩
  divisors _ := 0
  mCurrentArrayBuffers v := v == 0
  mCurrentArrayInlineDataPointers _ := false
  mCurrentArrayBufferStrides _ := 8
  mCurrentArrayBufferFormats _ := 29
  mDefaultFloatVertexFormat := 31
  mDefaultIntVertexFormat := 35
  mDefaultUIntVertexFormat := 39
  mEmulatedInstanceAttribs := []
  mVertexArrayDirty := true

/-- The slot of the second column keeps what an earlier draw has left there. -/
theorem not_canonical_firstColumnArray :
    let before (desc : VertexAttributeDesc) : VertexDesc :=
      ⟨fun _ => desc, fun _ => SetDefaultVertexBufferLayout, 16, 16⟩
    let after (desc : VertexAttributeDesc) :=
      (setupDraw mat2Program firstColumnArray false (before desc)).2
    (∀ desc, (after desc).1 = true ∧ (after desc).2.attributes 1 = desc) ∧
      Unfilled mat2Program firstColumnArray 1 ∧
      ¬ Canonical mat2Program firstColumnArray false := by
  intro before after
  have hslot : ∀ desc, (after desc).1 = true ∧ (after desc).2.attributes 1 = desc :=
    fun desc => ⟨rfl, rfl⟩
  refine ⟨hslot, ⟨by decide, by decide, ?_⟩, fun h => ?_⟩
  · rintro u - ⟨-, hdisabled, attribInfo, hinput, -⟩
    have hlocation := List.find?_some hinput
    have hfirst := List.mem_of_find?_eq_some hinput
    rw [List.mem_singleton.mp hfirst] at hlocation
    have hzero : 0 = u := of_decide_eq_true hlocation
    rw [← hzero] at hdisabled
    exact absurd hdisabled (by decide)
  · have hsame := (h (before ⟨0, 0, 0⟩) (before ⟨1, 0, 0⟩) (hslot _).1).attributes 1 (by decide)
    have hsame' : (⟨0, 0, 0⟩ : VertexAttributeDesc) = ⟨1, 0, 0⟩ :=
      (hslot _).2.symm.trans (hsame.trans (hslot _).2)
    exact absurd hsame' (by decide)

end MetalAngle.Metal.VertexArrayMtl
