import Mathlib.Data.List.Induction
import MetalAngle.Gl.AttributeLocations

/-!
# Masks of the active attributes

After the locations have been assigned, `linkAttributes` drops the inactive attributes and notes the
registers of the others in the masks of the program.
-/

namespace MetalAngle.Gl.LinkedProgram

open Linking List UInt32

def kComponentMasks : Option ComponentType → BitVec 32
  | some .float => 0x10001#32
  | some .int => 0x00001#32
  | some .unsignedInt => 0x10000#32
  | none => 0#32

def SetComponentTypeMask (type : Option ComponentType) (index : Nat) (mask : BitVec 32) :
    BitVec 32 :=
  (mask &&& ~~~(0x10001#32 <<< index)) ||| (kComponentMasks type <<< index)

/-- The type whose mask the bits `index` and `index + 16` are. -/
def GetComponentTypeMask (mask : BitVec 32) (index : Nat) : Option ComponentType :=
  match mask.getLsbD index, mask.getLsbD (index + 16) with
  | true, true => some .float
  | true, false => some .int
  | false, true => some .unsignedInt
  | false, false => none

/-- The name starts with `gl_`. -/
def ShaderVariable.isBuiltIn (var : ShaderVariable) : Bool :=
  4 ≤ var.name.length && var.name.take 3 = [0x67, 0x6C, 0x5F]

def noteRegister (input : ProgramInput) (p : LinkedInterface) (location : Nat) : LinkedInterface :=
  let p := { p with
    mActiveAttribLocationsMask := p.mActiveAttribLocationsMask ||| 1#16 <<< location
    mMaxActiveAttribLocation :=
      max p.mMaxActiveAttribLocation (UInt32.ofNat location + 1) }
  if !input.isBuiltIn then
    { p with
      mAttributesTypeMask :=
        SetComponentTypeMask (VariableComponentType input.type) location p.mAttributesTypeMask
      mAttributesMask := p.mAttributesMask ||| 1#16 <<< location }
  else p

def noteInput (p : LinkedInterface) (input : ProgramInput) : LinkedInterface :=
  (List.range (VariableRegisterCount input.type)).foldl
    (fun p r => noteRegister input p (input.location.toNat + r)) p

def VertexShader.declaredAttributes (shader : VertexShader) : List ProgramInput :=
  if shader.shaderVersion ≥ 300 then shader.allAttributes else shader.activeAttributes

def linkAttributes (context : AttributeContext) (bindings : ProgramBindings)
    (vertexShader : Option VertexShader) (p : LinkedInterface) :
    Except AttributeError LinkedInterface :=
  match vertexShader with
  | none => .ok p
  | some shader => do
    let inputs ← assignLocations context shader.shaderVersion bindings shader.declaredAttributes
    let inputs := if shader.shaderVersion ≥ 300 then inputs.filter (·.active) else inputs
    .ok (inputs.foldl noteInput { p with mProgramInputs := inputs })

/-! ## Bits of the type mask -/

theorem getLsbD_kComponentMasks (type : Option ComponentType) {i : Nat} (hlow : i ≠ 0)
    (hhigh : i ≠ 16) : (kComponentMasks type).getLsbD i = false := by
  by_cases hi : i < 32
  · have hbits : ∀ i < 32, i ≠ 0 → i ≠ 16 →
        ∀ type ∈ [none, some .float, some .int, some .unsignedInt],
          (kComponentMasks type).getLsbD i = false := by decide
    apply hbits i hi hlow hhigh
    match type with
    | none => decide
    | some .float => decide
    | some .int => decide
    | some .unsignedInt => decide
  · exact BitVec.getLsbD_of_ge _ _ (Nat.le_of_not_lt hi)

variable {index i : Nat}

theorem getLsbD_shifted_low (type : Option ComponentType) (hi : i < 16) :
    (kComponentMasks type <<< index).getLsbD i =
      (decide (i = index) && (kComponentMasks type).getLsbD 0) := by
  rw [BitVec.getLsbD_shiftLeft]
  rcases Nat.lt_trichotomy i index with hlt | heq | hgt
  · simp [hlt, Nat.ne_of_lt hlt]
  · have hword : index < 32 := by omega
    simp [heq, hword]
  · rw [getLsbD_kComponentMasks type (by omega) (by omega), Bool.and_false,
      decide_eq_false (by omega), Bool.false_and]

theorem getLsbD_shifted_high (type : Option ComponentType) (hindex : index < 16) (hi : i < 16) :
    (kComponentMasks type <<< index).getLsbD (i + 16) =
      (decide (i = index) && (kComponentMasks type).getLsbD 16) := by
  rw [BitVec.getLsbD_shiftLeft]
  by_cases heq : i = index
  · have hdiff : index + 16 - index = 16 := by omega
    have hword : index + 16 < 32 := by omega
    simp [heq, hdiff, hword]
  · rw [getLsbD_kComponentMasks type (by omega) (by omega), Bool.and_false,
      decide_eq_false heq, Bool.false_and]

theorem getComponentTypeMask_set (hindex : index < 16) (hi : i < 16)
    (type : Option ComponentType) (mask : BitVec 32) :
    GetComponentTypeMask (SetComponentTypeMask type index mask) i =
      if i = index then type else GetComponentTypeMask mask i := by
  have hfloat : kComponentMasks (some .float) = 0x10001#32 := rfl
  have hword : i < 32 ∧ i + 16 < 32 := by omega
  unfold GetComponentTypeMask SetComponentTypeMask
  rw [← hfloat]
  simp only [BitVec.getLsbD_or, BitVec.getLsbD_and, BitVec.getLsbD_not,
    getLsbD_shifted_low _ hi, getLsbD_shifted_high _ hindex hi, hword.1, hword.2, decide_true,
    Bool.true_and]
  by_cases heq : i = index
  · rw [if_pos heq]
    match type with
    | none => simp [heq, kComponentMasks]
    | some .float => simp [heq, kComponentMasks]
    | some .int => simp [heq, kComponentMasks]
    | some .unsignedInt => simp [heq, kComponentMasks]
  · rw [if_neg heq]
    simp [heq]

/-! ## What is noted of one attribute -/

/-- The registers of `S` have been noted for an attribute. -/
structure Noted (input : ProgramInput) (S : Nat → Prop) (p q : LinkedInterface) : Prop where
  active : ∀ r, q.mActiveAttribLocationsMask.getLsbD r ↔
    p.mActiveAttribLocationsMask.getLsbD r ∨ r < 16 ∧ S r
  attributes : ∀ r, q.mAttributesMask.getLsbD r ↔
    p.mAttributesMask.getLsbD r ∨ r < 16 ∧ S r ∧ input.isBuiltIn = false
  largest : ∀ n, q.mMaxActiveAttribLocation.toNat ≤ n ↔
    p.mMaxActiveAttribLocation.toNat ≤ n ∧ ∀ r, S r → r < n
  types : (∀ r, S r → r < 16) → ∀ r < 16,
    (S r ∧ input.isBuiltIn = false →
      GetComponentTypeMask q.mAttributesTypeMask r = VariableComponentType input.type) ∧
    (¬ (S r ∧ input.isBuiltIn = false) → GetComponentTypeMask q.mAttributesTypeMask r =
      GetComponentTypeMask p.mAttributesTypeMask r)
  inputs : q.mProgramInputs = p.mProgramInputs

namespace Noted

variable {input : ProgramInput} {S T : Nat → Prop} {p mid q : LinkedInterface}

theorem congr (h : Noted input S p q) (hsame : ∀ r, T r ↔ S r) : Noted input T p q := by
  have heq : T = S := funext fun r => propext (hsame r)
  rwa [heq]

theorem refl (hempty : ∀ r, ¬ S r) : Noted input S p p where
  active := fun r => (or_iff_left fun h => hempty r h.2).symm
  attributes := fun r => (or_iff_left fun h => hempty r h.2.1).symm
  largest := fun _ => (and_iff_left fun r hr => absurd hr (hempty r)).symm
  types := fun _ r _ => ⟨fun h => absurd h.1 (hempty r), fun _ => rfl⟩
  inputs := rfl

theorem trans (h : Noted input S p mid) (h' : Noted input T mid q) :
    Noted input (fun r => S r ∨ T r) p q where
  active := fun r => by rw [h'.active, h.active, or_assoc, and_or_left]
  attributes := fun r => by
    rw [h'.attributes, h.attributes, or_assoc, or_and_right, and_or_left]
  largest := fun n => by rw [h'.largest, h.largest, and_assoc, ← forall_and]; simp only [or_imp]
  types := fun hlt r hr => by
    have hfirst := h.types (fun r hS => hlt r (.inl hS)) r hr
    have hsecond := h'.types (fun r hT => hlt r (.inr hT)) r hr
    constructor
    · rintro ⟨hS | hT, hnamed⟩
      · by_cases hT : T r
        · exact hsecond.1 ⟨hT, hnamed⟩
        · exact (hsecond.2 fun hboth => hT hboth.1).trans (hfirst.1 ⟨hS, hnamed⟩)
      · exact hsecond.1 ⟨hT, hnamed⟩
    · intro hnone
      exact (hsecond.2 fun hT => hnone ⟨.inr hT.1, hT.2⟩).trans
        (hfirst.2 fun hS => hnone ⟨.inl hS.1, hS.2⟩)
  inputs := h'.inputs.trans h.inputs

end Noted

theorem toNat_max_le_iff (a : UInt32) {location : Nat} (hlocation : location < 2 ^ 31) (n : Nat) :
    (max a (UInt32.ofNat location + 1)).toNat ≤ n ↔ a.toNat ≤ n ∧ location < n := by
  have hnext : (ofNat location + 1).toNat = location + 1 := by
    rw [UInt32.toNat_add, UInt32.toNat_ofNat_of_lt' (by show location < 2 ^ 32; omega)]
    exact Nat.mod_eq_of_lt (by show location + 1 < 2 ^ 32; omega)
  by_cases hle : a ≤ ofNat location + 1
  · have hmax : max a (ofNat location + 1) = ofNat location + 1 := if_pos hle
    have hnat := le_iff_toNat_le.mp hle
    rw [hmax, hnext]
    omega
  · have hmax : max a (ofNat location + 1) = a := if_neg hle
    have hnat := mt le_iff_toNat_le.mpr hle
    rw [hmax]
    omega

theorem noteRegister_noted (input : ProgramInput) (p : LinkedInterface) {location : Nat}
    (hlocation : location < 2 ^ 31) :
    Noted input (· = location) p (noteRegister input p location) := by
  have hlargest : ∀ n, (max p.mMaxActiveAttribLocation (ofNat location + 1)).toNat ≤ n ↔
      p.mMaxActiveAttribLocation.toNat ≤ n ∧ ∀ r, r = location → r < n := fun n => by
    rw [toNat_max_le_iff _ hlocation, forall_eq]
  unfold noteRegister
  cases hbuiltIn : input.isBuiltIn with
  | true =>
      refine ⟨BitRange.getLsbD_or_bit location, fun r => ?_, hlargest, fun _ r _ => ?_, rfl⟩
      · exact (or_iff_left fun h => Bool.noConfusion (hbuiltIn.symm.trans h.2.2)).symm
      · exact ⟨fun h => Bool.noConfusion (hbuiltIn.symm.trans h.2), fun _ => rfl⟩
  | false =>
    refine ⟨BitRange.getLsbD_or_bit location, fun r => ?_, hlargest, fun hlt r hr => ?_, rfl⟩
    · refine (BitRange.getLsbD_or_bit location r).trans (or_congr_right ?_)
      rw [and_iff_left hbuiltIn]
    · have hset := getComponentTypeMask_set (hlt location rfl) hr
        (VariableComponentType input.type) p.mAttributesTypeMask
      refine ⟨fun h => hset.trans (if_pos h.1), fun h => hset.trans (if_neg fun heq => ?_)⟩
      exact h ⟨heq, hbuiltIn⟩

theorem noteInput_noted (p : LinkedInterface) {input : ProgramInput}
    (hlocation : input.location.toNat + VariableRegisterCount input.type ≤ 2 ^ 31) :
    Noted input input.Covers p (noteInput p input) := by
  have hrange : ∀ regs, input.location.toNat + regs ≤ 2 ^ 31 →
      Noted input (fun r => input.location.toNat ≤ r ∧ r < input.location.toNat + regs) p
        ((range regs).foldl
          (fun p r => noteRegister input p (input.location.toNat + r)) p) := by
    intro regs
    induction regs with
    | zero => exact fun _ => .refl fun r hr => by omega
    | succ regs ih =>
        intro hregs
        rw [range_succ, foldl_append]
        refine ((ih (by omega)).trans (noteRegister_noted input _ ?_)).congr fun r => by omega
        omega
  exact hrange _ hlocation

/-! ## What is noted of all attributes -/

/-- The component type of the last attribute, other than the built-in ones, that covers the
register. -/
def typeAt (inputs : List ProgramInput) (register : Nat) : Option ComponentType :=
  (inputs.filter fun input => !input.isBuiltIn && decide (input.Covers register)).getLast?.bind
    fun input => VariableComponentType input.type

/-- The masks describe the registers of the attributes.  They have 16 bits, and the type mask also
twice 16, for which all registers have to be below 16. -/
structure Described (inputs : List ProgramInput) (q : LinkedInterface) : Prop where
  active : ∀ r, q.mActiveAttribLocationsMask.getLsbD r ↔
    r < MAX_VERTEX_ATTRIBS ∧ ∃ input ∈ inputs, input.Covers r
  attributes : ∀ r, q.mAttributesMask.getLsbD r ↔
    r < MAX_VERTEX_ATTRIBS ∧ ∃ input ∈ inputs, input.Covers r ∧ input.isBuiltIn = false
  largest : ∀ n, q.mMaxActiveAttribLocation.toNat ≤ n ↔
    ∀ input ∈ inputs, ∀ r, input.Covers r → r < n
  types : (∀ input ∈ inputs, ∀ r, input.Covers r → r < MAX_VERTEX_ATTRIBS) →
    ∀ r < MAX_VERTEX_ATTRIBS, GetComponentTypeMask q.mAttributesTypeMask r = typeAt inputs r

/-- What `unlink` leaves of the masks. -/
structure MasksCleared (p : LinkedInterface) : Prop where
  active : p.mActiveAttribLocationsMask = 0#16
  attributes : p.mAttributesMask = 0#16
  largest : p.mMaxActiveAttribLocation = 0
  types : p.mAttributesTypeMask = 0#32

theorem described_nil {p : LinkedInterface} (h : MasksCleared p) : Described [] p where
  active := fun r => by
    rw [h.active, BitVec.getLsbD_zero]
    simp
  attributes := fun r => by
    rw [h.attributes, BitVec.getLsbD_zero]
    simp
  largest := fun n => by
    rw [h.largest]
    exact iff_of_true (Nat.zero_le n) nofun
  types := fun _ r _ => by
    rw [h.types]
    unfold GetComponentTypeMask
    rw [BitVec.getLsbD_zero, BitVec.getLsbD_zero]
    rfl

theorem typeAt_concat (inputs : List ProgramInput) (input : ProgramInput) (register : Nat) :
    typeAt (inputs ++ [input]) register =
      if input.Covers register ∧ input.isBuiltIn = false then VariableComponentType input.type
      else typeAt inputs register := by
  unfold typeAt
  rw [filter_append]
  by_cases hcovers : input.Covers register ∧ input.isBuiltIn = false
  · simp [hcovers]
  · have hskip : (!input.isBuiltIn && decide (input.Covers register)) = false := by
      by_contra hboth
      simp only [Bool.not_eq_false, Bool.and_eq_true, Bool.not_eq_true', decide_eq_true_eq] at hboth
      exact hcovers ⟨hboth.2, hboth.1⟩
    rw [if_neg hcovers, filter_cons_of_neg (by simp [hskip]), filter_nil, append_nil]

variable {inputs : List ProgramInput}

theorem Described.concat {input : ProgramInput}
    {p q : LinkedInterface} (h : Described inputs p) (hnoted : Noted input input.Covers p q) :
    Described (inputs ++ [input]) q where
  active := fun r => by
    rw [hnoted.active, h.active, ← and_or_left]
    simp
  attributes := fun r => by
    rw [hnoted.attributes, h.attributes, ← and_or_left]
    simp
  largest := fun n => by
    rw [hnoted.largest, h.largest, forall_mem_append, forall_mem_singleton]
  types := fun hlt r hr => by
    rw [forall_mem_append, forall_mem_singleton] at hlt
    rw [typeAt_concat, ← h.types hlt.1 r hr]
    have htypes := hnoted.types hlt.2 r hr
    split
    case isTrue hcovers => exact htypes.1 hcovers
    case isFalse hskip => exact htypes.2 hskip

theorem foldl_noteInput_described {p : LinkedInterface} (hcleared : MasksCleared p)
    (hlocations : ∀ input ∈ inputs,
      input.location.toNat + VariableRegisterCount input.type ≤ 2 ^ 31) :
    Described inputs (inputs.foldl noteInput p) ∧
      (inputs.foldl noteInput p).mProgramInputs = p.mProgramInputs := by
  induction inputs using reverseRecOn with
  | nil => exact ⟨described_nil hcleared, rfl⟩
  | append_singleton inputs input ih =>
      rw [forall_mem_append, forall_mem_singleton] at hlocations
      obtain ⟨hdescribed, hinputs⟩ := ih hlocations.1
      have hnoted := noteInput_noted (inputs.foldl noteInput p) hlocations.2
      rw [foldl_concat]
      exact ⟨hdescribed.concat hnoted, hnoted.inputs.trans hinputs⟩

/-! ## The link -/

/-- The masks describe exactly the registers of the attributes. -/
structure MasksExact (inputs : List ProgramInput) (q : LinkedInterface) : Prop where
  active : ∀ r, q.mActiveAttribLocationsMask.getLsbD r ↔ ∃ input ∈ inputs, input.Covers r
  attributes : ∀ r, q.mAttributesMask.getLsbD r ↔
    ∃ input ∈ inputs, input.Covers r ∧ input.isBuiltIn = false
  types : ∀ r < MAX_VERTEX_ATTRIBS,
    GetComponentTypeMask q.mAttributesTypeMask r = typeAt inputs r

theorem Described.exact {q : LinkedInterface} (h : Described inputs q)
    (hlt : ∀ input ∈ inputs, ∀ r, input.Covers r → r < MAX_VERTEX_ATTRIBS) :
    MasksExact inputs q where
  active := fun r => (h.active r).trans
    (and_iff_right_of_imp fun ⟨input, hmem, hcovers⟩ => hlt input hmem r hcovers)
  attributes := fun r => (h.attributes r).trans
    (and_iff_right_of_imp fun ⟨input, hmem, hcovers⟩ => hlt input hmem r hcovers.1)
  types := h.types hlt

theorem ProgramInput.InRange.lt {maxVertexAttributes r : Nat} {input : ProgramInput}
    (h : input.InRange maxVertexAttributes) (hcovers : input.Covers r) :
    r < maxVertexAttributes := by
  obtain ⟨hnonneg, hend⟩ := h
  have hlast := hcovers.2
  omega

/-- Below version 300 only active attributes are declared, so that none is dropped. -/
theorem Assigned.filter_active {context : AttributeContext} {bindings : ProgramBindings}
    {shader : VertexShader}
    (h : Assigned context shader.shaderVersion bindings shader.declaredAttributes inputs) :
    (if shader.shaderVersion ≥ 300 then inputs.filter (·.active) else inputs) =
      inputs.filter (·.active) := by
  split
  case isTrue => rfl
  case isFalse hversion =>
    have hactive : ∀ input ∈ shader.declaredAttributes, input.active := by
      intro input hmem
      unfold VertexShader.declaredAttributes at hmem
      rw [if_neg hversion] at hmem
      exact (mem_filter.mp hmem).2
    symm
    rw [filter_eq_self]
    intro input hmem
    have hsame := forall₂_iff_zip.mp h.same
    obtain ⟨i, hi, rfl⟩ := mem_iff_getElem.mp hmem
    have hdeclared : i < shader.declaredAttributes.length := hsame.1 ▸ hi
    have hpair : (shader.declaredAttributes[i], inputs[i]) ∈
        shader.declaredAttributes.zip inputs := by
      rw [← getElem_zip (i := i) (h := by rw [length_zip]; omega)]
      exact getElem_mem _
    obtain ⟨⟨location, hlocated⟩, -⟩ := hsame.2 hpair
    rw [hlocated]
    show shader.declaredAttributes[i].active
    exact hactive _ (getElem_mem hdeclared)

/-- After a link the ranges of all attributes fit and are apart but for allowed aliases, and the
masks describe the active ones.  The masks have a bit for each of `MAX_VERTEX_ATTRIBS` locations, to
which a context limits its attributes. -/
theorem linkAttributes_spec {context : AttributeContext} {bindings : ProgramBindings}
    {shader : VertexShader} {p q : LinkedInterface} (hmax : context.maxVertexAttributes ≤ 32)
    (hdeclared : ∀ input ∈ shader.allAttributes, input.Bound)
    (hbindings : ∀ entry ∈ bindings.mBindings, entry.2.toNat < MAX_VERTEX_ATTRIBS)
    (hcleared : MasksCleared p) (h : linkAttributes context bindings (some shader) p = .ok q) :
    ∃ inputs, Assigned context shader.shaderVersion bindings shader.declaredAttributes inputs ∧
      q.mProgramInputs = inputs.filter (·.active) ∧
      (∀ n, q.mMaxActiveAttribLocation.toNat ≤ n ↔
        ∀ input ∈ q.mProgramInputs, ∀ r, input.Covers r → r < n) ∧
      (context.maxVertexAttributes ≤ MAX_VERTEX_ATTRIBS → MasksExact q.mProgramInputs q) := by
  unfold linkAttributes at h
  dsimp only at h
  generalize hassign : assignLocations context shader.shaderVersion bindings
    shader.declaredAttributes = assign at h
  cases assign with
  | error => contradiction
  | ok inputs =>
    obtain rfl := Except.ok.inj h
    have hmem : ∀ input ∈ shader.declaredAttributes, input.Bound := by
      intro input hinput
      unfold VertexShader.declaredAttributes at hinput
      split at hinput
      case isTrue => exact hdeclared input hinput
      case isFalse => exact hdeclared input (mem_filter.mp hinput).1
    have hassigned := assignLocations_assigned hassign hmem hbindings hmax
    have hranges : ∀ input ∈ inputs.filter (·.active),
        input.InRange context.maxVertexAttributes :=
      fun input hinput => hassigned.inRange input (mem_filter.mp hinput).1
    rw [hassigned.filter_active]
    have hmasks : MasksCleared { p with mProgramInputs := inputs.filter (·.active) } :=
      { hcleared with }
    obtain ⟨hdescribed, hinputs⟩ := foldl_noteInput_described hmasks fun input hinput => by
      obtain ⟨hnonneg, hend⟩ := hranges input hinput
      omega
    rw [hinputs]
    refine ⟨inputs, hassigned, rfl, hdescribed.largest, fun hsixteen => ?_⟩
    exact hdescribed.exact fun input hinput r hcovers =>
      lt_of_lt_of_le ((hranges input hinput).lt hcovers) hsixteen

/-- `in float a` with this location. -/
def floatInput (location : Int) : ProgramInput where
  type := 0x1406
  precision := 0
  name := [0x61]
  mappedName := [0x61]
  arraySizes := []
  staticUse := true
  active := true
  structName := []
  flattenedOffsetInParentArrays := -1
  location := location

def linkFloat (maxVertexAttributes : Nat) (location : Int) : Except AttributeError LinkedInterface :=
  linkAttributes ⟨maxVertexAttributes, false, false⟩ .empty (some ⟨300, [floatInput location]⟩)
    .cleared

theorem linkAttributes_spec_three :
    ∃ q, linkFloat 16 3 = .ok q ∧ MasksExact q.mProgramInputs q := by
  have hspec := fun q => @linkAttributes_spec ⟨16, false, false⟩ .empty
    ⟨300, [floatInput 3]⟩ .cleared q (by decide)
    (forall_mem_singleton.mpr ⟨by decide, by decide⟩)
    nofun ⟨rfl, rfl, rfl, rfl⟩
  obtain ⟨_, -, -, -, hexact⟩ := hspec _ rfl
  exact ⟨_, rfl, hexact (by decide)⟩

/-- A context with 32 attributes could link one at location 20, which would be in no mask. -/
theorem not_masksExact_twenty :
    ∃ q, linkFloat 32 20 = .ok q ∧ q.mProgramInputs = [floatInput 20] ∧
      (floatInput 20).Covers 20 ∧ q.mActiveAttribLocationsMask.getLsbD 20 = false ∧
      ¬ MasksExact q.mProgramInputs q := by
  have hcovers : (floatInput 20).Covers 20 := by decide
  refine ⟨_, rfl, rfl, hcovers, rfl, fun h => ?_⟩
  exact absurd ((h.active 20).mpr ⟨_, mem_cons_self, hcovers⟩) (by decide)

end MetalAngle.Gl.LinkedProgram
