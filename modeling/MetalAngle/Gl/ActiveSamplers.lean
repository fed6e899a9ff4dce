import Mathlib.Data.List.Perm.Basic
import MetalAngle.Lib.LabelledRun

/-!
# Active samplers of a program

A program keeps for each texture unit how many elements of its samplers are bound to it and the
type and format that they share.  A link counts them anew; a change of sampler uniforms moves them
from unit to unit and keeps the counts.
-/

namespace MetalAngle.Gl.ActiveSamplers

open LabelledRun List
open Function (update update_self)

abbrev IMPLEMENTATION_MAX_ACTIVE_TEXTURES : Nat := 64

abbrev TextureUnit := Fin IMPLEMENTATION_MAX_ACTIVE_TEXTURES

abbrev ActiveTextureArray (α : Type) := TextureUnit → α

inductive TextureType
  | _2D | _2DArray | _2DMultisample | _2DMultisampleArray | _3D | External | Rectangle | CubeMap
  | InvalidEnum
deriving DecidableEq

inductive SamplerFormat
  | Float | Unsigned | Signed | Shadow | InvalidEnum
deriving DecidableEq

structure Element where
  textureType : TextureType
  format : SamplerFormat

structure SamplerBinding where
  textureType : TextureType
  format : SamplerFormat
  /-- The units that the elements of the sampler are bound to. -/
  boundTextureUnits : List TextureUnit
  unreferenced : Bool

def SamplerBinding.element (binding : SamplerBinding) : Element :=
  ⟨binding.textureType, binding.format⟩

def firstUnit : TextureUnit := ⟨0, by decide⟩

/-- The constructor of `SamplerBinding`, whose elements are all bound to the first unit. -/
def SamplerBinding.make (textureType : TextureType) (format : SamplerFormat) (elementCount : Nat)
    (unreferenced : Bool) : SamplerBinding :=
  ⟨textureType, format, List.replicate elementCount firstUnit, unreferenced⟩

structure ProgramState where
  mSamplerBindings : List SamplerBinding
  mActiveSamplersMask : ActiveTextureArray Bool
  mActiveSamplerRefCounts : ActiveTextureArray Nat
  mActiveSamplerTypes : ActiveTextureArray TextureType
  mActiveSamplerFormats : ActiveTextureArray SamplerFormat
  mLinked : Bool

namespace ProgramState

def init : ProgramState where
  mSamplerBindings := []
  mActiveSamplersMask _ := false
  mActiveSamplerRefCounts _ := 0
  mActiveSamplerTypes _ := .InvalidEnum
  mActiveSamplerFormats _ := .InvalidEnum
  mLinked := false

variable (p : ProgramState)

/-- An element of a sampler is counted at its unit: the first one there gives the unit its type
and format, and one that differs from them makes a conflict. -/
def countElement (element : Element) (unit : TextureUnit) : ProgramState :=
  let count := p.mActiveSamplerRefCounts unit + 1
  let type :=
    if count = 1 then element.textureType
    else if p.mActiveSamplerTypes unit ≠ element.textureType then .InvalidEnum
    else p.mActiveSamplerTypes unit
  let format :=
    if count = 1 then element.format
    else if p.mActiveSamplerFormats unit ≠ element.format then .InvalidEnum
    else p.mActiveSamplerFormats unit
  { p with
    mActiveSamplerRefCounts := update p.mActiveSamplerRefCounts unit count
    mActiveSamplerTypes := update p.mActiveSamplerTypes unit type
    mActiveSamplerFormats := update p.mActiveSamplerFormats unit format }

def setMask (unit : TextureUnit) (marked : Bool) : ProgramState :=
  { p with mActiveSamplersMask := update p.mActiveSamplersMask unit marked }

def updateActiveSamplers : ProgramState :=
  p.mSamplerBindings.foldl
    (fun p binding =>
      if binding.unreferenced then p
      else binding.boundTextureUnits.foldl
        (fun p unit => (p.countElement binding.element unit).setMask unit true) p)
    { p with mActiveSamplerRefCounts := fun _ => 0 }

/-- The variables of `setSamplerUniformTextureTypeAndFormat`. -/
structure Found where
  foundBinding : Bool
  foundType : TextureType
  foundFormat : SamplerFormat

def Found.none : Found := ⟨false, .InvalidEnum, .InvalidEnum⟩

def Found.add (found : Found) (element : Element) : Found :=
  if !found.foundBinding then ⟨true, element.textureType, element.format⟩
  else
    { found with
      foundType :=
        if found.foundType ≠ element.textureType then .InvalidEnum else found.foundType
      foundFormat :=
        if found.foundFormat ≠ element.format then .InvalidEnum else found.foundFormat }

def setSamplerUniformTextureTypeAndFormat (textureUnitIndex : TextureUnit) : ProgramState :=
  let found : Found := p.mSamplerBindings.foldl
    (fun found binding =>
      if binding.unreferenced then found
      else binding.boundTextureUnits.foldl
        (fun found textureUnit =>
          if textureUnit = textureUnitIndex then found.add binding.element else found) found)
    .none
  { p with
    mActiveSamplerTypes :=
      update p.mActiveSamplerTypes textureUnitIndex found.foundType
    mActiveSamplerFormats :=
      update p.mActiveSamplerFormats textureUnitIndex found.foundFormat }

def removeElement (oldTextureUnit : TextureUnit) : ProgramState :=
  let count := p.mActiveSamplerRefCounts oldTextureUnit - 1
  let p := { p with
    mActiveSamplerRefCounts := update p.mActiveSamplerRefCounts oldTextureUnit count }
  if count = 0 then
    { p with
      mActiveSamplersMask := update p.mActiveSamplersMask oldTextureUnit false
      mActiveSamplerTypes := update p.mActiveSamplerTypes oldTextureUnit .InvalidEnum
      mActiveSamplerFormats :=
        update p.mActiveSamplerFormats oldTextureUnit .InvalidEnum }
  else if p.mActiveSamplerTypes oldTextureUnit = .InvalidEnum ∨
      p.mActiveSamplerFormats oldTextureUnit = .InvalidEnum then
    p.setSamplerUniformTextureTypeAndFormat oldTextureUnit
  else p

/-- One round of the loop of `updateSamplerUniform`: an element of the sampler with an index is
bound to a new unit. -/
def rebindElement (samplerIndex arrayIndex : Nat) (newTextureUnit : TextureUnit) : ProgramState :=
  match p.mSamplerBindings[samplerIndex]? with
  | none => p
  | some binding =>
    match binding.boundTextureUnits[arrayIndex]? with
    | none => p
    | some oldTextureUnit =>
      if oldTextureUnit = newTextureUnit then p
      else
        let units := binding.boundTextureUnits.set arrayIndex newTextureUnit
        let bindings :=
          p.mSamplerBindings.set samplerIndex { binding with boundTextureUnits := units }
        let p := { p with mSamplerBindings := bindings }.countElement binding.element newTextureUnit
        let p :=
          if p.mActiveSamplerRefCounts newTextureUnit = 1 then p.setMask newTextureUnit true else p
        p.removeElement oldTextureUnit

def rebindElements (samplerIndex : Nat) : ProgramState → Nat → List TextureUnit → ProgramState
  | p, _, [] => p
  | p, arrayIndex, unit :: units =>
    rebindElements samplerIndex (p.rebindElement samplerIndex arrayIndex unit) (arrayIndex + 1)
      units

/-- `updateSamplerUniform` with the location that `setUniform1iv` finds, which is an element of a
sampler, and the count of values that it clamps. -/
def updateSamplerUniform (samplerIndex arrayIndex : Nat) (v : List TextureUnit) : ProgramState :=
  match p.mSamplerBindings[samplerIndex]? with
  | none => p
  | some binding =>
    if binding.unreferenced then p
    else
      let clampedCount := min v.length (binding.boundTextureUnits.length - arrayIndex)
      rebindElements samplerIndex p arrayIndex (v.take clampedCount)

end ProgramState

/-! ## Links and loads -/

structure SamplerUniform where
  textureType : TextureType
  format : SamplerFormat
  elementCount : Nat
  /-- The units of the elements, one for each, where the sampler has a `layout(binding)`. -/
  binding : Option (List TextureUnit)
  /-- The back end finds no use of it: `markUnusedUniformLocations`. -/
  unreferenced : Bool

namespace ProgramState

variable (p : ProgramState)

def unlink : ProgramState := { p with mSamplerBindings := [], mLinked := false }

/-- `linkSamplerAndImageBindings` for the samplers. -/
def linkSamplerBindings (uniforms : List SamplerUniform) : ProgramState :=
  { p with
    mSamplerBindings := p.mSamplerBindings ++ uniforms.map fun uniform =>
      .make uniform.textureType uniform.format uniform.elementCount false }

def markUnusedUniformLocations (uniforms : List SamplerUniform) : ProgramState :=
  { p with
    mSamplerBindings := List.zipWith
      (fun binding uniform =>
        { binding with unreferenced := binding.unreferenced || uniform.unreferenced })
      p.mSamplerBindings uniforms }

def setUniformValuesFromBindingQualifiers :
    ProgramState → Nat → List SamplerUniform → ProgramState
  | p, _, [] => p
  | p, samplerIndex, uniform :: uniforms =>
    let p := match uniform.binding with
      | none => p
      | some boundTextureUnits => p.updateSamplerUniform samplerIndex 0 boundTextureUnits
    setUniformValuesFromBindingQualifiers p (samplerIndex + 1) uniforms

/-- `resolveLinkImpl` of a link that the back end accepts. -/
def resolveLink (uniforms : List SamplerUniform) : ProgramState :=
  let p := { p with mLinked := true }
  let p := (p.markUnusedUniformLocations uniforms).updateActiveSamplers
  p.setUniformValuesFromBindingQualifiers 0 uniforms

inductive LinkResult
  /-- A stage fails before the sampler bindings are made. -/
  | failsBefore
  /-- A later stage or the back end fails. -/
  | failsAfter (uniforms : List SamplerUniform)
  | succeeds (uniforms : List SamplerUniform)

/-- `link`, whose first `unlink` and a failed look up in the program cache change nothing that
the second one does not, with the resolution of the link. -/
def link : LinkResult → ProgramState
  | .failsBefore => p.unlink
  | .failsAfter uniforms => p.unlink.linkSamplerBindings uniforms
  | .succeeds uniforms => (p.unlink.linkSamplerBindings uniforms).resolveLink uniforms

/-- What becomes of a binary, which is loaded by the application or from the program cache. -/
inductive LoadResult
  | rejected
  /-- `deserialize` accepts it, and the back end does or does not. -/
  | deserialized (bindings : List (TextureType × SamplerFormat × Nat × Bool)) (loads : Bool)

def loadBinary : LoadResult → ProgramState
  | .rejected => p.unlink
  | .deserialized bindings loads =>
    let p := { p.unlink with
      mSamplerBindings := bindings.map fun (type, format, count, unreferenced) =>
        .make type format count unreferenced }
    { p.updateActiveSamplers with mLinked := loads }

inductive Action
  | link (result : LinkResult)
  | loadBinary (result : LoadResult)
  | setUniform1iv (samplerIndex arrayIndex : Nat) (v : List TextureUnit)

def step : ProgramState → Action → Option ProgramState
  | p, .link result => some (p.link result)
  | p, .loadBinary result => some (p.loadBinary result)
  | p, .setUniform1iv samplerIndex arrayIndex v =>
    if p.mLinked ∧ ∃ binding ∈ p.mSamplerBindings[samplerIndex]?,
        arrayIndex < binding.boundTextureUnits.length then
      some (p.updateSamplerUniform samplerIndex arrayIndex v)
    else none

end ProgramState

namespace SamplerUniform

variable (uniform : SamplerUniform)

/-- The `layout(binding)` of a referenced sampler binds an element of it to a unit. -/
def Binds (unit : TextureUnit) : Prop :=
  uniform.unreferenced = false ∧
    ∃ units, uniform.binding = some units ∧ unit ∈ units.take uniform.elementCount

/-- A link binds an element of a referenced sampler to a unit, first or at last. -/
def Touches (unit : TextureUnit) : Prop :=
  uniform.unreferenced = false ∧
    ((unit = firstUnit ∧ 0 < uniform.elementCount) ∨
      ∃ units, uniform.binding = some units ∧ unit ∈ units.take uniform.elementCount)

end SamplerUniform

/-! ## What the counts say -/

def SamplerBinding.elementsAt (binding : SamplerBinding) (unit : TextureUnit) : List Element :=
  if binding.unreferenced then []
  else List.replicate (binding.boundTextureUnits.count unit) binding.element

def elementsAt (bindings : List SamplerBinding) (unit : TextureUnit) : List Element :=
  bindings.flatMap (·.elementsAt unit)

/-- A result is the value that all of a list have, or `invalid` where two of them differ. -/
def IsCommon {α : Type} (values : List α) (invalid result : α) : Prop :=
  (∀ value, (∀ v ∈ values, v = value) → result = value) ∧
    ∀ v ∈ values, ∀ v' ∈ values, v ≠ v' → result = invalid

/-- A unit is described: the count and the mark tell how many elements are bound to it, and
where there are any, the type and format are the ones they share. -/
structure ProgramState.UnitExact (p : ProgramState) (unit : TextureUnit) : Prop where
  count : p.mActiveSamplerRefCounts unit = (elementsAt p.mSamplerBindings unit).length
  mask : p.mActiveSamplersMask unit ↔ 0 < p.mActiveSamplerRefCounts unit
  type : 0 < p.mActiveSamplerRefCounts unit →
    IsCommon ((elementsAt p.mSamplerBindings unit).map (·.textureType)) .InvalidEnum
      (p.mActiveSamplerTypes unit)
  format : 0 < p.mActiveSamplerRefCounts unit →
    IsCommon ((elementsAt p.mSamplerBindings unit).map (·.format)) .InvalidEnum
      (p.mActiveSamplerFormats unit)

def ProgramState.ActiveSamplersExact (p : ProgramState) : Prop := ∀ unit, p.UnitExact unit

/-! ## Common values -/

section IsCommon

variable {α : Type} {values values' : List α} {invalid result : α}

theorem isCommon_singleton (value : α) : IsCommon [value] invalid value := by
  constructor
  · intro other hall
    exact hall value (by simp)
  · intro v hv v' hv' hne
    simp only [mem_singleton] at hv hv'
    exact absurd (hv.trans hv'.symm) hne

section

variable (h : IsCommon values invalid result)
include h

/-- One value more, which differs from the common one or not. -/
theorem IsCommon.cons [DecidableEq α] (hne : values ≠ [])
    (value : α) :
    IsCommon (value :: values) invalid (if result ≠ value then invalid else result) := by
  obtain ⟨first, hfirst⟩ := exists_mem_of_ne_nil values hne
  constructor
  · intro other hall
    have hresult := h.1 other fun v hv => hall v (mem_cons_of_mem _ hv)
    rw [if_neg (by simp [hresult, hall value])]
    exact hresult
  · intro v hv v' hv' hdiffer
    by_cases heq : result = value
    · rw [if_neg (by simpa using heq)]
      by_contra hvalid
      -- Without a conflict all the old values are the result, and so is the new one.
      have hall : ∀ x ∈ values, x = result := by
        intro x hx
        have hsame : ∀ y ∈ values, y = x := by
          intro y hy
          by_contra hxy
          exact hvalid (h.2 y hy x hx hxy)
        exact (h.1 x hsame).symm
      have hmem : ∀ x ∈ value :: values, x = result := by
        intro x hx
        rcases mem_cons.mp hx with rfl | hx
        · exact heq.symm
        · exact hall x hx
      exact hdiffer ((hmem v hv).trans (hmem v' hv').symm)
    · rw [if_pos heq]

theorem IsCommon.of_subset (hvalid : result ≠ invalid)
    (hsub : values' ⊆ values) (hne : values' ≠ []) : IsCommon values' invalid result := by
  obtain ⟨first, hfirst⟩ := exists_mem_of_ne_nil values' hne
  constructor
  · intro value hall
    refine h.1 value fun v hv => ?_
    by_contra hdiffer
    have hfirst' := hsub hfirst
    rw [hall first hfirst] at hfirst'
    exact hvalid (h.2 v hv value hfirst' hdiffer)
  · intro v hv v' hv' hdiffer
    exact h.2 v (hsub hv) v' (hsub hv') hdiffer

theorem IsCommon.perm (hperm : values.Perm values') :
    IsCommon values' invalid result :=
  ⟨fun value hall => h.1 value fun v hv => hall v (hperm.mem_iff.mp hv),
    fun v hv v' hv' => h.2 v (hperm.mem_iff.mpr hv) v' (hperm.mem_iff.mpr hv')⟩

end

end IsCommon

/-! ## One unit -/

/-- What the arrays have for a unit describes the elements that are bound to it; the unit may be
marked though there are none. -/
structure Described (elements : List Element) (count : Nat) (mask : Bool) (type : TextureType)
    (format : SamplerFormat) : Prop where
  count : count = elements.length
  mask : elements ≠ [] → mask
  type : elements ≠ [] → IsCommon (elements.map (·.textureType)) .InvalidEnum type
  format : elements ≠ [] → IsCommon (elements.map (·.format)) .InvalidEnum format

namespace Described

variable {elements elements' : List Element} {element : Element} {count : Nat} {mask : Bool}
  {type : TextureType} {format : SamplerFormat}

theorem nil (mask : Bool) (type : TextureType) (format : SamplerFormat) :
    Described [] 0 mask type format :=
  ⟨rfl, fun h => absurd rfl h, fun h => absurd rfl h, fun h => absurd rfl h⟩

theorem perm (h : Described elements count mask type format) (hperm : elements.Perm elements') :
    Described elements' count mask type format := by
  have hne : elements' ≠ [] → elements ≠ [] := by
    rintro hne rfl
    exact hne hperm.nil_eq.symm
  exact ⟨h.count.trans hperm.length_eq, fun h' => h.mask (hne h'),
    fun h' => (h.type (hne h')).perm (hperm.map _),
    fun h' => (h.format (hne h')).perm (hperm.map _)⟩

theorem cons (h : Described elements count mask type format) (element : Element) (mask' : Bool)
    (hmask : elements = [] ∨ mask → mask') :
    Described (element :: elements) (count + 1) mask' (if count + 1 = 1 then element.textureType
        else if type ≠ element.textureType then .InvalidEnum else type)
      (if count + 1 = 1 then element.format
        else if format ≠ element.format then .InvalidEnum else format) where
  count := by simp [h.count]
  mask _ := by
    by_cases hnil : elements = []
    · exact hmask (.inl hnil)
    · exact hmask (.inr (h.mask hnil))
  type _ := by
    by_cases hnil : elements = []
    · rw [if_pos (by simp [h.count, hnil]), hnil]
      exact isCommon_singleton _
    · rw [if_neg (by simp [h.count, hnil])]
      exact (h.type hnil).cons (by simpa using hnil) _
  format _ := by
    by_cases hnil : elements = []
    · rw [if_pos (by simp [h.count, hnil]), hnil]
      exact isCommon_singleton _
    · rw [if_neg (by simp [h.count, hnil])]
      exact (h.format hnil).cons (by simpa using hnil) _

theorem tail (h : Described (element :: elements) count mask type format)
    (htype : type ≠ .InvalidEnum) (hformat : format ≠ .InvalidEnum) :
    Described elements (count - 1) mask type format where
  count := by simp [h.count]
  mask _ := h.mask (by simp)
  type hne := (h.type (by simp)).of_subset htype
    (map_subset _ (subset_cons_self _ _)) (by simpa using hne)
  format hne := (h.format (by simp)).of_subset hformat
    (map_subset _ (subset_cons_self _ _)) (by simpa using hne)

end Described

namespace ProgramState

/-- A unit is described, and may be marked without need. -/
def UnitDescribed (p : ProgramState) (unit : TextureUnit) : Prop :=
  Described (elementsAt p.mSamplerBindings unit) (p.mActiveSamplerRefCounts unit)
    (p.mActiveSamplersMask unit) (p.mActiveSamplerTypes unit) (p.mActiveSamplerFormats unit)

/-- A unit is marked only if something is bound to it. -/
def MarkedInUse (p : ProgramState) (unit : TextureUnit) : Prop :=
  p.mActiveSamplersMask unit → 0 < p.mActiveSamplerRefCounts unit

theorem unitExact_iff (p : ProgramState) (unit : TextureUnit) :
    p.UnitExact unit ↔ p.UnitDescribed unit ∧ p.MarkedInUse unit := by
  have hpos {elements : List Element} {count : Nat} (hcount : count = elements.length) :
      0 < count ↔ elements ≠ [] := by
    rw [hcount, length_pos_iff]
  constructor
  · intro h
    have hiff := hpos h.count
    exact ⟨⟨h.count, fun hne => h.mask.mpr (hiff.mpr hne), fun hne => h.type (hiff.mpr hne),
      fun hne => h.format (hiff.mpr hne)⟩, h.mask.mp⟩
  · rintro ⟨h, hmarked⟩
    have hiff := hpos h.count
    exact ⟨h.count, ⟨hmarked, fun hcount => h.mask (hiff.mp hcount)⟩,
      fun hcount => h.type (hiff.mp hcount), fun hcount => h.format (hiff.mp hcount)⟩

theorem UnitDescribed.markedInUse {p : ProgramState} {unit : TextureUnit}
    (h : p.UnitDescribed unit) (hne : elementsAt p.mSamplerBindings unit ≠ []) :
    p.MarkedInUse unit := by
  intro _
  rw [h.count, length_pos_iff]
  exact hne

/-! ## The scan for a unit -/

/-- What has been found is what the elements that were seen have in common. -/
structure Found.Ok (elements : List Element) (found : Found) : Prop where
  foundBinding : found.foundBinding ↔ elements ≠ []
  foundType : elements ≠ [] →
    IsCommon (elements.map (·.textureType)) .InvalidEnum found.foundType
  foundFormat : elements ≠ [] →
    IsCommon (elements.map (·.format)) .InvalidEnum found.foundFormat

theorem Found.Ok.add {elements : List Element} {found : Found} (h : found.Ok elements)
    (element : Element) : (found.add element).Ok (element :: elements) := by
  unfold Found.add
  by_cases hnil : elements = []
  · have hfound : found.foundBinding = false := by
      have hiff := h.foundBinding
      simpa [hnil] using hiff
    simp only [hfound, Bool.not_false, if_true, hnil]
    exact ⟨by simp, fun _ => isCommon_singleton _, fun _ => isCommon_singleton _⟩
  · have hfound : found.foundBinding := h.foundBinding.mpr hnil
    simp only [hfound, Bool.not_true, Bool.false_eq_true, if_false]
    exact ⟨by simp, fun _ => (h.foundType hnil).cons (by simpa using hnil) _,
      fun _ => (h.foundFormat hnil).cons (by simpa using hnil) _⟩

theorem Found.Ok.foldl {seen : List Element} {found : Found} (h : found.Ok seen)
    (elements : List Element) :
    (elements.foldl Found.add found).Ok (elements.reverse ++ seen) := by
  induction elements generalizing seen found with
  | nil => exact h
  | cons element elements ih => simpa using ih (h.add element)

theorem foldl_add_units (element : Element) (unit : TextureUnit) (units : List TextureUnit)
    (found : Found) :
    units.foldl (fun found textureUnit =>
        if textureUnit = unit then found.add element else found) found =
      (List.replicate (units.count unit) element).foldl Found.add found := by
  induction units generalizing found with
  | nil => rfl
  | cons head units ih =>
      by_cases hhead : head = unit
      · simp [hhead, ih, replicate_succ]
      · simp [hhead, ih]

theorem foldl_add_bindings (bindings : List SamplerBinding) (unit : TextureUnit) (found : Found) :
    bindings.foldl (fun found binding =>
        if binding.unreferenced then found
        else binding.boundTextureUnits.foldl (fun found textureUnit =>
          if textureUnit = unit then found.add binding.element else found) found) found =
      (elementsAt bindings unit).foldl Found.add found := by
  induction bindings generalizing found with
  | nil => rfl
  | cons binding bindings ih =>
      simp only [foldl_cons, elementsAt, flatMap_cons, foldl_append]
      rw [ih, foldl_add_units]
      congr 1
      unfold SamplerBinding.elementsAt
      split <;> rfl

theorem setSamplerUniformTextureTypeAndFormat_described {p : ProgramState} {unit : TextureUnit}
    (hcount : p.mActiveSamplerRefCounts unit = (elementsAt p.mSamplerBindings unit).length)
    (hmask : p.mActiveSamplersMask unit) :
    (p.setSamplerUniformTextureTypeAndFormat unit).UnitDescribed unit := by
  have hnone : Found.none.Ok [] :=
    ⟨by simp [Found.none], fun h => absurd rfl h, fun h => absurd rfl h⟩
  have hfound := hnone.foldl (elementsAt p.mSamplerBindings unit)
  rw [append_nil] at hfound
  have hperm := reverse_perm (elementsAt p.mSamplerBindings unit)
  simp only [UnitDescribed, setSamplerUniformTextureTypeAndFormat, foldl_add_bindings, update_self]
  refine ⟨hcount, fun _ => hmask, fun hne => ?_, fun hne => ?_⟩
  · exact (hfound.foundType (by simpa using hne)).perm (hperm.map _)
  · exact (hfound.foundFormat (by simpa using hne)).perm (hperm.map _)

/-! ## An element that moves -/

section Elements

variable {bindings : List SamplerBinding} {binding : SamplerBinding} {i j : Nat}
  {old new : TextureUnit}

theorem elementsAt_perm (hbinding : bindings[i]? = some binding) (unit : TextureUnit) :
    (elementsAt bindings unit).Perm
      (binding.elementsAt unit ++ elementsAt (bindings.eraseIdx i) unit) := by
  obtain ⟨hi, rfl⟩ := List.getElem?_eq_some_iff.mp hbinding
  have hperm := getElem_cons_eraseIdx_perm hi
  exact (hperm.flatMap_right (·.elementsAt unit)).symm

theorem elementsAt_set_perm (hbinding : bindings[i]? = some binding) (binding' : SamplerBinding)
    (unit : TextureUnit) :
    (elementsAt (bindings.set i binding') unit).Perm
      (binding'.elementsAt unit ++ elementsAt (bindings.eraseIdx i) unit) := by
  have hi : i < bindings.length := (List.getElem?_eq_some_iff.mp hbinding).1
  have hset : (bindings.set i binding')[i]? = some binding' := by simp [hi]
  have hperm := elementsAt_perm hset unit
  rwa [eraseIdx_set_eq] at hperm

theorem elementsAt_new (href : binding.unreferenced = false)
    (hold : binding.boundTextureUnits[j]? = some old) (hne : old ≠ new) :
    { binding with
      boundTextureUnits := binding.boundTextureUnits.set j new }.elementsAt new =
      binding.element :: binding.elementsAt new := by
  obtain ⟨hj, hget⟩ := List.getElem?_eq_some_iff.mp hold
  simp [SamplerBinding.elementsAt, href, count_set hj, hget, hne, replicate_succ,
    SamplerBinding.element]

theorem elementsAt_old (href : binding.unreferenced = false)
    (hold : binding.boundTextureUnits[j]? = some old) (hne : old ≠ new) :
    binding.elementsAt old = binding.element ::
      { binding with
        boundTextureUnits := binding.boundTextureUnits.set j new }.elementsAt old := by
  obtain ⟨hj, hget⟩ := List.getElem?_eq_some_iff.mp hold
  have hpos : 0 < binding.boundTextureUnits.count old :=
    count_pos_iff.mpr (hget ▸ getElem_mem hj)
  obtain ⟨count, hcount⟩ := Nat.exists_eq_succ_of_ne_zero (Nat.ne_of_gt hpos)
  simp [SamplerBinding.elementsAt, href, count_set hj, hget, hne.symm, hcount,
    replicate_succ, SamplerBinding.element]

theorem elementsAt_other (hold : binding.boundTextureUnits[j]? = some old) {unit : TextureUnit}
    (hunitOld : unit ≠ old) (hunitNew : unit ≠ new) :
    { binding with
      boundTextureUnits := binding.boundTextureUnits.set j new }.elementsAt unit =
      binding.elementsAt unit := by
  obtain ⟨hj, hget⟩ := List.getElem?_eq_some_iff.mp hold
  simp [SamplerBinding.elementsAt, count_set hj, hget, hunitOld.symm, hunitNew.symm,
    SamplerBinding.element]

end Elements

section Frame

variable {p : ProgramState} {unit other : TextureUnit}

theorem unitDescribed_congr {q : ProgramState} (hunit : p.UnitDescribed unit)
    (helements : (elementsAt p.mSamplerBindings unit).Perm (elementsAt q.mSamplerBindings unit))
    (hcount : q.mActiveSamplerRefCounts unit = p.mActiveSamplerRefCounts unit)
    (hmask : q.mActiveSamplersMask unit = p.mActiveSamplersMask unit)
    (htype : q.mActiveSamplerTypes unit = p.mActiveSamplerTypes unit)
    (hformat : q.mActiveSamplerFormats unit = p.mActiveSamplerFormats unit) :
    q.UnitDescribed unit := by
  unfold UnitDescribed
  rw [hcount, hmask, htype, hformat]
  exact hunit.perm helements

theorem removeElement_bindings (p : ProgramState) (unit : TextureUnit) :
    (p.removeElement unit).mSamplerBindings = p.mSamplerBindings := by
  unfold removeElement
  dsimp only
  split
  · rfl
  · split <;> rfl

theorem removeElement_linked (p : ProgramState) (unit : TextureUnit) :
    (p.removeElement unit).mLinked = p.mLinked := by
  unfold removeElement
  dsimp only
  split
  · rfl
  · split <;> rfl

theorem removeElement_other (hother : other ≠ unit) :
    (p.removeElement unit).mActiveSamplerRefCounts other = p.mActiveSamplerRefCounts other ∧
      (p.removeElement unit).mActiveSamplersMask other = p.mActiveSamplersMask other ∧
      (p.removeElement unit).mActiveSamplerTypes other = p.mActiveSamplerTypes other ∧
      (p.removeElement unit).mActiveSamplerFormats other = p.mActiveSamplerFormats other := by
  unfold removeElement
  dsimp only
  split
  · simp [hother]
  · split
    · simp [setSamplerUniformTextureTypeAndFormat, hother]
    · simp [hother]

theorem removeElement_described (element : Element)
    (h : Described (element :: elementsAt p.mSamplerBindings unit)
      (p.mActiveSamplerRefCounts unit) (p.mActiveSamplersMask unit) (p.mActiveSamplerTypes unit)
      (p.mActiveSamplerFormats unit)) : (p.removeElement unit).UnitDescribed unit := by
  have hcount : p.mActiveSamplerRefCounts unit - 1 =
      (elementsAt p.mSamplerBindings unit).length := by
    simp [h.count]
  unfold removeElement
  dsimp only
  split
  · rename_i hzero
    have hnil : elementsAt p.mSamplerBindings unit = [] :=
      length_eq_zero_iff.mp (hcount.symm.trans hzero)
    simp only [UnitDescribed, hnil, update_self, hzero]
    exact .nil _ _ _
  split
  · exact setSamplerUniformTextureTypeAndFormat_described
      (by simp only [update_self, hcount]) (h.mask (by simp))
  · rename_i hvalid
    rw [not_or] at hvalid
    simp only [UnitDescribed, update_self]
    exact h.tail hvalid.1 hvalid.2

theorem removeElement_markedInUse (p : ProgramState) (unit : TextureUnit) :
    (p.removeElement unit).MarkedInUse unit := by
  unfold removeElement MarkedInUse
  dsimp only
  split
  · simp
  · rename_i hpos
    intro _
    split <;> simp [setSamplerUniformTextureTypeAndFormat, Nat.pos_of_ne_zero hpos]

end Frame

theorem elementsAt_ne_nil {bindings : List SamplerBinding} {i j : Nat} {binding : SamplerBinding}
    {unit : TextureUnit} (hbinding : bindings[i]? = some binding)
    (href : binding.unreferenced = false) (hunit : binding.boundTextureUnits[j]? = some unit) :
    elementsAt bindings unit ≠ [] := by
  have hcount : binding.boundTextureUnits.count unit ≠ 0 :=
    Nat.ne_of_gt (count_pos_iff.mpr (mem_of_getElem? hunit))
  have helement : binding.element ∈ elementsAt bindings unit :=
    mem_flatMap.mpr ⟨binding, mem_of_getElem? hbinding, by
      simp [SamplerBinding.elementsAt, href, hcount]⟩
  exact ne_nil_of_mem helement

/-- The state between the two counts of `rebindElement`. -/
def countMoved (p : ProgramState) (bindings : List SamplerBinding) (element : Element)
    (unit : TextureUnit) : ProgramState :=
  let p := { p with mSamplerBindings := bindings }.countElement element unit
  if p.mActiveSamplerRefCounts unit = 1 then p.setMask unit true else p

section CountMoved

variable {p : ProgramState} {bindings : List SamplerBinding} {element : Element}
  {unit other : TextureUnit}

@[simp] theorem countMoved_bindings :
    (p.countMoved bindings element unit).mSamplerBindings = bindings := by
  unfold countMoved
  dsimp only
  split <;> rfl

@[simp] theorem countMoved_linked :
    (p.countMoved bindings element unit).mLinked = p.mLinked := by
  unfold countMoved
  dsimp only
  split <;> rfl

theorem countMoved_other (p : ProgramState) (bindings : List SamplerBinding) (element : Element)
    (hother : other ≠ unit) :
    (p.countMoved bindings element unit).mActiveSamplerRefCounts other =
        p.mActiveSamplerRefCounts other ∧
      (p.countMoved bindings element unit).mActiveSamplersMask other = p.mActiveSamplersMask other ∧
      (p.countMoved bindings element unit).mActiveSamplerTypes other = p.mActiveSamplerTypes other ∧
      (p.countMoved bindings element unit).mActiveSamplerFormats other =
        p.mActiveSamplerFormats other := by
  unfold countMoved
  dsimp only
  split <;> simp [countElement, setMask, hother]

theorem countMoved_described (h : p.UnitDescribed unit)
    (hperm : (elementsAt bindings unit).Perm (element :: elementsAt p.mSamplerBindings unit)) :
    (p.countMoved bindings element unit).UnitDescribed unit := by
  have hcons (mask : Bool) hmask := (h.cons element mask hmask).perm hperm.symm
  unfold UnitDescribed
  rw [countMoved_bindings]
  unfold countMoved
  dsimp only
  split
  · simp only [setMask, countElement, update_self]
    exact hcons true (fun _ => rfl)
  · rename_i hcount
    simp only [countElement, update_self] at hcount ⊢
    refine hcons _ ?_
    rintro (hnil | hmask)
    · exact absurd (by simp [h.count, hnil]) hcount
    · exact hmask

end CountMoved

variable {samplerIndex : Nat}

theorem rebindElement_eq {p : ProgramState} {arrayIndex : Nat}
    {binding : SamplerBinding} {old new : TextureUnit}
    (hbinding : p.mSamplerBindings[samplerIndex]? = some binding)
    (hold : binding.boundTextureUnits[arrayIndex]? = some old) (hne : old ≠ new) :
    p.rebindElement samplerIndex arrayIndex new = (p.countMoved
        (p.mSamplerBindings.set samplerIndex { binding with
          boundTextureUnits := binding.boundTextureUnits.set arrayIndex new })
        binding.element new).removeElement old := by
  simp only [rebindElement, hbinding, hold, if_neg hne]
  rfl

/-- An element of a referenced sampler is bound to a new unit: every unit stays described, none
is marked anew without need, and the new unit is in use. -/
theorem rebindElement_described {p : ProgramState} (h : ∀ unit, p.UnitDescribed unit)
    {arrayIndex : Nat} {binding : SamplerBinding} {old : TextureUnit}
    (hbinding : p.mSamplerBindings[samplerIndex]? = some binding)
    (href : binding.unreferenced = false)
    (hold : binding.boundTextureUnits[arrayIndex]? = some old) (new : TextureUnit) :
    (∀ unit, (p.rebindElement samplerIndex arrayIndex new).UnitDescribed unit) ∧
      (∀ unit, p.MarkedInUse unit →
        (p.rebindElement samplerIndex arrayIndex new).MarkedInUse unit) ∧
      (p.rebindElement samplerIndex arrayIndex new).MarkedInUse new := by
  by_cases hne : old = new
  · subst hne
    have heq : p.rebindElement samplerIndex arrayIndex old = p := by
      simp [rebindElement, hbinding, hold]
    rw [heq]
    exact ⟨h, fun _ hmarked => hmarked, (h old).markedInUse (elementsAt_ne_nil hbinding href hold)⟩
  have hi : samplerIndex < p.mSamplerBindings.length :=
    (List.getElem?_eq_some_iff.mp hbinding).1
  have hj : arrayIndex < binding.boundTextureUnits.length :=
    (List.getElem?_eq_some_iff.mp hold).1
  generalize hbindings : p.mSamplerBindings.set samplerIndex { binding with
    boundTextureUnits := binding.boundTextureUnits.set arrayIndex new } = bindings
  have hperm (unit : TextureUnit) := elementsAt_perm hbinding unit
  have hset (unit : TextureUnit) := elementsAt_set_perm hbinding { binding with
    boundTextureUnits := binding.boundTextureUnits.set arrayIndex new } unit
  rw [hbindings] at hset
  have hmoved : (p.countMoved bindings binding.element new).UnitDescribed new := by
    refine countMoved_described (h new) ((hset new).trans ?_)
    rw [elementsAt_new href hold hne]
    exact ((hperm new).symm).cons _
  rw [rebindElement_eq hbinding hold hne, hbindings]
  have hdescribed (unit : TextureUnit) :
      ((p.countMoved bindings binding.element new).removeElement old).UnitDescribed unit := by
    by_cases hunitOld : unit = old
    · subst hunitOld
      obtain ⟨hcount, hmask, htype, hformat⟩ :=
        countMoved_other p bindings binding.element hne
      refine removeElement_described binding.element ?_
      rw [hcount, hmask, htype, hformat, countMoved_bindings]
      refine (h unit).perm ((hperm unit).trans ?_)
      rw [elementsAt_old href hold hne]
      exact ((hset unit).symm).cons _
    · obtain ⟨hcount, hmask, htype, hformat⟩ :=
        removeElement_other (p := p.countMoved bindings binding.element new) hunitOld
      by_cases hunitNew : unit = new
      · subst hunitNew
        exact unitDescribed_congr hmoved (by rw [removeElement_bindings]) hcount hmask htype hformat
      · obtain ⟨hcount', hmask', htype', hformat'⟩ :=
          countMoved_other p bindings binding.element hunitNew
        refine unitDescribed_congr (h unit) ?_ (hcount.trans hcount') (hmask.trans hmask')
          (htype.trans htype') (hformat.trans hformat')
        rw [removeElement_bindings, countMoved_bindings]
        refine (hperm unit).trans (.trans ?_ (hset unit).symm)
        rw [elementsAt_other hold hunitOld hunitNew]
  have hnew : elementsAt bindings new ≠ [] := by
    have hget : bindings[samplerIndex]? = some { binding with
        boundTextureUnits := binding.boundTextureUnits.set arrayIndex new } := by
      rw [← hbindings]
      simp [hi]
    exact elementsAt_ne_nil (j := arrayIndex) hget href (by simp [hj])
  have hinUse : ((p.countMoved bindings binding.element new).removeElement old).MarkedInUse new :=
    (hdescribed new).markedInUse (by rwa [removeElement_bindings, countMoved_bindings])
  refine ⟨hdescribed, fun unit hmarked => ?_, hinUse⟩
  by_cases hunitOld : unit = old
  · rw [hunitOld]
    exact removeElement_markedInUse _ old
  by_cases hunitNew : unit = new
  · rw [hunitNew]
    exact hinUse
  obtain ⟨hcount, hmask, -, -⟩ :=
    removeElement_other (p := p.countMoved bindings binding.element new) hunitOld
  obtain ⟨hcount', hmask', -, -⟩ :=
    countMoved_other p bindings binding.element hunitNew
  unfold MarkedInUse
  rw [hcount, hmask, hcount', hmask']
  exact hmarked

/-! ## Changes of sampler uniforms -/

/-- Whether samplers are referenced and how many elements they have, which only a link or a load
changes. -/
def shape (bindings : List SamplerBinding) : List (Bool × Nat) :=
  bindings.map fun binding => (binding.unreferenced, binding.boundTextureUnits.length)

theorem rebindElement_shape (p : ProgramState) (samplerIndex arrayIndex : Nat) (new : TextureUnit) :
    shape (p.rebindElement samplerIndex arrayIndex new).mSamplerBindings =
      shape p.mSamplerBindings := by
  cases hbinding : p.mSamplerBindings[samplerIndex]? with
  | none => simp [rebindElement, hbinding]
  | some binding =>
    cases hold : binding.boundTextureUnits[arrayIndex]? with
    | none => simp [rebindElement, hbinding, hold]
    | some old =>
      by_cases hne : old = new
      · simp [rebindElement, hbinding, hold, hne]
      · rw [rebindElement_eq hbinding hold hne, removeElement_bindings, countMoved_bindings]
        obtain ⟨hi, rfl⟩ := List.getElem?_eq_some_iff.mp hbinding
        apply ext_getElem?
        intro k
        simp only [shape, getElem?_map, getElem?_set]
        split
        · subst_vars
          simp [hi]
        · rfl

/-- Every unit is described, and the samplers have a given shape. -/
structure Kept (bindings : List (Bool × Nat)) (p : ProgramState) : Prop where
  described : ∀ unit, p.UnitDescribed unit
  shape_eq : shape p.mSamplerBindings = bindings

theorem Kept.getElem? {bindings : List (Bool × Nat)} {p : ProgramState} (h : Kept bindings p)
    {count : Nat} {unreferenced : Bool}
    (hshape : bindings[samplerIndex]? = some (unreferenced, count)) :
    ∃ binding, p.mSamplerBindings[samplerIndex]? = some binding ∧
      binding.unreferenced = unreferenced ∧ binding.boundTextureUnits.length = count := by
  rw [← h.shape_eq, shape, getElem?_map, Option.map_eq_some_iff] at hshape
  obtain ⟨binding, hbinding, heq⟩ := hshape
  obtain ⟨href, hcount⟩ := Prod.mk.inj heq
  exact ⟨binding, hbinding, href, hcount⟩

/-- A change of some elements keeps what is kept, marks nothing without need, and leaves the
units that it names in use. -/
theorem rebindElements_kept {bindings : List (Bool × Nat)} {p : ProgramState}
    (h : Kept bindings p) {count : Nat}
    (hshape : bindings[samplerIndex]? = some (false, count)) (units : List TextureUnit)
    (arrayIndex : Nat) (hle : arrayIndex + units.length ≤ count) :
    Kept bindings (rebindElements samplerIndex p arrayIndex units) ∧
      ∀ unit, p.MarkedInUse unit ∨ unit ∈ units →
        (rebindElements samplerIndex p arrayIndex units).MarkedInUse unit := by
  induction units generalizing p arrayIndex with
  | nil => exact ⟨h, fun unit hunit => hunit.resolve_right not_mem_nil⟩
  | cons new units ih =>
    rw [length_cons] at hle
    obtain ⟨binding, hbinding, href, hcount⟩ := h.getElem? hshape
    have hj : arrayIndex < binding.boundTextureUnits.length := by omega
    have hold := getElem?_eq_getElem hj
    obtain ⟨hdescribed, hmarked, hnew⟩ :=
      rebindElement_described h.described hbinding href hold new
    have hkept : Kept bindings (p.rebindElement samplerIndex arrayIndex new) :=
      ⟨hdescribed, (rebindElement_shape ..).trans h.shape_eq⟩
    obtain ⟨hrest, hinUse⟩ := ih hkept (arrayIndex + 1) (by omega)
    refine ⟨hrest, fun unit hunit => hinUse unit ?_⟩
    rcases hunit with hunit | hunit
    · exact .inl (hmarked unit hunit)
    · rcases mem_cons.mp hunit with rfl | hunit
      · exact .inl hnew
      · exact .inr hunit

theorem updateSamplerUniform_kept {bindings : List (Bool × Nat)} {p : ProgramState}
    (h : Kept bindings p) (samplerIndex arrayIndex : Nat) (v : List TextureUnit) :
    Kept bindings (p.updateSamplerUniform samplerIndex arrayIndex v) ∧ ∀ unit, p.MarkedInUse unit ∨
          (∃ count, bindings[samplerIndex]? = some (false, count) ∧
            unit ∈ v.take (count - arrayIndex)) →
        (p.updateSamplerUniform samplerIndex arrayIndex v).MarkedInUse unit := by
  unfold updateSamplerUniform
  cases hbinding : p.mSamplerBindings[samplerIndex]? with
  | none =>
      refine ⟨h, fun unit hunit => hunit.resolve_right ?_⟩
      rintro ⟨count, hshape, -⟩
      obtain ⟨binding, hget, -⟩ := h.getElem? hshape
      simp [hbinding] at hget
  | some binding =>
    have hshape : bindings[samplerIndex]? =
        some (binding.unreferenced, binding.boundTextureUnits.length) := by
      simp [← h.shape_eq, shape, hbinding]
    dsimp only
    cases href : binding.unreferenced with
    | true =>
        refine ⟨h, fun unit hunit => hunit.resolve_right ?_⟩
        rintro ⟨count, hshape', -⟩
        simp [hshape, href] at hshape'
    | false =>
      rw [href] at hshape
      simp only [Bool.false_eq_true, if_false]
      generalize hcount : binding.boundTextureUnits.length = count at hshape
      by_cases harray : arrayIndex ≤ count
      · obtain ⟨hkept, hinUse⟩ := rebindElements_kept h hshape
          (v.take (min v.length (count - arrayIndex))) arrayIndex (by
            rw [length_take]
            omega)
        refine ⟨hkept, fun unit hunit => hinUse unit (hunit.imp_right ?_)⟩
        rintro ⟨count', hshape', hmem⟩
        obtain rfl : count = count' := by simpa [hshape] using hshape'
        rwa [Nat.min_comm, ← take_take, take_length]
      · have hzero : count - arrayIndex = 0 := by omega
        simp only [hzero, Nat.min_zero, take_zero, rebindElements]
        refine ⟨h, fun unit hunit => hunit.resolve_right ?_⟩
        rintro ⟨count', hshape', hmem⟩
        obtain rfl : count = count' := by simpa [hshape] using hshape'
        simp [hzero] at hmem

/-! ## The count of a link -/

/-- The count of an element by `updateActiveSamplers`. -/
def countMarked (p : ProgramState) (entry : TextureUnit × Element) : ProgramState :=
  (p.countElement entry.2 entry.1).setMask entry.1 true

def entries (bindings : List SamplerBinding) : List (TextureUnit × Element) :=
  bindings.flatMap fun binding =>
    if binding.unreferenced then []
    else binding.boundTextureUnits.map fun unit => (unit, binding.element)

theorem updateActiveSamplers_eq (p : ProgramState) :
    p.updateActiveSamplers = (entries p.mSamplerBindings).foldl countMarked
        { p with mActiveSamplerRefCounts := fun _ => 0 } := by
  unfold updateActiveSamplers entries
  rw [foldl_flatMap]
  congr 1
  funext q binding
  split
  · rfl
  · rw [foldl_map]
    rfl

theorem entriesAt_eq (bindings : List SamplerBinding) (unit : TextureUnit) :
    ((entries bindings).filter (·.1 = unit)).map Prod.snd = elementsAt bindings unit := by
  have hunits (element : Element) (units : List TextureUnit) :
      ((units.map fun u => (u, element)).filter (·.1 = unit)).map Prod.snd =
        replicate (units.count unit) element := by
    induction units with
    | nil => rfl
    | cons head units ih =>
        by_cases hhead : head = unit
        · simpa [hhead, replicate_succ] using ih
        · simpa [hhead] using ih
  simp only [entries, elementsAt, filter_flatMap, map_flatMap]
  congr 1
  funext binding
  unfold SamplerBinding.elementsAt
  split
  · rfl
  · exact hunits _ _

/-- After some entries have been counted every unit is described by those that are its own; a
mark has been there before or has been needed. -/
structure Counted (mask : ActiveTextureArray Bool) (counted : List (TextureUnit × Element))
    (p : ProgramState) : Prop where
  described : ∀ unit, Described ((counted.filter (·.1 = unit)).map Prod.snd)
    (p.mActiveSamplerRefCounts unit) (p.mActiveSamplersMask unit) (p.mActiveSamplerTypes unit)
    (p.mActiveSamplerFormats unit)
  mask : ∀ unit, p.mActiveSamplersMask unit →
    0 < p.mActiveSamplerRefCounts unit ∨ mask unit

theorem Counted.countMarked {mask : ActiveTextureArray Bool}
    {counted : List (TextureUnit × Element)} {p : ProgramState} (h : Counted mask counted p)
    (entry : TextureUnit × Element) : Counted mask (entry :: counted) (p.countMarked entry) where
  described unit := by
    by_cases hunit : entry.1 = unit
    · subst hunit
      have hcons := (h.described entry.1).cons entry.2 true (fun _ => rfl)
      simpa [ProgramState.countMarked, setMask, countElement] using hcons
    · have hold := h.described unit
      simpa [ProgramState.countMarked, setMask, countElement, hunit, Ne.symm hunit] using hold
  mask unit := by
    by_cases hunit : entry.1 = unit
    · subst hunit
      intro _
      exact .inl (by simp [ProgramState.countMarked, setMask, countElement])
    · simpa [ProgramState.countMarked, setMask, countElement, Ne.symm hunit] using h.mask unit

theorem Counted.foldl {mask : ActiveTextureArray Bool}
    {counted : List (TextureUnit × Element)} {p : ProgramState} (h : Counted mask counted p)
    (entries : List (TextureUnit × Element)) :
    Counted mask (entries.reverse ++ counted) (entries.foldl ProgramState.countMarked p) := by
  induction entries generalizing counted p with
  | nil => exact h
  | cons entry entries ih => simpa using ih (h.countMarked entry)

theorem foldl_countMarked_frame (entries : List (TextureUnit × Element)) (p : ProgramState) :
    (entries.foldl countMarked p).mSamplerBindings = p.mSamplerBindings ∧
      (entries.foldl countMarked p).mLinked = p.mLinked := by
  induction entries generalizing p with
  | nil => exact ⟨rfl, rfl⟩
  | cons entry entries ih => exact ih (p.countMarked entry)

theorem updateActiveSamplers_described (p : ProgramState) :
    (∀ unit, p.updateActiveSamplers.UnitDescribed unit) ∧
      ∀ unit, p.mActiveSamplersMask unit = false →
        p.updateActiveSamplers.MarkedInUse unit := by
  have hzero : Counted p.mActiveSamplersMask [] { p with mActiveSamplerRefCounts := fun _ => 0 } :=
    ⟨fun _ => .nil _ _ _, fun _ hmask => .inr hmask⟩
  have hcounted := hzero.foldl (entries p.mSamplerBindings)
  rw [← updateActiveSamplers_eq, append_nil] at hcounted
  have hbindings : p.updateActiveSamplers.mSamplerBindings = p.mSamplerBindings := by
    rw [updateActiveSamplers_eq]
    exact (foldl_countMarked_frame _ _).1
  constructor
  · intro unit
    unfold UnitDescribed
    rw [hbindings, ← entriesAt_eq]
    exact (hcounted.described unit).perm (((reverse_perm _).filter _).map _)
  · intro unit hmask hmarked
    exact (hcounted.mask unit hmarked).resolve_right (by simp [hmask])

theorem updateActiveSamplers_bindings (p : ProgramState) :
    p.updateActiveSamplers.mSamplerBindings = p.mSamplerBindings := by
  rw [updateActiveSamplers_eq]
  exact (foldl_countMarked_frame _ _).1

/-! ## Links and loads -/

theorem setUniformValuesFromBindingQualifiers_kept {bindings : List (Bool × Nat)}
    {p : ProgramState} (h : Kept bindings p) (uniforms : List SamplerUniform) (first : Nat)
    (hshape : ∀ i uniform, uniforms[i]? = some uniform →
      bindings[first + i]? = some (uniform.unreferenced, uniform.elementCount)) :
    Kept bindings (setUniformValuesFromBindingQualifiers p first uniforms) ∧
      ∀ unit, p.MarkedInUse unit ∨ (∃ uniform ∈ uniforms, uniform.Binds unit) →
        (setUniformValuesFromBindingQualifiers p first uniforms).MarkedInUse unit := by
  induction uniforms generalizing p first with
  | nil => exact ⟨h, fun unit hunit => hunit.resolve_right (by simp)⟩
  | cons uniform uniforms ih =>
    have hfirst : bindings[first]? = some (uniform.unreferenced, uniform.elementCount) :=
      hshape 0 uniform rfl
    have hrest : ∀ i other, uniforms[i]? = some other →
        bindings[first + 1 + i]? = some (other.unreferenced, other.elementCount) := by
      intro i other hother
      have hnext := hshape (i + 1) other hother
      rwa [show first + (i + 1) = first + 1 + i by omega] at hnext
    unfold setUniformValuesFromBindingQualifiers
    cases hbinding : uniform.binding with
    | none =>
      obtain ⟨hkept, hinUse⟩ := ih h (first + 1) hrest
      refine ⟨hkept, fun unit hunit => hinUse unit (hunit.imp_right ?_)⟩
      rintro ⟨other, hmem, hbinds⟩
      rcases mem_cons.mp hmem with rfl | hmem
      · obtain ⟨-, units, hunits, -⟩ := hbinds
        simp [hbinding] at hunits
      · exact ⟨other, hmem, hbinds⟩
    | some units =>
      obtain ⟨hupdated, hupdatedInUse⟩ := updateSamplerUniform_kept h first 0 units
      obtain ⟨hkept, hinUse⟩ := ih hupdated (first + 1) hrest
      refine ⟨hkept, fun unit hunit => hinUse unit ?_⟩
      rcases hunit with hunit | ⟨other, hmem, hbinds⟩
      · exact .inl (hupdatedInUse unit (.inl hunit))
      rcases mem_cons.mp hmem with rfl | hmem
      · obtain ⟨href, units', hunits', hmem'⟩ := hbinds
        obtain rfl : units = units' := by simpa [hbinding] using hunits'
        exact .inl (hupdatedInUse unit (.inr ⟨_, hfirst.trans (by rw [href]), hmem'⟩))
      · exact .inr ⟨other, hmem, hbinds⟩

theorem unlink_linkSamplerBindings_mark (p : ProgramState) (uniforms : List SamplerUniform) :
    ((p.unlink.linkSamplerBindings uniforms).markUnusedUniformLocations uniforms).mSamplerBindings =
      uniforms.map fun uniform =>
        .make uniform.textureType uniform.format uniform.elementCount uniform.unreferenced := by
  simp only [unlink, linkSamplerBindings, markUnusedUniformLocations, nil_append,
    zipWith_map_left, zipWith_self]
  simp [SamplerBinding.make]

theorem firstUnit_inUse {p : ProgramState} (binding : SamplerBinding)
    (hdescribed : p.UnitDescribed firstUnit) (hmem : binding ∈ p.mSamplerBindings)
    (href : binding.unreferenced = false) (hunit : firstUnit ∈ binding.boundTextureUnits) :
    p.MarkedInUse firstUnit := by
  obtain ⟨i, hi⟩ := mem_iff_getElem?.mp hmem
  obtain ⟨j, hj⟩ := mem_iff_getElem?.mp hunit
  exact hdescribed.markedInUse (elementsAt_ne_nil hi href hj)

theorem linkSucceeds_exact (p : ProgramState) {uniforms : List SamplerUniform}
    (hmarks : ∀ unit, p.mActiveSamplersMask unit →
      ∃ uniform ∈ uniforms, uniform.Touches unit) :
    (p.link (.succeeds uniforms)).ActiveSamplersExact := by
  let linked := { p.unlink.linkSamplerBindings uniforms with mLinked := true }
  let marked := linked.markUnusedUniformLocations uniforms
  have hbindings := unlink_linkSamplerBindings_mark p uniforms
  have hcounted : marked.updateActiveSamplers.mSamplerBindings = uniforms.map fun uniform =>
      .make uniform.textureType uniform.format uniform.elementCount uniform.unreferenced :=
    (updateActiveSamplers_bindings marked).trans hbindings
  obtain ⟨hdescribed, hunmarked⟩ := updateActiveSamplers_described marked
  have hkept : Kept (uniforms.map fun uniform => (uniform.unreferenced, uniform.elementCount))
      marked.updateActiveSamplers := by
    refine ⟨hdescribed, ?_⟩
    simp [hcounted, shape, SamplerBinding.make, Function.comp_def]
  obtain ⟨hfinal, hinUse⟩ := setUniformValuesFromBindingQualifiers_kept hkept uniforms 0
    (fun i uniform huniform => by simp [huniform])
  intro unit
  refine (unitExact_iff _ unit).mpr ⟨hfinal.described unit, hinUse unit ?_⟩
  by_cases hmask : p.mActiveSamplersMask unit
  · obtain ⟨uniform, hmem, href, hunit⟩ := hmarks unit hmask
    rcases hunit with ⟨rfl, hpos⟩ | ⟨units, hunits, hunit⟩
    · refine .inl (firstUnit_inUse (.make uniform.textureType uniform.format
        uniform.elementCount uniform.unreferenced) (hdescribed _) ?_ href ?_)
      · rw [hcounted]
        exact mem_map_of_mem hmem
      · simpa [SamplerBinding.make] using Nat.ne_of_gt hpos
    · exact .inr ⟨uniform, hmem, href, units, hunits, hunit⟩
  · exact .inl (hunmarked unit (Bool.eq_false_iff.mpr hmask))

theorem unlink_exact {p : ProgramState} (h : p.ActiveSamplersExact)
    (hmarks : ∀ unit, p.mActiveSamplersMask unit = false) : p.unlink.ActiveSamplersExact := by
  intro unit
  have hcount : p.mActiveSamplerRefCounts unit = 0 := by
    have hmask := (h unit).mask
    rw [hmarks unit] at hmask
    simpa using hmask
  exact ⟨hcount, by simp [unlink, hmarks unit, hcount],
    fun hpos => absurd hcount (Nat.ne_of_gt hpos), fun hpos => absurd hcount (Nat.ne_of_gt hpos)⟩

theorem loadBinary_exact (p : ProgramState)
    {bindings : List (TextureType × SamplerFormat × Nat × Bool)} {loads : Bool}
    (hmarks : ∀ unit, p.mActiveSamplersMask unit →
      unit = firstUnit ∧ ∃ binding ∈ bindings, 0 < binding.2.2.1 ∧ binding.2.2.2 = false) :
    (p.loadBinary (.deserialized bindings loads)).ActiveSamplersExact := by
  let loaded := { p.unlink with
    mSamplerBindings := bindings.map fun (type, format, count, unreferenced) =>
      SamplerBinding.make type format count unreferenced }
  obtain ⟨hdescribed, hunmarked⟩ := updateActiveSamplers_described loaded
  have hinUse (unit : TextureUnit) : loaded.updateActiveSamplers.MarkedInUse unit := by
    by_cases hmask : p.mActiveSamplersMask unit
    · obtain ⟨rfl, binding, hmem, hpos, href⟩ := hmarks unit hmask
      refine firstUnit_inUse (.make binding.1 binding.2.1 binding.2.2.1 binding.2.2.2)
        (hdescribed _) ?_ href ?_
      · rw [updateActiveSamplers_bindings]
        exact mem_map_of_mem hmem
      · simpa [SamplerBinding.make] using Nat.ne_of_gt hpos
    · exact hunmarked unit (Bool.eq_false_iff.mpr hmask)
  intro unit
  have hexact := (unitExact_iff _ unit).mpr ⟨hdescribed unit, hinUse unit⟩
  exact { hexact with }

/-- No unit keeps a mark that the operation leaves it without need: what a link or load leaves
are the units that the new samplers touch, and one that fails finds and leaves none. -/
def Action.KeepsNoMark (p : ProgramState) : Action → Prop
  | .link .failsBefore | .loadBinary .rejected => ∀ unit, p.mActiveSamplersMask unit = false
  | .link (.failsAfter uniforms) =>
    (∀ unit, p.mActiveSamplersMask unit = false) ∧ uniforms = []
  | .link (.succeeds uniforms) => ∀ unit, p.mActiveSamplersMask unit →
    ∃ uniform ∈ uniforms, uniform.Touches unit
  | .loadBinary (.deserialized bindings _) => ∀ unit, p.mActiveSamplersMask unit →
    unit = firstUnit ∧ ∃ binding ∈ bindings, 0 < binding.2.2.1 ∧ binding.2.2.2 = false
  | .setUniform1iv .. => True

/-- One operation that keeps no mark keeps the samplers described. -/
theorem exact_step {p p' : ProgramState} {action : Action} (h : p.ActiveSamplersExact)
    (hguard : action.KeepsNoMark p) (hstep : p.step action = some p') :
    p'.ActiveSamplersExact := by
  cases action with
  | link result =>
    cases hstep
    cases result with
    | failsBefore => exact unlink_exact h hguard
    | failsAfter uniforms =>
        obtain ⟨hmarks, rfl⟩ := hguard
        have hunlink := unlink_exact h hmarks
        exact hunlink
    | succeeds uniforms => exact linkSucceeds_exact p hguard
  | loadBinary result =>
      cases hstep
      cases result with
      | rejected => exact unlink_exact h hguard
      | deserialized bindings loads => exact loadBinary_exact p hguard
  | setUniform1iv samplerIndex arrayIndex v =>
    obtain ⟨-, ⟨⟩⟩ := Option.ite_none_right_eq_some.mp hstep
    have hkept : Kept (shape p.mSamplerBindings) p :=
      ⟨fun unit => ((unitExact_iff p unit).mp (h unit)).1, rfl⟩
    obtain ⟨hupdated, hinUse⟩ := updateSamplerUniform_kept hkept samplerIndex arrayIndex v
    intro unit
    have hmarked := ((unitExact_iff p unit).mp (h unit)).2
    exact (unitExact_iff _ unit).mpr ⟨hupdated.described unit, hinUse unit (.inl hmarked)⟩

theorem exact_init : init.ActiveSamplersExact := fun _ =>
  ⟨rfl, by simp [init], fun h => absurd h (Nat.lt_irrefl 0), fun h => absurd h (Nat.lt_irrefl 0)⟩

/-- In a run whose links and loads keep no mark, the counts, marks, types and formats describe
the units that samplers are bound to in every state. -/
theorem run_activeSamplersExact {p : ProgramState} {actions : List Action}
    (hrun : Run step (fun p action => action.KeepsNoMark p) init actions p) :
    p.ActiveSamplersExact :=
  hrun.invariant (fun _ _ _ h hguard hstep => exact_step h hguard hstep) exact_init

/-- A sampler with the `layout(binding)` of the second unit. -/
def boundSampler : SamplerUniform := ⟨._2D, .Float, 1, some [⟨1, by decide⟩], false⟩

theorem run_activeSamplersExact_relink :
    ∃ p, Run step (fun p action => action.KeepsNoMark p) init
      [.link (.succeeds [boundSampler]), .setUniform1iv 0 0 [firstUnit],
        .link (.succeeds [boundSampler])] p ∧ p.ActiveSamplersExact := by
  let linked := init.link (.succeeds [boundSampler])
  let updated := linked.updateSamplerUniform 0 0 [firstUnit]
  have hunmarked : (Action.link (.succeeds [boundSampler])).KeepsNoMark init := by
    intro unit hmask
    cases hmask
  have henabled : linked.mLinked = true ∧ ∃ binding ∈ linked.mSamplerBindings[0]?,
      0 < binding.boundTextureUnits.length := by
    decide +kernel
  have hupdate : linked.step (.setUniform1iv 0 0 [firstUnit]) = some updated :=
    Option.ite_none_right_eq_some.mpr ⟨henabled, rfl⟩
  have hmarks : ∀ unit, updated.mActiveSamplersMask unit = true → unit = firstUnit := by
    decide +kernel
  have htouched : (Action.link (.succeeds [boundSampler])).KeepsNoMark updated := by
    intro unit hmask
    exact ⟨boundSampler, by simp, rfl, .inl ⟨hmarks unit hmask, by decide⟩⟩
  have hrun : Run step (fun p action => action.KeepsNoMark p) init
      [.link (.succeeds [boundSampler]), .setUniform1iv 0 0 [firstUnit],
        .link (.succeeds [boundSampler])] (updated.link (.succeeds [boundSampler])) :=
    .cons hunmarked rfl (.cons trivial hupdate (.single htouched rfl))
  exact ⟨_, hrun, run_activeSamplersExact hrun⟩

/-- A relink without samplers leaves the mark of a unit that the samplers before were bound to. -/
theorem relink_keepsMark :
    ¬ ∀ (actions : List Action) (p : ProgramState),
      Run step anyStep init actions p → p.ActiveSamplersExact := by
  intro hall
  have hrun : Run step anyStep init [.link (.succeeds [boundSampler]), .link (.succeeds [])]
      ((init.link (.succeeds [boundSampler])).link (.succeeds [])) :=
    .cons trivial rfl (.single trivial rfl)
  have hexact := hall _ _ hrun ⟨1, by decide⟩
  have hmask := hexact.mask.mp (by decide +kernel)
  revert hmask
  decide +kernel

end ProgramState

end MetalAngle.Gl.ActiveSamplers
