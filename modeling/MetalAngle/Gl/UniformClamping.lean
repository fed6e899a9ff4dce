import MetalAngle.Gl.ValueTypes

/-!
# Clamping of uniform uploads

`clampUniformCount` and `clampMatrixUniformCount` cut the count of a `glUniform*` call down to the
elements of the array from the location to its end.  The product of the count and the size of a
vector is computed in 32 bits.
-/

namespace MetalAngle.Gl.LinkedProgram

open Linking Int32 ProgramState

/-- `setUniform1fv` to `setUniformMatrix4x3fv`. -/
inductive UniformSetter
  | vector (componentType : ComponentType) (size : VectorSize)
  | matrix (cols rows : MatrixSize) (transpose : Bool)

/-- The types of `IsSamplerType`. -/
def samplerTypes : List GLenum :=
  [0x8B5E, 0x8B5F, 0x8B60, 0x8DC1, 0x8D66, 0x9108, 0x910B, 0x8B63, 0x8DCA, 0x8DCB, 0x8DCC, 0x8DCF,
    0x9109, 0x910C, 0x8DD2, 0x8DD3, 0x8DD4, 0x8DD7, 0x910A, 0x910D, 0x8B62, 0x8DC5, 0x8DC4]

/-- `UniformTypeInfo::componentCount` of the types that a setter accepts. -/
def uniformComponentCounts : List (GLenum × Nat) :=
  [(0x1406, 1), (0x8B50, 2), (0x8B51, 3), (0x8B52, 4), (0x1404, 1), (0x8B53, 2), (0x8B54, 3),
    (0x8B55, 4), (0x1405, 1), (0x8DC6, 2), (0x8DC7, 3), (0x8DC8, 4), (0x8B56, 1), (0x8B57, 2),
    (0x8B58, 3), (0x8B59, 4), (0x8B5A, 4), (0x8B5B, 9), (0x8B5C, 16), (0x8B65, 6), (0x8B66, 8),
    (0x8B67, 6), (0x8B68, 12), (0x8B69, 8), (0x8B6A, 12)] ++ samplerTypes.map fun type => (type, 1)

def LinkedUniform.getElementComponents (uniform : LinkedUniform) : Nat :=
  (uniformComponentCounts.lookup uniform.type).getD 0

def ShaderVariable.getBasicTypeElementCount (var : ShaderVariable) : UInt32 :=
  if var.isArray then var.arraySizes.getLastD 0 else 1

theorem componentCount_vectorType (componentType : ComponentType) (size : VectorSize) :
    (uniformComponentCounts.lookup (vectorType componentType size)).getD 0 = size.toNat := by
  cases componentType <;> cases size <;> rfl

theorem componentCount_boolVectorType (size : VectorSize) :
    (uniformComponentCounts.lookup (boolVectorType size)).getD 0 = size.toNat := by
  cases size <;> rfl

theorem componentCount_matrixType (cols rows : MatrixSize) :
    (uniformComponentCounts.lookup (matrixType cols rows)).getD 0 = cols.toNat * rows.toNat := by
  cases cols <;> cases rows <;> rfl

theorem componentCount_samplerType :
    ∀ type ∈ samplerTypes, (uniformComponentCounts.lookup type).getD 0 = 1 := by
  have hall : (samplerTypes.all fun type =>
      decide ((uniformComponentCounts.lookup type).getD 0 = 1)) = true := rfl
  intro type htype
  exact of_decide_eq_true (List.all_eq_true.mp hall type htype)

namespace UniformSetter

def components : UniformSetter → Nat
  | .vector _ size => size.toNat
  | .matrix cols rows _ => cols.toNat * rows.toNat

def transposes : UniformSetter → Bool
  | .vector _ _ => false
  | .matrix _ _ transpose => transpose

/-- `ValidateUniformValue`, `ValidateUniform1ivValue` and `ValidateUniformMatrixValue`. -/
def accepts : UniformSetter → GLenum → Bool
  | .vector componentType size, uniformType =>
      vectorType componentType size = uniformType || boolVectorType size = uniformType ||
        (componentType = .int && size = .one && samplerTypes.contains uniformType)
  | .matrix cols rows _, uniformType => matrixType cols rows = uniformType

theorem getElementComponents_of_accepts {setter : UniformSetter} {uniform : LinkedUniform}
    (h : setter.accepts uniform.type) :
    uniform.getElementComponents = setter.components := by
  unfold LinkedUniform.getElementComponents
  cases setter with
  | vector componentType size =>
    simp only [accepts, Bool.or_eq_true, Bool.and_eq_true, decide_eq_true_eq,
      List.contains_iff_mem] at h
    obtain (htype | htype) | ⟨⟨-, rfl⟩, hsampler⟩ := h
    · rw [← htype, componentCount_vectorType]
      rfl
    · rw [← htype, componentCount_boolVectorType]
      rfl
    · exact componentCount_samplerType _ hsampler
  | matrix cols rows transpose =>
      have htype : matrixType cols rows = uniform.type := of_decide_eq_true h
      rw [← htype, componentCount_matrixType]
      rfl

end UniformSetter

namespace ProgramState

variable (p : ProgramState)

def clampUniformCount (locationInfo : VariableLocation) (count vectorSize : Int32) :
    Option Int32 :=
  if count = 1 then some 1
  else do
    let linkedUniform ← p.mUniforms[locationInfo.index.toNat]?
    let remainingElements := linkedUniform.getBasicTypeElementCount - locationInfo.arrayIndex
    let maxElementCount :=
      Int32.ofNat (remainingElements.toNat * linkedUniform.getElementComponents)
    if count * vectorSize > maxElementCount then some (maxElementCount / vectorSize)
    else some count

/-- `clampMatrixUniformCount`, where the location and the uniform exist. -/
def clampMatrixUniformCount (cols rows : Nat) (location : Nat) (count : Int32)
    (transpose : Bool) : Option Int32 := do
  let locationInfo ← p.mUniformLocations[location]?
  if !transpose then p.clampUniformCount locationInfo count (Int32.ofNat (cols * rows))
  else
    let linkedUniform ← p.mUniforms[locationInfo.index.toNat]?
    let remainingElements := linkedUniform.getBasicTypeElementCount - locationInfo.arrayIndex
    some (min count (Int32.ofNat remainingElements.toNat))

def clampedCount (setter : UniformSetter) (location : Nat) (count : Int32) : Option Int32 :=
  match setter with
  | .vector _ size => do
      let locationInfo ← p.mUniformLocations[location]?
      p.clampUniformCount locationInfo count (Int32.ofNat size.toNat)
  | .matrix cols rows transpose =>
      p.clampMatrixUniformCount cols.toNat rows.toNat location count transpose

end ProgramState

/-- A call that validation lets through, at an element of a uniform that the link has accepted. -/
structure ValidUpload (p : ProgramState) (setter : UniformSetter) (location : Nat) (count : Int32)
    (locationInfo : VariableLocation) (uniform : LinkedUniform) : Prop where
  nonneg : 0 ≤ count.toInt
  locationInfo_eq : p.mUniformLocations[location]? = some locationInfo
  uniform_eq : p.mUniforms[locationInfo.index.toNat]? = some uniform
  type : setter.accepts uniform.type
  element : locationInfo.arrayIndex < uniform.getBasicTypeElementCount
  /-- The link bounds the vectors of all uniforms. -/
  fits : uniform.getBasicTypeElementCount.toNat * uniform.getElementComponents < 2 ^ 31

def remainingElements (locationInfo : VariableLocation) (uniform : LinkedUniform) : Nat :=
  uniform.getBasicTypeElementCount.toNat - locationInfo.arrayIndex.toNat

/-- At most the remaining elements, and the requested count where it fits. -/
def Clamps (remaining : Nat) (count clamped : Int32) : Prop :=
  clamped.toInt ≤ remaining ∧ (count.toInt ≤ remaining → clamped = count)

def wrappedProduct (count : Int32) (components : Nat) : Int :=
  (count.toInt * components).bmod (2 ^ 32)

variable {p : ProgramState} {setter : UniformSetter} {location : Nat} {count : Int32}
  {locationInfo : VariableLocation} {uniform : LinkedUniform}

theorem UniformSetter.components_bounds (setter : UniformSetter) :
    0 < setter.components ∧ setter.components ≤ 16 := by
  cases setter with
  | vector _ size => exact ⟨size.toNat_bounds.1, le_trans size.toNat_bounds.2 (by decide)⟩
  | matrix cols rows _ =>
      exact ⟨Nat.mul_pos cols.toNat_bounds.1 rows.toNat_bounds.1,
        Nat.mul_le_mul cols.toNat_bounds.2 rows.toNat_bounds.2⟩

namespace ValidUpload

variable (h : ValidUpload p setter location count locationInfo uniform)

include h

theorem toNat_remaining :
    (uniform.getBasicTypeElementCount - locationInfo.arrayIndex).toNat =
      remainingElements locationInfo uniform :=
  UInt32.toNat_sub_of_le _ _ (UInt32.le_of_lt h.element)

theorem remaining_pos : 0 < remainingElements locationInfo uniform :=
  Nat.sub_pos_of_lt (UInt32.lt_iff_toNat_lt.mp h.element)

theorem remaining_fits :
    remainingElements locationInfo uniform * setter.components < 2 ^ 31 := by
  have hfits := h.fits
  rw [setter.getElementComponents_of_accepts h.type] at hfits
  exact lt_of_le_of_lt (Nat.mul_le_mul_right _ (Nat.sub_le _ _)) hfits

theorem remaining_lt : remainingElements locationInfo uniform < 2 ^ 31 :=
  lt_of_le_of_lt (Nat.le_mul_of_pos_right _ setter.components_bounds.1) h.remaining_fits

/-- What `clampUniformCount` returns: the wrapped product is compared with the components that
remain. -/
theorem clampUniformCount_eq :
    p.clampUniformCount locationInfo count (Int32.ofNat setter.components) =
      some (if count = 1 then 1
        else if (remainingElements locationInfo uniform * setter.components : Nat) <
            wrappedProduct count setter.components then
          Int32.ofNat (remainingElements locationInfo uniform)
        else count) := by
  have hpos := setter.components_bounds.1
  have hcomponents : (ofNat setter.components).toInt = setter.components :=
    toInt_ofNat_of_lt (lt_of_le_of_lt setter.components_bounds.2 (by decide))
  have hmax : (ofNat (remainingElements locationInfo uniform * setter.components)).toInt =
        (remainingElements locationInfo uniform * setter.components : Nat) :=
    toInt_ofNat_of_lt h.remaining_fits
  have hdiv : ofNat (remainingElements locationInfo uniform * setter.components) /
      ofNat setter.components = ofNat (remainingElements locationInfo uniform) := by
    apply toInt_inj.mp
    rw [toInt_div_of_ne_right, hmax, hcomponents, toInt_ofNat_of_lt h.remaining_lt,
      ← Int.ofNat_tdiv, Nat.mul_div_cancel _ hpos]
    intro hminus
    rw [hminus] at hcomponents
    have : (-1 : Int32).toInt = -1 := by decide
    omega
  have hproduct : (count * ofNat setter.components).toInt =
      wrappedProduct count setter.components := by
    rw [toInt_mul, hcomponents, wrappedProduct]
  unfold clampUniformCount
  rw [h.uniform_eq]
  dsimp only [Option.bind_eq_bind, Option.bind_some]
  rw [h.toNat_remaining, setter.getElementComponents_of_accepts h.type, hdiv]
  simp only [gt_iff_lt, lt_iff_toInt_lt, hmax, hproduct]
  split
  case isTrue => rfl
  case isFalse =>
    split
    case isTrue => rfl
    case isFalse => rfl

theorem wrappedProduct_le (hle : count.toInt ≤ remainingElements locationInfo uniform) :
    wrappedProduct count setter.components ≤
      (remainingElements locationInfo uniform * setter.components : Nat) := by
  have hfits := h.remaining_fits
  have hnonneg : 0 ≤ count.toInt * setter.components :=
    Int.mul_nonneg h.nonneg (Int.natCast_nonneg _)
  have hproduct : count.toInt * setter.components ≤
      (remainingElements locationInfo uniform * setter.components : Nat) := by
    rw [Int.natCast_mul]
    exact Int.mul_le_mul_of_nonneg_right hle (Int.natCast_nonneg _)
  rw [wrappedProduct, Int.bmod_eq_of_le (by omega) (by omega)]
  exact hproduct

theorem clamps_of_min :
    Clamps (remainingElements locationInfo uniform) count
      (min count (Int32.ofNat (remainingElements locationInfo uniform))) := by
  have hremaining := toInt_ofNat_of_lt h.remaining_lt
  by_cases hle : count.toInt ≤ remainingElements locationInfo uniform
  · have hmin : min count (ofNat (remainingElements locationInfo uniform)) = count :=
      if_pos (Int32.le_iff_toInt_le.mpr (by rwa [hremaining]))
    rw [hmin]
    exact ⟨hle, fun _ => rfl⟩
  · have hmin : min count (ofNat (remainingElements locationInfo uniform)) =
        ofNat (remainingElements locationInfo uniform) :=
      if_neg fun hcount => hle (by rw [← hremaining]; exact Int32.le_iff_toInt_le.mp hcount)
    rw [hmin]
    exact ⟨Int.le_of_eq hremaining, fun hfits => absurd hfits hle⟩

/-- Without transposition the count is clamped unless the product wraps to one that fits. -/
theorem clampUniformCount_clamps_iff :
    (∃ clamped, p.clampUniformCount locationInfo count (Int32.ofNat setter.components) =
        some clamped ∧ Clamps (remainingElements locationInfo uniform) count clamped) ↔
      count = 1 ∨ count.toInt ≤ remainingElements locationInfo uniform ∨
        (remainingElements locationInfo uniform * setter.components : Nat) <
          wrappedProduct count setter.components := by
  rw [h.clampUniformCount_eq]
  simp only [Option.some.injEq, exists_eq_left']
  split
  case isTrue hone =>
    have hpos := h.remaining_pos
    refine iff_of_true ⟨?_, fun _ => hone.symm⟩ (.inl hone)
    show (1 : Int) ≤ _
    omega
  case isFalse hone =>
    split
    case isTrue hexceeds =>
      refine iff_of_true ⟨Int.le_of_eq (toInt_ofNat_of_lt h.remaining_lt), fun hle => ?_⟩
        (.inr (.inr hexceeds))
      exact absurd hexceeds (Int.not_lt.mpr (h.wrappedProduct_le hle))
    case isFalse hfits =>
      constructor
      · exact fun hclamps => .inr (.inl hclamps.1)
      · rintro (hcount | hcount | hcount)
        · exact absurd hcount hone
        · exact ⟨hcount, fun _ => rfl⟩
        · exact absurd hcount hfits

end ValidUpload

/-- The kinds of upload whose count is clamped: a transposed one, one of a single element, one that
fits, and one whose product still exceeds the remaining components after it has wrapped. -/
def KeepsClamp (setter : UniformSetter) (remaining : Nat) (count : Int32) : Prop :=
  setter.transposes ∨ count = 1 ∨ count.toInt ≤ remaining ∨
    (remaining * setter.components : Nat) < wrappedProduct count setter.components

/-- The count that reaches the back end is clamped exactly for these kinds of upload. -/
theorem clampedCount_clamps_iff
    (h : ValidUpload p setter location count locationInfo uniform) :
    (∃ clamped, p.clampedCount setter location count = some clamped ∧
        Clamps (remainingElements locationInfo uniform) count clamped) ↔
      KeepsClamp setter (remainingElements locationInfo uniform) count := by
  have hplain := h.clampUniformCount_clamps_iff
  cases setter with
  | vector componentType size =>
      unfold clampedCount KeepsClamp
      rw [h.locationInfo_eq]
      exact hplain.trans (or_iff_right Bool.false_ne_true).symm
  | matrix cols rows transpose =>
    unfold clampedCount KeepsClamp clampMatrixUniformCount
    rw [h.locationInfo_eq]
    cases transpose with
    | false => exact hplain.trans (or_iff_right Bool.false_ne_true).symm
    | true =>
        refine iff_of_true ⟨_, ?_, h.clamps_of_min⟩ (.inl rfl)
        dsimp only [Option.bind_eq_bind, Option.bind_some]
        rw [h.uniform_eq, ← h.toNat_remaining]
        rfl

/-- `uniform vec4 a[3]`. -/
def vec4Array : LinkedUniform where
  type := 0x8B52
  precision := 0
  name := []
  mappedName := []
  arraySizes := [3]
  staticUse := true
  active := true
  structName := []
  flattenedOffsetInParentArrays := -1
  bufferIndex := -1
  blockInfo := ⟨-1, false, -1, -1, -1⟩
  activeShaders := .ofBits 1
  outerArraySizes := []

def vec4Program : ProgramState :=
  { ProgramState.init with
    mUniforms := [vec4Array]
    mUniformLocations := [⟨0, 0, false⟩, ⟨1, 0, false⟩, ⟨2, 0, false⟩] }

theorem validUpload_vec4 (count : Int32) (hcount : 0 ≤ count.toInt) :
    ValidUpload vec4Program (.vector .float .four) 1 count ⟨1, 0, false⟩ vec4Array where
  nonneg := hcount
  locationInfo_eq := rfl
  uniform_eq := rfl
  type := by decide
  element := by decide
  fits := by decide

theorem clampedCount_clamps_three :
    ∃ clamped, vec4Program.clampedCount (.vector .float .four) 1 3 = some clamped ∧
      Clamps 2 3 clamped :=
  (clampedCount_clamps_iff (validUpload_vec4 3 (by decide))).mpr (.inr (.inr (.inr (by decide))))

theorem not_clamps_wrapped :
    ValidUpload vec4Program (.vector .float .four) 1 (2 ^ 30) ⟨1, 0, false⟩ vec4Array ∧
      remainingElements ⟨1, 0, false⟩ vec4Array = 2 ∧
      vec4Program.clampedCount (.vector .float .four) 1 (2 ^ 30) = some (2 ^ 30) ∧
      ¬ Clamps 2 (2 ^ 30) (2 ^ 30) :=
  ⟨validUpload_vec4 _ (by decide), by decide, by decide, fun h => absurd h.1 (by decide)⟩

end MetalAngle.Gl.LinkedProgram
