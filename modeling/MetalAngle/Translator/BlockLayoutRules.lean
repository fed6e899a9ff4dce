import MetalAngle.Lib.AlignedLayout
import MetalAngle.Translator.BlockLayout

/-!
# The layout rules of OpenGL ES 3.1, section 7.6.2.2

The rules give every variable a base alignment, strides and a size.  Members of a struct follow each
other from the base of the struct, and elements of an array are one stride apart, whatever lies
before them.  The unit `N` of the rules is a component.
-/

namespace MetalAngle.Translator

open AlignedLayout List BlockLayoutEncoder

/-! ## Alignments, strides and sizes -/

/-- Rules 1 to 3: scalars and vectors are aligned to `N`, `2N` and `4N`. -/
def vectorAlignment : Nat → Nat
  | 1 => 1
  | 2 => 2
  | _ => 4

/-- In std140 the base alignments and strides of arrays and structs are rounded up to that of a
`vec4`. -/
def BlockLayoutEncoder.roundToVec4 (encoder : BlockLayoutEncoder) (alignment : Nat) : Nat :=
  match encoder with
  | Std140BlockEncoder => alignUp 4 alignment
  | Std430BlockEncoder => alignment

structure VariableLayout where
  alignment : Nat
  arrayStride : Nat
  matrixStride : Nat
  size : Nat

/-- Rules 1 to 8.  An array of scalars or vectors has the stride and the base alignment of rule 4.
A matrix is an array of its columns or rows.  An unsized array has no elements in the block. -/
def BlockLayoutEncoder.variableLayout (encoder : BlockLayoutEncoder) (type : VariableType)
    (arraySizes : List Nat) (isRowMajor : Bool) : VariableLayout :=
  let columns := type.variableColumnCount
  let rows := type.variableRowCount
  if type.isMatrixType then
    let vectors := if isRowMajor then rows else columns
    let components := if isRowMajor then columns else rows
    let matrixStride := encoder.roundToVec4 (vectorAlignment components)
    match arraySizes with
    | [] => ⟨matrixStride, 0, matrixStride, vectors * matrixStride⟩
    | arraySize :: _ =>
        ⟨matrixStride, vectors * matrixStride, matrixStride, arraySize * (vectors * matrixStride)⟩
  else
    match arraySizes with
    | [] => ⟨vectorAlignment columns, 0, 0, columns⟩
    | arraySize :: _ =>
        let stride := encoder.roundToVec4 (vectorAlignment columns)
        ⟨stride, stride, 0, arraySize * stride⟩

def BlockLayoutEncoder.structAlignment (encoder : BlockLayoutEncoder)
    (members : List (Shape VisitorCall)) : Nat :=
  encoder.roundToVec4 ((members.map Shape.alignment).foldr max 0)

/-! ## Variables -/

variable (encoder : BlockLayoutEncoder)

def variableShape (type : VariableType) (isRowMajor : Bool) : List Nat → Shape VisitorCall
  | arraySize :: nextArraySize :: arraySizes =>
      .repeated (max arraySize 1) (variableShape type isRowMajor (nextArraySize :: arraySizes))
  | arraySizes =>
      let layout := encoder.variableLayout type arraySizes isRowMajor
      .item (.visitVariable type arraySizes isRowMajor) layout.alignment layout.size

def structArrayShape (structShape : Shape VisitorCall) : List Nat → Shape VisitorCall
  | [] => structShape
  | arraySize :: arraySizes => .repeated (max arraySize 1) (structArrayShape structShape arraySizes)

mutual

def shaderVariableShape : ShaderVariable → Bool → Shape VisitorCall
  | .basic type arraySizes rowMajor, isRowMajorLayout =>
      variableShape encoder type ((isRowMajorLayout || rowMajor) && type.isMatrixType) arraySizes
  | .struct field fields arraySizes rowMajor, isRowMajorLayout =>
    let isRowMajor := isRowMajorLayout || rowMajor
    let members :=
      shaderVariableShape field isRowMajor :: shaderVariableShapes fields isRowMajor
    structArrayShape
      (.group (.enterStructAccess field fields isRowMajor)
        (.exitStructAccess field fields isRowMajor) (encoder.structAlignment members) members)
      arraySizes

def shaderVariableShapes : List ShaderVariable → Bool → List (Shape VisitorCall)
  | [], _ => []
  | var :: vars, isRowMajorLayout =>
      shaderVariableShape var isRowMajorLayout :: shaderVariableShapes vars isRowMajorLayout

end

def BlockLayoutEncoder.fieldsAlignment (field : ShaderVariable) (fields : List ShaderVariable)
    (isRowMajor : Bool) : Nat :=
  encoder.structAlignment (shaderVariableShapes encoder (field :: fields) isRowMajor)

def rulesPlacement (placed : PlacedItem VisitorCall) : Placement :=
  { call := placed.tag
    memberInfo :=
      match placed.tag with
      | .visitVariable type arraySizes isRowMajor =>
        let layout := encoder.variableLayout type arraySizes isRowMajor
        some
          { offset := placed.start * 4
            arrayStride := layout.arrayStride * 4
            matrixStride := layout.matrixStride * 4
            isRowMajorMatrix := isRowMajor }
      | _ => none
    currentOffset := placed.finish * 4 }

def rulesPlacements (fields : List ShaderVariable) (isRowMajorLayout : Bool) : List Placement :=
  (Shape.placeMembers (shaderVariableShapes encoder fields isRowMajorLayout) 0 0).map
    (rulesPlacement encoder)

/-! ## Base alignments -/

def IsBaseAlignment (alignment : Nat) : Prop := alignment = 1 ∨ alignment = 2 ∨ alignment = 4

namespace IsBaseAlignment

variable {alignment alignment' : Nat}

section

variable (h : IsBaseAlignment alignment)
include h

theorem pos : 0 < alignment := by
  unfold IsBaseAlignment at h
  omega

theorem dvd_of_le (h' : IsBaseAlignment alignment')
    (hle : alignment ≤ alignment') : alignment ∣ alignment' := by
  rcases h with rfl | rfl | rfl <;> rcases h' with rfl | rfl | rfl <;> omega

theorem dvd_four : alignment ∣ 4 := by
  rcases h with rfl | rfl | rfl <;> decide

theorem of_max (h' : IsBaseAlignment alignment') :
    IsBaseAlignment (max alignment alignment') := by
  rcases le_total alignment alignment' with hle | hle
  · rwa [max_eq_right hle]
  · rwa [max_eq_left hle]

theorem alignUp_four : alignUp 4 alignment = 4 := by
  rcases h with rfl | rfl | rfl <;> rfl

end

end IsBaseAlignment

theorem vectorAlignment_isBase (components : Nat) :
    IsBaseAlignment (vectorAlignment components) := by
  unfold vectorAlignment
  split
  · exact .inl rfl
  · exact .inr (.inl rfl)
  · exact .inr (.inr rfl)

theorem roundToVec4_isBase {alignment : Nat} (h : IsBaseAlignment alignment) :
    IsBaseAlignment (encoder.roundToVec4 alignment) := by
  cases encoder with
  | Std140BlockEncoder => exact .inr (.inr h.alignUp_four)
  | Std430BlockEncoder => exact h

theorem variableLayout_isBase (type : VariableType) (arraySizes : List Nat) (isRowMajor : Bool) :
    IsBaseAlignment (encoder.variableLayout type arraySizes isRowMajor).alignment := by
  unfold variableLayout
  have hround := fun components => roundToVec4_isBase encoder (vectorAlignment_isBase components)
  cases arraySizes <;> dsimp only <;> split
  · exact hround _
  · exact vectorAlignment_isBase _
  · exact hround _
  · exact hround _

theorem variableShape_isBase (type : VariableType) (isRowMajor : Bool) (arraySizes : List Nat) :
    IsBaseAlignment (variableShape encoder type isRowMajor arraySizes).alignment := by
  induction arraySizes with
  | nil => exact variableLayout_isBase encoder type [] isRowMajor
  | cons arraySize arraySizes ih =>
      cases arraySizes with
      | nil => exact variableLayout_isBase encoder type [arraySize] isRowMajor
      | cons nextArraySize arraySizes => exact ih

@[simp] theorem structArrayShape_alignment (shape : Shape VisitorCall) (arraySizes : List Nat) :
    (structArrayShape shape arraySizes).alignment = shape.alignment := by
  induction arraySizes with
  | nil => rfl
  | cons arraySize arraySizes ih => exact ih

variable {members : List (Shape VisitorCall)}

theorem structAlignment_isBase {member : Shape VisitorCall}
    (hmember : IsBaseAlignment member.alignment)
    (hmembers : ∀ m ∈ members, IsBaseAlignment m.alignment) :
    IsBaseAlignment (encoder.structAlignment (member :: members)) := by
  apply roundToVec4_isBase
  induction members generalizing member with
  | nil => simpa using hmember
  | cons next members ih =>
      apply hmember.of_max
      exact ih (hmembers next mem_cons_self)
        fun m hm => hmembers m (mem_cons_of_mem next hm)

mutual

theorem shaderVariableShape_isBase : (var : ShaderVariable) → (isRowMajorLayout : Bool) →
    IsBaseAlignment (shaderVariableShape encoder var isRowMajorLayout).alignment
  | .basic type arraySizes rowMajor, isRowMajorLayout =>
      variableShape_isBase encoder type _ arraySizes
  | .struct field fields arraySizes rowMajor, isRowMajorLayout => by
      rw [shaderVariableShape, structArrayShape_alignment]
      exact structAlignment_isBase encoder (shaderVariableShape_isBase field _)
        (shaderVariableShapes_isBase fields _)

theorem shaderVariableShapes_isBase : (vars : List ShaderVariable) → (isRowMajorLayout : Bool) →
    ∀ shape ∈ shaderVariableShapes encoder vars isRowMajorLayout, IsBaseAlignment shape.alignment
  | [], _, _, hshape => by contradiction
  | var :: vars, isRowMajorLayout, shape, hshape => by
      rcases mem_cons.mp hshape with rfl | hshape
      · exact shaderVariableShape_isBase var isRowMajorLayout
      · exact shaderVariableShapes_isBase vars isRowMajorLayout shape hshape

end

theorem fieldsAlignment_isBase (field : ShaderVariable) (fields : List ShaderVariable)
    (isRowMajor : Bool) : IsBaseAlignment (encoder.fieldsAlignment field fields isRowMajor) :=
  structAlignment_isBase encoder (shaderVariableShape_isBase encoder field isRowMajor)
    (shaderVariableShapes_isBase encoder fields isRowMajor)

/-! ## The shapes are well formed -/

theorem dvd_roundToVec4 {alignment alignment' : Nat} (h : IsBaseAlignment alignment)
    (h' : IsBaseAlignment alignment') (hle : alignment ≤ alignment') :
    alignment ∣ encoder.roundToVec4 alignment' := by
  apply h.dvd_of_le (roundToVec4_isBase encoder h')
  cases encoder with
  | Std140BlockEncoder => exact hle.trans (le_alignUp alignment' (by decide))
  | Std430BlockEncoder => exact hle

variable {shape : Shape VisitorCall}

theorem dvd_structAlignment {member : Shape VisitorCall}
    (hmembers : ∀ m ∈ member :: members, IsBaseAlignment m.alignment)
    (hshape : shape ∈ member :: members) :
    shape.alignment ∣ encoder.structAlignment (member :: members) := by
  have hle : ∀ {l : List (Shape VisitorCall)}, shape ∈ l →
      shape.alignment ≤ (l.map Shape.alignment).foldr max 0 := by
    intro l
    induction l with
    | nil => exact nofun
    | cons first l ih =>
        intro hmem
        rcases mem_cons.mp hmem with rfl | hmem
        · exact le_max_left _ _
        · exact (ih hmem).trans (le_max_right _ _)
  apply dvd_roundToVec4 encoder (hmembers shape hshape) _ (hle hshape)
  exact structAlignment_isBase .Std430BlockEncoder (hmembers member mem_cons_self)
    fun m hm => hmembers m (mem_cons_of_mem member hm)

theorem variableLayout_dvd_size (type : VariableType) (arraySize : Nat) (arraySizes : List Nat)
    (isRowMajor : Bool) :
    (encoder.variableLayout type (arraySize :: arraySizes) isRowMajor).alignment ∣
      (encoder.variableLayout type (arraySize :: arraySizes) isRowMajor).size := by
  unfold variableLayout
  dsimp only
  split
  · exact (Dvd.intro_left _ rfl).mul_left arraySize
  · exact Dvd.intro_left _ rfl

theorem variableShape_wellFormed (type : VariableType) (isRowMajor : Bool) (arraySizes : List Nat) :
    (variableShape encoder type isRowMajor arraySizes).WellFormed ∧
      (arraySizes ≠ [] → (variableShape encoder type isRowMajor arraySizes).alignment ∣
        (variableShape encoder type isRowMajor arraySizes).size) := by
  induction arraySizes with
  | nil =>
      exact ⟨(variableLayout_isBase encoder type [] isRowMajor).pos, fun hne => absurd rfl hne⟩
  | cons arraySize arraySizes ih =>
    cases arraySizes with
    | nil =>
        exact ⟨(variableLayout_isBase encoder type [arraySize] isRowMajor).pos,
          fun _ => variableLayout_dvd_size encoder type arraySize [] isRowMajor⟩
    | cons nextArraySize arraySizes =>
        have hdvd := ih.2 (by simp)
        exact ⟨⟨by omega, hdvd, ih.1⟩, fun _ => hdvd.mul_left _⟩

theorem structArrayShape_wellFormed (hwell : shape.WellFormed)
    (hsize : shape.alignment ∣ shape.size) (arraySizes : List Nat) :
    (structArrayShape shape arraySizes).WellFormed ∧
      shape.alignment ∣ (structArrayShape shape arraySizes).size := by
  induction arraySizes with
  | nil => exact ⟨hwell, hsize⟩
  | cons arraySize arraySizes ih =>
      have hdvd := ih.2.mul_left (max arraySize 1)
      refine ⟨⟨by omega, ?_, ih.1⟩, hdvd⟩
      rw [structArrayShape_alignment]
      exact ih.2

theorem wellFormedMembers_of_forall {alignment : Nat}
    (hdvd : ∀ m ∈ members, m.alignment ∣ alignment) (hwell : ∀ m ∈ members, m.WellFormed) :
    Shape.WellFormedMembers alignment members := by
  induction members with
  | nil => trivial
  | cons member members ih =>
      refine ⟨hdvd member mem_cons_self, hwell member mem_cons_self, ih ?_ ?_⟩
      · exact fun m hm => hdvd m (mem_cons_of_mem member hm)
      · exact fun m hm => hwell m (mem_cons_of_mem member hm)

mutual

theorem shaderVariableShape_wellFormed : (var : ShaderVariable) → (isRowMajorLayout : Bool) →
    (shaderVariableShape encoder var isRowMajorLayout).WellFormed
  | .basic type arraySizes rowMajor, isRowMajorLayout =>
      (variableShape_wellFormed encoder type _ arraySizes).1
  | .struct field fields arraySizes rowMajor, isRowMajorLayout => by
      have hbase := shaderVariableShapes_isBase encoder (field :: fields)
        (isRowMajorLayout || rowMajor)
      have hfield := shaderVariableShape_wellFormed field (isRowMajorLayout || rowMajor)
      have hfields := shaderVariableShapes_wellFormed fields (isRowMajorLayout || rowMajor)
      rw [shaderVariableShape]
      refine (structArrayShape_wellFormed ?well (dvd_alignUp _ _) arraySizes).1
      refine ⟨(fieldsAlignment_isBase encoder field fields _).pos, ?_⟩
      apply wellFormedMembers_of_forall
      · exact fun m hm => dvd_structAlignment encoder hbase hm
      · exact forall_mem_cons.mpr ⟨hfield, hfields⟩

theorem shaderVariableShapes_wellFormed : (vars : List ShaderVariable) →
    (isRowMajorLayout : Bool) →
    ∀ shape ∈ shaderVariableShapes encoder vars isRowMajorLayout, shape.WellFormed
  | [], _, _, hshape => by contradiction
  | var :: vars, isRowMajorLayout, shape, hshape => by
      rcases mem_cons.mp hshape with rfl | hshape
      · exact shaderVariableShape_wellFormed var isRowMajorLayout
      · exact shaderVariableShapes_wellFormed vars isRowMajorLayout shape hshape

end

/-! ## The calls of a traversal, laid out in sequence -/

def ruleStep (call : VisitorCall) : Step VisitorCall :=
  match call with
  | .enterStructAccess field fields isRowMajor =>
      ⟨call, encoder.fieldsAlignment field fields isRowMajor, 0⟩
  | .exitStructAccess field fields isRowMajor =>
      ⟨call, encoder.fieldsAlignment field fields isRowMajor, 0⟩
  | .visitVariable type arraySizes isRowMajor =>
      let layout := encoder.variableLayout type arraySizes isRowMajor
      ⟨call, layout.alignment, layout.size⟩

theorem ruleStep_isBase (call : VisitorCall) :
    IsBaseAlignment (ruleStep encoder call).alignment := by
  cases call with
  | enterStructAccess field fields isRowMajor =>
      exact fieldsAlignment_isBase encoder field fields isRowMajor
  | exitStructAccess field fields isRowMajor =>
      exact fieldsAlignment_isBase encoder field fields isRowMajor
  | visitVariable type arraySizes isRowMajor =>
      exact variableLayout_isBase encoder type arraySizes isRowMajor

/-- The recorded calls of `traverse` place `steps`. -/
def Records (traverse : List VisitorCall → List VisitorCall) (steps : List (Step VisitorCall)) :
    Prop :=
  ∀ calls, (traverse calls).map (ruleStep encoder) = calls.map (ruleStep encoder) ++ steps

variable {encoder}

variable {traverse : List VisitorCall → List VisitorCall}

theorem Records.comp {traverse' : List VisitorCall → List VisitorCall}
    {steps steps' : List (Step VisitorCall)} (h : Records encoder traverse steps)
    (h' : Records encoder traverse' steps') :
    Records encoder (fun calls => traverse' (traverse calls)) (steps ++ steps') := by
  intro calls
  rw [h', h, append_assoc]

theorem Records.elements
    {steps : List (Step VisitorCall)} (h : Records encoder traverse steps)
    (hasParentArrayIndex : Bool) (currentArraySize innerArraySizeProduct : Nat) :
    Records encoder (traverseArrayElements callRecorder hasParentArrayIndex currentArraySize
        innerArraySizeProduct traverse)
      (List.replicate (max currentArraySize 1) steps).flatten := by
  have hrange : ∀ count, Records encoder
      (fun calls => (range count).foldl (fun calls _ => traverse calls) calls)
      (replicate count steps).flatten := by
    intro count
    induction count with
    | zero => exact fun calls => (append_nil _).symm
    | succ count ih =>
        intro calls
        simp only [range_succ, foldl_append, replicate_succ', flatten_append,
          flatten_singleton]
        exact ih.comp h calls
  exact hrange _

theorem variableShape_records (type : VariableType) (isRowMajor hasParentArrayIndex : Bool)
    (arraySizes : List Nat) :
    Records encoder
      (traverseArrayOfArraysVariable callRecorder type isRowMajor hasParentArrayIndex arraySizes)
      (variableShape encoder type isRowMajor arraySizes).steps := by
  induction arraySizes generalizing hasParentArrayIndex with
  | nil => exact fun calls => map_append
  | cons arraySize arraySizes ih =>
      cases arraySizes with
      | nil => exact fun calls => map_append
      | cons nextArraySize arraySizes => exact (ih true).elements hasParentArrayIndex arraySize _

theorem structArrayShape_records
    (h : Records encoder traverse shape.steps)
    (hasParentArrayIndex : Bool) (arraySizes : List Nat) :
    Records encoder
      (traverseStructArrayVariable callRecorder traverse hasParentArrayIndex arraySizes)
      (structArrayShape shape arraySizes).steps := by
  induction arraySizes generalizing hasParentArrayIndex with
  | nil => exact h
  | cons arraySize arraySizes ih => exact (ih true).elements hasParentArrayIndex arraySize _

mutual

theorem shaderVariableShape_records : (var : ShaderVariable) → (isRowMajorLayout : Bool) →
    Records encoder (traverseShaderVariable callRecorder var isRowMajorLayout)
      (shaderVariableShape encoder var isRowMajorLayout).steps
  | .basic type arraySizes rowMajor, isRowMajorLayout =>
      variableShape_records type _ false arraySizes
  | .struct field fields arraySizes rowMajor, isRowMajorLayout => by
      apply structArrayShape_records
      have hfield := shaderVariableShape_records field (isRowMajorLayout || rowMajor)
      have hfields := shaderVariableShapes_records fields (isRowMajorLayout || rowMajor)
      intro calls
      simp only [traverseStructVariable, callRecorder, map_append, map_cons,
        map_nil, Shape.steps, Shape.membersSteps] at hfield hfields ⊢
      rw [hfields, hfield, map_append]
      simp [ruleStep, fieldsAlignment, shaderVariableShapes]

theorem shaderVariableShapes_records : (vars : List ShaderVariable) → (isRowMajorLayout : Bool) →
    Records encoder (traverseShaderVariables callRecorder vars isRowMajorLayout)
      (Shape.membersSteps (shaderVariableShapes encoder vars isRowMajorLayout))
  | [], _ => fun _ => (append_nil _).symm
  | var :: vars, isRowMajorLayout =>
      (shaderVariableShape_records var isRowMajorLayout).comp
        (shaderVariableShapes_records vars isRowMajorLayout)

end

end MetalAngle.Translator
