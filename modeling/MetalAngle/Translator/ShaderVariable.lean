import MetalAngle.Gl.VaryingPacking

/-!
# Shader variables and their traversal

A visitor is told of every struct, array element and basic variable of a tree of shader variables,
in the order in which a block lays them out.  Names and the callbacks that only build names are left
out, and so are samplers, which no block contains.
-/

namespace MetalAngle.Translator

open MetalAngle.Gl (VaryingType)

inductive VariableType
  | BOOL | BOOL_VEC2 | BOOL_VEC3 | BOOL_VEC4
  | numeric (type : VaryingType)
deriving DecidableEq

namespace VariableType

def variableRowCount : VariableType → Nat
  | numeric type => type.variableRowCount
  | _ => 1

def variableColumnCount : VariableType → Nat
  | BOOL => 1
  | BOOL_VEC2 => 2
  | BOOL_VEC3 => 3
  | BOOL_VEC4 => 4
  | numeric type => type.variableColumnCount

def variableComponentCount (type : VariableType) : Nat :=
  type.variableRowCount * type.variableColumnCount

def isMatrixType (type : VariableType) : Bool := 1 < type.variableRowCount

def transposeMatrixType : VariableType → VariableType
  | numeric type => numeric type.transposeMatrixType
  | type => type

def matrixRegisterCount (type : VariableType) (isRowMajorMatrix : Bool) : Nat :=
  if isRowMajorMatrix then type.variableRowCount else type.variableColumnCount

end VariableType

/-- A variable is a struct when it has fields.  Array sizes are listed from the outermost one on,
the reverse of the source; a size of 0 is that of an unsized array. -/
inductive ShaderVariable
  | basic (type : VariableType) (arraySizes : List Nat) (isRowMajorLayout : Bool)
  | struct (field : ShaderVariable) (fields : List ShaderVariable) (arraySizes : List Nat)
      (isRowMajorLayout : Bool)

/-- The callbacks of a visitor with state `σ`.  On the access to a struct it gets the struct's first
field, the other fields and how they are traversed, on an array element whether its array has a
parent array, the product of the inner array sizes and the index of the element. -/
structure ShaderVariableVisitor (σ : Type*) where
  enterStructAccess : ShaderVariable → List ShaderVariable → Bool → (σ → σ) → σ → σ
  exitStructAccess : ShaderVariable → List ShaderVariable → Bool → σ → σ
  enterArrayElement : Bool → Nat → Nat → σ → σ
  exitArrayElement : Bool → Nat → σ → σ
  visitVariable : VariableType → List Nat → Bool → σ → σ

variable {σ τ : Type*} (visitor : ShaderVariableVisitor σ)

def traverseArrayElements (hasParentArrayIndex : Bool)
    (currentArraySize innerArraySizeProduct : Nat) (traverseElement : σ → σ) (s : σ) : σ :=
  (List.range (max currentArraySize 1)).foldl (fun s arrayElement =>
    visitor.exitArrayElement hasParentArrayIndex arrayElement
      (traverseElement
        (visitor.enterArrayElement hasParentArrayIndex innerArraySizeProduct arrayElement s))) s

def traverseStructArrayVariable (traverseStructVariable : σ → σ) (hasParentArrayIndex : Bool) :
    List Nat → σ → σ
  | [] => traverseStructVariable
  | currentArraySize :: arraySizes =>
      traverseArrayElements visitor hasParentArrayIndex currentArraySize arraySizes.prod
        (traverseStructArrayVariable traverseStructVariable true arraySizes)

def traverseArrayOfArraysVariable (type : VariableType) (isRowMajorMatrix : Bool)
    (hasParentArrayIndex : Bool) : List Nat → σ → σ
  | currentArraySize :: nextArraySize :: arraySizes =>
      traverseArrayElements visitor hasParentArrayIndex currentArraySize
        (nextArraySize :: arraySizes).prod
        (traverseArrayOfArraysVariable type isRowMajorMatrix true (nextArraySize :: arraySizes))
  | arraySizes => visitor.visitVariable type arraySizes isRowMajorMatrix

def traverseStructVariable (field : ShaderVariable) (fields : List ShaderVariable)
    (isRowMajorLayout : Bool) (traverseFields : σ → σ) (s : σ) : σ :=
  visitor.exitStructAccess field fields isRowMajorLayout
    (traverseFields (visitor.enterStructAccess field fields isRowMajorLayout traverseFields s))

mutual

def traverseShaderVariable : ShaderVariable → Bool → σ → σ
  | .basic type arraySizes rowMajor, isRowMajorLayout, s =>
      let rowMajorLayout := isRowMajorLayout || rowMajor
      let isRowMajor := rowMajorLayout && type.isMatrixType
      traverseArrayOfArraysVariable visitor type isRowMajor false arraySizes s
  | .struct field fields arraySizes rowMajor, isRowMajorLayout, s =>
    let rowMajorLayout := isRowMajorLayout || rowMajor
    traverseStructArrayVariable visitor
      (traverseStructVariable visitor field fields rowMajorLayout fun s =>
        traverseShaderVariables fields rowMajorLayout
          (traverseShaderVariable field rowMajorLayout s))
      false arraySizes s

def traverseShaderVariables : List ShaderVariable → Bool → σ → σ
  | [], _, s => s
  | var :: vars, isRowMajorLayout, s =>
      traverseShaderVariables vars isRowMajorLayout
        (traverseShaderVariable var isRowMajorLayout s)

end

/-- The callbacks of two visitors keep a relation between their states. -/
structure ShaderVariableVisitor.Related (visitor : ShaderVariableVisitor σ)
    (visitor' : ShaderVariableVisitor τ) (R : σ → τ → Prop) : Prop where
  enterStructAccess : ∀ field fields isRowMajor traverseFields traverseFields' s t, R s t →
    R (visitor.enterStructAccess field fields isRowMajor traverseFields s)
      (visitor'.enterStructAccess field fields isRowMajor traverseFields' t)
  exitStructAccess : ∀ field fields isRowMajor s t, R s t →
    R (visitor.exitStructAccess field fields isRowMajor s)
      (visitor'.exitStructAccess field fields isRowMajor t)
  enterArrayElement : ∀ hasParentArrayIndex innerArraySizeProduct arrayElement s t, R s t →
    R (visitor.enterArrayElement hasParentArrayIndex innerArraySizeProduct arrayElement s)
      (visitor'.enterArrayElement hasParentArrayIndex innerArraySizeProduct arrayElement t)
  exitArrayElement : ∀ hasParentArrayIndex arrayElement s t, R s t →
    R (visitor.exitArrayElement hasParentArrayIndex arrayElement s)
      (visitor'.exitArrayElement hasParentArrayIndex arrayElement t)
  visitVariable : ∀ type arraySizes isRowMajor s t, R s t →
    R (visitor.visitVariable type arraySizes isRowMajor s)
      (visitor'.visitVariable type arraySizes isRowMajor t)

section Related

variable {visitor} {visitor' : ShaderVariableVisitor τ} {R : σ → τ → Prop}

section

variable (hrelated : visitor.Related visitor' R)
include hrelated

theorem traverseArrayElements_related (hasParentArrayIndex : Bool)
    (currentArraySize innerArraySizeProduct : Nat) {traverseElement : σ → σ}
    {traverseElement' : τ → τ}
    (helement : ∀ s t, R s t → R (traverseElement s) (traverseElement' t))
    {s : σ} {t : τ} (h : R s t) :
    R (traverseArrayElements visitor hasParentArrayIndex currentArraySize innerArraySizeProduct
        traverseElement s)
      (traverseArrayElements visitor' hasParentArrayIndex currentArraySize innerArraySizeProduct
        traverseElement' t) := by
  unfold traverseArrayElements
  generalize List.range (max currentArraySize 1) = elements
  induction elements generalizing s t with
  | nil => exact h
  | cons arrayElement elements ih =>
      apply ih
      apply hrelated.exitArrayElement
      apply helement
      exact hrelated.enterArrayElement _ _ _ s t h

theorem traverseStructArrayVariable_related {traverseStruct : σ → σ} {traverseStruct' : τ → τ}
    (hstruct : ∀ s t, R s t → R (traverseStruct s) (traverseStruct' t))
    (hasParentArrayIndex : Bool) (arraySizes : List Nat) {s : σ} {t : τ} (h : R s t) :
    R (traverseStructArrayVariable visitor traverseStruct hasParentArrayIndex arraySizes s)
      (traverseStructArrayVariable visitor' traverseStruct' hasParentArrayIndex arraySizes t) := by
  induction arraySizes generalizing hasParentArrayIndex s t with
  | nil => exact hstruct s t h
  | cons currentArraySize arraySizes ih =>
      exact traverseArrayElements_related hrelated _ _ _ (fun s t h => ih true h) h

theorem traverseArrayOfArraysVariable_related (type : VariableType) (isRowMajorMatrix : Bool)
    (hasParentArrayIndex : Bool) (arraySizes : List Nat) {s : σ} {t : τ} (h : R s t) :
    R (traverseArrayOfArraysVariable visitor type isRowMajorMatrix hasParentArrayIndex arraySizes s)
      (traverseArrayOfArraysVariable visitor' type isRowMajorMatrix hasParentArrayIndex arraySizes
        t) := by
  induction arraySizes generalizing hasParentArrayIndex s t with
  | nil => exact hrelated.visitVariable type [] isRowMajorMatrix s t h
  | cons currentArraySize arraySizes ih =>
      cases arraySizes with
      | nil => exact hrelated.visitVariable type [currentArraySize] isRowMajorMatrix s t h
      | cons nextArraySize arraySizes =>
          exact traverseArrayElements_related hrelated _ _ _ (fun s t h => ih true h) h

end

mutual

theorem traverseShaderVariable_related (hrelated : visitor.Related visitor' R) :
    (var : ShaderVariable) → (isRowMajorLayout : Bool) → (s : σ) → (t : τ) → R s t →
    R (traverseShaderVariable visitor var isRowMajorLayout s)
      (traverseShaderVariable visitor' var isRowMajorLayout t)
  | .basic type arraySizes rowMajor, isRowMajorLayout, s, t, h =>
      traverseArrayOfArraysVariable_related hrelated type _ false arraySizes h
  | .struct field fields arraySizes rowMajor, isRowMajorLayout, s, t, h => by
      apply traverseStructArrayVariable_related hrelated _ false arraySizes h
      intro s t h
      apply hrelated.exitStructAccess
      apply traverseShaderVariables_related hrelated fields
      apply traverseShaderVariable_related hrelated field
      exact hrelated.enterStructAccess _ _ _ _ _ s t h

theorem traverseShaderVariables_related (hrelated : visitor.Related visitor' R) :
    (vars : List ShaderVariable) → (isRowMajorLayout : Bool) → (s : σ) → (t : τ) → R s t →
    R (traverseShaderVariables visitor vars isRowMajorLayout s)
      (traverseShaderVariables visitor' vars isRowMajorLayout t)
  | [], _, _, _, h => h
  | var :: vars, isRowMajorLayout, s, t, h =>
      traverseShaderVariables_related hrelated vars isRowMajorLayout _ _
        (traverseShaderVariable_related hrelated var isRowMajorLayout s t h)

end

end Related

inductive VisitorCall
  | enterStructAccess (field : ShaderVariable) (fields : List ShaderVariable) (isRowMajor : Bool)
  | exitStructAccess (field : ShaderVariable) (fields : List ShaderVariable) (isRowMajor : Bool)
  | visitVariable (type : VariableType) (arraySizes : List Nat) (isRowMajor : Bool)

def callRecorder : ShaderVariableVisitor (List VisitorCall) where
  enterStructAccess field fields isRowMajor _ calls :=
    calls ++ [.enterStructAccess field fields isRowMajor]
  exitStructAccess field fields isRowMajor calls :=
    calls ++ [.exitStructAccess field fields isRowMajor]
  enterArrayElement _ _ _ calls := calls
  exitArrayElement _ _ calls := calls
  visitVariable type arraySizes isRowMajor calls :=
    calls ++ [.visitVariable type arraySizes isRowMajor]

def visitorCalls (vars : List ShaderVariable) (isRowMajorLayout : Bool) : List VisitorCall :=
  traverseShaderVariables callRecorder vars isRowMajorLayout []

end MetalAngle.Translator
