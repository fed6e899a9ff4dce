import Mathlib.Tactic

/-!
# Folding of component-wise built-ins

The loops of `foldUnaryComponentWise` and of the component-wise cases of `FoldAggregateBuiltIn`.
The two tests of floats and the four casts of bits look at the first component in every round.
-/

namespace MetalAngle.Translator.ComponentFolding

open Option

/-! ## Constants -/

abbrev Float := BitVec 32

inductive TBasicType
  | EbtFloat | EbtInt | EbtUInt | EbtBool
deriving DecidableEq

inductive TConstantUnion
  | fConst (f : Float)
  | iConst (i : BitVec 32)
  | uConst (u : BitVec 32)
  | bConst (b : Bool)
deriving DecidableEq

/-- The built-ins of which a component of the result depends on components of the operands, and
`normalize`. -/
inductive TOperator
  | Negative | Positive | LogicalNot | BitwiseNot | Radians | Degrees | Sin | Cos | Tan | Asin
  | Acos | Atan | Sinh | Cosh | Tanh | Asinh | Acosh | Atanh | Abs | Sign | Floor | Trunc | Round
  | RoundEven | Ceil | Fract | Isnan | Isinf | FloatBitsToInt | FloatBitsToUint | IntBitsToFloat
  | UintBitsToFloat | Exp | Log | Exp2 | Log2 | Sqrt | Inversesqrt | LogicalNotComponentWise
  | Normalize | BitfieldReverse | BitCount | FindLSB | FindMSB | DFdx | DFdy | Fwidth
  | Pow | Mod | Min | Max | Step | LessThanComponentWise | LessThanEqualComponentWise
  | GreaterThanComponentWise | GreaterThanEqualComponentWise | EqualComponentWise
  | NotEqualComponentWise | MulMatrixComponentWise | Clamp | Mix | Smoothstep | Ldexp
  | BitfieldExtract | BitfieldInsert
deriving DecidableEq

/-- The arithmetic of `float`, its conversions, and the functions of the C library by the operators
that are folded with them. -/
structure FloatArithmetic where
  neg : Float → Float
  add : Float → Float → Float
  sub : Float → Float → Float
  mul : Float → Float → Float
  div : Float → Float → Float
  lt : Float → Float → Bool
  le : Float → Float → Bool
  eq : Float → Float → Bool
  ofInt : BitVec 32 → Float
  ofUInt : BitVec 32 → Float
  cmath : TOperator → Float → Float
  fabsf : Float → Float
  fractionalPart : Float → Float
  atan2f : Float → Float → Float
  powf : Float → Float → Float
  ldexp : Float → BitVec 32 → Float

def zero : Float := 0x00000000
def half : Float := 0x3f000000
def one : Float := 0x3f800000
def two : Float := 0x40000000
def three : Float := 0x40400000
def kPi : Float := 0x40490fdb
def straightAngle : Float := 0x43340000

def isNaN (f : Float) : Bool := f &&& 0x7f800000 = 0x7f800000 ∧ f &&& 0x7fffff ≠ 0

def isInf (f : Float) : Bool := f &&& 0x7f800000 = 0x7f800000 ∧ f &&& 0x7fffff = 0

/-- A component of a result, and whether there was a warning that it is undefined. -/
abbrev Folded := TConstantUnion × Bool

def setFConst (f : Float) : Folded := (.fConst f, false)

def setIConst (i : BitVec 32) : Folded := (.iConst i, false)

def setUConst (u : BitVec 32) : Folded := (.uConst u, false)

def setBConst (b : Bool) : Folded := (.bConst b, false)

def UndefinedConstantFoldingError : TBasicType → Folded
  | .EbtFloat => (.fConst 0, true)
  | .EbtInt => (.iConst 0, true)
  | .EbtUInt => (.uConst 0, true)
  | .EbtBool => (.bConst false, true)

namespace TConstantUnion

/-- The bytes of the union, which all getters but `getFConst` return. -/
def bits : TConstantUnion → BitVec 32
  | .fConst f => f
  | .iConst i => i
  | .uConst u => u
  | .bConst b => if b then 1 else 0

def getIConst (c : TConstantUnion) : BitVec 32 := c.bits

def getUConst (c : TConstantUnion) : BitVec 32 := c.bits

def getBConst (c : TConstantUnion) : Bool := c.bits ≠ 0

end TConstantUnion

variable (F : FloatArithmetic)

def getFConst : TConstantUnion → Float
  | .iConst i => F.ofInt i
  | .uConst u => F.ofUInt u
  | c => c.bits

/-! ## Unary built-ins -/

def VectorLength (paramArray : Nat → TConstantUnion) (paramArraySize : Nat) : Float :=
  F.cmath .Sqrt ((List.range paramArraySize).foldl (fun result i =>
    F.add result (F.mul (getFConst F (paramArray i)) (getFConst F (paramArray i)))) zero)

/-- The bits of an `int` or an `unsigned int` component. -/
def integerBits (type : TBasicType) (c : TConstantUnion) : BitVec 32 :=
  if type = .EbtInt then c.getIConst else c.getUConst

def FindMSB (value : BitVec 32) : BitVec 32 := 31 - value.clz

def FindLSB (value : BitVec 32) : BitVec 32 := if value = 0 then -1 else value.ctz

/-- The body of the loop, where `none` is a null pointer that is returned. -/
def foldComponent (op : TOperator) (type : TBasicType) (objectSize : Nat)
    (operandArray : Nat → TConstantUnion) (i : Nat) : Option Folded :=
  let f := getFConst F (operandArray i)
  let n := (operandArray i).getIConst
  let u := (operandArray i).getUConst
  let b := (operandArray i).getBConst
  let undefined := UndefinedConstantFoldingError type
  match op, type with
  | .Negative, .EbtFloat => setFConst (F.neg f)
  | .Negative, .EbtInt => some <| if n = .intMin 32 then setIConst (.intMin 32) else setIConst (-n)
  | .Negative, .EbtUInt => some <| if u = 0x80000000 then setUConst 0x80000000 else setUConst (-u)
  | .Positive, .EbtFloat => setFConst f
  | .Positive, .EbtInt => setIConst n
  | .Positive, .EbtUInt => setUConst u
  | .LogicalNot, .EbtBool => setBConst !b
  | .BitwiseNot, .EbtInt => setIConst (~~~n)
  | .BitwiseNot, .EbtUInt => setUConst (~~~u)
  | .Radians, _ => setFConst (F.mul (F.div kPi straightAngle) f)
  | .Degrees, _ => setFConst (F.mul (F.div straightAngle kPi) f)
  | .Asin, _ | .Acos, _ =>
      some <| if F.lt one (F.fabsf f) then undefined else setFConst (F.cmath op f)
  | .Acosh, _ => some <| if F.lt f one then undefined else setFConst (F.cmath op f)
  | .Atanh, _ => some <| if F.le one (F.fabsf f) then undefined else setFConst (F.cmath op f)
  | .Abs, .EbtFloat => setFConst (F.fabsf f)
  | .Abs, .EbtInt => setIConst (if n.slt 0 then -n else n)
  | .Sign, .EbtFloat =>
      setFConst (if F.lt zero f then one else if F.lt f zero then F.neg one else zero)
  | .Sign, .EbtInt => setIConst (if (0#32).slt n then 1 else if n.slt 0 then -1 else 0)
  | .RoundEven, _ =>
      setFConst (if F.eq (F.fabsf (F.fractionalPart f)) half
        then F.mul two (F.cmath .Round (F.div f two)) else F.cmath .Round f)
  | .Fract, _ => setFConst (F.sub f (F.cmath .Floor f))
  | .Isnan, _ => setBConst (isNaN (getFConst F (operandArray 0)))
  | .Isinf, _ => setBConst (isInf (getFConst F (operandArray 0)))
  | .FloatBitsToInt, _ => setIConst (getFConst F (operandArray 0))
  | .FloatBitsToUint, _ => setUConst (getFConst F (operandArray 0))
  | .IntBitsToFloat, _ => setFConst (operandArray 0).getIConst
  | .UintBitsToFloat, _ => setFConst (operandArray 0).getUConst
  | .Log, _ => some <| if F.le f zero then undefined else setFConst (F.cmath .Log f)
  | .Log2, _ =>
      some <| if F.le f zero then undefined
      else setFConst (F.div (F.cmath .Log f) (F.cmath .Log two))
  | .Sqrt, _ => some <| if F.lt f zero then undefined else setFConst (F.cmath .Sqrt f)
  | .Inversesqrt, _ =>
      some <| if F.le f zero then undefined else setFConst (F.div one (F.cmath .Sqrt f))
  | .LogicalNotComponentWise, _ => setBConst !b
  | .Normalize, _ =>
      some <| if F.eq (VectorLength F operandArray objectSize) zero then undefined
      else setFConst (F.div f (VectorLength F operandArray objectSize))
  | .BitfieldReverse, .EbtInt => setIConst (integerBits type (operandArray i)).reverse
  | .BitfieldReverse, _ => setUConst (integerBits type (operandArray i)).reverse
  | .BitCount, _ => setIConst (integerBits type (operandArray i)).cpop
  | .FindLSB, _ => setIConst (FindLSB (integerBits type (operandArray i)))
  | .FindMSB, .EbtInt => setIConst (FindMSB (if n.slt 0 then ~~~n else n))
  | .FindMSB, _ => setIConst (FindMSB u)
  | .DFdx, _ | .DFdy, _ | .Fwidth, _ => setFConst zero
  | .Sin, _ | .Cos, _ | .Tan, _ | .Atan, _ | .Sinh, _ | .Cosh, _ | .Tanh, _ | .Asinh, _
  | .Floor, _ | .Trunc, _ | .Round, _ | .Ceil, _ | .Exp, _ | .Exp2, _ => setFConst (F.cmath op f)
  | _, _ => none

def foldUnaryComponentWise (op : TOperator) (type : TBasicType) (objectSize : Nat)
    (operandArray : Nat → TConstantUnion) : Option (List Folded) :=
  (List.range objectSize).mapM (foldComponent F op type objectSize operandArray)

/-! ## Built-ins of several arguments -/

structure TIntermConstantUnion where
  basicType : TBasicType
  cols : Nat
  rows : Nat
  unionArray : Nat → TConstantUnion

namespace TIntermConstantUnion

def objectSize (c : TIntermConstantUnion) : Nat := c.cols * c.rows

def isMatrix (c : TIntermConstantUnion) : Bool := 1 < c.cols ∧ 1 < c.rows

end TIntermConstantUnion

def maxObjectSize (argsCount : Nat) (arguments : Nat → TIntermConstantUnion) : Nat :=
  (Finset.range argsCount).sup fun j => (arguments j).objectSize

/-- The arrays of the arguments, those of another size than the result's being `Vectorize`d. -/
def unionArrays (argsCount : Nat) (arguments : Nat → TIntermConstantUnion) (j : Nat) :
    Nat → TConstantUnion :=
  if ¬(arguments 0).isMatrix ∧ (arguments j).objectSize ≠ maxObjectSize argsCount arguments then
    fun _ => (arguments j).unionArray 0
  else (arguments j).unionArray

/-- A `switch` over the basic type, which is unreachable for the other types. -/
def switchBasicType (onFloat onInt onUInt : Folded) : TBasicType → Option Folded
  | .EbtFloat => onFloat
  | .EbtInt => onInt
  | .EbtUInt => onUInt
  | .EbtBool => none

section Orders

variable {α : Type} (lt : α → α → Bool)

def min (a b : α) : α := if lt b a then b else a

def max (a b : α) : α := if lt a b then b else a

def clamp (x min max : α) : α := if lt min x then (if lt max x then max else x) else min

end Orders

/-- `x` clamped, unless the bounds are the wrong way round. -/
def clampOr {α : Type} (lt : α → α → Bool) (undefined : Folded) (set : α → Folded)
    (x min max : α) : Folded :=
  if lt max min then undefined else set (clamp lt x min max)

def bitfieldExtract (signed : Bool) (value offset bits : BitVec 32) : BitVec 32 :=
  let maskMsb := 1#32 <<< (bits - 1)
  let mask := ((maskMsb - 1) ||| maskMsb) <<< offset
  let resultUnsigned := (value &&& mask) >>> offset
  if signed ∧ resultUnsigned &&& maskMsb ≠ 0 then
    resultUnsigned ||| ((1#32 <<< (32 - bits) - 1) <<< bits)
  else resultUnsigned

def bitfieldInsert (base insert offset bits : BitVec 32) : BitVec 32 :=
  let maskMsb := 1#32 <<< (bits - 1)
  let insertMask := ((maskMsb - 1) ||| maskMsb) <<< offset
  (base &&& ~~~insertMask) ||| ((insert <<< offset) &&& insertMask)

def bitfield (type : TBasicType) (offset bits empty result : BitVec 32) : Folded :=
  let set := if type = .EbtInt then setIConst else setUConst
  if bits = 0 then set empty
  else if offset.slt 0 ∨ bits.slt 0 ∨ (32#32).sle offset ∨ (32#32).slt bits ∨
      (32#32).slt (offset + bits) then
    UndefinedConstantFoldingError type
  else set result

/-- The body of the loop for one component, where `type` is the basic type of the result,
`basicType` that of the first argument and `selectorType` that of the third. -/
def foldAggregateComponent (op : TOperator) (type basicType selectorType : TBasicType)
    (unionArrays : Nat → Nat → TConstantUnion) (i : Nat) : Option Folded :=
  let f j := getFConst F (unionArrays j i)
  let n j := (unionArrays j i).getIConst
  let u j := (unionArrays j i).getUConst
  let b j := (unionArrays j i).getBConst
  let undefined := UndefinedConstantFoldingError basicType
  match op with
  | .Atan => some <| if F.eq (f 1) zero ∧ F.eq (f 0) zero then undefined
      else setFConst (F.atan2f (f 0) (f 1))
  | .Pow => some <| if F.lt (f 0) zero then undefined
      else if F.eq (f 0) zero ∧ F.le (f 1) zero then undefined
      else setFConst (F.powf (f 0) (f 1))
  | .Mod => setFConst (F.sub (f 0) (F.mul (f 1) (F.cmath .Floor (F.div (f 0) (f 1)))))
  | .Min => switchBasicType (setFConst (min F.lt (f 0) (f 1)))
      (setIConst (min BitVec.slt (n 0) (n 1))) (setUConst (min BitVec.ult (u 0) (u 1))) basicType
  | .Max => switchBasicType (setFConst (max F.lt (f 0) (f 1)))
      (setIConst (max BitVec.slt (n 0) (n 1))) (setUConst (max BitVec.ult (u 0) (u 1))) basicType
  | .Step => setFConst (if F.lt (f 1) (f 0) then zero else one)
  | .LessThanComponentWise => switchBasicType (setBConst (F.lt (f 0) (f 1)))
      (setBConst ((n 0).slt (n 1))) (setBConst ((u 0).ult (u 1))) basicType
  | .LessThanEqualComponentWise => switchBasicType (setBConst (F.le (f 0) (f 1)))
      (setBConst ((n 0).sle (n 1))) (setBConst ((u 0).ule (u 1))) basicType
  | .GreaterThanComponentWise => switchBasicType (setBConst (F.lt (f 1) (f 0)))
      (setBConst ((n 1).slt (n 0))) (setBConst ((u 1).ult (u 0))) basicType
  | .GreaterThanEqualComponentWise => switchBasicType (setBConst (F.le (f 1) (f 0)))
      (setBConst ((n 1).sle (n 0))) (setBConst ((u 1).ule (u 0))) basicType
  | .EqualComponentWise => if basicType = .EbtBool then setBConst (b 0 == b 1)
      else switchBasicType (setBConst (F.eq (f 0) (f 1))) (setBConst (n 0 == n 1))
        (setBConst (u 0 == u 1)) basicType
  | .NotEqualComponentWise => if basicType = .EbtBool then setBConst (b 0 != b 1)
      else switchBasicType (setBConst !F.eq (f 0) (f 1)) (setBConst (n 0 != n 1))
        (setBConst (u 0 != u 1)) basicType
  | .Clamp => switchBasicType (clampOr F.lt undefined setFConst (f 0) (f 1) (f 2))
      (clampOr BitVec.slt undefined setIConst (n 0) (n 1) (n 2))
      (clampOr BitVec.ult undefined setUConst (u 0) (u 1) (u 2)) basicType
  | .Mix => some <| if selectorType = .EbtFloat then
        setFConst (F.add (F.mul (f 0) (F.sub one (f 2))) (F.mul (f 1) (f 2)))
      else setFConst (if b 2 then f 1 else f 0)
  | .Smoothstep => some <| if F.le (f 1) (f 0) then undefined
      else
        let t := clamp F.lt (F.div (F.sub (f 2) (f 0)) (F.sub (f 1) (f 0))) zero one
        setFConst (F.mul (F.mul t t) (F.sub three (F.mul two t)))
  | .Ldexp => some <| if (128#32).slt (n 1) then undefined else setFConst (F.ldexp (f 0) (n 1))
  | .BitfieldExtract =>
      let offset := (unionArrays 1 0).getIConst
      let bits := (unionArrays 2 0).getIConst
      bitfield type offset bits 0
        (bitfieldExtract (type = .EbtInt) (integerBits type (unionArrays 0 i)) offset bits)
  | .BitfieldInsert =>
      let offset := (unionArrays 2 0).getIConst
      let bits := (unionArrays 3 0).getIConst
      let base := integerBits type (unionArrays 0 i)
      bitfield type offset bits base
        (bitfieldInsert base (integerBits type (unionArrays 1 i)) offset bits)
  | _ => none

structure Matrix where
  rows : Nat
  columns : Nat
  get : Nat → Nat → Float

namespace Matrix

def ofElements (elements : Nat → Float) (numRows numCols : Nat) : Matrix :=
  ⟨numRows, numCols, fun i j => elements (i * numCols + j)⟩

def elements (m : Matrix) : List Float :=
  (List.range (m.rows * m.columns)).map fun k => m.get (k / m.columns) (k % m.columns)

def transpose (m : Matrix) : Matrix := ⟨m.columns, m.rows, fun i j => m.get j i⟩

def compMult (m : Matrix) (F : FloatArithmetic) (mat1 : Matrix) : Matrix :=
  ⟨m.rows, m.columns, fun i j => F.mul (mat1.get i j) (m.get i j)⟩

end Matrix

def GetMatrix (paramArray : Nat → TConstantUnion) (rows cols : Nat) : Matrix :=
  (Matrix.ofElements (fun i => getFConst F (paramArray i)) cols rows).transpose

def SetUnionArrayFromMatrix (m : Matrix) : List Folded := m.transpose.elements.map setFConst

def FoldAggregateBuiltIn (op : TOperator) (type : TBasicType) (argsCount : Nat)
    (arguments : Nat → TIntermConstantUnion) : Option (List Folded) :=
  let unionArrays := unionArrays argsCount arguments
  let rows := (arguments 0).rows
  let cols := (arguments 0).cols
  if op = .MulMatrixComponentWise then
    some (SetUnionArrayFromMatrix
      ((GetMatrix F (unionArrays 0) rows cols).compMult F (GetMatrix F (unionArrays 1) rows cols)))
  else
    (List.range (maxObjectSize argsCount arguments)).mapM
      (foldAggregateComponent F op type (arguments 0).basicType (arguments 2).basicType unionArrays)

/-! ## What the folds say of one component -/

/-- Component `i` of an argument of the size of the result, and component 0 of another. -/
def component (argsCount : Nat) (arguments : Nat → TIntermConstantUnion) (i j : Nat) :
    TIntermConstantUnion where
  basicType := (arguments j).basicType
  cols := 1
  rows := 1
  unionArray _ := (arguments j).unionArray
    (if (arguments j).objectSize = maxObjectSize argsCount arguments then i else 0)

/-- The offset and the number of bits of a bit field, of which the loops read component 0. -/
def isScalarArgument (op : TOperator) (j : Nat) : Bool :=
  match op with
  | .BitfieldExtract => j = 1 ∨ j = 2
  | .BitfieldInsert => j = 2 ∨ j = 3
  | _ => false

/-- The arguments fit the built-in: matrices are for `matrixCompMult` only, which has two of the
same dimensions, and what has to be a scalar is one. -/
def Accepts (op : TOperator) (argsCount : Nat) (arguments : Nat → TIntermConstantUnion) : Prop :=
  (∀ j, isScalarArgument op j → (arguments j).objectSize = 1) ∧
    if op = .MulMatrixComponentWise then argsCount = 2 ∧ (arguments 0).isMatrix ∧
      (arguments 1).cols = (arguments 0).cols ∧ (arguments 1).rows = (arguments 0).rows
    else ¬(arguments 0).isMatrix

/-- What the built-in reads of the component `b` is what it reads of the component `a`. -/
def Agrees (op : TOperator) (a b : TConstantUnion) : Prop :=
  match op with
  | .Isnan => isNaN (getFConst F a) = isNaN (getFConst F b)
  | .Isinf => isInf (getFConst F a) = isInf (getFConst F b)
  | .FloatBitsToInt | .FloatBitsToUint => getFConst F a = getFConst F b
  | .IntBitsToFloat | .UintBitsToFloat => a.bits = b.bits
  | _ => True

/-- A loop returns nothing or, at every index, what its body does. -/
theorem getElem?_mapM_range {f : Nat → Option Folded} {n : Nat}
    (h : ∀ i j, (f i).isSome = (f j).isSome) {i : Nat} (hi : i < n) :
    ((List.range n).mapM f).bind (·[i]?) = f i := by
  cases hf : f i with
  | none =>
      have none_at : ∀ j, f j = none := fun j => by
        simpa [hf] using h j i
      obtain ⟨m, rfl⟩ : ∃ m, n = m + 1 := ⟨n - 1, by omega⟩
      simp [List.range_succ_eq_map, none_at]
  | some r =>
    have some_at : ∀ j, f j = some ((f j).getD r) := fun j => by
      have hj := h j i
      cases hfj : f j <;> simp_all
    have mapped : (List.range n).mapM f = some ((List.range n).map fun j => (f j).getD r) := by
      rw [funext some_at]
      exact List.mapM_pure
    simp [mapped, hi, hf]

theorem foldComponent_isSome (op : TOperator) (type : TBasicType) (objectSize : Nat)
    (operandArray : Nat → TConstantUnion) (i j : Nat) :
    (foldComponent F op type objectSize operandArray i).isSome =
      (foldComponent F op type objectSize operandArray j).isSome := by
  cases op <;> cases type <;>
    first | exact isSome_some.trans isSome_some.symm | rfl

theorem foldAggregateComponent_isSome (op : TOperator) (type basicType selectorType : TBasicType)
    (arrays : Nat → Nat → TConstantUnion) (i j : Nat) :
    (foldAggregateComponent F op type basicType selectorType arrays i).isSome =
      (foldAggregateComponent F op type basicType selectorType arrays j).isSome := by
  cases op <;> cases basicType <;>
    first | exact isSome_some.trans isSome_some.symm | rfl

/-- One round of the loop over a vector does what the round over its component alone does, if what
it reads of the first component is what it should read of its own. -/
theorem foldComponent_eq_iff {op : TOperator} (hop : op ≠ .Normalize) (type : TBasicType)
    (objectSize : Nat) (operandArray : Nat → TConstantUnion) (i : Nat) :
    foldComponent F op type objectSize operandArray i =
        foldComponent F op type 1 (fun _ => operandArray i) 0 ↔
      Agrees F op (operandArray 0) (operandArray i) := by
  cases op with
  | Normalize => exact absurd rfl hop
  | Isnan | Isinf =>
      change some (TConstantUnion.bConst _, false) = some (.bConst _, false) ↔ _ = _
      simp
  | FloatBitsToInt =>
      change some (TConstantUnion.iConst _, false) = some (.iConst _, false) ↔ _ = _
      simp
  | FloatBitsToUint =>
      change some (TConstantUnion.uConst _, false) = some (.uConst _, false) ↔ _ = _
      simp
  | IntBitsToFloat | UintBitsToFloat =>
      change some (TConstantUnion.fConst _, false) = some (.fConst _, false) ↔ _ = _
      simp [TConstantUnion.getIConst, TConstantUnion.getUConst]
  | _ => exact iff_of_true (by cases type <;> rfl) trivial

theorem unionArrays_component (argsCount : Nat) (arguments : Nat → TIntermConstantUnion)
    (i j k : Nat) :
    unionArrays argsCount (component argsCount arguments i) j k = (arguments j).unionArray
      (if (arguments j).objectSize = maxObjectSize argsCount arguments then i else 0) := by
  unfold unionArrays
  split <;> rfl

/-- A round reads of every argument one component, that of its own or that of a scalar. -/
theorem foldAggregateComponent_reads {op : TOperator} (hop : op ≠ .MulMatrixComponentWise)
    (type basicType selectorType : TBasicType) (arrays : Nat → Nat → TConstantUnion) (i : Nat) :
    foldAggregateComponent F op type basicType selectorType arrays i =
      foldAggregateComponent F op type basicType selectorType
        (fun j _ => arrays j (if isScalarArgument op j then 0 else i)) 0 := by
  cases op with
  | MulMatrixComponentWise => exact absurd rfl hop
  | _ => rfl

/-- The same of a loop over several arguments, each of which has its component. -/
theorem foldAggregateComponent_component {op : TOperator} {argsCount : Nat}
    {arguments : Nat → TIntermConstantUnion} (accepted : Accepts op argsCount arguments)
    (hop : op ≠ .MulMatrixComponentWise) (type basicType selectorType : TBasicType) {i : Nat}
    (hi : i < maxObjectSize argsCount arguments) :
    foldAggregateComponent F op type basicType selectorType (unionArrays argsCount arguments) i =
      foldAggregateComponent F op type basicType selectorType
        (unionArrays argsCount (component argsCount arguments i)) 0 := by
  rw [foldAggregateComponent_reads F hop, foldAggregateComponent_reads F hop _ _ _
    (unionArrays argsCount (component argsCount arguments i))]
  congr 1
  funext j _
  rw [unionArrays_component]
  have not_matrix : ¬(arguments 0).isMatrix := by
    simpa [hop] using accepted.2
  by_cases same : (arguments j).objectSize = maxObjectSize argsCount arguments
  · have index : (if isScalarArgument op j then 0 else i) = i := by
      split_ifs with scalar
      · have := accepted.1 j scalar
        omega
      · rfl
    simp [unionArrays, same, index]
  · simp [unionArrays, same, not_matrix]

/-- The elements of the product of two matrices are, in the order of the arrays, the products of
their elements. -/
theorem matrixCompMult_getElem? (lhs rhs : Nat → TConstantUnion) (rows cols : Nat) {i : Nat}
    (hi : i < cols * rows) :
    (SetUnionArrayFromMatrix
        ((GetMatrix F lhs rows cols).compMult F (GetMatrix F rhs rows cols)))[i]? =
      some (setFConst (F.mul (getFConst F (rhs i)) (getFConst F (lhs i)))) := by
  simp [SetUnionArrayFromMatrix, GetMatrix, Matrix.compMult, Matrix.transpose, Matrix.elements,
    Matrix.ofElements, hi, Nat.div_add_mod']

theorem foldUnaryComponentWise_getElem? (op : TOperator) (type : TBasicType) {objectSize : Nat}
    (operandArray : Nat → TConstantUnion) {i : Nat} (hi : i < objectSize) :
    (foldUnaryComponentWise F op type objectSize operandArray).bind (·[i]?) =
      foldComponent F op type objectSize operandArray i :=
  getElem?_mapM_range (foldComponent_isSome F op type objectSize operandArray) hi

theorem FoldAggregateBuiltIn_getElem? {op : TOperator} {argsCount : Nat}
    {arguments : Nat → TIntermConstantUnion} (accepted : Accepts op argsCount arguments)
    (type : TBasicType) {i : Nat} (hi : i < maxObjectSize argsCount arguments) :
    (FoldAggregateBuiltIn F op type argsCount arguments).bind (·[i]?) =
      (FoldAggregateBuiltIn F op type argsCount (component argsCount arguments i)).bind
        (·[0]?) := by
  have single : 0 < maxObjectSize argsCount (component argsCount arguments i) := by
    simp only [maxObjectSize, Finset.lt_sup_iff, Finset.mem_range] at hi ⊢
    obtain ⟨j, hj, -⟩ := hi
    exact ⟨j, hj, Nat.one_pos⟩
  by_cases hop : op = .MulMatrixComponentWise
  · subst hop
    obtain ⟨rfl, matrix, cols, rows⟩ : argsCount = 2 ∧ (arguments 0).isMatrix ∧ _ ∧ _ := by
      simpa using accepted.2
    have sizes : (arguments 1).objectSize = (arguments 0).objectSize := by
      rw [TIntermConstantUnion.objectSize, cols, rows, TIntermConstantUnion.objectSize]
    have size : maxObjectSize 2 arguments = (arguments 0).objectSize := by
      simp [maxObjectSize, Finset.range_add_one, sizes]
    have inside : i < (arguments 0).cols * (arguments 0).rows := by
      rwa [size] at hi
    rw [FoldAggregateBuiltIn, FoldAggregateBuiltIn, if_pos rfl, if_pos rfl, bind_some,
      bind_some, matrixCompMult_getElem? F _ _ _ _ inside,
      matrixCompMult_getElem? F _ _ _ _ (Nat.one_pos : 0 < 1 * 1), unionArrays_component,
      unionArrays_component]
    simp [unionArrays, matrix, size, sizes]
  · rw [FoldAggregateBuiltIn, FoldAggregateBuiltIn, if_neg hop, if_neg hop,
      getElem?_mapM_range (foldAggregateComponent_isSome F op _ _ _ _) hi,
      getElem?_mapM_range (foldAggregateComponent_isSome F op _ _ _ _) single]
    exact foldAggregateComponent_component F accepted hop type _ _ hi

/-- Folding is component-wise, for a unary built-in if and only if every component is to the
built-in as the first one is, where it is one of those that look at the first. -/
theorem folding_componentWise_iff (op : TOperator) (type : TBasicType) :
    (op ≠ .Normalize → ∀ (objectSize : Nat) (operandArray : Nat → TConstantUnion),
      (∀ i < objectSize, (foldUnaryComponentWise F op type objectSize operandArray).bind (·[i]?) =
        (foldUnaryComponentWise F op type 1 fun _ => operandArray i).bind (·[0]?)) ↔
      ∀ i < objectSize, Agrees F op (operandArray 0) (operandArray i)) ∧
    ∀ (argsCount : Nat) (arguments : Nat → TIntermConstantUnion), Accepts op argsCount arguments →
      ∀ i < maxObjectSize argsCount arguments,
        (FoldAggregateBuiltIn F op type argsCount arguments).bind (·[i]?) =
          (FoldAggregateBuiltIn F op type argsCount (component argsCount arguments i)).bind
            (·[0]?) := by
  refine ⟨fun hop objectSize operandArray => forall₂_congr fun i hi => ?_,
    fun argsCount arguments accepted i hi => FoldAggregateBuiltIn_getElem? F accepted type hi⟩
  rw [foldUnaryComponentWise_getElem? F op type operandArray hi,
    foldUnaryComponentWise_getElem? F op type _ Nat.one_pos]
  exact foldComponent_eq_iff F hop type objectSize operandArray i

/-! ## Examples -/

def lift (f : Float32 → Float32) (a : Float) : Float := (f (.ofBits ⟨a⟩)).toBits.toBitVec

def lift₂ (f : Float32 → Float32 → Float32) (a b : Float) : Float := lift (f (.ofBits ⟨a⟩)) b

def trunc (x : Float32) : Float32 := if x < 0 then x.ceil else x.floor

def float32 : FloatArithmetic where
  neg := lift (- ·)
  add := lift₂ (· + ·)
  sub := lift₂ (· - ·)
  mul := lift₂ (· * ·)
  div := lift₂ (· / ·)
  lt a b := Float32.ofBits ⟨a⟩ < Float32.ofBits ⟨b⟩
  le a b := Float32.ofBits ⟨a⟩ ≤ Float32.ofBits ⟨b⟩
  eq a b := Float32.ofBits ⟨a⟩ == Float32.ofBits ⟨b⟩
  ofInt i := (Int32.ofBitVec i).toFloat32.toBits.toBitVec
  ofUInt u := (UInt32.ofBitVec u).toFloat32.toBits.toBitVec
  cmath
    | .Sin => lift .sin | .Cos => lift .cos | .Tan => lift .tan
    | .Asin => lift .asin | .Acos => lift .acos | .Atan => lift .atan
    | .Sinh => lift .sinh | .Cosh => lift .cosh | .Tanh => lift .tanh
    | .Asinh => lift .asinh | .Acosh => lift .acosh | .Atanh => lift .atanh
    | .Floor => lift .floor | .Ceil => lift .ceil | .Round => lift .round
    | .Exp => lift .exp | .Exp2 => lift .exp2 | .Log => lift .log | .Sqrt => lift .sqrt
    | _ => lift trunc
  fabsf := lift .abs
  fractionalPart := lift fun x => x - trunc x
  atan2f := lift₂ .atan2
  powf := lift₂ .pow
  ldexp a i := lift (Float32.scaleB · i.toInt) a

/-- `bitfieldExtract(uvec2(6, 5), 1, 2)`. -/
def exampleArguments (j : Nat) : TIntermConstantUnion where
  basicType := if j = 0 then .EbtUInt else .EbtInt
  cols := if j = 0 then 2 else 1
  rows := 1
  unionArray i :=
    if j = 0 then .uConst (if i = 0 then 6 else 5) else .iConst (if j = 1 then 1 else 2)

theorem folding_componentWise_iff_example :
    (∀ i < 2, (foldUnaryComponentWise float32 .FloatBitsToInt .EbtInt 2 fun _ => .fConst one).bind
        (·[i]?) = some (setIConst one)) ∧
      (FoldAggregateBuiltIn float32 .BitfieldExtract .EbtUInt 3 exampleArguments).bind (·[1]?) =
        some (setUConst 2) := by
  have unary := ((folding_componentWise_iff float32 .FloatBitsToInt .EbtInt).1 (by decide) 2
    fun _ => .fConst one).mpr fun _ _ => rfl
  have accepted : Accepts .BitfieldExtract 3 exampleArguments := by
    refine ⟨fun j hj => ?_, by decide⟩
    obtain rfl | rfl : j = 1 ∨ j = 2 := by simpa [isScalarArgument] using hj
    all_goals rfl
  have aggregate := (folding_componentWise_iff float32 .BitfieldExtract .EbtUInt).2 3
    exampleArguments accepted 1 (by decide)
  exact ⟨fun i hi => (unary i hi).trans rfl, aggregate.trans rfl⟩

/-- Component 1 of `floatBitsToInt(vec2(1.0, 2.0))` is the bits of `1.0`. -/
theorem not_folding_componentWise :
    ¬∀ (F : FloatArithmetic) (op : TOperator) (type : TBasicType), op ≠ .Normalize →
      ∀ (objectSize : Nat) (operandArray : Nat → TConstantUnion), ∀ i < objectSize,
        (foldUnaryComponentWise F op type objectSize operandArray).bind (·[i]?) =
          (foldUnaryComponentWise F op type 1 fun _ => operandArray i).bind (·[0]?) := by
  intro claim
  have wrong := claim float32 .FloatBitsToInt .EbtInt (by decide) 2
    (fun i => .fConst (if i = 0 then one else two)) 1 (by decide)
  exact absurd wrong (by decide)

end MetalAngle.Translator.ComponentFolding
