import Mathlib.Tactic

/-!
# Vertex attributes and vertex bindings

A vertex attribute reads a format at a relative offset of its binding, and a binding is a buffer
with an offset, a stride and a divisor.  Each attribute caches the last element that its buffer has
room for.
-/

namespace MetalAngle.Gl

inductive VertexAttribType
  | Byte | UnsignedByte | Short | UnsignedShort | Int | UnsignedInt | Float | HalfFloat
  | HalfFloatOES | Fixed | Int2101010 | UnsignedInt2101010 | Int1010102 | UnsignedInt1010102
deriving DecidableEq

inductive Conversion
  | integer | normalized | scaled
deriving DecidableEq

/-- The formats of vertices: the type of a component, how many of them, and how integers are read. -/
structure FormatID where
  type : VertexAttribType
  components : Nat
  conversion : Option Conversion
deriving DecidableEq

def getVertexFormatID (type : VertexAttribType) (normalized : Bool) (components : Nat)
    (pureInteger : Bool) : FormatID :=
  let conversion : Conversion :=
    if pureInteger then .integer else if normalized then .normalized else .scaled
  match type with
  | .Float => ⟨.Float, components, none⟩
  | .HalfFloat => ⟨.HalfFloat, components, none⟩
  | .HalfFloatOES => ⟨.HalfFloat, components, none⟩
  | .Fixed => ⟨.Fixed, components, none⟩
  | .Int2101010 => ⟨.Int2101010, 4, conversion⟩
  | .UnsignedInt2101010 => ⟨.UnsignedInt2101010, 4, conversion⟩
  | type => ⟨type, components, conversion⟩

def FormatID.pixelBytes (format : FormatID) : Nat :=
  match format.type with
  | .Byte => format.components
  | .UnsignedByte => format.components
  | .Short => 2 * format.components
  | .UnsignedShort => 2 * format.components
  | .HalfFloat => 2 * format.components
  | .HalfFloatOES => 2 * format.components
  | .Int => 4 * format.components
  | .UnsignedInt => 4 * format.components
  | .Float => 4 * format.components
  | .Fixed => 4 * format.components
  | .Int2101010 => 4
  | .UnsignedInt2101010 => 4
  | .Int1010102 => 4
  | .UnsignedInt1010102 => 4

def int64Max : Int := 2 ^ 63 - 1

def kIntegerOverflow : Int := -2 ^ 63

/-- A `CheckedNumeric<GLint64>` keeps a result of 64 bits. -/
def checkedInt64 (x : Int) : Option Int :=
  if kIntegerOverflow ≤ x ∧ x ≤ int64Max then some x else none

/-- `VertexAttribute::updateCachedElementLimit` for a binding with a buffer: the last element that
lies in it. -/
def elementLimit (bufferSize bufferOffset : Int) (attribOffset attribSize stride divisor : Nat) :
    Int :=
  let elementLimit : Option Int := do
    let limit ← checkedInt64 (bufferSize - bufferOffset)
    let limit ← checkedInt64 (limit - attribOffset)
    checkedInt64 (limit - attribSize)
  match elementLimit with
  | none => kIntegerOverflow
  | some limit =>
    if limit < 0 then limit
    -- If one vertex fits, infinitely many do.
    else if stride = 0 then int64Max
    else
      let elementLimit := limit / stride
      if 0 < divisor then
        let limit : Option Int := do
          let limit ← checkedInt64 (elementLimit * divisor)
          checkedInt64 (limit + (divisor - 1))
        limit.getD kIntegerOverflow
      else elementLimit

end MetalAngle.Gl
