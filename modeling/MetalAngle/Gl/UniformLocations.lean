import MetalAngle.Gl.ProgramCacheKey

/-!
# Locations of uniforms

The table of locations says which element of which uniform is at a location.  The application finds
a location by the name of a uniform or of one of its elements.
-/

namespace MetalAngle.Gl.Linking

namespace VariableLocation

abbrev kUnused : UInt32 := GL_INVALID_INDEX

variable (location : VariableLocation)

def used : Bool := location.index != kUnused

def markUnused : VariableLocation := { location with index := kUnused }

end VariableLocation

def BeginsWith (str start : Name) (startLength : Nat) : Bool :=
  (start.take startLength).isPrefixOf str

/-- The name that is looked up means the element at a location of a uniform.  The name of an array
ends in `[0]`. -/
def NamedVariable.isAt (variable_ : NamedVariable) (location : VariableLocation)
    (name : Name) : Bool :=
  let (arrayIndex, nameLengthWithoutArrayIndex) := ParseArrayIndex name
  (BeginsWith variable_.name name name.length && location.arrayIndex == 0 &&
      (name.length == variable_.name.length ||
        (name.length + 3 == variable_.name.length && variable_.isArray))) ||
    (variable_.isArray && location.arrayIndex == arrayIndex &&
      nameLengthWithoutArrayIndex + 3 == variable_.name.length &&
      BeginsWith variable_.name name nameLengthWithoutArrayIndex)

def GetVariableLocation (list : List NamedVariable) (locationList : List VariableLocation)
    (name : Name) : Option Nat :=
  locationList.findIdx? fun location =>
    location.used && list[location.index.toNat]?.any fun variable_ => variable_.isAt location name

end MetalAngle.Gl.Linking
