import MetalAngle.Gl.ResourceNames

/-!
# Bindings of names to locations

Before a program is linked, names can be bound to locations.  The name of an array and that of its
first element mean the same, so that the later of the two bindings counts.
-/

namespace MetalAngle.Gl.Linking

/-- `strtoul` on digits, which are not to be missing and to fit an `unsigned int`. -/
def parseSubscript (digits : Name) : Option UInt32 :=
  if digits.all isDigit && !digits.isEmpty && leadingDecimal digits < 2 ^ 32 then
    some (UInt32.ofNat (leadingDecimal digits))
  else none

/-- `ParseArrayIndex`: the trailing subscript of a name and the length of the name without it. -/
def ParseArrayIndex (name : Name) : UInt32 × Nat :=
  match findLastOf name '[' name.length with
  | none => (GL_INVALID_INDEX, name.length)
  | some left =>
    if name.getLast? = some ']' then
      match parseSubscript ((name.drop (left + 1)).dropLast) with
      | some index => (index, left)
      | none => (GL_INVALID_INDEX, name.length)
    else (GL_INVALID_INDEX, name.length)

structure NamedVariable where
  name : Name
  isArray : Bool

structure ProgramBindings where
  mBindings : List (Name × UInt32)

namespace ProgramBindings

def empty : ProgramBindings := ⟨[]⟩

variable (bindings : ProgramBindings)

def bindLocation (index : UInt32) (name : Name) : ProgramBindings :=
  if (bindings.mBindings.lookup name).isSome then
    ⟨bindings.mBindings.map fun entry => if entry.1 = name then (name, index) else entry⟩
  else ⟨(name, index) :: bindings.mBindings⟩

/-- The location of a name, where `none` is `-1`. -/
def getBindingByName (name : Name) : Option UInt32 := bindings.mBindings.lookup name

def getBinding (var : NamedVariable) : Option UInt32 := bindings.getBindingByName var.name

end ProgramBindings

structure ProgramBinding where
  location : UInt32
  /-- Another binding may mean the same variable and has been made later. -/
  aliased : Bool

structure ProgramAliasedBindings where
  mBindings : List (Name × ProgramBinding)

namespace ProgramAliasedBindings

def empty : ProgramAliasedBindings := ⟨[]⟩

variable (bindings : ProgramAliasedBindings)

def insert (name : Name) (binding : ProgramBinding) : ProgramAliasedBindings :=
  if (bindings.mBindings.lookup name).isSome then
    ⟨bindings.mBindings.map fun entry => if entry.1 = name then (name, binding) else entry⟩
  else ⟨(name, binding) :: bindings.mBindings⟩

def markAliased (name : Name) : ProgramAliasedBindings :=
  ⟨bindings.mBindings.map fun entry =>
    if entry.1 = name then (name, { entry.2 with aliased := true }) else entry⟩

def bindLocation (index : UInt32) (name : Name) : ProgramAliasedBindings :=
  let bindings := bindings.insert name ⟨index, false⟩
  let (arrayIndex, nameLengthWithoutArrayIndex) := ParseArrayIndex name
  if arrayIndex = 0 then bindings.markAliased (name.take nameLengthWithoutArrayIndex)
  else bindings

/-- The location of a name, where `none` is `-1`. -/
def getBindingByName (name : Name) : Option UInt32 :=
  (bindings.mBindings.lookup name).map (·.location)

def getUnaliased (name : Name) : Option UInt32 :=
  (bindings.mBindings.lookup name).bind fun binding =>
    if binding.aliased then none else some binding.location

def getBinding (var : NamedVariable) : Option UInt32 :=
  let name := var.name
  if var.isArray then
    let (arrayIndex, nameLengthWithoutArrayIndex) := ParseArrayIndex name
    if arrayIndex = 0 then
      (bindings.getUnaliased (name.take nameLengthWithoutArrayIndex)).or
        (bindings.getBindingByName name)
    else if arrayIndex = GL_INVALID_INDEX then
      (bindings.getUnaliased name).or
        (bindings.getBindingByName (name ++ ['[', '0', ']']))
    else bindings.getBindingByName name
  else bindings.getBindingByName name

end ProgramAliasedBindings

end MetalAngle.Gl.Linking
