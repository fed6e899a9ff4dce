import Mathlib.Data.List.Forall2
import MetalAngle.Gl.ResourceNames

/-!
# Linking the varyings of transform feedback

The names that are to be captured are checked against the varyings of a program and then gathered
again by name.  Both parse the names; the check reads the first of the subscripts of a name and
finds fields by the base name, the gathering reads the last one and finds fields by the name as it
stands.
-/

namespace MetalAngle.Gl.Linking

open List

structure VariableType where
  rowCount : Nat
  columnCount : Nat

def VariableComponentCount (type : VariableType) : Nat := type.rowCount * type.columnCount

structure VaryingField where
  name : Name
  type : VariableType
  arraySizes : List UInt32
  isStruct : Bool

structure Varying where
  name : Name
  type : VariableType
  arraySizes : List UInt32
  fields : List VaryingField

def Varying.isStruct (varying : Varying) : Bool := !varying.fields.isEmpty

structure ProgramMergedVaryings where
  varyings : List Varying
  identifiers : ∀ varying ∈ varyings, IsIdentifier varying.name
  fieldIdentifiers : ∀ varying ∈ varyings, ∀ field ∈ varying.fields, IsIdentifier field.name
  nodup : (varyings.map (·.name)).Nodup

inductive Captured
  | varying (var : Varying)
  | field (parent : Varying) (member : VaryingField)

namespace Captured

def type : Captured → VariableType
  | .varying var => var.type
  | .field _ member => member.type

def arraySizes : Captured → List UInt32
  | .varying var => var.arraySizes
  | .field _ member => member.arraySizes

def isStruct : Captured → Bool
  | .varying var => var.isStruct
  | .field _ member => member.isStruct

def fullName : Captured → Name
  | .varying var => var.name
  | .field parent member => parent.name ++ '.' :: member.name

variable (captured : Captured)

def isArray : Bool := !captured.arraySizes.isEmpty

def getOutermostArraySize : UInt32 := captured.arraySizes.getLast?.getD 0

end Captured

def FindShaderVarField (var : Varying) (fullName : Name) : Option VaryingField :=
  if var.fields.isEmpty then none
  else if '.' ∉ fullName then none
  else
    let topName := fullName.takeWhile (· != '.')
    let fieldName := (fullName.dropWhile (· != '.')).tail
    if topName ≠ var.name then none
    else if fieldName = [] then none
    else var.fields.find? (·.name = fieldName)

def FindVaryingOrField (varyings : List Varying) (name : Name) : Option Captured :=
  varyings.findSome? fun varying =>
    if varying.name = name then some (.varying varying)
    else (FindShaderVarField varying name).map (.field varying)

structure TransformFeedbackVarying where
  name : Name
  type : VariableType
  arraySizes : List UInt32
  arrayIndex : UInt32

namespace TransformFeedbackVarying

def ofVarying (varying : Varying) (index : UInt32) : TransformFeedbackVarying :=
  ⟨varying.name, varying.type, varying.arraySizes, index⟩

def ofField (field : VaryingField) (parent : Varying) : TransformFeedbackVarying :=
  ⟨parent.name ++ '.' :: field.name, field.type, field.arraySizes, GL_INVALID_INDEX⟩

variable (linked : TransformFeedbackVarying)

def size : Nat :=
  if !linked.arraySizes.isEmpty && linked.arrayIndex = GL_INVALID_INDEX then
    (linked.arraySizes.getLast?.getD 0).toNat
  else 1

def componentCount : Nat := linked.size * VariableComponentCount linked.type

end TransformFeedbackVarying

structure Version where
  major : Nat
  minor : Nat

def Version.before (version other : Version) : Bool :=
  version.major < other.major || (version.major = other.major && version.minor < other.minor)

/-- `mTransformFeedbackBufferMode`. -/
inductive BufferMode
  | INTERLEAVED_ATTRIBS
  | SEPARATE_ATTRIBS
deriving DecidableEq

structure Caps where
  maxTransformFeedbackInterleavedComponents : Nat
  maxTransformFeedbackSeparateComponents : Nat

def IncludeSameArrayElement (nameSet : List Name) (name : Name) : Bool :=
  let (baseName, subscripts) := ParseResourceName name
  nameSet.any fun nameInSet =>
    let (arrayName, arrayIndices) := ParseResourceName nameInSet
    baseName = arrayName &&
      (subscripts.isEmpty || arrayIndices.isEmpty || subscripts = arrayIndices)

def text (name : Name) : String := String.ofList name

def validateNames (version : Version) : List Name → List Name → Except String Unit
  | _, [] => .ok ()
  | uniqueNames, name :: names =>
    if version.before ⟨3, 1⟩ && '[' ∈ name then
      .error "Capture of array elements is undefined and not supported."
    else if !version.before ⟨3, 1⟩ && IncludeSameArrayElement uniqueNames name then
      .error ("Two transform feedback varyings include the same array element (" ++ text name
        ++ ").")
    else if version.before ⟨3, 1⟩ && name ∈ uniqueNames then
      .error ("Two transform feedback varyings specify the same output variable (" ++ text name
        ++ ").")
    else validateNames version (name :: uniqueNames) names

def validateVariable (version : Version) (name baseName : Name) (subscripts : List UInt32)
    (var : Captured) : Except String Nat :=
  if var.isStruct then
    .error ("Struct cannot be captured directly (" ++ text baseName ++ ").")
  else if var.isArray then
    if version.before ⟨3, 1⟩ then
      .error "Capture of arrays is undefined and not supported."
    else if subscripts.head?.any (var.getOutermostArraySize ≤ ·) then
      .error ("Cannot capture outbound array element '" ++ text name ++ "'.")
    else .ok (if subscripts.isEmpty then var.getOutermostArraySize.toNat else 1)
  else if !subscripts.isEmpty then
    .error ("Varying '" ++ text baseName ++ "' is not an array to be captured by element.")
  else .ok 1

/-- The check of the names against the varyings, from a total of components on. -/
def validateVaryings (version : Version) (mode : BufferMode) (caps : Caps)
    (varyings : List Varying) : Nat → List Name → Except String Unit
  | _, [] => .ok ()
  | totalComponents, name :: names =>
    let (baseName, subscripts) := ParseResourceName name
    match FindVaryingOrField varyings baseName with
    | none => .error ("Transform feedback varying " ++ text name
        ++ " does not exist in the vertex shader.")
    | some var =>
      match validateVariable version name baseName subscripts var with
      | .error message => .error message
      | .ok elementCount =>
        let componentCount := VariableComponentCount var.type * elementCount
        let total := totalComponents + componentCount
        if mode = .SEPARATE_ATTRIBS ∧
            caps.maxTransformFeedbackSeparateComponents < componentCount then
          .error ("Transform feedback varying " ++ text name ++ " components ("
            ++ toString componentCount ++ ") exceed the maximum separate components ("
            ++ toString caps.maxTransformFeedbackSeparateComponents ++ ").")
        else if mode = .INTERLEAVED_ATTRIBS ∧
            caps.maxTransformFeedbackInterleavedComponents < total then
          .error ("Transform feedback varying total components (" ++ toString total
            ++ ") exceed the maximum interleaved components ("
            ++ toString caps.maxTransformFeedbackInterleavedComponents ++ ").")
        else validateVaryings version mode caps varyings total names

/-- `linkValidateTransformFeedback` of a program with the names and the mode. -/
def linkValidateTransformFeedback (version : Version) (mode : BufferMode) (caps : Caps)
    (varyings : List Varying) (names : List Name) : Except String Unit :=
  match validateNames version [] names with
  | .error message => .error message
  | .ok () => validateVaryings version mode caps varyings 0 names

/-- What `gatherTransformFeedbackVaryings` appends for a name, if anything. -/
def gatherVarying (varyings : List Varying) (name : Name) : Option TransformFeedbackVarying :=
  let (baseName, subscripts) := ParseResourceName name
  let subscript := subscripts.getLast?.getD GL_INVALID_INDEX
  varyings.findSome? fun varying =>
    if baseName = varying.name then some (.ofVarying varying subscript)
    else if varying.isStruct then (FindShaderVarField varying name).map (.ofField · varying)
    else none

def gatherTransformFeedbackVaryings (varyings : List Varying) (names : List Name) :
    List TransformFeedbackVarying :=
  names.filterMap (gatherVarying varyings)

/-! ## What a linked varying is to be -/

/-- The variables that a name can mean. -/
def ProgramMergedVaryings.captured (merged : ProgramMergedVaryings) (target : Captured) : Prop :=
  match target with
  | .varying var => var ∈ merged.varyings
  | .field parent member => parent ∈ merged.varyings ∧ member ∈ parent.fields

/-- A linked varying denotes what a name means: a variable as a whole, or an element of one at an
index below the size of the array. -/
def Denotes (merged : ProgramMergedVaryings) (name : Name) (linked : TransformFeedbackVarying) :
    Prop :=
  ∃ target, merged.captured target ∧ linked.name = target.fullName ∧
    linked.type = target.type ∧ linked.arraySizes = target.arraySizes ∧
    (ParseResourceName name = (target.fullName, []) ∧ linked.arrayIndex = GL_INVALID_INDEX ∨
      ∃ index, ParseResourceName name = (target.fullName, [index]) ∧
        linked.arrayIndex = index ∧ index < target.getOutermostArraySize)

/-- Two linked varyings share an element. -/
def TransformFeedbackVarying.Overlaps (linked other : TransformFeedbackVarying) : Prop :=
  linked.name = other.name ∧ (linked.arrayIndex = GL_INVALID_INDEX ∨
    other.arrayIndex = GL_INVALID_INDEX ∨ linked.arrayIndex = other.arrayIndex)

/-- The components that are captured are within the limit of the mode. -/
def WithinLimits (mode : BufferMode) (caps : Caps) (linked : List TransformFeedbackVarying) :
    Prop :=
  match mode with
  | .SEPARATE_ATTRIBS =>
    ∀ varying ∈ linked, varying.componentCount ≤ caps.maxTransformFeedbackSeparateComponents
  | .INTERLEAVED_ATTRIBS =>
    (linked.map (·.componentCount)).sum ≤ caps.maxTransformFeedbackInterleavedComponents

/-- The linked varyings are what the names ask for. -/
structure LinkedAsNamed (merged : ProgramMergedVaryings) (mode : BufferMode) (caps : Caps)
    (names : List Name) (linked : List TransformFeedbackVarying) : Prop where
  denotes : List.Forall₂ (Denotes merged) names linked
  once : linked.Pairwise (¬ ·.Overlaps ·)
  withinLimits : WithinLimits mode caps linked

/-- A name has no subscript, or a single one that is behind the name of a varying. -/
def PlainlySubscripted (varyings : List Varying) (name : Name) : Prop :=
  (ParseResourceName name).2 = [] ∨
    (ParseResourceName name).2.length = 1 ∧
      ∃ varying ∈ varyings, varying.name = (ParseResourceName name).1

/-! ## Finding variables -/

theorem FindShaderVarField_spec {var : Varying} {fullName : Name} {field : VaryingField}
    (h : FindShaderVarField var fullName = some field) :
    field ∈ var.fields ∧ fullName = var.name ++ '.' :: field.name := by
  unfold FindShaderVarField at h
  split at h
  · cases h
  split at h
  · cases h
  rename_i hdot
  simp only [not_not] at hdot
  dsimp only at h
  split at h
  · cases h
  rename_i htop
  simp only [ne_eq, not_not] at htop
  split at h
  · cases h
  have hname : field.name = (fullName.dropWhile (· != '.')).tail := by
    have hfound := find?_some h
    simpa using hfound
  refine ⟨mem_of_find?_eq_some h, ?_⟩
  rw [hname, ← htop]
  exact split_at_dot hdot

variable {name : Name}

theorem FindShaderVarField_bracket (merged : ProgramMergedVaryings) {varying : Varying}
    (hmem : varying ∈ merged.varyings) (hbracket : '[' ∈ name) :
    FindShaderVarField varying name = none := by
  cases hfind : FindShaderVarField varying name with
  | none => rfl
  | some field =>
      obtain ⟨hfield, rfl⟩ := FindShaderVarField_spec hfind
      have hvar := (merged.identifiers varying hmem).1
      have hmember := (merged.fieldIdentifiers varying hmem field hfield).1
      simp [hvar, hmember] at hbracket

theorem FindVaryingOrField_spec {varyings : List Varying} {target : Captured}
    (h : FindVaryingOrField varyings name = some target) :
    target.fullName = name ∧
      match target with
      | .varying var => var ∈ varyings
      | .field parent member => parent ∈ varyings ∧ member ∈ parent.fields := by
  obtain ⟨varying, hmem, hfound⟩ := exists_of_findSome?_eq_some h
  split at hfound
  · rename_i hname
    cases hfound
    exact ⟨hname, hmem⟩
  · obtain ⟨field, hfield, rfl⟩ := Option.map_eq_some_iff.mp hfound
    obtain ⟨hmember, hname⟩ := FindShaderVarField_spec hfield
    exact ⟨hname.symm, hmem, hmember⟩

def Captured.gathered (subscript : UInt32) : Captured → TransformFeedbackVarying
  | .varying var => .ofVarying var subscript
  | .field parent member => .ofField member parent

/-- A name without subscripts is gathered as it is found by the check. -/
theorem gatherVarying_plain (varyings : List Varying) (hplain : (ParseResourceName name).2 = []) :
    gatherVarying varyings name =
      (FindVaryingOrField varyings name).map (·.gathered GL_INVALID_INDEX) := by
  simp only [gatherVarying, hplain, ParseResourceName_base hplain, FindVaryingOrField]
  induction varyings with
  | nil => rfl
  | cons varying varyings ih =>
    by_cases hname : varying.name = name
    · simp [hname, Captured.gathered]
    · have hname' : ¬name = varying.name := fun h => hname h.symm
      simp only [findSome?_cons, if_neg hname, if_neg hname']
      cases hstruct : varying.isStruct with
      | false =>
          have hnone : FindShaderVarField varying name = none := by
            have hempty : varying.fields.isEmpty := by
              simpa [Varying.isStruct] using hstruct
            simp [FindShaderVarField, hempty]
          simpa [hnone] using ih
      | true =>
          cases hfind : FindShaderVarField varying name with
          | none => simpa [hfind] using ih
          | some field => simp [Captured.gathered]

theorem gatherVarying_subscripted (merged : ProgramMergedVaryings)
    (hsubscripts : (ParseResourceName name).2 ≠ []) :
    gatherVarying merged.varyings name =
      (merged.varyings.find? (·.name = (ParseResourceName name).1)).map
        (.ofVarying · ((ParseResourceName name).2.getLast?.getD GL_INVALID_INDEX)) := by
  have hbracket := bracket_mem_of_subscripts hsubscripts
  have hnone : ∀ varying ∈ merged.varyings, FindShaderVarField varying name = none :=
    fun varying hmem => FindShaderVarField_bracket merged hmem hbracket
  simp only [gatherVarying]
  generalize merged.varyings = varyings at hnone
  induction varyings with
  | nil => rfl
  | cons varying varyings ih =>
      have hrest := ih fun v hv => hnone v (mem_cons_of_mem _ hv)
      by_cases hname : varying.name = (ParseResourceName name).1
      · simp [hname]
      · have hname' : ¬(ParseResourceName name).1 = varying.name := fun h => hname h.symm
        simpa [hname, hname', hnone varying (by simp)] using hrest

theorem FindVaryingOrField_varying (merged : ProgramMergedVaryings) {baseName : Name}
    (hexists : ∃ varying ∈ merged.varyings, varying.name = baseName) :
    FindVaryingOrField merged.varyings baseName =
      (merged.varyings.find? (·.name = baseName)).map .varying := by
  obtain ⟨named, hnamed, hbase⟩ := hexists
  have hdot : '.' ∉ baseName := hbase ▸ (merged.identifiers named hnamed).2.2
  have hnone : ∀ varying : Varying, FindShaderVarField varying baseName = none := by
    intro varying
    simp [FindShaderVarField, hdot]
  unfold FindVaryingOrField
  generalize merged.varyings = varyings
  induction varyings with
  | nil => rfl
  | cons varying varyings ih =>
      by_cases hname : varying.name = baseName
      · simp [hname]
      · simpa [hname, hnone varying] using ih

/-! ## Names that the check accepts -/

/-- The bases of two names differ, or both have subscripts and these differ. -/
def NamesApart (name other : Name) : Prop :=
  ¬((ParseResourceName name).1 = (ParseResourceName other).1 ∧
    ((ParseResourceName name).2 = [] ∨ (ParseResourceName other).2 = [] ∨
      (ParseResourceName name).2 = (ParseResourceName other).2))

variable {names : List Name} {other : Name}

theorem namesApart_of_not_include
    (h : IncludeSameArrayElement names name = false) (hmem : other ∈ names) :
    NamesApart other name := by
  rintro ⟨hbase, hsubscripts⟩
  have hfalse := any_eq_false.mp h other hmem
  apply hfalse
  have hsame : (ParseResourceName name).2.isEmpty ∨
      (ParseResourceName other).2.isEmpty ∨
      (ParseResourceName name).2 = (ParseResourceName other).2 := by
    rcases hsubscripts with h | h | h
    · exact .inr (.inl (isEmpty_iff.mpr h))
    · exact .inl (isEmpty_iff.mpr h)
    · exact .inr (.inr h.symm)
  show (decide ((ParseResourceName name).1 = (ParseResourceName other).1) &&
    ((ParseResourceName name).2.isEmpty || (ParseResourceName other).2.isEmpty ||
      decide ((ParseResourceName name).2 = (ParseResourceName other).2))) = true
  rw [Bool.and_eq_true]
  exact ⟨decide_eq_true hbase.symm, by simpa [or_assoc] using hsame⟩

theorem namesApart_of_ne (hne : name ≠ other) (hname : '[' ∉ name)
    (hother : '[' ∉ other) : NamesApart name other := by
  have hplain {x : Name} (hx : '[' ∉ x) : (ParseResourceName x).2 = [] := by
    by_contra h
    exact hx (bracket_mem_of_subscripts h)
  rintro ⟨hbase, -⟩
  rw [ParseResourceName_base (hplain hname), ParseResourceName_base (hplain hother)] at hbase
  exact hne hbase

variable {version : Version}

/-- The names that are accepted are apart from each other. -/
theorem validateNames_apart {uniqueNames : List Name}
    (h : validateNames version uniqueNames names = .ok ())
    (hold : version.before ⟨3, 1⟩ → ∀ name ∈ uniqueNames, '[' ∉ name) :
    names.Pairwise NamesApart ∧ ∀ other ∈ uniqueNames, ∀ name ∈ names, NamesApart other name := by
  induction names generalizing uniqueNames with
  | nil => exact ⟨.nil, nofun⟩
  | cons name names ih =>
    unfold validateNames at h
    split at h
    · cases h
    rename_i hbracket
    split at h
    · cases h
    rename_i hinclude
    split at h
    · cases h
    rename_i hunique
    have hnew : version.before ⟨3, 1⟩ → '[' ∉ name := fun hbefore hmem =>
      hbracket (by simp [hbefore, hmem])
    have hapart : ∀ other ∈ uniqueNames, NamesApart other name := by
      intro other hother
      by_cases hbefore : version.before ⟨3, 1⟩
      · have hne : other ≠ name := by
          rintro rfl
          exact hunique (by simp [hbefore, hother])
        exact namesApart_of_ne hne (hold hbefore other hother) (hnew hbefore)
      · have hsame : IncludeSameArrayElement uniqueNames name = false := by
          simpa [hbefore] using hinclude
        exact namesApart_of_not_include hsame hother
    obtain ⟨hpairs, hrest⟩ := ih h (by
      intro hbefore other hother
      rcases List.mem_cons.mp hother with rfl | hother
      · exact hnew hbefore
      · exact hold hbefore other hother)
    refine ⟨.cons (hrest name (by simp)) hpairs, fun other hother x hx => ?_⟩
    rcases List.mem_cons.mp hx with rfl | hx
    · exact hapart other hother
    · exact hrest other (List.mem_cons_of_mem _ hother) x hx

/-- What the check has found for a name that it accepts. -/
structure AcceptedName (version : Version) (varyings : List Varying) (name : Name)
    (target : Captured) (elementCount : Nat) : Prop where
  found : FindVaryingOrField varyings (ParseResourceName name).1 = some target
  checked : validateVariable version name (ParseResourceName name).1 (ParseResourceName name).2
    target = .ok elementCount

/-- The components of a name are within the limit of separate captures. -/
def WithinSeparate (mode : BufferMode) (caps : Caps) (components : Nat) : Prop :=
  mode = .SEPARATE_ATTRIBS → components ≤ caps.maxTransformFeedbackSeparateComponents

variable {mode : BufferMode} {caps : Caps}

/-- The names are accepted one by one, and their components are within the limits. -/
theorem validateVaryings_accepted
    {varyings : List Varying} {total : Nat}
    (h : validateVaryings version mode caps varyings total names = .ok ()) :
    ∃ counts : List Nat, List.Forall₂ (fun name components => ∃ target elementCount,
        AcceptedName version varyings name target elementCount ∧
          components = VariableComponentCount target.type * elementCount ∧
          WithinSeparate mode caps components) names counts ∧
      (mode = .INTERLEAVED_ATTRIBS → total ≤ caps.maxTransformFeedbackInterleavedComponents →
        total + counts.sum ≤ caps.maxTransformFeedbackInterleavedComponents) := by
  induction names generalizing total with
  | nil => exact ⟨[], .nil, fun _ hle => by simpa using hle⟩
  | cons name names ih =>
    unfold validateVaryings at h
    dsimp only at h
    split at h
    · cases h
    rename_i target hfound
    split at h
    · cases h
    rename_i elementCount hchecked
    split at h
    · cases h
    rename_i hseparate
    split at h
    · cases h
    rename_i hinterleaved
    obtain ⟨counts, haccepted, hsum⟩ := ih h
    refine ⟨VariableComponentCount target.type * elementCount :: counts,
      .cons ⟨target, elementCount, ⟨hfound, hchecked⟩, rfl, ?_⟩ haccepted, ?_⟩
    · intro hmode
      exact Nat.le_of_not_lt fun hlt => hseparate ⟨hmode, hlt⟩
    · intro hmode _
      have hle := Nat.le_of_not_lt fun hlt => hinterleaved ⟨hmode, hlt⟩
      simpa [Nat.add_assoc] using hsum hmode hle

theorem validateVariable_spec {baseName : Name}
    {subscripts : List UInt32} {var : Captured} {elementCount : Nat}
    (h : validateVariable version name baseName subscripts var = .ok elementCount) :
    (subscripts = [] ∧ elementCount = if var.isArray then var.getOutermostArraySize.toNat else 1) ∨
      ∃ index rest, subscripts = index :: rest ∧ var.isArray ∧
        index < var.getOutermostArraySize ∧ elementCount = 1 := by
  unfold validateVariable at h
  split at h
  · cases h
  split at h
  · rename_i harray
    split at h
    · cases h
    split at h
    · cases h
    rename_i hbound
    have hcount := Except.ok.inj h
    cases subscripts with
    | nil => exact .inl ⟨rfl, by simpa [harray] using hcount.symm⟩
    | cons index rest =>
        refine .inr ⟨index, rest, rfl, harray, ?_, by simpa using hcount.symm⟩
        simpa using hbound
  · rename_i harray
    split at h
    · cases h
    rename_i hempty
    refine .inl ⟨by simpa using hempty, ?_⟩
    simpa [harray] using (Except.ok.inj h).symm

theorem gathered_componentCount (target : Captured) (subscript : UInt32)
    (hfield : ∀ parent member, target = .field parent member → subscript = GL_INVALID_INDEX) :
    (target.gathered subscript).componentCount =
      (if target.isArray && subscript = GL_INVALID_INDEX then
        target.getOutermostArraySize.toNat else 1) * VariableComponentCount target.type := by
  cases target with
  | varying var => rfl
  | field parent member =>
      obtain rfl := hfield parent member rfl
      rfl

/-- A name that is accepted and plainly subscripted is gathered as what it denotes, with the
components that were checked. -/
theorem AcceptedName.gathered (merged : ProgramMergedVaryings)
    {target : Captured} {elementCount : Nat}
    (h : AcceptedName version merged.varyings name target elementCount)
    (hplain : PlainlySubscripted merged.varyings name) :
    ∃ linked, gatherVarying merged.varyings name = some linked ∧ Denotes merged name linked ∧
      linked.componentCount = VariableComponentCount target.type * elementCount := by
  obtain ⟨hname, hmem⟩ := FindVaryingOrField_spec h.found
  have hcaptured : merged.captured target := by
    cases target <;> exact hmem
  rcases validateVariable_spec h.checked with ⟨hnone, hcount⟩ |
      ⟨index, rest, hsubscripts, harray, hlt, hcount⟩
  · have hgather := gatherVarying_plain merged.varyings hnone
    have hfound := h.found
    rw [ParseResourceName_base hnone] at hfound
    rw [hfound] at hgather
    refine ⟨_, hgather, ⟨target, hcaptured, ?_, ?_, ?_, .inl ⟨?_, ?_⟩⟩, ?_⟩
    · cases target <;> rfl
    · cases target <;> rfl
    · cases target <;> rfl
    · rw [hname, ← hnone]
    · cases target <;> rfl
    · rw [gathered_componentCount target _ fun _ _ _ => rfl, hcount, Nat.mul_comm]
      simp
  · have hne : (ParseResourceName name).2 ≠ [] := by simp [hsubscripts]
    obtain ⟨hone, hexists⟩ := hplain.resolve_left hne
    have hrest : rest = [] := by
      rw [hsubscripts] at hone
      simpa using hone
    subst hrest
    have hfound := h.found
    rw [FindVaryingOrField_varying merged hexists] at hfound
    obtain ⟨varying, hfind, rfl⟩ := Option.map_eq_some_iff.mp hfound
    have hgather := gatherVarying_subscripted merged hne
    rw [hfind, hsubscripts] at hgather
    have hvalid : index ≠ GL_INVALID_INDEX := by
      rintro rfl
      have hmax := (Captured.varying varying).getOutermostArraySize.toNat_lt
      have hlt' := UInt32.lt_iff_toNat_lt.mp hlt
      have htop : GL_INVALID_INDEX.toNat = 2 ^ 32 - 1 := by decide
      omega
    refine ⟨_, hgather, ⟨.varying varying, hcaptured, rfl, rfl, rfl,
      .inr ⟨index, ?_, rfl, hlt⟩⟩, ?_⟩
    · rw [hname, ← hsubscripts]
    · have hcomponents := gathered_componentCount (.varying varying) index (by simp)
      simp only [hvalid, decide_false, Bool.and_false, Bool.false_eq_true, if_false] at hcomponents
      rw [hcount, Nat.mul_one]
      exact hcomponents.trans (Nat.one_mul _)

/-! ## All names -/

theorem forall₂_filterMap {α β : Type} {R : α → β → Prop} {f : α → Option β} {xs : List α}
    (h : List.Forall₂ R xs (xs.filterMap f)) : ∀ x ∈ xs, ∃ y, f x = some y ∧ R x y := by
  induction xs with
  | nil => exact fun x hx => absurd hx not_mem_nil
  | cons x xs ih =>
    cases hx : f x with
    | none =>
        rw [filterMap_cons_none hx] at h
        have hlength := h.length_eq
        have hle := length_filterMap_le f xs
        simp only [length_cons] at hlength
        omega
    | some y =>
      rw [filterMap_cons_some hx] at h
      obtain ⟨hxy, hrest⟩ := forall₂_cons.mp h
      intro z hz
      rcases mem_cons.mp hz with rfl | hz
      · exact ⟨y, hx, hxy⟩
      · exact ih hrest z hz

theorem LinkedAsNamed.plainlySubscripted {merged : ProgramMergedVaryings}
    (h : LinkedAsNamed merged mode caps names
      (gatherTransformFeedbackVaryings merged.varyings names)) :
    ∀ name ∈ names, PlainlySubscripted merged.varyings name := by
  intro name hname
  obtain ⟨linked, hgather, target, -, -, -, -, hparse⟩ := forall₂_filterMap h.denotes name hname
  rcases hparse with ⟨hparse, -⟩ | ⟨index, hparse, -, -⟩
  · exact .inl (by rw [hparse])
  · have hne : (ParseResourceName name).2 ≠ [] := by simp [hparse]
    rw [gatherVarying_subscripted merged hne] at hgather
    obtain ⟨varying, hfind, -⟩ := Option.map_eq_some_iff.mp hgather
    have hbase := find?_some hfind
    exact .inr ⟨by simp [hparse], varying, mem_of_find?_eq_some hfind, by simpa using hbase⟩

theorem Denotes.not_overlaps {merged : ProgramMergedVaryings}
    {linked linked' : TransformFeedbackVarying} (h : Denotes merged name linked)
    (h' : Denotes merged other linked') (hapart : NamesApart name other) :
    ¬linked.Overlaps linked' := by
  obtain ⟨target, -, hname, -, -, hparse⟩ := h
  obtain ⟨target', -, hname', -, -, hparse'⟩ := h'
  have hinvalid {x : Captured} {index : UInt32} (hlt : index < x.getOutermostArraySize) :
      index ≠ GL_INVALID_INDEX := by
    rintro rfl
    have hmax := x.getOutermostArraySize.toNat_lt
    have hlt' := UInt32.lt_iff_toNat_lt.mp hlt
    have htop : GL_INVALID_INDEX.toNat = 2 ^ 32 - 1 := by decide
    omega
  rintro ⟨hsame, hindex⟩
  rw [hname, hname'] at hsame
  apply hapart
  rcases hparse with ⟨hparse, hwhole⟩ | ⟨index, hparse, hindexEq, hlt⟩
  · have hbase : (ParseResourceName other).1 = target'.fullName := by
      rcases hparse' with ⟨hparse', -⟩ | ⟨_, hparse', -, -⟩ <;> rw [hparse']
    exact ⟨by rw [hparse, hbase, hsame], .inl (by rw [hparse])⟩
  · rcases hparse' with ⟨hparse', hwhole'⟩ | ⟨index', hparse', hindexEq', hlt'⟩
    · exact ⟨by rw [hparse, hparse', hsame], .inr (.inl (by rw [hparse']))⟩
    · have heq : index = index' := by
        rw [hindexEq, hindexEq'] at hindex
        exact (hindex.resolve_left (hinvalid hlt)).resolve_left (hinvalid hlt')
      exact ⟨by rw [hparse, hparse', hsame], .inr (.inr (by rw [hparse, hparse', heq]))⟩

/-- The names that are accepted and plainly subscripted are gathered one by one. -/
theorem gathered_forall₂ (merged : ProgramMergedVaryings) {counts : List Nat}
    (haccepted : List.Forall₂ (fun name components => ∃ target elementCount,
      AcceptedName version merged.varyings name target elementCount ∧
        components = VariableComponentCount target.type * elementCount ∧
        WithinSeparate mode caps components) names counts)
    (hplain : ∀ name ∈ names, PlainlySubscripted merged.varyings name) :
    List.Forall₂ (Denotes merged) names (gatherTransformFeedbackVaryings merged.varyings names) ∧
      (gatherTransformFeedbackVaryings merged.varyings names).map (·.componentCount) = counts ∧
      ∀ linked ∈ gatherTransformFeedbackVaryings merged.varyings names,
        WithinSeparate mode caps linked.componentCount := by
  unfold gatherTransformFeedbackVaryings
  induction haccepted with
  | nil => exact ⟨.nil, rfl, nofun⟩
  | @cons name components names counts hname _ ih =>
    obtain ⟨target, elementCount, haccept, hcomponents, hwithin⟩ := hname
    obtain ⟨linked, hgather, hdenotes, hcount⟩ :=
      haccept.gathered merged (hplain name (by simp))
    obtain ⟨hall, hcounts, hlimits⟩ := ih fun other hother => hplain other (by simp [hother])
    have hsame : linked.componentCount = components := hcount.trans hcomponents.symm
    rw [filterMap_cons_some hgather]
    refine ⟨.cons hdenotes hall, ?_, fun other hother => ?_⟩
    · rw [map_cons, hcounts, hsame]
    · rcases mem_cons.mp hother with rfl | hother
      · rwa [hsame]
      · exact hlimits other hother

/-- Where the check accepts the names, the gathered varyings are what they ask for if and only if
each name has no subscript or a single one behind the name of a varying. -/
theorem linkedAsNamed_iff (merged : ProgramMergedVaryings) (version : Version)
    (mode : BufferMode) (caps : Caps) (names : List Name)
    (haccepts : linkValidateTransformFeedback version mode caps merged.varyings names = .ok ()) :
    LinkedAsNamed merged mode caps names (gatherTransformFeedbackVaryings merged.varyings names) ↔
      ∀ name ∈ names, PlainlySubscripted merged.varyings name := by
  refine ⟨fun h => h.plainlySubscripted, fun hplain => ?_⟩
  unfold linkValidateTransformFeedback at haccepts
  split at haccepts
  · cases haccepts
  rename_i hnames
  obtain ⟨hapart, -⟩ := validateNames_apart hnames nofun
  obtain ⟨counts, haccepted, hsum⟩ := validateVaryings_accepted haccepts
  obtain ⟨hdenotes, hcounts, hlimits⟩ := gathered_forall₂ merged haccepted hplain
  have hname := forall₂_filterMap hdenotes
  refine ⟨hdenotes, ?_, ?_⟩
  · refine List.Pairwise.filterMap _ ?_ (List.Pairwise.and_mem.mp hapart)
    rintro first second ⟨hfirst, hsecond, hpair⟩ linked hlinked other hother
    obtain ⟨linked', hlinked', hdenotesFirst⟩ := hname first hfirst
    obtain ⟨other', hother', hdenotesSecond⟩ := hname second hsecond
    cases hlinked.symm.trans hlinked'
    cases hother.symm.trans hother'
    exact hdenotesFirst.not_overlaps hdenotesSecond hpair
  · cases mode with
    | SEPARATE_ATTRIBS => exact fun linked hmem => hlimits linked hmem rfl
    | INTERLEAVED_ATTRIBS =>
        have hle := hsum rfl (Nat.zero_le _)
        rw [Nat.zero_add, ← hcounts] at hle
        exact hle

/-- A vertex shader with `out vec4 a[3]`. -/
def arrayVarying : ProgramMergedVaryings where
  varyings := [⟨['a'], ⟨4, 1⟩, [3], []⟩]
  identifiers := by decide
  fieldIdentifiers := by decide
  nodup := by decide

def limits : Caps := ⟨64, 4⟩

theorem linkedAsNamed_iff_element :
    LinkedAsNamed arrayVarying .INTERLEAVED_ATTRIBS limits [['a', '[', '1', ']']]
      (gatherTransformFeedbackVaryings arrayVarying.varyings [['a', '[', '1', ']']]) := by
  have haccepts : linkValidateTransformFeedback ⟨3, 1⟩ .INTERLEAVED_ATTRIBS limits
      arrayVarying.varyings [['a', '[', '1', ']']] = .ok () := by
    decide +kernel
  refine (linkedAsNamed_iff arrayVarying _ _ _ _ haccepts).mpr ?_
  simp only [mem_singleton, forall_eq]
  exact .inr (by decide +kernel)

/-- `a[5][1]` passes the check by its last subscript and is gathered with its first one, which
is beyond the array. -/
theorem linkedAsNamed_twoSubscripts :
    ¬ ∀ (merged : ProgramMergedVaryings) (version : Version) (mode : BufferMode) (caps : Caps)
      (names : List Name),
      linkValidateTransformFeedback version mode caps merged.varyings names = .ok () →
        LinkedAsNamed merged mode caps names
          (gatherTransformFeedbackVaryings merged.varyings names) := by
  intro hall
  have haccepts : linkValidateTransformFeedback ⟨3, 1⟩ .INTERLEAVED_ATTRIBS limits
      arrayVarying.varyings [['a', '[', '5', ']', '[', '1', ']']] = .ok () := by
    decide +kernel
  have hplain := (hall _ _ _ _ _ haccepts).plainlySubscripted _ (mem_singleton_self _)
  rcases hplain with hnone | ⟨hone, -⟩
  · revert hnone
    decide +kernel
  · revert hone
    decide +kernel

end MetalAngle.Gl.Linking
