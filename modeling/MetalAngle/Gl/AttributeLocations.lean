import MetalAngle.Lib.BitRange
import MetalAngle.Gl.ValueTypes

/-!
# Locations of vertex attributes

`linkAttributes` first gives the attributes with a location, of the shader or of a binding, their
registers, and then the others the first registers that are free.
-/

namespace MetalAngle.Gl.LinkedProgram

open BinaryStream (Text)
open Linking List BitRange

abbrev MAX_VERTEX_ATTRIBS : Nat := 16

structure AttributeContext where
  maxVertexAttributes : Nat
  noVertexAttributeAliasing : Bool
  webglCompatibility : Bool

structure VertexShader where
  shaderVersion : Int
  allAttributes : List ProgramInput

def VertexShader.activeAttributes (shader : VertexShader) : List ProgramInput :=
  shader.allAttributes.filter (·.active)

inductive AttributeError
  | tooBig (name : Text) (location : Int)
  | aliases (name linked : Text) (location : Nat)
  | tooMany (name : Text)

def AttributeError.message : AttributeError → Name
  | .tooBig name location =>
      "Attribute (".toList ++ nameOf name ++ ") at location ".toList ++
        (toString location).toList ++ " is too big to fit".toList
  | .aliases name linked location =>
      "Attribute '".toList ++ nameOf name ++ "' aliases attribute '".toList ++ nameOf linked ++
        "' at location ".toList ++ (toString location).toList
  | .tooMany name => "Too many attributes (".toList ++ nameOf name ++ ")".toList

structure UsedRegisters where
  usedAttribMap : Nat → Option Text
  usedLocations : BitVec 32

def UsedRegisters.empty : UsedRegisters := ⟨fun _ => none, 0#32⟩

variable (context : AttributeContext) (shaderVersion : Int) (bindings : ProgramBindings)

/-- The location of the binding, as an `int`. -/
def bindingLocation (input : ProgramInput) : Int :=
  match bindings.getBinding input.named with
  | some location => location.toInt32.toInt
  | none => -1

def bindLocation (input : ProgramInput) : ProgramInput :=
  if input.location = -1 ∧ bindingLocation bindings input ≠ -1 then
    { input with location := bindingLocation bindings input }
  else input

def forbidsAliasing : Bool :=
  shaderVersion ≥ 300 || context.webglCompatibility || context.noVertexAttributeAliasing

def claimRegister (input : ProgramInput) (used : UsedRegisters) (reg : Nat) :
    Except AttributeError UsedRegisters :=
  let regLocation := input.location.toNat + reg
  let usedLocations := used.usedLocations ||| 1#32 <<< regLocation
  match used.usedAttribMap regLocation with
  | some linkedAttribute =>
      if forbidsAliasing context shaderVersion then
        .error (.aliases input.name linkedAttribute regLocation)
      else .ok { used with usedLocations }
  | none =>
      .ok ⟨Function.update used.usedAttribMap regLocation (some input.name), usedLocations⟩

def claimRegisters (used : UsedRegisters) (input : ProgramInput) :
    Except AttributeError UsedRegisters :=
  if input.location = -1 then .ok used
  else
    let regs := VariableRegisterCount input.type
    if ((regs + input.location) % 2 ^ 32).toNat > context.maxVertexAttributes then
      .error (.tooBig input.name input.location)
    else (List.range regs).foldlM (claimRegister context shaderVersion input) used

/-- `AllocateFirstFreeBits`.  The number of places is computed in 32 bits. -/
def AllocateFirstFreeBits (bits : BitVec 32) (allocationSize bitsSize : Nat) :
    Option (Nat × BitVec 32) :=
  let mask := BitVec.allOnes 32 >>> (32 - allocationSize)
  BitRange.firstFree bits mask ((bitsSize + 2 ^ 32 - allocationSize + 1) % 2 ^ 32) 0

def allocateRegister (input : ProgramInput) (usedLocations : BitVec 32) :
    Except AttributeError (ProgramInput × BitVec 32) :=
  if input.location = -1 then
    let regs := VariableRegisterCount input.type
    match AllocateFirstFreeBits usedLocations regs context.maxVertexAttributes with
    | none => .error (.tooMany input.name)
    | some (availableIndex, usedLocations) =>
      if availableIndex + regs > context.maxVertexAttributes then .error (.tooMany input.name)
      else .ok ({ input with location := availableIndex }, usedLocations)
  else .ok (input, usedLocations)

def allocateRegisters : List ProgramInput → BitVec 32 → Except AttributeError (List ProgramInput)
  | [], _ => .ok []
  | input :: rest, usedLocations => do
    let placed ← allocateRegister context input usedLocations
    let located ← allocateRegisters rest placed.2
    .ok (placed.1 :: located)

def assignLocations (declared : List ProgramInput) : Except AttributeError (List ProgramInput) := do
  let bound := declared.map (bindLocation bindings)
  let used ← bound.foldlM (claimRegisters context shaderVersion) .empty
  allocateRegisters context bound used.usedLocations

/-! ## What the passes leave -/

/-- The registers of an attribute that has a location. -/
def ProgramInput.Covers (input : ProgramInput) (register : Nat) : Prop :=
  input.location.toNat ≤ register ∧
    register < input.location.toNat + VariableRegisterCount input.type

instance (input : ProgramInput) (register : Nat) : Decidable (input.Covers register) :=
  inferInstanceAs (Decidable (_ ∧ _))

/-- No register belongs to both. -/
def ProgramInput.Apart (a b : ProgramInput) : Prop :=
  ∀ register, ¬ (a.Covers register ∧ b.Covers register)

/-- The range of the attribute lies in `[0, maxVertexAttributes)`. -/
def ProgramInput.InRange (maxVertexAttributes : Nat) (input : ProgramInput) : Prop :=
  0 ≤ input.location ∧
    input.location + VariableRegisterCount input.type ≤ maxVertexAttributes

/-- The shader and the bindings give locations that are no negative numbers but -1: the translator
refuses a negative one, and a binding is below `MAX_VERTEX_ATTRIBS`. -/
def ProgramInput.Bound (input : ProgramInput) : Prop :=
  -1 ≤ input.location ∧ input.location < 2 ^ 31

/-- The attribute has a location of the shader or of a binding. -/
def HasLocation (input : ProgramInput) : Prop := (bindLocation bindings input).location ≠ -1

/-- The attributes with their locations: the ranges fit, and only where aliasing is allowed two
attributes that had locations may share registers. -/
structure Assigned (declared inputs : List ProgramInput) : Prop where
  same : List.Forall₂
    (fun before after => (∃ location, after = { before with location }) ∧
      (HasLocation bindings before → after = bindLocation bindings before)) declared inputs
  inRange : ∀ input ∈ inputs, input.InRange context.maxVertexAttributes
  apart : (declared.zip inputs).Pairwise fun a b =>
    a.2.Apart b.2 ∨
      (HasLocation bindings a.1 ∧ HasLocation bindings b.1 ∧
        forbidsAliasing context shaderVersion = false)

variable {context shaderVersion bindings}

/-! ### The first pass -/

/-- The used registers after those of `S` have been claimed, all of them new ones where `fresh`. -/
structure Claimed (fresh : Bool) (S : Nat → Prop) (used used' : UsedRegisters) : Prop where
  mapped : ∀ r, (used'.usedAttribMap r).isSome ↔
    (used.usedAttribMap r).isSome ∨ S r
  bits : ∀ r, used'.usedLocations.getLsbD r ↔
    used.usedLocations.getLsbD r ∨ r < 32 ∧ S r
  unmapped : fresh → ∀ r, S r → ¬ (used.usedAttribMap r).isSome

namespace Claimed

variable {fresh : Bool} {S T : Nat → Prop} {used mid used' : UsedRegisters}

theorem congr (h : Claimed fresh S used used') (hsame : ∀ r, T r ↔ S r) :
    Claimed fresh T used used' := by
  have heq : T = S := funext fun r => propext (hsame r)
  rwa [heq]

theorem refl (hempty : ∀ r, ¬ S r) : Claimed fresh S used used where
  mapped := fun r => (or_iff_left (hempty r)).symm
  bits := fun r => (or_iff_left fun h => hempty r h.2).symm
  unmapped := fun _ r hr => absurd hr (hempty r)

theorem trans (h : Claimed fresh S used mid) (h' : Claimed fresh T mid used') :
    Claimed fresh (fun r => S r ∨ T r) used used' where
  mapped := fun r => by rw [h'.mapped, h.mapped, or_assoc]
  bits := fun r => by rw [h'.bits, h.bits, or_assoc, and_or_left]
  unmapped := fun hfresh r hr hold => hr.elim (fun hS => h.unmapped hfresh r hS hold)
    fun hT => h'.unmapped hfresh r hT ((h.mapped r).mpr (.inl hold))

theorem disjoint (h : Claimed fresh S used mid) (h' : Claimed fresh T mid used')
    (hfresh : fresh) (r : Nat) : ¬ (S r ∧ T r) :=
  fun hr => h'.unmapped hfresh r hr.2 ((h.mapped r).mpr (.inr hr.1))

end Claimed

variable {input : ProgramInput}

theorem claimRegister_claimed {used used' : UsedRegisters} {reg : Nat}
    (h : claimRegister context shaderVersion input used reg = .ok used') :
    Claimed (forbidsAliasing context shaderVersion) (· = input.location.toNat + reg) used used' := by
  unfold claimRegister at h
  dsimp only at h
  split at h
  case h_1 linkedAttribute hlinked =>
    split at h
    case isTrue => contradiction
    case isFalse hallowed =>
      obtain rfl := Except.ok.inj h
      refine ⟨fun r => ?_, fun r => getLsbD_or_bit _ r, fun hfresh => absurd hfresh hallowed⟩
      refine (or_iff_left_of_imp fun hr => ?_).symm
      rw [hr, hlinked]
      rfl
  case h_2 hunused =>
    obtain rfl := Except.ok.inj h
    refine ⟨fun r => ?_, fun r => getLsbD_or_bit _ r, fun _ r hr hmapped => ?_⟩
    · dsimp only
      by_cases hr : r = input.location.toNat + reg
      · rw [hr, Function.update_self]
        exact iff_of_true rfl (.inr rfl)
      · rw [Function.update_of_ne hr]
        exact (or_iff_left hr).symm
    · rw [hr, hunused] at hmapped
      contradiction

theorem claimRange_claimed {used used' : UsedRegisters} {regs : Nat}
    (h : (List.range regs).foldlM (claimRegister context shaderVersion input) used = .ok used') :
    Claimed (forbidsAliasing context shaderVersion)
      (fun r => input.location.toNat ≤ r ∧ r < input.location.toNat + regs) used used' := by
  induction regs generalizing used' with
  | zero =>
      obtain rfl := Except.ok.inj h
      exact .refl fun r hr => by omega
  | succ regs ih =>
    rw [range_succ, foldlM_append] at h
    generalize hfirst : (range regs).foldlM (claimRegister context shaderVersion input) used =
      first at h
    cases first with
    | error => contradiction
    | ok mid =>
        have hlast : claimRegister context shaderVersion input mid regs = .ok used' := by
          rw [← h]
          exact (bind_pure _).symm
        exact ((ih hfirst).trans (claimRegister_claimed hlast)).congr fun r => by omega

theorem claimRegisters_claimed {used used' : UsedRegisters}
    (h : claimRegisters context shaderVersion used input = .ok used') (hbound : input.Bound)
    (hmax : context.maxVertexAttributes ≤ 32) :
    (input.location ≠ -1 → input.InRange context.maxVertexAttributes) ∧
      Claimed (forbidsAliasing context shaderVersion)
        (fun r => input.location ≠ -1 ∧ input.Covers r) used used' := by
  have hregs := (VariableRegisterCount_bounds input.type).2
  obtain ⟨hlow, hhigh⟩ := hbound
  unfold claimRegisters at h
  split at h
  case isTrue hnone =>
    obtain rfl := Except.ok.inj h
    exact ⟨fun hne => absurd hnone hne, .refl fun r hr => hr.1 hnone⟩
  case isFalse hsome =>
    dsimp only at h
    split at h
    case isTrue => contradiction
    case isFalse hfits =>
      have hwrap : ((VariableRegisterCount input.type : Int) + input.location) % 2 ^ 32 =
          VariableRegisterCount input.type + input.location :=
        Int.emod_eq_of_lt (by omega) (by omega)
      rw [hwrap] at hfits
      refine ⟨fun _ => ⟨by omega, by omega⟩, ?_⟩
      exact (claimRange_claimed h).congr fun r => and_iff_right hsome

theorem claimAll_claimed {inputs : List ProgramInput} {used used' : UsedRegisters}
    (h : inputs.foldlM (claimRegisters context shaderVersion) used = .ok used')
    (hbound : ∀ input ∈ inputs, input.Bound) (hmax : context.maxVertexAttributes ≤ 32) :
    (∀ input ∈ inputs, input.location ≠ -1 → input.InRange context.maxVertexAttributes) ∧
      Claimed (forbidsAliasing context shaderVersion)
        (fun r => ∃ input ∈ inputs, input.location ≠ -1 ∧ input.Covers r) used used' ∧
      (forbidsAliasing context shaderVersion →
        inputs.Pairwise fun a b => a.location ≠ -1 → b.location ≠ -1 → a.Apart b) := by
  induction inputs generalizing used with
  | nil =>
      obtain rfl := Except.ok.inj h
      refine ⟨nofun, .refl ?_, fun _ => .nil⟩
      rintro r ⟨_, hmem, -⟩
      exact absurd hmem not_mem_nil
  | cons input inputs ih =>
    rw [foldlM_cons] at h
    generalize hfirst : claimRegisters context shaderVersion used input = first at h
    cases first with
    | error => contradiction
    | ok mid =>
      obtain ⟨hinput, hclaimed⟩ :=
        claimRegisters_claimed hfirst (hbound input mem_cons_self) hmax
      obtain ⟨hinputs, hrest, hapart⟩ :=
        ih h fun a hmem => hbound a (mem_cons_of_mem _ hmem)
      refine ⟨forall_mem_cons.mpr ⟨hinput, hinputs⟩, ?_, fun hforbids => ?_⟩
      · exact (hclaimed.trans hrest).congr fun r => by
          simp
      · refine .cons (fun b hmem ha hb r hr => ?_) (hapart hforbids)
        exact hclaimed.disjoint hrest hforbids r ⟨⟨ha, hr.1⟩, b, hmem, hb, hr.2⟩

/-! ### The second pass -/

/-- The free run that `AllocateFirstFreeBits` marks.  Where its 32-bit number of places has wrapped,
the run ends behind the registers. -/
theorem AllocateFirstFreeBits_spec {bits : BitVec 32} {regs bitsSize : Nat}
    {found : Nat × BitVec 32} (h : AllocateFirstFreeBits bits regs bitsSize = some found)
    (hregs : regs ≤ 32) :
    (∀ r, found.1 ≤ r → r < found.1 + regs → bits.getLsbD r = false) ∧
      ∀ r, found.2.getLsbD r ↔
        bits.getLsbD r ∨ r < 32 ∧ found.1 ≤ r ∧ r < found.1 + regs := by
  have hmask : BitVec.allOnes 32 >>> (32 - regs) = mask 32 0 regs :=
    (BitVec.shiftLeft_zero _).symm
  unfold AllocateFirstFreeBits at h
  dsimp only at h
  rw [hmask] at h
  obtain ⟨shift, hshift, hfree, hbits⟩ := firstFree_spec h
  rw [← hshift] at hfree hbits
  rw [hbits]
  exact ⟨(and_mask_eq_zero_iff hregs).mp hfree, getLsbD_or_mask hregs⟩

/-- The attribute of the second pass is the one of the first, with a new location where it had
none. -/
def LocatedAs (bound located : ProgramInput) : Prop :=
  (∃ location, located = { bound with location }) ∧ (bound.location ≠ -1 → located = bound)

/-- Two attributes may share registers only where both had a location before. -/
def Separated (a b : ProgramInput × ProgramInput) : Prop :=
  (a.1.location ≠ -1 ∧ b.1.location ≠ -1) ∨ a.2.Apart b.2

/-- An attribute that has a location has marked its registers. -/
def Marked (maxVertexAttributes : Nat) (usedLocations : BitVec 32) (bound : ProgramInput) : Prop :=
  bound.location ≠ -1 → bound.InRange maxVertexAttributes ∧
    ∀ r, bound.Covers r → usedLocations.getLsbD r

/-- What the second pass makes of the attributes when these registers are in use. -/
structure Allocated (maxVertexAttributes : Nat) (usedLocations : BitVec 32)
    (bound located : List ProgramInput) : Prop where
  same : List.Forall₂ LocatedAs bound located
  inRange : ∀ a ∈ located, a.InRange maxVertexAttributes
  unused : ∀ entry ∈ bound.zip located, entry.1.location = -1 →
    ∀ r, entry.2.Covers r → usedLocations.getLsbD r = false
  separated : (bound.zip located).Pairwise Separated

variable {maxVertexAttributes : Nat} {usedLocations : BitVec 32} {bound located : List ProgramInput}

theorem Allocated.keep
    (h : Allocated maxVertexAttributes usedLocations bound located)
    (hlocation : input.location ≠ -1) (hmarked : Marked maxVertexAttributes usedLocations input) :
    Allocated maxVertexAttributes usedLocations (input :: bound) (input :: located) where
  same := .cons ⟨⟨input.location, rfl⟩, fun _ => rfl⟩ h.same
  inRange := forall_mem_cons.mpr ⟨(hmarked hlocation).1, h.inRange⟩
  unused := forall_mem_cons.mpr ⟨fun hnone => absurd hnone hlocation, h.unused⟩
  separated := by
    refine .cons (fun entry hmem => ?_) h.separated
    by_cases hentry : entry.1.location = -1
    · refine .inr fun r hr => ?_
      have hunused := h.unused entry hmem hentry r hr.2
      rw [(hmarked hlocation).2 r hr.1] at hunused
      contradiction
    · exact .inl ⟨hlocation, hentry⟩

/-- An attribute without a location gets registers that are not in use. -/
theorem Allocated.place {usedLocations' : BitVec 32} {placed : ProgramInput}
    (h : Allocated maxVertexAttributes usedLocations' bound located)
    (hmarked : ∀ a ∈ bound, Marked maxVertexAttributes usedLocations a)
    (hsame : LocatedAs input placed) (hrange : placed.InRange maxVertexAttributes)
    (hfree : ∀ r, placed.Covers r → usedLocations.getLsbD r = false)
    (hbits : ∀ r, usedLocations'.getLsbD r = false →
      usedLocations.getLsbD r = false ∧ ¬ placed.Covers r) :
    Allocated maxVertexAttributes usedLocations (input :: bound) (placed :: located) where
  same := .cons hsame h.same
  inRange := forall_mem_cons.mpr ⟨hrange, h.inRange⟩
  unused := forall_mem_cons.mpr ⟨fun _ => hfree, fun entry hmem hnone r hr =>
    (hbits r (h.unused entry hmem hnone r hr)).1⟩
  separated := by
    refine .cons (fun entry hmem => .inr fun r hr => ?_) h.separated
    by_cases hentry : entry.1.location = -1
    · exact (hbits r (h.unused entry hmem hentry r hr.2)).2 hr.1
    · have hlocated : entry.2 = entry.1 := by
        have hall := forall₂_iff_zip.mp h.same
        exact (hall.2 hmem).2 hentry
      have hused := (hmarked entry.1 (of_mem_zip hmem).1 hentry).2 r (hlocated ▸ hr.2)
      rw [hfree r hr.1] at hused
      contradiction

theorem Allocated.apart
    (h : Allocated maxVertexAttributes usedLocations bound located)
    (hapart : bound.Pairwise fun a b => a.location ≠ -1 → b.location ≠ -1 → a.Apart b) :
    (bound.zip located).Pairwise fun a b => a.2.Apart b.2 := by
  have hall := forall₂_iff_zip.mp h.same
  have hfst : (bound.zip located).map Prod.fst = bound := map_fst_zip (le_of_eq hall.1)
  rw [← hfst, pairwise_map] at hapart
  refine (h.separated.and hapart).imp_of_mem fun {a b} ha hb hab => ?_
  refine hab.1.elim (fun hlocations => ?_) id
  rw [(hall.2 ha).2 hlocations.1, (hall.2 hb).2 hlocations.2]
  exact hab.2 hlocations.1 hlocations.2

theorem allocateRegister_cases {placed : ProgramInput} {usedLocations' : BitVec 32}
    (h : allocateRegister context input usedLocations = .ok (placed, usedLocations')) :
    (input.location ≠ -1 ∧ placed = input ∧ usedLocations' = usedLocations) ∨
      (input.location = -1 ∧ LocatedAs input placed ∧ placed.InRange context.maxVertexAttributes ∧
        (∀ r, placed.Covers r → usedLocations.getLsbD r = false) ∧
        ∀ r, usedLocations'.getLsbD r ↔
          usedLocations.getLsbD r ∨ r < 32 ∧ placed.Covers r) := by
  have hregs := (VariableRegisterCount_bounds input.type).2
  unfold allocateRegister at h
  split at h
  case isTrue hnone =>
    dsimp only at h
    split at h
    case h_1 => contradiction
    case h_2 availableIndex marked hallocate =>
      split at h
      case isTrue => contradiction
      case isFalse hfits =>
        obtain ⟨rfl, rfl⟩ := Prod.mk.inj (Except.ok.inj h)
        obtain ⟨hfree, hbits⟩ := AllocateFirstFreeBits_spec hallocate (by omega)
        refine .inr ⟨hnone, ⟨⟨_, rfl⟩, fun hne => absurd hnone hne⟩, ⟨?_, ?_⟩, ?_, hbits⟩
        · exact Int.natCast_nonneg _
        · dsimp only
          omega
        · exact fun r hr => hfree r hr.1 hr.2
  case isFalse hlocation =>
    obtain ⟨rfl, rfl⟩ := Prod.mk.inj (Except.ok.inj h)
    exact .inl ⟨hlocation, rfl, rfl⟩

theorem allocateRegisters_allocated
    (h : allocateRegisters context bound usedLocations = .ok located)
    (hmax : context.maxVertexAttributes ≤ 32)
    (hmarked : ∀ a ∈ bound, Marked context.maxVertexAttributes usedLocations a) :
    Allocated context.maxVertexAttributes usedLocations bound located := by
  induction bound generalizing located usedLocations with
  | nil =>
      obtain rfl := Except.ok.inj h
      exact ⟨.nil, nofun,
        nofun, .nil⟩
  | cons input bound ih =>
    obtain ⟨hinput, hrest⟩ := forall_mem_cons.mp hmarked
    unfold allocateRegisters at h
    generalize hplace : allocateRegister context input usedLocations = place at h
    cases place with
    | error => contradiction
    | ok place =>
      obtain ⟨placed, usedLocations'⟩ := place
      generalize hlater : allocateRegisters context bound usedLocations' = later at h
      cases later with
      | error =>
          dsimp only [bind, Except.bind] at h
          rw [hlater] at h
          contradiction
      | ok later =>
        dsimp only [bind, Except.bind] at h
        rw [hlater] at h
        obtain rfl := Except.ok.inj h
        obtain ⟨hlocation, rfl, rfl⟩ | ⟨hnone, hsame, hrange, hfree, hbits⟩ :=
          allocateRegister_cases hplace
        · exact (ih hlater hrest).keep hlocation hinput
        · have hkept : ∀ a ∈ bound, Marked context.maxVertexAttributes usedLocations' a :=
            fun a hmem hlocation => ⟨(hrest a hmem hlocation).1, fun r hr =>
              (hbits r).mpr (.inl ((hrest a hmem hlocation).2 r hr))⟩
          refine (ih hlater hkept).place hrest hsame hrange hfree fun r hr => ?_
          have hunused := mt (hbits r).mpr (Bool.eq_false_iff.mp hr)
          rw [not_or] at hunused
          refine ⟨Bool.eq_false_iff.mpr hunused.1, fun hcovers => hunused.2 ⟨?_, hcovers⟩⟩
          have hend := hcovers.2
          have hlast := hrange.2
          have hfirst := hrange.1
          omega

/-! ### Both passes -/

theorem bindLocation_same (input : ProgramInput) :
    ∃ location, bindLocation bindings input = { input with location } := by
  unfold bindLocation
  split
  case isTrue => exact ⟨_, rfl⟩
  case isFalse => exact ⟨input.location, rfl⟩

theorem bindLocation_bound (hinput : input.Bound)
    (hbindings : ∀ entry ∈ bindings.mBindings, entry.2.toNat < MAX_VERTEX_ATTRIBS) :
    (bindLocation bindings input).Bound := by
  unfold bindLocation
  split
  case isFalse => exact hinput
  case isTrue =>
    show -1 ≤ bindingLocation bindings input ∧ bindingLocation bindings input < 2 ^ 31
    unfold bindingLocation
    split
    case h_1 location hbinding =>
      obtain ⟨before, after, hsplit, -⟩ := lookup_eq_some_iff.mp hbinding
      have hlt : location.toNat < 16 := hbindings (input.named.name, location) (by
        rw [hsplit]
        exact mem_append_right before mem_cons_self)
      have hint : location.toInt32.toInt = location.toNat := by
        show location.toBitVec.toInt = location.toBitVec.toNat
        exact BitVec.toInt_eq_toNat_of_lt (by
          show 2 * location.toNat < 2 ^ 32
          omega)
      omega
    case h_2 => decide

theorem assignLocations_assigned {declared inputs : List ProgramInput}
    (h : assignLocations context shaderVersion bindings declared = .ok inputs)
    (hdeclared : ∀ input ∈ declared, input.Bound)
    (hbindings : ∀ entry ∈ bindings.mBindings, entry.2.toNat < MAX_VERTEX_ATTRIBS)
    (hmax : context.maxVertexAttributes ≤ 32) :
    Assigned context shaderVersion bindings declared inputs := by
  have hbound : ∀ input ∈ declared.map (bindLocation bindings), input.Bound := by
    simp only [forall_mem_map]
    exact fun input hmem => bindLocation_bound (hdeclared input hmem) hbindings
  unfold assignLocations at h
  dsimp only at h
  generalize hclaim : (declared.map (bindLocation bindings)).foldlM
    (claimRegisters context shaderVersion) .empty = claim at h
  cases claim with
  | error => contradiction
  | ok used =>
    obtain ⟨hranges, hclaimed, hapart⟩ := claimAll_claimed hclaim hbound hmax
    have hmarked : ∀ a ∈ declared.map (bindLocation bindings),
        Marked context.maxVertexAttributes used.usedLocations a := by
      intro a hmem hlocation
      have hrange := hranges a hmem hlocation
      refine ⟨hrange, fun r hr => (hclaimed.bits r).mpr (.inr ⟨?_, a, hmem, hlocation, hr⟩)⟩
      have hend := hr.2
      have hlast := hrange.2
      have hfirst := hrange.1
      omega
    have hallocated := allocateRegisters_allocated h hmax hmarked
    refine ⟨?_, hallocated.inRange, ?_⟩
    · refine (forall₂_map_left_iff.mp hallocated.same).imp fun before after hsame => ?_
      obtain ⟨⟨location, hlocated⟩, hkept⟩ := hsame
      obtain ⟨location', hbefore⟩ := @bindLocation_same bindings before
      exact ⟨⟨location, by rw [hlocated, hbefore]⟩, hkept⟩
    · have hseparated := hallocated.separated
      cases hforbids : forbidsAliasing context shaderVersion with
      | false =>
          rw [zip_map_left, pairwise_map] at hseparated
          refine hseparated.imp fun {a b} hab => hab.symm.imp_right fun hboth => ?_
          exact ⟨hboth.1, hboth.2, rfl⟩
      | true =>
          have hall := hallocated.apart (hapart hforbids)
          rw [zip_map_left, pairwise_map] at hall
          exact hall.imp .inl

end MetalAngle.Gl.LinkedProgram
