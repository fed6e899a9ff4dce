import MetalAngle.Gl.ActiveTextures
import MetalAngle.Gl.SamplerRelinks

/-!
# Runs with active textures

The cache holds what it should as long as no unit of the current program loses its sampler type
while it has a complete texture of that type.
-/

namespace MetalAngle.Gl.ActiveTextures

open ActiveSamplers LabelledRun Bindings State List
open Function (update update_self update_of_ne update_apply)

/-! ## The marks of a program -/

/-- A unit that is counted or has a type is marked. -/
structure Marks (p : ProgramState) (unit : TextureUnit) : Prop where
  count : 0 < p.mActiveSamplerRefCounts unit → p.mActiveSamplersMask unit
  type : p.mActiveSamplerTypes unit ≠ .InvalidEnum → p.mActiveSamplersMask unit

namespace Marks

variable {p : ProgramState}

theorem of_mask {unit : TextureUnit} (h : p.mActiveSamplersMask unit) : Marks p unit :=
  ⟨fun _ => h, fun _ => h⟩

theorem of_eq {q : ProgramState} {unit : TextureUnit} (h : Marks p unit)
    (hcount : q.mActiveSamplerRefCounts unit = p.mActiveSamplerRefCounts unit)
    (hmask : q.mActiveSamplersMask unit = p.mActiveSamplersMask unit)
    (htype : q.mActiveSamplerTypes unit = p.mActiveSamplerTypes unit) : Marks q unit := by
  constructor
  · rw [hcount, hmask]
    exact h.count
  · rw [htype, hmask]
    exact h.type

section

variable (h : ∀ unit, Marks p unit)
include h

theorem countMarked (entry : TextureUnit × Element)
    (unit : TextureUnit) : Marks (p.countMarked entry) unit := by
  by_cases hunit : unit = entry.1
  · subst hunit
    apply of_mask
    simp [ProgramState.countMarked, ProgramState.setMask]
  · apply (h unit).of_eq <;>
      simp [ProgramState.countMarked, ProgramState.setMask, ProgramState.countElement, hunit]

theorem updateActiveSamplers (unit : TextureUnit) :
    Marks p.updateActiveSamplers unit := by
  rw [ProgramState.updateActiveSamplers_eq]
  revert unit
  apply foldlRecOn (motive := fun q => ∀ unit, Marks q unit)
  · exact fun unit => ⟨fun hpos => absurd hpos (Nat.lt_irrefl 0), (h unit).type⟩
  · intro q hq entry _
    exact countMarked hq entry

theorem countMoved (bindings : List SamplerBinding) (element : Element)
    (taken unit : TextureUnit) : Marks (p.countMoved bindings element taken) unit := by
  by_cases hunit : unit = taken
  · subst hunit
    apply of_mask
    unfold ProgramState.countMoved
    dsimp only
    split
    case isTrue => simp [ProgramState.setMask]
    case isFalse hcount =>
      simp only [ProgramState.countElement, update_self] at hcount ⊢
      exact (h unit).count (by omega)
  · obtain ⟨hcount, hmask, htype, -⟩ := ProgramState.countMoved_other p bindings element hunit
    exact (h unit).of_eq hcount hmask htype

theorem removeElement (left unit : TextureUnit) :
    Marks (p.removeElement left) unit := by
  by_cases hunit : unit = left
  · subst hunit
    unfold ProgramState.removeElement
    dsimp only
    split
    case isTrue => constructor <;> simp [*]
    case isFalse hcount =>
      have hmask := (h unit).count (by omega)
      split
      case isTrue => exact of_mask hmask
      case isFalse => exact of_mask hmask
  · obtain ⟨hcount, hmask, htype, -⟩ := ProgramState.removeElement_other (p := p) hunit
    exact (h unit).of_eq hcount hmask htype

theorem rebindElement (samplerIndex arrayIndex : Nat)
    (newTextureUnit unit : TextureUnit) :
    Marks (p.rebindElement samplerIndex arrayIndex newTextureUnit) unit := by
  cases hbinding : p.mSamplerBindings[samplerIndex]? with
  | none => simpa [ProgramState.rebindElement, hbinding] using h unit
  | some binding =>
    cases hold : binding.boundTextureUnits[arrayIndex]? with
    | none => simpa [ProgramState.rebindElement, hbinding, hold] using h unit
    | some old =>
      by_cases hne : old = newTextureUnit
      · simpa [ProgramState.rebindElement, hbinding, hold, hne] using h unit
      · rw [ProgramState.rebindElement_eq hbinding hold hne]
        exact removeElement (countMoved h _ _ _) old unit

theorem rebindElements (samplerIndex arrayIndex : Nat)
    (units : List TextureUnit) (unit : TextureUnit) :
    Marks (p.rebindElements samplerIndex arrayIndex units) unit := by
  induction units generalizing p arrayIndex with
  | nil => exact h unit
  | cons first rest ih => exact ih (rebindElement h samplerIndex arrayIndex first) _

theorem updateSamplerUniform (samplerIndex arrayIndex : Nat)
    (v : List TextureUnit) (unit : TextureUnit) :
    Marks (p.updateSamplerUniform samplerIndex arrayIndex v) unit := by
  unfold ProgramState.updateSamplerUniform
  split
  · exact h unit
  · split
    · exact h unit
    · exact rebindElements h samplerIndex arrayIndex _ unit

theorem setUniformValuesFromBindingQualifiers (samplerIndex : Nat)
    (uniforms : List SamplerUniform) (unit : TextureUnit) :
    Marks (p.setUniformValuesFromBindingQualifiers samplerIndex uniforms) unit := by
  induction uniforms generalizing p samplerIndex with
  | nil => exact h unit
  | cons uniform uniforms ih =>
    apply ih
    intro unit
    cases uniform.binding with
    | none => exact h unit
    | some units => exact updateSamplerUniform h samplerIndex 0 units unit

theorem link (result : ProgramState.LinkResult) (unit : TextureUnit) :
    Marks (p.link result) unit := by
  cases result with
  | failsBefore => exact (h unit).of_eq rfl rfl rfl
  | failsAfter uniforms => exact (h unit).of_eq rfl rfl rfl
  | succeeds uniforms =>
    apply setUniformValuesFromBindingQualifiers
    apply updateActiveSamplers
    exact fun unit => (h unit).of_eq rfl rfl rfl

theorem loadBinary (result : ProgramState.LoadResult)
    (unit : TextureUnit) : Marks (p.loadBinary result) unit := by
  cases result with
  | rejected => exact (h unit).of_eq rfl rfl rfl
  | deserialized bindings loads =>
    refine Marks.of_eq (p := ProgramState.updateActiveSamplers _) ?_ rfl rfl rfl
    apply updateActiveSamplers
    exact fun unit => (h unit).of_eq rfl rfl rfl

end

end Marks

theorem mem_allTextureUnits (unit : TextureUnit) : unit ∈ allTextureUnits :=
  mem_finRange unit

/-! ## Refreshing units -/

namespace State

/-- The units are refreshed where the current program has a type for them, and nothing else
changes. -/
structure Refreshes (units : TextureUnit → Prop) (s t : State) : Prop where
  toBindings : t.toBindings = s.toBindings
  refreshed : ∀ unit, units unit → s.samplerType unit ≠ .InvalidEnum →
    t.mActiveTexturesCache unit = s.textureFor (s.samplerType unit) unit
  kept : ∀ unit, (units unit → s.samplerType unit = .InvalidEnum) →
    t.mActiveTexturesCache unit = s.mActiveTexturesCache unit
  observed : ∀ unit, s.samplerType unit ≠ .InvalidEnum →
    s.mCompleteTextureBindings unit = some (s.mSamplerTextures (s.samplerType unit) unit) →
      t.mCompleteTextureBindings unit = some (s.mSamplerTextures (s.samplerType unit) unit)

/-- The textures of the units are observed where the current program has a type for them. -/
def Observes (units : TextureUnit → Prop) (s t : State) : Prop :=
  ∀ unit, units unit → s.samplerType unit ≠ .InvalidEnum →
    t.mCompleteTextureBindings unit = some (s.mSamplerTextures (s.samplerType unit) unit)

variable {s t v : State} {units units' : TextureUnit → Prop}

namespace Refreshes

theorem refl (s : State) : Refreshes (fun _ => False) s s :=
  ⟨rfl, fun _ h => h.elim, fun _ _ => rfl, fun _ _ h => h⟩

theorem congr (h : Refreshes units s t) (hunits : ∀ unit, units unit ↔ units' unit) :
    Refreshes units' s t := by
  obtain rfl : units = units' := funext fun unit => propext (hunits unit)
  exact h

theorem trans (hfirst : Refreshes units s t) (hsecond : Refreshes units' t v) :
    Refreshes (fun unit => units unit ∨ units' unit) s v := by
  obtain ⟨hbindings, hrefreshed, hkept, hobserved⟩ := hsecond
  rw [hfirst.toBindings] at hbindings hrefreshed hkept hobserved
  constructor
  · exact hbindings
  · intro unit hunit htype
    by_cases hlater : units' unit
    · exact hrefreshed unit hlater htype
    · rw [hkept unit fun h => absurd h hlater]
      exact hfirst.refreshed unit (hunit.resolve_right hlater) htype
  · intro unit hunit
    rw [hkept unit fun h => hunit (.inr h)]
    exact hfirst.kept unit fun h => hunit (.inl h)
  · intro unit htype hobserves
    exact hobserved unit htype (hfirst.observed unit htype hobserves)

theorem foldl (good : Bindings → Prop) {f : State → TextureUnit → State}
    (hf : ∀ s unit, good s.toBindings → Refreshes (fun other => other = unit) s (f s unit))
    (list : List TextureUnit) (s : State) (hs : good s.toBindings) :
    Refreshes (fun unit => unit ∈ list) s (list.foldl f s) := by
  induction list generalizing s with
  | nil => exact (refl s).congr fun unit => by simp
  | cons unit rest ih =>
    have hfirst := hf s unit hs
    have hrest := ih (f s unit) (by rwa [hfirst.toBindings])
    exact (hfirst.trans hrest).congr fun other => by simp

end Refreshes

theorem Observes.trans (hfirst : Observes units s t) (hrefresh : Refreshes units s t)
    (hsecond : Observes units' t v) (hrefresh' : Refreshes units' t v) :
    Observes (fun unit => units unit ∨ units' unit) s v := by
  obtain ⟨-, -, -, hobserved⟩ := hrefresh'
  unfold Observes at hsecond
  rw [hrefresh.toBindings] at hobserved hsecond
  intro unit hunit htype
  by_cases hlater : units' unit
  · exact hsecond unit hlater htype
  · exact hobserved unit htype (hfirst unit (hunit.resolve_right hlater) htype)

theorem Observes.foldl (good : Bindings → Prop) {f : State → TextureUnit → State}
    (hf : ∀ s unit, good s.toBindings → Refreshes (fun other => other = unit) s (f s unit))
    (hobserves : ∀ s unit, good s.toBindings → Observes (fun other => other = unit) s (f s unit))
    (list : List TextureUnit) (s : State) (hs : good s.toBindings) :
    Observes (fun unit => unit ∈ list) s (list.foldl f s) := by
  induction list generalizing s with
  | nil => exact fun unit hunit => absurd hunit not_mem_nil
  | cons unit rest ih =>
    have hfirst := hf s unit hs
    have hnext : good (f s unit).toBindings := by rwa [hfirst.toBindings]
    have hboth := (hobserves s unit hs).trans hfirst (ih _ hnext)
      (Refreshes.foldl good hf rest _ hnext)
    intro other hother
    exact hboth other (mem_cons.mp hother)

/-- What `updateActiveTextureState` leaves. -/
theorem updateActiveTextureState_spec (s : State) (textureIndex : TextureUnit)
    (sampler : Option Sampler) (texture : Texture) :
    let t := s.updateActiveTextureState textureIndex sampler texture
    t.toBindings = s.toBindings ∧
      t.mActiveTexturesCache = update s.mActiveTexturesCache textureIndex
        (if s.isSamplerComplete texture sampler then some texture else none) ∧
      t.mCompleteTextureBindings = s.mCompleteTextureBindings := by
  unfold updateActiveTextureState
  cases hcomplete : s.isSamplerComplete texture sampler with
  | false => simp
  | true => cases hdirty : s.hasAnyDirtyBit texture <;> simp [setTextureDirty, hdirty]

theorem updateActiveTexture_spec (s : State) (textureIndex : TextureUnit) (texture : Texture) :
    let t := s.updateActiveTexture textureIndex texture
    t.toBindings = s.toBindings ∧
      t.mActiveTexturesCache = update s.mActiveTexturesCache textureIndex
        (if s.isSamplerComplete texture (s.mSamplers textureIndex) then some texture else none) ∧
      t.mCompleteTextureBindings = update s.mCompleteTextureBindings textureIndex (some texture) :=
  updateActiveTextureState_spec _ _ _ _

theorem textureFor_of_valid {type : TextureType} (htype : type ≠ .InvalidEnum) (b : Bindings)
    (unit : TextureUnit) :
    b.textureFor type unit =
      if b.isSamplerComplete (b.mSamplerTextures type unit) (b.mSamplers unit)
      then some (b.mSamplerTextures type unit) else none := by
  simp [textureFor, htype]

theorem textureFor_invalid (b : Bindings) (unit : TextureUnit) :
    b.textureFor .InvalidEnum unit = none := by
  simp [textureFor]

theorem refreshes_updateActiveTexture (s : State) (unit : TextureUnit)
    (htype : s.samplerType unit ≠ .InvalidEnum) :
    Refreshes (fun other => other = unit) s
      (s.updateActiveTexture unit (s.mSamplerTextures (s.samplerType unit) unit)) := by
  obtain ⟨hbindings, hcache, hobserved⟩ :=
    s.updateActiveTexture_spec unit (s.mSamplerTextures (s.samplerType unit) unit)
  constructor
  · exact hbindings
  · rintro other rfl -
    rw [hcache, update_self, textureFor_of_valid htype]
  · intro other hother
    have hne : other ≠ unit := by
      rintro rfl
      exact htype (hother rfl)
    rw [hcache, update_of_ne hne]
  · intro other _ hother
    by_cases hne : other = unit
    · subst hne
      rw [hobserved, update_self]
    · rw [hobserved, update_of_ne hne, hother]

theorem onActiveTextureChange_eq (s : State) (unit : TextureUnit) :
    s.onActiveTextureChange unit = if s.samplerType unit = .InvalidEnum then s
      else s.updateActiveTexture unit (s.mSamplerTextures (s.samplerType unit) unit) := by
  unfold onActiveTextureChange samplerType
  cases s.mProgram <;> rfl

theorem onActiveTextureStateChange_eq (s : State) (unit : TextureUnit) :
    s.onActiveTextureStateChange unit = if s.samplerType unit = .InvalidEnum then s
      else s.updateActiveTextureState unit (s.mSamplers unit)
        (s.mSamplerTextures (s.samplerType unit) unit) := by
  unfold onActiveTextureStateChange samplerType
  cases s.mProgram <;> rfl

theorem refreshes_self {unit : TextureUnit} (htype : s.samplerType unit = .InvalidEnum) :
    Refreshes (fun other => other = unit) s s := by
  refine ⟨rfl, ?_, fun _ _ => rfl, fun _ _ h => h⟩
  rintro other rfl hvalid
  exact absurd htype hvalid

theorem refreshes_onActiveTextureChange (s : State) (unit : TextureUnit) :
    Refreshes (fun other => other = unit) s (s.onActiveTextureChange unit) := by
  rw [onActiveTextureChange_eq]
  split
  case isTrue htype => exact refreshes_self htype
  case isFalse htype => exact refreshes_updateActiveTexture s unit htype

theorem observes_onActiveTextureChange (s : State) (unit : TextureUnit) :
    Observes (fun other => other = unit) s (s.onActiveTextureChange unit) := by
  rintro other rfl htype
  rw [onActiveTextureChange_eq, if_neg htype, (s.updateActiveTexture_spec _ _).2.2, update_self]

theorem refreshes_onActiveTextureStateChange (s : State) (unit : TextureUnit) :
    Refreshes (fun other => other = unit) s (s.onActiveTextureStateChange unit) := by
  rw [onActiveTextureStateChange_eq]
  split
  case isTrue htype => exact refreshes_self htype
  case isFalse htype =>
    obtain ⟨hbindings, hcache, hobserved⟩ := s.updateActiveTextureState_spec unit
      (s.mSamplers unit) (s.mSamplerTextures (s.samplerType unit) unit)
    constructor
    · exact hbindings
    · rintro other rfl -
      rw [hcache, update_self, textureFor_of_valid htype]
    · intro other hother
      have hne : other ≠ unit := by
        rintro rfl
        exact htype (hother rfl)
      rw [hcache, update_of_ne hne]
    · intro other _ hother
      rw [hobserved, hother]

theorem refreshes_onProgramExecutableChange {program : Nat} (hprogram : s.mProgram = some program)
    (hmarks : ∀ unit, Marks (s.programs program) unit) :
    Refreshes (fun _ => True) s (s.onProgramExecutableChange program) ∧
      Observes (fun _ => True) s (s.onProgramExecutableChange program) := by
  let round (t : State) (unit : TextureUnit) : State :=
    let type := (t.programs program).mActiveSamplerTypes unit
    if type = .InvalidEnum then t else t.updateActiveTexture unit (t.mSamplerTextures type unit)
  let list := allTextureUnits.filter (s.programs program).mActiveSamplersMask
  have hround : ∀ t unit, t.toBindings = s.toBindings →
      round t unit = t.onActiveTextureChange unit := by
    intro t unit ht
    unfold round onActiveTextureChange
    rw [ht, hprogram]
  have hrefreshes : ∀ t unit, t.toBindings = s.toBindings →
      Refreshes (fun other => other = unit) t (round t unit) := by
    intro t unit ht
    rw [hround t unit ht]
    exact t.refreshes_onActiveTextureChange unit
  have hobserves : ∀ t unit, t.toBindings = s.toBindings →
      Observes (fun other => other = unit) t (round t unit) := by
    intro t unit ht
    rw [hround t unit ht]
    exact t.observes_onActiveTextureChange unit
  have hmem : ∀ unit, s.samplerType unit ≠ .InvalidEnum → unit ∈ list := by
    intro unit htype
    unfold samplerType at htype
    rw [hprogram] at htype
    simpa [list, allTextureUnits] using (hmarks unit).type htype
  have hloop := Refreshes.foldl (fun b => b = s.toBindings) hrefreshes list s rfl
  have hobserved :=
    Observes.foldl (fun b => b = s.toBindings) hrefreshes hobserves list s rfl
  refine ⟨⟨hloop.toBindings, ?_, ?_, hloop.observed⟩, ?_⟩
  · exact fun unit _ htype => hloop.refreshed unit (hmem unit htype) htype
  · exact fun unit hidle => hloop.kept unit fun _ => hidle trivial
  · exact fun unit _ htype => hobserved unit (hmem unit htype) htype

end State

/-! ## What a context keeps -/

/-- What holds of the bindings of a context. -/
structure Bindings.Sound (objects : TextureObjects) (b : Bindings) : Prop where
  marks : ∀ program unit, Marks (b.programs program) unit
  typed : ∀ type unit, objects.textureType (b.mSamplerTextures type unit) = type
  bound : ∀ type unit, b.deleted (b.mSamplerTextures type unit) = false
  zero : ∀ type, b.deleted (objects.zeroTextures type) = false
  sampled : ∀ unit sampler, b.mSamplers unit = some sampler →
    b.mSamplerObserverBindings unit = some sampler

/-- The cache is the one of the types that the units have had last, and the textures of the current
types are observed. -/
structure State.Follows (s : State) (last : ActiveTextureArray TextureType) : Prop where
  cache : ∀ unit, s.mActiveTexturesCache unit = s.textureFor (last unit) unit
  last : ∀ unit, s.samplerType unit ≠ .InvalidEnum → last unit = s.samplerType unit
  observed : ∀ unit, s.samplerType unit ≠ .InvalidEnum →
    s.mCompleteTextureBindings unit = some (s.mSamplerTextures (s.samplerType unit) unit)

/-- What holds of a context whose cache is exact. -/
structure State.Sound (objects : TextureObjects) (s : State) : Prop where
  bindings : s.toBindings.Sound objects
  follows : s.Follows s.samplerType

namespace State

variable {objects : TextureObjects} {s t : State} {last : ActiveTextureArray TextureType}
  {units : TextureUnit → Prop}

theorem activeTexture_eq (h : s.toBindings.Sound objects) (unit : TextureUnit) :
    s.activeTexture unit = s.textureFor (s.samplerType unit) unit := by
  unfold activeTexture samplerType
  cases hprogram : s.mProgram with
  | none => exact (textureFor_invalid _ unit).symm
  | some program =>
    dsimp only
    split
    case isTrue => rfl
    case isFalse hmask =>
      have htype : (s.programs program).mActiveSamplerTypes unit = .InvalidEnum := by
        by_contra htype
        exact hmask ((h.marks program unit).type htype)
      rw [htype, textureFor_invalid]

variable {b : Bindings}

theorem textureFor_eq_some {type : TextureType} {unit : TextureUnit}
    {texture : Texture} (h : b.textureFor type unit = some texture) :
    b.mSamplerTextures type unit = texture := by
  exact Option.some.inj (Option.ite_none_right_eq_some.mp h).2

/-- Without pointers to deleted textures, `syncTextures` follows none. -/
theorem syncTextures_isSome
    (hlive : ∀ unit texture, s.mActiveTexturesCache unit = some texture →
      s.deleted texture = false) : s.syncTextures.isSome := by
  have hloop : ∀ (list : List TextureUnit) (dirty : Texture → Bool),
      (list.foldlM s.syncTexture dirty).isSome := by
    intro list
    induction list with
    | nil => exact fun _ => rfl
    | cons unit rest ih =>
      intro dirty
      have hround : ∃ dirty', s.syncTexture dirty unit = some dirty' := by
        unfold syncTexture
        cases hcache : s.mActiveTexturesCache unit with
        | none => exact ⟨_, rfl⟩
        | some texture =>
          simp only [hlive unit texture hcache, Bool.false_eq_true, if_false]
          split
          · exact ⟨_, rfl⟩
          · exact ⟨_, rfl⟩
      obtain ⟨dirty', hround⟩ := hround
      rw [foldlM_cons, hround]
      exact ih dirty'
  unfold syncTextures
  rw [Option.isSome_map]
  exact hloop _ _

/-- The cache is exact when no unit without type has had a complete texture of its last type. -/
theorem Follows.exact_iff (h : s.Follows last) (hbindings : s.toBindings.Sound objects) :
    s.ActiveTexturesExact ↔
      ∀ unit, s.samplerType unit = .InvalidEnum → s.textureFor (last unit) unit = none := by
  constructor
  · intro hexact unit htype
    rw [← h.cache, hexact.cache, activeTexture_eq hbindings, htype, textureFor_invalid]
  · intro hidle
    have hcache : ∀ unit, s.mActiveTexturesCache unit = s.activeTexture unit := by
      intro unit
      rw [h.cache, activeTexture_eq hbindings]
      by_cases htype : s.samplerType unit = .InvalidEnum
      · rw [hidle unit htype, htype, textureFor_invalid]
      · rw [h.last unit htype]
    have hlive : ∀ unit texture, s.mActiveTexturesCache unit = some texture →
        s.deleted texture = false := by
      intro unit texture hcached
      rw [h.cache] at hcached
      rw [← textureFor_eq_some hcached]
      exact hbindings.bound _ unit
    exact ⟨hcache, hlive, syncTextures_isSome hlive⟩

theorem Follows.sound (h : s.Follows last) (hbindings : s.toBindings.Sound objects)
    (hidle : ∀ unit, s.samplerType unit = .InvalidEnum → s.textureFor (last unit) unit = none) :
    s.Sound objects := by
  refine ⟨hbindings, ?_, fun _ _ => rfl, h.observed⟩
  intro unit
  rw [h.cache]
  by_cases htype : s.samplerType unit = .InvalidEnum
  · rw [hidle unit htype, htype, textureFor_invalid]
  · rw [h.last unit htype]

theorem Sound.exact (h : s.Sound objects) : s.ActiveTexturesExact := by
  apply (h.follows.exact_iff h.bindings).mpr
  intro unit htype
  rw [htype, textureFor_invalid]

/-- The programs change, and every unit whose type changes is refreshed. -/
theorem Follows.refresh (h : s.Follows last) {programs : Nat → ProgramState} {mProgram : Option Nat}
    (hrefresh : Refreshes units { s with programs := programs, mProgram := mProgram } t)
    (hobserves : Observes units { s with programs := programs, mProgram := mProgram } t)
    (hother : ∀ unit, ¬ units unit → t.samplerType unit = s.samplerType unit) :
    t.Follows fun unit => if t.samplerType unit = .InvalidEnum then last unit
      else t.samplerType unit := by
  obtain ⟨hbindings, hrefreshed, hkept, hobserved⟩ := hrefresh
  unfold Observes at hobserves
  rw [← hbindings] at hrefreshed hkept hobserved hobserves
  have htextureFor : t.textureFor = s.textureFor := by
    rw [hbindings]
    rfl
  have htextures : t.mSamplerTextures = s.mSamplerTextures := by
    rw [hbindings]
  constructor
  · intro unit
    by_cases htype : t.samplerType unit = .InvalidEnum
    · rw [if_pos htype, hkept unit fun _ => htype, htextureFor]
      exact h.cache unit
    · rw [if_neg htype]
      by_cases hunit : units unit
      · exact hrefreshed unit hunit htype
      · have hsame := hother unit hunit
        rw [hkept unit fun hmem => absurd hmem hunit, htextureFor, hsame,
          ← h.last unit (by rwa [← hsame])]
        exact h.cache unit
  · intro unit htype
    rw [if_neg htype]
  · intro unit htype
    by_cases hunit : units unit
    · exact hobserves unit hunit htype
    · have hsame := hother unit hunit
      apply hobserved unit htype
      rw [hsame, htextures]
      exact h.observed unit (by rwa [← hsame])

/-! ## Programs -/

theorem sound_setProgramState (h : s.toBindings.Sound objects) (program : Nat) {p : ProgramState}
    (hp : ∀ unit, Marks p unit) : (s.setProgramState program p).toBindings.Sound objects := by
  refine { h with marks := ?_ }
  intro other unit
  show Marks (update s.programs program p other) unit
  rw [update_apply]
  split
  · exact hp unit
  · exact h.marks other unit

theorem unsetActiveTextures_spec (s : State) (program : Nat) :
    (s.unsetActiveTextures program).toBindings = s.toBindings ∧
      ∀ unit, (s.unsetActiveTextures program).mActiveTexturesCache unit =
        if (s.programs program).mActiveSamplersMask unit then none
        else s.mActiveTexturesCache unit := by
  have hloop : ∀ (list : List TextureUnit) (t : State),
      let t' := list.foldl (fun s textureIndex =>
          { s with
            mActiveTexturesCache := update s.mActiveTexturesCache textureIndex none
            mCompleteTextureBindings :=
              update s.mCompleteTextureBindings textureIndex none })
        t
      t'.toBindings = t.toBindings ∧ ∀ unit, t'.mActiveTexturesCache unit =
        if unit ∈ list then none else t.mActiveTexturesCache unit := by
    intro list
    induction list with
    | nil => simp
    | cons first rest ih =>
      intro t
      obtain ⟨hbindings, hcache⟩ := ih { t with
        mActiveTexturesCache := update t.mActiveTexturesCache first none
        mCompleteTextureBindings := update t.mCompleteTextureBindings first none }
      refine ⟨hbindings, fun unit => (hcache unit).trans ?_⟩
      by_cases hunit : unit = first
      · simp [hunit]
      · simp [hunit]
  obtain ⟨hbindings, hcache⟩ :=
    hloop (allTextureUnits.filter (s.programs program).mActiveSamplersMask) s
  refine ⟨hbindings, fun unit => (hcache unit).trans ?_⟩
  simp [allTextureUnits]

theorem sound_enter (hbindings : s.toBindings.Sound objects)
    (hcache : ∀ unit, s.mActiveTexturesCache unit = none) :
    State.Sound objects { s with mProgram := none } ∧ ∀ program,
      (onProgramExecutableChange { s with mProgram := some program } program).Sound objects := by
  have hsound (newProgram : Option Nat) :
      Bindings.Sound objects { s.toBindings with mProgram := newProgram } :=
    { hbindings with }
  have hnone : State.Follows { s with mProgram := none } fun _ => .InvalidEnum := by
    refine ⟨fun unit => ?_, fun _ htype => absurd rfl htype, fun _ htype => absurd rfl htype⟩
    exact hcache unit
  refine ⟨hnone.sound (hsound none) fun unit _ => textureFor_invalid _ unit, ?_⟩
  intro program
  obtain ⟨hrefresh, hobserves⟩ := refreshes_onProgramExecutableChange
    (s := { s with mProgram := some program }) rfl (hbindings.marks program)
  apply (hnone.refresh hrefresh hobserves fun _ hunit => absurd trivial hunit).sound
  · rw [hrefresh.toBindings]
    exact hsound (some program)
  · intro unit htype
    rw [if_pos htype, textureFor_invalid]

/-- When the old program is left, nothing stays in the cache. -/
theorem Sound.setProgram (h : s.Sound objects) (newProgram : Option Nat) :
    (s.setProgram newProgram).Sound objects := by
  unfold State.setProgram
  split
  case isTrue => exact h
  case isFalse =>
    cases hprogram : s.mProgram with
    | none =>
      have hcache : ∀ unit, s.mActiveTexturesCache unit = none := by
        intro unit
        rw [h.exact.cache, activeTexture, hprogram]
      obtain ⟨hleft, hentered⟩ := sound_enter h.bindings hcache
      cases newProgram with
      | none => exact hleft
      | some program => exact hentered program
    | some current =>
      obtain ⟨hbindings, hunset⟩ := s.unsetActiveTextures_spec current
      have hcache : ∀ unit, (s.unsetActiveTextures current).mActiveTexturesCache unit = none := by
        intro unit
        rw [hunset, h.exact.cache, activeTexture, hprogram]
        dsimp only
        split <;> rfl
      have hsound : (s.unsetActiveTextures current).toBindings.Sound objects := by
        rw [hbindings]
        exact h.bindings
      obtain ⟨hleft, hentered⟩ := sound_enter hsound hcache
      cases newProgram with
      | none => exact hleft
      | some program => exact hentered program

theorem samplerType_of_program {program : Nat} (h : b.mProgram = some program) :
    b.samplerType = (b.programs program).mActiveSamplerTypes := by
  funext unit
  rw [samplerType, h]

theorem relink_exact_iff (h : s.Sound objects) {program : Nat}
    (hprogram : s.mProgram = some program) {p : ProgramState} (hlinked : p.mLinked)
    (hmarks : ∀ unit, Marks p unit) :
    ((s.relink program p).ActiveTexturesExact ↔
        s.LeavesIncomplete (s.programs program).mActiveSamplerTypes p) ∧
      (s.LeavesIncomplete (s.programs program).mActiveSamplerTypes p →
        (s.relink program p).Sound objects) := by
  have hrelink : s.relink program p =
      (s.setProgramState program p).onProgramExecutableChange program :=
    if_pos ⟨hprogram, hlinked⟩
  have hstate : (s.setProgramState program p).programs program = p := update_self ..
  obtain ⟨hrefresh, hobserves⟩ :=
    refreshes_onProgramExecutableChange (s := s.setProgramState program p) hprogram
      (by rwa [hstate])
  rw [← hrelink] at hrefresh hobserves
  have hbindings : (s.relink program p).toBindings.Sound objects := by
    rw [hrefresh.toBindings]
    exact sound_setProgramState h.bindings program hmarks
  have hfollows := h.follows.refresh hrefresh hobserves fun _ hunit => absurd trivial hunit
  have htype : (s.relink program p).samplerType = p.mActiveSamplerTypes := by
    have hcurrent : (s.setProgramState program p).mProgram = some program := hprogram
    rw [hrefresh.toBindings, samplerType_of_program hcurrent, hstate]
  have hlast : s.samplerType = (s.programs program).mActiveSamplerTypes :=
    samplerType_of_program hprogram
  have hiff : (∀ unit, (s.relink program p).samplerType unit = .InvalidEnum →
      (s.relink program p).textureFor
        (if (s.relink program p).samplerType unit = .InvalidEnum then s.samplerType unit
          else (s.relink program p).samplerType unit) unit = none) ↔
      s.LeavesIncomplete (s.programs program).mActiveSamplerTypes p := by
    have htextureFor : (s.relink program p).textureFor = s.textureFor := by
      rw [hrefresh.toBindings]
      rfl
    rw [htextureFor, htype, hlast]
    refine forall_congr' fun unit => ?_
    constructor
    · intro hidle hinvalid
      simpa [hinvalid] using hidle hinvalid
    · intro hidle hinvalid
      simpa [hinvalid] using hidle hinvalid
  exact ⟨(hfollows.exact_iff hbindings).trans hiff,
    fun hidle => hfollows.sound hbindings (hiff.mpr hidle)⟩

theorem Sound.relink (h : s.Sound objects) {program : Nat} (hprogram : s.mProgram ≠ some program)
    {p : ProgramState} (hmarks : ∀ unit, Marks p unit) : (s.relink program p).Sound objects := by
  have hrelink : s.relink program p = s.setProgramState program p :=
    if_neg fun hand => hprogram hand.1
  have htype : (s.setProgramState program p).samplerType = s.samplerType := by
    funext unit
    unfold samplerType
    cases hcurrent : s.mProgram with
    | none => simp [setProgramState, hcurrent]
    | some current =>
      have hne : current ≠ program := by
        rintro rfl
        exact hprogram hcurrent
      simp [setProgramState, hcurrent, hne]
  rw [hrelink]
  refine ⟨sound_setProgramState h.bindings program hmarks, ?_⟩
  rw [htype]
  refine ⟨h.follows.cache, fun unit _ => by rw [htype], ?_⟩
  rw [htype]
  exact h.follows.observed

/-! ## Sampler uniforms -/

theorem setProgramState_self (s : State) (program : Nat) :
    s.setProgramState program (s.programs program) = s := by
  unfold setProgramState
  rw [Function.update_eq_self]

theorem setProgramState_setProgramState (s : State) (program : Nat) (p q : ProgramState) :
    (s.setProgramState program p).setProgramState program q = s.setProgramState program q := by
  unfold setProgramState
  rw [Function.update_idem]

theorem setProgramState_congr (h : s.toBindings = t.toBindings) (program : Nat) (p : ProgramState) :
    (s.setProgramState program p).toBindings = (t.setProgramState program p).toBindings := by
  unfold setProgramState
  rw [h]

def followTypes (s : State) (program : Nat) (p : ProgramState)
    (last : ActiveTextureArray TextureType) : ActiveTextureArray TextureType :=
  if s.mProgram = some program then keepTypes last p else last

theorem Follows.keepTypes_eq (h : s.Follows last) {program : Nat}
    (hprogram : s.mProgram = some program) : keepTypes last (s.programs program) = last := by
  funext unit
  unfold keepTypes
  have hlast := h.last unit
  rw [samplerType_of_program hprogram] at hlast
  split
  case isTrue => rfl
  case isFalse htype => exact (hlast htype).symm

theorem Follows.followTypes_self (h : s.Follows last) (program : Nat) :
    followTypes s program (s.programs program) last = last := by
  unfold followTypes
  split
  case isTrue hprogram => exact h.keepTypes_eq hprogram
  case isFalse => rfl

/-- A round of an update changes nothing, or moves an element and refreshes its units. -/
theorem rebindElement_cases (s : State) (program samplerIndex arrayIndex : Nat)
    (newTextureUnit : TextureUnit) {p : ProgramState}
    (hp : (s.programs program).rebindElement samplerIndex arrayIndex newTextureUnit = p) :
    (p = s.programs program ∧ s.rebindElement program samplerIndex arrayIndex newTextureUnit = s) ∨
      ∃ old, s.rebindElement program samplerIndex arrayIndex newTextureUnit =
          ((s.setProgramState program p).onActiveTextureChange
            newTextureUnit).onActiveTextureChange old ∧
        ∀ unit, ¬(unit = newTextureUnit ∨ unit = old) →
          p.mActiveSamplerTypes unit = (s.programs program).mActiveSamplerTypes unit := by
  subst hp
  cases hbinding : (s.programs program).mSamplerBindings[samplerIndex]? with
  | none =>
    left
    simp [ProgramState.rebindElement, rebindElement, hbinding]
  | some binding =>
    cases hold : binding.boundTextureUnits[arrayIndex]? with
    | none =>
      left
      simp [ProgramState.rebindElement, rebindElement, hbinding, hold]
    | some old =>
      by_cases hne : old = newTextureUnit
      · left
        simp [ProgramState.rebindElement, rebindElement, hbinding, hold, hne]
      · right
        refine ⟨old, by simp [rebindElement, hbinding, hold, hne], ?_⟩
        intro unit hunit
        have hother := ProgramState.rebindElement_other hbinding hold hne
          (fun h => hunit (.inr h)) fun h => hunit (.inl h)
        exact hother.2.2

theorem samplerType_setProgramState (s : State) (program : Nat) (p : ProgramState)
    (unit : TextureUnit) :
    (s.setProgramState program p).samplerType unit =
      if s.mProgram = some program then p.mActiveSamplerTypes unit else s.samplerType unit := by
  unfold samplerType setProgramState
  cases hcurrent : s.mProgram with
  | none => simp
  | some current =>
    by_cases hprogram : current = program
    · simp [hprogram]
    · simp [hprogram]

/-- One round of an update: the cache follows the types of the new program. -/
theorem Follows.rebindElement (h : s.Follows last) {program samplerIndex arrayIndex : Nat}
    {newTextureUnit : TextureUnit} {p : ProgramState}
    (hp : (s.programs program).rebindElement samplerIndex arrayIndex newTextureUnit = p) :
    (s.rebindElement program samplerIndex arrayIndex newTextureUnit).toBindings =
        (s.setProgramState program p).toBindings ∧
      (s.rebindElement program samplerIndex arrayIndex newTextureUnit).Follows
        (followTypes s program p last) := by
  rcases s.rebindElement_cases program samplerIndex arrayIndex newTextureUnit hp with
    ⟨hsame, hstate⟩ | ⟨old, hstate, hother⟩
  · rw [hsame, hstate, setProgramState_self, h.followTypes_self]
    exact ⟨rfl, h⟩
  · have hnew := (s.setProgramState program p).refreshes_onActiveTextureChange newTextureUnit
    have hrefresh := hnew.trans (refreshes_onActiveTextureChange _ old)
    have hobserves := (observes_onActiveTextureChange _ newTextureUnit).trans hnew
      (observes_onActiveTextureChange _ old) (refreshes_onActiveTextureChange _ old)
    rw [← hstate] at hrefresh hobserves
    have htype (unit : TextureUnit) := s.samplerType_setProgramState program p unit
    rw [← hrefresh.toBindings] at htype
    refine ⟨hrefresh.toBindings, ?_⟩
    have hfollows := h.refresh hrefresh hobserves fun unit hunit => by
      rw [htype]
      split
      case isTrue hprogram => rw [hother unit hunit, samplerType_of_program hprogram]
      case isFalse => rfl
    convert hfollows using 1
    funext unit
    rw [htype]
    unfold followTypes
    split
    case isTrue => rfl
    case isFalse =>
      split
      case isTrue => rfl
      case isFalse hvalid => exact h.last unit hvalid

/-- An update of a sampler uniform: the cache follows the last types of its rounds. -/
theorem Follows.rebindElements (h : s.Follows last) (program samplerIndex arrayIndex : Nat)
    (units : List TextureUnit) :
    (s.rebindElements program samplerIndex arrayIndex units).toBindings = (s.setProgramState program
          ((s.programs program).rebindElements samplerIndex arrayIndex units)).toBindings ∧
      (s.rebindElements program samplerIndex arrayIndex units).Follows
        (if s.mProgram = some program then
          lastTypes samplerIndex (s.programs program) arrayIndex units last
        else last) := by
  induction units generalizing s arrayIndex last with
  | nil =>
    constructor
    · show s.toBindings = (s.setProgramState program (s.programs program)).toBindings
      rw [setProgramState_self]
    · show s.Follows (if s.mProgram = some program then last else last)
      rwa [ite_self]
  | cons unit units ih =>
    generalize hp : (s.programs program).rebindElement samplerIndex arrayIndex unit = p
    obtain ⟨hbindings, hfollows⟩ := h.rebindElement hp
    obtain ⟨hbindings', hfollows'⟩ := ih hfollows (arrayIndex + 1)
    have hprogram : (s.rebindElement program samplerIndex arrayIndex unit).programs program = p := by
      rw [hbindings]
      exact update_self ..
    have hcurrent : (s.rebindElement program samplerIndex arrayIndex unit).mProgram =
        s.mProgram := by
      rw [hbindings]
      rfl
    rw [hprogram] at hbindings' hfollows'
    rw [hcurrent] at hfollows'
    unfold rebindElements ProgramState.rebindElements lastTypes
    rw [hp]
    constructor
    · rw [hbindings', ← s.setProgramState_setProgramState program p]
      exact setProgramState_congr hbindings program _
    · unfold followTypes at hfollows'
      split at hfollows'
      case isTrue hcurrent => simpa [hcurrent] using hfollows'
      case isFalse hcurrent => simpa [hcurrent] using hfollows'

theorem updateSamplerUniform_eq (p : ProgramState) (samplerIndex arrayIndex : Nat)
    (v : List TextureUnit) :
    p.updateSamplerUniform samplerIndex arrayIndex v =
      p.rebindElements samplerIndex arrayIndex (clampedValues p samplerIndex arrayIndex v) := by
  unfold ProgramState.updateSamplerUniform clampedValues
  cases p.mSamplerBindings[samplerIndex]? with
  | none => rfl
  | some binding =>
    dsimp only
    split <;> rfl

theorem updateSamplerUniform_exact_iff (h : s.Sound objects)
    (program samplerIndex arrayIndex : Nat) (v : List TextureUnit) :
    let t := s.updateSamplerUniform program samplerIndex arrayIndex v
    let a : Action := .uniform1iv program samplerIndex arrayIndex v
    (t.ActiveTexturesExact ↔ leavesIncomplete objects s a) ∧
      (leavesIncomplete objects s a → t.Sound objects) := by
  obtain ⟨hbindings, hfollows⟩ := h.follows.rebindElements program samplerIndex arrayIndex
    (clampedValues (s.programs program) samplerIndex arrayIndex v)
  rw [← updateSamplerUniform_eq] at hbindings
  change (s.updateSamplerUniform program samplerIndex arrayIndex v).toBindings = _ at hbindings
  change (s.updateSamplerUniform program samplerIndex arrayIndex v).Follows _ at hfollows
  generalize s.updateSamplerUniform program samplerIndex arrayIndex v = t at hbindings hfollows ⊢
  have hsound : t.toBindings.Sound objects := by
    rw [hbindings]
    exact sound_setProgramState h.bindings program
      (Marks.updateSamplerUniform (h.bindings.marks program) samplerIndex arrayIndex v)
  have htype (unit : TextureUnit) := s.samplerType_setProgramState program
    ((s.programs program).updateSamplerUniform samplerIndex arrayIndex v) unit
  have htextureFor : t.textureFor = s.textureFor := by
    rw [hbindings]
    rfl
  rw [← hbindings] at htype
  by_cases hprogram : s.mProgram = some program
  · have hiff : (∀ unit, t.samplerType unit = .InvalidEnum → t.textureFor
        ((if s.mProgram = some program then
          lastTypes samplerIndex (s.programs program) arrayIndex
            (clampedValues (s.programs program) samplerIndex arrayIndex v) s.samplerType
          else s.samplerType) unit) unit = none) ↔
        leavesIncomplete objects s (.uniform1iv program samplerIndex arrayIndex v) := by
      rw [htextureFor, if_pos hprogram, samplerType_of_program hprogram]
      simp only [htype, if_pos hprogram]
      exact (imp_iff_right hprogram).symm
    exact ⟨(hfollows.exact_iff hsound).trans hiff,
      fun hidle => hfollows.sound hsound (hiff.mpr hidle)⟩
  · have hkept : t.Sound objects := by
      apply hfollows.sound hsound
      intro unit hinvalid
      rw [htype, if_neg hprogram] at hinvalid
      rw [if_neg hprogram, hinvalid, textureFor_invalid]
    exact ⟨iff_of_true hkept.exact fun hcurrent => absurd hcurrent hprogram, fun _ => hkept⟩

/-! ## Textures and samplers -/

/-- The bindings change, and every unit whose texture or its completeness changes is refreshed. -/
theorem Sound.refresh (h : s.Sound objects) (hb : b.Sound objects)
    (htypes : b.samplerType = s.samplerType)
    (hrefresh : Refreshes units { s with toBindings := b } t)
    (hsame : ∀ unit, ¬ units unit → s.samplerType unit ≠ .InvalidEnum →
      b.textureFor (s.samplerType unit) unit = s.textureFor (s.samplerType unit) unit)
    (hobserved : ∀ unit, s.samplerType unit ≠ .InvalidEnum →
      b.mSamplerTextures (s.samplerType unit) unit = s.mSamplerTextures (s.samplerType unit) unit ∨
        t.mCompleteTextureBindings unit =
          some (b.mSamplerTextures (s.samplerType unit) unit)) : t.Sound objects := by
  obtain ⟨hbindings, hrefreshed, hkept, hkeepsObserved⟩ := hrefresh
  subst hbindings
  rw [htypes] at hrefreshed hkept hkeepsObserved
  refine ⟨hb, ?_⟩
  rw [htypes]
  refine ⟨fun unit => ?_, fun unit _ => by rw [htypes], ?_⟩
  · by_cases htype : s.samplerType unit = .InvalidEnum
    · rw [hkept unit fun _ => htype, h.follows.cache, htype, textureFor_invalid, textureFor_invalid]
    · by_cases hunit : units unit
      · exact hrefreshed unit hunit htype
      · rw [hkept unit fun hmem => absurd hmem hunit, h.follows.cache, hsame unit hunit htype]
  · rw [htypes]
    intro unit htype
    rcases hobserved unit htype with hbound | hbound
    · apply hkeepsObserved unit htype
      rw [hbound]
      exact h.follows.observed unit htype
    · exact hbound

theorem textureFor_congr {b' : Bindings} {type : TextureType} {unit : TextureUnit}
    (htexture : b'.mSamplerTextures type unit = b.mSamplerTextures type unit)
    (hcomplete : b'.isSamplerComplete (b.mSamplerTextures type unit) (b'.mSamplers unit) =
      b.isSamplerComplete (b.mSamplerTextures type unit) (b.mSamplers unit)) :
    b'.textureFor type unit = b.textureFor type unit := by
  unfold textureFor
  rw [htexture, hcomplete]

theorem setSamplerTexture_eq (h : s.toBindings.Sound objects) {type : TextureType}
    (htype : type ≠ .InvalidEnum) (texture : Texture) :
    s.setSamplerTexture type texture = if s.samplerType s.mActiveSampler = type then
        (s.setSamplerBindingTexture type s.mActiveSampler texture).onActiveTextureChange
          s.mActiveSampler
      else s.setSamplerBindingTexture type s.mActiveSampler texture := by
  generalize hs' : s.setSamplerBindingTexture type s.mActiveSampler texture = s'
  have hprogram' : s'.mProgram = s.mProgram := by
    rw [← hs']
    rfl
  have hbound : s'.mSamplerTextures type s.mActiveSampler = texture := by
    rw [← hs']
    simp [setSamplerBindingTexture]
  have hprograms : s'.programs = s.programs := by
    rw [← hs']
    rfl
  unfold setSamplerTexture onActiveTextureChange samplerType
  dsimp only
  rw [hs', hprogram']
  cases s.mProgram with
  | none => exact (if_neg (Ne.symm htype)).symm
  | some program =>
    rw [hprograms]
    by_cases hactive : (s.programs program).mActiveSamplerTypes s.mActiveSampler = type
    · have hmask := (h.marks program s.mActiveSampler).type (by rwa [hactive])
      simp [hactive, hmask, htype, hbound]
    · simp [hactive]

theorem Sound.setSamplerTexture (h : s.Sound objects) {type : TextureType} {texture : Texture}
    (htype : type ≠ .InvalidEnum) (htexture : objects.textureType texture = type)
    (hlive : s.deleted texture = false) : (s.setSamplerTexture type texture).Sound objects := by
  have hbound (other : TextureType) (unit : TextureUnit) :
      (s.setSamplerBindingTexture type s.mActiveSampler texture).mSamplerTextures other unit =
        if other = type ∧ unit = s.mActiveSampler then texture
        else s.mSamplerTextures other unit := by
    show update s.mSamplerTextures type _ other unit = _
    by_cases hother : other = type
    · subst hother
      simp [update_apply]
    · simp [hother]
  have hb : (s.setSamplerBindingTexture type s.mActiveSampler texture).toBindings.Sound
      objects := by
    refine { h.bindings with typed := fun other unit => ?_, bound := fun other unit => ?_ }
    · rw [hbound]
      split
      case isTrue hsame => rw [htexture, hsame.1]
      case isFalse => exact h.bindings.typed other unit
    · rw [hbound]
      split
      case isTrue => exact hlive
      case isFalse => exact h.bindings.bound other unit
  rw [setSamplerTexture_eq h.bindings htype]
  split
  case isTrue hactive =>
    refine h.refresh hb rfl (refreshes_onActiveTextureChange _ s.mActiveSampler) ?_ ?_
    · intro unit hunit _
      refine textureFor_congr ?_ rfl
      rw [hbound, if_neg fun hsame => hunit hsame.2]
    · intro unit hvalid
      by_cases hunit : unit = s.mActiveSampler
      · right
        exact observes_onActiveTextureChange _ s.mActiveSampler unit hunit hvalid
      · left
        rw [hbound, if_neg fun hsame => hunit hsame.2]
  case isFalse hother =>
    have hsame (unit : TextureUnit) :
        (s.setSamplerBindingTexture type s.mActiveSampler texture).mSamplerTextures
          (s.samplerType unit) unit = s.mSamplerTextures (s.samplerType unit) unit := by
      rw [hbound, if_neg]
      rintro ⟨hactive, rfl⟩
      exact hother hactive
    refine h.refresh hb rfl (Refreshes.refl _) ?_ fun unit _ => .inl (hsame unit)
    exact fun unit _ _ => textureFor_congr (hsame unit) rfl

theorem refreshes_setSamplerBinding (s : State) (unit : TextureUnit) (sampler : Option Sampler) :
    Refreshes (fun other => other = unit) { s with mSamplers := update s.mSamplers unit sampler }
      (s.setSamplerBinding unit sampler) :=
  ((refreshes_onActiveTextureChange _ unit).trans
    (refreshes_onActiveTextureStateChange _ unit)).congr fun _ => or_self_iff

section

variable (h : s.Sound objects)
include h

theorem Sound.bindSampler (textureUnit : TextureUnit)
    (sampler : Option Sampler) : (s.bindSampler textureUnit sampler).Sound objects := by
  let observers := update s.mSamplerObserverBindings textureUnit sampler
  let b : Bindings := { s.toBindings with
    mSamplers := update s.mSamplers textureUnit sampler
    mSamplerObserverBindings := observers }
  have hb : b.Sound objects := by
    refine { h.bindings with sampled := ?_ }
    intro unit other hother
    by_cases hunit : unit = textureUnit
    · subst hunit
      simpa [b, observers] using hother
    · simp only [b, observers, update_of_ne hunit] at hother ⊢
      exact h.bindings.sampled unit other hother
  have hbinding := s.refreshes_setSamplerBinding textureUnit sampler
  have hsame : (s.bindSampler textureUnit sampler).toBindings = b := by
    unfold State.bindSampler
    dsimp only
    rw [hbinding.toBindings]
  have hrefresh : Refreshes (fun unit => unit = textureUnit) { s with toBindings := b }
      (s.bindSampler textureUnit sampler) :=
    { hbinding with toBindings := hsame }
  refine h.refresh hb rfl hrefresh ?_ fun _ _ => .inl rfl
  intro unit hunit _
  refine textureFor_congr ?_ ?_
  · rfl
  · simp [b, update_of_ne hunit]

theorem Sound.changeTexture (texture : Texture)
    (isSamplerComplete : Option Sampler → Bool) (hasAnyDirtyBit : Bool) :
    (s.changeTexture texture isSamplerComplete hasAnyDirtyBit).Sound objects := by
  have hloop := Refreshes.foldl (fun _ => True)
    (fun s unit _ => s.refreshes_onActiveTextureStateChange unit)
    (allTextureUnits.filter (s.mCompleteTextureBindings · = some texture))
    { s with
      isSamplerComplete := update s.isSamplerComplete texture isSamplerComplete
      hasAnyDirtyBit := update s.hasAnyDirtyBit texture hasAnyDirtyBit } trivial
  have hb : Bindings.Sound objects { s.toBindings with
      isSamplerComplete := update s.isSamplerComplete texture isSamplerComplete
      hasAnyDirtyBit := update s.hasAnyDirtyBit texture hasAnyDirtyBit } :=
    { h.bindings with }
  refine h.refresh hb rfl hloop ?_ fun _ _ => .inl rfl
  intro unit hunit htype
  -- A unit that does not observe the texture has another one bound for its type.
  have hother : s.mSamplerTextures (s.samplerType unit) unit ≠ texture := by
    intro hbound
    apply hunit
    have hobserved := h.follows.observed unit htype
    rw [hbound] at hobserved
    simp [allTextureUnits, hobserved]
  refine textureFor_congr ?_ ?_
  · rfl
  · simp [update_of_ne hother]

theorem Sound.changeSampler (sampler : Sampler)
    (isSamplerComplete : Texture → Bool) :
    (s.changeSampler sampler isSamplerComplete).Sound objects := by
  have hloop := Refreshes.foldl (fun _ => True)
    (fun s unit _ => s.refreshes_onActiveTextureStateChange unit)
    (allTextureUnits.filter (s.mSamplerObserverBindings · = some sampler))
    { s with
      isSamplerComplete := fun texture other =>
        if other = some sampler then isSamplerComplete texture
        else s.isSamplerComplete texture other } trivial
  have hb : Bindings.Sound objects { s.toBindings with
      isSamplerComplete := fun texture other =>
        if other = some sampler then isSamplerComplete texture
        else s.isSamplerComplete texture other } :=
    { h.bindings with }
  refine h.refresh hb rfl hloop ?_ fun _ _ => .inl rfl
  intro unit hunit _
  refine textureFor_congr rfl (if_neg ?_)
  intro hsampler
  apply hunit
  simp [allTextureUnits, h.bindings.sampled unit sampler hsampler]

theorem Sound.setSamplerBinding_none (unit : TextureUnit) :
    (s.setSamplerBinding unit none).Sound objects := by
  have hb : Bindings.Sound objects { s.toBindings with
      mSamplers := update s.mSamplers unit none } := by
    refine { h.bindings with sampled := ?_ }
    intro other sampler hsampler
    by_cases hother : other = unit
    · subst hother
      simp at hsampler
    · exact h.bindings.sampled other sampler (by simpa [hother] using hsampler)
  refine h.refresh hb rfl (s.refreshes_setSamplerBinding unit none) ?_ fun _ _ => .inl rfl
  intro other hother _
  refine textureFor_congr ?_ ?_
  · rfl
  · simp [update_of_ne hother]

theorem Sound.detachSampler (sampler : Sampler) :
    (s.detachSampler sampler).Sound objects ∧
      ∀ unit, (s.detachSampler sampler).mSamplers unit ≠ some sampler := by
  let round (s : State) (i : TextureUnit) : State :=
    if s.mSamplers i = some sampler then s.setSamplerBinding i none else s
  have hround : ∀ (t : State) (i : TextureUnit), t.Sound objects → (round t i).Sound objects ∧
      ∀ unit, unit = i ∨ t.mSamplers unit ≠ some sampler →
        (round t i).mSamplers unit ≠ some sampler := by
    intro t i ht
    by_cases hbound : t.mSamplers i = some sampler
    · have hstate : round t i = t.setSamplerBinding i none := if_pos hbound
      rw [hstate]
      refine ⟨ht.setSamplerBinding_none i, fun unit hunit => ?_⟩
      rw [(t.refreshes_setSamplerBinding i none).toBindings]
      by_cases hsame : unit = i
      · simp [hsame]
      · simpa [hsame] using hunit
    · have hstate : round t i = t := if_neg hbound
      rw [hstate]
      refine ⟨ht, fun unit hunit => ?_⟩
      rcases hunit with rfl | hunit
      · exact hbound
      · exact hunit
  have hloop : ∀ (list : List TextureUnit) (t : State), t.Sound objects →
      (list.foldl round t).Sound objects ∧ ∀ unit, unit ∈ list ∨ t.mSamplers unit ≠ some sampler →
          (list.foldl round t).mSamplers unit ≠ some sampler := by
    intro list
    induction list with
    | nil => exact fun t ht => ⟨ht, fun unit hunit => hunit.resolve_left not_mem_nil⟩
    | cons i rest ih =>
      intro t ht
      obtain ⟨hsound, hdetached⟩ := hround t i ht
      obtain ⟨hsound', hdetached'⟩ := ih _ hsound
      refine ⟨hsound', fun unit hunit => hdetached' unit ?_⟩
      rcases hunit with hmem | hunit
      · rcases mem_cons.mp hmem with rfl | hlater
        · exact .inr (hdetached _ (.inl rfl))
        · exact .inl hlater
      · exact .inr (hdetached unit (.inr hunit))
  have hstate : s.detachSampler sampler = allTextureUnits.foldl round s := rfl
  rw [hstate]
  obtain ⟨hsound, hdetached⟩ := hloop allTextureUnits s h
  exact ⟨hsound, fun unit => hdetached unit (.inl (mem_allTextureUnits unit))⟩

theorem Sound.deleteSampler (sampler : Sampler) :
    (s.deleteSampler sampler).Sound objects := by
  obtain ⟨hsound, hdetached⟩ := h.detachSampler sampler
  unfold State.deleteSampler
  generalize s.detachSampler sampler = t at hsound hdetached ⊢
  have hb := hsound.bindings
  refine ⟨{ hb with sampled := fun unit other hother => ?_ },
    hsound.follows.cache, hsound.follows.last, hsound.follows.observed⟩
  have hobserver := hb.sampled unit other hother
  show (if t.mSamplerObserverBindings unit = some sampler then none
    else t.mSamplerObserverBindings unit) = some other
  rw [hobserver, if_neg]
  rintro ⟨⟩
  exact hdetached unit hother

end

/-! ## Deleting textures -/

theorem setSamplerBindingTexture_apply (s : State) (type other : TextureType)
    (unit other' : TextureUnit) (texture : Texture) :
    (s.setSamplerBindingTexture type unit texture).mSamplerTextures other other' =
      if other = type ∧ other' = unit then texture else s.mSamplerTextures other other' := by
  show update s.mSamplerTextures type _ other other' = _
  by_cases hother : other = type
  · subst hother
    simp [update_apply]
  · simp [hother]

/-- What `updateActiveTexture` caches of a texture. -/
def completeOnly (s : State) (texture : Texture) (unit : TextureUnit) : Option Texture :=
  if s.isSamplerComplete texture (s.mSamplers unit) then some texture else none

/-- A texture has been detached from some of its units. -/
structure Detached (objects : TextureObjects) (texture : Texture)
    (done : TextureType × TextureUnit → Prop) (s t : State) : Prop where
  bindings : t.toBindings = { s.toBindings with mSamplerTextures := t.mSamplerTextures }
  detached : ∀ type unit, s.mSamplerTextures type unit = texture → done (type, unit) →
    t.mSamplerTextures type unit = objects.zeroTextures type
  kept : ∀ type unit, (s.mSamplerTextures type unit = texture → ¬ done (type, unit)) →
    t.mSamplerTextures type unit = s.mSamplerTextures type unit
  refreshed : ∀ unit, s.mSamplerTextures (objects.textureType texture) unit = texture →
    done (objects.textureType texture, unit) → s.mCompleteTextureBindings unit = some texture →
      t.mActiveTexturesCache unit =
          s.completeOnly (objects.zeroTextures (objects.textureType texture)) unit ∧
        t.mCompleteTextureBindings unit =
          some (objects.zeroTextures (objects.textureType texture))
  unchanged : ∀ unit, (s.mSamplerTextures (objects.textureType texture) unit = texture →
    done (objects.textureType texture, unit) → s.mCompleteTextureBindings unit ≠ some texture) →
      t.mActiveTexturesCache unit = s.mActiveTexturesCache unit ∧
        t.mCompleteTextureBindings unit = s.mCompleteTextureBindings unit

namespace Detached

variable {texture : Texture} {done done' : TextureType × TextureUnit → Prop}

theorem none (s : State) : Detached objects texture (fun _ => False) s s :=
  ⟨rfl, fun _ _ _ h => h.elim, fun _ _ _ => rfl, fun _ _ h => h.elim, fun _ _ => ⟨rfl, rfl⟩⟩

theorem congr (h : Detached objects texture done s t)
    (hdone : ∀ type unit, s.mSamplerTextures type unit = texture →
      (done' (type, unit) ↔ done (type, unit))) : Detached objects texture done' s t := by
  constructor
  · exact h.bindings
  · exact fun type unit hbound hmem => h.detached type unit hbound ((hdone type unit hbound).mp hmem)
  · exact fun type unit hkept => h.kept type unit fun hbound hmem =>
      hkept hbound ((hdone type unit hbound).mpr hmem)
  · exact fun unit hbound hmem => h.refreshed unit hbound ((hdone _ unit hbound).mp hmem)
  · exact fun unit hkept => h.unchanged unit fun hbound hmem =>
      hkept hbound ((hdone _ unit hbound).mpr hmem)

theorem detachBinding (h : Detached objects texture done s t)
    (htyped : ∀ type unit, objects.textureType (s.mSamplerTextures type unit) = type)
    (hzero : objects.zeroTextures (objects.textureType texture) ≠ texture)
    (type : TextureType) (unit : TextureUnit) :
    Detached objects texture (fun entry => done entry ∨ entry = (type, unit)) s
      (t.detachBinding objects texture type unit) := by
  by_cases hbound : t.mSamplerTextures type unit = texture
  · -- The unit still has the texture, so this is its first round.
    have hfirst : s.mSamplerTextures type unit = texture → ¬ done (type, unit) := by
      intro hold hdone
      have htype := htyped type unit
      rw [hold] at htype
      subst htype
      exact hzero ((h.detached _ unit hold hdone).symm.trans hbound)
    have hold : s.mSamplerTextures type unit = texture := by
      rw [← h.kept type unit hfirst, hbound]
    have htype := htyped type unit
    rw [hold] at htype
    subst htype
    obtain ⟨hcache, hobserved⟩ := h.unchanged unit fun hold hdone => absurd hdone (hfirst hold)
    have hcomplete : t.isSamplerComplete = s.isSamplerComplete := by rw [h.bindings]
    have hsamplers : t.mSamplers = s.mSamplers := by rw [h.bindings]
    let zeroTexture := objects.zeroTextures (objects.textureType texture)
    have hrefresh : ∃ u : State, u.toBindings = t.toBindings ∧
        t.detachBinding objects texture (objects.textureType texture) unit =
          u.setSamplerBindingTexture (objects.textureType texture) unit zeroTexture ∧
        (s.mCompleteTextureBindings unit = some texture →
          u.mActiveTexturesCache unit = s.completeOnly zeroTexture unit ∧
            u.mCompleteTextureBindings unit = some zeroTexture) ∧
        (∀ other, (other = unit → s.mCompleteTextureBindings unit ≠ some texture) →
          u.mActiveTexturesCache other = t.mActiveTexturesCache other ∧
            u.mCompleteTextureBindings other = t.mCompleteTextureBindings other) := by
      by_cases hcurrent : s.mCompleteTextureBindings unit = some texture
      · obtain ⟨hbindings, hcache', hobserved'⟩ := t.updateActiveTexture_spec unit zeroTexture
        refine ⟨t.updateActiveTexture unit zeroTexture, hbindings, ?_, fun _ => ⟨?_, ?_⟩, ?_⟩
        · simp [State.detachBinding, hbound, hobserved, hcurrent, zeroTexture]
        · rw [hcache', update_self, hcomplete, hsamplers]
          rfl
        · rw [hobserved', update_self]
        · intro other hother
          have hne : other ≠ unit := fun hsame => hother hsame hcurrent
          rw [hcache', hobserved', update_of_ne hne, update_of_ne hne]
          exact ⟨rfl, rfl⟩
      · refine ⟨t, rfl, ?_, fun h => absurd h hcurrent, fun _ _ => ⟨rfl, rfl⟩⟩
        simp [State.detachBinding, hbound, hobserved, hcurrent, zeroTexture]
    obtain ⟨u, hbindings, hstate, hcurrent, hother⟩ := hrefresh
    rw [hstate]
    have htextures (other : TextureType) (other' : TextureUnit) :
        (u.setSamplerBindingTexture (objects.textureType texture) unit
            zeroTexture).mSamplerTextures other other' =
          if other = objects.textureType texture ∧ other' = unit then zeroTexture
          else t.mSamplerTextures other other' := by
      rw [setSamplerBindingTexture_apply, hbindings]
    constructor
    · unfold setSamplerBindingTexture
      rw [hbindings, h.bindings]
    · intro other other' hold' hdone
      rw [htextures]
      split
      case isTrue hsame => rw [hsame.1]
      case isFalse hne =>
        apply h.detached other other' hold' (hdone.resolve_right _)
        rintro ⟨⟩
        exact hne ⟨rfl, rfl⟩
    · intro other other' hkept
      rw [htextures, if_neg]
      · exact h.kept other other' fun hold' hdone => hkept hold' (.inl hdone)
      · rintro ⟨rfl, rfl⟩
        exact hkept hold (.inr rfl)
    · intro other hold' hdone hobserves
      by_cases hsame : other = unit
      · subst hsame
        exact hcurrent hobserves
      · obtain ⟨hcache', hobserved'⟩ := hother other fun h => absurd h hsame
        show u.mActiveTexturesCache other = _ ∧ u.mCompleteTextureBindings other = _
        rw [hcache', hobserved']
        apply h.refreshed other hold' (hdone.resolve_right _) hobserves
        rintro ⟨⟩
        exact hsame rfl
    · intro other hkept
      have hfirst' : other = unit → s.mCompleteTextureBindings unit ≠ some texture := by
        rintro rfl
        exact hkept hold (.inr rfl)
      obtain ⟨hcache', hobserved'⟩ := hother other hfirst'
      show u.mActiveTexturesCache other = _ ∧ u.mCompleteTextureBindings other = _
      rw [hcache', hobserved']
      exact h.unchanged other fun hold' hdone => hkept hold' (.inl hdone)
  · -- The unit does not have the texture any more, or never had it.
    have hstate : t.detachBinding objects texture type unit = t := if_neg hbound
    rw [hstate]
    refine h.congr fun type' unit' hold => or_iff_left_of_imp ?_
    rintro ⟨⟩
    by_contra hdone
    exact hbound ((h.kept type unit fun _ => hdone).trans hold)

theorem detachTexture (htyped : ∀ type unit, objects.textureType (s.mSamplerTextures type unit) = type)
    (hzero : objects.zeroTextures (objects.textureType texture) ≠ texture)
    (htype : objects.textureType texture ≠ .InvalidEnum) :
    Detached objects texture (fun _ => True) s (s.detachTexture objects texture) := by
  have hloop : ∀ (list : List (TextureType × TextureUnit)) (done : TextureType × TextureUnit → Prop)
      (t : State), Detached objects texture done s t →
        Detached objects texture (fun entry => done entry ∨ entry ∈ list) s
          (list.foldl (fun s entry => s.detachBinding objects texture entry.1 entry.2) t) := by
    intro list
    induction list with
    | nil => exact fun done t h => h.congr fun _ _ _ => or_iff_left not_mem_nil
    | cons entry rest ih =>
      intro done t h
      apply (ih _ _ (h.detachBinding htyped hzero entry.1 entry.2)).congr
      intro type unit _
      rw [mem_cons, or_assoc]
  apply (hloop _ _ s (none s)).congr
  intro type unit hbound
  refine iff_of_true trivial (.inr ?_)
  have hsame := htyped type unit
  rw [hbound] at hsame
  subst hsame
  apply mem_flatMap.mpr
  refine ⟨_, ?_, mem_map_of_mem (mem_allTextureUnits unit)⟩
  cases hcase : objects.textureType texture with
  | InvalidEnum => exact absurd hcase htype
  | _ => simp [allTextureTypes]

end Detached

theorem deleteTexture_exact_iff (h : s.Sound objects) {texture : Texture}
    (hzero : objects.zeroTextures (objects.textureType texture) ≠ texture)
    (htype : objects.textureType texture ≠ .InvalidEnum) :
    ((s.deleteTexture objects texture).ActiveTexturesExact ↔
        leavesIncomplete objects s (.deleteTexture texture)) ∧
      (leavesIncomplete objects s (.deleteTexture texture) →
        (s.deleteTexture objects texture).Sound objects) := by
  have hdetached := Detached.detachTexture h.bindings.typed hzero htype
  unfold deleteTexture
  generalize s.detachTexture objects texture = t at hdetached ⊢
  have hother (type : TextureType) : objects.zeroTextures type ≠ texture := by
    rintro rfl
    rw [objects.textureType_zeroTextures] at hzero
    exact hzero rfl
  have htextures (type : TextureType) (unit : TextureUnit) :
      t.mSamplerTextures type unit =
        if s.mSamplerTextures type unit = texture then objects.zeroTextures type
        else s.mSamplerTextures type unit := by
    split
    case isTrue hbound => exact hdetached.detached type unit hbound trivial
    case isFalse hbound => exact hdetached.kept type unit fun hold => absurd hold hbound
  have hb : Bindings.Sound objects
      { t.toBindings with deleted := update t.deleted texture true } := by
    have hold := h.bindings
    have hlive : t.deleted = s.deleted := by rw [hdetached.bindings]
    refine ⟨?_, fun type unit => ?_, fun type unit => ?_, fun type => ?_, ?_⟩
    · rw [hdetached.bindings]
      exact hold.marks
    · rw [htextures]
      split
      · exact objects.textureType_zeroTextures type
      · exact hold.typed type unit
    · show update t.deleted texture true (t.mSamplerTextures type unit) = false
      rw [htextures, hlive]
      split
      case isTrue => rw [update_of_ne (hother type), hold.zero]
      case isFalse hbound => rw [update_of_ne hbound, hold.bound]
    · show update t.deleted texture true (objects.zeroTextures type) = false
      rw [hlive, update_of_ne (hother type), hold.zero]
    · rw [hdetached.bindings]
      exact hold.sampled
  have htypes : t.samplerType = s.samplerType := by
    rw [hdetached.bindings]
    rfl
  have htextureFor (type : TextureType) (unit : TextureUnit) (hvalid : type ≠ .InvalidEnum) :
      t.textureFor type unit = if s.mSamplerTextures type unit = texture then
          s.completeOnly (objects.zeroTextures type) unit
        else s.textureFor type unit := by
    have hcomplete : t.isSamplerComplete = s.isSamplerComplete := by rw [hdetached.bindings]
    have hsamplers : t.mSamplers = s.mSamplers := by rw [hdetached.bindings]
    rw [textureFor_of_valid hvalid, hcomplete, hsamplers, htextures]
    split
    · rfl
    · rw [textureFor_of_valid hvalid]
  -- A unit without type that observes the texture gets what its zero texture makes of it.
  let last (unit : TextureUnit) : TextureType :=
    if s.samplerType unit = .InvalidEnum ∧
        s.mSamplerTextures (objects.textureType texture) unit = texture ∧
        s.mCompleteTextureBindings unit = some texture then objects.textureType texture
    else s.samplerType unit
  have hfollows : State.Follows { t with deleted := update t.deleted texture true } last := by
    constructor
    · intro unit
      show t.mActiveTexturesCache unit = t.textureFor (last unit) unit
      by_cases hunit : s.mSamplerTextures (objects.textureType texture) unit = texture ∧
          s.mCompleteTextureBindings unit = some texture
      · have hlast : last unit = objects.textureType texture := by
          by_cases hvalid : s.samplerType unit = .InvalidEnum
          · exact if_pos ⟨hvalid, hunit⟩
          · have hobserved := h.follows.observed unit hvalid
            have htyped := h.bindings.typed (s.samplerType unit) unit
            rw [← Option.some.inj (hunit.2.symm.trans hobserved)] at htyped
            exact (if_neg fun hand => hvalid hand.1).trans htyped.symm
        rw [hlast, htextureFor _ _ htype, if_pos hunit.1]
        exact (hdetached.refreshed unit hunit.1 trivial hunit.2).1
      · have hlast : last unit = s.samplerType unit := if_neg fun hand => hunit hand.2
        rw [hlast, (hdetached.unchanged unit fun hbound _ hobserves =>
          hunit ⟨hbound, hobserves⟩).1, h.follows.cache]
        by_cases hvalid : s.samplerType unit = .InvalidEnum
        · rw [hvalid, textureFor_invalid, textureFor_invalid]
        · rw [htextureFor _ _ hvalid, if_neg]
          intro hbound
          have htyped := h.bindings.typed (s.samplerType unit) unit
          have hobserved := h.follows.observed unit hvalid
          rw [hbound] at htyped hobserved
          rw [← htyped] at hbound
          exact hunit ⟨hbound, hobserved⟩
    · intro unit hvalid
      change t.samplerType unit ≠ .InvalidEnum at hvalid
      show last unit = t.samplerType unit
      rw [htypes] at hvalid ⊢
      exact if_neg fun hand => hvalid hand.1
    · intro unit hvalid
      change t.samplerType unit ≠ .InvalidEnum at hvalid
      show t.mCompleteTextureBindings unit = some (t.mSamplerTextures (t.samplerType unit) unit)
      rw [htypes] at hvalid ⊢
      have hobserved := h.follows.observed unit hvalid
      have htyped := h.bindings.typed (s.samplerType unit) unit
      rw [htextures]
      split
      case isTrue hbound =>
        rw [hbound] at hobserved htyped
        rw [← htyped] at hbound ⊢
        exact (hdetached.refreshed unit hbound trivial hobserved).2
      case isFalse hbound =>
        rw [← hobserved]
        refine (hdetached.unchanged unit fun _ _ hobserves => hbound ?_).2
        exact Option.some.inj (hobserved.symm.trans hobserves)
  have hiff : (∀ unit, t.samplerType unit = .InvalidEnum → t.textureFor (last unit) unit = none) ↔
      leavesIncomplete objects s (.deleteTexture texture) := by
    rw [htypes]
    refine forall₂_congr fun unit hinvalid => ?_
    by_cases hunit : s.mCompleteTextureBindings unit = some texture ∧
        s.mSamplerTextures (objects.textureType texture) unit = texture
    · have hlast : last unit = objects.textureType texture :=
        if_pos ⟨hinvalid, hunit.2, hunit.1⟩
      rw [hlast, htextureFor _ _ htype, if_pos hunit.2]
      simp [completeOnly, hunit.1, hunit.2]
    · have hlast : last unit = s.samplerType unit := if_neg fun hand => hunit ⟨hand.2.2, hand.2.1⟩
      rw [hlast, hinvalid, textureFor_invalid]
      exact iff_of_true rfl fun hobserves hbound => absurd ⟨hobserves, hbound⟩ hunit
  exact ⟨(hfollows.exact_iff hb).trans hiff, fun hidle => hfollows.sound hb (hiff.mpr hidle)⟩

theorem Sound.destroyTexture (h : s.Sound objects) {texture : Texture}
    (hdeleted : s.deleted texture) : (s.destroyTexture texture).Sound objects := by
  refine ⟨h.bindings, h.follows.cache, h.follows.last, fun unit hvalid => ?_⟩
  have hobserved := h.follows.observed unit hvalid
  have hlive := h.bindings.bound (s.samplerType unit) unit
  show (if s.mCompleteTextureBindings unit = some texture then none
    else s.mCompleteTextureBindings unit) = _
  rw [hobserved, if_neg]
  · rfl
  · intro hsame
    rw [Option.some.inj hsame, hdeleted] at hlive
    contradiction

theorem Sound.syncTextures (h : s.Sound objects) (hsync : s.syncTextures = some t) :
    t.Sound objects := by
  obtain ⟨dirty, -, rfl⟩ := Option.map_eq_some_iff.mp hsync
  have hb := h.bindings
  exact ⟨{ hb with }, h.follows.cache, h.follows.last,
    h.follows.observed⟩

end State

/-! ## Runs -/

section Runs

variable {objects : TextureObjects} {s t : State} {a : Action}

theorem relinks_exact_iff (h : s.Sound objects) {program : Nat} {p : ProgramState}
    (hmarks : ∀ unit, Marks p unit) (hstep : s.relinks program p = some t) :
    (t.ActiveTexturesExact ↔ (s.mProgram = some program →
        s.LeavesIncomplete (s.programs program).mActiveSamplerTypes p)) ∧
      ((s.mProgram = some program →
        s.LeavesIncomplete (s.programs program).mActiveSamplerTypes p) → t.Sound objects) := by
  obtain ⟨hlinked, ⟨⟩⟩ := Option.ite_none_right_eq_some.mp hstep
  by_cases hprogram : s.mProgram = some program
  · rw [imp_iff_right hprogram]
    exact relink_exact_iff h hprogram (hlinked hprogram) hmarks
  · have hkept := h.relink hprogram hmarks
    exact ⟨iff_of_true hkept.exact fun hcurrent => absurd hcurrent hprogram, fun _ => hkept⟩

/-- From an exact cache a step leads to an exact one exactly when it leaves no complete texture at
a unit that loses its type. -/
theorem step_exact_iff (h : s.Sound objects) (hstep : step objects s a = some t) :
    (t.ActiveTexturesExact ↔ leavesIncomplete objects s a) ∧
      (leavesIncomplete objects s a → t.Sound objects) := by
  have hkept : t.Sound objects → leavesIncomplete objects s a →
      (t.ActiveTexturesExact ↔ leavesIncomplete objects s a) ∧
        (leavesIncomplete objects s a → t.Sound objects) :=
    fun ht hidle => ⟨iff_of_true ht.exact hidle, fun _ => ht⟩
  cases a with
  | useProgram program =>
    obtain ⟨-, ⟨⟩⟩ := Option.ite_none_right_eq_some.mp hstep
    exact hkept (h.setProgram program) trivial
  | linkProgram program result =>
    exact relinks_exact_iff h (Marks.link (h.bindings.marks program) result) hstep
  | programBinary program result =>
    exact relinks_exact_iff h (Marks.loadBinary (h.bindings.marks program) result) hstep
  | uniform1iv program samplerIndex arrayIndex v =>
    obtain ⟨-, ⟨⟩⟩ := Option.ite_none_right_eq_some.mp hstep
    exact updateSamplerUniform_exact_iff h program samplerIndex arrayIndex v
  | activeTexture unit =>
    cases hstep
    have hb := h.bindings
    exact hkept ⟨{ hb with }, h.follows.cache,
      h.follows.last, h.follows.observed⟩ trivial
  | bindTexture type texture =>
    obtain ⟨⟨hvalid, htype, hlive⟩, ⟨⟩⟩ := Option.ite_none_right_eq_some.mp hstep
    exact hkept (h.setSamplerTexture hvalid htype hlive) trivial
  | bindSampler textureUnit sampler =>
    cases hstep
    exact hkept (h.bindSampler textureUnit sampler) trivial
  | changeTexture texture isSamplerComplete hasAnyDirtyBit =>
    cases hstep
    exact hkept (h.changeTexture texture isSamplerComplete hasAnyDirtyBit) trivial
  | changeSampler sampler isSamplerComplete =>
    cases hstep
    exact hkept (h.changeSampler sampler isSamplerComplete) trivial
  | deleteTexture texture =>
    obtain ⟨⟨htype, hzero, -⟩, hnext⟩ := Option.ite_none_right_eq_some.mp hstep
    obtain rfl := Option.some.inj hnext
    exact deleteTexture_exact_iff h hzero htype
  | destroyTexture texture =>
    obtain ⟨hdeleted, ⟨⟩⟩ := Option.ite_none_right_eq_some.mp hstep
    exact hkept (h.destroyTexture hdeleted) trivial
  | deleteSampler sampler =>
    obtain rfl := Option.some.inj hstep
    exact hkept (h.deleteSampler sampler) trivial
  | syncTextures => exact hkept (h.syncTextures hstep) trivial

theorem leavesExact_iff (h : s.Sound objects) (hstep : step objects s a = some t) :
    leavesExact objects s a ↔ leavesIncomplete objects s a := by
  rw [← (step_exact_iff h hstep).1]
  constructor
  · exact fun hleaves => hleaves t hstep
  · intro ht u hu
    rwa [← Option.some.inj (hstep.symm.trans hu)]

theorem sound_init (objects : TextureObjects) (isSamplerComplete : Texture → Option Sampler → Bool)
    (hasAnyDirtyBit : Texture → Bool) :
    (State.init objects isSamplerComplete hasAnyDirtyBit).Sound objects := by
  refine ⟨⟨?_, ?_, fun _ _ => rfl, fun _ => rfl, fun _ _ h => by cases h⟩, ?_⟩
  · exact fun _ unit => ⟨fun hpos => absurd hpos (Nat.lt_irrefl 0), fun htype => absurd rfl htype⟩
  · exact fun type _ => objects.textureType_zeroTextures type
  · refine ⟨fun unit => ?_, fun _ _ => rfl, fun _ htype => absurd rfl htype⟩
    exact (textureFor_invalid _ unit).symm

/-- The cache of a new context is exact, and it is so after every step of a run exactly when no
step of it leaves a complete texture at a unit that loses its sampler type. -/
theorem run_activeTexturesExact_iff (objects : TextureObjects)
    (isSamplerComplete : Texture → Option Sampler → Bool) (hasAnyDirtyBit : Texture → Bool)
    (actions : List Action) (s : State) :
    (State.init objects isSamplerComplete hasAnyDirtyBit).ActiveTexturesExact ∧
      (Run (step objects) (leavesExact objects)
          (State.init objects isSamplerComplete hasAnyDirtyBit) actions s ↔
        Run (step objects) (leavesIncomplete objects)
          (State.init objects isSamplerComplete hasAnyDirtyBit) actions s) := by
  have hinit := sound_init objects isSamplerComplete hasAnyDirtyBit
  refine ⟨hinit.exact, Run.guard_congr_of_invariant ?_ ?_ hinit⟩
  · exact fun s a t h hstep => leavesExact_iff h hstep
  · exact fun s a t h hidle hstep => (step_exact_iff h hstep).2 hidle

end Runs

/-! ## A sampler that moves to another unit -/

def exampleObjects : TextureObjects where
  textureType texture := if texture < 9 then allTextureTypes.getD texture .InvalidEnum else ._2D
  zeroTextures type := allTextureTypes.idxOf type
  textureType_zeroTextures type := by cases type <;> rfl

def exampleContext : State := .init exampleObjects (fun texture _ => 9 ≤ texture) fun _ => true

/-- A texture is bound for a sampler that then moves to another unit, and is deleted when it is
bound nowhere. -/
def exampleActions : List Action :=
  [.linkProgram 0 (.succeeds [⟨._2D, .Float, 1, none, false⟩]), .useProgram (some 0),
    .bindTexture ._2D 9, .uniform1iv 0 0 0 (allTextureUnits.drop 1), .bindTexture ._2D 10,
    .deleteTexture 9]

/-- The cache points to the deleted texture, and `syncTextures` follows the pointer. -/
theorem not_activeTexturesExact_moved :
    ∃ s, Run (step exampleObjects) anyStep exampleContext exampleActions s ∧
      s.mActiveTexturesCache firstUnit = some 9 ∧ s.deleted 9 = true ∧ s.syncTextures.isNone ∧
        ¬ s.ActiveTexturesExact := by
  have hrun : (exec (step exampleObjects) exampleContext exampleActions).any (fun s =>
      s.mActiveTexturesCache firstUnit = some 9 ∧ s.deleted 9 = true ∧ s.syncTextures.isNone) := by
    decide +kernel
  generalize hexec : exec (step exampleObjects) exampleContext exampleActions = result at hrun
  obtain ⟨s, rfl, hs⟩ := (Option.any_eq_true _ _).mp hrun
  obtain ⟨hcached, hdeleted, hsync⟩ := of_decide_eq_true hs
  refine ⟨s, Run.of_exec hexec, hcached, hdeleted, hsync, ?_⟩
  intro hexact
  have hlive := hexact.live firstUnit 9 hcached
  rw [hdeleted] at hlive
  contradiction

end MetalAngle.Gl.ActiveTextures
