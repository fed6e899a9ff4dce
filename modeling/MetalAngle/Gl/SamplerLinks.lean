import MetalAngle.Gl.ActiveSamplers

/-!
# The units of samplers after a link

A link binds every element of a sampler to the first unit and then those of a sampler with a
`layout(binding)` to the units of the layout.
-/

namespace MetalAngle.Gl.ActiveSamplers

open List SamplerBinding SamplerUniform

def replaceUnits (boundTextureUnits : List TextureUnit) (arrayIndex : Nat) :
    List TextureUnit → List TextureUnit
  | [] => boundTextureUnits
  | unit :: units => replaceUnits (boundTextureUnits.set arrayIndex unit) (arrayIndex + 1) units

/-- The new units stand in their places, and the others are as before. -/
theorem getElem?_replaceUnits (boundTextureUnits : List TextureUnit) (arrayIndex : Nat)
    (units : List TextureUnit) (h : arrayIndex + units.length ≤ boundTextureUnits.length)
    (j : Nat) :
    (replaceUnits boundTextureUnits arrayIndex units)[j]? =
      if arrayIndex ≤ j ∧ j < arrayIndex + units.length then units[j - arrayIndex]?
      else boundTextureUnits[j]? := by
  induction units generalizing boundTextureUnits arrayIndex with
  | nil => rw [replaceUnits, length_nil, if_neg (by omega)]
  | cons unit units ih =>
    rw [length_cons] at h ⊢
    rw [replaceUnits, ih _ _ (by rw [length_set]; omega)]
    by_cases hfirst : j = arrayIndex
    · subst hfirst
      rw [if_neg (by omega), if_pos (by omega), Nat.sub_self, getElem?_set_self (by omega)]
      rfl
    · by_cases hin : arrayIndex + 1 ≤ j ∧ j < arrayIndex + 1 + units.length
      · rw [if_pos hin, if_pos (by omega),
          show j - arrayIndex = j - (arrayIndex + 1) + 1 by omega]
        rfl
      · rw [if_neg hin, if_neg (by omega), getElem?_set_ne (Ne.symm hfirst)]

def SamplerBinding.rebind (binding : SamplerBinding) (arrayIndex : Nat)
    (units : List TextureUnit) : SamplerBinding :=
  { binding with boundTextureUnits := replaceUnits binding.boundTextureUnits arrayIndex units }

theorem modify_unchanged {α : Type} {as : List α} {i : Nat} {f : α → α}
    (h : ∀ a, as[i]? = some a → f a = a) : as.modify i f = as := by
  apply ext_getElem?
  intro j
  rw [getElem?_modify]
  by_cases hj : i = j
  · subst hj
    cases ha : as[i]? with
    | none => simp
    | some a => simp [h a ha]
  · simp [hj]

namespace ProgramState

theorem rebindElement_bindings (p : ProgramState) (samplerIndex arrayIndex : Nat)
    (unit : TextureUnit) :
    (p.rebindElement samplerIndex arrayIndex unit).mSamplerBindings =
      p.mSamplerBindings.modify samplerIndex (·.rebind arrayIndex [unit]) := by
  cases hbinding : p.mSamplerBindings[samplerIndex]? with
  | none =>
      rw [modify_unchanged (by simp [hbinding])]
      simp [rebindElement, hbinding]
  | some binding =>
    cases hold : binding.boundTextureUnits[arrayIndex]? with
    | none =>
        have hset : binding.rebind arrayIndex [unit] = binding := by
          simp [rebind, replaceUnits,
            set_eq_of_length_le (getElem?_eq_none_iff.mp hold)]
        rw [modify_unchanged (by simp [hbinding, hset])]
        simp [rebindElement, hbinding, hold]
    | some old =>
      by_cases hne : old = unit
      · have hset : binding.rebind arrayIndex [unit] = binding := by
          obtain ⟨hlt, rfl⟩ := List.getElem?_eq_some_iff.mp hold
          simp [rebind, replaceUnits, ← hne]
        rw [modify_unchanged (by simp [hbinding, hset])]
        simp [rebindElement, hbinding, hold, hne]
      · rw [rebindElement_eq hbinding hold hne, removeElement_bindings, countMoved_bindings,
          modify_eq_set_getElem?]
        simp [hbinding, rebind, replaceUnits]

theorem rebindElements_bindings (p : ProgramState) (samplerIndex arrayIndex : Nat)
    (units : List TextureUnit) :
    (rebindElements samplerIndex p arrayIndex units).mSamplerBindings =
      p.mSamplerBindings.modify samplerIndex (·.rebind arrayIndex units) := by
  induction units generalizing p arrayIndex with
  | nil => exact (modify_unchanged fun _ _ => rfl).symm
  | cons unit units ih =>
      rw [rebindElements, ih, rebindElement_bindings, modify_modify_eq]
      rfl

end ProgramState

namespace SamplerUniform

variable (uniform : SamplerUniform)

def made : SamplerBinding :=
  .make uniform.textureType uniform.format uniform.elementCount uniform.unreferenced

def linked : SamplerBinding :=
  match uniform.binding with
  | none => uniform.made
  | some units =>
    if uniform.unreferenced then uniform.made
    else uniform.made.rebind 0 (units.take uniform.elementCount)

/-- The `layout(binding)` leaves all elements at the first unit. -/
def KeepsFirstUnit : Prop :=
  uniform.unreferenced = false → ∀ units, uniform.binding = some units →
    ∀ unit ∈ units.take uniform.elementCount, unit = firstUnit

end SamplerUniform

namespace ProgramState

variable {samplerIndex : Nat}

theorem updateSamplerUniform_bindings (p : ProgramState)
    {binding : SamplerBinding} (hbinding : p.mSamplerBindings[samplerIndex]? = some binding)
    (href : binding.unreferenced = false) (v : List TextureUnit) :
    p.updateSamplerUniform samplerIndex 0 v =
      rebindElements samplerIndex p 0 (v.take binding.boundTextureUnits.length) := by
  simp only [updateSamplerUniform, hbinding, href, Bool.false_eq_true, if_false, Nat.sub_zero]
  rw [Nat.min_comm, ← take_take, take_length]

/-- The round of `setUniformValuesFromBindingQualifiers` for a sampler. -/
def bindQualified (p : ProgramState) (samplerIndex : Nat) (uniform : SamplerUniform) :
    ProgramState :=
  match uniform.binding with
  | none => p
  | some boundTextureUnits => p.updateSamplerUniform samplerIndex 0 boundTextureUnits

theorem setUniformValuesFromBindingQualifiers_cons (p : ProgramState) (samplerIndex : Nat)
    (uniform : SamplerUniform) (uniforms : List SamplerUniform) :
    p.setUniformValuesFromBindingQualifiers samplerIndex (uniform :: uniforms) =
      (p.bindQualified samplerIndex uniform).setUniformValuesFromBindingQualifiers
        (samplerIndex + 1) uniforms := rfl

variable {p : ProgramState}

theorem bindQualified_eq {uniform : SamplerUniform}
    (hbinding : p.mSamplerBindings[samplerIndex]? = some uniform.made)
    {units : List TextureUnit} (hunits : uniform.binding = some units)
    (href : uniform.unreferenced = false) :
    p.bindQualified samplerIndex uniform =
      rebindElements samplerIndex p 0 (units.take uniform.elementCount) := by
  have hlength : uniform.made.boundTextureUnits.length = uniform.elementCount := by
    simp [made, make]
  rw [bindQualified, hunits]
  simp [updateSamplerUniform_bindings p hbinding href, hlength]

theorem bindQualified_unchanged
    {uniform : SamplerUniform} (hbinding : p.mSamplerBindings[samplerIndex]? = some uniform.made)
    (h : uniform.binding = none ∨ uniform.unreferenced) :
    p.bindQualified samplerIndex uniform = p := by
  rcases h with hnone | href
  · rw [bindQualified, hnone]
  · cases hunits : uniform.binding with
    | none => rw [bindQualified, hunits]
    | some units =>
        simp [bindQualified, hunits, updateSamplerUniform, hbinding, made,
          make, href]

theorem modify_middle {α : Type} (done : List α) (a : α) (rest : List α) (f : α → α) :
    (done ++ a :: rest).modify done.length f = done ++ f a :: rest := by
  induction done with
  | nil => rfl
  | cons head done ih => simp [ih]

theorem bindQualified_bindings {done rest : List SamplerBinding}
    {uniform : SamplerUniform} (h : p.mSamplerBindings = done ++ uniform.made :: rest) :
    (p.bindQualified done.length uniform).mSamplerBindings = done ++ uniform.linked :: rest := by
  have hbinding : p.mSamplerBindings[done.length]? = some uniform.made := by simp [h]
  unfold linked
  cases hunits : uniform.binding with
  | none => simpa [bindQualified_unchanged hbinding (.inl hunits)] using h
  | some units =>
      cases href : uniform.unreferenced with
      | true => simpa [bindQualified_unchanged hbinding (.inr href)] using h
      | false =>
          rw [bindQualified_eq hbinding hunits href, rebindElements_bindings, h, modify_middle]
          rfl

theorem setUniformValuesFromBindingQualifiers_bindings (p : ProgramState)
    (done : List SamplerBinding) (uniforms : List SamplerUniform)
    (h : p.mSamplerBindings = done ++ uniforms.map (·.made)) :
    (p.setUniformValuesFromBindingQualifiers done.length uniforms).mSamplerBindings =
      done ++ uniforms.map (·.linked) := by
  induction uniforms generalizing p done with
  | nil => exact h
  | cons uniform uniforms ih =>
      have hnext := bindQualified_bindings h
      rw [← singleton_append, ← append_assoc] at hnext
      have hlength : done.length + 1 = (done ++ [uniform.linked]).length := by simp
      rw [setUniformValuesFromBindingQualifiers_cons, hlength, ih _ _ hnext]
      simp

theorem rebindElements_unchanged
    {binding : SamplerBinding} (hbinding : p.mSamplerBindings[samplerIndex]? = some binding)
    (arrayIndex : Nat) (units : List TextureUnit) (h : ∀ j unit, units[j]? = some unit →
      binding.boundTextureUnits[arrayIndex + j]? = some unit) :
    rebindElements samplerIndex p arrayIndex units = p := by
  induction units generalizing arrayIndex with
  | nil => rfl
  | cons unit units ih =>
    have hunit : binding.boundTextureUnits[arrayIndex]? = some unit := h 0 unit rfl
    have hfirst : p.rebindElement samplerIndex arrayIndex unit = p := by
      simp [rebindElement, hbinding, hunit]
    rw [rebindElements, hfirst]
    refine ih (arrayIndex + 1) fun j other hother => ?_
    have hnext := h (j + 1) other hother
    rwa [show arrayIndex + (j + 1) = arrayIndex + 1 + j by omega] at hnext

theorem bindQualified_keepsFirstUnit
    {uniform : SamplerUniform} (hbinding : p.mSamplerBindings[samplerIndex]? = some uniform.made)
    (h : uniform.KeepsFirstUnit) : p.bindQualified samplerIndex uniform = p := by
  cases hunits : uniform.binding with
  | none => exact bindQualified_unchanged hbinding (.inl hunits)
  | some units =>
    cases href : uniform.unreferenced with
    | true => exact bindQualified_unchanged hbinding (.inr href)
    | false =>
      rw [bindQualified_eq hbinding hunits href]
      refine rebindElements_unchanged hbinding 0 _ fun j unit hj => ?_
      obtain ⟨hlt, -⟩ := List.getElem?_eq_some_iff.mp hj
      rw [length_take] at hlt
      obtain rfl := h href units hunits unit (mem_of_getElem? hj)
      simp only [made, make, Nat.zero_add]
      rw [getElem?_replicate, if_pos (by omega)]

theorem setUniformValuesFromBindingQualifiers_keepsFirstUnit
    (done : List SamplerBinding) (uniforms : List SamplerUniform)
    (h : p.mSamplerBindings = done ++ uniforms.map (·.made))
    (hkeeps : ∀ uniform ∈ uniforms, uniform.KeepsFirstUnit) :
    p.setUniformValuesFromBindingQualifiers done.length uniforms = p := by
  induction uniforms generalizing done with
  | nil => rfl
  | cons uniform uniforms ih =>
    have hbinding : p.mSamplerBindings[done.length]? = some uniform.made := by simp [h]
    have hsame := bindQualified_keepsFirstUnit hbinding (hkeeps uniform mem_cons_self)
    have hlength : done.length + 1 = (done ++ [uniform.made]).length := by simp
    rw [setUniformValuesFromBindingQualifiers_cons, hsame, hlength]
    exact ih (done ++ [uniform.made]) (by simpa using h)
      fun other hother => hkeeps other (mem_cons_of_mem _ hother)

end ProgramState

theorem length_replaceUnits (boundTextureUnits : List TextureUnit) (arrayIndex : Nat)
    (units : List TextureUnit) :
    (replaceUnits boundTextureUnits arrayIndex units).length = boundTextureUnits.length := by
  induction units generalizing boundTextureUnits arrayIndex with
  | nil => rfl
  | cons unit units ih => rw [replaceUnits, ih, length_set]

theorem SamplerUniform.make_linked (uniform : SamplerUniform) :
    SamplerBinding.make uniform.linked.textureType uniform.linked.format
      uniform.linked.boundTextureUnits.length uniform.linked.unreferenced = uniform.made := by
  unfold linked
  split
  · simp [made, make]
  · split
    · simp [made, make]
    · simp [made, make, rebind, length_replaceUnits]

/-- Units are as before where the new ones are those that stood in their places. -/
theorem replaceUnits_eq_self_iff (boundTextureUnits : List TextureUnit) (units : List TextureUnit)
    (h : units.length ≤ boundTextureUnits.length) :
    replaceUnits boundTextureUnits 0 units = boundTextureUnits ↔
      ∀ (j : Nat) (unit : TextureUnit), units[j]? = some unit →
        boundTextureUnits[j]? = some unit := by
  have hget := getElem?_replaceUnits boundTextureUnits 0 units (by omega)
  constructor
  · intro heq j unit hunit
    obtain ⟨hlt, -⟩ := List.getElem?_eq_some_iff.mp hunit
    have hj := hget j
    rwa [if_pos (by omega), heq, Nat.sub_zero, hunit] at hj
  · intro hsame
    apply ext_getElem?
    intro j
    rw [hget j]
    split
    · rename_i hj
      have hlt : j < units.length := by omega
      rw [Nat.sub_zero, hsame j _ (getElem?_eq_getElem hlt), getElem?_eq_getElem hlt]
    · rfl

theorem SamplerUniform.linked_eq_made_iff (uniform : SamplerUniform) :
    uniform.linked = uniform.made ↔ uniform.KeepsFirstUnit := by
  unfold linked KeepsFirstUnit
  cases hunits : uniform.binding with
  | none => simp
  | some units =>
    cases href : uniform.unreferenced with
    | true => simp
    | false =>
      have hlength : (units.take uniform.elementCount).length ≤
          (replicate uniform.elementCount firstUnit).length := by
        rw [length_take, length_replicate]
        omega
      have hiff := replaceUnits_eq_self_iff _ _ hlength
      have hrebind : uniform.made.rebind 0 (units.take uniform.elementCount) = uniform.made ↔
          replaceUnits (replicate uniform.elementCount firstUnit) 0
              (units.take uniform.elementCount) =
            replicate uniform.elementCount firstUnit := by
        simp [rebind, made, make]
      simp only [Bool.false_eq_true, if_false, hrebind, hiff, Option.some.injEq, forall_const,
        forall_eq']
      constructor
      · intro hall unit hmem
        obtain ⟨j, hj⟩ := mem_iff_getElem?.mp hmem
        exact eq_of_mem_replicate (mem_of_getElem? (hall j unit hj))
      · intro hall j unit hj
        obtain ⟨hlt, -⟩ := List.getElem?_eq_some_iff.mp hj
        rw [length_replicate] at hlength
        rw [hall unit (mem_of_getElem? hj), getElem?_replicate, if_pos (by omega)]

namespace ProgramState

theorem updateActiveSamplers_linked (p : ProgramState) (linked : Bool) :
    { p with mLinked := linked }.updateActiveSamplers =
      { p.updateActiveSamplers with mLinked := linked } := by
  have hfold (entries : List (TextureUnit × Element)) (q : ProgramState) :
      entries.foldl countMarked { q with mLinked := linked } =
        { entries.foldl countMarked q with mLinked := linked } := by
    induction entries generalizing q with
    | nil => rfl
    | cons entry entries ih => exact ih (q.countMarked entry)
  rw [updateActiveSamplers_eq, updateActiveSamplers_eq]
  exact hfold (entries p.mSamplerBindings) { p with mActiveSamplerRefCounts := fun _ => 0 }

theorem link_eq (p : ProgramState) (uniforms : List SamplerUniform) :
    p.link (.succeeds uniforms) = ({ p with
        mSamplerBindings := uniforms.map SamplerUniform.made
        mLinked := true }.updateActiveSamplers).setUniformValuesFromBindingQualifiers 0
          uniforms := by
  have hmade := unlink_linkSamplerBindings_mark p uniforms
  have hmarked : { p.unlink.linkSamplerBindings uniforms with
      mLinked := true }.markUnusedUniformLocations uniforms =
      { p with
        mSamplerBindings := uniforms.map made
        mLinked := true } :=
    congrArg (fun bindings => { p with mSamplerBindings := bindings, mLinked := true }) hmade
  rw [← hmarked]
  rfl

theorem link_bindings (p : ProgramState) (uniforms : List SamplerUniform) :
    (p.link (.succeeds uniforms)).mSamplerBindings = uniforms.map (·.linked) := by
  rw [link_eq]
  exact setUniformValuesFromBindingQualifiers_bindings _ [] uniforms
    (updateActiveSamplers_bindings _)

theorem link_keepsFirstUnit (p : ProgramState) {uniforms : List SamplerUniform}
    (h : ∀ uniform ∈ uniforms, uniform.KeepsFirstUnit) :
    p.link (.succeeds uniforms) = { p with
        mSamplerBindings := uniforms.map SamplerUniform.made
        mLinked := true }.updateActiveSamplers := by
  rw [link_eq]
  exact setUniformValuesFromBindingQualifiers_keepsFirstUnit [] uniforms
    (updateActiveSamplers_bindings _) h

end ProgramState

end MetalAngle.Gl.ActiveSamplers
