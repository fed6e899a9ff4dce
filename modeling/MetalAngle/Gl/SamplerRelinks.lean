import MetalAngle.Gl.SamplerLinks

/-!
# The samplers of a relink

A link settles the units that its samplers touch: what it leaves there does not depend on what was
there before.  The other units keep their marks and types.
-/

namespace MetalAngle.Gl.ActiveSamplers

open List SamplerUniform

theorem IsCommon.unique {α : Type} [DecidableEq α] {values : List α} {invalid result result' : α}
    (h : IsCommon values invalid result) (h' : IsCommon values invalid result')
    (hne : values ≠ []) : result = result' := by
  obtain ⟨first, hfirst⟩ := exists_mem_of_ne_nil values hne
  by_cases hall : ∀ v ∈ values, v = first
  · rw [h.1 first hall, h'.1 first hall]
  · simp only [not_forall] at hall
    obtain ⟨v, hv, hdiffer⟩ := hall
    rw [h.2 v hv first hfirst hdiffer, h'.2 v hv first hfirst hdiffer]

namespace ProgramState

/-- A unit that nothing is bound to has neither a mark nor a type. -/
structure Settled (p : ProgramState) (unit : TextureUnit) : Prop where
  marked : p.MarkedInUse unit
  idle : p.mActiveSamplerRefCounts unit = 0 → p.mActiveSamplerTypes unit = .InvalidEnum

/-- The units that have been touched are settled, and nothing is bound to the others, which are as
they were at the start. -/
structure SettledOn (touched : TextureUnit → Prop) (start p : ProgramState) : Prop where
  described : ∀ unit, p.UnitDescribed unit
  settled : ∀ unit, touched unit → p.Settled unit
  unbound : ∀ unit, ¬ touched unit → p.mActiveSamplerRefCounts unit = 0
  mask : ∀ unit, ¬ touched unit → p.mActiveSamplersMask unit = start.mActiveSamplersMask unit
  type : ∀ unit, ¬ touched unit → p.mActiveSamplerTypes unit = start.mActiveSamplerTypes unit

variable {p : ProgramState} {unit : TextureUnit}

theorem settled_of_pos
    (h : 0 < p.mActiveSamplerRefCounts unit) : p.Settled unit :=
  ⟨fun _ => h, fun hzero => absurd hzero (Nat.ne_of_gt h)⟩

theorem removeElement_settled (p : ProgramState) (unit : TextureUnit) :
    (p.removeElement unit).Settled unit := by
  refine ⟨removeElement_markedInUse p unit, ?_⟩
  unfold removeElement
  dsimp only
  split
  · simp
  · rename_i hpos
    intro hzero
    refine absurd ?_ hpos
    rw [← hzero]
    split <;> simp [setSamplerUniformTextureTypeAndFormat]

theorem UnitDescribed.pos (h : p.UnitDescribed unit)
    (hne : elementsAt p.mSamplerBindings unit ≠ []) : 0 < p.mActiveSamplerRefCounts unit := by
  rw [h.count]
  exact length_pos_iff.mpr hne

variable {samplerIndex : Nat} {binding : SamplerBinding}

theorem rebindElement_other {arrayIndex : Nat} {old new : TextureUnit}
    (hbinding : p.mSamplerBindings[samplerIndex]? = some binding)
    (hold : binding.boundTextureUnits[arrayIndex]? = some old) (hne : old ≠ new)
    (hunitOld : unit ≠ old) (hunitNew : unit ≠ new) :
    (p.rebindElement samplerIndex arrayIndex new).mActiveSamplerRefCounts unit =
        p.mActiveSamplerRefCounts unit ∧
      (p.rebindElement samplerIndex arrayIndex new).mActiveSamplersMask unit =
        p.mActiveSamplersMask unit ∧
      (p.rebindElement samplerIndex arrayIndex new).mActiveSamplerTypes unit =
        p.mActiveSamplerTypes unit := by
  rw [rebindElement_eq hbinding hold hne]
  generalize p.mSamplerBindings.set samplerIndex { binding with
    boundTextureUnits := binding.boundTextureUnits.set arrayIndex new } = bindings
  obtain ⟨hcount, hmask, htype, -⟩ :=
    removeElement_other (p := p.countMoved bindings binding.element new) hunitOld
  obtain ⟨hcount', hmask', htype', -⟩ := countMoved_other p bindings binding.element hunitNew
  exact ⟨hcount.trans hcount', hmask.trans hmask', htype.trans htype'⟩

variable {touched : TextureUnit → Prop} {start : ProgramState}

section

variable (h : SettledOn touched start p)
include h

theorem SettledOn.rebindElement {arrayIndex : Nat}
    {old : TextureUnit} (hbinding : p.mSamplerBindings[samplerIndex]? = some binding)
    (href : binding.unreferenced = false)
    (hold : binding.boundTextureUnits[arrayIndex]? = some old) (new : TextureUnit) :
    SettledOn (fun unit => touched unit ∨ unit = new) start
      (p.rebindElement samplerIndex arrayIndex new) := by
  have htouched : touched old := by
    by_contra hnot
    have hpos := (h.described old).pos (elementsAt_ne_nil hbinding href hold)
    exact Nat.ne_of_gt hpos (h.unbound old hnot)
  by_cases hne : old = new
  · subst hne
    have hsame : p.rebindElement samplerIndex arrayIndex old = p := by
      simp [ProgramState.rebindElement, hbinding, hold]
    rw [hsame]
    have hunion (unit : TextureUnit) : touched unit ∨ unit = old ↔ touched unit :=
      or_iff_left_of_imp fun hunit => hunit ▸ htouched
    simpa only [hunion] using h
  obtain ⟨hdescribed, -, hinUse⟩ := rebindElement_described h.described hbinding href hold new
  have hother (unit : TextureUnit) (hunitOld : unit ≠ old) (hunitNew : unit ≠ new) :=
    rebindElement_other hbinding hold hne hunitOld hunitNew
  have hnew : elementsAt (p.rebindElement samplerIndex arrayIndex new).mSamplerBindings new ≠
      [] := by
    obtain ⟨hlt, -⟩ := List.getElem?_eq_some_iff.mp hold
    rw [rebindElement_bindings]
    have hrebound : (p.mSamplerBindings.modify samplerIndex
        (·.rebind arrayIndex [new]))[samplerIndex]? = some (binding.rebind arrayIndex [new]) := by
      simp [hbinding]
    refine elementsAt_ne_nil hrebound href (j := arrayIndex) ?_
    simp [SamplerBinding.rebind, replaceUnits, hlt]
  have hsettled (unit : TextureUnit) (hunit : touched unit ∨ unit = new) :
      (p.rebindElement samplerIndex arrayIndex new).Settled unit := by
    by_cases hunitNew : unit = new
    · subst hunitNew
      exact settled_of_pos ((hdescribed unit).pos hnew)
    by_cases hunitOld : unit = old
    · rw [hunitOld, rebindElement_eq hbinding hold hne]
      exact removeElement_settled _ old
    · obtain ⟨hcount, hmask, htype⟩ := hother unit hunitOld hunitNew
      obtain ⟨hmarked, hidle⟩ := h.settled unit (hunit.resolve_right hunitNew)
      refine ⟨?_, by rwa [hcount, htype]⟩
      unfold MarkedInUse
      rwa [hcount, hmask]
  have hkept (unit : TextureUnit) (hunit : ¬ (touched unit ∨ unit = new)) :
      ¬ touched unit ∧ unit ≠ old ∧ unit ≠ new := by
    rw [not_or] at hunit
    exact ⟨hunit.1, fun heq => hunit.1 (heq ▸ htouched), hunit.2⟩
  refine ⟨hdescribed, hsettled, fun unit hunit => ?_, fun unit hunit => ?_,
    fun unit hunit => ?_⟩ <;> obtain ⟨hnot, hunitOld, hunitNew⟩ := hkept unit hunit
  · exact (hother unit hunitOld hunitNew).1.trans (h.unbound unit hnot)
  · exact (hother unit hunitOld hunitNew).2.1.trans (h.mask unit hnot)
  · exact (hother unit hunitOld hunitNew).2.2.trans (h.type unit hnot)

theorem SettledOn.congr {touched' : TextureUnit → Prop} (hiff : ∀ unit, touched unit ↔ touched' unit) :
    SettledOn touched' start p := by
  obtain rfl : touched = touched' := funext fun unit => propext (hiff unit)
  exact h

theorem SettledOn.rebindElements (hbinding : p.mSamplerBindings[samplerIndex]? = some binding)
    (href : binding.unreferenced = false) (arrayIndex : Nat) (units : List TextureUnit)
    (hlength : arrayIndex + units.length ≤ binding.boundTextureUnits.length) :
    SettledOn (fun unit => touched unit ∨ unit ∈ units) start
      (ProgramState.rebindElements samplerIndex p arrayIndex units) := by
  induction units generalizing touched p binding arrayIndex with
  | nil => exact h.congr fun unit => by simp
  | cons new units ih =>
    rw [length_cons] at hlength
    have hlt : arrayIndex < binding.boundTextureUnits.length := by omega
    have hnext := h.rebindElement hbinding href (getElem?_eq_getElem hlt) new
    have hget : (p.rebindElement samplerIndex arrayIndex new).mSamplerBindings[samplerIndex]? =
        some (binding.rebind arrayIndex [new]) := by
      rw [rebindElement_bindings]
      simp [hbinding]
    have hrest := ih hnext hget href (arrayIndex + 1) (by
      simp only [SamplerBinding.rebind, length_replaceUnits]
      omega)
    exact hrest.congr fun unit => by simp [or_assoc]

theorem SettledOn.bindQualified {uniform : SamplerUniform}
    (hbinding : p.mSamplerBindings[samplerIndex]? = some uniform.made) :
    SettledOn (fun unit => touched unit ∨ uniform.Binds unit) start
      (p.bindQualified samplerIndex uniform) := by
  by_cases hnone : uniform.binding = none ∨ uniform.unreferenced
  · rw [bindQualified_unchanged hbinding hnone]
    refine h.congr fun unit => (or_iff_left ?_).symm
    rintro ⟨href, units, hunits, -⟩
    rcases hnone with hnone | hunref
    · simp [hnone] at hunits
    · simp [hunref] at href
  · obtain ⟨hsome, href⟩ := not_or.mp hnone
    obtain ⟨units, hunits⟩ := Option.ne_none_iff_exists'.mp hsome
    have href : uniform.unreferenced = false := by simpa using href
    rw [bindQualified_eq hbinding hunits href]
    have hrebound := h.rebindElements hbinding href 0 (units.take uniform.elementCount) (by
      simp only [made, SamplerBinding.make, length_replicate, length_take]
      omega)
    exact hrebound.congr fun unit => by simp [SamplerUniform.Binds, href, hunits]

theorem SettledOn.setUniformValuesFromBindingQualifiers (done : List SamplerBinding) (uniforms : List SamplerUniform)
    (hbindings : p.mSamplerBindings = done ++ uniforms.map (·.made)) :
    SettledOn (fun unit => touched unit ∨ ∃ uniform ∈ uniforms, uniform.Binds unit) start
      (p.setUniformValuesFromBindingQualifiers done.length uniforms) := by
  induction uniforms generalizing touched p done with
  | nil => exact h.congr fun unit => by simp
  | cons uniform uniforms ih =>
    have hbinding : p.mSamplerBindings[done.length]? = some uniform.made := by simp [hbindings]
    have hnext := bindQualified_bindings hbindings
    rw [← singleton_append, ← append_assoc] at hnext
    have hlength : done.length + 1 = (done ++ [uniform.linked]).length := by simp
    rw [setUniformValuesFromBindingQualifiers_cons, hlength]
    exact (ih (h.bindQualified hbinding) _ hnext).congr fun unit => by simp [or_assoc]

end

/-- A count settles the units that elements are bound to. -/
theorem updateActiveSamplers_settledOn (p : ProgramState) :
    SettledOn (fun unit => elementsAt p.mSamplerBindings unit ≠ []) p
      p.updateActiveSamplers := by
  obtain ⟨hdescribed, -⟩ := updateActiveSamplers_described p
  have hframe (entries : List (TextureUnit × Element)) (q : ProgramState) (unit : TextureUnit)
      (hunit : ∀ entry ∈ entries, entry.1 ≠ unit) :
      (entries.foldl countMarked q).mActiveSamplersMask unit = q.mActiveSamplersMask unit ∧
        (entries.foldl countMarked q).mActiveSamplerTypes unit =
          q.mActiveSamplerTypes unit := by
    induction entries generalizing q with
    | nil => exact ⟨rfl, rfl⟩
    | cons entry entries ih =>
        have hentry : unit ≠ entry.1 := (hunit entry mem_cons_self).symm
        obtain ⟨hmask, htype⟩ := ih (q.countMarked entry) fun other hother =>
          hunit other (mem_cons_of_mem _ hother)
        rw [foldl_cons, hmask, htype]
        simp [countMarked, setMask, countElement, hentry]
  have hother (unit : TextureUnit) (hunit : ¬ elementsAt p.mSamplerBindings unit ≠ []) :
      ∀ entry ∈ entries p.mSamplerBindings, entry.1 ≠ unit := by
    rintro entry hentry heq
    have hmem : entry.2 ∈ elementsAt p.mSamplerBindings unit := by
      rw [← entriesAt_eq]
      exact mem_map_of_mem (mem_filter.mpr ⟨hentry, by simpa using heq⟩)
    exact hunit (ne_nil_of_mem hmem)
  refine ⟨hdescribed, fun unit hunit => ?_, fun unit hunit => ?_, fun unit hunit => ?_,
    fun unit hunit => ?_⟩
  · refine settled_of_pos ((hdescribed unit).pos ?_)
    rwa [updateActiveSamplers_bindings]
  · rw [(hdescribed unit).count, updateActiveSamplers_bindings, not_ne_iff.mp hunit]
    rfl
  · rw [updateActiveSamplers_eq]
    exact (hframe _ _ unit (hother unit hunit)).1
  · rw [updateActiveSamplers_eq]
    exact (hframe _ _ unit (hother unit hunit)).2

theorem elementsAt_made_ne_nil_iff (uniforms : List SamplerUniform) (unit : TextureUnit) :
    elementsAt (uniforms.map SamplerUniform.made) unit ≠ [] ↔
      ∃ uniform ∈ uniforms, uniform.unreferenced = false ∧ unit = firstUnit ∧
        0 < uniform.elementCount := by
  unfold elementsAt
  rw [flatMap_map, Ne, flatMap_eq_nil_iff]
  simp only [not_forall, exists_prop]
  refine exists_congr fun uniform => and_congr_right fun _ => ?_
  cases href : uniform.unreferenced with
  | true => simp [SamplerBinding.elementsAt, made, SamplerBinding.make, href]
  | false =>
      by_cases hunit : firstUnit = unit
      · simp [SamplerBinding.elementsAt, made, SamplerBinding.make, href, hunit,
          Nat.pos_iff_ne_zero]
      · simp [SamplerBinding.elementsAt, made, SamplerBinding.make, href,
          count_replicate, hunit, Ne.symm hunit]

theorem link_settledOn (p : ProgramState) (uniforms : List SamplerUniform) :
    SettledOn (fun unit => ∃ uniform ∈ uniforms, uniform.Touches unit) p
      (p.link (.succeeds uniforms)) := by
  have hcounted := updateActiveSamplers_settledOn { p with
    mSamplerBindings := uniforms.map made
    mLinked := true }
  have hlinked := hcounted.setUniformValuesFromBindingQualifiers [] uniforms
    (updateActiveSamplers_bindings _)
  rw [link_eq]
  have hstart : SettledOn _ p _ :=
    { hlinked with }
  refine hstart.congr fun unit => ?_
  rw [elementsAt_made_ne_nil_iff, ← exists_or]
  refine exists_congr fun uniform => ?_
  simp [SamplerUniform.Touches, SamplerUniform.Binds, ← and_or_left]

/-! ## Two links of the same samplers -/

def forgetIdleFormats (p : ProgramState) : ProgramState :=
  { p with
    mActiveSamplerFormats := fun unit =>
      if p.mActiveSamplersMask unit then p.mActiveSamplerFormats unit else .InvalidEnum }

/-- A unit has the same mark and type in two programs, and the same format if it is marked. -/
structure SameUnit (p q : ProgramState) (unit : TextureUnit) : Prop where
  mask : p.mActiveSamplersMask unit = q.mActiveSamplersMask unit
  type : p.mActiveSamplerTypes unit = q.mActiveSamplerTypes unit
  format : p.mActiveSamplersMask unit →
    p.mActiveSamplerFormats unit = q.mActiveSamplerFormats unit

theorem sameUnit_of_settled {q : ProgramState}
    (hbindings : p.mSamplerBindings = q.mSamplerBindings) (hp : p.UnitDescribed unit)
    (hq : q.UnitDescribed unit) (hsettledP : p.Settled unit) (hsettledQ : q.Settled unit) :
    SameUnit p q unit := by
  have hcount : p.mActiveSamplerRefCounts unit = q.mActiveSamplerRefCounts unit := by
    rw [hp.count, hq.count, hbindings]
  unfold UnitDescribed at hp hq
  rw [hbindings] at hp
  by_cases hnil : elementsAt q.mSamplerBindings unit = []
  · have hzero : q.mActiveSamplerRefCounts unit = 0 := by simp [hq.count, hnil]
    have hidle {r : ProgramState} (hr : r.Settled unit)
        (hzero : r.mActiveSamplerRefCounts unit = 0) : r.mActiveSamplersMask unit = false := by
      by_contra hmask
      exact Nat.ne_of_gt (hr.marked (by simpa using hmask)) hzero
    have hmaskP := hidle hsettledP (hcount.trans hzero)
    refine ⟨hmaskP.trans (hidle hsettledQ hzero).symm, ?_, fun hmask => ?_⟩
    · exact (hsettledP.idle (hcount.trans hzero)).trans (hsettledQ.idle hzero).symm
    · rw [hmaskP] at hmask
      cases hmask
  · have hmap {α : Type} (f : Element → α) :
        (elementsAt q.mSamplerBindings unit).map f ≠ [] := by simpa using hnil
    exact ⟨(hp.mask hnil).trans (hq.mask hnil).symm, (hp.type hnil).unique (hq.type hnil) (hmap _),
      fun _ => (hp.format hnil).unique (hq.format hnil) (hmap _)⟩

theorem rebindElements_linked (p : ProgramState) (samplerIndex arrayIndex : Nat)
    (units : List TextureUnit) :
    (rebindElements samplerIndex p arrayIndex units).mLinked = p.mLinked := by
  induction units generalizing p arrayIndex with
  | nil => rfl
  | cons unit units ih =>
    rw [rebindElements, ih]
    cases hbinding : p.mSamplerBindings[samplerIndex]? with
    | none => simp [rebindElement, hbinding]
    | some binding =>
      cases hold : binding.boundTextureUnits[arrayIndex]? with
      | none => simp [rebindElement, hbinding, hold]
      | some old =>
          by_cases hne : old = unit
          · simp [rebindElement, hbinding, hold, hne]
          · rw [rebindElement_eq hbinding hold hne, removeElement_linked, countMoved_linked]

theorem bindQualified_linked (p : ProgramState) (samplerIndex : Nat) (uniform : SamplerUniform) :
    (p.bindQualified samplerIndex uniform).mLinked = p.mLinked := by
  unfold bindQualified updateSamplerUniform
  split
  · rfl
  · split
    · rfl
    · split
      · rfl
      · exact rebindElements_linked ..

theorem link_linked (p : ProgramState) (uniforms : List SamplerUniform) :
    (p.link (.succeeds uniforms)).mLinked := by
  have hqualifiers (uniforms : List SamplerUniform) (q : ProgramState) (first : Nat) :
      (q.setUniformValuesFromBindingQualifiers first uniforms).mLinked = q.mLinked := by
    induction uniforms generalizing q first with
    | nil => rfl
    | cons uniform uniforms ih =>
        rw [setUniformValuesFromBindingQualifiers_cons, ih, bindQualified_linked]
  rw [link_eq, hqualifiers, updateActiveSamplers_eq, (foldl_countMarked_frame _ _).2]

theorem forgetIdleFormats_eq {q : ProgramState}
    (hbindings : p.mSamplerBindings = q.mSamplerBindings)
    (hcounts : p.mActiveSamplerRefCounts = q.mActiveSamplerRefCounts)
    (hlinked : p.mLinked = q.mLinked) (hunits : ∀ unit, SameUnit p q unit) :
    p.forgetIdleFormats = q.forgetIdleFormats := by
  have hmask : p.mActiveSamplersMask = q.mActiveSamplersMask :=
    funext fun unit => (hunits unit).mask
  have htypes : p.mActiveSamplerTypes = q.mActiveSamplerTypes :=
    funext fun unit => (hunits unit).type
  have hformats : (fun unit => if p.mActiveSamplersMask unit then p.mActiveSamplerFormats unit
      else .InvalidEnum) = fun unit => if q.mActiveSamplersMask unit then
        q.mActiveSamplerFormats unit else SamplerFormat.InvalidEnum := by
    funext unit
    rw [← hmask]
    split
    · exact (hunits unit).format ‹_›
    · rfl
  unfold forgetIdleFormats
  rw [hbindings, hcounts, hlinked, hformats, hmask, htypes]

/-- A link leaves what the link of a new program leaves if and only if the units that its samplers
do not touch have neither a mark nor a type. -/
theorem link_forgets_iff (p : ProgramState) (uniforms : List SamplerUniform) :
    (p.link (.succeeds uniforms)).forgetIdleFormats =
        (init.link (.succeeds uniforms)).forgetIdleFormats ↔
      ∀ unit, (∀ uniform ∈ uniforms, ¬ uniform.Touches unit) →
        p.mActiveSamplersMask unit = false ∧ p.mActiveSamplerTypes unit = .InvalidEnum := by
  have hp := link_settledOn p uniforms
  have hnew := link_settledOn init uniforms
  constructor
  · intro heq unit hunit
    have hnot : ¬ ∃ uniform ∈ uniforms, uniform.Touches unit := by simpa using hunit
    have hmask := congrFun (congrArg mActiveSamplersMask heq) unit
    have htype := congrFun (congrArg mActiveSamplerTypes heq) unit
    exact ⟨(hp.mask unit hnot).symm.trans (hmask.trans (hnew.mask unit hnot)),
      (hp.type unit hnot).symm.trans (htype.trans (hnew.type unit hnot))⟩
  · intro hclean
    have hbindings : (p.link (.succeeds uniforms)).mSamplerBindings =
        (init.link (.succeeds uniforms)).mSamplerBindings := by
      rw [link_bindings, link_bindings]
    have hcounts : (p.link (.succeeds uniforms)).mActiveSamplerRefCounts =
        (init.link (.succeeds uniforms)).mActiveSamplerRefCounts := by
      funext unit
      rw [(hp.described unit).count, (hnew.described unit).count, hbindings]
    refine forgetIdleFormats_eq hbindings hcounts
      ((link_linked p uniforms).trans (link_linked init uniforms).symm) fun unit => ?_
    by_cases htouched : ∃ uniform ∈ uniforms, uniform.Touches unit
    · exact sameUnit_of_settled hbindings (hp.described unit) (hnew.described unit)
        (hp.settled unit htouched) (hnew.settled unit htouched)
    · obtain ⟨hmask, htype⟩ := hclean unit (by simpa using htouched)
      have hunmarked := (hp.mask unit htouched).trans hmask
      refine ⟨hunmarked.trans (hnew.mask unit htouched).symm,
        ((hp.type unit htouched).trans htype).trans (hnew.type unit htouched).symm, ?_⟩
      intro hmarked
      rw [hunmarked] at hmarked
      cases hmarked

end ProgramState

end MetalAngle.Gl.ActiveSamplers
