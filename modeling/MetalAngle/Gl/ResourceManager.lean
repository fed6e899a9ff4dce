import MetalAngle.Gl.HandleAllocator
import MetalAngle.Gl.ResourceMap

/-!
# `TypedResourceManager`

A manager keeps the handles that are in use twice, in its handle allocator and in its object map.
The two stay in step: the calls it makes on the allocator respect the allocator's contract, and the
handles they leave live are those that the object map contains.
-/

namespace MetalAngle.Gl

open LabelledRun ResourceMap Option List HandleSystem HandleAllocator.Sound

structure Resource where
  address : Nat
  handle : Nat
deriving DecidableEq

/-- A manager, with the calls it has made on its allocator, the objects it has created and not
deleted, and the next address of a `new`. -/
structure TypedResourceManager where
  mHandleAllocator : HandleAllocator := .new maxGLuint
  mObjectMap : ResourceMap Resource := {}
  calls : List HandleSystem.Action := []
  objects : List Resource := []
  nextAddress : Nat := 0

namespace TypedResourceManager

def allocateNewObject (m : TypedResourceManager) (handle : Nat) :
    Resource × TypedResourceManager :=
  let object : Resource := ⟨m.nextAddress, handle⟩
  (object, { m with objects := object :: m.objects, nextAddress := m.nextAddress + 1 })

/-- `DeleteObject`. -/
def destroy (m : TypedResourceManager) (resource : Resource) : TypedResourceManager :=
  { m with objects := m.objects.filter (· ≠ resource) }

section

variable (heap : StdHeap)

def allocateEmptyObject (m : TypedResourceManager) :
    Option (Nat × TypedResourceManager) :=
  (m.mHandleAllocator.allocate heap).map fun (handle, allocator) =>
    (handle, { m with
      mHandleAllocator := allocator
      mObjectMap := m.mObjectMap.assign handle none
      calls := m.calls ++ [.allocate] })

def createSync (m : TypedResourceManager) :
    Option (Nat × TypedResourceManager) :=
  (m.mHandleAllocator.allocate heap).map fun (handle, allocator) =>
    let (sync, m) := m.allocateNewObject handle
    (handle, { m with
      mHandleAllocator := allocator
      mObjectMap := m.mObjectMap.assign handle (some sync)
      calls := m.calls ++ [.allocate] })

/-- `checkObjectAllocationImpl`, or none when an assertion of `reserve` fails. -/
def checkObjectAllocationImpl (m : TypedResourceManager) (handle : Nat) :
    Option (Resource × TypedResourceManager) :=
  let (object, m) := m.allocateNewObject handle
  let reserved :=
    if m.mObjectMap.contains handle then some m
    else (m.mHandleAllocator.reserve heap handle).map fun allocator =>
      { m with mHandleAllocator := allocator, calls := m.calls ++ [.reserve handle] }
  reserved.map fun m =>
    (object, { m with mObjectMap := m.mObjectMap.assign handle (some object) })

def checkObjectAllocation (m : TypedResourceManager) (handle : Nat) :
    Option (Option Resource × TypedResourceManager) :=
  match m.mObjectMap.query handle with
  | some value => some (some value, m)
  | none =>
      if handle = 0 then some (none, m)
      else (m.checkObjectAllocationImpl heap handle).map fun (object, m) => (some object, m)

def deleteObject (m : TypedResourceManager) (handle : Nat) :
    TypedResourceManager :=
  match m.mObjectMap.erase handle with
  | (none, _) => m
  | (some resource, map) =>
      let m := { m with
        mObjectMap := map
        mHandleAllocator := m.mHandleAllocator.release heap handle
        calls := m.calls ++ [.release handle] }
      resource.elim m m.destroy

end

def reset (m : TypedResourceManager) : TypedResourceManager :=
  let m : TypedResourceManager :=
    { m with mHandleAllocator := m.mHandleAllocator.reset, calls := m.calls ++ [.reset] }
  let m := m.mObjectMap.resources.foldl destroy m
  { m with mObjectMap := m.mObjectMap.clear }

/-! ## Agreement -/

/-- The allocator is what the calls made it, by a run that respects its contract, the object map
contains the handles that run leaves live, and it has the objects under their own handles. -/
structure Agrees (heap : StdHeap) (m : TypedResourceManager) (sys : HandleSystem) : Prop where
  calls : Run (HandleSystem.step heap maxGLuint) anyStep (.initial maxGLuint) m.calls sys
  allocator : sys.allocator = m.mHandleAllocator
  wellFormed : m.mObjectMap.WellFormed
  live : ∀ h, h ∈ sys.live ↔ (m.mObjectMap.entry h).isSome
  object : ∀ h o, m.mObjectMap.entry h = some (some o) ↔ o ∈ m.objects ∧ o.handle = h
  nodup : (m.objects.map Resource.handle).Nodup

variable {heap : StdHeap} {m m' : TypedResourceManager} {sys sys' : HandleSystem} {handle : Nat}

theorem agrees_new : Agrees heap {} (.initial maxGLuint) where
  calls := .nil _
  allocator := rfl
  wellFormed := wellFormed_new
  live := fun h => by simp [initial, entry_new]
  object := fun h o => by simp [entry_new]
  nodup := nodup_nil

section

variable (h : Agrees heap m sys)
include h

theorem Agrees.sound : sys.Sound maxGLuint := by
  apply sound_run (by decide) (by decide) (h.calls.mono ?_)
  intro s action _
  cases action with
  | reset => rfl
  | allocate => trivial
  | release handle => trivial
  | reserve handle => trivial
  | enableLogging enabled => trivial

/-- A handle that has no object gets an entry, after the calls that make it live. -/
theorem Agrees.assign {made : List HandleSystem.Action}
    (hrun : Run (HandleSystem.step heap maxGLuint) anyStep sys made sys')
    (hlive : ∀ x, x ∈ sys'.live ↔ x = handle ∨ x ∈ sys.live)
    (hempty : (m.mObjectMap.entry handle).join = none) {resource : Option Resource}
    (hhandle : ∀ o ∈ resource, o.handle = handle) (hcalls : m'.calls = m.calls ++ made)
    (hallocator : sys'.allocator = m'.mHandleAllocator)
    (hmap : m'.mObjectMap = m.mObjectMap.assign handle resource)
    (hobjects : m'.objects = resource.toList ++ m.objects) : Agrees heap m' sys' := by
  have hentry := h.wellFormed.entry_assign handle resource
  constructor
  case calls =>
    rw [hcalls]
    exact h.calls.append hrun
  case allocator => exact hallocator
  case wellFormed =>
    rw [hmap]
    exact h.wellFormed.assign handle resource
  case live =>
    intro x
    rw [hlive, h.live, hmap, hentry]
    by_cases heq : x = handle
    · simp [heq]
    · simp [heq]
  case object =>
    intro x o
    rw [hmap, hentry, hobjects, mem_append, mem_toList]
    by_cases heq : x = handle
    · rw [if_pos heq, heq]
      have hnone : ¬ (o ∈ m.objects ∧ o.handle = handle) := fun hmem => by
        rw [(h.object handle o).mpr hmem] at hempty
        contradiction
      constructor
      · intro hsome
        have hmem : o ∈ resource := some.inj hsome
        exact ⟨.inl hmem, hhandle o hmem⟩
      · rintro ⟨hmem | hmem, ho⟩
        · exact congrArg some hmem
        · exact absurd ⟨hmem, ho⟩ hnone
    · rw [if_neg heq, h.object]
      constructor
      · exact fun hmem => ⟨.inr hmem.1, hmem.2⟩
      · rintro ⟨hmem | hmem, ho⟩
        · exact absurd (ho.symm.trans (hhandle o hmem)) heq
        · exact ⟨hmem, ho⟩
  case nodup =>
    rw [hobjects]
    cases resource with
    | none => exact h.nodup
    | some object =>
        refine nodup_cons.mpr ⟨fun hmem => ?_, h.nodup⟩
        obtain ⟨o, ho, hsame⟩ := mem_map.mp hmem
        rw [hhandle object rfl] at hsame
        rw [(h.object handle o).mpr ⟨ho, hsame⟩] at hempty
        contradiction

theorem Agrees.entry_eq_none (hfree : handle ∉ sys.live) :
    m.mObjectMap.entry handle = none := by
  rw [h.live] at hfree
  simpa using hfree

/-- What `allocate` gives is a handle that the object map does not contain. -/
theorem Agrees.allocate {allocator : HandleAllocator}
    (hallocate : m.mHandleAllocator.allocate heap = some (handle, allocator)) :
    m.mObjectMap.entry handle = none ∧
      Run (HandleSystem.step heap maxGLuint) anyStep sys [.allocate]
        { allocator, live := insert handle sys.live } := by
  rw [← h.allocator] at hallocate
  have hallocates := allocates h.sound (by decide) hallocate
  exact ⟨h.entry_eq_none hallocates.free, .single trivial (step_allocate hallocate)⟩

theorem Agrees.allocateEmptyObject (hcreate : m.allocateEmptyObject heap = some (handle, m')) :
    m.mObjectMap.entry handle = none ∧ ∃ sys', Agrees heap m' sys' := by
  obtain ⟨⟨fresh, allocator⟩, hallocate, heq⟩ := map_eq_some_iff.mp hcreate
  obtain ⟨rfl, rfl⟩ := Prod.mk.inj heq
  obtain ⟨hnone, hrun⟩ := h.allocate hallocate
  refine ⟨hnone, _, h.assign hrun ?_ (by rw [hnone]; rfl) ?_ rfl rfl rfl rfl⟩
  · exact fun x => Finset.mem_insert
  · intro o ho
    contradiction

theorem Agrees.createSync (hcreate : m.createSync heap = some (handle, m')) :
    m.mObjectMap.entry handle = none ∧ ∃ sys', Agrees heap m' sys' := by
  obtain ⟨⟨fresh, allocator⟩, hallocate, heq⟩ := map_eq_some_iff.mp hcreate
  obtain ⟨rfl, rfl⟩ := Prod.mk.inj heq
  obtain ⟨hnone, hrun⟩ := h.allocate hallocate
  refine ⟨hnone, _, h.assign hrun ?_ (by rw [hnone]; rfl) ?_ rfl rfl rfl rfl⟩
  · exact fun x => Finset.mem_insert
  · intro o ho
    rw [← some.inj ho]

/-- `checkObjectAllocationImpl` on a handle other than 0 that has no object. -/
theorem Agrees.checkObjectAllocationImpl (hrange : 1 ≤ handle ∧ handle ≤ maxGLuint) (hempty : (m.mObjectMap.entry handle).join = none) :
    ∃ object m' sys', m.checkObjectAllocationImpl heap handle = some (object, m') ∧
      Agrees heap m' sys' := by
  unfold TypedResourceManager.checkObjectAllocationImpl TypedResourceManager.allocateNewObject
  dsimp only
  have hhandle : ∀ o ∈ some (Resource.mk m.nextAddress handle), o.handle = handle := by
    intro o ho
    rw [← some.inj ho]
  split
  case isTrue hcontains =>
    have hreserved : handle ∈ sys.live := by
      rw [h.live, ← contains_eq]
      exact hcontains
    refine ⟨_, _, sys, rfl, h.assign (.nil sys) ?_ hempty hhandle ?_ h.allocator rfl rfl⟩
    · intro x
      constructor
      · exact Or.inr
      · rintro (rfl | hx)
        · exact hreserved
        · exact hx
    · exact (append_nil m.calls).symm
  case isFalse hcontains =>
    have hfree : handle ∉ sys.live := by
      rw [h.live, ← contains_eq]
      exact hcontains
    obtain ⟨allocator, hreserve, -⟩ :=
      reserve heap h.sound (by decide) hrange hfree
    have hstep := step_reserve hrange hfree hreserve
    rw [h.allocator] at hreserve
    rw [hreserve]
    refine ⟨_, _, _, rfl, h.assign (.single trivial hstep) ?_ hempty hhandle rfl rfl rfl rfl⟩
    exact fun x => Finset.mem_insert

theorem Agrees.checkObjectAllocation (hmax : handle < 2 ^ 32) :
    ∃ object m' sys', m.checkObjectAllocation heap handle = some (object, m') ∧
      Agrees heap m' sys' := by
  unfold TypedResourceManager.checkObjectAllocation
  split
  case h_1 value hvalue => exact ⟨_, m, sys, rfl, h⟩
  case h_2 hnone =>
    rw [query_eq] at hnone
    split
    case isTrue => exact ⟨_, m, sys, rfl, h⟩
    case isFalse hzero =>
      have hrange : 1 ≤ handle ∧ handle ≤ maxGLuint := by
        unfold maxGLuint
        omega
      obtain ⟨object, m', sys', himpl, hagrees⟩ := h.checkObjectAllocationImpl hrange hnone
      rw [himpl]
      exact ⟨_, m', sys', rfl, hagrees⟩

/-- A live handle is released, its entry goes, and so does the object it had. -/
theorem Agrees.release (hlive : handle ∈ sys.live)
    (hcalls : m'.calls = m.calls ++ [.release handle])
    (hallocator : m'.mHandleAllocator = m.mHandleAllocator.release heap handle)
    (hmap : m'.mObjectMap = (m.mObjectMap.erase handle).2)
    (hobjects : m'.objects = m.objects.filter fun o => o.handle ≠ handle) :
    ∃ sys', Agrees heap m' sys' := by
  have hentry := h.wellFormed.entry_erase handle
  refine ⟨⟨sys.allocator.release heap handle, sys.live.erase handle⟩, ?_⟩
  constructor
  case calls =>
    rw [hcalls]
    exact h.calls.append (.single trivial (step_release hlive))
  case allocator => rw [hallocator, h.allocator]
  case wellFormed =>
    rw [hmap]
    exact h.wellFormed.erase handle
  case live =>
    intro x
    rw [hmap, hentry, Finset.mem_erase, h.live]
    by_cases heq : x = handle
    · simp [heq]
    · simp [heq]
  case object =>
    intro x o
    rw [hmap, hentry, hobjects, mem_filter, decide_eq_true_iff]
    by_cases heq : x = handle
    · simp [heq]
    · rw [if_neg heq, h.object]
      constructor
      · rintro ⟨hmem, rfl⟩
        exact ⟨⟨hmem, heq⟩, rfl⟩
      · rintro ⟨⟨hmem, -⟩, ho⟩
        exact ⟨hmem, ho⟩
  case nodup =>
    rw [hobjects]
    exact h.nodup.sublist (filter_sublist.map _)

theorem Agrees.deleteObject (handle : Nat) :
    ∃ sys', Agrees heap (m.deleteObject heap handle) sys' := by
  have hfst := m.mObjectMap.erase_fst handle
  unfold TypedResourceManager.deleteObject
  split
  case h_1 => exact ⟨sys, h⟩
  case h_2 resource map herase =>
    have hmap : map = (m.mObjectMap.erase handle).2 := by rw [herase]
    rw [herase] at hfst
    have hlive : handle ∈ sys.live := by
      rw [h.live, ← hfst]
      rfl
    -- the objects under the handle are the resource that `erase` gave
    have hobject : ∀ o ∈ m.objects, o.handle = handle ↔ resource = some o := fun o ho => by
      have hiff := h.object handle o
      rw [← hfst, some_inj] at hiff
      rw [hiff]
      simp only [ho, true_and]
    cases resource with
    | none =>
        refine h.release hlive rfl rfl hmap ?_
        refine (filter_eq_self.mpr fun o ho => ?_).symm
        rw [decide_eq_true_iff, Ne, hobject o ho]
        exact some_ne_none o ∘ Eq.symm
    | some object =>
        refine h.release hlive rfl rfl hmap ?_
        refine filter_congr fun o ho => ?_
        simp only [ne_eq, hobject o ho, some_inj]
        exact decide_eq_decide.mpr (not_congr eq_comm)

end

theorem foldl_destroy (resources : List Resource) (m : TypedResourceManager) :
    resources.foldl destroy m = { m with objects := m.objects.filter fun o => o ∉ resources } := by
  induction resources generalizing m with
  | nil => simp
  | cons resource resources ih =>
    rw [foldl_cons, ih]
    unfold destroy
    simp only [List.filter_filter, List.mem_cons, not_or, ne_eq, Bool.decide_and]
    simp only [Bool.and_comm]

theorem Agrees.reset (h : Agrees heap m sys) : ∃ sys', Agrees heap m.reset sys' := by
  have hobjects : m.objects.filter (fun o => o ∉ m.mObjectMap.resources) = [] := by
    rw [filter_eq_nil_iff]
    intro o ho
    rw [decide_eq_true_iff, not_not, h.wellFormed.mem_resources]
    refine ⟨o.handle, ?_⟩
    rw [query_eq, (h.object o.handle o).mpr ⟨ho, rfl⟩]
    rfl
  unfold TypedResourceManager.reset
  dsimp only
  rw [foldl_destroy]
  dsimp only
  rw [hobjects]
  refine ⟨⟨m.mHandleAllocator.reset, ∅⟩, ?_⟩
  constructor
  case calls =>
    refine h.calls.append (.single trivial ?_)
    rw [step, h.allocator]
  case allocator => rfl
  case wellFormed => exact wellFormed_clear m.mObjectMap
  case live => simp [entry_clear]
  case object => simp [entry_clear]
  case nodup => exact nodup_nil

/-! ## Runs -/

/-- Handles that an application chooses are `GLuint`s. -/
inductive Action
  | createObject
  | createSync
  | checkObjectAllocation (handle : UInt32)
  | deleteObject (handle : UInt32)
  | reset

def step (heap : StdHeap) (m : TypedResourceManager) : Action → Option TypedResourceManager
  | .createObject => (m.allocateEmptyObject heap).map Prod.snd
  | .createSync => (m.createSync heap).map Prod.snd
  | .checkObjectAllocation handle => (m.checkObjectAllocation heap handle.toNat).map Prod.snd
  | .deleteObject handle => some (m.deleteObject heap handle.toNat)
  | .reset => some m.reset

theorem Agrees.step (h : Agrees heap m sys) {action : Action}
    (hstep : step heap m action = some m') : ∃ sys', Agrees heap m' sys' := by
  cases action with
  | createObject =>
      obtain ⟨⟨handle, m''⟩, hcreate, rfl⟩ := map_eq_some_iff.mp hstep
      exact (h.allocateEmptyObject hcreate).2
  | createSync =>
      obtain ⟨⟨handle, m''⟩, hcreate, rfl⟩ := map_eq_some_iff.mp hstep
      exact (h.createSync hcreate).2
  | checkObjectAllocation handle =>
      obtain ⟨object, m'', sys', hcheck, hagrees⟩ := h.checkObjectAllocation handle.toNat_lt
      obtain ⟨⟨object', m'⟩, hcheck', rfl⟩ := map_eq_some_iff.mp hstep
      obtain ⟨-, rfl⟩ := Prod.mk.inj (some.inj (hcheck.symm.trans hcheck'))
      exact ⟨sys', hagrees⟩
  | deleteObject handle =>
      cases hstep
      exact h.deleteObject handle.toNat
  | reset =>
      cases hstep
      exact h.reset

theorem agrees_run {acts : List Action} (hrun : Run (step heap) anyStep {} acts m) :
    ∃ sys, Agrees heap m sys := by
  have hpres : ∀ m action m', (∃ sys, Agrees heap m sys) → anyStep m action →
      step heap m action = some m' → ∃ sys, Agrees heap m' sys :=
    fun _ _ _ ⟨_, h⟩ _ hstep => h.step hstep
  exact hrun.invariant hpres ⟨_, agrees_new⟩

/-- An action fails only by creating an object when every handle is in use. -/
theorem Agrees.step_isSome (h : Agrees heap m sys) (action : Action)
    (hfree : action = .createObject ∨ action = .createSync →
      ∃ free, (1 ≤ free ∧ free ≤ maxGLuint) ∧ m.mObjectMap.contains free = false) :
    (TypedResourceManager.step heap m action).isSome := by
  have hallocate : action = .createObject ∨ action = .createSync →
      (m.mHandleAllocator.allocate heap).isSome := fun haction => by
    obtain ⟨free, hrange, hcontains⟩ := hfree haction
    rw [contains_eq] at hcontains
    rw [← h.allocator]
    refine allocate_isSome h.sound hrange ?_
    rw [h.live, hcontains]
    exact Bool.false_ne_true
  cases action with
  | createObject =>
      obtain ⟨⟨handle, allocator⟩, hsome⟩ := isSome_iff_exists.mp (hallocate (.inl rfl))
      simp [TypedResourceManager.step, TypedResourceManager.allocateEmptyObject, hsome]
  | createSync =>
      obtain ⟨⟨handle, allocator⟩, hsome⟩ := isSome_iff_exists.mp (hallocate (.inr rfl))
      simp [TypedResourceManager.step, TypedResourceManager.createSync, hsome]
  | checkObjectAllocation handle =>
      obtain ⟨object, m', sys', hcheck, -⟩ := h.checkObjectAllocation handle.toNat_lt
      simp [TypedResourceManager.step, hcheck]
  | deleteObject handle => rfl
  | reset => rfl

/-- In every run the calls on the allocator are a run of its own, in which only live handles are
released and only handles that are not live are reserved, the map contains exactly the handles that
are live, a created object gets a handle that the map did not contain, no two objects have the same
handle, and no action but a creation without a free handle fails. -/
theorem run_agrees (heap : StdHeap) {acts : List Action}
    (hrun : Run (step heap) anyStep {} acts m) :
    (∃ sys, Run (HandleSystem.step heap maxGLuint) anyStep (.initial maxGLuint) m.calls sys ∧
      sys.allocator = m.mHandleAllocator ∧
      ∀ h, m.mObjectMap.contains h = true ↔ h ∈ sys.live) ∧
    (∀ handle m', m.allocateEmptyObject heap = some (handle, m') ∨
      m.createSync heap = some (handle, m') → m.mObjectMap.contains handle = false) ∧
    (∀ o, o ∈ m.objects ↔ m.mObjectMap.query o.handle = some o) ∧
    (m.objects.map Resource.handle).Nodup ∧
    ∀ action, (action = .createObject ∨ action = .createSync →
        ∃ free, (1 ≤ free ∧ free ≤ maxGLuint) ∧ m.mObjectMap.contains free = false) →
      (step heap m action).isSome = true := by
  obtain ⟨sys, h⟩ := agrees_run hrun
  refine ⟨⟨sys, h.calls, h.allocator, fun x => ?_⟩, fun handle m' hcreate => ?_, fun o => ?_,
    h.nodup, h.step_isSome⟩
  · rw [contains_eq, h.live]
  · rw [contains_eq]
    rcases hcreate with hcreate | hcreate
    · rw [(h.allocateEmptyObject hcreate).1]
      rfl
    · rw [(h.createSync hcreate).1]
      rfl
  · rw [query_eq, join_eq_some_iff, h.object]
    simp

/-- Handle 1 is created, bound, deleted and created again; 3 is bound without being created. -/
theorem run_agrees_bound : ∃ m : TypedResourceManager, Run (step .sorted) anyStep {}
    [.createObject, .checkObjectAllocation 1, .checkObjectAllocation 3, .deleteObject 2,
      .deleteObject 1, .createSync] m ∧
      m.calls = [.allocate, .reserve 3, .release 1, .allocate] ∧
      m.objects.map Resource.handle = [1, 3] ∧ (m.objects.map Resource.handle).Nodup := by
  obtain ⟨m, hexec, hcalls, hobjects⟩ : ∃ m : TypedResourceManager, exec (step .sorted) {}
      [.createObject, .checkObjectAllocation 1, .checkObjectAllocation 3, .deleteObject 2,
        .deleteObject 1, .createSync] = some m ∧
      m.calls = [.allocate, .reserve 3, .release 1, .allocate] ∧
      m.objects.map Resource.handle = [1, 3] := ⟨_, rfl, rfl, rfl⟩
  have hrun := Run.of_exec hexec
  exact ⟨m, hrun, hcalls, hobjects, (run_agrees .sorted hrun).2.2.2.1⟩

end TypedResourceManager

end MetalAngle.Gl
