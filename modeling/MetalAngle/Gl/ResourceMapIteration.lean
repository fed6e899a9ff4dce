import MetalAngle.Gl.ResourceMap

/-!
# Iteration over a `ResourceMap`

An iterator walks the flat array and then the hash map.  It skips the null resources of the array
and shows those of the hash map, so a reserved handle is visible only from the flat limit on.
-/

namespace MetalAngle.Gl.ResourceMap

open List Std.HashMap ResourceMap

variable {ρ : Type*}

def nextNonNullResource (m : ResourceMap ρ) (flatIndex : Nat) : Nat :=
  ((List.range' flatIndex (m.mFlatResourcesSize - flatIndex)).find? fun index =>
    (m.flat index).join.isSome).getD m.mFlatResourcesSize

/-- `mHashIndex` is a position in the iteration order of the hash map, the end at its size. -/
structure Iterator (ρ : Type*) where
  mFlatIndex : Nat
  mHashIndex : Nat
  mValue : Nat × FlatSlot ρ := (0, some none)

def Iterator.updateValue (m : ResourceMap ρ) (it : Iterator ρ) : Iterator ρ :=
  if it.mFlatIndex < m.mFlatResourcesSize then
    { it with mValue := (it.mFlatIndex, m.flat it.mFlatIndex) }
  else
    match m.mHashedResources.toList[it.mHashIndex]? with
    | some (handle, value) => { it with mValue := (handle, some value) }
    | none => it

/-- `operator==`, which compares the positions. -/
def Iterator.same (it other : Iterator ρ) : Bool :=
  it.mFlatIndex == other.mFlatIndex && it.mHashIndex == other.mHashIndex

/-- `operator++`. -/
def Iterator.increment (m : ResourceMap ρ) (it : Iterator ρ) : Iterator ρ :=
  if it.mFlatIndex < m.mFlatResourcesSize then
    Iterator.updateValue m { it with mFlatIndex := m.nextNonNullResource (it.mFlatIndex + 1) }
  else Iterator.updateValue m { it with mHashIndex := it.mHashIndex + 1 }

/-- `begin()`. -/
def iteratorBegin (m : ResourceMap ρ) : Iterator ρ :=
  Iterator.updateValue m { mFlatIndex := m.nextNonNullResource 0, mHashIndex := 0 }

/-- `end()`. -/
def iteratorEnd (m : ResourceMap ρ) : Iterator ρ :=
  Iterator.updateValue m
    { mFlatIndex := m.mFlatResourcesSize, mHashIndex := m.mHashedResources.toList.length }

def empty (m : ResourceMap ρ) : Bool := m.iteratorBegin.same m.iteratorEnd

def visitFrom (m : ResourceMap ρ) : Nat → Iterator ρ → Option (List (Nat × FlatSlot ρ))
  | 0, _ => none
  | fuel + 1, it =>
    if it.same m.iteratorEnd then some []
    else (m.visitFrom fuel (it.increment m)).map (it.mValue :: ·)

/-- What `begin()..end()` visits; every handle is passed at most once. -/
def visited (m : ResourceMap ρ) : Option (List (Nat × FlatSlot ρ)) :=
  m.visitFrom (m.mFlatResourcesSize + m.mHashedResources.toList.length + 1) m.iteratorBegin

variable {m : ResourceMap ρ}

/-! ## The two halves of a loop -/

def flatPairs (m : ResourceMap ρ) (flatIndex : Nat) : List (Nat × FlatSlot ρ) :=
  (List.range' flatIndex (m.mFlatResourcesSize - flatIndex)).filterMap fun index =>
    (m.flat index).join.map fun resource => (index, some (some resource))

def hashPairs (m : ResourceMap ρ) (hashIndex : Nat) : List (Nat × FlatSlot ρ) :=
  (m.mHashedResources.toList.drop hashIndex).map fun pair => (pair.1, some pair.2)

theorem iteratorEnd_mFlatIndex (m : ResourceMap ρ) :
    m.iteratorEnd.mFlatIndex = m.mFlatResourcesSize := by
  simp [iteratorEnd, Iterator.updateValue]

theorem iteratorEnd_mHashIndex (m : ResourceMap ρ) :
    m.iteratorEnd.mHashIndex = m.mHashedResources.toList.length := by
  simp [iteratorEnd, Iterator.updateValue]

theorem Iterator.same_end_iff (it : Iterator ρ) :
    it.same m.iteratorEnd ↔ it.mFlatIndex = m.mFlatResourcesSize ∧
      it.mHashIndex = m.mHashedResources.toList.length := by
  rw [Iterator.same, iteratorEnd_mFlatIndex, iteratorEnd_mHashIndex]
  simp

theorem Iterator.updateValue_mFlatIndex (it : Iterator ρ) :
    (it.updateValue m).mFlatIndex = it.mFlatIndex := by
  unfold Iterator.updateValue
  split
  · rfl
  · split
    · rfl
    · rfl

theorem Iterator.updateValue_mHashIndex (it : Iterator ρ) :
    (it.updateValue m).mHashIndex = it.mHashIndex := by
  unfold Iterator.updateValue
  split
  · rfl
  · split
    · rfl
    · rfl

theorem Iterator.updateValue_flat {it : Iterator ρ} (h : it.mFlatIndex < m.mFlatResourcesSize) :
    (it.updateValue m).mValue = (it.mFlatIndex, m.flat it.mFlatIndex) := by
  rw [Iterator.updateValue, if_pos h]

theorem Iterator.updateValue_hash {it : Iterator ρ} {pair : Nat × Option ρ}
    (h : m.mFlatResourcesSize ≤ it.mFlatIndex)
    (hpair : m.mHashedResources.toList[it.mHashIndex]? = some pair) :
    (it.updateValue m).mValue = (pair.1, some pair.2) := by
  rw [Iterator.updateValue, if_neg (by omega), hpair]

theorem visitFrom_hash {fuel : Nat} {it : Iterator ρ} (hflat : it.mFlatIndex = m.mFlatResourcesSize)
    (hfuel : m.mHashedResources.toList.length < fuel + it.mHashIndex)
    (hbound : it.mHashIndex ≤ m.mHashedResources.toList.length) :
    m.visitFrom fuel (it.updateValue m) = some (m.hashPairs it.mHashIndex) := by
  induction fuel generalizing it with
  | zero => omega
  | succ fuel ih =>
    rw [visitFrom]
    by_cases hend : it.mHashIndex = m.mHashedResources.toList.length
    · rw [if_pos, hashPairs, hend, drop_length, map_nil]
      rw [Iterator.same_end_iff, Iterator.updateValue_mFlatIndex, Iterator.updateValue_mHashIndex]
      exact ⟨hflat, hend⟩
    · have hlt : it.mHashIndex < m.mHashedResources.toList.length := by omega
      have hpair := getElem?_eq_getElem hlt
      have hrest := @ih { it.updateValue m with mHashIndex := it.mHashIndex + 1 }
        (by rw [Iterator.updateValue_mFlatIndex, hflat]) (by dsimp only; omega)
        (by dsimp only; omega)
      rw [if_neg, Iterator.increment, if_neg, Iterator.updateValue_mHashIndex, hrest,
        Iterator.updateValue_hash (by omega) hpair, hashPairs, hashPairs,
        drop_eq_getElem_cons hlt, map_cons]
      · rfl
      · rw [Iterator.updateValue_mFlatIndex]
        omega
      · rw [Iterator.same_end_iff, Iterator.updateValue_mHashIndex]
        exact fun hsame => hend hsame.2

/-- The index found is the next one whose slot holds a resource. -/
theorem nextNonNullResource_spec {flatIndex : Nat} (h : flatIndex ≤ m.mFlatResourcesSize) :
    flatIndex ≤ m.nextNonNullResource flatIndex ∧
      m.nextNonNullResource flatIndex ≤ m.mFlatResourcesSize ∧
      m.flatPairs flatIndex = m.flatPairs (m.nextNonNullResource flatIndex) ∧
      (m.nextNonNullResource flatIndex < m.mFlatResourcesSize →
        ∃ resource, m.flat (m.nextNonNullResource flatIndex) = some (some resource)) := by
  induction hgap : m.mFlatResourcesSize - flatIndex generalizing flatIndex with
  | zero =>
    have hlast : m.nextNonNullResource flatIndex = m.mFlatResourcesSize := by
      rw [nextNonNullResource, hgap]
      rfl
    have hindex : flatIndex = m.mFlatResourcesSize := by omega
    rw [hlast, hindex]
    exact ⟨Nat.le_refl _, Nat.le_refl _, rfl, fun hlt => absurd hlt (Nat.lt_irrefl _)⟩
  | succ gap ih =>
    have hgap' : m.mFlatResourcesSize - (flatIndex + 1) = gap := by omega
    cases hslot : (m.flat flatIndex).join with
    | some resource =>
      have hfound : m.nextNonNullResource flatIndex = flatIndex := by
        rw [nextNonNullResource, hgap, range'_succ,
          find?_cons_of_pos (by rw [hslot]; rfl), Option.getD_some]
      rw [hfound]
      exact ⟨Nat.le_refl _, h, rfl, fun _ => ⟨resource, Option.join_eq_some_iff.mp hslot⟩⟩
    | none =>
      have hnext : flatIndex + 1 ≤ m.mFlatResourcesSize := by omega
      obtain ⟨hle, hsize, hpairs, hresource⟩ := ih hnext hgap'
      have hskip : m.nextNonNullResource flatIndex = m.nextNonNullResource (flatIndex + 1) := by
        rw [nextNonNullResource, nextNonNullResource, hgap, hgap', range'_succ,
          find?_cons_of_neg (by rw [hslot]; exact Bool.false_ne_true)]
      have hdrop : m.flatPairs flatIndex = m.flatPairs (flatIndex + 1) := by
        rw [flatPairs, flatPairs, hgap, hgap', range'_succ,
          filterMap_cons_none (by rw [hslot, Option.map_none])]
      rw [hskip]
      exact ⟨by omega, hsize, hdrop.trans hpairs, hresource⟩

theorem flatPairs_cons {flatIndex : Nat} {resource : ρ} (h : flatIndex < m.mFlatResourcesSize)
    (hslot : m.flat flatIndex = some (some resource)) :
    m.flatPairs flatIndex = (flatIndex, m.flat flatIndex) :: m.flatPairs (flatIndex + 1) := by
  obtain ⟨gap, hgap⟩ : ∃ gap, m.mFlatResourcesSize - flatIndex = gap + 1 :=
    ⟨m.mFlatResourcesSize - flatIndex - 1, by omega⟩
  have hgap' : m.mFlatResourcesSize - (flatIndex + 1) = gap := by omega
  rw [flatPairs, flatPairs, hgap, hgap', range'_succ,
    filterMap_cons_some (by rw [hslot]; rfl), hslot]

/-- From an index of the array a loop sees what the array has left and all of the hash map. -/
theorem visitFrom_flat {fuel : Nat} {it : Iterator ρ} {start : Nat}
    (hstart : start ≤ m.mFlatResourcesSize)
    (hflat : it.mFlatIndex = m.nextNonNullResource start) (hhash : it.mHashIndex = 0)
    (hfuel : m.mFlatResourcesSize + m.mHashedResources.toList.length < fuel + start) :
    m.visitFrom fuel (it.updateValue m) = some (m.flatPairs start ++ m.hashPairs 0) := by
  obtain ⟨hle, hsize, hpairs, hresource⟩ := nextNonNullResource_spec hstart
  induction fuel generalizing it start with
  | zero => omega
  | succ fuel ih =>
    by_cases hlast : m.nextNonNullResource start = m.mFlatResourcesSize
    · have hnil : m.flatPairs start = [] := by
        rw [hpairs, hlast, flatPairs, Nat.sub_self]
        rfl
      rw [hnil, nil_append, ← hhash]
      exact visitFrom_hash (hflat.trans hlast) (by omega) (by omega)
    · have hlt : m.nextNonNullResource start < m.mFlatResourcesSize := by omega
      obtain ⟨resource, hslot⟩ := hresource hlt
      obtain ⟨hle', hsize', hpairs', hresource'⟩ :=
        nextNonNullResource_spec (Nat.succ_le_of_lt hlt)
      have hrest := @ih { it.updateValue m with
          mFlatIndex := m.nextNonNullResource (m.nextNonNullResource start + 1) }
        (m.nextNonNullResource start + 1) hlt rfl (by rw [Iterator.updateValue_mHashIndex, hhash]) (by omega) hle' hsize' hpairs'
        hresource'
      rw [visitFrom, if_neg, Iterator.increment, if_pos, Iterator.updateValue_mFlatIndex, hflat,
        hrest, Iterator.updateValue_flat (by omega), hflat, hpairs, flatPairs_cons hlt hslot]
      · rfl
      · rw [Iterator.updateValue_mFlatIndex]
        omega
      · rw [Iterator.same_end_iff, Iterator.updateValue_mFlatIndex]
        omega

theorem visited_eq (m : ResourceMap ρ) :
    m.visited = some (m.flatPairs 0 ++ m.hashPairs 0) :=
  visitFrom_flat (Nat.zero_le _) rfl rfl (by omega)

/-! ## Which handles are visible -/

variable {handle : Nat}

theorem mem_flatPairs {slot : FlatSlot ρ} :
    (handle, slot) ∈ m.flatPairs 0 ↔ handle < m.mFlatResourcesSize ∧
      m.flat handle = slot ∧ ∃ resource, slot = some (some resource) := by
  rw [flatPairs, mem_filterMap]
  constructor
  · rintro ⟨index, hindex, hpair⟩
    obtain ⟨resource, hresource, heq⟩ := Option.map_eq_some_iff.mp hpair
    obtain ⟨rfl, rfl⟩ := Prod.mk.inj heq
    rw [mem_range'_1] at hindex
    exact ⟨by omega, Option.join_eq_some_iff.mp hresource, resource, rfl⟩
  · rintro ⟨hlt, hslot, resource, rfl⟩
    refine ⟨handle, mem_range'_1.mpr ⟨Nat.zero_le _, by omega⟩, ?_⟩
    rw [hslot]
    rfl

theorem mem_hashPairs {slot : FlatSlot ρ} :
    (handle, slot) ∈ m.hashPairs 0 ↔
      ∃ value, slot = some value ∧ m.mHashedResources[handle]? = some value := by
  rw [hashPairs, drop_zero, mem_map]
  constructor
  · rintro ⟨⟨handle', value⟩, hmem, heq⟩
    obtain ⟨rfl, rfl⟩ := Prod.mk.inj heq
    exact ⟨value, rfl, mem_toList_iff_getElem?_eq_some.mp hmem⟩
  · rintro ⟨value, rfl, hget⟩
    exact ⟨(handle, value), mem_toList_iff_getElem?_eq_some.mpr hget, rfl⟩

theorem WellFormed.size_le_of_hashed (h : m.WellFormed) {value : Option ρ}
    (hget : m.mHashedResources[handle]? = some value) :
    m.mFlatResourcesSize ≤ handle := by
  have hsize := h.size_le
  by_contra hlt
  rw [h.hashed handle (by omega)] at hget
  contradiction

theorem WellFormed.mem_visited (h : m.WellFormed) {slot : FlatSlot ρ} :
    (handle, slot) ∈ m.flatPairs 0 ++ m.hashPairs 0 ↔ m.entry handle = slot ∧
      ∃ value, slot = some value ∧ (handle < m.mFlatResourcesSize → value.isSome) := by
  rw [mem_append, mem_flatPairs, mem_hashPairs, entry]
  constructor
  · rintro (⟨hlt, hslot, resource, rfl⟩ | ⟨value, rfl, hget⟩)
    · rw [if_pos hlt]
      exact ⟨hslot, some resource, rfl, fun _ => rfl⟩
    · have hle := h.size_le_of_hashed hget
      rw [if_neg (by omega)]
      exact ⟨hget, value, rfl, fun hlt => by omega⟩
  · rintro ⟨hentry, value, rfl, hvalue⟩
    split at hentry
    case isTrue hlt =>
      obtain ⟨resource, rfl⟩ := Option.isSome_iff_exists.mp (hvalue hlt)
      exact Or.inl ⟨hlt, hentry, resource, rfl⟩
    case isFalse => exact Or.inr ⟨value, rfl, hentry⟩

theorem WellFormed.nodup_visited (h : m.WellFormed) :
    ((m.flatPairs 0 ++ m.hashPairs 0).map Prod.fst).Nodup := by
  rw [map_append, nodup_append]
  refine ⟨?_, ?_, ?_⟩
  · have hsublist : (m.flatPairs 0).map Prod.fst =
        (range' 0 (m.mFlatResourcesSize - 0)).filter fun index =>
          (m.flat index).join.isSome := by
      rw [flatPairs, map_filterMap, ← filterMap_eq_filter]
      congr 1
      funext index
      cases hslot : (m.flat index).join with
      | none => simp [Option.guard, hslot]
      | some resource => simp [Option.guard, hslot]
    rw [hsublist]
    exact List.Nodup.filter _ nodup_range'
  · rw [hashPairs, drop_zero, map_map]
    refine pairwise_map.mpr (m.mHashedResources.distinct_keys_toList.imp ?_)
    intro pair other hne heq
    exact absurd hne (by simpa using heq)
  · intro handle hflat other hhash
    obtain ⟨⟨handle, slot⟩, hmem, rfl⟩ := mem_map.mp hflat
    obtain ⟨⟨other, slot'⟩, hmem', rfl⟩ := mem_map.mp hhash
    obtain ⟨value, -, hget⟩ := mem_hashPairs.mp hmem'
    have hlt := (mem_flatPairs.mp hmem).1
    have hle := h.size_le_of_hashed hget
    dsimp only
    omega

/-- The iteration shows the entries with a visible value once each, wherever they are stored, and
`empty` says whether there are any. -/
def IteratesOver (m : ResourceMap ρ) (visible : Option ρ → Prop) : Prop :=
  ∃ pairs, m.visited = some pairs ∧ (pairs.map Prod.fst).Nodup ∧
    (∀ handle slot, (handle, slot) ∈ pairs ↔
      ∃ value, slot = some value ∧ m.entry handle = some value ∧ visible value) ∧
    (m.empty ↔ pairs = [])

theorem empty_iff (m : ResourceMap ρ) :
    m.empty ↔ m.flatPairs 0 ++ m.hashPairs 0 = [] := by
  have hvisited := m.visited_eq
  rw [visited, visitFrom] at hvisited
  split at hvisited
  case isTrue hsame => exact iff_of_true hsame (Option.some.inj hvisited).symm
  case isFalse hsame =>
    obtain ⟨rest, -, hcons⟩ := Option.map_eq_some_iff.mp hvisited
    refine iff_of_false hsame fun hnil => ?_
    rw [hnil] at hcons
    exact cons_ne_nil _ _ hcons

/-- The iteration is over the resources exactly when no handle in the hash map is only
reserved. -/
theorem WellFormed.iteratesOver_iff (h : m.WellFormed) :
    m.IteratesOver (fun value => value.isSome) ↔
      ∀ handle : Nat, m.mHashedResources[handle]? ≠ some none := by
  constructor
  · rintro ⟨pairs, hpairs, -, hmem, -⟩ handle hreserved
    cases m.visited_eq.symm.trans hpairs
    have hvisited : (handle, some none) ∈ m.flatPairs 0 ++ m.hashPairs 0 :=
      mem_append_right _ (mem_hashPairs.mpr ⟨none, rfl, hreserved⟩)
    obtain ⟨value, heq, -, hvisible⟩ := (hmem _ _).mp hvisited
    rw [← Option.some.inj heq] at hvisible
    exact Bool.false_ne_true hvisible
  · intro hreserved
    refine ⟨_, m.visited_eq, h.nodup_visited, fun handle slot => ?_, m.empty_iff⟩
    rw [h.mem_visited]
    constructor
    · rintro ⟨hentry, value, rfl, hflat⟩
      refine ⟨value, rfl, hentry, ?_⟩
      rw [entry] at hentry
      split at hentry
      case isTrue hlt => exact hflat hlt
      case isFalse =>
        apply Option.isSome_iff_ne_none.mpr
        rintro rfl
        exact hreserved handle hentry
    · rintro ⟨value, rfl, hentry, hvisible⟩
      exact ⟨hentry, value, rfl, fun _ => hvisible⟩

/-! ## Runs -/

def after (m : ResourceMap ρ) (calls : List (Call ρ)) : ResourceMap ρ :=
  calls.foldl (fun m call => (m.answer call).2) m

def Call.ReservesHashed : Call ρ → Prop
  | .assign handle resource => kFlatResourcesLimit ≤ handle ∧ resource = none
  | _ => False

theorem WellFormed.answer (h : m.WellFormed) (call : Call ρ) : (m.answer call).2.WellFormed := by
  cases call with
  | assign handle resource => exact h.assign handle resource
  | erase handle => exact h.erase handle
  | clear => exact wellFormed_clear m
  | query handle => exact h
  | contains handle => exact h

theorem WellFormed.after (h : m.WellFormed) (calls : List (Call ρ)) :
    (m.after calls).WellFormed := by
  induction calls generalizing m with
  | nil => exact h
  | cons call calls ih => exact ih (h.answer call)

/-- A handle of the hash map that is only reserved was so before, unless the call reserves it. -/
theorem reserved_of_answer {call : Call ρ} (hcall : ¬ call.ReservesHashed)
    (h : (m.answer call).2.mHashedResources[handle]? = some none) :
    m.mHashedResources[handle]? = some none := by
  cases call with
  | assign other resource =>
    change (m.assign other resource).mHashedResources[handle]? = some none at h
    unfold assign at h
    split at h
    case isTrue =>
      dsimp only at h
      unfold grow at h
      split at h
      case isTrue => exact h
      case isFalse => exact h
    case isFalse hlimit =>
      dsimp only at h
      rw [Std.HashMap.getElem?_insert] at h
      split at h
      case isTrue => exact absurd ⟨by omega, Option.some.inj h⟩ hcall
      case isFalse => exact h
  | erase other =>
    change (m.erase other).2.mHashedResources[handle]? = some none at h
    unfold erase at h
    split at h
    case isTrue =>
      split at h
      case h_1 => exact h
      case h_2 => exact h
    case isFalse =>
      split at h
      case h_1 => exact h
      case h_2 =>
        dsimp only at h
        rw [getElem?_erase] at h
        split at h
        case isTrue => contradiction
        case isFalse => exact h
  | clear =>
    change (∅ : Std.HashMap Nat (Option ρ))[handle]? = some none at h
    rw [getElem?_empty] at h
    contradiction
  | query other => exact h
  | contains other => exact h

theorem reserved_of_after {calls : List (Call ρ)} (hcalls : ∀ call ∈ calls, ¬ call.ReservesHashed)
    (h : (m.after calls).mHashedResources[handle]? = some none) :
    m.mHashedResources[handle]? = some none := by
  induction calls generalizing m with
  | nil => exact h
  | cons call calls ih =>
    exact reserved_of_answer (hcalls call mem_cons_self)
      (ih (fun other hother => hcalls other (mem_cons_of_mem _ hother)) h)

/-- Every map a sequence of calls goes through iterates over its resources exactly when no call
reserves a handle from the flat limit on. -/
theorem iteratesOver_after_iff (calls : List (Call ρ)) :
    (∀ done, done <+: calls →
      (({} : ResourceMap ρ).after done).IteratesOver fun value => value.isSome) ↔
      ∀ call ∈ calls, ¬ call.ReservesHashed := by
  constructor
  · intro h call hmem hreserves
    obtain ⟨before, rest, rfl⟩ := append_of_mem hmem
    have hdone := h (before ++ [call]) ⟨rest, by simp⟩
    rw [(wellFormed_new.after _).iteratesOver_iff] at hdone
    cases call with
    | assign handle resource =>
      obtain ⟨hlimit, rfl⟩ := hreserves
      apply hdone handle
      rw [after, foldl_append]
      change ((after {} before).assign handle none).mHashedResources[handle]? = some none
      rw [assign, if_neg (by omega)]
      exact getElem?_insert_self
    | erase handle => exact hreserves
    | clear => exact hreserves
    | query handle => exact hreserves
    | contains handle => exact hreserves
  · intro h done hdone
    rw [(wellFormed_new.after done).iteratesOver_iff]
    intro handle hreserved
    have hnew := reserved_of_after (fun call hcall => h call (hdone.subset hcall)) hreserved
    rw [getElem?_empty] at hnew
    contradiction

/-- With a handle reserved in the array and one in the hash map, no rule on the values says what
is visible. -/
theorem not_iteratesOver_reserved :
    ¬ ∃ visible : Option Nat → Prop, (({} : ResourceMap Nat).after
        [.assign 1 none, .assign kFlatResourcesLimit none]).IteratesOver visible := by
  rintro ⟨visible, pairs, hpairs, -, hmem, -⟩
  cases (visited_eq _).symm.trans hpairs
  have hwell := wellFormed_new.after
    [.assign 1 none, .assign kFlatResourcesLimit (none : Option Nat)]
  have hflat := hmem 1 (some none)
  have hhash := hmem kFlatResourcesLimit (some none)
  rw [hwell.mem_visited] at hflat hhash
  have hentry (handle : Nat) : (({} : ResourceMap Nat).after
      [.assign 1 none, .assign kFlatResourcesLimit none]).entry handle =
        if handle = kFlatResourcesLimit then some none else
          if handle = 1 then some none else none := by
    change ((assign {} 1 none).assign kFlatResourcesLimit none).entry handle = _
    rw [(wellFormed_new.assign 1 none).entry_assign, wellFormed_new.entry_assign, entry_new]
  obtain ⟨value, heq, -, hvisible⟩ := hhash.mp ⟨hentry _, none, rfl, fun hlt =>
    absurd hlt (Nat.not_lt.mpr hwell.size_le)⟩
  cases heq
  obtain ⟨-, value, heq', hsome⟩ := hflat.mpr ⟨none, rfl, hentry 1, hvisible⟩
  cases heq'
  exact absurd (hsome (by decide)) (by decide)

end MetalAngle.Gl.ResourceMap
