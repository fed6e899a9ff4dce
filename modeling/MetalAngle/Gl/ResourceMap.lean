import Mathlib.Data.Finmap
import Std.Data.HashMap.Lemmas
import Mathlib.Tactic

/-!
# `ResourceMap` is a finite map

Handles below `kFlatResourcesLimit` live in a flat array that doubles until it reaches the limit,
the others in a hash map.  A resource is none when it is null, which stands for a reserved
handle.
-/

namespace MetalAngle.Gl

open Std.HashMap Option Finmap

variable {ρ : Type*}

def kInitialFlatResourcesSize : Nat := 0x20

def kFlatResourcesLimit : Nat := 0x4000

/-- An element of the flat array; none is `InvalidPointer()`. -/
abbrev FlatSlot (ρ : Type*) := Option (Option ρ)

/-- The array may be longer than `mFlatResourcesSize`, after a `clear`. -/
structure ResourceMap (ρ : Type*) where
  mFlatResourcesSize : Nat := kInitialFlatResourcesSize
  mFlatResources : List (FlatSlot ρ) := List.replicate kInitialFlatResourcesSize none
  mHashedResources : Std.HashMap Nat (Option ρ) := ∅

namespace ResourceMap

def flat (m : ResourceMap ρ) (index : Nat) : FlatSlot ρ := (m.mFlatResources[index]?).join

def query (m : ResourceMap ρ) (handle : Nat) : Option ρ :=
  if handle < m.mFlatResourcesSize then (m.flat handle).join
  else m.mHashedResources[handle]?.join

def contains (m : ResourceMap ρ) (handle : Nat) : Bool :=
  if handle < m.mFlatResourcesSize then (m.flat handle).isSome
  else m.mHashedResources[handle]?.isSome

/-- `erase`: what it puts into `resourceOut`, or none when it returns false. -/
def erase (m : ResourceMap ρ) (handle : Nat) : Option (Option ρ) × ResourceMap ρ :=
  if handle < m.mFlatResourcesSize then
    match m.flat handle with
    | none => (none, m)
    | some value => (some value, { m with mFlatResources := m.mFlatResources.set handle none })
  else
    match m.mHashedResources[handle]? with
    | none => (none, m)
    | some value => (some value, { m with mHashedResources := m.mHashedResources.erase handle })

def growSize (newSize handle : Nat) : Nat :=
  if 0 < newSize ∧ newSize ≤ handle then growSize (newSize * 2) handle else newSize
termination_by handle + 1 - newSize

def grow (m : ResourceMap ρ) (handle : Nat) : ResourceMap ρ :=
  if m.mFlatResourcesSize ≤ handle then
    let newSize := growSize m.mFlatResourcesSize handle
    { m with
      mFlatResourcesSize := newSize
      mFlatResources := m.mFlatResources.take m.mFlatResourcesSize ++
        List.replicate (newSize - m.mFlatResourcesSize) none }
  else m

def assign (m : ResourceMap ρ) (handle : Nat) (resource : Option ρ) : ResourceMap ρ :=
  if handle < kFlatResourcesLimit then
    let m := m.grow handle
    { m with mFlatResources := m.mFlatResources.set handle (some resource) }
  else { m with mHashedResources := m.mHashedResources.insert handle resource }

def clear (m : ResourceMap ρ) : ResourceMap ρ where
  mFlatResourcesSize := kInitialFlatResourcesSize
  mFlatResources := List.replicate kInitialFlatResourcesSize none ++
    m.mFlatResources.drop kInitialFlatResourcesSize
  mHashedResources := ∅

def resources (m : ResourceMap ρ) : List ρ :=
  (m.mFlatResources.take m.mFlatResourcesSize).filterMap Option.join ++
    m.mHashedResources.toList.filterMap Prod.snd

/-! ## The map of the entries -/

def entry (m : ResourceMap ρ) (handle : Nat) : Option (Option ρ) :=
  if handle < m.mFlatResourcesSize then m.flat handle else m.mHashedResources[handle]?

/-- The size is a power of two up to the limit, and no handle below the limit is hashed. -/
structure WellFormed (m : ResourceMap ρ) : Prop where
  size : ∃ k ≤ 9, m.mFlatResourcesSize = kInitialFlatResourcesSize * 2 ^ k
  length : m.mFlatResourcesSize ≤ m.mFlatResources.length
  hashed : ∀ handle < kFlatResourcesLimit, m.mHashedResources[handle]? = none

variable {m : ResourceMap ρ} {handle : Nat}

theorem WellFormed.size_le (h : m.WellFormed) : m.mFlatResourcesSize ≤ kFlatResourcesLimit := by
  obtain ⟨k, hk, hsize⟩ := h.size
  calc m.mFlatResourcesSize
    _ = kInitialFlatResourcesSize * 2 ^ k := hsize
    _ ≤ kInitialFlatResourcesSize * 2 ^ 9 :=
      Nat.mul_le_mul_left _ (Nat.pow_le_pow_right (by decide) hk)
    _ = kFlatResourcesLimit := by decide

theorem query_eq (m : ResourceMap ρ) (handle : Nat) : m.query handle = (m.entry handle).join := by
  unfold query entry
  split
  · rfl
  · rfl

theorem contains_eq (m : ResourceMap ρ) (handle : Nat) :
    m.contains handle = (m.entry handle).isSome := by
  unfold contains entry
  split
  · rfl
  · rfl

theorem erase_fst (m : ResourceMap ρ) (handle : Nat) : (m.erase handle).1 = m.entry handle := by
  unfold erase entry
  split
  · split
    case h_1 hnone => exact hnone.symm
    case h_2 hsome => exact hsome.symm
  · split
    case h_1 hnone => exact hnone.symm
    case h_2 hsome => exact hsome.symm

theorem WellFormed.mem_resources (h : m.WellFormed) {resource : ρ} :
    resource ∈ m.resources ↔ ∃ handle, m.query handle = some resource := by
  have hflat : resource ∈ (m.mFlatResources.take m.mFlatResourcesSize).filterMap join ↔
      ∃ handle < m.mFlatResourcesSize, (m.flat handle).join = some resource := by
    rw [List.mem_filterMap]
    constructor
    · rintro ⟨slot, hslot, hjoin⟩
      obtain ⟨handle, hget⟩ := List.mem_iff_getElem?.mp hslot
      rw [List.getElem?_take] at hget
      obtain ⟨hlt, hget⟩ := ite_none_right_eq_some.mp hget
      refine ⟨handle, hlt, ?_⟩
      rw [flat, hget]
      exact hjoin
    · rintro ⟨handle, hlt, hjoin⟩
      have hget : m.flat handle = some (some resource) := join_eq_some_iff.mp hjoin
      have hslot := join_eq_some_iff.mp hget
      refine ⟨some (some resource), List.mem_iff_getElem?.mpr ⟨handle, ?_⟩, rfl⟩
      rw [List.getElem?_take_of_lt hlt, hslot]
  have hhashed : resource ∈ m.mHashedResources.toList.filterMap Prod.snd ↔
      ∃ handle : Nat, m.mHashedResources[handle]? = some (some resource) := by
    rw [List.mem_filterMap]
    constructor
    · rintro ⟨⟨handle, value⟩, hmem, rfl⟩
      exact ⟨handle, mem_toList_iff_getElem?_eq_some.mp hmem⟩
    · rintro ⟨handle, hget⟩
      exact ⟨(handle, some resource), mem_toList_iff_getElem?_eq_some.mpr hget, rfl⟩
  rw [resources, List.mem_append, hflat, hhashed]
  unfold query
  constructor
  · rintro (⟨handle, hlt, hjoin⟩ | ⟨handle, hget⟩)
    · exact ⟨handle, by rwa [if_pos hlt]⟩
    · have hsize := h.size_le
      have hlarge : ¬ handle < m.mFlatResourcesSize := fun hlt => by
        rw [h.hashed handle (by omega)] at hget
        contradiction
      exact ⟨handle, by rw [if_neg hlarge, hget]; rfl⟩
  · rintro ⟨handle, hquery⟩
    split at hquery
    case isTrue hlt => exact Or.inl ⟨handle, hlt, hquery⟩
    case isFalse => exact Or.inr ⟨handle, join_eq_some_iff.mp hquery⟩

theorem wellFormed_new : ({} : ResourceMap ρ).WellFormed where
  size := ⟨0, Nat.zero_le 9, rfl⟩
  length := by simp
  hashed := fun handle _ => getElem?_empty

theorem entry_new (handle : Nat) : ({} : ResourceMap ρ).entry handle = none := by
  unfold entry flat
  split
  · apply join_eq_none_iff.mpr
    by_cases hin : handle < kInitialFlatResourcesSize
    · exact Or.inr (List.getElem?_replicate_of_lt hin)
    · exact Or.inl (List.getElem?_eq_none (by simpa using hin))
  · exact getElem?_empty

/-! ## Growth -/

theorem growSize_spec (handle : Nat) {newSize : Nat} (hpos : 0 < newSize) :
    handle < growSize newSize handle ∧ ∃ j, growSize newSize handle = newSize * 2 ^ j ∧
        (j = 0 ∨ newSize * 2 ^ j ≤ 2 * handle) := by
  induction newSize using growSize.induct handle with
  | case1 newSize hgrow ih =>
    obtain ⟨hlt, j, hj, hbound⟩ := ih (by omega)
    have hdouble : newSize * 2 * 2 ^ j = newSize * 2 ^ (j + 1) := by ring
    rw [growSize, if_pos hgrow]
    refine ⟨hlt, j + 1, hj.trans hdouble, Or.inr ?_⟩
    rw [← hdouble]
    rcases hbound with hzero | hle
    · rw [hzero, Nat.pow_zero]
      omega
    · exact hle
  | case2 newSize hstop =>
    rw [growSize, if_neg hstop]
    exact ⟨by omega, 0, by simp, Or.inl rfl⟩

/-- Below the limit the array grows to hold the handle, and stays within the limit. -/
theorem WellFormed.grow (h : m.WellFormed) (hlimit : handle < kFlatResourcesLimit) :
    (m.grow handle).WellFormed ∧ handle < (m.grow handle).mFlatResourcesSize := by
  unfold ResourceMap.grow
  split
  case isFalse hfits =>
    exact ⟨h, by omega⟩
  case isTrue hle =>
    obtain ⟨k, hk, hsize⟩ := h.size
    have hlength := h.length
    have hpos : 0 < m.mFlatResourcesSize := by
      rw [hsize]
      exact Nat.mul_pos (by decide) (Nat.pow_pos (by decide))
    obtain ⟨hlt, j, hj, hbound⟩ := growSize_spec handle hpos
    have hpower : growSize m.mFlatResourcesSize handle =
        kInitialFlatResourcesSize * 2 ^ (k + j) := by
      rw [hj, hsize, Nat.mul_assoc, ← Nat.pow_add]
    refine ⟨⟨⟨k + j, ?_, hpower⟩, ?_, h.hashed⟩, hlt⟩
    · rcases hbound with hzero | hdouble
      · omega
      -- the last doubling started from a size of at most the handle
      · by_contra hlarge
        have hten : 2 ^ 10 ≤ 2 ^ (k + j) := Nat.pow_le_pow_right (by decide) (by omega)
        rw [← hj, hpower] at hdouble
        unfold kInitialFlatResourcesSize at hdouble
        unfold kFlatResourcesLimit at hlimit
        omega
    · simp only [List.length_append, List.length_take, List.length_replicate]
      omega

theorem WellFormed.entry_grow (h : m.WellFormed) (hlimit : handle < kFlatResourcesLimit)
    (other : Nat) :
    (m.grow handle).entry other = m.entry other := by
  have hgrown := h.grow hlimit
  unfold ResourceMap.grow at hgrown ⊢
  split
  case isFalse => rfl
  case isTrue hle =>
    rw [if_pos hle] at hgrown
    have hlength := h.length
    have hsize := hgrown.1.size_le
    have hlt := hgrown.2
    dsimp only at hsize hlt
    unfold entry flat
    dsimp only
    by_cases hold : other < m.mFlatResourcesSize
    · rw [if_pos (by omega), if_pos hold,
        List.getElem?_append_left (by rw [List.length_take]; omega),
        List.getElem?_take_of_lt hold]
    · rw [if_neg hold]
      split
      -- what the array gained is invalid, and no handle below the limit is hashed
      case isTrue hnew =>
        rw [h.hashed other (by omega), List.getElem?_append_right (by rw [List.length_take]; omega),
          List.length_take, List.getElem?_replicate_of_lt (by omega)]
        rfl
      case isFalse => rfl

/-! ## The mutators -/

theorem flat_set {index : Nat} (hindex : index < m.mFlatResources.length) (slot : FlatSlot ρ)
    (other : Nat) :
    ({ m with mFlatResources := m.mFlatResources.set index slot } : ResourceMap ρ).flat other =
      if index = other then slot else m.flat other := by
  unfold flat
  dsimp only
  rw [List.getElem?_set]
  split
  case isTrue => rfl
  case isFalse => rfl

theorem WellFormed.assign (h : m.WellFormed) (handle : Nat) (resource : Option ρ) :
    (m.assign handle resource).WellFormed := by
  unfold ResourceMap.assign
  split
  case isTrue hlimit =>
    obtain ⟨hgrown, -⟩ := h.grow hlimit
    exact ⟨hgrown.size, by simpa using hgrown.length, hgrown.hashed⟩
  case isFalse hlimit =>
    refine ⟨h.size, h.length, fun other hother => ?_⟩
    rw [getElem?_insert, if_neg (by simp; omega)]
    exact h.hashed other hother

theorem WellFormed.entry_assign (h : m.WellFormed) (handle : Nat) (resource : Option ρ)
    (other : Nat) :
    (m.assign handle resource).entry other =
      if other = handle then some resource else m.entry other := by
  unfold ResourceMap.assign
  split
  case isTrue hlimit =>
    obtain ⟨hgrown, hlt⟩ := h.grow hlimit
    have hlength := hgrown.length
    rw [← h.entry_grow hlimit other]
    unfold entry
    dsimp only
    rw [flat_set (by omega)]
    by_cases heq : other = handle
    · rw [if_pos heq, if_pos heq.symm, heq, if_pos hlt]
    · rw [if_neg heq, if_neg (Ne.symm heq)]
  case isFalse hlimit =>
    have hsize := h.size_le
    unfold entry
    dsimp only
    rw [getElem?_insert]
    by_cases heq : other = handle
    · rw [if_pos heq, if_neg (by omega), if_pos (by simp [heq])]
    · rw [if_neg heq, if_neg (c := (handle == other) = true) (by simp [Ne.symm heq])]
      rfl

theorem WellFormed.erase (h : m.WellFormed) (handle : Nat) :
    (m.erase handle).2.WellFormed := by
  unfold ResourceMap.erase
  split
  · split
    case h_1 => exact h
    case h_2 => exact ⟨h.size, by simpa using h.length, h.hashed⟩
  · split
    case h_1 => exact h
    case h_2 =>
      refine ⟨h.size, h.length, fun other hother => ?_⟩
      rw [getElem?_erase]
      split
      · rfl
      · exact h.hashed other hother

theorem WellFormed.entry_erase (h : m.WellFormed) (handle other : Nat) :
    (m.erase handle).2.entry other = if other = handle then none else m.entry other := by
  have hlength := h.length
  have habsent (hnone : m.entry handle = none) :
      m.entry other = if other = handle then none else m.entry other := by
    split
    case isTrue heq => rw [heq, hnone]
    case isFalse => rfl
  unfold ResourceMap.erase
  split
  case isTrue hflat =>
    split
    case h_1 hnone =>
      apply habsent
      rw [entry, if_pos hflat, hnone]
    case h_2 =>
      unfold entry
      dsimp only
      rw [flat_set (by omega)]
      by_cases heq : other = handle
      · rw [if_pos heq, if_pos heq.symm, heq, if_pos hflat]
      · rw [if_neg heq, if_neg (Ne.symm heq)]
  case isFalse hhashed =>
    split
    case h_1 hnone =>
      apply habsent
      rw [entry, if_neg hhashed, hnone]
    case h_2 =>
      unfold entry
      dsimp only
      rw [getElem?_erase]
      by_cases heq : other = handle
      · rw [if_pos heq, heq, if_neg hhashed, if_pos (by simp)]
      · rw [if_neg heq, if_neg (c := (handle == other) = true) (by simp [Ne.symm heq])]
        rfl

theorem wellFormed_clear (m : ResourceMap ρ) : m.clear.WellFormed where
  size := ⟨0, Nat.zero_le 9, rfl⟩
  length := by simp [ResourceMap.clear]
  hashed := fun handle _ => getElem?_empty

/-- What the array holds past the initial size is out of reach after a `clear`. -/
theorem entry_clear (m : ResourceMap ρ) (handle : Nat) : m.clear.entry handle = none := by
  unfold entry flat ResourceMap.clear
  dsimp only
  split
  case isTrue hlt =>
    rw [List.getElem?_append_left (by simpa using hlt), List.getElem?_replicate_of_lt hlt]
    rfl
  case isFalse => exact getElem?_empty

/-! ## The finite map -/

/-- The finite map from handles to pointers that a `ResourceMap` stands for. -/
abbrev Model (ρ : Type*) := Finmap fun _ : Nat => Option ρ

inductive Call (ρ : Type*)
  | assign (handle : Nat) (resource : Option ρ)
  | erase (handle : Nat)
  | clear
  | query (handle : Nat)
  | contains (handle : Nat)

/-- What a call returns; a failed `erase` puts nothing into `resourceOut`. -/
inductive Answer (ρ : Type*)
  | done
  | erased (resourceOut : Option (Option ρ))
  | resource (value : Option ρ)
  | present (value : Bool)

def answer (m : ResourceMap ρ) : Call ρ → Answer ρ × ResourceMap ρ
  | .assign handle resource => (.done, m.assign handle resource)
  | .erase handle => (.erased (m.erase handle).1, (m.erase handle).2)
  | .clear => (.done, m.clear)
  | .query handle => (.resource (m.query handle), m)
  | .contains handle => (.present (m.contains handle), m)

def Model.answer (f : Model ρ) : Call ρ → Answer ρ × Model ρ
  | .assign handle resource => (.done, f.insert handle resource)
  | .erase handle => (.erased (f.lookup handle), f.erase handle)
  | .clear => (.done, ∅)
  | .query handle => (.resource (f.lookup handle).join, f)
  | .contains handle => (.present (f.lookup handle).isSome, f)

def answers {σ : Type*} (next : σ → Call ρ → Answer ρ × σ) : σ → List (Call ρ) → List (Answer ρ)
  | _, [] => []
  | s, call :: calls => (next s call).1 :: answers next (next s call).2 calls

/-- The map is well formed and has the entries of the finite map. -/
structure Refines (m : ResourceMap ρ) (f : Model ρ) : Prop where
  wellFormed : m.WellFormed
  entry_eq : ∀ handle, m.entry handle = f.lookup handle

theorem Refines.answer {f : Model ρ} (h : Refines m f) (call : Call ρ) :
    (m.answer call).1 = (f.answer call).1 ∧ Refines (m.answer call).2 (f.answer call).2 := by
  cases call with
  | assign handle resource =>
    refine ⟨rfl, h.wellFormed.assign handle resource, fun other => ?_⟩
    change (m.assign handle resource).entry other = (f.insert handle resource).lookup other
    rw [h.wellFormed.entry_assign]
    split
    case isTrue heq => rw [heq, lookup_insert]
    case isFalse hne => rw [lookup_insert_of_ne f hne, h.entry_eq]
  | erase handle =>
    refine ⟨?_, h.wellFormed.erase handle, fun other => ?_⟩
    · change Answer.erased (m.erase handle).1 = Answer.erased (f.lookup handle)
      rw [erase_fst, h.entry_eq]
    · change (m.erase handle).2.entry other = (f.erase handle).lookup other
      rw [h.wellFormed.entry_erase]
      split
      case isTrue heq => rw [heq, lookup_erase]
      case isFalse hne => rw [lookup_erase_ne hne, h.entry_eq]
  | clear =>
    refine ⟨rfl, wellFormed_clear m, fun other => ?_⟩
    change m.clear.entry other = (∅ : Model ρ).lookup other
    rw [entry_clear, lookup_empty]
  | query handle =>
    refine ⟨?_, h⟩
    change Answer.resource (m.query handle) = Answer.resource (f.lookup handle).join
    rw [query_eq, h.entry_eq]
  | contains handle =>
    refine ⟨?_, h⟩
    change Answer.present (m.contains handle) = Answer.present (f.lookup handle).isSome
    rw [contains_eq, h.entry_eq]

theorem refines_new : Refines ({} : ResourceMap ρ) ∅ where
  wellFormed := wellFormed_new
  entry_eq := fun handle => by rw [entry_new, lookup_empty]

theorem Refines.answers {f : Model ρ} (h : Refines m f) (calls : List (Call ρ)) :
    answers ResourceMap.answer m calls = ResourceMap.answers Model.answer f calls := by
  induction calls generalizing m f with
  | nil => rfl
  | cons call calls ih =>
    obtain ⟨hanswer, hnext⟩ := h.answer call
    unfold ResourceMap.answers
    rw [hanswer, ih hnext]

/-- Every sequence of calls on a new map gets the answers of the finite map. -/
theorem answers_eq (calls : List (Call ρ)) :
    answers ResourceMap.answer ({} : ResourceMap ρ) calls =
      answers Model.answer (∅ : Model ρ) calls :=
  refines_new.answers calls

end ResourceMap

end MetalAngle.Gl
