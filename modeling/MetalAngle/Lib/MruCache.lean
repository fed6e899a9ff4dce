import Mathlib.Data.List.Nodup

/-!
# Caches in order of use

A list of numbered nodes holds the entries of such a cache, the last one put first, and an index
finds the node of a key.  The index compares keys by a relation `equiv` of its own; where `equiv`
is equality of what `canon` sees of two keys, a look-up finds the entry of an equal key and no
other.
-/

structure MruCache (K P : Type*) where
  ordering : List (Nat × K × P) := []
  index : List (K × Nat) := []
  nodesMade : Nat := 0

namespace MruCache

open List List.Subset Option

variable {K P C : Type*}

section Operations

variable (equiv : K → K → Bool)

def find (c : MruCache K P) (key : K) : Option Nat :=
  (c.index.find? fun entry => equiv entry.1 key).map Prod.snd

def payloadAt (c : MruCache K P) (node : Nat) : Option P :=
  (c.ordering.find? fun entry => entry.1 == node).map fun entry => entry.2.2

def peek (c : MruCache K P) (key : K) : Option P := (c.find equiv key).bind c.payloadAt

def erase (c : MruCache K P) (node : Nat) : MruCache K P :=
  match c.ordering.find? fun entry => entry.1 == node with
  | none => c
  | some (_, key, _) =>
      { c with
        ordering := c.ordering.filter fun entry => entry.1 != node
        index := c.index.filter fun entry => !equiv entry.1 key }

def eraseLast (c : MruCache K P) : Nat → MruCache K P
  | 0 => c
  | n + 1 =>
      match c.ordering.getLast? with
      | none => c
      | some (node, _) => (c.erase equiv node).eraseLast n

def shrinkToSize (c : MruCache K P) (newSize : Nat) : MruCache K P :=
  c.eraseLast equiv (c.index.length - newSize)

def makeRoom (maxSize : Nat) (c : MruCache K P) (key : K) : MruCache K P :=
  match c.find equiv key with
  | some node => c.erase equiv node
  | none => if maxSize ≠ 0 then c.shrinkToSize equiv (maxSize - 1) else c

def put (copy : K → K) (maxSize : Nat) (c : MruCache K P) (key : K) (payload : P) :
    MruCache K P :=
  let c := c.makeRoom equiv maxSize key
  { ordering := (c.nodesMade, copy key, payload) :: c.ordering
    index := if (c.find equiv key).isSome then c.index else (copy key, c.nodesMade) :: c.index
    nodesMade := c.nodesMade + 1 }

def clear (c : MruCache K P) : MruCache K P := { c with ordering := [], index := [] }

end Operations

/-- Each entry of the list has one of the index for an equal key, and the other way round. -/
structure WellFormed (canon : K → C) (good : K → Prop) (c : MruCache K P) : Prop where
  nodes : (c.ordering.map Prod.fst).Nodup
  made : ∀ entry ∈ c.ordering, entry.1 < c.nodesMade
  goodList : ∀ entry ∈ c.ordering, good entry.2.1
  goodIndex : ∀ entry ∈ c.index, good entry.1
  keys : (c.index.map fun entry => canon entry.1).Nodup
  indexed : ∀ entry ∈ c.index, ∃ key payload,
    (entry.2, key, payload) ∈ c.ordering ∧ canon key = canon entry.1
  listed : ∀ entry ∈ c.ordering, ∃ key, (key, entry.1) ∈ c.index ∧ canon key = canon entry.2.1

variable {canon : K → C} {good : K → Prop} {equiv : K → K → Bool} {c : MruCache K P}

theorem wellFormed_clear (canon : K → C) (good : K → Prop) (c : MruCache K P) :
    c.clear.WellFormed canon good where
  nodes := nodup_nil
  made := nofun
  goodList := nofun
  goodIndex := nofun
  keys := nodup_nil
  indexed := nofun
  listed := nofun

variable {key : K} {node : Nat}

theorem find_eq_some (h : c.find equiv key = some node) :
    ∃ entry ∈ c.index, equiv entry.1 key ∧ entry.2 = node := by
  unfold find at h
  obtain ⟨entry, hfind, rfl⟩ := map_eq_some_iff.mp h
  have hsame := find?_some (p := fun entry : K × Nat => equiv entry.1 key) hfind
  exact ⟨entry, mem_of_find?_eq_some hfind, hsame, rfl⟩

theorem find_eq_none_iff :
    c.find equiv key = none ↔ ∀ entry ∈ c.index, ¬ equiv entry.1 key := by
  unfold find
  rw [map_eq_none_iff, find?_eq_none]

namespace WellFormed

section

variable (h : c.WellFormed canon good)
include h

theorem node_unique {e e' : K × P}
    (hmem : (node, e) ∈ c.ordering) (hmem' : (node, e') ∈ c.ordering) : e = e' :=
  (Prod.mk.inj (inj_on_of_nodup_map h.nodes hmem hmem' rfl)).2

theorem index_unique {entry entry' : K × Nat}
    (hmem : entry ∈ c.index) (hmem' : entry' ∈ c.index) (hcanon : canon entry.1 = canon entry'.1) :
    entry = entry' :=
  inj_on_of_nodup_map h.keys hmem hmem' hcanon

theorem payloadAt_eq {payload : P}
    (hmem : (node, key, payload) ∈ c.ordering) : c.payloadAt node = some payload := by
  unfold payloadAt
  cases hfind : c.ordering.find? fun entry => entry.1 == node with
  | none =>
    have hnone := find?_eq_none.mp hfind _ hmem
    exact absurd (beq_self_eq_true node) hnone
  | some entry =>
    obtain ⟨node', e⟩ := entry
    obtain rfl : node' = node := by simpa using find?_some hfind
    rw [h.node_unique (mem_of_find?_eq_some hfind) hmem]
    rfl

end

variable {q : C}

/-- A look-up finds exactly the entries whose key is the same to `canon`. -/
theorem peek_eq_some_iff (h : c.WellFormed canon good)
    (hequiv : ∀ k, good k → (equiv k key ↔ canon k = q)) {payload : P} :
    c.peek equiv key = some payload ↔ ∃ node k, (node, k, payload) ∈ c.ordering ∧ canon k = q := by
  unfold peek
  constructor
  · intro hpeek
    obtain ⟨node, hnode, hpayload⟩ := bind_eq_some_iff.mp hpeek
    obtain ⟨entry, hmem, hsame, rfl⟩ := find_eq_some hnode
    have hcanon := (hequiv _ (h.goodIndex _ hmem)).mp hsame
    obtain ⟨k, payload', hlisted, hk⟩ := h.indexed _ hmem
    cases (h.payloadAt_eq hlisted).symm.trans hpayload
    exact ⟨entry.2, k, hlisted, hk.trans hcanon⟩
  · rintro ⟨node, k, hlisted, hk⟩
    obtain ⟨k', hindex, hk'⟩ := h.listed _ hlisted
    have hq : canon k' = q := hk'.trans hk
    cases hfind : c.find equiv key with
    | none =>
      have hnone := find_eq_none_iff.mp hfind _ hindex
      exact absurd ((hequiv _ (h.goodIndex _ hindex)).mpr hq) hnone
    | some node' =>
      obtain ⟨entry, hmem, hsame, rfl⟩ := find_eq_some hfind
      have hcanon := (hequiv _ (h.goodIndex _ hmem)).mp hsame
      rw [h.index_unique hmem hindex (hcanon.trans hq.symm), bind_some]
      exact h.payloadAt_eq hlisted

variable (hequiv : ∀ k k', good k → good k' → (equiv k k' ↔ canon k = canon k'))

include hequiv

section

variable (h : c.WellFormed canon good)
include h

theorem erase (node : Nat) :
    (c.erase equiv node).WellFormed canon good ∧
      (c.erase equiv node).ordering ⊆ c.ordering ∧ (c.erase equiv node).index ⊆ c.index := by
  unfold MruCache.erase
  split
  case h_1 => exact ⟨h, refl _, refl _⟩
  case h_2 node' key payload hfind =>
    obtain rfl : node' = node := by simpa using find?_some hfind
    have herased := mem_of_find?_eq_some hfind
    refine ⟨?_, filter_subset_self _, filter_subset_self _⟩
    refine {
      nodes := h.nodes.sublist (filter_sublist.map _)
      made := fun entry hentry => h.made _ (mem_of_mem_filter hentry)
      goodList := fun entry hentry => h.goodList _ (mem_of_mem_filter hentry)
      goodIndex := fun entry hentry => h.goodIndex _ (mem_of_mem_filter hentry)
      keys := h.keys.sublist (filter_sublist.map _)
      indexed := ?indexed
      listed := ?listed }
    case indexed =>
      intro entry hentry
      obtain ⟨hmem, hother⟩ := mem_filter.mp hentry
      obtain ⟨k, payload', hlisted, hk⟩ := h.indexed _ hmem
      refine ⟨k, payload', mem_filter.mpr ⟨hlisted, ?_⟩, hk⟩
      -- the node of another key is not the one that goes
      rw [bne_iff_ne]
      intro hnode
      dsimp only at hnode
      rw [hnode] at hlisted
      obtain ⟨rfl, -⟩ := Prod.mk.inj (h.node_unique hlisted herased)
      rw [(hequiv _ _ (h.goodIndex _ hmem) (h.goodList _ herased)).mpr hk.symm] at hother
      contradiction
    case listed =>
      intro entry hentry
      obtain ⟨hmem, hother⟩ := mem_filter.mp hentry
      obtain ⟨k, hindex, hk⟩ := h.listed _ hmem
      refine ⟨k, mem_filter.mpr ⟨hindex, ?_⟩, hk⟩
      rw [Bool.not_eq_true']
      apply Bool.eq_false_iff.mpr
      intro hsame
      have hcanon := (hequiv _ _ (h.goodIndex _ hindex) (h.goodList _ herased)).mp hsame
      obtain ⟨k', hindex', hk'⟩ := h.listed _ herased
      obtain ⟨-, hnode⟩ := Prod.mk.inj (h.index_unique hindex hindex' (hcanon.trans hk'.symm))
      exact absurd hnode (bne_iff_ne.mp hother)

theorem eraseLast (n : Nat) :
    (c.eraseLast equiv n).WellFormed canon good ∧
      (c.eraseLast equiv n).ordering ⊆ c.ordering ∧ (c.eraseLast equiv n).index ⊆ c.index := by
  induction n generalizing c with
  | zero => exact ⟨h, refl _, refl _⟩
  | succ n ih =>
    unfold MruCache.eraseLast
    split
    case h_1 => exact ⟨h, refl _, refl _⟩
    case h_2 node _ _ =>
      obtain ⟨herased, hordering, hindex⟩ := h.erase hequiv node
      obtain ⟨hrest, hordering', hindex'⟩ := ih herased
      exact ⟨hrest, List.Subset.trans hordering' hordering, List.Subset.trans hindex' hindex⟩

/-- The room is made by dropping entries, after which the key has none. -/
theorem makeRoom (maxSize : Nat)
    (hkey : ∀ k, good k → (equiv k key ↔ canon k = q)) :
    (c.makeRoom equiv maxSize key).WellFormed canon good ∧
      (c.makeRoom equiv maxSize key).ordering ⊆ c.ordering ∧
      ∀ entry ∈ (c.makeRoom equiv maxSize key).index, canon entry.1 ≠ q := by
  unfold MruCache.makeRoom
  split
  case h_1 node hnode =>
    obtain ⟨entry, hmem, hfound, rfl⟩ := find_eq_some hnode
    have hcanon := (hkey _ (h.goodIndex _ hmem)).mp hfound
    obtain ⟨k, payload, hlisted, hk⟩ := h.indexed _ hmem
    obtain ⟨herased, hordering, hindex⟩ := h.erase hequiv entry.2
    refine ⟨herased, hordering, fun other hother hsame => ?_⟩
    -- an entry of this key would have the node that was erased
    obtain rfl := h.index_unique (hindex hother) hmem (hsame.trans hcanon.symm)
    obtain ⟨k', payload', hkept, -⟩ := herased.indexed _ hother
    unfold MruCache.erase at hkept
    split at hkept
    case h_1 hnone =>
      exact absurd (beq_self_eq_true other.2) (find?_eq_none.mp hnone _ hlisted)
    case h_2 =>
      exact absurd rfl (bne_iff_ne.mp (mem_filter.mp hkept).2)
  case h_2 hnone =>
    have habsent : ∀ entry ∈ c.index, canon entry.1 ≠ q := fun entry hentry hsame =>
      find_eq_none_iff.mp hnone _ hentry ((hkey _ (h.goodIndex _ hentry)).mpr hsame)
    split
    · obtain ⟨hshrunk, hordering, hindex⟩ :=
        h.eraseLast hequiv (c.index.length - (maxSize - 1))
      exact ⟨hshrunk, hordering, fun entry hentry => habsent entry (hindex hentry)⟩
    · exact ⟨h, refl _, habsent⟩

/-- The cache has the new entry and, besides, only entries it had before. -/
theorem put (maxSize : Nat) {copy : K → K}
    (hkey : ∀ k, good k → (equiv k key ↔ canon k = q)) (hcopy : good (copy key))
    (hcanon : canon (copy key) = q) (payload : P) :
    (c.put equiv copy maxSize key payload).WellFormed canon good ∧
      ∀ entry ∈ (c.put equiv copy maxSize key payload).ordering,
        entry.2 = (copy key, payload) ∨ entry ∈ c.ordering := by
  obtain ⟨hroom, hordering, habsent⟩ := h.makeRoom hequiv maxSize hkey
  unfold MruCache.put
  generalize c.makeRoom equiv maxSize key = room at hroom hordering habsent
  have hnone : room.find equiv key = none := find_eq_none_iff.mpr fun entry hentry hsame =>
    habsent entry hentry ((hkey _ (hroom.goodIndex _ hentry)).mp hsame)
  dsimp only
  rw [hnone, isSome_none, if_neg Bool.false_ne_true]
  have hfresh : ∀ entry ∈ room.ordering, entry.1 ≠ room.nodesMade :=
    fun entry hentry => Nat.ne_of_lt (hroom.made entry hentry)
  refine ⟨{
    nodes := ?nodes
    made := ?made
    goodList := ?goodList
    goodIndex := ?goodIndex
    keys := ?keys
    indexed := ?indexed
    listed := ?listed }, ?_⟩
  case nodes =>
    rw [map_cons, nodup_cons]
    refine ⟨fun hmem => ?_, hroom.nodes⟩
    obtain ⟨entry, hentry, hnode⟩ := mem_map.mp hmem
    exact hfresh entry hentry hnode
  case made =>
    intro entry hentry
    rcases mem_cons.mp hentry with rfl | hentry
    · exact Nat.lt_succ_self _
    · exact Nat.lt_succ_of_lt (hroom.made entry hentry)
  case goodList =>
    intro entry hentry
    rcases mem_cons.mp hentry with rfl | hentry
    · exact hcopy
    · exact hroom.goodList entry hentry
  case goodIndex =>
    intro entry hentry
    rcases mem_cons.mp hentry with rfl | hentry
    · exact hcopy
    · exact hroom.goodIndex entry hentry
  case keys =>
    rw [map_cons, nodup_cons]
    refine ⟨fun hmem => ?_, hroom.keys⟩
    obtain ⟨entry, hentry, hsame⟩ := mem_map.mp hmem
    exact habsent entry hentry (hsame.trans hcanon)
  case indexed =>
    intro entry hentry
    rcases mem_cons.mp hentry with rfl | hentry
    · exact ⟨copy key, payload, mem_cons_self, rfl⟩
    · obtain ⟨k, payload', hlisted, hk⟩ := hroom.indexed entry hentry
      exact ⟨k, payload', mem_cons_of_mem _ hlisted, hk⟩
  case listed =>
    intro entry hentry
    rcases mem_cons.mp hentry with rfl | hentry
    · exact ⟨copy key, mem_cons_self, rfl⟩
    · obtain ⟨k, hindex, hk⟩ := hroom.listed entry hentry
      exact ⟨k, mem_cons_of_mem _ hindex, hk⟩
  · intro entry hentry
    rcases mem_cons.mp hentry with rfl | hentry
    · exact Or.inl rfl
    · exact Or.inr (hordering hentry)

end

end WellFormed

end MruCache
