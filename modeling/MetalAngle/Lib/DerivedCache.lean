import Mathlib.Data.List.Basic

/-!
# Caches of derived values

A cache keeps values that are derived from a source, each under the key of its derivation.  An entry
that is dirty is derived anew when it is looked up.  Whoever changes the source has to mark the
entries dirty; `Holds` says what a value has to do with the source that there is now.
-/

namespace DerivedCache

variable {Key Value : Type*}

structure Entry (Key Value : Type*) where
  key : Key
  dirty : Bool
  value : Option Value

/-- The entry is dirty, or it has a value that is right. -/
def Entry.Fresh (Holds : Key → Value → Prop) (e : Entry Key Value) : Prop :=
  e.dirty = false → ∃ value, e.value = some value ∧ Holds e.key value

def Coherent (Holds : Key → Value → Prop) (cache : List (Entry Key Value)) : Prop :=
  ∀ e ∈ cache, e.Fresh Holds

def markDirty (cache : List (Entry Key Value)) : List (Entry Key Value) :=
  cache.map fun e => { e with dirty := true, value := none }

/-- The value for a key.  The entry is added if there is none, and if it is dirty the value is the
one that is made, which may fail. -/
def lookup [DecidableEq Key] (key : Key) (make : Option Value) :
    List (Entry Key Value) → List (Entry Key Value) × Option Value
  | [] => ([⟨key, make.isNone, make⟩], make)
  | e :: cache =>
      if e.key = key then
        if e.dirty then (⟨key, make.isNone, make⟩ :: cache, make) else (e :: cache, e.value)
      else (e :: (lookup key make cache).1, (lookup key make cache).2)

variable {Holds Holds' : Key → Value → Prop} {cache : List (Entry Key Value)}

theorem coherent_nil : Coherent Holds ([] : List (Entry Key Value)) :=
  nofun

theorem coherent_cons {e : Entry Key Value} :
    Coherent Holds (e :: cache) ↔ e.Fresh Holds ∧ Coherent Holds cache :=
  List.forall_mem_cons

/-- Entries that are marked dirty are coherent with any source. -/
theorem coherent_markDirty (cache : List (Entry Key Value)) : Coherent Holds (markDirty cache) := by
  intro e he hclean
  obtain ⟨old, -, rfl⟩ := List.mem_map.mp he
  simp at hclean

theorem fresh_made {key : Key} {make : Option Value} (hmake : ∀ value ∈ make, Holds key value) :
    (⟨key, make.isNone, make⟩ : Entry Key Value).Fresh Holds := by
  intro hclean
  cases make with
  | none => exact absurd hclean (by simp)
  | some value => exact ⟨value, rfl, hmake value rfl⟩

theorem Coherent.lookup [DecidableEq Key] {key : Key} {make : Option Value}
    (h : Coherent Holds cache) (hmake : ∀ value ∈ make, Holds key value) :
    Coherent Holds (lookup key make cache).1 ∧
      ∀ value ∈ (DerivedCache.lookup key make cache).2, Holds key value := by
  induction cache with
  | nil => exact ⟨coherent_cons.mpr ⟨fresh_made hmake, coherent_nil⟩, hmake⟩
  | cons e cache ih =>
    obtain ⟨hfresh, hrest⟩ := coherent_cons.mp h
    unfold DerivedCache.lookup
    by_cases hkey : e.key = key
    · rw [if_pos hkey]
      by_cases hdirty : e.dirty
      · rw [if_pos hdirty]
        exact ⟨coherent_cons.mpr ⟨fresh_made hmake, hrest⟩, hmake⟩
      · rw [if_neg hdirty]
        refine ⟨h, fun value hvalue => ?_⟩
        obtain ⟨value', hvalue', hholds⟩ := hfresh (by simpa using hdirty)
        obtain rfl : value' = value := Option.some.inj (hvalue'.symm.trans hvalue)
        exact hkey ▸ hholds
    · rw [if_neg hkey]
      obtain ⟨hcache, hresult⟩ := ih hrest
      exact ⟨coherent_cons.mpr ⟨hfresh, hcache⟩, hresult⟩

/-- A source that has changed behind the back of the cache: the entries that are not dirty have to
be right for it by chance. -/
theorem Coherent.iff_of_changed (h : Coherent Holds cache) :
    Coherent Holds' cache ↔
      ∀ e ∈ cache, e.dirty = false → ∀ value ∈ e.value, Holds e.key value → Holds' e.key value := by
  constructor
  · intro h' e he hclean value hvalue _
    obtain ⟨value', hvalue', hholds⟩ := h' e he hclean
    obtain rfl : value' = value := Option.some.inj (hvalue'.symm.trans hvalue)
    exact hholds
  · intro hsame e he hclean
    obtain ⟨value, hvalue, hholds⟩ := h e he hclean
    exact ⟨value, hvalue, hsame e he hclean value hvalue hholds⟩

end DerivedCache
