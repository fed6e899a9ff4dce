import Mathlib.Data.List.TakeWhile
import MetalAngle.Lib.ClosedRange
import MetalAngle.Lib.LabelledRun
import MetalAngle.Lib.StdHeap

/-!
# `HandleAllocator`

The free handles are those that were never allocated, kept as ranges, and the released ones,
kept in a heap.  Together with the live handles they partition the handles up to the maximum.
-/

namespace MetalAngle.Gl

open ClosedRange List Option Nat

/-- `std::numeric_limits<GLuint>::max()`. -/
def maxGLuint : Nat := 2 ^ 32 - 1

/-- The allocator, with its `HandleRange`s in order. -/
structure HandleAllocator where
  mUnallocatedList : List ClosedRange
  mReleasedList : List Nat := []
  mLoggingEnabled : Bool := false

namespace HandleAllocator

def new (maximumHandleValue : Nat) : HandleAllocator where
  mUnallocatedList := [⟨1, maximumHandleValue⟩]

/-- `allocate`, or none when its assertion that a handle is free fails. -/
def allocate (heap : StdHeap) (a : HandleAllocator) : Option (Nat × HandleAllocator) :=
  if a.mReleasedList ≠ [] then
    let popped := heap.popHeap a.mReleasedList
    popped.getLast?.map fun reusedHandle =>
      (reusedHandle, { a with mReleasedList := popped.dropLast })
  else
    match a.mUnallocatedList with
    | [] => none
    | range :: rest =>
        if range.first = range.last then
          some (range.first, { a with mUnallocatedList := rest })
        else
          some (range.first,
            { a with mUnallocatedList := ⟨(range.first + 1) % 2 ^ 32, range.last⟩ :: rest })

def release (heap : StdHeap) (a : HandleAllocator) (handle : Nat) : HandleAllocator :=
  { a with mReleasedList := heap.pushHeap (a.mReleasedList ++ [handle]) }

/-- Taking a handle out of the range that the search has found, or none when the assertion that
it lies there fails. -/
def reserveInRange (handle : Nat) (range : ClosedRange) : Option (List ClosedRange) :=
  if handle = range.first ∨ handle = range.last then
    if range.first = range.last then some []
    else if handle = range.first then some [⟨(range.first + 1) % 2 ^ 32, range.last⟩]
    else some [⟨range.first, range.last - 1⟩]
  else if range.first < handle ∧ handle < range.last then
    some [⟨range.first, handle - 1⟩, ⟨(handle + 1) % 2 ^ 32, range.last⟩]
  else none

def reserve (heap : StdHeap) (a : HandleAllocator) (handle : Nat) : Option HandleAllocator :=
  if handle ∈ a.mReleasedList then
    some { a with mReleasedList := heap.makeHeap (a.mReleasedList.erase handle) }
  else
    match a.mUnallocatedList.dropWhile fun range => range.last < handle with
    | [] => none
    | range :: after =>
        (reserveInRange handle range).map fun kept =>
          { a with
            mUnallocatedList :=
              (a.mUnallocatedList.takeWhile fun range => range.last < handle) ++ (kept ++ after) }

def reset (a : HandleAllocator) : HandleAllocator :=
  { a with
    mUnallocatedList := [⟨1, maxGLuint⟩]
    mReleasedList := [] }

def enableLogging (a : HandleAllocator) (enabled : Bool) : HandleAllocator :=
  { a with mLoggingEnabled := enabled }

/-! ## The partition -/

/-- The live, released and unallocated handles partition the handles from 1 to the maximum. -/
structure Partition (a : HandleAllocator) (max : Nat) (live : Nat → Prop) : Prop where
  cover : ∀ h, 1 ≤ h ∧ h ≤ max ↔ live h ∨ h ∈ a.mReleasedList ∨ Covers a.mUnallocatedList h
  released_not_live : ∀ h ∈ a.mReleasedList, ¬ live h
  unallocated_not_live : ∀ h, Covers a.mUnallocatedList h → ¬ live h
  released_not_unallocated : ∀ h ∈ a.mReleasedList, ¬ Covers a.mUnallocatedList h
  released_nodup : a.mReleasedList.Nodup
  unallocated_separated : Separated 0 a.mUnallocatedList

/-- The partition, with the released handles in a heap. -/
structure Sound (a : HandleAllocator) (max : Nat) (live : Nat → Prop) : Prop
    extends a.Partition max live where
  heap : IsHeap a.mReleasedList

variable {heap : StdHeap} {a a' : HandleAllocator} {max handle : Nat} {live : Nat → Prop}

theorem sound_full (hpos : 0 < max) (hreleased : a.mReleasedList = [])
    (hunallocated : a.mUnallocatedList = [⟨1, max⟩]) (hlive : ∀ h, ¬ live h) :
    a.Sound max live where
  cover := fun h => by
    rw [hreleased, hunallocated]
    simp [hlive, Contains]
  released_not_live := fun h _ => hlive h
  unallocated_not_live := fun h _ => hlive h
  released_not_unallocated := fun h hh => by
    rw [hreleased] at hh
    contradiction
  released_nodup := by
    rw [hreleased]
    exact nodup_nil
  unallocated_separated := by
    rw [hunallocated]
    exact separated_singleton 0 hpos
  heap := by
    rw [hreleased]
    exact isHeap_nil

/-- A handle moves from the released ones to the live ones. -/
theorem Sound.useReleased (h : a.Sound max live) {released : List Nat} (hheap : IsHeap released)
    (hperm : a.mReleasedList.Perm (handle :: released)) :
    { a with mReleasedList := released }.Sound max (fun x => x = handle ∨ live x) := by
  have hnodup := (hperm.nodup_iff).mp h.released_nodup
  have hmem : ∀ x, x ∈ a.mReleasedList ↔ x = handle ∨ x ∈ released := fun x => by
    rw [hperm.mem_iff, mem_cons]
  obtain ⟨hfresh, hnodup'⟩ := nodup_cons.mp hnodup
  have hhandle : handle ∈ a.mReleasedList := (hmem handle).mpr (.inl rfl)
  constructor
  case heap => exact hheap
  case toPartition =>
    constructor
    case cover =>
      intro x
      rw [h.cover x, hmem x]
      tauto
    case released_not_live =>
      rintro x hx (rfl | hlive)
      · exact hfresh hx
      · exact h.released_not_live x ((hmem x).mpr (.inr hx)) hlive
    case unallocated_not_live =>
      rintro x hx (rfl | hlive)
      · exact h.released_not_unallocated x hhandle hx
      · exact h.unallocated_not_live x hx hlive
    case released_not_unallocated =>
      exact fun x hx => h.released_not_unallocated x ((hmem x).mpr (.inr hx))
    case released_nodup => exact hnodup'
    case unallocated_separated => exact h.unallocated_separated

/-- A handle moves from the unallocated ones to the live ones. -/
theorem Sound.useUnallocated (h : a.Sound max live) {unallocated : List ClosedRange}
    (hseparated : Separated 0 unallocated) (hhandle : Covers a.mUnallocatedList handle)
    (hcovers : ∀ x, Covers unallocated x ↔ Covers a.mUnallocatedList x ∧ x ≠ handle) :
    { a with mUnallocatedList := unallocated }.Sound max (fun x => x = handle ∨ live x) := by
  constructor
  case heap => exact h.heap
  case toPartition =>
    constructor
    case cover =>
      intro x
      rw [h.cover x, hcovers x]
      by_cases hx : x = handle
      · subst hx
        simp [hhandle]
      · simp [hx]
    case released_not_live =>
      rintro x hx (rfl | hlive)
      · exact h.released_not_unallocated x hx hhandle
      · exact h.released_not_live x hx hlive
    case unallocated_not_live =>
      rintro x hx (rfl | hlive)
      · exact ((hcovers x).mp hx).2 rfl
      · exact h.unallocated_not_live x ((hcovers x).mp hx).1 hlive
    case released_not_unallocated =>
      exact fun x hx hcovered => h.released_not_unallocated x hx ((hcovers x).mp hcovered).1
    case released_nodup => exact h.released_nodup
    case unallocated_separated => exact hseparated

/-! ## The operations -/

theorem Partition.unallocated_le (h : a.Partition max live) {r : ClosedRange}
    (hr : r ∈ a.mUnallocatedList) : 1 ≤ r.first ∧ r.first ≤ r.last ∧ r.last ≤ max := by
  have hle := h.unallocated_separated.nonempty r hr
  have hfirst := (h.cover r.first).mpr (.inr (.inr ⟨r, hr, le_refl _, hle⟩))
  have hlast := (h.cover r.last).mpr (.inr (.inr ⟨r, hr, hle, le_refl _⟩))
  exact ⟨hfirst.1, hle, hlast.2⟩

/-- What `allocate` does: a free handle becomes live, the least released one if there is one. -/
structure Allocates (a : HandleAllocator) (max : Nat) (live : Nat → Prop) (handle : Nat)
    (a' : HandleAllocator) : Prop where
  free : ¬ live handle
  inRange : 1 ≤ handle ∧ handle ≤ max
  sound : a'.Sound max (fun x => x = handle ∨ live x)
  least : a.mReleasedList ≠ [] → handle ∈ a.mReleasedList ∧ ∀ x ∈ a.mReleasedList, handle ≤ x

theorem Sound.allocates (h : a.Sound max live) (hmax : max < 2 ^ 32)
    (hallocate : a.allocate heap = some (handle, a')) : a.Allocates max live handle a' := by
  unfold allocate at hallocate
  split at hallocate
  case isTrue hreleased =>
    obtain ⟨front, rest, hfront⟩ := exists_cons_of_ne_nil hreleased
    have hheap := h.heap
    rw [hfront] at hheap
    obtain ⟨released, hpopped, hheap', hperm⟩ := heap.popHeap_spec front rest hheap
    rw [hfront, hpopped] at hallocate
    simp only [getLast?_concat, map_some, dropLast_concat, some.injEq,
      Prod.mk.injEq] at hallocate
    obtain ⟨rfl, rfl⟩ := hallocate
    have hmem : front ∈ a.mReleasedList := hfront ▸ mem_cons_self
    have hperm' : a.mReleasedList.Perm (front :: released) := by
      rw [hfront]
      exact hperm.symm.cons front
    exact {
      free := h.released_not_live front hmem
      inRange := (h.cover front).mpr (.inr (.inl hmem))
      sound := h.useReleased hheap' hperm'
      least := fun _ => ⟨hmem, hfront ▸ hheap.front_le⟩ }
  case isFalse hreleased =>
    obtain ⟨mUnallocatedList, mReleasedList, mLoggingEnabled⟩ := a
    cases mUnallocatedList with
    | nil => contradiction
    | cons range rest =>
      obtain ⟨hpos, hle, hlast⟩ := h.unallocated_le mem_cons_self
      have hcovered : Covers (range :: rest) range.first :=
        ⟨range, mem_cons_self, le_refl _, hle⟩
      have hseparated : Separated 0 ([] ++ range :: rest) := h.unallocated_separated
      obtain ⟨-, hlater, -, -, hrest⟩ := separated_split.mp hseparated
      have hallocates : ∀ {kept : List ClosedRange}, Separated 0 kept →
          (∀ k ∈ kept, range.first ≤ k.first ∧ k.last ≤ range.last) →
          (∀ x, Covers kept x ↔ range.Contains x ∧ x ≠ range.first) →
          Allocates ⟨range :: rest, mReleasedList, mLoggingEnabled⟩ max live range.first
            ⟨kept ++ rest, mReleasedList, mLoggingEnabled⟩ := by
        intro kept hkept hwithin hcovers
        refine {
          free := h.unallocated_not_live _ hcovered
          inRange := ⟨hpos, hle.trans hlast⟩
          sound := h.useUnallocated (hseparated.replace hkept hwithin) hcovered fun x => ?_
          least := fun hne => absurd hne hreleased }
        have hiff := @covers_replace x _ [] rest _ _ hcovers
        rw [nil_append] at hiff
        rw [hiff, covers_cons]
        have hne : Covers rest x → x ≠ range.first := by
          rintro ⟨r, hr, hfirst, -⟩
          have hlt := hrest r hr
          omega
        simp only [not_covers_nil, false_or]
        tauto
      dsimp only at hallocate
      split at hallocate
      case isTrue hsingle =>
        obtain ⟨rfl, rfl⟩ := Prod.mk.inj (some.inj hallocate)
        apply hallocates (separated_nil 0)
        · intro k hk
          contradiction
        · intro x
          simp only [not_covers_nil, Contains]
          grind
      case isFalse hmore =>
        obtain ⟨rfl, rfl⟩ := Prod.mk.inj (some.inj hallocate)
        have hnext : (range.first + 1) % 2 ^ 32 = range.first + 1 := by omega
        rw [hnext]
        have hsingle : Separated 0 [⟨range.first + 1, range.last⟩] :=
          separated_singleton 0 (by dsimp only; omega)
        apply hallocates hsingle
        · intro k hk
          rw [mem_singleton.mp hk]
          exact ⟨le_succ _, le_refl _⟩
        · intro x
          simp only [covers_cons, not_covers_nil, Contains]
          grind

/-- The assertion of `allocate` holds while a handle is not live. -/
theorem Sound.allocate_isSome (h : a.Sound max live) {free : Nat} (hrange : 1 ≤ free ∧ free ≤ max)
    (hfree : ¬ live free) : (a.allocate heap).isSome := by
  unfold allocate
  split
  case isTrue hreleased =>
    obtain ⟨front, rest, hfront⟩ := exists_cons_of_ne_nil hreleased
    have hheap := h.heap
    rw [hfront] at hheap
    obtain ⟨released, hpopped, -⟩ := heap.popHeap_spec front rest hheap
    rw [hfront, hpopped]
    simp
  case isFalse hreleased =>
    rcases (h.cover free).mp hrange with hlive | hmem | hcovers
    · exact absurd hlive hfree
    · rw [Decidable.not_not.mp hreleased] at hmem
      contradiction
    · split
      case h_1 hnil =>
        rw [hnil] at hcovers
        exact absurd hcovers not_covers_nil
      case h_2 =>
        split
        · rfl
        · rfl

theorem Sound.release (heap : StdHeap) (h : a.Sound max live) (hlive : live handle) :
    (a.release heap handle).Sound max (fun x => x ≠ handle ∧ live x) := by
  obtain ⟨hheap, hperm⟩ := heap.pushHeap_spec a.mReleasedList handle h.heap
  have hmem : ∀ x, x ∈ heap.pushHeap (a.mReleasedList ++ [handle]) ↔
      x ∈ a.mReleasedList ∨ x = handle := fun x => by
    rw [hperm.mem_iff, mem_append, mem_singleton]
  have hfresh : handle ∉ a.mReleasedList := fun hmem => h.released_not_live handle hmem hlive
  constructor
  case heap => exact hheap
  case toPartition =>
    constructor
    case cover =>
      intro x
      change _ ↔ _ ∨ x ∈ heap.pushHeap (a.mReleasedList ++ [handle]) ∨ Covers a.mUnallocatedList x
      rw [h.cover x, hmem x]
      by_cases hx : x = handle
      · subst hx
        simp [hlive]
      · simp [hx]
    case released_not_live =>
      rintro x hx ⟨hne, hlive'⟩
      exact h.released_not_live x (((hmem x).mp hx).resolve_right hne) hlive'
    case unallocated_not_live =>
      rintro x hx ⟨-, hlive'⟩
      exact h.unallocated_not_live x hx hlive'
    case released_not_unallocated =>
      intro x hx hcovers
      rcases (hmem x).mp hx with hold | rfl
      · exact h.released_not_unallocated x hold hcovers
      · exact h.unallocated_not_live x hcovers hlive
    case released_nodup =>
      apply hperm.nodup_iff.mpr
      rw [← concat_eq_append]
      exact h.released_nodup.concat hfresh
    case unallocated_separated => exact h.unallocated_separated

theorem reserveInRange_spec {range : ClosedRange} (hrange : range.Contains handle)
    (hlast : range.last < 2 ^ 32) : ∃ kept, reserveInRange handle range = some kept ∧
      Separated 0 kept ∧ (∀ k ∈ kept, range.first ≤ k.first ∧ k.last ≤ range.last) ∧
      ∀ x, Covers kept x ↔ range.Contains x ∧ x ≠ handle := by
  obtain ⟨hfrom, hto⟩ := hrange
  unfold reserveInRange
  by_cases hend : handle = range.first ∨ handle = range.last
  · rw [if_pos hend]
    by_cases hsingle : range.first = range.last
    · rw [if_pos hsingle]
      refine ⟨_, rfl, separated_nil 0, fun k hk => by contradiction, fun x => ?_⟩
      simp only [not_covers_nil, Contains]
      grind
    · rw [if_neg hsingle]
      by_cases hfirst : handle = range.first
      · have hnext : (range.first + 1) % 2 ^ 32 = range.first + 1 := by omega
        rw [if_pos hfirst, hnext]
        refine ⟨_, rfl, separated_singleton 0 (by dsimp only; omega), fun k hk => ?_, fun x => ?_⟩
        · rw [mem_singleton.mp hk]
          exact ⟨le_succ _, le_refl _⟩
        · simp only [covers_cons, not_covers_nil, Contains]
          grind
      · rw [if_neg hfirst]
        refine ⟨_, rfl, separated_singleton 0 (by dsimp only; omega), fun k hk => ?_, fun x => ?_⟩
        · rw [mem_singleton.mp hk]
          exact ⟨le_refl _, sub_le _ _⟩
        · simp only [covers_cons, not_covers_nil, Contains]
          grind
  · have hnext : (handle + 1) % 2 ^ 32 = handle + 1 := by omega
    rw [if_neg hend, if_pos (by omega), hnext]
    refine ⟨_, rfl, ?_, fun k hk => ?_, fun x => ?_⟩
    · apply separated_cons.mpr
      refine ⟨by dsimp only; omega, fun k hk => ?_, separated_singleton 0 (by dsimp only; omega)⟩
      rw [mem_singleton.mp hk]
      dsimp only
      omega
    · rcases mem_pair.mp hk with rfl | rfl
      · exact ⟨le_refl _, by dsimp only; omega⟩
      · exact ⟨by dsimp only; omega, le_refl _⟩
    · simp only [covers_cons, not_covers_nil, Contains]
      grind

/-- A handle that is not live can be reserved, and becomes live. -/
theorem Sound.reserve (heap : StdHeap) (h : a.Sound max live) (hmax : max < 2 ^ 32)
    (hrange : 1 ≤ handle ∧ handle ≤ max) (hfree : ¬ live handle) :
    ∃ a', a.reserve heap handle = some a' ∧ a'.Sound max (fun x => x = handle ∨ live x) := by
  unfold HandleAllocator.reserve
  by_cases hreleased : handle ∈ a.mReleasedList
  · rw [if_pos hreleased]
    obtain ⟨hheap, hperm⟩ := heap.makeHeap_spec (a.mReleasedList.erase handle)
    refine ⟨_, rfl, h.useReleased hheap ?_⟩
    exact (perm_cons_erase hreleased).trans (hperm.symm.cons handle)
  · rw [if_neg hreleased]
    have hcovered : Covers a.mUnallocatedList handle :=
      (((h.cover handle).mp hrange).resolve_left hfree).resolve_left hreleased
    have hsplit : a.mUnallocatedList.takeWhile (fun range => range.last < handle) ++
        a.mUnallocatedList.dropWhile (fun range => range.last < handle) = a.mUnallocatedList :=
      takeWhile_append_dropWhile
    have hbound : ∀ r ∈ a.mUnallocatedList.dropWhile (fun range => range.last < handle),
        handle ≤ r.last := by
      intro r hr
      have hfails := not_of_mem_dropWhile (p := fun range => decide (range.last < handle))
        h.unallocated_separated.pairwise_last_lt
        (fun r r' hlt hr' => decide_eq_true (hlt.trans (of_decide_eq_true hr'))) hr
      exact not_lt.mp (of_decide_eq_false hfails)
    have hbefore : ∀ r ∈ a.mUnallocatedList.takeWhile (fun range => range.last < handle),
        r.last < handle := by
      intro r hr
      have hlt := mem_takeWhile_imp hr
      exact of_decide_eq_true hlt
    obtain ⟨before, hb⟩ : ∃ before, before =
      a.mUnallocatedList.takeWhile fun range => range.last < handle := ⟨_, rfl⟩
    rw [← hb] at hsplit hbefore ⊢
    cases hfrom : a.mUnallocatedList.dropWhile fun range => range.last < handle with
    | nil =>
        rw [hfrom, append_nil] at hsplit
        obtain ⟨r, hr, -, hto⟩ := hcovered
        rw [← hsplit] at hr
        have hlt := hbefore r hr
        omega
    | cons range after =>
      rw [hfrom] at hsplit hbound
      have hseparated := h.unallocated_separated
      rw [← hsplit] at hseparated hcovered
      obtain ⟨-, -, -, -, hlater⟩ := separated_split.mp hseparated
      have hlast := hbound range mem_cons_self
      have hcontains : range.Contains handle := by
        rw [covers_append, covers_cons] at hcovered
        rcases hcovered with ⟨r, hr, -, hto⟩ | hcovered | ⟨r, hr, hfrom', -⟩
        · have hlt := hbefore r hr
          omega
        · exact hcovered
        · have hlt := hlater r hr
          omega
      have hmem : range ∈ a.mUnallocatedList := by
        rw [← hsplit]
        exact mem_append_right _ mem_cons_self
      obtain ⟨kept, hkept, hkeptSeparated, hwithin, hcovers⟩ :=
        reserveInRange_spec hcontains ((h.unallocated_le hmem).2.2.trans_lt hmax)
      dsimp only
      rw [hkept]
      refine ⟨_, rfl, h.useUnallocated (hseparated.replace hkeptSeparated hwithin)
        ⟨range, hmem, hcontains⟩ fun x => ?_⟩
      rw [covers_replace hcovers, ← hsplit, covers_append, covers_cons]
      have hleft : Covers before x → x ≠ handle := by
        rintro ⟨r, hr, -, hto⟩
        have hlt := hbefore r hr
        omega
      have hright : Covers after x → x ≠ handle := by
        rintro ⟨r, hr, hfrom', -⟩
        have hlt := hlater r hr
        omega
      tauto

end HandleAllocator

/-! ## Runs -/

structure HandleSystem where
  allocator : HandleAllocator
  live : Finset Nat := ∅

namespace HandleSystem

open LabelledRun

inductive Action
  | allocate
  | release (handle : Nat)
  | reserve (handle : Nat)
  | enableLogging (enabled : Bool)
  | reset

def step (heap : StdHeap) (max : Nat) (s : HandleSystem) : Action → Option HandleSystem
  | .allocate => (s.allocator.allocate heap).map fun (handle, allocator) =>
      { allocator, live := insert handle s.live }
  | .release handle =>
      if handle ∈ s.live then
        some { allocator := s.allocator.release heap handle, live := s.live.erase handle }
      else none
  | .reserve handle =>
      if (1 ≤ handle ∧ handle ≤ max) ∧ handle ∉ s.live then
        (s.allocator.reserve heap handle).map fun allocator =>
          { allocator, live := insert handle s.live }
      else none
  | .enableLogging enabled => some { s with allocator := s.allocator.enableLogging enabled }
  | .reset => some { allocator := s.allocator.reset, live := ∅ }

/-- `reset` restores the range of the default constructor. -/
def Allowed (max : Nat) (_ : HandleSystem) : Action → Prop
  | .reset => max = maxGLuint
  | _ => True

instance (max : Nat) (s : HandleSystem) : (action : Action) → Decidable (Allowed max s action)
  | .allocate => .isTrue trivial
  | .release _ => .isTrue trivial
  | .reserve _ => .isTrue trivial
  | .enableLogging _ => .isTrue trivial
  | .reset => inferInstanceAs (Decidable (_ = _))

def initial (max : Nat) : HandleSystem where
  allocator := .new max

def Sound (s : HandleSystem) (max : Nat) : Prop := s.allocator.Sound max (· ∈ s.live)

variable {heap : StdHeap} {max : Nat} {s t : HandleSystem}

theorem step_allocate {handle : Nat} {a : HandleAllocator}
    (hallocate : s.allocator.allocate heap = some (handle, a)) :
    step heap max s .allocate = some { allocator := a, live := insert handle s.live } := by
  simp [step, hallocate]

theorem step_release {handle : Nat} (hlive : handle ∈ s.live) :
    step heap max s (.release handle) =
      some { allocator := s.allocator.release heap handle, live := s.live.erase handle } := by
  simp only [step, if_pos hlive]

theorem step_reserve {handle : Nat} {a : HandleAllocator} (hrange : 1 ≤ handle ∧ handle ≤ max)
    (hfree : handle ∉ s.live) (hreserve : s.allocator.reserve heap handle = some a) :
    step heap max s (.reserve handle) = some { allocator := a, live := insert handle s.live } := by
  simp [step, if_pos (And.intro hrange hfree), hreserve]

theorem sound_step (hmax : max < 2 ^ 32) {action : Action} (h : s.Sound max)
    (hallowed : Allowed max s action) (hstep : step heap max s action = some t) : t.Sound max := by
  have hinsert : ∀ {a : HandleAllocator} {handle : Nat},
      a.Sound max (fun x => x = handle ∨ x ∈ s.live) → a.Sound max (· ∈ insert handle s.live) := by
    intro a handle ha
    simpa only [Finset.mem_insert] using ha
  cases action with
  | allocate =>
      obtain ⟨⟨handle, a⟩, hallocate, rfl⟩ := map_eq_some_iff.mp hstep
      exact hinsert (h.allocates hmax hallocate).sound
  | release handle =>
      obtain ⟨hlive, ⟨⟩⟩ := ite_none_right_eq_some.mp hstep
      have hreleased := HandleAllocator.Sound.release heap h hlive
      simpa only [Sound, Finset.mem_erase] using hreleased
  | reserve handle =>
    obtain ⟨⟨hrange, hfree⟩, hstep⟩ := ite_none_right_eq_some.mp hstep
    obtain ⟨a, hreserve, rfl⟩ := map_eq_some_iff.mp hstep
    obtain ⟨a', hreserve', hsound⟩ :=
      HandleAllocator.Sound.reserve heap h hmax hrange hfree
    cases hreserve.symm.trans hreserve'
    exact hinsert hsound
  | enableLogging enabled =>
      cases hstep
      have hsound : s.allocator.Sound max (· ∈ s.live) := h
      exact ⟨{ hsound.toPartition with }, hsound.heap⟩
  | reset =>
      cases hstep
      have hfull : max = maxGLuint := hallowed
      subst hfull
      exact HandleAllocator.sound_full (by decide) rfl rfl fun x hx =>
        absurd hx (Finset.notMem_empty x)

theorem sound_run (hpos : 0 < max) (hmax : max < 2 ^ 32) {acts : List Action}
    (hrun : Run (step heap max) (Allowed max) (initial max) acts s) : s.Sound max :=
  hrun.invariant (fun _ _ _ (hs : Sound _ max) hallowed hstep => sound_step hmax hs hallowed hstep)
    (HandleAllocator.sound_full hpos rfl rfl fun x hx =>
      absurd hx (Finset.notMem_empty x))

/-- In every run whose resets restore the range of the constructor the handles are partitioned,
`allocate` returns a handle that is not live, in range and the least released one, and every handle
that is not live can be reserved. -/
theorem run_partition (heap : StdHeap) (max : Nat) (hpos : 0 < max) (hmax : max < 2 ^ 32)
    {acts : List Action} (hrun : Run (step heap max) (Allowed max) (initial max) acts s) :
    s.allocator.Partition max (· ∈ s.live) ∧
      (∀ handle a, s.allocator.allocate heap = some (handle, a) →
        handle ∉ s.live ∧ (1 ≤ handle ∧ handle ≤ max) ∧
        a.Partition max (fun x => x = handle ∨ x ∈ s.live) ∧
        (s.allocator.mReleasedList ≠ [] → handle ∈ s.allocator.mReleasedList ∧
          ∀ x ∈ s.allocator.mReleasedList, handle ≤ x)) ∧
      ∀ handle, 1 ≤ handle ∧ handle ≤ max → handle ∉ s.live →
        (s.allocator.allocate heap).isSome = true ∧
        ∃ a, s.allocator.reserve heap handle = some a ∧
          a.Partition max (fun x => x = handle ∨ x ∈ s.live) := by
  have h := sound_run hpos hmax hrun
  refine ⟨h.toPartition, fun handle a hallocate => ?_, fun handle hrange hfree => ?_⟩
  · have hallocates := h.allocates hmax hallocate
    exact ⟨hallocates.free, hallocates.inRange, hallocates.sound.toPartition, hallocates.least⟩
  · obtain ⟨a, hreserve, hsound⟩ :=
      HandleAllocator.Sound.reserve heap h hmax hrange hfree
    exact ⟨h.allocate_isSome hrange hfree, a, hreserve, hsound.toPartition⟩

/-- Handle 2 comes from the heap, before the handles that were never allocated. -/
theorem run_partition_reused : ∃ s a, Run (step .sorted 5) (Allowed 5) (initial 5)
    [.allocate, .allocate, .reserve 4, .release 4, .release 2, .enableLogging true] s ∧
      s.allocator.allocate .sorted = some (2, a) ∧ s.allocator.Partition 5 (· ∈ s.live) ∧
      a.Partition 5 (fun x => x = 2 ∨ x ∈ s.live) := by
  obtain ⟨s, hexec, a, hallocate⟩ :
      ∃ s, exec (checked (step .sorted 5) fun s a => decide (Allowed 5 s a)) (initial 5)
        [.allocate, .allocate, .reserve 4, .release 4, .release 2, .enableLogging true] = some s ∧
      ∃ a, s.allocator.allocate .sorted = some (2, a) := ⟨_, rfl, _, rfl⟩
  have hrun := Run.of_exec_checked _ (fun _ _ => of_decide_eq_true) hexec
  obtain ⟨hpartition, hallocated, -⟩ := run_partition .sorted 5 (by decide) (by decide) hrun
  exact ⟨s, a, hrun, hallocate, hpartition, (hallocated 2 a hallocate).2.2.1⟩

/-- After a `reset`, and with a maximum of 0 from the start, `allocate` goes past the maximum. -/
theorem allocate_gt_max : (∃ s a, Run (step .sorted 1) anyStep (initial 1)
    [.allocate, .reset, .allocate] s ∧ s.allocator.allocate .sorted = some (2, a)) ∧
      ∃ a, (initial 0).allocator.allocate .sorted = some (1, a) := by
  obtain ⟨s, hexec, a, hallocate⟩ :
      ∃ s, exec (step .sorted 1) (initial 1) [.allocate, .reset, .allocate] = some s ∧
      ∃ a, s.allocator.allocate .sorted = some (2, a) := ⟨_, rfl, _, rfl⟩
  exact ⟨⟨s, a, .of_exec hexec, hallocate⟩, _, rfl⟩

end HandleSystem

end MetalAngle.Gl
