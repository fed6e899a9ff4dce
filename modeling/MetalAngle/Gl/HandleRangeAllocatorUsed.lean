import MetalAngle.Gl.HandleRangeAllocator
import MetalAngle.Lib.LabelledRun

/-!
# `HandleRangeAllocator` keeps a set of used handles

Each call adds one run of unused handles to the set, removes the handles of a range from it,
or leaves it as it is.
-/

namespace MetalAngle.Gl

open ClosedRange LabelledRun List Nat Option

/-- A cursor at the last entry that begins at the handle or before it. -/
structure Cursor.At (c : Cursor) (mUsed : List ClosedRange) (handle : Nat) : Prop where
  split : mUsed = c.before ++ c.current :: c.after
  first_le : c.current.first ≤ handle
  lt_next : ∀ r ∈ c.after, handle < r.first

namespace HandleRangeAllocator

/-- The map of used handles: maximal ranges of 32-bit handles, with the invalid handle in one. -/
structure WellFormed (mUsed : List ClosedRange) : Prop where
  separated : Separated 1 mUsed
  bounded : ∀ r ∈ mUsed, r.last < 2 ^ 32
  zero : Covers mUsed 0

variable {mUsed before after : List ClosedRange} {current : ClosedRange} {handle x : Nat}

theorem wellFormed_initial : WellFormed ({} : HandleRangeAllocator).mUsed where
  separated := separated_singleton 1 (le_refl 0)
  bounded := by
    intro r hr
    rw [mem_singleton.mp hr]
    decide
  zero := ⟨⟨0, 0⟩, mem_singleton_self _, le_refl 0, le_refl 0⟩

/-! ## Searching -/

theorem WellFormed.first_eq_zero {first : ClosedRange} {rest : List ClosedRange}
    (h : WellFormed (first :: rest)) : first.first = 0 := by
  obtain ⟨-, hapart, -⟩ := separated_cons.mp h.separated
  obtain ⟨r, hr, hle, -⟩ := h.zero
  rcases mem_cons.mp hr with rfl | hr
  · exact le_zero.mp hle
  · have hlt := hapart r hr
    omega

theorem WellFormed.le_of_mem_lowerBound (h : WellFormed mUsed) {r : ClosedRange}
    (hr : r ∈ (lowerBound mUsed handle).2) : handle ≤ r.first := by
  have hfails := not_of_mem_dropWhile (p := fun r => decide (r.first < handle))
    h.separated.pairwise_first_lt
    (fun r r' hlt hr' => decide_eq_true (hlt.trans (of_decide_eq_true hr'))) hr
  exact not_lt.mp (of_decide_eq_false hfails)

/-- A step back from the search for a handle that no entry begins at. -/
theorem WellFormed.at_decrement (h : WellFormed mUsed) (hpos : 0 < handle)
    (hhead : ((lowerBound mUsed handle).2.head?.any fun r => r.first = handle) = false) :
    ∃ c : Cursor, decrement (lowerBound mUsed handle).1 (lowerBound mUsed handle).2 = some c ∧
      c.At mUsed handle := by
  have hsplit : (lowerBound mUsed handle).1 ++ (lowerBound mUsed handle).2 = mUsed :=
    takeWhile_append_dropWhile
  have hbefore : (lowerBound mUsed handle).1 ≠ [] := by
    cases mUsed with
    | nil => exact absurd h.zero not_covers_nil
    | cons first rest =>
        unfold lowerBound
        rw [takeWhile_cons_of_pos (by rw [h.first_eq_zero]; exact decide_eq_true hpos)]
        exact cons_ne_nil _ _
  obtain ⟨c, hc⟩ : ∃ c, decrement (lowerBound mUsed handle).1 (lowerBound mUsed handle).2 =
      some c := by
    unfold decrement
    rw [getLast?_eq_some_getLast hbefore]
    exact ⟨_, rfl⟩
  obtain ⟨hleft, hright⟩ := decrement_eq_some hc
  refine ⟨c, hc, ?_, ?_, ?_⟩
  · rw [hleft, ← hright, append_assoc] at hsplit
    exact hsplit.symm
  · have hmem : c.current ∈ (lowerBound mUsed handle).1 := by
      rw [hleft]
      exact mem_append_right _ (mem_singleton_self _)
    have hlt := mem_takeWhile_imp hmem
    exact le_of_lt (of_decide_eq_true hlt)
  · intro r hr
    rw [hright] at hr
    cases hfrom : (lowerBound mUsed handle).2 with
    | nil =>
        rw [hfrom] at hr
        contradiction
    | cons next rest =>
      have hnext := h.le_of_mem_lowerBound (r := next) (by rw [hfrom]; exact mem_cons_self)
      rw [hfrom] at hr hhead
      have hne : next.first ≠ handle := of_decide_eq_false hhead
      rcases mem_cons.mp hr with rfl | hr
      · omega
      · have hsorted : Separated 1 ((lowerBound mUsed handle).1 ++ next :: rest) := by
          rw [← hfrom, hsplit]
          exact h.separated
        obtain ⟨-, -, hnonempty, -, hlater⟩ := separated_split.mp hsorted
        have hlt := hlater r hr
        omega

/-- The search for the entry that a handle above 0 belongs to or comes after. -/
theorem WellFormed.at_currentAndNext (h : WellFormed mUsed) (hpos : 0 < handle) :
    ∃ c : Cursor, currentAndNext mUsed handle = some c ∧ c.At mUsed handle := by
  have hsplit : (lowerBound mUsed handle).1 ++ (lowerBound mUsed handle).2 = mUsed :=
    takeWhile_append_dropWhile
  have hback := h.at_decrement hpos
  unfold currentAndNext
  obtain ⟨⟨before, fromHere⟩, hfound⟩ : ∃ found, found = lowerBound mUsed handle := ⟨_, rfl⟩
  rw [← hfound] at hback hsplit ⊢
  cases fromHere with
  | nil => exact hback rfl
  | cons current next =>
    dsimp only
    by_cases hafter : current.first > handle
    · rw [if_pos hafter]
      apply hback
      exact decide_eq_false (ne_of_gt hafter)
    · rw [if_neg hafter]
      refine ⟨_, rfl, hsplit.symm, not_lt.mp hafter, fun r hr => ?_⟩
      have hle : handle ≤ current.first := by
        apply h.le_of_mem_lowerBound
        rw [← hfound]
        exact mem_cons_self
      have hsorted := h.separated
      rw [← hsplit] at hsorted
      obtain ⟨-, -, hnonempty, -, hlater⟩ := separated_split.mp hsorted
      have hlt := hlater r hr
      omega

/-! ## Adding handles -/

/-- The handles from `first` to `last` have been added. -/
structure Adds (mUsed : List ClosedRange) (first last : Nat) (mUsed' : List ClosedRange) :
    Prop where
  wellFormed : WellFormed mUsed'
  covers_iff : ∀ x, Covers mUsed' x ↔ Covers mUsed x ∨ first ≤ x ∧ x ≤ last

variable {first last : Nat} {mUsed' : List ClosedRange}

theorem WellFormed.adds (h : WellFormed mUsed)
    (hseparated : Separated 1 mUsed') (hbounded : ∀ r ∈ mUsed', r.last < 2 ^ 32)
    (hcovers : ∀ x, Covers mUsed' x ↔ Covers mUsed x ∨ first ≤ x ∧ x ≤ last) :
    Adds mUsed first last mUsed' where
  wellFormed := ⟨hseparated, hbounded, (hcovers 0).mpr (.inl h.zero)⟩
  covers_iff := hcovers

/-- The current range grows up to `lastId`, which is before the next range. -/
theorem WellFormed.adds_appendToCurrent (h : WellFormed (before ++ current :: after))
    {lastId : Nat} (hle : current.last ≤ lastId) (hnext : ∀ r ∈ after, lastId < r.first)
    (hmax : lastId < 2 ^ 32) :
    Adds (before ++ current :: after) (current.last + 1) lastId
      (before ++ appendToCurrent current lastId after) := by
  obtain ⟨hbefore, hafter, hnonempty, hleft, hright⟩ := separated_split.mp h.separated
  have hbounded := h.bounded
  cases after with
  | nil =>
    apply h.adds
    · apply separated_split.mpr
      exact ⟨hbefore, hafter, hnonempty.trans hle, hleft, fun r hr => by contradiction⟩
    · simp only [appendToCurrent, mem_append, mem_singleton] at hbounded ⊢
      grind
    · simp only [appendToCurrent, covers_append, covers_cons, not_covers_nil, Contains]
      grind
  | cons next rest =>
    obtain ⟨hnextNonempty, hrest, hlater⟩ := separated_cons.mp hafter
    have hgap := hnext next mem_cons_self
    rw [appendToCurrent]
    split
    case isTrue htouch =>
      apply h.adds
      · apply separated_split.mpr
        exact ⟨hbefore, hlater, by dsimp only; omega, hleft, hrest⟩
      · grind
      · simp only [covers_append, covers_cons, Contains]
        grind
    case isFalse hapart =>
      apply h.adds
      · apply separated_split.mpr
        refine ⟨hbefore, hafter, hnonempty.trans hle, hleft, fun r hr => ?_⟩
        have hfirst : lastId + 1 < next.first := by omega
        rcases mem_cons.mp hr with rfl | hr
        · exact hfirst
        · have hlt := hrest r hr
          dsimp only
          omega
      · grind
      · simp only [covers_append, covers_cons, Contains]
        grind

/-- A handle that touches no earlier range gets a range of its own or joins the next one. -/
theorem WellFormed.adds_prependOrInsert (h : WellFormed (before ++ current :: after))
    (hlast : current.last + 1 < handle) (hnext : ∀ r ∈ after, handle < r.first)
    (hmax : handle < 2 ^ 32) :
    Adds (before ++ current :: after) handle handle
      (before ++ current :: prependOrInsert handle after) := by
  obtain ⟨hbefore, hafter, hnonempty, hleft, hright⟩ := separated_split.mp h.separated
  have hbounded := h.bounded
  cases after with
  | nil =>
    apply h.adds
    · apply separated_split.mpr
      refine ⟨hbefore, ?_, hnonempty, hleft, fun r hr => ?_⟩
      · exact separated_singleton 1 (le_refl _)
      · rw [mem_singleton.mp hr]
        exact hlast
    · simp only [prependOrInsert, mem_append, mem_cons] at hbounded ⊢
      grind
    · simp only [prependOrInsert, covers_append, covers_cons, not_covers_nil, Contains]
      grind
  | cons next rest =>
    obtain ⟨hnextNonempty, hrest, hlater⟩ := separated_cons.mp hafter
    have hgap := hnext next mem_cons_self
    rw [prependOrInsert]
    split
    case isTrue htouch =>
      apply h.adds
      · apply separated_split.mpr
        refine ⟨hbefore, separated_cons.mpr ⟨by dsimp only; omega, hrest, hlater⟩, hnonempty,
          hleft, fun r hr => ?_⟩
        rcases mem_cons.mp hr with rfl | hr
        · exact hlast
        · exact hright r (mem_cons_of_mem next hr)
      · grind
      · simp only [covers_append, covers_cons, Contains]
        grind
    case isFalse hapart =>
      apply h.adds
      · apply separated_split.mpr
        refine ⟨hbefore, separated_cons.mpr ⟨le_refl _, fun r hr => ?_, hafter⟩, hnonempty,
          hleft, fun r hr => ?_⟩
        · have hfirst : handle + 1 < next.first := by omega
          rcases mem_cons.mp hr with rfl | hr
          · exact hfirst
          · have hlt := hrest r hr
            dsimp only
            omega
        · rcases mem_cons.mp hr with rfl | hr
          · exact hlast
          · exact hright r hr
      · grind
      · simp only [covers_append, covers_cons, Contains]
        grind

/-! ## What the calls do to the set -/

/-- A run of `range` unused handles has been taken, or the result is the invalid handle. -/
def AllocatesRun (used : Set Nat) (range id : Nat) (used' : Set Nat) : Prop :=
  id = kInvalidHandle ∧ used' = used ∨
    kInvalidHandle < id ∧ id + range ≤ 2 ^ 32 ∧ (∀ x ∈ Set.Ico id (id + range), x ∉ used) ∧
      used' = used ∪ Set.Ico id (id + range)

def Spec (used : Set Nat) : Action → Result → Set Nat → Prop
  | .allocate, .handle id, used' => AllocatesRun used 1 id used'
  | .allocateAtOrAbove _, .handle id, used' => AllocatesRun used 1 id used'
  | .allocateRange range, .handle id, used' => AllocatesRun used range id used'
  | .markAsUsed handle, .success ok, used' =>
      (ok = false ↔ handle ∈ used) ∧ used' = insert handle used
  | .release handle, .done, used' => used' = used \ (Set.Ico handle (handle + 1) \ {kInvalidHandle})
  | .releaseRange first range, .done, used' =>
      used' = used \ (Set.Ico first (first + range) \ {kInvalidHandle})
  | _, _, _ => False

def used (a : HandleRangeAllocator) : Set Nat := {handle | Covers a.mUsed handle}

variable {a : HandleRangeAllocator}

variable {range : Nat}

theorem Adds.allocatesRun
    (hadds : Adds mUsed first last mUsed') (hpos : 0 < first) (hmax : last < 2 ^ 32)
    (hrange : first + range = last + 1) (hfree : ∀ x, first ≤ x → x ≤ last → ¬ Covers mUsed x) :
    AllocatesRun {x | Covers mUsed x} range first {x | Covers mUsed' x} := by
  refine .inr ⟨hpos, by omega, ?_, ?_⟩
  · rintro x ⟨hle, hlt⟩
    exact hfree x hle (by omega)
  · ext x
    rw [Set.mem_ofPred_eq, hadds.covers_iff x, Set.mem_union, Set.mem_Ico, Set.mem_ofPred_eq]
    apply or_congr_right
    omega

theorem findGap_spec (range : Nat) (before after : List ClosedRange) (current : ClosedRange)
    (h : Separated 1 (before ++ current :: after)) :
    before ++ current :: after = (findGap range before current after).before ++
        (findGap range before current after).current :: (findGap range before current after).after ∧
      ∀ r ∈ (findGap range before current after).after,
        (findGap range before current after).current.last + range < r.first := by
  induction after generalizing before current with
  | nil => exact ⟨rfl, fun r hr => by contradiction⟩
  | cons next rest ih =>
    rw [findGap]
    split
    case isTrue hroom =>
      refine ⟨rfl, fun r hr => ?_⟩
      obtain ⟨-, hafter, -⟩ := separated_split.mp h
      obtain ⟨hnonempty, hlater, -⟩ := separated_cons.mp hafter
      dsimp only at hr ⊢
      rcases mem_cons.mp hr with rfl | hr
      · omega
      · have hlt := hlater r hr
        omega
    case isFalse =>
      have hsplit : before ++ current :: next :: rest = (before ++ [current]) ++ next :: rest := by
        rw [append_assoc]
        rfl
      rw [hsplit] at h ⊢
      exact ih (before ++ [current]) next h

theorem spec_allocateRange (h : WellFormed a.mUsed) (hrange : range < 2 ^ 32) :
    WellFormed (a.allocateRange range).2.mUsed ∧
      AllocatesRun a.used range (a.allocateRange range).1 (a.allocateRange range).2.used := by
  obtain ⟨mUsed⟩ := a
  unfold allocateRange
  cases mUsed with
  | nil => exact absurd h.zero not_covers_nil
  | cons first rest =>
    dsimp only at h ⊢
    obtain ⟨hsplit, hgap⟩ := findGap_spec range [] rest first h.separated
    obtain ⟨c, hc⟩ : ∃ c, c = findGap range [] first rest := ⟨_, rfl⟩
    rw [← hc] at hsplit hgap ⊢
    rw [nil_append] at hsplit
    have hbounded : c.current.last < 2 ^ 32 := by
      apply h.bounded
      rw [hsplit]
      exact mem_append_right _ mem_cons_self
    split
    case isTrue => exact ⟨h, .inl ⟨rfl, rfl⟩⟩
    case isFalse hfits =>
      have hfirstId : (c.current.last + 1) % 2 ^ 32 = c.current.last + 1 := by omega
      have hlastId : (c.current.last + 1 + range + (2 ^ 32 - 1)) % 2 ^ 32 =
          c.current.last + range := by omega
      rw [hfirstId, hlastId] at hfits ⊢
      rw [hsplit] at h ⊢
      have hadds := h.adds_appendToCurrent (le_add_right _ range) hgap (by omega)
      refine ⟨hadds.wellFormed, hadds.allocatesRun (succ_pos _) (by omega) (by omega) ?_⟩
      intro x hle hge
      exact h.separated.not_covers_of_gap hle fun r hr => hge.trans_lt (hgap r hr)

theorem spec_allocateAtOrAbove (h : WellFormed a.mUsed) {wanted : Nat} (hwanted : wanted < 2 ^ 32) :
    WellFormed (a.allocateAtOrAbove wanted).2.mUsed ∧
      AllocatesRun a.used 1 (a.allocateAtOrAbove wanted).1 (a.allocateAtOrAbove wanted).2.used := by
  unfold allocateAtOrAbove
  split
  case isTrue => exact spec_allocateRange h (by decide)
  case isFalse hlarge =>
    obtain ⟨c, hcursor, hat⟩ := h.at_currentAndNext (by omega : 0 < wanted)
    obtain ⟨mUsed⟩ := a
    rw [hcursor]
    have hsplit := hat.split
    have hlt := hat.lt_next
    dsimp only at hsplit ⊢
    split
    case isTrue hnear =>
      split
      case isTrue => exact spec_allocateRange h (by decide)
      case isFalse hfits =>
        have hbounded : c.current.last < 2 ^ 32 := by
          apply h.bounded
          rw [hsplit]
          exact mem_append_right _ mem_cons_self
        have hlastId : (c.current.last + 1) % 2 ^ 32 = c.current.last + 1 := by omega
        rw [hlastId]
        rw [hsplit] at h ⊢
        obtain ⟨-, -, -, -, hright⟩ := separated_split.mp h.separated
        have hadds := h.adds_appendToCurrent (le_succ _) hright (by omega)
        refine ⟨hadds.wellFormed, hadds.allocatesRun (succ_pos _) (by omega) (by omega) ?_⟩
        intro x hle hge
        exact h.separated.not_covers_of_gap hle fun r hr => hge.trans_lt (hright r hr)
    case isFalse hfar =>
      rw [hsplit] at h ⊢
      have hadds := h.adds_prependOrInsert (by omega) hlt hwanted
      refine ⟨hadds.wellFormed, hadds.allocatesRun (by omega) hwanted rfl ?_⟩
      intro x hle hge
      exact h.separated.not_covers_of_gap (by omega) fun r hr => hge.trans_lt (hlt r hr)

theorem covers_of_head (h : WellFormed mUsed)
    (hhead : ((lowerBound mUsed handle).2.head?.any fun r => r.first = handle)) :
    Covers mUsed handle := by
  have hsplit : (lowerBound mUsed handle).1 ++ (lowerBound mUsed handle).2 = mUsed :=
    takeWhile_append_dropWhile
  cases hfrom : (lowerBound mUsed handle).2 with
  | nil =>
      rw [hfrom] at hhead
      contradiction
  | cons r rest =>
    rw [hfrom] at hhead hsplit
    have hmem : r ∈ mUsed := by
      rw [← hsplit]
      exact mem_append_right _ mem_cons_self
    have hfirst : r.first = handle := of_decide_eq_true hhead
    exact ⟨r, hmem, hfirst.le, hfirst ▸ h.separated.nonempty r hmem⟩

theorem head_lowerBound_zero (h : WellFormed mUsed) :
    ((lowerBound mUsed 0).2.head?.any fun r => r.first = 0) := by
  cases mUsed with
  | nil => exact absurd h.zero not_covers_nil
  | cons first rest =>
      exact decide_eq_true h.first_eq_zero

theorem covers_iff_of_at (h : WellFormed mUsed) {c : Cursor} (hat : c.At mUsed handle) :
    Covers mUsed handle ↔ handle ≤ c.current.last := by
  constructor
  case mp =>
    intro hcovers
    by_contra hgt
    have hsplit := hat.split
    rw [hsplit] at h hcovers
    exact h.separated.not_covers_of_gap (not_le.mp hgt) hat.lt_next hcovers
  case mpr =>
    intro hle
    refine ⟨c.current, ?_, hat.first_le, hle⟩
    rw [hat.split]
    exact mem_append_right _ mem_cons_self

/-- `isUsed` is membership, except that the invalid handle does not count as used. -/
theorem isUsed_iff (h : WellFormed a.mUsed) (handle : Nat) :
    a.isUsed handle ↔ handle ≠ kInvalidHandle ∧ Covers a.mUsed handle := by
  unfold isUsed
  split
  case isTrue hzero => simp [hzero]
  case isFalse hne =>
    dsimp only
    split
    case isTrue hhead => simp [hne, covers_of_head h hhead]
    case isFalse hhead =>
      obtain ⟨c, hc, hat⟩ := h.at_decrement (pos_of_ne_zero hne) (Bool.eq_false_iff.mpr hhead)
      rw [hc]
      simp [hne, covers_iff_of_at h hat]

theorem spec_markAsUsed (h : WellFormed a.mUsed) {handle : Nat} (hhandle : handle < 2 ^ 32) :
    WellFormed (a.markAsUsed handle).2.mUsed ∧ ((a.markAsUsed handle).1 = false ↔ handle ∈ a.used) ∧
      (a.markAsUsed handle).2.used = insert handle a.used := by
  have hsame : Covers a.mUsed handle → WellFormed a.mUsed ∧ (false = false ↔ handle ∈ a.used) ∧
      a.used = insert handle a.used := fun hcovers =>
    ⟨h, ⟨fun _ => hcovers, fun _ => rfl⟩,
      (Set.insert_eq_of_mem (show handle ∈ a.used from hcovers)).symm⟩
  unfold markAsUsed
  dsimp only
  split
  case isTrue hhead => exact hsame (covers_of_head h hhead)
  case isFalse hhead =>
    have hpos : 0 < handle := by
      apply pos_of_ne_zero
      rintro rfl
      exact hhead (head_lowerBound_zero h)
    obtain ⟨c, hc, hat⟩ := h.at_decrement hpos (Bool.eq_false_iff.mpr hhead)
    have hiff := covers_iff_of_at h hat
    have hsplit := hat.split
    have hlt := hat.lt_next
    have hinsert : ∀ {mUsed'}, Adds a.mUsed handle handle mUsed' → ¬ handle ≤ c.current.last →
        WellFormed mUsed' ∧ (true = false ↔ handle ∈ a.used) ∧
          {x | Covers mUsed' x} = insert handle a.used := by
      intro mUsed' hadds hfree
      refine ⟨hadds.wellFormed, ⟨fun hfalse => by contradiction, fun hmem => ?_⟩, ?_⟩
      · exact absurd (hiff.mp hmem) hfree
      · ext x
        rw [Set.mem_ofPred_eq, hadds.covers_iff x, Set.mem_insert_iff, or_comm]
        apply or_congr_left
        omega
    rw [hc]
    dsimp only
    split
    case isTrue hused => exact hsame (hiff.mpr hused)
    case isFalse hfree =>
      split
      case isTrue htouch =>
        apply hinsert _ hfree
        rw [hsplit] at h ⊢
        have hadds := h.adds_appendToCurrent (by omega) hlt hhandle
        rw [htouch] at hadds
        exact hadds
      case isFalse hapart =>
        apply hinsert _ hfree
        rw [hsplit] at h ⊢
        exact h.adds_prependOrInsert (by omega) hlt hhandle

/-! ## Release -/

theorem WellFormed.releaseRound (h : WellFormed mUsed) (hpos : 0 < first) (hle : first ≤ last)
    (hround : releaseRound first last mUsed = some mUsed') :
    WellFormed mUsed' ∧ (∀ x, Covers mUsed' x → Covers mUsed x) ∧
      ∀ x, Covers mUsed x → ¬ (first ≤ x ∧ x ≤ last) → Covers mUsed' x := by
  obtain ⟨c, hcursor, hat⟩ := h.at_currentAndNext (hpos.trans_le hle)
  have hsplit := hat.split
  have hfirst := hat.first_le
  unfold HandleRangeAllocator.releaseRound at hround
  rw [hcursor] at hround
  dsimp only at hround
  rw [hsplit] at h ⊢
  have hbounded := h.bounded
  have hzero := h.zero
  -- the round replaces the current entry by what lies outside the released range
  have hreplace : ∀ {kept : List ClosedRange}, Separated 1 kept →
      (∀ r ∈ kept, c.current.first ≤ r.first ∧ r.last ≤ c.current.last) →
      (∀ x, Covers kept x ↔ c.current.Contains x ∧ ¬ (first ≤ x ∧ x ≤ last)) →
      c.before ++ (kept ++ c.after) = mUsed' →
      WellFormed mUsed' ∧ (∀ x, Covers mUsed' x → Covers (c.before ++ c.current :: c.after) x) ∧
        ∀ x, Covers (c.before ++ c.current :: c.after) x → ¬ (first ≤ x ∧ x ≤ last) →
          Covers mUsed' x := by
    rintro kept hkept hwithin hcovers rfl
    have hkeeps : ∀ x, Covers (c.before ++ c.current :: c.after) x → ¬ (first ≤ x ∧ x ≤ last) →
        Covers (c.before ++ (kept ++ c.after)) x := by
      intro x hx hout
      rw [covers_append, covers_cons] at hx
      exact (covers_replace hcovers).mpr (hx.imp_right (Or.imp_left fun hx => ⟨hx, hout⟩))
    refine ⟨⟨h.separated.replace hkept hwithin, ?_, hkeeps 0 hzero (by omega)⟩,
      fun x hx => ?_, hkeeps⟩
    · intro r hr
      rcases mem_append.mp hr with hr | hr
      · exact hbounded r (mem_append_left _ hr)
      · rcases mem_append.mp hr with hr | hr
        · have hlast := (hwithin r hr).2
          have hcurrent := hbounded c.current (mem_append_right _ mem_cons_self)
          omega
        · exact hbounded r (mem_append_right _ (mem_cons_of_mem _ hr))
    · rw [covers_append, covers_cons]
      exact ((covers_replace hcovers).mp hx).imp_right (Or.imp_left And.left)
  split at hround
  case isTrue => contradiction
  case isFalse hoverlap =>
    split at hround
    case isTrue hinside =>
      split at hround
      case isTrue htail =>
        apply hreplace (separated_singleton (r := ⟨last + 1, c.current.last⟩) 1 htail) _ _
          (some.inj hround)
        · intro r hr
          rw [mem_singleton.mp hr]
          exact ⟨by dsimp only; omega, le_refl _⟩
        · intro x
          simp only [covers_cons, not_covers_nil, Contains]
          grind
      case isFalse htail =>
        apply hreplace (separated_nil 1) _ _ (some.inj hround)
        · intro r hr
          contradiction
        · intro x
          simp only [not_covers_nil, Contains]
          grind
    case isFalse hstart =>
      split at hround
      case isTrue htail =>
        apply hreplace (separated_singleton (r := ⟨c.current.first, first - 1⟩) 1
          (by dsimp only; omega)) _ _ (some.inj hround)
        · intro r hr
          rw [mem_singleton.mp hr]
          exact ⟨le_refl _, by dsimp only; omega⟩
        · intro x
          simp only [covers_cons, not_covers_nil, Contains]
          grind
      case isFalse htail =>
        have hboth : Separated 1 [⟨c.current.first, first - 1⟩, ⟨last + 1, c.current.last⟩] := by
          apply separated_cons.mpr
          refine ⟨by dsimp only; omega, fun r hr => ?_,
            separated_singleton 1 (by dsimp only; omega)⟩
          rw [mem_singleton.mp hr]
          dsimp only
          omega
        apply hreplace hboth _ _ (some.inj hround)
        · intro r hr
          rcases mem_pair.mp hr with rfl | rfl
          · exact ⟨le_refl _, by dsimp only; omega⟩
          · exact ⟨by dsimp only; omega, le_refl _⟩
        · intro x
          simp only [covers_cons, not_covers_nil, Contains]
          grind

/-- When the loop returns, no released handle is used any more. -/
theorem WellFormed.not_covers_of_releaseRound (h : WellFormed mUsed)
    (hpos : 0 < first) (hle : first ≤ last)
    (hround : HandleRangeAllocator.releaseRound first last mUsed = none) (hfrom : first ≤ x)
    (hto : x ≤ last) : ¬ Covers mUsed x := by
  obtain ⟨c, hcursor, hat⟩ := h.at_currentAndNext (hpos.trans_le hle)
  unfold HandleRangeAllocator.releaseRound at hround
  rw [hcursor] at hround
  dsimp only at hround
  have hover : c.current.last < first := by
    by_contra hnot
    rw [if_neg hnot] at hround
    split at hround
    · split at hround
      · contradiction
      · contradiction
    · split at hround
      · contradiction
      · contradiction
  have hsplit := hat.split
  rw [hsplit] at h ⊢
  exact h.separated.not_covers_of_gap (hover.trans_le hfrom) fun r hr =>
    hto.trans_lt (hat.lt_next r hr)

theorem WellFormed.releaseLoop (h : WellFormed mUsed) (hpos : 0 < first)
    (hle : first ≤ last) : WellFormed (releaseLoop first last mUsed) ∧
      ∀ x, Covers (HandleRangeAllocator.releaseLoop first last mUsed) x ↔
        Covers mUsed x ∧ ¬ (first ≤ x ∧ x ≤ last) := by
  induction mUsed using HandleRangeAllocator.releaseLoop.induct first last with
  | case1 mUsed hround =>
      rw [HandleRangeAllocator.releaseLoop, hround]
      refine ⟨h, fun x => ⟨fun hx => ⟨hx, fun hin => ?_⟩, And.left⟩⟩
      exact h.not_covers_of_releaseRound hpos hle hround hin.1 hin.2 hx
  | case2 mUsed mUsed' hround ih =>
    obtain ⟨hwell, hsub, hkeeps⟩ := h.releaseRound hpos hle hround
    obtain ⟨hloop, hcovers⟩ := ih hwell
    rw [HandleRangeAllocator.releaseLoop, hround]
    refine ⟨hloop, fun x => ?_⟩
    rw [hcovers x]
    exact ⟨fun hx => ⟨hsub x hx.1, hx.2⟩, fun hx => ⟨hkeeps x hx.1 hx.2, hx.2⟩⟩

theorem spec_releaseRange (h : WellFormed a.mUsed) (hfirst : first < 2 ^ 32)
    (hrange : range < 2 ^ 32) : WellFormed (a.releaseRange first range).mUsed ∧
      (a.releaseRange first range).used =
        a.used \ (Set.Ico first (first + range) \ {kInvalidHandle}) := by
  -- the released handles as `releaseRange` computes them, with the last one saturated
  have hrelease : ∀ {from' to' : Nat}, 0 < from' → from' ≤ to' →
      (∀ x < 2 ^ 32, (first ≤ x ∧ x < first + range) ∧ x ≠ 0 ↔ from' ≤ x ∧ x ≤ to') →
      WellFormed (releaseLoop from' to' a.mUsed) ∧ {x | Covers (releaseLoop from' to' a.mUsed) x} =
        a.used \ (Set.Ico first (first + range) \ {kInvalidHandle}) := by
    intro from' to' hpos hle hsame
    obtain ⟨hwell, hcovers⟩ := h.releaseLoop hpos hle
    refine ⟨hwell, ?_⟩
    ext x
    rw [Set.mem_ofPred_eq, hcovers x, Set.mem_sdiff, Set.mem_sdiff, Set.mem_Ico,
      Set.mem_singleton_iff]
    apply and_congr_right
    rintro ⟨r, hr, -, hx⟩
    exact not_congr (hsame x (hx.trans_lt (h.bounded r hr))).symm
  unfold releaseRange
  split
  case isTrue hnothing =>
    refine ⟨h, ?_⟩
    ext x
    rw [Set.mem_sdiff, Set.mem_sdiff, Set.mem_Ico, Set.mem_singleton_iff, kInvalidHandle]
    refine ⟨fun hx => ⟨hx, ?_⟩, And.left⟩
    omega
  case isFalse hsome =>
    unfold used maxHandle
    by_cases hzero : first = 0
    · rw [if_pos hzero]
      apply hrelease (by omega)
      · split
        · omega
        · omega
      · intro x hx
        split
        · omega
        · omega
    · rw [if_neg hzero]
      apply hrelease (by omega)
      · split
        · omega
        · omega
      · intro x hx
        split
        · omega
        · omega

/-! ## Runs -/

theorem spec_call (h : WellFormed a.mUsed) {action : Action} (hfits : action.Fits) :
    WellFormed (a.call action).2.mUsed ∧
      Spec a.used action (a.call action).1 (a.call action).2.used := by
  cases action with
  | allocate => exact spec_allocateRange h (by decide)
  | allocateAtOrAbove wanted => exact spec_allocateAtOrAbove h hfits
  | allocateRange range => exact spec_allocateRange h hfits
  | markAsUsed handle => exact spec_markAsUsed h hfits
  | release handle => exact spec_releaseRange h hfits (by decide)
  | releaseRange first range => exact spec_releaseRange h hfits.1 hfits.2

theorem wellFormed_run {acts : List Action} (hrun : Run step anyStep {} acts a) :
    WellFormed a.mUsed := by
  refine hrun.invariant (fun s action t (hs : WellFormed s.mUsed) _ hstep => ?_) wellFormed_initial
  obtain ⟨hfits, ⟨⟩⟩ := ite_none_right_eq_some.mp hstep
  exact (spec_call hs hfits).1

/-- After every run of calls the map is well formed, `isUsed` is membership except for the invalid
handle, and the next call does what it does on the set of used handles. -/
theorem run_refines {acts : List Action} (hrun : Run step anyStep {} acts a) :
    ({} : HandleRangeAllocator).used = {kInvalidHandle} ∧ WellFormed a.mUsed ∧
      (∀ handle, a.isUsed handle = true ↔ handle ≠ kInvalidHandle ∧ handle ∈ a.used) ∧
      ∀ action : Action, action.Fits →
        Spec a.used action (a.call action).1 (a.call action).2.used := by
  have h := wellFormed_run hrun
  refine ⟨?_, h, isUsed_iff h, fun action hfits => (spec_call h hfits).2⟩
  ext x
  simp only [used, covers_cons, not_covers_nil, Contains, Set.mem_ofPred_eq,
    Set.mem_singleton_iff, kInvalidHandle, or_false, le_zero]
  omega

/-- The last handle is taken, so the wanted one comes from the beginning. -/
theorem run_refines_wrapped : ∃ a, Run step anyStep {} [.allocateAtOrAbove (2 ^ 32 - 1),
    .allocateRange 3, .markAsUsed 6] a ∧ (a.call (.allocateAtOrAbove (2 ^ 32 - 1))).1 = .handle 4 ∧
      Spec a.used (.allocateAtOrAbove (2 ^ 32 - 1)) (.handle 4)
        (a.call (.allocateAtOrAbove (2 ^ 32 - 1))).2.used := by
  obtain ⟨a, hexec, hresult⟩ : ∃ a, exec step {} [.allocateAtOrAbove (2 ^ 32 - 1),
      .allocateRange 3, .markAsUsed 6] = some a ∧
      (a.call (.allocateAtOrAbove (2 ^ 32 - 1))).1 = .handle 4 := ⟨_, rfl, rfl⟩
  have hrun := Run.of_exec hexec
  have hspec := (run_refines hrun).2.2.2 (.allocateAtOrAbove (2 ^ 32 - 1))
    (show 2 ^ 32 - 1 < 2 ^ 32 by decide)
  rw [hresult] at hspec
  exact ⟨a, hrun, hresult, hspec⟩

/-- The map contains the invalid handle, which does not count as used. -/
theorem not_isUsed_invalidHandle : Run step anyStep {} [] {} ∧
    kInvalidHandle ∈ ({} : HandleRangeAllocator).used ∧
      ({} : HandleRangeAllocator).isUsed kInvalidHandle = false :=
  ⟨.nil _, wellFormed_initial.zero, rfl⟩

end HandleRangeAllocator

end MetalAngle.Gl
