import Mathlib.Data.List.TakeWhile
import MetalAngle.Lib.ClosedRange

/-!
# `HandleRangeAllocator`

The used handles are kept in a map from the first to the last handle of each range.  The map
starts with the range of the invalid handle, so a search for a valid one never ends before it.
-/

namespace MetalAngle.Gl

open ClosedRange List Option

def kInvalidHandle : Nat := 0

/-- `std::numeric_limits<GLuint>::max()`. -/
def maxHandle : Nat := 2 ^ 32 - 1

/-- An iterator of `mUsed` that does not point at the end, with the entries on both sides. -/
structure Cursor where
  before : List ClosedRange
  current : ClosedRange
  after : List ClosedRange

/-- `mUsed` is sorted, as the `std::map` is. -/
structure HandleRangeAllocator where
  mUsed : List ClosedRange := [⟨0, 0⟩]

namespace HandleRangeAllocator

/-- `lower_bound`, as the entries before it and those from it on. -/
def lowerBound (mUsed : List ClosedRange) (handle : Nat) :
    List ClosedRange × List ClosedRange :=
  (mUsed.takeWhile fun r => r.first < handle, mUsed.dropWhile fun r => r.first < handle)

/-- `--` on an iterator; there is none before the beginning. -/
def decrement (before fromHere : List ClosedRange) : Option Cursor :=
  before.getLast?.map fun current => ⟨before.dropLast, current, fromHere⟩

def currentAndNext (mUsed : List ClosedRange) (handle : Nat) : Option Cursor :=
  match lowerBound mUsed handle with
  | (before, []) => decrement before []
  | (before, current :: next) =>
      if current.first > handle then decrement before (current :: next)
      else some ⟨before, current, next⟩

/-- `current->second = lastId`, merging with the next range when they touch. -/
def appendToCurrent (current : ClosedRange) (lastId : Nat) : List ClosedRange → List ClosedRange
  | [] => [⟨current.first, lastId⟩]
  | next :: rest =>
      if next.first - 1 = lastId then ⟨current.first, next.last⟩ :: rest
      else ⟨current.first, lastId⟩ :: next :: rest

def prependOrInsert (handle : Nat) : List ClosedRange → List ClosedRange
  | [] => [⟨handle, handle⟩]
  | next :: rest =>
      if next.first - 1 = handle then ⟨handle, next.last⟩ :: rest
      else ⟨handle, handle⟩ :: next :: rest

/-- The loop of `allocateRange`: the first entry with room for `range` handles behind it. -/
def findGap (range : Nat) (before : List ClosedRange) (current : ClosedRange) :
    List ClosedRange → Cursor
  | [] => ⟨before, current, []⟩
  | next :: rest =>
      if next.first - current.last > range then ⟨before, current, next :: rest⟩
      else findGap range (before ++ [current]) next rest

section

variable (a : HandleRangeAllocator)

def allocateRange (range : Nat) : Nat × HandleRangeAllocator :=
  match a.mUsed with
  | [] => (kInvalidHandle, a)  -- not reached
  | first :: rest =>
      let ⟨before, current, after⟩ := findGap range [] first rest
      let firstId := (current.last + 1) % 2 ^ 32
      let lastId := (firstId + range + (2 ^ 32 - 1)) % 2 ^ 32
      if firstId = 0 ∨ lastId < firstId then (kInvalidHandle, a)
      else (firstId, { mUsed := before ++ appendToCurrent current lastId after })

def allocate : Nat × HandleRangeAllocator := a.allocateRange 1

def allocateAtOrAbove (wanted : Nat) : Nat × HandleRangeAllocator :=
  if wanted = 0 ∨ wanted = 1 then a.allocateRange 1
  else
    match currentAndNext a.mUsed wanted with
    | none => (kInvalidHandle, a)  -- not reached
    | some ⟨before, current, next⟩ =>
        if wanted - 1 ≤ current.last then
          let lastId := (current.last + 1) % 2 ^ 32
          if lastId = 0 then a.allocateRange 1
          else (lastId, { mUsed := before ++ appendToCurrent current lastId next })
        else (wanted, { mUsed := before ++ current :: prependOrInsert wanted next })

def markAsUsed (handle : Nat) : Bool × HandleRangeAllocator :=
  let (before, next) := lowerBound a.mUsed handle
  if next.head?.any fun r => r.first = handle then (false, a)
  else
    match decrement before next with
    | none => (false, a)  -- not reached
    | some ⟨before, current, next⟩ =>
        if handle ≤ current.last then (false, a)
        else if current.last + 1 = handle then
          (true, { mUsed := before ++ appendToCurrent current handle next })
        else (true, { mUsed := before ++ current :: prependOrInsert handle next })

end

/-- One round of the loop of `releaseRange`, or none when the loop returns. -/
def releaseRound (first last : Nat) (mUsed : List ClosedRange) : Option (List ClosedRange) :=
  match currentAndNext mUsed last with
  | none => none  -- not reached
  | some ⟨before, current, next⟩ =>
    if current.last < first then none
    else if first ≤ current.first then
      if last < current.last then some (before ++ ⟨last + 1, current.last⟩ :: next)
      else some (before ++ next)
    else if current.last ≤ last then
      some (before ++ ⟨current.first, first - 1⟩ :: next)
    else some (before ++ ⟨current.first, first - 1⟩ :: ⟨last + 1, current.last⟩ :: next)

def overlapCount (first last : Nat) (mUsed : List ClosedRange) : Nat :=
  mUsed.countP fun r => decide (r.first ≤ last ∧ first ≤ r.last)

theorem decrement_eq_some {before fromHere : List ClosedRange} {c : Cursor}
    (h : decrement before fromHere = some c) :
    before = c.before ++ [c.current] ∧ c.after = fromHere := by
  obtain ⟨current, hlast, rfl⟩ := map_eq_some_iff.mp h
  exact ⟨(dropLast_append_getLast? current hlast).symm, rfl⟩

theorem currentAndNext_eq_some {mUsed : List ClosedRange} {handle : Nat} {c : Cursor}
    (h : currentAndNext mUsed handle = some c) :
    mUsed = c.before ++ c.current :: c.after ∧ c.current.first ≤ handle := by
  have hsplit : mUsed.takeWhile (fun r => r.first < handle) ++
      mUsed.dropWhile (fun r => r.first < handle) = mUsed := takeWhile_append_dropWhile
  have hback : ∀ {fromHere},
      decrement (mUsed.takeWhile fun r => r.first < handle) fromHere = some c →
      mUsed.takeWhile (fun r => r.first < handle) ++ fromHere =
        c.before ++ c.current :: c.after ∧ c.current.first ≤ handle := by
    intro fromHere hdecrement
    obtain ⟨hbefore, rfl⟩ := decrement_eq_some hdecrement
    have hmem : c.current ∈ mUsed.takeWhile fun r => r.first < handle := by
      rw [hbefore]
      exact mem_append_right _ (mem_singleton_self _)
    refine ⟨by rw [hbefore, append_assoc]; rfl, ?_⟩
    have hlt := mem_takeWhile_imp hmem
    exact Nat.le_of_lt (of_decide_eq_true hlt)
  unfold currentAndNext lowerBound at h
  cases hfrom : mUsed.dropWhile fun r => r.first < handle with
  | nil =>
      rw [hfrom] at h hsplit
      rw [← hsplit]
      exact hback h
  | cons current next =>
    rw [hfrom] at h hsplit
    dsimp only at h
    rw [← hsplit]
    split at h
    case isTrue => exact hback h
    case isFalse hle =>
      cases h
      exact ⟨rfl, Nat.not_lt.mp hle⟩

/-- Each round finishes one of the entries that overlap the released handles. -/
theorem overlapCount_releaseRound_lt {first last : Nat} {mUsed mUsed' : List ClosedRange}
    (h : releaseRound first last mUsed = some mUsed') :
    overlapCount first last mUsed' < overlapCount first last mUsed := by
  unfold releaseRound at h
  split at h
  case h_1 => contradiction
  case h_2 before current next hcursor =>
    obtain ⟨rfl, hfirst⟩ := currentAndNext_eq_some hcursor
    dsimp only at hfirst ⊢
    unfold overlapCount
    split at h
    case isTrue => contradiction
    case isFalse hlast =>
      have hcurrent : decide (current.first ≤ last ∧ first ≤ current.last) = true :=
        decide_eq_true ⟨hfirst, Nat.not_lt.mp hlast⟩
      have hright : decide (last + 1 ≤ last ∧ first ≤ current.last) = false :=
        decide_eq_false (by omega)
      split at h
      · split at h
        · cases h
          simp only [countP_append, countP_cons, hcurrent, hright, if_true]
          simp
        · cases h
          simp only [countP_append, countP_cons, hcurrent, if_true]
          omega
      · have hleft : decide (current.first ≤ last ∧ first ≤ first - 1) = false :=
          decide_eq_false (by omega)
        split at h
        · cases h
          simp only [countP_append, countP_cons, hcurrent, hleft, if_true]
          simp
        · cases h
          simp only [countP_append, countP_cons, hcurrent, hleft, hright, if_true]
          simp

/-- The loop of `releaseRange`. -/
def releaseLoop (first last : Nat) (mUsed : List ClosedRange) : List ClosedRange :=
  match _h : releaseRound first last mUsed with
  | none => mUsed
  | some mUsed' => releaseLoop first last mUsed'
termination_by overlapCount first last mUsed
decreasing_by exact overlapCount_releaseRound_lt _h

def releaseRange (a : HandleRangeAllocator) (first range : Nat) : HandleRangeAllocator :=
  if range = 0 ∨ first = 0 ∧ range = 1 then a
  else
    let (first, range) := if first = 0 then (first + 1, range - 1) else (first, range)
    let last := (first + range + (2 ^ 32 - 1)) % 2 ^ 32
    let last := if last < first then maxHandle else last
    { mUsed := releaseLoop first last a.mUsed }

def release (a : HandleRangeAllocator) (handle : Nat) : HandleRangeAllocator :=
  a.releaseRange handle 1

def isUsed (a : HandleRangeAllocator) (handle : Nat) : Bool :=
  if handle = kInvalidHandle then false
  else
    let (before, current) := lowerBound a.mUsed handle
    if current.head?.any fun r => r.first = handle then true
    else
      match decrement before current with
      | none => false  -- not reached
      | some c => decide (handle ≤ c.current.last)

inductive Action
  | allocate
  | allocateAtOrAbove (wanted : Nat)
  | allocateRange (range : Nat)
  | markAsUsed (handle : Nat)
  | release (handle : Nat)
  | releaseRange (first range : Nat)

inductive Result
  | handle (id : Nat)
  | success (ok : Bool)
  | done

def call (a : HandleRangeAllocator) : Action → Result × HandleRangeAllocator
  | .allocate => (.handle a.allocate.1, a.allocate.2)
  | .allocateAtOrAbove wanted =>
      (.handle (a.allocateAtOrAbove wanted).1, (a.allocateAtOrAbove wanted).2)
  | .allocateRange range => (.handle (a.allocateRange range).1, (a.allocateRange range).2)
  | .markAsUsed handle => (.success (a.markAsUsed handle).1, (a.markAsUsed handle).2)
  | .release handle => (.done, a.release handle)
  | .releaseRange first range => (.done, a.releaseRange first range)

def Action.Fits : Action → Prop
  | .allocate => True
  | .allocateAtOrAbove wanted => wanted < 2 ^ 32
  | .allocateRange range => range < 2 ^ 32
  | .markAsUsed handle => handle < 2 ^ 32
  | .release handle => handle < 2 ^ 32
  | .releaseRange first range => first < 2 ^ 32 ∧ range < 2 ^ 32

instance : (action : Action) → Decidable action.Fits
  | .allocate => .isTrue trivial
  | .allocateAtOrAbove _ => inferInstanceAs (Decidable (_ < _))
  | .allocateRange _ => inferInstanceAs (Decidable (_ < _))
  | .markAsUsed _ => inferInstanceAs (Decidable (_ < _))
  | .release _ => inferInstanceAs (Decidable (_ < _))
  | .releaseRange _ _ => inferInstanceAs (Decidable (_ ∧ _))

def step (a : HandleRangeAllocator) (action : Action) : Option HandleRangeAllocator :=
  if action.Fits then some (a.call action).2 else none

end HandleRangeAllocator

end MetalAngle.Gl
