import Mathlib.Tactic.Common

/-!
# Caches that follow a source by dirty bits

A cache is derived from a source piece by piece.  A change of the source marks bits, and the update
of a marked bit, some time later, brings a part of the cache up to date.  An aspect of the cache is
a part that certain updates bring up to date and all others leave alone.
-/

namespace DirtyBits

structure Tracker (Source Cache Bit Aspect : Type*) where
  update : Bit → Source → Cache → Cache
  /-- The aspect of the cache is what it should be for the source. -/
  Fresh : Aspect → Source → Cache → Prop
  refreshedBy : Aspect → Bit → Prop
  refreshed (aspect : Aspect) : ∃ bit, refreshedBy aspect bit
  fresh_update {aspect : Aspect} {bit : Bit} (s : Source) (c : Cache) :
    refreshedBy aspect bit → Fresh aspect s (update bit s c)
  fresh_frame {aspect : Aspect} {bit : Bit} {s : Source} {c : Cache} :
    ¬ refreshedBy aspect bit → Fresh aspect s c → Fresh aspect s (update bit s c)

def clearBits {Bit : Type*} [DecidableEq Bit] (dirty : Bit → Bool) (order : List Bit) :
    Bit → Bool := fun bit =>
  dirty bit && decide (bit ∉ order)

variable {Source Cache Bit Aspect : Type*}

section

variable [DecidableEq Bit]

theorem clearBits_nil (dirty : Bit → Bool) : clearBits dirty [] = dirty := by
  funext bit
  rw [clearBits, decide_eq_true List.not_mem_nil, Bool.and_true]

theorem clearBits_cons (dirty : Bit → Bool) (bit : Bit) (rest : List Bit) :
    clearBits (clearBits dirty [bit]) rest = clearBits dirty (bit :: rest) := by
  funext other
  simp [clearBits, Bool.and_assoc]

end

namespace Tracker

variable (T : Tracker Source Cache Bit Aspect)

def deliver (order : List Bit) (s : Source) (c : Cache) : Cache :=
  order.foldl (fun c bit => T.update bit s c) c

/-- Every aspect is fresh that no dirty bit refreshes. -/
def Tracks (dirty : Bit → Bool) (s : Source) (c : Cache) : Prop :=
  ∀ aspect, (∀ bit, T.refreshedBy aspect bit → dirty bit = false) → T.Fresh aspect s c

variable {T} {dirty : Bit → Bool} {s s' : Source} {c : Cache}

theorem tracks_allDirty (s : Source) (c : Cache) : T.Tracks (fun _ => true) s c := by
  intro aspect hclean
  obtain ⟨bit, hbit⟩ := T.refreshed aspect
  exact absurd (hclean bit hbit) Bool.noConfusion

theorem Tracks.change (h : T.Tracks dirty s c) {marked : Bit → Bool}
    (hframe : ∀ aspect, (∀ bit, T.refreshedBy aspect bit → marked bit = false) →
      T.Fresh aspect s c → T.Fresh aspect s' c) :
    T.Tracks (fun bit => dirty bit || marked bit) s' c := by
  intro aspect hclean
  have hboth := fun bit hbit => Bool.or_eq_false_iff.mp (hclean bit hbit)
  exact hframe aspect (fun bit hbit => (hboth bit hbit).2)
    (h aspect fun bit hbit => (hboth bit hbit).1)

section

variable [DecidableEq Bit]

theorem Tracks.update (h : T.Tracks dirty s c) (bit : Bit) :
    T.Tracks (clearBits dirty [bit]) s (T.update bit s c) := by
  intro aspect hclean
  by_cases hrefreshed : T.refreshedBy aspect bit
  · exact T.fresh_update s c hrefreshed
  · refine T.fresh_frame hrefreshed (h aspect fun other hother => ?_)
    have hne : other ∉ [bit] := by
      intro hmem
      rw [List.mem_singleton.mp hmem] at hother
      exact hrefreshed hother
    have hother := hclean other hother
    rwa [clearBits, decide_eq_true hne, Bool.and_true] at hother

/-- Bits may be dealt with in any order, and any number of times. -/
theorem Tracks.deliver (h : T.Tracks dirty s c) (order : List Bit) :
    T.Tracks (clearBits dirty order) s (T.deliver order s c) := by
  induction order generalizing dirty c with
  | nil =>
      rw [clearBits_nil]
      exact h
  | cons bit rest ih =>
      rw [← clearBits_cons]
      exact ih (h.update bit)

/-- When all dirty bits are dealt with, all of the cache is fresh. -/
theorem Tracks.fresh_deliver (h : T.Tracks dirty s c) {order : List Bit}
    (hall : ∀ bit, dirty bit → bit ∈ order) (aspect : Aspect) :
    T.Fresh aspect s (T.deliver order s c) := by
  refine h.deliver order aspect fun bit _ => ?_
  cases hdirty : dirty bit with
  | false => rw [clearBits, hdirty, Bool.false_and]
  | true =>
      rw [clearBits, decide_eq_false (not_not_intro (hall bit hdirty)), Bool.and_false]

/-- All updates make a fresh cache, whatever they start from. -/
theorem fresh_rebuild {order : List Bit} (hall : ∀ bit, bit ∈ order) (s : Source) (c : Cache)
    (aspect : Aspect) : T.Fresh aspect s (T.deliver order s c) :=
  (tracks_allDirty s c).fresh_deliver (fun bit _ => hall bit) aspect

end

end Tracker

end DirtyBits
