import Mathlib.Algebra.BigOperators.Fin
import Mathlib.Algebra.Order.BigOperators.Group.Finset

/-!
# Subjects and the slots that observe them

A slot points at one subject or at none, and each subject has the list of the slots that it
notifies.  When the lists have exactly the slots that point at their subject, a notification
restores what has to hold of every slot.
-/

namespace Observers

open Finset List Function

variable {Slot Subject State : Type*}

section

variable [DecidableEq Slot]

def removeAndPermute (slots : List Slot) (s : Slot) : List Slot :=
  match slots.getLast? with
  | some last => slots.dropLast.replace s last
  | none => []

theorem removeAndPermute_concat (slots : List Slot) (s last : Slot) :
    removeAndPermute (slots ++ [last]) s = slots.replace s last := by
  simp [removeAndPermute]

theorem replace_perm {slots : List Slot} {s : Slot} (hs : s ∈ slots) (new : Slot) :
    (slots.replace s new).Perm (new :: slots.erase s) := by
  induction slots with
  | nil => contradiction
  | cons first rest ih =>
    by_cases heq : first = s
    · subst heq
      simp
    · have hrest : s ∈ rest := (mem_cons.mp hs).resolve_left (Ne.symm heq)
      rw [replace_cons, erase_cons_tail (by simpa using heq)]
      have hne : (s == first) = false := by simpa using Ne.symm heq
      rw [hne]
      exact ((ih hrest).cons first).trans (.swap new first _)

/-- Only the order of the list is different from erasing. -/
theorem removeAndPermute_perm {slots : List Slot} {s : Slot} (hnodup : slots.Nodup)
    (hs : s ∈ slots) : (removeAndPermute slots s).Perm (slots.erase s) := by
  induction slots using reverseRecOn with
  | nil => contradiction
  | append_singleton front last _ =>
    rw [removeAndPermute_concat]
    by_cases hfront : s ∈ front
    · rw [erase_append_left _ hfront]
      have hcomm : (last :: front.erase s).Perm (front.erase s ++ [last]) :=
        (perm_append_singleton last _).symm
      exact (replace_perm hfront last).trans hcomm
    · have hlast : s = last := by simpa [hfront] using hs
      subst hlast
      rw [erase_append_right _ hfront, replace_of_not_mem hfront]
      simp

end

/-- A subject's list has exactly the slots that point at it. -/
structure Registered (bound : Slot → Option Subject) (observers : Subject → List Slot) : Prop where
  nodup : ∀ p, (observers p).Nodup
  mem_iff : ∀ p s, s ∈ observers p ↔ bound s = some p

variable {bound bound' : Slot → Option Subject} {observers observers' : Subject → List Slot}

theorem registered_empty : Registered (fun _ : Slot => (none : Option Subject)) fun _ => [] where
  nodup _ := nodup_nil
  mem_iff _ _ := by simp

section

variable [DecidableEq Slot] [DecidableEq Subject]

def removeFrom (observers : Subject → List Slot) (subject : Option Subject) (s : Slot) :
    Subject → List Slot := fun p =>
  if subject = some p then removeAndPermute (observers p) s else observers p

def addTo (observers : Subject → List Slot) (subject : Option Subject) (s : Slot) :
    Subject → List Slot := fun p =>
  if subject = some p then observers p ++ [s] else observers p

section

variable (h : Registered bound observers)
include h

theorem Registered.remove (s : Slot) :
    Registered (Function.update bound s none) (removeFrom observers (bound s) s) := by
  have hperm : ∀ p, bound s = some p →
      (removeAndPermute (observers p) s).Perm ((observers p).erase s) := fun p hp =>
    removeAndPermute_perm (h.nodup p) ((h.mem_iff p s).mpr hp)
  constructor
  case nodup =>
    intro p
    unfold removeFrom
    split
    case isTrue hp => exact (hperm p hp).nodup_iff.mpr ((h.nodup p).erase s)
    case isFalse => exact h.nodup p
  case mem_iff =>
    intro p t
    have hold := h.mem_iff p t
    unfold removeFrom
    split
    case isTrue hp =>
      rw [(hperm p hp).mem_iff, (h.nodup p).mem_erase_iff, hold]
      by_cases ht : t = s <;> simp [ht]
    case isFalse hp =>
      rw [hold]
      by_cases ht : t = s <;> simp [ht, hp]

/-- A slot that points at nothing is made to point at a subject. -/
theorem Registered.add {s : Slot} (hs : bound s = none)
    (new : Option Subject) :
    Registered (Function.update bound s new) (addTo observers new s) := by
  constructor
  case nodup =>
    intro p
    have hfresh : s ∉ observers p := by simp [h.mem_iff, hs]
    unfold addTo
    split
    case isTrue =>
      rw [← concat_eq_append]
      exact List.Nodup.concat hfresh (h.nodup p)
    case isFalse => exact h.nodup p
  case mem_iff =>
    intro p t
    have hold := h.mem_iff p t
    unfold addTo
    by_cases ht : t = s
    · subst ht
      split <;> simp_all
    · split <;> simp [ht, hold]

theorem Registered.rebind (s : Slot) (new : Option Subject) :
    Registered (Function.update bound s new) (addTo (removeFrom observers (bound s) s) new s) := by
  have hadd := (h.remove s).add (update_self s none bound) new
  rwa [update_idem] at hadd

end

end

section

variable [Fintype Slot] [DecidableEq Subject]

def pointing (slots : Slot → Option Subject) (p : Subject) : Nat :=
  (Finset.univ.filter fun s => slots s = some p).card

def pointsAt (subject : Option Subject) (p : Subject) : Int := if subject = some p then 1 else 0

@[simp] theorem pointsAt_none (p : Subject) : pointsAt none p = 0 := rfl

theorem pointsAt_nonneg (subject : Option Subject) (p : Subject) : 0 ≤ pointsAt subject p := by
  unfold pointsAt
  split <;> decide

theorem pointing_eq_sum (slots : Slot → Option Subject) (p : Subject) :
    (pointing slots p : Int) = ∑ s, pointsAt (slots s) p := by
  unfold pointing pointsAt
  rw [card_filter]
  exact Nat.cast_sum _ _ |>.trans (sum_congr rfl fun s _ => by split <;> rfl)

theorem pointing_update [DecidableEq Slot] (slots : Slot → Option Subject) (s : Slot)
    (new : Option Subject) (p : Subject) :
    (pointing (Function.update slots s new) p : Int) =
      pointing slots p - pointsAt (slots s) p + pointsAt new p := by
  have hold := add_sum_erase univ (fun t => pointsAt (slots t) p) (mem_univ s)
  have hnew := add_sum_erase univ
    (fun t => pointsAt (update slots s new t) p) (mem_univ s)
  have hrest : ∑ t ∈ univ.erase s, pointsAt (update slots s new t) p =
      ∑ t ∈ univ.erase s, pointsAt (slots t) p := by
    apply sum_congr rfl
    intro t ht
    rw [update_of_ne (ne_of_mem_erase ht)]
  rw [pointing_eq_sum, pointing_eq_sum, ← hold, ← hnew, hrest, update_self]
  omega

theorem pointsAt_le_pointing (slots : Slot → Option Subject) (s : Slot) (p : Subject) :
    pointsAt (slots s) p ≤ pointing slots p := by
  rw [pointing_eq_sum]
  exact single_le_sum (f := fun t => pointsAt (slots t) p)
    (fun t _ => pointsAt_nonneg (slots t) p) (mem_univ s)

theorem pointing_pos {slots : Slot → Option Subject} {p : Subject} :
    0 < pointing slots p ↔ ∃ s, slots s = some p := by
  unfold pointing
  rw [card_pos, filter_nonempty_iff]
  simp

end

def notify (update : Slot → State → State) (slots : List Slot) (state : State) : State :=
  slots.foldl (fun state s => update s state) state

variable {update : Slot → State → State}

theorem notify_preserves {P : State → Prop} (hupdate : ∀ s state, P state → P (update s state))
    (slots : List Slot) {state : State} (hstate : P state) : P (notify update slots state) := by
  induction slots generalizing state with
  | nil => exact hstate
  | cons s slots ih => exact ih (hupdate s state hstate)

/-- Under what every update keeps, what the update of a slot establishes and no other update breaks
holds of every slot that is told and of every slot where it held. -/
theorem notify_restores {I : State → Prop} (hkeep : ∀ s state, I state → I (update s state))
    {Q : Slot → State → Prop} (hself : ∀ s state, I state → Q s (update s state))
    (hother : ∀ s t state, I state → Q s state → Q s (update t state)) {slots : List Slot}
    {state : State} {s : Slot} (hstate : I state) (h : s ∈ slots ∨ Q s state) :
    Q s (notify update slots state) := by
  induction slots generalizing state with
  | nil => exact h.resolve_left not_mem_nil
  | cons first slots ih =>
    apply ih (hkeep first state hstate)
    rcases h with hmem | hheld
    · rcases mem_cons.mp hmem with rfl | hrest
      · exact .inr (hself s state hstate)
      · exact .inl hrest
    · exact .inr (hother s first state hstate hheld)

end Observers
