import Mathlib.Order.Basic

/-!
# Runs of bits in a word

A run of `length` bits from `start` on is marked in a word by a mask.  A run that is free is found
by shifting its mask upwards.
-/

namespace BitRange

open BitVec Bool

variable {w : Nat}

def mask (w start length : Nat) : BitVec w := (BitVec.allOnes w >>> (w - length)) <<< start

variable {bits : BitVec w} {start length : Nat}

theorem getLsbD_mask (hlength : length ≤ w) (i : Nat) :
    (mask w start length).getLsbD i = decide (i < w ∧ start ≤ i ∧ i < start + length) := by
  unfold mask
  rw [getLsbD_shiftLeft, getLsbD_ushiftRight, getLsbD_allOnes, Bool.eq_iff_iff]
  simp only [and_eq_true, decide_eq_true_eq, not_eq_true', decide_eq_false_iff_not]
  omega

theorem mask_shiftLeft_one : mask w start length <<< 1 = mask w (start + 1) length := by
  unfold mask
  rw [shiftLeft_add]

theorem and_mask_eq_zero_iff (hlength : length ≤ w) :
    bits &&& mask w start length = 0#w ↔
      ∀ i, start ≤ i → i < start + length → bits.getLsbD i = false := by
  constructor
  · intro hzero i hstart hend
    by_cases hi : i < w
    · have hbit : (bits &&& mask w start length).getLsbD i = (0#w).getLsbD i := by rw [hzero]
      rw [getLsbD_and, getLsbD_mask hlength, getLsbD_zero,
        decide_eq_true ⟨hi, hstart, hend⟩, Bool.and_true] at hbit
      exact hbit
    · exact getLsbD_of_ge _ _ (Nat.le_of_not_lt hi)
  · intro hfree
    apply eq_of_getLsbD_eq
    intro i hi
    rw [getLsbD_and, getLsbD_mask hlength, getLsbD_zero]
    by_cases hrun : start ≤ i ∧ i < start + length
    · rw [hfree i hrun.1 hrun.2, Bool.false_and]
    · rw [decide_eq_false fun h => hrun h.2, Bool.and_false]

theorem getLsbD_or_mask (hlength : length ≤ w) (i : Nat) :
    (bits ||| mask w start length).getLsbD i ↔
      bits.getLsbD i ∨ i < w ∧ start ≤ i ∧ i < start + length := by
  rw [getLsbD_or, getLsbD_mask hlength, or_eq_true, decide_eq_true_eq]

theorem getLsbD_or_bit (position i : Nat) :
    (bits ||| 1#w <<< position).getLsbD i ↔
      bits.getLsbD i ∨ i < w ∧ i = position := by
  rw [getLsbD_or, getLsbD_shiftLeft, getLsbD_one, or_eq_true]
  apply or_congr_right
  simp only [and_eq_true, decide_eq_true_eq, not_eq_true', decide_eq_false_iff_not]
  omega

def setBit (bits : BitVec w) (position : Nat) (value : Bool) : BitVec w :=
  if value then bits ||| 1#w <<< position else bits &&& ~~~(1#w <<< position)

theorem getLsbD_setBit (position : Nat) (value : Bool) {i : Nat} (hi : i < w) :
    (setBit bits position value).getLsbD i = if i = position then value else bits.getLsbD i := by
  have hbit : (1#w <<< position).getLsbD i = decide (i = position) := by
    rw [getLsbD_shiftLeft, getLsbD_one, Bool.eq_iff_iff]
    simp only [and_eq_true, decide_eq_true_eq, not_eq_true', decide_eq_false_iff_not]
    omega
  unfold setBit
  cases value with
  | true =>
      rw [if_pos rfl, getLsbD_or, hbit]
      by_cases hsame : i = position
      · simp [hsame]
      · simp [hsame]
  | false =>
      rw [if_neg Bool.false_ne_true, getLsbD_and, getLsbD_not, hbit]
      by_cases hsame : i = position
      · simp [hsame]
      · simp [hsame, hi]

/-- The first of the next places for a run, whose mask is shifted from place to place, at which it
is free. -/
def firstFree (bits : BitVec w) : BitVec w → Nat → Nat → Option (Nat × BitVec w)
  | _, 0, _ => none
  | run, places + 1, i =>
    if bits &&& run = 0#w then some (i, bits ||| run) else firstFree bits (run <<< 1) places (i + 1)

theorem firstFree_spec {places i : Nat} {found : Nat × BitVec w}
    (h : firstFree bits (mask w start length) places i = some found) :
    ∃ shift, found.1 = i + shift ∧ bits &&& mask w (start + shift) length = 0#w ∧
      found.2 = bits ||| mask w (start + shift) length := by
  induction places generalizing start i with
  | zero => contradiction
  | succ places ih =>
    unfold firstFree at h
    split at h
    case isTrue hfree =>
      cases h
      exact ⟨0, rfl, hfree, rfl⟩
    case isFalse =>
      rw [mask_shiftLeft_one] at h
      obtain ⟨shift, hfound, hfree, hbits⟩ := ih h
      rw [Nat.add_right_comm, Nat.add_assoc] at hfree hbits
      exact ⟨shift + 1, by omega, hfree, hbits⟩

end BitRange
