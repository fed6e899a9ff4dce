import Mathlib.Tactic

/-!
# Byte memories

A memory gives every address a byte.  This module has copies into a range, little-endian
numbers and arrays of them, each with what it leaves in and outside its range.
-/

abbrev Memory := Nat → UInt8

namespace Memory

open Nat

variable {m m' : Memory}

/-- The memory with `len` bytes from `start` on taken from the beginning of `data`. -/
def copyIn (m : Memory) (start len : Nat) (data : Memory) : Memory := fun i =>
  if start ≤ i ∧ i < start + len then data (i - start) else m i

variable {start len i : Nat}

theorem copyIn_of_mem (data : Memory) (hle : start ≤ i)
    (hlt : i < start + len) : m.copyIn start len data i = data (i - start) := by
  unfold copyIn
  rw [if_pos ⟨hle, hlt⟩]

theorem copyIn_add (data : Memory) (hlt : i < len) :
    m.copyIn start len data (start + i) = data i := by
  rw [copyIn_of_mem data (by omega) (by omega), Nat.add_sub_cancel_left]

theorem copyIn_of_not_mem (data : Memory)
    (hout : ¬ (start ≤ i ∧ i < start + len)) : m.copyIn start len data i = m i := by
  unfold copyIn
  rw [if_neg hout]

/-- The number in `n` bytes from an address on. -/
def readLE (m : Memory) : Nat → Nat → Nat
  | 0, _ => 0
  | n + 1, address => (m address).toNat + 256 * m.readLE n (address + 1)

def ofNat (value : Nat) : Memory := fun k => UInt8.ofNat (value / 256 ^ k)

def writeLE (m : Memory) (n address value : Nat) : Memory := m.copyIn address n (ofNat value)

variable {n address : Nat}

theorem readLE_congr {address' : Nat} (heq : ∀ i, i < n → m (address + i) = m' (address' + i)) :
    m.readLE n address = m'.readLE n address' := by
  induction n generalizing address address' with
  | zero => rfl
  | succ n ih =>
    have hfirst : m address = m' address' := heq 0 (succ_pos n)
    have hrest : m.readLE n (address + 1) = m'.readLE n (address' + 1) := by
      apply ih
      intro i hi
      rw [add_assoc, add_assoc, add_comm 1 i]
      exact heq (i + 1) (succ_lt_succ hi)
    rw [readLE, readLE, hfirst, hrest]

theorem readLE_lt (n address : Nat) : m.readLE n address < 256 ^ n := by
  induction n generalizing address with
  | zero => exact one_pos
  | succ n ih =>
      have hbyte : (m address).toNat < 256 := (m address).toNat_lt
      have hrest := ih (address + 1)
      rw [readLE, pow_succ]
      omega

theorem ofNat_div (value k : Nat) : ofNat (value / 256) k = ofNat value (k + 1) := by
  unfold ofNat
  rw [Nat.div_div_eq_div_mul, Nat.pow_succ']

/-- The bytes of a number that fits read back as the number. -/
theorem readLE_ofNat {value : Nat} (hfits : value < 256 ^ n) :
    (ofNat value).readLE n 0 = value := by
  induction n generalizing value with
  | zero =>
      rw [pow_zero, lt_one_iff] at hfits
      exact hfits.symm
  | succ n ih =>
    have hbyte : (ofNat value 0).toNat = value % 256 := by
      unfold ofNat
      rw [Nat.pow_zero, Nat.div_one, UInt8.toNat_ofNat']
    have hfits' : value / 256 < 256 ^ n := by
      rw [pow_succ] at hfits
      omega
    have hrest : (ofNat value).readLE n (0 + 1) = value / 256 := by
      rw [← ih hfits']
      apply readLE_congr
      intro i _
      rw [zero_add, zero_add, add_comm 1 i, ofNat_div]
    rw [readLE, hbyte, hrest]
    exact mod_add_div value 256

theorem readLE_copyIn (data : Memory) (hfits : i + n ≤ len) :
    (m.copyIn start len data).readLE n (start + i) = data.readLE n i := by
  apply readLE_congr
  intro k hk
  rw [add_assoc]
  exact copyIn_add data (by omega)

theorem readLE_copyIn_of_disjoint (data : Memory)
    (hout : address + n ≤ start ∨ start + len ≤ address) :
    (m.copyIn start len data).readLE n address = m.readLE n address := by
  apply readLE_congr
  intro k hk
  apply copyIn_of_not_mem
  omega

theorem readLE_writeLE {value : Nat} (hfits : value < 256 ^ n) :
    (m.writeLE n address value).readLE n address = value :=
  calc (m.writeLE n address value).readLE n address
    _ = (ofNat value).readLE n 0 := readLE_copyIn (i := 0) (ofNat value) (by omega)
    _ = value := readLE_ofNat hfits

/-- The memory after a loop has stored `count` numbers of `n` bytes, one after the other. -/
def fill (m : Memory) (n address : Nat) (value : Nat → Nat) : Nat → Memory
  | 0 => m
  | count + 1 => (m.fill n address value count).writeLE n (address + n * count) (value count)

theorem readLE_fill {count k : Nat} {value : Nat → Nat} (hk : k < count)
    (hfits : value k < 256 ^ n) :
    (m.fill n address value count).readLE n (address + n * k) = value k := by
  induction count with
  | zero => exact absurd hk (not_lt_zero k)
  | succ count ih =>
    rw [fill]
    by_cases hlast : k = count
    · rw [hlast] at hfits ⊢
      exact readLE_writeLE hfits
    · have hlt : k < count := by omega
      have hbefore : n * k + n ≤ n * count := by
        calc n * k + n
          _ = n * (k + 1) := (mul_succ n k).symm
          _ ≤ n * count := mul_le_mul_left n hlt
      rw [writeLE, readLE_copyIn_of_disjoint _ (by omega), ih hlt]

/-- A loop whose rounds store one number each fills the array. -/
theorem foldl_range_eq_fill {count : Nat} {value : Nat → Nat} {round : Memory → Nat → Memory}
    (hround : ∀ m k, k < count → round m k = writeLE m n (address + n * k) (value k)) (m : Memory) :
    (List.range count).foldl round m = m.fill n address value count := by
  induction count with
  | zero => rfl
  | succ count ih =>
      have hearlier := ih fun m k hk => hround m k (hk.trans (lt_succ_self count))
      rw [List.range_succ, List.foldl_append, hearlier, fill]
      exact hround _ count (lt_succ_self count)

end Memory
