import Mathlib.Data.Int.Basic
import Mathlib.Data.Option.Basic

/-!
# Checked numbers

A checked number is below a limit, or it is invalid.  An operation is done on unbounded integers,
and its result is invalid where it leaves the range or where an argument is invalid.
-/

structure CheckedNumeric (limit : Nat) where
  value? : Option (Fin limit)

namespace CheckedNumeric

variable {limit : Nat}

def ofInt (n : Int) : CheckedNumeric limit :=
  ⟨if h : 0 ≤ n ∧ n < limit then some ⟨n.toNat, by omega⟩ else none⟩

def invalid : CheckedNumeric limit := ⟨none⟩

def lift (op : Int → Int → Int) (x y : CheckedNumeric limit) : CheckedNumeric limit :=
  match x.value?, y.value? with
  | some a, some b => ofInt (op a.val b.val)
  | _, _ => invalid

def liftDivision (op : Int → Int → Int) (x y : CheckedNumeric limit) : CheckedNumeric limit :=
  match y.value? with
  | some b => if b.val = 0 then invalid else lift op x y
  | none => invalid

instance : Add (CheckedNumeric limit) := ⟨lift (· + ·)⟩
instance : Sub (CheckedNumeric limit) := ⟨lift (· - ·)⟩
instance : Mul (CheckedNumeric limit) := ⟨lift (· * ·)⟩
instance : Div (CheckedNumeric limit) := ⟨liftDivision (· / ·)⟩
instance : Mod (CheckedNumeric limit) := ⟨liftDivision (· % ·)⟩

def value (x : CheckedNumeric limit) : Option Nat := x.value?.map Fin.val

variable {x y : CheckedNumeric limit} {n : Nat}

theorem value_ofInt_eq_some {k : Int} :
    (ofInt k : CheckedNumeric limit).value = some n ↔ k = n ∧ n < limit := by
  unfold ofInt value
  by_cases h : 0 ≤ k ∧ k < limit
  · rw [dif_pos h]
    simp only [Option.map_some, Option.some.injEq]
    omega
  · rw [dif_neg h]
    simp only [Option.map_none, reduceCtorEq, false_iff]
    omega

@[simp] theorem value_invalid : (invalid : CheckedNumeric limit).value = none := rfl

theorem value_lift_eq_some {op : Int → Int → Int} :
    (lift op x y).value = some n ↔
      ∃ a b, x.value = some a ∧ y.value = some b ∧ op a b = n ∧ n < limit := by
  unfold lift
  rcases hx : x.value? with _ | a
  · simp [value, hx, invalid]
  · rcases hy : y.value? with _ | b
    · simp [value, hx, hy, invalid]
    · have hvalue : x.value = some a.val ∧ y.value = some b.val := by simp [value, hx, hy]
      simp only [value_ofInt_eq_some, hvalue.1, hvalue.2, Option.some.injEq]
      constructor
      · exact fun h => ⟨a, b, rfl, rfl, h⟩
      · rintro ⟨_, _, rfl, rfl, h⟩
        exact h

theorem value_add_eq_some :
    (x + y).value = some n ↔
      ∃ a b, x.value = some a ∧ y.value = some b ∧ a + b = n ∧ n < limit := by
  show (lift (· + ·) x y).value = some n ↔ _
  rw [value_lift_eq_some]
  constructor
  · rintro ⟨a, b, hx, hy, hn, hlt⟩
    exact ⟨a, b, hx, hy, by omega, hlt⟩
  · rintro ⟨a, b, hx, hy, hn, hlt⟩
    exact ⟨a, b, hx, hy, by omega, hlt⟩

theorem value_sub_eq_some :
    (x - y).value = some n ↔
      ∃ a b, x.value = some a ∧ y.value = some b ∧ a = n + b ∧ n < limit := by
  show (lift (· - ·) x y).value = some n ↔ _
  rw [value_lift_eq_some]
  constructor
  · rintro ⟨a, b, hx, hy, hn, hlt⟩
    exact ⟨a, b, hx, hy, by omega, hlt⟩
  · rintro ⟨a, b, hx, hy, hn, hlt⟩
    exact ⟨a, b, hx, hy, by omega, hlt⟩

theorem value_mul_eq_some :
    (x * y).value = some n ↔
      ∃ a b, x.value = some a ∧ y.value = some b ∧ a * b = n ∧ n < limit := by
  show (lift (· * ·) x y).value = some n ↔ _
  rw [value_lift_eq_some]
  have hcast (a b : Nat) : (a : Int) * (b : Int) = (n : Int) ↔ a * b = n := by
    rw [← Int.natCast_mul, Int.ofNat_inj]
  simp only [hcast]

theorem eq_of_value_ofInt_mul {a b : Int}
    (h : (ofInt a * ofInt b : CheckedNumeric limit).value = some n) :
    ∃ k l : Nat, a = k ∧ b = l ∧ k * l = n := by
  obtain ⟨k, l, hk, hl, hn, -⟩ := value_mul_eq_some.mp h
  exact ⟨k, l, (value_ofInt_eq_some.mp hk).1, (value_ofInt_eq_some.mp hl).1, hn⟩

theorem value_mod_eq_some :
    (x % y).value = some n ↔
      ∃ a b, x.value = some a ∧ y.value = some b ∧ b ≠ 0 ∧ a % b = n ∧ n < limit := by
  show (liftDivision (· % ·) x y).value = some n ↔ _
  unfold liftDivision
  rcases hy : y.value? with _ | b
  · simp [value, hy, invalid]
  · have hvalue : y.value = some b.val := by simp [value, hy]
    by_cases hzero : b.val = 0
    · simp [hzero, hvalue]
    · simp only [if_neg hzero, value_lift_eq_some, hvalue, Option.some.injEq]
      constructor
      · rintro ⟨a, _, hx, rfl, hn, hlt⟩
        exact ⟨a, _, hx, rfl, hzero, by omega, hlt⟩
      · rintro ⟨a, _, hx, rfl, -, hn, hlt⟩
        exact ⟨a, _, hx, rfl, by omega, hlt⟩

end CheckedNumeric
