import MetalAngle.Translator.ComponentFolding

/-!
# Arithmetic of constants

Sums, differences, products and shifts of `TConstantUnion`s.  The integer ones are those of bit
vectors, though the code keeps away from what C++ leaves undefined for negative numbers.
-/

namespace MetalAngle.Translator.ComponentFolding

namespace TConstantUnion

def type : TConstantUnion → TBasicType
  | fConst _ => .EbtFloat
  | iConst _ => .EbtInt
  | uConst _ => .EbtUInt
  | bConst _ => .EbtBool

end TConstantUnion

inductive ImplicitTypeConversion
  | Same | Left | Right | Invalid

def GetConversion (t1 t2 : TBasicType) : ImplicitTypeConversion :=
  if t1 = t2 then .Same
  else
    match t1, t2 with
    | .EbtInt, .EbtFloat | .EbtUInt, .EbtFloat => .Left
    | .EbtFloat, .EbtInt | .EbtFloat, .EbtUInt => .Right
    | _, _ => .Invalid

/-- The warnings of `CheckedSum`, `CheckedDiff` and `CheckedMul`. -/
def checked (operation : Float → Float → Float) (lhs rhs : Float) : Folded :=
  let result := operation lhs rhs
  (.fConst result, isNaN result && !isNaN lhs && !isNaN rhs ||
    isInf result && !isInf lhs && !isInf rhs)

def WrappingMul (lhs rhs : BitVec 32) : BitVec 32 :=
  let resultWide := lhs.signExtend 64 * rhs.signExtend 64
  (resultWide &&& 0xffffffff).setWidth 32

/-- What `add`, `sub` and `mul` share, where `none` is an assertion that fails. -/
def foldArithmetic (F : FloatArithmetic) (onInt onUInt : BitVec 32 → BitVec 32 → BitVec 32)
    (onFloat : Float → Float → Float) (lhs rhs : TConstantUnion) : Option Folded :=
  match GetConversion lhs.type rhs.type with
  | .Same =>
      match lhs.type with
      | .EbtInt => setIConst (onInt lhs.bits rhs.bits)
      | .EbtUInt => setUConst (onUInt lhs.bits rhs.bits)
      | .EbtFloat => checked onFloat lhs.bits rhs.bits
      | .EbtBool => none
  | .Invalid => none
  | _ => checked onFloat (getFConst F lhs) (getFConst F rhs)

/-- `WrappingSum` casts to `uint32_t` and back. -/
def add (F : FloatArithmetic) : TConstantUnion → TConstantUnion → Option Folded :=
  foldArithmetic F (· + ·) (· + ·) F.add

def sub (F : FloatArithmetic) : TConstantUnion → TConstantUnion → Option Folded :=
  foldArithmetic F (· - ·) (· - ·) F.sub

def mul (F : FloatArithmetic) : TConstantUnion → TConstantUnion → Option Folded :=
  foldArithmetic F WrappingMul (· * ·) F.mul

def IsValidShiftOffset : TConstantUnion → Bool
  | .iConst i => (0#32).sle i && i.sle 31
  | .uConst u => u.ule 31
  | _ => false

/-- The right shift of an `int`, which shifts no negative number. -/
def rshiftInt (lhs : BitVec 32) (shiftOffset : Nat) : BitVec 32 :=
  if 0 < shiftOffset then
    let isMin := lhs = .intMin 32
    let lhsSafe := if isMin then -0x40000000#32 else lhs
    let shiftOffset := if isMin then shiftOffset - 1 else shiftOffset
    if 0 < shiftOffset then
      if lhsSafe.slt 0 then
        (lhsSafe &&& 0x7fffffff).sshiftRight shiftOffset ||| 0xffffffff#32 <<< (31 - shiftOffset)
      else lhsSafe.sshiftRight shiftOffset
    else lhsSafe
  else lhs

/-- What the shifts share, where `none` is an assertion that fails. -/
def foldShift (onInt onUInt : BitVec 32 → Nat → BitVec 32) (lhs rhs : TConstantUnion) :
    Option Folded :=
  match lhs.type with
  | .EbtInt =>
      some <| if IsValidShiftOffset rhs then setIConst (onInt lhs.bits rhs.bits.toNat)
      else UndefinedConstantFoldingError .EbtInt
  | .EbtUInt =>
      some <| if IsValidShiftOffset rhs then setUConst (onUInt lhs.bits rhs.bits.toNat)
      else UndefinedConstantFoldingError .EbtUInt
  | _ => none

def rshift : TConstantUnion → TConstantUnion → Option Folded := foldShift rshiftInt (· >>> ·)

def lshift : TConstantUnion → TConstantUnion → Option Folded := foldShift (· <<< ·) (· <<< ·)

theorem setWidth_signExtend (x : BitVec 32) : (x.signExtend 64).setWidth 32 = x := by
  apply BitVec.eq_of_getLsbD_eq
  intro i hi
  simp [BitVec.getLsbD_signExtend, hi]
  omega

theorem WrappingMul_eq (lhs rhs : BitVec 32) : WrappingMul lhs rhs = lhs * rhs := by
  have hmask : BitVec.setWidth 32 (0xffffffff : BitVec 64) = BitVec.allOnes 32 := rfl
  unfold WrappingMul
  rw [BitVec.setWidth_and, hmask, BitVec.and_allOnes, BitVec.setWidth_mul _ _ (by decide),
    setWidth_signExtend, setWidth_signExtend]

/-- The sign bit that was cleared comes back with the bits above it. -/
theorem sshiftRight_eq_or {x : BitVec 32} {n : Nat} (hmsb : x.msb) (hn : n < 32) :
    (x &&& 0x7fffffff).sshiftRight n ||| 0xffffffff#32 <<< (31 - n) = x.sshiftRight n := by
  have hmask (i : Nat) : (0x7fffffff : BitVec 32).getLsbD i = decide (i < 31) := by
    rw [show (0x7fffffff : BitVec 32) = BitVec.ofNat 32 (2 ^ 31 - 1) from rfl, BitVec.getLsbD_ofNat,
      Nat.testBit_two_pow_sub_one]
    by_cases hi : i < 31
    · simp [hi]
      omega
    · simp [hi]
  have hcleared : (x &&& 0x7fffffff).msb = false := by
    rw [BitVec.msb_eq_getLsbD_last, BitVec.getLsbD_and, hmask]
    simp
  have hlast : x.getLsbD 31 := hmsb
  rw [BitVec.sshiftRight_eq_of_msb_false hcleared]
  apply BitVec.eq_of_getLsbD_eq
  intro i hi
  rw [BitVec.getLsbD_or, BitVec.getLsbD_ushiftRight, BitVec.getLsbD_and, hmask,
    BitVec.getLsbD_shiftLeft, show 0xffffffff#32 = BitVec.allOnes 32 from rfl,
    BitVec.getLsbD_allOnes, BitVec.getLsbD_sshiftRight, hmsb]
  have hshifted : i - (31 - n) < 32 := by omega
  rcases Nat.lt_trichotomy (n + i) 31 with hlow | hsign | hhigh
  · simp [-BitVec.getLsbD_eq_getElem, hi, hlow, show n + i < 32 by omega,
      show i < 31 - n by omega]
  · simp [-BitVec.getLsbD_eq_getElem, hi, hshifted, hsign, hlast, show ¬ i < 31 - n by omega]
  · simp [-BitVec.getLsbD_eq_getElem, hi, hshifted, show ¬ n + i < 32 by omega,
      show ¬ i < 31 - n by omega]

theorem rshiftInt_eq (lhs : BitVec 32) {n : Nat} (hn : n < 32) :
    rshiftInt lhs n = lhs.sshiftRight n := by
  unfold rshiftInt
  rcases Nat.eq_zero_or_pos n with rfl | hpos
  · simp
  by_cases hmin : lhs = .intMin 32
  · -- One place of the shift has been done before the others.
    obtain ⟨m, rfl⟩ : ∃ m, n = 1 + m := ⟨n - 1, by omega⟩
    have hfirst : (BitVec.intMin 32).sshiftRight 1 = -0x40000000#32 := by decide
    subst hmin
    rw [BitVec.sshiftRight_add, hfirst]
    simp only [if_true, Nat.add_sub_cancel_left, if_pos hpos]
    split
    · rw [if_pos (by decide)]
      exact sshiftRight_eq_or (by decide) (by omega)
    · obtain rfl : m = 0 := by omega
      simp
  · simp only [hmin, if_false, if_pos hpos]
    split
    case isTrue hneg => exact sshiftRight_eq_or (BitVec.slt_zero_iff_msb_cond.mp hneg) hn
    case isFalse => rfl

theorem IsValidShiftOffset_of_lt {s : BitVec 32} (hs : s.toNat < 32) :
    IsValidShiftOffset (.iConst s) ∧ IsValidShiftOffset (.uConst s) := by
  have hint : s.toInt = s.toNat := BitVec.toInt_eq_toNat_of_lt (by omega)
  simp [IsValidShiftOffset, BitVec.sle, BitVec.ule, hint]
  omega

/-- Shifts by up to 31 places, whichever type the number of places has, are the arithmetic right
shift of an `int`, the logical one of an `unsigned int` and the left shift of either; and sums,
differences and products are the exact ones, wrapped to 32 bits. -/
theorem folding_integers (F : FloatArithmetic) :
    (∀ a s : BitVec 32, s.toNat ≤ 31 → ∀ offset ∈ [TConstantUnion.iConst s, .uConst s],
      rshift (.iConst a) offset = setIConst (a.sshiftRight s.toNat) ∧
      rshift (.uConst a) offset = setUConst (a >>> s.toNat) ∧
      lshift (.iConst a) offset = setIConst (a <<< s.toNat) ∧
      lshift (.uConst a) offset = setUConst (a <<< s.toNat)) ∧
    ∀ a b : BitVec 32,
      add F (.iConst a) (.iConst b) = setIConst (.ofInt 32 (a.toInt + b.toInt)) ∧
      sub F (.iConst a) (.iConst b) = setIConst (.ofInt 32 (a.toInt - b.toInt)) ∧
      mul F (.iConst a) (.iConst b) = setIConst (.ofInt 32 (a.toInt * b.toInt)) ∧
      add F (.uConst a) (.uConst b) = setUConst (.ofInt 32 (a.toNat + b.toNat)) ∧
      sub F (.uConst a) (.uConst b) = setUConst (.ofInt 32 (a.toNat - b.toNat)) ∧
      mul F (.uConst a) (.uConst b) = setUConst (.ofInt 32 (a.toNat * b.toNat)) := by
  refine ⟨fun a s hs offset hoffset => ?_, fun a b => ?_⟩
  · obtain ⟨hint, huint⟩ := IsValidShiftOffset_of_lt (Nat.lt_succ_of_le hs)
    have hvalid : IsValidShiftOffset offset = true ∧ offset.bits = s := by
      rcases List.mem_pair.mp hoffset with rfl | rfl
      · exact ⟨hint, rfl⟩
      · exact ⟨huint, rfl⟩
    simp only [rshift, lshift, foldShift, TConstantUnion.type, hvalid.1, if_true, hvalid.2,
      rshiftInt_eq _ (Nat.lt_succ_of_le hs)]
    exact ⟨rfl, rfl, rfl, rfl⟩
  · have hmul := WrappingMul_eq a b
    simp only [add, sub, mul, foldArithmetic, TConstantUnion.type, GetConversion, if_true,
      TConstantUnion.bits, hmul, Int.sub_eq_add_neg, BitVec.ofInt_add, BitVec.ofInt_neg,
      BitVec.ofInt_mul, BitVec.ofInt_toInt, BitVec.ofInt_natCast, BitVec.ofNat_toNat,
      BitVec.setWidth_eq, ← BitVec.sub_eq_add_neg, and_self]

end MetalAngle.Translator.ComponentFolding
