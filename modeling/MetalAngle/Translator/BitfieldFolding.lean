import MetalAngle.Translator.ComponentFolding

/-!
# Folding of bit fields

`bitfieldExtract` and `bitfieldInsert` for one component, where a shift by 32 places or more and a
sum of two `int`s that overflows have no result.
-/

namespace MetalAngle.Translator.ComponentFolding

/-! ## The code -/

def shiftLeft? (value places : BitVec 32) : Option (BitVec 32) :=
  if places.toNat < 32 then some (value <<< places) else none

def shiftRight? (value places : BitVec 32) : Option (BitVec 32) :=
  if places.toNat < 32 then some (value >>> places) else none

def addInt? (lhs rhs : BitVec 32) : Option (BitVec 32) :=
  if lhs.saddOverflow rhs then none else some (lhs + rhs)

def setInteger (type : TBasicType) (value : BitVec 32) : Folded :=
  if type = .EbtInt then setIConst value else setUConst value

/-- The tests before a bit field is used, which add the offset and the number of bits last. -/
def checkBitfield (type : TBasicType) (offset bits empty : BitVec 32) (result : Option Folded) :
    Option Folded := do
  if bits = 0 then return setInteger type empty
  if offset.slt 0 || bits.slt 0 || (32#32).sle offset || (32#32).slt bits then
    return UndefinedConstantFoldingError type
  if (32#32).slt (← addInt? offset bits) then return UndefinedConstantFoldingError type
  result

def foldBitfieldExtract (type : TBasicType) (value offset bits : BitVec 32) : Option Folded :=
  checkBitfield type offset bits 0 do
    let maskMsb ← shiftLeft? 1 (bits - 1)
    let mask ← shiftLeft? ((maskMsb - 1) ||| maskMsb) offset
    let resultUnsigned ← shiftRight? (value &&& mask) offset
    if type = .EbtInt ∧ resultUnsigned &&& maskMsb ≠ 0 then
      let higherBits ← shiftLeft? 1 (32 - bits)
      let higherBitsMask ← shiftLeft? (higherBits - 1) bits
      return setIConst (resultUnsigned ||| higherBitsMask)
    return setInteger type resultUnsigned

def foldBitfieldInsert (type : TBasicType) (base insert offset bits : BitVec 32) :
    Option Folded :=
  checkBitfield type offset bits base do
    let maskMsb ← shiftLeft? 1 (bits - 1)
    let insertMask ← shiftLeft? ((maskMsb - 1) ||| maskMsb) offset
    let shifted ← shiftLeft? insert offset
    return setInteger type ((base &&& ~~~insertMask) ||| (shifted &&& insertMask))

/-! ## What the bits should be -/

/-- A field, extended with its sign or with zeros. -/
def extendField (type : TBasicType) {bits : Nat} (field : BitVec bits) : BitVec 32 :=
  if type = .EbtInt then field.signExtend 32 else field.setWidth 32

def IsField (offset bits : BitVec 32) : Prop :=
  0 ≤ offset.toInt ∧ 0 ≤ bits.toInt ∧ offset.toInt + bits.toInt ≤ 32

instance (offset bits : BitVec 32) : Decidable (IsField offset bits) :=
  inferInstanceAs (Decidable (_ ∧ _))

/-- The bits of the field are those of `inserted`, and the others are those of `base`. -/
def IsInserted (base inserted : BitVec 32) (offset bits : Nat) (result : BitVec 32) : Prop :=
  ∀ i < 32, result.getLsbD i =
    if offset ≤ i ∧ i < offset + bits then inserted.getLsbD (i - offset) else base.getLsbD i

/-- Fields are extracted, inserted and extracted again, and what is no field is undefined. -/
structure BitExact (type : TBasicType) (value inserted offset bits : BitVec 32) : Prop where
  extract : IsField offset bits → foldBitfieldExtract type value offset bits =
    some (setInteger type (extendField type (value.extractLsb' offset.toNat bits.toNat)))
  insert : IsField offset bits → ∃ result, IsInserted value inserted offset.toNat bits.toNat result ∧
    foldBitfieldInsert type value inserted offset bits = some (setInteger type result) ∧
    foldBitfieldExtract type result offset bits =
      some (setInteger type (extendField type (inserted.extractLsb' 0 bits.toNat)))
  undefined : ¬ IsField offset bits →
    foldBitfieldExtract type value offset bits = some (UndefinedConstantFoldingError type) ∧
    foldBitfieldInsert type value inserted offset bits = some (UndefinedConstantFoldingError type)

/-! ## The tests -/

variable {type : TBasicType} {value inserted offset bits empty : BitVec 32}
  {result : Option Folded}

theorem toNat_of_isField (h : IsField offset bits) :
    (offset.toNat : Int) = offset.toInt ∧ (bits.toNat : Int) = bits.toInt := by
  obtain ⟨hoffset, hbits, -⟩ := h
  rw [BitVec.toInt_eq_toNat_cond] at hoffset ⊢
  rw [BitVec.toInt_eq_toNat_cond] at hbits ⊢
  omega

/-- The sum is not made unless the offset and the number of bits are small. -/
theorem checkBitfield_eq (hbits : bits ≠ 0) :
    checkBitfield type offset bits empty result =
      if IsField offset bits then result else some (UndefinedConstantFoldingError type) := by
  have hpos : bits.toInt ≠ 0 := fun h => hbits (BitVec.eq_of_toInt_eq h)
  have h32 : (32#32).toInt = 32 := rfl
  have h0 : (0 : BitVec 32).toInt = 0 := rfl
  unfold checkBitfield
  simp only [if_neg hbits, BitVec.slt, BitVec.sle, Bool.or_eq_true, decide_eq_true_eq, h32, h0]
  split
  case isTrue h =>
    have hfield : ¬ IsField offset bits := fun ⟨hoffset, hbits, hle⟩ => by omega
    exact (if_neg hfield).symm
  case isFalse h =>
    have hsum : addInt? offset bits = some (offset + bits) := by
      unfold addInt?
      rw [if_neg]
      simp only [BitVec.saddOverflow, Bool.or_eq_true, decide_eq_true_eq]
      omega
    have hadd : (offset + bits).toInt = offset.toInt + bits.toInt := by
      rw [BitVec.toInt_add, Int.bmod_eq_of_le (by omega) (by omega)]
    rw [hsum, Option.bind_eq_bind, Option.bind_some, hadd]
    by_cases hle : offset.toInt + bits.toInt ≤ 32
    · rw [if_pos (show IsField _ _ from ⟨by omega, by omega, hle⟩), if_neg (by omega)]
    · rw [if_neg fun h : IsField _ _ => hle h.2.2, if_pos (by omega)]
      rfl

/-! ## Masks -/

/-- The mask of the lowest bits. -/
theorem getLsbD_mask {n : Nat} (hn : n < 32) {i : Nat} (hi : i < 32) :
    (1#32 <<< n - 1).getLsbD i = decide (i < n) := by
  rw [show (1 : BitVec 32) = 1#32 from rfl, ← BitVec.not_neg, ← BitVec.shiftLeft_neg]
  simp only [BitVec.getLsbD_not, BitVec.getLsbD_shiftLeft, BitVec.neg_one_eq_allOnes,
    BitVec.getLsbD_allOnes]
  by_cases hlt : i < n
  · simp [hi, hlt]
  · simp [hi, hlt]
    omega

/-- The mask of up to 32 bits, which is made in two steps. -/
theorem getLsbD_maskMsb {b : Nat} (hpos : 0 < b) (hb : b ≤ 32) {i : Nat} (hi : i < 32) :
    (1#32 <<< (b - 1) - 1 ||| 1#32 <<< (b - 1)).getLsbD i = decide (i < b) := by
  rw [BitVec.getLsbD_or, getLsbD_mask (by omega) hi, ← BitVec.twoPow_eq, BitVec.getLsbD_twoPow]
  rw [Bool.eq_iff_iff]
  simp only [Bool.or_eq_true, Bool.and_eq_true, decide_eq_true_eq]
  omega

theorem and_maskMsb_ne_zero_iff {x : BitVec 32} {k : Nat} (hk : k < 32) :
    x &&& 1#32 <<< k ≠ 0 ↔ x.getLsbD k := by
  rw [← BitVec.twoPow_eq, BitVec.and_twoPow]
  split
  case isTrue hbit =>
    refine iff_of_true (fun hzero => ?_) hbit
    have hlsb := congrArg (BitVec.getLsbD · k) hzero
    simp [hk] at hlsb
  case isFalse hbit => exact iff_of_false (fun h => h rfl) hbit

theorem or_higherBits_eq_signExtend {b : Nat} {field : BitVec b} (hmsb : field.msb)
    (hb : b < 32) : field.setWidth 32 ||| (1#32 <<< (32 - b) - 1) <<< b = field.signExtend 32 := by
  have hpos : b ≠ 0 := by
    rintro rfl
    rw [BitVec.eq_nil field] at hmsb
    exact absurd hmsb (by decide)
  apply BitVec.eq_of_getLsbD_eq
  intro i hi
  have hmask := getLsbD_mask (show 32 - b < 32 by omega) (show i - b < 32 by omega)
  rw [BitVec.getLsbD_or, BitVec.getLsbD_shiftLeft, hmask, BitVec.getLsbD_signExtend,
    BitVec.getLsbD_setWidth, hmsb]
  by_cases hlt : i < b
  · simp [hi, hlt]
  · simp [hi, hlt, show i - b < 32 - b by omega]

section Fields

variable (h : IsField offset bits) (hbits : bits ≠ 0)
include h hbits

/-- A field lies between two places of the word. -/
theorem field_bounds : 0 < bits.toNat ∧ offset.toNat + bits.toNat ≤ 32 := by
  obtain ⟨hoffset, hcount⟩ := toNat_of_isField h
  have hne : bits.toNat ≠ 0 := fun hzero => hbits (BitVec.eq_of_toNat_eq hzero)
  have hle := h.2.2
  omega

theorem shiftLeft?_one_sub :
    shiftLeft? 1 (bits - 1) = some (1#32 <<< (bits.toNat - 1)) := by
  have hbounds := field_bounds h hbits
  have hsub : (bits - 1).toNat = bits.toNat - 1 :=
    BitVec.toNat_sub_of_le (BitVec.le_def.mpr (show 1 ≤ _ by omega))
  rw [shiftLeft?, if_pos (by omega), BitVec.shiftLeft_eq', hsub]
  rfl

/-- The bits of the field and no others. -/
def fieldMask (offset bits : BitVec 32) : BitVec 32 :=
  (1#32 <<< (bits.toNat - 1) - 1 ||| 1#32 <<< (bits.toNat - 1)) <<< offset.toNat

theorem getLsbD_fieldMask {i : Nat} (hi : i < 32) : (fieldMask offset bits).getLsbD i =
      decide (offset.toNat ≤ i ∧ i < offset.toNat + bits.toNat) := by
  have hbounds := field_bounds h hbits
  unfold fieldMask
  rw [BitVec.getLsbD_shiftLeft, getLsbD_maskMsb hbounds.1 (by omega) (by omega), Bool.eq_iff_iff]
  simp only [Bool.and_eq_true, Bool.not_eq_true', decide_eq_true_eq, decide_eq_false_iff_not]
  omega

theorem extracted_eq : (value &&& fieldMask offset bits) >>> offset.toNat =
    (value.extractLsb' offset.toNat bits.toNat).setWidth 32 := by
  have hbounds := field_bounds h hbits
  apply BitVec.eq_of_getLsbD_eq
  intro i hi
  rw [BitVec.getLsbD_ushiftRight, BitVec.getLsbD_and, BitVec.getLsbD_setWidth,
    BitVec.getLsbD_extractLsb']
  by_cases hlt : i < bits.toNat
  · rw [getLsbD_fieldMask h hbits (by omega)]
    simp [hi, hlt]
  · by_cases hin : offset.toNat + i < 32
    · rw [getLsbD_fieldMask h hbits hin]
      simp [hlt]
    · simp [hlt, BitVec.getLsbD_of_ge _ _ (show 32 ≤ offset.toNat + i by omega)]

theorem foldBitfieldExtract_eq : foldBitfieldExtract type value offset bits =
    if type = .EbtInt ∧ bits.toNat = 32 ∧ value.msb then none
    else some (setInteger type (extendField type (value.extractLsb' offset.toNat bits.toNat))) := by
  have hbounds := field_bounds h hbits
  set field := value.extractLsb' offset.toNat bits.toNat with hfield
  have hmask : shiftLeft? (1#32 <<< (bits.toNat - 1) - 1 ||| 1#32 <<< (bits.toNat - 1)) offset =
      some (fieldMask offset bits) := if_pos (by omega)
  have hvalue : shiftRight? (value &&& fieldMask offset bits) offset = some (field.setWidth 32) := by
    rw [shiftRight?, if_pos (by omega), BitVec.ushiftRight_eq', extracted_eq h hbits]
  have hsign : field.setWidth 32 &&& 1#32 <<< (bits.toNat - 1) ≠ 0 ↔ field.msb := by
    rw [and_maskMsb_ne_zero_iff (by omega), BitVec.msb_eq_getLsbD_last, BitVec.getLsbD_setWidth]
    simp [show bits.toNat - 1 < 32 by omega]
  have hlast : bits.toNat = 32 → field.msb = value.msb := by
    intro hlast
    rw [hfield, BitVec.msb_eq_getLsbD_last, BitVec.msb_eq_getLsbD_last, BitVec.getLsbD_extractLsb']
    simp [hlast, show offset.toNat = 0 by omega]
  unfold foldBitfieldExtract
  rw [checkBitfield_eq hbits, if_pos h, shiftLeft?_one_sub h hbits, Option.bind_eq_bind,
    Option.bind_some, hmask, Option.bind_some, hvalue, Option.bind_some]
  by_cases hextend : type = .EbtInt ∧ field.msb
  · obtain ⟨htype, hmsb⟩ := hextend
    have hlower : (32 - bits).toNat = 32 - bits.toNat :=
      BitVec.toNat_sub_of_le (BitVec.le_def.mpr (show _ ≤ 32 by omega))
    have hhigher : shiftLeft? 1 (32 - bits) = some (1#32 <<< (32 - bits.toNat)) := by
      rw [shiftLeft?, if_pos (by omega), BitVec.shiftLeft_eq', hlower]
      rfl
    rw [if_pos ⟨htype, hsign.mpr hmsb⟩, hhigher, Option.bind_some, shiftLeft?]
    by_cases hword : bits.toNat = 32
    · rw [if_neg (by omega), if_pos ⟨htype, hword, (hlast hword).symm.trans hmsb⟩]
      rfl
    · rw [if_pos (by omega), if_neg fun hall => hword hall.2.1, setInteger, extendField,
        if_pos htype, if_pos htype, ← or_higherBits_eq_signExtend hmsb (by omega)]
      rfl
  · rw [if_neg fun hall => hextend ⟨hall.1, hsign.mp hall.2⟩,
      if_neg fun hall => hextend ⟨hall.1, (hlast hall.2.1).trans hall.2.2⟩, extendField]
    split
    case isTrue htype =>
      have hmsb : field.msb = false := by simpa [htype] using hextend
      rw [BitVec.signExtend_eq_setWidth_of_msb_false hmsb]
      rfl
    case isFalse => rfl

theorem foldBitfieldInsert_eq : ∃ result,
    IsInserted value inserted offset.toNat bits.toNat result ∧
      foldBitfieldInsert type value inserted offset bits = some (setInteger type result) := by
  have hbounds := field_bounds h hbits
  have hmask : shiftLeft? (1#32 <<< (bits.toNat - 1) - 1 ||| 1#32 <<< (bits.toNat - 1)) offset =
      some (fieldMask offset bits) := if_pos (by omega)
  have hshifted : shiftLeft? inserted offset = some (inserted <<< offset.toNat) :=
    if_pos (by omega)
  refine ⟨value &&& ~~~fieldMask offset bits ||| inserted <<< offset.toNat &&& fieldMask offset bits,
    fun i hi => ?_, ?_⟩
  · rw [BitVec.getLsbD_or, BitVec.getLsbD_and, BitVec.getLsbD_and, BitVec.getLsbD_not,
      BitVec.getLsbD_shiftLeft, getLsbD_fieldMask h hbits hi]
    by_cases hin : offset.toNat ≤ i ∧ i < offset.toNat + bits.toNat
    · simp [hi, hin, show ¬ i < offset.toNat by omega]
    · simp [hi, hin]
  · unfold foldBitfieldInsert
    rw [checkBitfield_eq hbits, if_pos h, shiftLeft?_one_sub h hbits, Option.bind_eq_bind,
      Option.bind_some, hmask, Option.bind_some, hshifted]
    rfl

end Fields

/-- What is extracted after an insertion has the bits that were inserted. -/
theorem extractLsb'_of_isInserted {o b : Nat} {result : BitVec 32} (hle : o + b ≤ 32)
    (h : IsInserted value inserted o b result) :
    result.extractLsb' o b = inserted.extractLsb' 0 b := by
  apply BitVec.eq_of_getLsbD_eq
  intro i hi
  rw [BitVec.getLsbD_extractLsb', BitVec.getLsbD_extractLsb', h _ (by omega),
    if_pos (by omega), Nat.add_sub_cancel_left, Nat.zero_add]

/-! ## Bit fields -/

theorem setInteger_ne_undefined (type : TBasicType) (value : BitVec 32) :
    setInteger type value ≠ UndefinedConstantFoldingError type := by
  intro h
  have hwarned := congrArg Prod.snd h
  unfold setInteger at hwarned
  cases type <;> cases hwarned

theorem extendField_zero (type : TBasicType) (field : BitVec 0) : extendField type field = 0 := by
  rw [BitVec.eq_nil field]
  unfold extendField
  split <;> rfl

/-- Without bits the place is not looked at. -/
theorem bitExact_zero_iff (type : TBasicType) (value inserted offset : BitVec 32) :
    BitExact type value inserted offset 0 ↔ IsField offset 0 := by
  constructor
  · intro h
    by_contra hfield
    exact setInteger_ne_undefined type 0 (Option.some.inj (h.undefined hfield).1)
  · intro hfield
    have hnone (field : BitVec (0 : BitVec 32).toNat) :
        foldBitfieldExtract type value offset 0 = some (setInteger type (extendField type field)) := by
      rw [show extendField type field = 0 from extendField_zero type field]
      rfl
    refine ⟨fun _ => hnone _, fun _ => ⟨value, fun i _ => ?_, rfl, hnone _⟩,
      fun hnot => absurd hfield hnot⟩
    exact (if_neg fun hin => Nat.not_lt.mpr hin.1 hin.2).symm

theorem bitExact_field_iff (h : IsField offset bits) (hbits : bits ≠ 0) :
    BitExact type value inserted offset bits ↔
      (type = .EbtInt → bits.toNat = 32 → value.msb = false ∧ inserted.msb = false) := by
  have hbounds := field_bounds h hbits
  have hextract (value : BitVec 32) : foldBitfieldExtract type value offset bits =
      some (setInteger type (extendField type (value.extractLsb' offset.toNat bits.toNat))) ↔
        ¬ (type = .EbtInt ∧ bits.toNat = 32 ∧ value.msb) := by
    rw [foldBitfieldExtract_eq h hbits]
    split
    case isTrue hundefined => exact iff_of_false nofun (not_not.mpr hundefined)
    case isFalse hdefined => exact iff_of_true rfl hdefined
  have hmsb (result : BitVec 32) (hword : bits.toNat = 32)
      (hresult : IsInserted value inserted offset.toNat bits.toNat result) :
      result.msb = inserted.msb := by
    rw [BitVec.msb_eq_getLsbD_last, BitVec.msb_eq_getLsbD_last, hresult 31 (by omega),
      if_pos (by omega), show offset.toNat = 0 by omega]
  constructor
  · intro hexact htype hword
    obtain ⟨result, hresult, -, hagain⟩ := hexact.insert h
    rw [← extractLsb'_of_isInserted hbounds.2 hresult, hextract] at hagain
    have hvalue := (hextract value).mp (hexact.extract h)
    rw [← hmsb result hword hresult]
    simp only [htype, hword, true_and, Bool.not_eq_true] at hvalue hagain
    exact ⟨hvalue, hagain⟩
  · intro hsign
    obtain ⟨result, hresult, hinsert⟩ := @foldBitfieldInsert_eq type value inserted _ _ h hbits
    refine ⟨fun _ => (hextract value).mpr ?_, fun _ => ⟨result, hresult, hinsert, ?_⟩,
      fun hnot => absurd h hnot⟩
    · rintro ⟨htype, hword, hset⟩
      rw [(hsign htype hword).1] at hset
      contradiction
    · rw [← extractLsb'_of_isInserted hbounds.2 hresult, hextract]
      rintro ⟨htype, hword, hset⟩
      rw [hmsb result hword hresult, (hsign htype hword).2] at hset
      contradiction

/-- Folding is exact unless no bits are asked for of a place outside the word, which is not
reported, or the sign of a field as wide as the word is set: the code then shifts by 32 places. -/
theorem bitExact_iff (type : TBasicType) (value inserted offset bits : BitVec 32) :
    BitExact type value inserted offset bits ↔
      (bits = 0 → 0 ≤ offset.toInt ∧ offset.toInt ≤ 32) ∧
        (type = .EbtInt → offset = 0 → bits = 32 → value.msb = false ∧ inserted.msb = false) := by
  by_cases hbits : bits = 0
  · subst hbits
    have hfield : IsField offset 0 ↔ 0 ≤ offset.toInt ∧ offset.toInt ≤ 32 := by
      simp [IsField]
    rw [bitExact_zero_iff, hfield]
    simp
  have hword : IsField offset bits → (bits.toNat = 32 ↔ offset = 0 ∧ bits = 32) := by
    intro hfield
    have hbounds := field_bounds hfield hbits
    constructor
    · exact fun hword => ⟨BitVec.eq_of_toNat_eq (show _ = 0 by omega), BitVec.eq_of_toNat_eq hword⟩
    · rintro ⟨-, rfl⟩
      rfl
  by_cases hfield : IsField offset bits
  · rw [bitExact_field_iff hfield hbits, hword hfield]
    simp only [hbits, false_imp_iff, true_and, and_imp]
  · have hundefined : BitExact type value inserted offset bits := by
      refine ⟨fun h => absurd h hfield, fun h => absurd h hfield, fun _ => ?_⟩
      rw [foldBitfieldExtract, foldBitfieldInsert, checkBitfield_eq hbits, checkBitfield_eq hbits,
        if_neg hfield, if_neg hfield]
      exact ⟨rfl, rfl⟩
    refine iff_of_true hundefined ⟨fun h => absurd h hbits, ?_⟩
    rintro - rfl rfl
    exact absurd (by decide) hfield

/-- The sign of all 32 bits of a negative number is extended by a shift by 32 places. -/
theorem not_bitExact_word : ¬ BitExact .EbtInt (-1) 0 0 32 := by
  intro h
  have hextract := h.extract (by decide)
  rw [show foldBitfieldExtract .EbtInt (-1) 0 32 = none by decide] at hextract
  cases hextract

end MetalAngle.Translator.ComponentFolding
