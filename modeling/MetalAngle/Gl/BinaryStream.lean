import MetalAngle.Lib.TokenStream

/-!
# Binary streams

Numbers are written as four bytes, the least significant one first, and a string or a list with its
length in front.  A writer asserts that a number is in the range of an `int`.
-/

namespace MetalAngle.Gl.BinaryStream

open TokenStream

abbrev BinaryOutputStream := TokenStream.Writer UInt8 Unit

abbrev BinaryInputStream (α : Type) := TokenStream.Reader UInt8 α

abbrev Text := List UInt8

/-- The bytes of an `int`. -/
def intBytes (value : Int) : List UInt8 :=
  let bits := (value % 0x100000000).toNat
  [UInt8.ofNat bits, UInt8.ofNat (bits / 0x100), UInt8.ofNat (bits / 0x10000),
    UInt8.ofNat (bits / 0x1000000)]

/-- The `int` of four bytes. -/
def intOfBytes : List UInt8 → Int
  | [first, second, third, fourth] =>
    let bits := first.toNat + 0x100 * second.toNat + 0x10000 * third.toNat +
      0x1000000 * fourth.toNat
    if bits < 0x80000000 then bits else bits - 0x100000000
  | _ => 0

def IsInt (value : Int) : Prop := -0x80000000 ≤ value ∧ value < 0x80000000

instance (value : Int) : Decidable (IsInt value) := inferInstanceAs (Decidable (_ ∧ _))

def writeInt (param : Int) : BinaryOutputStream := do
  require (IsInt param)
  append (intBytes param)

/-- `readInt<int>`, which gives 0 past the end. -/
def readInt : BinaryInputStream Int := fun input =>
  if 4 ≤ input.left.length then
    (intOfBytes (input.left.take 4), { input with left := input.left.drop 4 })
  else (0, { input with failed := true })

variable {value : Int}

theorem intOfBytes_intBytes (h : IsInt value) :
    intOfBytes (intBytes value) = value := by
  obtain ⟨hlow, hhigh⟩ := h
  simp only [intBytes, intOfBytes, UInt8.toNat_ofNat']
  split <;> omega

@[simp] theorem length_intBytes (value : Int) : (intBytes value).length = 4 := rfl

theorem reads_int (value : Int) : Reads (writeInt value) readInt value := by
  refine .require fun h before after hwrite => ?_
  obtain rfl : before ++ intBytes value = after := congrArg Prod.snd (Option.some.inj hwrite)
  refine ⟨intBytes value, rfl, fun rest => ?_⟩
  have htake : (intBytes value ++ rest).take 4 = intBytes value :=
    List.take_left' (length_intBytes value)
  have hdrop : (intBytes value ++ rest).drop 4 = rest :=
    List.drop_left' (length_intBytes value)
  have hlength : 4 ≤ (intBytes value ++ rest).length := by simp
  simp only [readInt, StateT.run, if_pos hlength, htake, hdrop, intOfBytes_intBytes h]

/-- A number that is written is in the range of an `int`. -/
theorem isInt_of_writeInt {before after : List UInt8}
    (h : (writeInt value).run before = some ((), after)) : IsInt value := by
  by_contra hrange
  rw [writeInt, require, if_neg hrange] at h
  cases h

/-- A number is cast to another type when it is read, and the cast is undone by the cast of the
number that is written. -/
theorem Reads.cast {α : Type} {cast : Int → α} {a : α} (h : IsInt value → cast value = a) :
    Reads (writeInt value) (cast <$> readInt) a := by
  intro before after hwrite
  rw [← h (isInt_of_writeInt hwrite)]
  exact (reads_int value).map cast before after hwrite

def asUnsigned (value : Int) : UInt32 := UInt32.ofNat (value % 0x100000000).toNat

/-- `readInt<unsigned int>`. -/
def readUnsigned : BinaryInputStream UInt32 := asUnsigned <$> readInt

/-- `readInt<unsigned int>` for the count of a list. -/
def readCount : BinaryInputStream Nat := (fun value => (asUnsigned value).toNat) <$> readInt

/-- `readInt<size_t>`, which extends the sign. -/
def readSize : BinaryInputStream Nat :=
  (fun value => (value % 0x10000000000000000).toNat) <$> readInt

theorem asUnsigned_toNat (value : UInt32) : asUnsigned value.toNat = value := by
  have hlt := value.toNat_lt
  have hmod : (value.toNat : Int) % 0x100000000 = value.toNat := by omega
  rw [asUnsigned, hmod, Int.toNat_natCast, UInt32.ofNat_toNat]

theorem reads_unsigned (value : UInt32) : Reads (writeInt value.toNat) readUnsigned value :=
  Reads.cast fun _ => asUnsigned_toNat value

theorem reads_count (count : Nat) : Reads (writeInt count) readCount count := by
  refine Reads.cast fun h => ?_
  obtain ⟨-, hlt⟩ := h
  have hmod : (count : Int) % 0x100000000 = count := by omega
  have hfits : count < UInt32.size := by
    rw [show UInt32.size = 0x100000000 from rfl]
    omega
  show (asUnsigned count).toNat = count
  rw [asUnsigned, hmod, Int.toNat_natCast, UInt32.toNat_ofNat_of_lt' hfits]

theorem reads_size (count : Nat) : Reads (writeInt count) readSize count := by
  refine Reads.cast fun h => ?_
  obtain ⟨-, hlt⟩ := h
  show ((count : Int) % 0x10000000000000000).toNat = count
  omega

def writeIntOrNegOne (param : UInt32) : BinaryOutputStream :=
  if param = 0xFFFFFFFF then writeInt (-1) else writeInt param.toNat

theorem reads_intOrNegOne (param : UInt32) :
    Reads (writeIntOrNegOne param) readUnsigned param := by
  by_cases hinvalid : param = 0xFFFFFFFF
  · rw [writeIntOrNegOne, if_pos hinvalid, hinvalid]
    exact Reads.cast fun _ => rfl
  · rw [writeIntOrNegOne, if_neg hinvalid]
    exact reads_unsigned param

def writeBool (param : Bool) : BinaryOutputStream := writeInt param.toNat

def readBool : BinaryInputStream Bool := (fun value => decide (0 < value)) <$> readInt

theorem reads_bool (param : Bool) : Reads (writeBool param) readBool param :=
  Reads.cast fun _ => by cases param <;> rfl

/-- The numbers of an enumeration of an 8-bit type. -/
class PackedEnum (α : Type) where
  toUnderlying : α → UInt8
  ofUnderlying : UInt8 → α
  ofUnderlying_toUnderlying : ∀ a, ofUnderlying (toUnderlying a) = a

section PackedEnum

variable {α : Type} [PackedEnum α]

def writeEnum (param : α) : BinaryOutputStream :=
  writeInt (PackedEnum.toUnderlying param).toNat

def readEnum : BinaryInputStream α :=
  (fun value => PackedEnum.ofUnderlying (UInt8.ofNat (value % 0x100).toNat)) <$> readInt

theorem reads_enum (param : α) : Reads (writeEnum param) readEnum param := by
  refine Reads.cast fun _ => ?_
  have hlt := (PackedEnum.toUnderlying param).toNat_lt
  have hmod : ((PackedEnum.toUnderlying param).toNat : Int) % 0x100 =
      (PackedEnum.toUnderlying param).toNat := by omega
  show PackedEnum.ofUnderlying (UInt8.ofNat (_ % 0x100 : Int).toNat) = param
  rw [hmod, Int.toNat_natCast, UInt8.ofNat_toNat, PackedEnum.ofUnderlying_toUnderlying]

end PackedEnum

/-- A set of bits is written with `to_ulong`. -/
def writeBits {width : Nat} (bits : BitVec width) : BinaryOutputStream := writeInt bits.toNat

/-- A set of 32 bits is cast to an `int` before it is written. -/
def writeBitsAsInt (bits : BitVec 32) : BinaryOutputStream := writeInt bits.toInt

def readBits (width : Nat) : BinaryInputStream (BitVec width) := BitVec.ofInt width <$> readInt

theorem reads_bits {width : Nat} (bits : BitVec width) :
    Reads (writeBits bits) (readBits width) bits :=
  Reads.cast fun _ => by simp

theorem reads_bitsAsInt (bits : BitVec 32) : Reads (writeBitsAsInt bits) (readBits 32) bits :=
  Reads.cast fun _ => BitVec.ofInt_toInt

def writeBytes (bytes : List UInt8) : BinaryOutputStream := append bytes

/-- `readBytes`; past the end it leaves the bytes as they are, which are none here. -/
def readBytes (count : Nat) : BinaryInputStream (List UInt8) := fun input =>
  if count ≤ input.left.length then
    (input.left.take count, { input with left := input.left.drop count })
  else ([], { input with failed := true })

theorem reads_bytes (bytes : List UInt8) :
    Reads (writeBytes bytes) (readBytes bytes.length) bytes := by
  intro before after hwrite
  obtain rfl : before ++ bytes = after := congrArg Prod.snd (Option.some.inj hwrite)
  refine ⟨bytes, rfl, fun rest => ?_⟩
  show (if bytes.length ≤ (bytes ++ rest).length then _ else _) = _
  rw [if_pos (by simp), List.take_left, List.drop_left]

def writeString (v : Text) : BinaryOutputStream := do
  writeInt v.length
  append v

def readString : BinaryInputStream Text := do
  let length ← readSize
  fun input =>
    if input.failed then ([], input)
    else if length ≤ input.left.length then
      (input.left.take length, { input with left := input.left.drop length })
    else ([], { input with failed := true })

theorem reads_string (v : Text) : Reads (writeString v) readString v := by
  refine (reads_size v.length).bind fun before after hwrite => ?_
  obtain ⟨tokens, rfl, hread⟩ := reads_bytes v before after hwrite
  refine ⟨tokens, rfl, fun rest => ?_⟩
  rw [← hread rest]
  rfl

def writeList {α : Type} (write : α → BinaryOutputStream) (params : List α) :
    BinaryOutputStream := do
  writeInt params.length
  writeEach write params

def readList {α : Type} (read : BinaryInputStream α) : BinaryInputStream (List α) := do
  let count ← readCount
  readEach read count

theorem reads_listMap {α β : Type} {write : α → BinaryOutputStream} {read : BinaryInputStream β}
    {f : α → β} (h : ∀ a, Reads (write a) read (f a)) (params : List α) :
    Reads (writeList write params) (readList read) (params.map f) :=
  (reads_count params.length).bind (.each f h params)

theorem reads_list {α : Type} {write : α → BinaryOutputStream} {read : BinaryInputStream α}
    (h : ∀ a, Reads (write a) read a) (params : List α) :
    Reads (writeList write params) (readList read) params := by
  simpa using reads_listMap (f := id) h params

def writeIntVector (param : List UInt32) : BinaryOutputStream := writeList writeIntOrNegOne param

def readIntVector : BinaryInputStream (List UInt32) := readList readUnsigned

theorem reads_intVector (param : List UInt32) :
    Reads (writeIntVector param) readIntVector param :=
  reads_list reads_intOrNegOne param

end MetalAngle.Gl.BinaryStream
