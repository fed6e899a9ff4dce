import MetalAngle.Lib.ByteMemory
import MetalAngle.Metal.TriFanElements

/-!
# `ClientIndexArrayKey`

A key for an array of indices in client memory is a view of that memory or holds a copy of the
bytes.  It keeps its hash once this has been computed.
-/

namespace MetalAngle.Metal

/-- The values of the enumeration; none is `InvalidEnum`. -/
def drawElementsTypeValue : Option DrawElementsType → Nat
  | some .UnsignedByte => 0
  | some .UnsignedShort => 1
  | some .UnsignedInt => 2
  | none => 3

def getDrawElementsTypeSize (type : Option DrawElementsType) : Nat :=
  2 ^ drawElementsTypeValue type

def bytesAt (memory : Memory) (address size : Nat) : List UInt8 :=
  (List.range size).map fun i => memory (address + i)

structure ClientIndexArrayKey where
  mType : Option DrawElementsType := none
  mBytes : List UInt8 := []
  mWrappedBytes : Nat := 0
  mWrappedSize : Nat := 0
  mCachedHash : BitVec 64 := 0
  mIsHashCached : Bool := false

namespace ClientIndexArrayKey

def assign (k : ClientIndexArrayKey) (data : List UInt8) (type : Option DrawElementsType)
    (count : Nat) : ClientIndexArrayKey :=
  { k with
    mBytes := data.take (count * getDrawElementsTypeSize type)
    mWrappedBytes := 0
    mWrappedSize := 0
    mType := type
    mIsHashCached := false }

def wrap (k : ClientIndexArrayKey) (data : Nat) (type : Option DrawElementsType) (count : Nat) :
    ClientIndexArrayKey :=
  { k with
    mBytes := []
    mWrappedBytes := data
    mWrappedSize := count * getDrawElementsTypeSize type
    mType := type
    mIsHashCached := false }

def isWrapping (k : ClientIndexArrayKey) : Bool := k.mWrappedBytes != 0

/-- `data()`: the bytes it points at, as long as `size()`. -/
def data (memory : Memory) (k : ClientIndexArrayKey) : List UInt8 :=
  if k.isWrapping then bytesAt memory k.mWrappedBytes k.mWrappedSize else k.mBytes

section

variable (k : ClientIndexArrayKey)

def size : Nat :=
  if k.isWrapping then k.mWrappedSize else k.mBytes.length

def elementsCount : Nat := k.size / getDrawElementsTypeSize k.mType

def valid : Bool := !k.mBytes.isEmpty || k.isWrapping

def clear : ClientIndexArrayKey :=
  { k with mBytes := [], mWrappedBytes := 0, mWrappedSize := 0, mIsHashCached := false }

end

def copyFrom (memory : Memory) (k rhs : ClientIndexArrayKey) : ClientIndexArrayKey :=
  k.assign (rhs.data memory) rhs.mType rhs.elementsCount

def copy (memory : Memory) (rhs : ClientIndexArrayKey) : ClientIndexArrayKey :=
  copyFrom memory {} rhs

/-- Move assignment, with what it leaves in `rhs`.  Moving a `SmallVector` swaps it, and `rhs`
keeps its cached hash. -/
def moveFrom (memory : Memory) (k rhs : ClientIndexArrayKey) :
    ClientIndexArrayKey × ClientIndexArrayKey :=
  if rhs.isWrapping then
    ({ k.assign (rhs.data memory) rhs.mType rhs.elementsCount with
      mType := rhs.mType
      mIsHashCached := false }, rhs)
  else
    ({ k with
      mWrappedBytes := 0
      mWrappedSize := 0
      mBytes := rhs.mBytes
      mType := rhs.mType
      mIsHashCached := false }, { rhs with mBytes := k.mBytes })

/-- `operator==`. -/
def same (memory : Memory) (k rhs : ClientIndexArrayKey) : Bool :=
  if k.mType ≠ rhs.mType ∨ k.size ≠ rhs.size then false
  else k.data memory == rhs.data memory

section Hash

variable (computeGenericHash : List UInt8 → BitVec 64)

def combineRemaining (hash : BitVec 64) (shift : Nat) : List UInt8 → BitVec 64
  | [] => hash
  | byte :: rest => combineRemaining (hash ^^^ BitVec.ofNat 64 (byte.toNat <<< shift)) (shift + 8)
      rest

def computeHash (bytes : List UInt8) (type : Option DrawElementsType) : BitVec 64 :=
  let multipleOf4 := bytes.length >>> 2 <<< 2
  let hash := computeGenericHash (bytes.take multipleOf4)
  combineRemaining hash 0 (bytes.drop multipleOf4) ^^^
    BitVec.ofNat 64 (drawElementsTypeValue type)

/-- `hash()`, with the key that keeps it. -/
def hash (memory : Memory) (k : ClientIndexArrayKey) : BitVec 64 × ClientIndexArrayKey :=
  if k.mIsHashCached then (k.mCachedHash, k)
  else
    let hash := computeHash computeGenericHash (k.data memory) k.mType
    (hash, { k with mCachedHash := hash, mIsHashCached := true })

def tableEquiv (memory : Memory) (k rhs : ClientIndexArrayKey) : Bool :=
  (k.hash computeGenericHash memory).1 == (rhs.hash computeGenericHash memory).1 &&
    k.same memory rhs

/-- The keys that the operations make from each other while the memory stays.  The source of a
move is not among them until it is written again. -/
inductive Made (memory : Memory) : ClientIndexArrayKey → Prop
  | new : Made memory {}
  | wrap (k : ClientIndexArrayKey) (address : Nat) (type : DrawElementsType) (count : Nat) :
      Made memory (k.wrap address (some type) count)
  | assign (k : ClientIndexArrayKey) (address : Nat) (type : DrawElementsType) (count : Nat) :
      Made memory (k.assign (bytesAt memory address (count * getDrawElementsTypeSize (some type)))
        (some type) count)
  | copy (k : ClientIndexArrayKey) {rhs : ClientIndexArrayKey} :
      Made memory rhs → Made memory (copyFrom memory k rhs)
  | move (k : ClientIndexArrayKey) {rhs : ClientIndexArrayKey} :
      Made memory rhs → Made memory (moveFrom memory k rhs).1
  | clear (k : ClientIndexArrayKey) : Made memory k.clear
  | hash {k : ClientIndexArrayKey} :
      Made memory k → Made memory (k.hash computeGenericHash memory).2

end Hash

variable {computeGenericHash : List UInt8 → BitVec 64} {memory : Memory}
  {k k' rhs : ClientIndexArrayKey}

theorem length_data (memory : Memory) (k : ClientIndexArrayKey) :
    (k.data memory).length = k.size := by
  unfold data size
  split
  · simp [bytesAt]
  · rfl

theorem same_iff : k.same memory rhs ↔
    k.mType = rhs.mType ∧ k.data memory = rhs.data memory := by
  unfold same
  constructor
  · intro h
    split at h
    case isTrue => contradiction
    case isFalse hboth =>
      push Not at hboth
      exact ⟨hboth.1, beq_iff_eq.mp h⟩
  · rintro ⟨htype, hdata⟩
    have hsize : k.size = rhs.size := by rw [← length_data memory, ← length_data memory, hdata]
    rw [if_neg (by push Not; exact ⟨htype, hsize⟩)]
    exact beq_iff_eq.mpr hdata

/-- A kept hash is that of the bytes, and the bytes are whole elements. -/
structure Sound (computeGenericHash : List UInt8 → BitVec 64) (memory : Memory)
    (k : ClientIndexArrayKey) : Prop where
  cached : k.mIsHashCached →
    k.mCachedHash = computeHash computeGenericHash (k.data memory) k.mType
  whole : k.elementsCount * getDrawElementsTypeSize k.mType = k.size

theorem Sound.hash_fst (h : k.Sound computeGenericHash memory) :
    (k.hash computeGenericHash memory).1 =
      computeHash computeGenericHash (k.data memory) k.mType := by
  unfold hash
  split
  case isTrue hcached => exact h.cached hcached
  case isFalse => rfl

theorem Sound.hash_snd (h : k.Sound computeGenericHash memory) :
    (k.hash computeGenericHash memory).2.Sound computeGenericHash memory ∧
      (k.hash computeGenericHash memory).2.data memory = k.data memory ∧
      (k.hash computeGenericHash memory).2.mType = k.mType := by
  unfold hash
  split
  case isTrue => exact ⟨h, rfl, rfl⟩
  case isFalse => exact ⟨⟨fun _ => rfl, h.whole⟩, rfl, rfl⟩

theorem getDrawElementsTypeSize_pos (type : Option DrawElementsType) :
    0 < getDrawElementsTypeSize type := Nat.pow_pos (by decide)

theorem sound_assign (k : ClientIndexArrayKey) {bytes : List UInt8}
    {type : Option DrawElementsType} {count : Nat}
    (hlength : bytes.length = count * getDrawElementsTypeSize type) :
    (k.assign bytes type count).Sound computeGenericHash memory ∧
      (k.assign bytes type count).mBytes = bytes := by
  have hbytes : (k.assign bytes type count).mBytes = bytes :=
    List.take_of_length_le hlength.le
  refine ⟨⟨fun hcached => absurd hcached Bool.false_ne_true, ?_⟩, hbytes⟩
  have hsize : (k.assign bytes type count).size = count * getDrawElementsTypeSize type := by
    change (k.assign bytes type count).mBytes.length = _
    rw [hbytes, hlength]
  change (k.assign bytes type count).size / getDrawElementsTypeSize type *
    getDrawElementsTypeSize type = _
  rw [hsize, Nat.mul_div_cancel _ (getDrawElementsTypeSize_pos type)]

theorem sound_wrap (k : ClientIndexArrayKey) (address : Nat) (type : Option DrawElementsType)
    (count : Nat) : (k.wrap address type count).Sound computeGenericHash memory := by
  refine ⟨fun hcached => absurd hcached Bool.false_ne_true, ?_⟩
  apply Nat.div_mul_cancel
  unfold size
  split
  · exact Nat.dvd_mul_left _ _
  · exact Nat.dvd_zero _

theorem Sound.copyFrom (h : rhs.Sound computeGenericHash memory) (k : ClientIndexArrayKey) :
    (copyFrom memory k rhs).Sound computeGenericHash memory ∧
      (copyFrom memory k rhs).isWrapping = false ∧
      (copyFrom memory k rhs).mBytes = rhs.data memory ∧
      (copyFrom memory k rhs).mType = rhs.mType := by
  have hassigned :
      (k.assign (rhs.data memory) rhs.mType rhs.elementsCount).Sound computeGenericHash memory ∧
        (k.assign (rhs.data memory) rhs.mType rhs.elementsCount).mBytes = rhs.data memory :=
    sound_assign k ((length_data memory rhs).trans h.whole.symm)
  obtain ⟨hsound, hbytes⟩ := hassigned
  exact ⟨hsound, rfl, hbytes, rfl⟩

theorem Made.sound (h : Made computeGenericHash memory k) : k.Sound computeGenericHash memory := by
  induction h with
  | new => exact ⟨fun hcached => absurd hcached Bool.false_ne_true, rfl⟩
  | wrap k address type count => exact sound_wrap k address _ count
  | assign k address type count => exact (sound_assign k (by simp [bytesAt])).1
  | copy k _ ih => exact (ih.copyFrom k).1
  | @move k rhs _ ih =>
    unfold moveFrom
    split
    case isTrue => exact (ih.copyFrom k).1
    case isFalse hwrapping =>
      refine ⟨fun hcached => absurd hcached Bool.false_ne_true, ?_⟩
      have hwhole := ih.whole
      unfold elementsCount size at hwhole
      rw [if_neg hwrapping] at hwhole
      exact hwhole
  | clear k =>
    refine ⟨fun hcached => absurd hcached Bool.false_ne_true, ?_⟩
    change 0 / getDrawElementsTypeSize k.mType * getDrawElementsTypeSize k.mType = 0
    rw [Nat.zero_div, Nat.zero_mul]
  | hash _ ih => exact ih.hash_snd.1

theorem hash_eq_of_same (h : Made computeGenericHash memory k)
    (h' : Made computeGenericHash memory k') (hsame : k.same memory k') :
    (k.hash computeGenericHash memory).1 = (k'.hash computeGenericHash memory).1 := by
  obtain ⟨htype, hdata⟩ := same_iff.mp hsame
  rw [h.sound.hash_fst, h'.sound.hash_fst, htype, hdata]

structure Stored (computeGenericHash : List UInt8 → BitVec 64) (k : ClientIndexArrayKey) :
    Prop where
  owned : k.isWrapping = false
  sound : ∀ memory, k.Sound computeGenericHash memory

def content (k : ClientIndexArrayKey) : List UInt8 × Option DrawElementsType := (k.mBytes, k.mType)

section

variable (h : k.Stored computeGenericHash)
include h

theorem Stored.data_eq (memory : Memory) :
    k.data memory = k.mBytes := by
  unfold data
  rw [h.owned]
  rfl

theorem Stored.tableEquiv_iff (hrhs : rhs.Sound computeGenericHash memory) :
    k.tableEquiv computeGenericHash memory rhs ↔
      k.content = (rhs.data memory, rhs.mType) := by
  unfold tableEquiv content
  rw [Bool.and_eq_true, beq_iff_eq, same_iff, h.data_eq, Prod.mk.injEq, and_comm (a := k.mBytes = _)]
  constructor
  · exact And.right
  · rintro ⟨htype, hbytes⟩
    refine ⟨?_, htype, hbytes⟩
    rw [(h.sound memory).hash_fst, hrhs.hash_fst, h.data_eq, htype, hbytes]

theorem Stored.tableEquiv_stored_iff (h' : k'.Stored computeGenericHash) :
    k.tableEquiv computeGenericHash memory k' ↔ k.content = k'.content := by
  rw [h.tableEquiv_iff (h'.sound memory), h'.data_eq]
  rfl

end

theorem Sound.stored_copy (h : rhs.Sound computeGenericHash memory) :
    (copy memory rhs).Stored computeGenericHash ∧
      (copy memory rhs).content = (rhs.data memory, rhs.mType) := by
  obtain ⟨hsound, howned, hbytes, htype⟩ := h.copyFrom {}
  refine ⟨⟨howned, fun memory' => ?_⟩, Prod.ext hbytes htype⟩
  exact ⟨fun hcached => absurd hcached Bool.false_ne_true, hsound.whole⟩

end ClientIndexArrayKey

end MetalAngle.Metal
