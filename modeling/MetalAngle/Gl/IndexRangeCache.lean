import MetalAngle.Metal.IndexConversion

/-!
# `gl::Buffer` and its `IndexRangeCache`

A buffer caches the index ranges that draws asked for and drops entries when its contents change.
The implementation behind the buffer is taken to hold the contents that the calls give it; its calls
are taken to succeed.
-/

namespace MetalAngle.Gl

open LabelledRun Nat
open MetalAngle.Metal (DrawElementsType)

/-! ## Index ranges -/

/-- The field `end` of the source is `last`. -/
structure IndexRange where
  start : Nat
  last : Nat
  vertexIndexCount : Nat
deriving DecidableEq

namespace IndexRange

def visit (range : IndexRange) (index : Nat) : IndexRange :=
  { range with
    start := if range.start > index then index else range.start
    last := if range.last < index then index else range.last }

def count (range : IndexRange) : IndexRange :=
  { range with vertexIndexCount := range.vertexIndexCount + 1 }

/-- The first of `n` indices from `i` on that is not the primitive restart index. -/
def firstIndex (indices : Nat → Nat) (primitiveRestartIndex : Nat) : Nat → Nat → Nat
  | i, 0 => i
  | i, n + 1 =>
      if indices i ≠ primitiveRestartIndex then i
      else firstIndex indices primitiveRestartIndex (i + 1) n

end IndexRange

open IndexRange

def computeTypedIndexRange (indices : Nat → Nat) (count : Nat) (primitiveRestartEnabled : Bool)
    (primitiveRestartIndex : Nat) : IndexRange :=
  if primitiveRestartEnabled then
    let i := firstIndex indices primitiveRestartIndex 0 count
    let first : IndexRange :=
      if i < count then { start := indices i, last := indices i, vertexIndexCount := 1 }
      else { start := 0, last := 0, vertexIndexCount := 0 }
    (List.range' i (count - i)).foldl (fun range k =>
      if indices k ≠ primitiveRestartIndex then (range.visit (indices k)).count else range) first
  else
    (List.range' 1 (count - 1)).foldl (fun range k => range.visit (indices k))
      { start := indices 0, last := indices 0, vertexIndexCount := count }

def getPrimitiveRestartIndex (indexType : DrawElementsType) : Nat := 2 ^ indexType.bits - 1

structure IndexRangeKey where
  type : DrawElementsType
  offset : Nat
  count : Nat
  primitiveRestartEnabled : Bool
deriving DecidableEq

namespace IndexRangeKey

def byteCount (key : IndexRangeKey) : Nat := key.type.size * key.count

end IndexRangeKey

def computeIndexRange (contents : Memory) (key : IndexRangeKey) : IndexRange :=
  computeTypedIndexRange
    (fun i => contents.readLE key.type.size (key.offset + key.type.size * i)) key.count
    key.primitiveRestartEnabled (getPrimitiveRestartIndex key.type)

/-! ## The cache -/

abbrev IndexRangeCache := IndexRangeKey → Option IndexRange

namespace IndexRangeCache

def clear : IndexRangeCache := fun _ => none

def addRange (cache : IndexRangeCache) (key : IndexRangeKey) (range : IndexRange) :
    IndexRangeCache :=
  Function.update cache key (some range)

def findRange (cache : IndexRangeCache) (key : IndexRangeKey) : Option IndexRange := cache key

/-- An entry stays when it ends before the changed bytes or begins after them.  The sums are of 64
bits. -/
def invalidateRange (cache : IndexRangeCache) (offset size : Nat) : IndexRangeCache := fun key =>
  let invalidateStart := offset
  let invalidateEnd := (offset + size) % 2 ^ 64
  let rangeStart := key.offset
  let rangeEnd := (key.offset + key.byteCount) % 2 ^ 64
  if invalidateEnd < rangeStart ∨ invalidateStart > rangeEnd then cache key else none

end IndexRangeCache

/-- `static_cast<unsigned int>`. -/
def toUnsignedInt (n : Nat) : Nat := n % 2 ^ 32

/-! ## Buffers -/

structure Access where
  read : Bool
  write : Bool
  invalidateRange : Bool
  invalidateBuffer : Bool
  flushExplicit : Bool
  unsynchronized : Bool

namespace Access

def none : Access := ⟨false, false, false, false, false, false⟩

def writeOnly : Access := { none with write := true }

/-- The combinations that `ValidateMapBufferRangeBase` accepts. -/
def Valid (access : Access) : Prop :=
  (access.read ∨ access.write) ∧
    (access.read → access.invalidateRange = false ∧ access.invalidateBuffer = false ∧
      access.unsynchronized = false) ∧
    (access.flushExplicit → access.write)

instance (access : Access) : Decidable access.Valid :=
  inferInstanceAs (Decidable (_ ∧ _ ∧ _))

end Access

structure Buffer where
  contents : Memory
  mSize : Nat
  mMapped : Bool
  mMapOffset : Nat
  mMapLength : Nat
  mAccessFlags : Access
  mIndexRangeCache : IndexRangeCache

namespace Buffer

def initial : Buffer :=
  { contents := fun _ => 0, mSize := 0, mMapped := false, mMapOffset := 0, mMapLength := 0,
    mAccessFlags := .none, mIndexRangeCache := .clear }

section

variable (b : Buffer)

def bufferData (data : Memory) (size : Nat) : Buffer :=
  { b with contents := data, mSize := size, mIndexRangeCache := .clear }

def bufferSubData (data : Memory) (size offset : Nat) : Buffer :=
  { b with
    contents := b.contents.copyIn offset size data
    mIndexRangeCache :=
      b.mIndexRangeCache.invalidateRange (toUnsignedInt offset) (toUnsignedInt size) }

def copyBufferSubData (source : Option Memory) (sourceOffset destOffset size : Nat) :
    Buffer :=
  let bytes := source.getD b.contents
  { b with
    contents := b.contents.copyIn destOffset size fun i => bytes (sourceOffset + i)
    mIndexRangeCache :=
      b.mIndexRangeCache.invalidateRange (toUnsignedInt destOffset) (toUnsignedInt size) }

def map : Buffer :=
  { b with
    mMapped := true, mMapOffset := 0, mMapLength := b.mSize, mAccessFlags := .writeOnly
    mIndexRangeCache := .clear }

def mapRange (offset length : Nat) (access : Access) (invalidated : Memory) : Buffer :=
  { b with
    contents :=
      if access.invalidateBuffer then invalidated
      else if access.invalidateRange then b.contents.copyIn offset length invalidated
      else b.contents
    mMapped := true, mMapOffset := offset, mMapLength := length, mAccessFlags := access
    mIndexRangeCache :=
      if access.write then
        b.mIndexRangeCache.invalidateRange (toUnsignedInt offset) (toUnsignedInt length)
      else b.mIndexRangeCache }

def writeMapped (address : Nat) (byte : UInt8) : Buffer :=
  { b with contents := Function.update b.contents address byte }

def unmap : Buffer :=
  { b with mMapped := false, mMapOffset := 0, mMapLength := 0, mAccessFlags := .none }

def onDataChanged (contents : Memory) : Buffer :=
  { b with contents := contents, mIndexRangeCache := .clear }

def getIndexRange (key : IndexRangeKey) : IndexRange × Buffer :=
  match b.mIndexRangeCache.findRange key with
  | some range => (range, b)
  | none =>
      let range := computeIndexRange b.contents key
      (range, { b with mIndexRangeCache := b.mIndexRangeCache.addRange key range })

/-- The bytes that the application may write through the pointer. -/
def MapsForWriting (address : Nat) : Prop :=
  b.mMapped ∧ b.mAccessFlags.write ∧
    b.mMapOffset ≤ address ∧ address < b.mMapOffset + b.mMapLength

end

instance (b : Buffer) (address : Nat) : Decidable (b.MapsForWriting address) :=
  inferInstanceAs (Decidable (_ ∧ _ ∧ _ ∧ _))

/-! ## Runs -/

inductive Action
  | bufferData (data : Memory) (size : Nat)
  | bufferSubData (data : Memory) (size offset : Nat)
  | copyBufferSubData (source : Option Memory) (sourceOffset destOffset size : Nat)
  | map
  | mapRange (offset length : Nat) (access : Access) (invalidated : Memory)
  | writeMapped (address : Nat) (byte : UInt8)
  | unmap
  | onDataChanged (contents : Memory)
  | getIndexRange (key : IndexRangeKey)

def validates (b : Buffer) : Action → Bool
  | .bufferData _ size => decide (size < 2 ^ 63)
  | .bufferSubData _ size offset => !b.mMapped && decide (offset + size ≤ b.mSize)
  | .copyBufferSubData _ _ destOffset size => !b.mMapped && decide (destOffset + size ≤ b.mSize)
  | .map => !b.mMapped
  | .mapRange offset length access _ =>
      !b.mMapped && decide (0 < length ∧ offset + length ≤ b.mSize ∧ access.Valid)
  | .writeMapped address _ => decide (b.MapsForWriting address)
  | .unmap => b.mMapped
  | .onDataChanged _ => true
  | .getIndexRange key => decide (0 < key.count ∧ key.offset + key.byteCount ≤ b.mSize)

def apply (b : Buffer) : Action → Buffer
  | .bufferData data size => b.bufferData data size
  | .bufferSubData data size offset => b.bufferSubData data size offset
  | .copyBufferSubData source sourceOffset destOffset size =>
      b.copyBufferSubData source sourceOffset destOffset size
  | .map => b.map
  | .mapRange offset length access invalidated => b.mapRange offset length access invalidated
  | .writeMapped address byte => b.writeMapped address byte
  | .unmap => b.unmap
  | .onDataChanged contents => b.onDataChanged contents
  | .getIndexRange key => (b.getIndexRange key).2

def step (b : Buffer) (action : Action) : Option Buffer :=
  if b.validates action then some (b.apply action) else none

/-- Changed ranges fit 32 bits, a map that invalidates the buffer maps all of it, and a buffer that
is mapped for writing is not queried. -/
def coherent (b : Buffer) : Action → Bool
  | .bufferSubData _ size offset => decide (offset < 2 ^ 32 ∧ size < 2 ^ 32)
  | .copyBufferSubData _ _ destOffset size => decide (destOffset < 2 ^ 32 ∧ size < 2 ^ 32)
  | .mapRange offset length access _ =>
      decide ((access.write = true → offset < 2 ^ 32 ∧ length < 2 ^ 32) ∧
        (access.invalidateBuffer → offset = 0 ∧ length = b.mSize))
  | .getIndexRange _ => !(b.mMapped && b.mAccessFlags.write)
  | _ => true

end Buffer

/-! ## What a range depends on -/

theorem firstIndex_congr {indices indices' : Nat → Nat} (primitiveRestartIndex : Nat) {i n : Nat}
    (h : ∀ k, i ≤ k → k < i + n → indices k = indices' k) :
    firstIndex indices primitiveRestartIndex i n =
      firstIndex indices' primitiveRestartIndex i n := by
  induction n generalizing i with
  | zero => rfl
  | succ n ih =>
      have hfirst : indices i = indices' i := h i (le_refl i) (by omega)
      have hrest := @ih (i + 1) fun k hle hlt => h k (by omega) (by omega)
      rw [firstIndex, firstIndex, hfirst, hrest]

theorem foldl_range'_congr {α : Type*} {round round' : α → Nat → α} {i n : Nat}
    (h : ∀ k, i ≤ k → k < i + n → ∀ a, round a k = round' a k) (a : α) :
    (List.range' i n).foldl round a = (List.range' i n).foldl round' a := by
  apply List.foldl_ext
  intro a k hk
  rw [List.mem_range'_1] at hk
  exact h k hk.1 hk.2 a

/-- A range is computed from the first `count` indices. -/
theorem computeTypedIndexRange_congr {indices indices' : Nat → Nat} {count : Nat}
    (hpos : 0 < count) (h : ∀ k < count, indices k = indices' k) (enabled : Bool)
    (primitiveRestartIndex : Nat) :
    computeTypedIndexRange indices count enabled primitiveRestartIndex =
      computeTypedIndexRange indices' count enabled primitiveRestartIndex := by
  unfold computeTypedIndexRange
  split
  · have hfirst : firstIndex indices primitiveRestartIndex 0 count =
        firstIndex indices' primitiveRestartIndex 0 count := by
      apply firstIndex_congr
      intro k _ hlt
      exact h k (by omega)
    rw [hfirst]
    generalize firstIndex indices' primitiveRestartIndex 0 count = i
    dsimp only
    by_cases hi : i < count
    · rw [if_pos hi, if_pos hi, h i hi]
      apply foldl_range'_congr
      intro k _ hlt range
      rw [h k (by omega)]
    · have hnone : count - i = 0 := by omega
      rw [hnone, if_neg hi, if_neg hi]
      rfl
  · rw [h 0 hpos]
    apply foldl_range'_congr
    intro k _ hlt range
    rw [h k (by omega)]

theorem computeIndexRange_congr {contents contents' : Memory} {key : IndexRangeKey}
    (hpos : 0 < key.count)
    (h : ∀ i, key.offset ≤ i → i < key.offset + key.byteCount → contents i = contents' i) :
    computeIndexRange contents key = computeIndexRange contents' key := by
  apply computeTypedIndexRange_congr hpos
  intro k hk
  apply Memory.readLE_congr
  intro i hi
  apply h
  · omega
  · have hbytes : key.type.size * k + key.type.size ≤ key.byteCount := by
      calc key.type.size * k + key.type.size
        _ = key.type.size * (k + 1) := (mul_succ _ k).symm
        _ ≤ key.type.size * key.count := mul_le_mul_left _ hk
    omega

/-! ## The invariant -/

namespace IndexRangeKey

/-- The bytes from `start` to `stop` are not those of the indices. -/
def Avoids (key : IndexRangeKey) (start stop : Nat) : Prop :=
  key.offset + key.byteCount ≤ start ∨ stop ≤ key.offset

theorem Avoids.congr {key : IndexRangeKey} {start stop : Nat} (h : key.Avoids start stop)
    (hpos : 0 < key.count) {contents contents' : Memory}
    (hsame : ∀ i, ¬ (start ≤ i ∧ i < stop) → contents i = contents' i) :
    computeIndexRange contents key = computeIndexRange contents' key := by
  apply computeIndexRange_congr hpos
  intro i hle hlt
  apply hsame
  rcases h with h | h
  · omega
  · omega

end IndexRangeKey

namespace IndexRangeCache

variable {cache : IndexRangeCache} {key : IndexRangeKey} {range : IndexRange}

theorem of_invalidateRange {offset size : Nat}
    (h : cache.invalidateRange offset size key = some range) : cache key = some range := by
  exact (Option.ite_none_right_eq_some.mp h).2

theorem avoids_of_invalidateRange {offset size : Nat} (hoffset : offset < 2 ^ 32)
    (hsize : size < 2 ^ 32) (hend : key.offset + key.byteCount < 2 ^ 64)
    (h : cache.invalidateRange (toUnsignedInt offset) (toUnsignedInt size) key = some range) :
    key.offset + key.byteCount < offset ∨ offset + size < key.offset := by
  unfold invalidateRange toUnsignedInt at h
  have hkept := (Option.ite_none_right_eq_some.mp h).1
  omega

theorem addRange_eq_some {key' : IndexRangeKey} {range' : IndexRange}
    (h : cache.addRange key' range' key = some range) :
    key = key' ∧ range = range' ∨ cache key = some range := by
  unfold addRange at h
  by_cases hkey : key = key'
  · rw [hkey, Function.update_self] at h
    exact .inl ⟨hkey, (Option.some.inj h).symm⟩
  · rw [Function.update_of_ne hkey] at h
    exact .inr h

end IndexRangeCache

namespace Buffer

/-- What the cache says of an entry is so, and the entries of a buffer that is mapped for writing
are about other bytes than the mapped ones. -/
structure Inv (b : Buffer) : Prop where
  size : b.mSize < 2 ^ 63
  count : ∀ key range, b.mIndexRangeCache key = some range → 0 < key.count
  inside : ∀ key range, b.mIndexRangeCache key = some range →
    key.offset + key.byteCount ≤ b.mSize
  range : ∀ key range, b.mIndexRangeCache key = some range →
    range = computeIndexRange b.contents key
  mapped : b.mMapped → b.mAccessFlags.write → ∀ key range,
    b.mIndexRangeCache key = some range →
      key.Avoids b.mMapOffset (b.mMapOffset + b.mMapLength)

variable {b : Buffer}

theorem inv_initial : Inv initial where
  size := by decide
  count := fun _ _ h => by contradiction
  inside := fun _ _ h => by contradiction
  range := fun _ _ h => by contradiction
  mapped := fun h => by contradiction

theorem inv_of_clear {b : Buffer} (hsize : b.mSize < 2 ^ 63)
    (hclear : ∀ key, b.mIndexRangeCache key = none) : b.Inv where
  size := hsize
  count := fun key _ h => by rw [hclear key] at h; contradiction
  inside := fun key _ h => by rw [hclear key] at h; contradiction
  range := fun key _ h => by rw [hclear key] at h; contradiction
  mapped := fun _ _ key _ h => by rw [hclear key] at h; contradiction

theorem avoids_empty (key : IndexRangeKey) : key.Avoids 0 0 := .inr (zero_le _)

section

variable (h : b.Inv)
include h

/-- A call that changes the bytes from `start` to `stop` and keeps entries about other bytes. -/
theorem Inv.change (b' : Buffer) (start stop : Nat) (hsize : b'.mSize = b.mSize)
    (hcache : ∀ key range, b'.mIndexRangeCache key = some range →
      b.mIndexRangeCache key = some range ∧ key.Avoids start stop)
    (hsame : ∀ i, ¬ (start ≤ i ∧ i < stop) → b.contents i = b'.contents i)
    (hmapped : b'.mMapped → b'.mAccessFlags.write → ∀ key range,
      b'.mIndexRangeCache key = some range →
        key.Avoids b'.mMapOffset (b'.mMapOffset + b'.mMapLength)) : b'.Inv where
  size := by
    rw [hsize]
    exact h.size
  count := fun key range hkey => h.count key range (hcache key range hkey).1
  inside := fun key range hkey => by
    rw [hsize]
    exact h.inside key range (hcache key range hkey).1
  range := fun key range hkey => by
    obtain ⟨hold, havoids⟩ := hcache key range hkey
    rw [h.range key range hold]
    exact havoids.congr (h.count key range hold) hsame
  mapped := hmapped

theorem Inv.avoids {offset size : Nat} (hoffset : offset < 2 ^ 32)
    (hsize : size < 2 ^ 32) {key : IndexRangeKey} {range : IndexRange}
    (hkey : b.mIndexRangeCache.invalidateRange (toUnsignedInt offset) (toUnsignedInt size) key =
      some range) :
    b.mIndexRangeCache key = some range ∧
      (key.offset + key.byteCount < offset ∨ offset + size < key.offset) := by
  have hold := IndexRangeCache.of_invalidateRange hkey
  have hinside := h.inside key range hold
  have hbound := h.size
  exact ⟨hold, IndexRangeCache.avoids_of_invalidateRange hoffset hsize (by omega) hkey⟩

/-- A call that writes `size` bytes at `offset` and invalidates their range. -/
theorem Inv.write (data : Memory) {offset size : Nat} (hoffset : offset < 2 ^ 32)
    (hsize : size < 2 ^ 32) :
    Inv { b with
      contents := b.contents.copyIn offset size data
      mIndexRangeCache :=
        b.mIndexRangeCache.invalidateRange (toUnsignedInt offset) (toUnsignedInt size) } := by
  apply h.change _ offset (offset + size)
  · rfl
  · intro key range hkey
    obtain ⟨hold, havoids⟩ := h.avoids hoffset hsize hkey
    exact ⟨hold, havoids.imp le_of_lt le_of_lt⟩
  · intro i hout
    exact (Memory.copyIn_of_not_mem data hout).symm
  · intro hmapped hwrite key range hkey
    exact h.mapped hmapped hwrite key range (h.avoids hoffset hsize hkey).1

theorem Inv.mapRange_write {offset length : Nat} {access : Access}
    (invalidated : Memory) (hwrite : access.write)
    (hoffset : offset < 2 ^ 32) (hlength : length < 2 ^ 32)
    (hwhole : access.invalidateBuffer → offset = 0 ∧ length = b.mSize) :
    (b.mapRange offset length access invalidated).Inv := by
  have hkept : ∀ key range,
      (b.mapRange offset length access invalidated).mIndexRangeCache key = some range →
        b.mIndexRangeCache key = some range ∧
          (key.offset + key.byteCount < offset ∨ offset + length < key.offset) := by
    intro key range hkey
    unfold Buffer.mapRange at hkey
    rw [if_pos hwrite] at hkey
    exact h.avoids hoffset hlength hkey
  by_cases hbuffer : access.invalidateBuffer
  · -- Every entry is inside the buffer, all of which is invalidated.
    obtain ⟨hzero, hall⟩ := hwhole hbuffer
    apply inv_of_clear
    · exact h.size
    · intro key
      cases hkey : (b.mapRange offset length access invalidated).mIndexRangeCache key with
      | none => rfl
      | some range =>
          obtain ⟨hold, hout⟩ := hkept key range hkey
          have hinside := h.inside key range hold
          omega
  · apply h.change _ offset (offset + length)
    · rfl
    · intro key range hkey
      exact ⟨(hkept key range hkey).1, (hkept key range hkey).2.imp le_of_lt le_of_lt⟩
    · intro i hout
      unfold Buffer.mapRange
      rw [if_neg hbuffer]
      split
      · exact (Memory.copyIn_of_not_mem invalidated hout).symm
      · rfl
    · intro _ _ key range hkey
      exact (hkept key range hkey).2.imp le_of_lt le_of_lt

theorem Inv.mapRange_read (offset length : Nat) {access : Access}
    (invalidated : Memory) (hvalid : access.Valid) (hwrite : access.write = false) :
    (b.mapRange offset length access invalidated).Inv := by
  obtain ⟨hreadOrWrite, hread, -⟩ := hvalid
  obtain ⟨hrange, hbuffer, -⟩ := hread (by simpa [hwrite] using hreadOrWrite)
  apply h.change _ 0 0
  · rfl
  · intro key range hkey
    unfold Buffer.mapRange at hkey
    rw [hwrite] at hkey
    exact ⟨hkey, avoids_empty key⟩
  · intro i _
    unfold Buffer.mapRange
    rw [hbuffer, hrange]
    rfl
  · intro _ hmapped
    exact absurd (hwrite.symm.trans hmapped) (by decide)

theorem Inv.writeMapped {address : Nat} (hmaps : b.MapsForWriting address)
    (byte : UInt8) : (b.writeMapped address byte).Inv := by
  obtain ⟨hmapped, hwrite, hle, hlt⟩ := hmaps
  apply h.change _ address (address + 1)
  · rfl
  · intro key range hkey
    refine ⟨hkey, ?_⟩
    rcases h.mapped hmapped hwrite key range hkey with havoids | havoids
    · exact .inl (by omega)
    · exact .inr (by omega)
  · intro i hout
    have hne : i ≠ address := by omega
    exact (Function.update_of_ne hne byte b.contents).symm
  · exact h.mapped

theorem Inv.unmap : b.unmap.Inv := by
  apply h.change _ 0 0
  · rfl
  · intro key range hkey
    exact ⟨hkey, avoids_empty key⟩
  · intro i _
    rfl
  · intro hmapped
    contradiction

theorem Inv.getIndexRange_eq (key : IndexRangeKey) :
    (b.getIndexRange key).1 = computeIndexRange b.contents key := by
  unfold Buffer.getIndexRange IndexRangeCache.findRange
  split
  · rename_i range hkey
    exact h.range key range hkey
  · rfl

theorem Inv.getIndexRange {key : IndexRangeKey} (hcount : 0 < key.count)
    (hinside : key.offset + key.byteCount ≤ b.mSize)
    (hmapped : ¬ (b.mMapped ∧ b.mAccessFlags.write)) :
    (b.getIndexRange key).2.Inv := by
  unfold Buffer.getIndexRange
  split
  · exact h
  · have hentry : ∀ key' range, (b.mIndexRangeCache.addRange key
        (computeIndexRange b.contents key)) key' = some range →
        key' = key ∧ range = computeIndexRange b.contents key ∨
          b.mIndexRangeCache key' = some range :=
      fun _ _ => IndexRangeCache.addRange_eq_some
    constructor
    · exact h.size
    · intro key' range hkey
      rcases hentry key' range hkey with ⟨rfl, -⟩ | hold
      · exact hcount
      · exact h.count key' range hold
    · intro key' range hkey
      rcases hentry key' range hkey with ⟨rfl, -⟩ | hold
      · exact hinside
      · exact h.inside key' range hold
    · intro key' range hkey
      rcases hentry key' range hkey with ⟨rfl, rfl⟩ | hold
      · rfl
      · exact h.range key' range hold
    · intro hmap hwrite
      exact absurd ⟨hmap, hwrite⟩ hmapped

theorem Inv.step {b' : Buffer} {action : Action} (hcoherent : b.coherent action)
    (hstep : step b action = some b') : b'.Inv := by
  obtain ⟨hvalidates, ⟨⟩⟩ := Option.ite_none_right_eq_some.mp hstep
  cases action with
  | bufferData data size =>
      apply inv_of_clear
      · exact of_decide_eq_true hvalidates
      · exact fun _ => rfl
  | bufferSubData data size offset =>
      obtain ⟨hoffset, hsize⟩ := of_decide_eq_true hcoherent
      exact h.write data hoffset hsize
  | copyBufferSubData source sourceOffset destOffset size =>
      obtain ⟨hoffset, hsize⟩ := of_decide_eq_true hcoherent
      exact h.write _ hoffset hsize
  | map =>
      apply inv_of_clear
      · exact h.size
      · exact fun _ => rfl
  | mapRange offset length access invalidated =>
    obtain ⟨hfits, hwhole⟩ := of_decide_eq_true hcoherent
    obtain ⟨-, hvalid⟩ := Bool.and_eq_true_iff.mp hvalidates
    obtain ⟨-, -, haccess⟩ := of_decide_eq_true hvalid
    cases hwrite : access.write with
    | false => exact h.mapRange_read offset length invalidated haccess hwrite
    | true =>
        obtain ⟨hoffset, hlength⟩ := hfits hwrite
        exact h.mapRange_write invalidated hwrite hoffset hlength hwhole
  | writeMapped address byte => exact h.writeMapped (of_decide_eq_true hvalidates) byte
  | unmap => exact h.unmap
  | onDataChanged contents =>
      apply inv_of_clear
      · exact h.size
      · exact fun _ => rfl
  | getIndexRange key =>
      obtain ⟨hcount, hinside⟩ := of_decide_eq_true hvalidates
      apply h.getIndexRange hcount hinside
      intro ⟨hmapped, hwrite⟩
      simp [coherent, hmapped, hwrite] at hcoherent

end

/-- In every run whose changes fit 32 bits, whose maps that invalidate the buffer map all of it and
which does not query a buffer that is mapped for writing, every answer is the range of the current
contents. -/
theorem getIndexRange_run {actions : List Action}
    (hrun : Run step (fun b action => b.coherent action = true) initial actions b)
    (key : IndexRangeKey) : (b.getIndexRange key).1 = computeIndexRange b.contents key := by
  have hpres : ∀ (b : Buffer) (action : Action) (b' : Buffer), b.Inv →
      b.coherent action = true → step b action = some b' → b'.Inv :=
    fun _ _ _ h hcoherent hstep => h.step hcoherent hstep
  exact (hrun.invariant hpres inv_initial).getIndexRange_eq key

def fourBytes (offset : Nat) : IndexRangeKey := ⟨.UnsignedByte, offset, 4, false⟩

/-- An entry is dropped when its bytes are written and when they are mapped. -/
theorem getIndexRange_run_small : ∃ b, Run step (fun b action => b.coherent action = true) initial
    [.bufferData (fun _ => 0) 16, .getIndexRange (fourBytes 0), .bufferSubData (fun _ => 5) 1 3,
      .getIndexRange (fourBytes 0), .mapRange 2 4 .writeOnly (fun _ => 0), .writeMapped 2 7,
      .unmap] b ∧
    (b.getIndexRange (fourBytes 0)).1 = computeIndexRange b.contents (fourBytes 0) ∧
    computeIndexRange b.contents (fourBytes 0) = ⟨0, 7, 4⟩ := by
  obtain ⟨b, hexec, hrange⟩ : ∃ b, exec (checked step coherent) initial
      [.bufferData (fun _ => 0) 16, .getIndexRange (fourBytes 0), .bufferSubData (fun _ => 5) 1 3,
        .getIndexRange (fourBytes 0), .mapRange 2 4 .writeOnly (fun _ => 0), .writeMapped 2 7,
        .unmap] = some b ∧
      computeIndexRange b.contents (fourBytes 0) = ⟨0, 7, 4⟩ := ⟨_, rfl, rfl⟩
  have hrun := Run.of_exec_checked coherent (fun _ _ h => h) hexec
  exact ⟨b, hrun, getIndexRange_run hrun (fourBytes 0), hrange⟩

/-- A stale range is the answer after a write at `2 ^ 32`, after a map of another part that
invalidates the buffer, and after a query while the buffer is mapped. -/
theorem getIndexRange_stale :
    (∃ b, Run step anyStep initial
      [.bufferData (fun _ => 0) (2 ^ 32 + 16), .getIndexRange (fourBytes (2 ^ 32)),
        .bufferSubData (fun _ => 5) 1 (2 ^ 32)] b ∧
      (b.getIndexRange (fourBytes (2 ^ 32))).1 ≠
        computeIndexRange b.contents (fourBytes (2 ^ 32))) ∧
    (∃ b, Run step anyStep initial [.bufferData (fun _ => 0) 16, .getIndexRange (fourBytes 8),
        .mapRange 0 4 { Access.writeOnly with invalidateBuffer := true } (fun _ => 5),
        .unmap] b ∧
      (b.getIndexRange (fourBytes 8)).1 ≠ computeIndexRange b.contents (fourBytes 8)) ∧
    ∃ b, Run step anyStep initial
      [.bufferData (fun _ => 0) 16, .map, .getIndexRange (fourBytes 0), .writeMapped 0 5,
        .unmap] b ∧
      (b.getIndexRange (fourBytes 0)).1 ≠ computeIndexRange b.contents (fourBytes 0) := by
  refine ⟨⟨_, Run.of_exec rfl, ?_⟩, ⟨_, Run.of_exec rfl, ?_⟩, ⟨_, Run.of_exec rfl, ?_⟩⟩
  · decide
  · decide
  · decide

end Buffer

end MetalAngle.Gl
