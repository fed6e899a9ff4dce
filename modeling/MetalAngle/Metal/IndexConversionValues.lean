import MetalAngle.Metal.IndexConversion
import MetalAngle.Metal.TriFanArraysCache

/-!
# The kernels and the CPU convert the same indices

`glIndex` is the index that GL reads.  The kernels and `StreamIndexData` both store the array
of these indices, and the pool's commit carries what the CPU has stored to the GPU.
-/

namespace MetalAngle.Metal

open DrawElementsType Memory
open BufferPool (SameBuffer)

/-- The `j`-th index of the GL source, as an index of the converted type. -/
def glIndex (type : DrawElementsType) (primitiveRestartEnabled : Bool) (source : Memory)
    (start j : Nat) : Nat :=
  let value := source.readLE type.size (start + type.size * j)
  if type = .UnsignedByte ∧ primitiveRestartEnabled ∧ value = 0xff then 0xffff else value

section

variable {type : DrawElementsType} {primitiveRestartEnabled : Bool} {source : Memory}
  {start j : Nat}

theorem readLE_one (m : Memory) (address : Nat) : m.readLE 1 address = (m address).toNat := by
  rw [readLE, readLE, Nat.mul_zero, Nat.add_zero]

theorem glIndex_of_ne (hne : type ≠ .UnsignedByte) :
    glIndex type primitiveRestartEnabled source start j =
      source.readLE type.size (start + type.size * j) := by
  unfold glIndex
  exact if_neg fun hbyte => hne hbyte.1

theorem glIndex_unsignedByte :
    glIndex .UnsignedByte primitiveRestartEnabled source start j =
      if primitiveRestartEnabled ∧ source (start + j) = 0xff then 0xffff
      else (source (start + j)).toNat := by
  have hvalue : source.readLE 1 (start + 1 * j) = (source (start + j)).toNat := by
    rw [Nat.one_mul, readLE_one]
  have hmax : (source (start + j)).toNat = 0xff ↔ source (start + j) = 0xff :=
    ⟨fun h => UInt8.toNat_inj.mp h, fun h => by rw [h]; rfl⟩
  unfold glIndex
  dsimp only [size]
  rw [hvalue]
  simp only [true_and, hmax]

theorem glIndex_lt : glIndex type primitiveRestartEnabled source start j <
    256 ^ type.converted.size := by
  cases type with
  | UnsignedByte =>
    have hbyte := (source (start + j)).toNat_lt
    rw [glIndex_unsignedByte]
    dsimp only [converted, size]
    split
    · omega
    · omega
  | UnsignedShort =>
      rw [glIndex_of_ne (by decide)]
      exact readLE_lt _ _
  | UnsignedInt =>
      rw [glIndex_of_ne (by decide)]
      exact readLE_lt _ _

theorem glIndex_add (q : Nat) :
    glIndex type primitiveRestartEnabled source (start + type.size * q) j =
      glIndex type primitiveRestartEnabled source start (q + j) := by
  unfold glIndex
  rw [Nat.mul_add, Nat.add_assoc]

end

theorem or_shiftLeft_of_lt {lo k : Nat} (hi : Nat) (hlo : lo < 2 ^ k) :
    lo ||| hi <<< k = lo + 2 ^ k * hi := by
  rw [Nat.or_comm, ← Nat.shiftLeft_add_eq_or_of_lt hlo, Nat.shiftLeft_eq, Nat.mul_comm,
    Nat.add_comm]

theorem getIndexAligned_eq {n offset idx : Nat} (input : Memory) (hpos : 0 < n)
    (haligned : n ∣ offset) (hfits : offset + n * idx < 2 ^ 32) :
    getIndexAligned n input offset idx = input.readLE n (offset + n * idx) := by
  obtain ⟨q, rfl⟩ := haligned
  have hindex : q + idx < 2 ^ 32 := by
    rw [← Nat.mul_add] at hfits
    exact (Nat.le_mul_of_pos_left _ hpos).trans_lt hfits
  unfold getIndexAligned
  rw [Nat.mul_div_cancel_left q hpos, Nat.mod_eq_of_lt hindex, Nat.mul_add]

theorem getIndexUnalignedU16_eq {offset idx : Nat} (input : Memory)
    (hfits : offset + 2 * idx + 1 < 2 ^ 32) :
    getIndexUnalignedU16 input offset idx = input.readLE 2 (offset + 2 * idx) := by
  have hlo := (input (offset + 2 * idx)).toNat_lt
  unfold getIndexUnalignedU16
  dsimp only
  rw [Nat.mod_eq_of_lt (by omega), Nat.mod_eq_of_lt hfits, or_shiftLeft_of_lt _ hlo,
    readLE, readLE_one]
  omega

theorem getIndexUnalignedU32_eq {offset idx : Nat} (input : Memory)
    (hfits : offset + 4 * idx + 3 < 2 ^ 32) :
    getIndexUnalignedU32 input offset idx = input.readLE 4 (offset + 4 * idx) := by
  obtain ⟨address, haddress⟩ : ∃ address, address = offset + 4 * idx := ⟨_, rfl⟩
  have h0 := (input address).toNat_lt
  have h1 := (input (address + 1)).toNat_lt
  have h2 := (input (address + 2)).toNat_lt
  have h01 : (input address).toNat + 2 ^ 8 * (input (address + 1)).toNat < 2 ^ 16 := by omega
  have h012 : (input address).toNat + 2 ^ 8 * (input (address + 1)).toNat +
      2 ^ 16 * (input (address + 2)).toNat < 2 ^ 24 := by omega
  have hread : input.readLE 4 address = (input address).toNat +
      256 * ((input (address + 1)).toNat + 256 * ((input (address + 2)).toNat +
        256 * (input (address + 3)).toNat)) := by
    rw [readLE, readLE, readLE, readLE_one]
  unfold getIndexUnalignedU32
  rw [← haddress] at hfits ⊢
  dsimp only
  rw [Nat.mod_eq_of_lt (by omega), Nat.mod_eq_of_lt (by omega), Nat.mod_eq_of_lt (by omega),
    Nat.mod_eq_of_lt hfits, or_shiftLeft_of_lt _ h0, or_shiftLeft_of_lt _ h01,
    or_shiftLeft_of_lt _ h012, hread]
  omega

theorem indexConversionKernel_eq {type : DrawElementsType} (primitiveRestartEnabled : Bool)
    (input : Memory) {srcOffset idx : Nat} (dstOffset : Nat)
    (hfits : srcOffset + type.size * idx + type.size ≤ 2 ^ 32) (output : Memory) :
    indexConversionKernel type primitiveRestartEnabled input srcOffset dstOffset output idx =
      output.writeLE type.converted.size (dstOffset + type.converted.size * idx)
        (glIndex type primitiveRestartEnabled input srcOffset idx) := by
  cases type with
  | UnsignedByte =>
    dsimp only [size] at hfits
    have hvalue : getIndexAligned 1 input srcOffset idx = input.readLE 1 (srcOffset + 1 * idx) :=
      getIndexAligned_eq input Nat.one_pos (Nat.one_dvd srcOffset) (by omega)
    unfold indexConversionKernel convertIndexU8ToU16 glIndex
    dsimp only [size, converted]
    rw [hvalue]
    simp only [true_and]
    split
    · rfl
    · rfl
  | UnsignedShort =>
    dsimp only [size] at hfits
    rw [glIndex_of_ne (by decide)]
    unfold indexConversionKernel convertIndexU16
    dsimp only [size, converted]
    split
    case isTrue heven =>
      rw [getIndexAligned_eq input (by decide) (Nat.dvd_of_mod_eq_zero heven) (by omega)]
    case isFalse => rw [getIndexUnalignedU16_eq input (by omega)]
  | UnsignedInt =>
    dsimp only [size] at hfits
    rw [glIndex_of_ne (by decide)]
    unfold indexConversionKernel convertIndexU32
    dsimp only [size, converted]
    split
    case isTrue haligned =>
      rw [getIndexAligned_eq input (by decide) (Nat.dvd_of_mod_eq_zero haligned) (by omega)]
    case isFalse => rw [getIndexUnalignedU32_eq input (by omega)]

/-- The bytes from `offset` on are `count` indices of the GL source from `start` on. -/
structure HoldsIndices (contents : Memory) (size offset : Nat) (type : DrawElementsType)
    (primitiveRestartEnabled : Bool) (source : Memory) (start count : Nat) : Prop where
  inside : offset + type.converted.size * count ≤ size
  index : ∀ j < count, contents.readLE type.converted.size (offset + type.converted.size * j) =
    glIndex type primitiveRestartEnabled source start j

/-- What Metal needs of the bound indices, and that they are those of the GL source. -/
structure IndexBinding.Denotes (binding : IndexBinding) (type : DrawElementsType)
    (primitiveRestartEnabled : Bool) (source : Memory) (start count : Nat) : Prop where
  aligned : binding.offset % kIndexBufferOffsetAlignment = 0
  indexType : binding.indexType = type.converted
  holds : HoldsIndices binding.contents binding.size binding.offset type primitiveRestartEnabled
    source start count

section

variable {contents source : Memory} {size offset start count : Nat} {type : DrawElementsType}
  {primitiveRestartEnabled : Bool}

theorem HoldsIndices.of_fill {m : Memory} (hcontents : contents =
    m.fill type.converted.size offset (glIndex type primitiveRestartEnabled source start) count)
    (hinside : offset + type.converted.size * count ≤ size) :
    HoldsIndices contents size offset type primitiveRestartEnabled source start count where
  inside := hinside
  index := fun j hj => by
    rw [hcontents]
    exact readLE_fill hj glIndex_lt

theorem HoldsIndices.of_bytes {contents' : Memory} {size' : Nat}
    (h : HoldsIndices contents size offset type primitiveRestartEnabled source start count)
    (hsize : size' = size) (hbytes : ∀ i, offset ≤ i → i < offset + type.converted.size * count →
      contents' i = contents i) :
    HoldsIndices contents' size' offset type primitiveRestartEnabled source start count where
  inside := hsize ▸ h.inside
  index := fun j hj => by
    have hlast : type.converted.size * j + type.converted.size ≤ type.converted.size * count := by
      rw [← Nat.mul_succ]
      exact Nat.mul_le_mul_left _ hj
    rw [← h.index j hj]
    apply readLE_congr
    intro i hi
    exact hbytes _ (by omega) (by omega)

theorem HoldsIndices.drop {q count' : Nat}
    (h : HoldsIndices contents size offset type primitiveRestartEnabled source start count)
    (hle : q + count' ≤ count) :
    HoldsIndices contents size (offset + type.converted.size * q) type primitiveRestartEnabled
      source (start + type.size * q) count' where
  inside := by
    have hinside := h.inside
    have hmul := Nat.mul_le_mul_left type.converted.size hle
    rw [Nat.mul_add] at hmul
    omega
  index := fun j hj => by
    rw [glIndex_add, ← h.index (q + j) (by omega), Nat.mul_add, Nat.add_assoc]

/-- The offset of a draw in the conversion that was made for the offset modulo four. -/
theorem alignedOffset_spec (type : DrawElementsType) (indices : Nat) :
    ∃ q, indices = indices % kIndexBufferOffsetAlignment + type.size * q ∧
      IndexState.alignedOffset type indices = type.converted.size * q ∧
      IndexState.alignedOffset type indices % kIndexBufferOffsetAlignment = 0 := by
  have hdiv := Nat.div_add_mod indices 4
  unfold IndexState.alignedOffset kIndexBufferOffsetAlignment
  cases type with
  | UnsignedByte =>
    refine ⟨4 * (indices / 4), ?_, ?_, ?_⟩
    · simp only [size]
      omega
    · simp only [size, converted, if_true, Nat.shiftLeft_eq]
      omega
    · simp only [if_true, Nat.shiftLeft_eq]
      omega
  | UnsignedShort =>
    refine ⟨2 * (indices / 4), ?_, ?_, ?_⟩
    · simp only [size]
      omega
    · simp only [size, converted, reduceCtorEq, if_false]
      omega
    · simp only [reduceCtorEq, if_false]
      omega
  | UnsignedInt =>
    refine ⟨indices / 4, ?_, ?_, ?_⟩
    · simp only [size]
      omega
    · simp only [size, converted, reduceCtorEq, if_false]
      omega
    · simp only [reduceCtorEq, if_false]
      omega

theorem le_getIndexCount {indices q : Nat} {bufferSize : Nat}
    (hindices : indices = start + type.size * q)
    (hinside : indices + type.size * count ≤ bufferSize) :
    q + count ≤ getIndexCount bufferSize start type := by
  have hpos : 0 < type.size := by
    cases type with
    | UnsignedByte => decide
    | UnsignedShort => decide
    | UnsignedInt => decide
  unfold getIndexCount
  rw [Nat.le_div_iff_mul_le hpos, Nat.mul_comm, Nat.mul_add]
  omega

end

/-- The array that `StreamIndexData` writes. -/
theorem holdsIndices_writeIndexData (type : DrawElementsType) (primitiveRestartEnabled : Bool)
    (source : Memory) (start : Nat) {count dstOffset size : Nat} (m : Memory)
    (hinside : dstOffset + type.converted.size * count ≤ size) :
    HoldsIndices (writeIndexData type primitiveRestartEnabled source start count dstOffset m) size
      dstOffset type primitiveRestartEnabled source start count := by
  have hcopied : ∀ n j, n * j + n ≤ n * count →
      (m.copyIn dstOffset (n * count) fun i => source (start + i)).readLE n (dstOffset + n * j) =
        source.readLE n (start + n * j) := by
    intro n j hj
    rw [readLE_copyIn _ hj]
    apply readLE_congr
    intro i _
    rw [Nat.add_assoc]
  cases type with
  | UnsignedByte =>
    apply HoldsIndices.of_fill (m := m) _ hinside
    apply foldl_range_eq_fill
    intro m k _
    rw [glIndex_unsignedByte]
    unfold expandIndex
    dsimp only [DrawElementsType.converted, DrawElementsType.size]
    split
    · rfl
    · rfl
  | UnsignedShort =>
      refine ⟨hinside, fun j hj => ?_⟩
      rw [glIndex_of_ne (by decide)]
      exact hcopied 2 j (by omega)
  | UnsignedInt =>
      refine ⟨hinside, fun j hj => ?_⟩
      rw [glIndex_of_ne (by decide)]
      exact hcopied 4 j (by omega)

theorem dispatchIndexConversion_sameBuffer (serial : Nat) (type : DrawElementsType)
    (primitiveRestartEnabled : Bool) (input : Memory) (count srcOffset dstOffset : Nat)
    (b : Buffer) :
    SameBuffer b (dispatchIndexConversion serial type primitiveRestartEnabled input count srcOffset
        dstOffset b) ∧
      (dispatchIndexConversion serial type primitiveRestartEnabled input count srcOffset dstOffset
        b).mMapReadOnly = b.mMapReadOnly := by
  unfold dispatchIndexConversion
  dsimp only
  split
  · exact ⟨⟨rfl, rfl⟩, rfl⟩
  · exact ⟨⟨rfl, rfl⟩, rfl⟩

theorem holdsIndices_dispatchIndexConversion (serial : Nat) (type : DrawElementsType)
    (primitiveRestartEnabled : Bool) (input : Memory) {count srcOffset dstOffset : Nat} {b : Buffer}
    (hreal : b.hasBuffer) (hfits : srcOffset + type.size * count ≤ 2 ^ 32)
    (hinside : dstOffset + type.converted.size * count ≤ b.size) :
    HoldsIndices (dispatchIndexConversion serial type primitiveRestartEnabled input count srcOffset
      dstOffset b).gpuContents b.size dstOffset type primitiveRestartEnabled input srcOffset
        count := by
  apply HoldsIndices.of_fill (m := b.gpuContents) _ hinside
  unfold dispatchIndexConversion
  dsimp only
  rw [if_pos hreal]
  apply foldl_range_eq_fill
  intro m k hk
  apply indexConversionKernel_eq
  have hthread := Nat.mul_le_mul_left type.size hk
  rw [Nat.mul_succ] at hthread
  omega

namespace Buffer

theorem contents_setContents (b : Buffer) (m : Memory) : (b.setContents m).contents = m := by
  unfold setContents contents
  cases b.storageMode with
  | Shared => simp only
  | Managed => simp only

theorem setContents_sameBuffer (b : Buffer) (m : Memory) :
    SameBuffer b (b.setContents m) ∧ (b.setContents m).mMapReadOnly = b.mMapReadOnly := by
  unfold setContents
  split
  · exact ⟨⟨rfl, rfl⟩, rfl⟩
  · exact ⟨⟨rfl, rfl⟩, rfl⟩

theorem gpuContents_flush {b : Buffer} {offset size i : Nat} (hwritable : b.mMapReadOnly = false)
    (hfrom : offset ≤ i) (hto : i < offset + size) (hinside : i < b.size) :
    (b.flush offset size).gpuContents i = b.contents i := by
  unfold flush contents
  cases hmode : b.storageMode with
  | Shared =>
      rw [if_neg fun hmanaged => by cases hmanaged.2]
  | Managed =>
      rw [if_pos ⟨hwritable, rfl⟩]
      dsimp only
      rw [copyIn_of_mem _ (by omega) (by omega)]
      congr 1
      omega

end Buffer

namespace BufferPool

variable {pool : BufferPool} {d : Device}

theorem commit_sameBuffer (pool : BufferPool) (b : Nat) :
    SameBuffer (pool.heap b) (pool.commit.heap b) := by
  unfold commit
  split
  case h_1 => exact ⟨rfl, rfl⟩
  case h_2 buffer hbuffer =>
    split
    case isTrue => exact update_sameBuffer pool (f := (·.flush _ _)) (flush_sameBuffer _ _ _).1 b
    case isFalse => exact ⟨rfl, rfl⟩

theorem gpuContents_commit {buffer i : Nat} (hbuffer : pool.mBuffer = some buffer)
    (hwritable : (pool.heap buffer).mMapReadOnly = false) (hfrom : pool.mLastFlushOffset ≤ i)
    (hto : i < pool.mNextAllocationOffset) (hinside : i < (pool.heap buffer).size) :
    (pool.commit.heap buffer).gpuContents i = (pool.heap buffer).contents i := by
  unfold commit
  simp only [hbuffer]
  rw [if_pos (hfrom.trans_lt hto)]
  change ((pool.updateBuffer buffer (·.flush pool.mLastFlushOffset
    (pool.mNextAllocationOffset - pool.mLastFlushOffset))).heap buffer).gpuContents i = _
  rw [updateBuffer_heap_self]
  exact Buffer.gpuContents_flush hwritable hfrom (by omega) hinside

theorem Serves.writable {sizeInBytes : Nat} {allocation : Allocation}
    {outcome : Except PoolFault Allocation × Device × BufferPool}
    (h : Serves d pool sizeInBytes true outcome) (hok : outcome.1 = .ok allocation) :
    (outcome.2.2.heap allocation.buffer).mMapReadOnly = false ∧
      allocation.offset + sizeInBytes ≤ outcome.2.2.mNextAllocationOffset := by
  obtain ⟨hbuffer, earlier, hregions⟩ := h.region allocation hok
  have hmem : ⟨allocation.offset, sizeInBytes, pool.mAlignment, true⟩ ∈
      outcome.2.2.tenure.regions := by
    rw [hregions]
    exact List.mem_cons_self
  exact ⟨(h.sound.current allocation.buffer hbuffer).writable _ hmem rfl,
    h.sound.packed.below _ hmem⟩

end BufferPool

end MetalAngle.Metal
