import MetalAngle.Metal.TriFanArrays

/-!
# The cached indices of triangle fans are those of the draw

The generated indices of a fan begin with those of every shorter fan, so a cached buffer
serves each draw of at most the vertices that it was generated for.  Its contents stay what
they were, because the pool's buffers are never mapped.
-/

namespace MetalAngle.Metal

open Option Nat
open BufferPool (SameBuffer)
open Function (update update_self update_of_ne)

/-! ## What the kernel generates -/

def fanIndex (firstVertex k : Nat) : Nat :=
  if k % 3 = 0 then firstVertex else firstVertex + k / 3 + k % 3

theorem fanIndex_triple (firstVertex i : Nat) :
    fanIndex firstVertex (3 * i) = firstVertex ∧
      fanIndex firstVertex (3 * i + 1) = firstVertex + i + 1 ∧
      fanIndex firstVertex (3 * i + 2) = firstVertex + i + 2 := by
  unfold fanIndex
  refine ⟨if_pos (by omega), ?_, ?_⟩
  · rw [if_neg (by omega)]
    omega
  · rw [if_neg (by omega)]
    omega

variable {firstVertex : Nat}

theorem genTriFanIndicesFromArray_fill {idx : Nat} (m : Memory) (dstOffset : Nat)
    (hfirst : firstVertex + 2 + idx < 2 ^ 32) (hidx : 3 * idx + 2 < 2 ^ 32) :
    genTriFanIndicesFromArray firstVertex dstOffset
        (m.fill 4 dstOffset (fanIndex firstVertex) (3 * idx)) idx =
      m.fill 4 dstOffset (fanIndex firstVertex) (3 * (idx + 1)) := by
  obtain ⟨h0, h1, h2⟩ := fanIndex_triple firstVertex idx
  have hvertex : (firstVertex + 2 + idx) % 2 ^ 32 = firstVertex + idx + 2 := by omega
  have hprevious : (firstVertex + idx + 2 + (2 ^ 32 - 1)) % 2 ^ 32 = firstVertex + idx + 1 := by
    omega
  unfold genTriFanIndicesFromArray
  dsimp only
  rw [mul_succ, Memory.fill, Memory.fill, Memory.fill, h0, h1, h2, hvertex, hprevious,
    mod_eq_of_lt (by omega : 3 * idx < 2 ^ 32),
    mod_eq_of_lt (by omega : 3 * idx + 1 < 2 ^ 32), mod_eq_of_lt hidx]

variable {n : Nat}

theorem foldl_genTriFanIndicesFromArray (m : Memory) (dstOffset : Nat)
    (hfirst : firstVertex + 2 + n ≤ 2 ^ 32) (hn : 3 * n ≤ 2 ^ 32) :
    (List.range n).foldl (genTriFanIndicesFromArray firstVertex dstOffset) m =
      m.fill 4 dstOffset (fanIndex firstVertex) (3 * n) := by
  induction n with
  | zero => rfl
  | succ n ih =>
      rw [List.range_succ, List.foldl_append, ih (by omega) (by omega)]
      exact genTriFanIndicesFromArray_fill m dstOffset (by omega) (by omega)

/-- The indices of the triangles of a fan of `count` vertices, in the bytes from `offset` on. -/
structure HoldsFan (b : Buffer) (offset firstVertex count : Nat) : Prop where
  fits : offset + 4 * (3 * (count - 2)) ≤ b.size
  triple : ∀ i < count - 2,
    b.gpuContents.readLE 4 (offset + 4 * (3 * i)) = firstVertex ∧
    b.gpuContents.readLE 4 (offset + 4 * (3 * i + 1)) = firstVertex + i + 1 ∧
    b.gpuContents.readLE 4 (offset + 4 * (3 * i + 2)) = firstVertex + i + 2

variable {b : Buffer} {offset count : Nat}

theorem HoldsFan.of_le {count' : Nat}
    (h : HoldsFan b offset firstVertex count) (hle : count' ≤ count) :
    HoldsFan b offset firstVertex count' where
  fits := by
    have hfits := h.fits
    omega
  triple := fun i hi => h.triple i (by omega)

theorem HoldsFan.of_buffer {b' : Buffer}
    (h : HoldsFan b offset firstVertex count) (hsize : b'.size = b.size)
    (hcontents : b'.gpuContents = b.gpuContents) : HoldsFan b' offset firstVertex count where
  fits := hsize ▸ h.fits
  triple := by
    rw [hcontents]
    exact h.triple

theorem dispatchTriFan_sameBuffer (b : Buffer) (serial firstVertex vertexCount dstOffset : Nat) :
    SameBuffer b (dispatchTriFan serial firstVertex vertexCount dstOffset b) ∧
      (dispatchTriFan serial firstVertex vertexCount dstOffset b).mMapReadOnly =
        b.mMapReadOnly := by
  unfold dispatchTriFan
  split
  · exact ⟨⟨rfl, rfl⟩, rfl⟩
  · exact ⟨⟨rfl, rfl⟩, rfl⟩

theorem holdsFan_dispatchTriFan (serial firstVertex count offset : Nat)
    (hreal : b.hasBuffer) (hfits : offset + 4 * (3 * (count - 2)) ≤ b.size)
    (hfirst : firstVertex < 2 ^ 31) (hcount : 3 * (count - 2) ≤ 2 ^ 30) :
    HoldsFan (dispatchTriFan serial firstVertex count offset b) offset firstVertex count := by
  have hcontents : (dispatchTriFan serial firstVertex count offset b).gpuContents =
      b.gpuContents.fill 4 offset (fanIndex firstVertex) (3 * (count - 2)) := by
    unfold dispatchTriFan
    rw [if_pos hreal, ← foldl_genTriFanIndicesFromArray _ _ (by omega) (by omega)]
  have hread : ∀ k, k < 3 * (count - 2) → fanIndex firstVertex k < 256 ^ 4 →
      (dispatchTriFan serial firstVertex count offset b).gpuContents.readLE 4 (offset + 4 * k) =
        fanIndex firstVertex k := by
    intro k hk hsmall
    rw [hcontents]
    exact Memory.readLE_fill hk hsmall
  constructor
  case fits => exact hfits.trans_eq (dispatchTriFan_sameBuffer b _ _ _ _).1.size.symm
  case triple =>
    intro i hi
    obtain ⟨h0, h1, h2⟩ := fanIndex_triple firstVertex i
    refine ⟨?_, ?_, ?_⟩
    · rw [hread _ (by omega) (by omega), h0]
    · rw [hread _ (by omega) (by omega), h1]
    · rw [hread _ (by omega) (by omega), h2]

/-! ## A pool whose buffers are not mapped -/

namespace BufferPool

def Unmapped (pool : BufferPool) : Prop := ∀ b, (pool.heap b).mMapReadOnly

/-- The buffers made so far are as they were, and none has been mapped. -/
structure KeepsHeap (pool pool' : BufferPool) : Prop where
  made_le : pool.buffersMade ≤ pool'.buffersMade
  heap_eq : ∀ b < pool.buffersMade, pool'.heap b = pool.heap b
  unmapped : pool'.Unmapped

variable {pool pool' pool'' : BufferPool} {d : Device}

theorem KeepsHeap.refl (h : pool.Unmapped) : KeepsHeap pool pool :=
  ⟨le_refl _, fun _ _ => rfl, h⟩

theorem KeepsHeap.trans (h : KeepsHeap pool pool') (h' : KeepsHeap pool' pool'') :
    KeepsHeap pool pool'' where
  __ := h'
  made_le := h.made_le.trans h'.made_le
  heap_eq := fun b hb => (h'.heap_eq b (hb.trans_le h.made_le)).trans (h.heap_eq b hb)

theorem KeepsHeap.of_heap (h : pool.Unmapped) (hheap : pool'.heap = pool.heap)
    (hmade : pool'.buffersMade = pool.buffersMade) : KeepsHeap pool pool' where
  made_le := hmade.ge
  heap_eq := fun b _ => congrFun hheap b
  unmapped := fun b => by
    rw [hheap]
    exact h b

theorem updateBuffer_eq_of_fixed {buffer : Nat} {f : Buffer → Buffer}
    (hfixed : f (pool.heap buffer) = pool.heap buffer) :
    (pool.updateBuffer buffer f).heap = pool.heap := by
  unfold updateBuffer
  rw [hfixed]
  exact Function.update_eq_self buffer pool.heap

theorem flush_of_unmapped (h : b.mMapReadOnly) (offset size : Nat) :
    b.flush offset size = b := by
  unfold Buffer.flush
  rw [if_neg]
  rintro ⟨hfalse, -⟩
  exact Bool.false_ne_true (hfalse.symm.trans h)

theorem unmapNoFlush_of_unmapped (h : b.mMapReadOnly) :
    b.unmapNoFlush = b := by
  unfold Buffer.unmapNoFlush
  rw [← h]

theorem keepsHeap_commit (h : pool.Unmapped) : KeepsHeap pool pool.commit := by
  unfold commit
  split
  case h_1 => exact .refl h
  case h_2 buffer hbuffer =>
    split
    case isFalse => exact .refl h
    case isTrue =>
      exact .of_heap h (updateBuffer_eq_of_fixed (flush_of_unmapped (h buffer) _ _)) rfl

theorem keepsHeap_finalizePendingBuffer (h : pool.Unmapped) :
    KeepsHeap pool pool.finalizePendingBuffer := by
  have hcommit := keepsHeap_commit h
  unfold finalizePendingBuffer
  split
  case h_1 => exact .of_heap h rfl rfl
  case h_2 buffer hbuffer =>
    apply hcommit.trans
    exact .of_heap hcommit.unmapped
      (updateBuffer_eq_of_fixed (unmapNoFlush_of_unmapped (hcommit.unmapped buffer))) rfl

theorem releaseLoop_heap (inFlight : List Nat) (pool : BufferPool) :
    (inFlight.foldl (releaseInFlightBuffer d) pool).heap = pool.heap ∧
      (inFlight.foldl (releaseInFlightBuffer d) pool).buffersMade = pool.buffersMade := by
  induction inFlight generalizing pool with
  | nil => exact ⟨rfl, rfl⟩
  | cons toRelease rest ih =>
    have hstep : (releaseInFlightBuffer d pool toRelease).heap = pool.heap ∧
        (releaseInFlightBuffer d pool toRelease).buffersMade = pool.buffersMade := by
      unfold releaseInFlightBuffer
      dsimp only
      split
      · exact ⟨rfl, rfl⟩
      · exact ⟨rfl, rfl⟩
    obtain ⟨hheap, hmade⟩ := ih (releaseInFlightBuffer d pool toRelease)
    exact ⟨hheap.trans hstep.1, hmade.trans hstep.2⟩

theorem keepsHeap_releaseInFlightBuffers (h : pool.Unmapped) (d : Device) :
    KeepsHeap pool (pool.releaseInFlightBuffers d) := by
  obtain ⟨hheap, hmade⟩ := releaseLoop_heap (d := d) pool.mInFlightBuffers pool
  exact .of_heap h hheap hmade

theorem reset_mMapReadOnly (b : Buffer) (d : Device) (shared : Bool) (size : Nat)
    (newMemory : Option Memory) :
    (b.reset d shared size newMemory).mMapReadOnly = b.mMapReadOnly := by
  unfold Buffer.reset
  split
  · split
    · rfl
    · rfl
  · rfl

section

variable (h : pool.Unmapped)
include h

theorem keepsHeap_newBuffer (hb : b.mMapReadOnly)
    (hheap : pool'.heap = update pool.heap pool.buffersMade b)
    (hmade : pool'.buffersMade = pool.buffersMade + 1) : KeepsHeap pool pool' where
  made_le := (le_succ _).trans hmade.ge
  heap_eq := fun buffer hlt => by
    rw [hheap, update_of_ne (Nat.ne_of_lt hlt)]
  unmapped := fun buffer => by
    by_cases hbuffer : buffer = pool.buffersMade
    · rw [hheap, hbuffer, update_self]
      exact hb
    · rw [hheap, update_of_ne hbuffer]
      exact h buffer

theorem keepsHeap_makeBuffer (newMemory : Option Memory) :
    KeepsHeap pool (pool.makeBuffer d newMemory).2 := by
  have hb := reset_mMapReadOnly {} d (pool.shouldAllocateInSharedMem d) pool.mSize newMemory
  unfold makeBuffer
  dsimp only
  split
  · exact keepsHeap_newBuffer h hb rfl rfl
  · exact keepsHeap_newBuffer h hb rfl rfl

theorem keepsHeap_allocateNewBuffer (newMemory : Option Memory) :
    KeepsHeap pool (pool.allocateNewBuffer d newMemory).2.2 := by
  obtain ⟨released, hreleased⟩ : ∃ released, released =
    if pool.reachedMaxBuffers then pool.releaseInFlightBuffers d else pool := ⟨_, rfl⟩
  have hkeeps : KeepsHeap pool released := by
    rw [hreleased]
    split
    · exact keepsHeap_releaseInFlightBuffers h d
    · exact .refl h
  unfold allocateNewBuffer
  rw [← hreleased]
  apply hkeeps.trans
  dsimp only
  split
  · split
    · exact .refl hkeeps.unmapped
    · exact .of_heap hkeeps.unmapped rfl rfl
  · exact keepsHeap_makeBuffer hkeeps.unmapped newMemory

theorem keepsHeap_nextBuffer (newMemory : Option Memory) :
    KeepsHeap pool (pool.nextBuffer d newMemory).2.2 := by
  unfold nextBuffer
  split
  · exact keepsHeap_allocateNewBuffer h newMemory
  · split
    · exact keepsHeap_allocateNewBuffer h newMemory
    · exact .of_heap h rfl rfl

theorem keepsHeap_switchBuffer (sizeToAllocate : Nat)
    (newMemory : Option Memory) :
    KeepsHeap pool (pool.switchBuffer d sizeToAllocate newMemory).2.2 := by
  obtain ⟨aside, haside⟩ : ∃ aside, aside =
    if pool.mBuffer.isSome then pool.finalizePendingBuffer else pool := ⟨_, rfl⟩
  obtain ⟨roomy, hroomy⟩ : ∃ roomy, roomy = if sizeToAllocate > aside.mSize then
    { aside with mSize := max aside.mInitialSize sizeToAllocate }.destroyFreeList
    else aside := ⟨_, rfl⟩
  have hput : KeepsHeap pool aside := by
    rw [haside]
    split
    · exact keepsHeap_finalizePendingBuffer h
    · exact .refl h
  have hroom : KeepsHeap pool roomy := by
    apply hput.trans
    rw [hroomy]
    split
    · exact .of_heap hput.unmapped rfl rfl
    · exact .refl hput.unmapped
  have hnext := hroom.trans (keepsHeap_nextBuffer (d := d) hroom.unmapped newMemory)
  unfold switchBuffer
  rw [← haside]
  dsimp only
  rw [← hroomy]
  split
  case h_1 heq =>
    rw [heq] at hnext
    exact hnext.trans (.of_heap hnext.unmapped rfl rfl)
  case h_2 heq =>
    rw [heq] at hnext
    exact hnext

theorem keepsHeap_handOut (buffer sizeInBytes sizeToAllocate : Nat) :
    KeepsHeap pool (pool.handOut buffer sizeInBytes sizeToAllocate false) :=
  .of_heap h (updateBuffer_eq_of_fixed rfl) rfl

theorem keepsHeap_allocate (sizeInBytes : Nat) (newMemory : Option Memory) :
    KeepsHeap pool (pool.allocate d sizeInBytes false newMemory).2.2 := by
  have hswitch := keepsHeap_switchBuffer (d := d) h (roundUp 64 sizeInBytes pool.mAlignment)
    newMemory
  unfold allocate
  dsimp only
  by_cases hnew : pool.needsNewBuffer (roundUp 64 sizeInBytes pool.mAlignment)
  · rw [if_pos hnew]
    split
    · exact hswitch
    · exact hswitch
    · exact hswitch.trans (keepsHeap_handOut hswitch.unmapped _ _ _)
  · rw [if_neg hnew]
    split
    · exact .refl h
    · exact .refl h
    · exact keepsHeap_handOut h _ _ _

end

end BufferPool

namespace TriFanContext

open LabelledRun BufferPool

variable {s t : TriFanContext}

/-! ## The invariant -/

/-- The cached region holds the fan that was generated last. -/
structure CachedFan (s : TriFanContext) (buffer : Nat) : Prop where
  made : buffer < s.mTriFanIndexBufferPool.buffersMade
  holds : HoldsFan (s.mTriFanIndexBufferPool.heap buffer) s.mTriFanArraysIndexBufferOffset
    s.mTriFanArraysIndexBufferFirstVertex s.generatedCount
  exactSize : s.hasBaseVertexInstancedDraw →
    (s.mTriFanIndexBufferPool.heap buffer).size = 4 * (3 * (s.generatedCount - 2))

structure Inv (s : TriFanContext) : Prop where
  sound : s.hasBaseVertexInstancedDraw = false → s.mTriFanIndexBufferPool.Sound
  small : SmallBuffers s.device s.mTriFanIndexBufferPool
  alignment : s.mTriFanIndexBufferPool.mAlignment = kIndexBufferOffsetAlignment
  unmapped : s.mTriFanIndexBufferPool.Unmapped
  offset : s.mTriFanArraysIndexBufferOffset % 4 = 0
  baseVertex : s.hasBaseVertexInstancedDraw →
    s.mTriFanArraysIndexBufferOffset = 0 ∧ s.mTriFanArraysIndexBufferFirstVertex = 0
  cached : ∀ buffer, s.mTriFanArraysIndexBuffer = some buffer → s.CachedFan buffer

/-- What a draw with bound indices draws. -/
structure DrawsFan (s : TriFanContext) (first count : Nat) (draw : IndexedDraw) : Prop where
  indexCount : draw.indexCount = 3 * (count - 2)
  aligned : draw.offset % 4 = 0
  baseVertex : draw.baseVertex = if s.hasBaseVertexInstancedDraw then first else 0
  holds : HoldsFan (s.mTriFanIndexBufferPool.heap draw.indexBuffer) draw.offset
    (if s.hasBaseVertexInstancedDraw then 0 else first) count

/-- What a draw function does. -/
structure Draws (first count : Nat)
    (outcome : Except PoolFault (Option IndexedDraw) × TriFanContext) : Prop where
  inv : outcome.2.Inv
  draws : ∀ draw, outcome.1 = .ok (some draw) → outcome.2.DrawsFan first count draw

theorem CachedFan.of_keepsHeap {buffer : Nat} (h : s.CachedFan buffer) {device : Device}
    {pool : BufferPool} (hkeeps : KeepsHeap s.mTriFanIndexBufferPool pool) :
    CachedFan { s with device, mTriFanIndexBufferPool := pool } buffer := by
  have hsame := hkeeps.heap_eq buffer h.made
  constructor
  case made => exact h.made.trans_le hkeeps.made_le
  case holds =>
    exact h.holds.of_buffer (congrArg Buffer.size hsame) (congrArg Buffer.gpuContents hsame)
  case exactSize => exact fun hbase => (congrArg Buffer.size hsame).trans (h.exactSize hbase)

theorem drawTriFan_indicesCount
    (hcount : getTriangleFanIndicesCount count = .ok n) (hlong : 3 < count)
    (hint : count < 2 ^ 31) : n = 3 * (count - 2) ∧ 4 * n < 2 ^ 32 := by
  obtain ⟨hn, hbytes⟩ := getTriangleFanIndicesCount_eq_ok hcount (by omega) (by omega)
  unfold uint32Max at hbytes
  omega

theorem Inv.updateBuffer (h : s.Inv) (buffer : Nat) {f : Buffer → Buffer}
    (hsame : ∀ b, SameBuffer b (f b)) (hmapping : ∀ b, (f b).mMapReadOnly = b.mMapReadOnly)
    (hcontents : ∀ b, (f b).gpuContents = b.gpuContents) : (s.updateBuffer buffer f).Inv where
  __ := h
  sound := fun hbase => (h.sound hbase).updateBuffer buffer (hsame _) (hmapping _)
  unmapped := fun b => (update_mMapReadOnly (hmapping _) b).trans (h.unmapped b)
  cached := fun b hb => by
    have hcached := h.cached b hb
    have hsize := (update_sameBuffer s.mTriFanIndexBufferPool (hsame
      (s.mTriFanIndexBufferPool.heap buffer)) b).size
    have hheap : ((s.mTriFanIndexBufferPool.updateBuffer buffer f).heap b).gpuContents =
        (s.mTriFanIndexBufferPool.heap b).gpuContents := by
      by_cases hbuffer : b = buffer
      · rw [hbuffer, updateBuffer_heap_self, hcontents]
      · rw [updateBuffer_heap_of_ne _ _ hbuffer]
    exact {
      made := hcached.made
      holds := hcached.holds.of_buffer hsize hheap
      exactSize := fun hbase => hsize.trans (hcached.exactSize hbase) }

variable {first : Nat}

/-- The end of a draw whose cached indices are long enough. -/
theorem Inv.draws_drawIndexed (h : s.Inv) (hle : count ≤ s.generatedCount)
    (hfirst : s.mTriFanArraysIndexBufferFirstVertex =
      if s.hasBaseVertexInstancedDraw then 0 else first) {indexCount baseVertex : Nat}
    (hoffset : offset = s.mTriFanArraysIndexBufferOffset)
    (hindexCount : indexCount = 3 * (count - 2))
    (hbaseVertex : baseVertex = if s.hasBaseVertexInstancedDraw then first else 0) :
    Draws first count (s.drawIndexed offset indexCount baseVertex) := by
  cases hbuffer : s.mTriFanArraysIndexBuffer with
  | none =>
    have hnone : s.drawIndexed offset indexCount baseVertex = (.ok none, s) := by
      unfold drawIndexed
      rw [hbuffer]
    rw [hnone]
    exact ⟨h, fun draw hdraw =>
      absurd (Except.ok.inj hdraw).symm (some_ne_none draw)⟩
  | some buffer =>
    obtain ⟨f, hf⟩ : ∃ f, f = fun b : Buffer =>
      b.setUsedByCommandBufferWithQueueSerial s.device.recordingSerial false := ⟨_, rfl⟩
    have hdrawn : s.drawIndexed offset indexCount baseVertex =
        (.ok (some ⟨buffer, offset, indexCount, baseVertex⟩), s.updateBuffer buffer f) := by
      unfold drawIndexed
      rw [hbuffer, hf]
    have hused : (s.updateBuffer buffer f).Inv := by
      apply h.updateBuffer
      · exact fun b => by rw [hf]; exact ⟨rfl, rfl⟩
      · exact fun b => by rw [hf]; rfl
      · exact fun b => by rw [hf]; rfl
    have hholds : HoldsFan ((s.updateBuffer buffer f).mTriFanIndexBufferPool.heap buffer)
        s.mTriFanArraysIndexBufferOffset s.mTriFanArraysIndexBufferFirstVertex count :=
      (hused.cached buffer hbuffer).holds.of_le hle
    rw [hdrawn]
    refine ⟨hused, fun draw hdraw => ?_⟩
    cases Except.ok.inj hdraw
    rw [← hoffset, hfirst] at hholds
    exact ⟨hindexCount, hoffset ▸ h.offset, hbaseVertex, hholds⟩

/-! ## Devices with base-vertex drawing -/

/-- The state whose cached buffer, which it has just made, holds the fan of `count` vertices. -/
theorem Inv.inv_newBuffer (h : s.Inv) (hbase : s.hasBaseVertexInstancedDraw)
    (hunmapped : b.mMapReadOnly) (hholds : HoldsFan b 0 0 count)
    (hsize : b.size = 4 * (3 * (count - 2))) {pool : BufferPool}
    (hpool : pool = { s.mTriFanIndexBufferPool with
      heap := update s.mTriFanIndexBufferPool.heap s.mTriFanIndexBufferPool.buffersMade b
      buffersMade := s.mTriFanIndexBufferPool.buffersMade + 1 }) :
    { s with
      mTriFanIndexBufferPool := pool
      mTriFanArraysIndexBuffer := some s.mTriFanIndexBufferPool.buffersMade
      generatedCount := count }.Inv := by
  obtain ⟨hoffset, hfirst⟩ := h.baseVertex hbase
  have hkeeps : KeepsHeap s.mTriFanIndexBufferPool pool := by
    apply keepsHeap_newBuffer h.unmapped hunmapped
    · rw [hpool]
    · rw [hpool]
  have hnew : pool.heap s.mTriFanIndexBufferPool.buffersMade = b := by
    rw [hpool]
    exact update_self _ _ _
  refine { h with
    sound := fun hfalse => absurd (hfalse.symm.trans hbase) Bool.false_ne_true
    small := ?small
    alignment := ?alignment
    unmapped := hkeeps.unmapped
    cached := ?cached }
  case small =>
    apply h.small.of_frame rfl
    · rw [hpool]
    · rw [hpool]
  case alignment =>
    rw [hpool]
    exact h.alignment
  case cached =>
    intro buffer hbuffer
    obtain rfl : s.mTriFanIndexBufferPool.buffersMade = buffer := some.inj hbuffer
    have hmade : s.mTriFanIndexBufferPool.buffersMade < pool.buffersMade := by
      rw [hpool]
      exact lt_succ_self _
    refine ⟨hmade, ?_, fun _ => hnew ▸ hsize⟩
    rw [hnew, hoffset, hfirst]
    exact hholds

/-- `makeIndexBuffer` makes a buffer of the wanted size or leaves a nil one. -/
theorem makeIndexBuffer_cases (s : TriFanContext) (size : Nat) (newMemory : Option Memory) :
    ∃ b : Buffer, b.mMapReadOnly ∧
      (b.hasBuffer ∧ b.size = size ∨ b.hasBuffer = false ∧ b.size = 0) ∧
      s.makeIndexBuffer size newMemory =
        (if b.hasBuffer then .ok () else .error outOfMemory, { s with
          mTriFanIndexBufferPool := { s.mTriFanIndexBufferPool with
            heap := update s.mTriFanIndexBufferPool.heap s.mTriFanIndexBufferPool.buffersMade b
            buffersMade := s.mTriFanIndexBufferPool.buffersMade + 1 }
          mTriFanArraysIndexBuffer := some s.mTriFanIndexBufferPool.buffersMade
          generatedCount := 0 }) := by
  obtain ⟨b, hb⟩ : ∃ b, b = ({} : Buffer).reset s.device false size newMemory := ⟨_, rfl⟩
  have hspec := Buffer.reset_spec {} s.device false size newMemory
  have hunmapped := reset_mMapReadOnly {} s.device false size newMemory
  rw [← hb] at hspec hunmapped
  refine ⟨b, hunmapped, hspec.imp (fun hmade => ⟨hmade.1, hmade.2.1⟩) id, ?_⟩
  unfold makeIndexBuffer
  rw [← hb]
  dsimp only
  split
  · rfl
  · rfl

theorem updateBuffer_newBuffer (pool : BufferPool) (b : Buffer) (f : Buffer → Buffer) :
    BufferPool.updateBuffer { pool with
      heap := update pool.heap pool.buffersMade b
      buffersMade := pool.buffersMade + 1 } pool.buffersMade f =
    { pool with
      heap := update pool.heap pool.buffersMade (f b)
      buffersMade := pool.buffersMade + 1 } := by
  unfold BufferPool.updateBuffer
  simp

theorem Inv.le_generatedCount (h : s.Inv) (hbase : s.hasBaseVertexInstancedDraw)
    (hn : n = 3 * (count - 2)) (hlong : 3 < count)
    (hfits : ¬ s.cachedSize.all (· < n * 4)) : count ≤ s.generatedCount := by
  unfold cachedSize at hfits
  cases hbuffer : s.mTriFanArraysIndexBuffer with
  | none =>
      rw [hbuffer] at hfits
      exact absurd rfl hfits
  | some buffer =>
      rw [hbuffer, map_some, all_some, decide_eq_true_eq, not_lt,
        (h.cached buffer hbuffer).exactSize hbase] at hfits
      omega

theorem Inv.draws_withBaseVertex (h : s.Inv) (hbase : s.hasBaseVertexInstancedDraw)
    (hlong : 3 < count) (hint : count < 2 ^ 31) (newMemory : Option Memory) :
    Draws first count (s.drawTriFanArraysWithBaseVertex first count newMemory) := by
  obtain ⟨hoffset, hfirstVertex⟩ := h.baseVertex hbase
  have hstart : s.mTriFanArraysIndexBufferFirstVertex =
      if s.hasBaseVertexInstancedDraw then 0 else first := by
    rw [hbase]
    exact hfirstVertex
  have hbaseVertex : first = if s.hasBaseVertexInstancedDraw then first else 0 := by
    rw [hbase]
    rfl
  unfold drawTriFanArraysWithBaseVertex
  split
  case h_1 error herror => exact ⟨h, fun draw hdraw => by contradiction⟩
  case h_2 n hcount =>
    obtain ⟨hn, hbytes⟩ := drawTriFan_indicesCount hcount hlong hint
    dsimp only
    split
    case isTrue hshort =>
      obtain ⟨b, hunmapped, ⟨hreal, hsize⟩ | ⟨hnil, hsize⟩, hmake⟩ :=
        makeIndexBuffer_cases s (n * 4) newMemory
      · have hgenerated := dispatchTriFan_sameBuffer b s.device.recordingSerial 0 count 0
        have hholds := holdsFan_dispatchTriFan s.device.recordingSerial 0 count 0 hreal
          (by omega) (by decide) (by omega)
        have hinv := h.inv_newBuffer hbase (hgenerated.2.trans hunmapped) hholds
          (hgenerated.1.size.trans (by omega)) (updateBuffer_newBuffer _ b _)
        rw [hmake, hreal]
        exact hinv.draws_drawIndexed (le_refl count) hstart hoffset.symm hn hbaseVertex
      · have hholds : HoldsFan b 0 0 0 := ⟨zero_le _, fun i hi => absurd hi (not_lt_zero i)⟩
        rw [hmake, hnil]
        refine ⟨h.inv_newBuffer hbase hunmapped hholds hsize rfl, fun draw hdraw => ?_⟩
        contradiction
    case isFalse hfits =>
      exact h.draws_drawIndexed (h.le_generatedCount hbase hn hlong hfits) hstart hoffset.symm hn
        hbaseVertex

/-! ## The legacy path -/

/-- A draw that generates its indices does not get a region of a nil buffer, and one that does
not has at most the vertices that the cached indices were generated for. -/
def DrawAllowed (s : TriFanContext) (first count : Nat) : Prop :=
  match getTriangleFanIndicesCount count with
  | .error _ => True
  | .ok genIndicesCount =>
      if s.mustGenerate first genIndicesCount then
        s.mTriFanIndexBufferPool.MayAllocate (genIndicesCount * 4)
      else count ≤ s.generatedCount

/-- The state when the fan has been generated in the region from the pool. -/
theorem Inv.inv_generateInto (h : s.Inv) (hbase : s.hasBaseVertexInstancedDraw = false)
    {allocation : Allocation} (hmade : allocation.buffer < s.mTriFanIndexBufferPool.buffersMade)
    (haligned : kIndexBufferOffsetAlignment ∣ allocation.offset)
    (hfits : allocation.offset + 4 * (3 * (count - 2)) ≤
      (s.mTriFanIndexBufferPool.heap allocation.buffer).size) (hlong : 3 < count)
    (hfirst : first < 2 ^ 31) (hcount : 3 * (count - 2) ≤ 2 ^ 30) :
    (s.generateInto first count allocation).Inv := by
  have hsize := (h.sound hbase).size_le allocation.buffer
  have hreal := (h.sound hbase).hasBuffer_of_size_pos allocation.buffer (by omega)
  have hoffset : allocation.offset % 2 ^ 32 = allocation.offset := by omega
  obtain ⟨f, hf⟩ : ∃ f, f = dispatchTriFan s.device.recordingSerial first count
    allocation.offset := ⟨_, rfl⟩
  have hsame : ∀ b, SameBuffer b (f b) ∧ (f b).mMapReadOnly = b.mMapReadOnly := fun b => by
    rw [hf]
    exact dispatchTriFan_sameBuffer b _ _ _ _
  have hsound := (h.sound hbase).updateBuffer (f := f) allocation.buffer (hsame _).1 (hsame _).2
  have hunmapped : (s.mTriFanIndexBufferPool.updateBuffer allocation.buffer f).Unmapped :=
    fun b => (update_mMapReadOnly (hsame _).2 b).trans (h.unmapped b)
  have hcommit := keepsHeap_commit hunmapped
  have hframe := commit_frame (s.mTriFanIndexBufferPool.updateBuffer allocation.buffer f)
  unfold generateInto
  dsimp only
  rw [hoffset]
  unfold generateTriFanBufferFromArrays
  rw [← hf]
  refine { hcommit with
    sound := fun _ => sound_commit hsound
    small := ?small
    alignment := ?alignment
    offset := mod_eq_zero_of_dvd haligned
    baseVertex := fun htrue => absurd (hbase.symm.trans htrue) Bool.false_ne_true
    cached := ?cached }
  case small => exact h.small.of_frame rfl hframe.mSize hframe.mInitialSize
  case alignment => exact hframe.mAlignment.trans h.alignment
  case cached =>
    intro buffer hbuffer
    obtain rfl : allocation.buffer = buffer := some.inj hbuffer
    refine ⟨?_, ?_, fun htrue => absurd (hbase.symm.trans htrue) Bool.false_ne_true⟩
    · exact hmade.trans_le hcommit.made_le
    · change HoldsFan ((s.mTriFanIndexBufferPool.updateBuffer allocation.buffer f).commit.heap
        allocation.buffer) allocation.offset first count
      rw [hcommit.heap_eq _ hmade, updateBuffer_heap_self, hf]
      exact holdsFan_dispatchTriFan _ _ _ _ hreal hfits hfirst hcount

theorem Inv.draws_legacy (h : s.Inv) (hbase : s.hasBaseVertexInstancedDraw = false)
    (hlong : 3 < count) (hint : count < 2 ^ 31) (hfirst : first < 2 ^ 31)
    (hallowed : s.DrawAllowed first count) (newMemory : Option Memory) :
    Draws first count (s.drawTriFanArraysLegacy first count newMemory) := by
  have hbaseVertex : 0 = if s.hasBaseVertexInstancedDraw then first else 0 := by
    rw [hbase]
    rfl
  unfold DrawAllowed at hallowed
  unfold drawTriFanArraysLegacy
  split
  case h_1 error herror => exact ⟨h, fun draw hdraw => by contradiction⟩
  case h_2 n hcount =>
    obtain ⟨hn, hbytes⟩ := drawTriFan_indicesCount hcount hlong hint
    rw [hcount] at hallowed
    dsimp only at hallowed
    split
    case isTrue hgenerate =>
      rw [if_pos hgenerate] at hallowed
      have hsmall : (n * 4 + s.mTriFanIndexBufferPool.mAlignment - 1) /
          s.mTriFanIndexBufferPool.mAlignment * s.mTriFanIndexBufferPool.mAlignment < 2 ^ 32 := by
        rw [h.alignment, kIndexBufferOffsetAlignment]
        omega
      have hserves := serves_allocate (h.sound hbase) h.small hallowed hsmall false newMemory
      have hkeeps := keepsHeap_allocate (d := s.device) h.unmapped (n * 4) newMemory
      obtain ⟨outcome, houtcome⟩ : ∃ o, o = s.mTriFanIndexBufferPool.allocate s.device (n * 4)
        false newMemory := ⟨_, rfl⟩
      rw [← houtcome] at hserves hkeeps ⊢
      obtain ⟨result, device, pool⟩ := outcome
      have hallocated : Inv { s with device, mTriFanIndexBufferPool := pool } := { h with
        sound := fun _ => hserves.sound
        small := hserves.small
        alignment := hserves.mAlignment.trans h.alignment
        unmapped := hkeeps.unmapped
        cached := fun buffer hbuffer => (h.cached buffer hbuffer).of_keepsHeap hkeeps }
      cases result with
      | error fault => exact ⟨hallocated, fun draw hdraw => by contradiction⟩
      | ok allocation =>
        obtain ⟨hmade, haligned, hfits⟩ := hserves.inside rfl
        rw [h.alignment] at haligned
        have hroom : allocation.offset + 4 * (3 * (count - 2)) ≤
            (pool.heap allocation.buffer).size := by
          rw [← hn, mul_comm 4 n]
          exact hfits
        have hinv := hallocated.inv_generateInto hbase hmade haligned hroom hlong hfirst (by omega)
        refine hinv.draws_drawIndexed (le_refl count) ?_ rfl hn hbaseVertex
        rw [hbase]
        rfl
    case isFalse hreuse =>
      rw [if_neg hreuse] at hallowed
      have hsame : s.mTriFanArraysIndexBufferFirstVertex = first := by
        simpa using (Bool.or_eq_false_iff.mp (Bool.eq_false_iff.mpr hreuse)).2
      apply h.draws_drawIndexed hallowed _ rfl hn hbaseVertex
      rw [hbase]
      exact hsame

/-! ## Runs -/

def Allowed (s : TriFanContext) : Action → Prop
  | .drawTriFanArrays first count _ =>
      s.hasBaseVertexInstancedDraw ∨ count ≤ 3 ∨ s.DrawAllowed first count
  | _ => True

theorem Inv.draws_drawTriFanArrays (h : s.Inv) (hfirst : first < 2 ^ 31)
    (hint : count < 2 ^ 31) {newMemory : Option Memory}
    (hallowed : s.Allowed (.drawTriFanArrays first count newMemory)) :
    Draws first count (s.drawTriFanArrays first count newMemory) := by
  unfold drawTriFanArrays
  split
  case isTrue =>
    exact ⟨h, fun draw hdraw => absurd (Except.ok.inj hdraw).symm (some_ne_none draw)⟩
  case isFalse hlong =>
    split
    case isTrue hbase => exact h.draws_withBaseVertex hbase (not_le.mp hlong) hint newMemory
    case isFalse hlegacy =>
      exact h.draws_legacy (Bool.eq_false_iff.mpr hlegacy) (not_le.mp hlong) hint hfirst
        ((hallowed.resolve_left hlegacy).resolve_left hlong) newMemory

theorem Inv.of_device (h : s.Inv) {device : Device}
    (hdevice : device.maxBufferLength = s.device.maxBufferLength) : Inv { s with device } where
  __ := h
  small := h.small.of_frame hdevice rfl rfl
  cached := fun buffer hbuffer => { h.cached buffer hbuffer with }

theorem Inv.inv_releaseInFlightBuffers (h : s.Inv) :
    Inv { s with
      mTriFanIndexBufferPool := s.mTriFanIndexBufferPool.releaseInFlightBuffers s.device } := by
  have hframe := releaseInFlightBuffers_frame s.mTriFanIndexBufferPool s.device
  have hkeeps := keepsHeap_releaseInFlightBuffers h.unmapped s.device
  have hsound := fun hbase => sound_releaseInFlightBuffers (h.sound hbase) s.device
  exact { h with
    sound := hsound
    small := h.small.of_frame rfl hframe.mSize hframe.mInitialSize
    alignment := hframe.mAlignment.trans h.alignment
    unmapped := hkeeps.unmapped
    cached := fun buffer hbuffer => (h.cached buffer hbuffer).of_keepsHeap hkeeps }

theorem inv_step (h : s.Inv) {a : Action} (hallowed : s.Allowed a) (hstep : step s a = some t) :
    t.Inv := by
  cases a with
  | drawTriFanArrays first count newMemory =>
      obtain ⟨⟨hfirst, hint⟩, ⟨⟩⟩ := ite_none_right_eq_some.mp hstep
      exact (h.draws_drawTriFanArrays hfirst hint hallowed).inv
  | flushCommandBufer =>
      cases hstep
      exact h.of_device rfl
  | completeCommandBuffer serial =>
      cases hstep
      exact h.of_device rfl
  | releaseInFlightBuffers =>
      cases hstep
      exact h.inv_releaseInFlightBuffers

theorem inv_initial (d : Device) (hasBaseVertexInstancedDraw : Bool) :
    (initial d hasBaseVertexInstancedDraw).Inv where
  sound := fun _ => by
    have hnew : BufferPool.Sound { mMaxBuffers := 0 } := sound_new .Auto false
    exact sound_updateAlignment hnew 4 (by decide) (.inr ⟨by decide, by decide⟩)
  small := .inr ⟨zero_le _, zero_le _⟩
  alignment := rfl
  unmapped := fun _ => rfl
  offset := rfl
  baseVertex := fun _ => ⟨rfl, rfl⟩
  cached := fun buffer hbuffer => by contradiction

theorem inv_run {d : Device} {hasBaseVertexInstancedDraw : Bool} {acts : List Action}
    (hrun : Run step Allowed (initial d hasBaseVertexInstancedDraw) acts s) : s.Inv :=
  hrun.invariant (fun _ _ _ (hs : TriFanContext.Inv _) hallowed hstep =>
      inv_step hs hallowed hstep)
    (inv_initial d hasBaseVertexInstancedDraw)

/-- In every run whose draws are allowed, an allowed draw binds the indices of its fan: on a
device with base-vertex drawing those of the fan from vertex 0 on. -/
theorem run_drawsFan (d : Device) (hasBaseVertexInstancedDraw : Bool) {acts : List Action}
    (hrun : Run step Allowed (initial d hasBaseVertexInstancedDraw) acts s) {first count : Nat}
    {newMemory : Option Memory} (hallowed : s.Allowed (.drawTriFanArrays first count newMemory))
    (hfirst : first < 2 ^ 31) (hint : count < 2 ^ 31) {draw : IndexedDraw}
    (hdraw : s.drawTriFanArrays first count newMemory = (.ok (some draw), t)) :
    t.DrawsFan first count draw := by
  have hdraws := (inv_run hrun).draws_drawTriFanArrays hfirst hint hallowed
  rw [hdraw] at hdraws
  exact hdraws.draws draw rfl

instance (s : TriFanContext) (first count : Nat) : Decidable (s.DrawAllowed first count) :=
  match hcount : getTriangleFanIndicesCount count with
  | .error _ => .isTrue (by
      unfold DrawAllowed
      rw [hcount]
      trivial)
  | .ok n =>
      decidable_of_iff (if s.mustGenerate first n then
          s.mTriFanIndexBufferPool.MayAllocate (n * 4) else count ≤ s.generatedCount) (by
        unfold DrawAllowed
        rw [hcount])

instance (s : TriFanContext) : (a : Action) → Decidable (s.Allowed a)
  | .drawTriFanArrays _ _ _ => inferInstanceAs (Decidable (_ ∨ _ ∨ DrawAllowed _ _ _))
  | .flushCommandBufer => .isTrue trivial
  | .completeCommandBuffer _ => .isTrue trivial
  | .releaseInFlightBuffers => .isTrue trivial

def withoutBaseVertex : Device where
  isMacOS := false
  forceBufferGPUStorage := false
  hasUnifiedMemory := true
  maxBufferLength := 2 ^ 28

def zeros : Option Memory := some fun _ => 0

/-- The last draw uses the region of the second one again. -/
theorem run_drawsFan_reused : ∃ s t draw,
    Run step Allowed (initial withoutBaseVertex false)
      [.drawTriFanArrays 0 9 zeros, .drawTriFanArrays 5 7 zeros, .flushCommandBufer,
        .completeCommandBuffer 1, .releaseInFlightBuffers] s ∧
      s.drawTriFanArrays 5 6 none = (.ok (some draw), t) ∧ draw.indexBuffer = 1 ∧
      t.DrawsFan 5 6 draw := by
  obtain ⟨s, hexec, hbuffer, hallowed, hdraw⟩ :
      ∃ s, exec (checked step fun s a => decide (s.Allowed a)) (initial withoutBaseVertex false)
        [.drawTriFanArrays 0 9 zeros, .drawTriFanArrays 5 7 zeros, .flushCommandBufer,
          .completeCommandBuffer 1, .releaseInFlightBuffers] = some s ∧
      s.mTriFanArraysIndexBuffer = some 1 ∧
      decide (s.Allowed (.drawTriFanArrays 5 6 none)) = true ∧
      (s.drawTriFanArrays 5 6 none).1 = .ok (some ⟨1, 0, 12, 0⟩) := ⟨_, rfl, rfl, rfl, rfl⟩
  have hrun := Run.of_exec_checked _ (fun _ _ => of_decide_eq_true) hexec
  refine ⟨s, _, _, hrun, Prod.ext hdraw rfl, rfl, ?_⟩
  exact run_drawsFan withoutBaseVertex false hrun (of_decide_eq_true hallowed) (by decide)
    (by decide) (Prod.ext hdraw rfl)

/-- A short fan is generated in a buffer as large as an earlier long one, and a long fan with
the same first vertex finds the buffer large enough. -/
theorem not_holdsFan_of_reuse : ∃ s t draw,
    Run step anyStep (initial withoutBaseVertex false)
      [.drawTriFanArrays 0 9 zeros, .drawTriFanArrays 1 4 zeros] s ∧
      s.drawTriFanArrays 1 9 none = (.ok (some draw), t) ∧ draw.baseVertex = 0 ∧
      ¬ HoldsFan (t.mTriFanIndexBufferPool.heap draw.indexBuffer) draw.offset 1 9 := by
  obtain ⟨s, hexec, hdraw, hindex⟩ :
      ∃ s, exec step (initial withoutBaseVertex false)
        [.drawTriFanArrays 0 9 zeros, .drawTriFanArrays 1 4 zeros] = some s ∧
      (s.drawTriFanArrays 1 9 none).1 = .ok (some ⟨1, 0, 21, 0⟩) ∧
      ((s.drawTriFanArrays 1 9 none).2.mTriFanIndexBufferPool.heap 1).gpuContents.readLE 4
        (4 * (3 * 2)) = 0 := ⟨_, rfl, rfl, rfl⟩
  refine ⟨s, _, _, .of_exec hexec, Prod.ext hdraw rfl, rfl, fun hholds => ?_⟩
  have hthird := (hholds.triple 2 (by decide)).1
  exact absurd (hthird.symm.trans hindex) (by decide)

end TriFanContext

end MetalAngle.Metal
