import MetalAngle.Metal.BufferPoolAccounting

/-!
# What `BufferPool::reset` keeps

`reset` compares the free buffers with the initial size of the call before, not with the one that
is requested.  What it keeps is what later allocations take.
-/

namespace MetalAngle.Metal

open List Option

namespace BufferPool

variable {pool pool' : BufferPool} {d : Device}

/-- Of the buffers of `pool`, `pool'` holds some, of the same sizes. -/
structure Narrows (pool pool' : BufferPool) : Prop where
  held : ∀ buffer ∈ pool'.held, buffer ∈ pool.held
  same : ∀ buffer, SameBuffer (pool.heap buffer) (pool'.heap buffer)
  mInitialSize : pool'.mInitialSize = pool.mInitialSize
  mSize : pool'.mSize = pool.mSize

theorem SameBuffer.trans {b b' b'' : Buffer} (h : SameBuffer b b') (h' : SameBuffer b' b'') :
    SameBuffer b b'' :=
  ⟨h'.hasBuffer.trans h.hasBuffer, h'.size.trans h.size⟩

theorem Narrows.refl (pool : BufferPool) : Narrows pool pool :=
  ⟨fun _ hbuffer => hbuffer, fun _ => ⟨rfl, rfl⟩, rfl, rfl⟩

theorem Narrows.trans {pool'' : BufferPool} (h : Narrows pool pool') (h' : Narrows pool' pool'') :
    Narrows pool pool'' where
  held := fun buffer hbuffer => h.held buffer (h'.held buffer hbuffer)
  same := fun buffer => (h.same buffer).trans (h'.same buffer)
  mInitialSize := h'.mInitialSize.trans h.mInitialSize
  mSize := h'.mSize.trans h.mSize

theorem narrows_updateBuffer (pool : BufferPool) {f : Buffer → Buffer} {buffer : Nat}
    (hsame : SameBuffer (pool.heap buffer) (f (pool.heap buffer))) :
    Narrows pool (pool.updateBuffer buffer f) :=
  ⟨fun _ hbuffer => hbuffer, update_sameBuffer pool hsame, rfl, rfl⟩

theorem narrows_commit (pool : BufferPool) : Narrows pool pool.commit := by
  unfold commit
  split
  case h_1 => exact .refl pool
  case h_2 buffer _ =>
    split
    case isFalse => exact .refl pool
    case isTrue =>
      exact { @narrows_updateBuffer pool (·.flush pool.mLastFlushOffset
        (pool.mNextAllocationOffset - pool.mLastFlushOffset)) buffer
        (flush_sameBuffer _ _ _).1 with }

theorem held_finalizePendingBuffer {buffer : Nat}
    (hbuffer : buffer ∈ pool.finalizePendingBuffer.held) : buffer ∈ pool.held := by
  obtain ⟨hinFlight, hfree⟩ := finalizePendingBuffer_held pool
  unfold held at hbuffer ⊢
  rw [finalizePendingBuffer_mBuffer, hinFlight, hfree] at hbuffer
  simp only [toList_none, nil_append, mem_append] at hbuffer ⊢
  exact hbuffer.imp_left Or.symm

theorem narrows_finalizePendingBuffer (pool : BufferPool) :
    Narrows pool pool.finalizePendingBuffer where
  held := fun _ hbuffer => held_finalizePendingBuffer hbuffer
  same := by
    intro b
    unfold finalizePendingBuffer
    split
    case h_1 => exact ⟨rfl, rfl⟩
    case h_2 buffer _ =>
      have hunmapped := @update_sameBuffer pool.commit (·.unmapNoFlush) buffer ⟨rfl, rfl⟩ b
      exact ((narrows_commit pool).same b).trans hunmapped
  mInitialSize := (finalizePendingBuffer_frame pool).2.2
  mSize := (finalizePendingBuffer_frame pool).1

theorem narrows_releaseInFlightBuffers (pool : BufferPool) (d : Device) :
    Narrows pool (pool.releaseInFlightBuffers d) where
  held := by
    intro buffer hbuffer
    have hframe := releaseInFlightBuffers_frame pool d
    unfold held at hbuffer ⊢
    rw [hframe.mBuffer] at hbuffer
    rcases mem_append.mp hbuffer with hcurrent | hfree
    · rw [show (pool.releaseInFlightBuffers d).mInFlightBuffers = [] from rfl,
        append_nil] at hcurrent
      exact mem_append_left _ (mem_append_left _ hcurrent)
    · rw [append_assoc]
      exact mem_append_right _ (releaseInFlightBuffers_free_subset pool d buffer hfree)
  same := fun buffer => by
    rw [releaseInFlightBuffers_heap]
    exact ⟨rfl, rfl⟩
  mInitialSize := (releaseInFlightBuffers_frame pool d).mInitialSize
  mSize := (releaseInFlightBuffers_frame pool d).mSize

theorem narrows_putAside (pool : BufferPool) : Narrows pool pool.putAside := by
  unfold putAside
  split
  · exact narrows_finalizePendingBuffer pool
  · exact .refl pool

/-! ## Later allocations -/

/-- Every Metal buffer of the pool has the requested initial size, and so will every new one. -/
structure Roomy (pool : BufferPool) (initialSize : Nat) : Prop where
  held : ∀ buffer ∈ pool.held, (pool.heap buffer).hasBuffer →
    initialSize ≤ (pool.heap buffer).size
  initial : pool.mInitialSize = initialSize
  recorded : pool.mSize ≠ 0 → initialSize ≤ pool.mSize

variable {initialSize : Nat}

section

variable (h : pool.Roomy initialSize)
include h

theorem Roomy.narrows (hnarrows : Narrows pool pool') :
    pool'.Roomy initialSize where
  held := fun buffer hbuffer hreal => by
    rw [(hnarrows.same buffer).size]
    exact h.held buffer (hnarrows.held buffer hbuffer)
      ((hnarrows.same buffer).hasBuffer.symm.trans hreal)
  initial := hnarrows.mInitialSize.trans h.initial
  recorded := by
    rw [hnarrows.mSize]
    exact h.recorded

/-- The pool when a buffer for `sizeToAllocate` bytes is looked for. -/
theorem Roomy.readyToSwitch (sizeToAllocate : Nat) :
    (pool.readyToSwitch sizeToAllocate).Roomy initialSize ∧
      ((pool.readyToSwitch sizeToAllocate).mSize = 0 → pool.mSize = 0 ∧ sizeToAllocate = 0) := by
  have hnarrows := narrows_putAside pool
  have haside := h.narrows hnarrows
  unfold BufferPool.readyToSwitch
  split
  case isTrue hlarge =>
    have hroom : initialSize ≤ max pool.putAside.mInitialSize sizeToAllocate := by
      rw [haside.initial]
      exact Nat.le_max_left _ _
    refine ⟨⟨fun buffer hbuffer => ?_, haside.initial, fun _ => hroom⟩, fun hzero => ?_⟩
    · apply haside.held buffer
      exact mem_append_left _ ((mem_append.mp hbuffer).resolve_right not_mem_nil)
    · have hmax : max pool.putAside.mInitialSize sizeToAllocate = 0 := hzero
      omega
  case isFalse hfits =>
    refine ⟨haside, fun hzero => ?_⟩
    rw [← hnarrows.mSize]
    omega

theorem Roomy.takeFront {front : Nat} {rest : List Nat}
    (hfree : pool.mBufferFreeList = front :: rest) (d : Device) :
    (pool.takeFront d front rest).Roomy initialSize where
  __ := h
  held := by
    intro buffer hbuffer
    apply h.held buffer
    have hmem : buffer ∈ [front] ++ pool.mInFlightBuffers ++ rest := hbuffer
    unfold BufferPool.held
    rw [hfree]
    simp only [mem_append, mem_cons, not_mem_nil, or_false] at hmem ⊢
    rcases hmem with (hfront | hinFlight) | hrest
    · exact .inr (.inl hfront)
    · exact .inl (.inr hinFlight)
    · exact .inr (.inr hrest)

theorem Roomy.makeBuffer (d : Device) {newMemory : Option Memory}
    (hbytes : pool.mSize = 0 → newMemory = none) :
    (pool.makeBuffer d newMemory).2.Roomy initialSize := by
  obtain ⟨b, hb⟩ : ∃ b, b = ({} : Buffer).reset d (pool.shouldAllocateInSharedMem d) pool.mSize
    newMemory := ⟨_, rfl⟩
  have hspec := Buffer.reset_spec {} d (pool.shouldAllocateInSharedMem d) pool.mSize newMemory
  have hnew : b.hasBuffer → initialSize ≤ b.size := by
    intro hreal
    rw [← hb] at hspec
    rcases hspec with ⟨-, hsize, -⟩ | ⟨hnil, -⟩
    · rw [hsize]
      apply h.recorded
      intro hzero
      rw [hbytes hzero] at hb
      have hfailed : b.hasBuffer = false := congrArg Buffer.hasBuffer hb
      exact absurd (hfailed.symm.trans hreal) Bool.false_ne_true
    · exact absurd (hnil.symm.trans hreal) Bool.false_ne_true
  have hheld : ∀ buffer ∈ (some pool.buffersMade).toList ++ pool.mInFlightBuffers ++
      pool.mBufferFreeList, (Function.update pool.heap pool.buffersMade b buffer).hasBuffer →
        initialSize ≤ (Function.update pool.heap pool.buffersMade b buffer).size := by
    intro buffer hbuffer hreal
    by_cases hmade : buffer = pool.buffersMade
    · rw [hmade, Function.update_self] at hreal ⊢
      exact hnew hreal
    · rw [Function.update_of_ne hmade] at hreal ⊢
      apply h.held buffer _ hreal
      unfold BufferPool.held
      simp only [toList_some, mem_append, mem_singleton, hmade, false_or]
        at hbuffer ⊢
      rcases hbuffer with hinFlight | hfree
      · exact .inl (.inr hinFlight)
      · exact .inr hfree
  unfold BufferPool.makeBuffer
  rw [← hb]
  dsimp only
  split
  · exact ⟨hheld, h.initial, h.recorded⟩
  · exact ⟨hheld, h.initial, h.recorded⟩

theorem Roomy.allocateNewBuffer (d : Device)
    {newMemory : Option Memory} (hbytes : pool.mSize = 0 → newMemory = none) :
    (pool.allocateNewBuffer d newMemory).2.2.Roomy initialSize := by
  unfold BufferPool.allocateNewBuffer
  by_cases hreached : pool.reachedMaxBuffers
  · have hnarrows := narrows_releaseInFlightBuffers pool d
    have hreleased := h.narrows hnarrows
    rw [if_pos hreached]
    dsimp only
    split
    case isTrue =>
      split
      case h_1 => exact hreleased
      case h_2 front rest hfree => exact hreleased.takeFront hfree _
    case isFalse =>
      exact hreleased.makeBuffer d fun hzero => hbytes (hnarrows.mSize.symm.trans hzero)
  · rw [if_neg hreached, if_neg hreached]
    exact h.makeBuffer d hbytes

theorem Roomy.nextBuffer (d : Device)
    {newMemory : Option Memory} (hbytes : pool.mSize = 0 → newMemory = none) :
    (pool.nextBuffer d newMemory).2.2.Roomy initialSize := by
  unfold BufferPool.nextBuffer
  split
  case h_1 => exact h.allocateNewBuffer d hbytes
  case h_2 front rest hfree =>
    split
    case isTrue => exact h.allocateNewBuffer d hbytes
    case isFalse => exact h.takeFront hfree d

theorem Roomy.switchBuffer (d : Device) {sizeToAllocate : Nat}
    {newMemory : Option Memory}
    (hbytes : pool.mSize = 0 → sizeToAllocate = 0 → newMemory = none) :
    (pool.switchBuffer d sizeToAllocate newMemory).2.2.Roomy initialSize := by
  obtain ⟨hready, hzero⟩ := h.readyToSwitch sizeToAllocate
  have hnext := @Roomy.nextBuffer _ _ hready d newMemory fun hsize =>
    hbytes (hzero hsize).1 (hzero hsize).2
  rw [switchBuffer_eq]
  split
  case h_1 heq =>
    rw [heq] at hnext
    exact { hnext with }
  case h_2 heq =>
    rw [heq] at hnext
    exact hnext

end

theorem narrows_handOut (pool : BufferPool) (buffer sizeInBytes sizeToAllocate : Nat)
    (wantPtr : Bool) :
    Narrows pool (pool.handOut buffer sizeInBytes sizeToAllocate wantPtr) := by
  have hsame : SameBuffer (pool.heap buffer) ((fun b : Buffer =>
      if wantPtr then { b with mMapReadOnly := false } else b) (pool.heap buffer)) := by
    cases wantPtr with
    | true => exact ⟨rfl, rfl⟩
    | false => exact ⟨rfl, rfl⟩
  exact { narrows_updateBuffer pool hsame with }

theorem Roomy.allocate (h : pool.Roomy initialSize) (d : Device) {sizeInBytes : Nat}
    {newMemory : Option Memory}
    (hbytes : pool.mSize = 0 → roundUp 64 sizeInBytes pool.mAlignment = 0 → newMemory = none)
    (wantPtr : Bool) :
    (pool.allocate d sizeInBytes wantPtr newMemory).2.2.Roomy initialSize := by
  have hswitched := h.switchBuffer d hbytes
  unfold BufferPool.allocate
  cases hneeds : pool.needsNewBuffer (roundUp 64 sizeInBytes pool.mAlignment) with
  | false =>
      simp only [hneeds, Bool.false_eq_true, if_false]
      split
      · exact h
      · exact h
      · exact h.narrows (narrows_handOut pool _ _ _ _)
  | true =>
      simp only [hneeds, if_true]
      split
      · exact hswitched
      · exact hswitched
      · exact hswitched.narrows (narrows_handOut _ _ _ _ _)

/-! ## The decision of `reset` -/

/-- `releaseInFlightBuffers` drops the buffer. -/
def Unfit (pool : BufferPool) (d : Device) (buffer : Nat) : Prop :=
  (pool.heap buffer).size < pool.mSize ∨
    (d.isMacOS ∧ (pool.heap buffer).useSharedMem ≠ pool.shouldAllocateInSharedMem d)

instance (pool : BufferPool) (d : Device) (buffer : Nat) : Decidable (pool.Unfit d buffer) :=
  inferInstanceAs (Decidable (_ ∨ _))

/-- The buffers that `reset` finds free: those in flight and the current one are as well, when
they are as large as `mSize` and in the wanted storage. -/
def reusable (pool : BufferPool) (d : Device) : List Nat :=
  pool.mBufferFreeList ++ (pool.mInFlightBuffers ++ pool.mBuffer.toList).filter fun buffer =>
    decide (¬ pool.Unfit d buffer)

def firstBuffers (maxBuffers : Nat) (buffers : List Nat) : List Nat :=
  if maxBuffers = 0 then buffers else buffers.take maxBuffers

/-- The condition on a reset: when the first of the buffers that it finds free is as large as the
initial size of the call before, that one and the idle ones it keeps are as large as the new
initial size, and those in use can be replaced. -/
def KeepsLarge (pool : BufferPool) (d : Device) (initialSize maxBuffers : Nat)
    (newMemory : Nat → Option Memory) : Prop :=
  ∀ front rest, pool.reusable d = front :: rest →
    pool.mInitialSize ≤ (pool.heap front).size → initialSize ≠ 0 →
    initialSize ≤ (pool.heap front).size ∧
      ∀ buffer ∈ firstBuffers maxBuffers (pool.reusable d),
        if d.isBeingUsedByGPU (pool.heap buffer) then
          (newMemory buffer).isSome ∧ (pool.heap front).size ≤ d.maxBufferLength
        else initialSize ≤ (pool.heap buffer).size

theorem releaseLoop_free (inFlight : List Nat) (pool : BufferPool) :
    (inFlight.foldl (releaseInFlightBuffer d) pool).mBufferFreeList =
      pool.mBufferFreeList ++ inFlight.filter fun buffer => decide (¬ pool.Unfit d buffer) := by
  induction inFlight generalizing pool with
  | nil => exact (append_nil _).symm
  | cons toRelease rest ih =>
    rw [foldl_cons, ih]
    by_cases hunfit : pool.Unfit d toRelease
    · obtain ⟨count, hround⟩ : ∃ count, releaseInFlightBuffer d pool toRelease =
          { pool with mBuffersAllocated := count } := ⟨_, if_pos hunfit⟩
      rw [hround, filter_cons_of_neg (p := fun buffer => decide (¬ pool.Unfit d buffer))
        (by simpa using hunfit)]
      rfl
    · have hround : releaseInFlightBuffer d pool toRelease = _ := if_neg hunfit
      rw [hround, filter_cons_of_pos (p := fun buffer => decide (¬ pool.Unfit d buffer))
        (by simpa using hunfit)]
      exact append_assoc _ [toRelease] _

theorem finalizePendingBuffer_useSharedMem (pool : BufferPool) (buffer : Nat) :
    (pool.finalizePendingBuffer.heap buffer).useSharedMem = (pool.heap buffer).useSharedMem := by
  have hflush : ∀ (b : Buffer) (offset size : Nat),
      (b.flush offset size).useSharedMem = b.useSharedMem := by
    intro b offset size
    unfold Buffer.flush
    split
    · rfl
    · rfl
  have hcommit : (pool.commit.heap buffer).useSharedMem = (pool.heap buffer).useSharedMem := by
    unfold commit
    split
    · rfl
    · rename_i current _
      split
      · by_cases hbuffer : buffer = current
        · rw [hbuffer]
          rw [updateBuffer_heap_self, hflush]
        · rw [updateBuffer_heap_of_ne _ _ hbuffer]
      · rfl
  unfold finalizePendingBuffer
  split
  · rfl
  · rename_i current _
    by_cases hbuffer : buffer = current
    · rw [hbuffer] at hcommit ⊢
      rw [updateBuffer_heap_self]
      exact hcommit
    · rw [updateBuffer_heap_of_ne _ _ hbuffer]
      exact hcommit

theorem retired_free (pool : BufferPool) (d : Device) :
    (pool.retired d).mBufferFreeList = pool.reusable d := by
  obtain ⟨hinFlight, hfree⟩ := finalizePendingBuffer_held pool
  have hnarrows := narrows_finalizePendingBuffer pool
  have hunfit : ∀ buffer, pool.finalizePendingBuffer.Unfit d buffer ↔ pool.Unfit d buffer := by
    intro buffer
    have hpolicy : pool.finalizePendingBuffer.mMemPolicy = pool.mMemPolicy := by
      unfold finalizePendingBuffer commit
      cases pool.mBuffer with
      | none => rfl
      | some current =>
          dsimp only
          split
          · rfl
          · rfl
    unfold Unfit shouldAllocateInSharedMem
    rw [(hnarrows.same buffer).size, hnarrows.mSize, hpolicy, finalizePendingBuffer_useSharedMem]
  have hloop := releaseLoop_free (d := d) pool.finalizePendingBuffer.mInFlightBuffers
    pool.finalizePendingBuffer
  have hretired : (pool.retired d).mBufferFreeList = _ := hloop
  rw [hretired, hfree, hinFlight]
  congr 1
  apply filter_congr
  intro buffer _
  rw [decide_eq_decide, hunfit]

theorem keptFree_eq (pool : BufferPool) (maxBuffers : Nat) :
    pool.keptFree maxBuffers = firstBuffers maxBuffers pool.mBufferFreeList := by
  unfold keptFree firstBuffers
  by_cases hmax : maxBuffers = 0
  · rw [if_neg fun h => h.1 hmax, if_pos hmax]
  · split
    case isTrue => rfl
    case isFalse hfew =>
      exact (take_of_length_le (Nat.not_lt.mp fun hlt => hfew ⟨hmax, hlt⟩)).symm

theorem updateAlignment_fields (pool : BufferPool) (alignment : Nat) :
    (pool.updateAlignment alignment).heap = pool.heap ∧
      (pool.updateAlignment alignment).mBuffer = pool.mBuffer ∧
      (pool.updateAlignment alignment).mInFlightBuffers = pool.mInFlightBuffers ∧
      (pool.updateAlignment alignment).mBufferFreeList = pool.mBufferFreeList ∧
      (pool.updateAlignment alignment).mInitialSize = pool.mInitialSize ∧
      (pool.updateAlignment alignment).mSize = pool.mSize := by
  unfold updateAlignment
  split
  · exact ⟨rfl, rfl, rfl, rfl, rfl, rfl⟩
  · exact ⟨rfl, rfl, rfl, rfl, rfl, rfl⟩

/-- What `reset` leaves: the buffers it keeps, each idle one as it was and each one in use
replaced, or none. -/
structure ResetTo (pool : BufferPool) (d : Device) (initialSize maxBuffers : Nat)
    (newMemory : Nat → Option Memory) (kept : List Nat) (size : Nat) (pool' : BufferPool) :
    Prop where
  vacant : pool'.mBuffer = none
  inFlight : pool'.mInFlightBuffers = []
  initial : pool'.mInitialSize = initialSize
  free : pool'.mBufferFreeList = kept
  mSize : pool'.mSize = size
  idle : ∀ buffer ∈ kept, d.isBeingUsedByGPU (pool.heap buffer) = false →
    (pool'.heap buffer).size = (pool.heap buffer).size
  replaced : ∀ buffer ∈ kept, d.isBeingUsedByGPU (pool.heap buffer) →
    (pool'.heap buffer).size =
      if (newMemory buffer).isSome ∧ size ≤ d.maxBufferLength then size else 0

theorem size_reset (b : Buffer) (d : Device) (useSharedMem : Bool) (size : Nat)
    (newMemory : Option Memory) :
    (b.reset d useSharedMem size newMemory).size =
      if newMemory.isSome ∧ size ≤ d.maxBufferLength then size else 0 := by
  cases newMemory with
  | none => rfl
  | some contents =>
      by_cases hle : size ≤ d.maxBufferLength
      · have hmade : b.reset d useSharedMem size (some contents) = _ := if_pos hle
        rw [hmade, if_pos ⟨rfl, hle⟩]
      · have hfailed : b.reset d useSharedMem size (some contents) = _ := if_neg hle
        rw [hfailed, if_neg fun h => hle h.2]

theorem resetTo_dropFreeBuffers (pool : BufferPool) (d : Device) (initialSize maxBuffers : Nat)
    (newMemory : Nat → Option Memory) :
    ResetTo pool d initialSize maxBuffers newMemory [] 0 { (pool.retired d).dropFreeBuffers with
        mInitialSize := initialSize
        mMaxBuffers := maxBuffers } where
  vacant := (releaseInFlightBuffers_frame _ d).mBuffer.trans (finalizePendingBuffer_mBuffer pool)
  inFlight := rfl
  initial := rfl
  free := rfl
  mSize := rfl
  idle := fun buffer hbuffer => by contradiction
  replaced := fun buffer hbuffer => by contradiction

theorem isBeingUsedByGPU_retired (pool : BufferPool) (d : Device) (buffer : Nat) :
    d.isBeingUsedByGPU ((pool.retired d).heap buffer) = d.isBeingUsedByGPU (pool.heap buffer) := by
  unfold Device.isBeingUsedByGPU
  rw [(retired_heap pool d buffer).2]

theorem resetTo_keepFreeBuffers (pool : BufferPool) (d : Device) (initialSize maxBuffers : Nat)
    (newMemory : Nat → Option Memory) (front : Nat) :
    ResetTo pool d initialSize maxBuffers newMemory (firstBuffers maxBuffers (pool.reusable d))
      (pool.heap front).size
      { (pool.retired d).keepFreeBuffers d front maxBuffers newMemory with
        mInitialSize := initialSize
        mMaxBuffers := maxBuffers } := by
  obtain ⟨heap, count, hpool, -, hheap⟩ :=
    keepFreeBuffers_eq (pool.retired d) d front maxBuffers newMemory
  rw [keptFree_eq, retired_free] at hheap
  have hvacant : (pool.retired d).mBuffer = none :=
    (releaseInFlightBuffers_frame _ d).mBuffer.trans (finalizePendingBuffer_mBuffer pool)
  rw [hpool]
  constructor
  case vacant => exact hvacant
  case inFlight => rfl
  case initial => rfl
  case free => exact (keptFree_eq _ _).trans (congrArg _ (retired_free pool d))
  case mSize => exact (retired_heap pool d front).1
  case idle =>
    intro buffer _ hidle
    have hsame := hheap buffer
    rw [isBeingUsedByGPU_retired, if_neg fun h => absurd (hidle.symm.trans h.2)
      Bool.false_ne_true] at hsame
    exact (congrArg Buffer.size hsame).trans (retired_heap pool d buffer).1
  case replaced =>
    intro buffer hbuffer hused
    have hnew := hheap buffer
    rw [isBeingUsedByGPU_retired, if_pos ⟨hbuffer, hused⟩] at hnew
    have hsize := (congrArg Buffer.size hnew).trans (size_reset _ _ _ _ _)
    rw [show ((pool.retired d).heap front).size = (pool.heap front).size from
      (retired_heap pool d front).1] at hsize
    exact hsize

theorem ResetTo.updateAlignment {maxBuffers size : Nat} {newMemory : Nat → Option Memory}
    {kept : List Nat} (h : ResetTo pool d initialSize maxBuffers newMemory kept size pool')
    (alignment : Nat) : ResetTo pool d initialSize maxBuffers newMemory kept size
      (pool'.updateAlignment alignment) := by
  obtain ⟨hheap, hbuffer, hinFlight, hfree, hinitial, hsize⟩ :=
    updateAlignment_fields pool' alignment
  exact {
    vacant := hbuffer.trans h.vacant
    inFlight := hinFlight.trans h.inFlight
    initial := hinitial.trans h.initial
    free := hfree.trans h.free
    mSize := hsize.trans h.mSize
    idle := by
      rw [hheap]
      exact h.idle
    replaced := by
      rw [hheap]
      exact h.replaced }

/-- `reset` keeps buffers when the first one is as large as the initial size of the call before. -/
theorem reset_cases (pool : BufferPool) (d : Device) (initialSize alignment maxBuffers : Nat)
    (newMemory : Nat → Option Memory) :
    (∃ front rest, pool.reusable d = front :: rest ∧ pool.mInitialSize ≤ (pool.heap front).size ∧
      ResetTo pool d initialSize maxBuffers newMemory (firstBuffers maxBuffers (pool.reusable d))
        (pool.heap front).size (pool.reset d initialSize alignment maxBuffers newMemory)) ∨
    (∀ front rest, pool.reusable d = front :: rest → ¬ pool.mInitialSize ≤ (pool.heap front).size) ∧
      ResetTo pool d initialSize maxBuffers newMemory [] 0
        (pool.reset d initialSize alignment maxBuffers newMemory) := by
  have hfree := retired_free pool d
  have hinitial : (pool.retired d).mInitialSize = pool.mInitialSize :=
    ((narrows_finalizePendingBuffer pool).trans (narrows_releaseInFlightBuffers _ d)).mInitialSize
  have hdropped := (resetTo_dropFreeBuffers pool d initialSize maxBuffers
    newMemory).updateAlignment alignment
  unfold reset
  dsimp only
  rw [← hfree]
  split
  case h_1 hnil =>
    rw [hnil]
    exact .inr ⟨fun front rest hcons => by contradiction, hdropped⟩
  case h_2 front rest hcons =>
    have hsize := (retired_heap pool d front).1
    rw [hinitial, hsize]
    split
    case isTrue hle =>
      have hkept := (resetTo_keepFreeBuffers pool d initialSize maxBuffers newMemory
        front).updateAlignment alignment
      rw [← hfree] at hkept
      exact .inl ⟨front, rest, hcons, hle, hkept⟩
    case isFalse hlt =>
      refine .inr ⟨fun front' rest' hcons' => ?_, hdropped⟩
      obtain ⟨rfl, -⟩ := cons.inj (hcons.symm.trans hcons')
      exact hlt

theorem front_mem_firstBuffers (maxBuffers front : Nat) (rest : List Nat) :
    front ∈ firstBuffers maxBuffers (front :: rest) := by
  unfold firstBuffers
  split
  case isTrue => exact mem_cons_self
  case isFalse hmax =>
    obtain ⟨n, rfl⟩ := Nat.exists_eq_succ_of_ne_zero hmax
    exact mem_cons_self

/-- The kept buffers are large enough under the condition, and only then. -/
theorem keptLarge_iff (pool : BufferPool) (d : Device) (initialSize alignment maxBuffers : Nat)
    (newMemory : Nat → Option Memory) :
    (∀ buffer ∈ (pool.reset d initialSize alignment maxBuffers newMemory).mBufferFreeList,
      initialSize ≤ ((pool.reset d initialSize alignment maxBuffers newMemory).heap buffer).size) ↔
      pool.KeepsLarge d initialSize maxBuffers newMemory := by
  rcases reset_cases pool d initialSize alignment maxBuffers newMemory with
    ⟨front, rest, hcons, hle, hreset⟩ | ⟨hdropped, hreset⟩
  · rw [hreset.free]
    constructor
    · intro hlarge front' rest' hcons' _ hne
      obtain ⟨rfl, -⟩ := cons.inj (hcons.symm.trans hcons')
      have hused : ∀ buffer ∈ firstBuffers maxBuffers (pool.reusable d),
          d.isBeingUsedByGPU (pool.heap buffer) →
          ((newMemory buffer).isSome ∧ (pool.heap front).size ≤ d.maxBufferLength) ∧
            initialSize ≤ (pool.heap front).size := by
        intro buffer hbuffer hused
        have hsize := hlarge buffer hbuffer
        rw [hreset.replaced buffer hbuffer hused] at hsize
        split at hsize
        case isTrue hmemory => exact ⟨hmemory, hsize⟩
        case isFalse => exact absurd (Nat.le_zero.mp hsize) hne
      have hidle : ∀ buffer ∈ firstBuffers maxBuffers (pool.reusable d),
          d.isBeingUsedByGPU (pool.heap buffer) = false →
            initialSize ≤ (pool.heap buffer).size := by
        intro buffer hbuffer hidle
        rw [← hreset.idle buffer hbuffer hidle]
        exact hlarge buffer hbuffer
      have hfront : front ∈ firstBuffers maxBuffers (pool.reusable d) := by
        rw [hcons]
        exact front_mem_firstBuffers maxBuffers front rest
      constructor
      · cases hgpu : d.isBeingUsedByGPU (pool.heap front) with
        | true => exact (hused front hfront hgpu).2
        | false => exact hidle front hfront hgpu
      · intro buffer hbuffer
        cases hgpu : d.isBeingUsedByGPU (pool.heap buffer) with
        | true => exact (hused buffer hbuffer hgpu).1
        | false => exact hidle buffer hbuffer hgpu
    · intro hkeeps buffer hbuffer
      by_cases hzero : initialSize = 0
      · rw [hzero]
        exact Nat.zero_le _
      · obtain ⟨hfront, hall⟩ := hkeeps front rest hcons hle hzero
        have hthis := hall buffer hbuffer
        cases hgpu : d.isBeingUsedByGPU (pool.heap buffer) with
        | true =>
            rw [hgpu, if_pos rfl] at hthis
            rw [hreset.replaced buffer hbuffer hgpu, if_pos hthis]
            exact hfront
        | false =>
            rw [hgpu, if_neg Bool.false_ne_true] at hthis
            rw [hreset.idle buffer hbuffer hgpu]
            exact hthis
  · rw [hreset.free]
    constructor
    · intro _ front rest hcons hle
      exact absurd hle (hdropped front rest hcons)
    · intro _ buffer hbuffer
      contradiction

/-- After a reset that keeps large buffers only, the pool is ready for the new requests. -/
theorem roomy_reset {alignment maxBuffers : Nat} {newMemory : Nat → Option Memory}
    (hkeeps : pool.KeepsLarge d initialSize maxBuffers newMemory) :
    (pool.reset d initialSize alignment maxBuffers newMemory).Roomy initialSize := by
  have hlarge := (keptLarge_iff pool d initialSize alignment maxBuffers newMemory).mpr hkeeps
  have hheld : ∀ (p : BufferPool), p.mBuffer = none → p.mInFlightBuffers = [] →
      p.held = p.mBufferFreeList := by
    intro p hvacant hinFlight
    unfold held
    rw [hvacant, hinFlight]
    rfl
  rcases reset_cases pool d initialSize alignment maxBuffers newMemory with
    ⟨front, rest, hcons, hle, hreset⟩ | ⟨-, hreset⟩
  · refine ⟨fun buffer hbuffer _ => ?_, hreset.initial, fun _ => ?_⟩
    · rw [hheld _ hreset.vacant hreset.inFlight] at hbuffer
      exact hlarge buffer hbuffer
    · rw [hreset.mSize]
      by_cases hzero : initialSize = 0
      · rw [hzero]
        exact Nat.zero_le _
      · exact (hkeeps front rest hcons hle hzero).1
  · refine ⟨fun buffer hbuffer _ => ?_, hreset.initial, fun hne => absurd hreset.mSize hne⟩
    rw [hheld _ hreset.vacant hreset.inFlight] at hbuffer
    exact hlarge buffer hbuffer

end BufferPool

namespace PoolSystem

open LabelledRun BufferPool

def SameRequest (_ : PoolSystem) : Call → Prop
  | .initializePool _ _ _ => False
  | .reset _ _ _ _ => False
  | .destroy => False
  | _ => True

theorem roomy_call {s t : PoolSystem} {c : Call} {initialSize : Nat}
    (h : s.pool.Roomy initialSize) (hsame : s.SameRequest c) (hcall : call s c = some t) :
    t.pool.Roomy initialSize := by
  cases c with
  | initializePool _ _ _ => exact hsame.elim
  | reset _ _ _ _ => exact hsame.elim
  | destroy => exact hsame.elim
  | allocate sizeInBytes wantPtr newMemory =>
      obtain ⟨⟨-, hbytes⟩, ⟨⟩⟩ := ite_none_right_eq_some.mp hcall
      exact h.allocate s.device hbytes wantPtr
  | commit =>
      cases hcall
      exact h.narrows (narrows_commit s.pool)
  | releaseInFlightBuffers =>
      cases hcall
      exact h.narrows (narrows_releaseInFlightBuffers s.pool s.device)
  | updateAlignment alignment =>
    obtain ⟨-, ⟨⟩⟩ := ite_none_right_eq_some.mp hcall
    obtain ⟨hheap, hbuffer, hinFlight, hfree, hinitial, hsize⟩ :=
      updateAlignment_fields s.pool alignment
    refine h.narrows ⟨fun buffer hmem => ?_, fun buffer => ?_, hinitial, hsize⟩
    · unfold held at hmem ⊢
      rw [hbuffer, hinFlight, hfree] at hmem
      exact hmem
    · rw [hheap]
      exact ⟨rfl, rfl⟩
  | setAlwaysAllocateNewBuffer e =>
      cases hcall
      exact { h with }
  | setMemoryPolicy policy =>
      cases hcall
      exact { h with }
  | useByGPU buffer serial writing =>
      cases hcall
      exact h.narrows (@narrows_updateBuffer s.pool
        (·.setUsedByCommandBufferWithQueueSerial serial writing) buffer ⟨rfl, rfl⟩)
  | completeCommandBuffer serial =>
      cases hcall
      exact h

/-- What `reset` promises: every buffer that stays free, and every one that is current in a later
state, has the requested initial size, and no allocation of up to that size, rounded up, outgrows
the size recorded for the buffers. -/
def KeepsPromise (s : PoolSystem) (initialSize : Nat) : Prop :=
  (∀ buffer ∈ s.pool.mBufferFreeList, initialSize ≤ (s.pool.heap buffer).size) ∧
    ∀ calls t, Run call SameRequest s calls t →
      (∀ buffer, t.pool.mBuffer = some buffer → (t.pool.heap buffer).hasBuffer →
        initialSize ≤ (t.pool.heap buffer).size) ∧
      (t.pool.mSize ≠ 0 → ∀ sizeInBytes,
        roundUp 64 sizeInBytes t.pool.mAlignment ≤ initialSize →
        roundUp 64 sizeInBytes t.pool.mAlignment ≤ t.pool.mSize)

/-- `reset` keeps its promise exactly when the buffers that it keeps by the initial size of the
call before are as large as the new one. -/
theorem reset_keepsPromise_iff (s : PoolSystem) (initialSize alignment maxBuffers : Nat)
    (newMemory : Nat → Option Memory) :
    KeepsPromise { s with
        pool := s.pool.reset s.device initialSize alignment maxBuffers newMemory } initialSize ↔
      s.pool.KeepsLarge s.device initialSize maxBuffers newMemory := by
  constructor
  · intro hkeeps
    exact (keptLarge_iff s.pool s.device initialSize alignment maxBuffers newMemory).mp hkeeps.1
  · intro hkeeps
    refine ⟨(keptLarge_iff s.pool s.device initialSize alignment maxBuffers newMemory).mpr hkeeps,
      fun calls t hrun => ?_⟩
    have hroomy : t.pool.Roomy initialSize := hrun.invariant
      (fun _ _ _ h hsame hcall => roomy_call h hsame hcall) (roomy_reset hkeeps)
    refine ⟨fun buffer hbuffer hreal => ?_, fun hne sizeInBytes hle => ?_⟩
    · apply hroomy.held buffer _ hreal
      unfold held
      rw [hbuffer]
      exact mem_append_left _ (mem_append_left _ mem_cons_self)
    · exact hle.trans (hroomy.recorded hne)

def smallCalls : List Call :=
  [.initializePool 64 4 0, .allocate 10 false (some zeroMemory)]

theorem reset_keepsSmallBuffer : ∃ s, Run call anyStep (initial desktop .Auto false) smallCalls s ∧
    ¬ KeepsPromise { s with pool := s.pool.reset s.device 1000 4 0 fun _ => none } 1000 := by
  obtain ⟨s, hexec, hfree, hsize⟩ : ∃ s, exec call (initial desktop .Auto false) smallCalls =
      some s ∧ 0 ∈ (s.pool.reset s.device 1000 4 0 fun _ => none).mBufferFreeList ∧
      ((s.pool.reset s.device 1000 4 0 fun _ => none).heap 0).size = 64 :=
    ⟨_, rfl, by decide +kernel, rfl⟩
  refine ⟨s, .of_exec hexec, fun hkeeps => ?_⟩
  have hlarge := hkeeps.1 0 hfree
  rw [hsize] at hlarge
  contradiction

end PoolSystem

end MetalAngle.Metal
