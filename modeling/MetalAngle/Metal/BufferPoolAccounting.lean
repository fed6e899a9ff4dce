import MetalAngle.Metal.BufferPoolRegions
import MetalAngle.Metal.BufferPoolReset

/-!
# The buffer count of a `BufferPool`

`mBuffersAllocated` is changed where a buffer is made, released or dropped.  It is the number of
the buffers that the pool holds as long as no nil buffer joins the buffers in flight or the free
ones.
-/

namespace MetalAngle.Metal

open List Nat Option Except
open Function (update update_self update_of_ne)

namespace BufferPool

def heldCount (pool : BufferPool) : Nat :=
  pool.mInFlightBuffers.length + pool.mBufferFreeList.length +
    currentCount pool.heap pool.mBuffer

/-- The invariant: the count is right, and the sizes of the buffers follow `mSize`. -/
structure Accounted (pool : BufferPool) : Prop where
  counted : Counted pool.heap pool.mBuffer pool.mInFlightBuffers pool.mBufferFreeList
    pool.mBuffersAllocated
  few : pool.heldCount < 2 ^ 64
  bounded : 0 < pool.mMaxBuffers → pool.mBuffersAllocated ≤ pool.mMaxBuffers
  inFlight : ∀ buffer ∈ pool.mInFlightBuffers,
    buffer < pool.buffersMade ∧ (pool.heap buffer).size ≤ pool.mSize
  free : ∀ buffer ∈ pool.mBufferFreeList,
    buffer < pool.buffersMade ∧ (pool.heap buffer).size = pool.mSize
  current : ∀ buffer, pool.mBuffer = some buffer → buffer < pool.buffersMade ∧
    ((pool.heap buffer).hasBuffer → (pool.heap buffer).size = pool.mSize)

/-- The current buffer may be put aside: it is not the nil buffer of a failed allocation. -/
def CurrentReal (pool : BufferPool) : Prop :=
  ∀ buffer, pool.mBuffer = some buffer → (pool.heap buffer).hasBuffer

variable {pool : BufferPool} {d : Device}

theorem Accounted.allocated (h : pool.Accounted) : pool.mBuffersAllocated = pool.heldCount :=
  h.counted.allocated.trans (mod_eq_of_lt h.few)

theorem Accounted.lists_le (h : pool.Accounted) :
    pool.mInFlightBuffers.length + pool.mBufferFreeList.length ≤ pool.mBuffersAllocated := by
  rw [h.allocated]
  exact le_add_right _ _

theorem currentCount_le (heap : Nat → Buffer) (mBuffer : Option Nat) :
    currentCount heap mBuffer ≤ 1 := by
  cases mBuffer with
  | none => exact zero_le 1
  | some buffer =>
      simp only [currentCount]
      split
      · exact le_refl 1
      · exact zero_le 1

theorem currentCount_of_sameBuffers {heap heap' : Nat → Buffer}
    (hsame : ∀ b, SameBuffer (heap b) (heap' b)) (mBuffer : Option Nat) :
    currentCount heap' mBuffer = currentCount heap mBuffer := by
  cases mBuffer with
  | none => rfl
  | some buffer => simp only [currentCount, (hsame buffer).hasBuffer]

theorem Accounted.of_sameBuffers (h : pool.Accounted) {heap : Nat → Buffer}
    (hsame : ∀ b, SameBuffer (pool.heap b) (heap b)) : { pool with heap }.Accounted where
  __ := h
  counted := h.counted.of_sameBuffers hsame
  few := by
    have hfew := h.few
    unfold heldCount at hfew ⊢
    rw [currentCount_of_sameBuffers hsame]
    exact hfew
  inFlight := fun b hb => ⟨(h.inFlight b hb).1, (hsame b).size.trans_le (h.inFlight b hb).2⟩
  free := fun b hb => ⟨(h.free b hb).1, (hsame b).size.trans (h.free b hb).2⟩
  current := fun b hb => ⟨(h.current b hb).1, fun hreal => (hsame b).size.trans
    ((h.current b hb).2 ((hsame b).hasBuffer.symm.trans hreal))⟩

theorem Accounted.updateBuffer (h : pool.Accounted) {f : Buffer → Buffer} (buffer : Nat)
    (hsame : SameBuffer (pool.heap buffer) (f (pool.heap buffer))) :
    (pool.updateBuffer buffer f).Accounted :=
  h.of_sameBuffers (update_sameBuffer pool hsame)

/-! ## Putting the current buffer aside -/

theorem accounted_commit (h : pool.Accounted) : pool.commit.Accounted := by
  unfold commit
  split
  case h_1 => exact h
  case h_2 buffer hbuffer =>
    split
    case isFalse => exact h
    case isTrue =>
      have hupdated := h.updateBuffer (f := (·.flush pool.mLastFlushOffset
        (pool.mNextAllocationOffset - pool.mLastFlushOffset))) buffer (flush_sameBuffer _ _ _).1
      exact { hupdated with }

theorem commit_lists (pool : BufferPool) :
    pool.commit.mInFlightBuffers = pool.mInFlightBuffers ∧
      pool.commit.mBufferFreeList = pool.mBufferFreeList := by
  unfold commit
  split
  · exact ⟨rfl, rfl⟩
  · split
    · exact ⟨rfl, rfl⟩
    · exact ⟨rfl, rfl⟩

/-- A Metal buffer that leaves the current slot joins the buffers in flight. -/
theorem Accounted.putAside (h : pool.Accounted) {buffer : Nat}
    (hbuffer : pool.mBuffer = some buffer) (hreal : (pool.heap buffer).hasBuffer) :
    { pool with
      mInFlightBuffers := pool.mInFlightBuffers ++ [buffer]
      mBuffer := none }.Accounted := by
  obtain ⟨hmade, hsize⟩ := h.current buffer hbuffer
  have hcounted := h.counted
  rw [hbuffer] at hcounted
  have hfew : pool.mInFlightBuffers.length + pool.mBufferFreeList.length + 1 < 2 ^ 64 := by
    have hheld := h.few
    unfold heldCount at hheld
    rw [hbuffer] at hheld
    simpa only [currentCount, hreal, if_true] using hheld
  refine { h with
    counted := hcounted.putAside hreal
    few := ?_
    inFlight := ?_
    current := fun _ hsome => by contradiction }
  · unfold heldCount
    dsimp only [currentCount]
    rw [length_append, length_singleton]
    omega
  · intro b hb
    rcases mem_append.mp hb with hold | hnew
    · exact h.inFlight b hold
    · obtain rfl := mem_singleton.mp hnew
      exact ⟨hmade, (hsize hreal).le⟩

theorem finalizePendingBuffer_mBuffer (pool : BufferPool) :
    pool.finalizePendingBuffer.mBuffer = none := by
  unfold finalizePendingBuffer
  split
  case h_1 hnone => exact hnone
  case h_2 => rfl

theorem accounted_finalizePendingBuffer (h : pool.Accounted) (hreal : pool.CurrentReal) :
    pool.finalizePendingBuffer.Accounted := by
  unfold finalizePendingBuffer
  split
  case h_1 => exact { h with }
  case h_2 buffer hbuffer =>
    have hsame := (commit_spec hbuffer).2.trans (hreal buffer hbuffer)
    have haside := (accounted_commit h).putAside ((commit_frame pool).mBuffer.trans hbuffer) hsame
    have hunmapped := haside.of_sameBuffers
      (@update_sameBuffer pool.commit (·.unmapNoFlush) buffer ⟨rfl, rfl⟩)
    exact { hunmapped with }

/-! ## Releasing and dropping -/

/-- One round, with the buffers that are still to be released. -/
theorem accounted_releaseInFlightBuffer {toRelease : Nat} {rest : List Nat}
    (h : { pool with mInFlightBuffers := toRelease :: rest }.Accounted) :
    { releaseInFlightBuffer d pool toRelease with mInFlightBuffers := rest }.Accounted := by
  obtain ⟨hmade, hsize⟩ := h.inFlight toRelease mem_cons_self
  have hrest := fun b hb => h.inFlight b (mem_cons_of_mem toRelease hb)
  have hfew := h.few
  have hpos : 0 < pool.mBuffersAllocated := by
    have hle := h.lists_le
    dsimp only at hle
    rw [length_cons] at hle
    omega
  unfold heldCount at hfew
  dsimp only at hfew
  rw [length_cons] at hfew
  unfold releaseInFlightBuffer
  dsimp only
  split
  case isTrue =>
    refine { h with
      inFlight := hrest
      counted := h.counted.drop
      few := ?_
      bounded := fun hmax => ?_ }
    · unfold heldCount
      dsimp only
      omega
    · have hle := h.bounded hmax
      have hlt := h.counted.lt
      dsimp only at hle hlt ⊢
      omega
  case isFalse hkept =>
    refine { h with
      inFlight := hrest
      counted := h.counted.keep
      few := ?_
      free := ?_ }
    · unfold heldCount
      dsimp only
      rw [length_append, length_singleton]
      omega
    · intro b hb
      rcases mem_append.mp hb with hold | hnew
      · exact h.free b hold
      · obtain rfl := mem_singleton.mp hnew
        exact ⟨hmade, le_antisymm hsize (not_lt.mp fun hlt => hkept (.inl hlt))⟩

theorem accounted_releaseLoop {inFlight rest : List Nat}
    (h : { pool with mInFlightBuffers := inFlight ++ rest }.Accounted) :
    { inFlight.foldl (releaseInFlightBuffer d) pool with mInFlightBuffers := rest }.Accounted := by
  induction inFlight generalizing pool with
  | nil => exact h
  | cons toRelease _ ih => exact ih (accounted_releaseInFlightBuffer h)

theorem accounted_releaseInFlightBuffers (h : pool.Accounted) (d : Device) :
    (pool.releaseInFlightBuffers d).Accounted := by
  have hloop := @accounted_releaseLoop pool d pool.mInFlightBuffers []
  rw [append_nil] at hloop
  exact hloop h

/-- Before each round of the loop of `releaseInFlightBuffers` the count is positive. -/
def ReleasesWithinCount (pool : BufferPool) (d : Device) : Prop :=
  ∀ released toRelease rest, pool.mInFlightBuffers = released ++ toRelease :: rest →
    0 < (released.foldl (releaseInFlightBuffer d) pool).mBuffersAllocated

theorem Accounted.releasesWithinCount (h : pool.Accounted) (d : Device) :
    pool.ReleasesWithinCount d := by
  intro released toRelease rest hinFlight
  have hpool : { pool with mInFlightBuffers := released ++ toRelease :: rest }.Accounted := by
    rw [← hinFlight]
    exact h
  have hle := (accounted_releaseLoop (d := d) hpool).lists_le
  dsimp only at hle
  rw [length_cons] at hle
  omega

/-- A larger `mSize` and no free buffers. -/
theorem Accounted.grow (h : pool.Accounted) (hvacant : pool.mBuffer = none) {size : Nat}
    (hle : pool.mSize ≤ size) : ({ pool with mSize := size }.destroyFreeList).Accounted := by
  have hfew := h.few
  have hlists := h.lists_le
  unfold heldCount at hfew
  refine { h with
    counted := h.counted.dropFree
    few := ?_
    bounded := fun hmax => ?_
    inFlight := fun b hb => ⟨(h.inFlight b hb).1, (h.inFlight b hb).2.trans hle⟩
    free := fun b hb => by contradiction
    current := fun b hb => ?_ }
  · unfold heldCount destroyFreeList
    dsimp only
    rw [length_nil]
    omega
  · have hmaximum := h.bounded hmax
    unfold destroyFreeList
    dsimp only
    omega
  · rw [show pool.mBuffer = none from hvacant] at hb
    contradiction

/-! ## Allocation -/

theorem Accounted.takeFront (h : pool.Accounted) (hvacant : pool.mBuffer = none) {front : Nat}
    {rest : List Nat} (hfree : pool.mBufferFreeList = front :: rest) (d : Device) :
    (pool.takeFront d front rest).Accounted := by
  have hcounted := h.counted
  rw [hvacant, hfree] at hcounted
  have hcurrent := currentCount_le pool.heap (some front)
  have hfew := h.few
  unfold heldCount at hfew
  rw [hfree, length_cons] at hfew
  refine { h with
    counted := hcounted.takeFront
    few := ?_
    free := fun b hb => h.free b (hfree ▸ mem_cons_of_mem front hb)
    current := fun b hb => ?_ }
  · unfold heldCount BufferPool.takeFront
    dsimp only
    omega
  · obtain rfl : front = b := some.inj hb
    obtain ⟨hmade, hsize⟩ := h.free front (hfree ▸ mem_cons_self)
    exact ⟨hmade, fun _ => hsize⟩

theorem Accounted.makeBuffer (h : pool.Accounted) (hvacant : pool.mBuffer = none)
    (hroom : pool.reachedMaxBuffers = false) (hfew : pool.heldCount + 1 < 2 ^ 64) (d : Device)
    (newMemory : Option Memory) : (pool.makeBuffer d newMemory).2.Accounted := by
  obtain ⟨b, hb⟩ : ∃ b, b = ({} : Buffer).reset d (pool.shouldAllocateInSharedMem d) pool.mSize
    newMemory := ⟨_, rfl⟩
  have hspec := Buffer.reset_spec {} d (pool.shouldAllocateInSharedMem d) pool.mSize newMemory
  have hnew : update pool.heap pool.buffersMade b pool.buffersMade = b :=
    update_self _ _ _
  have hold : ∀ buffer, buffer < pool.buffersMade →
      update pool.heap pool.buffersMade b buffer = pool.heap buffer :=
    fun buffer hlt => update_of_ne (Nat.ne_of_lt hlt) _ _
  have hroom' := of_decide_eq_false hroom
  have hcounted := h.counted
  rw [hvacant] at hcounted
  have hmade : Counted (update pool.heap pool.buffersMade b) (some pool.buffersMade) _ _ _ :=
    hcounted.make fun buffer hmem => hold buffer
      (hmem.elim (fun hin => (h.inFlight buffer hin).1) fun hin => (h.free buffer hin).1)
  have hheld : pool.heldCount = pool.mInFlightBuffers.length + pool.mBufferFreeList.length := by
    unfold heldCount
    rw [hvacant]
    rfl
  rw [hnew] at hmade
  rw [← hb] at hspec
  unfold BufferPool.makeBuffer
  rw [← hb]
  dsimp only
  have hcurrent : ∀ buffer, some pool.buffersMade = some buffer → buffer < pool.buffersMade + 1 ∧
      ((update pool.heap pool.buffersMade b buffer).hasBuffer →
        (update pool.heap pool.buffersMade b buffer).size = pool.mSize) := by
    intro buffer hbuffer
    obtain rfl : pool.buffersMade = buffer := some.inj hbuffer
    refine ⟨lt_succ_self _, fun hreal => ?_⟩
    rw [hnew] at hreal ⊢
    rcases hspec with ⟨-, hsize, -⟩ | ⟨hnil, -⟩
    · exact hsize
    · exact absurd (hnil.symm.trans hreal) Bool.false_ne_true
  have hkept : ∀ buffer, buffer < pool.buffersMade →
      (update pool.heap pool.buffersMade b buffer).size = (pool.heap buffer).size :=
    fun buffer hlt => congrArg Buffer.size (hold buffer hlt)
  have hinFlight := fun buffer hin => And.intro (lt_succ_of_lt (h.inFlight buffer hin).1)
    ((hkept buffer (h.inFlight buffer hin).1).trans_le (h.inFlight buffer hin).2)
  have hfree := fun buffer hin => And.intro (lt_succ_of_lt (h.free buffer hin).1)
    ((hkept buffer (h.free buffer hin).1).trans (h.free buffer hin).2)
  have hheld' : pool.mInFlightBuffers.length + pool.mBufferFreeList.length +
      currentCount (update pool.heap pool.buffersMade b) (some pool.buffersMade) < 2 ^ 64 := by
    have hle := currentCount_le (update pool.heap pool.buffersMade b) (some pool.buffersMade)
    omega
  cases hreal : b.hasBuffer with
  | true =>
      rw [hreal, if_pos rfl] at hmade
      rw [if_pos rfl]
      refine ⟨hmade, hheld', fun hmax => ?_, hinFlight, hfree, hcurrent⟩
      dsimp only at hmax ⊢
      omega
  | false =>
      rw [hreal, if_neg Bool.false_ne_true, add_zero, mod_eq_of_lt h.counted.lt] at hmade
      exact ⟨hmade, hheld', h.bounded, hinFlight, hfree, hcurrent⟩

/-- What a function that gets a new current buffer, or fails, does. -/
structure Supplies (d : Device) (pool : BufferPool)
    (outcome : Except PoolFault Unit × Device × BufferPool) : Prop where
  accounted : outcome.2.2.Accounted
  fault_eq : ∀ fault, outcome.1 = .error fault → fault = outOfMemory
  ok : outcome.1 = .ok () →
    ∃ buffer, outcome.2.2.mBuffer = some buffer ∧
      (outcome.2.2.heap buffer).size = outcome.2.2.mSize

theorem Accounted.supplies_takeFront (h : pool.Accounted) (hvacant : pool.mBuffer = none)
    {front : Nat} {rest : List Nat} (hfree : pool.mBufferFreeList = front :: rest) (d d' : Device) :
    Supplies d pool (.ok (), d', pool.takeFront d' front rest) where
  accounted := h.takeFront hvacant hfree d'
  fault_eq := fun fault herror => by contradiction
  ok := fun _ => ⟨front, rfl, (h.free front (hfree ▸ mem_cons_self)).2⟩

theorem Accounted.supplies_makeBuffer (h : pool.Accounted) (hvacant : pool.mBuffer = none)
    (hroom : pool.reachedMaxBuffers = false) (hfew : pool.heldCount + 1 < 2 ^ 64) (d : Device)
    (newMemory : Option Memory) :
    Supplies d pool ((pool.makeBuffer d newMemory).1, d, (pool.makeBuffer d newMemory).2) := by
  have haccounted := h.makeBuffer hvacant hroom hfew d newMemory
  have hspec := Buffer.reset_spec {} d (pool.shouldAllocateInSharedMem d) pool.mSize newMemory
  refine ⟨haccounted, ?_, ?_⟩
  · intro fault herror
    unfold BufferPool.makeBuffer at herror
    dsimp only at herror
    split at herror
    · contradiction
    · exact (error.inj herror).symm
  · intro hok
    unfold BufferPool.makeBuffer at hok ⊢
    dsimp only at hok ⊢
    split at hok
    case isTrue hreal =>
      rw [if_pos hreal]
      refine ⟨pool.buffersMade, rfl, ?_⟩
      dsimp only
      rw [update_self]
      rcases hspec with ⟨-, hsize, -⟩ | ⟨hnil, -⟩
      · exact hsize
      · exact absurd (hnil.symm.trans hreal) Bool.false_ne_true
    case isFalse => contradiction

theorem Accounted.free_ne_nil (h : pool.Accounted) (hvacant : pool.mBuffer = none)
    (hinFlight : pool.mInFlightBuffers = []) (hreached : pool.reachedMaxBuffers) :
    pool.mBufferFreeList ≠ [] := by
  intro hfree
  obtain ⟨hmax, hle⟩ := of_decide_eq_true hreached
  have hallocated := h.allocated
  unfold heldCount at hallocated
  rw [hinFlight, hfree, hvacant] at hallocated
  simp only [currentCount, length_nil] at hallocated
  omega

theorem heldCount_releaseLoop_le (inFlight : List Nat) (pool : BufferPool) :
    (inFlight.foldl (releaseInFlightBuffer d) pool).mBufferFreeList.length ≤
      inFlight.length + pool.mBufferFreeList.length := by
  induction inFlight generalizing pool with
  | nil => exact (zero_add _).ge
  | cons toRelease rest ih =>
    have hround : (releaseInFlightBuffer d pool toRelease).mBufferFreeList.length ≤
        pool.mBufferFreeList.length + 1 := by
      unfold releaseInFlightBuffer
      dsimp only
      split
      · exact le_succ _
      · rw [length_append, length_singleton]
    have hrest := ih (releaseInFlightBuffer d pool toRelease)
    rw [foldl_cons, length_cons]
    omega

theorem releaseInFlightBuffers_heap (pool : BufferPool) (d : Device) :
    (pool.releaseInFlightBuffers d).heap = pool.heap := by
  refine foldlRecOn pool.mInFlightBuffers (releaseInFlightBuffer d)
    (motive := fun p => p.heap = pool.heap) rfl fun p hp toRelease _ => ?_
  unfold releaseInFlightBuffer
  dsimp only
  split
  · exact hp
  · exact hp

theorem heldCount_releaseInFlightBuffers_le (pool : BufferPool) (d : Device) :
    (pool.releaseInFlightBuffers d).heldCount ≤ pool.heldCount := by
  have hle := heldCount_releaseLoop_le (d := d) pool.mInFlightBuffers pool
  unfold heldCount
  rw [releaseInFlightBuffers_heap, (releaseInFlightBuffers_frame pool d).mBuffer]
  unfold releaseInFlightBuffers
  dsimp only
  rw [length_nil]
  omega

theorem Accounted.supplies_allocateNewBuffer (h : pool.Accounted) (hvacant : pool.mBuffer = none)
    (hfew : pool.heldCount + 1 < 2 ^ 64) (d : Device) (newMemory : Option Memory) :
    Supplies d pool (pool.allocateNewBuffer d newMemory) := by
  unfold allocateNewBuffer
  by_cases hreached : pool.reachedMaxBuffers
  · have hreleased := accounted_releaseInFlightBuffers h d
    have hvacant' : (pool.releaseInFlightBuffers d).mBuffer = none :=
      (releaseInFlightBuffers_frame pool d).mBuffer.trans hvacant
    rw [if_pos hreached]
    dsimp only
    split
    case isTrue hstill =>
      have hne := hreleased.free_ne_nil hvacant' rfl hstill
      split
      case h_1 hnil => exact absurd hnil hne
      case h_2 front rest hfree => exact { hreleased.supplies_takeFront hvacant' hfree d _ with }
    case isFalse hroom =>
      have hle := heldCount_releaseInFlightBuffers_le pool d
      exact { hreleased.supplies_makeBuffer hvacant' (Bool.eq_false_iff.mpr hroom)
        (lt_of_le_of_lt (succ_le_succ hle) hfew) d newMemory with }
  · rw [if_neg hreached, if_neg hreached]
    exact h.supplies_makeBuffer hvacant (Bool.eq_false_iff.mpr hreached) hfew d newMemory

theorem Accounted.supplies_nextBuffer (h : pool.Accounted) (hvacant : pool.mBuffer = none)
    (hfew : pool.heldCount + 1 < 2 ^ 64) (d : Device) (newMemory : Option Memory) :
    Supplies d pool (pool.nextBuffer d newMemory) := by
  unfold nextBuffer
  split
  case h_1 => exact h.supplies_allocateNewBuffer hvacant hfew d newMemory
  case h_2 front rest hfree =>
    split
    case isTrue => exact h.supplies_allocateNewBuffer hvacant hfew d newMemory
    case isFalse => exact h.supplies_takeFront hvacant hfree d d

/-- The pool when `allocate` has put its current buffer aside. -/
def putAside (pool : BufferPool) : BufferPool :=
  if pool.mBuffer.isSome then pool.finalizePendingBuffer else pool

/-- The pool when `allocate` looks for the next buffer. -/
def readyToSwitch (pool : BufferPool) (sizeToAllocate : Nat) : BufferPool :=
  if sizeToAllocate > pool.putAside.mSize then
    { pool.putAside with
      mSize := max pool.putAside.mInitialSize sizeToAllocate }.destroyFreeList
  else pool.putAside

theorem heldCount_finalizePendingBuffer_le (pool : BufferPool) :
    pool.finalizePendingBuffer.heldCount ≤
      pool.mInFlightBuffers.length + pool.mBufferFreeList.length + 1 := by
  obtain ⟨hinFlight, hfree⟩ := commit_lists pool
  unfold finalizePendingBuffer heldCount
  split
  case h_1 hnone =>
    simp only [hnone, currentCount]
    omega
  case h_2 buffer _ =>
    simp only [currentCount, BufferPool.updateBuffer, hinFlight, hfree, length_append,
      length_singleton]
    omega

theorem heldCount_le (pool : BufferPool) :
    pool.heldCount ≤ pool.mInFlightBuffers.length + pool.mBufferFreeList.length + 1 :=
  Nat.add_le_add_left (currentCount_le pool.heap pool.mBuffer) _

theorem accounted_putAside (h : pool.Accounted) (hreal : pool.CurrentReal) :
    pool.putAside.Accounted ∧ pool.putAside.mBuffer = none ∧ pool.putAside.heldCount ≤
      pool.mInFlightBuffers.length + pool.mBufferFreeList.length + 1 := by
  unfold putAside
  cases hbuffer : pool.mBuffer with
  | none => exact ⟨h, hbuffer, heldCount_le pool⟩
  | some buffer =>
      exact ⟨accounted_finalizePendingBuffer h hreal, finalizePendingBuffer_mBuffer pool,
        heldCount_finalizePendingBuffer_le pool⟩

theorem accounted_readyToSwitch (h : pool.Accounted) (hreal : pool.CurrentReal)
    (sizeToAllocate : Nat) : (pool.readyToSwitch sizeToAllocate).Accounted ∧
      (pool.readyToSwitch sizeToAllocate).mBuffer = none ∧
      (pool.readyToSwitch sizeToAllocate).heldCount ≤
        pool.mInFlightBuffers.length + pool.mBufferFreeList.length + 1 := by
  obtain ⟨haside, hvacant, hfew⟩ := accounted_putAside h hreal
  unfold readyToSwitch
  split
  case isTrue hlarge =>
    refine ⟨haside.grow hvacant (hlarge.le.trans (le_max_right _ _)), hvacant, ?_⟩
    apply le_trans _ hfew
    unfold heldCount destroyFreeList
    dsimp only
    rw [length_nil]
    omega
  case isFalse => exact ⟨haside, hvacant, hfew⟩

theorem switchBuffer_eq (pool : BufferPool) (d : Device) (sizeToAllocate : Nat)
    (newMemory : Option Memory) :
    pool.switchBuffer d sizeToAllocate newMemory =
      match (pool.readyToSwitch sizeToAllocate).nextBuffer d newMemory with
      | (.ok (), d, pool) =>
          (.ok (), d, { pool with mNextAllocationOffset := 0, mLastFlushOffset := 0 })
      | (.error fault, d, pool) => (.error fault, d, pool) := rfl

theorem supplies_switchBuffer (h : pool.Accounted) (hreal : pool.CurrentReal)
    (hfew : pool.mInFlightBuffers.length + pool.mBufferFreeList.length + 2 < 2 ^ 64)
    (d : Device) (sizeToAllocate : Nat) (newMemory : Option Memory) :
    Supplies d pool (pool.switchBuffer d sizeToAllocate newMemory) := by
  obtain ⟨hready, hvacant, hle⟩ := accounted_readyToSwitch h hreal sizeToAllocate
  have hsupplies := hready.supplies_nextBuffer hvacant (by omega) d newMemory
  rw [switchBuffer_eq]
  split
  case h_1 heq =>
    rw [heq] at hsupplies
    exact ⟨{ hsupplies.accounted with }, fun fault herror => by contradiction, hsupplies.ok⟩
  case h_2 fault d' pool' heq =>
    rw [heq] at hsupplies
    exact ⟨hsupplies.accounted, fun fault' herror =>
      hsupplies.fault_eq fault' (congrArg error (error.inj herror)),
      fun hok => by contradiction⟩

theorem accounted_handOut (h : pool.Accounted) (buffer sizeInBytes sizeToAllocate : Nat)
    (wantPtr : Bool) : (pool.handOut buffer sizeInBytes sizeToAllocate wantPtr).Accounted := by
  have hsame : SameBuffer (pool.heap buffer) ((fun b : Buffer =>
      if wantPtr then { b with mMapReadOnly := false } else b) (pool.heap buffer)) := by
    cases wantPtr with
    | true => exact ⟨rfl, rfl⟩
    | false => exact ⟨rfl, rfl⟩
  have hupdated := h.updateBuffer buffer hsame
  exact { hupdated with }

/-- What `allocate` does to the accounts, when it may switch. -/
theorem accounted_allocate (h : pool.Accounted) {d : Device} {sizeInBytes : Nat}
    (hmay : pool.needsNewBuffer (roundUp 64 sizeInBytes pool.mAlignment) → pool.CurrentReal)
    (hfew : pool.mInFlightBuffers.length + pool.mBufferFreeList.length + 2 < 2 ^ 64)
    (wantPtr : Bool) (newMemory : Option Memory) :
    (pool.allocate d sizeInBytes wantPtr newMemory).2.2.Accounted ∧
      (pool.allocate d sizeInBytes wantPtr newMemory).1 ≠ .error .emptyFreeList ∧
      ∀ allocation, (pool.allocate d sizeInBytes wantPtr newMemory).1 = .ok allocation →
        allocation.newBufferAllocated →
        ((pool.allocate d sizeInBytes wantPtr newMemory).2.2.heap allocation.buffer).size =
          (pool.allocate d sizeInBytes wantPtr newMemory).2.2.mSize := by
  unfold allocate
  cases hneeds : pool.needsNewBuffer (roundUp 64 sizeInBytes pool.mAlignment) with
  | false =>
    simp only [hneeds, Bool.false_eq_true, if_false]
    split
    case h_1 hfault => contradiction
    case h_2 hnone =>
      unfold needsNewBuffer at hneeds
      rw [hnone] at hneeds
      contradiction
    case h_3 buffer _ =>
      refine ⟨accounted_handOut h _ _ _ _, fun herror => by contradiction, ?_⟩
      intro allocation hok hnew
      obtain rfl := ok.inj hok
      contradiction
  | true =>
    have hsupplies := supplies_switchBuffer h (hmay hneeds) hfew d
      (roundUp 64 sizeInBytes pool.mAlignment) newMemory
    simp only [hneeds, if_true]
    generalize pool.switchBuffer d (roundUp 64 sizeInBytes pool.mAlignment) newMemory = outcome
      at hsupplies
    obtain ⟨result, d', pool'⟩ := outcome
    dsimp only
    split
    case h_1 _ fault =>
      refine ⟨hsupplies.accounted, ?_, fun allocation hok => by contradiction⟩
      have hfault := hsupplies.fault_eq fault rfl
      rw [hfault]
      exact fun hempty => PoolFault.noConfusion (error.inj hempty)
    case h_2 hnone =>
      obtain ⟨buffer, hsome, -⟩ := hsupplies.ok rfl
      rw [show pool'.mBuffer = none from hnone] at hsome
      contradiction
    case h_3 buffer hsome =>
      obtain ⟨buffer', hsome', hsize⟩ := hsupplies.ok rfl
      obtain rfl : buffer = buffer' := some.inj (hsome.symm.trans hsome')
      refine ⟨accounted_handOut hsupplies.accounted _ _ _ _, fun herror => by contradiction, ?_⟩
      intro allocation hok _
      obtain rfl := ok.inj hok
      have hkept : SameBuffer (pool'.heap buffer) ((fun b : Buffer =>
          if wantPtr then { b with mMapReadOnly := false } else b) (pool'.heap buffer)) := by
        cases wantPtr with
        | true => exact ⟨rfl, rfl⟩
        | false => exact ⟨rfl, rfl⟩
      exact (update_sameBuffer pool' hkept buffer).size.trans hsize

/-! ## Alignment, destruction and reset -/

theorem accounted_updateAlignment (h : pool.Accounted) (alignment : Nat) :
    (pool.updateAlignment alignment).Accounted := by
  unfold updateAlignment
  split
  · exact { h with }
  · exact h

theorem heldCount_of_empty (hinFlight : pool.mInFlightBuffers = []) (hvacant : pool.mBuffer = none) :
    pool.heldCount = pool.mBufferFreeList.length := by
  unfold heldCount
  rw [hinFlight, hvacant, length_nil]
  exact zero_add _

theorem Accounted.of_free (hvacant : pool.mBuffer = none) (hinFlight : pool.mInFlightBuffers = [])
    (hcount : pool.mBuffersAllocated = pool.mBufferFreeList.length)
    (hfew : pool.mBufferFreeList.length < 2 ^ 64)
    (hbounded : 0 < pool.mMaxBuffers → pool.mBuffersAllocated ≤ pool.mMaxBuffers)
    (hfree : ∀ buffer ∈ pool.mBufferFreeList, buffer < pool.buffersMade ∧
      (pool.heap buffer).hasBuffer ∧ (pool.heap buffer).size = pool.mSize) :
    pool.Accounted where
  counted := {
    allocated := by
      rw [hinFlight, hvacant, length_nil, hcount]
      dsimp only [currentCount]
      rw [zero_add, add_zero, mod_eq_of_lt hfew]
    inFlight := fun b hb => by
      rw [hinFlight] at hb
      contradiction
    free := fun b hb => (hfree b hb).2.1 }
  few := (heldCount_of_empty hinFlight hvacant).trans_lt hfew
  bounded := hbounded
  inFlight := fun b hb => by
    rw [hinFlight] at hb
    contradiction
  free := fun b hb => ⟨(hfree b hb).1, (hfree b hb).2.2⟩
  current := fun b hb => by
    rw [hvacant] at hb
    contradiction

theorem accounted_destroy (pool : BufferPool) : pool.destroy.Accounted := by
  unfold destroy
  dsimp only
  split
  case h_1 hnone =>
    exact .of_free hnone rfl rfl (Nat.two_pow_pos 64) (fun _ => Nat.zero_le _)
      fun b hb => by contradiction
  case h_2 =>
    exact .of_free rfl rfl rfl (Nat.two_pow_pos 64) (fun _ => Nat.zero_le _)
      fun b hb => by contradiction

theorem isBeingUsedByGPU_reset (d : Device) (b : Buffer) (useSharedMem : Bool) (size : Nat)
    (newMemory : Option Memory) :
    d.isBeingUsedByGPU (b.reset d useSharedMem size newMemory) = false := by
  have hserial : (b.reset d useSharedMem size newMemory).cmdBufferQueueSerial = 0 := by
    unfold Buffer.reset
    split
    · split
      · rfl
      · rfl
    · rfl
  unfold Device.isBeingUsedByGPU CommandQueue.isResourceBeingUsedByGPU
  rw [hserial]
  exact decide_eq_false (not_lt_zero _)

/-- What `Buffer::reset` makes of the buffer numbered `buffer` in the loop of `reset`. -/
def replaced (pool : BufferPool) (d : Device) (newMemory : Nat → Option Memory) (buffer : Nat) :
    Buffer :=
  (pool.heap buffer).reset d (pool.shouldAllocateInSharedMem d) pool.mSize (newMemory buffer)

/-- The loop of `reset` replaces the buffers in use, and changes nothing else. -/
theorem resetLoop_eq (d : Device) (newMemory : Nat → Option Memory) (buffers : List Nat)
    (pool : BufferPool) :
    buffers.foldl (resetFreeBuffer d newMemory) pool = { pool with
      heap := fun buffer =>
        if buffer ∈ buffers ∧ d.isBeingUsedByGPU (pool.heap buffer) then
          pool.replaced d newMemory buffer
        else pool.heap buffer } := by
  induction buffers generalizing pool with
  | nil =>
    rfl
  | cons first rest ih =>
    rw [foldl_cons, ih]
    by_cases hused : d.isBeingUsedByGPU (pool.heap first)
    · have hround : resetFreeBuffer d newMemory pool first = { pool with
          heap := update pool.heap first (pool.replaced d newMemory first) } :=
        if_pos hused
      rw [hround]
      congr 1
      funext buffer
      by_cases hfirst : buffer = first
      · rw [hfirst]
        simp only [update_self, mem_cons_self, hused, and_self, if_true]
        apply if_neg
        rintro ⟨-, hreset⟩
        unfold replaced at hreset
        rw [isBeingUsedByGPU_reset] at hreset
        contradiction
      · simp only [update_of_ne hfirst, mem_cons, hfirst, false_or]
        congr 1
        unfold replaced
        dsimp only
        rw [update_of_ne hfirst]
        rfl
    · have hround : resetFreeBuffer d newMemory pool first = pool := if_neg hused
      rw [hround]
      congr 1
      funext buffer
      by_cases hfirst : buffer = first
      · rw [hfirst, if_neg fun h => hused h.2, if_neg fun h => hused h.2]
      · simp [hfirst]

/-- Every buffer that `pool` holds. -/
def held (pool : BufferPool) : List Nat :=
  pool.mBuffer.toList ++ pool.mInFlightBuffers ++ pool.mBufferFreeList

/-- The device has memory for a replacement of each buffer that the GPU uses. -/
def Replaceable (pool : BufferPool) (d : Device) (newMemory : Nat → Option Memory) : Prop :=
  ∀ buffer ∈ pool.held, d.isBeingUsedByGPU (pool.heap buffer) →
    (newMemory buffer).isSome ∧ (pool.heap buffer).size ≤ d.maxBufferLength

/-- Finalizing keeps the sizes and the serials of all buffers. -/
theorem finalizePendingBuffer_heap (pool : BufferPool) (buffer : Nat) :
    (pool.finalizePendingBuffer.heap buffer).size = (pool.heap buffer).size ∧
      (pool.finalizePendingBuffer.heap buffer).cmdBufferQueueSerial =
        (pool.heap buffer).cmdBufferQueueSerial := by
  have hflush : ∀ (b : Buffer) (offset size : Nat),
      (b.flush offset size).cmdBufferQueueSerial = b.cmdBufferQueueSerial := by
    intro b offset size
    unfold Buffer.flush
    split
    · rfl
    · rfl
  have hcommit : (pool.commit.heap buffer).size = (pool.heap buffer).size ∧
      (pool.commit.heap buffer).cmdBufferQueueSerial = (pool.heap buffer).cmdBufferQueueSerial := by
    unfold commit
    split
    · exact ⟨rfl, rfl⟩
    · rename_i current _
      split
      · by_cases hbuffer : buffer = current
        · rw [hbuffer]
          rw [updateBuffer_heap_self]
          exact ⟨(flush_sameBuffer _ _ _).1.size, hflush _ _ _⟩
        · rw [updateBuffer_heap_of_ne _ _ hbuffer]
          exact ⟨rfl, rfl⟩
      · exact ⟨rfl, rfl⟩
  unfold finalizePendingBuffer
  split
  · exact ⟨rfl, rfl⟩
  · rename_i current _
    by_cases hbuffer : buffer = current
    · rw [hbuffer] at hcommit ⊢
      rw [updateBuffer_heap_self]
      exact hcommit
    · rw [updateBuffer_heap_of_ne _ _ hbuffer]
      exact hcommit

theorem reset_of_memory (b : Buffer) {d : Device} (useSharedMem : Bool) {size : Nat}
    {newMemory : Option Memory} (hmemory : newMemory.isSome)
    (hsize : size ≤ d.maxBufferLength) :
    (b.reset d useSharedMem size newMemory).hasBuffer ∧
      (b.reset d useSharedMem size newMemory).size = size := by
  obtain ⟨contents, rfl⟩ := isSome_iff_exists.mp hmemory
  have hmade : b.reset d useSharedMem size (some contents) = _ := if_pos hsize
  rw [hmade]
  exact ⟨rfl, rfl⟩

/-- The free buffers that `reset` keeps. -/
def keptFree (pool : BufferPool) (maxBuffers : Nat) : List Nat :=
  if maxBuffers ≠ 0 ∧ pool.mBufferFreeList.length > maxBuffers then
    pool.mBufferFreeList.take maxBuffers
  else pool.mBufferFreeList

theorem mem_of_mem_keptFree {maxBuffers buffer : Nat} (hmem : buffer ∈ pool.keptFree maxBuffers) :
    buffer ∈ pool.mBufferFreeList := by
  unfold keptFree at hmem
  split at hmem
  · exact mem_of_mem_take hmem
  · exact hmem

/-- The pool that `reset` leaves when it keeps the free buffers. -/
theorem keepFreeBuffers_eq (pool : BufferPool) (d : Device) (front maxBuffers : Nat)
    (newMemory : Nat → Option Memory) :
    ∃ heap mBuffersAllocated, pool.keepFreeBuffers d front maxBuffers newMemory = { pool with
        heap
        mSize := (pool.heap front).size
        mBufferFreeList := pool.keptFree maxBuffers
        mBuffersAllocated } ∧
      (pool.mBuffersAllocated = pool.mBufferFreeList.length →
        mBuffersAllocated = (pool.keptFree maxBuffers).length) ∧
      ∀ buffer, heap buffer =
        if buffer ∈ pool.keptFree maxBuffers ∧ d.isBeingUsedByGPU (pool.heap buffer) then
          { pool with mSize := (pool.heap front).size }.replaced d newMemory buffer
        else pool.heap buffer := by
  unfold keepFreeBuffers keptFree
  by_cases htruncate : maxBuffers ≠ 0 ∧ pool.mBufferFreeList.length > maxBuffers
  · simp only [if_pos htruncate]
    refine ⟨_, maxBuffers, resetLoop_eq _ _ _ _, fun _ => ?_, fun buffer => rfl⟩
    rw [length_take, min_eq_left htruncate.2.le]
  · simp only [if_neg htruncate]
    exact ⟨_, pool.mBuffersAllocated, resetLoop_eq _ _ _ _, id, fun buffer => rfl⟩

theorem length_keptFree_le (pool : BufferPool) {maxBuffers : Nat} (hmax : 0 < maxBuffers) :
    (pool.keptFree maxBuffers).length ≤ maxBuffers := by
  unfold keptFree
  split
  case isTrue => exact length_take_le _ _
  case isFalse hfew =>
    exact not_lt.mp fun hlt => hfew ⟨ne_of_gt hmax, hlt⟩

/-- The free buffers of a pool that holds no others, of one size, stay so when those in use are
replaced. -/
theorem accounted_keepFreeBuffers (hvacant : pool.mBuffer = none)
    (hinFlight : pool.mInFlightBuffers = [])
    (hcount : pool.mBuffersAllocated = pool.mBufferFreeList.length)
    (hfew : pool.mBufferFreeList.length < 2 ^ 64) {size front : Nat}
    (hfront : (pool.heap front).size = size) {newMemory : Nat → Option Memory}
    (hfree : ∀ buffer ∈ pool.mBufferFreeList, buffer < pool.buffersMade ∧
      (pool.heap buffer).hasBuffer ∧ (pool.heap buffer).size = size ∧
      (d.isBeingUsedByGPU (pool.heap buffer) →
        (newMemory buffer).isSome ∧ size ≤ d.maxBufferLength))
    (initialSize maxBuffers : Nat) :
    { pool.keepFreeBuffers d front maxBuffers newMemory with
      mInitialSize := initialSize
      mMaxBuffers := maxBuffers }.Accounted := by
  obtain ⟨heap, count, hpool, hkept, hheap⟩ :=
    keepFreeBuffers_eq pool d front maxBuffers newMemory
  have hlen : (pool.keptFree maxBuffers).length ≤ pool.mBufferFreeList.length := by
    unfold keptFree
    split
    · exact (take_sublist maxBuffers pool.mBufferFreeList).length_le
    · exact le_refl _
  rw [hpool]
  refine .of_free hvacant hinFlight (hkept hcount) (hlen.trans_lt hfew) ?_ ?_
  · intro hmax
    exact (hkept hcount).trans_le (length_keptFree_le pool hmax)
  · intro buffer hbuffer
    obtain ⟨hmade, hreal, hsize, hmemory⟩ := hfree buffer (mem_of_mem_keptFree hbuffer)
    refine ⟨hmade, ?_⟩
    dsimp only
    rw [hheap buffer, hfront]
    by_cases hused : d.isBeingUsedByGPU (pool.heap buffer)
    · rw [if_pos ⟨hbuffer, hused⟩]
      exact reset_of_memory _ _ (hmemory hused).1 (hmemory hused).2
    · rw [if_neg fun h => hused h.2]
      exact ⟨hreal, hsize⟩

theorem accounted_dropFreeBuffers (hvacant : pool.mBuffer = none)
    (hinFlight : pool.mInFlightBuffers = []) (initialSize maxBuffers : Nat) :
    { pool.dropFreeBuffers with
      mInitialSize := initialSize
      mMaxBuffers := maxBuffers }.Accounted :=
  .of_free hvacant hinFlight rfl (Nat.two_pow_pos 64) (fun _ => Nat.zero_le _)
    fun b hb => by contradiction

theorem releaseInFlightBuffers_free_subset (pool : BufferPool) (d : Device) :
    ∀ buffer ∈ (pool.releaseInFlightBuffers d).mBufferFreeList,
      buffer ∈ pool.mInFlightBuffers ++ pool.mBufferFreeList := by
  refine foldlRecOn pool.mInFlightBuffers (releaseInFlightBuffer d)
    (motive := fun p => ∀ buffer ∈ p.mBufferFreeList,
      buffer ∈ pool.mInFlightBuffers ++ pool.mBufferFreeList)
    (fun buffer hbuffer => mem_append_right _ hbuffer) fun p hp toRelease hin => ?_
  unfold releaseInFlightBuffer
  dsimp only
  split
  · exact hp
  · intro buffer hbuffer
    rcases mem_append.mp hbuffer with hold | hnew
    · exact hp buffer hold
    · rw [mem_singleton.mp hnew]
      exact mem_append_left _ hin

theorem finalizePendingBuffer_held (pool : BufferPool) :
    pool.finalizePendingBuffer.mInFlightBuffers = pool.mInFlightBuffers ++ pool.mBuffer.toList ∧
      pool.finalizePendingBuffer.mBufferFreeList = pool.mBufferFreeList := by
  obtain ⟨hinFlight, hfree⟩ := commit_lists pool
  unfold finalizePendingBuffer
  split
  case h_1 hnone =>
    rw [hnone]
    exact ⟨(append_nil _).symm, rfl⟩
  case h_2 buffer hbuffer =>
    rw [hbuffer]
    exact ⟨congrArg (· ++ [buffer]) hinFlight, hfree⟩

theorem mem_held_of_mem_retired {buffer : Nat}
    (hbuffer : buffer ∈ (pool.retired d).mBufferFreeList) : buffer ∈ pool.held := by
  obtain ⟨hinFlight, hfree⟩ := finalizePendingBuffer_held pool
  have hmem := releaseInFlightBuffers_free_subset pool.finalizePendingBuffer d buffer hbuffer
  rw [hinFlight, hfree] at hmem
  unfold held
  simp only [mem_append] at hmem ⊢
  exact hmem.imp_left Or.symm

theorem retired_heap (pool : BufferPool) (d : Device) (buffer : Nat) :
    ((pool.retired d).heap buffer).size = (pool.heap buffer).size ∧
      ((pool.retired d).heap buffer).cmdBufferQueueSerial =
        (pool.heap buffer).cmdBufferQueueSerial := by
  have hheap : (pool.retired d).heap = pool.finalizePendingBuffer.heap :=
    releaseInFlightBuffers_heap _ d
  rw [hheap]
  exact finalizePendingBuffer_heap pool buffer

theorem accounted_reset (h : pool.Accounted) (hreal : pool.CurrentReal) {initialSize alignment
    maxBuffers : Nat} {newMemory : Nat → Option Memory}
    (hmemory : pool.Replaceable d newMemory) :
    (pool.reset d initialSize alignment maxBuffers newMemory).Accounted := by
  have hreleased := accounted_releaseInFlightBuffers (accounted_finalizePendingBuffer h hreal) d
  have hframe := releaseInFlightBuffers_frame pool.finalizePendingBuffer d
  have hvacant : (pool.retired d).mBuffer = none :=
    hframe.mBuffer.trans (finalizePendingBuffer_mBuffer pool)
  have hheld := @heldCount_of_empty (pool.finalizePendingBuffer.releaseInFlightBuffers d)
    rfl hvacant
  have hsize : (pool.finalizePendingBuffer.releaseInFlightBuffers d).mSize = pool.mSize :=
    hframe.mSize.trans (finalizePendingBuffer_frame pool).1
  apply accounted_updateAlignment
  split
  case h_1 => exact accounted_dropFreeBuffers hvacant rfl initialSize maxBuffers
  case h_2 front rest hfree =>
    split
    case isFalse => exact accounted_dropFreeBuffers hvacant rfl initialSize maxBuffers
    case isTrue =>
      have hfront : front ∈ (pool.retired d).mBufferFreeList := hfree ▸ mem_cons_self
      apply accounted_keepFreeBuffers hvacant rfl (hreleased.allocated.trans hheld)
        (hheld ▸ hreleased.few) ((hreleased.free front hfront).2.trans hsize)
      intro buffer hbuffer
      have hbytes := (hreleased.free buffer hbuffer).2.trans hsize
      refine ⟨(hreleased.free buffer hbuffer).1, hreleased.counted.free buffer hbuffer, hbytes, ?_⟩
      intro hused
      obtain ⟨hsizes, hserials⟩ := retired_heap pool d buffer
      have hused' : d.isBeingUsedByGPU (pool.heap buffer) := by
        unfold Device.isBeingUsedByGPU at hused ⊢
        rw [← hserials]
        exact hused
      obtain ⟨hsome, hle⟩ := hmemory buffer (mem_held_of_mem_retired hbuffer) hused'
      refine ⟨hsome, ?_⟩
      rw [← hbytes]
      exact hsizes.trans_le hle

end BufferPool

namespace PoolSystem

open LabelledRun BufferPool

/-- The condition on a call: no nil buffer of a failed allocation is put aside, and `reset` finds
the memory that it asks for. -/
def KeepsAccounts (s : PoolSystem) : Call → Prop
  | .reset _ _ _ newMemory => s.pool.CurrentReal ∧ s.pool.Replaceable s.device newMemory
  | .allocate sizeInBytes _ _ =>
      s.pool.needsNewBuffer (roundUp 64 sizeInBytes s.pool.mAlignment) →
        s.pool.CurrentReal
  | _ => True

def StaysAboveZero (s : PoolSystem) : Call → Prop
  | .reset _ _ _ _ => s.pool.finalizePendingBuffer.ReleasesWithinCount s.device
  | .allocate sizeInBytes _ _ =>
      s.pool.needsNewBuffer (roundUp 64 sizeInBytes s.pool.mAlignment) →
        s.pool.putAside.mBufferFreeList.length ≤ s.pool.putAside.mBuffersAllocated ∧
          (s.pool.readyToSwitch (roundUp 64 sizeInBytes
            s.pool.mAlignment)).ReleasesWithinCount s.device
  | .releaseInFlightBuffers => s.pool.ReleasesWithinCount s.device
  | .destroy =>
      s.pool.mInFlightBuffers.length + s.pool.mBufferFreeList.length ≤ s.pool.mBuffersAllocated
  | _ => True

/-- The assertions of `allocate` and `allocateNewBuffer`: a free buffer is there when the maximum
is reached, and a new current buffer has the size of the pool. -/
def AssertionsHold (s : PoolSystem) : Call → Prop
  | .allocate sizeInBytes wantPtr newMemory =>
      let (result, _, pool) := s.pool.allocate s.device sizeInBytes wantPtr newMemory
      result ≠ .error .emptyFreeList ∧ ∀ allocation, result = .ok allocation →
        allocation.newBufferAllocated → (pool.heap allocation.buffer).size = pool.mSize
  | _ => True

theorem accounted_initial (d : Device) (policy : BufferPoolMemPolicy) (always : Bool) :
    (initial d policy always).pool.Accounted :=
  .of_free rfl rfl rfl (Nat.two_pow_pos 64) (fun _ => Nat.zero_le _) fun b hb => by contradiction

theorem accounted_call {s t : PoolSystem} {c : Call} (h : s.pool.Accounted)
    (hkeeps : s.KeepsAccounts c) (hcall : call s c = some t) : t.pool.Accounted := by
  cases c with
  | initializePool initialSize alignment maxBuffers =>
    obtain ⟨⟨hnone, -⟩, ⟨⟩⟩ := ite_none_right_eq_some.mp hcall
    have hinitialized : { s.pool with
        mInitialSize := initialSize
        mMaxBuffers := maxBuffers }.Accounted := { h with
      bounded := fun _ => hnone.trans_le (zero_le _) }
    exact accounted_updateAlignment hinitialized alignment
  | reset initialSize alignment maxBuffers newMemory =>
      obtain ⟨-, ⟨⟩⟩ := ite_none_right_eq_some.mp hcall
      exact accounted_reset h hkeeps.1 hkeeps.2
  | allocate sizeInBytes wantPtr newMemory =>
      obtain ⟨⟨hfew, -⟩, ⟨⟩⟩ := ite_none_right_eq_some.mp hcall
      exact (accounted_allocate h hkeeps hfew wantPtr newMemory).1
  | commit =>
      cases hcall
      exact accounted_commit h
  | releaseInFlightBuffers =>
      cases hcall
      exact accounted_releaseInFlightBuffers h s.device
  | destroy =>
      cases hcall
      exact accounted_destroy s.pool
  | updateAlignment alignment =>
      obtain ⟨-, ⟨⟩⟩ := ite_none_right_eq_some.mp hcall
      exact accounted_updateAlignment h alignment
  | setAlwaysAllocateNewBuffer e =>
      cases hcall
      exact { h with }
  | setMemoryPolicy policy =>
      cases hcall
      exact { h with }
  | useByGPU buffer serial writing =>
      cases hcall
      exact h.updateBuffer (f := (·.setUsedByCommandBufferWithQueueSerial serial writing))
        buffer ⟨rfl, rfl⟩
  | completeCommandBuffer serial =>
      cases hcall
      exact h

theorem staysAboveZero_of_accounted {s : PoolSystem} (h : s.pool.Accounted) {c : Call}
    (hkeeps : s.KeepsAccounts c) : s.StaysAboveZero c := by
  cases c with
  | reset initialSize alignment maxBuffers newMemory =>
      exact (accounted_finalizePendingBuffer h hkeeps.1).releasesWithinCount s.device
  | allocate sizeInBytes wantPtr newMemory =>
      intro hneeds
      have haside := (accounted_putAside h (hkeeps hneeds)).1
      have hready := (accounted_readyToSwitch h (hkeeps hneeds)
        (roundUp 64 sizeInBytes s.pool.mAlignment)).1
      exact ⟨(le_add_left _ _).trans haside.lists_le, hready.releasesWithinCount s.device⟩
  | releaseInFlightBuffers => exact h.releasesWithinCount s.device
  | destroy => exact h.lists_le
  | initializePool _ _ _ => trivial
  | commit => trivial
  | updateAlignment _ => trivial
  | setAlwaysAllocateNewBuffer _ => trivial
  | setMemoryPolicy _ => trivial
  | useByGPU _ _ _ => trivial
  | completeCommandBuffer _ => trivial

theorem assertionsHold_of_accounted {s t : PoolSystem} (h : s.pool.Accounted) {c : Call}
    (hkeeps : s.KeepsAccounts c) (hcall : call s c = some t) : s.AssertionsHold c := by
  cases c with
  | allocate sizeInBytes wantPtr newMemory =>
      obtain ⟨⟨hfew, -⟩, -⟩ := ite_none_right_eq_some.mp hcall
      exact (accounted_allocate h hkeeps hfew wantPtr newMemory).2
  | reset _ _ _ _ => trivial
  | releaseInFlightBuffers => trivial
  | destroy => trivial
  | initializePool _ _ _ => trivial
  | commit => trivial
  | updateAlignment _ => trivial
  | setAlwaysAllocateNewBuffer _ => trivial
  | setMemoryPolicy _ => trivial
  | useByGPU _ _ _ => trivial
  | completeCommandBuffer _ => trivial

/-- In every state of a run that puts no nil buffer aside, the count is the number of the buffers
in flight, of the free ones and of the current one, if there is one.  It is at most the maximum,
no call takes it below zero, and the assertions hold. -/
theorem run_accounts (d : Device) (policy : BufferPoolMemPolicy) (always : Bool)
    {calls : List Call} {s : PoolSystem}
    (hrun : Run call KeepsAccounts (initial d policy always) calls s) :
    s.pool.mBuffersAllocated = s.pool.mInFlightBuffers.length + s.pool.mBufferFreeList.length +
        currentCount s.pool.heap s.pool.mBuffer ∧
      (0 < s.pool.mMaxBuffers → s.pool.mBuffersAllocated ≤ s.pool.mMaxBuffers) ∧
      ∀ c t, s.KeepsAccounts c → call s c = some t → s.StaysAboveZero c ∧ s.AssertionsHold c := by
  have haccounted : s.pool.Accounted := hrun.invariant
    (fun _ _ _ h hkeeps hcall => accounted_call h hkeeps hcall)
    (accounted_initial d policy always)
  exact ⟨haccounted.allocated, haccounted.bounded, fun c t hkeeps hcall =>
    ⟨staysAboveZero_of_accounted haccounted hkeeps, assertionsHold_of_accounted haccounted hkeeps
      hcall⟩⟩

instance (pool : BufferPool) : Decidable pool.CurrentReal :=
  decidable_of_iff (∀ buffer ∈ pool.mBuffer.toList, (pool.heap buffer).hasBuffer)
    ⟨fun h buffer hbuffer => h buffer (Option.mem_toList.mpr hbuffer),
      fun h buffer hbuffer => h buffer (Option.mem_toList.mp hbuffer)⟩

instance (pool : BufferPool) (d : Device) (newMemory : Nat → Option Memory) :
    Decidable (pool.Replaceable d newMemory) :=
  inferInstanceAs (Decidable (∀ buffer ∈ pool.held, _ → _))

instance (s : PoolSystem) : (c : Call) → Decidable (s.KeepsAccounts c)
  | .reset _ _ _ _ => inferInstanceAs (Decidable (BufferPool.CurrentReal _ ∧ _))
  | .allocate _ _ _ => inferInstanceAs (Decidable (_ → BufferPool.CurrentReal _))
  | .initializePool _ _ _ => .isTrue trivial
  | .commit => .isTrue trivial
  | .releaseInFlightBuffers => .isTrue trivial
  | .destroy => .isTrue trivial
  | .updateAlignment _ => .isTrue trivial
  | .setAlwaysAllocateNewBuffer _ => .isTrue trivial
  | .setMemoryPolicy _ => .isTrue trivial
  | .useByGPU _ _ _ => .isTrue trivial
  | .completeCommandBuffer _ => .isTrue trivial

/-- One of two buffers survives a reset to a maximum of one, replaced since the GPU uses it; the
allocation that fails then leaves a nil buffer, which `destroy` drops. -/
def resetCalls : List Call :=
  [.initializePool 64 4 2, .allocate 10 true (some zeroMemory), .useByGPU 0 1 true,
    .allocate 60 true (some zeroMemory), .commit, .reset 16 8 1 fun _ => some zeroMemory,
    .allocate 100 false none, .destroy, .allocate 8 false (some zeroMemory)]

theorem run_accounts_reset : ∃ s, Run call KeepsAccounts (initial desktop .Auto false) resetCalls s ∧
    s.pool.mBuffersAllocated = 1 ∧
      s.pool.mBuffersAllocated = s.pool.mInFlightBuffers.length + s.pool.mBufferFreeList.length +
        currentCount s.pool.heap s.pool.mBuffer := by
  obtain ⟨s, hexec, hcount⟩ : ∃ s, exec (checked call fun s c => decide (s.KeepsAccounts c))
      (initial desktop .Auto false) resetCalls = some s ∧ s.pool.mBuffersAllocated = 1 :=
    ⟨_, rfl, rfl⟩
  have hrun := Run.of_exec_checked _ (fun _ _ => of_decide_eq_true) hexec
  exact ⟨s, hrun, hcount, (run_accounts desktop .Auto false hrun).1⟩

def failingCalls : List Call :=
  [.initializePool 64 4 1, .allocate 10 false none, .allocate 100 false none,
    .releaseInFlightBuffers]

/-- `reset` finds no memory for the buffer in use and keeps a nil one. -/
def resetWithoutMemory : List Call :=
  [.initializePool 64 4 0, .allocate 10 false (some zeroMemory), .useByGPU 0 1 false,
    .reset 64 4 0 fun _ => none]

theorem not_accounted_after_failure :
    (∃ s, Run call anyStep (initial desktop .Auto false) failingCalls s ∧
      s.pool.mInFlightBuffers = [] ∧ s.pool.mBufferFreeList = [] ∧
      s.pool.mBuffersAllocated = 2 ^ 64 - 1 ∧
      (s.pool.allocate s.device 200 false none).1 = .error .emptyFreeList) ∧
    ∃ s, Run call anyStep (initial desktop .Auto false) resetWithoutMemory s ∧
      ¬ s.AssertionsHold (.allocate 10 false none) := by
  obtain ⟨s, hexec, hinFlight, hfree, hcount, hempty⟩ : ∃ s, exec call
      (initial desktop .Auto false) failingCalls = some s ∧ s.pool.mInFlightBuffers = [] ∧
      s.pool.mBufferFreeList = [] ∧ s.pool.mBuffersAllocated = 2 ^ 64 - 1 ∧
      (s.pool.allocate s.device 200 false none).1 = .error .emptyFreeList :=
    ⟨_, rfl, rfl, rfl, by decide +kernel, by decide +kernel⟩
  obtain ⟨t, hexec', hok, hsize, hmSize⟩ : ∃ t, exec call
      (initial desktop .Auto false) resetWithoutMemory = some t ∧
      (t.pool.allocate t.device 10 false none).1 = .ok ⟨0, 0, true⟩ ∧
      ((t.pool.allocate t.device 10 false none).2.2.heap 0).size = 0 ∧
      (t.pool.allocate t.device 10 false none).2.2.mSize = 64 := ⟨_, rfl, rfl, rfl, rfl⟩
  refine ⟨⟨s, .of_exec hexec, hinFlight, hfree, hcount, hempty⟩, t, .of_exec hexec', ?_⟩
  intro hasserts
  have hassert : ((t.pool.allocate t.device 10 false none).2.2.heap 0).size =
      (t.pool.allocate t.device 10 false none).2.2.mSize := hasserts.2 ⟨0, 0, true⟩ hok rfl
  exact absurd (hsize.symm.trans (hassert.trans hmSize)) (by decide)

end PoolSystem

end MetalAngle.Metal
