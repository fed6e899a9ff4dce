import MetalAngle.Metal.BufferPool

/-!
# The regions that a `BufferPool` hands out

The pool's offsets only grow while a buffer is current, so its regions are ordered, and
each flush begins where the last one ended.  The sizes of the buffers that are kept for
reuse follow `mSize`, and `mBuffersAllocated` counts them.
-/

namespace MetalAngle.Metal

open Nat List Option Except

theorem roundUp_eq {bits value alignment : Nat} (hfits : value + alignment - 1 < 2 ^ bits) :
    roundUp bits value alignment = alignment * ((value + alignment - 1) / alignment) := by
  have hdiv := div_add_mod (value + alignment - 1) alignment
  unfold roundUp
  rw [mod_eq_of_lt hfits]
  dsimp only
  omega

theorem roundUp_spec (bits value : Nat) {alignment : Nat} (hpos : 0 < alignment)
    (hfits : value + alignment - 1 < 2 ^ bits) :
    alignment ∣ roundUp bits value alignment ∧ value ≤ roundUp bits value alignment ∧
      roundUp bits value alignment < value + alignment := by
  have hdiv := div_add_mod (value + alignment - 1) alignment
  have hlt := mod_lt (value + alignment - 1) hpos
  rw [roundUp_eq hfits]
  exact ⟨dvd_mul_right _ _, by omega, by omega⟩

namespace Region

def endOffset (r : Region) : Nat := r.offset + r.sizeInBytes

def Disjoint (r r' : Region) : Prop := r.endOffset ≤ r'.offset ∨ r'.endOffset ≤ r.offset

end Region

namespace Tenure

/-- What holds of the regions of a buffer, current or past. -/
structure Safe (t : Tenure) : Prop where
  disjoint : t.regions.Pairwise Region.Disjoint
  aligned : ∀ r ∈ t.regions, r.alignment ∣ r.offset
  inside : ∀ r ∈ t.regions, r.endOffset ≤ t.bufferSize
  notUsedByGPU : t.fromFreeList → t.usedByGPU = false

/-- Every byte below `limit` that was handed out has been flushed, with the buffer mapped for
writing if a pointer was returned. -/
def FlushedBelow (t : Tenure) (limit : Nat) : Prop :=
  ∀ r ∈ t.regions, ∀ i, r.offset ≤ i → i < r.endOffset → i < limit →
    ∃ f ∈ t.flushes, f.startOffset ≤ i ∧ i < f.endOffset ∧ (r.mapped → f.forWrite)

def Flushed (t : Tenure) : Prop := ∀ limit, t.FlushedBelow limit

/-- The regions lie one after the other, the last one first, below the next offset. -/
structure Packed (t : Tenure) (next : Nat) : Prop where
  ordered : t.regions.Pairwise fun later earlier => earlier.endOffset ≤ later.offset
  below : ∀ r ∈ t.regions, r.endOffset ≤ next
  aligned : ∀ r ∈ t.regions, r.alignment ∣ r.offset
  inside : ∀ r ∈ t.regions, r.endOffset ≤ t.bufferSize
  notUsedByGPU : t.fromFreeList → t.usedByGPU = false

variable {t : Tenure} {next : Nat}

theorem Packed.safe (h : t.Packed next) : t.Safe where
  __ := h
  disjoint := h.ordered.imp fun hle => .inr hle

theorem Packed.mono (h : t.Packed next) {next' : Nat} (hle : next ≤ next') : t.Packed next' :=
  { h with below := fun r hr => (h.below r hr).trans hle }

theorem Packed.of_nil (hregions : t.regions = []) (hused : t.fromFreeList →
    t.usedByGPU = false) (next : Nat) : t.Packed next where
  ordered := by
    rw [hregions]
    exact .nil
  below := by simp [hregions]
  aligned := by simp [hregions]
  inside := by simp [hregions]
  notUsedByGPU := hused

theorem Packed.cons (h : t.Packed next) {r : Region} (hoffset : r.offset = next)
    (haligned : r.alignment ∣ r.offset) (hinside : r.endOffset ≤ t.bufferSize) {next' : Nat}
    (hnext : r.endOffset ≤ next') : { t with regions := r :: t.regions }.Packed next' := by
  have hle : next ≤ next' := by
    unfold Region.endOffset at hnext
    omega
  constructor
  case ordered =>
    apply List.Pairwise.cons _ h.ordered
    intro earlier hearlier
    rw [hoffset]
    exact h.below earlier hearlier
  case below =>
    intro r' hr'
    rcases mem_cons.mp hr' with rfl | hold
    · exact hnext
    · exact (h.below r' hold).trans hle
  case aligned =>
    intro r' hr'
    rcases mem_cons.mp hr' with rfl | hold
    · exact haligned
    · exact h.aligned r' hold
  case inside =>
    intro r' hr'
    rcases mem_cons.mp hr' with rfl | hold
    · exact hinside
    · exact h.inside r' hold
  case notUsedByGPU => exact h.notUsedByGPU

/-- A flush from where the last one ended up to `limit`, clamped to the buffer. -/
theorem FlushedBelow.flush {last : Nat} (hflushed : t.FlushedBelow last)
    (hpacked : t.Packed next) (limit : Nat) (forWrite : Bool)
    (hwrite : ∀ r ∈ t.regions, r.mapped → forWrite) :
    { t with flushes := ⟨min last t.bufferSize, min limit t.bufferSize, forWrite⟩ ::
      t.flushes }.FlushedBelow limit := by
  intro r hr i hfrom hto hlimit
  by_cases hbefore : i < last
  · obtain ⟨f, hf, hcovers⟩ := hflushed r hr i hfrom hto hbefore
    exact ⟨f, mem_cons_of_mem _ hf, hcovers⟩
  · have hinside := hpacked.inside r hr
    refine ⟨_, mem_cons_self, ?_, ?_, hwrite r hr⟩
    · exact (min_le_left _ _).trans (not_lt.mp hbefore)
    · exact Nat.lt_min.mpr ⟨hlimit, hto.trans_le hinside⟩

theorem Packed.flushed (h : t.Packed next) (hflushed : t.FlushedBelow next) : t.Flushed := by
  intro _ r hr i hfrom hto _
  exact hflushed r hr i hfrom hto (hto.trans_le (h.below r hr))

end Tenure

namespace BufferPool

/-! ## The invariant -/

def currentCount (heap : Nat → Buffer) : Option Nat → Nat
  | none => 0
  | some buffer => if (heap buffer).hasBuffer then 1 else 0

/-- `mBuffersAllocated` counts the Metal buffers that the pool holds, and the pool keeps no nil
wrapper for later. -/
structure Counted (heap : Nat → Buffer) (mBuffer : Option Nat) (inFlight free : List Nat)
    (mBuffersAllocated : Nat) : Prop where
  allocated : mBuffersAllocated =
    (inFlight.length + free.length + currentCount heap mBuffer) % 2 ^ 64
  inFlight : ∀ buffer ∈ inFlight, (heap buffer).hasBuffer
  free : ∀ buffer ∈ free, (heap buffer).hasBuffer

/-- The current buffer.  A nil wrapper, left by an allocation without memory, has no bytes. -/
structure Current (heap : Nat → Buffer) (buffersMade mSize next : Nat) (tenure : Tenure)
    (buffer : Nat) : Prop where
  made : buffer < buffersMade
  bufferSize : (heap buffer).size = tenure.bufferSize
  size_eq : (heap buffer).hasBuffer → (heap buffer).size = mSize
  idle : (heap buffer).hasBuffer = false → next = 0
  writable : ∀ r ∈ tenure.regions, r.mapped → (heap buffer).mMapReadOnly = false

structure Sound (pool : BufferPool) : Prop where
  alignment_pos : 0 < pool.mAlignment
  alignment_lt : pool.mAlignment < 2 ^ 32
  aligned : pool.mAlignment ∣ pool.mNextAllocationOffset
  lastFlush_le : pool.mLastFlushOffset ≤ pool.mNextAllocationOffset
  size_le : ∀ buffer, (pool.heap buffer).size ≤ 2 ^ 32
  size_of_nil : ∀ buffer, (pool.heap buffer).hasBuffer = false → (pool.heap buffer).size = 0
  current : ∀ buffer, pool.mBuffer = some buffer → Current pool.heap pool.buffersMade pool.mSize
    pool.mNextAllocationOffset pool.tenure buffer
  noCurrent : pool.mBuffer = none → pool.mNextAllocationOffset = 0
  inFlight : ∀ buffer ∈ pool.mInFlightBuffers,
    buffer < pool.buffersMade ∧ (pool.heap buffer).size ≤ pool.mSize
  free : ∀ buffer ∈ pool.mBufferFreeList,
    buffer < pool.buffersMade ∧ (pool.heap buffer).size = pool.mSize
  counted : 0 < pool.mMaxBuffers → Counted pool.heap pool.mBuffer pool.mInFlightBuffers
    pool.mBufferFreeList pool.mBuffersAllocated
  packed : pool.tenure.Packed pool.mNextAllocationOffset
  flushed : pool.tenure.FlushedBelow pool.mLastFlushOffset
  past : ∀ t ∈ pool.past, t.Safe ∧ t.Flushed

/-- The condition on a switch: a nil wrapper is not put aside while the buffers are counted. -/
def MaySwitch (pool : BufferPool) : Prop :=
  ∀ buffer, pool.mBuffer = some buffer →
    (pool.heap buffer).hasBuffer ∨ pool.mMaxBuffers = 0

/-- The same Metal buffer, with other contents, serials and flags. -/
structure SameBuffer (b b' : Buffer) : Prop where
  hasBuffer : b'.hasBuffer = b.hasBuffer
  size : b'.size = b.size

variable {pool : BufferPool} {d : Device}

theorem update_sameBuffer (pool : BufferPool) {f : Buffer → Buffer} {buffer : Nat}
    (hsame : SameBuffer (pool.heap buffer) (f (pool.heap buffer))) (b : Nat) :
    SameBuffer (pool.heap b) ((pool.updateBuffer buffer f).heap b) := by
  by_cases hb : b = buffer
  · rw [hb, updateBuffer_heap_self]
    exact hsame
  · rw [updateBuffer_heap_of_ne _ _ hb]
    exact ⟨rfl, rfl⟩

theorem update_mMapReadOnly {f : Buffer → Buffer} {buffer : Nat}
    (hsame : (f (pool.heap buffer)).mMapReadOnly = (pool.heap buffer).mMapReadOnly) (b : Nat) :
    ((pool.updateBuffer buffer f).heap b).mMapReadOnly = (pool.heap b).mMapReadOnly := by
  by_cases hb : b = buffer
  · rw [hb, updateBuffer_heap_self]
    exact hsame
  · rw [updateBuffer_heap_of_ne _ _ hb]

theorem Counted.of_sameBuffers {heap heap' : Nat → Buffer} {mBuffer : Option Nat}
    {inFlight free : List Nat} {mBuffersAllocated : Nat}
    (h : Counted heap mBuffer inFlight free mBuffersAllocated)
    (hsame : ∀ b, SameBuffer (heap b) (heap' b)) :
    Counted heap' mBuffer inFlight free mBuffersAllocated where
  allocated := by
    rw [h.allocated]
    cases mBuffer with
    | none => rfl
    | some buffer => simp only [currentCount, (hsame buffer).hasBuffer]
  inFlight := fun b hb => (hsame b).hasBuffer.trans (h.inFlight b hb)
  free := fun b hb => (hsame b).hasBuffer.trans (h.free b hb)

theorem Sound.of_sameBuffers (h : pool.Sound) {heap : Nat → Buffer}
    (hsame : ∀ b, SameBuffer (pool.heap b) (heap b))
    (hwritable : ∀ b, pool.mBuffer = some b → (pool.heap b).mMapReadOnly = false →
      (heap b).mMapReadOnly = false) : { pool with heap }.Sound where
  __ := h
  size_le := fun b => (hsame b).size ▸ h.size_le b
  size_of_nil := fun b hnil =>
    (hsame b).size.trans (h.size_of_nil b ((hsame b).hasBuffer.symm.trans hnil))
  current := fun b hb => {
    made := (h.current b hb).made
    bufferSize := (hsame b).size.trans (h.current b hb).bufferSize
    size_eq := fun hreal =>
      (hsame b).size.trans ((h.current b hb).size_eq ((hsame b).hasBuffer.symm.trans hreal))
    idle := fun hnil => (h.current b hb).idle ((hsame b).hasBuffer.symm.trans hnil)
    writable := fun r hr hmapped => hwritable b hb ((h.current b hb).writable r hr hmapped) }
  inFlight := fun b hb => ⟨(h.inFlight b hb).1, (hsame b).size.trans_le (h.inFlight b hb).2⟩
  free := fun b hb => ⟨(h.free b hb).1, (hsame b).size.trans (h.free b hb).2⟩
  counted := fun hmax => (h.counted hmax).of_sameBuffers hsame

theorem flush_sameBuffer (b : Buffer) (offset size : Nat) :
    SameBuffer b (b.flush offset size) ∧ (b.flush offset size).mMapReadOnly = b.mMapReadOnly := by
  unfold Buffer.flush
  split
  · exact ⟨⟨rfl, rfl⟩, rfl⟩
  · exact ⟨⟨rfl, rfl⟩, rfl⟩

theorem Sound.updateBuffer (h : pool.Sound) {f : Buffer → Buffer} (buffer : Nat)
    (hsame : SameBuffer (pool.heap buffer) (f (pool.heap buffer)))
    (hmapping : (f (pool.heap buffer)).mMapReadOnly = (pool.heap buffer).mMapReadOnly) :
    (pool.updateBuffer buffer f).Sound :=
  h.of_sameBuffers (update_sameBuffer pool hsame) fun b _ hfalse =>
    (update_mMapReadOnly hmapping b).trans hfalse

/-! ## Counting -/

namespace Counted

variable {heap : Nat → Buffer} {mBuffer : Option Nat} {inFlight free : List Nat}
  {mBuffersAllocated : Nat}

theorem putAside {buffer : Nat}
    (h : Counted heap (some buffer) inFlight free mBuffersAllocated)
    (hreal : (heap buffer).hasBuffer) :
    Counted heap none (inFlight ++ [buffer]) free mBuffersAllocated where
  __ := h
  allocated := by
    rw [h.allocated, length_append, length_singleton, add_right_comm]
    simp [currentCount, hreal]
  inFlight := by
    intro b hb
    rcases mem_append.mp hb with hold | hnew
    · exact h.inFlight b hold
    · rw [mem_singleton.mp hnew]
      exact hreal

theorem drop {toRelease : Nat} (h : Counted heap mBuffer (toRelease :: inFlight) free
    mBuffersAllocated) :
    Counted heap mBuffer inFlight free ((mBuffersAllocated + (2 ^ 64 - 1)) % 2 ^ 64) where
  __ := h
  allocated := by
    have hallocated := h.allocated
    rw [length_cons] at hallocated
    omega
  inFlight := fun b hb => h.inFlight b (mem_cons_of_mem toRelease hb)

theorem keep {toRelease : Nat} (h : Counted heap mBuffer (toRelease :: inFlight) free
    mBuffersAllocated) : Counted heap mBuffer inFlight (free ++ [toRelease]) mBuffersAllocated where
  allocated := by
    have hallocated := h.allocated
    rw [length_cons] at hallocated
    rw [length_append, length_singleton]
    omega
  inFlight := fun b hb => h.inFlight b (mem_cons_of_mem toRelease hb)
  free := by
    intro b hb
    rcases mem_append.mp hb with hold | hnew
    · exact h.free b hold
    · rw [mem_singleton.mp hnew]
      exact h.inFlight toRelease mem_cons_self

theorem dropFree (h : Counted heap mBuffer inFlight free mBuffersAllocated) :
    Counted heap mBuffer inFlight []
      ((mBuffersAllocated + (2 ^ 64 - free.length % 2 ^ 64)) % 2 ^ 64) where
  __ := h
  allocated := by
    have hallocated := h.allocated
    rw [length_nil]
    omega
  free := fun b hb => by contradiction

theorem takeFront {front : Nat} (h : Counted heap none inFlight (front :: free)
    mBuffersAllocated) : Counted heap (some front) inFlight free mBuffersAllocated where
  __ := h
  allocated := by
    rw [h.allocated, length_cons]
    simp [currentCount, h.free front mem_cons_self, add_assoc]
  free := fun b hb => h.free b (mem_cons_of_mem front hb)

theorem make {heap' : Nat → Buffer} {buffer : Nat}
    (h : Counted heap none inFlight free mBuffersAllocated)
    (hsame : ∀ b, b ∈ inFlight ∨ b ∈ free → heap' b = heap b) :
    Counted heap' (some buffer) inFlight free
      ((mBuffersAllocated + if (heap' buffer).hasBuffer then 1 else 0) % 2 ^ 64) where
  allocated := by
    rw [h.allocated, currentCount, currentCount, add_zero, mod_add_mod]
  inFlight := fun b hb => by
    rw [hsame b (.inl hb)]
    exact h.inFlight b hb
  free := fun b hb => by
    rw [hsame b (.inr hb)]
    exact h.free b hb

end Counted

/-! ## Flushing -/

theorem sound_commit (h : pool.Sound) : pool.commit.Sound := by
  unfold commit
  split
  case h_1 => exact h
  case h_2 buffer hbuffer =>
    split
    case isFalse => exact h
    case isTrue hpending =>
      have hcurrent := h.current buffer hbuffer
      have hflushed := h.flushed.flush h.packed pool.mNextAllocationOffset
        (!(pool.heap buffer).mMapReadOnly) fun r hr hmapped => by
          rw [hcurrent.writable r hr hmapped]
          rfl
      obtain ⟨hsame, hmapping⟩ := flush_sameBuffer (pool.heap buffer) pool.mLastFlushOffset
        (pool.mNextAllocationOffset - pool.mLastFlushOffset)
      have hupdated := h.updateBuffer (f := (·.flush _ _)) buffer hsame hmapping
      rw [← hcurrent.bufferSize] at hflushed
      exact { hupdated with
        lastFlush_le := le_refl _
        current := fun b hb => { hupdated.current b hb with }
        packed := { h.packed with }
        flushed := hflushed }

/-- What neither flushing nor releasing changes. -/
structure SameFrame (pool pool' : BufferPool) : Prop where
  mBuffer : pool'.mBuffer = pool.mBuffer
  mSize : pool'.mSize = pool.mSize
  mAlignment : pool'.mAlignment = pool.mAlignment
  mInitialSize : pool'.mInitialSize = pool.mInitialSize
  mMaxBuffers : pool'.mMaxBuffers = pool.mMaxBuffers

theorem commit_frame (pool : BufferPool) : SameFrame pool pool.commit := by
  unfold commit
  split
  · exact ⟨rfl, rfl, rfl, rfl, rfl⟩
  · split
    · exact ⟨rfl, rfl, rfl, rfl, rfl⟩
    · exact ⟨rfl, rfl, rfl, rfl, rfl⟩

/-- `commit` leaves nothing to flush in the current buffer. -/
theorem commit_spec {buffer : Nat} (hbuffer : pool.mBuffer = some buffer) :
    pool.commit.mNextAllocationOffset ≤ pool.commit.mLastFlushOffset ∧
      (pool.commit.heap buffer).hasBuffer = (pool.heap buffer).hasBuffer := by
  unfold commit
  simp only [hbuffer]
  split
  case isFalse hdone => exact ⟨not_lt.mp hdone, rfl⟩
  case isTrue =>
    exact ⟨le_refl _, (update_sameBuffer pool (flush_sameBuffer _ _ _).1 buffer).hasBuffer⟩

/-- The pool between two current buffers. -/
structure Vacant (pool : BufferPool) : Prop extends pool.Sound where
  vacant : pool.mBuffer = none

/-- The current buffer joins the buffers in flight when all of it is flushed. -/
theorem vacant_of_committed (h : pool.Sound) {buffer : Nat} (hbuffer : pool.mBuffer = some buffer)
    (hmay : (pool.heap buffer).hasBuffer ∨ pool.mMaxBuffers = 0)
    (hdone : pool.mNextAllocationOffset ≤ pool.mLastFlushOffset) :
    { pool with
      mInFlightBuffers := pool.mInFlightBuffers ++ [buffer]
      mBuffer := none
      past := pool.tenure :: pool.past
      tenure := {}
      mNextAllocationOffset := 0
      mLastFlushOffset := 0 }.Vacant := by
  have hcurrent := h.current buffer hbuffer
  have hsize : (pool.heap buffer).size ≤ pool.mSize := by
    cases hreal : (pool.heap buffer).hasBuffer with
    | false => exact (h.size_of_nil buffer hreal).trans_le (zero_le _)
    | true => exact (hcurrent.size_eq hreal).le
  have hflushed : pool.tenure.Flushed := by
    apply h.packed.flushed
    rw [le_antisymm hdone h.lastFlush_le]
    exact h.flushed
  refine ⟨{ h with
    aligned := dvd_zero _
    lastFlush_le := le_refl 0
    current := fun _ hsome => by contradiction
    noCurrent := fun _ => rfl
    inFlight := ?inFlight
    counted := ?counted
    packed := .of_nil rfl (fun hfree => by contradiction) 0
    flushed := fun r hr => by contradiction
    past := ?past }, rfl⟩
  case inFlight =>
    intro b hb
    rcases mem_append.mp hb with hold | hnew
    · exact h.inFlight b hold
    · obtain rfl := mem_singleton.mp hnew
      exact ⟨hcurrent.made, hsize⟩
  case counted =>
    intro hmax
    have hcounted := h.counted hmax
    rw [hbuffer] at hcounted
    exact hcounted.putAside (hmay.resolve_right (ne_of_gt hmax))
  case past =>
    intro t ht
    rcases mem_cons.mp ht with rfl | hold
    · exact ⟨h.packed.safe, hflushed⟩
    · exact h.past t hold

theorem Vacant.of_sameBuffers (h : pool.Vacant) {heap : Nat → Buffer}
    (hsame : ∀ b, SameBuffer (pool.heap b) (heap b)) : { pool with heap }.Vacant where
  __ := h
  toSound := h.toSound.of_sameBuffers hsame fun b hb => by
    rw [h.vacant] at hb
    contradiction

theorem vacant_finalizePendingBuffer (h : pool.Sound) {buffer : Nat}
    (hbuffer : pool.mBuffer = some buffer)
    (hmay : (pool.heap buffer).hasBuffer ∨ pool.mMaxBuffers = 0) :
    pool.finalizePendingBuffer.Vacant := by
  obtain ⟨hdone, hhas⟩ := commit_spec hbuffer
  have hframe := commit_frame pool
  have hvacant := vacant_of_committed (sound_commit h) (hframe.mBuffer.trans hbuffer)
    (hmay.imp hhas.trans hframe.mMaxBuffers.trans) hdone
  have hsame : SameBuffer (pool.commit.heap buffer) (pool.commit.heap buffer).unmapNoFlush :=
    ⟨rfl, rfl⟩
  have hunmapped := hvacant.of_sameBuffers
    (update_sameBuffer pool.commit (f := (·.unmapNoFlush)) hsame)
  unfold finalizePendingBuffer
  rw [hbuffer]
  exact hunmapped

/-! ## Releasing -/

theorem SameFrame.trans {pool' pool'' : BufferPool} (h : SameFrame pool pool')
    (h' : SameFrame pool' pool'') : SameFrame pool pool'' where
  mBuffer := h'.mBuffer.trans h.mBuffer
  mSize := h'.mSize.trans h.mSize
  mAlignment := h'.mAlignment.trans h.mAlignment
  mInitialSize := h'.mInitialSize.trans h.mInitialSize
  mMaxBuffers := h'.mMaxBuffers.trans h.mMaxBuffers

theorem releaseLoop_frame (inFlight : List Nat) (pool : BufferPool) :
    SameFrame pool (inFlight.foldl (releaseInFlightBuffer d) pool) := by
  induction inFlight generalizing pool with
  | nil => exact ⟨rfl, rfl, rfl, rfl, rfl⟩
  | cons toRelease rest ih =>
    have hstep : SameFrame pool (releaseInFlightBuffer d pool toRelease) := by
      unfold releaseInFlightBuffer
      dsimp only
      split
      · exact ⟨rfl, rfl, rfl, rfl, rfl⟩
      · exact ⟨rfl, rfl, rfl, rfl, rfl⟩
    exact hstep.trans (ih _)

theorem releaseInFlightBuffers_frame (pool : BufferPool) (d : Device) :
    SameFrame pool (pool.releaseInFlightBuffers d) :=
  { releaseLoop_frame (d := d) pool.mInFlightBuffers pool with }

/-- One round, with the buffers that are still to be released. -/
theorem sound_releaseInFlightBuffer {toRelease : Nat} {rest : List Nat}
    (h : { pool with mInFlightBuffers := toRelease :: rest }.Sound) :
    { releaseInFlightBuffer d pool toRelease with mInFlightBuffers := rest }.Sound := by
  obtain ⟨hmade, hsize⟩ := h.inFlight toRelease mem_cons_self
  have hrest := fun b hb => h.inFlight b (mem_cons_of_mem toRelease hb)
  unfold releaseInFlightBuffer
  dsimp only
  split
  case isTrue =>
    exact { h with inFlight := hrest, counted := fun hmax => (h.counted hmax).drop }
  case isFalse hkept =>
    refine { h with
      inFlight := hrest
      free := ?_
      counted := fun hmax => (h.counted hmax).keep }
    intro b hb
    rcases mem_append.mp hb with hold | hnew
    · exact h.free b hold
    · obtain rfl := mem_singleton.mp hnew
      exact ⟨hmade, le_antisymm hsize (not_lt.mp fun hlt => hkept (.inl hlt))⟩

theorem sound_releaseLoop {inFlight : List Nat}
    (h : { pool with mInFlightBuffers := inFlight }.Sound) :
    { inFlight.foldl (releaseInFlightBuffer d) pool with mInFlightBuffers := [] }.Sound := by
  induction inFlight generalizing pool with
  | nil => exact h
  | cons toRelease rest ih => exact ih (sound_releaseInFlightBuffer h)

theorem sound_releaseInFlightBuffers (h : pool.Sound) (d : Device) :
    (pool.releaseInFlightBuffers d).Sound :=
  sound_releaseLoop (d := d) h

/-- A larger `mSize` and no free buffers. -/
theorem Vacant.grow (h : pool.Vacant) {size : Nat} (hle : pool.mSize ≤ size) :
    ({ pool with mSize := size }.destroyFreeList).Vacant := by
  refine ⟨{ h.toSound with
    current := fun b hb => ?_
    inFlight := fun b hb => ⟨(h.inFlight b hb).1, (h.inFlight b hb).2.trans hle⟩
    free := fun b hb => by contradiction
    counted := fun hmax => (h.counted hmax).dropFree }, h.vacant⟩
  rw [show pool.mBuffer = none from h.vacant] at hb
  contradiction

/-! ## Allocation -/

/-- No buffer of the pool is larger than 2^32 bytes. -/
def SmallBuffers (d : Device) (pool : BufferPool) : Prop :=
  d.maxBufferLength ≤ 2 ^ 32 ∨ pool.mSize ≤ 2 ^ 32 ∧ pool.mInitialSize ≤ 2 ^ 32

theorem SmallBuffers.of_frame {d' : Device} {pool' : BufferPool} (h : SmallBuffers d pool)
    (hdevice : d'.maxBufferLength = d.maxBufferLength) (hsize : pool'.mSize = pool.mSize)
    (hinitial : pool'.mInitialSize = pool.mInitialSize) : SmallBuffers d' pool' := by
  unfold SmallBuffers
  rw [hdevice, hsize, hinitial]
  exact h

/-- A buffer of the size of the pool is current and nothing has been handed out from it. -/
structure Renewed (pool : BufferPool) : Prop where
  ofSize : ∃ buffer, pool.mBuffer = some buffer ∧ (pool.heap buffer).size = pool.mSize
  next : pool.mNextAllocationOffset = 0

/-- What a function that gets a new current buffer, or fails, does. -/
structure Allocates (d : Device) (pool : BufferPool)
    (outcome : Except PoolFault Unit × Device × BufferPool) : Prop where
  sound : outcome.2.2.Sound
  device : outcome.2.1.maxBufferLength = d.maxBufferLength
  mSize : outcome.2.2.mSize = pool.mSize
  mAlignment : outcome.2.2.mAlignment = pool.mAlignment
  mInitialSize : outcome.2.2.mInitialSize = pool.mInitialSize
  fault_eq : ∀ fault, outcome.1 = .error fault → fault = outOfMemory
  ok : outcome.1 = .ok () → outcome.2.2.Renewed

theorem Vacant.next_eq (h : pool.Vacant) : pool.mNextAllocationOffset = 0 := h.noCurrent h.vacant

/-- The front of the free list becomes current, when the GPU does not use it. -/
theorem Vacant.allocates_takeFront (h : pool.Vacant) {front : Nat} {rest : List Nat}
    (hfree : pool.mBufferFreeList = front :: rest) {d' : Device}
    (hunused : d'.isBeingUsedByGPU (pool.heap front) = false)
    (hdevice : d'.maxBufferLength = d.maxBufferLength) :
    Allocates d pool (.ok (), d', pool.takeFront d' front rest) := by
  obtain ⟨hmade, hsize⟩ := h.free front (hfree ▸ mem_cons_self)
  refine {
    sound := { h.toSound with
      current := fun b hb => ?_
      noCurrent := fun hnone => by contradiction
      free := fun b hb => h.free b (hfree ▸ mem_cons_of_mem front hb)
      counted := fun hmax => ?_
      packed := .of_nil rfl (fun _ => hunused) _
      flushed := fun r hr => by contradiction }
    device := hdevice
    mSize := rfl
    mAlignment := rfl
    mInitialSize := rfl
    fault_eq := fun fault herror => by contradiction
    ok := fun _ => ⟨⟨front, rfl, hsize⟩, h.next_eq⟩ }
  · obtain rfl : front = b := some.inj hb
    exact ⟨hmade, rfl, fun _ => hsize, fun _ => h.next_eq, fun r hr => by contradiction⟩
  · have hcounted := h.counted hmax
    rw [h.vacant, hfree] at hcounted
    exact hcounted.takeFront

theorem Vacant.sound_newBuffer (h : pool.Vacant) {b : Buffer} (hsize : b.size ≤ 2 ^ 32)
    (hreal : b.hasBuffer → b.size = pool.mSize)
    (hnil : b.hasBuffer = false → b.size = 0) {heap : Nat → Buffer}
    (hnew : heap pool.buffersMade = b)
    (hold : ∀ buffer, buffer ≠ pool.buffersMade → heap buffer = pool.heap buffer)
    {mBuffersAllocated : Nat}
    (hcounted : 0 < pool.mMaxBuffers → Counted heap (some pool.buffersMade)
      pool.mInFlightBuffers pool.mBufferFreeList mBuffersAllocated) :
    { pool with
      heap
      buffersMade := pool.buffersMade + 1
      mBuffer := some pool.buffersMade
      mBuffersAllocated
      tenure := { bufferSize := b.size } }.Sound := by
  have hkept : ∀ buffer, buffer < pool.buffersMade → (heap buffer).size = (pool.heap buffer).size :=
    fun buffer hlt => congrArg Buffer.size (hold buffer (Nat.ne_of_lt hlt))
  refine { h.toSound with
    size_le := ?size_le
    size_of_nil := ?size_of_nil
    current := ?current
    noCurrent := fun hnone => by contradiction
    inFlight := fun b hb => ⟨lt_succ_of_lt (h.inFlight b hb).1,
      (hkept b (h.inFlight b hb).1).trans_le (h.inFlight b hb).2⟩
    free := fun b hb => ⟨lt_succ_of_lt (h.free b hb).1,
      (hkept b (h.free b hb).1).trans (h.free b hb).2⟩
    counted := hcounted
    packed := .of_nil rfl (fun hfree => by contradiction) _
    flushed := fun r hr => by contradiction }
  case size_le =>
    intro buffer
    change (heap buffer).size ≤ 2 ^ 32
    by_cases hbuffer : buffer = pool.buffersMade
    · rw [hbuffer, hnew]
      exact hsize
    · rw [hold buffer hbuffer]
      exact h.size_le buffer
  case size_of_nil =>
    intro buffer
    change (heap buffer).hasBuffer = false → (heap buffer).size = 0
    by_cases hbuffer : buffer = pool.buffersMade
    · rw [hbuffer, hnew]
      exact hnil
    · rw [hold buffer hbuffer]
      exact h.size_of_nil buffer
  case current =>
    intro buffer hbuffer
    obtain rfl : pool.buffersMade = buffer := some.inj hbuffer
    exact {
      made := lt_succ_self _
      bufferSize := congrArg Buffer.size hnew
      size_eq := hnew ▸ hreal
      idle := fun _ => h.next_eq
      writable := fun r hr => by contradiction }

theorem Counted.lt {heap : Nat → Buffer} {mBuffer : Option Nat} {inFlight free : List Nat}
    {mBuffersAllocated : Nat} (h : Counted heap mBuffer inFlight free mBuffersAllocated) :
    mBuffersAllocated < 2 ^ 64 := by
  rw [h.allocated]
  exact mod_lt _ (by decide)

theorem Vacant.counted_make (h : pool.Vacant) (hmax : 0 < pool.mMaxBuffers) {b : Buffer}
    {heap : Nat → Buffer} (hnew : heap pool.buffersMade = b)
    (hold : ∀ buffer, buffer ≠ pool.buffersMade → heap buffer = pool.heap buffer) :
    Counted heap (some pool.buffersMade) pool.mInFlightBuffers pool.mBufferFreeList
      ((pool.mBuffersAllocated + if b.hasBuffer then 1 else 0) % 2 ^ 64) := by
  have hcounted := h.counted hmax
  rw [h.vacant] at hcounted
  rw [← hnew]
  apply hcounted.make
  rintro buffer (hmem | hmem)
  · exact hold buffer (Nat.ne_of_lt (h.inFlight buffer hmem).1)
  · exact hold buffer (Nat.ne_of_lt (h.free buffer hmem).1)

theorem Vacant.allocates_makeBuffer (h : pool.Vacant) (hd : SmallBuffers d pool)
    (newMemory : Option Memory) :
    Allocates d pool ((pool.makeBuffer d newMemory).1, d, (pool.makeBuffer d newMemory).2) := by
  obtain ⟨b, hb⟩ : ∃ b, b = ({} : Buffer).reset d (pool.shouldAllocateInSharedMem d) pool.mSize
    newMemory := ⟨_, rfl⟩
  have hspec := Buffer.reset_spec {} d (pool.shouldAllocateInSharedMem d) pool.mSize newMemory
  have hnew : Function.update pool.heap pool.buffersMade b pool.buffersMade = b :=
    Function.update_self _ _ _
  have hold : ∀ buffer, buffer ≠ pool.buffersMade →
      Function.update pool.heap pool.buffersMade b buffer = pool.heap buffer :=
    fun buffer hne => Function.update_of_ne hne _ _
  have hcounted := fun hmax => h.counted_make hmax hnew hold
  unfold makeBuffer
  rw [← hb] at hspec ⊢
  rcases hspec with ⟨hreal, hsize, hle⟩ | ⟨hnil, hsize⟩
  · simp only [hreal, if_true] at hcounted ⊢
    have hsmall : pool.mSize ≤ 2 ^ 32 := hd.elim hle.trans And.left
    have hsound := h.sound_newBuffer (hsize.trans_le hsmall) (fun _ => hsize)
      (fun hnil => absurd (hnil.symm.trans hreal) Bool.false_ne_true) hnew hold hcounted
    exact ⟨hsound, rfl, rfl, rfl, rfl, fun fault herror => by contradiction, fun _ =>
      ⟨⟨pool.buffersMade, rfl, (congrArg Buffer.size hnew).trans hsize⟩, h.next_eq⟩⟩
  · simp only [hnil, Bool.false_eq_true, if_false, add_zero] at hcounted ⊢
    have hsound := h.sound_newBuffer (hsize.trans_le (zero_le _)) (fun hreal =>
      absurd (hnil.symm.trans hreal) Bool.false_ne_true) (fun _ => hsize) hnew hold
      fun hmax => (mod_eq_of_lt (h.counted hmax).lt) ▸ hcounted hmax
    exact ⟨hsound, rfl, rfl, rfl, rfl,
      fun fault herror => (error.inj herror).symm, fun hok => by contradiction⟩

theorem Vacant.free_ne_nil (h : pool.Vacant) (hinFlight : pool.mInFlightBuffers = [])
    (hreached : pool.reachedMaxBuffers) : pool.mBufferFreeList ≠ [] := by
  intro hfree
  obtain ⟨hmax, hle⟩ := of_decide_eq_true hreached
  have hallocated := (h.counted hmax).allocated
  rw [hinFlight, hfree, h.vacant] at hallocated
  simp only [currentCount, length_nil] at hallocated
  omega

theorem isBeingUsedByGPU_wait (d : Device) (b : Buffer) :
    (if d.isBeingUsedByGPU b then d.flushCommandBufer.ensureResourceReadyForCPU b
      else d).isBeingUsedByGPU b = false := by
  by_cases hused : d.isBeingUsedByGPU b
  · rw [if_pos hused]
    exact Device.not_isBeingUsedByGPU_of_ensure _ b
  · rw [if_neg hused]
    exact Bool.eq_false_iff.mpr hused

theorem Allocates.of_sameFrame {pool₀ : BufferPool}
    {outcome : Except PoolFault Unit × Device × BufferPool} (h : Allocates d pool outcome)
    (hframe : SameFrame pool₀ pool) : Allocates d pool₀ outcome :=
  { h with
    mSize := h.mSize.trans hframe.mSize
    mAlignment := h.mAlignment.trans hframe.mAlignment
    mInitialSize := h.mInitialSize.trans hframe.mInitialSize }

theorem Vacant.allocates_allocateNewBuffer (h : pool.Vacant) (hd : SmallBuffers d pool)
    (newMemory : Option Memory) : Allocates d pool (pool.allocateNewBuffer d newMemory) := by
  unfold allocateNewBuffer
  by_cases hreached : pool.reachedMaxBuffers
  · have hreleased := sound_releaseInFlightBuffers h.toSound d
    have hframe := releaseInFlightBuffers_frame pool d
    have hvacant : (pool.releaseInFlightBuffers d).Vacant :=
      ⟨hreleased, hframe.mBuffer.trans h.vacant⟩
    rw [if_pos hreached]
    apply Allocates.of_sameFrame _ hframe
    dsimp only
    split
    case isTrue hstill =>
      have hne := hvacant.free_ne_nil rfl hstill
      split
      case h_1 hnil => exact absurd hnil hne
      case h_2 front rest hfree =>
        apply hvacant.allocates_takeFront hfree (isBeingUsedByGPU_wait d _)
        split
        · rfl
        · rfl
    case isFalse =>
      exact hvacant.allocates_makeBuffer (hd.of_frame rfl hframe.mSize hframe.mInitialSize)
        newMemory
  · rw [if_neg hreached, if_neg hreached]
    exact h.allocates_makeBuffer hd newMemory

theorem Vacant.allocates_nextBuffer (h : pool.Vacant) (hd : SmallBuffers d pool)
    (newMemory : Option Memory) : Allocates d pool (pool.nextBuffer d newMemory) := by
  unfold nextBuffer
  split
  case h_1 => exact h.allocates_allocateNewBuffer hd newMemory
  case h_2 front rest hfree =>
    split
    case isTrue => exact h.allocates_allocateNewBuffer hd newMemory
    case isFalse hunused =>
      exact h.allocates_takeFront hfree (Bool.eq_false_iff.mpr hunused) rfl

/-- What `switchBuffer` does: a region of the wanted size fits into the new buffer. -/
structure Switches (d : Device) (pool : BufferPool) (sizeToAllocate : Nat)
    (outcome : Except PoolFault Unit × Device × BufferPool) : Prop where
  sound : outcome.2.2.Sound
  device : outcome.2.1.maxBufferLength = d.maxBufferLength
  small : SmallBuffers outcome.2.1 outcome.2.2
  mAlignment : outcome.2.2.mAlignment = pool.mAlignment
  fault_eq : ∀ fault, outcome.1 = .error fault → fault = outOfMemory
  ok : outcome.1 = .ok () → outcome.2.2.Renewed ∧ sizeToAllocate ≤ outcome.2.2.mSize

theorem finalizePendingBuffer_frame (pool : BufferPool) :
    pool.finalizePendingBuffer.mSize = pool.mSize ∧
      pool.finalizePendingBuffer.mAlignment = pool.mAlignment ∧
      pool.finalizePendingBuffer.mInitialSize = pool.mInitialSize := by
  unfold finalizePendingBuffer commit
  cases pool.mBuffer with
  | none => exact ⟨rfl, rfl, rfl⟩
  | some buffer =>
      dsimp only
      split
      · exact ⟨rfl, rfl, rfl⟩
      · exact ⟨rfl, rfl, rfl⟩

theorem vacant_putAside (h : pool.Sound) (hmay : pool.MaySwitch) (hd : SmallBuffers d pool)
    {pool' : BufferPool}
    (hpool' : pool' = if pool.mBuffer.isSome then pool.finalizePendingBuffer else pool) :
    pool'.Vacant ∧ pool'.mAlignment = pool.mAlignment ∧ SmallBuffers d pool' := by
  cases hbuffer : pool.mBuffer with
  | none =>
      obtain rfl : pool' = pool := by simpa [hbuffer] using hpool'
      exact ⟨⟨h, hbuffer⟩, rfl, hd⟩
  | some buffer =>
      obtain rfl : pool' = pool.finalizePendingBuffer := by simpa [hbuffer] using hpool'
      obtain ⟨hsize, halignment, hinitial⟩ := finalizePendingBuffer_frame pool
      exact ⟨vacant_finalizePendingBuffer h hbuffer (hmay buffer hbuffer), halignment,
        hd.of_frame rfl hsize hinitial⟩

theorem Vacant.makeRoom (h : pool.Vacant) (hd : SmallBuffers d pool) {sizeToAllocate : Nat}
    (hsmall : sizeToAllocate < 2 ^ 32) {pool' : BufferPool}
    (hpool' : pool' = if sizeToAllocate > pool.mSize then
      { pool with mSize := max pool.mInitialSize sizeToAllocate }.destroyFreeList else pool) :
    pool'.Vacant ∧ pool'.mAlignment = pool.mAlignment ∧ SmallBuffers d pool' ∧
      sizeToAllocate ≤ pool'.mSize := by
  by_cases hlarge : sizeToAllocate > pool.mSize
  · rw [if_pos hlarge] at hpool'
    have hle : pool.mSize ≤ max pool.mInitialSize sizeToAllocate :=
      hlarge.le.trans (le_max_right _ _)
    have hlimit : SmallBuffers d { pool with mSize := max pool.mInitialSize sizeToAllocate } :=
      hd.imp_right fun hsizes => ⟨Nat.max_le.mpr ⟨hsizes.2, hsmall.le⟩, hsizes.2⟩
    rw [hpool']
    exact ⟨h.grow hle, rfl, hlimit, le_max_right _ _⟩
  · rw [if_neg hlarge] at hpool'
    rw [hpool']
    exact ⟨h, rfl, hd, not_lt.mp hlarge⟩

theorem switches_switchBuffer (h : pool.Sound) (hmay : pool.MaySwitch) (hd : SmallBuffers d pool)
    {sizeToAllocate : Nat} (hsmall : sizeToAllocate < 2 ^ 32) (newMemory : Option Memory) :
    Switches d pool sizeToAllocate (pool.switchBuffer d sizeToAllocate newMemory) := by
  obtain ⟨haside, halignment, hd'⟩ := vacant_putAside h hmay hd rfl
  obtain ⟨hroom, hsameAlignment, hd'', hfits⟩ := haside.makeRoom hd' hsmall rfl
  have hallocates := hroom.allocates_nextBuffer hd'' newMemory
  unfold switchBuffer
  dsimp only
  split
  case h_1 d' pool' heq =>
    rw [heq] at hallocates
    have hrenewed := hallocates.ok rfl
    exact { hallocates with
      sound := { hallocates.sound with
        aligned := dvd_zero _
        lastFlush_le := le_refl 0
        current := fun b hb => { hallocates.sound.current b hb with idle := fun _ => rfl }
        noCurrent := fun _ => rfl
        packed := hrenewed.next ▸ hallocates.sound.packed
        flushed := fun r hr i _ _ hlt => absurd hlt (not_lt_zero i) }
      small := hd''.of_frame hallocates.device hallocates.mSize hallocates.mInitialSize
      mAlignment := hallocates.mAlignment.trans (hsameAlignment.trans halignment)
      fault_eq := fun fault herror => by contradiction
      ok := fun _ => ⟨⟨hrenewed.ofSize, rfl⟩, hfits.trans hallocates.mSize.ge⟩ }
  case h_2 fault d' pool' heq =>
    rw [heq] at hallocates
    exact { hallocates with
      small := hd''.of_frame hallocates.device hallocates.mSize hallocates.mInitialSize
      mAlignment := hallocates.mAlignment.trans (hsameAlignment.trans halignment)
      fault_eq := fun fault' herror =>
        hallocates.fault_eq fault' (congrArg error (error.inj herror))
      ok := fun hok => by contradiction }

/-- A region with room in the current buffer, which is writable if a pointer is wanted. -/
theorem Sound.addRegion (h : pool.Sound) {buffer sizeInBytes sizeToAllocate : Nat}
    (hbuffer : pool.mBuffer = some buffer) (hsize : (pool.heap buffer).size = pool.mSize)
    (hle : sizeInBytes ≤ sizeToAllocate) (hdvd : pool.mAlignment ∣ sizeToAllocate)
    (hfits : pool.mNextAllocationOffset + sizeToAllocate ≤ pool.mSize) (mapped : Bool)
    (hwritable : mapped → (pool.heap buffer).mMapReadOnly = false) :
    { pool with
      mNextAllocationOffset := pool.mNextAllocationOffset + sizeToAllocate
      tenure := { pool.tenure with
        regions := ⟨pool.mNextAllocationOffset, sizeInBytes, pool.mAlignment, mapped⟩ ::
          pool.tenure.regions } }.Sound := by
  have hcurrent := h.current buffer hbuffer
  have hroom : pool.mNextAllocationOffset + sizeInBytes ≤ pool.tenure.bufferSize := by
    rw [← hcurrent.bufferSize, hsize]
    exact (Nat.add_le_add_left hle _).trans hfits
  refine { h with
    aligned := dvd_add h.aligned hdvd
    lastFlush_le := h.lastFlush_le.trans (le_add_right _ _)
    current := ?current
    noCurrent := ?noCurrent
    packed := h.packed.cons (r := ⟨_, sizeInBytes, _, mapped⟩) rfl h.aligned hroom
      (Nat.add_le_add_left hle _)
    flushed := ?flushed }
  case current =>
    intro b hb
    obtain rfl : buffer = b := some.inj (hbuffer.symm.trans hb)
    refine { hcurrent with
      idle := fun hnil => ?_
      writable := fun r hr => ?_ }
    · have hempty := h.size_of_nil buffer hnil
      exact le_zero.mp (hfits.trans_eq (hsize.symm.trans hempty))
    · rcases mem_cons.mp hr with rfl | hold
      · exact hwritable
      · exact hcurrent.writable r hold
  case noCurrent =>
    intro hnone
    rw [show pool.mBuffer = none from hnone] at hbuffer
    contradiction
  case flushed =>
    intro r hr i hfrom hto hlimit
    rcases mem_cons.mp hr with rfl | hold
    · exact absurd hlimit (not_lt.mpr (h.lastFlush_le.trans hfrom))
    · exact h.flushed r hold i hfrom hto hlimit

theorem Sound.handOut (h : pool.Sound) {buffer sizeInBytes sizeToAllocate : Nat}
    (hbuffer : pool.mBuffer = some buffer) (hsize : (pool.heap buffer).size = pool.mSize)
    (hle : sizeInBytes ≤ sizeToAllocate) (hdvd : pool.mAlignment ∣ sizeToAllocate)
    (hfits : pool.mNextAllocationOffset + sizeToAllocate ≤ pool.mSize)
    (hlt : pool.mNextAllocationOffset + sizeToAllocate < 2 ^ 32) (wantPtr : Bool) :
    (pool.handOut buffer sizeInBytes sizeToAllocate wantPtr).Sound := by
  have hnext : (pool.mNextAllocationOffset + sizeToAllocate % 2 ^ 32) % 2 ^ 32 =
      pool.mNextAllocationOffset + sizeToAllocate := by omega
  unfold BufferPool.handOut
  rw [hnext]
  cases wantPtr with
  | false =>
      have hsame := h.updateBuffer (f := id) buffer ⟨rfl, rfl⟩ rfl
      apply hsame.addRegion hbuffer _ hle hdvd hfits false
      · intro hfalse
        contradiction
      · exact (update_sameBuffer pool (f := id) ⟨rfl, rfl⟩ buffer).size.trans hsize
  | true =>
    obtain ⟨f, hf⟩ : ∃ f, f = fun b : Buffer => { b with mMapReadOnly := false } := ⟨_, rfl⟩
    have hwriting : SameBuffer (pool.heap buffer) (f (pool.heap buffer)) := by
      rw [hf]
      exact ⟨rfl, rfl⟩
    have hsame := update_sameBuffer pool hwriting
    have hwritable : ((pool.updateBuffer buffer f).heap buffer).mMapReadOnly = false := by
      rw [updateBuffer_heap_self, hf]
    have hmapped := h.of_sameBuffers hsame fun b hb _ => by
      obtain rfl : buffer = b := some.inj (hbuffer.symm.trans hb)
      exact hwritable
    simp only [if_true]
    rw [← hf]
    exact hmapped.addRegion hbuffer ((hsame buffer).size.trans hsize) hle hdvd hfits true
      fun _ => hwritable

theorem sizeToAllocate_spec (h : pool.Sound) {sizeInBytes : Nat}
    (hsmall : (sizeInBytes + pool.mAlignment - 1) / pool.mAlignment * pool.mAlignment < 2 ^ 32) :
    pool.mAlignment ∣ roundUp 64 sizeInBytes pool.mAlignment ∧
      sizeInBytes ≤ roundUp 64 sizeInBytes pool.mAlignment ∧
      roundUp 64 sizeInBytes pool.mAlignment < 2 ^ 32 := by
  have hpos := h.alignment_pos
  have hbound := h.alignment_lt
  have hdiv := div_add_mod (sizeInBytes + pool.mAlignment - 1) pool.mAlignment
  have hlt := mod_lt (sizeInBytes + pool.mAlignment - 1) hpos
  rw [mul_comm] at hsmall
  have hfits : sizeInBytes + pool.mAlignment - 1 < 2 ^ 64 := by omega
  obtain ⟨hdvd, hle, -⟩ := roundUp_spec 64 sizeInBytes hpos hfits
  refine ⟨hdvd, hle, ?_⟩
  rw [roundUp_eq hfits]
  exact hsmall

/-- The condition on `allocate`: a region is not taken from a nil wrapper, and one is not put
aside while the buffers are counted. -/
def MayAllocate (pool : BufferPool) (sizeInBytes : Nat) : Prop :=
  ∀ buffer, pool.mBuffer = some buffer → (pool.heap buffer).hasBuffer ∨
    pool.needsNewBuffer (roundUp 64 sizeInBytes pool.mAlignment) ∧ pool.mMaxBuffers = 0

/-- What `allocate` does. -/
structure Serves (d : Device) (pool : BufferPool) (sizeInBytes : Nat) (wantPtr : Bool)
    (outcome : Except PoolFault Allocation × Device × BufferPool) : Prop where
  sound : outcome.2.2.Sound
  device : outcome.2.1.maxBufferLength = d.maxBufferLength
  small : SmallBuffers outcome.2.1 outcome.2.2
  mAlignment : outcome.2.2.mAlignment = pool.mAlignment
  fault_eq : ∀ fault, outcome.1 = .error fault → fault = outOfMemory
  region : ∀ allocation, outcome.1 = .ok allocation →
    outcome.2.2.mBuffer = some allocation.buffer ∧ ∃ earlier,
      outcome.2.2.tenure.regions =
        ⟨allocation.offset, sizeInBytes, pool.mAlignment, wantPtr⟩ :: earlier
  unflushed : ∀ allocation, outcome.1 = .ok allocation →
    outcome.2.2.mLastFlushOffset ≤ allocation.offset

theorem serves_handOut {pool' : BufferPool} {d' : Device} {sizeInBytes : Nat} {wantPtr : Bool}
    (h : pool'.Sound) (hdevice : d'.maxBufferLength = d.maxBufferLength)
    (hd : SmallBuffers d' pool') (halignment : pool'.mAlignment = pool.mAlignment)
    (hsmall : (sizeInBytes + pool.mAlignment - 1) / pool.mAlignment * pool.mAlignment < 2 ^ 32)
    {buffer : Nat} (hbuffer : pool'.mBuffer = some buffer)
    (hsize : (pool'.heap buffer).size = pool'.mSize)
    (hfits : pool'.mNextAllocationOffset + roundUp 64 sizeInBytes pool.mAlignment ≤ pool'.mSize)
    (hlt : pool'.mNextAllocationOffset + roundUp 64 sizeInBytes pool.mAlignment < 2 ^ 32)
    (newBufferAllocated : Bool) :
    Serves d pool sizeInBytes wantPtr
      (.ok { buffer, offset := pool'.mNextAllocationOffset, newBufferAllocated }, d',
        pool'.handOut buffer sizeInBytes (roundUp 64 sizeInBytes pool.mAlignment) wantPtr) := by
  rw [← halignment] at hsmall hfits hlt ⊢
  obtain ⟨hdvd, hle, -⟩ := sizeToAllocate_spec h hsmall
  refine {
    sound := h.handOut hbuffer hsize hle hdvd hfits hlt wantPtr
    device := hdevice
    small := hd
    mAlignment := halignment
    fault_eq := fun fault herror => by contradiction
    region := fun allocation hok => ?region
    unflushed := fun allocation hok => ?unflushed }
  case region =>
    obtain rfl := ok.inj hok
    exact ⟨hbuffer, pool'.tenure.regions, halignment ▸ rfl⟩
  case unflushed =>
    obtain rfl := ok.inj hok
    exact h.lastFlush_le

theorem serves_allocate (h : pool.Sound) (hd : SmallBuffers d pool) {sizeInBytes : Nat}
    (hmay : pool.MayAllocate sizeInBytes)
    (hsmall : (sizeInBytes + pool.mAlignment - 1) / pool.mAlignment * pool.mAlignment < 2 ^ 32)
    (wantPtr : Bool) (newMemory : Option Memory) :
    Serves d pool sizeInBytes wantPtr (pool.allocate d sizeInBytes wantPtr newMemory) := by
  obtain ⟨-, -, hlt⟩ := sizeToAllocate_spec h hsmall
  unfold allocate
  dsimp only
  by_cases hnew : pool.needsNewBuffer (roundUp 64 sizeInBytes pool.mAlignment)
  · have hswitches := switches_switchBuffer h (fun b hb => (hmay b hb).imp_right (·.2)) hd
      hlt newMemory
    rw [if_pos hnew]
    obtain ⟨outcome, houtcome⟩ : ∃ o, o = pool.switchBuffer d
      (roundUp 64 sizeInBytes pool.mAlignment) newMemory := ⟨_, rfl⟩
    rw [← houtcome] at hswitches ⊢
    obtain ⟨result, d', pool'⟩ := outcome
    cases result with
    | error fault =>
        refine ⟨hswitches.sound, hswitches.device, hswitches.small, hswitches.mAlignment, ?_,
          fun _ hok => by contradiction, fun _ hok => by contradiction⟩
        intro fault' herror
        exact hswitches.fault_eq fault' (congrArg error (error.inj herror))
    | ok =>
      obtain ⟨⟨⟨buffer, hbuffer, hsize⟩, hnext⟩, hroom⟩ := hswitches.ok rfl
      rw [hbuffer]
      apply serves_handOut hswitches.sound hswitches.device hswitches.small
        hswitches.mAlignment hsmall hbuffer hsize
      · rw [hnext, zero_add]
        exact hroom
      · rw [hnext, zero_add]
        exact hlt
  · have hreal := fun b hb => (hmay b hb).resolve_right fun hswitch => hnew hswitch.1
    rw [if_neg hnew]
    unfold needsNewBuffer at hnew
    cases hbuffer : pool.mBuffer with
    | none =>
        rw [hbuffer] at hnew
        exact absurd rfl hnew
    | some buffer =>
      rw [hbuffer] at hnew
      simp only [Bool.or_eq_true, decide_eq_true_eq, not_or, not_le] at hnew
      have hfits := hnew.1.1.2
      have hsize := (h.current buffer hbuffer).size_eq (hreal buffer hbuffer)
      exact serves_handOut h rfl hd rfl hsmall hbuffer hsize hfits.le
        (hfits.trans_le (hsize ▸ h.size_le buffer)) _

/-- The region that `allocate` has returned lies in a Metal buffer. -/
theorem Serves.inside {sizeInBytes : Nat} {wantPtr : Bool} {allocation : Allocation}
    {outcome : Except PoolFault Allocation × Device × BufferPool}
    (h : Serves d pool sizeInBytes wantPtr outcome) (hok : outcome.1 = .ok allocation) :
    allocation.buffer < outcome.2.2.buffersMade ∧ pool.mAlignment ∣ allocation.offset ∧
      allocation.offset + sizeInBytes ≤ (outcome.2.2.heap allocation.buffer).size := by
  obtain ⟨hbuffer, earlier, hregions⟩ := h.region allocation hok
  have hcurrent := h.sound.current allocation.buffer hbuffer
  have hmem : ⟨allocation.offset, sizeInBytes, pool.mAlignment, wantPtr⟩ ∈
      outcome.2.2.tenure.regions := by
    rw [hregions]
    exact mem_cons_self
  refine ⟨hcurrent.made, h.sound.packed.aligned _ hmem, ?_⟩
  rw [hcurrent.bufferSize]
  exact h.sound.packed.inside _ hmem

theorem Sound.hasBuffer_of_size_pos (h : pool.Sound) (buffer : Nat)
    (hpos : 0 < (pool.heap buffer).size) : (pool.heap buffer).hasBuffer := by
  by_contra hnil
  have hempty := h.size_of_nil buffer (Bool.eq_false_iff.mpr hnil)
  omega

/-! ## Alignment -/

theorem sound_updateAlignment (h : pool.Sound) (alignment : Nat) (hpos : 0 < alignment)
    (hallowed : alignment = pool.mAlignment ∨
      alignment < 2 ^ 32 ∧ pool.mNextAllocationOffset + alignment ≤ 2 ^ 32) :
    (pool.updateAlignment alignment).Sound := by
  unfold updateAlignment
  split
  case isFalse => exact h
  case isTrue hne =>
    obtain ⟨hsmall, hfits⟩ := hallowed.resolve_left hne
    obtain ⟨hdvd, hle, hlt⟩ := roundUp_spec 32 pool.mNextAllocationOffset hpos (by omega)
    rw [mod_eq_of_lt hsmall]
    have hzero : pool.mNextAllocationOffset = 0 →
        roundUp 32 pool.mNextAllocationOffset alignment = 0 := by
      intro hnext
      exact eq_zero_of_dvd_of_lt hdvd (by omega)
    exact { h with
      alignment_pos := hpos
      alignment_lt := hsmall
      aligned := hdvd
      lastFlush_le := h.lastFlush_le.trans hle
      current := fun b hb => { h.current b hb with
        idle := fun hnil => hzero ((h.current b hb).idle hnil) }
      noCurrent := fun hnone => hzero (h.noCurrent hnone)
      packed := h.packed.mono hle }

theorem sound_new (policy : BufferPoolMemPolicy) (always : Bool) :
    ({ mMemPolicy := policy, mAlwaysAllocateNewBuffer := always } : BufferPool).Sound where
  alignment_pos := one_pos
  alignment_lt := show 1 < 2 ^ 32 by decide
  aligned := dvd_zero _
  lastFlush_le := le_refl 0
  size_le := fun _ => zero_le _
  size_of_nil := fun _ _ => rfl
  current := fun b hb => by contradiction
  noCurrent := fun _ => rfl
  inFlight := fun b hb => by contradiction
  free := fun b hb => by contradiction
  counted := fun hmax => absurd hmax (lt_irrefl 0)
  packed := .of_nil rfl (fun hfree => by contradiction) 0
  flushed := fun r hr => by contradiction
  past := fun t ht => by contradiction

instance (pool : BufferPool) (sizeInBytes : Nat) : Decidable (pool.MayAllocate sizeInBytes) :=
  match hbuffer : pool.mBuffer with
  | none => .isTrue fun buffer hsome => by
      rw [hbuffer] at hsome
      contradiction
  | some buffer =>
      decidable_of_iff ((pool.heap buffer).hasBuffer ∨
          pool.needsNewBuffer (roundUp 64 sizeInBytes pool.mAlignment) ∧
            pool.mMaxBuffers = 0) ⟨
        fun hmay b hb => Option.some.inj (hbuffer.symm.trans hb) ▸ hmay,
        fun hmay => hmay buffer hbuffer⟩

instance (heap : Nat → Buffer) (mBuffer : Option Nat) (inFlight free : List Nat)
    (mBuffersAllocated : Nat) : Decidable (Counted heap mBuffer inFlight free mBuffersAllocated) :=
  decidable_of_iff (mBuffersAllocated =
      (inFlight.length + free.length + currentCount heap mBuffer) % 2 ^ 64 ∧
      (∀ buffer ∈ inFlight, (heap buffer).hasBuffer) ∧
      ∀ buffer ∈ free, (heap buffer).hasBuffer)
    ⟨fun h => ⟨h.1, h.2.1, h.2.2⟩, fun h => ⟨h.allocated, h.inFlight, h.free⟩⟩

end BufferPool

namespace PoolSystem

open LabelledRun BufferPool

def initial (d : Device) (policy : BufferPoolMemPolicy) (always : Bool) : PoolSystem where
  device := d
  pool := { mMemPolicy := policy, mAlwaysAllocateNewBuffer := always }

/-- A new alignment and the next offset rounded up to it fit into 32 bits. -/
def AlignmentFits (s : PoolSystem) (alignment : Nat) : Prop :=
  alignment = s.pool.mAlignment ∨
    alignment < 2 ^ 32 ∧ s.pool.mNextAllocationOffset + alignment ≤ 2 ^ 32

/-- A maximum of buffers is set only while the buffers are counted right. -/
def Allowed (s : PoolSystem) : Action → Prop
  | .initializePool _ alignment maxBuffers => s.AlignmentFits alignment ∧
      (maxBuffers = 0 ∨ Counted s.pool.heap s.pool.mBuffer s.pool.mInFlightBuffers
        s.pool.mBufferFreeList s.pool.mBuffersAllocated)
  | .updateAlignment alignment => s.AlignmentFits alignment
  | .allocate sizeInBytes _ _ => s.pool.MayAllocate sizeInBytes
  | _ => True

instance (s : PoolSystem) : (a : Action) → Decidable (s.Allowed a)
  | .initializePool _ _ _ => inferInstanceAs (Decidable ((_ ∨ _) ∧ (_ ∨ _)))
  | .updateAlignment _ => inferInstanceAs (Decidable (_ ∨ _))
  | .allocate _ _ _ => inferInstanceAs (Decidable (BufferPool.MayAllocate _ _))
  | .commit => .isTrue trivial
  | .releaseInFlightBuffers => .isTrue trivial
  | .useByGPU _ _ _ => .isTrue trivial
  | .completeCommandBuffer _ => .isTrue trivial

structure Sound (s : PoolSystem) : Prop where
  pool : s.pool.Sound
  device : s.device.maxBufferLength ≤ 2 ^ 32

theorem sound_step {s t : PoolSystem} {a : Action} (h : s.Sound) (hallowed : s.Allowed a)
    (hstep : step s a = some t) : t.Sound := by
  cases a with
  | initializePool initialSize alignment maxBuffers =>
    obtain ⟨⟨-, hpos⟩, ⟨⟩⟩ := ite_none_right_eq_some.mp hstep
    have hinitialized : { s.pool with
        mInitialSize := initialSize
        mMaxBuffers := maxBuffers }.Sound := { h.pool with
      counted := fun hmax => hallowed.2.resolve_left (ne_of_gt hmax) }
    exact ⟨sound_updateAlignment hinitialized alignment hpos hallowed.1, h.device⟩
  | allocate sizeInBytes wantPtr newMemory =>
      obtain ⟨hsmall, ⟨⟩⟩ := ite_none_right_eq_some.mp hstep
      have hserves := serves_allocate h.pool (.inl h.device) hallowed hsmall wantPtr newMemory
      exact ⟨hserves.sound, hserves.device.trans_le h.device⟩
  | commit =>
      cases hstep
      exact ⟨sound_commit h.pool, h.device⟩
  | releaseInFlightBuffers =>
      cases hstep
      exact ⟨sound_releaseInFlightBuffers h.pool s.device, h.device⟩
  | updateAlignment alignment =>
      obtain ⟨hpos, ⟨⟩⟩ := ite_none_right_eq_some.mp hstep
      exact ⟨sound_updateAlignment h.pool alignment hpos hallowed, h.device⟩
  | useByGPU buffer serial writing =>
      cases hstep
      exact ⟨h.pool.updateBuffer (f := (·.setUsedByCommandBufferWithQueueSerial serial writing))
        buffer ⟨rfl, rfl⟩ rfl, h.device⟩
  | completeCommandBuffer serial =>
      cases hstep
      exact ⟨h.pool, h.device⟩

theorem sound_run {d : Device} {policy : BufferPoolMemPolicy} {always : Bool}
    (hmax : d.maxBufferLength ≤ 2 ^ 32) {acts : List Action} {s : PoolSystem}
    (hrun : Run step Allowed (initial d policy always) acts s) : s.Sound :=
  hrun.invariant (fun _ _ _ (hs : PoolSystem.Sound _) hallowed hstep =>
      sound_step hs hallowed hstep)
    ⟨sound_new policy always, hmax⟩

/-- After every run of allowed calls the regions of each buffer are disjoint, aligned and inside,
buffers from the free list are not in use by the GPU, every region of a buffer that has left the
current slot is flushed, and the next call of `allocate` finds or makes the buffer that it hands
out. -/
theorem run_safe (d : Device) (policy : BufferPoolMemPolicy) (always : Bool)
    (hmax : d.maxBufferLength ≤ 2 ^ 32) {acts : List Action} {s : PoolSystem}
    (hrun : Run step Allowed (initial d policy always) acts s) :
    s.pool.tenure.Safe ∧ (∀ t ∈ s.pool.past, t.Safe ∧ t.Flushed) ∧
      ∀ sizeInBytes wantPtr newMemory result device pool,
        s.Allowed (.allocate sizeInBytes wantPtr newMemory) →
        step s (.allocate sizeInBytes wantPtr newMemory) = some ⟨device, pool⟩ →
        s.pool.allocate s.device sizeInBytes wantPtr newMemory = (result, device, pool) →
        result ≠ .error .emptyFreeList ∧ ∀ allocation, result = .ok allocation →
          pool.mBuffer = some allocation.buffer ∧ ∃ earlier, pool.tenure.regions =
            ⟨allocation.offset, sizeInBytes, s.pool.mAlignment, wantPtr⟩ :: earlier := by
  have hs := sound_run hmax hrun
  refine ⟨hs.pool.packed.safe, hs.pool.past, ?_⟩
  intro sizeInBytes wantPtr newMemory result device pool hallowed hstep hallocate
  obtain ⟨hsmall, -⟩ := ite_none_right_eq_some.mp hstep
  have hserves := serves_allocate hs.pool (.inl hs.device) hallowed hsmall wantPtr newMemory
  rw [hallocate] at hserves
  refine ⟨fun hempty => ?_, hserves.region⟩
  exact PoolFault.noConfusion (hserves.fault_eq .emptyFreeList hempty)

def desktop : Device where
  isMacOS := true
  forceBufferGPUStorage := false
  hasUnifiedMemory := false
  maxBufferLength := 2 ^ 32

def zeroMemory : Memory := fun _ => 0

def turnActions : List Action :=
  [.initializePool 64 4 2, .allocate 10 true (some zeroMemory), .commit,
    .allocate 7 true none, .updateAlignment 16, .allocate 16 false none, .useByGPU 0 1 false,
    .allocate 40 true (some zeroMemory), .allocate 30 true none, .completeCommandBuffer 1,
    .releaseInFlightBuffers, .allocate 60 true none]

theorem run_safe_turns : ∃ s, Run step Allowed (initial desktop .Auto false) turnActions s ∧
    s.pool.tenure.fromFreeList = true ∧ s.pool.past.length = 3 ∧ s.pool.tenure.Safe ∧
      ∀ t ∈ s.pool.past, t.Safe ∧ t.Flushed := by
  obtain ⟨s, hexec, hfree, hpast⟩ : ∃ s, exec (checked step fun s a => decide (s.Allowed a))
      (initial desktop .Auto false) turnActions = some s ∧
      s.pool.tenure.fromFreeList = true ∧ s.pool.past.length = 3 := ⟨_, rfl, rfl, rfl⟩
  have hrun := Run.of_exec_checked _ (fun _ _ => of_decide_eq_true) hexec
  obtain ⟨hcurrent, hsafe, -⟩ := run_safe desktop .Auto false (le_refl _) hrun
  exact ⟨s, hrun, hfree, hpast, hcurrent, hsafe⟩

def wrapActions : List Action :=
  [.initializePool (2 ^ 32) 1 0, .allocate (2 ^ 32 - 2) false (some zeroMemory),
    .updateAlignment 4, .allocate 4 false none]

def failureActions : List Action :=
  [.initializePool 1000 4 0, .allocate 100 false none, .allocate 100 false none]

theorem not_safe_after_wrap_or_failure :
    (∃ s, Run step anyStep (initial desktop .Auto false) wrapActions s ∧
      ¬ s.pool.tenure.regions.Pairwise Region.Disjoint) ∧
    ∃ s, Run step anyStep (initial desktop .Auto false) failureActions s ∧
      ∃ r ∈ s.pool.tenure.regions, s.pool.tenure.bufferSize < r.endOffset := by
  obtain ⟨s, hexec, hregions⟩ : ∃ s, exec step (initial desktop .Auto false) wrapActions = some s ∧
      s.pool.tenure.regions = [⟨0, 4, 4, false⟩, ⟨0, 2 ^ 32 - 2, 1, false⟩] := ⟨_, rfl, rfl⟩
  obtain ⟨t, hexec', hregions', hsize⟩ : ∃ t, exec step (initial desktop .Auto false)
      failureActions = some t ∧ t.pool.tenure.regions = [⟨0, 100, 4, false⟩] ∧
      t.pool.tenure.bufferSize = 0 := ⟨_, rfl, rfl, rfl⟩
  refine ⟨⟨s, .of_exec hexec, ?_⟩, t, .of_exec hexec', ⟨0, 100, 4, false⟩, ?_, ?_⟩
  · rw [hregions]
    intro hdisjoint
    rcases (pairwise_pair.mp hdisjoint) with h | h
    · exact absurd h (by decide)
    · exact absurd h (by decide)
  · rw [hregions']
    exact mem_singleton_self _
  · rw [hsize]
    decide

end PoolSystem

end MetalAngle.Metal
