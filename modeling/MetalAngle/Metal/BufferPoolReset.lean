import MetalAngle.Metal.BufferPool

/-!
# Resetting and destroying a `BufferPool`

`reset` puts the current buffer aside and keeps the free buffers for the new requests, or drops
all of them.  `destroy` drops every buffer.
-/

namespace MetalAngle.Metal

namespace BufferPool

/-- `destroyBufferList` of the buffers in flight. -/
def destroyInFlightBuffers (pool : BufferPool) : BufferPool :=
  { pool with
    mBuffersAllocated :=
      (pool.mBuffersAllocated + (2 ^ 64 - pool.mInFlightBuffers.length % 2 ^ 64)) % 2 ^ 64
    mInFlightBuffers := [] }

/-- The private `reset`, of the members only. -/
def resetMembers (pool : BufferPool) : BufferPool :=
  { pool with
    mSize := 0
    mNextAllocationOffset := 0
    mLastFlushOffset := 0
    mMaxBuffers := 0
    mAlwaysAllocateNewBuffer := false
    mBuffersAllocated := 0 }

def destroy (pool : BufferPool) : BufferPool :=
  let pool := pool.destroyInFlightBuffers.destroyFreeList.resetMembers
  match pool.mBuffer with
  | none => pool
  | some buffer => { pool.updateBuffer buffer (·.unmap) with mBuffer := none, tenure := {} }

/-- One round of the loop of `reset`, with the memory that the device has for each buffer.
`Buffer::reset` returns no error: without memory it leaves a nil buffer. -/
def resetFreeBuffer (d : Device) (newMemory : Nat → Option Memory) (pool : BufferPool)
    (buffer : Nat) : BufferPool :=
  if d.isBeingUsedByGPU (pool.heap buffer) then
    pool.updateBuffer buffer fun b =>
      b.reset d (pool.shouldAllocateInSharedMem d) pool.mSize (newMemory buffer)
  else pool

section

variable (pool : BufferPool)

/-- The branch of `reset` that keeps the free buffers, of which `front` is the first. -/
def keepFreeBuffers (d : Device) (front maxBuffers : Nat)
    (newMemory : Nat → Option Memory) : BufferPool :=
  let pool :=
    if maxBuffers ≠ 0 ∧ pool.mBufferFreeList.length > maxBuffers then
      { pool with
        mBufferFreeList := pool.mBufferFreeList.take maxBuffers
        mBuffersAllocated := maxBuffers }
    else pool
  let pool := { pool with mSize := (pool.heap front).size }
  pool.mBufferFreeList.foldl (resetFreeBuffer d newMemory) pool

def dropFreeBuffers : BufferPool :=
  { pool with mBufferFreeList := [], mBuffersAllocated := 0 }

/-- The pool when `reset` looks at the free buffers. -/
def retired (d : Device) : BufferPool :=
  { pool.finalizePendingBuffer.releaseInFlightBuffers d with mSize := 0 }

def reset (d : Device) (initialSize alignment maxBuffers : Nat)
    (newMemory : Nat → Option Memory) : BufferPool :=
  let pool := pool.retired d
  let pool := match pool.mBufferFreeList with
    | [] => pool.dropFreeBuffers
    | front :: _ =>
        if pool.mInitialSize ≤ (pool.heap front).size then
          pool.keepFreeBuffers d front maxBuffers newMemory
        else pool.dropFreeBuffers
  { pool with
    mInitialSize := initialSize
    mMaxBuffers := maxBuffers }.updateAlignment alignment

def setAlwaysAllocateNewBuffer (e : Bool) : BufferPool :=
  { pool with mAlwaysAllocateNewBuffer := e }

def setMemoryPolicy (policy : BufferPoolMemPolicy) : BufferPool :=
  { pool with mMemPolicy := policy }

end

end BufferPool

namespace PoolSystem

inductive Call
  | initializePool (initialSize alignment maxBuffers : Nat)
  /-- With the memory that each buffer gets that has to be replaced. -/
  | reset (initialSize alignment maxBuffers : Nat) (newMemory : Nat → Option Memory)
  | allocate (sizeInBytes : Nat) (wantPtr : Bool) (newMemory : Option Memory)
  | commit
  | releaseInFlightBuffers
  | destroy
  | updateAlignment (alignment : Nat)
  | setAlwaysAllocateNewBuffer (e : Bool)
  | setMemoryPolicy (policy : BufferPoolMemPolicy)
  | useByGPU (buffer serial : Nat) (writing : Bool)
  | completeCommandBuffer (serial : Nat)

/-- One call.  Alignments are positive and `initialize` is called only without buffers, as the
code asserts.  A list holds fewer than 2^64 buffers, and Metal makes no buffer of no bytes. -/
def call (s : PoolSystem) : Call → Option PoolSystem
  | .initializePool initialSize alignment maxBuffers =>
      if s.pool.mBuffersAllocated = 0 ∧ 0 < alignment then
        some { s with pool := s.pool.initializePool initialSize alignment maxBuffers }
      else none
  | .reset initialSize alignment maxBuffers newMemory =>
      if 0 < alignment then
        some { s with pool := s.pool.reset s.device initialSize alignment maxBuffers newMemory }
      else none
  | .allocate sizeInBytes wantPtr newMemory =>
    if s.pool.mInFlightBuffers.length + s.pool.mBufferFreeList.length + 2 < 2 ^ 64 ∧
        (s.pool.mSize = 0 → roundUp 64 sizeInBytes s.pool.mAlignment = 0 → newMemory = none)
    then
      let (_, device, pool) := s.pool.allocate s.device sizeInBytes wantPtr newMemory
      some { device, pool }
    else none
  | .commit => some { s with pool := s.pool.commit }
  | .releaseInFlightBuffers => some { s with pool := s.pool.releaseInFlightBuffers s.device }
  | .destroy => some { s with pool := s.pool.destroy }
  | .updateAlignment alignment =>
      if 0 < alignment then some { s with pool := s.pool.updateAlignment alignment } else none
  | .setAlwaysAllocateNewBuffer e =>
      some { s with pool := s.pool.setAlwaysAllocateNewBuffer e }
  | .setMemoryPolicy policy => some { s with pool := s.pool.setMemoryPolicy policy }
  | .useByGPU buffer serial writing =>
      some { s with
        pool := s.pool.updateBuffer buffer fun b =>
          b.setUsedByCommandBufferWithQueueSerial serial writing }
  | .completeCommandBuffer serial =>
      some { s with device := { s.device with
        cmdQueue := s.device.cmdQueue.onCommandBufferCompleted serial } }

end PoolSystem

end MetalAngle.Metal
