import MetalAngle.Lib.LabelledRun
import Mathlib.Tactic

/-!
# `CommandQueue`: command buffer serials and the threads that wait for them

The queue hands out serials, remembers the command buffers that are still in flight
and is used by any number of threads.  Each region that holds `mLock` is one step;
between two such steps any other thread, the GPU or a completion handler may run.

A native command buffer is named by the serial it was created with, and the GPU
finishes command buffers in the order in which they were enqueued, which is the order
of their serials because `makeMetalCommandBuffer` enqueues under the lock.
-/

namespace MetalAngle.Metal

structure CommandQueue where
  mMetalCmdBuffers : List Nat := []
  mMetalCmdBuffersTmp : List Nat := []
  mQueueSerialCounter : Nat := 1
  mCommittedBufferSerial : Nat := 0
  mCompletedBufferSerial : Nat := 0

/-- `isResourceBeingUsedByGPU`, for a resource with the given `cmdBufferQueueSerial`. -/
def CommandQueue.isResourceBeingUsedByGPU (q : CommandQueue) (cmdBufferQueueSerial : Nat) :
    Bool :=
  decide (q.mCompletedBufferSerial < cmdBufferQueueSerial)

/-- The locked part of `makeMetalCommandBuffer`: take a serial and enqueue. -/
def CommandQueue.makeMetalCommandBuffer (q : CommandQueue) : Nat × CommandQueue :=
  (q.mQueueSerialCounter,
    { q with
      mQueueSerialCounter := q.mQueueSerialCounter + 1
      mMetalCmdBuffers := q.mMetalCmdBuffers ++ [q.mQueueSerialCounter] })

def CommandQueue.onCommandBufferCommitted (q : CommandQueue) (serial : Nat) : CommandQueue :=
  { q with mCommittedBufferSerial := max q.mCommittedBufferSerial serial }

/-- The loop of `onCommandBufferCompleted`: pop the front while its serial is covered. -/
def popCompleted (serial : Nat) : List Nat → List Nat
  | [] => []
  | front :: rest => if front ≤ serial then popCompleted serial rest else front :: rest

def CommandQueue.onCommandBufferCompleted (q : CommandQueue) (serial : Nat) : CommandQueue :=
  if q.mCompletedBufferSerial ≥ serial then
    q  -- already handled
  else
    { q with
      mMetalCmdBuffers := popCompleted serial q.mMetalCmdBuffers
      mCompletedBufferSerial := max q.mCompletedBufferSerial serial }

/-- The locked part of `finishAllCommands`: move every entry to the temporary list. -/
def CommandQueue.moveToTmp (q : CommandQueue) : CommandQueue :=
  { q with
    mMetalCmdBuffersTmp := q.mMetalCmdBuffersTmp ++ q.mMetalCmdBuffers
    mMetalCmdBuffers := [] }

namespace QueueThreads

/-- The life of a command buffer as `CommandBuffer::commitImpl` drives it:
`onCommandBufferCommitted` first, the native commit after it. -/
inductive BufferStatus
  | encoding
  | committing
  | committed
deriving DecidableEq

inductive ThreadState
  | idle
  /-- In `ensureResourceReadyForCPU`, about to take the lock and test the loop condition. -/
  | ensuring (resource : Nat)
  /-- In `ensureResourceReadyForCPU`, waiting without the lock for the entry it popped. -/
  | waiting (resource serial : Nat)
  /-- In the second loop of `finishAllCommands`, at this index of `mMetalCmdBuffersTmp`. -/
  | finishing (index : Nat)

structure State where
  queue : CommandQueue := {}
  /-- `cmdBufferQueueSerial` of each resource. -/
  resourceSerial : Nat → Nat := fun _ => 0
  threads : Nat → ThreadState := fun _ => .idle
  status : Nat → BufferStatus := fun _ => .encoding
  /-- Every command buffer with a serial up to this one has finished on the GPU. -/
  gpuCompleted : Nat := 0
  /-- The completed handlers that have not run yet. -/
  handlers : List Nat := []

inductive Action
  | makeMetalCommandBuffer
  /-- `setReadDependency` / `setWriteDependency` of an uncommitted command buffer. -/
  | setUsedByCommandBufferWithQueueSerial (resource serial : Nat)
  | resetResource (resource : Nat)
  | onCommandBufferCommitted (serial : Nat)
  | commit (serial : Nat)
  | gpuComplete
  | onCommandBufferCompleted (serial : Nat)
  | ensureBegin (thread resource : Nat)
  | ensureTest (thread : Nat)
  | ensureWaited (thread : Nat)
  | finishBegin (thread : Nat)
  | finishWaited (thread : Nat)
  | finishEnd (thread : Nat)

def State.setThread (s : State) (thread : Nat) (t : ThreadState) : State :=
  { s with threads := Function.update s.threads thread t }

/-- One turn of the loop in `ensureResourceReadyForCPU`, from taking the lock to releasing
it: pop the front entry and go to wait for it, or leave the loop and return. -/
def State.ensureTest (s : State) (thread resource : Nat) : State :=
  if s.queue.isResourceBeingUsedByGPU (s.resourceSerial resource) then
    match s.queue.mMetalCmdBuffers with
    | front :: rest =>
        State.setThread { s with queue := { s.queue with mMetalCmdBuffers := rest } } thread
          (.waiting resource front)
    | [] => s.setThread thread .idle
  else
    s.setThread thread .idle

/-- One step of a thread, the GPU or a completion handler; `none` when it cannot run now. -/
def step (s : State) : Action → Option State
  | .makeMetalCommandBuffer =>
      let (serial, queue) := s.queue.makeMetalCommandBuffer
      some { s with queue, handlers := s.handlers ++ [serial] }
  | .setUsedByCommandBufferWithQueueSerial resource serial =>
      if 0 < serial ∧ serial < s.queue.mQueueSerialCounter ∧ s.status serial = .encoding then
        some { s with
          resourceSerial :=
            Function.update s.resourceSerial resource (max (s.resourceSerial resource) serial) }
      else none
  | .resetResource resource =>
      some { s with resourceSerial := Function.update s.resourceSerial resource 0 }
  | .onCommandBufferCommitted serial =>
      if 0 < serial ∧ serial < s.queue.mQueueSerialCounter ∧ s.status serial = .encoding then
        some { s with
          queue := s.queue.onCommandBufferCommitted serial
          status := Function.update s.status serial .committing }
      else none
  | .commit serial =>
      if s.status serial = .committing then
        some { s with status := Function.update s.status serial .committed }
      else none
  | .gpuComplete =>
      -- in enqueue order, and only what has been committed
      if s.status (s.gpuCompleted + 1) = .committed then
        some { s with gpuCompleted := s.gpuCompleted + 1 }
      else none
  | .onCommandBufferCompleted serial =>
      if serial ∈ s.handlers ∧ serial ≤ s.gpuCompleted then
        some { s with
          queue := s.queue.onCommandBufferCompleted serial
          handlers := s.handlers.erase serial }
      else none
  | .ensureBegin thread resource =>
      match s.threads thread with
      | .idle => some (s.setThread thread (.ensuring resource))
      | _ => none
  | .ensureTest thread =>
      match s.threads thread with
      | .ensuring resource => some (s.ensureTest thread resource)
      | _ => none
  | .ensureWaited thread =>
      match s.threads thread with
      | .waiting resource serial =>
          if serial ≤ s.gpuCompleted then some (s.setThread thread (.ensuring resource)) else none
      | _ => none
  | .finishBegin thread =>
      match s.threads thread with
      | .idle => some (State.setThread { s with queue := s.queue.moveToTmp } thread (.finishing 0))
      | _ => none
  | .finishWaited thread =>
    match s.threads thread with
    | .finishing index =>
      match s.queue.mMetalCmdBuffersTmp[index]? with
      | some serial =>
          if serial ≤ s.gpuCompleted then
            some (s.setThread thread (.finishing (index + 1)))
          else none
      | none => none
    | _ => none
  | .finishEnd thread =>
    match s.threads thread with
    | .finishing index =>
        if s.queue.mMetalCmdBuffersTmp.length ≤ index then
          some (State.setThread { s with queue := { s.queue with mMetalCmdBuffersTmp := [] } }
            thread .idle)
        else none
    | _ => none

/-- The queue as `CommandQueue` is constructed, before any thread has used it. -/
def initial : State := {}

end QueueThreads

end MetalAngle.Metal
