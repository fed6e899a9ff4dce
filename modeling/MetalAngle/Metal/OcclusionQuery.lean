import MetalAngle.Lib.LabelledRun
import MetalAngle.Metal.RenderCommandEncoder

/-!
# Occlusion queries: the offset pool, the active query and the resolve

A query counts visible samples into 8-byte slots of the pool buffer of the current
render pass.  At the end of the pass the slots of each query are combined into the
query's own result buffer.

The asserts of the source are kept as a ghost flag, and the code goes on after a failed
one as a release build does.  A query is named by a number; memory allocation succeeds.
-/

namespace MetalAngle.Metal

open Function (update)

def kOcclusionQueryResultSize : Nat := 8

/-- The offsets allocated for a query, in bytes: `mNumOffsets` adjacent slots. -/
structure VisibilityBufferOffsetsMtl where
  mStartOffset : Nat := 0
  mNumOffsets : Nat := 0

namespace VisibilityBufferOffsetsMtl

section

variable (o : VisibilityBufferOffsetsMtl)

def isEmpty : Bool := o.mNumOffsets == 0

def front : Nat := o.mStartOffset

def back : Nat :=
  o.mStartOffset + (o.mNumOffsets - 1) * kOcclusionQueryResultSize

def addOffset : VisibilityBufferOffsetsMtl :=
  { o with mNumOffsets := o.mNumOffsets + 1 }

end

end VisibilityBufferOffsetsMtl

/-- `hasBuffer` says whether `mRenderPassResultsPool` has been created, always at its maximal
size.  A null entry of `mAllocatedQueries` is `none`. -/
structure OcclusionQueryPool where
  hasBuffer : Bool := false
  mMaxRenderPassResultsPoolSize : Nat
  mAllocatedQueries : List (Option Nat) := []
  mResetFirstQuery : Bool := false

/-- `initialize`, with `supportsEitherGPUFamily(7, 1)`. -/
def OcclusionQueryPool.initialized (supportsGPUFamily : Bool) : OcclusionQueryPool where
  mMaxRenderPassResultsPoolSize := if supportsGPUFamily then 256 * 1024 else 65528

def OcclusionQueryPool.currentOffset (pool : OcclusionQueryPool) : Nat :=
  pool.mAllocatedQueries.length * kOcclusionQueryResultSize

def OcclusionQueryPool.canAllocateQueryOffset (pool : OcclusionQueryPool) : Bool :=
  pool.hasBuffer &&
    decide (pool.currentOffset + kOcclusionQueryResultSize ≤ pool.mMaxRenderPassResultsPoolSize)

/-- The part of `ContextMtl` that occlusion queries use, with the memory of the GPU. -/
structure OcclusionContext where
  allowBufferReadWrite : Bool
  mOcclusionQueryPool : OcclusionQueryPool
  mRenderEncoder : RenderCommandEncoder := {}
  mOcclusionQuery : Option Nat := none
  /-- `m_drawCallsSinceLastActiveOcclusionQuery`. -/
  drawCalls : Nat := 0
  /-- The allocated offsets of each query. -/
  offsets : Nat → VisibilityBufferOffsetsMtl := fun _ => {}
  /-- The contents of each query's `mVisibilityResultBuffer`. -/
  visibilityResult : Nat → BitVec 64
  /-- The contents of the pool buffer, by slot. -/
  poolResult : Nat → BitVec 64
  /-- The slots that a draw of the current native pass has counted into. -/
  drawnSlots : Nat → Bool := fun _ => false
  assertsHold : Bool := true

namespace OcclusionContext

section

variable (s : OcclusionContext)

/-- `ASSERT(condition)`. -/
def assert (condition : Bool) : OcclusionContext :=
  { s with assertsHold := s.assertsHold && condition }

def deallocateQueryOffset (query : Nat) : OcclusionContext :=
  if (s.offsets query).isEmpty then s
  else
    { s with
      mOcclusionQueryPool := { s.mOcclusionQueryPool with
        mAllocatedQueries := s.mOcclusionQueryPool.mAllocatedQueries.set
          ((s.offsets query).front / kOcclusionQueryResultSize) none }
      offsets := update s.offsets query {} }

def pushQuery (entry : Option Nat) : OcclusionContext :=
  { s with
    mOcclusionQueryPool := { s.mOcclusionQueryPool with
      mAllocatedQueries := s.mOcclusionQueryPool.mAllocatedQueries ++ [entry] } }

/-- `allocateQueryOffset` up to its handling of the first offset of a pass. -/
def allocateNextOffset (query : Nat) (clearOldValue : Bool) :
    OcclusionContext :=
  let s := s.assert (clearOldValue || s.mOcclusionQueryPool.mAllocatedQueries.isEmpty ||
    !(s.offsets query).isEmpty)
  let s := s.assert s.mOcclusionQueryPool.canAllocateQueryOffset
  let currentOffset := s.mOcclusionQueryPool.currentOffset
  let s := if clearOldValue then s.deallocateQueryOffset query else s
  if (s.offsets query).isEmpty then
    { s.pushQuery (some query) with
      offsets := update s.offsets query
        { mStartOffset := currentOffset, mNumOffsets := 1 } }
  else
    -- an additional offset must continue the query's region
    let s := s.assert (currentOffset == (s.offsets query).back + kOcclusionQueryResultSize)
    { s.pushQuery none with
      offsets := update s.offsets query (s.offsets query).addOffset }

def allocateQueryOffset (query : Nat) (clearOldValue : Bool) :
    OcclusionContext :=
  let t := s.allocateNextOffset query clearOldValue
  if s.mOcclusionQueryPool.currentOffset = 0 then
    let t := { t with
      mOcclusionQueryPool := { t.mOcclusionQueryPool with mResetFirstQuery := clearOldValue } }
    if !clearOldValue && !t.allowBufferReadWrite then
      -- an additional offset stores the old value of the query
      t.allocateNextOffset query false
    else t
  else t

def startOcclusionQueryInRenderPass (query : Nat)
    (clearOldValue : Bool) : OcclusionContext :=
  let s := s.assert s.mRenderEncoder.mRecording
  let s := s.allocateQueryOffset query clearOldValue
  { s with
    mRenderEncoder := s.mRenderEncoder.setVisibilityResultMode .Boolean (s.offsets query).back
    drawCalls := 0 }

/-- A draw of the native encoder.  In the boolean mode the first draw that counts into a slot
in a pass overwrites it, and later ones add to it. -/
def nativeDraw (visible : Bool) : OcclusionContext :=
  let encoder := s.mRenderEncoder.ensureMetalEncoderStarted
  let native := encoder.get.getD {}
  if native.visibilityResultMode = .Disabled then { s with mRenderEncoder := encoder }
  else
    let slot := native.visibilityResultOffset / kOcclusionQueryResultSize
    let old := if s.drawnSlots slot then s.poolResult slot else 0
    { s with
      mRenderEncoder := encoder
      poolResult := update s.poolResult slot (old ||| if visible then 1 else 0)
      drawnSlots := update s.drawnSlots slot true }

end

/-- The pipeline of `mNoVisibleFragRenderPipelineCache`. -/
def noVisibleFragPipeline : ObjectId := 0

def drawInvisibleFragments (s : OcclusionContext) : OcclusionContext :=
  let oldRpState := s.mRenderEncoder.mStateCache.renderPipeline
  let s := { s with
    mRenderEncoder := s.mRenderEncoder.setRenderPipelineState (some noVisibleFragPipeline) }
  let s := s.nativeDraw false
  if oldRpState.isSome then
    { s with mRenderEncoder := s.mRenderEncoder.setRenderPipelineState oldRpState }
  else s

def disableActiveOcclusionQueryInRenderPass (s : OcclusionContext) : OcclusionContext :=
  match s.mOcclusionQuery with
  | none => s
  | some query =>
    if (s.offsets query).isEmpty then s
    else
      let s := s.assert s.mRenderEncoder.mRecording
      -- no draw since the current mode was enabled: a dummy draw resets the slot
      let s := if s.drawCalls = 0 then s.drawInvisibleFragments else s
      { s with
        mRenderEncoder :=
          s.mRenderEncoder.setVisibilityResultMode .Disabled (s.offsets query).back }

def combineKernel (kCombineWithExistingResult : Bool) (poolResult : Nat → BitVec 64)
    (startOffset numOffsets : Nat) (finalResult : BitVec 64) : BitVec 64 :=
  (List.range numOffsets).foldl (fun result i => result ||| poolResult (startOffset + i))
    (if kCombineWithExistingResult then finalResult else 0)

def combineVisibilityResult (s : OcclusionContext) (keepOldValue : Bool) (query : Nat) :
    OcclusionContext :=
  let s := s.assert (!(s.offsets query).isEmpty)
  let slot := (s.offsets query).front / kOcclusionQueryResultSize
  let result :=
    if (s.offsets query).mNumOffsets = 1 ∧ keepOldValue = false then s.poolResult slot  -- blit
    else combineKernel keepOldValue s.poolResult slot (s.offsets query).mNumOffsets
      (s.visibilityResult query)
  { s with visibilityResult := update s.visibilityResult query result }

/-- What `resolveVisibilityResults` does for the query at an index of the allocated list. -/
def resolveQuery (s : OcclusionContext) (index query : Nat) : OcclusionContext :=
  if index = 0 then
    if !s.mOcclusionQueryPool.mResetFirstQuery && !s.allowBufferReadWrite then
      -- copy the old value to the first offset of the query
      combineVisibilityResult
        { s with
          poolResult := update s.poolResult
            ((s.offsets query).front / kOcclusionQueryResultSize) (s.visibilityResult query) }
        false query
    else s.combineVisibilityResult (!s.mOcclusionQueryPool.mResetFirstQuery) query
  else s.combineVisibilityResult false query

def resolveFrom (s : OcclusionContext) (index : Nat) : List (Option Nat) → OcclusionContext
  | [] => s
  | none :: rest => resolveFrom s (index + 1) rest
  | some query :: rest => resolveFrom (s.resolveQuery index query) (index + 1) rest

section

variable (s : OcclusionContext)

def resolveVisibilityResults : OcclusionContext :=
  if s.mOcclusionQueryPool.mAllocatedQueries.isEmpty then s
  else
    let queries := s.mOcclusionQueryPool.mAllocatedQueries
    let s := s.resolveFrom 0 queries
    { s with
      offsets := fun query => if some query ∈ queries then {} else s.offsets query
      mOcclusionQueryPool := { s.mOcclusionQueryPool with mAllocatedQueries := [] } }

/-- `endEncoding` for the render encoder; a new native pass counts into fresh slots. -/
def endEncoding : OcclusionContext :=
  if s.mRenderEncoder.mRecording then
    let s := s.disableActiveOcclusionQueryInRenderPass
    let s := { s with mRenderEncoder := s.mRenderEncoder.endEncoding, drawnSlots := fun _ => false }
    s.resolveVisibilityResults
  else s

def getRenderCommandEncoder (desc : RenderPassDesc) : OcclusionContext :=
  if s.mRenderEncoder.mRecording ∧ s.mRenderEncoder.mRenderPassDesc = desc then s
  else
    let s := s.endEncoding
    { s with mRenderEncoder := s.mRenderEncoder.restart true desc }

def ensureOcclusionQueryPoolCapacity : OcclusionContext :=
  if s.mOcclusionQueryPool.canAllocateQueryOffset then s
  else
    let s := s.endEncoding
    { s with mOcclusionQueryPool := { s.mOcclusionQueryPool with hasBuffer := true } }

def onOcclusionQueryBegan (query : Nat) : OcclusionContext :=
  let s := { s with mOcclusionQuery := some query }
  let s := s.ensureOcclusionQueryPoolCapacity
  if s.mRenderEncoder.mRecording then s.startOcclusionQueryInRenderPass query true
  else
    -- resetVisibilityResult
    { s with visibilityResult := update s.visibilityResult query 0 }

def onOcclusionQueryEnded : OcclusionContext :=
  let s := if s.mRenderEncoder.mRecording then s.disableActiveOcclusionQueryInRenderPass else s
  { s with mOcclusionQuery := none }

def restartActiveOcclusionQueryInRenderPass : OcclusionContext :=
  match s.mOcclusionQuery with
  | none => s
  | some query =>
      if (s.offsets query).isEmpty then s
      else s.ensureOcclusionQueryPoolCapacity.startOcclusionQueryInRenderPass query false

def setupDraw (desc : RenderPassDesc) : OcclusionContext :=
  let s := s.getRenderCommandEncoder desc
  let s := match s.mOcclusionQuery with
    | some query =>
        if s.mOcclusionQueryPool.mAllocatedQueries.length = 0 then
          -- still active, and a new render pass has started
          s.startOcclusionQueryInRenderPass query false
        else s
    | none => s
  { s with drawCalls := s.drawCalls + 1 }

end

inductive Action
  | beginQuery (query : Nat)
  | endQuery (query : Nat)
  /-- A draw call, with the pass it draws in and whether any of its samples is visible. -/
  | draw (desc : RenderPassDesc) (visible : Bool)
  /-- A clear or a blit with a draw, under `ScopedDisableOcclusionQuery`. -/
  | drawDisabled (desc : RenderPassDesc) (visible : Bool)
  /-- A pass is started without a draw. -/
  | startRenderPass (desc : RenderPassDesc)
  | endEncoding

def step (s : OcclusionContext) : Action → Option OcclusionContext
  | .beginQuery query =>
      if s.mOcclusionQuery = none then some (s.onOcclusionQueryBegan query) else none
  | .endQuery query =>
      if s.mOcclusionQuery = some query then some s.onOcclusionQueryEnded else none
  | .draw desc visible => some ((s.setupDraw desc).nativeDraw visible)
  | .drawDisabled desc visible =>
      let s := s.getRenderCommandEncoder desc
      let s := s.disableActiveOcclusionQueryInRenderPass
      let s := s.nativeDraw visible
      some s.restartActiveOcclusionQueryInRenderPass
  | .startRenderPass desc => some (s.getRenderCommandEncoder desc)
  | .endEncoding => some s.endEncoding

/-- A context after `initialize`, over any contents of memory. -/
def initial (supportsGPUFamily allowBufferReadWrite : Bool)
    (visibilityResult poolResult : Nat → BitVec 64) : OcclusionContext where
  allowBufferReadWrite
  mOcclusionQueryPool := .initialized supportsGPUFamily
  visibilityResult
  poolResult

end OcclusionContext

end MetalAngle.Metal
