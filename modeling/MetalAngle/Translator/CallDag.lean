import Mathlib.Data.List.Sort

/-!
# Call graphs of shaders

`CallDAG` collects the functions of a shader with the functions they call, and gives the defined ones
indices such that a callee comes before its callers.  The compiler checks the depth of the calls on
it, finds the functions that are used and prunes the others.
-/

namespace MetalAngle.Translator.CallDag

structure TFunction where
  uniqueId : Nat
  name : String
  isUserDefined : Bool

def TFunction.isMain (f : TFunction) : Bool := f.isUserDefined && f.name = "main"

inductive TIntermNode
  | callFunctionInAST (function : TFunction) (arguments : List TIntermNode)
  | other (children : List TIntermNode)

structure TIntermFunctionDefinition where
  getFunction : TFunction
  getBody : TIntermNode

inductive TopLevel
  | functionDefinition (node : TIntermFunctionDefinition)
  | functionPrototype (getFunction : TFunction)
  | other (node : TIntermNode)

structure CreatorFunctionData where
  callees : List Nat := []
  definitionNode : Option TIntermFunctionDefinition := none
  index : Nat := 0
  indexAssigned : Bool := false
  visiting : Bool := false

/-- The functions by their ids; `keys` are those that `mFunctions` has, in order. -/
structure CallDAGCreator where
  keys : List Nat := []
  mFunctions : Nat → CreatorFunctionData := fun _ => {}
  mCurrentFunction : Option Nat := none
  mCurrentIndex : Nat := 0

inductive InitResult
  | INITDAG_SUCCESS
  | INITDAG_RECURSION
  | INITDAG_UNDEFINED
deriving DecidableEq

structure Record where
  node : Option TIntermFunctionDefinition := none
  callees : List Nat := []

structure CallDAG where
  mRecords : List Record := []
  mFunctionIdToIndex : Nat → Option Nat := fun _ => none

/-- `insert` of a set of records, which are ordered by where they lie. -/
def insertCallee (address : Nat → Nat) (callee : Nat) (callees : List Nat) : List Nat :=
  if callee ∈ callees then callees
  else callees.orderedInsert (fun a b => address a ≤ address b) callee

namespace CallDAGCreator

variable (c : CallDAGCreator)

def modify (id : Nat) (change : CreatorFunctionData → CreatorFunctionData) : CallDAGCreator :=
  { c with mFunctions := Function.update c.mFunctions id (change (c.mFunctions id)) }

def touch (id : Nat) : CallDAGCreator :=
  { c with keys := if id ∈ c.keys then c.keys else c.keys.orderedInsert (· ≤ ·) id }

def visitAggregate (address : Nat → Nat) (function : TFunction) : Option CallDAGCreator :=
  if function.uniqueId ∈ c.keys then
    match c.mCurrentFunction with
    | some current =>
      some (c.modify current fun data =>
        { data with callees := insertCallee address function.uniqueId data.callees })
    | none => some c
  else none

end CallDAGCreator

mutual

def TIntermNode.traverse (address : Nat → Nat) : TIntermNode → CallDAGCreator →
    Option CallDAGCreator
  | .callFunctionInAST function arguments, c => do
    let c ← c.visitAggregate address function
    TIntermNode.traverseAll address arguments c
  | .other children, c => TIntermNode.traverseAll address children c

def TIntermNode.traverseAll (address : Nat → Nat) : List TIntermNode → CallDAGCreator →
    Option CallDAGCreator
  | [], c => some c
  | node :: rest, c => do
    let c ← node.traverse address c
    TIntermNode.traverseAll address rest c

end

namespace CallDAGCreator

variable (c : CallDAGCreator)

def visitFunctionDefinition (address : Nat → Nat) (node : TIntermFunctionDefinition) :
    Option CallDAGCreator := do
  let id := node.getFunction.uniqueId
  let c := (c.touch id).modify id fun data => { data with definitionNode := some node }
  let c ← node.getBody.traverse address { c with mCurrentFunction := some id }
  some { c with mCurrentFunction := none }

def visitTopLevel (address : Nat → Nat) : TopLevel → Option CallDAGCreator
  | .functionDefinition node => c.visitFunctionDefinition address node
  | .functionPrototype getFunction => some (c.touch getFunction.uniqueId)
  | .other node => node.traverse address c

def pushCallees : List Nat → List Nat → List Nat × Bool
  | [], functionsToProcess => (functionsToProcess, false)
  | callee :: rest, functionsToProcess =>
    if (c.mFunctions callee).visiting then (callee :: functionsToProcess, true)
    else pushCallees rest (callee :: functionsToProcess)

def process (function : Nat) (others : List Nat) :
    CallDAGCreator × List Nat × Option InitResult :=
  let data := c.mFunctions function
  if data.visiting then
    ({ c.modify function (fun data =>
        { data with visiting := false, index := c.mCurrentIndex, indexAssigned := true }) with
      mCurrentIndex := c.mCurrentIndex + 1 }, others, none)
  else if data.definitionNode.isNone then (c, function :: others, some .INITDAG_UNDEFINED)
  else if data.indexAssigned then (c, others, none)
  else
    let c := c.modify function fun data => { data with visiting := true }
    let (functionsToProcess, recursion) := c.pushCallees data.callees (function :: others)
    (c, functionsToProcess, if recursion then some .INITDAG_RECURSION else none)

def processAll : Nat → CallDAGCreator → List Nat → Option (InitResult × CallDAGCreator)
  | _, c, [] => some (.INITDAG_SUCCESS, c)
  | 0, _, _ :: _ => none
  | fuel + 1, c, function :: others =>
    match c.process function others with
    | (c, functionsToProcess, none) => processAll fuel c functionsToProcess
    | (c, _, some error) => some (error, c)

def assignIndicesInternal (fuel : Nat) (root : Nat) : Option (InitResult × CallDAGCreator) :=
  if (c.mFunctions root).indexAssigned then some (.INITDAG_SUCCESS, c) else processAll fuel c [root]

def assignIndices (fuel : Nat) : CallDAGCreator → List Nat → Option (InitResult × CallDAGCreator)
  | c, [] => some (.INITDAG_SUCCESS, c)
  | c, id :: rest =>
    if (c.mFunctions id).definitionNode.isSome then
      match c.assignIndicesInternal fuel id with
      | some (.INITDAG_SUCCESS, c) => assignIndices fuel c rest
      | outcome => outcome
    else assignIndices fuel c rest

/-- One step of the loop of `fillDataStructures`. -/
def fillRecord (dag : CallDAG) (id : Nat) : CallDAG :=
  let data := c.mFunctions id
  match data.definitionNode with
  | none => dag
  | some node =>
    { mRecords := dag.mRecords.set data.index
        { node := some node
          callees := data.callees.map fun callee => (c.mFunctions callee).index }
      mFunctionIdToIndex := Function.update dag.mFunctionIdToIndex id (some data.index) }

def fillDataStructures : CallDAG :=
  c.keys.foldl c.fillRecord { mRecords := List.replicate c.mCurrentIndex {} }

end CallDAGCreator

namespace CallDAG

/-- `CallDAG::init` with a bound on the rounds of its loop; `none` is a bound that is too small or a
call of a function that has no record. -/
def init (address : Nat → Nat) (fuel : Nat) (root : List TopLevel) :
    Option (InitResult × CallDAG) := do
  let creator ← root.foldlM (fun c node => c.visitTopLevel address node) ({} : CallDAGCreator)
  let (result, creator) ← CallDAGCreator.assignIndices fuel creator creator.keys
  some (result, if result = .INITDAG_SUCCESS then creator.fillDataStructures else {})

variable (dag : CallDAG)

def findIndex (id : Nat) : Option Nat := dag.mFunctionIdToIndex id

def getRecordFromIndex (index : Nat) : Record := dag.mRecords.getD index {}

def size : Nat := dag.mRecords.length

def depthOf (depths : Nat → Nat) (record : Record) : Nat :=
  record.callees.foldl (fun depth calleeIndex => max depth (depths calleeIndex + 1)) 0

def checkCallDepthFrom (MaxCallStackDepth : Int) : List Nat → (Nat → Nat) → Bool
  | [], _ => true
  | i :: rest, depths =>
    let depth := depthOf depths (dag.getRecordFromIndex i)
    if MaxCallStackDepth ≤ depth then false
    else checkCallDepthFrom MaxCallStackDepth rest (Function.update depths i depth)

def checkCallDepth (MaxCallStackDepth : Int) : Bool :=
  dag.checkCallDepthFrom MaxCallStackDepth (List.range dag.size) fun _ => 0

def internalTagUsedFunction : Nat → Nat → (Nat → Bool) → Option (Nat → Bool)
  | 0, _, _ => none
  | fuel + 1, index, used =>
    if used index then some used
    else (dag.getRecordFromIndex index).callees.foldlM
      (fun used calleeIndex => internalTagUsedFunction fuel calleeIndex used)
      (Function.update used index true)

/-- The index of `main`, searched from the end. -/
def mainIndex : Option Nat :=
  (List.range dag.size).reverse.find? fun i =>
    (dag.getRecordFromIndex i).node.any (·.getFunction.isMain)

/-- `tagUsedFunctions`: the functions that are used, or `none` without a `main`. -/
def tagUsedFunctions (fuel : Nat) : Option (Option (Nat → Bool)) :=
  match dag.mainIndex with
  | none => some none
  | some i => (dag.internalTagUsedFunction fuel i fun _ => false).map some

/-- `UnusedPredicate`. -/
def isUnused (used : Nat → Bool) (node : TopLevel) : Bool :=
  let func := match node with
    | .functionDefinition node => some node.getFunction
    | .functionPrototype getFunction => some getFunction
    | .other _ => none
  match func with
  | none => false
  | some func =>
    match dag.findIndex func.uniqueId with
    | none => true
    | some callDagIndex => !used callDagIndex

def pruneUnusedFunctions (used : Nat → Bool) (root : List TopLevel) : List TopLevel :=
  root.filter fun node => !dag.isUnused used node

end CallDAG

end MetalAngle.Translator.CallDag
