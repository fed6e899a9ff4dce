import MetalAngle.Translator.InsertionQueue

/-!
# Recording insertions during a traversal

`TIntermTraverser` keeps the path from the root to the current node and a stack of the blocks it is
in, each with the position of the child it is at.  `insertStatementsInParentBlock` takes the block
and the position of an insertion from that stack.
-/

namespace MetalAngle.Translator

/-- The nodes whose traversal differs: `leaf` stands for symbols, constants and prototypes. -/
inductive Kind
  | leaf
  | directive
  | block
  | other
deriving DecidableEq

inductive TIntermNode
  | mk (address : Nat) (kind : Kind) (children : List TIntermNode)

structure ParentBlock where
  node : Nat
  pos : Nat

namespace TIntermNode

def address : TIntermNode → Nat
  | mk address _ _ => address

def kind : TIntermNode → Kind
  | mk _ kind _ => kind

def children : TIntermNode → List TIntermNode
  | mk _ _ children => children

mutual

def nodes : TIntermNode → List TIntermNode
  | mk address kind children => mk address kind children :: nodesOf children

def nodesOf : List TIntermNode → List TIntermNode
  | [] => []
  | child :: children => child.nodes ++ nodesOf children

end

def sequence (root : TIntermNode) (address : Nat) : List TIntermNode :=
  match root.nodes.find? fun node => node.address = address ∧ node.kind = .block with
  | none => []
  | some node => node.children

def atPlace : TIntermNode → List Nat → Option TIntermNode
  | node, [] => some node
  | node, i :: place => node.children[i]?.bind fun child => child.atPlace place

def ancestors : TIntermNode → List Nat → List TIntermNode
  | _, [] => []
  | node, i :: place =>
      match node.children[i]? with
      | none => []
      | some child => child.ancestors place ++ [node]

/-- The blocks strictly around a place, the innermost first, with the position of the statement that
the place is in. -/
def enclosingBlocks : TIntermNode → List Nat → List ParentBlock
  | _, [] => []
  | node, i :: place =>
      match node.children[i]? with
      | none => []
      | some child =>
          child.enclosingBlocks place ++ if node.kind = .block then [⟨node.address, i⟩] else []

end TIntermNode

/-- `insertStatementsInParentBlock`: the stack it leaves and the insertion it queues, or none when
an assertion fails.  Both the path and the stack have their last element first. -/
def insertStatementsInParentBlock (mPath : List TIntermNode)
    (mParentBlockStack : List ParentBlock)
    (insertionsBefore insertionsAfter : List TIntermNode) :
    Option (List ParentBlock × NodeInsertMultipleEntry TIntermNode) :=
  match mParentBlockStack with
  | [] => none
  | parentBlock :: below =>
    if mPath.head?.map TIntermNode.address = some parentBlock.node then
      match below with
      | [] => none
      -- the assignment goes through the reference, into the stack
      | second :: _ =>
          some (second :: below, ⟨second.node, second.pos, insertionsBefore, insertionsAfter⟩)
    else
      some (parentBlock :: below,
        ⟨parentBlock.node, parentBlock.pos, insertionsBefore, insertionsAfter⟩)

inductive Visit
  | preVisit
  | inVisit
  | postVisit

inductive Recording
  | inParentBlock (insertionsBefore insertionsAfter : List TIntermNode)
  | inBlockAtPosition (parent position : Nat) (insertionsBefore insertionsAfter : List TIntermNode)

/-- A traverser class: its visit functions return whether to go on, and may queue insertions. -/
structure Visitor (σ : Type*) where
  preVisit : Bool
  inVisit : Bool
  postVisit : Bool
  mMaxAllowedDepth : Nat
  visit : Visit → TIntermNode → σ → Bool × List Recording × σ

/-- A call of `insertStatementsInParentBlock` from the visit of the node at a place, with the path
and the stack it found. -/
structure Event where
  place : List Nat
  mPath : List TIntermNode
  mParentBlockStack : List ParentBlock
  insertionsBefore : List TIntermNode
  insertionsAfter : List TIntermNode

structure TIntermTraverser (σ : Type*) where
  mPath : List TIntermNode := []
  mParentBlockStack : List ParentBlock := []
  mInsertions : List (NodeInsertMultipleEntry TIntermNode) := []
  mMaxDepth : Nat := 0
  state : σ
  events : List Event := []

variable {σ : Type*}

namespace TIntermTraverser

section

variable (t : TIntermTraverser σ)

def incrementDepth (current : TIntermNode) : TIntermTraverser σ :=
  { t with mMaxDepth := max t.mMaxDepth t.mPath.length, mPath := current :: t.mPath }

def decrementDepth : TIntermTraverser σ :=
  { t with mPath := t.mPath.tail }

def pushParentBlock (node : TIntermNode) : TIntermTraverser σ :=
  { t with mParentBlockStack := ⟨node.address, 0⟩ :: t.mParentBlockStack }

def incrementParentBlockPos : TIntermTraverser σ :=
  { t with
    mParentBlockStack := t.mParentBlockStack.modifyHead fun top => { top with pos := top.pos + 1 } }

def popParentBlock : TIntermTraverser σ :=
  { t with mParentBlockStack := t.mParentBlockStack.tail }

end

def record (root : TIntermNode) (place : List Nat) (t : TIntermTraverser σ) :
    Recording → TIntermTraverser σ
  | .inParentBlock before after =>
    let events := t.events ++ [⟨place, t.mPath, t.mParentBlockStack, before, after⟩]
    match insertStatementsInParentBlock t.mPath t.mParentBlockStack before after with
    | none => { t with events }
    | some (stack, insertion) =>
        { t with
          mParentBlockStack := stack
          mInsertions := t.mInsertions ++ [insertion]
          events }
  | .inBlockAtPosition parent position before after =>
      if position < (root.sequence parent).length then
        { t with mInsertions := t.mInsertions ++ [⟨parent, position, before, after⟩] }
      else t

end TIntermTraverser

namespace Visitor

/-- `visit` of a node, with what it queues. -/
def visitNode (v : Visitor σ) (root : TIntermNode) (place : List Nat) (visit : Visit)
    (node : TIntermNode) (t : TIntermTraverser σ) : Bool × TIntermTraverser σ :=
  let (goOn, recordings, state) := v.visit visit node t.state
  (goOn, recordings.foldl (TIntermTraverser.record root place) { t with state })

/-- Whether no `InVisit` follows the traversal of a child: blocks compare with the last child, the
generic traversal counts. -/
def isLast (node child : TIntermNode) (rest : List TIntermNode) : Bool :=
  if node.kind = .block then
    node.children.getLast?.map TIntermNode.address = some child.address
  else rest.isEmpty

mutual

/-- The generic `traverse`, `traverseBlock` and the `traverse` functions of the leaves. -/
def traverse (v : Visitor σ) (root : TIntermNode) :
    TIntermNode → List Nat → TIntermTraverser σ → TIntermTraverser σ
  | .mk address .directive children, place, t =>
      (v.visitNode root place .preVisit (.mk address .directive children) t).2
  | .mk address .leaf children, place, t =>
      let node := .mk address .leaf children
      (v.visitNode root place .preVisit node (t.incrementDepth node)).2.decrementDepth
  | .mk address kind children, place, t =>
    let node := .mk address kind children
    let t := t.incrementDepth node
    if t.mMaxDepth < v.mMaxAllowedDepth then
      let t := if kind = .block then t.pushParentBlock node else t
      let (visit, t) := if v.preVisit then v.visitNode root place .preVisit node t else (true, t)
      let (visit, t) :=
        if visit then v.traverseChildren root node children place 0 t else (false, t)
      let t := if visit && v.postVisit then (v.visitNode root place .postVisit node t).2 else t
      let t := if kind = .block then t.popParentBlock else t
      t.decrementDepth
    else t.decrementDepth

def traverseChildren (v : Visitor σ) (root node : TIntermNode) :
    List TIntermNode → List Nat → Nat → TIntermTraverser σ → Bool × TIntermTraverser σ
  | [], _, _, t => (true, t)
  | child :: rest, place, i, t =>
    let t := v.traverse root child (place ++ [i]) t
    let (visit, t) :=
      if v.inVisit && !isLast node child rest then v.visitNode root place .inVisit node t
      else (true, t)
    let t := if node.kind = .block then t.incrementParentBlockPos else t
    if visit then v.traverseChildren root node rest place (i + 1) t else (false, t)

end

def run (v : Visitor σ) (root : TIntermNode) (state : σ) : TIntermTraverser σ :=
  v.traverse root root [] { state }

end Visitor

end MetalAngle.Translator
