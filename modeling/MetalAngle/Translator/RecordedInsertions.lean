import MetalAngle.Translator.IntermTraverse

/-!
# Where recorded insertions go

While no call has replaced an entry of the stack of blocks, the stack is the list of the blocks
around the current place.  A call replaces one exactly when the path ends in a block.
-/

namespace MetalAngle.Translator

open List Option

namespace TIntermNode

variable {root node child : TIntermNode} {place : List Nat} {i : Nat}

def ownEntry (node : TIntermNode) (pos : Nat) : List ParentBlock :=
  if node.kind = .block then [⟨node.address, pos⟩] else []

def pathFrom (node : TIntermNode) (path : List TIntermNode) : List TIntermNode :=
  if node.kind = .directive then path else node :: path

theorem mem_nodesOf {children : List TIntermNode} :
    node ∈ nodesOf children ↔ ∃ child ∈ children, node ∈ child.nodes := by
  induction children with
  | nil => simp [nodesOf]
  | cons child children ih => simp [nodesOf, ih]

theorem nodes_eq (node : TIntermNode) : node.nodes = node :: nodesOf node.children := by
  cases node
  rfl

theorem self_mem_nodes (node : TIntermNode) : node ∈ node.nodes := by
  rw [nodes_eq]
  exact mem_cons_self

theorem mem_nodes_of_child (hchild : child ∈ root.children) (hnode : node ∈ child.nodes) :
    node ∈ nodesOf root.children :=
  mem_nodesOf.mpr ⟨child, hchild, hnode⟩

theorem mem_nodes_of_atPlace (h : root.atPlace place = some node) : node ∈ root.nodes := by
  induction place generalizing root with
  | nil =>
    obtain rfl := some.inj h
    exact self_mem_nodes root
  | cons i place ih =>
    obtain ⟨child, hchild, hrest⟩ := bind_eq_some_iff.mp h
    rw [nodes_eq]
    apply mem_cons_of_mem
    exact mem_nodes_of_child (mem_of_getElem? hchild) (ih hrest)

theorem atPlace_snoc (root : TIntermNode) (place : List Nat) (i : Nat) :
    root.atPlace (place ++ [i]) = (root.atPlace place).bind fun node => node.children[i]? := by
  induction place generalizing root with
  | nil => simp [atPlace]
  | cons j place ih =>
    rw [cons_append, atPlace, atPlace, bind_assoc]
    simp only [ih]

theorem ancestors_snoc (h : root.atPlace place = some node)
    (hchild : node.children[i]? = some child) :
    root.ancestors (place ++ [i]) = node :: root.ancestors place := by
  induction place generalizing root with
  | nil =>
    cases h
    simp [ancestors, hchild]
  | cons j place ih =>
    obtain ⟨next, hnext, hrest⟩ := bind_eq_some_iff.mp h
    simp only [cons_append, ancestors, hnext]
    rw [ih hrest]
    rfl

theorem enclosingBlocks_snoc (h : root.atPlace place = some node)
    (hchild : node.children[i]? = some child) :
    root.enclosingBlocks (place ++ [i]) = node.ownEntry i ++ root.enclosingBlocks place := by
  induction place generalizing root with
  | nil =>
    cases h
    simp [enclosingBlocks, ownEntry, hchild]
  | cons j place ih =>
    obtain ⟨next, hnext, hrest⟩ := bind_eq_some_iff.mp h
    simp only [cons_append, enclosingBlocks, hnext]
    rw [ih hrest, append_assoc]

/-- Every node of the tree has an address of its own. -/
def SingleParent (root : TIntermNode) : Prop := (root.nodes.map address).Nodup

section

variable (h : root.SingleParent)
include h

theorem SingleParent.address_notMem :
    root.address ∉ (nodesOf root.children).map address := by
  unfold SingleParent at h
  rw [nodes_eq, map_cons, nodup_cons] at h
  exact h.1

theorem SingleParent.of_child (hchild : child ∈ root.children) :
    child.SingleParent := by
  unfold SingleParent at *
  rw [nodes_eq, map_cons, nodup_cons] at h
  apply List.Nodup.sublist _ h.2
  apply List.Sublist.map
  generalize root.children = children at hchild
  induction children with
  | nil => contradiction
  | cons first children ih =>
    rcases mem_cons.mp hchild with rfl | hmem
    · exact sublist_append_left _ _
    · exact (ih hmem).trans (sublist_append_right _ _)

/-- The blocks around a place are other nodes than the one there. -/
theorem SingleParent.ne_address (hnode : root.atPlace place = some node) :
    ∀ block ∈ root.enclosingBlocks place, block.node ≠ node.address := by
  induction place generalizing root with
  | nil =>
    intro block hblock
    contradiction
  | cons i place ih =>
    obtain ⟨child, hchild, hrest⟩ := bind_eq_some_iff.mp hnode
    have hmem := mem_of_getElem? hchild
    intro block hblock
    simp only [enclosingBlocks, hchild, mem_append] at hblock
    rcases hblock with hinner | hself
    · exact ih (h.of_child hmem) hrest block hinner
    · split at hself
      case isTrue =>
        obtain rfl := mem_singleton.mp hself
        intro heq
        apply h.address_notMem
        rw [show root.address = node.address from heq]
        exact mem_map_of_mem (mem_nodes_of_child hmem (mem_nodes_of_atPlace hrest))
      case isFalse => contradiction

theorem SingleParent.sequence_eq (hnode : node ∈ root.nodes)
    (hblock : node.kind = .block) : root.sequence node.address = node.children := by
  unfold sequence
  split
  case h_1 hnone =>
    have hno := find?_eq_none.mp hnone node hnode
    simp [hblock] at hno
  case h_2 found hfound =>
    have hmem := mem_of_find?_eq_some hfound
    have hkey := find?_some hfound
    have haddress : found.address = node.address := (of_decide_eq_true hkey).1
    rw [inj_on_of_nodup_map h hmem hnode haddress]

end

theorem exists_node_of_enclosing {block : ParentBlock}
    (hblock : block ∈ root.enclosingBlocks place) :
    ∃ node ∈ root.nodes, node.kind = .block ∧ node.address = block.node ∧
      block.pos < node.children.length := by
  induction place generalizing root with
  | nil => contradiction
  | cons i place ih =>
    unfold enclosingBlocks at hblock
    split at hblock
    case h_1 => contradiction
    case h_2 child hchild =>
      rcases mem_append.mp hblock with hinner | hself
      · obtain ⟨node, hnode, hrest⟩ := ih hinner
        refine ⟨node, ?_, hrest⟩
        rw [nodes_eq]
        apply mem_cons_of_mem
        exact mem_nodes_of_child (mem_of_getElem? hchild) hnode
      · split at hself
        case isTrue hkind =>
          obtain rfl := mem_singleton.mp hself
          obtain ⟨hlt, -⟩ := List.getElem?_eq_some_iff.mp hchild
          exact ⟨root, root.self_mem_nodes, hkind, rfl, hlt⟩
        case isFalse => contradiction

theorem SingleParent.pos_lt (h : root.SingleParent) :
    ∀ block ∈ root.enclosingBlocks place, block.pos < (root.sequence block.node).length := by
  intro block hblock
  obtain ⟨node, hnode, hkind, haddress, hpos⟩ := exists_node_of_enclosing hblock
  rw [← haddress, h.sequence_eq hnode hkind]
  exact hpos

end TIntermNode

open TIntermNode

/-! ## One call -/

namespace Event

def outcome (e : Event) : Option (List ParentBlock × NodeInsertMultipleEntry TIntermNode) :=
  insertStatementsInParentBlock e.mPath e.mParentBlockStack e.insertionsBefore e.insertionsAfter

/-- The call leaves the stack of blocks unchanged. -/
def KeepsStack (e : Event) : Prop :=
  ∀ stack insertion, e.outcome = some (stack, insertion) → stack = e.mParentBlockStack

/-- The insertion goes to the innermost block strictly around the node, at the statement that the
node is in. -/
def Attached (root : TIntermNode) (e : Event) : Prop :=
  ∀ block ∈ (root.enclosingBlocks e.place).head?, ∃ stack, e.outcome =
    some (stack, ⟨block.node, block.pos, e.insertionsBefore, e.insertionsAfter⟩)

/-- The path of the traverser ends in a block that is inside of another block. -/
def FromBlock (root : TIntermNode) (e : Event) : Prop :=
  (∃ node ∈ e.mPath.head?, node.kind = .block) ∧ root.enclosingBlocks e.place ≠ []

/-- The path and the stack are those of the node at the place. -/
structure Expected (root : TIntermNode) (e : Event) (node : TIntermNode) (pos : Nat) : Prop where
  atPlace : root.atPlace e.place = some node
  mPath : e.mPath = node.pathFrom (root.ancestors e.place)
  mParentBlockStack : e.mParentBlockStack = node.ownEntry pos ++ root.enclosingBlocks e.place

variable {root node : TIntermNode} {pos : Nat} {e : Event}

theorem correct_of_head_ne {node : TIntermNode} (hhead : e.mPath.head? = some node)
    (hstack : e.mParentBlockStack = root.enclosingBlocks e.place)
    (hne : ∀ block ∈ root.enclosingBlocks e.place, block.node ≠ node.address) :
    e.KeepsStack ∧ e.Attached root := by
  unfold KeepsStack Attached outcome insertStatementsInParentBlock
  rw [hhead, hstack]
  cases hblocks : root.enclosingBlocks e.place with
  | nil => simp
  | cons block below =>
    have hdiffer : ¬ (some node).map address = some block.node := by
      have hblock := hne block (by simp [hblocks])
      simpa using Ne.symm hblock
    simp only [hdiffer, if_false]
    constructor
    · intro stack insertion heq
      exact (congrArg Prod.fst (some.inj heq)).symm
    · intro block' hblock'
      cases hblock'
      exact ⟨_, rfl⟩

/-- A call whose path ends in the top block of the stack. -/
theorem not_correct_of_head_eq {node : TIntermNode} {top : ParentBlock} {below : List ParentBlock}
    (hhead : e.mPath.head? = some node) (hstack : e.mParentBlockStack = top :: below)
    (htop : top.node = node.address) (hblocks : root.enclosingBlocks e.place ≠ [])
    (hne : ∀ block ∈ below, block.node ≠ node.address) :
    ¬ (e.KeepsStack ∧ e.Attached root) := by
  rintro ⟨hkeeps, hattached⟩
  obtain ⟨block, hblock⟩ := ne_none_iff_exists'.mp (mt head?_eq_none_iff.mp hblocks)
  obtain ⟨stack, hsome⟩ := hattached block hblock
  have hsame := hkeeps stack _ hsome
  unfold outcome insertStatementsInParentBlock at hsome
  rw [hhead, hstack] at hsome
  simp only [map_some, htop, if_true] at hsome
  cases below with
  | nil => contradiction
  | cons second below =>
    have hfst := congrArg Prod.fst (some.inj hsome)
    rw [hsame, hstack] at hfst
    have hsecond := (cons.inj hfst).1
    apply hne second mem_cons_self
    rw [hsecond, htop]

theorem Expected.correct_iff (h : Expected root e node pos) (hsingle : root.SingleParent) :
    e.KeepsStack ∧ e.Attached root ↔ ¬ e.FromBlock root := by
  obtain ⟨hplace, hpath, hstack⟩ := h
  have hne := hsingle.ne_address hplace
  unfold ownEntry at hstack
  unfold pathFrom at hpath
  by_cases hblock : node.kind = .block
  · rw [if_pos hblock] at hstack
    have hhead : e.mPath.head? = some node := by simp [hpath, hblock]
    by_cases hnone : root.enclosingBlocks e.place = []
    · -- without a block around it the assertion on the size of the stack fails
      apply iff_of_true
      · unfold KeepsStack Attached outcome insertStatementsInParentBlock
        simp [hhead, hstack, hnone]
      · exact fun hfrom => hfrom.2 hnone
    · apply iff_of_false
      · exact not_correct_of_head_eq hhead hstack rfl hnone hne
      · exact not_not_intro ⟨⟨node, hhead, hblock⟩, hnone⟩
  · rw [if_neg hblock, nil_append] at hstack
    by_cases hdirective : node.kind = .directive
    · rw [if_pos hdirective] at hpath
      rcases eq_nil_or_concat' e.place with hroot | ⟨place, i, hconcat⟩
      · have hnone : root.enclosingBlocks e.place = [] := by
          rw [hroot]
          rfl
        apply iff_of_true
        · unfold KeepsStack Attached outcome insertStatementsInParentBlock
          simp [hstack, hnone]
        · exact fun hfrom => hfrom.2 hnone
      -- the path of a directive ends in its parent
      · rw [hconcat, atPlace_snoc] at hplace
        obtain ⟨parent, hparent, hchild⟩ := bind_eq_some_iff.mp hplace
        have hhead : e.mPath.head? = some parent := by
          rw [hpath, hconcat, ancestors_snoc hparent hchild]
          rfl
        have hblocks := enclosingBlocks_snoc hparent hchild
        have hneParent := hsingle.ne_address hparent
        unfold ownEntry at hblocks
        rw [← hconcat] at hblocks
        by_cases hparentBlock : parent.kind = .block
        · rw [if_pos hparentBlock] at hblocks
          have hnone : root.enclosingBlocks e.place ≠ [] := by simp [hblocks]
          apply iff_of_false
          · exact not_correct_of_head_eq hhead (hstack.trans hblocks) rfl hnone hneParent
          · exact not_not_intro ⟨⟨parent, hhead, hparentBlock⟩, hnone⟩
        · rw [if_neg hparentBlock, nil_append] at hblocks
          rw [← hblocks] at hneParent
          apply iff_of_true (correct_of_head_ne hhead hstack hneParent)
          rintro ⟨⟨last, hlast, hkind⟩, -⟩
          cases hhead.symm.trans hlast
          exact hparentBlock hkind
    · have hhead : e.mPath.head? = some node := by simp [hpath, hdirective]
      apply iff_of_true (correct_of_head_ne hhead hstack hne)
      rintro ⟨⟨last, hlast, hkind⟩, -⟩
      cases hhead.symm.trans hlast
      exact hblock hkind

end Event

/-! ## The invariant of the traversal -/

namespace TIntermTraverser

variable {σ : Type*}

/-- The path is as given; and as long as every call has kept the stack, so is the stack, every call
has found the path and the stack of its place, and every insertion is at a statement of its
block. -/
structure Inv (root : TIntermNode) (mPath : List TIntermNode) (stack : List ParentBlock)
    (t : TIntermTraverser σ) : Prop where
  mPath_eq : t.mPath = mPath
  stack_eq : (∀ e ∈ t.events, e.KeepsStack) → t.mParentBlockStack = stack
  expected : ∀ before e after, t.events = before ++ e :: after → (∀ x ∈ before, x.KeepsStack) →
    ∃ node pos, e.Expected root node pos
  placed : (∀ e ∈ t.events, e.KeepsStack) → Placed t.mInsertions root.sequence

variable {root node child : TIntermNode} {place : List Nat} {pos : Nat}
  {path : List TIntermNode} {stack : List ParentBlock} {t : TIntermTraverser σ}

theorem Inv.incrementDepth (h : Inv root path stack t) (node : TIntermNode) :
    Inv root (node :: path) stack (t.incrementDepth node) where
  __ := h
  mPath_eq := congrArg (cons node) h.mPath_eq

theorem Inv.decrementDepth (h : Inv root (node :: path) stack t) :
    Inv root path stack t.decrementDepth where
  __ := h
  mPath_eq := congrArg tail h.mPath_eq

theorem Inv.pushParentBlock (h : Inv root path stack t) (node : TIntermNode) :
    Inv root path (⟨node.address, 0⟩ :: stack) (t.pushParentBlock node) where
  __ := h
  stack_eq := fun hkeeps => by
    unfold TIntermTraverser.pushParentBlock
    rw [h.stack_eq hkeeps]

theorem Inv.incrementParentBlockPos {top : ParentBlock} (h : Inv root path (top :: stack) t) :
    Inv root path (⟨top.node, top.pos + 1⟩ :: stack) t.incrementParentBlockPos where
  __ := h
  stack_eq := fun hkeeps => by
    unfold TIntermTraverser.incrementParentBlockPos
    rw [h.stack_eq hkeeps]
    rfl

theorem Inv.popParentBlock {top : ParentBlock} (h : Inv root path (top :: stack) t) :
    Inv root path stack t.popParentBlock where
  __ := h
  stack_eq := fun hkeeps => congrArg tail (h.stack_eq hkeeps)

/-- The insertion of a call with the expected path and stack is at an enclosing block. -/
theorem exists_block_of_outcome {e : Event} (h : e.Expected root node pos)
    {stack' : List ParentBlock} {insertion : NodeInsertMultipleEntry TIntermNode}
    (houtcome : e.outcome = some (stack', insertion)) :
    ∃ block ∈ root.enclosingBlocks e.place,
      insertion.parent = block.node ∧ insertion.position = block.pos := by
  obtain ⟨-, hpath, hstack⟩ := h
  unfold Event.outcome insertStatementsInParentBlock at houtcome
  unfold ownEntry at hstack
  unfold pathFrom at hpath
  by_cases hblock : node.kind = .block
  · simp only [hblock, if_true, singleton_append, reduceCtorEq, if_false] at hstack hpath
    rw [hstack, hpath] at houtcome
    simp only [head?_cons, map_some, if_true] at houtcome
    split at houtcome
    case h_1 => contradiction
    case h_2 second below heq =>
      obtain ⟨-, rfl⟩ := Prod.mk.inj (some.inj houtcome)
      exact ⟨second, by simp [heq], rfl, rfl⟩
  · rw [if_neg hblock, nil_append] at hstack
    rw [hstack] at houtcome
    split at houtcome
    case h_1 => contradiction
    case h_2 top below heq =>
      split at houtcome
      · split at houtcome
        case h_1 => contradiction
        case h_2 second below' =>
          obtain ⟨-, rfl⟩ := Prod.mk.inj (some.inj houtcome)
          exact ⟨second, by simp [heq], rfl, rfl⟩
      · obtain ⟨-, rfl⟩ := Prod.mk.inj (some.inj houtcome)
        exact ⟨top, by simp [heq], rfl, rfl⟩

theorem placed_append {insertions : List (NodeInsertMultipleEntry TIntermNode)}
    {insertion : NodeInsertMultipleEntry TIntermNode} (h : Placed insertions root.sequence)
    (hlast : insertion.position < (root.sequence insertion.parent).length) :
    Placed (insertions ++ [insertion]) root.sequence := by
  intro other hother
  rcases mem_append.mp hother with hmem | hmem
  · exact h other hmem
  · rw [mem_singleton.mp hmem]
    exact hlast

theorem Inv.record (hsingle : root.SingleParent) (hplace : root.atPlace place = some node)
    (h : Inv root (node.pathFrom (root.ancestors place))
      (node.ownEntry pos ++ root.enclosingBlocks place) t) (recording : Recording) :
    Inv root (node.pathFrom (root.ancestors place))
      (node.ownEntry pos ++ root.enclosingBlocks place) (t.record root place recording) := by
  cases recording with
  | inBlockAtPosition parent position before after =>
    unfold TIntermTraverser.record
    dsimp only
    split
    case isTrue hlt =>
      exact { h with placed := fun hkeeps => placed_append (h.placed hkeeps) hlt }
    case isFalse => exact h
  | inParentBlock before after =>
    obtain ⟨e, he⟩ : ∃ e : Event, e = ⟨place, t.mPath, t.mParentBlockStack, before, after⟩ :=
      ⟨_, rfl⟩
    have hevent : (∀ x ∈ t.events, x.KeepsStack) → e.Expected root node pos := fun hkeeps => by
      rw [he]
      exact ⟨hplace, h.mPath_eq, h.stack_eq hkeeps⟩
    have hexpected : ∀ before e' after, t.events ++ [e] = before ++ e' :: after →
        (∀ x ∈ before, x.KeepsStack) → ∃ node pos, e'.Expected root node pos := by
      intro before e' after heq hkeeps
      rcases eq_nil_or_concat' after with rfl | ⟨init, last, rfl⟩
      · obtain ⟨rfl, hlast⟩ := append_inj' heq rfl
        obtain rfl := singleton_inj.mp hlast
        exact ⟨node, pos, hevent hkeeps⟩
      · rw [← cons_append, ← append_assoc] at heq
        exact h.expected before e' init (append_inj' heq rfl).1 hkeeps
    have houtcome : insertStatementsInParentBlock t.mPath t.mParentBlockStack before after =
        e.outcome := by
      rw [he]
      rfl
    have hinit : (∀ x ∈ t.events ++ [e], x.KeepsStack) →
        (∀ x ∈ t.events, x.KeepsStack) ∧ e.KeepsStack := fun hkeeps =>
      ⟨fun x hx => hkeeps x (mem_append_left _ hx), hkeeps e (by simp)⟩
    unfold TIntermTraverser.record
    dsimp only
    rw [houtcome, ← he]
    split
    case h_1 =>
      exact ⟨h.mPath_eq, fun hkeeps => h.stack_eq (hinit hkeeps).1, hexpected,
        fun hkeeps => h.placed (hinit hkeeps).1⟩
    case h_2 stack' insertion hsome =>
      refine ⟨h.mPath_eq, fun hkeeps => ?_, hexpected, fun hkeeps => ?_⟩
      · obtain ⟨hold, hlast⟩ := hinit hkeeps
        rw [← h.stack_eq hold]
        have hsame := hlast stack' insertion hsome
        rw [he] at hsame
        exact hsame
      · obtain ⟨hold, -⟩ := hinit hkeeps
        apply placed_append (h.placed hold)
        obtain ⟨block, hblock, hparent, hposition⟩ := exists_block_of_outcome (hevent hold) hsome
        rw [hparent, hposition]
        exact hsingle.pos_lt block hblock

theorem Inv.visitNode (hsingle : root.SingleParent) (hplace : root.atPlace place = some node)
    (h : Inv root (node.pathFrom (root.ancestors place))
      (node.ownEntry pos ++ root.enclosingBlocks place) t) (v : Visitor σ) (visit : Visit) :
    Inv root (node.pathFrom (root.ancestors place))
      (node.ownEntry pos ++ root.enclosingBlocks place)
      (v.visitNode root place visit node t).2 := by
  unfold Visitor.visitNode
  obtain ⟨goOn, recordings, state⟩ := v.visit visit node t.state
  dsimp only
  have hstart : Inv root (node.pathFrom (root.ancestors place))
      (node.ownEntry pos ++ root.enclosingBlocks place) { t with state } :=
    { h with }
  generalize { t with state } = start at hstart
  induction recordings generalizing start with
  | nil => exact hstart
  | cons recording recordings ih => exact ih _ (hstart.record hsingle hplace recording)

end TIntermTraverser

namespace Visitor

variable {σ : Type*} {root node : TIntermNode} {place : List Nat}

theorem traverse_inner (v : Visitor σ) (hinner : node.kind = .block ∨ node.kind = .other)
    (t : TIntermTraverser σ) :
    v.traverse root node place t =
      let t := t.incrementDepth node
      if t.mMaxDepth < v.mMaxAllowedDepth then
        let t := if node.kind = .block then t.pushParentBlock node else t
        let (visit, t) := if v.preVisit then v.visitNode root place .preVisit node t else (true, t)
        let (visit, t) :=
          if visit then v.traverseChildren root node node.children place 0 t else (false, t)
        let t := if visit && v.postVisit then (v.visitNode root place .postVisit node t).2 else t
        let t := if node.kind = .block then t.popParentBlock else t
        t.decrementDepth
      else t.decrementDepth := by
  obtain ⟨address, kind, children⟩ := node
  rcases hinner with hkind | hkind
  · obtain rfl : kind = .block := hkind
    rw [traverse]
    · rfl
    · exact Kind.noConfusion
    · exact Kind.noConfusion
  · obtain rfl : kind = .other := hkind
    rw [traverse]
    · rfl
    · exact Kind.noConfusion
    · exact Kind.noConfusion

/-- The traversal of a node with children, from a fact about the loop over them. -/
theorem inv_traverse_inner (v : Visitor σ) (hsingle : root.SingleParent)
    (hinner : node.kind = .block ∨ node.kind = .other) (hplace : root.atPlace place = some node)
    {t : TIntermTraverser σ}
    (h : TIntermTraverser.Inv root (root.ancestors place) (root.enclosingBlocks place) t)
    (hchildren : ∀ t : TIntermTraverser σ,
      TIntermTraverser.Inv root (node.pathFrom (root.ancestors place))
        (node.ownEntry 0 ++ root.enclosingBlocks place) t →
      ∃ pos, TIntermTraverser.Inv root (node.pathFrom (root.ancestors place))
        (node.ownEntry pos ++ root.enclosingBlocks place)
        (v.traverseChildren root node node.children place 0 t).2) :
    TIntermTraverser.Inv root (root.ancestors place) (root.enclosingBlocks place)
      (v.traverse root node place t) := by
  have hpath : node.pathFrom (root.ancestors place) = node :: root.ancestors place := by
    unfold pathFrom
    rw [if_neg]
    rcases hinner with hkind | hkind
    · rw [hkind]
      exact Kind.noConfusion
    · rw [hkind]
      exact Kind.noConfusion
  have hentered := h.incrementDepth node
  have hopened : TIntermTraverser.Inv root (node.pathFrom (root.ancestors place))
      (node.ownEntry 0 ++ root.enclosingBlocks place)
      (if node.kind = .block then (t.incrementDepth node).pushParentBlock node
        else t.incrementDepth node) := by
    rw [hpath]
    unfold ownEntry
    split
    · exact hentered.pushParentBlock node
    · exact hentered
  have hclosed : ∀ {pos : Nat} {t : TIntermTraverser σ},
      TIntermTraverser.Inv root (node.pathFrom (root.ancestors place))
        (node.ownEntry pos ++ root.enclosingBlocks place) t →
      TIntermTraverser.Inv root (root.ancestors place) (root.enclosingBlocks place)
        (if node.kind = .block then t.popParentBlock else t).decrementDepth := by
    intro pos t ht
    rw [hpath] at ht
    unfold ownEntry at ht
    split
    case isTrue hblock =>
      rw [if_pos hblock] at ht
      exact ht.popParentBlock.decrementDepth
    case isFalse hblock =>
      rw [if_neg hblock] at ht
      exact ht.decrementDepth
  rw [traverse_inner v hinner]
  dsimp only
  split
  case isFalse => exact hentered.decrementDepth
  case isTrue =>
    generalize (if node.kind = .block then (t.incrementDepth node).pushParentBlock node
        else t.incrementDepth node) = t₁ at hopened ⊢
    have hpre : TIntermTraverser.Inv root (node.pathFrom (root.ancestors place))
        (node.ownEntry 0 ++ root.enclosingBlocks place)
        (if v.preVisit then v.visitNode root place .preVisit node t₁ else (true, t₁)).2 := by
      split
      · exact hopened.visitNode hsingle hplace v .preVisit
      · exact hopened
    generalize (if v.preVisit then v.visitNode root place .preVisit node t₁ else (true, t₁)) =
      entered at hpre ⊢
    have hloop : ∃ pos, TIntermTraverser.Inv root (node.pathFrom (root.ancestors place))
        (node.ownEntry pos ++ root.enclosingBlocks place)
        (if entered.1 then v.traverseChildren root node node.children place 0 entered.2
          else (false, entered.2)).2 := by
      split
      · exact hchildren _ hpre
      · exact ⟨0, hpre⟩
    obtain ⟨pos, hloop⟩ := hloop
    generalize (if entered.1 then v.traverseChildren root node node.children place 0 entered.2
      else (false, entered.2)) = looped at hloop ⊢
    apply hclosed
    split
    · exact hloop.visitNode hsingle hplace v .postVisit
    · exact hloop

mutual

theorem inv_traverse (v : Visitor σ) (hsingle : root.SingleParent) :
    ∀ (node : TIntermNode) (place : List Nat) (t : TIntermTraverser σ),
      root.atPlace place = some node →
      TIntermTraverser.Inv root (root.ancestors place) (root.enclosingBlocks place) t →
      TIntermTraverser.Inv root (root.ancestors place) (root.enclosingBlocks place)
        (v.traverse root node place t)
  | .mk address .directive children, place, t, hplace, h => by
    have hstart : TIntermTraverser.Inv root
      ((TIntermNode.mk address .directive children).pathFrom (root.ancestors place))
      ((TIntermNode.mk address .directive children).ownEntry 0 ++ root.enclosingBlocks place)
      t := h
    exact hstart.visitNode hsingle hplace v .preVisit
  | .mk address .leaf children, place, t, hplace, h => by
    have hstart : TIntermTraverser.Inv root
      ((TIntermNode.mk address .leaf children).pathFrom (root.ancestors place))
      ((TIntermNode.mk address .leaf children).ownEntry 0 ++ root.enclosingBlocks place)
      (t.incrementDepth (.mk address .leaf children)) := h.incrementDepth _
    exact (hstart.visitNode hsingle hplace v .preVisit).decrementDepth
  | .mk address .block children, place, t, hplace, h =>
    inv_traverse_inner v hsingle (.inl rfl) hplace h fun t ht =>
      inv_traverseChildren v hsingle _ (fun _ => rfl) children place 0 t hplace rfl ht
  | .mk address .other children, place, t, hplace, h =>
    inv_traverse_inner v hsingle (.inr rfl) hplace h fun t ht =>
      inv_traverseChildren v hsingle _ (fun _ => rfl) children place 0 t hplace rfl ht

theorem inv_traverseChildren (v : Visitor σ) (hsingle : root.SingleParent) (node : TIntermNode)
    (hpath : ∀ path, node.pathFrom path = node :: path) :
    ∀ (rest : List TIntermNode) (place : List Nat) (i : Nat) (t : TIntermTraverser σ),
      root.atPlace place = some node → node.children.drop i = rest →
      TIntermTraverser.Inv root (node.pathFrom (root.ancestors place))
        (node.ownEntry i ++ root.enclosingBlocks place) t →
      ∃ pos, TIntermTraverser.Inv root (node.pathFrom (root.ancestors place))
        (node.ownEntry pos ++ root.enclosingBlocks place)
        (v.traverseChildren root node rest place i t).2
  | [], place, i, t, _, _, h => ⟨i, by unfold traverseChildren; exact h⟩
  | child :: rest, place, i, t, hplace, hrest, h => by
    have hchild : node.children[i]? = some child := by
      rw [← head?_drop, hrest]
      rfl
    have hchildPlace : root.atPlace (place ++ [i]) = some child := by
      rw [atPlace_snoc, hplace]
      exact hchild
    have hdone := inv_traverse v hsingle child (place ++ [i]) t hchildPlace (by
      rw [ancestors_snoc hplace hchild, enclosingBlocks_snoc hplace hchild, ← hpath]
      exact h)
    rw [ancestors_snoc hplace hchild, enclosingBlocks_snoc hplace hchild, ← hpath] at hdone
    unfold traverseChildren
    dsimp only
    generalize v.traverse root child (place ++ [i]) t = t₁ at hdone ⊢
    have hvisit : TIntermTraverser.Inv root (node.pathFrom (root.ancestors place))
        (node.ownEntry i ++ root.enclosingBlocks place)
        (if v.inVisit && !isLast node child rest then v.visitNode root place .inVisit node t₁
          else (true, t₁)).2 := by
      split
      · exact hdone.visitNode hsingle hplace v .inVisit
      · exact hdone
    generalize (if v.inVisit && !isLast node child rest then
      v.visitNode root place .inVisit node t₁ else (true, t₁)) = visited at hvisit ⊢
    have hnext : TIntermTraverser.Inv root (node.pathFrom (root.ancestors place))
        (node.ownEntry (i + 1) ++ root.enclosingBlocks place)
        (if node.kind = .block then visited.2.incrementParentBlockPos else visited.2) := by
      unfold ownEntry at hvisit ⊢
      split
      case isTrue hblock =>
        rw [if_pos hblock] at hvisit
        exact hvisit.incrementParentBlockPos
      case isFalse hblock =>
        rw [if_neg hblock] at hvisit
        exact hvisit
    split
    · apply inv_traverseChildren v hsingle node hpath rest place (i + 1) _ hplace _ hnext
      rw [← tail_drop, hrest]
      rfl
    · exact ⟨i + 1, hnext⟩

end

/-- Every call keeps the stack and is attached to the innermost block around its node. -/
def Records (root : TIntermNode) (t : TIntermTraverser σ) : Prop :=
  ∀ e ∈ t.events, e.KeepsStack ∧ e.Attached root

theorem inv_run (v : Visitor σ) (hsingle : root.SingleParent) (state : σ) :
    TIntermTraverser.Inv root [] [] (v.run root state) := by
  apply inv_traverse v hsingle root [] _ rfl
  constructor
  case mPath_eq => rfl
  case stack_eq => exact fun _ => rfl
  case expected =>
    intro before e after heq
    have hlength := congrArg length heq
    simp at hlength
  case placed =>
    intro _ insertion hinsertion
    contradiction

/-- The calls are right as long as no path has ended in a block. -/
theorem records_iff (v : Visitor σ) (hsingle : root.SingleParent) (state : σ) :
    Records root (v.run root state) ↔ ∀ e ∈ (v.run root state).events, ¬ e.FromBlock root := by
  have hinv := inv_run v hsingle state
  generalize v.run root state = t at hinv ⊢
  have hcorrect : ∀ before e after, t.events = before ++ e :: after →
      (∀ x ∈ before, x.KeepsStack) → (e.KeepsStack ∧ e.Attached root ↔ ¬ e.FromBlock root) := by
    intro before e after heq hkeeps
    obtain ⟨node, pos, hexpected⟩ := hinv.expected before e after heq hkeeps
    exact hexpected.correct_iff hsingle
  constructor
  · intro h e he
    obtain ⟨before, after, heq⟩ := append_of_mem he
    apply (hcorrect before e after heq fun x hx => (h x (by simp [heq, hx])).1).mp
    exact h e he
  · intro h
    -- by induction on the calls, the earlier ones have kept the stack
    have hprefix : ∀ before after, t.events = before ++ after →
        ∀ e ∈ before, e.KeepsStack ∧ e.Attached root := by
      intro before
      induction before using reverseRecOn with
      | nil =>
        intro after _ e he
        contradiction
      | append_singleton before e ih =>
        intro after heq x hx
        rw [append_assoc, singleton_append] at heq
        have hearlier := ih (e :: after) heq
        rcases mem_append.mp hx with hmem | hmem
        · exact hearlier x hmem
        · obtain rfl := mem_singleton.mp hmem
          apply (hcorrect before x after heq fun y hy => (hearlier y hy).1).mpr
          exact h x (by simp [heq])
    exact hprefix t.events [] (append_nil _).symm

/-- What `updateTree` makes of the blocks: every child between its statements. -/
def Updates (root : TIntermNode) (t : TIntermTraverser σ) : Prop :=
  ∃ tree, updateTree t.mInsertions root.sequence = some tree ∧
    Surrounded t.mInsertions root.sequence tree

/-- A traversal records every insertion where it belongs and `updateTree` puts every statement where
it belongs, if no call is made while the path ends in a block that is inside of another one, and no
statements are queued after a child before others are queued in front of it.  For statements that
are new to their blocks this is necessary too. -/
theorem run_meets_iff (v : Visitor σ) (root : TIntermNode) (hsingle : root.SingleParent)
    (state : σ) :
    ((∀ e ∈ (v.run root state).events, ¬ e.FromBlock root) ∧
        NoConflict (v.run root state).mInsertions →
      Records root (v.run root state) ∧ Updates root (v.run root state)) ∧
    (Fresh (v.run root state).mInsertions root.sequence →
      (Records root (v.run root state) ∧ Updates root (v.run root state) ↔
        (∀ e ∈ (v.run root state).events, ¬ e.FromBlock root) ∧
          NoConflict (v.run root state).mInsertions)) := by
  have hrecords := records_iff v hsingle state
  have hinv := inv_run v hsingle state
  generalize v.run root state = t at hrecords hinv ⊢
  have hrendered : Records root t → ∃ tree, updateTree t.mInsertions root.sequence = some tree ∧
      Rendered t.mInsertions root.sequence tree ∧ Placed t.mInsertions root.sequence := fun h => by
    have hplaced := hinv.placed fun e he => (h e he).1
    obtain ⟨tree, hupdate, hrendered⟩ := updateTree_rendered hplaced
    exact ⟨tree, hupdate, hrendered, hplaced⟩
  have henough : (∀ e ∈ t.events, ¬ e.FromBlock root) ∧ NoConflict t.mInsertions →
      Records root t ∧ Updates root t := fun ⟨hblocks, hconflict⟩ => by
    have h := hrecords.mpr hblocks
    obtain ⟨tree, hupdate, hrendered, -⟩ := hrendered h
    exact ⟨h, tree, hupdate, hrendered.surrounded hconflict⟩
  refine ⟨henough, fun hfresh => ⟨fun ⟨h, tree, hupdate, hsurrounded⟩ => ?_, henough⟩⟩
  obtain ⟨tree', hupdate', hrendered, hplaced⟩ := hrendered h
  cases hupdate.symm.trans hupdate'
  exact ⟨hrecords.mp h, hrendered.noConflict hplaced hfresh hsurrounded⟩

def preVisitor (recordings : Nat → List Recording) : Visitor Unit where
  preVisit := true
  inVisit := false
  postVisit := false
  mMaxAllowedDepth := 2 ^ 31 - 1
  visit := fun _ node state => (true, recordings node.address, state)

def nestedBlocks : TIntermNode :=
  .mk 0 .block [.mk 1 .other [.mk 2 .block [.mk 3 .leaf [], .mk 4 .leaf []]]]

theorem nestedBlocks_singleParent : nestedBlocks.SingleParent := by
  unfold SingleParent
  decide

/-- Two insertions at the first statement of the inner block and one at the second. -/
theorem run_meets_iff_nested :
    ∃ tree, updateTree ((preVisitor fun address =>
        if address = 3 then [.inParentBlock [.mk 10 .leaf []] [],
          .inBlockAtPosition 2 0 [.mk 11 .leaf []] [.mk 12 .leaf []]]
        else if address = 4 then [.inParentBlock [.mk 13 .leaf []] []]
        else []).run nestedBlocks ()).mInsertions nestedBlocks.sequence = some tree ∧
      (tree 2).map address = [10, 11, 3, 12, 13, 4] := by
  obtain ⟨henough, -⟩ := run_meets_iff (preVisitor fun address =>
      if address = 3 then [.inParentBlock [.mk 10 .leaf []] [],
        .inBlockAtPosition 2 0 [.mk 11 .leaf []] [.mk 12 .leaf []]]
      else if address = 4 then [.inParentBlock [.mk 13 .leaf []] []]
      else []) nestedBlocks nestedBlocks_singleParent ()
  obtain ⟨-, tree, hupdate, hsurrounded⟩ := henough (by
    constructor
    · intro e he hfrom
      obtain ⟨⟨node, hnode, hkind⟩, -⟩ := hfrom
      have hpath : e.mPath.head? = some (.mk 3 .leaf []) ∨
          e.mPath.head? = some (.mk 4 .leaf []) := by
        rcases mem_cons.mp he with rfl | he
        · exact Or.inl rfl
        · obtain rfl := mem_singleton.mp he
          exact Or.inr rfl
      rcases hpath with hpath | hpath
      · cases hnode.symm.trans hpath
        contradiction
      · cases hnode.symm.trans hpath
        contradiction
    · refine pairwise_cons.mpr ⟨fun later _ _ _ => .inl rfl, ?_⟩
      refine pairwise_cons.mpr ⟨fun later hlater _ hposition => ?_, ?_⟩
      · obtain rfl := mem_singleton.mp hlater
        contradiction
      · exact pairwise_singleton _ _)
  refine ⟨tree, hupdate, ?_⟩
  rw [hsurrounded 2]
  rfl

/-- A call from the inner block makes that of its statement go to the outer block; and statements
after a child go in between those that are queued later in front of it. -/
theorem not_records_and_not_updates :
    ¬ Records nestedBlocks ((preVisitor fun address =>
      if address = 2 ∨ address = 3 then [.inParentBlock [.mk 10 .leaf []] []] else []).run
        nestedBlocks ()) ∧
    ¬ Updates nestedBlocks ((preVisitor fun address =>
      if address = 3 then [.inParentBlock [] [.mk 10 .leaf []],
        .inParentBlock [.mk 11 .leaf []] []] else []).run nestedBlocks ()) := by
  constructor
  · intro h
    obtain ⟨first, last, hevents, hplace, hparent⟩ : ∃ first last, ((preVisitor fun address =>
        if address = 2 ∨ address = 3 then [.inParentBlock [.mk 10 .leaf []] []] else []).run
          nestedBlocks ()).events = [first, last] ∧
        (nestedBlocks.enclosingBlocks last.place).head? = some ⟨2, 0⟩ ∧
        last.outcome.map (fun result => result.2.parent) = some 0 := ⟨_, _, rfl, rfl, rfl⟩
    obtain ⟨stack, hsome⟩ := (h last (by simp [hevents])).2 ⟨2, 0⟩ hplace
    simp [hsome] at hparent
  · rintro ⟨tree, hupdate, hsurrounded⟩
    have hplaced : Placed ((preVisitor fun address =>
        if address = 3 then [.inParentBlock [] [.mk 10 .leaf []],
          .inParentBlock [.mk 11 .leaf []] []] else []).run nestedBlocks ()).mInsertions
        nestedBlocks.sequence := by
      intro insertion hinsertion
      rcases mem_cons.mp hinsertion with rfl | hinsertion
      · decide
      · obtain rfl := mem_singleton.mp hinsertion
        decide
    obtain ⟨tree', hupdate', hrendered⟩ := updateTree_rendered hplaced
    cases hupdate.symm.trans hupdate'
    have hsame := congrArg (map address) ((hrendered 2).symm.trans (hsurrounded 2))
    exact absurd hsame (by decide)

end Visitor

end MetalAngle.Translator
