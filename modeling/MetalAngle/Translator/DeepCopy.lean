import Mathlib.Data.List.Basic

/-!
# Copies of a tree

Every class of nodes copies its children in its copy constructor, and a copy of a child that is null
dereferences it.  Declarations, function definitions and prototypes have no copy.
-/

namespace MetalAngle.Translator.DeepCopy

open Option

inductive NodeClass
  | Symbol
  | ConstantUnion
  | Swizzle
  | Binary
  | Unary
  | Aggregate
  | Ternary
  | IfElse
  | Switch
  | Case
  | Loop
  | Branch
  | Block
  | Declaration
  | FunctionDefinition
  | FunctionPrototype
  | InvariantDeclaration
  | PreprocessorDirective
deriving DecidableEq

/-- A node, or a null pointer.  The members of a node are those that are not children: its type, its
operator, its variable or function, and its flags.  The children of a loop are `mInit`, `mCond`,
`mExpr` and `mBody`, and those of an `if` are `mCondition`, `mTrueBlock` and `mFalseBlock`. -/
inductive TIntermNode (Members : Type)
  | null
  | node (address : Nat) (kind : NodeClass) (members : Members)
      (children : List (TIntermNode Members))

variable {Members : Type}

namespace TIntermNode

def isNull : TIntermNode Members → Bool
  | null => true
  | node .. => false

/-- The constructors of `if` and of loops set an empty false block or initial declaration to
null. -/
def isPruned (kind : NodeClass) (index : Nat) : TIntermNode Members → Bool
  | node _ .Block _ [] => kind = .IfElse ∧ index = 2
  | node _ .Declaration _ [] => kind = .Loop ∧ index = 0
  | _ => false

def kept (kind : NodeClass) (index : Nat) (child : TIntermNode Members) : TIntermNode Members :=
  if child.isPruned kind index then null else child

/-- The classes whose `deepCopy` is `UNREACHABLE(); return nullptr;`. -/
def hasNoCopy : NodeClass → Bool
  | .Declaration => true
  | .FunctionDefinition => true
  | .FunctionPrototype => true
  | _ => false

def isTested (kind : NodeClass) (index : Nat) : Bool := kind = .IfElse ∧ index = 2

def fresh : StateT Nat Option Nat := do
  let address ← get
  set (address + 1)
  pure address

mutual

/-- The copy of a node; it fails where a null pointer is dereferenced.  The state is the address of
the next node. -/
def deepCopy : TIntermNode Members → StateT Nat Option (TIntermNode Members)
  | null => StateT.lift none
  | node _ kind members children =>
      if hasNoCopy kind then pure null
      else do
        let address ← fresh
        let copies ← copyChildren kind 0 children
        pure (node address kind members copies)

def copyChildren (kind : NodeClass) :
    Nat → List (TIntermNode Members) → StateT Nat Option (List (TIntermNode Members))
  | _, [] => pure []
  | index, child :: children => do
      let copy ← (if isTested kind index ∧ child.isNull then pure null else deepCopy child)
      let copies ← copyChildren kind (index + 1) children
      pure (copy.kept kind index :: copies)

end

mutual

def addresses : TIntermNode Members → List Nat
  | null => []
  | node address _ _ children => address :: addressesOf children

def addressesOf : List (TIntermNode Members) → List Nat
  | [] => []
  | child :: children => child.addresses ++ addressesOf children

end

mutual

def shape : TIntermNode Members → TIntermNode Members
  | null => null
  | node _ kind members children => node 0 kind members (shapes children)

def shapes : List (TIntermNode Members) → List (TIntermNode Members)
  | [] => []
  | child :: children => child.shape :: shapes children

end

mutual

/-- Every node has a copy, no child that is copied untested is null, and no constructor prunes a
child. -/
def isCopyable : TIntermNode Members → Bool
  | null => false
  | node _ kind _ children => !hasNoCopy kind && areCopyable kind 0 children

def areCopyable (kind : NodeClass) : Nat → List (TIntermNode Members) → Bool
  | _, [] => true
  | index, child :: children =>
      (decide (isTested kind index ∧ child.isNull) ||
        (child.isCopyable && !child.isPruned kind index)) &&
        areCopyable kind (index + 1) children

end

/-- The copy ends without a null pointer dereferenced, is structurally equal to the tree, and shares
no node with it. -/
def Copied (tree : TIntermNode Members) (next : Nat) : Prop :=
  ∃ copy next', tree.deepCopy.run next = some (copy, next') ∧ copy.shape = tree.shape ∧
    ∀ address ∈ copy.addresses, address ∉ tree.addresses

variable {kind : NodeClass} {index : Nat} {child : TIntermNode Members}

theorem addresses_kept_subset
    {address : Nat} (h : address ∈ (child.kept kind index).addresses) :
    address ∈ child.addresses := by
  unfold kept at h
  split at h
  · simp [addresses] at h
  · exact h

theorem deepCopy_node {address : Nat} {members : Members}
    {children : List (TIntermNode Members)} {next : Nat} {result : TIntermNode Members × Nat} :
    (node address kind members children).deepCopy.run next = some result ↔
      (hasNoCopy kind ∧ result = (null, next)) ∨
      (hasNoCopy kind = false ∧ ∃ copies next',
        (copyChildren kind 0 children).run (next + 1) = some (copies, next') ∧
        result = (node next kind members copies, next')) := by
  unfold deepCopy
  cases hkind : hasNoCopy kind with
  | true => simp [eq_comm]
  | false =>
    simp only [Bool.false_eq_true, if_false, false_and, true_and, false_or]
    constructor
    · intro h
      obtain ⟨⟨copies, next'⟩, hcopies, hresult⟩ := bind_eq_some_iff.mp h
      exact ⟨copies, next', hcopies, (some.inj hresult).symm⟩
    · rintro ⟨copies, next', hcopies, rfl⟩
      exact bind_eq_some_iff.mpr ⟨(copies, next'), hcopies, rfl⟩

theorem copyChildren_cons
    {children : List (TIntermNode Members)} {next : Nat}
    {result : List (TIntermNode Members) × Nat} :
    (copyChildren kind index (child :: children)).run next = some result ↔
      ∃ copy next₁ copies next₂, (if isTested kind index ∧ child.isNull then some (null, next)
          else child.deepCopy.run next) = some (copy, next₁) ∧
        (copyChildren kind (index + 1) children).run next₁ = some (copies, next₂) ∧
        result = (copy.kept kind index :: copies, next₂) := by
  have hchild : (if isTested kind index ∧ child.isNull then pure null else child.deepCopy :
      StateT Nat Option (TIntermNode Members)).run next =
      if isTested kind index ∧ child.isNull then some (null, next)
      else child.deepCopy.run next := by
    split
    · rfl
    · rfl
  rw [copyChildren, ← hchild]
  constructor
  · intro h
    obtain ⟨⟨copy, next₁⟩, hcopy, hrest⟩ := bind_eq_some_iff.mp h
    obtain ⟨⟨copies, next₂⟩, hcopies, hresult⟩ := bind_eq_some_iff.mp hrest
    exact ⟨copy, next₁, copies, next₂, hcopy, hcopies, (some.inj hresult).symm⟩
  · rintro ⟨copy, next₁, copies, next₂, hcopy, hcopies, rfl⟩
    refine bind_eq_some_iff.mpr ⟨(copy, next₁), hcopy, ?_⟩
    exact bind_eq_some_iff.mpr ⟨(copies, next₂), hcopies, rfl⟩

mutual

theorem deepCopy_new : ∀ (tree : TIntermNode Members) (next : Nat) (copy : TIntermNode Members)
    (next' : Nat), tree.deepCopy.run next = some (copy, next') →
      next ≤ next' ∧ ∀ address ∈ copy.addresses, next ≤ address
  | null, next, copy, next', h => by
    simp [deepCopy] at h
  | node _ kind members children, next, copy, next', h => by
    rcases deepCopy_node.1 h with ⟨-, hresult⟩ | ⟨-, copies, next₁, hcopies, hresult⟩
    · cases hresult
      simp [addresses]
    · cases hresult
      obtain ⟨hle, hnew⟩ := copyChildren_new kind 0 children _ _ _ hcopies
      refine ⟨by omega, fun address hmem => ?_⟩
      rcases List.mem_cons.1 hmem with rfl | hmem
      · exact Nat.le_refl _
      · exact Nat.le_of_succ_le (hnew address hmem)

theorem copyChildren_new (kind : NodeClass) : ∀ (index : Nat)
    (children : List (TIntermNode Members)) (next : Nat) (copies : List (TIntermNode Members)) (next' : Nat),
    (copyChildren kind index children).run next = some (copies, next') →
      next ≤ next' ∧ ∀ address ∈ addressesOf copies, next ≤ address
  | _, [], next, copies, next', h => by
    cases some.inj h
    simp [addressesOf]
  | index, child :: children, next, copies, next', h => by
    obtain ⟨copy, next₁, rest, next₂, hcopy, hrest, hresult⟩ := copyChildren_cons.1 h
    cases hresult
    obtain ⟨hle', hnew'⟩ := copyChildren_new kind (index + 1) children _ _ _ hrest
    have hfirst : next ≤ next₁ ∧ ∀ address ∈ copy.addresses, next ≤ address := by
      split at hcopy
      · cases hcopy
        simp [addresses]
      · exact deepCopy_new child _ _ _ hcopy
    refine ⟨by omega, fun address hmem => ?_⟩
    rcases List.mem_append.1 hmem with hmem | hmem
    · exact hfirst.2 address (addresses_kept_subset hmem)
    · exact Nat.le_trans hfirst.1 (hnew' address hmem)

end

theorem isPruned_congr {copy : TIntermNode Members}
    (h : copy.shape = child.shape) : copy.isPruned kind index = child.isPruned kind index := by
  cases child with
  | null =>
    cases copy with
    | null => rfl
    | node => simp [shape] at h
  | node address kind' members children =>
    cases copy with
    | null => simp [shape] at h
    | node address' kind'' members' children' =>
      simp only [shape, node.injEq, true_and] at h
      obtain ⟨rfl, -, hchildren⟩ := h
      cases children with
      | nil =>
        cases children' with
        | nil => cases kind'' <;> rfl
        | cons => simp [shapes] at hchildren
      | cons =>
        cases children' with
        | nil => simp [shapes] at hchildren
        | cons => cases kind'' <;> rfl

theorem shape_eq_null {tree : TIntermNode Members} (h : tree.shape = null) : tree = null := by
  cases tree with
  | null => rfl
  | node => simp [shape] at h

/-- What a constructor keeps of a copy is equal to a child that is not null just if the copy is and
is not pruned. -/
theorem shape_kept_iff {copy : TIntermNode Members} (h : child ≠ null) :
    (copy.kept kind index).shape = child.shape ↔
      copy.shape = child.shape ∧ child.isPruned kind index = false := by
  unfold kept
  split
  case isTrue hpruned =>
    constructor
    · intro heq
      exact absurd (shape_eq_null heq.symm) h
    · rintro ⟨heq, hkept⟩
      simp [isPruned_congr heq, hkept] at hpruned
  case isFalse hkept =>
    constructor
    · intro heq
      exact ⟨heq, by rw [← isPruned_congr heq]; simpa using hkept⟩
    · exact fun h => h.1

mutual

theorem deepCopy_iff : ∀ (tree : TIntermNode Members) (next : Nat),
    (∃ copy next', tree.deepCopy.run next = some (copy, next') ∧ copy.shape = tree.shape) ↔
      tree.isCopyable
  | null, next => by
    simp [deepCopy, isCopyable]
  | node address kind members children, next => by
    have hchildren := copyChildren_iff kind 0 children (next + 1)
    simp only [deepCopy_node, isCopyable, Bool.and_eq_true, Bool.not_eq_true', ← hchildren]
    constructor
    · rintro ⟨copy, next', ⟨-, hresult⟩ | ⟨hkind, copies, next₁, hcopies, hresult⟩, hshape⟩
      · cases hresult
        simp [shape] at hshape
      · cases hresult
        simp only [shape, node.injEq, true_and] at hshape
        exact ⟨hkind, copies, _, hcopies, hshape⟩
    · rintro ⟨hkind, copies, next₁, hcopies, hshape⟩
      refine ⟨_, _, .inr ⟨hkind, copies, next₁, hcopies, rfl⟩, ?_⟩
      simp only [shape, hshape]

theorem copyChildren_iff (kind : NodeClass) : ∀ (index : Nat)
    (children : List (TIntermNode Members)) (next : Nat),
    (∃ copies next', (copyChildren kind index children).run next = some (copies, next') ∧
      shapes copies = shapes children) ↔ areCopyable kind index children
  | _, [], next => by
    simp [copyChildren, areCopyable, shapes]
  | index, child :: children, next => by
    have hfirst := deepCopy_iff child next
    have hrest := copyChildren_iff kind (index + 1) children
    simp only [copyChildren_cons, areCopyable, Bool.and_eq_true, Bool.or_eq_true, Bool.not_eq_true']
    constructor
    · rintro ⟨_, _, ⟨copy, next₁, copies, next₂, hcopy, hcopies, hresult⟩, hshape⟩
      cases hresult
      simp only [shapes, List.cons.injEq] at hshape
      refine ⟨?_, (hrest next₁).1 ⟨copies, _, hcopies, hshape.2⟩⟩
      split at hcopy
      case isTrue htested => exact .inl (decide_eq_true htested)
      case isFalse htested =>
        have hchild : child ≠ null := by
          rintro rfl
          simp [deepCopy] at hcopy
        obtain ⟨hsame, hkept⟩ := (shape_kept_iff hchild).1 hshape.1
        exact .inr ⟨hfirst.1 ⟨copy, next₁, hcopy, hsame⟩, hkept⟩
    · rintro ⟨hchild, hchildren⟩
      by_cases htested : isTested kind index ∧ child.isNull
      · obtain ⟨copies, next₂, hcopies, hshape⟩ := (hrest next).2 hchildren
        refine ⟨_, _, ⟨null, next, copies, next₂, if_pos htested, hcopies, rfl⟩, ?_⟩
        have hnull : child = null := by
          cases child with
          | null => rfl
          | node => exact absurd htested.2 (by simp [isNull])
        simp [shapes, hshape, hnull, kept, isPruned]
      · have hcopyable := hchild.resolve_left fun h => htested (of_decide_eq_true h)
        obtain ⟨copy, next₁, hcopy, hsame⟩ := hfirst.2 hcopyable.1
        obtain ⟨copies, next₂, hcopies, hshape⟩ := (hrest next₁).2 hchildren
        refine ⟨_, _, ⟨copy, next₁, copies, next₂, ?_, hcopies, rfl⟩, ?_⟩
        · rw [if_neg htested, hcopy]
        · have hnull : child ≠ null := by
            rintro rfl
            simp [isCopyable] at hcopyable
          rw [shapes, shapes, (shape_kept_iff hnull).2 ⟨hsame, hcopyable.2⟩, hshape]

end

/-- The copy of a tree is an equal tree of new nodes just if no child that is copied untested is
null, every node has a copy, and no constructor prunes. -/
theorem copied_iff (tree : TIntermNode Members) (next : Nat)
    (hnext : ∀ address ∈ tree.addresses, address < next) :
    Copied tree next ↔ tree.isCopyable = true := by
  rw [← deepCopy_iff tree next]
  constructor
  · rintro ⟨copy, next', hcopy, hshape, -⟩
    exact ⟨copy, next', hcopy, hshape⟩
  · rintro ⟨copy, next', hcopy, hshape⟩
    refine ⟨copy, next', hcopy, hshape, fun address hmem hshared => ?_⟩
    have hnew := (deepCopy_new tree next copy next' hcopy).2 address hmem
    exact absurd (hnext address hshared) (by omega)

/-- `if (condition) { f(); }`, with symbols for the condition and the call. -/
def exampleIf : TIntermNode Unit :=
  node 0 .IfElse () [node 1 .Symbol () [], node 2 .Block () [node 3 .Symbol () []], null]

theorem copied_iff_exampleIf : Copied exampleIf 4 ↔ exampleIf.isCopyable = true :=
  copied_iff exampleIf 4 (by decide)

/-- `while (condition) { break; }`. -/
def exampleLoop : TIntermNode Unit :=
  node 0 .Loop () [null, node 1 .Symbol () [], null,
    node 2 .Block () [node 3 .Branch () [null]]]

/-- The copy of the loop dereferences its initial statement, which is null, and that of its body the
expression of the `break`. -/
theorem not_copied_exampleLoop :
    ¬ Copied exampleLoop 4 ∧ (exampleLoop.deepCopy.run 4).isNone = true ∧
      ((node 2 .Block () [node 3 .Branch () [null]] : TIntermNode Unit).deepCopy.run 4).isNone =
        true := by
  refine ⟨?_, rfl, rfl⟩
  rintro ⟨copy, next', hcopy, -⟩
  cases hcopy

end TIntermNode

end MetalAngle.Translator.DeepCopy
