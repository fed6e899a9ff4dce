import MetalAngle.Translator.CallDag

/-!
# What the call graph collects

The traversal of a shader leaves a record of each function that is declared, with the functions that
its body calls.
-/

namespace MetalAngle.Translator.CallDag

open TIntermNode List Function

mutual

def TIntermNode.calls : TIntermNode → List TFunction
  | .callFunctionInAST function arguments => function :: TIntermNode.callsOf arguments
  | .other children => TIntermNode.callsOf children

def TIntermNode.callsOf : List TIntermNode → List TFunction
  | [] => []
  | node :: rest => node.calls ++ TIntermNode.callsOf rest

end

namespace TIntermFunctionDefinition

def id (node : TIntermFunctionDefinition) : Nat := node.getFunction.uniqueId

def callees (node : TIntermFunctionDefinition) : List Nat := node.getBody.calls.map (·.uniqueId)

end TIntermFunctionDefinition

def TopLevel.definition : TopLevel → Option TIntermFunctionDefinition
  | .functionDefinition node => some node
  | _ => none

def definitions (root : List TopLevel) : List TIntermFunctionDefinition :=
  root.filterMap TopLevel.definition

def Defined (root : List TopLevel) (f : Nat) : Prop := ∃ node ∈ definitions root, node.id = f

/-- The body of one function calls another. -/
def Calls (root : List TopLevel) (f g : Nat) : Prop :=
  ∃ node ∈ definitions root, node.id = f ∧ g ∈ node.callees

/-- Functions are declared before they are called, and only bodies of functions call any. -/
def ResolvedFrom : List Nat → List TopLevel → Prop
  | _, [] => True
  | declared, .functionDefinition node :: rest =>
    (∀ callee ∈ node.callees, callee ∈ node.id :: declared) ∧
      ResolvedFrom (node.id :: declared) rest
  | declared, .functionPrototype getFunction :: rest =>
    ResolvedFrom (getFunction.uniqueId :: declared) rest
  | declared, .other node :: rest => node.calls = [] ∧ ResolvedFrom declared rest

/-- What the parser promises of a shader. -/
structure WellFormed (root : List TopLevel) : Prop where
  definedOnce : ((definitions root).map (·.id)).Nodup
  oneMain : ∀ node ∈ definitions root, ∀ node' ∈ definitions root,
    node.getFunction.isMain → node'.getFunction.isMain → node.id = node'.id
  resolved : ResolvedFrom [] root

variable {root : List TopLevel} {node : TIntermFunctionDefinition}

theorem definition_unique (h : ((definitions root).map (·.id)).Nodup)
    {node' : TIntermFunctionDefinition} (hnode : node ∈ definitions root)
    (hnode' : node' ∈ definitions root) (hid : node.id = node'.id) : node = node' :=
  inj_on_of_nodup_map h hnode hnode' hid

theorem WellFormed.calls_iff (h : WellFormed root) (hnode : node ∈ definitions root) (g : Nat) :
    Calls root node.id g ↔ g ∈ node.callees := by
  constructor
  · rintro ⟨node', hnode', hid, hg⟩
    rwa [definition_unique h.definedOnce hnode hnode' hid.symm]
  · exact fun hg => ⟨node, hnode, rfl, hg⟩

mutual

theorem TIntermNode.traverse_eq (address : Nat → Nat) (node : TIntermNode) (c : CallDAGCreator) :
    node.traverse address c =
      node.calls.foldlM (fun c function => c.visitAggregate address function) c := by
  match node with
  | .callFunctionInAST function arguments =>
    rw [traverse, calls, foldlM_cons]
    exact congrArg (Option.bind _) (funext fun c =>
      traverseAll_eq address arguments c)
  | .other children =>
    rw [traverse, calls]
    exact traverseAll_eq address children c

theorem TIntermNode.traverseAll_eq (address : Nat → Nat) (nodes : List TIntermNode)
    (c : CallDAGCreator) :
    TIntermNode.traverseAll address nodes c = (TIntermNode.callsOf nodes).foldlM
        (fun c function => c.visitAggregate address function) c := by
  match nodes with
  | [] => rfl
  | node :: rest =>
    rw [traverseAll, callsOf, foldlM_append,
      traverse_eq address node c]
    exact congrArg (Option.bind _) (funext fun c => traverseAll_eq address rest c)

end

def insertAll (address : Nat → Nat) (calls : List Nat) (callees : List Nat) : List Nat :=
  calls.foldl (fun callees callee => insertCallee address callee callees) callees

theorem mem_insertCallee (address : Nat → Nat) (callee g : Nat) (callees : List Nat) :
    g ∈ insertCallee address callee callees ↔ g = callee ∨ g ∈ callees := by
  unfold insertCallee
  split
  case isTrue hmem =>
    constructor
    · exact Or.inr
    · rintro (rfl | hg)
      · exact hmem
      · exact hg
  case isFalse => exact mem_orderedInsert _

theorem mem_insertAll (address : Nat → Nat) (calls : List Nat) (g : Nat) (callees : List Nat) :
    g ∈ insertAll address calls callees ↔ g ∈ calls ∨ g ∈ callees := by
  unfold insertAll
  induction calls generalizing callees with
  | nil => simp
  | cons callee rest ih =>
    rw [foldl_cons, ih, mem_insertCallee, mem_cons]
    tauto

namespace CallDAGCreator

variable {c : CallDAGCreator}

theorem modify_modify (c : CallDAGCreator) (id : Nat)
    (change change' : CreatorFunctionData → CreatorFunctionData) :
    (c.modify id change).modify id change' = c.modify id (change' ∘ change) := by
  unfold modify
  simp

/-- The calls in the body of a function are noted as its callees. -/
theorem foldlM_visitAggregate (address : Nat → Nat) {calls : List TFunction} {current : Nat}
    (hcurrent : c.mCurrentFunction = some current)
    (hdeclared : ∀ function ∈ calls, function.uniqueId ∈ c.keys) :
    calls.foldlM (fun c function => c.visitAggregate address function) c =
      some (c.modify current fun data =>
        { data with callees := insertAll address (calls.map (·.uniqueId)) data.callees }) := by
  induction calls generalizing c with
  | nil =>
    have hsame : (c.modify current fun data => { data with callees := data.callees }) = c := by
      unfold modify
      rw [update_eq_self]
    exact congrArg some hsame.symm
  | cons function rest ih =>
    have hvisit : c.visitAggregate address function = some (c.modify current fun data =>
        { data with callees := insertCallee address function.uniqueId data.callees }) := by
      unfold visitAggregate
      rw [if_pos (hdeclared function mem_cons_self), hcurrent]
    rw [foldlM_cons, hvisit]
    have hrest := @ih (c.modify current fun data =>
        { data with callees := insertCallee address function.uniqueId data.callees }) hcurrent
      fun other hmem => hdeclared other (mem_cons_of_mem _ hmem)
    rw [modify_modify] at hrest
    exact hrest

def addDefinition (address : Nat → Nat) (c : CallDAGCreator) (node : TIntermFunctionDefinition) :
    CallDAGCreator :=
  (c.touch node.id).modify node.id fun data =>
    { data with
      definitionNode := some node
      callees := insertAll address node.callees data.callees }

theorem mem_keys_touch (c : CallDAGCreator) (id g : Nat) :
    g ∈ (c.touch id).keys ↔ g = id ∨ g ∈ c.keys := by
  unfold touch
  dsimp only
  split
  case isTrue hmem =>
    constructor
    · exact Or.inr
    · rintro (rfl | hg)
      · exact hmem
      · exact hg
  case isFalse => exact mem_orderedInsert _

theorem nodup_keys_touch (hnodup : c.keys.Nodup) (id : Nat) : (c.touch id).keys.Nodup := by
  unfold touch
  dsimp only
  split
  · exact hnodup
  case isFalse hnew =>
    have hperm := perm_orderedInsert (fun a b : Nat => a ≤ b) id c.keys
    exact hperm.nodup_iff.mpr (nodup_cons.mpr ⟨hnew, hnodup⟩)

theorem visitFunctionDefinition_eq (address : Nat → Nat) (hcurrent : c.mCurrentFunction = none)
    (hdeclared : ∀ callee ∈ node.callees, callee = node.id ∨ callee ∈ c.keys) :
    c.visitFunctionDefinition address node = some (c.addDefinition address node) := by
  unfold visitFunctionDefinition
  dsimp only
  rw [traverse_eq, foldlM_visitAggregate address rfl]
  · have hbind : ∀ c' : CallDAGCreator,
        (do let c ← some c'; some { c with mCurrentFunction := none } : Option CallDAGCreator) =
          some { c' with mCurrentFunction := none } := fun _ => rfl
    rw [hbind, Option.some_inj]
    unfold addDefinition modify touch
    simp only [update_self, update_idem, hcurrent]
    rfl
  · intro function hmem
    exact (mem_keys_touch c _ _).mpr (hdeclared _ (mem_map_of_mem hmem))

/-- The data that a traversal does not change. -/
def SameMarks (c c' : CallDAGCreator) : Prop :=
  c'.mCurrentIndex = c.mCurrentIndex ∧ ∀ f, (c'.mFunctions f).index = (c.mFunctions f).index ∧
    (c'.mFunctions f).indexAssigned = (c.mFunctions f).indexAssigned ∧
    (c'.mFunctions f).visiting = (c.mFunctions f).visiting

/-- What the traversal of a shader adds to the records. -/
structure Collects (root : List TopLevel) (c c' : CallDAGCreator) : Prop where
  mCurrentFunction : c'.mCurrentFunction = none
  keys : ∀ f, Defined root f → f ∈ c'.keys
  callees : ∀ f g, g ∈ (c'.mFunctions f).callees ↔ Calls root f g ∨ g ∈ (c.mFunctions f).callees
  definitionNode : ∀ f node, (c'.mFunctions f).definitionNode = some node ↔
    node ∈ definitions root ∧ node.id = f ∨
      ¬ Defined root f ∧ (c.mFunctions f).definitionNode = some node
  nodup : c'.keys.Nodup
  mono : ∀ f ∈ c.keys, f ∈ c'.keys
  marks : SameMarks c c'

section

variable (node : TIntermFunctionDefinition)

theorem definitions_cons_definition (rest : List TopLevel) :
    definitions (.functionDefinition node :: rest) = node :: definitions rest := rfl

theorem defined_cons_definition (rest : List TopLevel) (f : Nat) :
    Defined (.functionDefinition node :: rest) f ↔ node.id = f ∨ Defined rest f := by
  unfold Defined
  rw [definitions_cons_definition]
  exact exists_mem_cons_iff _ _ _

theorem calls_cons_definition (rest : List TopLevel)
    (f g : Nat) :
    Calls (.functionDefinition node :: rest) f g ↔
      node.id = f ∧ g ∈ node.callees ∨ Calls rest f g := by
  unfold Calls
  rw [definitions_cons_definition]
  exact exists_mem_cons_iff _ _ _

end

theorem mFunctions_addDefinition (address : Nat → Nat) (c : CallDAGCreator)
    (node : TIntermFunctionDefinition) (f : Nat) :
    (c.addDefinition address node).mFunctions f = if f = node.id then
        { c.mFunctions f with
          definitionNode := some node
          callees := insertAll address node.callees (c.mFunctions f).callees }
      else c.mFunctions f := by
  refine (update_apply c.mFunctions node.id _ f).trans ?_
  split
  case isTrue hsame => rw [hsame]; rfl
  case isFalse => rfl

theorem Collects.of_addDefinition {address : Nat → Nat} {rest : List TopLevel} {c' : CallDAGCreator}
    (h : Collects rest (c.addDefinition address node) c') (hnew : ¬ Defined rest node.id) :
    Collects (.functionDefinition node :: rest) c c' where
  __ := h
  keys := fun f hf => by
    rcases (defined_cons_definition node rest f).mp hf with rfl | hrest
    · exact h.mono _ ((mem_keys_touch c node.id node.id).mpr (Or.inl rfl))
    · exact h.keys f hrest
  callees := fun f g => by
    rw [h.callees f g, calls_cons_definition, mFunctions_addDefinition]
    by_cases hsame : f = node.id
    · rw [if_pos hsame, mem_insertAll]
      simp only [hsame, true_and]
      tauto
    · rw [if_neg hsame]
      simp [Ne.symm hsame]
  definitionNode := fun f node' => by
    rw [h.definitionNode f node', definitions_cons_definition, defined_cons_definition,
      mFunctions_addDefinition, mem_cons]
    by_cases hsame : f = node.id
    · subst hsame
      rw [if_pos rfl]
      simp only [hnew, not_false_eq_true, true_and, Option.some_inj, not_true_eq_false,
        false_and, or_false]
      constructor
      · rintro (⟨hmem, hid⟩ | rfl)
        · exact ⟨Or.inr hmem, hid⟩
        · exact ⟨Or.inl rfl, rfl⟩
      · rintro ⟨rfl | hmem, hid⟩
        · exact Or.inr rfl
        · exact Or.inl ⟨hmem, hid⟩
    · rw [if_neg hsame]
      have hother : node.id ≠ f := Ne.symm hsame
      simp only [hother, false_or]
      apply or_congr_left
      constructor
      · exact fun ⟨hmem, hid⟩ => ⟨Or.inr hmem, hid⟩
      · rintro ⟨rfl | hmem, hid⟩
        · exact absurd hid hother
        · exact ⟨hmem, hid⟩
  mono := fun f hf => h.mono f ((mem_keys_touch c node.id f).mpr (Or.inr hf))
  marks := by
    refine ⟨h.marks.1, fun f => ?_⟩
    have hmarks := h.marks.2 f
    rw [mFunctions_addDefinition] at hmarks
    split at hmarks
    · exact hmarks
    · exact hmarks

/-- The traversal of a shader whose functions are declared collects what is in it. -/
theorem collects (address : Nat → Nat) (hcurrent : c.mCurrentFunction = none)
    (hnodup : c.keys.Nodup) (honce : ((definitions root).map (·.id)).Nodup) {declared : List Nat}
    (hkeys : ∀ f ∈ declared, f ∈ c.keys) (hresolved : ResolvedFrom declared root) :
    ∃ c', root.foldlM (fun c node => c.visitTopLevel address node) c = some c' ∧
      Collects root c c' := by
  induction root generalizing c declared with
  | nil =>
    refine ⟨c, rfl, hcurrent, ?_, ?_, ?_, hnodup, fun f hf => hf, rfl, fun f => ⟨rfl, rfl, rfl⟩⟩
    · rintro f ⟨node, hmem, -⟩
      exact absurd hmem not_mem_nil
    · intro f g
      refine (or_iff_right ?_).symm
      rintro ⟨node, hmem, -⟩
      exact absurd hmem not_mem_nil
    · intro f node
      have hnone : ¬ Defined [] f := fun ⟨_, hmem, _⟩ => absurd hmem not_mem_nil
      simp [hnone, definitions]
  | cons top rest ih =>
    rw [foldlM_cons]
    cases top with
    | functionDefinition node =>
      obtain ⟨hbody, hrest⟩ := hresolved
      have hdeclared : ∀ callee ∈ node.callees, callee = node.id ∨ callee ∈ c.keys :=
        fun callee hmem => (mem_cons.mp (hbody callee hmem)).imp_right (hkeys callee)
      have hvisit := c.visitFunctionDefinition_eq address hcurrent hdeclared
      rw [visitTopLevel, hvisit]
      obtain ⟨hnew, honce'⟩ := nodup_cons.mp honce
      have hundefined : ¬ Defined rest node.id := by
        rintro ⟨node', hmem, hid⟩
        exact hnew (mem_map.mpr ⟨node', hmem, hid⟩)
      have hkeys' : ∀ f ∈ node.id :: declared, f ∈ (c.addDefinition address node).keys :=
        fun f hf => (mem_keys_touch c _ f).mpr ((mem_cons.mp hf).imp_right (hkeys f))
      obtain ⟨c', hc', h⟩ := ih (c := c.addDefinition address node) hcurrent
        (nodup_keys_touch hnodup _) honce' hkeys' hrest
      exact ⟨c', hc', h.of_addDefinition hundefined⟩
    | functionPrototype getFunction =>
      have hrest : ResolvedFrom (getFunction.uniqueId :: declared) rest := hresolved
      have hkeys' : ∀ f ∈ getFunction.uniqueId :: declared,
          f ∈ (c.touch getFunction.uniqueId).keys := fun f hf =>
        (mem_keys_touch c _ f).mpr ((mem_cons.mp hf).imp_right (hkeys f))
      obtain ⟨c', hc', h⟩ := ih (c := c.touch getFunction.uniqueId) hcurrent
        (nodup_keys_touch hnodup _) honce hkeys' hrest
      exact ⟨c', hc', { h with
        mono := fun f hf => h.mono f ((mem_keys_touch c _ f).mpr (Or.inr hf)) }⟩
    | other node =>
      obtain ⟨hnone, hrest⟩ := hresolved
      obtain ⟨c', hc', h⟩ := ih hcurrent hnodup honce hkeys hrest
      refine ⟨c', ?_, { h with }⟩
      rw [visitTopLevel, traverse_eq, hnone]
      exact hc'

end CallDAGCreator

end MetalAngle.Translator.CallDag
