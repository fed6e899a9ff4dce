import MetalAngle.Translator.CallDagOrder

/-!
# The records of the call graph

Once the functions have their indices the records are written in that order.  They stand for the
defined functions of the shader one to one, and what a function calls comes before it.
-/

namespace MetalAngle.Translator.CallDag

open List CallDAGCreator Option

namespace CallDAGCreator

def recordOf (c : CallDAGCreator) (f : Nat) : Record where
  node := (c.mFunctions f).definitionNode
  callees := (c.mFunctions f).callees.map fun callee => (c.mFunctions callee).index

/-- Some functions have been given their records. -/
structure Fills (c : CallDAGCreator) (ids : List Nat) (dag dag' : CallDAG) : Prop where
  length : dag'.mRecords.length = dag.mRecords.length
  record : ∀ f ∈ ids, c.IsDefined f → (c.mFunctions f).index < dag.mRecords.length →
    dag'.mRecords[(c.mFunctions f).index]? = some (c.recordOf f)
  other : ∀ i, (∀ f ∈ ids, c.IsDefined f → (c.mFunctions f).index ≠ i) →
    dag'.mRecords[i]? = dag.mRecords[i]?
  index : ∀ f, dag'.mFunctionIdToIndex f =
    if f ∈ ids ∧ (c.mFunctions f).definitionNode.isSome then some (c.mFunctions f).index
    else dag.mFunctionIdToIndex f

variable {c : CallDAGCreator}

theorem fillRecord_of_undefined (dag : CallDAG) {f : Nat} (h : ¬ c.IsDefined f) :
    c.fillRecord dag f = dag := by
  unfold fillRecord
  dsimp only
  rw [not_isSome_iff_eq_none.mp h]

theorem fillRecord_of_defined (dag : CallDAG) {f : Nat} (h : c.IsDefined f) :
    c.fillRecord dag f =
      { mRecords := dag.mRecords.set (c.mFunctions f).index (c.recordOf f)
        mFunctionIdToIndex :=
          Function.update dag.mFunctionIdToIndex f (some (c.mFunctions f).index) } := by
  obtain ⟨node, hnode⟩ := isSome_iff_exists.mp h
  unfold fillRecord recordOf
  dsimp only
  rw [hnode]

/-- The loop over the records writes that of every defined function. -/
theorem fills_foldl {ids : List Nat} (hnodup : ids.Nodup)
    (hinjective : ∀ f g, c.IsDefined f → c.IsDefined g →
      (c.mFunctions f).index = (c.mFunctions g).index → f = g) (dag : CallDAG) :
    Fills c ids dag (ids.foldl c.fillRecord dag) := by
  induction ids generalizing dag with
  | nil =>
    exact ⟨rfl, fun f hf => absurd hf not_mem_nil, fun _ _ => rfl, fun f => by simp⟩
  | cons id rest ih =>
    obtain ⟨hnew, hnodup'⟩ := nodup_cons.mp hnodup
    rw [foldl_cons]
    have hrest := ih hnodup' (c.fillRecord dag id)
    by_cases hdefined : c.IsDefined id
    · rw [fillRecord_of_defined dag hdefined] at hrest ⊢
      generalize rest.foldl c.fillRecord _ = dag' at hrest ⊢
      have hlength : dag'.mRecords.length = dag.mRecords.length :=
        hrest.length.trans length_set
      refine ⟨hlength, ?_, ?_, ?_⟩
      · intro f hf hf' hbound
        rcases mem_cons.mp hf with rfl | hf
        · rw [hrest.other _ fun g hg hg' hsame =>
            hnew (hinjective g f hg' hdefined hsame ▸ hg)]
          exact getElem?_set_self hbound
        · exact hrest.record f hf hf' (hbound.trans_eq length_set.symm)
      · intro i hi
        rw [hrest.other i fun g hg => hi g (mem_cons_of_mem _ hg)]
        exact getElem?_set_ne (hi id mem_cons_self hdefined)
      · intro f
        rw [hrest.index f]
        by_cases hsame : f = id
        · subst hsame
          simp [hnew, show (c.mFunctions f).definitionNode.isSome = true from hdefined]
        · simp [hsame]
    · rw [fillRecord_of_undefined dag hdefined] at hrest ⊢
      refine ⟨hrest.length, ?_, ?_, ?_⟩
      · intro f hf hf' hbound
        rcases mem_cons.mp hf with rfl | hf
        · exact absurd hf' hdefined
        · exact hrest.record f hf hf' hbound
      · intro i hi
        exact hrest.other i fun g hg => hi g (mem_cons_of_mem _ hg)
      · intro f
        rw [hrest.index f]
        by_cases hsame : f = id
        · subst hsame
          have hnone := Bool.eq_false_iff.mpr hdefined
          simp [hnone]
        · simp [hsame]

/-- The creator has the graph of a shader. -/
structure GraphOf (root : List TopLevel) (c : CallDAGCreator) : Prop where
  isDefined : ∀ f, c.IsDefined f ↔ Defined root f
  edge : ∀ f g, c.Edge f g ↔ Calls root f g
  node : ∀ node ∈ definitions root, (c.mFunctions node.id).definitionNode = some node
  keys : ∀ f, c.IsDefined f → f ∈ c.keys
  nodup : c.keys.Nodup

theorem GraphOf.of_sameGraph {root : List TopLevel} {c' : CallDAGCreator} (h : GraphOf root c)
    (hsame : SameGraph c c') : GraphOf root c' where
  isDefined := fun f => (hsame.isDefined_iff f).trans (h.isDefined f)
  edge := fun f g => (hsame.edge_iff f g).trans (h.edge f g)
  node := fun node hmem => (hsame.definitionNode node.id).trans (h.node node hmem)
  keys := fun f hf => by
    rw [hsame.keys]
    exact h.keys f ((hsame.isDefined_iff f).mp hf)
  nodup := by
    rw [hsame.keys]
    exact h.nodup

theorem Collects.graphOf {root : List TopLevel} (h : Collects root {} c) : GraphOf root c where
  __ := h
  isDefined := fun f => by
    unfold IsDefined
    rw [isSome_iff_exists]
    constructor
    · rintro ⟨node, hnode⟩
      rcases (h.definitionNode f node).mp hnode with ⟨hmem, hid⟩ | ⟨-, hold⟩
      · exact ⟨node, hmem, hid⟩
      · contradiction
    · rintro ⟨node, hmem, hid⟩
      exact ⟨node, (h.definitionNode f node).mpr (Or.inl ⟨hmem, hid⟩)⟩
  edge := fun f g => (h.callees f g).trans (or_iff_left not_mem_nil)
  node := fun node hmem => (h.definitionNode node.id node).mpr (Or.inl ⟨hmem, rfl⟩)
  keys := fun f hf => by
    obtain ⟨node, hnode⟩ := isSome_iff_exists.mp hf
    rcases (h.definitionNode f node).mp hnode with ⟨hmem, hid⟩ | ⟨-, hold⟩
    · exact h.keys f ⟨node, hmem, hid⟩
    · contradiction

theorem Collects.visits {root : List TopLevel} (h : Collects root {} c) : c.Visits [] := by
  have hnone : ∀ f, ¬ c.IsAssigned f := by
    intro f hf
    unfold IsAssigned at hf
    rw [(h.marks.2 f).2.1] at hf
    exact Bool.false_ne_true hf
  refine ⟨fun f => ?_, trivial, ?_⟩
  · unfold IsVisiting
    rw [(h.marks.2 f).2.2]
    exact iff_of_false Bool.false_ne_true not_mem_nil
  · refine ⟨fun f hf => absurd hf (hnone f), fun f _ hf => absurd hf (hnone f),
      fun f hf => absurd hf (hnone f), fun f _ hf => absurd hf (hnone f), fun i hi => ?_⟩
    rw [h.marks.1] at hi
    exact absurd hi (Nat.not_lt_zero i)

end CallDAGCreator

/-- The records are those of the defined functions, one to one, each after those of its callees. -/
structure Represents (root : List TopLevel) (dag : CallDAG) : Prop where
  record : ∀ node ∈ definitions root, ∃ i, dag.findIndex node.id = some i ∧ i < dag.size ∧
    (dag.getRecordFromIndex i).node = some node ∧
    ∀ j, j ∈ (dag.getRecordFromIndex i).callees ↔
      ∃ g ∈ node.callees, dag.findIndex g = some j
  index : ∀ i < dag.size, ∃ node ∈ definitions root, dag.findIndex node.id = some i
  injective : ∀ f g i, dag.findIndex f = some i → dag.findIndex g = some i → f = g
  isDefined : ∀ f i, dag.findIndex f = some i → Defined root f
  callee_lt : ∀ i < dag.size, ∀ j ∈ (dag.getRecordFromIndex i).callees, j < i

/-- No defined function reaches itself, and none calls an undefined one. -/
structure Callable (root : List TopLevel) : Prop where
  acyclic : ∀ f, Defined root f → ¬ Relation.TransGen (Calls root) f f
  resolved : ∀ f g, Calls root f g → Defined root g

namespace CallDAGCreator

variable {c : CallDAGCreator} {root : List TopLevel}

theorem edge_eq_calls (h : GraphOf root c) : c.Edge = Calls root := by
  funext f g
  exact propext (h.edge f g)

theorem callable_of_assigned (h : GraphOf root c) (hnumbered : c.Numbered)
    (hall : ∀ f, Defined root f → c.IsAssigned f) : Callable root := by
  have hdefined : ∀ f, c.IsAssigned f → Defined root f := fun f hf =>
    (h.isDefined f).mp (hnumbered.isDefined f hf)
  have hrank := fun f g (hf : c.IsAssigned f) (hedge : Calls root f g) =>
    hnumbered.callees f g hf ((h.edge f g).mpr hedge)
  refine ⟨fun f hf => RankedGraph.not_transGen_self hrank (hall f hf), fun f g hedge => ?_⟩
  obtain ⟨node, hmem, hid, -⟩ := id hedge
  exact hdefined g (hrank f g (hall f ⟨node, hmem, hid⟩) hedge).1

/-- When every defined function has an index the records represent the shader. -/
theorem represents_fillDataStructures (hroot : WellFormed root) (h : GraphOf root c)
    (hnumbered : c.Numbered) (hall : ∀ f, Defined root f → c.IsAssigned f) :
    Represents root c.fillDataStructures := by
  have hassigned : ∀ f, c.IsDefined f → c.IsAssigned f := fun f hf =>
    hall f ((h.isDefined f).mp hf)
  have hinjective : ∀ f g, c.IsDefined f → c.IsDefined g →
      (c.mFunctions f).index = (c.mFunctions g).index → f = g := fun f g hf hg =>
    hnumbered.injective f g (hassigned f hf) (hassigned g hg)
  have hfills := fills_foldl h.nodup hinjective { mRecords := replicate c.mCurrentIndex {} }
  have hgoal : Fills c c.keys { mRecords := replicate c.mCurrentIndex {} }
    c.fillDataStructures := hfills
  generalize c.fillDataStructures = dag at hgoal
  have hsize : dag.size = c.mCurrentIndex := hgoal.length.trans length_replicate
  have hfind : ∀ f i, dag.findIndex f = some i ↔ c.IsDefined f ∧ (c.mFunctions f).index = i := by
    intro f i
    unfold CallDAG.findIndex
    rw [hgoal.index f]
    split
    case isTrue hdefined =>
      rw [some_inj]
      exact (and_iff_right hdefined.2).symm
    case isFalse hundefined =>
      refine iff_of_false (some_ne_none i).symm fun hf => ?_
      exact hundefined ⟨h.keys f hf.1, hf.1⟩
  have hbound : ∀ f, c.IsDefined f → (c.mFunctions f).index < dag.size := fun f hf =>
    (hnumbered.bounded f (hassigned f hf)).trans_eq hsize.symm
  have hrecord : ∀ f, c.IsDefined f →
      dag.getRecordFromIndex (c.mFunctions f).index = c.recordOf f := by
    intro f hf
    have hlength := (hbound f hf).trans_eq hgoal.length
    unfold CallDAG.getRecordFromIndex
    rw [getD_eq_getElem?_getD, hgoal.record f (h.keys f hf) hf hlength]
    rfl
  have hcallees : ∀ f, c.IsDefined f → ∀ j,
      j ∈ (dag.getRecordFromIndex (c.mFunctions f).index).callees ↔
        ∃ g, c.Edge f g ∧ (c.mFunctions g).index = j := by
    intro f hf j
    rw [hrecord f hf]
    exact mem_map
  have hindex : ∀ i < dag.size, ∃ f, c.IsDefined f ∧ (c.mFunctions f).index = i := by
    intro i hi
    obtain ⟨f, hf, rfl⟩ := hnumbered.onto i (hi.trans_eq hsize)
    exact ⟨f, hnumbered.isDefined f hf, rfl⟩
  constructor
  · intro node hmem
    have hdefined : c.IsDefined node.id := (h.isDefined _).mpr ⟨node, hmem, rfl⟩
    refine ⟨_, (hfind node.id _).mpr ⟨hdefined, rfl⟩, hbound _ hdefined, ?_, fun j => ?_⟩
    · rw [hrecord _ hdefined]
      exact h.node node hmem
    · rw [hcallees _ hdefined]
      apply exists_congr
      intro g
      rw [h.edge, hroot.calls_iff hmem, hfind]
      constructor
      · rintro ⟨hg, hsame⟩
        have hedge := (h.edge node.id g).mpr ((hroot.calls_iff hmem g).mpr hg)
        exact ⟨hg, hnumbered.isDefined g
          (hnumbered.callees _ g (hassigned _ hdefined) hedge).1, hsame⟩
      · exact fun ⟨hg, _, hsame⟩ => ⟨hg, hsame⟩
  · intro i hi
    obtain ⟨f, hf, hsame⟩ := hindex i hi
    obtain ⟨node, hmem, rfl⟩ := (h.isDefined f).mp hf
    exact ⟨node, hmem, (hfind _ _).mpr ⟨hf, hsame⟩⟩
  · intro f g i hf hg
    obtain ⟨hf, hfi⟩ := (hfind f i).mp hf
    obtain ⟨hg, hgi⟩ := (hfind g i).mp hg
    exact hinjective f g hf hg (hfi.trans hgi.symm)
  · intro f i hf
    exact (h.isDefined f).mp ((hfind f i).mp hf).1
  · intro i hi j hj
    obtain ⟨f, hf, rfl⟩ := hindex i hi
    obtain ⟨g, hedge, rfl⟩ := (hcallees f hf j).mp hj
    exact (hnumbered.callees f g (hassigned f hf) hedge).2

end CallDAGCreator

/-- The call graph is made exactly when every function can be called, and then represents the
shader. -/
theorem init_spec (address : Nat → Nat) {root : List TopLevel} (hroot : WellFormed root) :
    ∃ rounds, ∀ fuel, rounds ≤ fuel → ∃ result dag,
      CallDAG.init address fuel root = some (result, dag) ∧
        (result = .INITDAG_SUCCESS ↔ Callable root) ∧
        (result = .INITDAG_SUCCESS → Represents root dag) := by
  obtain ⟨c, hc, hcollects⟩ := collects (c := {}) address rfl nodup_nil
    hroot.definedOnce (fun f hf => absurd hf not_mem_nil) hroot.resolved
  have hgraph := hcollects.graphOf
  refine ⟨c.budget, fun fuel hfuel => ?_⟩
  obtain ⟨result, c', houtcome, hsame, hshown⟩ :=
    ends_assignIndices c.keys hcollects.visits hgraph.keys hfuel
  have hgraph' := hgraph.of_sameGraph hsame
  have hinit : CallDAG.init address fuel root =
      some (result, if result = .INITDAG_SUCCESS then c'.fillDataStructures else {}) := by
    unfold CallDAG.init
    rw [hc]
    show (assignIndices fuel c c.keys).bind _ = _
    rw [houtcome]
    rfl
  refine ⟨result, _, hinit, ?_⟩
  cases result with
  | INITDAG_SUCCESS =>
    obtain ⟨hvisits, hdone, -⟩ := hshown
    have hall : ∀ f, Defined root f → c'.IsAssigned f := fun f hf => by
      have hdefined := (hgraph.isDefined f).mpr hf
      exact hdone f (mem_filter.mpr ⟨hgraph.keys f hdefined, hdefined⟩)
    exact ⟨iff_of_true rfl (callable_of_assigned hgraph' hvisits.numbered hall),
      fun _ => represents_fillDataStructures hroot hgraph' hvisits.numbered hall⟩
  | INITDAG_RECURSION =>
    obtain ⟨f, hf, hcycle⟩ := hshown
    rw [edge_eq_calls hgraph] at hcycle
    refine ⟨iff_of_false InitResult.noConfusion fun hcallable => ?_, InitResult.noConfusion⟩
    exact hcallable.acyclic f ((hgraph.isDefined f).mp hf) hcycle
  | INITDAG_UNDEFINED =>
    obtain ⟨f, g, -, hedge, hg⟩ := hshown
    refine ⟨iff_of_false InitResult.noConfusion fun hcallable => ?_, InitResult.noConfusion⟩
    exact hg ((hgraph.isDefined g).mpr (hcallable.resolved f g ((hgraph.edge f g).mp hedge)))

end MetalAngle.Translator.CallDag
