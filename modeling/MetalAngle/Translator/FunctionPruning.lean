import MetalAngle.Translator.CallDagRecords

/-!
# Depth of calls and unused functions

What the compiler does with the call graph: it refuses chains of calls that are too long, marks what
`main` reaches and prunes the other functions.
-/

namespace MetalAngle.Translator.CallDag

open RankedGraph List CallDAG Nat Function

namespace CallDAG

variable {dag : CallDAG}

/-- One record calls another. -/
def IndexEdge (dag : CallDAG) (i j : Nat) : Prop := j ∈ (dag.getRecordFromIndex i).callees

/-- Callees come first. -/
def Descends (dag : CallDAG) : Prop := ∀ i < dag.size, ∀ j, dag.IndexEdge i j → j < i

/-! ## The depth of calls -/

theorem lt_foldl_depth (depths : Nat → Nat) (callees : List Nat) (depth n : Nat) :
    n < callees.foldl (fun depth calleeIndex => max depth (depths calleeIndex + 1)) depth ↔
      n < depth ∨ ∃ j ∈ callees, n ≤ depths j := by
  induction callees generalizing depth with
  | nil => simp
  | cons j rest ih =>
    have hmax : n < max depth (depths j + 1) ↔ n < depth ∨ n ≤ depths j := by omega
    rw [foldl_cons, ih, hmax, or_assoc, exists_mem_cons_iff]

theorem lt_depthOf (depths : Nat → Nat) (record : Record) (n : Nat) :
    n < depthOf depths record ↔ ∃ j ∈ record.callees, n ≤ depths j := by
  unfold depthOf
  rw [lt_foldl_depth]
  exact or_iff_right (not_lt_zero n)

theorem chainFrom_iff_le_depthOf {depths : Nat → Nat} {i : Nat}
    (hdepths : ∀ j, dag.IndexEdge i j → ∀ n, ChainFrom dag.IndexEdge j n ↔ n ≤ depths j) (n : Nat) :
    ChainFrom dag.IndexEdge i n ↔ n ≤ depthOf depths (dag.getRecordFromIndex i) := by
  cases n with
  | zero => exact iff_of_true (.stop i) (zero_le _)
  | succ n =>
    rw [chainFrom_succ_iff, succ_le_iff, lt_depthOf]
    apply exists_congr
    intro j
    constructor
    · exact fun ⟨hedge, hchain⟩ => ⟨hedge, (hdepths j hedge n).mp hchain⟩
    · exact fun ⟨hedge, hle⟩ => ⟨hedge, (hdepths j hedge n).mpr hle⟩

theorem checkCallDepthFrom_iff (hdown : dag.Descends) (limit : Int) {count i : Nat}
    (hend : i + count = dag.size) {depths : Nat → Nat}
    (hdepths : ∀ j < i, ∀ n, ChainFrom dag.IndexEdge j n ↔ n ≤ depths j) :
    dag.checkCallDepthFrom limit (List.range' i count) depths ↔
      ∀ j, i ≤ j → j < dag.size → ∀ n, ChainFrom dag.IndexEdge j n → (n : Int) < limit := by
  induction count generalizing i depths with
  | zero =>
    refine iff_of_true rfl fun j hj hlt => ?_
    omega
  | succ count ih =>
    have hi : i < dag.size := by omega
    have hdepth : ∀ n, ChainFrom dag.IndexEdge i n ↔
        n ≤ depthOf depths (dag.getRecordFromIndex i) :=
      chainFrom_iff_le_depthOf fun j hedge => hdepths j (hdown i hi j hedge)
    rw [range'_succ, checkCallDepthFrom]
    split
    case isTrue hdeep =>
      refine iff_of_false Bool.false_ne_true fun hall => ?_
      have hchain := (hdepth _).mpr (le_refl _)
      have hlt := hall i (le_refl i) hi _ hchain
      omega
    case isFalse hshallow =>
      rw [ih (by omega)]
      · constructor
        · intro hall j hj hlt n hchain
          rcases eq_or_lt_of_le hj with rfl | hj
          · have hle := (hdepth n).mp hchain
            omega
          · exact hall j hj hlt n hchain
        · exact fun hall j hj => hall j (by omega)
      · intro j hj n
        rw [update_apply]
        split
        case isTrue hsame =>
          subst hsame
          exact hdepth n
        case isFalse hother => exact hdepths j (by omega) n

theorem checkCallDepth_iff (hdown : dag.Descends) (limit : Int) :
    dag.checkCallDepth limit ↔
      ∀ i < dag.size, ∀ n, ChainFrom dag.IndexEdge i n → (n : Int) < limit := by
  unfold checkCallDepth
  rw [range_eq_range', checkCallDepthFrom_iff hdown limit (zero_add _)
    fun j hj => absurd hj (not_lt_zero j)]
  exact forall_congr' fun i => ⟨fun hall => hall (zero_le i), fun hall _ => hall⟩

/-! ## Marking what is used -/

/-- What is marked below an index is marked with its callees. -/
def ClosedBelow (dag : CallDAG) (bound : Nat) (used : Nat → Bool) : Prop :=
  ∀ i, used i → i < bound → ∀ j, dag.IndexEdge i j → used j

theorem used_of_reaches (hdown : ∀ i j, dag.IndexEdge i j → j < i) {bound i j : Nat}
    {used : Nat → Bool} (hclosed : dag.ClosedBelow bound used) (hi : used i) (hlt : i < bound)
    (hreach : Relation.ReflTransGen dag.IndexEdge i j) : used j := by
  have hboth := reflTransGen_mem (S := fun k => used k ∧ k < bound)
    (fun v w hv hedge => ⟨hclosed v hv.1 hv.2 w hedge, (hdown v w hedge).trans hv.2⟩) ⟨hi, hlt⟩ hreach
  exact hboth.1

/-- Some indices have been marked with all they reach. -/
def Marks (dag : CallDAG) (indices : List Nat) (used used' : Nat → Bool) : Prop :=
  ∀ j, used' j ↔
    used j ∨ ∃ i ∈ indices, Relation.ReflTransGen dag.IndexEdge i j

theorem Marks.closedBelow {indices : List Nat} {used used' : Nat → Bool} {bound : Nat}
    (h : dag.Marks indices used used') (hclosed : dag.ClosedBelow bound used) :
    dag.ClosedBelow bound used' := by
  intro i hi hlt j hedge
  rcases (h i).mp hi with hold | ⟨k, hk, hreach⟩
  · exact (h j).mpr (Or.inl (hclosed i hold hlt j hedge))
  · exact (h j).mpr (Or.inr ⟨k, hk, hreach.tail hedge⟩)

theorem marks_internalTagUsedFunction (hdown : ∀ i j, dag.IndexEdge i j → j < i) {fuel index : Nat}
    (hfuel : index < fuel) {used : Nat → Bool} (hclosed : dag.ClosedBelow (index + 1) used) :
    ∃ used', dag.internalTagUsedFunction fuel index used = some used' ∧
      dag.Marks [index] used used' := by
  induction fuel generalizing index used with
  | zero => exact absurd hfuel (not_lt_zero _)
  | succ fuel ih =>
    unfold internalTagUsedFunction
    split
    case isTrue hmarked =>
      refine ⟨used, rfl, fun j => (or_iff_left_of_imp ?_).symm⟩
      rintro ⟨i, hi, hreach⟩
      obtain rfl := mem_singleton.mp hi
      exact used_of_reaches hdown hclosed hmarked (lt_succ_self i) hreach
    case isFalse hnew =>
      -- The callees are marked one after the other, below the index whose mark is not closed yet.
      have hloop : ∀ callees : List Nat, (∀ j ∈ callees, dag.IndexEdge index j) →
          ∀ used : Nat → Bool, dag.ClosedBelow index used → ∃ used', callees.foldlM
              (fun used calleeIndex => dag.internalTagUsedFunction fuel calleeIndex used) used =
                some used' ∧ dag.Marks callees used used' := by
        intro callees
        induction callees with
        | nil => exact fun _ used _ => ⟨used, rfl, fun j => by simp⟩
        | cons callee rest ihRest =>
          intro hedges used hused
          have hlt := hdown index callee (hedges callee mem_cons_self)
          have hcallee : callee < fuel := by omega
          obtain ⟨mid, hmid, hmarks⟩ := ih hcallee fun i hi hbound => hused i hi (by omega)
          obtain ⟨used', hused', hrest⟩ := ihRest
            (fun j hj => hedges j (mem_cons_of_mem _ hj)) mid (hmarks.closedBelow hused)
          refine ⟨used', ?_, fun j => ?_⟩
          · rw [foldlM_cons, hmid]
            exact hused'
          · rw [hrest j, hmarks j, or_assoc]
            simp
      have hstart : dag.ClosedBelow index (update used index true) := by
        intro i hi hlt j hedge
        have hbelow := hdown i j hedge
        rw [update_of_ne (Nat.ne_of_lt hlt)] at hi
        rw [update_of_ne (by omega)]
        exact hclosed i hi (by omega) j hedge
      obtain ⟨used', hused', hmarks⟩ := hloop _ (fun j hj => hj) _ hstart
      refine ⟨used', hused', fun j => ?_⟩
      have hhead : Relation.ReflTransGen dag.IndexEdge index j ↔ j = index ∨
          ∃ i ∈ (dag.getRecordFromIndex index).callees,
            Relation.ReflTransGen dag.IndexEdge i j := by
        rw [Relation.ReflTransGen.cases_head_iff, eq_comm]
        rfl
      simp only [hmarks j, mem_singleton, exists_eq_left, hhead, update_apply]
      by_cases hsame : j = index
      · simp [hsame]
      · simp [hsame]

end CallDAG

/-! ## From records to functions -/

variable {root : List TopLevel} {dag : CallDAG}

def CallDAG.indexOf (dag : CallDAG) (f : Nat) : Nat := (dag.findIndex f).getD 0

namespace Represents

section

variable (h : Represents root dag)
include h

theorem findIndex_eq {f : Nat} (hf : Defined root f) :
    dag.findIndex f = some (dag.indexOf f) := by
  obtain ⟨node, hmem, rfl⟩ := hf
  obtain ⟨i, hi, -⟩ := h.record node hmem
  unfold indexOf
  rw [hi, Option.getD_some]

theorem indexOf_lt {f : Nat} (hf : Defined root f) :
    dag.indexOf f < dag.size := by
  obtain ⟨node, hmem, rfl⟩ := hf
  obtain ⟨i, hi, hlt, -⟩ := h.record node hmem
  unfold indexOf
  rw [hi]
  exact hlt

theorem node_indexOf {node : TIntermFunctionDefinition}
    (hmem : node ∈ definitions root) :
    (dag.getRecordFromIndex (dag.indexOf node.id)).node = some node := by
  obtain ⟨i, hi, -, hnode, -⟩ := h.record node hmem
  unfold indexOf
  rw [hi]
  exact hnode

theorem exists_indexOf {i : Nat} (hi : i < dag.size) :
    ∃ node ∈ definitions root, dag.indexOf node.id = i := by
  obtain ⟨node, hmem, hindex⟩ := h.index i hi
  refine ⟨node, hmem, ?_⟩
  unfold indexOf
  rw [hindex, Option.getD_some]

theorem indexOf_injective {f g : Nat} (hf : Defined root f)
    (hg : Defined root g) (hsame : dag.indexOf f = dag.indexOf g) : f = g :=
  h.injective f g (dag.indexOf f) (h.findIndex_eq hf) (hsame ▸ h.findIndex_eq hg)

theorem simulates (hroot : WellFormed root) (hcallable : Callable root) :
    Simulates (Calls root) dag.IndexEdge (Defined root) dag.indexOf := by
  have hedge : ∀ f j, Defined root f →
      (dag.IndexEdge (dag.indexOf f) j ↔ ∃ g, Calls root f g ∧ dag.findIndex g = some j) := by
    rintro f j ⟨node, hmem, rfl⟩
    obtain ⟨i, hi, -, -, hcallees⟩ := h.record node hmem
    have hindex : dag.indexOf node.id = i := by
      unfold indexOf
      rw [hi, Option.getD_some]
    unfold CallDAG.IndexEdge
    rw [hindex, hcallees j]
    exact exists_congr fun g => and_congr_left fun _ => (hroot.calls_iff hmem g).symm
  constructor
  · intro f g hf hcall
    have hg := hcallable.resolved f g hcall
    exact ⟨hg, (hedge f _ hf).mpr ⟨g, hcall, h.findIndex_eq hg⟩⟩
  · intro f j hf hj
    obtain ⟨g, hcall, hindex⟩ := (hedge f j hf).mp hj
    refine ⟨g, hcall, ?_⟩
    unfold indexOf
    rw [hindex, Option.getD_some]

theorem descends (i j : Nat) (hedge : dag.IndexEdge i j) : j < i := by
  by_cases hi : i < dag.size
  · exact h.callee_lt i hi j hedge
  · unfold CallDAG.IndexEdge getRecordFromIndex at hedge
    rw [getD_eq_getElem?_getD, getElem?_eq_none (Nat.le_of_not_lt hi)] at hedge
    exact absurd hedge not_mem_nil

theorem checkCallDepth_iff (hroot : WellFormed root)
    (hcallable : Callable root) (limit : Int) :
    dag.checkCallDepth limit ↔
      ∀ f n, Defined root f → ChainFrom (Calls root) f n → (n : Int) < limit := by
  have hsimulates := h.simulates hroot hcallable
  rw [CallDAG.checkCallDepth_iff fun i _ => h.descends i]
  constructor
  · intro hall f n hf hchain
    exact hall _ (h.indexOf_lt hf) n ((hsimulates.chainFrom_iff hf n).mpr hchain)
  · intro hall i hi n hchain
    obtain ⟨node, hmem, rfl⟩ := h.exists_indexOf hi
    have hf : Defined root node.id := ⟨node, hmem, rfl⟩
    exact hall _ n hf ((hsimulates.chainFrom_iff hf n).mp hchain)

end

/-! ## What is left of the shader -/

theorem mainIndex_eq_none_iff (h : Represents root dag) :
    dag.mainIndex = none ↔ ∀ node ∈ definitions root, node.getFunction.isMain = false := by
  unfold mainIndex
  rw [find?_eq_none]
  constructor
  · intro hnone node hmem
    have hlt := h.indexOf_lt ⟨node, hmem, rfl⟩
    have hentry := hnone _ (mem_reverse.mpr (mem_range.mpr hlt))
    rw [h.node_indexOf hmem] at hentry
    exact Bool.eq_false_iff.mpr hentry
  · intro hnone i hi
    obtain ⟨node, hmem, rfl⟩ := h.exists_indexOf (mem_range.mp (mem_reverse.mp hi))
    rw [h.node_indexOf hmem]
    exact Bool.eq_false_iff.mp (hnone node hmem)

theorem mainIndex_eq (h : Represents root dag) (hroot : WellFormed root)
    {main : TIntermFunctionDefinition} (hmem : main ∈ definitions root)
    (hmain : main.getFunction.isMain) : dag.mainIndex = some (dag.indexOf main.id) := by
  cases hfound : dag.mainIndex with
  | none =>
    have hnone := h.mainIndex_eq_none_iff.mp hfound main hmem
    exact absurd (hnone.symm.trans hmain) Bool.false_ne_true
  | some i =>
    have hi := mem_range.mp (mem_reverse.mp (mem_of_find?_eq_some hfound))
    obtain ⟨node, hmem', rfl⟩ := h.exists_indexOf hi
    have hnode := find?_some hfound
    rw [h.node_indexOf hmem'] at hnode
    rw [hroot.oneMain node hmem' main hmem hnode hmain]

/-- The functions that are marked are those that `main` reaches. -/
theorem tagUsedFunctions_spec (h : Represents root dag) (hroot : WellFormed root)
    (hcallable : Callable root) {main : TIntermFunctionDefinition}
    (hmem : main ∈ definitions root) (hmain : main.getFunction.isMain) {fuel : Nat}
    (hfuel : dag.size ≤ fuel) :
    ∃ used, dag.tagUsedFunctions fuel = some (some used) ∧ ∀ f, Defined root f →
        (used (dag.indexOf f) ↔ Relation.ReflTransGen (Calls root) main.id f) := by
  have hdefined : Defined root main.id := ⟨main, hmem, rfl⟩
  have hlt := h.indexOf_lt hdefined
  have hclosed : dag.ClosedBelow (dag.indexOf main.id + 1) fun _ => false :=
    fun i hi => absurd hi Bool.false_ne_true
  obtain ⟨used, hused, hmarks⟩ :=
    marks_internalTagUsedFunction h.descends (hlt.trans_le hfuel) hclosed
  refine ⟨used, ?_, fun f hf => ?_⟩
  · unfold tagUsedFunctions
    rw [h.mainIndex_eq hroot hmem hmain]
    dsimp only
    rw [hused, Option.map_some]
  · rw [hmarks]
    simp only [Bool.false_eq_true, false_or, mem_singleton, exists_eq_left]
    rw [(h.simulates hroot hcallable).reflTransGen_iff hdefined]
    constructor
    · rintro ⟨g, hg, hreach, hsame⟩
      rwa [← h.indexOf_injective hg hf hsame]
    · exact fun hreach => ⟨f, hf, hreach, rfl⟩

end Represents

/-- Only the definitions that `main` reaches are left, and every call of theirs is resolved. -/
structure PrunedTo (root : List TopLevel) (main : TIntermFunctionDefinition)
    (pruned : List TopLevel) : Prop where
  definition : ∀ node, node ∈ definitions pruned ↔
    node ∈ definitions root ∧ Relation.ReflTransGen (Calls root) main.id node.id
  wellFormed : WellFormed pruned
  resolved : ∀ f g, Calls pruned f g → Defined pruned g

def KeepsMarked (root : List TopLevel) (dag : CallDAG) (used : Nat → Bool) (kept : Nat → Prop) :
    Prop :=
  (∀ f, kept f → Defined root f) ∧ ∀ f,
    (∀ node, node.id = f → (dag.isUnused used (.functionDefinition node) = false ↔ kept f)) ∧
      ∀ getFunction : TFunction, getFunction.uniqueId = f →
        (dag.isUnused used (.functionPrototype getFunction) = false ↔ kept f)

theorem Represents.keepsMarked (h : Represents root dag) {used : Nat → Bool} {kept : Nat → Prop}
    (hkept : ∀ f, Defined root f → (used (dag.indexOf f) ↔ kept f))
    (hdefined : ∀ f, kept f → Defined root f) : KeepsMarked root dag used kept := by
  have hmarked : ∀ getFunction : TFunction,
      dag.isUnused used (.functionPrototype getFunction) = false ↔ kept getFunction.uniqueId := by
    intro getFunction
    simp only [isUnused]
    cases hindex : dag.findIndex getFunction.uniqueId with
    | none =>
      refine iff_of_false (by simp) fun hf => ?_
      rw [h.findIndex_eq (hdefined _ hf)] at hindex
      contradiction
    | some i =>
      have hf := h.isDefined _ i hindex
      rw [← hkept _ hf, ← Option.some.inj (hindex.symm.trans (h.findIndex_eq hf))]
      exact (Bool.not_eq_false' _).to_iff
  refine ⟨hdefined, fun f => ⟨?_, ?_⟩⟩
  · rintro node rfl
    exact hmarked node.getFunction
  · rintro getFunction rfl
    exact hmarked getFunction

namespace KeepsMarked

variable {used : Nat → Bool} {kept : Nat → Prop}

theorem mem_definitions (h : KeepsMarked root dag used kept) (nodes : List TopLevel)
    (node : TIntermFunctionDefinition) :
    node ∈ definitions (dag.pruneUnusedFunctions used nodes) ↔
      node ∈ definitions nodes ∧ kept node.id := by
  unfold definitions pruneUnusedFunctions
  simp only [mem_filterMap, mem_filter, Bool.not_eq_true']
  constructor
  · rintro ⟨top, ⟨hmem, hused⟩, hnode⟩
    cases top with
    | functionDefinition node' =>
      obtain rfl := Option.some.inj hnode
      exact ⟨⟨_, hmem, rfl⟩, ((h.2 _).1 node' rfl).mp hused⟩
    | functionPrototype getFunction => contradiction
    | other child => contradiction
  · rintro ⟨⟨top, hmem, hnode⟩, hkept⟩
    cases top with
    | functionDefinition node' =>
      obtain rfl := Option.some.inj hnode
      exact ⟨_, ⟨hmem, ((h.2 _).1 node' rfl).mpr hkept⟩, rfl⟩
    | functionPrototype getFunction => contradiction
    | other child => contradiction

/-- What is kept is declared before it is called, as it was. -/
theorem resolvedFrom (h : KeepsMarked root dag used kept) {nodes : List TopLevel}
    (hcallees : ∀ node ∈ definitions nodes, kept node.id → ∀ g ∈ node.callees, kept g)
    {declared declared' : List Nat} (hresolved : ResolvedFrom declared nodes)
    (hdeclared : ∀ f ∈ declared, kept f → f ∈ declared') :
    ResolvedFrom declared' (dag.pruneUnusedFunctions used nodes) := by
  induction nodes generalizing declared declared' with
  | nil => trivial
  | cons top rest ih =>
    unfold pruneUnusedFunctions at ih ⊢
    rw [filter_cons]
    cases top with
    | functionDefinition node =>
      obtain ⟨hbody, hrest⟩ := hresolved
      have hcallees' : ∀ node ∈ definitions rest, kept node.id → ∀ g ∈ node.callees, kept g :=
        fun node hmem => hcallees node (mem_cons_of_mem _ hmem)
      have hmark := (h.2 node.id).1 node rfl
      split
      case isTrue hkept =>
        have hself := hmark.mp ((Bool.not_eq_true' _).mp hkept)
        refine ⟨fun g hg => ?_, ih hcallees' hrest fun f hf hf' => ?_⟩
        · rcases mem_cons.mp (hbody g hg) with rfl | hold
          · exact mem_cons_self
          · exact mem_cons_of_mem _
              (hdeclared g hold (hcallees node mem_cons_self hself g hg))
        · rcases mem_cons.mp hf with rfl | hold
          · exact mem_cons_self
          · exact mem_cons_of_mem _ (hdeclared f hold hf')
      case isFalse hpruned =>
        refine ih hcallees' hrest fun f hf hf' => ?_
        rcases mem_cons.mp hf with rfl | hold
        · exact absurd ((Bool.not_eq_true' _).mpr (hmark.mpr hf')) hpruned
        · exact hdeclared f hold hf'
    | functionPrototype getFunction =>
      have hrest : ResolvedFrom (getFunction.uniqueId :: declared) rest := hresolved
      have hmark := (h.2 getFunction.uniqueId).2 getFunction rfl
      split
      case isTrue hkept =>
        refine ih hcallees hrest fun f hf hf' => ?_
        rcases mem_cons.mp hf with rfl | hold
        · exact mem_cons_self
        · exact mem_cons_of_mem _ (hdeclared f hold hf')
      case isFalse hpruned =>
        refine ih hcallees hrest fun f hf hf' => ?_
        rcases mem_cons.mp hf with rfl | hold
        · exact absurd ((Bool.not_eq_true' _).mpr (hmark.mpr hf')) hpruned
        · exact hdeclared f hold hf'
    | other child =>
      obtain ⟨hnone, hrest⟩ := hresolved
      have hother : (!dag.isUnused used (.other child)) := rfl
      rw [if_pos hother]
      exact ⟨hnone, ih hcallees hrest hdeclared⟩

end KeepsMarked

/-- Pruning leaves what `main` reaches. -/
theorem Represents.prunedTo (h : Represents root dag) (hroot : WellFormed root)
    (hcallable : Callable root) {main : TIntermFunctionDefinition}
    (hmem : main ∈ definitions root) {used : Nat → Bool} (hused : ∀ f, Defined root f →
      (used (dag.indexOf f) ↔ Relation.ReflTransGen (Calls root) main.id f)) :
    PrunedTo root main (dag.pruneUnusedFunctions used root) := by
  have hdefined : ∀ f, Relation.ReflTransGen (Calls root) main.id f → Defined root f := fun f =>
    reflTransGen_mem (fun f g _ hcall => hcallable.resolved f g hcall) ⟨main, hmem, rfl⟩
  have hmarked := h.keepsMarked hused hdefined
  have hcallees : ∀ node ∈ definitions root,
      Relation.ReflTransGen (Calls root) main.id node.id → ∀ g ∈ node.callees,
        Relation.ReflTransGen (Calls root) main.id g := fun node hnode hreach g hg =>
    hreach.tail ⟨node, hnode, rfl, hg⟩
  have hdefinition := hmarked.mem_definitions root
  refine ⟨hdefinition, ⟨?_, ?_, ?_⟩, ?_⟩
  · refine List.Nodup.sublist (List.Sublist.map _ ?_) hroot.definedOnce
    exact List.Sublist.filterMap _ filter_sublist
  · intro node hnode node' hnode'
    exact hroot.oneMain node ((hdefinition node).mp hnode).1 node' ((hdefinition node').mp hnode').1
  · exact hmarked.resolvedFrom hcallees hroot.resolved fun f hf => absurd hf not_mem_nil
  · rintro f g ⟨node, hnode, -, hg⟩
    obtain ⟨hnode', hreach⟩ := (hdefinition node).mp hnode
    have hg' := hcallees node hnode' hreach g hg
    obtain ⟨callee, hcallee, rfl⟩ := hdefined g hg'
    exact ⟨callee, (hdefinition callee).mpr ⟨hcallee, hg'⟩, rfl⟩

/-- The search for the call graph ends.  It succeeds exactly when no function reaches itself and
none calls an undefined one, and then the records are the functions in an order in which callees come
first, the check of the depth compares the longest chain of calls with the limit, and pruning leaves
what `main` reaches. -/
theorem callDag_correct (address : Nat → Nat) {root : List TopLevel} (hroot : WellFormed root) :
    ∃ rounds, ∀ fuel, rounds ≤ fuel → ∃ result dag,
      CallDAG.init address fuel root = some (result, dag) ∧
        (result = .INITDAG_SUCCESS ↔ Callable root) ∧
        (result = .INITDAG_SUCCESS → Represents root dag ∧
          (∀ limit : Int, dag.checkCallDepth limit = true ↔
            ∀ f n, Defined root f → ChainFrom (Calls root) f n → (n : Int) < limit) ∧
          ((∀ node ∈ definitions root, node.getFunction.isMain = false) →
            ∀ depth, dag.tagUsedFunctions depth = some none) ∧
          ∀ main ∈ definitions root, main.getFunction.isMain = true →
            ∀ depth, dag.size ≤ depth → ∃ used, dag.tagUsedFunctions depth = some (some used) ∧
              PrunedTo root main (dag.pruneUnusedFunctions used root)) := by
  obtain ⟨rounds, hrounds⟩ := init_spec address hroot
  refine ⟨rounds, fun fuel hfuel => ?_⟩
  obtain ⟨result, dag, hinit, hsuccess, hrepresents⟩ := hrounds fuel hfuel
  refine ⟨result, dag, hinit, hsuccess, fun hresult => ?_⟩
  have h := hrepresents hresult
  have hcallable := hsuccess.mp hresult
  refine ⟨h, h.checkCallDepth_iff hroot hcallable, fun hnone depth => ?_, ?_⟩
  · unfold tagUsedFunctions
    rw [h.mainIndex_eq_none_iff.mpr hnone]
  · intro main hmem hmain depth hdepth
    obtain ⟨used, hused, hmarked⟩ := h.tagUsedFunctions_spec hroot hcallable hmem hmain hdepth
    exact ⟨used, hused, h.prunedTo hroot hcallable hmem hmarked⟩

def functionMain : TFunction := ⟨1, "main", true⟩

def functionF : TFunction := ⟨2, "f", true⟩

def functionG : TFunction := ⟨3, "g", true⟩

def mainDefinition : TIntermFunctionDefinition :=
  ⟨functionMain, .other [.callFunctionInAST functionF []]⟩

/-- `main` and `g` call `f`, which is declared before it is defined. -/
def exampleShader : List TopLevel :=
  [.functionPrototype functionF, .functionDefinition mainDefinition,
    .functionDefinition ⟨functionF, .other []⟩,
    .functionDefinition ⟨functionG, .callFunctionInAST functionF []⟩]

theorem mem_definitions_exampleShader {node : TIntermFunctionDefinition}
    (h : node ∈ definitions exampleShader) :
    node = mainDefinition ∨ node = ⟨functionF, .other []⟩ ∨
      node = ⟨functionG, .callFunctionInAST functionF []⟩ := by
  have hlist : definitions exampleShader = [mainDefinition, ⟨functionF, .other []⟩,
    ⟨functionG, .callFunctionInAST functionF []⟩] := rfl
  rw [hlist] at h
  simpa using h

theorem wellFormed_exampleShader : WellFormed exampleShader where
  definedOnce := by decide
  oneMain := by
    have hmain : ∀ node ∈ definitions exampleShader,
        node.getFunction.isMain → node.id = 1 := by
      intro node hmem
      rcases mem_definitions_exampleShader hmem with rfl | rfl | rfl
      · decide
      · decide
      · decide
    intro node hmem node' hmem' h h'
    rw [hmain node hmem h, hmain node' hmem' h']
  resolved := ⟨by decide, by decide, by decide, trivial⟩

theorem callable_exampleShader : Callable exampleShader := by
  have hcall : ∀ f g, Calls exampleShader f g → g = 2 ∧ f ≠ 2 := by
    rintro f g ⟨node, hmem, rfl, hg⟩
    rcases mem_definitions_exampleShader hmem with rfl | rfl | rfl
    · exact ⟨mem_singleton.mp hg, by decide⟩
    · exact absurd hg not_mem_nil
    · exact ⟨mem_singleton.mp hg, by decide⟩
  constructor
  · intro f _
    have hrank : ∀ v w, True → Calls exampleShader v w →
        True ∧ (if w = 2 then 0 else 1) < if v = 2 then 0 else 1 := by
      intro v w _ hedge
      obtain ⟨rfl, hne⟩ := hcall v w hedge
      rw [if_pos rfl, if_neg hne]
      exact ⟨trivial, one_pos⟩
    exact not_transGen_self hrank trivial
  · intro f g hedge
    obtain ⟨rfl, -⟩ := hcall f g hedge
    exact ⟨⟨functionF, .other []⟩, mem_cons_of_mem _ mem_cons_self, rfl⟩

theorem callDag_correct_exampleShader :
    ∃ fuel dag, CallDAG.init (fun id => id) fuel exampleShader = some (.INITDAG_SUCCESS, dag) ∧
      ∃ used, dag.tagUsedFunctions dag.size = some (some used) ∧
        PrunedTo exampleShader mainDefinition (dag.pruneUnusedFunctions used exampleShader) := by
  obtain ⟨rounds, hrounds⟩ := callDag_correct (fun id => id) wellFormed_exampleShader
  obtain ⟨result, dag, hinit, hsuccess, hgraph⟩ := hrounds rounds (le_refl rounds)
  have hresult := hsuccess.mpr callable_exampleShader
  obtain ⟨-, -, -, hpruned⟩ := hgraph hresult
  refine ⟨rounds, dag, hresult ▸ hinit, ?_⟩
  exact hpruned mainDefinition mem_cons_self (by decide) dag.size (le_refl _)

end MetalAngle.Translator.CallDag
