import Mathlib.Algebra.Ring.Nat
import MetalAngle.Lib.RankedGraph
import MetalAngle.Translator.CallDagGraph

/-!
# The order of the call graph

The search that gives the functions their indices.  Its work list is a path of functions that are
being visited, each with those of its callees that are still to be processed above it.
-/

namespace MetalAngle.Translator.CallDag

open List Or Nat

namespace CallDAGCreator

variable (c : CallDAGCreator)

def IsDefined (f : Nat) : Prop := (c.mFunctions f).definitionNode.isSome

def IsVisiting (f : Nat) : Prop := (c.mFunctions f).visiting

def IsAssigned (f : Nat) : Prop := (c.mFunctions f).indexAssigned

def Edge (f g : Nat) : Prop := g ∈ (c.mFunctions f).callees

/-- The functions that have indices have those below `mCurrentIndex`, and come after what they
call. -/
structure Numbered : Prop where
  isDefined : ∀ f, c.IsAssigned f → c.IsDefined f
  callees : ∀ f g, c.IsAssigned f → c.Edge f g →
    c.IsAssigned g ∧ (c.mFunctions g).index < (c.mFunctions f).index
  bounded : ∀ f, c.IsAssigned f → (c.mFunctions f).index < c.mCurrentIndex
  injective : ∀ f g, c.IsAssigned f → c.IsAssigned g →
    (c.mFunctions f).index = (c.mFunctions g).index → f = g
  onto : ∀ i < c.mCurrentIndex, ∃ f, c.IsAssigned f ∧ (c.mFunctions f).index = i

/-- A path of functions that are being visited, the last one first, each with the callees it still
has to process; `above` is the function that comes next on it. -/
def PathFrom : Option Nat → List (Nat × List Nat) → Prop
  | _, [] => True
  | above, (f, pending) :: rest =>
    c.IsDefined f ∧ ¬ c.IsAssigned f ∧ f ∉ rest.map Prod.fst ∧
      (∀ g ∈ pending, c.Edge f g ∧ g ≠ f ∧ g ∉ rest.map Prod.fst) ∧
      (∀ g, c.Edge f g → g ∈ pending ∨ c.IsAssigned g ∨ above = some g) ∧
      (∀ g, above = some g → c.Edge f g) ∧ PathFrom (some f) rest

def toProcess : List (Nat × List Nat) → List Nat
  | [] => []
  | (f, pending) :: rest => pending ++ f :: toProcess rest

/-- The functions on the path are those being visited. -/
structure Visits (path : List (Nat × List Nat)) : Prop where
  visiting : ∀ f, c.IsVisiting f ↔ f ∈ path.map Prod.fst
  path : c.PathFrom none path
  numbered : c.Numbered

def weight (f : Nat) : Nat :=
  if (c.mFunctions f).visiting || (c.mFunctions f).indexAssigned then 0
  else (c.mFunctions f).callees.length + 1

def work (functionsToProcess : List Nat) : Nat :=
  functionsToProcess.length + (c.keys.map c.weight).sum

/-- The graph is the same. -/
structure SameGraph (c c' : CallDAGCreator) : Prop where
  keys : c'.keys = c.keys
  callees : ∀ f, (c'.mFunctions f).callees = (c.mFunctions f).callees
  definitionNode : ∀ f, (c'.mFunctions f).definitionNode = (c.mFunctions f).definitionNode

variable {c} {c' : CallDAGCreator}

namespace SameGraph

theorem refl (c : CallDAGCreator) : SameGraph c c := ⟨rfl, fun _ => rfl, fun _ => rfl⟩

section

variable (h : SameGraph c c')
include h

theorem trans {c'' : CallDAGCreator} (h' : SameGraph c' c'') :
    SameGraph c c'' where
  keys := h'.keys.trans h.keys
  callees := fun f => (h'.callees f).trans (h.callees f)
  definitionNode := fun f => (h'.definitionNode f).trans (h.definitionNode f)

theorem edge_iff (f g : Nat) : c'.Edge f g ↔ c.Edge f g := by
  unfold Edge
  rw [h.callees f]

theorem edge_eq : c'.Edge = c.Edge := by
  funext f g
  exact propext (h.edge_iff f g)

theorem isDefined_iff (f : Nat) : c'.IsDefined f ↔ c.IsDefined f := by
  unfold IsDefined
  rw [h.definitionNode f]

end

end SameGraph

/-! ## Pushing the callees -/

theorem pushCallees_of_none (callees functionsToProcess : List Nat)
    (h : ∀ callee ∈ callees, ¬ c.IsVisiting callee) :
    c.pushCallees callees functionsToProcess = (callees.reverse ++ functionsToProcess, false) := by
  induction callees generalizing functionsToProcess with
  | nil => rfl
  | cons callee rest ih =>
    have hother : ¬ (c.mFunctions callee).visiting := h callee mem_cons_self
    rw [pushCallees, if_neg hother, ih _ fun g hg => h g (mem_cons_of_mem _ hg), reverse_cons, append_assoc]
    rfl

theorem pushCallees_of_visiting (callees functionsToProcess : List Nat)
    (h : ∃ callee ∈ callees, c.IsVisiting callee) :
    (c.pushCallees callees functionsToProcess).2 := by
  induction callees generalizing functionsToProcess with
  | nil => exact absurd h fun ⟨_, hmem, _⟩ => not_mem_nil hmem
  | cons callee rest ih =>
    rw [pushCallees]
    split
    · rfl
    case isFalse hother =>
      obtain ⟨g, hmem, hg⟩ := h
      rcases mem_cons.mp hmem with rfl | hrest
      · exact absurd hg hother
      · exact ih _ ⟨g, hrest, hg⟩

/-! ## Finishing a function -/

def finish (c : CallDAGCreator) (f : Nat) : CallDAGCreator :=
  { c.modify f (fun data =>
      { data with visiting := false, index := c.mCurrentIndex, indexAssigned := true }) with
    mCurrentIndex := c.mCurrentIndex + 1 }

def visit (c : CallDAGCreator) (f : Nat) : CallDAGCreator :=
  c.modify f fun data => { data with visiting := true }

section

variable (c : CallDAGCreator)

theorem mFunctions_finish (f g : Nat) :
    (c.finish f).mFunctions g = if g = f then
        { c.mFunctions f with visiting := false, index := c.mCurrentIndex, indexAssigned := true }
      else c.mFunctions g :=
  Function.update_apply c.mFunctions f _ g

theorem mFunctions_visit (f g : Nat) :
    (c.visit f).mFunctions g =
      if g = f then { c.mFunctions f with visiting := true } else c.mFunctions g :=
  Function.update_apply c.mFunctions f _ g

theorem sameGraph_finish (f : Nat) : SameGraph c (c.finish f) where
  keys := rfl
  callees := fun g => by
    rw [mFunctions_finish]
    split
    case isTrue hsame => rw [hsame]
    case isFalse => rfl
  definitionNode := fun g => by
    rw [mFunctions_finish]
    split
    case isTrue hsame => rw [hsame]
    case isFalse => rfl

theorem sameGraph_visit (f : Nat) : SameGraph c (c.visit f) where
  keys := rfl
  callees := fun g => by
    rw [mFunctions_visit]
    split
    case isTrue hsame => rw [hsame]
    case isFalse => rfl
  definitionNode := fun g => by
    rw [mFunctions_visit]
    split
    case isTrue hsame => rw [hsame]
    case isFalse => rfl

theorem isAssigned_finish (f g : Nat) :
    (c.finish f).IsAssigned g ↔ g = f ∨ c.IsAssigned g := by
  unfold IsAssigned
  rw [mFunctions_finish]
  split
  case isTrue hsame => simp [hsame]
  case isFalse hother => simp [hother]

theorem isAssigned_visit (f g : Nat) :
    (c.visit f).IsAssigned g ↔ c.IsAssigned g := by
  unfold IsAssigned
  rw [mFunctions_visit]
  split
  case isTrue hsame => rw [hsame]
  case isFalse => rfl

theorem isVisiting_finish (f g : Nat) :
    (c.finish f).IsVisiting g ↔ g ≠ f ∧ c.IsVisiting g := by
  unfold IsVisiting
  rw [mFunctions_finish]
  split
  case isTrue hsame => simp [hsame]
  case isFalse hother => simp [hother]

theorem isVisiting_visit (f g : Nat) :
    (c.visit f).IsVisiting g ↔ g = f ∨ c.IsVisiting g := by
  unfold IsVisiting
  rw [mFunctions_visit]
  split
  case isTrue hsame => simp [hsame]
  case isFalse hother => simp [hother]

end

variable {f g : Nat}

theorem index_finish_of_ne (c : CallDAGCreator) (h : g ≠ f) :
    ((c.finish f).mFunctions g).index = (c.mFunctions g).index := by
  rw [mFunctions_finish, if_neg h]

theorem index_finish_self (c : CallDAGCreator) (f : Nat) :
    ((c.finish f).mFunctions f).index = c.mCurrentIndex := by
  rw [mFunctions_finish, if_pos rfl]

/-- A function whose callees have indices can get the next one. -/
theorem Numbered.finish (h : c.Numbered) (hdefined : c.IsDefined f)
    (hnew : ¬ c.IsAssigned f) (hcallees : ∀ g, c.Edge f g → c.IsAssigned g) :
    (c.finish f).Numbered := by
  have hold : ∀ g, c.IsAssigned g → g ≠ f := fun g hg hsame => hnew (hsame ▸ hg)
  have hindex : ∀ g, c.IsAssigned g → ((c.finish f).mFunctions g).index = (c.mFunctions g).index :=
    fun g hg => c.index_finish_of_ne (hold g hg)
  constructor
  · intro g hg
    rw [(c.sameGraph_finish f).isDefined_iff]
    rcases (c.isAssigned_finish f g).mp hg with rfl | hg
    · exact hdefined
    · exact h.isDefined g hg
  · intro a g ha hedge
    rw [(c.sameGraph_finish f).edge_iff] at hedge
    rw [isAssigned_finish]
    rcases (c.isAssigned_finish f a).mp ha with rfl | ha
    · have hg := hcallees g hedge
      rw [hindex g hg, index_finish_self]
      exact ⟨inr hg, h.bounded g hg⟩
    · obtain ⟨hg, hlt⟩ := h.callees a g ha hedge
      rw [hindex g hg, hindex a ha]
      exact ⟨inr hg, hlt⟩
  · intro g hg
    rcases (c.isAssigned_finish f g).mp hg with rfl | hg
    · rw [index_finish_self]
      exact lt_succ_self _
    · rw [hindex g hg]
      exact lt_succ_of_lt (h.bounded g hg)
  · intro a b ha hb hsame
    rcases (c.isAssigned_finish f a).mp ha with rfl | ha'
    · rcases (c.isAssigned_finish a b).mp hb with rfl | hb'
      · rfl
      · rw [index_finish_self, hindex b hb'] at hsame
        exact absurd hsame (ne_of_gt (h.bounded b hb'))
    · rcases (c.isAssigned_finish f b).mp hb with rfl | hb'
      · rw [index_finish_self, hindex a ha'] at hsame
        exact absurd hsame (Nat.ne_of_lt (h.bounded a ha'))
      · rw [hindex a ha', hindex b hb'] at hsame
        exact h.injective a b ha' hb' hsame
  · intro i hi
    have hi' : i < c.mCurrentIndex + 1 := hi
    rcases Nat.lt_succ_iff_lt_or_eq.mp hi' with hlt | rfl
    · obtain ⟨g, hg, rfl⟩ := h.onto i hlt
      exact ⟨g, (c.isAssigned_finish f g).mpr (inr hg), hindex g hg⟩
    · exact ⟨f, (c.isAssigned_finish f f).mpr (inl rfl), c.index_finish_self f⟩

theorem Numbered.visit (h : c.Numbered) (f : Nat) : (c.visit f).Numbered := by
  have hindex : ∀ g, ((c.visit f).mFunctions g).index = (c.mFunctions g).index := by
    intro g
    rw [mFunctions_visit]
    split
    case isTrue hsame => rw [hsame]
    case isFalse => rfl
  have hsame := c.sameGraph_visit f
  constructor
  · intro g hg
    rw [hsame.isDefined_iff]
    exact h.isDefined g ((c.isAssigned_visit f g).mp hg)
  · intro a g ha hedge
    rw [isAssigned_visit, hindex, hindex]
    exact h.callees a g ((c.isAssigned_visit f a).mp ha) ((hsame.edge_iff a g).mp hedge)
  · intro g hg
    rw [hindex]
    exact h.bounded g ((c.isAssigned_visit f g).mp hg)
  · intro a b ha hb heq
    rw [hindex, hindex] at heq
    exact h.injective a b ((c.isAssigned_visit f a).mp ha) ((c.isAssigned_visit f b).mp hb) heq
  · intro i hi
    obtain ⟨g, hg, rfl⟩ := h.onto i hi
    exact ⟨g, (c.isAssigned_visit f g).mpr hg, hindex g⟩

variable {path : List (Nat × List Nat)} {above : Option Nat}

section

variable (h : c.PathFrom above path)
include h

/-- A path stays one when functions beside it get indices, that above it among them. -/
theorem PathFrom.of_assigned {above' : Option Nat} (hsame : SameGraph c c')
    (hassigned : ∀ g, c.IsAssigned g → c'.IsAssigned g)
    (hnew : ∀ f ∈ path.map Prod.fst, ¬ c'.IsAssigned f)
    (habove : ∀ g, above = some g → above' = some g ∨ c'.IsAssigned g)
    (habove' : ∀ g, above' = some g → above = some g) : c'.PathFrom above' path := by
  induction path generalizing above above' with
  | nil => trivial
  | cons entry rest ih =>
    obtain ⟨f, pending⟩ := entry
    obtain ⟨hdefined, -, hfresh, hpending, hcallees, hcalled, hrest⟩ := h
    refine ⟨(hsame.isDefined_iff f).mpr hdefined, hnew f mem_cons_self, hfresh, ?_, ?_, ?_, ?_⟩
    · intro g hg
      rw [hsame.edge_iff]
      exact hpending g hg
    · intro g hedge
      rcases hcallees g ((hsame.edge_iff f g).mp hedge) with hg | hg | hg
      · exact inl hg
      · exact inr (inl (hassigned g hg))
      · exact inr ((habove g hg).symm)
    · intro g hg
      rw [hsame.edge_iff]
      exact hcalled g (habove' g hg)
    · exact ih hrest (fun g hg => hnew g (mem_cons_of_mem _ hg)) (fun _ hg => inl hg)
        fun _ hg => hg

theorem PathFrom.not_assigned (hf : f ∈ path.map Prod.fst) : ¬ c.IsAssigned f := by
  induction path generalizing above with
  | nil => exact absurd hf not_mem_nil
  | cons entry rest ih =>
    obtain ⟨-, hnew, -, -, -, -, hrest⟩ := h
    rcases mem_cons.mp hf with rfl | hf
    · exact hnew
    · exact ih hrest hf

theorem PathFrom.reaches (hf : f ∈ path.map Prod.fst)
    (habove : above = some g) : Relation.TransGen c.Edge f g := by
  induction path generalizing above g with
  | nil => exact absurd hf not_mem_nil
  | cons entry rest ih =>
    obtain ⟨-, -, -, -, -, hcalled, hrest⟩ := h
    have hedge := hcalled g habove
    rcases mem_cons.mp hf with rfl | hf
    · exact .single hedge
    · exact .tail (ih hrest hf rfl) hedge

end

/-! ## One round -/

variable {rest : List (Nat × List Nat)}

/-- The last function of the path has no callees left and gets its index. -/
theorem Visits.finish (h : c.Visits ((f, []) :: rest)) :
    (c.finish f).Visits rest := by
  obtain ⟨hdefined, hnew, hfresh, -, hcallees, -, hrest⟩ := h.path
  have hassigned : ∀ g, c.Edge f g → c.IsAssigned g := by
    intro g hedge
    rcases hcallees g hedge with hg | hg | hg
    · exact absurd hg not_mem_nil
    · exact hg
    · contradiction
  constructor
  · intro g
    rw [isVisiting_finish, h.visiting, map_cons, mem_cons]
    constructor
    · rintro ⟨hne, hsame | hg⟩
      · exact absurd hsame hne
      · exact hg
    · exact fun hg => ⟨fun hsame => hfresh (hsame ▸ hg), inr hg⟩
  · have hothers : ∀ g ∈ rest.map Prod.fst, ¬ (c.finish f).IsAssigned g := by
      intro g hg hassigned
      rcases (c.isAssigned_finish f g).mp hassigned with rfl | hold
      · exact hfresh hg
      · exact hrest.not_assigned hg hold
    exact hrest.of_assigned (c.sameGraph_finish f)
      (fun g hg => (c.isAssigned_finish f g).mpr (inr hg)) hothers
      (fun g hg => inr ((c.isAssigned_finish f g).mpr (inl (Option.some.inj hg).symm)))
      (fun g hg => by contradiction)
  · exact h.numbered.finish hdefined hnew hassigned

variable {pending : List Nat}

theorem Visits.not_visiting
    (h : c.Visits ((f, g :: pending) :: rest)) : ¬ c.IsVisiting g := by
  obtain ⟨-, -, -, hpending, -⟩ := h.path
  obtain ⟨-, hne, hfresh⟩ := hpending g mem_cons_self
  rw [h.visiting, map_cons, mem_cons]
  rintro (hsame | hmem)
  · exact hne hsame
  · exact hfresh hmem

theorem Visits.pop
    (h : c.Visits ((f, g :: pending) :: rest)) (hassigned : c.IsAssigned g) :
    c.Visits ((f, pending) :: rest) := by
  obtain ⟨hdefined, hnew, hfresh, hpending, hcallees, hcalled, hrest⟩ := h.path
  refine ⟨h.visiting, ⟨hdefined, hnew, hfresh, fun a ha => hpending a (mem_cons_of_mem _ ha),
    ?_, hcalled, hrest⟩, h.numbered⟩
  intro a hedge
  rcases hcallees a hedge with ha | ha | ha
  · rcases mem_cons.mp ha with rfl | ha
    · exact inr (inl hassigned)
    · exact inl ha
  · exact inr (inl ha)
  · exact inr (inr ha)

theorem visits_push
    (hvisiting : ∀ f, c.IsVisiting f ↔ f ∈ path.map Prod.fst)
    (hpath : (c.visit g).PathFrom (some g) path) (hnumbered : c.Numbered)
    (hdefined : c.IsDefined g) (hnew : ¬ c.IsAssigned g) (hfresh : ¬ c.IsVisiting g)
    (hcallees : ∀ callee ∈ (c.mFunctions g).callees, ¬ (c.visit g).IsVisiting callee) :
    (c.visit g).Visits ((g, (c.mFunctions g).callees.reverse) :: path) := by
  have hsame := c.sameGraph_visit g
  refine ⟨?_, ⟨(hsame.isDefined_iff g).mpr hdefined, mt (c.isAssigned_visit g g).mp hnew,
    mt (hvisiting g).mpr hfresh, ?_, ?_, fun a ha => by contradiction, hpath⟩, hnumbered.visit g⟩
  · intro f
    rw [isVisiting_visit, hvisiting, map_cons, mem_cons]
  · intro callee hcallee
    have hmem := mem_reverse.mp hcallee
    have hnone := hcallees callee hmem
    rw [isVisiting_visit, hvisiting, not_or] at hnone
    exact ⟨(hsame.edge_iff g callee).mpr hmem, hnone⟩
  · intro callee hedge
    exact inl (mem_reverse.mpr ((hsame.edge_iff g callee).mp hedge))

/-- The next pending callee comes above the last function of the path. -/
theorem Visits.pathFrom_push
    (h : c.Visits ((f, g :: pending) :: rest)) :
    (c.visit g).PathFrom (some g) ((f, pending) :: rest) := by
  have hsame := c.sameGraph_visit g
  have hassigned := fun a => (c.isAssigned_visit g a).mpr
  obtain ⟨hf, hf', hfresh, hpending, hcalls, -, hrest⟩ := h.path
  refine ⟨(hsame.isDefined_iff f).mpr hf, mt (c.isAssigned_visit g f).mp hf', hfresh, ?_, ?_, ?_, ?_⟩
  · intro a ha
    rw [hsame.edge_iff]
    exact hpending a (mem_cons_of_mem _ ha)
  · intro a hedge
    rcases hcalls a ((hsame.edge_iff f a).mp hedge) with ha | ha | ha
    · rcases mem_cons.mp ha with rfl | ha
      · exact inr (inr rfl)
      · exact inl ha
    · exact inr (inl (hassigned a ha))
    · contradiction
  · intro a ha
    cases ha
    rw [hsame.edge_iff]
    exact (hpending g mem_cons_self).1
  · exact hrest.of_assigned hsame hassigned
      (fun a ha => mt (c.isAssigned_visit g a).mp (hrest.not_assigned ha))
      (fun _ ha => inl ha) fun _ ha => ha

theorem cycle_of_visiting {callee : Nat} (hvisiting : ∀ f, c.IsVisiting f ↔ f ∈ path.map Prod.fst)
    (hpath : (c.visit g).PathFrom (some g) path) (hdefined : c.IsDefined g)
    (hedge : c.Edge g callee) (hcallee : (c.visit g).IsVisiting callee) :
    ∃ f, c.IsDefined f ∧ Relation.TransGen c.Edge f f := by
  rcases (c.isVisiting_visit g callee).mp hcallee with rfl | hold
  · exact ⟨callee, hdefined, .single hedge⟩
  · have hmem := (hvisiting callee).mp hold
    have hreaches := hpath.reaches hmem rfl
    rw [(c.sameGraph_visit g).edge_eq] at hreaches
    exact ⟨g, hdefined, .head hedge hreaches⟩

/-! ## The work there is -/

theorem sum_map_le {w w' : Nat → Nat} (hle : ∀ g, w' g ≤ w g) (keys : List Nat) :
    (keys.map w').sum ≤ (keys.map w).sum := by
  induction keys with
  | nil => exact le_refl _
  | cons g rest ih =>
    exact Nat.add_le_add (hle g) ih

theorem sum_map_add_le {w w' : Nat → Nat} {keys : List Nat} {k : Nat} (hf : f ∈ keys)
    (hle : ∀ g, w' g ≤ w g) (hdrop : w' f + k ≤ w f) :
    (keys.map w').sum + k ≤ (keys.map w).sum := by
  induction keys with
  | nil => exact absurd hf not_mem_nil
  | cons g rest ih =>
    have hrest := sum_map_le hle rest
    rw [map_cons, sum_cons, map_cons, sum_cons]
    rcases mem_cons.mp hf with rfl | hf
    · omega
    · have hdropped := ih hf
      have hfirst := hle g
      omega

theorem weight_visit (c : CallDAGCreator) (f g : Nat) :
    (c.visit f).weight g = if g = f then 0 else c.weight g := by
  unfold weight
  rw [mFunctions_visit]
  split
  · rfl
  · rfl

theorem weight_finish (h : c.IsVisiting f) : (c.finish f).weight = c.weight := by
  funext g
  unfold weight
  rw [mFunctions_finish]
  by_cases hsame : g = f
  · subst hsame
    rw [if_pos rfl, show (c.mFunctions g).visiting = true from h]
    rfl
  · rw [if_neg hsame]

theorem work_finish (h : c.IsVisiting f) (others : List Nat) :
    (c.finish f).work others + 1 = c.work (f :: others) := by
  unfold work
  rw [weight_finish h, length_cons]
  show others.length + (c.keys.map c.weight).sum + 1 = _
  omega

theorem work_visit (hkey : f ∈ c.keys) (hvisiting : ¬ c.IsVisiting f)
    (hassigned : ¬ c.IsAssigned f) (others : List Nat) :
    (c.visit f).work ((c.mFunctions f).callees.reverse ++ f :: others) + 1 ≤
      c.work (f :: others) := by
  have hweight : c.weight f = (c.mFunctions f).callees.length + 1 := by
    unfold weight
    rw [Bool.eq_false_iff.mpr hvisiting, Bool.eq_false_iff.mpr hassigned]
    rfl
  have hle : ∀ g, (c.visit f).weight g ≤ c.weight g := by
    intro g
    rw [weight_visit]
    split
    · exact zero_le _
    · exact le_refl _
  have hdrop : (c.visit f).weight f + ((c.mFunctions f).callees.length + 1) ≤ c.weight f := by
    rw [weight_visit, if_pos rfl, hweight]
    omega
  have hsum := sum_map_add_le hkey hle hdrop
  unfold work
  rw [length_append, length_reverse]
  show _ + (c.keys.map (c.visit f).weight).sum + 1 ≤ _
  omega

/-! ## The rounds of the loop -/

theorem process_of_visiting (h : c.IsVisiting f) (others : List Nat) :
    c.process f others = (c.finish f, others, none) := if_pos h

theorem isNone_definitionNode_iff (c : CallDAGCreator) (f : Nat) :
    (c.mFunctions f).definitionNode.isNone ↔ ¬ c.IsDefined f := by
  unfold IsDefined
  cases (c.mFunctions f).definitionNode with
  | none => simp
  | some node => simp

theorem process_of_undefined (hvisiting : ¬ c.IsVisiting f) (h : ¬ c.IsDefined f)
    (others : List Nat) : c.process f others = (c, f :: others, some .INITDAG_UNDEFINED) :=
  (if_neg hvisiting).trans (if_pos ((c.isNone_definitionNode_iff f).mpr h))

theorem process_of_assigned (hvisiting : ¬ c.IsVisiting f) (hdefined : c.IsDefined f)
    (h : c.IsAssigned f) (others : List Nat) : c.process f others = (c, others, none) :=
  ((if_neg hvisiting).trans (if_neg fun hnone =>
    (c.isNone_definitionNode_iff f).mp hnone hdefined)).trans (if_pos h)

theorem process_of_new (hvisiting : ¬ c.IsVisiting f) (hdefined : c.IsDefined f)
    (hnew : ¬ c.IsAssigned f) (others : List Nat) :
    c.process f others =
      (c.visit f, ((c.visit f).pushCallees (c.mFunctions f).callees (f :: others)).1,
        if ((c.visit f).pushCallees (c.mFunctions f).callees (f :: others)).2 then
          some .INITDAG_RECURSION else none) :=
  ((if_neg hvisiting).trans (if_neg fun hnone =>
    (c.isNone_definitionNode_iff f).mp hnone hdefined)).trans (if_neg hnew)

/-! ## The loop -/

def Outcome (c c' : CallDAGCreator) (functionsToProcess : List Nat) : InitResult → Prop
  | .INITDAG_SUCCESS =>
    c'.Visits [] ∧ (∀ f ∈ functionsToProcess, c'.IsAssigned f) ∧
      ∀ f, c.IsAssigned f → c'.IsAssigned f
  | .INITDAG_RECURSION => ∃ f, c.IsDefined f ∧ Relation.TransGen c.Edge f f
  | .INITDAG_UNDEFINED => ∃ f g, c.IsDefined f ∧ c.Edge f g ∧ ¬ c.IsDefined g

variable {first : List Nat}

theorem Outcome.of_step {mid : CallDAGCreator} {result : InitResult} {next : List Nat}
    (h : Outcome mid c' next result) (hsame : SameGraph c mid)
    (hassigned : ∀ f, c.IsAssigned f → mid.IsAssigned f)
    (hdone : ∀ f ∈ first, f ∈ next ∨ mid.IsAssigned f) : Outcome c c' first result := by
  cases result with
  | INITDAG_SUCCESS =>
    obtain ⟨hvisits, hnext, hmono⟩ := h
    refine ⟨hvisits, fun f hf => ?_, fun f hf => hmono f (hassigned f hf)⟩
    rcases hdone f hf with hf | hf
    · exact hnext f hf
    · exact hmono f hf
  | INITDAG_RECURSION =>
    obtain ⟨f, hf, hcycle⟩ := h
    rw [hsame.edge_eq] at hcycle
    exact ⟨f, (hsame.isDefined_iff f).mp hf, hcycle⟩
  | INITDAG_UNDEFINED =>
    obtain ⟨f, g, hf, hedge, hg⟩ := h
    exact ⟨f, g, (hsame.isDefined_iff f).mp hf, (hsame.edge_iff f g).mp hedge,
      mt (hsame.isDefined_iff g).mpr hg⟩

/-- The loop ends, and says what it has shown. -/
def Ends (c : CallDAGCreator) (functionsToProcess : List Nat)
    (outcome : Option (InitResult × CallDAGCreator)) : Prop :=
  ∃ result c', outcome = some (result, c') ∧ SameGraph c c' ∧
    Outcome c c' functionsToProcess result

theorem Ends.of_step {mid : CallDAGCreator} {next : List Nat}
    {outcome : Option (InitResult × CallDAGCreator)} (h : Ends mid next outcome)
    (hsame : SameGraph c mid) (hassigned : ∀ f, c.IsAssigned f → mid.IsAssigned f)
    (hdone : ∀ f ∈ first, f ∈ next ∨ mid.IsAssigned f) : Ends c first outcome := by
  obtain ⟨result, c', houtcome, hgraph, h⟩ := h
  exact ⟨result, c', houtcome, hsame.trans hgraph, h.of_step hsame hassigned hdone⟩

theorem ends_of_error {error : InitResult} (hsame : SameGraph c c')
    (h : Outcome c c' first error) : Ends c first (some (error, c')) :=
  ⟨error, c', rfl, hsame, h⟩

variable {fuel : Nat}

/-- A function that is neither being visited nor has an index, above a path. -/
theorem ends_of_visit {others : List Nat}
    (ih : ∀ (c : CallDAGCreator) (path : List (Nat × List Nat)) (base : List Nat), c.Visits path →
      (∀ f, c.IsDefined f → f ∈ c.keys) → (∀ f ∈ base, c.IsDefined f) →
      c.work (toProcess path ++ base) ≤ fuel →
      Ends c (toProcess path ++ base) (processAll fuel c (toProcess path ++ base)))
    {base : List Nat} (hothers : others = toProcess path ++ base)
    (hvisiting : ∀ f, c.IsVisiting f ↔ f ∈ path.map Prod.fst)
    (hpath : (c.visit g).PathFrom (some g) path) (hnumbered : c.Numbered)
    (hkeys : ∀ f, c.IsDefined f → f ∈ c.keys) (hbase : ∀ f ∈ base, c.IsDefined f)
    (hfresh : ¬ c.IsVisiting g) (hdefined : c.IsDefined g) (hnew : ¬ c.IsAssigned g)
    (hwork : c.work (g :: others) ≤ fuel + 1) :
    Ends c (g :: others) (processAll (fuel + 1) c (g :: others)) := by
  unfold processAll
  rw [process_of_new hfresh hdefined hnew]
  by_cases hcallees : ∃ callee ∈ (c.mFunctions g).callees, (c.visit g).IsVisiting callee
  · rw [if_pos (pushCallees_of_visiting _ _ hcallees)]
    obtain ⟨callee, hedge, hcallee⟩ := hcallees
    exact ends_of_error (c.sameGraph_visit g)
      (cycle_of_visiting hvisiting hpath hdefined hedge hcallee)
  · have hnone : ∀ callee ∈ (c.mFunctions g).callees, ¬ (c.visit g).IsVisiting callee :=
      fun callee hmem hvisited => hcallees ⟨callee, hmem, hvisited⟩
    rw [pushCallees_of_none _ _ hnone, if_neg Bool.false_ne_true]
    have hvisits := visits_push hvisiting hpath hnumbered hdefined hnew hfresh hnone
    have hless := work_visit (hkeys g hdefined) hfresh hnew others
    have hlist : (c.mFunctions g).callees.reverse ++ g :: others =
        toProcess ((g, (c.mFunctions g).callees.reverse) :: path) ++ base := by
      rw [hothers, toProcess, append_assoc, cons_append]
    have hsame := c.sameGraph_visit g
    have hrest : Ends (c.visit g) ((c.mFunctions g).callees.reverse ++ g :: others)
        (processAll fuel (c.visit g) ((c.mFunctions g).callees.reverse ++ g :: others)) := by
      rw [hlist] at hless ⊢
      refine ih _ _ base hvisits ?_ ?_ (by omega)
      · intro f hf
        exact hkeys f ((hsame.isDefined_iff f).mp hf)
      · intro f hf
        exact (hsame.isDefined_iff f).mpr (hbase f hf)
    exact hrest.of_step hsame (fun f => (c.isAssigned_visit g f).mpr)
      fun f hf => inl (mem_append_right _ hf)

theorem ends_processAll (fuel : Nat) (c : CallDAGCreator) (path : List (Nat × List Nat))
    (base : List Nat) (h : c.Visits path) (hkeys : ∀ f, c.IsDefined f → f ∈ c.keys)
    (hbase : ∀ f ∈ base, c.IsDefined f) (hwork : c.work (toProcess path ++ base) ≤ fuel) :
    Ends c (toProcess path ++ base) (processAll fuel c (toProcess path ++ base)) := by
  induction fuel generalizing c path base with
  | zero =>
    have hnil : toProcess path ++ base = [] := by
      apply length_eq_zero_iff.mp
      unfold work at hwork
      omega
    rw [hnil] at hwork ⊢
    have hpath : path = [] := by
      cases path with
      | nil => rfl
      | cons entry rest =>
        have hcons : toProcess (entry :: rest) ≠ [] := by
          exact append_ne_nil_of_right_ne_nil _ (cons_ne_nil _ _)
        exact absurd (append_eq_nil_iff.mp hnil).1 hcons
    subst hpath
    exact ⟨_, c, rfl, SameGraph.refl c, h, fun f hf => absurd hf not_mem_nil, fun _ hf => hf⟩
  | succ fuel ih =>
    -- What comes next is the pending callee at the top, the last function of the path, or the root.
    match path with
    | (f, g :: pending) :: rest =>
      have hother : toProcess ((f, g :: pending) :: rest) ++ base =
          g :: (toProcess ((f, pending) :: rest) ++ base) := rfl
      rw [hother] at hwork ⊢
      have hnot := h.not_visiting
      by_cases hdefined : c.IsDefined g
      · by_cases hassigned : c.IsAssigned g
        · unfold processAll
          rw [process_of_assigned hnot hdefined hassigned]
          have hrest := ih c _ base (h.pop hassigned) hkeys hbase (by
            unfold work at hwork ⊢
            rw [length_cons] at hwork
            omega)
          refine hrest.of_step (SameGraph.refl c) (fun _ hf => hf) fun a ha => ?_
          rcases mem_cons.mp ha with rfl | ha
          · exact inr hassigned
          · exact inl ha
        · have hvisiting : ∀ a, c.IsVisiting a ↔ a ∈ ((f, pending) :: rest).map Prod.fst :=
            h.visiting
          exact ends_of_visit ih rfl hvisiting h.pathFrom_push h.numbered hkeys hbase hnot hdefined
            hassigned hwork
      · unfold processAll
        rw [process_of_undefined hnot hdefined]
        obtain ⟨hf, -, -, hpending, -⟩ := h.path
        exact ends_of_error (SameGraph.refl c)
          ⟨f, g, hf, (hpending g mem_cons_self).1, hdefined⟩
    | (f, []) :: rest =>
      have hvisiting : c.IsVisiting f := (h.visiting f).mpr mem_cons_self
      have hother : toProcess ((f, []) :: rest) ++ base = f :: (toProcess rest ++ base) := rfl
      rw [hother] at hwork ⊢
      unfold processAll
      rw [process_of_visiting hvisiting]
      have hsame := c.sameGraph_finish f
      have hless := work_finish hvisiting (toProcess rest ++ base)
      have hrest := ih (c.finish f) rest base h.finish
        (fun a ha => hkeys a ((hsame.isDefined_iff a).mp ha))
        (fun a ha => (hsame.isDefined_iff a).mpr (hbase a ha)) (by omega)
      refine hrest.of_step hsame (fun a ha => (c.isAssigned_finish f a).mpr (inr ha))
        fun a ha => ?_
      rcases mem_cons.mp ha with rfl | ha
      · exact inr ((c.isAssigned_finish a a).mpr (inl rfl))
      · exact inl ha
    | [] =>
      match base with
      | [] =>
        exact ⟨_, c, rfl, SameGraph.refl c, h, fun f hf => absurd hf not_mem_nil,
          fun _ hf => hf⟩
      | g :: base =>
        have hnot : ¬ c.IsVisiting g := fun hg => absurd ((h.visiting g).mp hg) not_mem_nil
        have hdefined := hbase g mem_cons_self
        have hbase' : ∀ f ∈ base, c.IsDefined f := fun f hf => hbase f (mem_cons_of_mem _ hf)
        by_cases hassigned : c.IsAssigned g
        · show Ends c (g :: base) (processAll (fuel + 1) c (g :: base))
          unfold processAll
          rw [process_of_assigned hnot hdefined hassigned]
          have hrest := ih c [] base h hkeys hbase' (by
            have hwork' : c.work (g :: base) ≤ fuel + 1 := hwork
            unfold work at hwork'
            rw [length_cons] at hwork'
            show base.length + _ ≤ fuel
            omega)
          refine Ends.of_step hrest (SameGraph.refl c) (fun _ hf => hf) fun a ha => ?_
          rcases mem_cons.mp ha with rfl | ha
          · exact inr hassigned
          · exact inl ha
        · exact ends_of_visit ih (show base = toProcess [] ++ base from rfl) h.visiting trivial h.numbered hkeys hbase' hnot
            hdefined hassigned hwork

/-! ## All functions -/

def budget (c : CallDAGCreator) : Nat :=
  (c.keys.map fun f => (c.mFunctions f).callees.length + 1).sum + 1

theorem SameGraph.budget_eq (h : SameGraph c c') : c'.budget = c.budget := by
  unfold budget
  rw [h.keys]
  simp only [h.callees]

theorem work_singleton_le (c : CallDAGCreator) (root : Nat) : c.work [root] ≤ c.budget := by
  have hle : ∀ f, c.weight f ≤ (c.mFunctions f).callees.length + 1 := by
    intro f
    unfold weight
    split
    · exact zero_le _
    · exact le_refl _
  have hsum := sum_map_le hle c.keys
  unfold work budget
  rw [length_singleton]
  omega

theorem ends_assignIndicesInternal (h : c.Visits [])
    (hkeys : ∀ f, c.IsDefined f → f ∈ c.keys) (hfuel : c.budget ≤ fuel) {root : Nat}
    (hroot : c.IsDefined root) : Ends c [root] (c.assignIndicesInternal fuel root) := by
  unfold assignIndicesInternal
  split
  case isTrue hassigned =>
    refine ⟨_, c, rfl, SameGraph.refl c, h, fun f hf => ?_, fun _ hf => hf⟩
    rw [mem_singleton.mp hf]
    exact hassigned
  case isFalse =>
    refine ends_processAll fuel c [] [root] h hkeys (fun f hf => ?_)
      ((c.work_singleton_le root).trans hfuel)
    rw [mem_singleton.mp hf]
    exact hroot

/-- Every defined function in a list gets an index, or the loop ends with an error. -/
theorem ends_assignIndices (ids : List Nat) (h : c.Visits [])
    (hkeys : ∀ f, c.IsDefined f → f ∈ c.keys) (hfuel : c.budget ≤ fuel) :
    Ends c (ids.filter fun f => (c.mFunctions f).definitionNode.isSome)
      (assignIndices fuel c ids) := by
  induction ids generalizing c with
  | nil =>
    exact ⟨_, c, rfl, SameGraph.refl c, h, fun f hf => absurd hf not_mem_nil, fun _ hf => hf⟩
  | cons id rest ih =>
    unfold assignIndices
    split
    case isFalse hundefined =>
      rw [filter_cons, if_neg hundefined]
      exact ih h hkeys hfuel
    case isTrue hdefined =>
      rw [filter_cons, if_pos hdefined]
      obtain ⟨result, c', houtcome, hsame, hfirst⟩ :=
        ends_assignIndicesInternal h hkeys hfuel hdefined
      rw [houtcome]
      cases result with
      | INITDAG_RECURSION => exact ends_of_error hsame hfirst
      | INITDAG_UNDEFINED => exact ends_of_error hsame hfirst
      | INITDAG_SUCCESS =>
        obtain ⟨hvisits, hdone, hmono⟩ := hfirst
        have hkeys' : ∀ f, c'.IsDefined f → f ∈ c'.keys := fun f hf => by
          rw [hsame.keys]
          exact hkeys f ((hsame.isDefined_iff f).mp hf)
        have hrest := ih hvisits hkeys' (hsame.budget_eq.trans_le hfuel)
        refine hrest.of_step hsame hmono fun f hf => ?_
        rcases mem_cons.mp hf with rfl | hf
        · exact inr (hdone f mem_cons_self)
        · refine inl (mem_filter.mpr ⟨(mem_filter.mp hf).1, ?_⟩)
          exact (hsame.isDefined_iff f).mpr (mem_filter.mp hf).2

end CallDAGCreator

end MetalAngle.Translator.CallDag
