import Mathlib.Tactic

/-!
# The insertions of `updateTree`

A traverser queues statements to insert around the children of blocks.  `updateTree` sorts the
queue and applies it from its end, so that positions are not shifted by what was inserted before.
-/

namespace MetalAngle.Translator

open List

variable {ν : Type*}

structure NodeInsertMultipleEntry (ν : Type*) where
  parent : Nat
  position : Nat
  insertionsBefore : List ν
  insertionsAfter : List ν

abbrev Sequences (ν : Type*) := Nat → List ν

def compareInsertion (a b : NodeInsertMultipleEntry ν) : Bool :=
  if a.parent ≠ b.parent then a.parent < b.parent
  else a.position < b.position

def insertChildNodes (sequence : List ν) (position : Nat) (insertions : List ν) :
    Option (List ν) :=
  if sequence.length < position then none
  else some (sequence.take position ++ (insertions ++ sequence.drop position))

def insertAround (sequence : List ν) (insertion : NodeInsertMultipleEntry ν) :
    Option (List ν) := do
  let sequence ← if insertion.insertionsAfter ≠ [] then
      insertChildNodes sequence (insertion.position + 1) insertion.insertionsAfter
    else some sequence
  if insertion.insertionsBefore ≠ [] then
    insertChildNodes sequence insertion.position insertion.insertionsBefore
  else some sequence

/-- One round of the loop of `updateTree`. -/
def applyInsertion (insertion : NodeInsertMultipleEntry ν) (tree : Sequences ν) :
    Option (Sequences ν) :=
  (insertAround (tree insertion.parent) insertion).map fun sequence =>
    Function.update tree insertion.parent sequence

/-- `std::stable_sort` of the queue. -/
def sortInsertions (mInsertions : List (NodeInsertMultipleEntry ν)) :
    List (NodeInsertMultipleEntry ν) :=
  mInsertions.mergeSort fun a b => !compareInsertion b a

/-- The part of `updateTree` that applies the insertions, from the last to the first. -/
def updateTree (mInsertions : List (NodeInsertMultipleEntry ν)) (tree : Sequences ν) :
    Option (Sequences ν) :=
  (sortInsertions mInsertions).foldrM applyInsertion tree

/-! ## Blocks as rows of segments -/

def render (segment : Nat → ν → List ν) : Nat → List ν → List ν
  | _, [] => []
  | i, child :: children => segment i child ++ render segment (i + 1) children

def insertionsAt (mInsertions : List (NodeInsertMultipleEntry ν)) (parent position : Nat) :
    List (NodeInsertMultipleEntry ν) :=
  mInsertions.filter fun insertion => insertion.parent = parent ∧ insertion.position = position

def surround (insertions : List (NodeInsertMultipleEntry ν)) (child : ν) : List ν :=
  insertions.flatMap (·.insertionsBefore) ++ child :: insertions.flatMap (·.insertionsAfter)

/-- What the loop makes of a child: the statements after go behind the first statement of what the
later insertions have made. -/
def segment (insertions : List (NodeInsertMultipleEntry ν)) (child : ν) : List ν :=
  match insertions with
  | [] => [child]
  | insertion :: insertions =>
      insertion.insertionsBefore ++ ((segment insertions child).take 1 ++
        (insertion.insertionsAfter ++ (segment insertions child).drop 1))

variable {f g : Nat → ν → List ν} {children : List ν} {i position : Nat}

theorem render_congr (h : ∀ j, i ≤ j → ∀ child, f j child = g j child) :
    render f i children = render g i children := by
  induction children generalizing i with
  | nil => rfl
  | cons child children ih =>
    rw [render, render, h i (Nat.le_refl i), ih]
    intro j hle
    exact h j (by omega)

theorem render_split (hposition : position < children.length)
    (hsingle : ∀ j, i ≤ j → j < i + position → ∀ child, f j child = [child]) :
    render f i children = children.take position ++ (f (i + position) children[position] ++
      render f (i + position + 1) (children.drop (position + 1))) := by
  induction position generalizing i children with
  | zero =>
    cases children with
    | nil => simp at hposition
    | cons child children => simp [render]
  | succ position ih =>
    cases children with
    | nil => simp at hposition
    | cons child children =>
      have hlt : position < children.length := by simpa using hposition
      have hrest := ih (i := i + 1) hlt fun j hle hj => hsingle j (by omega) (by omega)
      have hindex : i + 1 + position = i + (position + 1) := by omega
      rw [render, hsingle i (Nat.le_refl i) (by omega), hrest, hindex]
      simp

theorem segment_of_render_eq (hlength : ∀ j child, (f j child).length = (g j child).length)
    (h : render f i children = render g i children) (hposition : position < children.length) :
    f (i + position) children[position] = g (i + position) children[position] := by
  induction position generalizing i children with
  | zero =>
    cases children with
    | nil => simp at hposition
    | cons child children => exact (append_inj h (hlength i child)).1
  | succ position ih =>
    cases children with
    | nil => simp at hposition
    | cons child children =>
      have hrest := (append_inj h (hlength i child)).2
      have hindex : i + 1 + position = i + (position + 1) := by omega
      rw [← hindex]
      exact ih hrest (by simpa using hposition)

/-! ## One insertion -/

variable {insertion : NodeInsertMultipleEntry ν} {insertions : List (NodeInsertMultipleEntry ν)}

theorem insertChildNodes_append {before after : List ν} (added : List ν)
    (hposition : position = before.length) :
    insertChildNodes (before ++ after) position added = some (before ++ (added ++ after)) := by
  unfold insertChildNodes
  rw [if_neg (by simp [hposition]), take_left' hposition.symm, drop_left' hposition.symm]

/-- The child at the position of an insertion starts a nonempty row. -/
theorem insertAround_append {before row after : List ν} (hrow : row ≠ [])
    (hposition : insertion.position = before.length) :
    insertAround (before ++ (row ++ after)) insertion =
      some (before ++ ((insertion.insertionsBefore ++ (row.take 1 ++
        (insertion.insertionsAfter ++ row.drop 1))) ++ after)) := by
  obtain ⟨first, rest, rfl⟩ := exists_cons_of_ne_nil hrow
  have hafter : insertChildNodes (before ++ first :: (rest ++ after)) (insertion.position + 1)
      insertion.insertionsAfter =
        some (before ++ (first :: (insertion.insertionsAfter ++ (rest ++ after)))) := by
    rw [append_cons, insertChildNodes_append _ (by simp [hposition])]
    simp
  have hbefore (row' : List ν) : insertChildNodes (before ++ row') insertion.position
      insertion.insertionsBefore = some (before ++ (insertion.insertionsBefore ++ row')) :=
    insertChildNodes_append _ hposition
  unfold insertAround
  by_cases hnoAfter : insertion.insertionsAfter = []
  · by_cases hnoBefore : insertion.insertionsBefore = []
    · simp [hnoAfter, hnoBefore]
    · simp [hnoAfter, hnoBefore, hbefore]
  · by_cases hnoBefore : insertion.insertionsBefore = []
    · simp [hnoAfter, hnoBefore, hafter]
    · simp [hnoAfter, hnoBefore, hafter, hbefore]

theorem segment_ne_nil (insertions : List (NodeInsertMultipleEntry ν)) (child : ν) :
    segment insertions child ≠ [] := by
  induction insertions with
  | nil => simp [segment]
  | cons insertion insertions ih =>
    unfold segment
    simp [ih]

/-! ## The whole queue -/

variable {mInsertions : List (NodeInsertMultipleEntry ν)} {tree tree' : Sequences ν}

section

variable (mInsertions : List (NodeInsertMultipleEntry ν))

/-- Every insertion is at a child of its parent, as the recording functions assert. -/
def Placed (tree : Sequences ν) : Prop :=
  ∀ insertion ∈ mInsertions, insertion.position < (tree insertion.parent).length

def segmentsOf (block i : Nat) (child : ν) :
    List ν :=
  segment (insertionsAt mInsertions block i) child

/-- The tree with every child replaced by its segment. -/
def Rendered (tree tree' : Sequences ν) : Prop :=
  ∀ block, tree' block = render (segmentsOf mInsertions block) 0 (tree block)

end

theorem insertionsAt_cons_self (insertion : NodeInsertMultipleEntry ν)
    (insertions : List (NodeInsertMultipleEntry ν)) :
    insertionsAt (insertion :: insertions) insertion.parent insertion.position =
      insertion :: insertionsAt insertions insertion.parent insertion.position := by
  simp [insertionsAt]

theorem segmentsOf_cons_of_ne {block : Nat}
    (hne : ¬ (insertion.parent = block ∧ insertion.position = i)) (child : ν) :
    segmentsOf (insertion :: insertions) block i child = segmentsOf insertions block i child := by
  unfold segmentsOf insertionsAt
  rw [filter_cons_of_neg (by simpa using hne)]

theorem segmentsOf_of_forall_ne {block : Nat}
    (hne : ∀ insertion ∈ insertions, ¬ (insertion.parent = block ∧ insertion.position = i))
    (child : ν) : segmentsOf insertions block i child = [child] := by
  unfold segmentsOf insertionsAt
  rw [filter_eq_nil_iff.mpr (by simpa using hne), segment]

theorem rendered_nil (tree : Sequences ν) : Rendered [] tree tree := by
  intro block
  generalize tree block = children
  have hall : ∀ i, render (segmentsOf ([] : List (NodeInsertMultipleEntry ν)) block) i children =
      children := by
    induction children with
    | nil => exact fun _ => rfl
    | cons child children ih =>
      intro i
      rw [render, ih, segmentsOf_of_forall_ne (by simp)]
      rfl
  exact (hall 0).symm

/-- An insertion in front of all that its parent has so far. -/
theorem applyInsertion_rendered (hplaced : insertion.position < (tree insertion.parent).length)
    (hfirst : ∀ other ∈ insertions, compareInsertion other insertion = false)
    (h : Rendered insertions tree tree') :
    ∃ tree'', applyInsertion insertion tree' = some tree'' ∧
      Rendered (insertion :: insertions) tree tree'' := by
  have hsingle : ∀ j, 0 ≤ j → j < 0 + insertion.position → ∀ child,
      segmentsOf insertions insertion.parent j child = [child] := by
    intro j _ hj child
    apply segmentsOf_of_forall_ne
    intro other hother
    have hcompare := hfirst other hother
    unfold compareInsertion at hcompare
    grind
  have hsingle' : ∀ j, 0 ≤ j → j < 0 + insertion.position → ∀ child,
      segmentsOf (insertion :: insertions) insertion.parent j child = [child] := by
    intro j hle hj child
    rw [segmentsOf_cons_of_ne (by omega), hsingle j hle hj]
  have hrest : ∀ children,
      render (segmentsOf (insertion :: insertions) insertion.parent) (insertion.position + 1)
        children =
      render (segmentsOf insertions insertion.parent) (insertion.position + 1) children := by
    intro children
    apply render_congr
    intro j hle child
    exact segmentsOf_cons_of_ne (by omega) child
  have hsplit := render_split hplaced hsingle
  have hsplit' := render_split hplaced hsingle'
  rw [Nat.zero_add] at hsplit hsplit'
  have haround : insertAround (tree' insertion.parent) insertion =
      some (render (segmentsOf (insertion :: insertions) insertion.parent) 0
        (tree insertion.parent)) := by
    rw [h insertion.parent, hsplit, hsplit', hrest]
    unfold segmentsOf
    rw [insertionsAt_cons_self,
      insertAround_append (segment_ne_nil _ _) (by rw [length_take]; omega), segment]
  refine ⟨_, congrArg (Option.map _) haround, fun block => ?_⟩
  dsimp only
  by_cases hblock : block = insertion.parent
  · rw [hblock, Function.update_self]
  · rw [Function.update_of_ne hblock, h block]
    apply render_congr
    intro j _ child
    exact (segmentsOf_cons_of_ne (fun heq => hblock heq.1.symm) child).symm

theorem foldrM_rendered (hplaced : Placed insertions tree)
    (hsorted : insertions.Pairwise fun a b => compareInsertion b a = false) :
    ∃ tree', insertions.foldrM applyInsertion tree = some tree' ∧
      Rendered insertions tree tree' := by
  induction insertions with
  | nil => exact ⟨tree, rfl, rendered_nil tree⟩
  | cons insertion insertions ih =>
    obtain ⟨hfirst, hrest⟩ := pairwise_cons.mp hsorted
    obtain ⟨hhere, hthere⟩ := forall_mem_cons.mp hplaced
    obtain ⟨tree', hfold, hrendered⟩ := ih hthere hrest
    rw [foldrM_cons, hfold]
    exact applyInsertion_rendered hhere hfirst hrendered

theorem compareInsertion_trans (a b c : NodeInsertMultipleEntry ν)
    (hab : (!compareInsertion b a)) (hbc : (!compareInsertion c b)) :
    (!compareInsertion c a) := by
  unfold compareInsertion at *
  grind

theorem compareInsertion_total (a b : NodeInsertMultipleEntry ν) :
    (!compareInsertion b a || !compareInsertion a b) := by
  unfold compareInsertion
  grind

theorem insertionsAt_sortInsertions (mInsertions : List (NodeInsertMultipleEntry ν))
    (block i : Nat) :
    insertionsAt (sortInsertions mInsertions) block i = insertionsAt mInsertions block i := by
  have hkey : ∀ a ∈ insertionsAt mInsertions block i, a.parent = block ∧ a.position = i := by
    intro a ha
    exact of_decide_eq_true (mem_filter.mp ha).2
  have hsublist : (insertionsAt mInsertions block i).Sublist (sortInsertions mInsertions) := by
    apply sublist_mergeSort compareInsertion_trans compareInsertion_total
    · apply pairwise_of_forall_mem_list
      intro a ha b hb
      have hkeyA := hkey a ha
      have hkeyB := hkey b hb
      unfold compareInsertion
      grind
    · exact filter_sublist
  have hself : insertionsAt (insertionsAt mInsertions block i) block i =
      insertionsAt mInsertions block i :=
    filter_eq_self.mpr fun a ha => decide_eq_true (hkey a ha)
  have hperm : (insertionsAt (sortInsertions mInsertions) block i).Perm
      (insertionsAt mInsertions block i) :=
    (mergeSort_perm mInsertions _).filter _
  have hkept := hsublist.filter fun insertion => decide (insertion.parent = block ∧
    insertion.position = i)
  change (insertionsAt (insertionsAt mInsertions block i) block i).Sublist
    (insertionsAt (sortInsertions mInsertions) block i) at hkept
  rw [hself] at hkept
  exact (hkept.eq_of_length_le hperm.length_eq.le).symm

theorem updateTree_rendered (hplaced : Placed mInsertions tree) :
    ∃ tree', updateTree mInsertions tree = some tree' ∧ Rendered mInsertions tree tree' := by
  have hplaced' : Placed (sortInsertions mInsertions) tree := by
    intro insertion hinsertion
    exact hplaced insertion (mem_mergeSort.mp hinsertion)
  have hsorted : (sortInsertions mInsertions).Pairwise fun a b => compareInsertion b a = false := by
    have hpairwise := pairwise_mergeSort compareInsertion_trans compareInsertion_total
      mInsertions
    simpa [sortInsertions] using hpairwise
  obtain ⟨tree', hfold, hrendered⟩ := foldrM_rendered hplaced' hsorted
  refine ⟨tree', hfold, fun block => ?_⟩
  rw [hrendered block]
  apply render_congr
  intro j _ child
  unfold segmentsOf
  rw [insertionsAt_sortInsertions]

/-! ## Statements in queueing order -/

/-- No statements are queued after a child before others are queued in front of it. -/
def Compatible (insertions : List (NodeInsertMultipleEntry ν)) : Prop :=
  insertions.Pairwise fun earlier later =>
    earlier.insertionsAfter = [] ∨ later.insertionsBefore = []

/-- The same of every child of every block. -/
def NoConflict (mInsertions : List (NodeInsertMultipleEntry ν)) : Prop :=
  mInsertions.Pairwise fun earlier later =>
    earlier.parent = later.parent → earlier.position = later.position →
      earlier.insertionsAfter = [] ∨ later.insertionsBefore = []

theorem noConflict_iff : NoConflict mInsertions ↔
    ∀ block i, Compatible (insertionsAt mInsertions block i) := by
  constructor
  · intro h block i
    apply (h.filter _).imp_of_mem
    intro a b ha hb hab
    obtain ⟨hblockA, hiA⟩ := of_decide_eq_true (mem_filter.mp ha).2
    obtain ⟨hblockB, hiB⟩ := of_decide_eq_true (mem_filter.mp hb).2
    exact hab (hblockA.trans hblockB.symm) (hiA.trans hiB.symm)
  · intro h
    apply pairwise_iff_forall_sublist.mpr
    intro a b hab hblock hposition
    apply pairwise_iff_forall_sublist.mp (h b.parent b.position)
    have hkept := hab.filter fun insertion => decide (insertion.parent = b.parent ∧
      insertion.position = b.position)
    simpa [hblock, hposition, insertionsAt] using hkept

theorem segment_eq_surround (h : Compatible insertions) (child : ν) :
    segment insertions child = surround insertions child := by
  induction insertions with
  | nil => rfl
  | cons insertion insertions ih =>
    obtain ⟨hhead, htail⟩ := pairwise_cons.mp h
    rw [segment, ih htail]
    unfold surround
    by_cases hafter : insertion.insertionsAfter = []
    · rw [hafter, nil_append, take_append_drop]
      simp [hafter]
    · have hbefore : insertions.flatMap (·.insertionsBefore) = [] := by
        apply flatMap_eq_nil_iff.mpr
        intro later hlater
        exact (hhead later hlater).resolve_left hafter
      simp [hbefore]

def segmentBefore : List (NodeInsertMultipleEntry ν) → List ν
  | [] => []
  | insertion :: insertions =>
      insertion.insertionsBefore ++ match segmentBefore insertions with
        | [] => []
        | first :: rest => first :: (insertion.insertionsAfter ++ rest)

section

variable (insertions : List (NodeInsertMultipleEntry ν))

theorem segment_split (child : ν) :
    ∃ after, segment insertions child = segmentBefore insertions ++ child :: after := by
  induction insertions with
  | nil => exact ⟨[], rfl⟩
  | cons insertion insertions ih =>
    obtain ⟨after, heq⟩ := ih
    rw [segment, segmentBefore, heq]
    cases segmentBefore insertions with
    | nil => exact ⟨insertion.insertionsAfter ++ after, by simp⟩
    | cons first rest => exact ⟨after, by simp⟩

theorem length_segment (child : ν) :
    (segment insertions child).length = (surround insertions child).length := by
  induction insertions with
  | nil => rfl
  | cons insertion insertions ih =>
    have hpos := length_pos_iff.mpr (segment_ne_nil insertions child)
    unfold surround at ih ⊢
    rw [segment]
    simp only [length_append, length_take, length_drop, length_cons,
      flatMap_cons] at ih ⊢
    omega

theorem length_segmentBefore :
    (insertions.flatMap (·.insertionsBefore)).length ≤ (segmentBefore insertions).length := by
  induction insertions with
  | nil => exact Nat.le_refl 0
  | cons insertion insertions ih =>
    rw [segmentBefore]
    simp only [flatMap_cons, length_append]
    split
    case h_1 hnil =>
      rw [hnil] at ih
      exact Nat.add_le_add_left ih _
    case h_2 first rest hcons =>
      rw [hcons] at ih
      simp only [length_cons, length_append] at ih ⊢
      omega

end

/-- Statements that are queued after the child and end up in front of it make the difference. -/
theorem compatible_of_length_eq
    (h : (segmentBefore insertions).length = (insertions.flatMap (·.insertionsBefore)).length) :
    Compatible insertions := by
  induction insertions with
  | nil => exact List.Pairwise.nil
  | cons insertion insertions ih =>
    have hle := length_segmentBefore insertions
    rw [segmentBefore] at h
    simp only [flatMap_cons, length_append] at h
    split at h
    case h_1 hnil =>
      rw [hnil] at hle
      have hnone : insertions.flatMap (·.insertionsBefore) = [] :=
        length_eq_zero_iff.mp (Nat.le_zero.mp hle)
      refine pairwise_cons.mpr ⟨fun later hlater => .inr ?_, ih (by rw [hnil, hnone])⟩
      exact flatMap_eq_nil_iff.mp hnone later hlater
    case h_2 first rest hcons =>
      rw [hcons] at hle ih
      simp only [length_cons, length_append] at h hle ih
      have hafter : insertion.insertionsAfter = [] := length_eq_zero_iff.mp (by omega)
      exact pairwise_cons.mpr ⟨fun later hlater => .inl hafter, ih (by omega)⟩

theorem compatible_of_segment_eq {child : ν} (hfresh : ∀ insertion ∈ insertions,
      child ∉ insertion.insertionsBefore ∧ child ∉ insertion.insertionsAfter)
    (h : segment insertions child = surround insertions child) : Compatible insertions := by
  obtain ⟨after, hsplit⟩ := segment_split insertions child
  rw [hsplit, surround] at h
  have hnotBefore : child ∉ insertions.flatMap (·.insertionsBefore) := by
    intro hmem
    obtain ⟨insertion, hinsertion, hmem⟩ := mem_flatMap.mp hmem
    exact (hfresh insertion hinsertion).1 hmem
  have hnotAfter : child ∉ insertions.flatMap (·.insertionsAfter) := by
    intro hmem
    obtain ⟨insertion, hinsertion, hmem⟩ := mem_flatMap.mp hmem
    exact (hfresh insertion hinsertion).2 hmem
  have hbefore := ((append_cons_inj_of_notMem hnotBefore hnotAfter).mp h.symm).1
  apply compatible_of_length_eq
  rw [hbefore]

/-- None of the statements to insert is a child of its block already. -/
def Fresh (mInsertions : List (NodeInsertMultipleEntry ν)) (tree : Sequences ν) : Prop :=
  ∀ insertion ∈ mInsertions, ∀ child ∈ tree insertion.parent,
    child ∉ insertion.insertionsBefore ∧ child ∉ insertion.insertionsAfter

/-- Every child of every block stands between all that was queued before it and all that was queued
after it, in queueing order. -/
def Surrounded (mInsertions : List (NodeInsertMultipleEntry ν)) (tree tree' : Sequences ν) :
    Prop :=
  ∀ block, tree' block =
    render (fun i child => surround (insertionsAt mInsertions block i) child) 0 (tree block)

theorem Rendered.surrounded (h : Rendered mInsertions tree tree')
    (hconflict : NoConflict mInsertions) : Surrounded mInsertions tree tree' := by
  intro block
  rw [h block]
  apply render_congr
  intro i _ child
  exact segment_eq_surround (noConflict_iff.mp hconflict block i) child

theorem Rendered.noConflict (h : Rendered mInsertions tree tree')
    (hplaced : Placed mInsertions tree) (hfresh : Fresh mInsertions tree)
    (hsurrounded : Surrounded mInsertions tree tree') : NoConflict mInsertions := by
  apply noConflict_iff.mpr
  intro block i
  by_cases hi : i < (tree block).length
  · have hsame := (h block).symm.trans (hsurrounded block)
    have hsegment := segment_of_render_eq (fun j child => length_segment _ child) hsame hi
    rw [Nat.zero_add] at hsegment
    apply compatible_of_segment_eq _ hsegment
    intro insertion hinsertion
    obtain ⟨hmem, hkey⟩ := mem_filter.mp hinsertion
    obtain ⟨rfl, -⟩ := of_decide_eq_true hkey
    exact hfresh insertion hmem _ (getElem_mem hi)
  · have hnone : insertionsAt mInsertions block i = [] := by
      apply filter_eq_nil_iff.mpr
      intro insertion hinsertion hkey
      obtain ⟨rfl, rfl⟩ := of_decide_eq_true hkey
      exact hi (hplaced insertion hinsertion)
    rw [hnone]
    exact List.Pairwise.nil

end MetalAngle.Translator
