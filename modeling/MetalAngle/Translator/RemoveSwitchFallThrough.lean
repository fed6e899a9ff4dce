import MetalAngle.Translator.ValidateSwitch

/-!
# Removal of fall-through

The statements that a label of a `switch` falls through to are copied under the label, so that a
label with statements never runs into the next one.
-/

namespace MetalAngle.Translator

open ControlFlow ControlFlow.Command List

namespace Statement

variable {ε σ : Type*}

mutual

def alwaysBreaks : Statement ε → Bool
  | block statements => doesBlockAlwaysBreak statements
  | discards => true
  | returns _ => true
  | breaks => true
  | continues => true
  | _ => false

def doesBlockAlwaysBreak : List (Statement ε) → Bool
  | [] => false
  | [statement] => statement.alwaysBreaks
  | _ :: statement :: statements => doesBlockAlwaysBreak (statement :: statements)

end

/-! ## Lists that end with a branch -/

theorem doesBlockAlwaysBreak_append (first : List (Statement ε)) {second : List (Statement ε)}
    (h : second ≠ []) :
    doesBlockAlwaysBreak (first ++ second) = doesBlockAlwaysBreak second := by
  induction first with
  | nil => rfl
  | cons statement first ih =>
    obtain ⟨head, tail, htail⟩ := exists_cons_of_ne_nil (append_ne_nil_of_right_ne_nil first h)
    rw [cons_append, htail, doesBlockAlwaysBreak, ← htail, ih]

section Branches

variable (eval : ε → Query σ) (refuses : Refusal ε) (fuel : Nat)

mutual

theorem diverts_exec : ∀ {statement : Statement ε}, statement.alwaysBreaks →
    (exec eval refuses fuel statement).Diverts
  | .block statements, h => by
    exact diverts_execList h
  | .discards, _ => by
    exact diverts_jump (by simp)
  | .returns value, _ => by
    exact Diverts.seq_left (diverts_jump (by simp)) _
  | .breaks, _ => by
    exact diverts_jump (by simp)
  | .continues, _ => by
    exact diverts_jump (by simp)

theorem diverts_execList : ∀ {statements : List (Statement ε)},
    doesBlockAlwaysBreak statements → (execList eval refuses fuel .start statements).Diverts
  | [statement], h => by
    rw [execList_singleton]
    exact diverts_exec h
  | statement :: next :: statements, h => by
    have hrest : (execList eval refuses fuel .start (next :: statements)).Diverts :=
      diverts_execList h
    exact hrest.seq_left _

end

theorem execList_append_of_breaks {first : List (Statement ε)}
    (h : doesBlockAlwaysBreak first) (second : List (Statement ε)) :
    execList eval refuses fuel .start (first ++ second) =
      execList eval refuses fuel .start first := by
  rw [execList_append]
  exact (diverts_execList eval refuses fuel h).seq_eq _

theorem execList_label_append_of_breaks {condition : Option Int} {first : List (Statement ε)}
    (hlabel : first.any (isLabel condition)) (h : doesBlockAlwaysBreak first)
    (second : List (Statement ε)) :
    execList eval refuses fuel (.label condition) (first ++ second) =
      execList eval refuses fuel (.label condition) first := by
  induction first with
  | nil => simp at hlabel
  | cons statement first ih =>
    cases hstatement : statement.isLabel condition with
    | true =>
      have hne : first ≠ [] := by
        rintro rfl
        rw [isLabel_iff.1 hstatement] at h
        simp [doesBlockAlwaysBreak, alwaysBreaks] at h
      rw [← singleton_append, doesBlockAlwaysBreak_append [statement] hne] at h
      rw [cons_append, execList_label_cons eval refuses fuel hstatement,
        execList_label_cons eval refuses fuel hstatement]
      exact execList_append_of_breaks eval refuses fuel h second
    | false =>
      have hne : first ≠ [] := by
        rintro rfl
        simp [hstatement] at hlabel
      rw [← singleton_append, doesBlockAlwaysBreak_append [statement] hne] at h
      rw [any_cons, hstatement, Bool.false_or] at hlabel
      simpa [execList, hstatement] using ih hlabel h

end Branches

end Statement

open Statement

structure RemoveSwitchFallThroughTraverser (ε : Type*) where
  statementListOut : List (Statement ε)
  lastStatementWasBreak : Bool
  previousCase : Option (List (Statement ε))
  casesSharingBreak : List (List (Statement ε))

namespace RemoveSwitchFallThroughTraverser

variable {ε σ : Type*}

def initial : RemoveSwitchFallThroughTraverser ε :=
  { statementListOut := [], lastStatementWasBreak := false, previousCase := none,
    casesSharingBreak := [] }

/-- What is output for cases that share a break: a label without statements alone, and any other
with the statements of all the cases after it. -/
def outputCases : List (List (Statement ε)) → List (Statement ε)
  | [] => []
  | sequence :: sequences =>
      (if sequence.length = 1 then sequence
        else sequence ++ sequences.flatMap (List.drop 1)) ++ outputCases sequences

def handlePreviousCase (rm : RemoveSwitchFallThroughTraverser ε) :
    RemoveSwitchFallThroughTraverser ε :=
  let casesSharingBreak := rm.casesSharingBreak ++ rm.previousCase.toList
  if rm.lastStatementWasBreak then
    { statementListOut := rm.statementListOut ++ outputCases casesSharingBreak
      lastStatementWasBreak := false
      previousCase := none
      casesSharingBreak := [] }
  else
    { rm with
      lastStatementWasBreak := false
      previousCase := none
      casesSharingBreak := casesSharingBreak }

def addStatement (statement : Statement ε) (wasBreak : Bool)
    (rm : RemoveSwitchFallThroughTraverser ε) : Option (RemoveSwitchFallThroughTraverser ε) :=
  rm.previousCase.map fun sequence =>
    { rm with previousCase := some (sequence ++ [statement]), lastStatementWasBreak := wasBreak }

def visit (isConstantUnion : ε → Bool) (rm : RemoveSwitchFallThroughTraverser ε)
    (statement : Statement ε) : Option (RemoveSwitchFallThroughTraverser ε) :=
  match statement with
  | .case condition => some { rm.handlePreviousCase with previousCase := some [.case condition] }
  | .expression e =>
      if isConstantUnion e then some rm else rm.addStatement (.expression e) false
  | .block statements => rm.addStatement (.block statements) (doesBlockAlwaysBreak statements)
  | .discards => rm.addStatement .discards true
  | .returns value => rm.addStatement (.returns value) true
  | .breaks => rm.addStatement .breaks true
  | .continues => rm.addStatement .continues true
  | .ifElse condition trueBlock falseBlock =>
      rm.addStatement (.ifElse condition trueBlock falseBlock) false
  | .whileLoop condition body => rm.addStatement (.whileLoop condition body) false
  | .doWhileLoop condition body => rm.addStatement (.doWhileLoop condition body) false
  | .forLoop init condition increment body =>
      rm.addStatement (.forLoop init condition increment body) false
  | .switch init statementList => rm.addStatement (.switch init statementList) false

def addFinalBreak (rm : RemoveSwitchFallThroughTraverser ε) : RemoveSwitchFallThroughTraverser ε :=
  if rm.lastStatementWasBreak then rm else (rm.addStatement .breaks true).getD rm

def removeFallThrough (isConstantUnion : ε → Bool) (statementList : List (Statement ε)) :
    Option (List (Statement ε)) :=
  (statementList.foldlM (visit isConstantUnion) initial).map fun rm =>
    rm.addFinalBreak.handlePreviousCase.statementListOut

/-! ## Cases -/

/-- A list without labels. -/
def LabelFree (statements : List (Statement ε)) : Prop :=
  ∀ condition, statements.any (isLabel condition) = false

/-- A label and the statements under it. -/
def IsCase (sequence : List (Statement ε)) : Prop :=
  ∃ condition statements, sequence = .case condition :: statements ∧ LabelFree statements

/-- Cases of which the last one ends with a branch. -/
structure SharesBreak (cases : List (List (Statement ε))) : Prop where
  isCase : ∀ sequence ∈ cases, IsCase sequence
  breaks : doesBlockAlwaysBreak cases.flatten

theorem labelFree_nil : LabelFree ([] : List (Statement ε)) := fun _ => rfl

theorem LabelFree.append {first second : List (Statement ε)} (hfirst : LabelFree first)
    (hsecond : LabelFree second) : LabelFree (first ++ second) := by
  intro condition
  rw [any_append, hfirst condition, hsecond condition, Bool.false_or]

theorem labelFree_singleton {statement : Statement ε}
    (h : ∀ condition, statement ≠ .case condition) : LabelFree [statement] := by
  intro condition
  rw [any_cons, any_nil, Bool.or_false]
  apply Bool.eq_false_iff.mpr
  intro hlabel
  exact h condition (isLabel_iff.1 hlabel)

theorem isCase_singleton (condition : Option Int) :
    IsCase [(.case condition : Statement ε)] :=
  ⟨condition, [], rfl, labelFree_nil⟩

theorem IsCase.append {sequence statements : List (Statement ε)} (h : IsCase sequence)
    (hstatements : LabelFree statements) : IsCase (sequence ++ statements) := by
  obtain ⟨condition, body, rfl, hbody⟩ := h
  exact ⟨condition, body ++ statements, rfl, hbody.append hstatements⟩

theorem IsCase.ne_nil {sequence : List (Statement ε)} (h : IsCase sequence) : sequence ≠ [] := by
  obtain ⟨condition, body, rfl, -⟩ := h
  exact cons_ne_nil _ _

theorem labelFree_tails {cases : List (List (Statement ε))}
    (h : ∀ sequence ∈ cases, IsCase sequence) : LabelFree (cases.flatMap (List.drop 1)) := by
  induction cases with
  | nil => exact labelFree_nil
  | cons sequence cases ih =>
    obtain ⟨condition, body, rfl, hbody⟩ := h sequence mem_cons_self
    exact hbody.append (ih fun sequence hmem => h sequence (mem_cons_of_mem _ hmem))

theorem flatten_ne_nil {cases : List (List (Statement ε))}
    (h : ∀ sequence ∈ cases, IsCase sequence) (hne : cases ≠ []) : cases.flatten ≠ [] := by
  obtain ⟨sequence, cases, rfl⟩ := exists_cons_of_ne_nil hne
  exact append_ne_nil_of_left_ne_nil (h sequence mem_cons_self).ne_nil _

theorem SharesBreak.tail {sequence : List (Statement ε)} {cases : List (List (Statement ε))}
    (h : SharesBreak (sequence :: cases)) (hne : cases ≠ []) : SharesBreak cases := by
  have hcases : ∀ sequence ∈ cases, IsCase sequence := fun sequence hmem =>
    h.isCase sequence (mem_cons_of_mem _ hmem)
  refine ⟨hcases, ?_⟩
  have hbreaks := h.breaks
  rw [flatten_cons, doesBlockAlwaysBreak_append _ (flatten_ne_nil hcases hne)] at hbreaks
  exact hbreaks

/-- Dropping the labels does not change whether the last statement is a branch. -/
theorem breaks_tails {cases : List (List (Statement ε))} (h : SharesBreak cases) :
    doesBlockAlwaysBreak (cases.flatMap (List.drop 1)) := by
  induction cases with
  | nil => exact h.breaks
  | cons sequence cases ih =>
    obtain ⟨condition, body, rfl, hbody⟩ := h.isCase sequence mem_cons_self
    rw [flatMap_cons, drop_one, tail_cons]
    by_cases hne : cases = []
    · subst hne
      have hbreaks := h.breaks
      have hbody : body ≠ [] := by
        rintro rfl
        simp [doesBlockAlwaysBreak, alwaysBreaks] at hbreaks
      rw [flatten_cons, flatten_nil, append_nil, ← singleton_append,
        doesBlockAlwaysBreak_append _ hbody] at hbreaks
      simpa using hbreaks
    · have htails := ih (h.tail hne)
      rw [doesBlockAlwaysBreak_append]
      · exact htails
      · intro hnil
        simp [hnil, doesBlockAlwaysBreak] at htails

theorem outputCases_cons (condition : Option Int) (body : List (Statement ε))
    (cases : List (List (Statement ε))) :
    outputCases ((.case condition :: body) :: cases) = .case condition ::
        ((if body = [] then [] else body ++ cases.flatMap (List.drop 1)) ++ outputCases cases) := by
  cases body with
  | nil => simp [outputCases]
  | cons statement body => simp [outputCases]

theorem breaks_outputCases {cases : List (List (Statement ε))} (h : SharesBreak cases) :
    doesBlockAlwaysBreak (outputCases cases) := by
  induction cases with
  | nil => exact h.breaks
  | cons sequence cases ih =>
    have hbreaks := breaks_tails h
    obtain ⟨condition, body, rfl, hbody⟩ := h.isCase sequence mem_cons_self
    rw [outputCases_cons]
    by_cases hne : cases = []
    · subst hne
      have hbody : body ≠ [] := by
        rintro rfl
        simp [doesBlockAlwaysBreak] at hbreaks
      rw [if_neg hbody, outputCases, append_nil, ← singleton_append,
        doesBlockAlwaysBreak_append [.case condition]]
      · exact hbreaks
      · exact append_ne_nil_of_left_ne_nil hbody _
    · have htail := ih (h.tail hne)
      rw [← cons_append, doesBlockAlwaysBreak_append]
      · exact htail
      · intro hnil
        simp [hnil, doesBlockAlwaysBreak] at htail

theorem outputCases_label {cases : List (List (Statement ε))}
    (h : ∀ sequence ∈ cases, IsCase sequence) (condition : Option Int) :
    (outputCases cases).any (isLabel condition) = cases.flatten.any (isLabel condition) := by
  induction cases with
  | nil => rfl
  | cons sequence cases ih =>
    have hcases : ∀ sequence ∈ cases, IsCase sequence := fun sequence hmem =>
      h sequence (mem_cons_of_mem _ hmem)
    obtain ⟨condition', body, rfl, hbody⟩ := h sequence mem_cons_self
    rw [outputCases_cons, flatten_cons, cons_append, any_cons, any_cons,
      any_append, any_append, ih hcases, hbody condition]
    split
    · simp
    · rw [(hbody.append (labelFree_tails hcases)) condition]

/-! ## Labels that do not fall through -/

inductive Closed : List (Statement ε) → Prop
  | nil : Closed []
  | case (condition : Option Int) {body rest : List (Statement ε)}
      (hfree : LabelFree body) (hbody : body = [] ∨ doesBlockAlwaysBreak body)
      (hrest : Closed rest) : Closed (.case condition :: (body ++ rest))

theorem Closed.append {first second : List (Statement ε)} (hfirst : Closed first)
    (hsecond : Closed second) : Closed (first ++ second) := by
  induction hfirst with
  | nil => exact hsecond
  | case condition hfree hbody _ ih =>
    rw [cons_append, append_assoc]
    exact .case condition hfree hbody ih

theorem closed_outputCases {cases : List (List (Statement ε))} (h : SharesBreak cases) :
    Closed (outputCases cases) := by
  induction cases with
  | nil => exact .nil
  | cons sequence cases ih =>
    have hcases : ∀ sequence ∈ cases, IsCase sequence := fun sequence hmem =>
      h.isCase sequence (mem_cons_of_mem _ hmem)
    have htails := breaks_tails h
    obtain ⟨condition, body, rfl, hbody⟩ := h.isCase sequence mem_cons_self
    rw [outputCases_cons]
    apply Closed.case
    · split
      · exact labelFree_nil
      · exact hbody.append (labelFree_tails hcases)
    · split
      · exact Or.inl rfl
      · exact Or.inr htails
    · by_cases hne : cases = []
      · subst hne
        exact .nil
      · exact ih (h.tail hne)

theorem closed_groups {groups : List (List (List (Statement ε)))}
    (h : ∀ cases ∈ groups, SharesBreak cases) : Closed (groups.flatMap outputCases) := by
  induction groups with
  | nil => exact .nil
  | cons cases groups ih =>
    apply (closed_outputCases (h cases mem_cons_self)).append
    exact ih fun cases hmem => h cases (mem_cons_of_mem _ hmem)

theorem LabelFree.split {body rest before after : List (Statement ε)} {condition : Option Int}
    (hbody : LabelFree body) (h : body ++ rest = before ++ .case condition :: after) :
    ∃ middle, before = body ++ middle ∧ rest = middle ++ .case condition :: after := by
  rcases append_eq_append_iff.1 h with ⟨middle, hbefore, hrest⟩ | ⟨middle, hbody', hafter⟩
  · exact ⟨middle, hbefore, hrest⟩
  · cases middle with
    | nil => exact ⟨[], by simpa using hbody'.symm, by simpa using hafter.symm⟩
    | cons statement middle =>
      obtain ⟨rfl, -⟩ := cons.inj hafter
      have hlabel := hbody condition
      simp [hbody', isLabel] at hlabel

theorem Closed.nil_of_labelFree {before after : List (Statement ε)} (hfree : LabelFree before)
    (h : Closed (before ++ after)) : before = [] := by
  cases before with
  | nil => rfl
  | cons statement before =>
    generalize hlist : statement :: before ++ after = statements at h
    cases h with
    | nil => simp at hlist
    | case condition _ _ _ =>
      obtain ⟨rfl, -⟩ := cons.inj hlist
      have hlabel := hfree condition
      simp [isLabel] at hlabel

theorem Closed.breaks {out : List (Statement ε)} (h : Closed out)
    {before statements after : List (Statement ε)} {condition condition' : Option Int}
    (hout : out = before ++ .case condition :: (statements ++ .case condition' :: after))
    (hfree : LabelFree statements) (hne : statements ≠ []) :
    doesBlockAlwaysBreak statements := by
  induction h generalizing before with
  | nil => simp at hout
  | case condition₀ hfree₀ hbody hrest ih =>
    cases before with
    | nil =>
      obtain ⟨-, htail⟩ := cons.inj hout
      obtain ⟨middle, hstatements, hmiddle⟩ := hfree₀.split htail
      have hmiddleFree : LabelFree middle := by
        intro label
        have hlabel := hfree label
        rw [hstatements, any_append, Bool.or_eq_false_iff] at hlabel
        exact hlabel.2
      rw [hmiddle] at hrest
      rw [hrest.nil_of_labelFree hmiddleFree, append_nil] at hstatements
      subst hstatements
      exact hbody.resolve_left hne
    | cons statement before =>
      obtain ⟨-, htail⟩ := cons.inj hout
      obtain ⟨middle, -, hmiddle⟩ := hfree₀.split htail
      exact ih hmiddle

section Execution

variable (eval : ε → Query σ) (refuses : Refusal ε) (fuel : Nat)

section

variable {cases : List (List (Statement ε))}

theorem execList_tails
    (h : ∀ sequence ∈ cases, IsCase sequence) :
    execList eval refuses fuel .start (cases.flatMap (List.drop 1)) =
      execList eval refuses fuel .start cases.flatten := by
  induction cases with
  | nil => rfl
  | cons sequence cases ih =>
    obtain ⟨condition, body, rfl, hbody⟩ := h sequence mem_cons_self
    rw [flatMap_cons, flatten_cons, drop_one, tail_cons, cons_append,
      execList_cons, execList_append, execList_append,
      ih fun sequence hmem => h sequence (mem_cons_of_mem _ hmem)]
    unfold exec
    rw [skip_seq]

theorem execList_outputCases (h : SharesBreak cases) :
    execList eval refuses fuel .start (outputCases cases) =
      execList eval refuses fuel .start cases.flatten := by
  induction cases with
  | nil => rfl
  | cons sequence cases ih =>
    have hcases : ∀ sequence ∈ cases, IsCase sequence := fun sequence hmem =>
      h.isCase sequence (mem_cons_of_mem _ hmem)
    have htails := breaks_tails h
    obtain ⟨condition, body, rfl, hbody⟩ := h.isCase sequence mem_cons_self
    rw [flatMap_cons, drop_one, tail_cons] at htails
    rw [outputCases_cons, flatten_cons, cons_append, execList_cons, execList_cons]
    congr 1
    by_cases hbody' : body = []
    · subst hbody'
      by_cases hne : cases = []
      · subst hne
        rfl
      · simpa using ih (h.tail hne)
    · rw [if_neg hbody', execList_append_of_breaks eval refuses fuel htails, execList_append,
        execList_append, execList_tails eval refuses fuel hcases]

theorem execList_label_outputCases (h : SharesBreak cases)
    (condition : Option Int) :
    execList eval refuses fuel (.label condition) (outputCases cases) =
      execList eval refuses fuel (.label condition) cases.flatten := by
  induction cases with
  | nil => rfl
  | cons sequence cases ih =>
    have hcases : ∀ sequence ∈ cases, IsCase sequence := fun sequence hmem =>
      h.isCase sequence (mem_cons_of_mem _ hmem)
    have hwhole := execList_outputCases eval refuses fuel h
    obtain ⟨condition', body, rfl, hbody⟩ := h.isCase sequence mem_cons_self
    rw [outputCases_cons, flatten_cons, cons_append] at hwhole ⊢
    cases hlabel : (Statement.case condition' : Statement ε).isLabel condition with
    | true =>
      rw [execList_label_cons eval refuses fuel hlabel,
        execList_label_cons eval refuses fuel hlabel]
      exact hwhole
    | false =>
      have hrest : execList eval refuses fuel (.label condition) (outputCases cases) =
          execList eval refuses fuel (.label condition) cases.flatten := by
        by_cases hne : cases = []
        · subst hne
          rfl
        · exact ih (h.tail hne)
      have hfree : LabelFree (if body = [] then [] else body ++ cases.flatMap (drop 1)) := by
        split
        · exact labelFree_nil
        · exact hbody.append (labelFree_tails hcases)
      simp only [execList, hlabel]
      simp only [Bool.false_eq_true, if_false]
      rw [execList_label_append eval refuses fuel (hfree condition),
        execList_label_append eval refuses fuel (hbody condition), hrest]

end

/-- What is output for groups of cases, each with a branch at its end, does what they do. -/
theorem execList_groups {groups : List (List (List (Statement ε)))}
    (h : ∀ cases ∈ groups, SharesBreak cases) (condition : Option Int) :
    execList eval refuses fuel (.label condition) (groups.flatMap outputCases) =
      execList eval refuses fuel (.label condition) groups.flatten.flatten := by
  induction groups with
  | nil => rfl
  | cons cases groups ih =>
    have hgroups := ih fun cases hmem => h cases (mem_cons_of_mem _ hmem)
    have hcases := h cases mem_cons_self
    have hlabels := outputCases_label hcases.isCase condition
    rw [flatMap_cons, flatten_cons, flatten_append]
    cases hlabel : cases.flatten.any (isLabel condition) with
    | true =>
      rw [execList_label_append_of_breaks eval refuses fuel hlabel hcases.breaks,
        execList_label_append_of_breaks eval refuses fuel (hlabels.trans hlabel)
          (breaks_outputCases hcases),
        execList_label_outputCases eval refuses fuel hcases]
    | false =>
      rw [execList_label_append eval refuses fuel hlabel,
        execList_label_append eval refuses fuel (hlabels.trans hlabel), hgroups]

end Execution

/-! ## The traversal -/

def isConstantStatement (isConstantUnion : ε → Bool) : Statement ε → Bool
  | .expression e => isConstantUnion e
  | _ => false

def pending (rm : RemoveSwitchFallThroughTraverser ε) : List (List (Statement ε)) :=
  rm.casesSharingBreak ++ rm.previousCase.toList

/-- The statements that were visited are those of groups that are output, and of the cases that
are not. -/
structure Divides (groups : List (List (List (Statement ε)))) (statements : List (Statement ε))
    (rm : RemoveSwitchFallThroughTraverser ε) : Prop where
  statements : statements = groups.flatten.flatten ++ rm.pending.flatten
  output : rm.statementListOut = groups.flatMap outputCases
  finished : ∀ cases ∈ groups, SharesBreak cases
  isCase : ∀ sequence ∈ rm.pending, IsCase sequence
  breaks : rm.lastStatementWasBreak → doesBlockAlwaysBreak rm.pending.flatten

variable {groups : List (List (List (Statement ε)))} {statements : List (Statement ε)}
  {rm : RemoveSwitchFallThroughTraverser ε}

theorem divides_initial : Divides [] [] (initial : RemoveSwitchFallThroughTraverser ε) where
  statements := rfl
  output := rfl
  finished := by simp
  isCase := by simp [pending, initial]
  breaks := by simp [initial]

theorem Divides.handlePreviousCase (h : Divides groups statements rm) :
    ∃ groups, Divides groups statements rm.handlePreviousCase := by
  unfold RemoveSwitchFallThroughTraverser.handlePreviousCase
  split
  case isTrue hbreak =>
    refine ⟨groups ++ [rm.pending], ?_, ?_, ?_, ?_, ?_⟩
    · simp [h.statements, pending]
    · simp [h.output, pending]
    · intro cases hmem
      rcases mem_append.1 hmem with hmem | hmem
      · exact h.finished cases hmem
      · rw [mem_singleton.1 hmem]
        exact ⟨h.isCase, h.breaks hbreak⟩
    · simp [pending]
    · simp
  case isFalse =>
    refine ⟨groups, ?_, h.output, h.finished, ?_, ?_⟩
    · simp [h.statements, pending]
    · simpa [pending] using h.isCase
    · simp

theorem Divides.addStatement (h : Divides groups statements rm) {statement : Statement ε}
    (hlabel : ∀ condition, statement ≠ .case condition) {rm' : RemoveSwitchFallThroughTraverser ε}
    (hadd : rm.addStatement statement statement.alwaysBreaks = some rm') :
    Divides groups (statements ++ [statement]) rm' := by
  obtain ⟨sequence, hprevious, rfl⟩ := Option.map_eq_some_iff.1 hadd
  have hpending : rm.pending = rm.casesSharingBreak ++ [sequence] := by
    rw [pending, hprevious, Option.toList_some]
  have hmem : sequence ∈ rm.pending := by simp [hpending]
  refine ⟨?_, h.output, h.finished, ?_, ?_⟩
  · simp [h.statements, pending, hprevious]
  · intro sequence' hmem'
    rcases mem_append.1 hmem' with hmem' | hmem'
    · exact h.isCase sequence' (by simp [hpending, hmem'])
    · rw [Option.toList_some, mem_singleton] at hmem'
      subst hmem'
      exact (h.isCase sequence hmem).append (labelFree_singleton hlabel)
  · intro hbreaks
    have hflatten : (pending { rm with
        previousCase := some (sequence ++ [statement])
        lastStatementWasBreak := statement.alwaysBreaks }).flatten =
        rm.pending.flatten ++ [statement] := by
      simp [pending, hprevious]
    rw [hflatten, doesBlockAlwaysBreak_append _ (cons_ne_nil _ _)]
    exact hbreaks

theorem visit_eq {isConstantUnion : ε → Bool} {statement : Statement ε}
    (hlabel : ∀ condition, statement ≠ .case condition)
    (hconstant : isConstantStatement isConstantUnion statement = false) :
    visit isConstantUnion rm statement = rm.addStatement statement statement.alwaysBreaks := by
  cases statement with
  | case condition => exact absurd rfl (hlabel condition)
  | expression e =>
    unfold isConstantStatement at hconstant
    simp [visit, alwaysBreaks, hconstant]
  | _ => simp [visit, alwaysBreaks]

theorem visit_constant {isConstantUnion : ε → Bool} {statement : Statement ε}
    (hconstant : isConstantStatement isConstantUnion statement) :
    visit isConstantUnion rm statement = some rm := by
  cases statement with
  | expression e =>
    unfold isConstantStatement at hconstant
    simp [visit, hconstant]
  | _ => simp [isConstantStatement] at hconstant

theorem visit_sound (isConstantUnion : ε → Bool) (h : Divides groups statements rm)
    (statement : Statement ε)
    (hprevious : rm.previousCase.isSome ∨ ∃ condition, statement = .case condition) :
    ∃ rm' groups, visit isConstantUnion rm statement = some rm' ∧ rm'.previousCase.isSome ∧
      Divides groups
        (statements ++ [statement].filter fun s => !isConstantStatement isConstantUnion s) rm' := by
  by_cases hlabel : ∃ condition, statement = .case condition
  · obtain ⟨condition, rfl⟩ := hlabel
    obtain ⟨groups', h'⟩ := h.handlePreviousCase
    have hnull : rm.handlePreviousCase.previousCase = none := by
      unfold RemoveSwitchFallThroughTraverser.handlePreviousCase
      split
      · rfl
      · rfl
    have hbreak : rm.handlePreviousCase.lastStatementWasBreak = false := by
      unfold RemoveSwitchFallThroughTraverser.handlePreviousCase
      split
      · rfl
      · rfl
    refine ⟨_, groups', rfl, rfl, ?_, h'.output, h'.finished, ?_, ?_⟩
    · simp [h'.statements, pending, hnull, isConstantStatement]
    · intro sequence hmem
      rcases mem_append.1 hmem with hmem | hmem
      · exact h'.isCase sequence (mem_append_left _ hmem)
      · rw [Option.toList_some, mem_singleton] at hmem
        subst hmem
        exact isCase_singleton condition
    · simp [hbreak]
  · rw [not_exists] at hlabel
    have hsome := hprevious.resolve_right (not_exists.2 hlabel)
    cases hconstant : isConstantStatement isConstantUnion statement with
    | true =>
      refine ⟨rm, groups, visit_constant hconstant, hsome, ?_⟩
      simpa [hconstant] using h
    | false =>
      obtain ⟨sequence, hsequence⟩ := Option.isSome_iff_exists.1 hsome
      have hadd : rm.addStatement statement statement.alwaysBreaks = some { rm with
            previousCase := some (sequence ++ [statement])
            lastStatementWasBreak := statement.alwaysBreaks } := by
        simp [RemoveSwitchFallThroughTraverser.addStatement, hsequence]
      refine ⟨_, groups, (visit_eq hlabel hconstant).trans hadd, rfl, ?_⟩
      simpa [hconstant] using h.addStatement hlabel hadd

theorem foldlM_visit_sound (isConstantUnion : ε → Bool) (h : Divides groups statements rm)
    (rest : List (Statement ε)) (hprevious : rm.previousCase.isSome ∨
      ∀ statement ∈ rest.head?, ∃ condition, statement = .case condition) :
    ∃ rm' groups, rest.foldlM (visit isConstantUnion) rm = some rm' ∧
      (rest ≠ [] → rm'.previousCase.isSome) ∧
      Divides groups
        (statements ++ rest.filter fun s => !isConstantStatement isConstantUnion s) rm' := by
  induction rest generalizing rm groups statements with
  | nil => exact ⟨rm, groups, rfl, by simp, by simpa using h⟩
  | cons statement rest ih =>
    obtain ⟨rm₁, groups₁, hvisit, hsome, h₁⟩ :=
      visit_sound isConstantUnion h statement (hprevious.imp_right fun hhead => hhead _ rfl)
    obtain ⟨rm₂, groups₂, hfold, hsome₂, h₂⟩ := ih h₁ (Or.inl hsome)
    refine ⟨rm₂, groups₂, ?_, ?_, ?_⟩
    · rw [foldlM_cons, hvisit]
      exact hfold
    · intro _
      by_cases hrest : rest = []
      · subst hrest
        cases hfold
        exact hsome
      · exact hsome₂ hrest
    · rw [← singleton_append, filter_append, ← append_assoc]
      exact h₂

/-- All cases are output at the end, with a `break` after the last one if needed. -/
theorem Divides.finish (h : Divides groups statements rm)
    (hprevious : statements = [] ∨ rm.previousCase.isSome) :
    ∃ groups : List (List (List (Statement ε))),
      rm.addFinalBreak.handlePreviousCase.statementListOut = groups.flatMap outputCases ∧
      (∀ cases ∈ groups, SharesBreak cases) ∧
      (groups.flatten.flatten = statements ∨ groups.flatten.flatten = statements ++ [.breaks]) := by
  have houtput : ∀ {statements : List (Statement ε)} {rm : RemoveSwitchFallThroughTraverser ε},
      Divides groups statements rm → rm.lastStatementWasBreak →
      rm.handlePreviousCase.statementListOut = (groups ++ [rm.pending]).flatMap outputCases ∧
      (∀ cases ∈ groups ++ [rm.pending], SharesBreak cases) ∧
      (groups ++ [rm.pending]).flatten.flatten = statements := by
    intro statements rm h hbreak
    refine ⟨?_, ?_, ?_⟩
    · unfold RemoveSwitchFallThroughTraverser.handlePreviousCase
      simp [hbreak, h.output, pending]
    · intro cases hmem
      rcases mem_append.1 hmem with hmem | hmem
      · exact h.finished cases hmem
      · rw [mem_singleton.1 hmem]
        exact ⟨h.isCase, h.breaks hbreak⟩
    · simp [h.statements]
  cases hbreak : rm.lastStatementWasBreak with
  | true =>
    obtain ⟨hout, hfinished, hflatten⟩ := houtput h hbreak
    refine ⟨_, ?_, hfinished, Or.inl hflatten⟩
    rw [addFinalBreak, if_pos hbreak]
    exact hout
  | false =>
    cases hsequence : rm.previousCase with
    | none =>
      have hnil := hprevious.resolve_right (by simp [hsequence])
      refine ⟨groups, ?_, h.finished, Or.inl ?_⟩
      · simp [addFinalBreak, RemoveSwitchFallThroughTraverser.addStatement,
          RemoveSwitchFallThroughTraverser.handlePreviousCase, hbreak, hsequence, h.output]
      · have hstatements := h.statements
        rw [hnil] at hstatements ⊢
        exact (append_eq_nil_iff.1 hstatements.symm).1
    | some sequence =>
      have hadd : rm.addStatement .breaks true = some { rm with
            previousCase := some (sequence ++ [.breaks])
            lastStatementWasBreak := true } := by
        simp [RemoveSwitchFallThroughTraverser.addStatement, hsequence]
      have hlast : Divides groups (statements ++ [.breaks]) _ :=
        h.addStatement (by simp) (by simpa [alwaysBreaks] using hadd)
      obtain ⟨hout, hfinished, hflatten⟩ := houtput hlast rfl
      refine ⟨_, ?_, hfinished, Or.inr hflatten⟩
      simpa [addFinalBreak, hbreak, hadd] using hout

section Execution

variable (eval : ε → Query σ) (refuses : Refusal ε) (fuel : Nat)

/-- A `break` at the end of the list does not change what a `switch` does. -/
theorem catchBreak_execList_breaks (condition : Option Int) (statements : List (Statement ε)) :
    catchBreak (execList eval refuses fuel (.label condition) (statements ++ [.breaks])) =
      catchBreak (execList eval refuses fuel (.label condition) statements) := by
  induction statements with
  | nil => simp [execList, isLabel]
  | cons statement statements ih =>
    cases hlabel : statement.isLabel condition with
    | true =>
      rw [cons_append, execList_label_cons eval refuses fuel hlabel,
        execList_label_cons eval refuses fuel hlabel, execList_append, execList_singleton]
      exact catchBreak_seq_breaks _
    | false => simpa [execList, hlabel] using ih

variable {eval} {isConstantUnion : ε → Bool}

theorem exec_constant (hconstant : ∀ e, isConstantUnion e → ∃ value, eval e = answer value)
    {statement : Statement ε} (h : isConstantStatement isConstantUnion statement) :
    exec eval refuses fuel statement = skip := by
  cases statement with
  | expression e =>
    obtain ⟨value, hvalue⟩ := hconstant e h
    unfold exec
    rw [hvalue]
    rfl
  | _ => simp [isConstantStatement] at h

theorem execList_constants
    (hconstant : ∀ e, isConstantUnion e → ∃ value, eval e = answer value)
    (entry : Entry) (statements : List (Statement ε)) :
    execList eval refuses fuel entry
        (statements.filter fun s => !isConstantStatement isConstantUnion s) =
      execList eval refuses fuel entry statements := by
  induction statements generalizing entry with
  | nil => rfl
  | cons statement statements ih =>
    cases hstatement : isConstantStatement isConstantUnion statement with
    | true =>
      have hlabel : ∀ condition, statement.isLabel condition = false := by
        intro condition
        cases statement with
        | expression e => rfl
        | _ => simp [isConstantStatement] at hstatement
      rw [filter_cons_of_neg (by simp [hstatement]), ih]
      cases entry with
      | start => rw [execList_cons, exec_constant refuses fuel hconstant hstatement, skip_seq]
      | label condition => simp [execList, hlabel condition]
    | false =>
      rw [filter_cons_of_pos (by simp [hstatement])]
      cases entry with
      | start => rw [execList_cons, execList_cons, ih]
      | label condition => simp only [execList, ih]

end Execution

theorem labels_constants (isConstantUnion : ε → Bool) (condition : Option Int)
    (statements : List (Statement ε)) :
    (statements.filter fun s => !isConstantStatement isConstantUnion s).any (isLabel condition) =
      statements.any (isLabel condition) := by
  induction statements with
  | nil => rfl
  | cons statement statements ih =>
    cases hstatement : isConstantStatement isConstantUnion statement with
    | true =>
      rw [filter_cons_of_neg (by simp [hstatement]), ih, any_cons]
      cases statement with
      | expression e => simp [isLabel]
      | _ => simp [isConstantStatement] at hstatement
    | false => rw [filter_cons_of_pos (by simp [hstatement]), any_cons, ih, any_cons]

theorem labels_groups (condition : Option Int) {groups : List (List (List (Statement ε)))}
    (h : ∀ cases ∈ groups, SharesBreak cases) :
    (groups.flatMap outputCases).any (isLabel condition) =
      groups.flatten.flatten.any (isLabel condition) := by
  induction groups with
  | nil => rfl
  | cons cases groups ih =>
    rw [flatMap_cons, flatten_cons, flatten_append, any_append,
      any_append, outputCases_label (h cases mem_cons_self).isCase,
      ih fun cases hmem => h cases (mem_cons_of_mem _ hmem)]

/-- What an accepted statement list is replaced by: the output of groups of cases that have its
statements, without constants and perhaps with a `break` at the end. -/
theorem removeFallThrough_eq (isConstantUnion : ε → Bool) {statementList : List (Statement ε)}
    (hvalid : ValidateSwitch.validate statementList) :
    ∃ groups : List (List (List (Statement ε))),
      removeFallThrough isConstantUnion statementList = some (groups.flatMap outputCases) ∧
      (∀ cases ∈ groups, SharesBreak cases) ∧
      ∃ final : List (Statement ε), (final = [] ∨ final = [.breaks]) ∧ groups.flatten.flatten =
          (statementList.filter fun s => !isConstantStatement isConstantUnion s) ++ final := by
  have hhead : ∀ statement ∈ statementList.head?, ∃ condition, statement = .case condition := by
    intro statement hmem
    cases statementList with
    | nil => simp at hmem
    | cons head rest =>
      rw [head?_cons, Option.mem_some_iff] at hmem
      subst hmem
      exact ValidateSwitch.case_of_validate hvalid
  obtain ⟨rm, groups, hfold, hsome, hdivides⟩ :=
    foldlM_visit_sound isConstantUnion divides_initial statementList (Or.inr hhead)
  rw [nil_append] at hdivides
  have hprevious : (statementList.filter fun s => !isConstantStatement isConstantUnion s) = [] ∨
      rm.previousCase.isSome := by
    by_cases hnil : statementList = []
    · subst hnil
      exact Or.inl rfl
    · exact Or.inr (hsome hnil)
  obtain ⟨groups', hout, hfinished, hflatten⟩ := hdivides.finish hprevious
  refine ⟨groups', ?_, hfinished, ?_⟩
  · rw [removeFallThrough, hfold, Option.map_some, hout]
  · rcases hflatten with hflatten | hflatten
    · exact ⟨[], Or.inl rfl, by rw [hflatten, append_nil]⟩
    · exact ⟨[.breaks], Or.inr rfl, hflatten⟩

/-- A `switch` on what an accepted statement list is replaced by does what it did, and no label
with statements runs into the next one. -/
theorem removeFallThrough_correct {eval : ε → Query σ} {isConstantUnion : ε → Bool}
    (hconstant : ∀ e, isConstantUnion e = true → ∃ value, eval e = answer value)
    {statementList : List (Statement ε)} (hvalid : ValidateSwitch.validate statementList = true) :
    ∃ out, removeFallThrough isConstantUnion statementList = some out ∧
      (∀ fuel init, exec eval refusesNone fuel (.switch init out) =
        exec eval refusesNone fuel (.switch init statementList)) ∧
      ∀ before statements after condition condition',
        out = before ++ .case condition :: (statements ++ .case condition' :: after) →
        LabelFree statements → statements ≠ [] →
        ∀ fuel, (execList eval refusesNone fuel .start statements).Diverts := by
  obtain ⟨groups, hremove, hfinished, final, hfinal, hflatten⟩ :=
    removeFallThrough_eq isConstantUnion hvalid
  refine ⟨_, hremove, ?_, ?_⟩
  · intro fuel init
    have hlabels : ∀ condition, (groups.flatMap outputCases).any (isLabel condition) =
        statementList.any (isLabel condition) := by
      intro condition
      rw [labels_groups condition hfinished, hflatten, any_append, labels_constants]
      rcases hfinal with rfl | rfl
      · simp
      · simp [isLabel]
    have hexec : ∀ condition, catchBreak (execList eval refusesNone fuel (.label condition)
          (groups.flatMap outputCases)) =
        catchBreak (execList eval refusesNone fuel (.label condition) statementList) := by
      intro condition
      rw [execList_groups eval refusesNone fuel hfinished, hflatten]
      rcases hfinal with rfl | rfl
      · rw [append_nil, execList_constants refusesNone fuel hconstant]
      · rw [catchBreak_execList_breaks, execList_constants refusesNone fuel hconstant]
    unfold exec labelFor
    simp only [hlabels, hexec]
    rfl
  · intro before statements after condition condition' hout hfree hne fuel
    exact diverts_execList eval refusesNone fuel ((closed_groups hfinished).breaks hout hfree hne)

/-- The evaluation of expressions that are noted in a trace, except for the constant `0`. -/
def exampleEval (e : Nat) : Query (List Nat) :=
  if e = 0 then answer 0 else fun s => (.ok e, e :: s)

def exampleList : List (Statement Nat) :=
  [.case (some 1), .case (some 2), .expression 7, .case none, .block [.expression 8, .continues],
    .case (some 3), .breaks, .expression 0, .expression 9]

theorem removeFallThrough_correct_exampleList :
    ∃ out, removeFallThrough (fun e => decide (e = 0)) exampleList = some out ∧
      (∀ fuel init, exec exampleEval refusesNone fuel (.switch init out) =
        exec exampleEval refusesNone fuel (.switch init exampleList)) ∧
      ∀ before statements after condition condition',
        out = before ++ .case condition :: (statements ++ .case condition' :: after) →
        LabelFree statements → statements ≠ [] →
        ∀ fuel, (execList exampleEval refusesNone fuel .start statements).Diverts := by
  apply removeFallThrough_correct
  · intro e he
    refine ⟨0, ?_⟩
    rw [exampleEval, if_pos (of_decide_eq_true he)]
  · decide

end RemoveSwitchFallThroughTraverser

end MetalAngle.Translator
