import MetalAngle.Translator.Statement

/-!
# Validation of `switch` statements

The traversal of a statement list that accepts or rejects its labels.  The types of the labels and
the limit on the depth of the tree are left out.
-/

namespace MetalAngle.Translator

variable {ε : Type*}

structure ValidateSwitch where
  firstCaseFound : Bool
  statementBeforeCase : Bool
  lastStatementWasCase : Bool
  controlFlowDepth : Nat
  caseInsideControlFlow : Bool
  defaultCount : Nat
  cases : List Int
  duplicateCases : Bool

namespace ValidateSwitch

open Statement

def initial : ValidateSwitch :=
  { firstCaseFound := false, statementBeforeCase := false, lastStatementWasCase := false,
    controlFlowDepth := 0, caseInsideControlFlow := false, defaultCount := 0, cases := [],
    duplicateCases := false }

/-- A visit of an expression, a branch or a nested `switch`. -/
def visitStatement (v : ValidateSwitch) : ValidateSwitch :=
  { v with
    statementBeforeCase := v.statementBeforeCase || !v.firstCaseFound
    lastStatementWasCase := false }

/-- The visits of a block, an `if` or a loop before and after its children. -/
def enter (v : ValidateSwitch) : ValidateSwitch :=
  { v.visitStatement with controlFlowDepth := v.controlFlowDepth + 1 }

def leave (v : ValidateSwitch) : ValidateSwitch :=
  { v.visitStatement with controlFlowDepth := v.controlFlowDepth - 1 }

def visitCase (condition : Option Int) (v : ValidateSwitch) : ValidateSwitch :=
  let v :=
    { v with
      caseInsideControlFlow := v.caseInsideControlFlow || decide (0 < v.controlFlowDepth)
      firstCaseFound := true
      lastStatementWasCase := true }
  match condition with
  | none => { v with defaultCount := v.defaultCount + 1 }
  | some value =>
      if value ∈ v.cases then { v with duplicateCases := true }
      else { v with cases := value :: v.cases }

def visitOption (e : Option ε) (v : ValidateSwitch) : ValidateSwitch :=
  match e with
  | none => v
  | some _ => v.visitStatement

mutual

def traverse : Statement ε → ValidateSwitch → ValidateSwitch
  | .expression _, v => v.visitStatement
  | .block statements, v => (traverseList statements v.enter).leave
  | .ifElse _ trueBlock falseBlock, v =>
      (traverseBlock falseBlock (traverseBlock trueBlock v.enter.visitStatement)).leave
  | .whileLoop _ body, v => (traverseBlock body v.enter.visitStatement).leave
  | .doWhileLoop _ body, v => (traverseBlock body v.enter.visitStatement).leave
  | .forLoop init condition increment body, v =>
      (traverseBlock body
        (visitOption increment (visitOption condition (visitOption init v.enter)))).leave
  | .switch _ _, v => v.visitStatement
  | .case condition, v => v.visitCase condition
  | .discards, v => v.visitStatement
  | .returns value, v => visitOption value v.visitStatement
  | .breaks, v => v.visitStatement
  | .continues, v => v.visitStatement

def traverseList : List (Statement ε) → ValidateSwitch → ValidateSwitch
  | [], v => v
  | statement :: statements, v => traverseList statements (traverse statement v)

def traverseBlock : Option (List (Statement ε)) → ValidateSwitch → ValidateSwitch
  | none, v => v
  | some statements, v => (traverseList statements v.enter).leave

end

def validate (statementList : List (Statement ε)) : Bool :=
  let v := traverseList statementList initial
  !v.statementBeforeCase && !v.lastStatementWasCase && !v.caseInsideControlFlow &&
    decide (v.defaultCount ≤ 1) && !v.duplicateCases

/-- A property of the traversal that each visit keeps. -/
structure Kept (P : ValidateSwitch → Prop) : Prop where
  visitStatement : ∀ v, P v → P v.visitStatement
  depth : ∀ v controlFlowDepth, P v → P { v with controlFlowDepth }
  visitCase : ∀ condition v, P v → P (v.visitCase condition)

namespace Kept

variable {P : ValidateSwitch → Prop} {v : ValidateSwitch}

theorem enter (hP : Kept P) (h : P v) : P v.enter := hP.depth _ _ (hP.visitStatement v h)

theorem leave (hP : Kept P) (h : P v) : P v.leave := hP.depth _ _ (hP.visitStatement v h)

theorem visitOption (hP : Kept P) (e : Option ε) (h : P v) : P (visitOption e v) := by
  cases e with
  | none => exact h
  | some e => exact hP.visitStatement v h

mutual

theorem traverse (hP : Kept P) : ∀ (statement : Statement ε) {v : ValidateSwitch}, P v →
    P (traverse statement v)
  | .expression e, v, h => by
    unfold ValidateSwitch.traverse
    exact hP.visitStatement v h
  | .block statements, v, h => by
    unfold ValidateSwitch.traverse
    exact hP.leave (traverseList hP statements (hP.enter h))
  | .ifElse condition trueBlock falseBlock, v, h => by
    unfold ValidateSwitch.traverse
    apply hP.leave
    apply traverseBlock hP falseBlock
    apply traverseBlock hP trueBlock
    exact hP.visitStatement _ (hP.enter h)
  | .whileLoop condition body, v, h => by
    unfold ValidateSwitch.traverse
    exact hP.leave (traverseBlock hP body (hP.visitStatement _ (hP.enter h)))
  | .doWhileLoop condition body, v, h => by
    unfold ValidateSwitch.traverse
    exact hP.leave (traverseBlock hP body (hP.visitStatement _ (hP.enter h)))
  | .forLoop init condition increment body, v, h => by
    unfold ValidateSwitch.traverse
    apply hP.leave
    apply traverseBlock hP body
    apply hP.visitOption increment
    apply hP.visitOption condition
    exact hP.visitOption init (hP.enter h)
  | .switch init statementList, v, h => by
    unfold ValidateSwitch.traverse
    exact hP.visitStatement v h
  | .case condition, v, h => by
    unfold ValidateSwitch.traverse
    exact hP.visitCase condition v h
  | .discards, v, h => by
    unfold ValidateSwitch.traverse
    exact hP.visitStatement v h
  | .returns value, v, h => by
    unfold ValidateSwitch.traverse
    exact hP.visitOption value (hP.visitStatement v h)
  | .breaks, v, h => by
    unfold ValidateSwitch.traverse
    exact hP.visitStatement v h
  | .continues, v, h => by
    unfold ValidateSwitch.traverse
    exact hP.visitStatement v h

theorem traverseList (hP : Kept P) : ∀ (statements : List (Statement ε)) {v : ValidateSwitch},
    P v → P (traverseList statements v)
  | [], v, h => by
    unfold ValidateSwitch.traverseList
    exact h
  | statement :: statements, v, h => by
    unfold ValidateSwitch.traverseList
    exact traverseList hP statements (traverse hP statement h)

theorem traverseBlock (hP : Kept P) : ∀ (block : Option (List (Statement ε)))
    {v : ValidateSwitch}, P v → P (traverseBlock block v)
  | none, v, h => by
    unfold ValidateSwitch.traverseBlock
    exact h
  | some statements, v, h => by
    unfold ValidateSwitch.traverseBlock
    exact hP.leave (traverseList hP statements (hP.enter h))

end

end Kept

theorem traverseList_append (first second : List (Statement ε)) (v : ValidateSwitch) :
    traverseList (first ++ second) v = traverseList second (traverseList first v) := by
  induction first generalizing v with
  | nil => simp [traverseList]
  | cons statement first ih => simp [traverseList, ih]

theorem kept_mem_cases (value : Int) : Kept fun v => value ∈ v.cases where
  visitStatement := fun _ h => h
  depth := fun _ _ h => h
  visitCase := fun condition v h => by
    cases condition with
    | none => exact h
    | some value' =>
      unfold visitCase
      dsimp only
      split
      · exact h
      · exact List.mem_cons_of_mem _ h

theorem kept_duplicateCases : Kept fun v => v.duplicateCases = true where
  visitStatement := fun _ h => h
  depth := fun _ _ h => h
  visitCase := fun condition v h => by
    cases condition with
    | none => exact h
    | some value' =>
      unfold visitCase
      dsimp only
      split
      · rfl
      · exact h

variable {value : Int}

theorem mem_cases_of_label {statements : List (Statement ε)}
    (h : statements.any (isLabel (some value))) (v : ValidateSwitch) :
    value ∈ (traverseList statements v).cases := by
  induction statements generalizing v with
  | nil => simp at h
  | cons statement statements ih =>
    unfold traverseList
    rw [List.any_cons, Bool.or_eq_true] at h
    rcases h with h | h
    · apply (kept_mem_cases value).traverseList statements
      rw [isLabel_iff.1 h, traverse, visitCase]
      dsimp only
      split
      · assumption
      · exact List.mem_cons_self
    · exact ih h _

theorem duplicateCases_of_label {statements : List (Statement ε)}
    (h : statements.any (isLabel (some value))) {v : ValidateSwitch}
    (hv : value ∈ v.cases) : (traverseList statements v).duplicateCases := by
  induction statements generalizing v with
  | nil => simp at h
  | cons statement statements ih =>
    unfold traverseList
    rw [List.any_cons, Bool.or_eq_true] at h
    rcases h with h | h
    · apply kept_duplicateCases.traverseList statements
      rw [isLabel_iff.1 h, traverse, visitCase]
      simp [hv]
    · exact ih h ((kept_mem_cases value).traverse statement hv)

theorem not_label_of_validate {first second : List (Statement ε)}
    (h : validate (first ++ second)) (hsecond : second.any (isLabel (some value))) :
    first.any (isLabel (some value)) = false := by
  by_contra hfirst
  have hseen := mem_cases_of_label (by simpa using hfirst) initial
  have hduplicate := duplicateCases_of_label hsecond hseen
  unfold validate at h
  rw [traverseList_append] at h
  simp [hduplicate] at h

theorem kept_statementBeforeCase : Kept fun v => v.statementBeforeCase = true where
  visitStatement := fun v h => by simp [visitStatement, h]
  depth := fun _ _ h => h
  visitCase := fun condition v h => by
    cases condition with
    | none => exact h
    | some value =>
      unfold visitCase
      dsimp only
      split
      · exact h
      · exact h

theorem statementBeforeCase_visitStatement {v : ValidateSwitch} (h : v.firstCaseFound = false) :
    v.visitStatement.statementBeforeCase := by
  simp [visitStatement, h]

/-- A statement other than a label, before any label, is noticed. -/
theorem statementBeforeCase_traverse {statement : Statement ε}
    (hlabel : ∀ condition, statement ≠ .case condition) {v : ValidateSwitch}
    (h : v.firstCaseFound = false) : (traverse statement v).statementBeforeCase := by
  have hfirst := statementBeforeCase_visitStatement h
  have henter : v.enter.statementBeforeCase := hfirst
  have hkept := kept_statementBeforeCase
  cases statement with
  | case condition => exact absurd rfl (hlabel condition)
  | block statements =>
    unfold traverse
    exact hkept.leave (hkept.traverseList statements henter)
  | ifElse condition trueBlock falseBlock =>
    unfold traverse
    apply hkept.leave
    apply hkept.traverseBlock falseBlock
    exact hkept.traverseBlock trueBlock (hkept.visitStatement _ henter)
  | whileLoop condition body =>
    unfold traverse
    exact hkept.leave (hkept.traverseBlock body (hkept.visitStatement _ henter))
  | doWhileLoop condition body =>
    unfold traverse
    exact hkept.leave (hkept.traverseBlock body (hkept.visitStatement _ henter))
  | forLoop init condition increment body =>
    unfold traverse
    apply hkept.leave
    apply hkept.traverseBlock body
    apply hkept.visitOption increment
    exact hkept.visitOption condition (hkept.visitOption init henter)
  | returns value =>
    unfold traverse
    exact hkept.visitOption value hfirst
  | expression e => simpa [traverse] using hfirst
  | switch init statementList => simpa [traverse] using hfirst
  | discards => simpa [traverse] using hfirst
  | breaks => simpa [traverse] using hfirst
  | continues => simpa [traverse] using hfirst

theorem case_of_validate {statement : Statement ε} {statements : List (Statement ε)}
    (h : validate (statement :: statements)) :
    ∃ condition, statement = .case condition := by
  by_contra hlabel
  rw [not_exists] at hlabel
  have hseen : (traverseList (statement :: statements) initial).statementBeforeCase := by
    unfold traverseList
    apply kept_statementBeforeCase.traverseList
    exact statementBeforeCase_traverse hlabel rfl
  unfold validate at h
  simp [hseen] at h

end ValidateSwitch

end MetalAngle.Translator
