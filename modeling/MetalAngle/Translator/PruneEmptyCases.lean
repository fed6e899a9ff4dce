import MetalAngle.Translator.ValidateSwitch
import Mathlib.Data.List.TakeWhile

/-!
# Pruning of empty cases

Labels at the end of a `switch` that nothing follows are removed, and a `switch` that has nothing
else is removed as a whole.  A value whose label is removed does what it did before unless a
`default` label is left: then it goes there.
-/

namespace MetalAngle.Translator

open ControlFlow ControlFlow.Command List

namespace Statement

variable {ε σ τ : Type*}

mutual

def isEmptyBlock : Statement ε → Bool
  | block statements => areEmptyBlocks statements
  | _ => false

def areEmptyBlocks : List (Statement ε) → Bool
  | [] => true
  | statement :: statements => statement.isEmptyBlock && areEmptyBlocks statements

end

def isNoOp : Statement ε → Bool
  | case _ => true
  | statement => statement.isEmptyBlock

def lastNoOpFrom (statements : List (Statement ε)) : Nat → Nat
  | 0 => 0
  | i + 1 => if statements[i]?.any isNoOp then lastNoOpFrom statements i else i + 1

def lastNoOpInStatementList (statements : List (Statement ε)) : Nat :=
  lastNoOpFrom statements statements.length

/-- What the visit of a `switch` leaves of its statement list. -/
def visitSwitch (statements : List (Statement ε)) : List (Statement ε) :=
  statements.take (lastNoOpInStatementList statements)

section Pass

variable (hasSideEffects : ε → Bool)

mutual

def prune : Statement ε → List (Statement ε)
  | expression e => [expression e]
  | block statements => [block (pruneFirst statements.length statements)]
  | ifElse condition trueBlock falseBlock =>
      [ifElse condition (pruneBlock trueBlock) (pruneBlock falseBlock)]
  | whileLoop condition body => [whileLoop condition (pruneBlock body)]
  | doWhileLoop condition body => [doWhileLoop condition (pruneBlock body)]
  | forLoop init condition increment body => [forLoop init condition increment (pruneBlock body)]
  | switch init statementList =>
      if lastNoOpInStatementList statementList = 0 then
        if hasSideEffects init then [expression init] else []
      else [switch init (pruneFirst (lastNoOpInStatementList statementList) statementList)]
  | case condition => [case condition]
  | discards => [discards]
  | returns value => [returns value]
  | breaks => [breaks]
  | continues => [continues]

def pruneFirst : Nat → List (Statement ε) → List (Statement ε)
  | _, [] => []
  | 0, _ :: _ => []
  | count + 1, statement :: statements => prune statement ++ pruneFirst count statements

def pruneBlock : Option (List (Statement ε)) → Option (List (Statement ε))
  | none => none
  | some statements => some (pruneFirst statements.length statements)

end

def pruneEmptyCases (body : List (Statement ε)) : List (Statement ε) :=
  pruneFirst hasSideEffects body.length body

end Pass

/-! ## The statements of a `switch` that a value reaches -/

def reachedFrom (condition : Option Int) (statementList : List (Statement ε)) :
    List (Statement ε) :=
  (statementList.dropWhile fun statement => !statement.isLabel condition).filter
    fun statement => !statement.isNoOp

def reached (statementList : List (Statement ε)) (value : Int) : List (Statement ε) :=
  reachedFrom (labelFor value statementList) statementList

/-- The label of the value is removed and `default` is not. -/
def takesDefault (statementList : List (Statement ε)) (value : Int) : Bool :=
  (statementList.drop (lastNoOpInStatementList statementList)).any (isLabel (some value)) &&
    (visitSwitch statementList).any (isLabel none)

/-- A `switch` is not to have a value that now takes `default`. -/
def refusesDefault : Refusal ε := { continueIn := fun _ => false, value := takesDefault }

/-! ## What is removed -/

variable {condition : Option Int}

theorem isNoOp_of_isLabel {statement : Statement ε}
    (h : statement.isLabel condition) : statement.isNoOp := by
  rw [isLabel_iff.1 h]
  rfl

section

variable {statements : List (Statement ε)}

theorem isNoOp_of_lastNoOpFrom_le {i j : Nat}
    (hle : lastNoOpFrom statements i ≤ j) (hlt : j < i) {statement : Statement ε}
    (hget : statements[j]? = some statement) : statement.isNoOp := by
  induction i with
  | zero => omega
  | succ i ih =>
    unfold lastNoOpFrom at hle
    split at hle
    case isTrue hnoOp =>
      by_cases hj : j = i
      · subst hj
        simpa [hget] using hnoOp
      · exact ih hle (by omega)
    case isFalse => omega

theorem isNoOp_of_mem_drop {statement : Statement ε}
    (h : statement ∈ statements.drop (lastNoOpInStatementList statements)) :
    statement.isNoOp := by
  obtain ⟨k, hk, rfl⟩ := getElem_of_mem h
  rw [length_drop] at hk
  apply isNoOp_of_lastNoOpFrom_le (Nat.le_add_right _ k)
  · exact Nat.add_lt_of_lt_sub' hk
  · rw [getElem_drop]
    exact getElem?_eq_getElem _

theorem last_lastNoOpFrom {i : Nat}
    (hpos : 0 < lastNoOpFrom statements i) (hle : i ≤ statements.length) :
    ∃ first statement, statements.take (lastNoOpFrom statements i) = first ++ [statement] ∧
      statement.isNoOp = false := by
  induction i with
  | zero => exact absurd hpos (Nat.lt_irrefl 0)
  | succ i ih =>
    unfold lastNoOpFrom at hpos ⊢
    have hget := getElem?_eq_getElem (by omega : i < statements.length)
    split at hpos
    case isTrue hnoOp =>
      rw [if_pos hnoOp]
      exact ih hpos (by omega)
    case isFalse hnoOp =>
      rw [if_neg hnoOp]
      refine ⟨statements.take i, statements[i], take_succ_eq_append_getElem (by omega), ?_⟩
      simpa [hget] using hnoOp

theorem visitSwitch_last (h : visitSwitch statements ≠ []) :
    ∃ first statement, visitSwitch statements = first ++ [statement] ∧
      statement.isNoOp = false := by
  apply last_lastNoOpFrom _ (Nat.le_refl _)
  by_contra hzero
  apply h
  have hcount : lastNoOpInStatementList statements = 0 := Nat.eq_zero_of_not_pos hzero
  rw [visitSwitch, hcount, take_zero]

end

theorem visitSwitch_append (statements : List (Statement ε)) :
    visitSwitch statements ++ statements.drop (lastNoOpInStatementList statements) =
      statements :=
  take_append_drop _ _

/-! ## What a value reaches -/

theorem reachedFrom_of_not_label {statements : List (Statement ε)}
    (h : statements.any (isLabel condition) = false) : reachedFrom condition statements = [] := by
  unfold reachedFrom
  rw [dropWhile_eq_nil_iff.2, filter_nil]
  simpa using h

theorem reachedFrom_of_noOps (condition : Option Int) {statements : List (Statement ε)}
    (h : ∀ statement ∈ statements, statement.isNoOp) :
    reachedFrom condition statements = [] := by
  apply filter_eq_nil_iff.2
  intro statement hmem
  simp [h statement ((dropWhile_sublist _).mem hmem)]

theorem reachedFrom_append_noOps (condition : Option Int) (first : List (Statement ε))
    {second : List (Statement ε)} (h : ∀ statement ∈ second, statement.isNoOp) :
    reachedFrom condition (first ++ second) = reachedFrom condition first := by
  induction first with
  | nil => exact reachedFrom_of_noOps condition h
  | cons statement first ih =>
    unfold reachedFrom at ih ⊢
    rw [cons_append, dropWhile_cons, dropWhile_cons]
    split
    · exact ih
    · have hsecond : second.filter (fun statement => !statement.isNoOp) = [] := by
        apply filter_eq_nil_iff.2
        intro statement hmem
        simp [h statement hmem]
      rw [← cons_append, filter_append, hsecond, append_nil]

theorem mem_reachedFrom {first : List (Statement ε)}
    (h : first.any (isLabel condition)) {statement : Statement ε}
    (hnoOp : statement.isNoOp = false) :
    statement ∈ reachedFrom condition (first ++ [statement]) := by
  induction first with
  | nil => simp at h
  | cons head first ih =>
    rw [any_cons, Bool.or_eq_true] at h
    unfold reachedFrom at ih ⊢
    rw [cons_append, dropWhile_cons]
    split
    case isTrue hlabel =>
      apply ih
      rcases h with h | h
      · simp [h] at hlabel
      · exact h
    case isFalse => simp [hnoOp]

theorem labelFor_append (value : Int) (first second : List (Statement ε)) :
    labelFor value (first ++ second) =
      if second.any (isLabel (some value)) then some value else labelFor value first := by
  unfold labelFor
  rw [any_append]
  cases first.any (isLabel (some value)) with
  | false => simp
  | true => simp

theorem reached_eq (statements : List (Statement ε)) (value : Int) :
    reached statements value =
      reachedFrom (labelFor value statements) (visitSwitch statements) := by
  unfold reached
  conv =>
    lhs
    arg 2
    rw [← visitSwitch_append statements]
  exact reachedFrom_append_noOps _ _ fun statement hmem => isNoOp_of_mem_drop hmem

/-- A value whose label stays, or that has no `default` to go to, reaches what it did. -/
theorem reached_visitSwitch {statements : List (Statement ε)} {value : Int}
    (h : takesDefault statements value = false) :
    reached (visitSwitch statements) value = reached statements value := by
  rw [reached_eq statements]
  conv =>
    rhs
    arg 1
    rw [← visitSwitch_append statements, labelFor_append]
  unfold reached
  split
  case isFalse => rfl
  case isTrue hremoved =>
    unfold takesDefault at h
    rw [hremoved, Bool.true_and] at h
    unfold labelFor
    split
    · rfl
    · rename_i hlabel
      rw [reachedFrom_of_not_label h, reachedFrom_of_not_label (by simpa using hlabel)]

/-- A value that now takes `default` reaches the last statement, and did not before. -/
theorem reached_visitSwitch_ne {statements : List (Statement ε)}
    (hvalid : ValidateSwitch.validate statements) {value : Int}
    (h : takesDefault statements value) :
    reached (visitSwitch statements) value ≠ reached statements value := by
  unfold takesDefault at h
  rw [Bool.and_eq_true] at h
  obtain ⟨hremoved, hdefault⟩ := h
  have hkept : (visitSwitch statements).any (isLabel (some value)) = false := by
    apply ValidateSwitch.not_label_of_validate _ hremoved
    rw [visitSwitch_append]
    exact hvalid
  have hbefore : reached statements value = [] := by
    rw [reached_eq]
    conv =>
      lhs
      arg 1
      rw [← visitSwitch_append statements, labelFor_append, if_pos hremoved]
    exact reachedFrom_of_not_label hkept
  have hnonempty : visitSwitch statements ≠ [] := by
    intro hnil
    rw [hnil] at hdefault
    simp at hdefault
  obtain ⟨first, statement, hsplit, hnoOp⟩ := visitSwitch_last hnonempty
  rw [hbefore]
  unfold reached labelFor
  rw [if_neg (by simp [hkept])]
  apply ne_nil_of_mem
  rw [hsplit]
  apply mem_reachedFrom _ hnoOp
  rw [hsplit, any_append, Bool.or_eq_true] at hdefault
  rcases hdefault with hdefault | hdefault
  · exact hdefault
  · have hlabel : statement.isLabel none = true := by simpa using hdefault
    rw [isNoOp_of_isLabel hlabel] at hnoOp
    contradiction

/-! ## The execution of what is left -/

section Execution

variable (eval : ε → Query σ) (refuses : Refusal ε) (fuel : Nat)

mutual

theorem exec_isEmptyBlock : ∀ {statement : Statement ε}, statement.isEmptyBlock →
    exec eval refuses fuel statement = skip
  | .block statements, h => by
    unfold exec
    exact execList_areEmptyBlocks h

theorem execList_areEmptyBlocks : ∀ {statements : List (Statement ε)},
    areEmptyBlocks statements → execList eval refuses fuel .start statements = skip
  | [], _ => by
    unfold execList
    rfl
  | statement :: statements, h => by
    unfold areEmptyBlocks at h
    rw [Bool.and_eq_true] at h
    unfold execList
    rw [exec_isEmptyBlock h.1, execList_areEmptyBlocks h.2, skip_seq]

end

theorem exec_isNoOp {statement : Statement ε} (h : statement.isNoOp) :
    exec eval refuses fuel statement = skip := by
  cases statement with
  | case condition =>
    unfold exec
    rfl
  | _ => exact exec_isEmptyBlock eval refuses fuel h

theorem execList_filter (statements : List (Statement ε)) :
    execList eval refuses fuel .start (statements.filter fun statement => !statement.isNoOp) =
      execList eval refuses fuel .start statements := by
  induction statements with
  | nil => rfl
  | cons statement statements ih =>
    rw [filter_cons]
    split
    · simp only [execList, ih]
    · rename_i hnoOp
      simp only [execList, ih]
      rw [exec_isNoOp eval refuses fuel (by simpa using hnoOp), skip_seq]

theorem execList_label (condition : Option Int) (statements : List (Statement ε)) :
    execList eval refuses fuel (.label condition) statements =
      execList eval refuses fuel .start (reachedFrom condition statements) := by
  induction statements with
  | nil => simp [execList, reachedFrom]
  | cons statement statements ih =>
    unfold reachedFrom at ih ⊢
    rw [dropWhile_cons]
    simp only [execList]
    split
    case isTrue hlabel =>
      rw [if_neg (by simp [hlabel]), execList_filter]
      simp only [execList]
      rw [exec_isNoOp eval refuses fuel (isNoOp_of_isLabel hlabel), skip_seq]
    case isFalse hlabel =>
      rw [if_pos (by simp [hlabel])]
      exact ih

/-- The execution of a `switch` on a value only depends on what the value reaches. -/
theorem execList_reached (statements : List (Statement ε)) (value : Int) :
    execList eval refuses fuel (.label (labelFor value statements)) statements =
      execList eval refuses fuel .start (reached statements value) :=
  execList_label eval refuses fuel _ statements

end Execution

variable {hasSideEffects : ε → Bool}

theorem prune_label (condition : Option Int) (statement : Statement ε) :
    (prune hasSideEffects statement).any (isLabel condition) = statement.isLabel condition := by
  cases statement with
  | switch init statementList =>
    unfold prune
    split
    · split
      · simp [isLabel]
      · simp [isLabel]
    · simp [isLabel]
  | _ => simp [prune, isLabel]

theorem pruneFirst_label (condition : Option Int) (count : Nat) (statements : List (Statement ε)) :
    (pruneFirst hasSideEffects count statements).any (isLabel condition) =
      (statements.take count).any (isLabel condition) := by
  induction statements generalizing count with
  | nil => simp [pruneFirst]
  | cons statement statements ih =>
    cases count with
    | zero => simp [pruneFirst]
    | succ count =>
      unfold pruneFirst
      rw [any_append, prune_label, ih, take_succ_cons, any_cons]

theorem labelFor_pruneFirst (value : Int) (statements : List (Statement ε)) :
    labelFor value (pruneFirst hasSideEffects (lastNoOpInStatementList statements) statements) =
      labelFor value (visitSwitch statements) := by
  unfold labelFor
  rw [pruneFirst_label]
  rfl

theorem visitSwitch_eq_nil {statements : List (Statement ε)}
    (h : lastNoOpInStatementList statements = 0) : visitSwitch statements = [] := by
  rw [visitSwitch, h, take_zero]

theorem not_takesDefault_of_eq_zero {statements : List (Statement ε)}
    (h : lastNoOpInStatementList statements = 0) (value : Int) :
    takesDefault statements value = false := by
  unfold takesDefault
  rw [visitSwitch_eq_nil h]
  simp

/-- A `switch` that is removed does nothing but evaluate its initial expression. -/
theorem exec_switch_removed (eval : ε → Query σ) (fuel : Nat) (init : ε)
    {statements : List (Statement ε)} (h : lastNoOpInStatementList statements = 0) :
    exec eval refusesDefault fuel (switch init statements) = perform (eval init) := by
  unfold exec perform
  congr 1
  funext value
  have hkept := not_takesDefault_of_eq_zero h value
  rw [execList_reached, ← reached_visitSwitch hkept, visitSwitch_eq_nil h]
  simp only [refusesDefault, hkept]
  rfl

theorem pruneFirst_entry_label (eval : ε → Query σ) (refuses : Refusal ε) (fuel : Nat)
    {statement : Statement ε}
    (h : statement.isLabel condition = false) (statements : List (Statement ε)) :
    execList eval refuses fuel (.label condition) (prune hasSideEffects statement ++ statements) =
      execList eval refuses fuel (.label condition) statements := by
  apply execList_label_append
  rw [prune_label]
  exact h

section Simulation

variable {R : σ → τ → Prop} {eval : ε → Query σ} {eval' : ε → Query τ}

mutual

/-- A statement does the same after the pass, in a run in which no value takes `default` where it
had a label of its own. -/
theorem simulates_prune (h : ∀ e, Answers R (eval e) (eval' e))
    (hpure : ∀ e, hasSideEffects e = false → ∀ s, ∃ value, eval e s = (.ok value, s))
    (fuel : Nat) : ∀ statement : Statement ε, Simulates R (exec eval refusesDefault fuel statement)
        (execList eval' refusesNone fuel .start (prune hasSideEffects statement))
  | .expression e => by
    unfold prune
    rw [execList_singleton]
    exact simulates_exec h _ fuel _
  | .block statements => by
    unfold prune
    rw [execList_singleton]
    unfold exec
    have hlist := simulates_pruneFirst h hpure fuel .start statements.length statements
    rwa [take_length] at hlist
  | .ifElse condition trueBlock falseBlock => by
    unfold prune
    rw [execList_singleton]
    unfold exec
    apply Simulates.evaluate (h condition)
    intro value
    exact .ite (simulates_pruneBlock h hpure fuel falseBlock)
      (simulates_pruneBlock h hpure fuel trueBlock)
  | .whileLoop condition body => by
    unfold prune
    rw [execList_singleton]
    unfold exec
    apply Simulates.whileLoop (h condition)
    · exact simulates_pruneBlock h hpure fuel body
    · exact answers_evalOption h 0 none
  | .doWhileLoop condition body => by
    unfold prune
    rw [execList_singleton]
    unfold exec
    exact .doLoop (simulates_pruneBlock h hpure fuel body) (h condition) fuel
  | .forLoop init condition increment body => by
    unfold prune
    rw [execList_singleton]
    unfold exec
    apply Simulates.seq
    · exact .evaluate (answers_evalOption h 0 init) fun _ => simulates_skip
    · apply Simulates.whileLoop (answers_evalOption h 1 condition)
      · exact simulates_pruneBlock h hpure fuel body
      · exact answers_evalOption h 0 increment
  | .switch init statementList => by
    unfold prune
    split
    case isTrue hzero =>
      rw [exec_switch_removed eval fuel init hzero]
      split
      case isTrue heffects =>
        rw [execList_singleton]
        unfold exec
        exact .evaluate (h init) fun _ => simulates_skip
      case isFalse hno =>
        intro s t hrel _
        obtain ⟨value, hvalue⟩ := hpure init (by simpa using hno) s
        unfold perform execList
        rw [evaluate_ok hvalue]
        exact ⟨rfl, hrel⟩
    case isFalse hcount =>
      rw [execList_singleton]
      unfold exec
      apply Simulates.evaluate (h init)
      intro value
      split
      case isTrue hrefused => exact refused_simulated _
      case isFalse hallowed =>
        -- The value reaches what it did, now from the label it selects in what is left.
        have hkept : takesDefault statementList value = false :=
          Bool.eq_false_of_not_eq_true hallowed
        rw [execList_reached, ← reached_visitSwitch hkept, ← execList_reached, labelFor_pruneFirst]
        exact (simulates_pruneFirst h hpure fuel _ _ statementList).catchBreak
  | .case condition => by
    unfold prune
    rw [execList_singleton]
    exact simulates_exec h _ fuel _
  | .discards => by
    unfold prune
    rw [execList_singleton]
    exact simulates_exec h _ fuel _
  | .returns value => by
    unfold prune
    rw [execList_singleton]
    exact simulates_exec h _ fuel _
  | .breaks => by
    unfold prune
    rw [execList_singleton]
    exact simulates_exec h _ fuel _
  | .continues => by
    unfold prune
    rw [execList_singleton]
    exact simulates_exec h _ fuel _

theorem simulates_pruneFirst (h : ∀ e, Answers R (eval e) (eval' e))
    (hpure : ∀ e, hasSideEffects e = false → ∀ s, ∃ value, eval e s = (.ok value, s))
    (fuel : Nat) : ∀ (entry : Entry) (count : Nat) (statements : List (Statement ε)),
      Simulates R (execList eval refusesDefault fuel entry (statements.take count))
        (execList eval' refusesNone fuel entry (pruneFirst hasSideEffects count statements))
  | entry, count, [] => by
    unfold pruneFirst
    rw [take_nil]
    unfold execList
    exact simulates_skip
  | entry, 0, statement :: statements => by
    unfold pruneFirst
    rw [take_zero]
    unfold execList
    exact simulates_skip
  | .start, count + 1, statement :: statements => by
    unfold pruneFirst
    rw [take_succ_cons, execList_append]
    conv =>
      arg 2
      unfold execList
    exact (simulates_prune h hpure fuel statement).seq
      (simulates_pruneFirst h hpure fuel .start count statements)
  | .label condition, count + 1, statement :: statements => by
    have hstart := simulates_pruneFirst h hpure fuel .start count statements
    have hlabel := simulates_pruneFirst h hpure fuel (.label condition) count statements
    unfold pruneFirst
    rw [take_succ_cons]
    conv =>
      arg 2
      unfold execList
    split
    case isTrue hcase =>
      have hprune : prune hasSideEffects statement = [statement] := by
        rw [isLabel_iff.1 hcase]
        rfl
      rw [hprune, singleton_append, execList_label_cons _ _ _ hcase]
      exact hstart
    case isFalse hcase =>
      rw [pruneFirst_entry_label _ _ _ (by simpa using hcase)]
      exact hlabel

theorem simulates_pruneBlock (h : ∀ e, Answers R (eval e) (eval' e))
    (hpure : ∀ e, hasSideEffects e = false → ∀ s, ∃ value, eval e s = (.ok value, s))
    (fuel : Nat) : ∀ block : Option (List (Statement ε)),
      Simulates R (execBlock eval refusesDefault fuel block)
        (execBlock eval' refusesNone fuel (pruneBlock hasSideEffects block))
  | none => by
    unfold pruneBlock execBlock
    exact simulates_skip
  | some statements => by
    unfold pruneBlock execBlock
    have hlist := simulates_pruneFirst h hpure fuel .start statements.length statements
    rwa [take_length] at hlist

end

end Simulation

/-! ## Shaders -/

theorem simulates_pruneEmptyCases {interpret : ε → σ → Steps σ}
    (hpure : ∀ e, hasSideEffects e = false → ∀ s, ∃ value, interpret e s = .done (.ok value) s)
    (functions : List (List (Statement ε))) (fuel depth function : Nat) :
    Simulates Eq (execFunction interpret refusesDefault functions fuel depth function)
      (execFunction interpret refusesNone (functions.map (pruneEmptyCases hasSideEffects)) fuel
        depth function) := by
  apply simulates_execFunction
  intro callee callee' h body
  have hpure' : ∀ e, hasSideEffects e = false → ∀ s, ∃ value,
      (interpret e s).run callee = (.ok value, s) := by
    intro e he s
    obtain ⟨value, hvalue⟩ := hpure e he s
    refine ⟨value, ?_⟩
    rw [hvalue]
    rfl
  have hbody := simulates_pruneFirst (answers_run h) hpure' fuel .start body.length body
  rwa [take_length] at hbody

/-- A value reaches the same statements of an accepted `switch` if and only if its own label is not
removed in front of a `default` that stays.  A run without such a value is kept by the pass. -/
theorem pruneEmptyCases_meets {interpret : ε → σ → Steps σ}
    (hpure : ∀ e, hasSideEffects e = false → ∀ s, ∃ value, interpret e s = .done (.ok value) s) :
    (∀ statementList : List (Statement ε), ValidateSwitch.validate statementList = true →
      ∀ value, reached (visitSwitch statementList) value = reached statementList value ↔
        takesDefault statementList value = false) ∧
    ∀ (functions : List (List (Statement ε))) (fuel depth function : Nat) (s : σ),
      (execFunction interpret refusesDefault functions fuel depth function s).1 ≠ .stops .refused →
      execFunction interpret refusesNone (functions.map (pruneEmptyCases hasSideEffects)) fuel
          depth function s =
        execFunction interpret refusesNone functions fuel depth function s := by
  constructor
  · intro statementList hvalid value
    constructor
    · intro hsame
      by_contra htakes
      exact reached_visitSwitch_ne hvalid (by simpa using htakes) hsame
    · exact reached_visitSwitch
  · intro functions fuel depth function s hallowed
    rw [execFunction_eq_of_allowed _ refusesDefault _ _ _ _ _ hallowed]
    obtain ⟨hcompletion, hstate⟩ :=
      simulates_pruneEmptyCases hpure functions fuel depth function s s rfl hallowed
    exact Prod.ext hcompletion hstate.symm

/-! ## A default in front of an empty case -/

def countCalls (isCall : Bool) (calls : Nat) : Steps Nat :=
  if isCall then .done (.ok 0) (calls + 1) else .done (.ok 1) calls

/-- `default: f(); break; case 1: {}` or, when `default` is last, `case 1: {} default: f();`. -/
def switchOnVariable (defaultLast : Bool) : List (Statement Bool) :=
  if defaultLast then [case (some 1), block [], case none, expression true]
  else [case none, expression true, breaks, case (some 1), block []]

theorem pruneEmptyCases_meets_default_last :
    reached (visitSwitch (switchOnVariable true)) 1 = reached (switchOnVariable true) 1 ∧
    execFunction countCalls refusesNone
        (List.map (pruneEmptyCases id) [[switch false (switchOnVariable true)]]) 1 1 0 0 =
      execFunction countCalls refusesNone [[switch false (switchOnVariable true)]] 1 1 0 0 := by
  have hpure : ∀ e : Bool, id e = false → ∀ s, ∃ value, countCalls e s = .done (.ok value) s := by
    intro e he s
    subst he
    exact ⟨1, rfl⟩
  constructor
  · exact ((pruneEmptyCases_meets hpure).1 _ (by decide) 1).2 (by decide)
  · exact (pruneEmptyCases_meets hpure).2 _ 1 1 0 0 (by decide)

/-- The value 1 takes `default` after the pass, and calls the function. -/
theorem default_taken_after_prune :
    ValidateSwitch.validate (switchOnVariable false) = true ∧
    reached (visitSwitch (switchOnVariable false)) 1 ≠ reached (switchOnVariable false) 1 ∧
    execFunction countCalls refusesNone [[switch false (switchOnVariable false)]] 1 1 0 0 =
      (.normal, 0) ∧
    execFunction countCalls refusesNone
        (List.map (pruneEmptyCases id) [[switch false (switchOnVariable false)]]) 1 1 0 0 =
      (.normal, 1) := by
  refine ⟨by decide, ?_, by decide, by decide⟩
  exact reached_visitSwitch_ne (by decide) (by decide)

end Statement

end MetalAngle.Translator
