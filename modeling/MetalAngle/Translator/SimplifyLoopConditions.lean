import MetalAngle.Translator.Statement

/-!
# Loop conditions as statements

The conditions and expressions of some loops are moved into the bodies of the loops, with the value
of the condition in a temporary variable.  Which expressions make a loop change is a parameter.  A
body that ends with `continue` does not reach what was moved behind it.
-/

namespace MetalAngle.Translator

open ControlFlow ControlFlow.Command Nat Function

/-- The expressions after the pass: those of the source, and those on temporary variables. -/
inductive TempExpr (ε : Type*)
  | original (e : ε)
  | declare (temp : Nat) (initializer : Option ε)
  | assign (temp : Nat) (e : ε)
  | symbol (temp : Nat)

abbrev Temps := Nat → Int

namespace Statement

variable {ε σ : Type*}

section Pass

variable (found : ε → Bool)

def anyFound : Option ε → Bool
  | none => false
  | some e => found e

def bodyStatement {α : Type*} : Option (List (Statement α)) → List (Statement α)
  | none => []
  | some statements => [block statements]

/-- `s0 = expr;`, for a loop with a condition. -/
def assignStatement (conditionVariable : Nat) :
    Option ε → List (Statement (TempExpr ε))
  | none => []
  | some e => [expression (.assign conditionVariable e)]

def originalStatement : Option ε → List (Statement (TempExpr ε))
  | none => []
  | some e => [expression (.original e)]

/-- `bool s0 = expr;`, or `bool s0 = true;` without an expression. -/
def tempInitDeclaration (conditionVariable : Nat) (initializer : Option ε) :
    Statement (TempExpr ε) :=
  expression (.declare conditionVariable initializer)

mutual

/-- What stands in the place of a statement after the pass, and the next temporary variable. -/
def simplify : Statement ε → Nat → List (Statement (TempExpr ε)) × Nat
  | expression e, next => ([expression (.original e)], next)
  | block statements, next =>
      let inner := simplifyList statements next
      ([block inner.1], inner.2)
  | ifElse condition trueBlock falseBlock, next =>
      let whenTrue := simplifyBlock trueBlock next
      let whenFalse := simplifyBlock falseBlock whenTrue.2
      ([ifElse (.original condition) whenTrue.1 whenFalse.1], whenFalse.2)
  | whileLoop condition body, next =>
    if found condition then
      let inner := simplifyBlock body (next + 1)
      ([tempInitDeclaration next (some condition),
        whileLoop (.symbol next)
          (some (bodyStatement inner.1 ++ assignStatement next (some condition)))], inner.2)
    else
      let inner := simplifyBlock body next
      ([whileLoop (.original condition) inner.1], inner.2)
  | doWhileLoop condition body, next =>
    if found condition then
      let inner := simplifyBlock body (next + 1)
      ([tempInitDeclaration next none,
        doWhileLoop (.symbol next)
          (some (bodyStatement inner.1 ++ assignStatement next (some condition)))], inner.2)
    else
      let inner := simplifyBlock body next
      ([doWhileLoop (.original condition) inner.1], inner.2)
  | forLoop init condition increment body, next =>
    if anyFound found init || anyFound found condition || anyFound found increment then
      let inner := simplifyBlock body (next + 1)
      ([block
        (originalStatement init ++
          [tempInitDeclaration next condition,
            whileLoop (.symbol next)
              (some (bodyStatement inner.1 ++ originalStatement increment ++
                assignStatement next condition))])], inner.2)
    else
      let inner := simplifyBlock body next
      ([forLoop (init.map .original) (condition.map .original) (increment.map .original)
        inner.1], inner.2)
  | switch init statementList, next =>
      let inner := simplifyList statementList next
      ([switch (.original init) inner.1], inner.2)
  | case condition, next => ([case condition], next)
  | discards, next => ([discards], next)
  | returns value, next => ([returns (value.map .original)], next)
  | breaks, next => ([breaks], next)
  | continues, next => ([continues], next)

def simplifyList : List (Statement ε) → Nat → List (Statement (TempExpr ε)) × Nat
  | [], next => ([], next)
  | statement :: statements, next =>
      let first := simplify statement next
      let rest := simplifyList statements first.2
      (first.1 ++ rest.1, rest.2)

def simplifyBlock :
    Option (List (Statement ε)) → Nat → Option (List (Statement (TempExpr ε))) × Nat
  | none, next => (none, next)
  | some statements, next =>
      let inner := simplifyList statements next
      (some inner.1, inner.2)

end

def simplifyLoopConditions :
    List (List (Statement ε)) → Nat → List (List (Statement (TempExpr ε)))
  | [], _ => []
  | body :: functions, next =>
      let first := simplifyList found body next
      first.1 :: simplifyLoopConditions functions first.2

/-- The loops that are changed and have something moved behind their body, where a `continue` does
not reach it. -/
def movesBehindBody : Statement ε → Bool
  | whileLoop condition _ => found condition
  | doWhileLoop condition _ => found condition
  | forLoop init condition increment _ =>
      (anyFound found init || anyFound found condition || anyFound found increment) &&
        (condition.isSome || increment.isSome)
  | _ => false

/-- The body of such a loop is not to `continue`. -/
def refusesContinue : Refusal ε :=
  { continueIn := movesBehindBody found, value := fun _ _ => false }

end Pass

/-! ## Execution with temporary variables -/

section Semantics

def evalAssign (eval : ε → Query σ) (temp : Nat) (e : ε) : Query (σ × Temps) := fun t =>
  match eval e t.1 with
  | (.error why, s) => (.error why, (s, t.2))
  | (.ok value, s) => (.ok value, (s, Function.update t.2 temp value))

def evalTemp (eval : ε → Query σ) : TempExpr ε → Query (σ × Temps)
  | .original e => fun t => ((eval e t.1).1, ((eval e t.1).2, t.2))
  | .declare temp none => fun t => (.ok 1, (t.1, Function.update t.2 temp 1))
  | .declare temp (some e) => evalAssign eval temp e
  | .assign temp e => evalAssign eval temp e
  | .symbol temp => fun t => (.ok (t.2 temp), t)

def execSimplified (interpret : ε → σ → Steps σ)
    (functions : List (List (Statement (TempExpr ε)))) (fuel : Nat) : Nat → Nat → Command σ
  | 0, _ => jump (.stops .outOfFuel)
  | depth + 1, function => fun s =>
    let outcome :=
      execList
        (evalTemp fun e s =>
          (interpret e s).run (execSimplified interpret functions fuel depth))
        refusesNone fuel .start (functions[function]?.getD []) (s, fun _ => 0)
    (outcome.1, outcome.2.1)

end Semantics

/-! ## The states after the pass -/

variable {found : ε → Bool} {eval eval' : ε → Query σ} {bound : Nat} {temps : Temps}

/-- The second state has the temporary variables below a bound as given. -/
structure Keeps (bound : Nat) (temps : Temps) (s : σ) (t : σ × Temps) : Prop where
  state : t.1 = s
  kept : ∀ v < bound, t.2 v = temps v

/-- The condition's variable has a value, which is 1 when there is no condition. -/
structure Holds (bound : Nat) (temps : Temps) (conditionVariable : Nat) (condition : Option ε)
    (value : Int) (s : σ) (t : σ × Temps) : Prop where
  keeps : Keeps bound temps s t
  holds : t.2 conditionVariable = value
  missing : condition = none → value = 1

theorem simulates_keeps_mono {n : Nat} {c : Command σ} {c' : Command (σ × Temps)}
    (h : ∀ temps, Simulates (Keeps n temps) c c') (hle : bound ≤ n) (temps : Temps) :
    Simulates (Keeps bound temps) c c' := by
  intro s t hkeeps hallowed
  obtain ⟨hsame, hafter⟩ := h t.2 s t ⟨hkeeps.state, fun v _ => rfl⟩ hallowed
  refine ⟨hsame, hafter.state, ?_⟩
  intro v hv
  rw [hafter.kept v (by omega), hkeeps.kept v hv]

theorem simulates_holds {n : Nat} {c : Command σ} {c' : Command (σ × Temps)}
    (h : ∀ temps, Simulates (Keeps (n + 1) temps) c c') (hle : bound ≤ n) (temps : Temps)
    (condition : Option ε) (value : Int) :
    Simulates (Holds bound temps n condition value) c c' := by
  intro s t hholds hallowed
  obtain ⟨hsame, hafter⟩ := h t.2 s t ⟨hholds.keeps.state, fun v _ => rfl⟩ hallowed
  refine ⟨hsame, ⟨hafter.state, ?_⟩, ?_, hholds.missing⟩
  · intro v hv
    rw [hafter.kept v (by omega), hholds.keeps.kept v hv]
  · rw [hafter.kept n (by omega), hholds.holds]

theorem answers_original (h : ∀ e, Answers Eq (eval e) (eval' e)) (e : ε) :
    Answers (Keeps bound temps) (eval e) (evalTemp eval' (.original e)) := by
  intro s t hkeeps hallowed
  obtain ⟨hsame, hstate⟩ := h e s t.1 hkeeps.state.symm hallowed
  exact ⟨hsame, hstate.symm, hkeeps.kept⟩

theorem answers_original_option (h : ∀ e, Answers Eq (eval e) (eval' e)) (missing : Int)
    (e : Option ε) :
    Answers (Keeps bound temps) (evalOption eval missing e)
      (evalOption (evalTemp eval') missing (e.map .original)) := by
  cases e with
  | none =>
    intro s t hkeeps _
    exact ⟨rfl, hkeeps⟩
  | some e => exact answers_original h e

/-! ## The condition's variable -/

theorem flag_of_holds {n : Nat} {condition : Option ε} (value : Int) (s : σ) (t : σ × Temps)
    (h : Holds bound temps n condition value s t) :
    evalTemp eval' (.symbol n) t = (.ok value, t) := by
  rw [← h.holds]
  rfl

/-- The assignment of the condition leaves the value in the variable. -/
theorem marks_evalAssign (h : ∀ e, Answers Eq (eval e) (eval' e)) {n : Nat} (hle : bound ≤ n)
    (e : ε) {P : σ → σ × Temps → Prop} (hP : ∀ s t, P s t → Keeps bound temps s t) :
    Marks P (Keeps bound temps) (Holds bound temps n (some e)) (eval e)
      (perform (evalAssign eval' n e)) := by
  intro s t hstart hallowed
  have hkeeps := hP s t hstart
  obtain ⟨hsame, hstate⟩ := h e s t.1 hkeeps.state.symm hallowed
  unfold perform evaluate evalAssign
  rcases heval : eval e s with ⟨result, s'⟩
  rcases heval' : eval' e t.1 with ⟨result', s''⟩
  rw [heval, heval'] at hsame hstate
  obtain rfl : result' = result := hsame
  obtain rfl : s' = s'' := hstate
  cases result' with
  | error why => exact ⟨rfl, rfl, hkeeps.kept⟩
  | ok value =>
    refine ⟨rfl, ⟨rfl, ?_⟩, update_self .., fun hnone => by contradiction⟩
    intro v hv
    simp only [skip, jump]
    rw [update_of_ne (by omega), hkeeps.kept v hv]

theorem exec_tempInitDeclaration (refuses : Refusal (TempExpr ε)) (fuel n : Nat)
    (initializer : Option ε) :
    exec (evalTemp eval') refuses fuel (tempInitDeclaration n initializer) =
      perform (evalTemp eval' (.declare n initializer)) := by
  rfl

/-- After `bool s0 = true;` the variable is 1. -/
theorem perform_declare_true {n : Nat} {t : σ × Temps} :
    perform (evalTemp eval' (.declare n none)) t = (.normal, (t.1, Function.update t.2 n 1)) := rfl

theorem holds_declare_true {n : Nat} (hle : bound ≤ n) {condition : Option ε} {s : σ}
    {t : σ × Temps} (h : Keeps bound temps s t) :
    Holds bound temps n condition 1 s (t.1, Function.update t.2 n 1) := by
  refine ⟨⟨h.state, ?_⟩, update_self .., fun _ => rfl⟩
  intro v hv
  dsimp only
  rw [update_of_ne (by omega), h.kept v hv]

section

variable (h : ∀ e, Answers Eq (eval e) (eval' e))
include h

theorem marks_tempInitDeclaration {n : Nat}
    (hle : bound ≤ n) (condition : Option ε) :
    Marks (Keeps bound temps) (Keeps bound temps) (Holds bound temps n condition)
      (evalOption eval 1 condition) (perform (evalTemp eval' (.declare n condition))) := by
  cases condition with
  | some e => exact marks_evalAssign h hle e fun s t hkeeps => hkeeps
  | none =>
    intro s t hkeeps _
    exact ⟨rfl, holds_declare_true hle hkeeps⟩

theorem marks_assignStatement {n : Nat}
    (hle : bound ≤ n) (fuel : Nat) (condition : Option ε) (value : Int) :
    Marks (Holds bound temps n condition value) (Keeps bound temps)
      (Holds bound temps n condition) (evalOption eval 1 condition)
      (execList (evalTemp eval') refusesNone fuel .start (assignStatement n condition)) := by
  cases condition with
  | some e =>
    unfold assignStatement
    rw [execList_singleton]
    exact marks_evalAssign h hle e fun s t hholds => hholds.keeps
  | none =>
    unfold assignStatement execList
    intro s t hholds _
    refine ⟨rfl, hholds.keeps, ?_, fun _ => rfl⟩
    rw [show (skip t).2 = t from rfl, hholds.holds, hholds.missing rfl]

theorem simulates_originalStatement (fuel : Nat)
    (e : Option ε) (temps : Temps) :
    Simulates (Keeps bound temps) (perform (evalOption eval 0 e))
      (execList (evalTemp eval') refusesNone fuel .start (originalStatement e)) := by
  cases e with
  | none =>
    exact simulates_skip
  | some e =>
    unfold originalStatement
    rw [execList_singleton]
    exact .evaluate (answers_original h e) fun _ => simulates_skip

end

theorem execList_bodyStatement (evalBody : TempExpr ε → Query (σ × Temps)) (fuel : Nat)
    (body : Option (List (Statement (TempExpr ε)))) :
    execList evalBody refusesNone fuel .start (bodyStatement body) =
      execBlock evalBody refusesNone fuel body := by
  cases body with
  | none =>
    rfl
  | some statements =>
    unfold bodyStatement execBlock
    rw [execList_singleton]
    rfl

/-! ## The three loops -/

section Loops

variable {fuel n : Nat} {body : Option (List (Statement ε))}
  {body' : Option (List (Statement (TempExpr ε)))}

def flagLoop (n : Nat) (body' : Option (List (Statement (TempExpr ε))))
    (increment condition : Option ε) : Statement (TempExpr ε) :=
  whileLoop (.symbol n)
    (some (bodyStatement body' ++ originalStatement increment ++ assignStatement n condition))

theorem exec_flagLoop (evalBody : TempExpr ε → Query (σ × Temps)) (fuel : Nat)
    (increment condition : Option ε) :
    exec evalBody refusesNone fuel (flagLoop n body' increment condition) =
      Command.whileLoop (evalBody (.symbol n)) ((execBlock evalBody refusesNone fuel body').seq
          ((execList evalBody refusesNone fuel .start (originalStatement increment)).seq
            (execList evalBody refusesNone fuel .start (assignStatement n condition))))
        (answer 0) fuel := by
  unfold flagLoop exec
  rw [List.append_assoc, execBlock_some, execList_append, execList_append, execList_bodyStatement]
  rfl

/-- A loop whose condition and expression are moved into the body, where it does not `continue`. -/
theorem simulates_flagLoop (h : ∀ e, Answers Eq (eval e) (eval' e)) (hle : bound ≤ n)
    (temps : Temps) (increment condition : Option ε) {c : Command σ}
    (hbody : ∀ temps, Simulates (Keeps (n + 1) temps) c
      (execBlock (evalTemp eval') refusesNone fuel body')) :
    Simulates (Keeps bound temps) (Command.whileLoop (evalOption eval 1 condition) c.refuseContinue
        (evalOption eval 0 increment) fuel)
      ((perform (evalTemp eval' (.declare n condition))).seq
        (exec (evalTemp eval') refusesNone fuel (flagLoop n body' increment condition))) := by
  rw [exec_flagLoop]
  apply simulates_whileLoop_flag (fun value s t hholds => hholds.keeps) flag_of_holds
    (marks_tempInitDeclaration h hle condition)
    (fun value _ => marks_assignStatement h hle fuel condition value)
  · intro value
    exact simulates_holds hbody hle temps condition value
  · intro value
    apply simulates_holds _ hle temps condition value
    exact simulates_originalStatement h fuel increment

/-- A loop with nothing to move, whose variable stays true. -/
theorem simulates_flagLoop_none (hle : bound ≤ n) (temps : Temps) {c : Command σ}
    (hbody : ∀ temps, Simulates (Keeps (n + 1) temps) c
      (execBlock (evalTemp eval') refusesNone fuel body')) :
    Simulates (Keeps bound temps) (Command.whileLoop (answer 1) c (answer 0) fuel)
      ((perform (evalTemp eval' (.declare n none))).seq
        (exec (evalTemp eval') refusesNone fuel (flagLoop n body' none none))) := by
  have hloop : Simulates (Holds bound temps n (none : Option ε) 1)
      (Command.whileLoop (answer 1) c (answer 0) fuel)
      (Command.whileLoop (evalTemp eval' (.symbol n))
        (execBlock (evalTemp eval') refusesNone fuel body') (answer 0) fuel) := by
    apply Simulates.whileLoop
    · intro s t hholds _
      rw [flag_of_holds 1 s t hholds]
      exact ⟨rfl, hholds⟩
    · exact simulates_holds hbody hle temps none 1
    · intro s t hholds _
      exact ⟨rfl, hholds⟩
  intro s t hkeeps hallowed
  have hempty : execList (evalTemp eval') refusesNone fuel .start
      (assignStatement n (none : Option ε)) = skip := by
    rfl
  have hexec : exec (evalTemp eval') refusesNone fuel (flagLoop n body' none none) =
      Command.whileLoop (evalTemp eval' (.symbol n))
        (execBlock (evalTemp eval') refusesNone fuel body') (answer 0) fuel := by
    rw [exec_flagLoop, hempty, seq_skip]
    unfold originalStatement execList
    rw [seq_skip]
  rw [seq_normal perform_declare_true, hexec]
  obtain ⟨hsame, hholds⟩ := hloop s _ (holds_declare_true hle hkeeps) hallowed
  exact ⟨hsame, hholds.keeps⟩

def doFlagLoop (n : Nat) (body' : Option (List (Statement (TempExpr ε)))) (condition : ε) :
    Statement (TempExpr ε) :=
  doWhileLoop (.symbol n) (some (bodyStatement body' ++ assignStatement n (some condition)))

theorem exec_doFlagLoop (evalBody : TempExpr ε → Query (σ × Temps)) (fuel : Nat) (condition : ε) :
    exec evalBody refusesNone fuel (doFlagLoop n body' condition) = Command.doLoop
        ((execBlock evalBody refusesNone fuel body').seq
          (execList evalBody refusesNone fuel .start (assignStatement n (some condition))))
        (evalBody (.symbol n)) fuel := by
  unfold doFlagLoop exec
  rw [execBlock_some, execList_append, execList_bodyStatement]
  rfl

theorem simulates_doFlagLoop (h : ∀ e, Answers Eq (eval e) (eval' e)) (hle : bound ≤ n)
    (temps : Temps) (condition : ε) {c : Command σ}
    (hbody : ∀ temps, Simulates (Keeps (n + 1) temps) c
      (execBlock (evalTemp eval') refusesNone fuel body')) :
    Simulates (Keeps bound temps) (Command.doLoop c.refuseContinue (eval condition) fuel)
      ((perform (evalTemp eval' (.declare n none))).seq
        (exec (evalTemp eval') refusesNone fuel (doFlagLoop n body' condition))) := by
  intro s t hkeeps hallowed
  rw [seq_normal perform_declare_true, exec_doFlagLoop]
  apply doLoop_flag_simulated (fun value s t hholds => hholds.keeps) flag_of_holds
    (fun value => marks_assignStatement h hle fuel (some condition) value) _ fuel 1 s _
    (holds_declare_true hle hkeeps) hallowed
  intro value
  exact simulates_holds hbody hle temps (some condition) value

end Loops

/-! ## What the pass keeps -/

mutual

theorem le_simplify : ∀ (statement : Statement ε) (next : Nat),
    next ≤ (simplify found statement next).2
  | .expression _, _ => le_refl _
  | .block statements, next => le_simplifyList statements next
  | .ifElse condition trueBlock falseBlock, next =>
    le_trans (le_simplifyBlock trueBlock next) (le_simplifyBlock falseBlock _)
  | .whileLoop condition body, next => by
    unfold simplify
    split
    · exact le_trans (le_succ next) (le_simplifyBlock body (next + 1))
    · exact le_simplifyBlock body next
  | .doWhileLoop condition body, next => by
    unfold simplify
    split
    · exact le_trans (le_succ next) (le_simplifyBlock body (next + 1))
    · exact le_simplifyBlock body next
  | .forLoop init condition increment body, next => by
    unfold simplify
    split
    · exact le_trans (le_succ next) (le_simplifyBlock body (next + 1))
    · exact le_simplifyBlock body next
  | .switch init statementList, next => le_simplifyList statementList next
  | .case _, _ => le_refl _
  | .discards, next => le_refl _
  | .returns value, next => le_refl _
  | .breaks, next => le_refl _
  | .continues, next => le_refl _

theorem le_simplifyList : ∀ (statements : List (Statement ε)) (next : Nat),
    next ≤ (simplifyList found statements next).2
  | [], _ => le_refl _
  | statement :: statements, next =>
    le_trans (le_simplify statement next) (le_simplifyList statements _)

theorem le_simplifyBlock : ∀ (block : Option (List (Statement ε))) (next : Nat),
    next ≤ (simplifyBlock found block next).2
  | none, _ => le_refl _
  | some statements, next => le_simplifyList statements next

end

theorem simplify_label (condition : Option Int) (statement : Statement ε) (next : Nat) :
    (simplify found statement next).1.any (isLabel condition) =
      statement.isLabel condition := by
  cases statement with
  | whileLoop test body =>
    unfold simplify
    split
    · simp [isLabel, tempInitDeclaration]
    · simp [isLabel]
  | doWhileLoop test body =>
    unfold simplify
    split
    · simp [isLabel, tempInitDeclaration]
    · simp [isLabel]
  | forLoop init test increment body =>
    unfold simplify
    split
    · simp [isLabel]
    · simp [isLabel]
  | _ => simp [simplify, isLabel]

theorem simplifyList_label (condition : Option Int) (statements : List (Statement ε)) (next : Nat) :
    (simplifyList found statements next).1.any (isLabel condition) =
      statements.any (isLabel condition) := by
  induction statements generalizing next with
  | nil => rfl
  | cons statement statements ih =>
    unfold simplifyList
    rw [List.any_append, simplify_label, ih, List.any_cons]

theorem labelFor_simplifyList (value : Int) (statements : List (Statement ε)) (next : Nat) :
    labelFor value (simplifyList found statements next).1 = labelFor value statements := by
  unfold labelFor
  rw [simplifyList_label]

/-! ## Simulation -/

theorem loopBody_of_moves {loop : Statement ε} (h : movesBehindBody found loop)
    (body : Command σ) : loopBody (refusesContinue found) loop body = refuseContinue body :=
  if_pos h

theorem loopBody_of_not_moves {loop : Statement ε} (h : movesBehindBody found loop = false)
    (body : Command σ) : loopBody (refusesContinue found) loop body = body :=
  if_neg (by simp [refusesContinue, h])

theorem movesBehindBody_forLoop (init condition increment : Option ε)
    (body : Option (List (Statement ε))) :
    movesBehindBody found (.forLoop init condition increment body) =
      ((anyFound found init || anyFound found condition || anyFound found increment) &&
        (condition.isSome || increment.isSome)) := rfl

/-- A `for` loop with nothing to move may `continue`. -/
theorem simulates_forLoop_changed (h : ∀ e, Answers Eq (eval e) (eval' e)) {fuel next : Nat}
    {init condition increment : Option ε} {body : Option (List (Statement ε))}
    (hfound : (anyFound found init || anyFound found condition || anyFound found increment))
    (temps : Temps) (hbody : ∀ next temps, Simulates (Keeps next temps)
      (execBlock eval (refusesContinue found) fuel body)
      (execBlock (evalTemp eval') refusesNone fuel (simplifyBlock found body next).1)) :
    Simulates (Keeps next temps)
      (exec eval (refusesContinue found) fuel (.forLoop init condition increment body))
      (exec (evalTemp eval') refusesNone fuel (.block (originalStatement init ++
          [tempInitDeclaration next condition,
            flagLoop next (simplifyBlock found body (next + 1)).1 increment condition]))) := by
  have hblock : exec (evalTemp eval') refusesNone fuel (.block (originalStatement init ++
        [tempInitDeclaration next condition,
          flagLoop next (simplifyBlock found body (next + 1)).1 increment condition])) =
      (execList (evalTemp eval') refusesNone fuel .start (originalStatement init)).seq
        ((perform (evalTemp eval' (.declare next condition))).seq
          (exec (evalTemp eval') refusesNone fuel
            (flagLoop next (simplifyBlock found body (next + 1)).1 increment condition))) := by
    unfold exec
    rw [execList_append, execList_pair, exec_tempInitDeclaration]
    rfl
  rw [hblock]
  conv =>
    arg 2
  apply (simulates_originalStatement h fuel init temps).seq
  by_cases hmoves : (condition.isSome || increment.isSome)
  · have hmoved : movesBehindBody found (.forLoop init condition increment body) := by
      rw [movesBehindBody_forLoop, hfound, hmoves, Bool.and_self]
    rw [loopBody_of_moves hmoved]
    exact simulates_flagLoop h (le_refl next) temps increment condition (hbody (next + 1))
  · have hmoved : movesBehindBody found (.forLoop init condition increment body) = false := by
      rw [movesBehindBody_forLoop, Bool.eq_false_of_not_eq_true hmoves, Bool.and_false]
    rw [loopBody_of_not_moves hmoved]
    obtain ⟨rfl, rfl⟩ : condition = none ∧ increment = none := by simpa using hmoves
    exact simulates_flagLoop_none (le_refl next) temps (hbody (next + 1))

mutual

/-- A statement does the same after the pass, in a run in which no body from behind which something
was moved does `continue`. -/
theorem simulates_simplify (h : ∀ e, Answers Eq (eval e) (eval' e)) (fuel : Nat) :
    ∀ (statement : Statement ε) (next : Nat) (temps : Temps),
      Simulates (Keeps next temps) (exec eval (refusesContinue found) fuel statement)
        (execList (evalTemp eval') refusesNone fuel .start (simplify found statement next).1)
  | .expression e, next, temps => by
    unfold simplify
    rw [execList_singleton]
    exact .evaluate (answers_original h e) fun _ => simulates_skip
  | .block statements, next, temps => by
    unfold simplify
    rw [execList_singleton]
    exact simulates_simplifyList h fuel .start statements next temps
  | .ifElse condition trueBlock falseBlock, next, temps => by
    unfold simplify
    rw [execList_singleton]
    apply Simulates.evaluate (answers_original h condition)
    intro value
    apply Simulates.ite
    · exact simulates_keeps_mono (simulates_simplifyBlock h fuel falseBlock _)
        (le_simplifyBlock trueBlock next) temps
    · exact simulates_simplifyBlock h fuel trueBlock next temps
  | .whileLoop condition body, next, temps => by
    unfold simplify
    split
    case isTrue hfound =>
      have hloop := simulates_flagLoop h (le_refl next) temps none (some condition)
        (simulates_simplifyBlock h fuel body (next + 1))
      unfold flagLoop originalStatement at hloop
      rw [List.append_nil] at hloop
      rw [execList_pair, exec_tempInitDeclaration]
      unfold exec
      have hmoves : movesBehindBody found (.whileLoop condition body) := hfound
      rw [loopBody_of_moves hmoves]
      exact hloop
    case isFalse hfound =>
      have hmoves : movesBehindBody found (.whileLoop condition body) = false :=
        Bool.eq_false_of_not_eq_true hfound
      rw [execList_singleton]
      unfold exec
      rw [loopBody_of_not_moves hmoves]
      apply Simulates.whileLoop (answers_original h condition)
      · exact simulates_simplifyBlock h fuel body next temps
      · exact answers_original_option h 0 none
  | .doWhileLoop condition body, next, temps => by
    unfold simplify
    split
    case isTrue hfound =>
      have hloop := simulates_doFlagLoop h (le_refl next) temps condition
        (simulates_simplifyBlock h fuel body (next + 1))
      rw [execList_pair, exec_tempInitDeclaration]
      unfold exec
      have hmoves : movesBehindBody found (.doWhileLoop condition body) := hfound
      rw [loopBody_of_moves hmoves]
      exact hloop
    case isFalse hfound =>
      have hmoves : movesBehindBody found (.doWhileLoop condition body) = false :=
        Bool.eq_false_of_not_eq_true hfound
      rw [execList_singleton]
      unfold exec
      rw [loopBody_of_not_moves hmoves]
      exact .doLoop (simulates_simplifyBlock h fuel body next temps)
        (answers_original h condition) fuel
  | .forLoop init condition increment body, next, temps => by
    have hbody := simulates_simplifyBlock h fuel body
    unfold simplify
    split
    case isTrue hfound =>
      rw [execList_singleton]
      exact simulates_forLoop_changed h hfound temps hbody
    case isFalse hfound =>
      have hmoves : movesBehindBody found (.forLoop init condition increment body) = false := by
        rw [movesBehindBody_forLoop, Bool.eq_false_of_not_eq_true hfound, Bool.false_and]
      rw [execList_singleton]
      unfold exec
      rw [loopBody_of_not_moves hmoves]
      apply Simulates.seq
      · exact .evaluate (answers_original_option h 0 init) fun _ => simulates_skip
      · apply Simulates.whileLoop (answers_original_option h 1 condition)
        · exact hbody next temps
        · exact answers_original_option h 0 increment
  | .switch init statementList, next, temps => by
    unfold simplify
    rw [execList_singleton]
    apply Simulates.evaluate (answers_original h init)
    intro value
    rw [labelFor_simplifyList]
    exact (simulates_simplifyList h fuel _ statementList next temps).catchBreak
  | .case condition, next, temps => by
    exact simulates_skip
  | .discards, next, temps => by
    exact simulates_jump _
  | .returns value, next, temps => by
    unfold simplify
    rw [execList_singleton]
    apply Simulates.seq
    · exact .evaluate (answers_original_option h 0 value) fun _ => simulates_skip
    · exact simulates_jump _
  | .breaks, next, temps => by
    exact simulates_jump _
  | .continues, next, temps => by
    exact simulates_jump _

theorem simulates_simplifyList (h : ∀ e, Answers Eq (eval e) (eval' e)) (fuel : Nat) :
    ∀ (entry : Entry) (statements : List (Statement ε)) (next : Nat) (temps : Temps),
      Simulates (Keeps next temps) (execList eval (refusesContinue found) fuel entry statements)
        (execList (evalTemp eval') refusesNone fuel entry (simplifyList found statements next).1)
  | entry, [], next, temps => by
    exact simulates_skip
  | .start, statement :: statements, next, temps => by
    unfold simplifyList
    rw [execList_append]
    conv =>
      arg 2
    apply (simulates_simplify h fuel statement next temps).seq
    exact simulates_keeps_mono (simulates_simplifyList h fuel .start statements _)
      (le_simplify statement next) temps
  | .label condition, statement :: statements, next, temps => by
    have hstart := simulates_keeps_mono (simulates_simplifyList h fuel .start statements
      (simplify found statement next).2) (le_simplify statement next) temps
    have hlabel := simulates_keeps_mono (simulates_simplifyList h fuel (.label condition)
      statements (simplify found statement next).2) (le_simplify statement next) temps
    unfold simplifyList
    dsimp only
    conv =>
      arg 2
      unfold execList
    split
    case isTrue hcase =>
      have hsimplify : (simplify found statement next).1 = [.case condition] := by
        rw [isLabel_iff.1 hcase]
        rfl
      rw [hsimplify, List.singleton_append, execList_label_cons _ _ _ (by simp [isLabel])]
      exact hstart
    case isFalse hcase =>
      rw [execList_label_append]
      · exact hlabel
      · rw [simplify_label]
        exact Bool.eq_false_of_not_eq_true hcase

theorem simulates_simplifyBlock (h : ∀ e, Answers Eq (eval e) (eval' e)) (fuel : Nat) :
    ∀ (block : Option (List (Statement ε))) (next : Nat) (temps : Temps),
      Simulates (Keeps next temps) (execBlock eval (refusesContinue found) fuel block)
        (execBlock (evalTemp eval') refusesNone fuel (simplifyBlock found block next).1)
  | none, next, temps => by
    exact simulates_skip
  | some statements, next, temps => by
    exact simulates_simplifyList h fuel .start statements next temps

end

/-! ## Shaders -/

theorem simplifyLoopConditions_getElem? (found : ε → Bool) (functions : List (List (Statement ε)))
    (next function : Nat) :
    ∃ n, (simplifyLoopConditions found functions next)[function]? =
      functions[function]?.map fun body => (simplifyList found body n).1 := by
  induction functions generalizing next function with
  | nil => exact ⟨0, by simp [simplifyLoopConditions]⟩
  | cons body functions ih =>
    cases function with
    | zero => exact ⟨next, by simp [simplifyLoopConditions]⟩
    | succ function =>
      obtain ⟨n, hn⟩ := ih (simplifyList found body next).2 function
      exact ⟨n, by simpa [simplifyLoopConditions] using hn⟩

theorem simulates_execSimplified (interpret : ε → σ → Steps σ)
    (functions : List (List (Statement ε))) (next fuel depth function : Nat) :
    Simulates Eq (execFunction interpret (refusesContinue found) functions fuel depth function)
      (execSimplified interpret (simplifyLoopConditions found functions next) fuel depth
        function) := by
  induction depth generalizing function with
  | zero => exact simulates_jump _
  | succ depth ih =>
    unfold execFunction execSimplified
    obtain ⟨n, hn⟩ := simplifyLoopConditions_getElem? found functions next function
    rw [hn]
    cases functions[function]? with
    | none =>
      exact simulates_skip
    | some body =>
      intro s t heq hallowed
      subst heq
      obtain ⟨hsame, hkeeps⟩ := simulates_simplifyList (answers_run ih) fuel .start body n
        (fun _ => 0) s (s, fun _ => 0) ⟨rfl, fun _ _ => rfl⟩ hallowed
      exact ⟨hsame, hkeeps.state.symm⟩

/-- In every run in which no loop with something moved behind its body does `continue`, the shader
does after the pass what it did before. -/
theorem simplifyLoopConditions_preserves (found : ε → Bool) (interpret : ε → σ → Steps σ)
    (functions : List (List (Statement ε))) (next fuel depth function : Nat) (s : σ)
    (hallowed : (execFunction interpret (refusesContinue found) functions fuel depth function
      s).1 ≠ .stops .refused) :
    execSimplified interpret (simplifyLoopConditions found functions next) fuel depth function s =
      execFunction interpret refusesNone functions fuel depth function s := by
  rw [execFunction_eq_of_allowed _ (refusesContinue found) _ _ _ _ _ hallowed]
  obtain ⟨hcompletion, hstate⟩ := simulates_execSimplified interpret functions next fuel depth
    function s s rfl hallowed
  exact Prod.ext hcompletion hstate.symm

/-! ## A loop that counts -/

inductive CountingExpr
  | start
  | test
  | step
deriving DecidableEq

/-- `int i = 0, j = 0`, `i < 2` and `i++`. -/
def evalCounting (e : CountingExpr) (i : Nat) : Steps Nat :=
  match e with
  | .start => .done (.ok 0) 0
  | .test => .done (.ok (if i < 2 then 1 else 0)) i
  | .step => .done (.ok i) (i + 1)

def foundCounting (e : CountingExpr) : Bool := e = .start

def countingLoop (body : List (Statement CountingExpr)) : List (Statement CountingExpr) :=
  [.forLoop (some .start) (some .test) (some .step) (some body)]

theorem simplifyLoopConditions_preserves_counting :
    execSimplified evalCounting
        (simplifyLoopConditions foundCounting [countingLoop [.expression .test]] 0) 2 1 0 0 =
      execFunction evalCounting refusesNone [countingLoop [.expression .test]] 2 1 0 0 :=
  simplifyLoopConditions_preserves _ _ _ 0 2 1 0 0 (by decide)

/-- What the pass makes of the loop with `continue` as its body. -/
def continuingLoop : List (Statement (TempExpr CountingExpr)) :=
  [.expression (.original .start), tempInitDeclaration 0 (some .test),
    flagLoop 0 (some [.continues]) (some .step) (some .test)]

theorem continuingLoop_outOfFuel (callee : Nat → Command Nat) (fuel : Nat) :
    (execList (evalTemp fun e i => (evalCounting e i).run callee) refusesNone fuel .start
      continuingLoop (0, fun _ => 0)).1 = .stops .outOfFuel := by
  obtain ⟨evalBody, hevalBody⟩ :
      ∃ evalBody, evalBody = evalTemp fun e i => (evalCounting e i).run callee := ⟨_, rfl⟩
  have hstart : exec evalBody refusesNone fuel (.expression (.original .start))
      (0, fun _ => 0) = (.normal, (0, fun _ => 0)) := by
    rw [hevalBody]
    rfl
  have hdeclare : exec evalBody refusesNone fuel (tempInitDeclaration 0 (some .test))
      (0, fun _ => 0) = (.normal, (0, update (fun _ => 0) 0 1)) := by
    rw [hevalBody]
    rfl
  unfold continuingLoop
  rw [← hevalBody, execList_cons, execList_pair, exec_flagLoop, seq_normal hstart,
    seq_normal hdeclare]
  -- The variable stays 1, because the `continue` skips its assignment.
  apply whileLoop_outOfFuel (P := fun t => t.2 0 = 1)
  · intro t ht
    refine ⟨1, t, ?_, by decide, ht⟩
    rw [hevalBody, ← ht]
    rfl
  · intro t ht
    exact ⟨t, rfl, ht⟩
  · intro t ht
    exact ⟨0, t, rfl, ht⟩
  · rfl

/-- With `continue` in its body the loop ends with `i` at 2, but not after the pass. -/
theorem counting_continue_diverges :
    execFunction evalCounting refusesNone [countingLoop [.continues]] 2 1 0 0 = (.normal, 2) ∧
    ∀ fuel, (execSimplified evalCounting
      (simplifyLoopConditions foundCounting [countingLoop [.continues]] 0) fuel 1 0 0).1 =
        .stops .outOfFuel := by
  constructor
  · decide
  · intro fuel
    have hpass : simplifyLoopConditions foundCounting [countingLoop [.continues]] 0 =
        [[.block continuingLoop]] := rfl
    unfold execSimplified
    rw [hpass]
    dsimp only [List.getElem?_cons_zero, Option.getD_some]
    rw [execList_singleton]
    exact continuingLoop_outOfFuel _ fuel

end Statement

end MetalAngle.Translator
