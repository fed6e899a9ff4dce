import MetalAngle.Lib.ControlFlow

/-!
# Statements of the AST

The statement level of a shader, over any type of expressions.  Declarations are expressions too.  A
shader is the list of the bodies of its functions; the evaluation of an expression may call them.
-/

namespace MetalAngle.Translator

open ControlFlow ControlFlow.Command

inductive Statement (ε : Type*)
  | expression (e : ε)
  | block (statements : List (Statement ε))
  | ifElse (condition : ε) (trueBlock falseBlock : Option (List (Statement ε)))
  | whileLoop (condition : ε) (body : Option (List (Statement ε)))
  | doWhileLoop (condition : ε) (body : Option (List (Statement ε)))
  | forLoop (init condition expression : Option ε) (body : Option (List (Statement ε)))
  | switch (init : ε) (statementList : List (Statement ε))
  | case (condition : Option Int)
  | discards
  | returns (expression : Option ε)
  | breaks
  | continues

inductive Steps (σ : Type*)
  | done (result : Except Stop Int) (s : σ)
  | call (function : Nat) (s : σ) (resume : σ → Steps σ)

variable {ε σ τ : Type*}

def Steps.run (callee : Nat → Command σ) : Steps σ → Except Stop Int × σ
  | done result s => (result, s)
  | call function s resume =>
      match callee function s with
      | (.stops why, s) => (.error why, s)
      | (_, s) => (resume s).run callee

namespace Statement

inductive Entry
  | start
  | label (condition : Option Int)

def isLabel (condition : Option Int) : Statement ε → Bool
  | case condition' => condition' = condition
  | _ => false

/-- The label that a value selects: its own, or else `default`. -/
def labelFor (value : Int) (statementList : List (Statement ε)) : Option Int :=
  if statementList.any (isLabel (some value)) then some value else none

def evalOption (eval : ε → Query σ) (missing : Int) : Option ε → Query σ
  | none => answer missing
  | some e => eval e

/-- What a semantics refuses: a `continue` in the body of some loops, and some values of the
initial expression of a `switch`. -/
structure Refusal (ε : Type*) where
  continueIn : Statement ε → Bool
  value : List (Statement ε) → Int → Bool

def refusesNone : Refusal ε := { continueIn := fun _ => false, value := fun _ _ => false }

def loopBody (refuses : Refusal ε) (loop : Statement ε) (body : Command σ) : Command σ :=
  if refuses.continueIn loop then refuseContinue body else body

section Semantics

variable (eval : ε → Query σ) (refuses : Refusal ε) (fuel : Nat)

mutual

def exec : Statement ε → Command σ
  | expression e => perform (eval e)
  | block statements => execList .start statements
  | ifElse condition trueBlock falseBlock =>
      evaluate (eval condition) fun value =>
        if value = 0 then execBlock falseBlock else execBlock trueBlock
  | whileLoop condition body =>
      Command.whileLoop (eval condition)
        (loopBody refuses (whileLoop condition body) (execBlock body)) (answer 0) fuel
  | doWhileLoop condition body =>
      Command.doLoop (loopBody refuses (doWhileLoop condition body) (execBlock body))
        (eval condition) fuel
  | forLoop init condition increment body =>
      (perform (evalOption eval 0 init)).seq
        (Command.whileLoop (evalOption eval 1 condition)
          (loopBody refuses (forLoop init condition increment body) (execBlock body))
          (evalOption eval 0 increment) fuel)
  | switch init statementList =>
      evaluate (eval init) fun value =>
        if refuses.value statementList value then jump (.stops .refused)
        else catchBreak (execList (.label (labelFor value statementList)) statementList)
  | case _ => skip
  | discards => jump (.stops .discarded)
  | returns value => (perform (evalOption eval 0 value)).seq (jump .returns)
  | breaks => jump .breaks
  | continues => jump .continues

def execList : Entry → List (Statement ε) → Command σ
  | _, [] => skip
  | .start, statement :: statements => (exec statement).seq (execList .start statements)
  | .label condition, statement :: statements =>
      if statement.isLabel condition then execList .start statements
      else execList (.label condition) statements

def execBlock : Option (List (Statement ε)) → Command σ
  | none => skip
  | some statements => execList .start statements

end

end Semantics

def execFunction (interpret : ε → σ → Steps σ) (refuses : Refusal ε)
    (functions : List (List (Statement ε))) (fuel : Nat) : Nat → Nat → Command σ
  | 0, _ => jump (.stops .outOfFuel)
  | depth + 1, function =>
      execList
        (fun e s => (interpret e s).run (execFunction interpret refuses functions fuel depth))
        refuses fuel .start (functions[function]?.getD [])

variable {condition : Option Int}

theorem isLabel_iff {statement : Statement ε} :
    statement.isLabel condition ↔ statement = .case condition := by
  cases statement with
  | case condition' => simp [isLabel]
  | _ => simp [isLabel]

section Lists

variable (eval : ε → Query σ) (refuses : Refusal ε) (fuel : Nat)

theorem execList_append (first second : List (Statement ε)) :
    execList eval refuses fuel .start (first ++ second) =
      (execList eval refuses fuel .start first).seq (execList eval refuses fuel .start second) := by
  induction first with
  | nil => simp [execList, skip_seq]
  | cons statement first ih => simp [execList, ih, seq_assoc]

theorem execList_cons (statement : Statement ε) (statements : List (Statement ε)) :
    execList eval refuses fuel .start (statement :: statements) =
      (exec eval refuses fuel statement).seq (execList eval refuses fuel .start statements) := by
  simp [execList]

theorem execList_singleton (statement : Statement ε) :
    execList eval refuses fuel .start [statement] = exec eval refuses fuel statement := by
  simp [execList, seq_skip]

theorem execList_pair (first second : Statement ε) :
    execList eval refuses fuel .start [first, second] =
      (exec eval refuses fuel first).seq (exec eval refuses fuel second) := by
  simp [execList, seq_skip]

theorem execBlock_some (statements : List (Statement ε)) :
    execBlock eval refuses fuel (some statements) =
      execList eval refuses fuel .start statements := by
  unfold execBlock
  rfl

theorem execList_label_cons {statement : Statement ε}
    (h : statement.isLabel condition) (statements : List (Statement ε)) :
    execList eval refuses fuel (.label condition) (statement :: statements) =
      execList eval refuses fuel .start statements := by
  simp [execList, h]

theorem execList_label_append {first : List (Statement ε)}
    (h : first.any (isLabel condition) = false) (second : List (Statement ε)) :
    execList eval refuses fuel (.label condition) (first ++ second) =
      execList eval refuses fuel (.label condition) second := by
  induction first with
  | nil => rfl
  | cons statement first ih =>
    rw [List.any_cons, Bool.or_eq_false_iff] at h
    simp [execList, h.1, ih h.2]

end Lists

end Statement

/-- An evaluation answers as before when the functions do what they did before. -/
theorem Steps.run_eq {reason : Stop} {callee callee' : Nat → Command σ}
    (h : ∀ function, Covers reason Eq (callee function) (callee' function)) (steps : Steps σ)
    (hallowed : (steps.run callee).1 ≠ .error reason) :
    steps.run callee' = steps.run callee := by
  induction steps with
  | done result s => rfl
  | call function s resume ih =>
    have hsim := h function s s rfl
    unfold Steps.run at hallowed ⊢
    generalize callee function s = outcome at hsim hallowed ⊢
    generalize callee' function s = outcome' at hsim ⊢
    obtain ⟨completion, s₁⟩ := outcome
    obtain ⟨completion', s₁'⟩ := outcome'
    cases completion with
    | stops why =>
      have hwhy : Completion.stops why ≠ .stops reason := by
        intro heq
        exact hallowed (congrArg Except.error (Completion.stops.inj heq))
      obtain ⟨rfl, rfl⟩ := hsim hwhy
      rfl
    | normal =>
      obtain ⟨rfl, rfl⟩ := hsim (by simp)
      exact ih s₁ hallowed
    | breaks =>
      obtain ⟨rfl, rfl⟩ := hsim (by simp)
      exact ih s₁ hallowed
    | continues =>
      obtain ⟨rfl, rfl⟩ := hsim (by simp)
      exact ih s₁ hallowed
    | returns =>
      obtain ⟨rfl, rfl⟩ := hsim (by simp)
      exact ih s₁ hallowed

namespace Statement

variable {R : σ → τ → Prop} {eval : ε → Query σ} {eval' : ε → Query τ}
  {refuses : Refusal ε} {fuel : Nat}

theorem answers_evalOption (h : ∀ e, Answers R (eval e) (eval' e)) (missing : Int)
    (e : Option ε) : Answers R (evalOption eval missing e) (evalOption eval' missing e) := by
  cases e with
  | none =>
    intro s t hrel _
    exact ⟨rfl, hrel⟩
  | some e => exact h e

theorem simulates_loopBody (refuses : Refusal ε) (loop : Statement ε) {body : Command σ}
    {body' : Command τ} (h : Simulates R body body') :
    Simulates R (loopBody refuses loop body) (loopBody refusesNone loop body') := by
  change Simulates R (loopBody refuses loop body) body'
  unfold loopBody
  split
  · exact h.refuseContinue
  · exact h

mutual

/-- A statement does the same under evaluations that answer the same. -/
theorem simulates_exec (h : ∀ e, Answers R (eval e) (eval' e)) (refuses : Refusal ε) (fuel : Nat) :
    ∀ statement : Statement ε,
      Simulates R (exec eval refuses fuel statement) (exec eval' refusesNone fuel statement)
  | .expression e => by
    unfold exec
    exact .evaluate (h e) fun _ => simulates_skip
  | .block statements => by
    unfold exec
    exact simulates_execList h refuses fuel .start statements
  | .ifElse condition trueBlock falseBlock => by
    unfold exec
    exact .evaluate (h condition) fun _ =>
      .ite (simulates_execBlock h refuses fuel falseBlock)
        (simulates_execBlock h refuses fuel trueBlock)
  | .whileLoop condition body => by
    unfold exec
    apply Simulates.whileLoop (h condition)
    · exact simulates_loopBody refuses _ (simulates_execBlock h refuses fuel body)
    · exact answers_evalOption h 0 none
  | .doWhileLoop condition body => by
    unfold exec
    apply Simulates.doLoop _ (h condition)
    exact simulates_loopBody refuses _ (simulates_execBlock h refuses fuel body)
  | .forLoop init condition increment body => by
    unfold exec
    apply Simulates.seq
    · exact .evaluate (answers_evalOption h 0 init) fun _ => simulates_skip
    · apply Simulates.whileLoop (answers_evalOption h 1 condition)
      · exact simulates_loopBody refuses _ (simulates_execBlock h refuses fuel body)
      · exact answers_evalOption h 0 increment
  | .switch init statementList => by
    unfold exec
    apply Simulates.evaluate (h init)
    intro value
    split
    · exact refused_simulated _
    · exact (simulates_execList h refuses fuel _ statementList).catchBreak
  | .case condition => by
    unfold exec
    exact simulates_skip
  | .discards => by
    unfold exec
    exact simulates_jump _
  | .returns value => by
    unfold exec
    apply Simulates.seq
    · exact .evaluate (answers_evalOption h 0 value) fun _ => simulates_skip
    · exact simulates_jump _
  | .breaks => by
    unfold exec
    exact simulates_jump _
  | .continues => by
    unfold exec
    exact simulates_jump _

theorem simulates_execList (h : ∀ e, Answers R (eval e) (eval' e)) (refuses : Refusal ε)
    (fuel : Nat) :
    ∀ (entry : Entry) (statements : List (Statement ε)),
      Simulates R (execList eval refuses fuel entry statements)
        (execList eval' refusesNone fuel entry statements)
  | _, [] => by
    unfold execList
    exact simulates_skip
  | .start, statement :: statements => by
    unfold execList
    exact (simulates_exec h refuses fuel statement).seq
      (simulates_execList h refuses fuel .start statements)
  | .label condition, statement :: statements => by
    unfold execList
    exact .ite (simulates_execList h refuses fuel .start statements)
      (simulates_execList h refuses fuel (.label condition) statements)

theorem simulates_execBlock (h : ∀ e, Answers R (eval e) (eval' e)) (refuses : Refusal ε)
    (fuel : Nat) :
    ∀ block : Option (List (Statement ε)),
      Simulates R (execBlock eval refuses fuel block) (execBlock eval' refusesNone fuel block)
  | none => by
    unfold execBlock
    exact simulates_skip
  | some statements => by
    unfold execBlock
    exact simulates_execList h refuses fuel .start statements

end

theorem coversQuery_run {reason : Stop} {interpret : ε → σ → Steps σ}
    {callee callee' : Nat → Command σ}
    (h : ∀ function, Covers reason Eq (callee function) (callee' function)) (e : ε) :
    CoversQuery reason Eq (fun s => (interpret e s).run callee)
      (fun s => (interpret e s).run callee') := by
  intro s t heq hallowed
  subst heq
  have hrun := Steps.run_eq h (interpret e s) hallowed
  exact ⟨congrArg Prod.fst hrun, congrArg Prod.snd hrun.symm⟩

theorem answers_run {interpret : ε → σ → Steps σ} {callee callee' : Nat → Command σ}
    (h : ∀ function, Simulates Eq (callee function) (callee' function)) (e : ε) :
    Answers Eq (fun s => (interpret e s).run callee)
      (fun s => (interpret e s).run callee') := coversQuery_run h e

/-- A pass over the bodies of functions is correct for a shader when it is for each body, under
calls that do what they did. -/
theorem simulates_execFunction {interpret : ε → σ → Steps σ} {refuses : Refusal ε} {fuel : Nat}
    {pass : List (Statement ε) → List (Statement ε)} (hpass : ∀ callee callee' : Nat → Command σ,
      (∀ function, Simulates Eq (callee function) (callee' function)) → ∀ body,
      Simulates Eq (execList (fun e s => (interpret e s).run callee) refuses fuel .start body)
        (execList (fun e s => (interpret e s).run callee') refusesNone fuel .start (pass body)))
    (functions : List (List (Statement ε))) (depth function : Nat) :
    Simulates Eq (execFunction interpret refuses functions fuel depth function)
      (execFunction interpret refusesNone (functions.map pass) fuel depth function) := by
  induction depth generalizing function with
  | zero => exact simulates_jump _
  | succ depth ih =>
    unfold execFunction
    rw [List.getElem?_map]
    cases functions[function]? with
    | none =>
      unfold execList
      exact simulates_skip
    | some body => exact hpass _ _ ih body

theorem execFunction_eq_of_allowed (interpret : ε → σ → Steps σ) (refuses : Refusal ε)
    (functions : List (List (Statement ε))) (fuel depth function : Nat) (s : σ)
    (hallowed : (execFunction interpret refuses functions fuel depth function s).1 ≠
      .stops .refused) :
    execFunction interpret refusesNone functions fuel depth function s =
      execFunction interpret refuses functions fuel depth function s := by
  have hsim : Simulates Eq (execFunction interpret refuses functions fuel depth function)
      (execFunction interpret refusesNone (functions.map id) fuel depth function) := by
    apply simulates_execFunction
    intro callee callee' h body
    exact simulates_execList (answers_run h) refuses fuel .start body
  rw [List.map_id] at hsim
  obtain ⟨hcompletion, hstate⟩ := hsim s s rfl hallowed
  exact Prod.ext hcompletion hstate.symm

end Statement

end MetalAngle.Translator
