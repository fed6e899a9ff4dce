import MetalAngle.Lib.BoundedCommands
import MetalAngle.Translator.SimplifyLoopConditions

/-!
# Loops with their condition behind the body

A `do` loop becomes a loop without a condition, whose body begins with the test.  A temporary
variable skips the test in the first pass.
-/

namespace MetalAngle.Translator

open ControlFlow ControlFlow.Command Nat Function

inductive BoolExpr (ε : Type*)
  | source (e : ε)
  | boolNode (value : Bool)
  | logicalNot (e : ε)

namespace Statement

variable {ε σ : Type*}

def ofSource (e : ε) : TempExpr (BoolExpr ε) := .original (.source e)

def tempDeclaration (conditionVariable : Nat) : Statement (TempExpr (BoolExpr ε)) :=
  expression (.declare conditionVariable (some (.boolNode false)))

def assignTrue (conditionVariable : Nat) : Statement (TempExpr (BoolExpr ε)) :=
  expression (.assign conditionVariable (.boolNode true))

/-- `if (temp) { if (!condition) { break; } }`. -/
def breakIf (conditionVariable : Nat) (condition : ε) : Statement (TempExpr (BoolExpr ε)) :=
  ifElse (.symbol conditionVariable)
    (some [ifElse (.original (.logicalNot condition)) (some [breaks]) none]) none

mutual

/-- What stands in the place of a statement after the pass, and the next temporary variable. -/
def rewrite : Statement ε → Nat → List (Statement (TempExpr (BoolExpr ε))) × Nat
  | expression e, next => ([expression (ofSource e)], next)
  | block statements, next =>
      let inner := rewriteList statements next
      ([block inner.1], inner.2)
  | ifElse condition trueBlock falseBlock, next =>
      let whenTrue := rewriteBlock trueBlock next
      let whenFalse := rewriteBlock falseBlock whenTrue.2
      ([ifElse (ofSource condition) whenTrue.1 whenFalse.1], whenFalse.2)
  | whileLoop condition body, next =>
      let inner := rewriteBlock body next
      ([whileLoop (ofSource condition) inner.1], inner.2)
  | doWhileLoop condition body, next =>
      let inner := rewriteBlock body (next + 1)
      ([tempDeclaration next,
        whileLoop (.original (.boolNode true))
          (some (breakIf next condition :: assignTrue next :: inner.1.getD []))], inner.2)
  | forLoop init condition increment body, next =>
      let inner := rewriteBlock body next
      ([forLoop (init.map ofSource) (condition.map ofSource) (increment.map ofSource) inner.1],
        inner.2)
  | switch init statementList, next =>
      let inner := rewriteList statementList next
      ([switch (ofSource init) inner.1], inner.2)
  | case condition, next => ([case condition], next)
  | discards, next => ([discards], next)
  | returns value, next => ([returns (value.map ofSource)], next)
  | breaks, next => ([breaks], next)
  | continues, next => ([continues], next)

/-- `DoWhileRewriter::visitBlock` and the visits of the children. -/
def rewriteList : List (Statement ε) → Nat → List (Statement (TempExpr (BoolExpr ε))) × Nat
  | [], next => ([], next)
  | statement :: statements, next =>
      let first := rewrite statement next
      let rest := rewriteList statements first.2
      (first.1 ++ rest.1, rest.2)

def rewriteBlock :
    Option (List (Statement ε)) → Nat → Option (List (Statement (TempExpr (BoolExpr ε)))) × Nat
  | none, next => (none, next)
  | some statements, next =>
      let inner := rewriteList statements next
      (some inner.1, inner.2)

end

def rewriteDoWhile :
    List (List (Statement ε)) → Nat → List (List (Statement (TempExpr (BoolExpr ε))))
  | [], _ => []
  | body :: functions, next =>
      let first := rewriteList body next
      first.1 :: rewriteDoWhile functions first.2

def evalBool (eval : ε → Query σ) : BoolExpr ε → Query σ
  | .source e => eval e
  | .boolNode value => answer value.toInt
  | .logicalNot e => fun s =>
      match eval e s with
      | (.error why, s) => (.error why, s)
      | (.ok value, s) => (.ok (if value = 0 then 1 else 0), s)

def execRewritten (interpret : ε → σ → Steps σ)
    (functions : List (List (Statement (TempExpr (BoolExpr ε))))) (fuel : Nat) :
    Nat → Nat → Command σ
  | 0, _ => jump (.stops .outOfFuel)
  | depth + 1, function => fun s =>
    let outcome :=
      execList
        (evalTemp (evalBool fun e s =>
          (interpret e s).run (execRewritten interpret functions fuel depth)))
        refusesNone fuel .start (functions[function]?.getD []) (s, fun _ => 0)
    (outcome.1, outcome.2.1)

/-! ## Relations that the temporary variables from a bound on do not touch -/

structure Stable (n : Nat) (R : σ → σ × Temps → Prop) : Prop where
  state : ∀ s t, R s t → t.1 = s
  after : ∀ s t s' t', R s t → Keeps n t.2 s' t' → R s' t'

theorem stable_keeps {bound n : Nat} (hle : bound ≤ n) (temps : Temps) :
    Stable n (Keeps (σ := σ) bound temps) where
  state s t h := h.state
  after s t s' t' h h' := by
    refine ⟨h'.state, fun v hv => ?_⟩
    rw [h'.kept v (by omega), h.kept v hv]

/-- The variable of a loop is set. -/
structure Flagged (bound : Nat) (temps : Temps) (s : σ) (t : σ × Temps) : Prop where
  keeps : Keeps bound temps s t
  flag : t.2 bound = 1

theorem stable_flagged (bound : Nat) (temps : Temps) :
    Stable (bound + 1) (Flagged (σ := σ) bound temps) where
  state s t h := h.keeps.state
  after s t s' t' h h' := by
    refine ⟨(stable_keeps (le_succ bound) temps).after s t s' t' h.keeps h', ?_⟩
    rw [h'.kept bound (lt_succ_self bound), h.flag]

variable {n : Nat} {R : σ → σ × Temps → Prop}

theorem Stable.mirrors {c : Nat → Command σ} {c' : Nat → Command (σ × Temps)} (hR : Stable n R)
    (h : ∀ temps, Mirrors (Keeps n temps) c c') : Mirrors R c c' where
  forth k m hlt s t hrel hallowed := by
    obtain ⟨hsame, hafter⟩ := (h t.2).forth k m hlt s t ⟨hR.state s t hrel, fun _ _ => rfl⟩ hallowed
    exact ⟨hsame, hR.after s t _ _ hrel hafter⟩
  back k m hle t s hrel hallowed := by
    obtain ⟨hsame, hafter⟩ := (h t.2).back k m hle t s ⟨hR.state s t hrel, fun _ _ => rfl⟩ hallowed
    exact ⟨hsame, hR.after s t _ _ hrel hafter⟩

section Evaluation

variable {eval eval' : Nat → ε → Query σ}

/-- The expressions of the source are evaluated alike. -/
def MirrorsEval (eval eval' : Nat → ε → Query σ) : Prop :=
  ∀ e, MirrorsQuery Eq (fun fuel => eval fuel e) (fun fuel => eval' fuel e)

theorem Stable.mirrors_source (hR : Stable n R) (h : MirrorsEval eval eval') (e : ε) :
    MirrorsQuery R (fun fuel => eval fuel e)
      (fun fuel => evalTemp (evalBool (eval' fuel)) (ofSource e)) where
  forth k m hlt s t hrel hallowed := by
    obtain rfl := hR.state s t hrel
    obtain ⟨hsame, hstate⟩ := (h e).forth k m hlt t.1 t.1 rfl hallowed
    exact ⟨hsame, hR.after _ t _ _ hrel ⟨hstate.symm, fun _ _ => rfl⟩⟩
  back k m hle t s hrel hallowed := by
    obtain rfl := hR.state s t hrel
    obtain ⟨hsame, hstate⟩ := (h e).back k m hle t.1 t.1 rfl hallowed
    exact ⟨hsame, hR.after _ t _ _ hrel ⟨Eq.symm hstate, fun _ _ => rfl⟩⟩

theorem Stable.mirrors_source_option (hR : Stable n R)
    (h : MirrorsEval eval eval') (missing : Int) (e : Option ε) :
    MirrorsQuery R (fun fuel => evalOption (eval fuel) missing e)
      (fun fuel => evalOption (evalTemp (evalBool (eval' fuel))) missing (e.map ofSource)) := by
  cases e with
  | none => exact mirrors_answer missing
  | some e => exact hR.mirrors_source h e

/-! ## The rewritten loop -/

def store (n : Nat) (value : Int) : Command (σ × Temps) := fun t =>
  (.normal, (t.1, Function.update t.2 n value))

def topOfBody (eval : ε → Query σ) (fuel n : Nat) (condition : ε) : Command (σ × Temps) :=
  (exec (evalTemp (evalBool eval)) refusesNone fuel (breakIf n condition)).seq
    (exec (evalTemp (evalBool eval)) refusesNone fuel (assignTrue n))

section

variable (eval : ε → Query σ)

theorem exec_tempDeclaration (fuel n : Nat) :
    exec (evalTemp (evalBool eval)) refusesNone fuel (tempDeclaration n) =
      store n 0 := by
  unfold tempDeclaration exec
  rfl

theorem exec_assignTrue (fuel n : Nat) :
    exec (evalTemp (evalBool eval)) refusesNone fuel (assignTrue n) =
      store n 1 := by
  unfold assignTrue exec
  rfl

theorem exec_rewrittenLoop (fuel n : Nat) (condition : ε)
    (body : List (Statement (TempExpr (BoolExpr ε)))) :
    execList (evalTemp (evalBool eval)) refusesNone fuel .start
        [tempDeclaration n, whileLoop (.original (.boolNode true))
          (some (breakIf n condition :: assignTrue n :: body))] =
      (store n 0).seq (Command.whileLoop (answer 1) ((topOfBody eval fuel n condition).seq
            (execList (evalTemp (evalBool eval)) refusesNone fuel .start body))
          (answer 0) fuel) := by
  rw [execList_pair, exec_tempDeclaration]
  conv =>
    lhs
    arg 2
    unfold exec
  rw [execBlock_some, execList_cons, execList_cons, ← Command.seq_assoc]
  rfl

theorem topOfBody_unset (fuel : Nat) (condition : ε) {t : σ × Temps}
    (h : t.2 n = 0) :
    topOfBody eval fuel n condition t = store n 1 t := by
  have hread : evalTemp (evalBool eval) (.symbol n) t = (.ok 0, t) := by
    rw [← h]
    rfl
  have hskip : exec (evalTemp (evalBool eval)) refusesNone fuel (breakIf n condition) t =
      (.normal, t) := by
    unfold breakIf exec
    rw [evaluate_ok hread, if_pos rfl]
    unfold execBlock
    rfl
  rw [topOfBody, seq_normal hskip, exec_assignTrue]

theorem topOfBody_set (fuel : Nat) (condition : ε) {t : σ × Temps}
    (h : t.2 n = 1) :
    topOfBody eval fuel n condition t =
      leaveUnless (evalTemp (evalBool eval) (ofSource condition)) t := by
  have hread : evalTemp (evalBool eval) (.symbol n) t = (.ok 1, t) := by
    rw [← h]
    rfl
  have htest : exec (evalTemp (evalBool eval)) refusesNone fuel (breakIf n condition) t =
      leaveUnless (evalTemp (evalBool eval) (ofSource condition)) t := by
    unfold breakIf exec
    rw [evaluate_ok hread, if_neg (by decide), execBlock_some, execList_singleton]
    unfold exec leaveUnless evaluate
    simp only [evalTemp, ofSource, evalBool]
    rcases eval condition t.1 with ⟨answer, s⟩
    cases answer with
    | error why => rfl
    | ok value =>
      by_cases hzero : value = 0
      · simp [hzero, execBlock_some, execList_singleton, exec]
      · simp [hzero, execBlock]
  have hkept : update t.2 n 1 = t.2 := by rw [← h, update_eq_self]
  unfold topOfBody seq andThen
  rw [htest, exec_assignTrue]
  unfold leaveUnless evaluate
  simp only [evalTemp, ofSource, evalBool]
  rcases eval condition t.1 with ⟨answer, s⟩
  cases answer with
  | error why => rfl
  | ok value =>
    by_cases hzero : value = 0
    · simp [hzero, jump]
    · simp [hzero, jump, skip, store, hkept]

end

/-- A `do` loop and what stands in its place do the same. -/
theorem mirrors_doWhileLoop
    (h : MirrorsEval eval eval') (temps : Temps) (condition : ε) {c : Nat → Command σ}
    {body' : List (Statement (TempExpr (BoolExpr ε)))}
    (hbody : ∀ temps, Mirrors (Keeps (n + 1) temps) c
      (fun fuel => execList (evalTemp (evalBool (eval' fuel))) refusesNone fuel .start body')) :
    Mirrors (Keeps n temps) (fun fuel => doLoop (c fuel) (eval fuel condition) fuel)
      (fun fuel => execList (evalTemp (evalBool (eval' fuel))) refusesNone fuel .start
        [tempDeclaration n, whileLoop (.original (.boolNode true))
          (some (breakIf n condition :: assignTrue n :: body'))]) := by
  simp only [exec_rewrittenLoop]
  apply Mirrors.doLoop ((stable_flagged n temps).mirrors_source h condition)
    ((stable_flagged n temps).mirrors hbody)
  · intro fuel s t hkeeps
    have hbelow : ∀ temps' value, (∀ v < n, temps' v = temps v) →
        ∀ v < n, update temps' n value v = temps v := by
      intro temps' value hsame v hv
      rw [update_of_ne (by omega), hsame v hv]
    refine ⟨_, _, rfl, topOfBody_unset _ _ _ (update_self ..), ?_⟩
    refine ⟨⟨hkeeps.state, ?_⟩, update_self ..⟩
    exact hbelow _ 1 (hbelow _ 0 hkeeps.kept)
  · intro fuel s t hflagged
    exact topOfBody_set _ _ _ hflagged.flag
  · intro s t hflagged
    exact hflagged.keeps

end Evaluation

/-! ## What the pass keeps -/

mutual

theorem le_rewrite : ∀ (statement : Statement ε) (next : Nat), next ≤ (rewrite statement next).2
  | .expression _, _ => le_refl _
  | .block statements, next => le_rewriteList statements next
  | .ifElse _ trueBlock falseBlock, next =>
    le_trans (le_rewriteBlock trueBlock next) (le_rewriteBlock falseBlock _)
  | .whileLoop _ body, next => le_rewriteBlock body next
  | .doWhileLoop _ body, next => le_trans (le_succ next) (le_rewriteBlock body (next + 1))
  | .forLoop _ _ _ body, next => le_rewriteBlock body next
  | .switch _ statementList, next => le_rewriteList statementList next
  | .case _, _ => le_refl _
  | .discards, _ => le_refl _
  | .returns _, _ => le_refl _
  | .breaks, _ => le_refl _
  | .continues, _ => le_refl _

theorem le_rewriteList : ∀ (statements : List (Statement ε)) (next : Nat),
    next ≤ (rewriteList statements next).2
  | [], _ => le_refl _
  | statement :: statements, next =>
    le_trans (le_rewrite statement next) (le_rewriteList statements _)

theorem le_rewriteBlock : ∀ (block : Option (List (Statement ε))) (next : Nat),
    next ≤ (rewriteBlock block next).2
  | none, _ => le_refl _
  | some statements, next => le_rewriteList statements next

end

theorem rewrite_label (condition : Option Int) (statement : Statement ε) (next : Nat) :
    (rewrite statement next).1.any (isLabel condition) = statement.isLabel condition := by
  cases statement with
  | doWhileLoop test body => simp [rewrite, isLabel, tempDeclaration]
  | _ => simp [rewrite, isLabel]

theorem rewriteList_label (condition : Option Int) (statements : List (Statement ε)) (next : Nat) :
    (rewriteList statements next).1.any (isLabel condition) =
      statements.any (isLabel condition) := by
  induction statements generalizing next with
  | nil => rfl
  | cons statement statements ih =>
    unfold rewriteList
    rw [List.any_append, rewrite_label, ih, List.any_cons]

/-! ## The statements mirror each other -/

section Pass

variable {eval eval' : Nat → ε → Query σ}

mutual

theorem mirrors_rewrite (h : MirrorsEval eval eval') :
    ∀ (statement : Statement ε) (next : Nat) (temps : Temps),
    Mirrors (Keeps next temps) (fun fuel => exec (eval fuel) refusesNone fuel statement)
      (fun fuel => execList (evalTemp (evalBool (eval' fuel))) refusesNone fuel .start
        (rewrite statement next).1)
  | .expression e, next, temps => by
    simp only [rewrite, execList_singleton, exec]
    exact .perform ((stable_keeps (le_refl next) temps).mirrors_source h e)
  | .block statements, next, temps => by
    simp only [rewrite, execList_singleton, exec]
    exact mirrors_rewriteList h .start statements next temps
  | .ifElse condition trueBlock falseBlock, next, temps => by
    simp only [rewrite, execList_singleton, exec]
    apply Mirrors.evaluate ((stable_keeps (le_refl next) temps).mirrors_source h condition)
    intro value
    split
    · exact (stable_keeps (le_rewriteBlock trueBlock next) temps).mirrors
        (mirrors_rewriteBlock h falseBlock _)
    · exact mirrors_rewriteBlock h trueBlock next temps
  | .whileLoop condition body, next, temps => by
    simp only [rewrite, execList_singleton, exec]
    apply Mirrors.whileLoop ((stable_keeps (le_refl next) temps).mirrors_source h condition)
    · exact mirrors_rewriteBlock h body next temps
    · exact mirrors_answer 0
  | .doWhileLoop condition body, next, temps => by
    simp only [rewrite, exec]
    apply mirrors_doWhileLoop h temps condition
    intro temps'
    have hbody := mirrors_rewriteBlock h body (next + 1) temps'
    cases body with
    | none =>
      simp only [rewriteBlock, execBlock] at hbody ⊢
      simp only [Option.getD_none, execList]
      exact hbody
    | some statements =>
      simp only [rewriteBlock, execBlock] at hbody ⊢
      exact hbody
  | .forLoop init condition increment body, next, temps => by
    have hsource := (stable_keeps (le_refl next) temps).mirrors_source_option h
    simp only [rewrite, execList_singleton, exec]
    apply Mirrors.seq (.perform (hsource 0 init))
    apply Mirrors.whileLoop (hsource 1 condition)
    · exact mirrors_rewriteBlock h body next temps
    · exact hsource 0 increment
  | .switch init statementList, next, temps => by
    simp only [rewrite, execList_singleton, exec]
    apply Mirrors.evaluate ((stable_keeps (le_refl next) temps).mirrors_source h init)
    intro value
    have hlabel : labelFor value (rewriteList statementList next).1 =
        labelFor value statementList := by
      unfold labelFor
      rw [rewriteList_label]
    rw [hlabel]
    exact (mirrors_rewriteList h _ statementList next temps).catchBreak
  | .case condition, next, temps => by
    simp only [rewrite, execList_singleton, exec]
    exact mirrors_jump _
  | .discards, next, temps => by
    simp only [rewrite, execList_singleton, exec]
    exact mirrors_jump _
  | .returns value, next, temps => by
    simp only [rewrite, execList_singleton, exec]
    apply Mirrors.seq
    · exact .perform ((stable_keeps (le_refl next) temps).mirrors_source_option h 0 value)
    · exact mirrors_jump _
  | .breaks, next, temps => by
    simp only [rewrite, execList_singleton, exec]
    exact mirrors_jump _
  | .continues, next, temps => by
    simp only [rewrite, execList_singleton, exec]
    exact mirrors_jump _

theorem mirrors_rewriteList (h : MirrorsEval eval eval') :
    ∀ (entry : Entry) (statements : List (Statement ε)) (next : Nat) (temps : Temps),
    Mirrors (Keeps next temps) (fun fuel => execList (eval fuel) refusesNone fuel entry statements)
      (fun fuel => execList (evalTemp (evalBool (eval' fuel))) refusesNone fuel entry
        (rewriteList statements next).1)
  | entry, [], next, temps => by
    simp only [rewriteList, execList]
    exact mirrors_jump _
  | .start, statement :: statements, next, temps => by
    simp only [rewriteList, execList_append, execList_cons]
    exact (mirrors_rewrite h statement next temps).seq
      ((stable_keeps (le_rewrite statement next) temps).mirrors
        (mirrors_rewriteList h .start statements _))
  | .label condition, statement :: statements, next, temps => by
    have hrest := fun entry => (stable_keeps (le_rewrite statement next) temps).mirrors
      (mirrors_rewriteList h entry statements (rewrite statement next).2)
    by_cases hcase : statement.isLabel condition
    · obtain rfl := isLabel_iff.1 hcase
      simp only [rewriteList, rewrite, List.singleton_append, execList, isLabel, decide_true,
        if_true]
      exact hrest .start
    · rw [Bool.not_eq_true] at hcase
      have hskip : (rewrite statement next).1.any (isLabel condition) = false := by
        rw [rewrite_label, hcase]
      simp only [rewriteList, execList_label_append _ _ _ hskip]
      simp only [execList, hcase]
      exact hrest (.label condition)

theorem mirrors_rewriteBlock (h : MirrorsEval eval eval') :
    ∀ (block : Option (List (Statement ε))) (next : Nat) (temps : Temps),
    Mirrors (Keeps next temps) (fun fuel => execBlock (eval fuel) refusesNone fuel block)
      (fun fuel => execBlock (evalTemp (evalBool (eval' fuel))) refusesNone fuel
        (rewriteBlock block next).1)
  | none, next, temps => by
    simp only [rewriteBlock, execBlock]
    exact mirrors_jump _
  | some statements, next, temps => by
    simp only [rewriteBlock, execBlock]
    exact mirrors_rewriteList h .start statements next temps

end

end Pass

/-! ## Shaders -/

theorem rewriteDoWhile_getElem? (functions : List (List (Statement ε))) (next function : Nat) :
    ∃ n, (rewriteDoWhile functions next)[function]? =
      functions[function]?.map fun body => (rewriteList body n).1 := by
  induction functions generalizing next function with
  | nil => exact ⟨0, by simp [rewriteDoWhile]⟩
  | cons body functions ih =>
    cases function with
    | zero => exact ⟨next, by simp [rewriteDoWhile]⟩
    | succ function =>
      obtain ⟨n, hn⟩ := ih (rewriteList body next).2 function
      exact ⟨n, by simpa [rewriteDoWhile] using hn⟩

theorem mirrors_execRewritten (interpret : ε → σ → Steps σ)
    (functions : List (List (Statement ε))) (next depth function : Nat) :
    Mirrors Eq (fun fuel => execFunction interpret refusesNone functions fuel depth function)
      (fun fuel =>
        execRewritten interpret (rewriteDoWhile functions next) fuel depth function) := by
  induction depth generalizing function with
  | zero => exact mirrors_jump _
  | succ depth ih =>
    have hflip : (flip Eq : σ → σ → Prop) = Eq := by
      funext s t
      exact propext eq_comm
    have hquery : MirrorsEval (fun fuel e s =>
          (interpret e s).run (execFunction interpret refusesNone functions fuel depth))
        (fun fuel e s =>
          (interpret e s).run
            (execRewritten interpret (rewriteDoWhile functions next) fuel depth)) := by
      intro e
      constructor
      · intro n m hlt
        exact coversQuery_run (fun function => (ih function).forth n m hlt) e
      · intro n m hle
        rw [hflip]
        refine coversQuery_run (fun function => ?_) e
        rw [← hflip]
        exact (ih function).back n m hle
    obtain ⟨n, hn⟩ := rewriteDoWhile_getElem? functions next function
    unfold execFunction execRewritten
    rw [hn]
    cases functions[function]? with
    | none =>
      simp only [Option.map_none, Option.getD_none, execList]
      exact mirrors_jump _
    | some body =>
      have hbody := mirrors_rewriteList hquery .start body n (fun _ => 0)
      have hstart : ∀ s : σ, Keeps n (fun _ => 0) s (s, fun _ => 0) :=
        fun s => ⟨rfl, fun _ _ => rfl⟩
      constructor
      · intro k m hlt s t heq hallowed
        subst heq
        obtain ⟨hsame, hkeeps⟩ := hbody.forth k m hlt s _ (hstart s) hallowed
        exact ⟨hsame, hkeeps.state.symm⟩
      · intro k m hle t s heq hallowed
        obtain rfl : s = t := heq
        obtain ⟨hsame, hkeeps⟩ := hbody.back k m hle _ s (hstart s) hallowed
        exact ⟨hsame, hkeeps.state.symm⟩

/-- A call ends, with some fuel, in the same way and in the same state before and after the pass;
and it never ends before the pass when it never ends after it.  The state may be a list of the side
effects, and an evaluation may stop the program after so many of them. -/
theorem rewriteDoWhile_preserves (interpret : ε → σ → Steps σ)
    (functions : List (List (Statement ε))) (next depth function : Nat) (s : σ) :
    (∀ outcome : Completion × σ, outcome.1 ≠ .stops .outOfFuel →
      ((∃ fuel, execFunction interpret refusesNone functions fuel depth function s = outcome) ↔
        ∃ fuel, execRewritten interpret (rewriteDoWhile functions next) fuel depth function s =
          outcome)) ∧
    ((∀ fuel, (execFunction interpret refusesNone functions fuel depth function s).1 =
        .stops .outOfFuel) ↔
      ∀ fuel, (execRewritten interpret (rewriteDoWhile functions next) fuel depth function s).1 =
        .stops .outOfFuel) := by
  have hpass := mirrors_execRewritten interpret functions next depth function
  have hforth : ∀ fuel,
      (execFunction interpret refusesNone functions fuel depth function s).1 ≠ .stops .outOfFuel →
      execRewritten interpret (rewriteDoWhile functions next) (fuel + 1) depth function s =
        execFunction interpret refusesNone functions fuel depth function s := by
    intro fuel hends
    obtain ⟨hsame, hstate⟩ := hpass.forth fuel (fuel + 1) (lt_succ_self fuel) s s rfl hends
    exact Prod.ext hsame hstate.symm
  have hback : ∀ fuel,
      (execRewritten interpret (rewriteDoWhile functions next) fuel depth function s).1 ≠
        .stops .outOfFuel →
      execFunction interpret refusesNone functions fuel depth function s =
        execRewritten interpret (rewriteDoWhile functions next) fuel depth function s := by
    intro fuel hends
    obtain ⟨hsame, hstate⟩ := hpass.back fuel fuel (le_refl fuel) s s rfl hends
    exact Prod.ext hsame hstate
  constructor
  · intro outcome hends
    constructor
    · rintro ⟨fuel, rfl⟩
      exact ⟨fuel + 1, hforth fuel hends⟩
    · rintro ⟨fuel, rfl⟩
      exact ⟨fuel, hback fuel hends⟩
  · constructor
    · intro hdiverges fuel
      by_contra hends
      rw [← hback fuel hends] at hends
      exact hends (hdiverges fuel)
    · intro hdiverges fuel
      by_contra hends
      rw [← hforth fuel hends] at hends
      exact hends (hdiverges (fuel + 1))

end Statement

end MetalAngle.Translator
