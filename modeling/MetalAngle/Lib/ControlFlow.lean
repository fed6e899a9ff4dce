import Mathlib.Tactic

/-!
# Commands with jumps

A command takes a state to a completion and a state: it ends normally, with a jump, or it stops the
whole program.  This module has the combinators of a structured language, with loops bounded by
fuel, and a simulation between commands on two kinds of states.  `refused` is for a semantics that
stops where a program does something that a result does not cover: a command that is refused is
simulated by anything.
-/

namespace ControlFlow

inductive Stop
  | discarded
  | outOfFuel
  | refused
deriving DecidableEq

inductive Completion
  | normal
  | breaks
  | continues
  | returns
  | stops (why : Stop)
deriving DecidableEq

abbrev Command (σ : Type*) := σ → Completion × σ

abbrev Query (σ : Type*) := σ → Except Stop Int × σ

namespace Command

variable {σ τ : Type*}

def jump (completion : Completion) : Command σ := fun s => (completion, s)

def skip : Command σ := jump .normal

def andThen (c : Command σ) (next : Completion → Command σ) : Command σ := fun s =>
  next (c s).1 (c s).2

def seq (first second : Command σ) : Command σ :=
  first.andThen fun completion =>
    match completion with
    | .normal => second
    | other => jump other

def evaluate (query : Query σ) (next : Int → Command σ) : Command σ := fun s =>
  match query s with
  | (.error why, s) => (.stops why, s)
  | (.ok value, s) => next value s

def answer (value : Int) : Query σ := fun s => (.ok value, s)

def perform (query : Query σ) : Command σ := evaluate query fun _ => skip

def iterate (body rest : Command σ) : Command σ :=
  body.andThen fun completion =>
    match completion with
    | .normal => rest
    | .continues => rest
    | .breaks => skip
    | other => jump other

def whileLoop (test : Query σ) (body : Command σ) (next : Query σ) : Nat → Command σ
  | 0 => evaluate test fun value => if value = 0 then skip else jump (.stops .outOfFuel)
  | fuel + 1 => evaluate test fun value =>
      if value = 0 then skip
      else iterate body (evaluate next fun _ => whileLoop test body next fuel)

def doLoop (body : Command σ) (test : Query σ) : Nat → Command σ
  | 0 => jump (.stops .outOfFuel)
  | fuel + 1 => iterate body (evaluate test fun value =>
      if value = 0 then skip else doLoop body test fuel)

/-- A statement that a `break` leaves. -/
def catchBreak (body : Command σ) : Command σ :=
  body.andThen fun completion =>
    match completion with
    | .breaks => skip
    | other => jump other

/-- A command that is not to `continue`. -/
def refuseContinue (body : Command σ) : Command σ :=
  body.andThen fun completion =>
    match completion with
    | .continues => jump (.stops .refused)
    | other => jump other

theorem skip_seq (c : Command σ) : skip.seq c = c := rfl

theorem seq_skip (c : Command σ) : c.seq skip = c := by
  funext s
  unfold seq andThen
  rcases c s with ⟨completion, s'⟩
  cases completion with
  | normal => rfl
  | breaks => rfl
  | continues => rfl
  | returns => rfl
  | stops why => rfl

theorem seq_assoc (c d e : Command σ) : (c.seq d).seq e = c.seq (d.seq e) := by
  funext s
  unfold seq andThen
  rcases c s with ⟨completion, s'⟩
  cases completion with
  | normal => rfl
  | breaks => rfl
  | continues => rfl
  | returns => rfl
  | stops why => rfl

/-! ## Commands that jump or stop -/

/-- A command that never ends normally. -/
def Diverts (c : Command σ) : Prop := ∀ s, (c s).1 ≠ .normal

variable {completion : Completion}

theorem diverts_jump (h : completion ≠ .normal) :
    (jump completion : Command σ).Diverts := fun _ => h

/-- What follows a command that never ends normally does not matter. -/
theorem Diverts.seq_eq {c : Command σ} (h : c.Diverts) (d : Command σ) : c.seq d = c := by
  funext s
  have hc := h s
  unfold seq andThen
  generalize c s = outcome at hc ⊢
  obtain ⟨completion, s'⟩ := outcome
  cases completion with
  | normal => exact absurd rfl hc
  | breaks => rfl
  | continues => rfl
  | returns => rfl
  | stops why => rfl

theorem Diverts.seq_left {d : Command σ} (h : d.Diverts) (c : Command σ) : (c.seq d).Diverts := by
  intro s
  unfold seq andThen
  rcases c s with ⟨completion, s'⟩
  cases completion with
  | normal => exact h s'
  | breaks => simp [jump]
  | continues => simp [jump]
  | returns => simp [jump]
  | stops why => simp [jump]

/-- A `break` at the end of a body is the same as none. -/
theorem catchBreak_seq_breaks (c : Command σ) :
    catchBreak (c.seq (jump .breaks)) = catchBreak c := by
  funext s
  unfold catchBreak seq andThen
  rcases c s with ⟨completion, s'⟩
  cases completion with
  | normal => rfl
  | breaks => rfl
  | continues => rfl
  | returns => rfl
  | stops why => rfl

/-! ## Simulation -/

/-- The second command does what the first one does, on related states, unless the first one stops
for the given reason. -/
def Covers (why : Stop) (R : σ → τ → Prop) (c : Command σ) (c' : Command τ) : Prop :=
  ∀ s t, R s t → (c s).1 ≠ .stops why → (c' t).1 = (c s).1 ∧ R (c s).2 (c' t).2

/-- The same for the evaluation of an expression. -/
def CoversQuery (why : Stop) (R : σ → τ → Prop) (q : Query σ) (q' : Query τ) : Prop :=
  ∀ s t, R s t → (q s).1 ≠ .error why → (q' t).1 = (q s).1 ∧ R (q s).2 (q' t).2

/-- The second command does what the first one does, on related states, unless the first one is
refused. -/
def Simulates (R : σ → τ → Prop) (c : Command σ) (c' : Command τ) : Prop :=
  ∀ s t, R s t → (c s).1 ≠ .stops .refused → (c' t).1 = (c s).1 ∧ R (c s).2 (c' t).2

/-- The same for the evaluation of an expression. -/
def Answers (R : σ → τ → Prop) (q : Query σ) (q' : Query τ) : Prop :=
  ∀ s t, R s t → (q s).1 ≠ .error .refused → (q' t).1 = (q s).1 ∧ R (q s).2 (q' t).2

variable {R : σ → τ → Prop} {c d : Command σ} {c' d' : Command τ} {q : Query σ} {q' : Query τ}
  {why : Stop}

theorem covers_jump (completion : Completion) :
    Covers why R (jump completion) (jump completion) := by
  intro s t h _
  exact ⟨rfl, h⟩

theorem covers_skip : Covers why R skip skip := covers_jump .normal

theorem stopped_covered (c' : Command τ) : Covers why R (jump (.stops why)) c' := by
  intro s t _ hallowed
  exact absurd rfl hallowed

section

variable (hc : Covers why R c c')
include hc

theorem Covers.andThen {next : Completion → Command σ}
    {next' : Completion → Command τ} (hnext : ∀ completion, Covers why R (next completion)
      (next' completion)) (hstops : next (.stops why) = jump (.stops why)) :
    Covers why R (c.andThen next) (c'.andThen next') := by
  intro s t h hallowed
  unfold Command.andThen at *
  have hfirst : (c s).1 ≠ .stops why := by
    intro heq
    rw [heq, hstops] at hallowed
    exact hallowed rfl
  obtain ⟨hsame, hrel⟩ := hc s t h hfirst
  rw [hsame]
  exact hnext (c s).1 (c s).2 (c' t).2 hrel hallowed

theorem Covers.seq (hd : Covers why R d d') :
    Covers why R (c.seq d) (c'.seq d') := by
  refine hc.andThen ?_ rfl
  intro completion
  cases completion with
  | normal => exact hd
  | breaks => exact covers_jump _
  | continues => exact covers_jump _
  | returns => exact covers_jump _
  | stops why => exact covers_jump _

theorem Covers.iterate (hd : Covers why R d d') :
    Covers why R (c.iterate d) (c'.iterate d') := by
  refine hc.andThen ?_ rfl
  intro completion
  cases completion with
  | normal => exact hd
  | breaks => exact covers_skip
  | continues => exact hd
  | returns => exact covers_jump _
  | stops why => exact covers_jump _

theorem Covers.catchBreak :
    Covers why R c.catchBreak c'.catchBreak := by
  refine hc.andThen ?_ rfl
  intro completion
  cases completion with
  | breaks => exact covers_skip
  | normal => exact covers_jump _
  | continues => exact covers_jump _
  | returns => exact covers_jump _
  | stops why => exact covers_jump _

end

theorem Covers.evaluate (hq : CoversQuery why R q q') {next : Int → Command σ}
    {next' : Int → Command τ} (hnext : ∀ value, Covers why R (next value) (next' value)) :
    Covers why R (evaluate q next) (evaluate q' next') := by
  intro s t h hallowed
  have hanswer := hq s t h
  unfold Command.evaluate at hallowed ⊢
  generalize q s = result at hanswer hallowed ⊢
  generalize q' t = result' at hanswer ⊢
  obtain ⟨answer, s'⟩ := result
  obtain ⟨answer', t'⟩ := result'
  cases answer with
  | error why' =>
    have hwhy : (Except.error why' : Except Stop Int) ≠ .error why := by
      intro heq
      exact hallowed (congrArg Completion.stops (Except.error.inj heq))
    obtain ⟨rfl, hrel⟩ := hanswer hwhy
    exact ⟨rfl, hrel⟩
  | ok value =>
    obtain ⟨rfl, hrel⟩ := hanswer (by simp)
    exact hnext value s' t' hrel hallowed

theorem Covers.ite {p : Prop} [Decidable p] (hc : Covers why R c c') (hd : Covers why R d d') :
    Covers why R (if p then c else d) (if p then c' else d') := by
  split
  · exact hc
  · exact hd

theorem simulates_jump (completion : Completion) :
    Simulates R (jump completion) (jump completion) := covers_jump completion

theorem simulates_skip : Simulates R skip skip := covers_skip

theorem refused_simulated (c' : Command τ) : Simulates R (jump (.stops .refused)) c' :=
  stopped_covered c'

section

variable (hc : Simulates R c c')
include hc

theorem Simulates.seq (hd : Simulates R d d') :
    Simulates R (c.seq d) (c'.seq d') := Covers.seq hc hd

theorem Simulates.iterate (hd : Simulates R d d') :
    Simulates R (c.iterate d) (c'.iterate d') := Covers.iterate hc hd

theorem Simulates.catchBreak :
    Simulates R c.catchBreak c'.catchBreak := Covers.catchBreak hc

/-- A `continue` of the first command is not covered. -/
theorem Simulates.refuseContinue :
    Simulates R c.refuseContinue c' := by
  intro s t h hallowed
  unfold Command.refuseContinue Command.andThen at *
  have hsim := hc s t h
  cases hcompletion : (c s).1 with
  | continues => simp [hcompletion, jump] at hallowed
  | normal => simpa [hcompletion, jump] using hsim
  | breaks => simpa [hcompletion, jump] using hsim
  | returns => simpa [hcompletion, jump] using hsim
  | stops why => simpa [hcompletion, jump] using hsim (by simpa [hcompletion, jump] using hallowed)

end

theorem Simulates.evaluate (hq : Answers R q q') {next : Int → Command σ}
    {next' : Int → Command τ} (hnext : ∀ value, Simulates R (next value) (next' value)) :
    Simulates R (evaluate q next) (evaluate q' next') := Covers.evaluate hq hnext

theorem Simulates.ite {p : Prop} [Decidable p] (hc : Simulates R c c') (hd : Simulates R d d') :
    Simulates R (if p then c else d) (if p then c' else d') := Covers.ite hc hd

theorem Simulates.whileLoop {body : Command σ} {body' : Command τ} {next : Query σ}
    {next' : Query τ} (hq : Answers R q q') (hbody : Simulates R body body')
    (hnext : Answers R next next') (fuel : Nat) :
    Simulates R (whileLoop q body next fuel) (whileLoop q' body' next' fuel) := by
  induction fuel with
  | zero => exact .evaluate hq fun value => .ite simulates_skip (simulates_jump _)
  | succ fuel ih =>
    exact .evaluate hq fun value =>
      .ite simulates_skip (hbody.iterate (.evaluate hnext fun _ => ih))

theorem Simulates.doLoop {body : Command σ} {body' : Command τ} (hbody : Simulates R body body')
    (hq : Answers R q q') (fuel : Nat) :
    Simulates R (doLoop body q fuel) (doLoop body' q' fuel) := by
  induction fuel with
  | zero => exact simulates_jump _
  | succ fuel ih => exact hbody.iterate (.evaluate hq fun value => .ite simulates_skip ih)

/-! ## A loop that keeps its test in the state -/

/-- The second command evaluates the test and leaves its value where `F` finds it. -/
def Marks (P R : σ → τ → Prop) (F : Int → σ → τ → Prop) (test : Query σ) (mark : Command τ) :
    Prop :=
  ∀ s t, P s t → (test s).1 ≠ .error .refused →
    match test s with
    | (.error why, s') => (mark t).1 = .stops why ∧ R s' (mark t).2
    | (.ok value, s') => (mark t).1 = .normal ∧ F value s' (mark t).2

theorem evaluate_ok {s s' : σ} {value : Int} (h : q s = (.ok value, s'))
    (next : Int → Command σ) : evaluate q next s = next value s' := by
  unfold evaluate
  rw [h]

theorem evaluate_error {s s' : σ} {why : Stop} (h : q s = (.error why, s'))
    (next : Int → Command σ) : evaluate q next s = (.stops why, s') := by
  unfold evaluate
  rw [h]

theorem evaluate_answer (value : Int) (next : Int → Command σ) :
    evaluate (answer value) next = next value := rfl

section

variable {s s' : σ}

theorem seq_normal (h : c s = (.normal, s')) : c.seq d s = d s' := by
  simp [seq, andThen, h]

theorem seq_other (h : c s = (completion, s'))
    (hother : completion ≠ .normal) : c.seq d s = (completion, s') := by
  cases completion with
  | normal => contradiction
  | breaks => simp [seq, andThen, jump, h]
  | continues => simp [seq, andThen, jump, h]
  | returns => simp [seq, andThen, jump, h]
  | stops why => simp [seq, andThen, jump, h]

theorem iterate_normal (h : c s = (.normal, s')) : c.iterate d s = d s' := by
  simp [iterate, andThen, h]

theorem iterate_breaks (h : c s = (.breaks, s')) :
    c.iterate d s = (.normal, s') := by
  simp [iterate, andThen, skip, jump, h]

theorem iterate_returns (h : c s = (.returns, s')) :
    c.iterate d s = (.returns, s') := by
  simp [iterate, andThen, jump, h]

theorem iterate_stops {why : Stop} (h : c s = (.stops why, s')) :
    c.iterate d s = (.stops why, s') := by
  simp [iterate, andThen, jump, h]

theorem refuseContinue_continues (h : c s = (.continues, s')) :
    c.refuseContinue s = (.stops .refused, s') := by
  simp [refuseContinue, andThen, jump, h]

theorem refuseContinue_other (h : c s = (completion, s'))
    (hother : completion ≠ .continues) : c.refuseContinue s = (completion, s') := by
  cases completion with
  | continues => contradiction
  | breaks => simp [refuseContinue, andThen, jump, h]
  | normal => simp [refuseContinue, andThen, jump, h]
  | returns => simp [refuseContinue, andThen, jump, h]
  | stops why => simp [refuseContinue, andThen, jump, h]

end

/-- A loop whose test stays true under an invariant, with a body that always goes on. -/
theorem whileLoop_outOfFuel {test next : Query σ} {body : Command σ} {P : σ → Prop}
    (htest : ∀ s, P s → ∃ value s', test s = (.ok value, s') ∧ value ≠ 0 ∧ P s')
    (hbody : ∀ s, P s → ∃ s', body s = (.continues, s') ∧ P s')
    (hnext : ∀ s, P s → ∃ value s', next s = (.ok value, s') ∧ P s') (fuel : Nat) {s : σ}
    (h : P s) : (whileLoop test body next fuel s).1 = .stops .outOfFuel := by
  induction fuel generalizing s with
  | zero =>
    obtain ⟨value, s₁, heval, hne, h₁⟩ := htest s h
    rw [whileLoop, evaluate_ok heval, if_neg hne]
    rfl
  | succ fuel ih =>
    obtain ⟨value, s₁, heval, hne, h₁⟩ := htest s h
    obtain ⟨s₂, hcontinues, h₂⟩ := hbody s₁ h₁
    obtain ⟨result, s₃, hstep, h₃⟩ := hnext s₂ h₂
    rw [whileLoop, evaluate_ok heval, if_neg hne]
    unfold iterate andThen
    rw [hcontinues]
    dsimp only
    rw [evaluate_ok hstep]
    exact ih h₃

/-- What a `whileLoop` does after its test. -/
def afterTest (test : Query σ) (body : Command σ) (next : Query σ) (value : Int) :
    Nat → Command σ
  | 0 => if value = 0 then skip else jump (.stops .outOfFuel)
  | fuel + 1 =>
      if value = 0 then skip
      else iterate body (evaluate next fun _ => whileLoop test body next fuel)

theorem whileLoop_eq (test : Query σ) (body : Command σ) (next : Query σ) (fuel : Nat) :
    whileLoop test body next fuel =
      evaluate test fun value => afterTest test body next value fuel := by
  cases fuel with
  | zero => rfl
  | succ fuel => rfl

variable {F : Int → σ → τ → Prop} {test : Query σ} {flag : Query τ} {start again : Command τ}
  {body : Command σ} {body' : Command τ} {next : Query σ} {next' : Command τ}

/-- A loop ends with the completion that the other one ends with, in related states. -/
def EndsLike (R : σ → τ → Prop) (outcome : Completion × σ) (outcome' : Completion × τ) : Prop :=
  outcome'.1 = outcome.1 ∧ R outcome.2 outcome'.2

theorem Marks.cases {P : σ → τ → Prop} {mark : Command τ} (hmark : Marks P R F test mark)
    {then_ : Int → Command σ} {s : σ} {t : τ} (h : P s t)
    (hallowed : (evaluate test then_ s).1 ≠ .stops .refused) :
    (∃ why s' t', evaluate test then_ s = (.stops why, s') ∧ mark t = (.stops why, t') ∧ R s' t') ∨
      ∃ value s' t', evaluate test then_ s = then_ value s' ∧ mark t = (.normal, t') ∧
        F value s' t' := by
  have hmarks := hmark s t h
  rcases ht : test s with ⟨answer, s'⟩
  rcases hm : mark t with ⟨completion, t'⟩
  rw [ht, hm] at hmarks
  cases answer with
  | error why =>
    rw [evaluate_error ht] at hallowed ⊢
    obtain ⟨rfl, hrel⟩ := hmarks (fun heq =>
      hallowed (congrArg Completion.stops (Except.error.inj heq)))
    exact .inl ⟨why, s', t', rfl, rfl, hrel⟩
  | ok value =>
    obtain ⟨rfl, hrel⟩ := hmarks (by simp)
    exact .inr ⟨value, s', t', evaluate_ok ht then_, rfl, hrel⟩

/-- An iteration whose body ends normally is what decides; every other end is that of the body. -/
theorem iterate_simulated {P : σ → τ → Prop} (hPR : ∀ s t, P s t → R s t)
    (hbody : Simulates P body body') {rest : Command τ} {loop : Command σ} {loop' : Command τ}
    {s : σ} {t : τ} (h : P s t)
    (hallowed : (iterate body.refuseContinue loop s).1 ≠ .stops .refused)
    (hnormal : ∀ s₁ t₁, body' t = (.normal, t₁) → P s₁ t₁ → (loop s₁).1 ≠ .stops .refused →
      EndsLike R (loop s₁) (iterate (body'.seq rest) loop' t)) :
    EndsLike R (iterate body.refuseContinue loop s) (iterate (body'.seq rest) loop' t) := by
  have hsim := hbody s t h
  rcases hb : body s with ⟨completion, s₁⟩
  rcases hb' : body' t with ⟨completion', t₁⟩
  rw [hb, hb'] at hsim
  cases completion with
  | continues =>
    rw [iterate_stops (refuseContinue_continues hb)] at hallowed
    exact absurd rfl hallowed
  | breaks =>
    obtain ⟨rfl, hrel⟩ := hsim (by simp)
    rw [iterate_breaks (refuseContinue_other hb (by simp)),
      iterate_breaks (seq_other hb' (by simp))]
    exact ⟨rfl, hPR s₁ t₁ hrel⟩
  | returns =>
    obtain ⟨rfl, hrel⟩ := hsim (by simp)
    rw [iterate_returns (refuseContinue_other hb (by simp)),
      iterate_returns (seq_other hb' (by simp))]
    exact ⟨rfl, hPR s₁ t₁ hrel⟩
  | stops why =>
    rw [iterate_stops (refuseContinue_other hb (by simp))] at hallowed ⊢
    obtain ⟨rfl, hrel⟩ := hsim hallowed
    rw [iterate_stops (seq_other hb' (by simp))]
    exact ⟨rfl, hPR s₁ t₁ hrel⟩
  | normal =>
    obtain ⟨rfl, hrel⟩ := hsim (by simp)
    rw [iterate_normal (refuseContinue_other hb (by simp))] at hallowed ⊢
    exact hnormal s₁ t₁ hb' hrel hallowed

section

variable (hFR : ∀ value s t, F value s t → R s t)
include hFR

/-- The rest of an iteration after the body: the expression and the test, which marks the flag. -/
theorem afterBody_simulated (hagain : ∀ value ≠ 0, Marks (F value) R F test again)
    (hnext : ∀ value, Simulates (F value) (perform next) next') {fuel : Nat} {value : Int}
    (hvalue : value ≠ 0) {loop' : Command τ} (hloop : ∀ value s t, F value s t →
      (afterTest test body next value fuel s).1 ≠ .stops .refused →
      EndsLike R (afterTest test body next value fuel s) (loop' t))
    {t t₁ : τ} (hb' : body' t = (.normal, t₁)) {s : σ} (h : F value s t₁)
    (hallowed : (evaluate next (fun _ => whileLoop test body next fuel) s).1 ≠ .stops .refused) :
    EndsLike R (evaluate next (fun _ => whileLoop test body next fuel) s)
      (iterate (body'.seq (next'.seq again)) (evaluate (answer 0) fun _ => loop') t) := by
  have hsim := hnext value s t₁ h
  unfold perform at hsim
  rcases hn' : next' t₁ with ⟨completion, t₂⟩
  rw [hn'] at hsim
  rcases hn : next s with ⟨answer, s₂⟩
  cases answer with
  | error why =>
    rw [evaluate_error hn] at hsim hallowed ⊢
    obtain ⟨rfl, hrel⟩ := hsim hallowed
    rw [iterate_stops ((seq_normal hb').trans (seq_other hn' (by simp)))]
    exact ⟨rfl, hFR value s₂ t₂ hrel⟩
  | ok result =>
    rw [evaluate_ok hn] at hsim hallowed ⊢
    obtain ⟨rfl, hrel⟩ : completion = .normal ∧ F value s₂ t₂ := hsim (by simp [skip, jump])
    rw [whileLoop_eq] at hallowed ⊢
    have hend : (body'.seq (next'.seq again)) t = again t₂ :=
      (seq_normal hb').trans (seq_normal hn')
    rcases (hagain value hvalue).cases hrel hallowed with
      ⟨why, s₃, t₃, heq, ha, hrel'⟩ | ⟨value', s₃, t₃, heq, ha, hrel'⟩
    · rw [heq, iterate_stops (hend.trans ha)]
      exact ⟨rfl, hrel'⟩
    · rw [heq] at hallowed ⊢
      rw [iterate_normal (hend.trans ha), evaluate_answer]
      exact hloop value' s₃ t₃ hrel' hallowed

section

variable (hflag : ∀ value s t, F value s t → flag t = (.ok value, t))
include hflag

/-- From where the value of the test is known, the loop on the flag does the rest of the loop on the
test. -/
theorem afterTest_simulated
    (hagain : ∀ value ≠ 0, Marks (F value) R F test again)
    (hbody : ∀ value, Simulates (F value) body body')
    (hnext : ∀ value, Simulates (F value) (perform next) next') (fuel : Nat) (value : Int) (s : σ)
    (t : τ) (h : F value s t)
    (hallowed : (afterTest test body.refuseContinue next value fuel s).1 ≠ .stops .refused) :
    EndsLike R (afterTest test body.refuseContinue next value fuel s)
      (whileLoop flag (body'.seq (next'.seq again)) (answer 0) fuel t) := by
  induction fuel generalizing value s t with
  | zero =>
    rw [whileLoop, evaluate_ok (hflag value s t h), afterTest]
    split
    · exact ⟨rfl, hFR value s t h⟩
    · exact ⟨rfl, hFR value s t h⟩
  | succ fuel ih =>
    rw [whileLoop, evaluate_ok (hflag value s t h)]
    rw [afterTest] at hallowed ⊢
    by_cases hzero : value = 0
    · rw [if_pos hzero, if_pos hzero]
      exact ⟨rfl, hFR value s t h⟩
    · rw [if_neg hzero] at hallowed ⊢
      rw [if_neg hzero]
      exact iterate_simulated (hFR value) (hbody value) h hallowed fun s₁ t₁ hb' hrel hloop =>
        afterBody_simulated hFR hagain hnext hzero ih hb' hrel hloop

/-- The loop on a flag that is set before it and at the end of its body simulates the loop on the
test, as long as the body does not `continue`. -/
theorem simulates_whileLoop_flag
    (hstart : Marks R R F test start) (hagain : ∀ value ≠ 0, Marks (F value) R F test again)
    (hbody : ∀ value, Simulates (F value) body body')
    (hnext : ∀ value, Simulates (F value) (perform next) next') (fuel : Nat) :
    Simulates R (whileLoop test body.refuseContinue next fuel)
      (start.seq (whileLoop flag (body'.seq (next'.seq again)) (answer 0) fuel)) := by
  intro s t h hallowed
  rw [whileLoop_eq test] at hallowed ⊢
  rcases hstart.cases h hallowed with ⟨why, s₁, t₁, heq, hs, hrel⟩ | ⟨value, s₁, t₁, heq, hs, hrel⟩
  · rw [heq, seq_other hs (by simp)]
    exact ⟨rfl, hrel⟩
  · rw [heq] at hallowed ⊢
    rw [seq_normal hs]
    exact afterTest_simulated hFR hflag hagain hbody hnext fuel value s₁ t₁ hrel hallowed

/-- The same for a loop with its test after the body, from a state with any value of the flag. -/
theorem doLoop_flag_simulated
    (hagain : ∀ value, Marks (F value) R F test again)
    (hbody : ∀ value, Simulates (F value) body body') (fuel : Nat) (value : Int) (s : σ) (t : τ)
    (h : F value s t) (hallowed : (doLoop body.refuseContinue test fuel s).1 ≠ .stops .refused) :
    EndsLike R (doLoop body.refuseContinue test fuel s) (doLoop (body'.seq again) flag fuel t) := by
  induction fuel generalizing value s t with
  | zero => exact ⟨rfl, hFR value s t h⟩
  | succ fuel ih =>
    rw [doLoop] at hallowed ⊢
    rw [doLoop]
    refine iterate_simulated (hFR value) (hbody value) h hallowed fun s₁ t₁ hb' hrel hloop => ?_
    rcases (hagain value).cases hrel hloop with
      ⟨why, s₂, t₂, heq, ha, hrel'⟩ | ⟨value', s₂, t₂, heq, ha, hrel'⟩
    · rw [heq, iterate_stops ((seq_normal hb').trans ha)]
      exact ⟨rfl, hrel'⟩
    · rw [heq] at hloop ⊢
      rw [iterate_normal ((seq_normal hb').trans ha), evaluate_ok (hflag value' s₂ t₂ hrel')]
      split
      · exact ⟨rfl, hFR value' s₂ t₂ hrel'⟩
      · rename_i hvalue
        rw [if_neg hvalue] at hloop
        exact ih value' s₂ t₂ hrel' hloop

end

end

end Command

end ControlFlow
