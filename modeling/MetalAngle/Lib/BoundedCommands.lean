import MetalAngle.Lib.ControlFlow

/-!
# Commands bounded by fuel

Two commands that are bounded by fuel do the same when each of them has enough of it.  A loop with
its test behind the body mirrors a loop that tests at its top from the second pass on, which needs
one unit of fuel more.
-/

namespace ControlFlow.Command

variable {σ τ : Type*}

/-- What the first command does before its fuel ends, the second one does with more fuel, and the
other way round. -/
structure Mirrors (R : σ → τ → Prop) (c : Nat → Command σ) (c' : Nat → Command τ) : Prop where
  forth : ∀ n m, n < m → Covers .outOfFuel R (c n) (c' m)
  back : ∀ n m, n ≤ m → Covers .outOfFuel (flip R) (c' n) (c m)

/-- The same for the evaluation of an expression. -/
structure MirrorsQuery (R : σ → τ → Prop) (q : Nat → Query σ) (q' : Nat → Query τ) : Prop where
  forth : ∀ n m, n < m → CoversQuery .outOfFuel R (q n) (q' m)
  back : ∀ n m, n ≤ m → CoversQuery .outOfFuel (flip R) (q' n) (q m)

section Loops

variable {R : σ → τ → Prop} {q next : Query σ} {q' next' : Query τ} {body : Command σ}
  {body' : Command τ}

variable {n m : Nat}

theorem Covers.whileLoop (hq : CoversQuery .outOfFuel R q q')
    (hbody : Covers .outOfFuel R body body') (hnext : CoversQuery .outOfFuel R next next')
    (hle : n ≤ m) :
    Covers .outOfFuel R (whileLoop q body next n) (whileLoop q' body' next' m) := by
  induction n generalizing m with
  | zero =>
    cases m with
    | zero => exact .evaluate hq fun value => .ite covers_skip (covers_jump _)
    | succ m => exact .evaluate hq fun value => .ite covers_skip (stopped_covered _)
  | succ n ih =>
    obtain ⟨m, rfl⟩ : ∃ k, m = k + 1 := ⟨m - 1, by omega⟩
    exact .evaluate hq fun value =>
      .ite covers_skip (hbody.iterate (.evaluate hnext fun _ => ih (by omega)))

def restOfLoop (body : Command σ) (test : Query σ) (fuel : Nat) : Command σ :=
  evaluate test fun value => if value = 0 then skip else doLoop body test fuel

def leaveUnless (test : Query τ) : Command τ :=
  evaluate test fun value => if value = 0 then jump .breaks else skip

variable {top : Command τ}

theorem iterate_leaveUnless {t : τ} (htop : top t = leaveUnless q' t) (rest : Command τ) :
    iterate (top.seq body') rest t =
      evaluate q' (fun value => if value = 0 then skip else iterate body' rest) t := by
  unfold iterate seq andThen evaluate
  rw [htop]
  unfold leaveUnless evaluate
  rcases q' t with ⟨answer, t'⟩
  cases answer with
  | error why => rfl
  | ok value =>
    by_cases hzero : value = 0
    · simp [hzero, skip, jump]
    · simp [hzero, skip, jump]

theorem iterate_seq {t t' : τ} (htop : top t = (.normal, t')) (rest : Command τ) :
    iterate (top.seq body') rest t = iterate body' rest t' := by
  unfold iterate
  rw [andThen, seq_normal htop]
  rfl

theorem whileTrue_succ (body : Command τ) (fuel : Nat) :
    whileLoop (answer 1) body (answer 0) (fuel + 1) =
      iterate body (whileLoop (answer 1) body (answer 0) fuel) := rfl

theorem covers_whileTrue (hq : CoversQuery .outOfFuel R q q')
    (hbody : Covers .outOfFuel R body body') (htop : ∀ s t, R s t → top t = leaveUnless q' t)
    (hlt : n < m) :
    Covers .outOfFuel R (restOfLoop body q n)
      (whileLoop (answer 1) (top.seq body') (answer 0) m) := by
  induction n generalizing m with
  | zero =>
    obtain ⟨m, rfl⟩ : ∃ k, m = k + 1 := ⟨m - 1, by omega⟩
    intro s t h
    rw [whileTrue_succ, iterate_leaveUnless (htop s t h)]
    exact Covers.evaluate hq (fun value => .ite covers_skip (stopped_covered _)) s t h
  | succ n ih =>
    obtain ⟨m, rfl⟩ : ∃ k, m = k + 1 := ⟨m - 1, by omega⟩
    intro s t h
    rw [whileTrue_succ, iterate_leaveUnless (htop s t h)]
    exact Covers.evaluate hq (fun value => .ite covers_skip (hbody.iterate (ih (by omega)))) s t h

theorem whileTrue_covered (hq : CoversQuery .outOfFuel (flip R) q' q)
    (hbody : Covers .outOfFuel (flip R) body' body)
    (htop : ∀ s t, R s t → top t = leaveUnless q' t) (hle : n ≤ m) :
    Covers .outOfFuel (flip R) (whileLoop (answer 1) (top.seq body') (answer 0) n)
      (restOfLoop body q m) := by
  induction n generalizing m with
  | zero => exact stopped_covered _
  | succ n ih =>
    obtain ⟨m, rfl⟩ : ∃ k, m = k + 1 := ⟨m - 1, by omega⟩
    intro t s h
    rw [whileTrue_succ, iterate_leaveUnless (htop s t h)]
    exact Covers.evaluate hq (fun value => .ite covers_skip (hbody.iterate (ih (by omega)))) t s h

end Loops

section Mirrors

variable {R : σ → τ → Prop} {c d : Nat → Command σ} {c' d' : Nat → Command τ}
  {q next : Nat → Query σ} {q' next' : Nat → Query τ}

theorem mirrors_jump (completion : Completion) :
    Mirrors R (fun _ => jump completion) (fun _ => jump completion) where
  forth _ _ _ := covers_jump completion
  back _ _ _ := covers_jump completion

theorem mirrors_answer (value : Int) :
    MirrorsQuery R (fun _ => answer value) (fun _ => answer value) where
  forth _ _ _ _ _ h _ := ⟨rfl, h⟩
  back _ _ _ _ _ h _ := ⟨rfl, h⟩

theorem Mirrors.seq (hc : Mirrors R c c') (hd : Mirrors R d d') :
    Mirrors R (fun fuel => (c fuel).seq (d fuel)) (fun fuel => (c' fuel).seq (d' fuel)) where
  forth n m h := (hc.forth n m h).seq (hd.forth n m h)
  back n m h := (hc.back n m h).seq (hd.back n m h)

theorem Mirrors.catchBreak (hc : Mirrors R c c') :
    Mirrors R (fun fuel => (c fuel).catchBreak) (fun fuel => (c' fuel).catchBreak) where
  forth n m h := (hc.forth n m h).catchBreak
  back n m h := (hc.back n m h).catchBreak

section

variable (hq : MirrorsQuery R q q')
include hq

theorem Mirrors.evaluate {after : Int → Nat → Command σ}
    {after' : Int → Nat → Command τ} (hafter : ∀ value, Mirrors R (after value) (after' value)) :
    Mirrors R (fun fuel => evaluate (q fuel) fun value => after value fuel)
      (fun fuel => evaluate (q' fuel) fun value => after' value fuel) where
  forth n m h := .evaluate (hq.forth n m h) fun value => (hafter value).forth n m h
  back n m h := .evaluate (hq.back n m h) fun value => (hafter value).back n m h

theorem Mirrors.perform :
    Mirrors R (fun fuel => perform (q fuel)) (fun fuel => perform (q' fuel)) :=
  Mirrors.evaluate hq fun _ => mirrors_jump .normal

theorem Mirrors.whileLoop (hc : Mirrors R c c')
    (hnext : MirrorsQuery R next next') :
    Mirrors R (fun fuel => whileLoop (q fuel) (c fuel) (next fuel) fuel)
      (fun fuel => whileLoop (q' fuel) (c' fuel) (next' fuel) fuel) where
  forth n m h := .whileLoop (hq.forth n m h) (hc.forth n m h) (hnext.forth n m h) h.le
  back n m h := .whileLoop (hq.back n m h) (hc.back n m h) (hnext.back n m h) h

/-- Before the loop the top of the body does nothing in the first pass, and from then on it is what
leaves the loop. -/
theorem Mirrors.doLoop {S : σ → τ → Prop} {start : Command τ} {top : Nat → Command τ} (hc : Mirrors R c c') (hstart : ∀ fuel s t, S s t →
      ∃ t₁ t', start t = (.normal, t₁) ∧ top fuel t₁ = (.normal, t') ∧ R s t')
    (htop : ∀ fuel s t, R s t → top fuel t = leaveUnless (q' fuel) t)
    (hend : ∀ s t, R s t → S s t) :
    Mirrors S (fun fuel => doLoop (c fuel) (q fuel) fuel) (fun fuel =>
        start.seq (Command.whileLoop (answer 1) ((top fuel).seq (c' fuel)) (answer 0) fuel)) where
  forth n m hlt s t h := by
    obtain ⟨m, rfl⟩ : ∃ k, m = k + 1 := ⟨m - 1, by omega⟩
    obtain ⟨t₁, t', hfirst, hsecond, hrel⟩ := hstart (m + 1) s t h
    rw [seq_normal hfirst, whileTrue_succ, iterate_seq hsecond]
    cases n with
    | zero =>
      intro hallowed
      exact absurd rfl hallowed
    | succ n =>
      have hloop := covers_whileTrue (n := n) (m := m) (hq.forth (n + 1) (m + 1) hlt)
        (hc.forth (n + 1) (m + 1) hlt) (htop (m + 1)) (by omega)
      intro hallowed
      obtain ⟨hsame, hafter⟩ := ((hc.forth (n + 1) (m + 1) hlt).iterate hloop) s t' hrel hallowed
      exact ⟨hsame, hend _ _ hafter⟩
  back n m hle t s h := by
    obtain ⟨t₁, t', hfirst, hsecond, hrel⟩ := hstart n s t h
    rw [seq_normal hfirst]
    cases n with
    | zero =>
      intro hallowed
      exact absurd rfl hallowed
    | succ n =>
      obtain ⟨m, rfl⟩ : ∃ k, m = k + 1 := ⟨m - 1, by omega⟩
      have hloop := whileTrue_covered (n := n) (m := m) (hq.back (n + 1) (m + 1) hle)
        (hc.back (n + 1) (m + 1) hle) (htop (n + 1)) (by omega)
      rw [whileTrue_succ, iterate_seq hsecond]
      intro hallowed
      obtain ⟨hsame, hafter⟩ := ((hc.back (n + 1) (m + 1) hle).iterate hloop) t' s hrel hallowed
      exact ⟨hsame, hend _ _ hafter⟩

end

end Mirrors

end ControlFlow.Command
