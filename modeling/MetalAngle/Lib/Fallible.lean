import Mathlib.Data.List.Basic

/-!
# Operations that may fail on the way

An operation works on a state and may stop before its end, in which case the state stays as it is
at that point.  A triple says what holds of the state after the operation has ended, and what holds
of it after the operation has failed.
-/

structure Fallible (State : Type*) where
  run : State → State × Bool

namespace Fallible

variable {State α : Type*}

def update (f : State → State) : Fallible State :=
  ⟨fun s => (f s, true)⟩

def attempt (ok : Bool) : Fallible State :=
  ⟨fun s => (s, ok)⟩

def done : Fallible State := attempt true

def ofState (op : State → Fallible State) : Fallible State :=
  ⟨fun s => (op s).run s⟩

def andThen (first second : Fallible State) : Fallible State :=
  ⟨fun s => if (first.run s).2 then second.run (first.run s).1 else first.run s⟩

instance : AndThen (Fallible State) := ⟨fun first second => first.andThen (second ())⟩

def when (condition : Bool) (op : Fallible State) : Fallible State :=
  if condition then op else done

def forEach (xs : List α) (op : α → Fallible State) : Fallible State :=
  xs.foldr (fun x rest => op x >> rest) done

@[simp] theorem run_update (f : State → State) (s : State) : (update f).run s = (f s, true) := rfl

@[simp] theorem run_attempt (ok : Bool) (s : State) : (attempt ok).run s = (s, ok) := rfl

@[simp] theorem run_done (s : State) : (done : Fallible State).run s = (s, true) := rfl

@[simp] theorem run_ofState (op : State → Fallible State) (s : State) :
    (ofState op).run s = (op s).run s := rfl

theorem run_andThen (first second : Fallible State) (s : State) :
    (first >> second).run s =
      if (first.run s).2 then second.run (first.run s).1 else first.run s := rfl

/-- From `P` the operation ends in `Q`, or fails in `E`. -/
def Triple (P : State → Prop) (op : Fallible State) (Q E : State → Prop) : Prop :=
  ∀ s, P s → if (op.run s).2 then Q (op.run s).1 else E (op.run s).1

namespace Triple

variable {P Q R E : State → Prop} {first second op : Fallible State}

theorem update {f : State → State} (h : ∀ s, P s → Q (f s)) : Triple P (update f) Q E :=
  fun s hs => h s hs

theorem attempt {ok : Bool} (hsuccess : ok → ∀ s, P s → Q s)
    (hfailure : ok = false → ∀ s, P s → E s) : Triple P (attempt ok) Q E := by
  intro s hs
  cases ok with
  | true => exact hsuccess rfl s hs
  | false => exact hfailure rfl s hs

theorem ofState {op : State → Fallible State}
    (h : ∀ s, P s → Triple (fun t => t = s) (op s) Q E) : Triple P (ofState op) Q E :=
  fun s hs => h s hs s rfl

theorem reads {op : State → Fallible State} (h : ∀ s, P s → Triple P (op s) Q E) :
    Triple P (Fallible.ofState op) Q E :=
  fun s hs => h s hs s hs

theorem andThen (hfirst : Triple P first Q E) (hsecond : Triple Q second R E) :
    Triple P (first >> second) R E := by
  intro s hs
  have hmiddle := hfirst s hs
  rw [run_andThen]
  cases hok : (first.run s).2 with
  | true =>
      rw [hok] at hmiddle
      exact hsecond _ hmiddle
  | false =>
      rw [hok] at hmiddle
      simpa [hok] using hmiddle

theorem mono {P' Q' E' : State → Prop} (h : Triple P op Q E) (hpre : ∀ s, P' s → P s)
    (hpost : ∀ s, Q s → Q' s) (hfail : ∀ s, E s → E' s) : Triple P' op Q' E' := by
  intro s hs
  have hresult := h s (hpre s hs)
  cases hok : (op.run s).2 with
  | true =>
      rw [hok] at hresult
      exact hpost _ hresult
  | false =>
      rw [hok] at hresult
      exact hfail _ hresult

theorem fails {E' : State → Prop} (h : Triple P op Q E) (hfail : ∀ s, E s → E' s) :
    Triple P op Q E' :=
  h.mono (fun _ hs => hs) (fun _ hs => hs) hfail

theorem here {s : State} (h : Triple P op Q E) (hs : P s) : Triple (fun t => t = s) op Q E :=
  fun _ ht => ht ▸ h s hs

theorem attempt_false (h : ∀ s, P s → E s) : Triple P (Fallible.attempt false >> second) Q E :=
  fun s hs => h s hs

theorem and {P' Q' E' : State → Prop} (h : Triple P op Q E) (h' : Triple P' op Q' E') :
    Triple (fun s => P s ∧ P' s) op (fun s => Q s ∧ Q' s) fun s => E s ∧ E' s := by
  intro s hs
  have hresult := h s hs.1
  have hresult' := h' s hs.2
  cases hok : (op.run s).2 with
  | true =>
      rw [hok] at hresult hresult'
      exact ⟨hresult, hresult'⟩
  | false =>
      rw [hok] at hresult hresult'
      exact ⟨hresult, hresult'⟩

theorem done (h : ∀ s, P s → Q s) : Triple P done Q E :=
  fun s hs => h s hs

theorem when {condition : Bool} (hyes : condition → Triple P op Q E)
    (hno : condition = false → ∀ s, P s → Q s) : Triple P (when condition op) Q E := by
  cases condition with
  | true => exact hyes rfl
  | false => exact done (hno rfl)

theorem forEach {op : α → Fallible State} {xs : List α}
    (h : ∀ x ∈ xs, Triple P (op x) P E) : Triple P (forEach xs op) P E := by
  induction xs with
  | nil => exact done fun s hs => hs
  | cons x xs ih =>
      have hx := h x (by simp)
      have hxs := ih fun y hy => h y (by simp [hy])
      exact hx.andThen hxs

/-- The rule of loops that do something for every element, which the later rounds do not undo. -/
theorem forEach_all {op : α → Fallible State} {xs : List α} {Done : α → State → Prop}
    (hdo : ∀ x ∈ xs, Triple P (op x) (fun s => P s ∧ Done x s) E) (hkeep : ∀ x ∈ xs, ∀ y ∈ xs,
      Triple (fun s => P s ∧ Done y s) (op x) (Done y) fun _ => True) :
    Triple P (Fallible.forEach xs op) (fun s => P s ∧ ∀ x ∈ xs, Done x s) E := by
  -- What is done grows from the front of the list.
  suffices h : ∀ rest before : List α, before ++ rest = xs →
      Triple (fun s => P s ∧ ∀ x ∈ before, Done x s) (Fallible.forEach rest op)
        (fun s => P s ∧ ∀ x ∈ xs, Done x s) E from
    (h xs [] rfl).mono (fun _ hs => ⟨hs, nofun⟩)
      (fun _ hs => hs) fun _ hs => hs
  intro rest
  induction rest with
  | nil =>
    intro before hsplit
    apply done
    rintro s ⟨hs, hdone⟩
    rw [List.append_nil] at hsplit
    subst hsplit
    exact ⟨hs, hdone⟩
  | cons x rest ih =>
    intro before hsplit
    have hx : x ∈ xs := by
      rw [← hsplit]
      simp
    have hbefore : ∀ y ∈ before, y ∈ xs := by
      intro y hy
      rw [← hsplit]
      exact List.mem_append_left _ hy
    refine andThen (Q := fun s => P s ∧ ∀ y ∈ before ++ [x], Done y s) ?_
      (ih (before ++ [x]) (by rw [← hsplit, List.append_assoc, List.singleton_append]))
    rintro s ⟨hs, hdone⟩
    have hround := hdo x hx s hs
    cases hok : ((op x).run s).2 with
    | false =>
        rw [hok] at hround
        exact hround
    | true =>
      rw [hok] at hround
      refine ⟨hround.1, fun y hy => ?_⟩
      rcases List.mem_append.mp hy with hy | hy
      · have hkept := hkeep x hx y (hbefore y hy) s ⟨hs, hdone y hy⟩
        rw [hok] at hkept
        exact hkept
      · obtain rfl := List.mem_singleton.mp hy
        exact hround.2

end Triple

/-- What holds after an operation that fails no differently than it ends. -/
theorem Triple.result {P Q : State → Prop} {op : Fallible State} (h : Triple P op Q Q) {s : State}
    (hs : P s) : Q (op.run s).1 := by
  have hresult := h s hs
  rwa [ite_self] at hresult

/-- An operation that gets to its end from every state. -/
def Succeeds (op : Fallible State) : Prop := ∀ s, (op.run s).2

namespace Succeeds

variable {first second op : Fallible State}

theorem update (f : State → State) : Succeeds (update f) := fun _ => rfl

theorem attempt {ok : Bool} (hok : ok) : (attempt ok : Fallible State).Succeeds :=
  fun _ => hok

theorem ofState {op : State → Fallible State} (h : ∀ s, (op s).Succeeds) : (ofState op).Succeeds :=
  fun s => h s s

theorem andThen (hfirst : first.Succeeds) (hsecond : second.Succeeds) :
    (first >> second).Succeeds := by
  intro s
  rw [run_andThen, if_pos (hfirst s)]
  exact hsecond _

theorem when {condition : Bool} (h : condition → op.Succeeds) : (when condition op).Succeeds := by
  cases condition with
  | true => exact h rfl
  | false => exact fun _ => rfl

theorem forEach {op : α → Fallible State} (xs : List α) (h : ∀ x ∈ xs, (op x).Succeeds) :
    (forEach xs op).Succeeds := by
  induction xs with
  | nil => exact fun _ => rfl
  | cons x xs ih => exact (h x (by simp)).andThen (ih fun y hy => h y (by simp [hy]))

/-- An operation that does not fail leaves nothing to say of failure. -/
theorem triple (hop : op.Succeeds) {P Q E E' : State → Prop} (h : Triple P op Q E) :
    Triple P op Q E' := by
  intro s hs
  have hresult := h s hs
  rw [if_pos (hop s)] at hresult ⊢
  exact hresult

end Succeeds

end Fallible
