import Mathlib.Order.Basic

/-!
# Runs of labelled partial step functions

A system is a partial step function `State → Action → Option State`: `none` is an
action that is not enabled.  This module has the finite runs of such a system and
the rules that turn a fact about one step into a fact about a whole run.  A `guard`
restricts the steps a run may take, for results that hold only of runs whose steps
all meet a condition.
-/

namespace LabelledRun

variable {State Action : Type*}

/-- A finite run: every step is enabled and meets `guard` in the state it starts from. -/
inductive Run (step : State → Action → Option State) (guard : State → Action → Prop) :
    State → List Action → State → Prop
  | nil (s : State) : Run step guard s [] s
  | cons {s t u : State} {a : Action} {as : List Action} :
      guard s a → step s a = some t → Run step guard t as u → Run step guard s (a :: as) u

/-- The guard that every step meets. -/
def anyStep (_ : State) (_ : Action) : Prop := True

variable {step : State → Action → Option State} {guard : State → Action → Prop}

namespace Run

theorem single {s t : State} {a : Action} (hguard : guard s a) (hstep : step s a = some t) :
    Run step guard s [a] t :=
  .cons hguard hstep (.nil t)

theorem cons_iff {s u : State} {a : Action} {as : List Action} :
    Run step guard s (a :: as) u ↔ guard s a ∧ ∃ t, step s a = some t ∧ Run step guard t as u := by
  constructor
  · intro hrun
    cases hrun with
    | cons hguard hstep hrest => exact ⟨hguard, _, hstep, hrest⟩
  · rintro ⟨hguard, t, hstep, hrest⟩
    exact .cons hguard hstep hrest

theorem append {s t u : State} {as bs : List Action} (hfirst : Run step guard s as t)
    (hsecond : Run step guard t bs u) : Run step guard s (as ++ bs) u := by
  induction hfirst with
  | nil => exact hsecond
  | cons hguard hstep _ ih => exact .cons hguard hstep (ih hsecond)

/-- A run whose steps meet a stronger guard is a run of the weaker one. -/
theorem mono {guard' : State → Action → Prop} (hle : ∀ s a, guard s a → guard' s a)
    {s t : State} {as : List Action} (hrun : Run step guard s as t) :
    Run step guard' s as t := by
  induction hrun with
  | nil s => exact .nil s
  | cons hguard hstep _ ih => exact .cons (hle _ _ hguard) hstep ih

/-- Two guards that agree on the enabled steps have the same runs. -/
theorem guard_congr {guard' : State → Action → Prop}
    (hiff : ∀ s a t, step s a = some t → (guard s a ↔ guard' s a)) {s t : State}
    {as : List Action} : Run step guard s as t ↔ Run step guard' s as t := by
  constructor
  · intro hrun
    induction hrun with
    | nil s => exact .nil s
    | cons hguard hstep _ ih => exact .cons ((hiff _ _ _ hstep).mp hguard) hstep ih
  · intro hrun
    induction hrun with
    | nil s => exact .nil s
    | cons hguard hstep _ ih => exact .cons ((hiff _ _ _ hstep).mpr hguard) hstep ih

/-- The invariant rule: what every guarded step preserves, every guarded run preserves. -/
theorem invariant {Inv : State → Prop}
    (hpres : ∀ s a t, Inv s → guard s a → step s a = some t → Inv t)
    {s t : State} {as : List Action} (hrun : Run step guard s as t) (hs : Inv s) : Inv t := by
  induction hrun with
  | nil => exact hs
  | cons hguard hstep _ ih => exact ih (hpres _ _ _ hs hguard hstep)

/-- A run whose steps meet a guard meets another one that follows from it under an invariant. -/
theorem guard_of_invariant {guard' : State → Action → Prop} {Inv : State → Prop}
    (hstep : ∀ s a t, Inv s → guard s a → step s a = some t → guard' s a ∧ Inv t)
    {s t : State} {as : List Action} (hrun : Run step guard s as t) (hs : Inv s) :
    Run step guard' s as t := by
  induction hrun with
  | nil s => exact .nil s
  | cons hguard hfirst _ ih =>
      obtain ⟨hguard', ht⟩ := hstep _ _ _ hs hguard hfirst
      exact .cons hguard' hfirst (ih ht)

/-- Two guards that agree on the steps from states with an invariant, which these steps preserve,
have the same runs. -/
theorem guard_congr_of_invariant {guard' : State → Action → Prop} {Inv : State → Prop}
    (hiff : ∀ s a t, Inv s → step s a = some t → (guard s a ↔ guard' s a))
    (hpres : ∀ s a t, Inv s → guard' s a → step s a = some t → Inv t)
    {s t : State} {as : List Action} (hs : Inv s) :
    Run step guard s as t ↔ Run step guard' s as t := by
  induction as generalizing s with
  | nil =>
      constructor
      · rintro ⟨⟩
        exact .nil t
      · rintro ⟨⟩
        exact .nil t
  | cons a as ih =>
    rw [cons_iff, cons_iff]
    constructor
    · rintro ⟨hguard, u, hstep, hrest⟩
      have hguard' := (hiff s a u hs hstep).mp hguard
      exact ⟨hguard', u, hstep, (ih (hpres s a u hs hguard' hstep)).mp hrest⟩
    · rintro ⟨hguard', u, hstep, hrest⟩
      exact ⟨(hiff s a u hs hstep).mpr hguard', u, hstep,
        (ih (hpres s a u hs hguard' hstep)).mpr hrest⟩

/-- A measure that no step taken under the invariant decreases never decreases along a run. -/
theorem monotone {α : Type*} [Preorder α] {Inv : State → Prop} (measure : State → α)
    (hpres : ∀ s a t, Inv s → guard s a → step s a = some t → Inv t)
    (hle : ∀ s a t, Inv s → guard s a → step s a = some t → measure s ≤ measure t)
    {s t : State} {as : List Action} (hrun : Run step guard s as t) (hs : Inv s) :
    measure s ≤ measure t := by
  induction hrun with
  | nil => exact le_refl _
  | cons hguard hstep _ ih =>
      exact (hle _ _ _ hs hguard hstep).trans (ih (hpres _ _ _ hs hguard hstep))

/-- The refinement rule: an abstract system that follows each guarded step, by a step function
of its own that is never disabled, follows the whole run. -/
theorem refines {Abs : Type*} {absStep : Abs → Action → Abs} {R : State → Abs → Prop}
    (hstep : ∀ s abs a t, R s abs → guard s a → step s a = some t → R t (absStep abs a))
    {s t : State} {as : List Action} (hrun : Run step guard s as t) {abs : Abs} (hs : R s abs) :
    R t (as.foldl absStep abs) := by
  induction hrun generalizing abs with
  | nil => exact hs
  | cons hguard hfirst _ ih => exact ih (hstep _ _ _ _ hs hguard hfirst)

end Run

def exec (step : State → Action → Option State) : State → List Action → Option State
  | s, [] => some s
  | s, a :: as => (step s a).bind fun t => exec step t as

/-- The step function that also refuses what `check` does not allow. -/
def checked (step : State → Action → Option State) (check : State → Action → Bool) (s : State)
    (a : Action) : Option State :=
  if check s a then step s a else none

/-- An executed list of checked actions is a run whose steps meet what the check decides. -/
theorem Run.of_exec_checked (check : State → Action → Bool)
    (hcheck : ∀ s a, check s a → guard s a) {s t : State} {as : List Action}
    (hexec : exec (checked step check) s as = some t) : Run step guard s as t := by
  induction as generalizing s with
  | nil =>
      obtain rfl : s = t := by simpa [exec] using hexec
      exact .nil s
  | cons a as ih =>
      obtain ⟨u, hstep, hrest⟩ := Option.bind_eq_some_iff.mp hexec
      obtain ⟨hallowed, hstep⟩ := Option.ite_none_right_eq_some.mp hstep
      exact .cons (hcheck s a hallowed) hstep (ih hrest)

theorem Run.of_exec {s t : State} {as : List Action} (hexec : exec step s as = some t) :
    Run step anyStep s as t :=
  .of_exec_checked (fun _ _ => true) (fun _ _ _ => trivial) hexec

end LabelledRun
