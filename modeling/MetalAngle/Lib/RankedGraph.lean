import Mathlib.Logic.Relation

/-!
# Ranks, chains and reachability in graphs

A rank that falls along every edge rules out cycles.  Chains of edges and what can be reached are
the same in two graphs of which one simulates the other.
-/

namespace RankedGraph

variable {V : Type*} {edge : V → V → Prop}

inductive ChainFrom (edge : V → V → Prop) : V → Nat → Prop
  | stop (v : V) : ChainFrom edge v 0
  | step {v w : V} {n : Nat} : edge v w → ChainFrom edge w n → ChainFrom edge v (n + 1)

variable {v : V}

theorem rank_lt_of_transGen {rank : V → Nat} {S : V → Prop}
    (hrank : ∀ v w, S v → edge v w → S w ∧ rank w < rank v) {w : V} (hv : S v)
    (h : Relation.TransGen edge v w) : S w ∧ rank w < rank v := by
  induction h with
  | single hedge => exact hrank _ _ hv hedge
  | tail _ hedge ih =>
      obtain ⟨hw, hlt⟩ := hrank _ _ ih.1 hedge
      exact ⟨hw, Nat.lt_trans hlt ih.2⟩

/-- Where a rank falls along the edges no vertex reaches itself. -/
theorem not_transGen_self {rank : V → Nat} {S : V → Prop}
    (hrank : ∀ v w, S v → edge v w → S w ∧ rank w < rank v) (hv : S v) :
    ¬ Relation.TransGen edge v v :=
  fun h => Nat.lt_irrefl _ (rank_lt_of_transGen hrank hv h).2

theorem chainFrom_succ_iff (v : V) (n : Nat) :
    ChainFrom edge v (n + 1) ↔ ∃ w, edge v w ∧ ChainFrom edge w n := by
  constructor
  · intro hchain
    cases hchain with
    | step hedge hrest => exact ⟨_, hedge, hrest⟩
  · exact fun ⟨w, hedge, hrest⟩ => .step hedge hrest

/-- A map is a bisimulation on a set if the edges from its vertices are those from their images. -/
structure Simulates {W : Type*} (edge : V → V → Prop) (edge' : W → W → Prop) (S : V → Prop)
    (φ : V → W) : Prop where
  forth : ∀ v w, S v → edge v w → S w ∧ edge' (φ v) (φ w)
  back : ∀ v w', S v → edge' (φ v) w' → ∃ w, edge v w ∧ φ w = w'

namespace Simulates

variable {W : Type*} {edge' : W → W → Prop} {S : V → Prop} {φ : V → W}

theorem chainFrom_iff (h : Simulates edge edge' S φ) (hv : S v) (n : Nat) :
    ChainFrom edge' (φ v) n ↔ ChainFrom edge v n := by
  induction n generalizing v with
  | zero => exact iff_of_true (.stop _) (.stop v)
  | succ n ih =>
    rw [chainFrom_succ_iff, chainFrom_succ_iff]
    constructor
    · rintro ⟨w', hedge, hrest⟩
      obtain ⟨w, hedge', rfl⟩ := h.back v w' hv hedge
      exact ⟨w, hedge', (ih (h.forth v w hv hedge').1).mp hrest⟩
    · rintro ⟨w, hedge, hrest⟩
      obtain ⟨hw, hedge'⟩ := h.forth v w hv hedge
      exact ⟨φ w, hedge', (ih hw).mpr hrest⟩

theorem reflTransGen_iff (h : Simulates edge edge' S φ) (hv : S v) (w' : W) :
    Relation.ReflTransGen edge' (φ v) w' ↔
      ∃ w, S w ∧ Relation.ReflTransGen edge v w ∧ φ w = w' := by
  constructor
  · intro hreach
    induction hreach with
    | refl => exact ⟨v, hv, .refl, rfl⟩
    | tail _ hedge ih =>
        obtain ⟨w, hw, hreach, rfl⟩ := ih
        obtain ⟨next, hedge', rfl⟩ := h.back w _ hw hedge
        exact ⟨next, (h.forth w next hw hedge').1, .tail hreach hedge', rfl⟩
  · rintro ⟨w, -, hreach, rfl⟩
    have hboth : S w ∧ Relation.ReflTransGen edge' (φ v) (φ w) := by
      induction hreach with
      | refl => exact ⟨hv, .refl⟩
      | tail _ hedge ih =>
          obtain ⟨hw, hedge'⟩ := h.forth _ _ ih.1 hedge
          exact ⟨hw, .tail ih.2 hedge'⟩
    exact hboth.2

end Simulates

/-- A set with everything that can be reached from a vertex. -/
theorem reflTransGen_mem {S : V → Prop} (hclosed : ∀ v w, S v → edge v w → S w) {w : V}
    (hv : S v) (h : Relation.ReflTransGen edge v w) : S w := by
  induction h with
  | refl => exact hv
  | tail _ hedge ih => exact hclosed _ _ ih hedge

end RankedGraph
