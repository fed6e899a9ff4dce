import Mathlib.Tactic

/-!
# Layout of nested aligned items

Items with an alignment and a size are placed one after the other.  A group starts at a multiple of
its alignment and is padded to one; a repetition places its element again and again.
-/

namespace AlignedLayout

open List

/-- The next multiple of `alignment` from `value` on. -/
def alignUp (alignment value : Nat) : Nat := alignment * ((value + alignment - 1) / alignment)

section AlignUp

variable {alignment value bound base : Nat}

theorem dvd_alignUp (alignment value : Nat) : alignment ∣ alignUp alignment value :=
  Dvd.intro _ rfl

theorem le_alignUp (value : Nat) (hpos : 0 < alignment) : value ≤ alignUp alignment value := by
  have hmod := Nat.mod_add_div (value + alignment - 1) alignment
  have hlt := Nat.mod_lt (value + alignment - 1) hpos
  unfold alignUp
  omega

theorem alignUp_le (hpos : 0 < alignment) (hvalue : value ≤ bound) (hbound : alignment ∣ bound) :
    alignUp alignment value ≤ bound := by
  obtain ⟨quotient, rfl⟩ := hbound
  apply Nat.mul_le_mul_left
  apply Nat.le_of_lt_succ
  rw [Nat.div_lt_iff_lt_mul hpos, Nat.mul_comm, Nat.mul_succ]
  omega

theorem alignUp_of_dvd (hpos : 0 < alignment) (hvalue : alignment ∣ value) :
    alignUp alignment value = value :=
  le_antisymm (alignUp_le hpos le_rfl hvalue) (le_alignUp value hpos)

theorem alignUp_add (value : Nat) (hpos : 0 < alignment) (hbase : alignment ∣ base) :
    alignUp alignment (base + value) = base + alignUp alignment value := by
  obtain ⟨quotient, rfl⟩ := hbase
  unfold alignUp
  rw [Nat.add_assoc, Nat.add_sub_assoc (by omega), Nat.mul_add_div hpos, Nat.mul_add]

end AlignUp

structure Step (α : Type*) where
  tag : α
  alignment : Nat
  size : Nat

structure PlacedItem (α : Type*) where
  tag : α
  start : Nat
  finish : Nat

variable {α : Type*}

def Step.place (step : Step α) (offset : Nat) : PlacedItem α :=
  { tag := step.tag
    start := alignUp step.alignment offset
    finish := alignUp step.alignment offset + step.size }

def layout : List (Step α) → Nat → List (PlacedItem α)
  | [], _ => []
  | step :: steps, offset => step.place offset :: layout steps (step.place offset).finish

def finalOffset : List (Step α) → Nat → Nat
  | [], offset => offset
  | step :: steps, offset => finalOffset steps (step.place offset).finish

theorem layout_append (steps steps' : List (Step α)) (offset : Nat) :
    layout (steps ++ steps') offset =
      layout steps offset ++ layout steps' (finalOffset steps offset) := by
  induction steps generalizing offset with
  | nil => rfl
  | cons step steps ih => simp [layout, finalOffset, ih]

theorem finalOffset_append (steps steps' : List (Step α)) (offset : Nat) :
    finalOffset (steps ++ steps') offset = finalOffset steps' (finalOffset steps offset) := by
  induction steps generalizing offset with
  | nil => rfl
  | cons step steps ih => exact ih _

/-- What a placed item owes to the step that places it. -/
structure Places (step : Step α) (placed : PlacedItem α) : Prop where
  tag : placed.tag = step.tag
  aligned : step.alignment ∣ placed.start
  finish : placed.finish = placed.start + step.size

theorem places_place (step : Step α) (offset : Nat) : Places step (step.place offset) :=
  ⟨rfl, dvd_alignUp _ _, rfl⟩

variable {offset : Nat}

section

variable {steps : List (Step α)}

theorem exists_step_of_mem_layout {placed : PlacedItem α}
    (hmem : placed ∈ layout steps offset) : ∃ step ∈ steps, Places step placed := by
  induction steps generalizing offset with
  | nil => contradiction
  | cons step steps ih =>
      rcases mem_cons.mp hmem with rfl | hmem
      · exact ⟨step, mem_cons_self, places_place step offset⟩
      · obtain ⟨step', hstep', hplaces⟩ := ih hmem
        exact ⟨step', mem_cons_of_mem step hstep', hplaces⟩

theorem le_start_of_mem_layout (hpos : ∀ step ∈ steps, 0 < step.alignment)
    {placed : PlacedItem α} (hmem : placed ∈ layout steps offset) :
    offset ≤ placed.start := by
  induction steps generalizing offset with
  | nil => contradiction
  | cons step steps ih =>
      have hstep := le_alignUp offset (hpos step mem_cons_self)
      rcases mem_cons.mp hmem with rfl | hmem
      · exact hstep
      · have hrest := ih (fun s hs => hpos s (mem_cons_of_mem step hs)) hmem
        exact hstep.trans ((Nat.le_add_right _ _).trans hrest)

theorem layout_pairwise (hpos : ∀ step ∈ steps, 0 < step.alignment)
    (offset : Nat) :
    (layout steps offset).Pairwise fun placed placed' => placed.finish ≤ placed'.start := by
  induction steps generalizing offset with
  | nil => exact List.Pairwise.nil
  | cons step steps ih =>
      have hrest : ∀ s ∈ steps, 0 < s.alignment := fun s hs => hpos s (mem_cons_of_mem step hs)
      apply List.Pairwise.cons
      · intro placed hmem
        exact le_start_of_mem_layout hrest hmem
      · exact ih hrest _

theorem le_finalOffset (hpos : ∀ step ∈ steps, 0 < step.alignment)
    (offset : Nat) : offset ≤ finalOffset steps offset := by
  induction steps generalizing offset with
  | nil => exact le_rfl
  | cons step steps ih =>
      calc offset ≤ alignUp step.alignment offset := le_alignUp _ (hpos step mem_cons_self)
        _ ≤ (step.place offset).finish := Nat.le_add_right _ _
        _ ≤ finalOffset steps _ := ih (fun s hs => hpos s (mem_cons_of_mem step hs)) _

theorem finish_le_finalOffset
    (hpos : ∀ step ∈ steps, 0 < step.alignment) {placed : PlacedItem α}
    (hmem : placed ∈ layout steps offset) : placed.finish ≤ finalOffset steps offset := by
  induction steps generalizing offset with
  | nil => contradiction
  | cons step steps ih =>
      have hrest : ∀ s ∈ steps, 0 < s.alignment := fun s hs => hpos s (mem_cons_of_mem step hs)
      rcases mem_cons.mp hmem with rfl | hmem
      · exact le_finalOffset hrest _
      · exact ih hrest hmem

end

inductive Shape (α : Type*)
  | item (tag : α) (alignment size : Nat)
  | group (enter leave : α) (alignment : Nat) (members : List (Shape α))
  | repeated (count : Nat) (element : Shape α)

namespace Shape

def alignment : Shape α → Nat
  | item _ alignment _ => alignment
  | group _ _ alignment _ => alignment
  | repeated _ element => element.alignment

mutual

def size : Shape α → Nat
  | item _ _ size => size
  | group _ _ alignment members => alignUp alignment (membersEnd members 0)
  | repeated count element => count * element.size

/-- The end of members that are placed from `offset` on. -/
def membersEnd : List (Shape α) → Nat → Nat
  | [], offset => offset
  | member :: members, offset =>
      membersEnd members (alignUp member.alignment offset + member.size)

end

mutual

/-- The layout of a shape at its base offset: members follow each other from the base of their
group, and the elements of a repetition are one element size apart. -/
def place : Shape α → Nat → List (PlacedItem α)
  | item tag _ size, base => [⟨tag, base, base + size⟩]
  | group enter leave alignment members, base =>
      let last := base + alignUp alignment (membersEnd members 0)
      ⟨enter, base, base⟩ :: (placeMembers members base 0 ++ [⟨leave, last, last⟩])
  | repeated count element, base =>
      (List.range count).flatMap fun index => element.place (base + index * element.size)

/-- The layout of members, `offset` into their group. -/
def placeMembers : List (Shape α) → Nat → Nat → List (PlacedItem α)
  | [], _, _ => []
  | member :: members, base, offset =>
      member.place (base + alignUp member.alignment offset) ++
        placeMembers members base (alignUp member.alignment offset + member.size)

end

mutual

def steps : Shape α → List (Step α)
  | item tag alignment size => [⟨tag, alignment, size⟩]
  | group enter leave alignment members =>
      ⟨enter, alignment, 0⟩ :: (membersSteps members ++ [⟨leave, alignment, 0⟩])
  | repeated count element => (List.replicate count element.steps).flatten

def membersSteps : List (Shape α) → List (Step α)
  | [] => []
  | member :: members => member.steps ++ membersSteps members

end

mutual

/-- Alignments are positive, that of a group is a multiple of its members' alignments, and the size
of a repeated element is a multiple of its alignment. -/
def WellFormed : Shape α → Prop
  | item _ alignment _ => 0 < alignment
  | group _ _ alignment members => 0 < alignment ∧ WellFormedMembers alignment members
  | repeated count element =>
      0 < count ∧ element.alignment ∣ element.size ∧ element.WellFormed

def WellFormedMembers (alignment : Nat) : List (Shape α) → Prop
  | [] => True
  | member :: members =>
      member.alignment ∣ alignment ∧ member.WellFormed ∧ WellFormedMembers alignment members

end

theorem alignment_pos : (shape : Shape α) → shape.WellFormed → 0 < shape.alignment
  | item _ _ _, hwell => hwell
  | group _ _ _ _, hwell => hwell.1
  | repeated _ element, hwell => alignment_pos element hwell.2.2

/-- Elements placed in sequence from an aligned offset are one element size apart. -/
theorem layout_replicate {steps : List (Step α)} {place : Nat → List (PlacedItem α)}
    {alignment size : Nat} (hpos : 0 < alignment) (hsize : alignment ∣ size)
    (hplace : ∀ offset, layout steps offset = place (alignUp alignment offset) ∧
      finalOffset steps offset = alignUp alignment offset + size)
    (count : Nat) {base : Nat} (hbase : alignment ∣ base) :
    layout (List.replicate count steps).flatten base =
        (List.range count).flatMap (fun index => place (base + index * size)) ∧
      finalOffset (List.replicate count steps).flatten base = base + count * size := by
  induction count with
  | zero => simp [layout, finalOffset]
  | succ count ih =>
    have hlast : alignUp alignment (base + count * size) = base + count * size :=
      alignUp_of_dvd hpos (Nat.dvd_add hbase (hsize.mul_left count))
    rw [replicate_succ', flatten_append, layout_append, finalOffset_append, ih.1, ih.2,
      flatten_singleton, (hplace _).1, (hplace _).2, hlast, range_succ,
      flatMap_append, flatMap_singleton]
    exact ⟨rfl, by rw [Nat.succ_mul, Nat.add_assoc]⟩

/-- A repetition starts at the first multiple of its alignment. -/
theorem layout_replicate_of_pos {steps : List (Step α)} {place : Nat → List (PlacedItem α)}
    {alignment size : Nat} (hpos : 0 < alignment) (hsize : alignment ∣ size)
    (hplace : ∀ offset, layout steps offset = place (alignUp alignment offset) ∧
      finalOffset steps offset = alignUp alignment offset + size)
    {count : Nat} (hcount : 0 < count) (offset : Nat) :
    layout (List.replicate count steps).flatten offset = (List.range count).flatMap
          (fun index => place (alignUp alignment offset + index * size)) ∧
      finalOffset (List.replicate count steps).flatten offset =
        alignUp alignment offset + count * size := by
  have hbase := dvd_alignUp alignment offset
  have hself : alignUp alignment (alignUp alignment offset) = alignUp alignment offset :=
    alignUp_of_dvd hpos hbase
  have hlayout : layout steps offset = layout steps (alignUp alignment offset) := by
    rw [(hplace _).1, (hplace _).1, hself]
  have hfinal : finalOffset steps offset = finalOffset steps (alignUp alignment offset) := by
    rw [(hplace _).2, (hplace _).2, hself]
  obtain ⟨rest, rfl⟩ := Nat.exists_eq_add_of_lt hcount
  rw [← (layout_replicate hpos hsize hplace _ hbase).1,
    ← (layout_replicate hpos hsize hplace _ hbase).2]
  simp [replicate_succ, layout_append, finalOffset_append, hlayout, hfinal]

mutual

/-- Placing the items of a shape in sequence is placing it at the next multiple of its alignment. -/
theorem layout_steps : (shape : Shape α) → shape.WellFormed → (offset : Nat) →
    layout shape.steps offset = shape.place (alignUp shape.alignment offset) ∧
      finalOffset shape.steps offset = alignUp shape.alignment offset + shape.size
  | item tag alignment size, _, offset => by
      simp [steps, layout, finalOffset, place, Step.place, Shape.alignment, Shape.size]
  | group enter leave alignment members, hwell, offset => by
      have hbase := dvd_alignUp alignment offset
      have hmembers := layout_membersSteps members hwell.1 hwell.2 hbase 0
      simp only [steps, layout, finalOffset, place, Shape.alignment, Shape.size, Step.place,
        layout_append, finalOffset_append, Nat.add_zero] at hmembers ⊢
      rw [hmembers.1, hmembers.2, alignUp_add _ hwell.1 hbase]
      exact ⟨rfl, rfl⟩
  | repeated count element, hwell, offset => by
      have helement := layout_steps element hwell.2.2
      exact layout_replicate_of_pos (alignment_pos element hwell.2.2) hwell.2.1 helement hwell.1
        offset

theorem layout_membersSteps : (members : List (Shape α)) → {alignment : Nat} → 0 < alignment →
    WellFormedMembers alignment members → {base : Nat} → alignment ∣ base → (offset : Nat) →
    layout (membersSteps members) (base + offset) = placeMembers members base offset ∧
      finalOffset (membersSteps members) (base + offset) = base + membersEnd members offset
  | [], _, _, _, _, _, _ => ⟨rfl, rfl⟩
  | member :: members, alignment, hpos, hwell, base, hbase, offset => by
      have hmember := layout_steps member hwell.2.1 (base + offset)
      have hrest := layout_membersSteps members hpos hwell.2.2 hbase
        (alignUp member.alignment offset + member.size)
      rw [alignUp_add offset (alignment_pos member hwell.2.1) (hwell.1.trans hbase)] at hmember
      simp [membersSteps, placeMembers, membersEnd, layout_append, finalOffset_append, hmember.1,
        hmember.2, Nat.add_assoc, hrest.1, hrest.2]

end

end Shape

end AlignedLayout
