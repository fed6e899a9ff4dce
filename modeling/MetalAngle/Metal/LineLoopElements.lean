import MetalAngle.Lib.Segments
import MetalAngle.Metal.TriFanElements

/-!
# `GenLineLoopFromClientElements`: line-loop indices from client index arrays

The function writes the indices of a line strip that draws line loops: at the end of a loop its first
index is written once more.  With primitive restart enabled a restart index ends a loop.
-/

namespace MetalAngle.Metal

open List Segments DstSlots
open Function (update update_self update_of_ne)

variable {w : Nat}

/-- The variables that the loop with primitive restart carries from one index to the next. -/
structure LoopCursor (w : Nat) where
  lineLoopFirstIdx : BitVec w
  lineLoopFirstIdxLoc : Nat
  dst : DstSlots
  dstWritten : Nat

namespace LoopCursor

/-- `memcpy(&dstPtr[dstWritten++], &dstIdx, sizeof(dstIdx))`. -/
def write (c : LoopCursor w) (dstIdx : BitVec 32) : LoopCursor w :=
  { c with dst := c.dst.put c.dstWritten dstIdx, dstWritten := c.dstWritten + 1 }

/-- The body of the loop with primitive restart, at source position `i`. -/
def step (c : LoopCursor w) (i : Nat) (srcIdx : BitVec w) : LoopCursor w :=
  if srcIdx = kPrimitiveRestartIndex w then
    { (c.write (c.lineLoopFirstIdx.setWidth 32)).write (kPrimitiveRestartIndex 32) with
      lineLoopFirstIdxLoc := i + 1 }
  else
    { c.write (srcIdx.setWidth 32) with
      lineLoopFirstIdx := if c.lineLoopFirstIdxLoc = i then srcIdx else c.lineLoopFirstIdx }

def loop (c : LoopCursor w) (i : Nat) : List (BitVec w) → LoopCursor w
  | [] => c
  | srcIdx :: rest => (c.step i srcIdx).loop (i + 1) rest

def finish (c : LoopCursor w) (count : Nat) : LoopCursor w :=
  if c.lineLoopFirstIdxLoc < count then c.write (c.lineLoopFirstIdx.setWidth 32) else c

end LoopCursor

/-- The loop without primitive restart, from source position `i` on. -/
def putIndices (dst : DstSlots) (i : Nat) : List (BitVec w) → DstSlots
  | [] => dst
  | srcIdx :: rest => putIndices (dst.put i (srcIdx.setWidth 32)) (i + 1) rest

/-- The slots from `dstPtr` on and `indicesGenerated`. -/
def genLineLoopFromClientElements (primitiveRestartEnabled : Bool) (indices : List (BitVec w)) :
    Except FanFault (DstSlots × Nat) := do
  let count := indices.length
  if primitiveRestartEnabled then
    let (dst, lineLoopFirstIdxLoc, lineLoopFirstIdx) ←
      skipLeadingRestarts (fun _ => none) 0 indices
    let cursor : LoopCursor w :=
      { lineLoopFirstIdx, lineLoopFirstIdxLoc
        dst := dst.put lineLoopFirstIdxLoc (lineLoopFirstIdx.setWidth 32)
        dstWritten := lineLoopFirstIdxLoc + 1 }
    let cursor := (cursor.loop (lineLoopFirstIdxLoc + 1)
      (indices.drop (lineLoopFirstIdxLoc + 1))).finish count
    return (cursor.dst, cursor.dstWritten)
  else
    let lineLoopFirstIdx ← readIndex indices 0
    let dst := (DstSlots.put (fun _ => none) 0 (lineLoopFirstIdx.setWidth 32)).put count
      (lineLoopFirstIdx.setWidth 32)
    return (putIndices dst 1 (indices.drop 1), count + 1)

/-! ## What the written slots draw -/

abbrev widenEdge (edge : BitVec w × BitVec w) : BitVec 32 × BitVec 32 :=
  Prod.map (·.setWidth 32) (·.setWidth 32) edge

/-- The destination means what GL says of the source indices: `indicesGenerated` slots are written,
at most two for each index, and as a line strip with restart they draw the closed loop of each
segment, in order. -/
structure MeetsLineLoops (indices : List (BitVec w)) (dst : DstSlots) (indicesGenerated : Nat)
    (values : List (BitVec 32)) : Prop where
  written : ∀ slot, dst slot = values[slot]?
  reported : indicesGenerated = values.length
  fits : values.length ≤ 2 * indices.length
  drawn : Segments.drawn Segments.stripEdges (kPrimitiveRestartIndex 32) values =
    (Segments.drawn Segments.loopEdges (kPrimitiveRestartIndex w) indices).map
      widenEdge

/-! ## The loop -/

/-- The cursor has written these values. -/
def LoopCursor.Holds (c : LoopCursor w) (values : List (BitVec 32)) : Prop :=
  (∀ slot, c.dst slot = values[slot]?) ∧ c.dstWritten = values.length

theorem LoopCursor.Holds.write {c : LoopCursor w} {values : List (BitVec 32)}
    (h : c.Holds values) (dstIdx : BitVec 32) : (c.write dstIdx).Holds (values ++ [dstIdx]) := by
  obtain ⟨hslots, hlength⟩ := h
  refine ⟨fun slot => ?_, by rw [length_append, ← hlength]; rfl⟩
  show update c.dst c.dstWritten (some dstIdx) slot = _
  rw [hlength]
  by_cases hslot : slot = values.length
  · rw [hslot, update_self, getElem?_concat_length]
  · rw [update_of_ne hslot, hslots]
    rcases Nat.lt_or_gt_of_ne hslot with hlt | hgt
    · exact (getElem?_append_left hlt).symm
    · rw [getElem?_eq_none (by omega), getElem?_eq_none]
      rw [length_append, length_singleton]
      omega

/-- What has been written of the source indices `pre`.  Either a restart index has ended the last
loop, or the loop from `first` on is still open. -/
inductive Written (pre : List (BitVec w)) (c : LoopCursor w) (values : List (BitVec 32)) : Prop
  | ended :
      Segments.Closed (kPrimitiveRestartIndex w) pre → c.lineLoopFirstIdxLoc = pre.length →
      Segments.Closed (kPrimitiveRestartIndex 32) values →
      Segments.drawn Segments.stripEdges (kPrimitiveRestartIndex 32) values =
        (Segments.drawn Segments.loopEdges (kPrimitiveRestartIndex w) pre).map
          widenEdge →
      Written pre c values
  | running (before mid : List (BitVec w)) (valuesBefore : List (BitVec 32)) :
      pre = before ++ c.lineLoopFirstIdx :: mid →
      values = valuesBefore ++ (c.lineLoopFirstIdx :: mid).map (·.setWidth 32) →
      kPrimitiveRestartIndex w ∉ c.lineLoopFirstIdx :: mid →
      c.lineLoopFirstIdxLoc = before.length →
      Segments.Closed (kPrimitiveRestartIndex w) before →
      Segments.Closed (kPrimitiveRestartIndex 32) valuesBefore →
      Segments.drawn Segments.stripEdges (kPrimitiveRestartIndex 32) valuesBefore =
        (Segments.drawn Segments.loopEdges (kPrimitiveRestartIndex w) before).map
          widenEdge →
      Written pre c values

/-- The invariant of the loop with primitive restart, after the source indices `pre`. -/
structure LoopInv (pre : List (BitVec w)) (c : LoopCursor w) (values : List (BitVec 32)) : Prop where
  holds : c.Holds values
  first_ne : c.lineLoopFirstIdx ≠ kPrimitiveRestartIndex w
  room : values.length + 1 ≤ 2 * pre.length
  written : Written pre c values

theorem restart_notMem_map (hw : w ≤ 32) {seg : List (BitVec w)}
    (hseg : kPrimitiveRestartIndex w ∉ seg) :
    kPrimitiveRestartIndex 32 ∉ seg.map (·.setWidth 32) := by
  intro hmem
  obtain ⟨index, hindex, heq⟩ := mem_map.mp hmem
  refine setWidth_ne_restart hw ?_ heq
  rintro rfl
  exact hseg hindex

theorem drawn_close (hw : w ≤ 32) {before mid : List (BitVec w)} {first : BitVec w}
    {valuesBefore : List (BitVec 32)}
    (hseg : kPrimitiveRestartIndex w ∉ first :: mid)
    (hbefore : Segments.Closed (kPrimitiveRestartIndex w) before)
    (hvalues : Segments.Closed (kPrimitiveRestartIndex 32) valuesBefore)
    (hdrawn : Segments.drawn Segments.stripEdges (kPrimitiveRestartIndex 32) valuesBefore =
      (Segments.drawn Segments.loopEdges (kPrimitiveRestartIndex w) before).map
        widenEdge) :
    Segments.drawn Segments.stripEdges (kPrimitiveRestartIndex 32)
        (valuesBefore ++ (first :: mid ++ [first]).map (·.setWidth 32)) =
      (Segments.drawn Segments.loopEdges (kPrimitiveRestartIndex w) (before ++ first :: mid)).map
        widenEdge := by
  have hloop : kPrimitiveRestartIndex w ∉ first :: mid ++ [first] := by
    intro hmem
    rcases mem_append.mp hmem with hin | hfirst
    · exact hseg hin
    · exact hseg (mem_singleton.mp hfirst ▸ mem_cons_self)
  rw [drawn_append_segment rfl hvalues (restart_notMem_map hw hloop),
    drawn_append_segment rfl hbefore hseg, hdrawn, stripEdges_map,
    map_append]
  rfl

/-- A restart index closes the open loop.  Behind another restart index it only repeats the first
index of a loop that has been closed, which draws nothing. -/
theorem loopInv_restart (hw : w ≤ 32) {pre : List (BitVec w)} {c : LoopCursor w}
    {values : List (BitVec 32)} (h : LoopInv pre c values) :
    LoopInv (pre ++ [kPrimitiveRestartIndex w]) (c.step pre.length (kPrimitiveRestartIndex w))
      (values ++ [c.lineLoopFirstIdx.setWidth 32] ++ [kPrimitiveRestartIndex 32]) := by
  have hfirst := setWidth_ne_restart hw h.first_ne
  have hroom := h.room
  unfold LoopCursor.step
  rw [if_pos rfl]
  refine ⟨((h.holds.write _).write _), h.first_ne, ?_, .ended (closed_concat _) ?_
    (closed_concat _) ?_⟩
  · simp only [length_append, length_singleton]
    omega
  · rw [length_append, length_singleton]
  · rw [drawn_append_restart rfl, drawn_append_restart rfl]
    cases h.written with
    | ended _ _ hclosed hdrawn =>
        have hsingle : kPrimitiveRestartIndex 32 ∉ [c.lineLoopFirstIdx.setWidth 32] :=
          fun hmem => hfirst (mem_singleton.mp hmem).symm
        rw [drawn_append_segment rfl hclosed hsingle, hdrawn]
        exact append_nil _
    | running before mid valuesBefore hpre hvalues hseg _ hbefore hclosed hdrawn =>
        have hclose := drawn_close hw hseg hbefore hclosed hdrawn
        rw [map_append, ← append_assoc, ← hvalues] at hclose
        rw [hpre]
        exact hclose

theorem loopInv_index {pre : List (BitVec w)} {c : LoopCursor w} {values : List (BitVec 32)}
    (h : LoopInv pre c values) {srcIdx : BitVec w} (hne : srcIdx ≠ kPrimitiveRestartIndex w) :
    LoopInv (pre ++ [srcIdx]) (c.step pre.length srcIdx) (values ++ [srcIdx.setWidth 32]) := by
  have hroom : (values ++ [srcIdx.setWidth 32]).length + 1 ≤ 2 * (pre ++ [srcIdx]).length := by
    have hroom := h.room
    simp only [length_append, length_singleton]
    omega
  have hholds := h.holds.write (srcIdx.setWidth 32)
  unfold LoopCursor.step
  rw [if_neg hne]
  cases h.written with
  | ended hpre hloc hvalues hdrawn =>
      rw [if_pos hloc]
      refine ⟨hholds, hne, hroom, .running pre [] values rfl rfl ?_ hloc hpre hvalues hdrawn⟩
      exact fun hmem => hne (mem_singleton.mp hmem).symm
  | running before mid valuesBefore hpre hvalues hseg hloc hbefore hclosed hdrawn =>
    have hearlier : c.lineLoopFirstIdxLoc ≠ pre.length := by
      rw [hloc, hpre, length_append, length_cons]
      omega
    rw [if_neg hearlier]
    refine ⟨hholds, h.first_ne, hroom, .running before (mid ++ [srcIdx]) valuesBefore ?_ ?_ ?_ hloc
      hbefore hclosed hdrawn⟩
    · show pre ++ [srcIdx] = before ++ c.lineLoopFirstIdx :: (mid ++ [srcIdx])
      rw [hpre, append_assoc, cons_append]
    · show values ++ [srcIdx.setWidth 32] =
        valuesBefore ++ (c.lineLoopFirstIdx :: (mid ++ [srcIdx])).map (·.setWidth 32)
      rw [hvalues, append_assoc, ← cons_append, map_append]
      rfl
    · show kPrimitiveRestartIndex w ∉ c.lineLoopFirstIdx :: (mid ++ [srcIdx])
      rw [← cons_append]
      intro hmem
      rcases mem_append.mp hmem with hin | hlast
      · exact hseg hin
      · exact hne (mem_singleton.mp hlast).symm

theorem loopInv_loop (hw : w ≤ 32) {pre : List (BitVec w)} {c : LoopCursor w}
    {values : List (BitVec 32)} (rest : List (BitVec w)) (h : LoopInv pre c values) :
    ∃ values', LoopInv (pre ++ rest) (c.loop pre.length rest) values' := by
  induction rest generalizing pre c values with
  | nil => exact ⟨values, by rwa [append_nil]⟩
  | cons srcIdx rest ih =>
    have hstep : ∃ values', LoopInv (pre ++ [srcIdx]) (c.step pre.length srcIdx) values' := by
      by_cases hsrc : srcIdx = kPrimitiveRestartIndex w
      · rw [hsrc]
        exact ⟨_, loopInv_restart hw h⟩
      · exact ⟨_, loopInv_index h hsrc⟩
    obtain ⟨values', hvalues'⟩ := hstep
    have hrest := ih hvalues'
    rw [length_append, length_singleton, append_assoc,
      singleton_append] at hrest
    exact hrest

/-- The last loop is closed where no restart index has ended it. -/
theorem meets_finish (hw : w ≤ 32) {indices : List (BitVec w)} {c : LoopCursor w}
    {values : List (BitVec 32)} (h : LoopInv indices c values) :
    ∃ values', MeetsLineLoops indices (c.finish indices.length).dst
      (c.finish indices.length).dstWritten values' := by
  have hroom := h.room
  unfold LoopCursor.finish
  cases h.written with
  | ended _ hloc _ hdrawn =>
      rw [if_neg (by omega)]
      exact ⟨values, h.holds.1, h.holds.2, by omega, hdrawn⟩
  | running before mid valuesBefore hpre hvalues hseg hloc hbefore hclosed hdrawn =>
    have hearlier : c.lineLoopFirstIdxLoc < indices.length := by
      rw [hloc, hpre, length_append, length_cons]
      omega
    have hholds := h.holds.write (c.lineLoopFirstIdx.setWidth 32)
    have hclose := drawn_close hw hseg hbefore hclosed hdrawn
    rw [map_append, ← append_assoc, ← hvalues, ← hpre] at hclose
    rw [if_pos hearlier]
    refine ⟨_, hholds.1, hholds.2, ?_, hclose⟩
    rw [length_append, length_singleton]
    exact hroom

/-! ## The whole function -/

/-- The leading restart indices are copied, and the first other index opens a loop. -/
theorem loopInv_start {first : BitVec w} (hfirst : first ≠ kPrimitiveRestartIndex w) (k : Nat) :
    LoopInv (List.replicate k (kPrimitiveRestartIndex w) ++ [first])
      { lineLoopFirstIdx := first
        lineLoopFirstIdxLoc := k
        dst := (fillRestart (fun _ => none) 0 k).put k (first.setWidth 32)
        dstWritten := k + 1 }
      (List.replicate k (kPrimitiveRestartIndex 32) ++ [first.setWidth 32]) := by
  have hleading : (⟨first, k, fillRestart (fun _ => none) 0 k, k⟩ : LoopCursor w).Holds
      (replicate k (kPrimitiveRestartIndex 32)) := by
    refine ⟨fun slot => ?_, length_replicate.symm⟩
    show fillRestart _ 0 k slot = _
    rw [fillRestart_apply, getElem?_replicate]
    exact if_congr (and_iff_right (Nat.zero_le slot)) rfl rfl
  have hdrawn : drawn stripEdges (kPrimitiveRestartIndex 32)
      (replicate k (kPrimitiveRestartIndex 32)) =
        (drawn loopEdges (kPrimitiveRestartIndex w)
          (replicate k (kPrimitiveRestartIndex w))).map widenEdge := by
    rw [drawn_replicate rfl, drawn_replicate rfl]
    rfl
  refine ⟨hleading.write _, hfirst, ?_, .running _ [] _ rfl rfl ?_ length_replicate.symm
    (closed_replicate k) (closed_replicate k) hdrawn⟩
  · simp only [length_append, length_replicate, length_singleton]
    omega
  · exact fun hmem => hfirst (mem_singleton.mp hmem).symm

/-- With primitive restart enabled the function reads no element past the end and does what is
wanted exactly when some index is no restart index. -/
theorem genLineLoop_meets_iff (type : DrawElementsType) {indices : List (BitVec type.bits)} :
    (∃ dst indicesGenerated values,
      genLineLoopFromClientElements true indices = .ok (dst, indicesGenerated) ∧
        MeetsLineLoops indices dst indicesGenerated values) ↔
      ∃ index ∈ indices, index ≠ kPrimitiveRestartIndex type.bits := by
  have hw : type.bits ≤ 32 := by cases type <;> decide
  rcases leadingRestarts indices with hall | ⟨k, first, rest, hfirst, hindices⟩
  · have hskip := skipLeadingRestarts_replicate (w := type.bits) (fun _ => none) 0 indices.length
    rw [← hall] at hskip
    constructor
    · rintro ⟨dst, indicesGenerated, values, hgenerate, -⟩
      unfold genLineLoopFromClientElements at hgenerate
      rw [if_pos rfl, hskip] at hgenerate
      contradiction
    · rintro ⟨index, hindex, hne⟩
      rw [hall] at hindex
      exact absurd (eq_of_mem_replicate hindex) hne
  · refine iff_of_true ?_ ⟨first, ?_, hfirst⟩
    · have hskip := skipLeadingRestarts_append (fun _ => none) 0 k hfirst rest
      have hdrop : indices.drop (k + 1) = rest := by
        rw [hindices, drop_append]
        simp
      obtain ⟨values, hinv⟩ := loopInv_loop hw rest (loopInv_start hfirst k)
      rw [append_assoc, singleton_append, ← hindices, length_append,
        length_replicate, length_singleton] at hinv
      obtain ⟨values', hmeets⟩ := meets_finish hw hinv
      rw [← hindices, Nat.zero_add] at hskip
      refine ⟨_, _, values', ?_, hmeets⟩
      unfold genLineLoopFromClientElements
      rw [if_pos rfl, hskip]
      dsimp only [bind, Except.bind]
      rw [hdrop]
      rfl
    · rw [hindices]
      exact mem_append_right _ mem_cons_self

/-- Two 8-bit restart indices: the element behind them is read. -/
theorem genLineLoop_allRestart :
    let indices : List (BitVec DrawElementsType.UnsignedByte.bits) := [255, 255]
    genLineLoopFromClientElements true indices = .error (.readPastEnd 2) ∧
      ¬ ∃ dst indicesGenerated values,
        genLineLoopFromClientElements true indices = .ok (dst, indicesGenerated) ∧
          MeetsLineLoops indices dst indicesGenerated values := by
  intro indices
  have hfault : genLineLoopFromClientElements true indices = .error (.readPastEnd 2) := rfl
  refine ⟨hfault, ?_⟩
  rintro ⟨dst, indicesGenerated, values, hgenerate, -⟩
  rw [hfault] at hgenerate
  contradiction

/-! ## Without primitive restart -/

end MetalAngle.Metal
