import MetalAngle.Lib.Fan
import MetalAngle.Metal.Utils

/-!
# `GenTriFanFromClientElements`: triangle-fan indices from client index arrays

The function walks the source indices once and writes three 32-bit slots for every
position from the third on.  With primitive restart enabled the slots of an incomplete
triangle hold the restart index.
-/

namespace MetalAngle.Metal

open List Fan Nat Function

/-- The index types of `glDrawElements`; `GenTriFanFromClientElements` is instantiated with
the unsigned integer of the same width. -/
inductive DrawElementsType
  | UnsignedByte
  | UnsignedShort
  | UnsignedInt
deriving DecidableEq

def DrawElementsType.bits : DrawElementsType → Nat
  | .UnsignedByte => 8
  | .UnsignedShort => 16
  | .UnsignedInt => 32

/-- `std::numeric_limits<T>::max()`, the primitive restart index of a `w`-bit index type. -/
abbrev kPrimitiveRestartIndex (w : Nat) : BitVec w := BitVec.allOnes w

/-- The 32-bit slots from `dstPtr` on: what this call has written, `none` where it has not. -/
abbrev DstSlots := Nat → Option (BitVec 32)

def DstSlots.put (dst : DstSlots) (slot : Nat) (index : BitVec 32) : DstSlots :=
  Function.update dst slot (some index)

/-- `memcpy(dstPtr + slot, triIndices, sizeof(triIndices))`. -/
def DstSlots.putTriangle (dst : DstSlots) (slot : Nat)
    (triIndices : BitVec 32 × BitVec 32 × BitVec 32) : DstSlots :=
  ((dst.put slot triIndices.1).put (slot + 1) triIndices.2.1).put (slot + 2) triIndices.2.2

inductive FanFault
  | stop (error : StopError)
  /-- A source element at or past the index count is read. -/
  | readPastEnd (loc : Nat)

variable {w : Nat}

def readIndex (indices : List (BitVec w)) (loc : Nat) : Except FanFault (BitVec w) :=
  match indices[loc]? with
  | some index => .ok index
  | none => .error (.readPastEnd loc)

/-- The loop over leading restart indices.  The list is what is left of `indices` from
`triFirstIdxLoc` on; its head is the `triFirstIdx` that has just been read. -/
def skipLeadingRestarts (dst : DstSlots) (triFirstIdxLoc : Nat) :
    List (BitVec w) → Except FanFault (DstSlots × Nat × BitVec w)
  | [] => .error (.readPastEnd triFirstIdxLoc)
  | triFirstIdx :: rest =>
      if triFirstIdx = kPrimitiveRestartIndex w then
        skipLeadingRestarts (dst.put triFirstIdxLoc (kPrimitiveRestartIndex 32))
          (triFirstIdxLoc + 1) rest
      else
        .ok (dst, triFirstIdxLoc, triFirstIdx)

/-- The loop of the "not enough indices" case: one slot for each `i` from `i` to `count`. -/
def fillRestart (dst : DstSlots) (i count : Nat) : DstSlots :=
  (List.range' i (count - i)).foldl (fun dst i => dst.put i (kPrimitiveRestartIndex 32)) dst

structure FanCursor (w : Nat) where
  triFirstIdx : BitVec w
  triFirstIdxLoc : Nat
  srcPrevIdx : BitVec w
  dst : DstSlots

def restartTriangle : BitVec 32 × BitVec 32 × BitVec 32 :=
  (kPrimitiveRestartIndex 32, kPrimitiveRestartIndex 32, kPrimitiveRestartIndex 32)

/-- The body of the main loop with primitive restart, at source position `i`. -/
def FanCursor.restartStep (c : FanCursor w) (i : Nat) (srcIdx : BitVec w) : FanCursor w :=
  if c.srcPrevIdx = kPrimitiveRestartIndex w ∨ srcIdx = kPrimitiveRestartIndex w then
    { triFirstIdx := srcIdx
      triFirstIdxLoc := i
      srcPrevIdx := srcIdx
      dst := c.dst.putTriangle (3 * (i - 2)) restartTriangle }
  else if i < c.triFirstIdxLoc + 2 then
    { c with
      srcPrevIdx := srcIdx
      dst := c.dst.putTriangle (3 * (i - 2)) restartTriangle }
  else
    { c with
      srcPrevIdx := srcIdx
      dst := c.dst.putTriangle (3 * (i - 2))
        (c.triFirstIdx.setWidth 32, c.srcPrevIdx.setWidth 32, srcIdx.setWidth 32) }

def FanCursor.plainStep (c : FanCursor w) (i : Nat) (srcIdx : BitVec w) : FanCursor w :=
  { c with
    srcPrevIdx := srcIdx
    dst := c.dst.putTriangle (3 * (i - 2))
      (c.triFirstIdx.setWidth 32, c.srcPrevIdx.setWidth 32, srcIdx.setWidth 32) }

/-- A loop of `step` over the source indices from position `i` on. -/
def fanLoop (step : FanCursor w → Nat → BitVec w → FanCursor w) (c : FanCursor w) (i : Nat) :
    List (BitVec w) → FanCursor w
  | [] => c
  | srcIdx :: rest => fanLoop step (step c i srcIdx) (i + 1) rest

def genTriFanFromClientElements (primitiveRestartEnabled : Bool) (indices : List (BitVec w)) :
    Except FanFault DstSlots := do
  let count := indices.length
  let _genIndicesCount ← (getTriangleFanIndicesCount count).mapError .stop
  if primitiveRestartEnabled then
    let (dst, triFirstIdxLoc, triFirstIdx) ← skipLeadingRestarts (fun _ => none) 0 indices
    -- not enough indices: one restart slot for each remaining source index
    let dst := if triFirstIdxLoc + 2 ≥ count then fillRestart dst triFirstIdxLoc count else dst
    let srcPrevIdx ←
      if triFirstIdxLoc + 2 ≥ count then .ok 0
      else if triFirstIdxLoc + 1 < count then readIndex indices (triFirstIdxLoc + 1)
      else .ok 0
    let cursor : FanCursor w := { triFirstIdx, triFirstIdxLoc, srcPrevIdx, dst }
    return (fanLoop .restartStep cursor (triFirstIdxLoc + 2)
      (indices.drop (triFirstIdxLoc + 2))).dst
  else
    let triFirstIdx ← readIndex indices 0
    let srcPrevIdx ← readIndex indices 1
    let cursor : FanCursor w :=
      { triFirstIdx, triFirstIdxLoc := 0, srcPrevIdx, dst := fun _ => none }
    return (fanLoop .plainStep cursor 2 (indices.drop 2)).dst

/-! ## What the written slots draw -/

/-- The triangle in slots `3 * tri` to `3 * tri + 2`, if they are written and are not all
restart indices. -/
def DstSlots.triangle (dst : DstSlots) (tri : Nat) : Option (BitVec 32 × BitVec 32 × BitVec 32) :=
  match dst (3 * tri), dst (3 * tri + 1), dst (3 * tri + 2) with
  | some a, some b, some c => if (a, b, c) = restartTriangle then none else some (a, b, c)
  | _, _, _ => none

/-- The triangles of the first `n` triples, in order. -/
def DstSlots.triangles (dst : DstSlots) (n : Nat) : List (BitVec 32 × BitVec 32 × BitVec 32) :=
  (List.range n).filterMap dst.triangle

def widenTriangle (t : BitVec w × BitVec w × BitVec w) : BitVec 32 × BitVec 32 × BitVec 32 :=
  (t.1.setWidth 32, t.2.1.setWidth 32, t.2.2.setWidth 32)

/-- The destination means what GL says the source indices mean: each of the
`3 * (count - 2)` slots is written, and the triples draw the triangles of the fans that the
restart index cuts the source into, in order. -/
structure MeetsRestartFans (indices : List (BitVec w)) (dst : DstSlots) : Prop where
  written : ∀ slot < 3 * (indices.length - 2), (dst slot).isSome
  drawn : dst.triangles (indices.length - 2) =
    (Fan.withRestart (kPrimitiveRestartIndex w) indices).map widenTriangle

namespace DstSlots

variable {dst : DstSlots}

theorem putTriangle_of_lt {base slot : Nat} (hlt : slot < base)
    (t : BitVec 32 × BitVec 32 × BitVec 32) : dst.putTriangle base t slot = dst slot := by
  rw [putTriangle, put, put, put, update_of_ne (by omega),
    update_of_ne (by omega), update_of_ne (by omega)]

theorem putTriangle_at (dst : DstSlots) (base : Nat) (t : BitVec 32 × BitVec 32 × BitVec 32) :
    dst.putTriangle base t base = some t.1 ∧ dst.putTriangle base t (base + 1) = some t.2.1 ∧
      dst.putTriangle base t (base + 2) = some t.2.2 := by
  simp [putTriangle, put]

theorem triangle_putTriangle_of_lt {n tri : Nat} (hlt : tri < n)
    (t : BitVec 32 × BitVec 32 × BitVec 32) :
    (dst.putTriangle (3 * n) t).triangle tri = dst.triangle tri := by
  rw [triangle, putTriangle_of_lt (by omega), putTriangle_of_lt (by omega),
    putTriangle_of_lt (by omega), triangle]

theorem triangle_putTriangle_self (dst : DstSlots) (n : Nat)
    (t : BitVec 32 × BitVec 32 × BitVec 32) :
    (dst.putTriangle (3 * n) t).triangle n = if t = restartTriangle then none else some t := by
  obtain ⟨h0, h1, h2⟩ := dst.putTriangle_at (3 * n) t
  simp only [triangle, h0, h1, h2]

theorem triangles_putTriangle (dst : DstSlots) (n : Nat) (t : BitVec 32 × BitVec 32 × BitVec 32) :
    (dst.putTriangle (3 * n) t).triangles (n + 1) =
      dst.triangles n ++ if t = restartTriangle then [] else [t] := by
  have hbefore : (range n).filterMap (dst.putTriangle (3 * n) t).triangle =
      (range n).filterMap dst.triangle :=
    filterMap_congr fun tri htri =>
      triangle_putTriangle_of_lt (mem_range.mp htri) t
  rw [triangles, range_succ, filterMap_append, hbefore, triangles]
  congr 1
  by_cases ht : t = restartTriangle
  · simp [triangle_putTriangle_self, ht]
  · simp [triangle_putTriangle_self, ht]

theorem isSome_putTriangle {n : Nat}
    (hwritten : ∀ slot < 3 * n, (dst slot).isSome) (t : BitVec 32 × BitVec 32 × BitVec 32) :
    ∀ slot < 3 * (n + 1), (dst.putTriangle (3 * n) t slot).isSome := by
  intro slot hslot
  obtain ⟨h0, h1, h2⟩ := dst.putTriangle_at (3 * n) t
  by_cases hlt : slot < 3 * n
  · rw [putTriangle_of_lt hlt]
    exact hwritten slot hlt
  · have hcases : slot = 3 * n ∨ slot = 3 * n + 1 ∨ slot = 3 * n + 2 := by omega
    rcases hcases with rfl | rfl | rfl
    · rw [h0]
      rfl
    · rw [h1]
      rfl
    · rw [h2]
      rfl

end DstSlots

/-- Widening keeps an index that is not the restart index of its own type apart from the
32-bit restart index. -/
theorem setWidth_ne_restart (hw : w ≤ 32) {v : BitVec w} (hv : v ≠ kPrimitiveRestartIndex w) :
    v.setWidth 32 ≠ kPrimitiveRestartIndex 32 := by
  intro heq
  have hnat := congrArg BitVec.toNat heq
  have hpow : 2 ^ w ≤ 2 ^ 32 := Nat.pow_le_pow_right (by decide) hw
  rw [BitVec.toNat_setWidth, BitVec.toNat_allOnes, mod_eq_of_lt (by omega)] at hnat
  refine hv (BitVec.eq_of_toNat_eq ?_)
  rw [BitVec.toNat_allOnes]
  omega

/-! ## The main loop -/

/-- How the segment that the loop is in ends, after the source indices `pre`. -/
inductive InSegment (pre : List (BitVec w)) (c : FanCursor w) : Prop
  | interrupted : Fan.Closed (kPrimitiveRestartIndex w) pre →
      c.srcPrevIdx = kPrimitiveRestartIndex w → InSegment pre c
  | opened (before : List (BitVec w)) (v : BitVec w) :
      Fan.Closed (kPrimitiveRestartIndex w) before →
      pre = before ++ [v] → kPrimitiveRestartIndex w ∉ [v] →
      c.triFirstIdx = v → c.srcPrevIdx = v → c.triFirstIdxLoc = before.length → InSegment pre c
  | running (before mid : List (BitVec w)) (first last : BitVec w) :
      Fan.Closed (kPrimitiveRestartIndex w) before →
      pre = before ++ (first :: mid ++ [last]) →
      kPrimitiveRestartIndex w ∉ first :: mid ++ [last] →
      c.triFirstIdx = first → c.srcPrevIdx = last → c.triFirstIdxLoc = before.length →
      InSegment pre c

/-- The invariant of the main loop with primitive restart, after the source indices `pre`. -/
structure RestartInv (pre : List (BitVec w)) (c : FanCursor w) : Prop where
  two_le : 2 ≤ pre.length
  meets : MeetsRestartFans pre c.dst
  segment : InSegment pre c

variable {pre : List (BitVec w)}

theorem meets_putTriangle {dst : DstSlots} {srcIdx : BitVec w}
    {t : BitVec 32 × BitVec 32 × BitVec 32} (htwo : 2 ≤ pre.length)
    (hmeets : MeetsRestartFans pre dst)
    (hnew : (Fan.withRestart (kPrimitiveRestartIndex w) (pre ++ [srcIdx])).map widenTriangle =
      (Fan.withRestart (kPrimitiveRestartIndex w) pre).map widenTriangle ++
        if t = restartTriangle then [] else [t]) :
    MeetsRestartFans (pre ++ [srcIdx]) (dst.putTriangle (3 * (pre.length - 2)) t) := by
  have hlen : (pre ++ [srcIdx]).length - 2 = pre.length - 2 + 1 := by
    rw [length_append, length_singleton]
    omega
  constructor
  · rw [hlen]
    exact DstSlots.isSome_putTriangle hmeets.written t
  · rw [hlen, DstSlots.triangles_putTriangle, hmeets.drawn, hnew]

variable {c : FanCursor w}

theorem restartInv_step (hw : w ≤ 32) (h : RestartInv pre c) (srcIdx : BitVec w) :
    RestartInv (pre ++ [srcIdx]) (c.restartStep pre.length srcIdx) := by
  have htwo : 2 ≤ (pre ++ [srcIdx]).length := by
    rw [length_append]
    exact h.two_le.trans (le_add_right _ _)
  by_cases hsrc : srcIdx = kPrimitiveRestartIndex w
  · -- the segment, if there is one, is interrupted here
    have hstep : c.restartStep pre.length srcIdx =
        { triFirstIdx := srcIdx, triFirstIdxLoc := pre.length, srcPrevIdx := srcIdx
          dst := c.dst.putTriangle (3 * (pre.length - 2)) restartTriangle } :=
      if_pos (Or.inr hsrc)
    rw [hstep]
    refine ⟨htwo, meets_putTriangle h.two_le h.meets ?_,
      .interrupted (.inr ⟨pre, by rw [hsrc]⟩) hsrc⟩
    rw [hsrc, withRestart_append_restart, if_pos rfl, append_nil]
  · have hnotMem : kPrimitiveRestartIndex w ∉ [srcIdx] := by simpa using Ne.symm hsrc
    cases h.segment with
    | interrupted hclosed hprev =>
      -- the index starts a new segment
      have hstep : c.restartStep pre.length srcIdx =
          { triFirstIdx := srcIdx, triFirstIdxLoc := pre.length, srcPrevIdx := srcIdx
            dst := c.dst.putTriangle (3 * (pre.length - 2)) restartTriangle } :=
        if_pos (Or.inl hprev)
      rw [hstep]
      refine ⟨htwo, meets_putTriangle h.two_le h.meets ?_,
        .opened pre srcIdx hclosed rfl hnotMem rfl rfl rfl⟩
      rw [withRestart_append_segment hclosed hnotMem, triangles_singleton, if_pos rfl,
        append_nil, append_nil]
    | opened before v hclosed hpre hv hfirst hprev hloc =>
      -- the second vertex of a segment draws nothing
      have hpair : kPrimitiveRestartIndex w ∉ v :: [] ++ [srcIdx] := by
        simp only [cons_append, nil_append, mem_cons, not_or] at hv hnotMem ⊢
        exact ⟨hv.1, hnotMem⟩
      have hprevNe : c.srcPrevIdx ≠ kPrimitiveRestartIndex w := by
        rw [hprev]
        rintro rfl
        simp at hv
      have hlen : pre.length < c.triFirstIdxLoc + 2 := by
        rw [hpre, hloc, length_append, length_singleton]
        omega
      have hstep : c.restartStep pre.length srcIdx = { c with
            srcPrevIdx := srcIdx
            dst := c.dst.putTriangle (3 * (pre.length - 2)) restartTriangle } := by
        rw [FanCursor.restartStep, if_neg (not_or.mpr ⟨hprevNe, hsrc⟩), if_pos hlen]
      rw [hstep]
      refine ⟨htwo, meets_putTriangle h.two_le h.meets ?_,
        .running before [] v srcIdx hclosed (by rw [hpre]; simp) hpair hfirst rfl hloc⟩
      rw [hpre, append_assoc, withRestart_append_segment hclosed hpair,
        withRestart_append_segment hclosed hv, if_pos rfl]
      simp
    | running before mid first last hclosed hpre hseg hfirst hprev hloc =>
      -- a complete triangle
      have hlast : last ≠ kPrimitiveRestartIndex w := by
        rintro rfl
        simp at hseg
      have hlen : ¬ pre.length < c.triFirstIdxLoc + 2 := by
        rw [hpre, hloc]
        simp only [length_append, length_cons]
        omega
      have hstep : c.restartStep pre.length srcIdx = { c with
            srcPrevIdx := srcIdx
            dst := c.dst.putTriangle (3 * (pre.length - 2))
              (widenTriangle (first, last, srcIdx)) } := by
        rw [FanCursor.restartStep, if_neg (not_or.mpr ⟨hprev ▸ hlast, hsrc⟩), if_neg hlen,
          hfirst, hprev]
        rfl
      have hlonger : kPrimitiveRestartIndex w ∉ first :: mid ++ [last, srcIdx] := by
        rw [show first :: mid ++ [last, srcIdx] = (first :: mid ++ [last]) ++ [srcIdx] by simp,
          mem_append, not_or]
        exact ⟨hseg, hnotMem⟩
      have hnotRestart : widenTriangle (first, last, srcIdx) ≠ restartTriangle := fun heq =>
        setWidth_ne_restart hw hsrc (congrArg (fun t => t.2.2) heq)
      rw [hstep]
      refine ⟨htwo, meets_putTriangle h.two_le h.meets ?_,
        .running before (mid ++ [last]) first srcIdx hclosed (by rw [hpre]; simp)
          (by simpa using hlonger) hfirst rfl hloc⟩
      rw [hpre, append_assoc,
        show first :: mid ++ [last] ++ [srcIdx] = first :: mid ++ [last, srcIdx] by simp,
        withRestart_append_segment hclosed hlonger, triangles_append_singleton,
        withRestart_append_segment hclosed hseg, if_neg hnotRestart]
      simp

theorem restartInv_loop (hw : w ≤ 32) (rest : List (BitVec w)) (h : RestartInv pre c) :
    RestartInv (pre ++ rest) (fanLoop .restartStep c pre.length rest) := by
  induction rest generalizing pre c with
  | nil => simpa [fanLoop] using h
  | cons srcIdx rest ih =>
      have hnext := ih (restartInv_step hw h srcIdx)
      rwa [append_assoc, singleton_append, length_append, length_singleton]
        at hnext

/-! ## Leading restart indices -/

variable {first : BitVec w}

/-- The loop stops at the first index that is not the restart index, having written one slot
for each position it has passed. -/
theorem skipLeadingRestarts_append (dst : DstSlots) (loc k : Nat)
    (hfirst : first ≠ kPrimitiveRestartIndex w) (rest : List (BitVec w)) :
    skipLeadingRestarts dst loc (List.replicate k (kPrimitiveRestartIndex w) ++ first :: rest) =
      .ok (fillRestart dst loc (loc + k), loc + k, first) := by
  induction k generalizing dst loc with
  | zero => simp [skipLeadingRestarts, fillRestart, hfirst]
  | succ k ih =>
    have hstep := ih (dst.put loc (kPrimitiveRestartIndex 32)) (loc + 1)
    have hsum : loc + 1 + k = loc + (k + 1) := by omega
    rw [hsum] at hstep
    rw [replicate_succ, cons_append, skipLeadingRestarts, if_pos rfl, hstep]
    simp only [fillRestart]
    rw [show loc + (k + 1) - loc = k + 1 by omega,
      show loc + (k + 1) - (loc + 1) = k by omega, range'_succ, foldl_cons]

theorem skipLeadingRestarts_replicate (dst : DstSlots) (loc k : Nat) :
    skipLeadingRestarts dst loc (List.replicate k (kPrimitiveRestartIndex w)) =
      .error (.readPastEnd (loc + k)) := by
  induction k generalizing dst loc with
  | zero => rfl
  | succ k ih =>
      rw [replicate_succ, skipLeadingRestarts, if_pos rfl, ih]
      congr 2
      omega

/-- An index array either has restart indices only or starts with some of them before the
first other index. -/
theorem leadingRestarts (indices : List (BitVec w)) :
    indices = List.replicate indices.length (kPrimitiveRestartIndex w) ∨
      ∃ k first rest, first ≠ kPrimitiveRestartIndex w ∧
        indices = List.replicate k (kPrimitiveRestartIndex w) ++ first :: rest := by
  induction indices with
  | nil => exact .inl rfl
  | cons a l ih =>
    by_cases ha : a = kPrimitiveRestartIndex w
    · rcases ih with hall | ⟨k, first, rest, hfirst, hl⟩
      · left
        rw [length_cons, replicate_succ, ← hall, ha]
      · exact .inr ⟨k + 1, first, rest, hfirst, by rw [replicate_succ, ha, hl]; rfl⟩
    · exact .inr ⟨0, a, l, ha, rfl⟩

theorem fillRestart_apply (dst : DstSlots) (i count slot : Nat) :
    fillRestart dst i count slot =
      if i ≤ slot ∧ slot < count then some (kPrimitiveRestartIndex 32) else dst slot := by
  have hfold : ∀ n i dst, (range' i n).foldl
      (fun dst i => DstSlots.put dst i (kPrimitiveRestartIndex 32)) dst slot =
        if i ≤ slot ∧ slot < i + n then some (kPrimitiveRestartIndex 32) else dst slot := by
    intro n
    induction n with
    | zero =>
        intro i dst
        rw [if_neg (by omega)]
        rfl
    | succ n ih =>
      intro i dst
      rw [range'_succ, foldl_cons, ih, DstSlots.put]
      by_cases hslot : slot = i
      · subst hslot
        rw [if_neg (by omega), if_pos (by omega), update_self]
      · rw [update_of_ne hslot]
        congr 1
        simp only [eq_iff_iff]
        omega
  rw [fillRestart, hfold]
  congr 1
  simp only [eq_iff_iff]
  omega

/-! ## The whole function with primitive restart -/

section Restart

variable {indices : List (BitVec w)} {n : Nat}

theorem genTriFan_allRestart (hcount : getTriangleFanIndicesCount indices.length = .ok n)
    (hall : indices = List.replicate indices.length (kPrimitiveRestartIndex w)) :
    genTriFanFromClientElements true indices = .error (.readPastEnd indices.length) := by
  have hskip := skipLeadingRestarts_replicate (w := w) (fun _ => none) 0 indices.length
  rw [← hall, zero_add] at hskip
  simp [genTriFanFromClientElements, hcount, hskip, Except.mapError, bind, Except.bind]

variable {k : Nat} {rest : List (BitVec w)}

/-- Fewer than three indices from the first vertex on: only `count` slots are written. -/
theorem genTriFan_short (hcount : getTriangleFanIndicesCount indices.length = .ok n)
    (hfirst : first ≠ kPrimitiveRestartIndex w)
    (hindices : indices = List.replicate k (kPrimitiveRestartIndex w) ++ first :: rest)
    (hshort : indices.length ≤ k + 2) :
    genTriFanFromClientElements true indices =
      .ok (fillRestart (fillRestart (fun _ => none) 0 k) k indices.length) := by
  have hskip := skipLeadingRestarts_append (fun _ => none) 0 k hfirst rest
  rw [← hindices, zero_add] at hskip
  simp [genTriFanFromClientElements, hcount, hskip, Except.mapError, bind, Except.bind, hshort,
    drop_eq_nil_of_le hshort, fanLoop, pure, Except.pure]

theorem genTriFan_long (hcount : getTriangleFanIndicesCount indices.length = .ok n)
    {second : BitVec w} (hfirst : first ≠ kPrimitiveRestartIndex w)
    (hindices : indices = List.replicate k (kPrimitiveRestartIndex w) ++ first :: second :: rest)
    (hlong : k + 2 < indices.length) :
    genTriFanFromClientElements true indices = .ok (fanLoop .restartStep
        { triFirstIdx := first, triFirstIdxLoc := k, srcPrevIdx := second
          dst := fillRestart (fun _ => none) 0 k } (k + 2) rest).dst := by
  have hskip := skipLeadingRestarts_append (fun _ => none) 0 k hfirst (second :: rest)
  rw [← hindices, zero_add] at hskip
  have hsecond : readIndex indices (k + 1) = .ok second := by
    rw [readIndex, hindices, getElem?_append_right (by simp)]
    simp
  have hdrop : indices.drop (k + 2) = rest := by
    rw [hindices, drop_append]
    simp
  simp [genTriFanFromClientElements, hcount, hskip, Except.mapError, bind, Except.bind,
    not_le.mpr hlong, (lt_succ_self _).trans hlong, hsecond, hdrop, pure, Except.pure]

theorem restartStep_dst (c : FanCursor w) (i : Nat) (srcIdx : BitVec w) :
    ∃ t, (c.restartStep i srcIdx).dst = c.dst.putTriangle (3 * (i - 2)) t := by
  unfold FanCursor.restartStep
  split
  · exact ⟨_, rfl⟩
  · split
    · exact ⟨_, rfl⟩
    · exact ⟨_, rfl⟩

theorem restartLoop_dst_of_lt {i slot : Nat}
    (hslot : slot < 3 * (i - 2)) : (fanLoop .restartStep c i rest).dst slot = c.dst slot := by
  induction rest generalizing c i with
  | nil => rfl
  | cons srcIdx rest ih =>
      obtain ⟨t, ht⟩ := restartStep_dst c i srcIdx
      rw [fanLoop, ih (by omega), ht, DstSlots.putTriangle_of_lt hslot]

/-- No leading restart index: the loop starts with the first two indices behind it. -/
theorem meets_of_head (hw : w ≤ 32) (hcount : getTriangleFanIndicesCount indices.length = .ok n)
    {second : BitVec w}
    (hfirst : first ≠ kPrimitiveRestartIndex w) (hindices : indices = first :: second :: rest)
    (hlong : 2 < indices.length) :
    ∃ dst, genTriFanFromClientElements true indices = .ok dst ∧ MeetsRestartFans indices dst := by
  refine ⟨_, genTriFan_long (k := 0) hcount hfirst hindices (by omega), ?_⟩
  have hinit : RestartInv [first, second]
      { triFirstIdx := first, triFirstIdxLoc := 0, srcPrevIdx := second
        dst := fillRestart (fun _ => none) 0 0 } := by
    refine ⟨le_refl 2, ⟨fun slot hslot => by simp at hslot, ?_⟩, ?_⟩
    · rw [withRestart_pair]
      rfl
    · by_cases hsecond : second = kPrimitiveRestartIndex w
      · exact .interrupted (.inr ⟨[first], by rw [hsecond]; rfl⟩) hsecond
      · refine .running [] [] first second (.inl rfl) rfl ?_ rfl rfl rfl
        simp [Ne.symm hfirst, Ne.symm hsecond]
  have hloop := (restartInv_loop hw rest hinit).meets
  rw [show [first, second] ++ rest = indices from hindices.symm] at hloop
  exact hloop

/-- Three indices, the first of them the restart index: nothing to draw, and one restart slot
for each index is as many as the one triple needs. -/
theorem meets_of_three (hcount : getTriangleFanIndicesCount indices.length = .ok n)
    (hfirst : first ≠ kPrimitiveRestartIndex w)
    (hindices : indices = List.replicate (k + 1) (kPrimitiveRestartIndex w) ++ first :: rest)
    (hthree : indices.length = 3) :
    ∃ dst, genTriFanFromClientElements true indices = .ok dst ∧ MeetsRestartFans indices dst := by
  refine ⟨_, genTriFan_short hcount hfirst hindices (by omega), ?_⟩
  have hslot : ∀ slot < 3, fillRestart (fillRestart (fun _ => none) 0 (k + 1)) (k + 1)
      indices.length slot = some (kPrimitiveRestartIndex 32) := by
    intro slot hslot
    rw [fillRestart_apply, fillRestart_apply]
    by_cases hk : k + 1 ≤ slot
    · rw [if_pos ⟨hk, by omega⟩]
    · rw [if_neg (by omega), if_pos (by omega)]
  constructor
  · intro slot hlt
    rw [hslot slot (by omega)]
    rfl
  · obtain ⟨b, c, hpair⟩ : ∃ b c, indices = [kPrimitiveRestartIndex w, b, c] := by
      obtain ⟨a, b, c, habc⟩ := length_eq_three.mp hthree
      rw [habc] at hindices
      exact ⟨b, c, by rw [habc, (cons.inj hindices).1]⟩
    have hempty : DstSlots.triangle (fillRestart (fillRestart (fun _ => none) 0 (k + 1)) (k + 1)
        indices.length) 0 = none := by
      simp only [DstSlots.triangle, mul_zero, zero_add]
      rw [hslot 0 (by omega), hslot 1 (by omega), hslot 2 (by omega)]
      exact if_pos rfl
    have hone : indices.length - 2 = 1 := by omega
    rw [hone, DstSlots.triangles, show range 1 = [0] from rfl,
      filterMap_cons_none hempty, hpair, withRestart_cons_restart, withRestart_pair]
    rfl

/-- After a leading restart index, with more than three indices, a slot is left unwritten. -/
theorem exists_unwritten (hcount : getTriangleFanIndicesCount indices.length = .ok n)
    (hfirst : first ≠ kPrimitiveRestartIndex w)
    (hindices : indices = List.replicate (k + 1) (kPrimitiveRestartIndex w) ++ first :: rest)
    (hfour : 3 < indices.length) {dst : DstSlots}
    (hdst : genTriFanFromClientElements true indices = .ok dst) :
    ∃ slot < 3 * (indices.length - 2), dst slot = none := by
  by_cases hshort : indices.length ≤ k + 1 + 2
  · rw [genTriFan_short hcount hfirst hindices hshort] at hdst
    obtain rfl := Except.ok.inj hdst
    refine ⟨indices.length, by omega, ?_⟩
    have hlen : k + 1 ≤ indices.length := by
      rw [hindices]
      simp
    rw [fillRestart_apply, fillRestart_apply, if_neg (by omega), if_neg (by omega)]
  · obtain ⟨second, rest', rfl⟩ : ∃ second rest', rest = second :: rest' := by
      cases rest with
      | nil =>
          rw [hindices, length_append, length_replicate] at hshort
          simp at hshort
      | cons second rest' => exact ⟨second, rest', rfl⟩
    rw [genTriFan_long hcount hfirst hindices (by omega)] at hdst
    obtain rfl := Except.ok.inj hdst
    refine ⟨k + 1, by omega, ?_⟩
    rw [restartLoop_dst_of_lt (by omega)]
    change fillRestart (fun _ => none) 0 (k + 1) (k + 1) = none
    rw [fillRestart_apply, if_neg (by omega)]

/-- With primitive restart the generated indices have the GL meaning exactly when the array
does not start with the restart index, or has three indices that are not all restart. -/
theorem genTriFan_meets_iff (type : DrawElementsType) {indices : List (BitVec type.bits)} {n : Nat}
    (hlong : 2 < indices.length) (hcount : getTriangleFanIndicesCount indices.length = .ok n) :
    (∃ dst, genTriFanFromClientElements true indices = .ok dst ∧ MeetsRestartFans indices dst) ↔
      indices.head? ≠ some (kPrimitiveRestartIndex type.bits) ∨
        indices.length = 3 ∧ ∃ index ∈ indices, index ≠ kPrimitiveRestartIndex type.bits := by
  have hw : type.bits ≤ 32 := by cases type <;> decide
  rcases leadingRestarts indices with hall | ⟨k, first, rest, hfirst, hindices⟩
  · have hgen := genTriFan_allRestart hcount hall
    have hhead : indices.head? = some (kPrimitiveRestartIndex type.bits) := by
      rw [hall, head?_replicate, if_neg (by omega)]
    constructor
    · rintro ⟨dst, hdst, -⟩
      rw [hgen] at hdst
      contradiction
    · rintro (hne | ⟨-, index, hmem, hne⟩)
      · exact absurd hhead hne
      · rw [hall] at hmem
        exact absurd (eq_of_mem_replicate hmem) hne
  · cases k with
    | zero =>
      obtain ⟨second, rest', rfl⟩ : ∃ second rest', rest = second :: rest' := by
        cases rest with
        | nil =>
            rw [hindices] at hlong
            simp at hlong
        | cons second rest' => exact ⟨second, rest', rfl⟩
      refine iff_of_true (meets_of_head hw hcount hfirst hindices hlong) (.inl ?_)
      rw [hindices]
      simpa using hfirst
    | succ k =>
      have hhead : indices.head? = some (kPrimitiveRestartIndex type.bits) := by
        rw [hindices]
        rfl
      by_cases hthree : indices.length = 3
      · refine iff_of_true (meets_of_three hcount hfirst hindices hthree)
          (.inr ⟨hthree, first, ?_, hfirst⟩)
        rw [hindices]
        simp
      · constructor
        · rintro ⟨dst, hdst, hmeets⟩
          obtain ⟨slot, hslot, hnone⟩ :=
            exists_unwritten hcount hfirst hindices (by omega) hdst
          have hsome := hmeets.written slot hslot
          rw [hnone] at hsome
          contradiction
        · rintro (hne | ⟨hlen, -⟩)
          · exact absurd hhead hne
          · exact absurd hlen hthree

/-- Two fans with restart indices between and behind them. -/
theorem genTriFan_meets_iff_two_fans :
    ∃ dst, genTriFanFromClientElements (w := DrawElementsType.UnsignedByte.bits) true
        [0, 1, 2, 3, 255, 255, 7, 8, 9, 255] = .ok dst ∧
      MeetsRestartFans (w := 8) [0, 1, 2, 3, 255, 255, 7, 8, 9, 255] dst :=
  (genTriFan_meets_iff .UnsignedByte (by decide) rfl).mpr (.inl (by decide))

/-- A leading restart index in front of one triangle leaves slot 1 unwritten, and an array of
restart indices only is read past its end. -/
theorem genTriFan_leading_restart :
    (∃ dst, genTriFanFromClientElements (w := 8) true [255, 0, 1, 2] = .ok dst ∧ dst 1 = none ∧
      ¬ MeetsRestartFans (w := 8) [255, 0, 1, 2] dst) ∧
    genTriFanFromClientElements (w := 8) true [255, 255, 255, 255] = .error (.readPastEnd 4) := by
  refine ⟨⟨_, rfl, rfl, fun hmeets => ?_⟩, rfl⟩
  have hsome := hmeets.written 1 (by decide)
  contradiction

end Restart

end MetalAngle.Metal
