import Mathlib.Algebra.Ring.Int.Defs
import Mathlib.Algebra.Ring.Nat
import MetalAngle.Lib.IntSpan

/-!
# Rectangles

A `gl::Rectangle` with a negative size is reversed.  Sums and differences wrap around in 32 bits.
-/

namespace MetalAngle.Gl

open Int32 IntSpan

structure Rectangle where
  x : Int32 := 0
  y : Int32 := 0
  width : Int32 := 0
  height : Int32 := 0
deriving DecidableEq

def minMax (a b : Int32) : Int32 × Int32 :=
  if a < b then (a, b) else (b, a)

/-- `std::max` and `std::min`. -/
def stdMax (a b : Int32) : Int32 := if a < b then b else a

@[inherit_doc stdMax]
def stdMin (a b : Int32) : Int32 := if b < a then b else a

def clipRectangle (source clip : Rectangle) : Option Rectangle :=
  let (minSourceX, maxSourceX) := minMax source.x (source.x + source.width)
  let (minSourceY, maxSourceY) := minMax source.y (source.y + source.height)
  let (minClipX, maxClipX) := minMax clip.x (clip.x + clip.width)
  let (minClipY, maxClipY) := minMax clip.y (clip.y + clip.height)
  if minSourceX ≥ maxClipX ∨ maxSourceX ≤ minClipX ∨ minSourceY ≥ maxClipY ∨
      maxSourceY ≤ minClipY then
    none
  else
    some {
      x := stdMax minSourceX minClipX
      y := stdMax minSourceY minClipY
      width := stdMin maxSourceX maxClipX - stdMax minSourceX minClipX
      height := stdMin maxSourceY maxClipY - stdMax minSourceY minClipY }

def extent (position size : Int32) : IntSpan :=
  .between position.toInt (position.toInt + size.toInt)

def wrappedExtent (position size : Int32) : IntSpan :=
  .between position.toInt (position + size).toInt

namespace Rectangle

def points (r : Rectangle) : Set (Int × Int) :=
  IntSpan.points (extent r.x r.width) (extent r.y r.height)

/-- The rectangles have a point in common. -/
def Overlap (source clip : Rectangle) : Prop :=
  (extent source.x source.width).Meets (extent clip.x clip.width) ∧
    (extent source.y source.height).Meets (extent clip.y clip.height)

/-- One lies to one side of the other, with the bounds that the code computes. -/
def WrappedApart (source clip : Rectangle) : Prop :=
  (wrappedExtent source.x source.width).Separate (wrappedExtent clip.x clip.width) ∨
    (wrappedExtent source.y source.height).Separate (wrappedExtent clip.y clip.height)

end Rectangle

/-- A sum that does not wrap. -/
def FitsInt32 (i : Int) : Prop := -2 ^ 31 ≤ i ∧ i < 2 ^ 31

/-- On one axis the sums and the common length fit into 32 bits.  Otherwise two equal reversed
extents that end below the least number come out right, for they wrap twice. -/
def AxisFits (p n q m : Int32) : Prop :=
  (FitsInt32 (p.toInt + n.toInt) ∧ FitsInt32 (q.toInt + m.toInt) ∧
      FitsInt32 (((extent p n).inter (extent q m)).hi - ((extent p n).inter (extent q m)).lo)) ∨
    p = q ∧ n = m ∧ p.toInt + n.toInt < -2 ^ 31

theorem toInt_stdMax (a b : Int32) : (stdMax a b).toInt = max a.toInt b.toInt := by
  unfold stdMax
  split
  case isTrue hlt =>
    have := lt_iff_toInt_lt.mp hlt
    omega
  case isFalse hle =>
    have := mt lt_iff_toInt_lt.mpr hle
    omega

theorem toInt_stdMin (a b : Int32) : (stdMin a b).toInt = min a.toInt b.toInt := by
  unfold stdMin
  split
  case isTrue hlt =>
    have := lt_iff_toInt_lt.mp hlt
    omega
  case isFalse hle =>
    have := mt lt_iff_toInt_lt.mpr hle
    omega

/-- `minMax` gives the ends of the span between two numbers. -/
theorem toInt_minMax (a b : Int32) :
    (minMax a b).1.toInt = (IntSpan.between a.toInt b.toInt).lo ∧
      (minMax a b).2.toInt = (IntSpan.between a.toInt b.toInt).hi := by
  unfold minMax between
  split
  case isTrue hlt =>
    have := lt_iff_toInt_lt.mp hlt
    dsimp only
    exact ⟨by omega, by omega⟩
  case isFalse hle =>
    have := mt lt_iff_toInt_lt.mpr hle
    dsimp only
    exact ⟨by omega, by omega⟩

theorem bmod_cases {i : Int} (hlow : -2 ^ 32 ≤ i) (hhigh : i ≤ 2 ^ 32) :
    i.bmod (2 ^ 32) = i ∧ FitsInt32 i ∨ i.bmod (2 ^ 32) = i - 2 ^ 32 ∧ 2 ^ 31 ≤ i ∨
      i.bmod (2 ^ 32) = i + 2 ^ 32 ∧ i < -2 ^ 31 := by
  unfold FitsInt32
  rw [Int.bmod_def]
  split
  · omega
  · omega

theorem toInt_bounds (a : Int32) : -2 ^ 31 ≤ a.toInt ∧ a.toInt < 2 ^ 31 :=
  ⟨a.le_toInt, a.toInt_lt⟩

/-- The extent that the code computes: the right one, or one that lies on the other side. -/
theorem wrappedExtent_cases (p n : Int32) :
    FitsInt32 (p.toInt + n.toInt) ∧ wrappedExtent p n = extent p n ∧
        -2 ^ 31 ≤ (extent p n).lo ∧ (extent p n).lo ≤ (extent p n).hi ∧
        (extent p n).hi < 2 ^ 31 ∨
      2 ^ 31 ≤ p.toInt + n.toInt ∧ extent p n = ⟨p.toInt, p.toInt + n.toInt⟩ ∧
        wrappedExtent p n = ⟨p.toInt + n.toInt - 2 ^ 32, p.toInt⟩ ∨
      p.toInt + n.toInt < -2 ^ 31 ∧ extent p n = ⟨p.toInt + n.toInt, p.toInt⟩ ∧
        wrappedExtent p n = ⟨p.toInt, p.toInt + n.toInt + 2 ^ 32⟩ := by
  have hp := toInt_bounds p
  have hn := toInt_bounds n
  have hsum := bmod_cases (i := p.toInt + n.toInt) (by omega) (by omega)
  unfold wrappedExtent extent between
  rw [toInt_add]
  rcases hsum with ⟨hsum, hfits⟩ | ⟨hsum, hover⟩ | ⟨hsum, hunder⟩
  · unfold FitsInt32 at hfits
    dsimp only
    exact .inl ⟨hfits, by rw [hsum], by omega, by omega, by omega⟩
  · refine .inr (.inl ⟨hover, ?_, ?_⟩)
    · rw [min_eq_left (by omega), max_eq_right (by omega)]
    · rw [hsum, min_eq_right (by omega), max_eq_left (by omega)]
  · refine .inr (.inr ⟨hunder, ?_, ?_⟩)
    · rw [min_eq_right (by omega), max_eq_left (by omega)]
    · rw [hsum, min_eq_left (by omega), max_eq_right (by omega)]

theorem toInt_eq_iff (p q : Int32) : p = q ↔ p.toInt = q.toInt := toInt_inj.symm

/-- The extent of a position and a size that is the wrapped length of `bounds`. -/
theorem extent_of_bounds {x w : Int32} {bounds : IntSpan} (hx : x.toInt = bounds.lo)
    (hw : w.toInt = (bounds.hi - bounds.lo).bmod (2 ^ 32)) (hle : bounds.lo ≤ bounds.hi)
    (hlength : bounds.hi - bounds.lo ≤ 2 ^ 32) :
    bounds.hi - bounds.lo < 2 ^ 31 ∧ extent x w = bounds ∨
      2 ^ 31 ≤ bounds.hi - bounds.lo ∧ extent x w = ⟨bounds.hi - 2 ^ 32, bounds.lo⟩ := by
  unfold extent between
  rw [hx, hw]
  rcases bmod_cases (i := bounds.hi - bounds.lo) (by omega) hlength with
    ⟨hsame, hfits⟩ | ⟨hsum, hover⟩ | ⟨-, hunder⟩
  · refine .inl ⟨hfits.2, ?_⟩
    rw [hsame, min_eq_left (by omega), max_eq_right (by omega), Int.add_comm, Int.sub_add_cancel]
  · refine .inr ⟨hover, ?_⟩
    rw [hsum, min_eq_right (by omega), max_eq_left (by omega)]
    congr 1
    omega
  · omega

def clippedAxis (p n q m : Int32) : Int32 × Int32 :=
  let low := stdMax (minMax p (p + n)).1 (minMax q (q + m)).1
  (low, stdMin (minMax p (p + n)).2 (minMax q (q + m)).2 - low)

theorem toInt_clippedAxis (p n q m : Int32) :
    (clippedAxis p n q m).1.toInt = ((wrappedExtent p n).inter (wrappedExtent q m)).lo ∧
      (clippedAxis p n q m).2.toInt = (((wrappedExtent p n).inter (wrappedExtent q m)).hi -
        ((wrappedExtent p n).inter (wrappedExtent q m)).lo).bmod (2 ^ 32) := by
  obtain ⟨hminS, hmaxS⟩ := toInt_minMax p (p + n)
  obtain ⟨hminC, hmaxC⟩ := toInt_minMax q (q + m)
  unfold clippedAxis
  dsimp only
  constructor
  · rw [toInt_stdMax, hminS, hminC]
    rfl
  · rw [toInt_sub, toInt_stdMax, toInt_stdMin, hminS, hminC, hmaxS, hmaxC]
    rfl

/-- On one axis on which the extents meet, the code finds the common extent exactly when the axis
fits. -/
theorem clippedAxis_iff {p n q m : Int32} (hmeets : (extent p n).Meets (extent q m)) :
    ¬ (wrappedExtent p n).Separate (wrappedExtent q m) ∧
        extent (clippedAxis p n q m).1 (clippedAxis p n q m).2 = (extent p n).inter (extent q m) ↔
      AxisFits p n q m := by
  have hp := toInt_bounds p
  have hn := toInt_bounds n
  have hq := toInt_bounds q
  have hm := toInt_bounds m
  have hS := wrappedExtent_cases p n
  have hC := wrappedExtent_cases q m
  have hbounds := extent_of_bounds (toInt_clippedAxis p n q m).1 (toInt_clippedAxis p n q m).2
  unfold AxisFits
  rw [toInt_eq_iff p q, toInt_eq_iff n m]
  generalize extent (clippedAxis p n q m).1 (clippedAxis p n q m).2 = R at hbounds ⊢
  generalize wrappedExtent p n = S' at hS hbounds ⊢
  generalize wrappedExtent q m = C' at hC hbounds ⊢
  generalize extent p n = S at *
  generalize extent q m = C at *
  obtain ⟨sl, sh⟩ := S
  obtain ⟨cl, ch⟩ := C
  obtain ⟨sl', sh'⟩ := S'
  obtain ⟨cl', ch'⟩ := C'
  obtain ⟨rl, rh⟩ := R
  simp only [inter, IntSpan.Meets, IntSpan.Separate, mk.injEq, FitsInt32] at *
  rcases hS with ⟨hfits, ⟨rfl, rfl⟩, hlow, hle, hhigh⟩ | ⟨hover, ⟨rfl, rfl⟩, rfl, rfl⟩ | ⟨hunder, ⟨rfl, rfl⟩, rfl, rfl⟩
  · rcases hC with ⟨hfits', ⟨rfl, rfl⟩, hlow', hle', hhigh'⟩ | ⟨hover', ⟨rfl, rfl⟩, rfl, rfl⟩ |
      ⟨hunder', ⟨rfl, rfl⟩, rfl, rfl⟩
    · omega
    · omega
    · omega
  · rcases hC with ⟨hfits', ⟨rfl, rfl⟩, hlow', hle', hhigh'⟩ | ⟨hover', ⟨rfl, rfl⟩, rfl, rfl⟩ |
      ⟨hunder', ⟨rfl, rfl⟩, rfl, rfl⟩
    · omega
    · omega
    · omega
  · rcases hC with ⟨hfits', ⟨rfl, rfl⟩, hlow', hle', hhigh'⟩ | ⟨hover', ⟨rfl, rfl⟩, rfl, rfl⟩ |
      ⟨hunder', ⟨rfl, rfl⟩, rfl, rfl⟩
    · omega
    · omega
    · omega

theorem le_iff_toInt_le (a b : Int32) : a ≥ b ↔ b.toInt ≤ a.toInt := Int32.le_iff_toInt_le

/-- What `clipRectangle` returns. -/
theorem clipRectangle_cases (source clip : Rectangle) :
    source.WrappedApart clip ∧ clipRectangle source clip = none ∨
      ¬ source.WrappedApart clip ∧ clipRectangle source clip = some {
        x := (clippedAxis source.x source.width clip.x clip.width).1
        y := (clippedAxis source.y source.height clip.y clip.height).1
        width := (clippedAxis source.x source.width clip.x clip.width).2
        height := (clippedAxis source.y source.height clip.y clip.height).2 } := by
  obtain ⟨hminSX, hmaxSX⟩ := toInt_minMax source.x (source.x + source.width)
  obtain ⟨hminSY, hmaxSY⟩ := toInt_minMax source.y (source.y + source.height)
  obtain ⟨hminCX, hmaxCX⟩ := toInt_minMax clip.x (clip.x + clip.width)
  obtain ⟨hminCY, hmaxCY⟩ := toInt_minMax clip.y (clip.y + clip.height)
  have hiff : ((minMax source.x (source.x + source.width)).1 ≥
        (minMax clip.x (clip.x + clip.width)).2 ∨
      (minMax source.x (source.x + source.width)).2 ≤ (minMax clip.x (clip.x + clip.width)).1 ∨
      (minMax source.y (source.y + source.height)).1 ≥ (minMax clip.y (clip.y + clip.height)).2 ∨
      (minMax source.y (source.y + source.height)).2 ≤
        (minMax clip.y (clip.y + clip.height)).1) ↔ source.WrappedApart clip := by
    rw [le_iff_toInt_le, le_iff_toInt_le, Int32.le_iff_toInt_le, Int32.le_iff_toInt_le, hminSX,
      hmaxSX, hminSY, hmaxSY, hminCX, hmaxCX, hminCY, hmaxCY]
    exact or_assoc.symm
  by_cases hapart : source.WrappedApart clip
  · exact .inl ⟨hapart, if_pos (hiff.mpr hapart)⟩
  · exact .inr ⟨hapart, if_neg (mt hiff.mp hapart)⟩

/-- `clipRectangle` says whether the rectangles have a common point, and if so returns the
rectangle of these points. -/
def ClipsExactly (source clip : Rectangle) : Prop :=
  ((clipRectangle source clip).isSome ↔ (source.points ∩ clip.points).Nonempty) ∧
    ∀ r, clipRectangle source clip = some r → r.points = source.points ∩ clip.points

/-- The condition under which it does: of overlapping rectangles both axes fit into 32 bits, and
others lie apart by the bounds that the code computes.  The latter fails for a rectangle without
area that lies inside the other one. -/
def ClipFits (source clip : Rectangle) : Prop :=
  (source.Overlap clip →
      AxisFits source.x source.width clip.x clip.width ∧
        AxisFits source.y source.height clip.y clip.height) ∧
    (¬ source.Overlap clip → source.WrappedApart clip)

theorem points_inter_nonempty_iff (source clip : Rectangle) :
    (source.points ∩ clip.points).Nonempty ↔ source.Overlap clip := by
  unfold Rectangle.points Rectangle.Overlap IntSpan.Meets
  rw [points_inter, points_nonempty_iff]

theorem clipsExactly_iff (source clip : Rectangle) :
    ClipsExactly source clip ↔ ClipFits source clip := by
  unfold ClipsExactly ClipFits
  rw [points_inter_nonempty_iff]
  by_cases hoverlap : source.Overlap clip
  · obtain ⟨hX, hY⟩ := hoverlap
    have hpoints : ∀ r : Rectangle, r.points = source.points ∩ clip.points ↔
        extent r.x r.width = (extent source.x source.width).inter (extent clip.x clip.width) ∧
          extent r.y r.height =
            (extent source.y source.height).inter (extent clip.y clip.height) := by
      intro r
      unfold Rectangle.points
      rw [points_inter]
      exact points_eq_iff hX hY
    rw [← clippedAxis_iff hX, ← clippedAxis_iff hY]
    rcases clipRectangle_cases source clip with ⟨hapart, hnone⟩ | ⟨hmeet, hsome⟩
    · rw [hnone]
      constructor
      · intro hexact
        exact absurd (hexact.1.mpr ⟨hX, hY⟩) Bool.false_ne_true
      · intro hfits
        obtain ⟨⟨hmeetX, -⟩, hmeetY, -⟩ := hfits.1 ⟨hX, hY⟩
        exact (hapart.elim hmeetX hmeetY).elim
    · rw [hsome]
      constructor
      · intro hexact
        obtain ⟨hwidth, hheight⟩ := (hpoints _).mp (hexact.2 _ rfl)
        exact ⟨fun _ => ⟨⟨mt .inl hmeet, hwidth⟩, mt .inr hmeet, hheight⟩,
          fun hnot => absurd ⟨hX, hY⟩ hnot⟩
      · intro hfits
        obtain ⟨⟨-, hwidth⟩, -, hheight⟩ := hfits.1 ⟨hX, hY⟩
        refine ⟨⟨fun _ => ⟨hX, hY⟩, fun _ => rfl⟩, fun r hr => ?_⟩
        cases hr
        exact (hpoints _).mpr ⟨hwidth, hheight⟩
  · rcases clipRectangle_cases source clip with ⟨hapart, hnone⟩ | ⟨hmeet, hsome⟩
    · rw [hnone]
      constructor
      · intro _
        exact ⟨fun hyes => absurd hyes hoverlap, fun _ => hapart⟩
      · intro _
        exact ⟨⟨fun htrue => absurd htrue Bool.false_ne_true, fun hyes => absurd hyes hoverlap⟩,
          fun r hr => by contradiction⟩
    · rw [hsome]
      constructor
      · intro hexact
        exact absurd (hexact.1.mp rfl) hoverlap
      · intro hfits
        exact absurd (hfits.2 hoverlap) hmeet

end MetalAngle.Gl
