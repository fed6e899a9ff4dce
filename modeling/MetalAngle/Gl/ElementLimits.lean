import MetalAngle.Gl.DrawValidation

/-!
# Element limits

The element limit of an attribute is exact: the elements up to it, and no others, end in the buffer.
-/

namespace MetalAngle.Gl

variable {x : Int}

theorem checkedInt64_eq_some {y : Int} :
    checkedInt64 x = some y ↔ y = x ∧ kIntegerOverflow ≤ x ∧ x ≤ int64Max := by
  unfold checkedInt64
  split
  case isTrue h => simp [h, eq_comm]
  case isFalse h => simp [h]

theorem elementLimit_cases {bufferSize bufferOffset room : Int}
    {attribOffset attribSize stride divisor : Nat}
    (hroom : room = bufferSize - bufferOffset - attribOffset - attribSize) :
    elementLimit bufferSize bufferOffset attribOffset attribSize stride divisor = kIntegerOverflow ∨
      elementLimit bufferSize bufferOffset attribOffset attribSize stride divisor =
        if room < 0 then room
        else if stride = 0 then int64Max
        else if 0 < divisor then room / stride * divisor + (divisor - 1)
        else room / stride := by
  obtain ⟨limit, hlimit⟩ : ∃ limit : Option Int, limit = (do
      let limit ← checkedInt64 (bufferSize - bufferOffset)
      let limit ← checkedInt64 (limit - attribOffset)
      checkedInt64 (limit - attribSize)) := ⟨_, rfl⟩
  have hvalue : ∀ x, limit = some x → x = room := by
    intro x hx
    rw [hlimit] at hx
    obtain ⟨first, hfirst, hx⟩ := Option.bind_eq_some_iff.mp hx
    obtain ⟨second, hsecond, hx⟩ := Option.bind_eq_some_iff.mp hx
    obtain ⟨rfl, -⟩ := checkedInt64_eq_some.mp hfirst
    obtain ⟨rfl, -⟩ := checkedInt64_eq_some.mp hsecond
    obtain ⟨rfl, -⟩ := checkedInt64_eq_some.mp hx
    exact hroom.symm
  unfold elementLimit
  rw [← hlimit]
  cases limit with
  | none => exact .inl rfl
  | some x =>
    obtain rfl := hvalue x rfl
    dsimp only
    by_cases hneg : x < 0
    · right
      rw [if_pos hneg, if_pos hneg]
    rw [if_neg hneg, if_neg hneg]
    by_cases hstride : stride = 0
    · right
      rw [if_pos hstride, if_pos hstride]
    rw [if_neg hstride, if_neg hstride]
    by_cases hdivisor : 0 < divisor
    case neg =>
      right
      rw [if_neg hdivisor, if_neg hdivisor]
    case pos =>
      rw [if_pos hdivisor, if_pos hdivisor]
      obtain ⟨scaled, hscaled⟩ : ∃ scaled : Option Int, scaled = (do
          let limit ← checkedInt64 (x / stride * divisor)
          checkedInt64 (limit + (divisor - 1))) := ⟨_, rfl⟩
      rw [← hscaled]
      cases scaled with
      | none => exact .inl rfl
      | some y =>
          right
          obtain ⟨product, hproduct, hy⟩ := Option.bind_eq_some_iff.mp hscaled.symm
          obtain ⟨rfl, -⟩ := checkedInt64_eq_some.mp hproduct
          exact (checkedInt64_eq_some.mp hy).1

namespace BufferedAttrib

variable {a : BufferedAttrib}

def room (a : BufferedAttrib) : Int := a.bufferSize - a.bufferOffset - a.relativeOffset - a.size

variable {element : Nat}

theorem fits_iff : a.Fits element ↔ a.stride * (element : Int) ≤ a.room := by
  unfold Fits address room
  omega

theorem Fits.mono {element' : Nat} (h : a.Fits element') (hle : element ≤ element') :
    a.Fits element := by
  have hscaled : a.stride * (element : Int) ≤ a.stride * (element' : Int) := by
    apply mul_le_mul_of_nonneg_left
    · exact_mod_cast hle
    · exact Int.natCast_nonneg _
  rw [fits_iff] at h ⊢
  omega

theorem address_mono {element' : Nat} (hle : element ≤ element') :
    a.address element ≤ a.address element' := by
  have hscaled : a.stride * (element : Int) ≤ a.stride * (element' : Int) := by
    apply mul_le_mul_of_nonneg_left
    · exact_mod_cast hle
    · exact Int.natCast_nonneg _
  unfold address
  omega

theorem element_mono {vertex vertex' instanceIndex instanceIndex' : Nat}
    (hvertex : vertex ≤ vertex') (hinstance : instanceIndex ≤ instanceIndex') :
    a.element vertex instanceIndex ≤ a.element vertex' instanceIndex' := by
  unfold element
  split
  · exact Nat.div_le_div_right hinstance
  · exact hvertex

/-- The number that is compared with the limit: an instance if there is a divisor, a vertex
otherwise. -/
def counted (a : BufferedAttrib) (vertex instanceIndex : Nat) : Nat :=
  if 0 < a.divisor then instanceIndex else vertex

theorem cachedElementLimit_exact (vertex instanceIndex : Nat)
    (hcounted : (a.counted vertex instanceIndex : Int) ≤ int64Max) :
    a.cachedElementLimit = kIntegerOverflow ∨
      ((a.counted vertex instanceIndex : Int) ≤ a.cachedElementLimit ↔
        a.Fits (a.element vertex instanceIndex)) := by
  rcases elementLimit_cases
    (rfl : a.room = a.bufferSize - a.bufferOffset - a.relativeOffset - a.size) with
    hoverflow | hlimit
  · exact .inl hoverflow
  right
  change a.cachedElementLimit = _ at hlimit
  rw [hlimit, fits_iff]
  by_cases hroom : a.room < 0
  case pos =>
    rw [if_pos hroom]
    have hscaled : 0 ≤ a.stride * (a.element vertex instanceIndex : Int) := by positivity
    omega
  case neg =>
    rw [if_neg hroom]
    by_cases hstride : a.stride = 0
    case pos =>
      rw [if_pos hstride, hstride]
      simp only [Nat.cast_zero, zero_mul]
      omega
    case neg =>
      have hstride' : (0 : Int) < a.stride := by omega
      rw [if_neg hstride, mul_comm (a.stride : Int), ← Int.le_ediv_iff_mul_le hstride']
      unfold counted element
      by_cases hdivisor : 0 < a.divisor
      case pos =>
        rw [if_pos hdivisor, if_pos hdivisor, if_pos hdivisor]
        -- The largest instance of an element is the last before the next multiple of the divisor.
        have hdivisor' : (0 : Int) < a.divisor := by exact_mod_cast hdivisor
        have hle : ((instanceIndex / a.divisor : Nat) : Int) ≤ a.room / a.stride ↔
            (instanceIndex : Int) < (a.room / a.stride + 1) * a.divisor := by
          rw [Int.natCast_div, ← Int.lt_add_one_iff, Int.ediv_lt_iff_lt_mul hdivisor']
        rw [hle, add_mul, one_mul]
        omega
      case neg => rw [if_neg hdivisor, if_neg hdivisor, if_neg hdivisor]

end BufferedAttrib

namespace DrawState

variable {s : DrawState}

theorem le_foldl_min (p : BufferedAttrib → Prop) [DecidablePred p] (attribs : List BufferedAttrib)
    (limit x : Int) :
    x ≤ attribs.foldl (fun limit a => if p a then limit else min limit a.cachedElementLimit) limit ↔
      x ≤ limit ∧ ∀ a ∈ attribs, ¬ p a → x ≤ a.cachedElementLimit := by
  induction attribs generalizing limit with
  | nil => simp
  | cons a attribs ih =>
    rw [List.foldl_cons, ih]
    by_cases ha : p a
    · rw [if_pos ha]
      simp [ha]
    · rw [if_neg ha, le_min_iff]
      simp [ha, and_assoc]

theorem le_nonInstancedVertexElementLimit (hx : x ≤ int64Max) :
    x ≤ s.nonInstancedVertexElementLimit ↔
      ∀ a ∈ s.activeBufferedAttribs, a.divisor = 0 → x ≤ a.cachedElementLimit := by
  unfold nonInstancedVertexElementLimit
  rw [le_foldl_min]
  simp [hx]

theorem le_instancedVertexElementLimit (hx : x ≤ int64Max) :
    x ≤ s.instancedVertexElementLimit ↔
      ∀ a ∈ s.activeBufferedAttribs, 0 < a.divisor → x ≤ a.cachedElementLimit := by
  have hfold : s.instancedVertexElementLimit = s.activeBufferedAttribs.foldl (fun limit a =>
      if ¬ 0 < a.divisor then limit else min limit a.cachedElementLimit) int64Max := by
    unfold instancedVertexElementLimit
    simp only [ite_not]
  rw [hfold, le_foldl_min]
  simp [hx, Nat.pos_iff_ne_zero]

end DrawState

end MetalAngle.Gl
