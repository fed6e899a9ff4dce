import MetalAngle.Gl.DrawFetches
import MetalAngle.Gl.ElementLimits

/-!
# Accepted draws stay in the buffers

A draw is checked exactly unless it has something that the checks do not see: attributes with a
divisor in a call that is not instanced, vertices that are no `GLint`, offsets before the buffer.  A
draw that reads nothing, or an index that is the maximum, may be refused for nothing.
-/

namespace MetalAngle.Gl

open BufferedAttrib Nat
open MetalAngle.Metal (DrawElementsType)

namespace DrawState

variable {s : DrawState} {call : DrawCall}

/-! ## Exactness -/

/-- What the checks miss, or refuse for nothing, does not happen in the draw. -/
structure ChecksExactly (s : DrawState) (call : DrawCall) : Prop where
  /-- A draw without vertices or instances passes the check of the vertices. -/
  empty : ¬ s.Draws call → s.VerticesPass call ∨ s.Overflows call ∨ s.ReadsIndicesOutside call
  /-- Attributes with a divisor, which only instanced calls check, have a first element. -/
  divisors : s.Draws call → s.VerticesPass call → call.primcount = none →
    ∀ a ∈ s.activeBufferedAttribs, 0 < a.divisor → a.Fits 0
  /-- The largest vertex, if no `GLint`, is in the buffers. -/
  largeVertices : s.Draws call → s.VerticesPass call → s.InstancesPass call →
    2 ^ 31 ≤ s.lastVertex call → ∀ a ∈ s.activeBufferedAttribs, a.divisor = 0 →
      a.Fits (s.lastVertex call)
  /-- No attribute starts before its buffer. -/
  offsets : s.Draws call → s.VerticesPass call → s.InstancesPass call →
    ∀ a ∈ s.activeBufferedAttribs, 0 ≤ a.address (a.element (s.firstVertex call) 0)
  /-- The largest index is the maximum only in draws that are to be refused anyway. -/
  maxIndex : s.Draws call → (∃ type indices, call.source = .elements type indices) →
    s.lastVertex call = s.maxElementIndex → s.FetchesOutside call ∨ s.Overflows call

theorem ReachesChecks.lastVertex_lt (h : s.ReachesChecks call) :
    (s.lastVertex call : Int) < 2 ^ 32 := by
  obtain ⟨source, count, primcount⟩ := call
  cases source with
  | arrays first =>
      have hfirst := first.property.2
      have hcount := count.property.2
      unfold lastVertex
      dsimp only
      omega
  | elements type indices =>
    have hspans := getIndexRange_spans (s := s) h.count type indices
    have hlast : (s.getIndexRange count.val type indices).last < 2 ^ 32 := by
      by_cases hvertex : ∃ v, RealIndex (s.index type indices) count.val.toNat
          (s.restartIndex type) v
      · obtain ⟨k, -, hk, -⟩ := hspans.last hvertex
        rw [← hk]
        refine lt_of_lt_of_le (Memory.readLE_lt _ _) ?_
        cases type <;> decide
      · rw [hspans.empty hvertex]
        decide
    exact_mod_cast hlast

theorem ReachesChecks.counted_le (h : s.ReachesChecks call) (a : BufferedAttrib) :
    (a.counted (s.lastVertex call) (call.instances - 1) : Int) ≤ int64Max := by
  have hlast := h.lastVertex_lt
  have hinstances : (call.instances : Int) < 2 ^ 31 := by
    rw [← h.checkedPrimcount_eq]
    unfold checkedPrimcount
    cases call.primcount with
    | none => decide
    | some n => exact n.property.2
  unfold counted int64Max
  split <;> omega

/-- Below 2^31 the cast to `GLint` keeps the last vertex, and above it gives something smaller. -/
theorem bmod_lastVertex (n : Nat) :
    (n < 2 ^ 31 → Int.bmod n (2 ^ 32) = n) ∧ Int.bmod n (2 ^ 32) ≤ n := by
  constructor
  · intro h
    apply Int.bmod_eq_of_le <;> omega
  · rw [Int.bmod_def]
    split <;> omega

theorem fetches_last (h : s.ReachesChecks call) (hdraws : s.Draws call) :
    s.Fetches call (s.lastVertex call) (call.instances - 1) :=
  ⟨(h.ends hdraws.1).2, sub_lt hdraws.2 one_pos⟩

variable {a : BufferedAttrib}

theorem outside_of_limit_lt (h : s.ReachesChecks call) (hdraws : s.Draws call)
    (ha : a ∈ s.activeBufferedAttribs)
    (hlimit : a.cachedElementLimit < a.counted (s.lastVertex call) (call.instances - 1)) :
    s.FetchesOutside call ∨ s.Overflows call := by
  rcases a.cachedElementLimit_exact _ _ (h.counted_le a) with hoverflow | hexact
  · exact .inr (.inl ⟨a, ha, hoverflow⟩)
  · refine .inl (.inr ⟨_, _, fetches_last h hdraws, a, ha, fun hinside => ?_⟩)
    have := hexact.mpr hinside.2
    omega

theorem exists_limit_lt {x : Int} (hx : x ≤ int64Max)
    (hlimit : s.nonInstancedVertexElementLimit < x) :
    ∃ a ∈ s.activeBufferedAttribs, a.divisor = 0 ∧ a.cachedElementLimit < x := by
  by_contra hnone
  push Not at hnone
  have := (le_nonInstancedVertexElementLimit hx).mpr hnone
  omega

theorem fits_of_le_limit (h : s.ReachesChecks call)
    (hlimit : (a.counted (s.lastVertex call) (call.instances - 1) : Int) ≤ a.cachedElementLimit) :
    a.Fits (a.element (s.lastVertex call) (call.instances - 1)) := by
  rcases a.cachedElementLimit_exact _ _ (h.counted_le a) with hoverflow | hexact
  · rw [hoverflow] at hlimit
    unfold kIntegerOverflow at hlimit
    omega
  · exact hexact.mp hlimit

theorem ChecksExactly.fits (hexact : s.ChecksExactly call) (h : s.ReachesChecks call)
    (hdraws : s.Draws call) (hvertices : s.VerticesPass call) (hinstances : s.InstancesPass call)
    (ha : a ∈ s.activeBufferedAttribs) :
    a.Fits (a.element (s.lastVertex call) (call.instances - 1)) := by
  have hcounted := h.counted_le a
  by_cases hdivisor : 0 < a.divisor
  case pos =>
    cases hprimcount : call.primcount with
    | none =>
      have helement : a.element (s.lastVertex call) (call.instances - 1) = 0 := by
        unfold element DrawCall.instances
        rw [if_pos hdivisor, hprimcount]
        exact Nat.zero_div _
      rw [helement]
      exact hexact.divisors hdraws hvertices hprimcount a ha hdivisor
    | some n =>
      have hlimit := hinstances n hprimcount
      have hn : (call.instances : Int) = n.val := by
        rw [← h.checkedPrimcount_eq]
        unfold checkedPrimcount
        rw [hprimcount]
        rfl
      have hpos := hdraws.2
      have hbound : n.val - 1 ≤ int64Max := by
        have := n.property.2
        unfold int64Max
        omega
      apply fits_of_le_limit h
      have hle := (le_instancedVertexElementLimit hbound).mp hlimit a ha hdivisor
      unfold counted
      rw [if_pos hdivisor]
      omega
  case neg =>
    have hzero : a.divisor = 0 := by omega
    have hcount : a.counted (s.lastVertex call) (call.instances - 1) = s.lastVertex call :=
      if_neg hdivisor
    have helement : a.element (s.lastVertex call) (call.instances - 1) = s.lastVertex call :=
      if_neg hdivisor
    -- The check compares the last vertex itself unless it is no `GLint`.
    have hpassed : (s.lastVertex call : Int) ≤ s.nonInstancedVertexElementLimit ∨
        2 ^ 31 ≤ s.lastVertex call := by
      obtain ⟨source, count, primcount⟩ := call
      cases source with
      | arrays first =>
        left
        have hfirst : 0 ≤ first.val := h.source.1
        have hpos : 0 < count.val := h.count
        have hle := hvertices.2
        have hlast : ((first.val + count.val - 1).toNat : Int) = first.val + count.val - 1 :=
          Int.toNat_of_nonneg (by omega)
        exact hlast.trans_le hle
      | elements type indices =>
          by_cases hlarge : 2 ^ 31 ≤ s.lastVertex ⟨.elements type indices, count, primcount⟩
          · exact .inr hlarge
          · left
            have hle := (hvertices.2 hdraws.2).2
            rwa [(bmod_lastVertex _).1 (by omega)] at hle
    rcases hpassed with hle | hlarge
    · rw [hcount] at hcounted
      apply fits_of_le_limit h
      rw [hcount]
      exact (le_nonInstancedVertexElementLimit hcounted).mp hle a ha hzero
    · rw [helement]
      exact hexact.largeVertices hdraws hvertices hinstances hlarge a ha hzero

theorem ChecksExactly.inside (hexact : s.ChecksExactly call) (h : s.ReachesChecks call)
    (hvertices : s.VerticesPass call) (hinstances : s.InstancesPass call) {v i : Nat}
    (hfetches : s.Fetches call v i) (ha : a ∈ s.activeBufferedAttribs) :
    a.Inside (a.element v i) := by
  have hdraws : s.Draws call := ⟨⟨v, hfetches.1⟩, zero_lt_of_lt hfetches.2⟩
  obtain ⟨hfirst, hlast⟩ := h.vertex_bounds hfetches.1
  have hi := hfetches.2
  constructor
  · exact (hexact.offsets hdraws hvertices hinstances a ha).trans
      (address_mono (element_mono hfirst (zero_le i)))
  · apply (hexact.fits h hdraws hvertices hinstances ha).mono
    apply element_mono hlast
    omega

/-- Index data that does not fit in its buffer is read beyond it. -/
theorem outside_of_not_fits {type : DrawElementsType} {indices : Fin (2 ^ 64)} {count : GLint}
    {primcount : Option GLint} (h : s.ReachesChecks ⟨.elements type indices, count, primcount⟩)
    (hinstances : 0 < (⟨.elements type indices, count, primcount⟩ : DrawCall).instances)
    (hfits : ¬ s.IndexDataFits count.val type indices) :
    s.ReadsIndicesOutside ⟨.elements type indices, count, primcount⟩ ∨
      s.Overflows ⟨.elements type indices, count, primcount⟩ := by
  have hcount : 0 < count.val := h.count
  unfold IndexDataFits at hfits
  push Not at hfits
  obtain ⟨buffer, hbuffer, hsize⟩ := hfits
  by_cases hoverflow : 2 ^ 64 ≤ type.size * count.val.toNat + indices.val
  case pos => exact .inr (.inr hoverflow)
  case neg =>
    left
    refine ⟨hinstances, buffer, hbuffer, count.val.toNat - 1, ?_, ?_⟩
    · exact sub_lt (by omega) one_pos
    · have hlast : count.val.toNat - 1 + 1 = count.val.toNat := by omega
      have hlt := hsize (by omega)
      rw [hlast]
      omega

/-- A draw whose vertices do not pass is refused for a reason. -/
theorem ChecksExactly.refused (hexact : s.ChecksExactly call) (h : s.ReachesChecks call)
    (hvertices : ¬ s.VerticesPass call) {error : DrawError}
    (hrefused : s.VerticesRefused call error) :
    s.FetchesOutside call ∨ s.ExceedsMaxElement call ∨ s.Overflows call := by
  by_cases hdraws : s.Draws call
  case neg =>
    rcases hexact.empty hdraws with hpass | hoverflow | houtside
    · exact (hvertices hpass).elim
    · exact .inr (.inr hoverflow)
    · exact .inl (.inl houtside)
  case pos =>
    have hlimit : ∀ a ∈ s.activeBufferedAttribs, a.divisor = 0 →
        a.cachedElementLimit < s.lastVertex call →
          s.FetchesOutside call ∨ s.ExceedsMaxElement call ∨ s.Overflows call := by
      intro a ha hzero hlt
      have hcount : a.counted (s.lastVertex call) (call.instances - 1) = s.lastVertex call :=
        if_neg (by omega)
      rw [← hcount] at hlt
      rcases outside_of_limit_lt h hdraws ha hlt with houtside | hoverflow
      · exact .inl houtside
      · exact .inr (.inr hoverflow)
    have hbound := h.lastVertex_lt
    rcases hrefused with hoverflow | hreason
    · exact .inr (.inr hoverflow)
    obtain ⟨source, count, primcount⟩ := call
    cases source with
    | arrays first =>
      have hfirst : 0 ≤ first.val := h.source.1
      have hpos : 0 < count.val := h.count
      have hlast : ((first.val + count.val - 1).toNat : Int) = first.val + count.val - 1 :=
        Int.toNat_of_nonneg (by omega)
      have hle : first.val + count.val - 1 ≤ int64Max := by
        rw [← hlast]
        have hlt : ((first.val + count.val - 1).toNat : Int) < 2 ^ 32 := hbound
        unfold int64Max
        omega
      obtain ⟨a, ha, hzero, hlt⟩ := exists_limit_lt hle hreason
      exact hlimit a ha hzero (hlt.trans_eq hlast.symm)
    | elements type indices =>
      rcases hreason with hfits | ⟨hpos, ⟨hmax, -⟩ | hlt⟩
      · rcases outside_of_not_fits h hdraws.2 hfits with houtside | hoverflow
        · exact .inl (.inl houtside)
        · exact .inr (.inr hoverflow)
      · rcases hmax.lt_or_eq with hlt | heq
        · exact .inr (.inl ⟨_, _, fetches_last h hdraws, hlt⟩)
        · rcases hexact.maxIndex hdraws ⟨type, indices, rfl⟩ heq.symm with houtside | hoverflow
          · exact .inl houtside
          · exact .inr (.inr hoverflow)
      · have hsmaller := (bmod_lastVertex
          (s.lastVertex ⟨.elements type indices, count, primcount⟩)).2
        obtain ⟨a, ha, hzero, hless⟩ := exists_limit_lt (by unfold int64Max; omega) hlt
        exact hlimit a ha hzero (hless.trans_le hsmaller)

/-- The other direction: what the checks miss would be read, and what they refuse for nothing would
be refused. -/
theorem ReadsInside.checksExactly (hinside : s.ReadsInside call)
    (henabled : s.bufferAccessValidationEnabled) (h : s.ReachesChecks call) :
    s.ChecksExactly call := by
  have hcases := validateDraw_cases henabled h
  -- A draw whose vertices and instances pass is accepted, and reads what is in the buffers.
  have haccepted : s.Draws call → s.VerticesPass call → s.InstancesPass call →
      ∀ v i, s.Fetches call v i → ∀ a ∈ s.activeBufferedAttribs, a.Inside (a.element v i) := by
    intro hdraws hvertices hinstances
    rcases hcases with ⟨-, -, drawn, hok, hdrawn⟩ | ⟨-, -, hfail, -⟩ | ⟨hfail, -⟩
    · rw [hdrawn.mpr (.inr hdraws.1)] at hok
      exact hinside.accepted hok
    · exact (hfail hinstances).elim
    · exact (hfail hvertices).elim
  -- A draw whose vertices do not pass is refused.
  have hrefused : ¬ s.VerticesPass call →
      s.FetchesOutside call ∨ s.ExceedsMaxElement call ∨ s.Overflows call := by
    intro hvertices
    rcases hcases with ⟨hpass, -⟩ | ⟨hpass, -⟩ | ⟨-, error, herror, hfetches, -⟩
    · exact (hvertices hpass).elim
    · exact (hvertices hpass).elim
    · exact hinside.refused error herror hfetches
  constructor
  case empty =>
    intro hempty
    by_cases hvertices : s.VerticesPass call
    · exact .inl hvertices
    right
    rcases hrefused hvertices with (houtside | ⟨v, i, hfetches, -⟩) | hexceeds | hoverflow
    · exact .inr houtside
    · exact (hempty ⟨⟨v, hfetches.1⟩, zero_lt_of_lt hfetches.2⟩).elim
    · obtain ⟨source, count, primcount⟩ := call
      cases source with
      | arrays first => exact hexceeds.elim
      | elements type indices =>
          obtain ⟨v, i, hfetches, -⟩ := hexceeds
          exact (hempty ⟨⟨v, hfetches.1⟩, zero_lt_of_lt hfetches.2⟩).elim
    · exact .inl hoverflow
  case divisors =>
    intro hdraws hvertices hprimcount a ha hdivisor
    have hinstances : s.InstancesPass call := by
      intro n hn
      rw [hprimcount] at hn
      contradiction
    have hfits := (haccepted hdraws hvertices hinstances _ _ (fetches_last h hdraws) a ha).2
    have helement : a.element (s.lastVertex call) (call.instances - 1) = 0 := by
      unfold element DrawCall.instances
      rw [if_pos hdivisor, hprimcount]
      exact Nat.zero_div _
    rwa [helement] at hfits
  case largeVertices =>
    intro hdraws hvertices hinstances _ a ha hzero
    have hfits := (haccepted hdraws hvertices hinstances _ _ (fetches_last h hdraws) a ha).2
    have helement : a.element (s.lastVertex call) (call.instances - 1) = s.lastVertex call :=
      if_neg (by omega)
    rwa [helement] at hfits
  case offsets =>
    intro hdraws hvertices hinstances a ha
    exact (haccepted hdraws hvertices hinstances _ 0 ⟨(h.ends hdraws.1).1, hdraws.2⟩ a ha).1
  case maxIndex =>
    rintro hdraws ⟨type, indices, hsource⟩ hmax
    have hvertices : ¬ s.VerticesPass call := by
      intro hpass
      unfold VerticesPass at hpass
      rw [hsource] at hpass
      have := (hpass.2 hdraws.2).1
      omega
    rcases hrefused hvertices with houtside | hexceeds | hoverflow
    · exact .inl houtside
    · unfold ExceedsMaxElement at hexceeds
      rw [hsource] at hexceeds
      obtain ⟨v, i, hfetches, hlt⟩ := hexceeds
      have := (h.vertex_bounds hfetches.1).2
      omega
    · exact .inr hoverflow

/-- The validation of a draw reads the limits exactly if and only if the draw has none of what it
misses and none of what it refuses for nothing. -/
theorem readsInside_iff (henabled : s.bufferAccessValidationEnabled = true) :
    s.ReadsInside call ↔ (s.ReachesChecks call → s.ChecksExactly call) := by
  constructor
  case mp => exact fun hinside h => hinside.checksExactly henabled h
  case mpr =>
    intro hexact
    by_cases h : s.ReachesChecks call
    case neg => exact .of_not_reaches h
    case pos =>
      have hexact := hexact h
      rcases validateDraw_cases henabled h with
        ⟨hvertices, hinstances, drawn, hok, -⟩ | ⟨hvertices, hdraws, hinstances, hresult⟩ |
          ⟨hvertices, error, herror, -, hreason⟩
      · constructor
        · intro _ v i hfetches a ha
          have hdraws : s.Draws call := ⟨⟨v, hfetches.1⟩, zero_lt_of_lt hfetches.2⟩
          exact hexact.inside h hvertices (hinstances hdraws) hfetches ha
        · intro error herror
          rw [hok] at herror
          contradiction
      · constructor
        · intro hok
          rw [hresult] at hok
          contradiction
        · intro _ _ _
          obtain ⟨n, hprimcount, hlimit⟩ : ∃ n, call.primcount = some n ∧
              s.instancedVertexElementLimit < n.val - 1 := by
            unfold InstancesPass at hinstances
            push Not at hinstances
            exact hinstances
          obtain ⟨a, ha, hdivisor, hless⟩ : ∃ a ∈ s.activeBufferedAttribs, 0 < a.divisor ∧
              a.cachedElementLimit < n.val - 1 := by
            by_contra hnone
            push Not at hnone
            have hbound : n.val - 1 ≤ int64Max := by
              have := n.property.2
              unfold int64Max
              omega
            have := (le_instancedVertexElementLimit hbound).mpr hnone
            omega
          have hn : (call.instances : Int) = n.val := by
            rw [← h.checkedPrimcount_eq]
            unfold checkedPrimcount
            rw [hprimcount]
            rfl
          have hpos := hdraws.2
          have hlt : a.cachedElementLimit < a.counted (s.lastVertex call) (call.instances - 1) := by
            unfold counted
            rw [if_pos hdivisor]
            omega
          rcases outside_of_limit_lt h hdraws ha hlt with houtside | hoverflow
          · exact .inl houtside
          · exact .inr (.inr hoverflow)
      · constructor
        · intro hok
          rw [herror] at hok
          contradiction
        · intro error' herror' _
          exact hexact.refused h hvertices hreason

/-- One attribute of four bytes with room for four vertices, and an element array buffer whose one
index is 2^31. -/
def largeIndexState : DrawState :=
  { bufferAccessValidationEnabled := true
    webglCompatibility := true
    validDrawStates := true
    validDrawElementsStates := true
    transformFeedbackSpace := fun _ _ => true
    maxElementIndex := 2 ^ 32 - 2
    primitiveRestart := false
    elementArrayBuffer := some ⟨fun i => if i = 3 then 0x80 else 0, 4⟩
    clientMemory := fun _ => 0
    activeBufferedAttribs := [⟨16, 0, 0, 4, 4, 0⟩] }

def instancedCall : DrawCall := ⟨.arrays ⟨0, by decide⟩, ⟨4, by decide⟩, some ⟨2, by decide⟩⟩

theorem readsInside_iff_instancedCall : largeIndexState.ReadsInside instancedCall ↔
    (largeIndexState.ReachesChecks instancedCall → largeIndexState.ChecksExactly instancedCall) :=
  readsInside_iff rfl

def largeIndexCall : DrawCall := ⟨.elements .UnsignedInt 0, ⟨1, by decide⟩, none⟩

theorem readsInside_largeIndex : ¬ ∀ (s : DrawState) (call : DrawCall),
    s.bufferAccessValidationEnabled = true → s.ReadsInside call := by
  intro h
  have hinside := h largeIndexState largeIndexCall rfl
  have haccepted : largeIndexState.validateDraw largeIndexCall = .ok true := by decide +kernel
  have hindex : largeIndexState.index .UnsignedInt 0 0 = 2 ^ 31 := by decide +kernel
  have hfetches : largeIndexState.Fetches largeIndexCall (2 ^ 31) 0 :=
    ⟨⟨0, by decide, hindex, nofun⟩, by decide⟩
  have hbounds := hinside.accepted haccepted _ _ hfetches ⟨16, 0, 0, 4, 4, 0⟩ (by decide)
  exact absurd hbounds (by decide +kernel)

end DrawState

end MetalAngle.Gl
