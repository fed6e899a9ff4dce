import MetalAngle.Gl.DrawValidation
import MetalAngle.Gl.IndexRangeSpans

/-!
# What a draw reads and what it is checked for

A draw reads its vertices and instances from the buffers of the attributes and its indices from the
element array buffer.  The checks see its last vertex and its number of instances.
-/

namespace MetalAngle.Gl

open MetalAngle.Metal (DrawElementsType)

namespace DrawState

/-! ## What a draw reads -/

def index (s : DrawState) (type : DrawElementsType) (indices : Nat) (k : Nat) : Nat :=
  ((s.elementArrayBuffer.map ElementArrayBuffer.contents).getD s.clientMemory).readLE type.size
    (indices + type.size * k)

def restartIndex (s : DrawState) (type : DrawElementsType) : Option Nat :=
  if s.primitiveRestart then some (getPrimitiveRestartIndex type) else none

/-- The vertices of a draw. -/
def Vertex (s : DrawState) (call : DrawCall) (v : Nat) : Prop :=
  match call.source with
  | .arrays first => first.val ≤ v ∧ (v : Int) < first.val + call.count.val
  | .elements type indices =>
      RealIndex (s.index type indices) call.count.val.toNat (s.restartIndex type) v

end DrawState

def DrawCall.instances (call : DrawCall) : Nat :=
  match call.primcount with
  | none => 1
  | some primcount => primcount.val.toNat

namespace DrawState

variable {s : DrawState} {call : DrawCall}

/-- A vertex of an instance of the draw. -/
def Fetches (s : DrawState) (call : DrawCall) (v i : Nat) : Prop :=
  s.Vertex call v ∧ i < call.instances

/-- The draw reads indices beyond the element array buffer. -/
def ReadsIndicesOutside (s : DrawState) (call : DrawCall) : Prop :=
  match call.source with
  | .arrays _ => False
  | .elements type indices => 0 < call.instances ∧ ∃ buffer, s.elementArrayBuffer = some buffer ∧
      ∃ k < call.count.val.toNat, buffer.size < indices.val + type.size * (k + 1)

/-- The draw reads bytes that no buffer has. -/
def FetchesOutside (s : DrawState) (call : DrawCall) : Prop :=
  s.ReadsIndicesOutside call ∨ ∃ v i, s.Fetches call v i ∧
    ∃ a ∈ s.activeBufferedAttribs, ¬ a.Inside (a.element v i)

def ExceedsMaxElement (s : DrawState) (call : DrawCall) : Prop :=
  match call.source with
  | .arrays _ => False
  | .elements _ _ => ∃ v i, s.Fetches call v i ∧ s.maxElementIndex < v

/-- The last vertex is no `GLint`, the end of the index data has more than 64 bits, or the limit of
an attribute overflows. -/
def Overflows (s : DrawState) (call : DrawCall) : Prop :=
  (∃ a ∈ s.activeBufferedAttribs, a.cachedElementLimit = kIntegerOverflow) ∨
    match call.source with
    | .arrays first => intMax < first.val + call.count.val - 1
    | .elements type indices => 2 ^ 64 ≤ type.size * call.count.val.toNat + indices.val

/-- What a draw that is accepted reads is in the buffers, and a draw that is refused for what it
reads is refused for a reason. -/
structure ReadsInside (s : DrawState) (call : DrawCall) : Prop where
  accepted : s.validateDraw call = .ok true → ∀ v i, s.Fetches call v i →
    ∀ a ∈ s.activeBufferedAttribs, a.Inside (a.element v i)
  refused : ∀ error, s.validateDraw call = .error error → error.aboutFetches →
    s.FetchesOutside call ∨ s.ExceedsMaxElement call ∨ s.Overflows call

/-! ## What a draw is checked for -/

def firstVertex (s : DrawState) (call : DrawCall) : Nat :=
  match call.source with
  | .arrays first => first.val.toNat
  | .elements type indices => (s.getIndexRange call.count.val type indices).start

def lastVertex (s : DrawState) (call : DrawCall) : Nat :=
  match call.source with
  | .arrays first => (first.val + call.count.val - 1).toNat
  | .elements type indices => (s.getIndexRange call.count.val type indices).last

/-- The arguments and the other state are valid, and the draw is not empty. -/
structure ReachesChecks (s : DrawState) (call : DrawCall) : Prop where
  states : s.validDrawStates
  count : 0 < call.count.val
  primcount : ∀ n, call.primcount = some n → 0 ≤ n.val
  source : match call.source with
    | .arrays first => 0 ≤ first.val ∧ s.transformFeedbackSpace call.count.val
        (call.primcount.elim 1 Subtype.val)
    | .elements type indices => s.validDrawElementsStates ∧
        (s.webglCompatibility → indices.val % type.size = 0 ∧ indices.val < 2 ^ 63) ∧
          (s.elementArrayBuffer = none → indices.val ≠ 0)

def IndexDataFits (s : DrawState) (count : Int) (type : DrawElementsType) (indices : Nat) : Prop :=
  ∀ buffer ∈ s.elementArrayBuffer,
    type.size * count.toNat + indices < 2 ^ 64 ∧ type.size * count.toNat + indices ≤ buffer.size

/-- The vertices pass: the last one as a `GLint` is not beyond the smallest limit. -/
def VerticesPass (s : DrawState) (call : DrawCall) : Prop :=
  match call.source with
  | .arrays first => first.val + call.count.val - 1 ≤ intMax ∧
      first.val + call.count.val - 1 ≤ s.nonInstancedVertexElementLimit
  | .elements type indices => s.IndexDataFits call.count.val type indices ∧
      (0 < call.instances → s.lastVertex call < s.maxElementIndex ∧
        Int.bmod (s.lastVertex call) (2 ^ 32) ≤ s.nonInstancedVertexElementLimit)

/-- The instances of an instanced call pass. -/
def InstancesPass (s : DrawState) (call : DrawCall) : Prop :=
  ∀ n, call.primcount = some n → n.val - 1 ≤ s.instancedVertexElementLimit

/-- The draw has a vertex and an instance. -/
def Draws (s : DrawState) (call : DrawCall) : Prop := (∃ v, s.Vertex call v) ∧ 0 < call.instances

theorem getIndexRange_spans {count : Int} (hcount : 0 < count) (type : DrawElementsType)
    (indices : Nat) : (s.getIndexRange count type indices).Spans
      (RealIndex (s.index type indices) count.toNat (s.restartIndex type)) := by
  have hpos : 0 < count.toNat := by omega
  exact computeTypedIndexRange_spans (s.index type indices) hpos s.primitiveRestart
    (getPrimitiveRestartIndex type)

theorem ReachesChecks.vertex_bounds (h : s.ReachesChecks call) {v : Nat} (hv : s.Vertex call v) :
    s.firstVertex call ≤ v ∧ v ≤ s.lastVertex call := by
  obtain ⟨source, count, primcount⟩ := call
  cases source with
  | arrays first =>
      obtain ⟨hle, hlt⟩ : first.val ≤ v ∧ (v : Int) < first.val + count.val := hv
      unfold firstVertex lastVertex
      dsimp only
      omega
  | elements type indices => exact (getIndexRange_spans h.count type indices).bounds v hv

theorem ReachesChecks.ends (h : s.ReachesChecks call) (hdraws : ∃ v, s.Vertex call v) :
    s.Vertex call (s.firstVertex call) ∧ s.Vertex call (s.lastVertex call) := by
  obtain ⟨source, count, primcount⟩ := call
  cases source with
  | arrays first =>
      have hcount : 0 < count.val := h.count
      have hfirst : 0 ≤ first.val := h.source.1
      unfold Vertex firstVertex lastVertex
      dsimp only
      omega
  | elements type indices =>
      have hspans := getIndexRange_spans (s := s) h.count type indices
      exact ⟨hspans.start hdraws, hspans.last hdraws⟩

/-! ## Results of the checks -/

/-- Why the vertices of a draw do not pass. -/
def VerticesRefused (s : DrawState) (call : DrawCall) (error : DrawError) : Prop :=
  s.Overflows call ∨
    match call.source with
    | .arrays first => s.nonInstancedVertexElementLimit < first.val + call.count.val - 1
    | .elements type indices =>
        ¬ s.IndexDataFits call.count.val type indices ∨
          0 < call.instances ∧ (s.maxElementIndex ≤ s.lastVertex call ∧ error = .ExceedsMaxElement ∨
            s.nonInstancedVertexElementLimit < Int.bmod (s.lastVertex call) (2 ^ 32))

theorem validateDrawArraysCommon_of_reaches {first count : GLint} {primcount : Option GLint}
    (henabled : s.bufferAccessValidationEnabled)
    (h : s.ReachesChecks ⟨.arrays first, count, primcount⟩) :
    s.validateDrawArraysCommon first.val count.val (primcount.elim 1 Subtype.val) =
      if first.val + count.val - 1 > intMax then .error .IntegerOverflow
      else s.validateDrawAttribs (first.val + count.val - 1) := by
  obtain ⟨hfirst, hspace⟩ := h.source
  have hcount : 0 < count.val := h.count
  have hstates := h.states
  unfold validateDrawArraysCommon validateDrawArraysAttribs
  rw [if_neg (by omega), if_neg (by omega), if_neg (by simp [hstates]), if_neg (by omega),
    if_neg (by rw [hspace]; decide), if_neg (by simp [henabled])]

theorem validateDrawElementsCommon_of_reaches {type : DrawElementsType} {indices : Fin (2 ^ 64)}
    {count : GLint} {primcount : Option GLint} (n : Int)
    (h : s.ReachesChecks ⟨.elements type indices, count, primcount⟩) :
    (s.IndexDataFits count.val type indices ∧
      s.validateDrawElementsCommon count.val type indices n =
        s.validateIndexRange count.val type indices n) ∨
    ¬ s.IndexDataFits count.val type indices ∧
      (s.validateDrawElementsCommon count.val type indices n = .error .IntegerOverflow ∨
        s.validateDrawElementsCommon count.val type indices n =
          .error .InsufficientBufferSize) := by
  obtain ⟨helements, hwebgl, hpointer⟩ := h.source
  have hcount : 0 < count.val := h.count
  have hstates := h.states
  unfold validateDrawElementsCommon
  rw [if_neg (by simp [helements]), if_neg (by grind), if_neg (by grind), if_neg (by omega),
    if_neg (by simp [hstates]), if_neg (by omega)]
  cases hbuffer : s.elementArrayBuffer with
  | none =>
    left
    refine ⟨fun buffer hsome => ?_, ?_⟩
    · rw [hbuffer] at hsome
      contradiction
    · rw [if_neg (hpointer hbuffer)]
  | some buffer =>
    have hfits : s.IndexDataFits count.val type indices ↔
        type.size * count.val.toNat + indices < 2 ^ 64 ∧
          type.size * count.val.toNat + indices ≤ buffer.size := by
      unfold IndexDataFits
      rw [hbuffer]
      simp
    rw [hfits]
    dsimp only
    by_cases hwraps : (type.size * count.val.toNat + indices) % 2 ^ 64 < type.size * count.val.toNat
    · right
      rw [if_pos hwraps]
      refine ⟨fun hlt => ?_, .inl rfl⟩
      omega
    · rw [if_neg hwraps]
      have hsum : type.size * count.val.toNat + indices < 2 ^ 64 := by
        omega
      rw [Nat.mod_eq_of_lt hsum]
      by_cases hbig : type.size * count.val.toNat + indices > buffer.size
      · right
        rw [if_pos hbig]
        exact ⟨fun hle => by omega, .inr rfl⟩
      · left
        rw [if_neg hbig]
        exact ⟨⟨hsum, by omega⟩, rfl⟩

theorem validateDrawAttribs_cases (s : DrawState) (maxVertex : Int) :
    maxVertex ≤ s.nonInstancedVertexElementLimit ∧ s.validateDrawAttribs maxVertex = .ok true ∨
      s.nonInstancedVertexElementLimit < maxVertex ∧
        s.validateDrawAttribs maxVertex = .error s.drawAttribsError := by
  unfold validateDrawAttribs
  split
  case isTrue h => exact .inr ⟨h, rfl⟩
  case isFalse h => exact .inl ⟨by omega, rfl⟩

theorem validateIndexRange_cases (henabled : s.bufferAccessValidationEnabled) (count : Int)
    (type : DrawElementsType) (indices : Nat) (n : Int) :
    n ≤ 0 ∧ s.validateIndexRange count type indices n = .ok true ∨
    0 < n ∧ s.maxElementIndex ≤ (s.getIndexRange count type indices).last ∧
      s.validateIndexRange count type indices n = .error .ExceedsMaxElement ∨
    0 < n ∧ s.nonInstancedVertexElementLimit <
        Int.bmod (s.getIndexRange count type indices).last (2 ^ 32) ∧
      s.validateIndexRange count type indices n = .error s.drawAttribsError ∨
    0 < n ∧ (s.getIndexRange count type indices).last < s.maxElementIndex ∧
      Int.bmod (s.getIndexRange count type indices).last (2 ^ 32) ≤
        s.nonInstancedVertexElementLimit ∧
      s.validateIndexRange count type indices n =
        .ok (0 < (s.getIndexRange count type indices).vertexIndexCount) := by
  unfold validateIndexRange
  by_cases hn : 0 < n
  case neg =>
    left
    rw [if_neg (by omega)]
    exact ⟨by omega, rfl⟩
  case pos =>
    right
    rw [if_pos ⟨henabled, hn⟩]
    by_cases hmax : s.maxElementIndex ≤ (s.getIndexRange count type indices).last
    case pos => exact .inl ⟨hn, hmax, if_pos hmax⟩
    case neg =>
      rw [if_neg hmax]
      rcases s.validateDrawAttribs_cases (Int.bmod (s.getIndexRange count type indices).last
        (2 ^ 32)) with ⟨hle, hok⟩ | ⟨hlt, herror⟩
      · rw [hok]
        exact .inr (.inr ⟨hn, by omega, hle, rfl⟩)
      · rw [herror]
        exact .inr (.inl ⟨hn, hlt, rfl⟩)

theorem drawAttribsError_aboutFetches (s : DrawState) : s.drawAttribsError.aboutFetches := by
  unfold drawAttribsError
  split <;> rfl

def checkedPrimcount (call : DrawCall) : Int := call.primcount.elim 1 Subtype.val

theorem ReachesChecks.checkedPrimcount_eq (h : s.ReachesChecks call) :
    checkedPrimcount call = call.instances := by
  obtain ⟨source, count, primcount⟩ := call
  cases primcount with
  | none => rfl
  | some n =>
      have hn : 0 ≤ n.val := h.primcount n rfl
      exact (Int.toNat_of_nonneg hn).symm

theorem validateDrawCommon_cases (henabled : s.bufferAccessValidationEnabled)
    (h : s.ReachesChecks call) :
    s.VerticesPass call ∧ (∃ drawn, s.validateDrawCommon call.source call.count.val
        (checkedPrimcount call) = .ok drawn ∧
          (drawn ↔ call.instances = 0 ∨ ∃ v, s.Vertex call v)) ∨
      ¬ s.VerticesPass call ∧ ∃ error, s.validateDrawCommon call.source call.count.val
        (checkedPrimcount call) = .error error ∧ error.aboutFetches ∧
          s.VerticesRefused call error := by
  have hprimcount := h.checkedPrimcount_eq
  obtain ⟨source, count, primcount⟩ := call
  cases source with
  | arrays first =>
    have hcommon := validateDrawArraysCommon_of_reaches henabled h
    have hvertex : ∃ v, s.Vertex ⟨.arrays first, count, primcount⟩ v := by
      have hcount : 0 < count.val := h.count
      have hfirst : 0 ≤ first.val := h.source.1
      refine ⟨first.val.toNat, ?_⟩
      unfold Vertex
      dsimp only
      omega
    unfold validateDrawCommon VerticesPass VerticesRefused Overflows checkedPrimcount
    dsimp only
    rw [hcommon]
    by_cases hoverflow : first.val + count.val - 1 > intMax
    · right
      rw [if_pos hoverflow]
      exact ⟨fun hpass => by omega, _, rfl, rfl, .inl (.inr hoverflow)⟩
    · rw [if_neg hoverflow]
      rcases s.validateDrawAttribs_cases (first.val + count.val - 1) with ⟨hle, hok⟩ | ⟨hlt, herror⟩
      · exact .inl ⟨⟨by omega, hle⟩, true, hok, fun _ => .inr hvertex, fun _ => rfl⟩
      · exact .inr ⟨fun hpass => by omega, _, herror, s.drawAttribsError_aboutFetches, .inr hlt⟩
  | elements type indices =>
    unfold validateDrawCommon VerticesPass VerticesRefused
    dsimp only
    rcases validateDrawElementsCommon_of_reaches (checkedPrimcount
      ⟨.elements type indices, count, primcount⟩) h with ⟨hfits, hcommon⟩ | ⟨hfits, hcommon⟩
    case inr =>
      right
      refine ⟨fun hpass => hfits hpass.1, ?_⟩
      rcases hcommon with herror | herror
      · exact ⟨_, herror, rfl, .inr (.inl hfits)⟩
      · exact ⟨_, herror, rfl, .inr (.inl hfits)⟩
    case inl =>
      have hspans := getIndexRange_spans (s := s) h.count type indices
      rw [hcommon]
      rw [hprimcount]
      rcases validateIndexRange_cases henabled count.val type indices _ with
        ⟨hn, hok⟩ | ⟨hn, hmax, herror⟩ | ⟨hn, hlt, herror⟩ | ⟨hn, hmax, hle, hok⟩
      · left
        refine ⟨⟨hfits, fun hpos => ?_⟩, _, hok, fun _ => .inl ?_, fun _ => rfl⟩
        · exact absurd (Int.natCast_pos.mpr hpos) (not_lt.mpr hn)
        · exact Nat.eq_zero_of_not_pos fun hpos =>
            absurd (Int.natCast_pos.mpr hpos) (not_lt.mpr hn)
      · right
        refine ⟨fun hpass => ?_, _, herror, rfl,
          .inr (.inr ⟨Int.natCast_pos.mp hn, .inl ⟨hmax, rfl⟩⟩)⟩
        exact absurd hmax (not_le.mpr (hpass.2 (Int.natCast_pos.mp hn)).1)
      · right
        refine ⟨fun hpass => ?_, _, herror, s.drawAttribsError_aboutFetches,
          .inr (.inr ⟨Int.natCast_pos.mp hn, .inr hlt⟩)⟩
        exact absurd hlt (not_lt.mpr (hpass.2 (Int.natCast_pos.mp hn)).2)
      · left
        refine ⟨⟨hfits, fun _ => ⟨hmax, hle⟩⟩, _, hok, ?_⟩
        rw [decide_eq_true_iff, hspans.count]
        exact ⟨.inr, fun hv => hv.resolve_left (Nat.pos_iff_ne_zero.mp (Int.natCast_pos.mp hn))⟩

theorem validateDrawInstancedBase_of_pos (source : VertexSource) {count n : Int}
    (hcount : 0 < count) (hn : 0 < n) : s.validateDrawInstancedBase source count n =
      (s.validateDrawCommon source count n).bind fun drawn =>
        if drawn then s.validateDrawInstancedAttribs n else .ok false := by
  unfold validateDrawInstancedBase
  rw [if_neg (by omega), if_neg (by omega)]
  have hnonzero : count ≠ 0 := by omega
  simp only [hnonzero, if_false]
  rfl

/-- The results of the validation of a draw that reaches the checks. -/
theorem validateDraw_cases (henabled : s.bufferAccessValidationEnabled)
    (h : s.ReachesChecks call) :
    s.VerticesPass call ∧ (s.Draws call → s.InstancesPass call) ∧
        (∃ drawn, s.validateDraw call = .ok drawn ∧
          (drawn ↔ call.instances = 0 ∨ ∃ v, s.Vertex call v)) ∨
      s.VerticesPass call ∧ s.Draws call ∧ ¬ s.InstancesPass call ∧
        s.validateDraw call = .error s.drawAttribsError ∨
      ¬ s.VerticesPass call ∧ ∃ error, s.validateDraw call = .error error ∧
        error.aboutFetches ∧ s.VerticesRefused call error := by
  have hcommon := validateDrawCommon_cases henabled h
  have hcount : 0 < call.count.val := h.count
  cases hprimcount : call.primcount with
  | none =>
    have hvalidate : s.validateDraw call =
        s.validateDrawCommon call.source call.count.val (checkedPrimcount call) := by
      unfold validateDraw checkedPrimcount
      rw [hprimcount]
      rfl
    have hpass : s.InstancesPass call := by
      intro n hn
      rw [hprimcount] at hn
      contradiction
    rw [hvalidate]
    rcases hcommon with ⟨hvertices, hok⟩ | hrefused
    · exact .inl ⟨hvertices, fun _ => hpass, hok⟩
    · exact .inr (.inr hrefused)
  | some n =>
    have hchecked : checkedPrimcount call = n.val := by
      unfold checkedPrimcount
      rw [hprimcount]
      rfl
    have hvalidate : s.validateDraw call =
        s.validateDrawInstancedBase call.source call.count.val n.val := by
      unfold validateDraw
      rw [hprimcount]
    have hinstances : (call.instances : Int) = n.val := by
      rw [← h.checkedPrimcount_eq, hchecked]
    rw [hvalidate]
    rw [hchecked] at hcommon
    by_cases hzero : n.val = 0
    case pos =>
      unfold validateDrawInstancedBase
      rw [if_neg (by omega), if_pos hzero]
      rcases hcommon with ⟨hvertices, hok⟩ | hrefused
      · refine .inl ⟨hvertices, fun hdraws => ?_, hok⟩
        have := hdraws.2
        omega
      · exact .inr (.inr hrefused)
    case neg =>
      rw [validateDrawInstancedBase_of_pos call.source hcount (by omega)]
      rcases hcommon with ⟨hvertices, drawn, hok, hdrawn⟩ | ⟨hvertices, error, herror, hrest⟩
      case inr =>
        rw [herror]
        exact .inr (.inr ⟨hvertices, error, rfl, hrest⟩)
      case inl =>
        rw [hok]
        cases drawn with
        | false =>
            refine .inl ⟨hvertices, fun hdraws => ?_, false, rfl, hdrawn⟩
            exact absurd (hdrawn.mpr (.inr hdraws.1)) Bool.false_ne_true
        | true =>
          have hpass : s.InstancesPass call ↔ n.val - 1 ≤ s.instancedVertexElementLimit := by
            unfold InstancesPass
            rw [hprimcount]
            simp
          have hvertex := (hdrawn.mp rfl).resolve_left (by omega)
          have hinstanced : ((Except.ok true : Except DrawError Bool).bind fun drawn =>
              if drawn then s.validateDrawInstancedAttribs n.val else .ok false) =
                if n.val - 1 > s.instancedVertexElementLimit then .error s.drawAttribsError
                else .ok true := by
            change s.validateDrawInstancedAttribs n.val = _
            unfold validateDrawInstancedAttribs
            rw [if_neg (by simp [henabled])]
          rw [hinstanced]
          by_cases hlimit : n.val - 1 > s.instancedVertexElementLimit
          · right
            left
            rw [if_pos hlimit]
            exact ⟨hvertices, ⟨hvertex, by omega⟩, by rw [hpass]; omega, rfl⟩
          · left
            rw [if_neg hlimit]
            exact ⟨hvertices, fun _ => hpass.mpr (by omega), true, rfl, hdrawn⟩

/-! ## Draws that do not reach the checks -/

theorem validateDrawArraysCommon_arguments (s : DrawState) (first count primcount : Int) :
    (∃ error, s.validateDrawArraysCommon first count primcount = .error error ∧
        error.aboutFetches = false) ∨
      count = 0 ∧ s.validateDrawArraysCommon first count primcount = .ok true ∨
        0 ≤ first ∧ 0 < count ∧ s.validDrawStates ∧
          s.transformFeedbackSpace count primcount := by
  unfold validateDrawArraysCommon
  split_ifs with hfirst hcount hstates hzero hspace
  · exact .inl ⟨_, rfl, rfl⟩
  · exact .inl ⟨_, rfl, rfl⟩
  · exact .inl ⟨_, rfl, rfl⟩
  · exact .inr (.inl ⟨hzero, rfl⟩)
  · exact .inl ⟨_, rfl, rfl⟩
  · right
    right
    refine ⟨by omega, by omega, ?_, ?_⟩
    · simpa using hstates
    · simpa using hspace

theorem validateDrawElementsCommon_arguments (s : DrawState) (count : Int)
    (type : DrawElementsType) (indices : Nat) (primcount : Int) :
    (∃ error, s.validateDrawElementsCommon count type indices primcount = .error error ∧
        error.aboutFetches = false) ∨
      count = 0 ∧ s.validateDrawElementsCommon count type indices primcount = .ok true ∨
        0 < count ∧ s.validDrawStates ∧ s.validDrawElementsStates ∧
          (s.webglCompatibility → indices % type.size = 0 ∧ indices < 2 ^ 63) ∧
            (s.elementArrayBuffer = none → indices ≠ 0) := by
  unfold validateDrawElementsCommon
  by_cases hpointer : s.elementArrayBuffer = none ∧ indices = 0
  · rw [hpointer.1, hpointer.2]
    rw [if_pos rfl]
    split_ifs with helements haligned hoffset hcount hstates hzero
    · exact .inl ⟨_, rfl, rfl⟩
    · exact .inl ⟨_, rfl, rfl⟩
    · exact .inl ⟨_, rfl, rfl⟩
    · exact .inl ⟨_, rfl, rfl⟩
    · exact .inl ⟨_, rfl, rfl⟩
    · exact .inr (.inl ⟨hzero, rfl⟩)
    · exact .inl ⟨_, rfl, rfl⟩
  · have hnonnull : s.elementArrayBuffer = none → indices ≠ 0 := fun hnone hzero =>
      hpointer ⟨hnone, hzero⟩
    by_cases helements : s.validDrawElementsStates
    case neg =>
      rw [if_pos (by simpa using helements)]
      exact .inl ⟨_, rfl, rfl⟩
    rw [if_neg (by simp [helements])]
    by_cases haligned : s.webglCompatibility ∧ indices % type.size ≠ 0
    case pos =>
      rw [if_pos haligned]
      exact .inl ⟨_, rfl, rfl⟩
    rw [if_neg haligned]
    by_cases hoffset : s.webglCompatibility ∧ 2 ^ 63 ≤ indices
    case pos =>
      rw [if_pos hoffset]
      exact .inl ⟨_, rfl, rfl⟩
    rw [if_neg hoffset]
    by_cases hcount : count < 0
    case pos =>
      rw [if_pos hcount]
      exact .inl ⟨_, rfl, rfl⟩
    rw [if_neg hcount]
    by_cases hstates : s.validDrawStates
    case neg =>
      rw [if_pos (by simpa using hstates)]
      exact .inl ⟨_, rfl, rfl⟩
    rw [if_neg (by simp [hstates])]
    by_cases hzero : count = 0
    case pos =>
      rw [if_pos hzero]
      exact .inr (.inl ⟨hzero, rfl⟩)
    have hwebgl : s.webglCompatibility → indices % type.size = 0 ∧ indices < 2 ^ 63 := by
      intro hwebgl
      constructor
      · by_contra hne
        exact haligned ⟨hwebgl, hne⟩
      · by_contra hge
        exact hoffset ⟨hwebgl, not_lt.mp hge⟩
    exact .inr (.inr ⟨by omega, hstates, helements, hwebgl, hnonnull⟩)

theorem validateDrawCommon_arguments (s : DrawState) (call : DrawCall)
    (hprimcount : ∀ n, call.primcount = some n → 0 ≤ n.val) :
    (∃ error, s.validateDrawCommon call.source call.count.val (checkedPrimcount call) =
        .error error ∧ error.aboutFetches = false) ∨
      call.count.val = 0 ∧
        s.validateDrawCommon call.source call.count.val (checkedPrimcount call) = .ok true ∨
      s.ReachesChecks call := by
  obtain ⟨source, count, primcount⟩ := call
  cases source with
  | arrays first =>
      rcases s.validateDrawArraysCommon_arguments first.val count.val (checkedPrimcount
        ⟨.arrays first, count, primcount⟩) with herror | hzero | ⟨hfirst, hcount, hstates, hspace⟩
      · exact .inl herror
      · exact .inr (.inl hzero)
      · exact .inr (.inr ⟨hstates, hcount, hprimcount, hfirst, hspace⟩)
  | elements type indices =>
      rcases s.validateDrawElementsCommon_arguments count.val type indices.val (checkedPrimcount
        ⟨.elements type indices, count, primcount⟩) with herror | hzero | ⟨hcount, hstates, hsource⟩
      · exact .inl herror
      · exact .inr (.inl hzero)
      · exact .inr (.inr ⟨hstates, hcount, hprimcount, hsource⟩)

theorem no_vertex_of_count {call : DrawCall} (hzero : call.count.val = 0) (v : Nat) :
    ¬ s.Vertex call v := by
  unfold Vertex
  rw [hzero]
  cases call.source with
  | arrays first =>
      rintro ⟨hle, hlt⟩
      omega
  | elements type indices =>
      rintro ⟨k, hk, -⟩
      exact absurd hk (Nat.not_lt_zero k)

/-- A call that does not reach the checks is refused for something else, or draws nothing. -/
theorem ReadsInside.of_not_reaches (h : ¬ s.ReachesChecks call) : s.ReadsInside call := by
  have hnothing : ∀ drawn, call.count.val = 0 → s.validateDraw call = .ok drawn →
      s.ReadsInside call := by
    intro drawn hzero hok
    refine ⟨fun _ v i hfetches => (no_vertex_of_count hzero v hfetches.1).elim, ?_⟩
    intro error herror
    rw [hok] at herror
    contradiction
  have hargument : ∀ error, s.validateDraw call = .error error → error.aboutFetches = false →
      s.ReadsInside call := by
    intro error herror hargument
    constructor
    · intro hok
      rw [herror] at hok
      contradiction
    · intro error' herror' hfetches
      rw [herror] at herror'
      obtain rfl := Except.error.inj herror'
      rw [hargument] at hfetches
      contradiction
  cases hprimcount : call.primcount with
  | none =>
    have hvalidate : s.validateDraw call =
        s.validateDrawCommon call.source call.count.val (checkedPrimcount call) := by
      unfold validateDraw checkedPrimcount
      rw [hprimcount]
      rfl
    rcases s.validateDrawCommon_arguments call (by simp [hprimcount]) with
      ⟨error, herror, hfetches⟩ | ⟨hzero, hok⟩ | hreaches
    · exact hargument error (hvalidate.trans herror) hfetches
    · exact hnothing true hzero (hvalidate.trans hok)
    · exact (h hreaches).elim
  | some n =>
    have hvalidate : s.validateDraw call =
        s.validateDrawInstancedBase call.source call.count.val n.val := by
      unfold validateDraw
      rw [hprimcount]
    by_cases hnegative : n.val < 0
    case pos =>
      refine hargument .NegativePrimcount (hvalidate.trans ?_) rfl
      unfold validateDrawInstancedBase
      rw [if_pos hnegative]
    case neg =>
      have hchecked : checkedPrimcount call = n.val := by
        unfold checkedPrimcount
        rw [hprimcount]
        rfl
      have hcommon := s.validateDrawCommon_arguments call (by
        intro m hm
        rw [hprimcount] at hm
        cases hm
        omega)
      rw [hchecked] at hcommon
      unfold validateDrawInstancedBase at hvalidate
      rw [if_neg hnegative] at hvalidate
      rcases hcommon with ⟨error, herror, hfetches⟩ | ⟨hzero, hok⟩ | hreaches
      · refine hargument error (hvalidate.trans ?_) hfetches
        rw [herror]
        split <;> rfl
      · refine hnothing true hzero (hvalidate.trans ?_)
        rw [hok, hzero]
        split <;> rfl
      · exact (h hreaches).elim

end DrawState

end MetalAngle.Gl
