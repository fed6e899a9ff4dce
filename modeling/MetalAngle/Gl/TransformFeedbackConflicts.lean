import MetalAngle.Gl.BindingCounts
import MetalAngle.Gl.BufferBindingsCaches

/-!
# Conflicts of vertex arrays with transform feedback

A vertex array caches which of its bindings have a buffer that is bound for transform feedback too.
The cached mask of the current vertex array is right as long as no vertex array becomes current
whose mask has missed such a binding.
-/

namespace MetalAngle.Gl.Bindings

open LabelledRun Observers VertexArray
open Function (update update_self update_of_ne)

namespace Buffer

theorem indexed_pos_of_conflict {b : Buffer} (h : b.isBoundForTransformFeedbackAndOtherUse) :
    0 < b.mTransformFeedbackIndexedBindingCount :=
  (of_decide_eq_true h).1

theorem conflict_of_indexed_pos {b : Buffer} (huse : 0 < b.nonTFBindingCount)
    (h : 0 < b.mTransformFeedbackIndexedBindingCount) :
    b.isBoundForTransformFeedbackAndOtherUse := by
  unfold nonTFBindingCount at huse
  apply decide_eq_true
  constructor
  · exact h
  · omega

end Buffer

namespace VertexArray

variable {vao : VertexArray} {buffers : Buffers} {b : AttribIndex}

def conflictMask (vao : VertexArray) (b : AttribIndex) : Bool :=
  vao.mCachedTransformFeedbackConflictedBindingsMask b

theorem updateCachedTransformFeedbackBindingValidation_mask {p : BufferPtr}
    (hp : (vao.mVertexBindings b).mBuffer = some p) :
    (vao.updateCachedTransformFeedbackBindingValidation buffers b).conflictMask b =
      (buffers p).isBoundForTransformFeedbackAndOtherUse := by
  unfold updateCachedTransformFeedbackBindingValidation conflictMask
  dsimp only
  rw [update_self, hp]
  rfl

theorem updateCachedTransformFeedbackBindingValidation_mask_of_ne {b' : AttribIndex} (hb : b ≠ b') :
    (vao.updateCachedTransformFeedbackBindingValidation buffers b').conflictMask b =
      vao.conflictMask b :=
  update_of_ne hb _ _

theorem onSubjectStateChange_mask {p : BufferPtr} (hp : (vao.mVertexBindings b).mBuffer = some p)
    (index : SubjectIndex) (message : SubjectMessage) :
    (vao.onSubjectStateChange buffers index message).conflictMask b = vao.conflictMask b ∨
      message = .BindingChanged ∧ (vao.onSubjectStateChange buffers index message).conflictMask b =
        (buffers p).isBoundForTransformFeedbackAndOtherUse := by
  cases message with
  | BindingChanged =>
    cases index with
    | elementArrayBuffer => exact .inl rfl
    | vertexBuffer b' =>
        by_cases hb : b = b'
        · subst hb
          exact .inr ⟨rfl, updateCachedTransformFeedbackBindingValidation_mask hp⟩
        · exact .inl (updateCachedTransformFeedbackBindingValidation_mask_of_ne hb)
  | SubjectChanged =>
    left
    cases index with
    | elementArrayBuffer => rfl
    | vertexBuffer b' =>
        unfold onSubjectStateChange updateCachedBufferBindingSize
        dsimp only
        split <;> rfl
  | ContentsChanged => cases index <;> exact .inl rfl
  | SubjectMapped => cases index <;> exact .inl rfl
  | SubjectUnmapped => cases index <;> exact .inl rfl

theorem setVertexAttribBinding_mask (i b' : AttribIndex) :
    (vao.setVertexAttribBinding buffers i b').conflictMask = vao.conflictMask := by
  unfold setVertexAttribBinding conflictMask
  split <;> rfl

theorem setVertexAttribFormatImpl_mask (i : AttribIndex) (format : FormatID)
    (relativeOffset : Nat) :
    (vao.setVertexAttribFormatImpl i format relativeOffset).conflictMask = vao.conflictMask := by
  unfold setVertexAttribFormatImpl conflictMask
  dsimp only
  split <;> rfl

theorem enableAttribute_mask (i : AttribIndex) (enabledState : Bool) :
    (vao.enableAttribute i enabledState).conflictMask = vao.conflictMask := by
  unfold enableAttribute conflictMask
  split <;> rfl

theorem bindBuffer_mask {boundBuffer : Option BufferPtr} {offset : Int} {stride : Nat} :
    (vao.bindBuffer buffers b boundBuffer offset stride).conflictMask =
      ((vao.rebindBuffer b boundBuffer offset stride).updateCachedTransformFeedbackBindingValidation
        buffers b).conflictMask := by
  unfold bindBuffer updateCachedBufferBindingSize conflictMask
  split <;> rfl

end VertexArray

namespace Context

variable {caps : Caps} {c c' : Context caps}

/-! ## Right masks -/

def indexedCount (c : Context caps) (p : BufferPtr) : Int :=
  (c.buffers p).mTransformFeedbackIndexedBindingCount

/-- A binding in the mask of a vertex array has an indexed binding of its buffer, and the mask of
the current vertex array has all of them. -/
structure Masked (c : Context caps) : Prop where
  sound : ∀ v b p, c.vertexBuffer v b = some p → (c.vertexArrays v).conflictMask b →
    0 < c.indexedCount p
  complete : ∀ b p, c.vertexBuffer c.mVertexArray b = some p → 0 < c.indexedCount p →
    (c.vertexArrays c.mVertexArray).conflictMask b

section

variable (h : c.Masked)
include h

theorem Masked.of_eq (hcurrent : c'.mVertexArray = c.mVertexArray)
    (hindexed : ∀ p, c'.indexedCount p = c.indexedCount p)
    (hbinding : ∀ v b p, c'.vertexBuffer v b = some p → c.vertexBuffer v b = some p ∧
      (c'.vertexArrays v).conflictMask b = (c.vertexArrays v).conflictMask b) : c'.Masked where
  sound v b p hp hmask := by
    obtain ⟨hbound, hsame⟩ := hbinding v b p hp
    rw [hsame] at hmask
    rw [hindexed]
    exact h.sound v b p hbound hmask
  complete b p hp hpos := by
    obtain ⟨hbound, hsame⟩ := hbinding _ b p hp
    rw [hcurrent] at hbound
    rw [hindexed] at hpos
    rw [hsame, hcurrent]
    exact h.complete b p hbound hpos

theorem Masked.of_vertexArrays_eq (hcurrent : c'.mVertexArray = c.mVertexArray)
    (hindexed : ∀ p, c'.indexedCount p = c.indexedCount p)
    (hvertexArrays : c'.vertexArrays = c.vertexArrays) : c'.Masked := by
  apply h.of_eq hcurrent hindexed
  intro v b p hp
  unfold vertexBuffer at hp ⊢
  rw [hvertexArrays] at hp ⊢
  exact ⟨hp, rfl⟩

theorem Masked.modifyVertexArray (v : VertexArrayID) {f : VertexArray → VertexArray}
    (hbuffers : VertexArray.SameBuffers (c.vertexArrays v) (f (c.vertexArrays v)))
    (hmask : (f (c.vertexArrays v)).conflictMask = (c.vertexArrays v).conflictMask) :
    (c.modifyVertexArray v f).Masked := by
  refine h.of_eq rfl (fun _ => rfl) fun w b p hp => ?_
  unfold vertexBuffer at hp ⊢
  rw [vertexArrays_modifyVertexArray] at hp ⊢
  by_cases hw : w = v
  · subst hw
    rw [update_self, hbuffers.vertexBuffer] at hp
    rw [update_self, hmask]
    exact ⟨hp, rfl⟩
  · rw [update_of_ne hw] at hp ⊢
    exact ⟨hp, rfl⟩

theorem Masked.modifyBuffer (buffer : Option BufferPtr) {f : Buffer → Buffer}
    (hindexed : ∀ b, (f b).mTransformFeedbackIndexedBindingCount =
      b.mTransformFeedbackIndexedBindingCount) : (c.modifyBuffer buffer f).Masked := by
  refine h.of_vertexArrays_eq rfl (fun p => ?_) rfl
  unfold indexedCount Context.modifyBuffer
  dsimp only
  split
  · exact hindexed _
  · rfl

theorem Masked.onStateChange (buffer : Option BufferPtr) {message : SubjectMessage}
    (hmessage : message ≠ .BindingChanged) : (c.onStateChange buffer message).Masked := by
  refine h.of_eq rfl (fun _ => rfl) fun v b p hp => ?_
  have hkept : (((c.onStateChange buffer message).vertexArrays v).mVertexBindings b).mBuffer =
        some p ∧
      ((c.onStateChange buffer message).vertexArrays v).conflictMask b =
        (c.vertexArrays v).conflictMask b := by
    have hold : c.vertexBuffer v b = some p := by
      rw [← hp]
      exact ((onStateChange_told buffer message v).sameBuffers.vertexBuffer b).symm
    refine onStateChange_preserves (R := fun vao => (vao.mVertexBindings b).mBuffer = some p ∧
      vao.conflictMask b = (c.vertexArrays v).conflictMask b) buffer ?_ ⟨hold, rfl⟩
    rintro vao index ⟨hbuffer, hmask⟩
    have htold : VertexArray.Told vao (vao.onSubjectStateChange c.buffers index message) :=
      onSubjectStateChange_told index message
    refine ⟨by rw [htold.bindings, hbuffer], ?_⟩
    rcases vao.onSubjectStateChange_mask hbuffer index message with hsame | ⟨hbinding, -⟩
    · exact hsame.trans hmask
    · exact absurd hbinding hmessage
  refine ⟨?_, hkept.2⟩
  rw [← hp]
  exact ((onStateChange_told buffer message v).sameBuffers.vertexBuffer b).symm

end

/-! ## Bindings of transform feedback -/

/-- The buffers of the current vertex array count a use that is not for transform feedback. -/
def UsesCounted (c : Context caps) : Prop :=
  ∀ b p, c.vertexBuffer c.mVertexArray b = some p → 0 < (c.buffers p).nonTFBindingCount

theorem Counted.usesCounted (h : c.Counted) : c.UsesCounted := by
  intro b p hp
  have hbound := pointsAt_le_pointing c.mBoundBuffers .TransformFeedback p
  have hused : 0 < pointing (c.vertexBuffer c.mVertexArray) p := pointing_pos.mpr ⟨b, hp⟩
  have helement := pointsAt_nonneg (c.elementArrayBuffer c.mVertexArray) p
  rw [h.nonTF]
  unfold nonTFUses
  omega

theorem UsesCounted.of_same (h : c.UsesCounted) (hslots : SameSlots c c')
    (hnonTF : ∀ p, (c'.buffers p).nonTFBindingCount = (c.buffers p).nonTFBindingCount) :
    c'.UsesCounted := by
  intro b p hp
  rw [hslots.vertexArray, hslots.vertexBuffer] at hp
  rw [hnonTF]
  exact h b p hp

theorem UsesCounted.onTFBindingChanged (h : c.UsesCounted) (buffer : Option BufferPtr)
    (bound : Bool) : (c.onTFBindingChanged buffer bound true).UsesCounted := by
  apply h.of_same (sameSlots_onTFBindingChanged buffer bound true)
  intro p
  rw [(countsChanged_onTFBindingChanged buffer bound).nonTF, add_zero]

theorem Masked.onTFBindingChanged (h : c.Masked) (hwell : c.WellFormed) (huses : c.UsesCounted)
    (buffer : Option BufferPtr) (bound : Bool) :
    (c.onTFBindingChanged buffer bound true).Masked := by
  cases buffer with
  | none => exact h.of_vertexArrays_eq rfl (fun _ => rfl) rfl
  | some q =>
    obtain ⟨counted, hcounted⟩ : ∃ counted : Context caps, counted =
      c.modifyBuffer (some q) fun b => b.onTFBindingChanged bound true := ⟨_, rfl⟩
    have hregistered : Registered counted.bound counted.observers :=
      hcounted ▸ (hwell.modifyBuffer (f := fun b => b.onTFBindingChanged bound true) (some q)
        fun _ => rfl).registered
    have hvertexArrays : counted.vertexArrays = c.vertexArrays := hcounted ▸ rfl
    have hcurrent : counted.mVertexArray = c.mVertexArray := hcounted ▸ rfl
    have hother : ∀ p, p ≠ q → counted.indexedCount p = c.indexedCount p := by
      intro p hp
      unfold indexedCount
      rw [hcounted, modifyBuffer_of_ne hp]
    have hnonTF : ∀ p, (counted.buffers p).nonTFBindingCount = (c.buffers p).nonTFBindingCount := by
      intro p
      have hchanged := (countsChanged_onTFBindingChanged (c := c) (some q) bound).nonTF p
      rw [add_zero] at hchanged
      rw [hcounted]
      exact hchanged
    have htold : ∀ v, VertexArray.Told (counted.vertexArrays v)
        ((counted.onStateChange (some q) .BindingChanged).vertexArrays v) :=
      onStateChange_told (some q) .BindingChanged
    -- What the recomputed mask satisfies, and so does the mask of a binding of another buffer.
    have hmask : ∀ v b p (R : Bool → Prop), counted.vertexBuffer v b = some p →
        R (counted.buffers p).isBoundForTransformFeedbackAndOtherUse →
        (p ≠ q → R ((c.vertexArrays v).conflictMask b)) →
        R (((counted.onStateChange (some q) .BindingChanged).vertexArrays v).conflictMask b) := by
      intro v b p R hp hcomputed hold
      refine onStateChange_restores (.vertexBuffer b)
        (I := fun vao => (vao.mVertexBindings b).mBuffer = some p)
          (R := fun vao => R (vao.conflictMask b)) hregistered ?_ ?_ ?_ hp ?_
      · intro vao index hvao
        have hvaoTold : VertexArray.Told vao
            (vao.onSubjectStateChange counted.buffers index .BindingChanged) :=
          onSubjectStateChange_told index .BindingChanged
        rw [hvaoTold.bindings, hvao]
      · intro vao hvao
        change R ((vao.updateCachedTransformFeedbackBindingValidation counted.buffers
          b).conflictMask b)
        rwa [updateCachedTransformFeedbackBindingValidation_mask hvao]
      · intro vao index hvao hR
        rcases vao.onSubjectStateChange_mask hvao index .BindingChanged with
          hsame | ⟨-, hrecomputed⟩
        · rwa [hsame]
        · rwa [hrecomputed]
      · by_cases hpq : p = q
        · subst hpq
          exact .inl hp
        · right
          rw [hvertexArrays]
          exact hold hpq
    have hresult : c.onTFBindingChanged (some q) bound true =
        counted.onStateChange (some q) .BindingChanged := by
      rw [hcounted]
      rfl
    rw [hresult]
    constructor
    case sound =>
      intro v b p hp
      have hbound : counted.vertexBuffer v b = some p := by
        rw [← hp]
        exact ((htold v).sameBuffers.vertexBuffer b).symm
      apply hmask v b p (fun conflict => conflict → 0 < counted.indexedCount p) hbound
      · exact Buffer.indexed_pos_of_conflict
      · intro hpq hold
        rw [hother p hpq]
        apply h.sound v b p _ hold
        unfold vertexBuffer at hbound ⊢
        rwa [hvertexArrays] at hbound
    case complete =>
      intro b p hp hpos
      have hbound : counted.vertexBuffer counted.mVertexArray b = some p := by
        rw [← hp]
        exact ((htold counted.mVertexArray).sameBuffers.vertexBuffer b).symm
      have hbound' : c.vertexBuffer c.mVertexArray b = some p := by
        unfold vertexBuffer at hbound ⊢
        rwa [hvertexArrays, hcurrent] at hbound
      apply hmask counted.mVertexArray b p (fun conflict => conflict) hbound
      · have huse := huses b p hbound'
        rw [← hnonTF] at huse
        exact Buffer.conflict_of_indexed_pos huse hpos
      · intro hpq
        change 0 < counted.indexedCount p at hpos
        rw [hother p hpq] at hpos
        rw [hcurrent]
        exact h.complete b p hbound' hpos

/-! ## Other bindings -/

theorem CountsChanged.indexedCount {n g : BufferPtr → Int}
    (h : CountsChanged c c' n (fun _ => 0) g) (p : BufferPtr) :
    c'.indexedCount p = c.indexedCount p :=
  (h.indexed p).trans (add_zero _)

theorem Masked.updateBufferBinding (h : c.Masked) (target : BufferBinding)
    (buffer : Option BufferPtr) : (c.updateBufferBinding target buffer).Masked := by
  unfold Context.updateBufferBinding
  split
  case isTrue htarget =>
    have hreleased : CountsChanged c ((c.onTFBindingChanged (c.mBoundBuffers target) false
        false).setBoundBuffer target buffer) _ _ _ :=
      (countsChanged_onTFBindingChanged_generic _ false).of_eq rfl
    have hcounts := hreleased.trans (countsChanged_onTFBindingChanged_generic buffer true)
    exact h.of_vertexArrays_eq rfl hcounts.indexedCount rfl
  case isFalse =>
    have hcounts := countsChanged_release_bind ((c.onNonTFBindingChanged (c.mBoundBuffers target)
      (-1)).setBoundBuffer target buffer) buffer rfl
    exact h.of_vertexArrays_eq rfl hcounts.indexedCount rfl

theorem Masked.updateIndexedBufferBinding (h : c.Masked) (point : IndexedPoint caps)
    (buffer : Option BufferPtr) : (c.updateIndexedBufferBinding point buffer).Masked := by
  have hcounts := countsChanged_release_bind ((c.onNonTFBindingChanged (c.mIndexedBuffers point)
    (-1)).setIndexedBuffer point buffer) buffer rfl
  exact h.of_vertexArrays_eq rfl hcounts.indexedCount rfl

theorem Masked.setElementArrayBuffer (h : c.Masked) (buffer : Option BufferPtr) :
    (c.setElementArrayBuffer buffer).Masked := by
  refine h.of_eq rfl (countsChanged_setElementArrayBuffer buffer).indexedCount fun v b p hp => ?_
  rw [vertexBuffer_setElementArrayBuffer] at hp
  refine ⟨hp, ?_⟩
  rw [vertexArrays_setElementArrayBuffer]
  by_cases hv : v = c.mVertexArray
  · subst hv
    rw [update_self]
    rfl
  · rw [update_of_ne hv]

/-- The mask of the binding is computed from the counts that have the new use. -/
theorem Masked.bindVertexBufferImpl (h : c.Masked) (hcounted : c.Counted) (b : AttribIndex)
    (boundBuffer : Option BufferPtr) (offset : Int) (stride : Nat) :
    (c.bindVertexBufferImpl b boundBuffer offset stride).Masked := by
  have huses : (c.bindVertexBufferImpl b boundBuffer offset stride).UsesCounted :=
    (hcounted.bindVertexBufferImpl b boundBuffer offset stride).usesCounted
  revert huses
  unfold Context.bindVertexBufferImpl
  dsimp only
  split
  case isTrue => exact fun _ => h
  case isFalse =>
    intro huses
    obtain ⟨rebound, hrebound⟩ : ∃ rebound, rebound = c.rebindVertexBuffer b boundBuffer offset
      stride := ⟨_, rfl⟩
    have hindexed : ∀ p, rebound.indexedCount p = c.indexedCount p :=
      hrebound ▸ (countsChanged_rebindVertexBuffer b boundBuffer offset stride).indexedCount
    have hcurrent : rebound.mVertexArray = c.mVertexArray := hrebound ▸ rfl
    have hvertexArrays : rebound.vertexArrays = update c.vertexArrays c.mVertexArray
        ((c.vertexArrays c.mVertexArray).bindBuffer rebound.buffers b boundBuffer offset stride) :=
      hrebound ▸ vertexArrays_rebindVertexBuffer b boundBuffer offset stride
    have hself : rebound.vertexBuffer c.mVertexArray =
        update (c.vertexBuffer c.mVertexArray) b boundBuffer :=
      hrebound ▸ vertexBuffer_rebindVertexBuffer b boundBuffer offset stride
    have hbinding : ∀ v b' p, v ≠ c.mVertexArray ∨ b' ≠ b → rebound.vertexBuffer v b' = some p →
        c.vertexBuffer v b' = some p ∧
          (rebound.vertexArrays v).conflictMask b' = (c.vertexArrays v).conflictMask b' := by
      intro v b' p hother hp
      by_cases hv : v = c.mVertexArray
      · subst hv
        have hb := hother.resolve_left (not_not.mpr rfl)
        rw [hself, update_of_ne hb] at hp
        refine ⟨hp, ?_⟩
        rw [hvertexArrays, update_self, bindBuffer_mask,
          updateCachedTransformFeedbackBindingValidation_mask_of_ne hb]
        rfl
      · unfold vertexBuffer at hp ⊢
        rw [hvertexArrays, update_of_ne hv] at hp ⊢
        exact ⟨hp, rfl⟩
    have hmask : ∀ p, rebound.vertexBuffer c.mVertexArray b = some p →
        (rebound.vertexArrays c.mVertexArray).conflictMask b =
          (rebound.buffers p).isBoundForTransformFeedbackAndOtherUse := by
      intro p hp
      rw [hself, update_self] at hp
      rw [hvertexArrays, update_self, bindBuffer_mask]
      apply updateCachedTransformFeedbackBindingValidation_mask
      unfold rebindBuffer
      rw [setBinding_bindings, update_self]
      exact hp
    rw [← hrebound] at huses ⊢
    constructor
    case sound =>
      intro v b' p hp hconflict
      by_cases hother : v ≠ c.mVertexArray ∨ b' ≠ b
      · obtain ⟨hbound, hsame⟩ := hbinding v b' p hother hp
        rw [hsame] at hconflict
        rw [hindexed]
        exact h.sound v b' p hbound hconflict
      · obtain ⟨hv, hb⟩ := not_or.mp hother
        obtain rfl := not_not.mp hv
        obtain rfl := not_not.mp hb
        rw [hmask p hp] at hconflict
        exact Buffer.indexed_pos_of_conflict hconflict
    case complete =>
      intro b' p hp hpos
      have huse := huses b' p hp
      rw [hcurrent] at hp ⊢
      by_cases hb : b' = b
      · subst hb
        rw [hmask p hp]
        exact Buffer.conflict_of_indexed_pos huse hpos
      · obtain ⟨hbound, hsame⟩ := hbinding _ b' p (.inr hb) hp
        rw [hindexed] at hpos
        rw [hsame]
        exact h.complete b' p hbound hpos

/-! ## Container objects -/

/-- The mask of the vertex array has the bindings whose buffers are bound for transform feedback. -/
def KnowsConflicts (c : Context caps) (v : VertexArrayID) : Prop :=
  v = c.mVertexArray ∨ ∀ b, ∀ p ∈ c.vertexBuffer v b, 0 < c.indexedCount p →
    (c.vertexArrays v).conflictMask b

instance (v : VertexArrayID) : Decidable (c.KnowsConflicts v) :=
  inferInstanceAs (Decidable (_ ∨ ∀ _, _))

variable {v : VertexArrayID}

theorem Masked.setVertexArrayBinding (h : c.Masked)
    (hknows : c.KnowsConflicts v) : (c.setVertexArrayBinding v).Masked := by
  by_cases hv : v = c.mVertexArray
  case pos =>
    unfold Context.setVertexArrayBinding
    rwa [if_pos hv]
  case neg =>
    obtain ⟨released, hreleased⟩ : ∃ released : Context caps, released =
      c.onVertexArrayBindingChanged c.mVertexArray (-1) := ⟨_, rfl⟩
    obtain ⟨current, hcurrent⟩ : ∃ current, current = c.setVertexArrayBinding v := ⟨_, rfl⟩
    have hswitched : current =
        { released with mVertexArray := v }.onVertexArrayBindingChanged v 1 := by
      rw [hcurrent, hreleased]
      unfold Context.setVertexArrayBinding
      rw [if_neg hv]
    have hvertexArrays : current.vertexArrays = c.vertexArrays := by
      have hreleased' : released.vertexArrays = c.vertexArrays :=
        hreleased ▸ (onVertexArrayBindingChanged_slots c.mVertexArray (-1)).1
      rw [hswitched, (onVertexArrayBindingChanged_slots v 1).1]
      exact hreleased'
    have hindexed : ∀ p, current.indexedCount p = c.indexedCount p := by
      intro p
      have hreleased' : released.indexedCount p = c.indexedCount p :=
        hreleased ▸ (countsChanged_onVertexArrayBindingChanged c.mVertexArray (-1)).indexedCount p
      rw [hswitched, (countsChanged_onVertexArrayBindingChanged v 1).indexedCount]
      exact hreleased'
    have hid : current.mVertexArray = v := by
      rw [hcurrent, setVertexArrayBinding_current]
    rw [← hcurrent]
    constructor
    case sound =>
      intro w b p hp hmask
      unfold vertexBuffer at hp
      rw [hvertexArrays] at hp hmask
      rw [hindexed]
      exact h.sound w b p hp hmask
    case complete =>
      intro b p hp hpos
      unfold vertexBuffer at hp
      rw [hid, hvertexArrays] at hp
      rw [hindexed] at hpos
      rw [hid, hvertexArrays]
      exact hknows.resolve_left hv b p hp hpos

theorem Masked.onTransformFeedbackBindingChanged (h : c.Masked) (hwell : c.WellFormed)
    (huses : c.UsesCounted) (t : TransformFeedbackID) (bound : Bool) :
    (c.onTransformFeedbackBindingChanged t bound).Masked ∧
      (c.onTransformFeedbackBindingChanged t bound).UsesCounted := by
  obtain ⟨hmasked, -, hcounted⟩ := List.foldlRecOn (motive := fun c' : Context caps =>
      c'.Masked ∧ c'.WellFormed ∧ c'.UsesCounted)
    (List.finRange caps.maxTransformFeedbackSeparateAttributes)
    (fun c index => c.onTFBindingChanged (c.transformFeedbackBuffer t index) bound true)
    ⟨h, hwell, huses⟩ fun _ hc index _ =>
      ⟨hc.1.onTFBindingChanged hc.2.1 hc.2.2 _ bound, hc.2.1.onTFBindingChanged _ bound true,
        hc.2.2.onTFBindingChanged _ bound⟩
  exact ⟨hmasked, hcounted⟩

theorem Masked.setTransformFeedbackBinding (h : c.Masked) (hwell : c.WellFormed)
    (huses : c.UsesCounted) (t : TransformFeedbackID) :
    (c.setTransformFeedbackBinding t).Masked := by
  unfold Context.setTransformFeedbackBinding
  split
  case isTrue => exact h
  case isFalse =>
    obtain ⟨hmasked, hcounted⟩ := h.onTransformFeedbackBindingChanged hwell huses
      c.mTransformFeedback false
    have hreleased := uncounted_wellFormed.onTransformFeedbackBindingChanged hwell
      c.mTransformFeedback false
    refine (Masked.onTransformFeedbackBindingChanged ?_ ?_ ?_ t true).1
    · exact hmasked.of_vertexArrays_eq rfl (fun _ => rfl) rfl
    · exact hreleased.of_eq rfl rfl
    · exact hcounted

theorem Masked.bindIndexedBuffer (h : c.Masked) (hwell : c.WellFormed) (huses : c.UsesCounted)
    (index : Fin caps.maxTransformFeedbackSeparateAttributes) (buffer : Option BufferPtr) :
    (c.bindIndexedBuffer index buffer).Masked := by
  apply Masked.onTFBindingChanged
  · exact (h.onTFBindingChanged hwell huses _ false).of_vertexArrays_eq rfl (fun _ => rfl) rfl
  · exact (hwell.onTFBindingChanged _ false true).of_eq rfl rfl
  · exact huses.onTFBindingChanged _ false

/-! ## Deletion of buffers -/

theorem Masked.detachTransformFeedbackBuffer (h : c.Masked) (hwell : c.WellFormed)
    (huses : c.UsesCounted) (bufferID : BufferID)
    (index : Fin caps.maxTransformFeedbackSeparateAttributes) :
    (c.detachTransformFeedbackBuffer bufferID index).Masked := by
  unfold Context.detachTransformFeedbackBuffer
  dsimp only
  split
  · exact (h.onTFBindingChanged hwell huses _ false).of_vertexArrays_eq rfl (fun _ => rfl) rfl
  · exact h

/-- The binding that loses its buffer keeps its place in the mask. -/
theorem Masked.detachVertexBuffer (h : c.Masked) (bufferID : BufferID) (b : AttribIndex) :
    (c.detachVertexBuffer bufferID b).Masked := by
  by_cases hid : c.bufferId (c.vertexBuffer c.mVertexArray b) = bufferID
  case neg =>
    unfold Context.detachVertexBuffer
    rwa [if_neg hid]
  case pos =>
    obtain ⟨hcounts, hcurrent, -⟩ := countsChanged_detachVertexBuffer (c := c) bufferID hid
    refine h.of_eq hcurrent hcounts.indexedCount fun v b' p hp => ?_
    unfold vertexBuffer at hp ⊢
    rw [vertexArrays_detachVertexBuffer b bufferID hid] at hp ⊢
    by_cases hv : v = c.mVertexArray
    · subst hv
      rw [update_self, detachBuffer_bindings] at hp
      rw [update_self]
      refine ⟨?_, rfl⟩
      by_cases hb : b' = b
      · subst hb
        rw [update_self] at hp
        contradiction
      · rwa [update_of_ne hb] at hp
    · rw [update_of_ne hv] at hp ⊢
      exact ⟨hp, rfl⟩

theorem Masked.unbindElementArrayBuffer (h : c.Masked) (v : VertexArrayID) :
    (c.unbindElementArrayBuffer v).Masked := by
  have hcounts : CountsChanged c (c.unbindElementArrayBuffer v) (fun _ => 0) (fun _ => 0)
      fun _ => 0 :=
    (countsChanged_removeObserver (c.elementArrayBuffer v) (v, .elementArrayBuffer)).of_eq rfl
  refine h.of_eq rfl hcounts.indexedCount fun w b p hp => ?_
  unfold vertexBuffer at hp ⊢
  rw [vertexArrays_unbindElementArrayBuffer] at hp ⊢
  by_cases hw : w = v
  · subst hw
    rw [update_self] at hp ⊢
    exact ⟨hp, rfl⟩
  · rw [update_of_ne hw] at hp ⊢
    exact ⟨hp, rfl⟩

theorem Masked.detachElementArrayBuffer (h : c.Masked) (bufferID : BufferID) :
    (c.detachElementArrayBuffer bufferID).Masked := by
  unfold Context.detachElementArrayBuffer
  dsimp only
  split
  case isFalse => exact h
  case isTrue =>
    apply Masked.unbindElementArrayBuffer
    exact h.of_vertexArrays_eq rfl (countsChanged_onNonTFBindingChanged _ (-1)).indexedCount rfl

/-! ## Deletion of vertex arrays -/

theorem Masked.destroyVertexArray (h : c.Masked) (v : VertexArrayID) (cache : RangeCache) :
    (c.destroyVertexArray v cache).Masked := by
  obtain ⟨hcounts, hcurrent, -⟩ := countsChanged_destroyVertexArray (c := c) v cache
  refine h.of_eq hcurrent hcounts.indexedCount fun w b p hp => ?_
  unfold vertexBuffer at hp ⊢
  rw [vertexArrays_destroyVertexArray] at hp ⊢
  by_cases hw : w = v
  · subst hw
    rw [update_self] at hp
    contradiction
  · rw [update_of_ne hw] at hp ⊢
    exact ⟨hp, rfl⟩

/-! ## Contents -/

theorem Masked.setContents (h : c.Masked) (buffer : Option BufferPtr) (contents : Memory) :
    (c.setContents buffer contents).Masked :=
  h.modifyBuffer (f := fun b => { b with contents := contents }) buffer fun _ => rfl

theorem Masked.drawContents (h : c.Masked) (draw : Draw caps) : (c.drawContents draw).Masked := by
  refine h.of_vertexArrays_eq rfl (fun p => ?_) rfl
  unfold Context.drawContents indexedCount
  dsimp only
  split <;> rfl

/-! ## Changes -/

theorem Masked.change {g : Guards caps} (hg : ∀ c v, g.current c v → c.KnowsConflicts v)
    (h : c.Masked) (hwell : c.WellFormed) (hcounted : c.Counted) (hchange : Change g c c') :
    c'.Masked := by
  have huses := hcounted.usesCounted
  cases hchange with
  | updateBufferBinding target buffer => exact h.updateBufferBinding target buffer
  | updateIndexedBufferBinding point buffer => exact h.updateIndexedBufferBinding point buffer
  | setElementArrayBuffer buffer => exact h.setElementArrayBuffer buffer
  | bindVertexBufferImpl b buffer offset stride =>
    exact h.bindVertexBufferImpl hcounted b buffer offset stride
  | setFormatAndBinding _ i format =>
    apply h.modifyVertexArray
    · exact (setVertexAttribFormatImpl_sameBuffers i format 0).trans
        (setVertexAttribBinding_sameBuffers i i)
    · rw [setVertexAttribBinding_mask, setVertexAttribFormatImpl_mask]
  | setVertexAttribFormat i format relativeOffset =>
    apply h.modifyVertexArray
    · exact setVertexAttribFormat_sameBuffers i format relativeOffset
    · exact setVertexAttribFormatImpl_mask i format relativeOffset
  | setVertexAttribBinding i b =>
    apply h.modifyVertexArray
    · exact setVertexAttribBinding_sameBuffers i b
    · exact setVertexAttribBinding_mask i b
  | setVertexBindingDivisor b divisor =>
    apply h.modifyVertexArray
    · exact setVertexBindingDivisor_sameBuffers b divisor
    · rfl
  | setVertexAttribDivisor i divisor =>
    apply h.modifyVertexArray
    · exact (setVertexAttribBinding_sameBuffers i i).trans
        (setVertexBindingDivisor_sameBuffers i divisor)
    · exact setVertexAttribBinding_mask i i
  | setEnableVertexAttribArray i enabled =>
    apply h.modifyVertexArray
    · exact enableAttribute_sameBuffers i enabled
    · exact enableAttribute_mask i enabled
  | setVertexArrayBinding hcurrent => exact h.setVertexArrayBinding (hg c _ hcurrent)
  | destroyVertexArray _ cache => exact h.destroyVertexArray _ cache
  | bindIndexedBuffer index buffer => exact h.bindIndexedBuffer hwell huses index buffer
  | setTransformFeedbackBinding t => exact h.setTransformFeedbackBinding hwell huses t
  | clearTransformFeedback _ => exact h.of_vertexArrays_eq rfl (fun _ => rfl) rfl
  | detachTransformFeedbackBuffer bufferID index =>
    exact h.detachTransformFeedbackBuffer hwell huses bufferID index
  | detachVertexBuffer _ bufferID b => exact h.detachVertexBuffer bufferID b
  | detachElementArrayBuffer bufferID => exact h.detachElementArrayBuffer bufferID
  | setContents _ buffer memory => exact h.setContents buffer memory
  | contentsChanged _ buffer => exact h.onStateChange buffer (by decide)
  | bufferData _ p memory size =>
    apply Masked.onStateChange
    · exact (h.setContents (some p) memory).modifyBuffer _ fun _ => rfl
    · decide
  | map _ p =>
    apply Masked.onStateChange
    · exact h.modifyBuffer _ fun _ => rfl
    · decide
  | unmap _ p =>
    apply Masked.onStateChange
    · exact h.modifyBuffer _ fun _ => rfl
    · decide
  | drawContents _ draw => exact h.drawContents draw
  | setPrimitiveRestart _ _ => exact h.of_vertexArrays_eq rfl (fun _ => rfl) rfl
  | cacheIndexRange _ _ => exact h.modifyVertexArray _ ⟨rfl, fun _ => rfl⟩ rfl

/-! ## Runs -/

/-- A vertex array becomes current only if its mask has not missed a conflict. -/
def KnowsBindings (c : Context caps) (action : Action caps) : Prop :=
  ∀ v ∈ c.madeCurrent action, c.KnowsConflicts v

instance (action : Action caps) : Decidable (c.KnowsBindings action) :=
  inferInstanceAs (Decidable (∀ v ∈ c.madeCurrent action, c.KnowsConflicts v))

theorem masked_initial (validation : Bool) (ids : BufferPtr → BufferID)
    (caches : VertexArrayID → RangeCache) :
    (initial validation ids caches : Context caps).Masked where
  sound _ _ _ hp := nomatch hp
  complete _ _ hp := nomatch hp

/-- The counts of a buffer are the numbers of its bindings. -/
structure CountsBindings (c : Context caps) (p : BufferPtr) : Prop where
  bindings : (c.buffers p).mBindingCount = pointing c.mBoundBuffers p +
    pointing c.mIndexedBuffers p + pointing (c.vertexBuffer c.mVertexArray) p +
      pointsAt (c.elementArrayBuffer c.mVertexArray) p +
        pointing (c.transformFeedbackBuffer c.mTransformFeedback) p
  indexed : (c.buffers p).mTransformFeedbackIndexedBindingCount =
    pointing (c.transformFeedbackBuffer c.mTransformFeedback) p
  generic : (c.buffers p).mTransformFeedbackGenericBindingCount =
    pointsAt (c.mBoundBuffers .TransformFeedback) p

theorem Counted.countsBindings (h : c.Counted) (p : BufferPtr) : c.CountsBindings p where
  bindings := by
    have hnonTF := h.nonTF p
    have hindexed := h.indexed p
    have hgeneric := h.generic p
    unfold Buffer.nonTFBindingCount nonTFUses at hnonTF
    unfold indexedTFUses at hindexed
    unfold genericTFUses at hgeneric
    omega
  indexed := h.indexed p
  generic := h.generic p

/-- An enabled attribute of the program reads a buffer that transform feedback may write. -/
def AliasesTransformFeedback (c : Context caps) (activeAttribs : AttributesMask) : Prop :=
  ∃ i p index, activeAttribs i ∧
    ((c.vertexArrays c.mVertexArray).mVertexAttributes i).enabled ∧
      c.vertexBuffer c.mVertexArray
        ((c.vertexArrays c.mVertexArray).mVertexAttributes i).bindingIndex = some p ∧
          c.transformFeedbackBuffer c.mTransformFeedback index = some p

theorem Counted.indexedCount_pos (h : c.Counted) {p : BufferPtr} :
    0 < c.indexedCount p ↔
      ∃ index, c.transformFeedbackBuffer c.mTransformFeedback index = some p := by
  unfold indexedCount
  rw [h.indexed]
  unfold indexedTFUses
  rw [Int.natCast_pos, pointing_pos]

theorem Masked.hasConflict_iff (h : c.Masked) (hwell : c.WellFormed) (hcounted : c.Counted)
    (activeAttribs : AttributesMask) :
    (c.vertexArrays c.mVertexArray).hasTransformFeedbackBindingConflict activeAttribs ↔
      c.AliasesTransformFeedback activeAttribs := by
  obtain ⟨vao, hvao⟩ : ∃ vao, vao = c.vertexArrays c.mVertexArray := ⟨_, rfl⟩
  have hvaoWell : vao.WellFormed := hvao ▸ hwell.vertexArrays c.mVertexArray
  have hbuffer : ∀ b, c.vertexBuffer c.mVertexArray b = (vao.mVertexBindings b).mBuffer := by
    intro b
    rw [hvao]
    rfl
  unfold hasTransformFeedbackBindingConflict AliasesTransformFeedback
    activeBufferedAttribsMask
  rw [← hvao, decide_eq_true_iff]
  constructor
  case mp =>
    rintro ⟨i, hactive, hmask⟩
    simp only [Bool.and_eq_true, Bool.not_eq_true'] at hactive
    obtain ⟨⟨hattrib, henabled⟩, hclient⟩ := hactive
    obtain ⟨p, hp⟩ : ∃ p,
        (vao.mVertexBindings (vao.mVertexAttributes i).bindingIndex).mBuffer = some p := by
      rw [← Option.ne_none_iff_exists']
      intro hnone
      rw [(hvaoWell.clientMemory i).mpr hnone] at hclient
      contradiction
    have hbound : c.vertexBuffer c.mVertexArray (vao.mVertexAttributes i).bindingIndex = some p :=
      (hbuffer _).trans hp
    have hconflict : (c.vertexArrays c.mVertexArray).conflictMask
        (vao.mVertexAttributes i).bindingIndex := by
      rw [← hvao]
      exact hmask
    obtain ⟨index, hindex⟩ := hcounted.indexedCount_pos.mp (h.sound _ _ p hbound hconflict)
    exact ⟨i, p, index, hattrib, (hvaoWell.enabled i).trans henabled, hbound, hindex⟩
  case mpr =>
    rintro ⟨i, p, index, hattrib, henabled, hbound, hindex⟩
    have hpos := hcounted.indexedCount_pos.mpr ⟨index, hindex⟩
    have hconflict := h.complete _ p hbound hpos
    rw [← hvao] at hconflict
    refine ⟨i, ?_, hconflict⟩
    have hclient : vao.mClientMemoryAttribsMask i = false := by
      rw [Bool.eq_false_iff]
      intro hclient
      have hnone := (hvaoWell.clientMemory i).mp hclient
      rw [hbuffer, hnone] at hbound
      contradiction
    rw [hattrib, ← hvaoWell.enabled, henabled, hclient]
    rfl

/-- Along every run in which no vertex array becomes current that has missed a conflict, the counts
are those of the bindings and the conflicts of the current vertex array are found. -/
theorem transformFeedbackAliasing_detected {validation : Bool} {ids : BufferPtr → BufferID}
    {caches : VertexArrayID → RangeCache} {actions : List (Action caps)}
    (hrun : Run step KnowsBindings (initial validation ids caches) actions c) :
    (∀ p, c.CountsBindings p) ∧ ∀ activeAttribs,
      (c.vertexArrays c.mVertexArray).hasTransformFeedbackBindingConflict activeAttribs = true ↔
        c.AliasesTransformFeedback activeAttribs := by
  have hstep : ∀ (s : Context caps) a t, s.WellFormed ∧ s.Counted ∧ s.Masked → KnowsBindings s a →
      step s a = some t → t.WellFormed ∧ t.Counted ∧ t.Masked := by
    intro s a t h hknows hstep
    have hchanges : Changes ⟨KnowsConflicts, True, True⟩ s t :=
      step_changes hstep hknows (fun _ => trivial) fun _ => trivial
    refine hchanges.keeps (P := fun c => c.WellFormed ∧ c.Counted ∧ c.Masked) ?_ h
    rintro c c' ⟨hwell, hcounted, hmasked⟩ hchange
    exact ⟨hwell.change hchange, hcounted.change hchange,
      hmasked.change (fun _ _ => id) hwell hcounted hchange⟩
  obtain ⟨hwell, hcounted, hmasked⟩ := hrun.invariant hstep
    ⟨wellFormed_initial validation ids caches, counted_initial validation ids caches,
      masked_initial validation ids caches⟩
  exact ⟨hcounted.countsBindings, hmasked.hasConflict_iff hwell hcounted⟩

def captureContext : Context ⟨0, 0, 0, 1⟩ := initial true (· + 1) fun _ => ⟨none, 0, 0, ⟨0, 0, 0⟩⟩

/-- The buffer of an attribute is bound for transform feedback while its vertex array is current,
which then is left and bound again. -/
def captureCalls : List (Action ⟨0, 0, 0, 1⟩) :=
  [.bindVertexArray 1, .enableVertexAttribArray firstAttrib true,
    .bindVertexBuffer firstAttrib (some 0) 0 4,
    .bindTransformFeedbackBuffer ⟨0, by decide⟩ (some 0),
    .bindVertexArray 0, .bindVertexArray 1]

theorem transformFeedbackAliasing_detected_captureCalls :
    ∃ c, Run step KnowsBindings captureContext captureCalls c ∧ c.CountsBindings 0 ∧
      ((c.vertexArrays c.mVertexArray).hasTransformFeedbackBindingConflict (fun _ => true) = true ↔
        c.AliasesTransformFeedback fun _ => true) := by
  have hexec : (exec (checked step fun c action => decide (c.KnowsBindings action)) captureContext
      captureCalls).isSome := by
    decide +kernel
  obtain ⟨c, hc⟩ := Option.isSome_iff_exists.mp hexec
  have hrun : Run step KnowsBindings captureContext captureCalls c :=
    .of_exec_checked _ (fun _ _ => of_decide_eq_true) hc
  obtain ⟨hcounts, hconflict⟩ := transformFeedbackAliasing_detected hrun
  exact ⟨c, hrun, hcounts 0, hconflict fun _ => true⟩

/-- The buffer is bound for transform feedback while another vertex array is current: its one
counted use is then that binding, and the switch back tells no vertex array. -/
def switchCalls : List (Action ⟨0, 0, 0, 1⟩) :=
  [.bindVertexArray 1, .enableVertexAttribArray firstAttrib true,
    .bindVertexBuffer firstAttrib (some 0) 0 4, .bindVertexArray 0,
    .bindTransformFeedbackBuffer ⟨0, by decide⟩ (some 0), .bindVertexArray 1]

theorem transformFeedbackAliasing_missed :
    ¬ ∀ (actions : List (Action ⟨0, 0, 0, 1⟩)) (c : Context ⟨0, 0, 0, 1⟩),
      Run step anyStep captureContext actions c → (∀ p, c.CountsBindings p) ∧ ∀ activeAttribs,
        (c.vertexArrays c.mVertexArray).hasTransformFeedbackBindingConflict activeAttribs = true ↔
          c.AliasesTransformFeedback activeAttribs := by
  intro h
  have hexec : (exec step captureContext switchCalls).map (fun c =>
      ((c.vertexArrays c.mVertexArray).hasTransformFeedbackBindingConflict (fun _ => true),
        ((c.vertexArrays c.mVertexArray).mVertexAttributes firstAttrib).enabled,
        c.vertexBuffer c.mVertexArray
          ((c.vertexArrays c.mVertexArray).mVertexAttributes firstAttrib).bindingIndex,
        c.transformFeedbackBuffer c.mTransformFeedback ⟨0, by decide⟩)) =
      some (false, true, some 0, some 0) := by
    decide +kernel
  obtain ⟨c, hc, hvalues⟩ := Option.map_eq_some_iff.mp hexec
  obtain ⟨hnone, hrest⟩ := Prod.mk.inj hvalues
  obtain ⟨henabled, hbuffers⟩ := Prod.mk.inj hrest
  obtain ⟨hbound, hcaptured⟩ := Prod.mk.inj hbuffers
  have hconflict := (h switchCalls c (.of_exec hc)).2 fun _ => true
  rw [hconflict.mpr ⟨firstAttrib, 0, _, rfl, henabled, hbound, hcaptured⟩] at hnone
  cases hnone

end Context

end MetalAngle.Gl.Bindings
