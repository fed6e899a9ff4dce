import MetalAngle.Gl.BufferBindings

/-!
# The changes of bindings that calls are made of

Every call on buffers and bindings is a sequence of a few changes, so that what each change keeps
every call keeps.
-/

namespace MetalAngle.Gl.Bindings

open LabelledRun Observers

namespace Context

variable {caps : Caps} {c c' : Context caps}

def madeCurrent (c : Context caps) : Action caps → Option VertexArrayID
  | .bindVertexArray v => some v
  | .deleteVertexArray v _ => if v = c.mVertexArray then some 0 else none
  | _ => none

/-- What is asked of a vertex array that becomes current, of the changes that leave the caches of
vertex arrays alone, and of those of contents and what depends on them. -/
structure Guards (caps : Caps) where
  current : Context caps → VertexArrayID → Prop
  stale : Prop
  contents : Prop

inductive Change (g : Guards caps) (c : Context caps) : Context caps → Prop
  | updateBufferBinding (target buffer) : Change g c (c.updateBufferBinding target buffer)
  | updateIndexedBufferBinding (point buffer) :
      Change g c (c.updateIndexedBufferBinding point buffer)
  | setElementArrayBuffer (buffer) : Change g c (c.setElementArrayBuffer buffer)
  | bindVertexBufferImpl (b buffer offset stride) :
      Change g c (c.bindVertexBufferImpl b buffer offset stride)
  | setFormatAndBinding (hstale : g.stale) (i format) :
      Change g c (c.modifyVertexArray c.mVertexArray fun vao =>
        (vao.setVertexAttribFormatImpl i format 0).setVertexAttribBinding c.buffers i i)
  | setVertexAttribFormat (i format relativeOffset) :
      Change g c (c.setVertexAttribFormat i format relativeOffset)
  | setVertexAttribBinding (i b) : Change g c (c.setVertexAttribBinding i b)
  | setVertexBindingDivisor (b divisor) : Change g c (c.setVertexBindingDivisor b divisor)
  | setVertexAttribDivisor (i divisor) : Change g c (c.setVertexAttribDivisor i divisor)
  | setEnableVertexAttribArray (i enabled) : Change g c (c.setEnableVertexAttribArray i enabled)
  | setVertexArrayBinding {v} (hcurrent : g.current c v) : Change g c (c.setVertexArrayBinding v)
  | destroyVertexArray {v} (hv : v ≠ c.mVertexArray) (cache) :
      Change g c (c.destroyVertexArray v cache)
  | bindIndexedBuffer (index buffer) : Change g c (c.bindIndexedBuffer index buffer)
  | setTransformFeedbackBinding (t) : Change g c (c.setTransformFeedbackBinding t)
  | clearTransformFeedback {t} (ht : t ≠ c.mTransformFeedback) :
      Change g c { c with transformFeedbacks := Function.update c.transformFeedbacks t (.new caps) }
  | detachTransformFeedbackBuffer (bufferID index) :
      Change g c (c.detachTransformFeedbackBuffer bufferID index)
  | detachVertexBuffer (hstale : g.stale) (bufferID b) :
      Change g c (c.detachVertexBuffer bufferID b)
  | detachElementArrayBuffer (bufferID) : Change g c (c.detachElementArrayBuffer bufferID)
  | setContents (hcontents : g.contents) (buffer memory) :
      Change g c (c.setContents buffer memory)
  | contentsChanged (hcontents : g.contents) (buffer) :
      Change g c (c.onStateChange buffer .ContentsChanged)
  | bufferData (hcontents : g.contents) (p memory size) : Change g c (c.bufferData p memory size)
  | map (hcontents : g.contents) (p) : Change g c (c.map p)
  | unmap (hcontents : g.contents) (p) : Change g c (c.unmap p)
  | drawContents (hcontents : g.contents) (draw) : Change g c (c.drawContents draw)
  | setPrimitiveRestart (hcontents : g.contents) (enabled) :
      Change g c (c.setPrimitiveRestart enabled)
  | cacheIndexRange (hcontents : g.contents) (cache) :
      Change g c (c.modifyVertexArray c.mVertexArray fun vao =>
        { vao with mIndexRangeCache := cache })

abbrev Changes (g : Guards caps) : Context caps → Context caps → Prop :=
  Relation.ReflTransGen (Change g)

variable {g : Guards caps}

theorem Changes.keeps {P : Context caps → Prop} (h : Changes g c c')
    (hchange : ∀ {c c'}, P c → Change g c c' → P c') (hc : P c) : P c' := by
  induction h with
  | refl => exact hc
  | tail _ hstep ih => exact hchange ih hstep

theorem changes_foldl {ι : Type} (f : Context caps → ι → Context caps)
    (hf : ∀ c i, Changes g c (f c i)) (l : List ι) (c : Context caps) :
    Changes g c (l.foldl f c) := by
  induction l generalizing c with
  | nil => exact .refl
  | cons i l ih => exact (hf c i).trans (ih _)

theorem setBufferBinding_changes (target : BufferBinding) (buffer : Option BufferPtr) :
    Changes g c (c.setBufferBinding target buffer) := by
  unfold setBufferBinding
  split
  · exact .single (.setElementArrayBuffer buffer)
  · exact .single (.updateBufferBinding target buffer)

theorem setVertexArrayBinding_current (v : VertexArrayID) :
    (c.setVertexArrayBinding v).mVertexArray = v := by
  unfold setVertexArrayBinding
  split
  case isTrue hcurrent => exact hcurrent.symm
  case isFalse =>
    exact List.foldlRecOn (motive := fun c : Context caps => c.mVertexArray = v) _ _ rfl
      fun _ hc _ _ => hc

theorem deleteVertexArray_changes {v : VertexArrayID} (hv : v ≠ 0) (cache : RangeCache)
    (hknows : v = c.mVertexArray → g.current c 0) :
    Changes g c (c.deleteVertexArray v cache) := by
  unfold deleteVertexArray
  split
  case isTrue hcurrent =>
    refine .trans (.single (.setVertexArrayBinding (hknows hcurrent)))
      (.single (.destroyVertexArray ?_ cache))
    rwa [setVertexArrayBinding_current]
  case isFalse hcurrent => exact .single (.destroyVertexArray hcurrent cache)

theorem setTransformFeedbackBinding_current (t : TransformFeedbackID) :
    (c.setTransformFeedbackBinding t).mTransformFeedback = t := by
  unfold setTransformFeedbackBinding
  split
  case isTrue hcurrent => exact hcurrent.symm
  case isFalse =>
    exact List.foldlRecOn (motive := fun c : Context caps => c.mTransformFeedback = t) _ _ rfl
      fun _ hc _ _ => hc

theorem deleteTransformFeedback_changes {t : TransformFeedbackID} (ht : t ≠ 0) :
    Changes g c (c.deleteTransformFeedback t) := by
  unfold deleteTransformFeedback
  split
  case isTrue =>
    refine .trans (.single (.setTransformFeedbackBinding 0)) (.single (.clearTransformFeedback ?_))
    rwa [setTransformFeedbackBinding_current]
  case isFalse hcurrent => exact .single (.clearTransformFeedback hcurrent)

theorem detachBoundBuffer_changes (bufferID : BufferID) (target : BufferBinding) :
    Changes g c (c.detachBoundBuffer bufferID target) := by
  unfold detachBoundBuffer
  split
  · exact .single (.updateBufferBinding target none)
  · exact .refl

theorem detachIndexedBuffer_changes (bufferID : BufferID) (point : IndexedPoint caps) :
    Changes g c (c.detachIndexedBuffer bufferID point) := by
  unfold detachIndexedBuffer
  split
  · exact .single (.updateIndexedBufferBinding point none)
  · exact .refl

theorem detachBuffer_changes (hstale : g.stale) (p : BufferPtr) :
    Changes g c (c.detachBuffer p) := by
  unfold detachBuffer
  split
  case isFalse => exact .refl
  case isTrue =>
    refine .trans ?_ (changes_foldl _ (fun _ point => detachIndexedBuffer_changes _ point) _ _)
    refine .trans ?_ (.single (.detachElementArrayBuffer _))
    refine .trans ?_ (changes_foldl _ (fun _ b => .single (.detachVertexBuffer hstale _ b)) _ _)
    refine .trans ?_
      (changes_foldl _ (fun _ index => .single (.detachTransformFeedbackBuffer _ index)) _ _)
    exact changes_foldl _ (fun _ target => detachBoundBuffer_changes _ target) _ _

theorem getIndexRange_changes (hcontents : g.contents) (clientMemory : Memory)
    (type : MetalAngle.Metal.DrawElementsType) (indexCount indices : Nat) :
    Changes g c (c.getIndexRange clientMemory type indexCount indices).2 := by
  unfold getIndexRange
  dsimp only
  split
  · exact .refl
  · split
    · exact .refl
    · exact .single (.cacheIndexRange hcontents _)

/-- The pointer calls and the deletion of buffers. -/
def Action.leavesCaches : Action caps → Bool
  | .vertexAttribPointer _ _ _ _ => true
  | .deleteBuffer _ => true
  | _ => false

def Action.changesContents : Action caps → Bool
  | .bufferData _ _ _ => true
  | .bufferSubData _ _ => true
  | .map _ => true
  | .writeMapped _ _ => true
  | .unmap _ => true
  | .readPixels _ => true
  | .draw _ => true
  | .setPrimitiveRestart _ => true
  | .getIndexRange _ _ _ _ => true
  | _ => false

theorem apply_changes {action : Action caps} (hvalidates : c.validates action)
    (hknows : ∀ v ∈ c.madeCurrent action, g.current c v) (hstale : action.leavesCaches → g.stale)
    (hcontents : action.changesContents → g.contents) :
    Changes g c (c.apply action) := by
  cases action with
  | bindBuffer target buffer => exact setBufferBinding_changes target buffer
  | bindIndexed point buffer =>
    exact (setBufferBinding_changes point.1.generic buffer).tail
      (.updateIndexedBufferBinding point buffer)
  | bindTransformFeedbackBuffer index buffer =>
    exact ((setBufferBinding_changes .TransformFeedback buffer).tail
      (.bindIndexedBuffer index buffer)).trans (setBufferBinding_changes .TransformFeedback buffer)
  | bindVertexBuffer b buffer offset stride =>
    exact .single (.bindVertexBufferImpl b buffer offset stride)
  | vertexAttribPointer i format stride pointer =>
    exact .trans (.single (.setFormatAndBinding (hstale rfl) i format))
      (.single (.bindVertexBufferImpl i _ _ _))
  | vertexAttribFormat i format relativeOffset =>
    exact .single (.setVertexAttribFormat i format relativeOffset)
  | vertexAttribBinding i b => exact .single (.setVertexAttribBinding i b)
  | vertexBindingDivisor b divisor => exact .single (.setVertexBindingDivisor b divisor)
  | vertexAttribDivisor i divisor => exact .single (.setVertexAttribDivisor i divisor)
  | enableVertexAttribArray i enabled => exact .single (.setEnableVertexAttribArray i enabled)
  | bindVertexArray v => exact .single (.setVertexArrayBinding (hknows v rfl))
  | deleteVertexArray v cache =>
    apply deleteVertexArray_changes (of_decide_eq_true hvalidates)
    exact fun hcurrent => hknows 0 (if_pos hcurrent)
  | bindTransformFeedback t => exact .single (.setTransformFeedbackBinding t)
  | deleteTransformFeedback t =>
    exact deleteTransformFeedback_changes (of_decide_eq_true hvalidates)
  | deleteBuffer p => exact detachBuffer_changes (hstale rfl) p
  | bufferData p memory size => exact .single (.bufferData (hcontents rfl) p memory size)
  | bufferSubData p memory =>
    exact .trans (.single (.setContents (hcontents rfl) _ memory))
      (.single (.contentsChanged (hcontents rfl) _))
  | map p => exact .single (.map (hcontents rfl) p)
  | writeMapped p memory => exact .single (.setContents (hcontents rfl) _ memory)
  | unmap p => exact .single (.unmap (hcontents rfl) p)
  | readPixels memory =>
    exact .trans (.single (.setContents (hcontents rfl) _ memory))
      (.single (.contentsChanged (hcontents rfl) _))
  | draw draw =>
    exact .trans (.single (.drawContents (hcontents rfl) draw))
      (changes_foldl _ (fun _ buffer => .single (.contentsChanged (hcontents rfl) buffer)) _ _)
  | setPrimitiveRestart enabled => exact .single (.setPrimitiveRestart (hcontents rfl) enabled)
  | getIndexRange clientMemory type indexCount indices =>
    exact getIndexRange_changes (hcontents rfl) clientMemory type indexCount indices

theorem step_eq_some {action : Action caps} (hstep : step c action = some c') :
    c.validates action ∧ c' = c.apply action := by
  unfold step at hstep
  split at hstep
  case isTrue hvalidates => exact ⟨hvalidates, (Option.some.inj hstep).symm⟩
  case isFalse => contradiction

def Guards.all : Guards caps := ⟨fun _ _ => True, True, True⟩

theorem step_changes {action : Action caps} (hstep : step c action = some c')
    (hknows : ∀ v ∈ c.madeCurrent action, g.current c v) (hstale : action.leavesCaches → g.stale)
    (hcontents : action.changesContents → g.contents) : Changes g c c' := by
  obtain ⟨hvalidates, rfl⟩ := step_eq_some hstep
  exact apply_changes hvalidates hknows hstale hcontents

theorem step_changes_all {action : Action caps} (hstep : step c action = some c') :
    Changes .all c c' :=
  step_changes hstep (fun _ _ => trivial) (fun _ => trivial) fun _ => trivial

/-- The counts of bindings and the bindings of the context can change under the property. -/
structure Uncounted (P : Context caps → Prop) : Prop where
  onNonTFBindingChanged : ∀ {c : Context caps} (buffer : Option BufferPtr) (incr : Int), P c →
    P (c.onNonTFBindingChanged buffer incr)
  onTFBindingChanged : ∀ {c : Context caps} (buffer : Option BufferPtr) (bound indexed : Bool), P c →
    P (c.onTFBindingChanged buffer bound indexed)
  of_eq : ∀ {c c' : Context caps}, P c → c'.buffers = c.buffers →
    c'.vertexArrays = c.vertexArrays → c'.mPrimitiveRestart = c.mPrimitiveRestart →
      c'.mBufferAccessValidationEnabled = c.mBufferAccessValidationEnabled → P c'

namespace Uncounted

variable {P : Context caps → Prop} (hP : Uncounted P) (h : P c)

include hP h

theorem updateBufferBinding (target : BufferBinding) (buffer : Option BufferPtr) :
    P (c.updateBufferBinding target buffer) := by
  unfold Context.updateBufferBinding
  split
  · apply hP.onTFBindingChanged
    exact hP.of_eq (hP.onTFBindingChanged (c.mBoundBuffers target) false false h) rfl rfl rfl rfl
  · apply hP.onNonTFBindingChanged
    exact hP.of_eq (hP.onNonTFBindingChanged (c.mBoundBuffers target) (-1) h) rfl rfl rfl rfl

theorem updateIndexedBufferBinding (point : IndexedPoint caps) (buffer : Option BufferPtr) :
    P (c.updateIndexedBufferBinding point buffer) := by
  apply hP.onNonTFBindingChanged
  exact hP.of_eq (hP.onNonTFBindingChanged (c.mIndexedBuffers point) (-1) h) rfl rfl rfl rfl

theorem onVertexArrayBindingChanged (v : VertexArrayID) (incr : Int) :
    P (c.onVertexArrayBindingChanged v incr) :=
  List.foldlRecOn _ _ (hP.onNonTFBindingChanged _ incr h) fun _ hc _ _ =>
    hP.onNonTFBindingChanged _ incr hc

theorem setVertexArrayBinding (v : VertexArrayID) : P (c.setVertexArrayBinding v) := by
  unfold Context.setVertexArrayBinding
  split
  · exact h
  · apply hP.onVertexArrayBindingChanged
    exact hP.of_eq (hP.onVertexArrayBindingChanged h c.mVertexArray (-1)) rfl rfl rfl rfl

theorem onTransformFeedbackBindingChanged (t : TransformFeedbackID) (bound : Bool) :
    P (c.onTransformFeedbackBindingChanged t bound) :=
  List.foldlRecOn _ _ h fun _ hc _ _ => hP.onTFBindingChanged _ bound true hc

theorem setTransformFeedbackBinding (t : TransformFeedbackID) :
    P (c.setTransformFeedbackBinding t) := by
  unfold Context.setTransformFeedbackBinding
  split
  · exact h
  · apply hP.onTransformFeedbackBindingChanged
    exact hP.of_eq (hP.onTransformFeedbackBindingChanged h c.mTransformFeedback false) rfl rfl rfl
      rfl

theorem bindIndexedBuffer (index : Fin caps.maxTransformFeedbackSeparateAttributes)
    (buffer : Option BufferPtr) : P (c.bindIndexedBuffer index buffer) := by
  apply hP.onTFBindingChanged
  exact hP.of_eq (hP.onTFBindingChanged _ false true h) rfl rfl rfl rfl

theorem detachTransformFeedbackBuffer (bufferID : BufferID)
    (index : Fin caps.maxTransformFeedbackSeparateAttributes) :
    P (c.detachTransformFeedbackBuffer bufferID index) := by
  unfold Context.detachTransformFeedbackBuffer
  dsimp only
  split
  · exact hP.of_eq (hP.onTFBindingChanged _ false true h) rfl rfl rfl rfl
  · exact h

end Uncounted

end Context

end MetalAngle.Gl.Bindings
