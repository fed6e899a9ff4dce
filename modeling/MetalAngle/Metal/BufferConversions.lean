import MetalAngle.Lib.DerivedCache
import MetalAngle.Lib.LabelledRun

/-!
# Conversions of buffers

`BufferMtl` keeps the results of conversions of its contents: vertices in a format that Metal has,
indices of a type that Metal has, and uniforms at an aligned offset.  Every function that changes
the contents marks the conversions dirty, except for the copy that is left to the GPU.

The contents are one string of bytes here: the copy that the CPU reads and the buffer that the GPU
reads are the same.
-/

namespace MetalAngle.Metal.BufferConversions

open DerivedCache LabelledRun
open Function (update update_self update_of_ne)

abbrev BufferID := Nat

/-- What identifies a conversion in `mVertexConversionBuffers`, `mIndexConversionBuffers` and
`mUniformConversionBuffers`. -/
inductive ConversionKey
  | vertex (formatID stride offset : Nat)
  | index (elemType : Nat) (primitiveRestartEnabled : Bool) (offset : Nat)
  | uniform (offset : Nat)
deriving DecidableEq

structure Converted (Place Data : Type) where
  place : Place
  data : Data

/-- `BufferMtl`. -/
structure Buffer (Place Data : Type) where
  contents : List UInt8
  conversions : List (Entry ConversionKey (Converted Place Data))

def write (contents : List UInt8) (offset : Nat) (bytes : List UInt8) : List UInt8 :=
  contents.take offset ++ bytes.take (contents.length - offset) ++
    contents.drop (offset + bytes.length)

namespace Buffer

variable {Place Data : Type}

section

variable (b : Buffer Place Data)

def markConversionBuffersDirty : Buffer Place Data :=
  { b with conversions := markDirty b.conversions }

def clearConversionBuffers : Buffer Place Data :=
  { b with conversions := [] }

/-- `setDataImpl`.  Where no data is given, `contents` is what the new buffer happens to hold. -/
def setDataImpl (contents : List UInt8) : Buffer Place Data :=
  let b := if b.contents.length ≠ contents.length then b.clearConversionBuffers
    else b.markConversionBuffersDirty
  { b with contents := contents }

def setSubDataImpl (data : Option (List UInt8)) (offset : Nat) :
    Buffer Place Data :=
  match data with
  | none => b
  | some data =>
      if offset ≤ b.contents.length then
        { b.markConversionBuffersDirty with contents := write b.contents offset data }
      else b

def unmap (offset : Nat) (written : List UInt8) : Buffer Place Data :=
  { b.markConversionBuffersDirty with contents := write b.contents offset written }

end

end Buffer

section Runs

variable {Place Data : Type}

abbrev World (Place Data : Type) := BufferID → Buffer Place Data

/-- A call into a buffer.  The test at the head of `copySubData` depends on what the GPU does; it
decides whether the copy is left to the GPU. -/
inductive Action (Place : Type)
  | setData (id : BufferID) (contents : List UInt8)
  | setSubData (id : BufferID) (data : Option (List UInt8)) (offset : Nat)
  | copySubData (id source : BufferID) (sourceOffset destOffset size : Nat) (blit : Bool)
  | mapRange (id : BufferID) (invalidated : Option (List UInt8))
  | unmap (id : BufferID) (offset : Nat) (written : List UInt8)
  | onDataChanged (id : BufferID) (contents : List UInt8)
  | destroy (id : BufferID)
  | convert (id : BufferID) (key : ConversionKey) (place : Option Place)

variable (convert : ConversionKey → List UInt8 → Data)

section

variable (w : World Place Data)

/-- The bytes that `copySubData` copies. -/
def copied (source : BufferID) (sourceOffset size : Nat) : List UInt8 :=
  ((w source).contents.drop sourceOffset).take size

def makeConversion (id : BufferID) (key : ConversionKey)
    (place : Option Place) : Option (Converted Place Data) :=
  place.map fun place => ⟨place, convert key (w id).contents⟩

def convertBuffer (id : BufferID) (key : ConversionKey)
    (place : Option Place) :
    List (Entry ConversionKey (Converted Place Data)) × Option (Converted Place Data) :=
  lookup key (makeConversion convert w id key place) (w id).conversions

def stepWorld : Action Place → World Place Data
  | .setData id contents => update w id ((w id).setDataImpl contents)
  | .setSubData id data offset => update w id ((w id).setSubDataImpl data offset)
  | .copySubData id source sourceOffset destOffset size blit =>
      let bytes := copied w source sourceOffset size
      if blit then
        update w id { w id with contents := write (w id).contents destOffset bytes }
      else update w id ((w id).setSubDataImpl (some bytes) destOffset)
  | .mapRange id invalidated =>
      match invalidated with
      | none => w
      | some contents => update w id ((w id).setDataImpl contents)
  | .unmap id offset written => update w id ((w id).unmap offset written)
  | .onDataChanged id contents =>
      update w id { (w id).markConversionBuffersDirty with contents := contents }
  | .destroy id => update w id (w id).clearConversionBuffers
  | .convert id key place =>
      update w id { w id with conversions := (convertBuffer convert w id key place).1 }

def step (a : Action Place) : Option (World Place Data) :=
  some (stepWorld convert w a)

end

def World.initial : World Place Data := fun _ => ⟨[], []⟩

def ConversionOf (contents : List UInt8) (key : ConversionKey) (value : Converted Place Data) :
    Prop :=
  value.data = convert key contents

/-- Every conversion that is not dirty is the one of the current contents of its buffer. -/
def CacheCoherent (w : World Place Data) : Prop :=
  ∀ id, Coherent (ConversionOf convert (w id).contents) (w id).conversions

/-- After the call the conversions are coherent, and a draw has got the conversion of the current
contents. -/
structure Exact (w : World Place Data) (a : Action Place) : Prop where
  coherent : CacheCoherent convert (stepWorld convert w a)
  used : ∀ id key place, a = .convert id key place →
    ∀ value ∈ (convertBuffer convert w id key place).2, value.data = convert key (w id).contents

/-- A copy that is left to the GPU changes nothing that a conversion has been made from. -/
def Condition (w : World Place Data) : Action Place → Prop
  | .copySubData id source sourceOffset destOffset size true =>
      ∀ e ∈ (w id).conversions, e.dirty = false →
        convert e.key (write (w id).contents destOffset (copied w source sourceOffset size)) =
          convert e.key (w id).contents
  | _ => True

variable {convert} {w : World Place Data}

theorem coherent_update {id : BufferID} {b : Buffer Place Data} (h : CacheCoherent convert w)
    (hb : Coherent (ConversionOf convert b.contents) b.conversions) :
    CacheCoherent convert (update w id b) := by
  intro other
  by_cases hother : other = id
  · subst hother
    rw [update_self]
    exact hb
  · rw [update_of_ne hother]
    exact h other

theorem coherent_setDataImpl (b : Buffer Place Data) (contents : List UInt8) :
    Coherent (ConversionOf convert (b.setDataImpl contents).contents)
      (b.setDataImpl contents).conversions := by
  unfold Buffer.setDataImpl
  by_cases hsize : b.contents.length ≠ contents.length
  · rw [if_pos hsize]
    exact coherent_nil
  · rw [if_neg hsize]
    exact coherent_markDirty _

theorem coherent_setSubDataImpl {b : Buffer Place Data}
    (h : Coherent (ConversionOf convert b.contents) b.conversions) (data : Option (List UInt8))
    (offset : Nat) :
    Coherent (ConversionOf convert (b.setSubDataImpl data offset).contents)
      (b.setSubDataImpl data offset).conversions := by
  cases data with
  | none => exact h
  | some data =>
    unfold Buffer.setSubDataImpl
    by_cases hoffset : offset ≤ b.contents.length
    · simp only [if_pos hoffset]
      exact coherent_markDirty _
    · simp only [if_neg hoffset]
      exact h

section

variable (h : CacheCoherent convert w)
include h

/-- A draw that finds the conversions coherent leaves them so, and gets the conversion of the
current contents. -/
theorem coherent_convertBuffer (id : BufferID) (key : ConversionKey)
    (place : Option Place) :
    Coherent (ConversionOf convert (w id).contents) (convertBuffer convert w id key place).1 ∧
      ∀ value ∈ (convertBuffer convert w id key place).2,
        ConversionOf convert (w id).contents key value := by
  apply (h id).lookup
  intro value hvalue
  obtain ⟨place', -, rfl⟩ := Option.map_eq_some_iff.mp hvalue
  rfl

theorem coherent_blit_iff {id : BufferID} {contents : List UInt8} :
    CacheCoherent convert (update w id { w id with contents := contents }) ↔
      ∀ e ∈ (w id).conversions, e.dirty = false →
        convert e.key contents = convert e.key (w id).contents := by
  have hcache : Coherent (ConversionOf convert contents) (w id).conversions ↔ _ :=
    (h id).iff_of_changed
  constructor
  · intro hafter e he hclean
    have hid := hafter id
    rw [update_self] at hid
    obtain ⟨value, hvalue, hholds⟩ := h id e he hclean
    have hnew : value.data = convert e.key contents := hcache.mp hid e he hclean value hvalue hholds
    exact hnew.symm.trans hholds
  · intro hsame
    apply coherent_update h
    refine hcache.mpr fun e he hclean value _ hholds => ?_
    exact Eq.trans hholds (hsame e he hclean).symm

theorem exact_iff {a : Action Place} :
    Exact convert w a ↔ Condition convert w a := by
  have hused : ∀ id key place, a = .convert id key place →
      ∀ value ∈ (convertBuffer convert w id key place).2,
        value.data = convert key (w id).contents :=
    fun id key place _ => (coherent_convertBuffer h id key place).2
  have hexact (hcoherent : CacheCoherent convert (stepWorld convert w a)) : Exact convert w a :=
    ⟨hcoherent, hused⟩
  cases a with
  | copySubData id source sourceOffset destOffset size blit =>
    cases blit with
    | true =>
        constructor
        · intro hafter
          exact (coherent_blit_iff h).mp hafter.coherent
        · intro hsame
          exact hexact ((coherent_blit_iff h).mpr hsame)
    | false =>
        refine iff_of_true (hexact ?_) trivial
        exact coherent_update h (coherent_setSubDataImpl (h id) _ _)
  | setData id contents =>
      exact iff_of_true (hexact (coherent_update h (coherent_setDataImpl _ _))) trivial
  | setSubData id data offset =>
      refine iff_of_true (hexact ?_) trivial
      exact coherent_update h (coherent_setSubDataImpl (h id) _ _)
  | mapRange id invalidated =>
      refine iff_of_true (hexact ?_) trivial
      cases invalidated with
      | none => exact h
      | some contents => exact coherent_update h (coherent_setDataImpl _ _)
  | unmap id offset written =>
      exact iff_of_true (hexact (coherent_update h (coherent_markDirty _))) trivial
  | onDataChanged id contents =>
      exact iff_of_true (hexact (coherent_update h (coherent_markDirty _))) trivial
  | destroy id => exact iff_of_true (hexact (coherent_update h coherent_nil)) trivial
  | convert id key place =>
      refine iff_of_true (hexact ?_) trivial
      exact coherent_update h (coherent_convertBuffer h id key place).1

end

theorem coherent_initial : CacheCoherent convert (World.initial : World Place Data) :=
  fun _ => coherent_nil

end Runs

end MetalAngle.Metal.BufferConversions
