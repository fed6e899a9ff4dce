import Mathlib.Data.List.Basic

/-!
# Streams of tokens

A writer appends tokens to a stream and may refuse a value.  A reader takes tokens from the front
of a stream, and what it takes past the end is an error that the stream remembers.  A reader undoes
a writer if it takes from the stream just what the writer has appended.
-/

namespace TokenStream

abbrev Writer (Token α : Type) := StateT (List Token) Option α

structure Input (Token : Type) where
  left : List Token
  failed : Bool

abbrev Reader (Token α : Type) := StateM (Input Token) α

section

variable {Token α β : Type}

def append (tokens : List Token) : Writer Token Unit := modify (· ++ tokens)

/-- The writer stops unless the condition holds. -/
def require (condition : Prop) [Decidable condition] : Writer Token Unit :=
  if condition then pure () else StateT.lift none

def writeEach (write : α → Writer Token Unit) : List α → Writer Token Unit
  | [] => pure ()
  | a :: as => do
    write a
    writeEach write as

def readEach (read : Reader Token α) : Nat → Reader Token (List α)
  | 0 => pure []
  | count + 1 => do
    let a ← read
    let as ← readEach read count
    pure (a :: as)

/-- What is written is appended, and the reader takes just that and returns the value. -/
def Reads (write : Writer Token Unit) (read : Reader Token α) (a : α) : Prop :=
  ∀ before after, write.run before = some ((), after) →
    ∃ tokens, after = before ++ tokens ∧
      ∀ rest, read.run ⟨tokens ++ rest, false⟩ = (a, ⟨rest, false⟩)

theorem Reads.pure (a : α) : Reads (Pure.pure () : Writer Token Unit) (Pure.pure a) a := by
  intro before after hwrite
  obtain rfl : before = after := congrArg Prod.snd (Option.some.inj hwrite)
  exact ⟨[], (List.append_nil before).symm, fun rest => rfl⟩

theorem Reads.bind {write write' : Writer Token Unit} {read : Reader Token α}
    {read' : α → Reader Token β} {a : α} {b : β} (h : Reads write read a)
    (h' : Reads write' (read' a) b) :
    Reads (write >>= fun _ => write') (read >>= read') b := by
  intro before after hwrite
  obtain ⟨⟨⟨⟩, middle⟩, hfirst, hsecond⟩ := Option.bind_eq_some_iff.mp hwrite
  obtain ⟨tokens, rfl, hread⟩ := h before middle hfirst
  obtain ⟨tokens', rfl, hread'⟩ := h' _ after hsecond
  refine ⟨tokens ++ tokens', List.append_assoc .., fun rest => ?_⟩
  show (read' (read.run _).1).run (read.run _).2 = _
  rw [List.append_assoc, hread (tokens' ++ rest)]
  exact hread' rest

/-- The last value is read, and the result is made of it. -/
theorem Reads.last {write : Writer Token Unit} {read : Reader Token α} {a : α} (h : Reads write read a)
    (f : α → β) : Reads write (read >>= fun a => Pure.pure (f a)) (f a) := by
  intro before after hwrite
  obtain ⟨tokens, rfl, hread⟩ := h before after hwrite
  refine ⟨tokens, rfl, fun rest => ?_⟩
  show (f (read.run _).1, (read.run _).2) = _
  rw [hread rest]

theorem Reads.map {write : Writer Token Unit} {read : Reader Token α} {a : α} (h : Reads write read a)
    (f : α → β) : Reads write (f <$> read) (f a) := h.last f

/-- A condition that the writer needs may be used for the rest. -/
theorem Reads.require {condition : Prop} [Decidable condition] {write : Writer Token Unit}
    {read : Reader Token α} {a : α} (h : condition → Reads write read a) :
    Reads (TokenStream.require condition >>= fun _ => write) read a := by
  intro before after hwrite
  by_cases hcondition : condition
  · rw [TokenStream.require, if_pos hcondition] at hwrite
    exact h hcondition before after hwrite
  · rw [TokenStream.require, if_neg hcondition] at hwrite
    cases hwrite

/-- Values are written one after the other, and what is read of each of them is a function of it. -/
theorem Reads.each {write : α → Writer Token Unit} {read : Reader Token β} (f : α → β)
    (h : ∀ a, Reads (write a) read (f a)) (as : List α) :
    Reads (writeEach write as) (readEach read as.length) (as.map f) := by
  induction as with
  | nil => exact .pure []
  | cons a as ih => exact (h a).bind (ih.last (f a :: ·))

/-- The reader returns a value from what is written, and may leave some of it. -/
def Returns (write : Writer Token Unit) (read : Reader Token α) (a : α) : Prop :=
  ∀ before after, write.run before = some ((), after) →
    ∃ tokens, after = before ++ tokens ∧ ∀ rest, (read.run ⟨tokens ++ rest, false⟩).1 = a

theorem Reads.returns_pure {write : Writer Token Unit} {read : Reader Token α} {a : α}
    (h : Reads write read a) (b : β) : Returns write (Pure.pure b) b := by
  intro before after hwrite
  obtain ⟨tokens, hafter, -⟩ := h before after hwrite
  exact ⟨tokens, hafter, fun rest => rfl⟩

theorem Reads.bind_returns {write write' : Writer Token Unit} {read : Reader Token α}
    {read' : α → Reader Token β} {a : α} {b : β} (h : Reads write read a)
    (h' : Returns write' (read' a) b) :
    Returns (write >>= fun _ => write') (read >>= read') b := by
  intro before after hwrite
  obtain ⟨⟨⟨⟩, middle⟩, hfirst, hsecond⟩ := Option.bind_eq_some_iff.mp hwrite
  obtain ⟨tokens, rfl, hread⟩ := h before middle hfirst
  obtain ⟨tokens', rfl, hread'⟩ := h' _ after hsecond
  refine ⟨tokens ++ tokens', List.append_assoc .., fun rest => ?_⟩
  show ((read' (read.run _).1).run (read.run _).2).1 = b
  rw [List.append_assoc, hread (tokens' ++ rest)]
  exact hread' rest

end

end TokenStream
