import Mathlib.Algebra.Group.Int.Defs
import Mathlib.Algebra.Ring.Nat
import Mathlib.Data.List.Basic

/-!
# Names of program resources

The name of a resource is a variable, a field of a variable or an element of an array.  The parts
of a name are found by the brackets and dots in it.
-/

namespace MetalAngle.Gl.Linking

open List

abbrev Name := List Char

abbrev GL_INVALID_INDEX : UInt32 := 0xFFFFFFFF

/-- An identifier has neither brackets nor dots. -/
def IsIdentifier (name : Name) : Prop := '[' ∉ name ∧ ']' ∉ name ∧ '.' ∉ name

instance (name : Name) : Decidable (IsIdentifier name) :=
  inferInstanceAs (Decidable (_ ∧ _ ∧ _))

variable {name : Name}

theorem split_at_dot (h : '.' ∈ name) :
    name = name.takeWhile (· != '.') ++ '.' :: (name.dropWhile (· != '.')).tail := by
  induction name with
  | nil => cases h
  | cons c name ih =>
    by_cases hc : c = '.'
    · simp [hc]
    · have hrest : '.' ∈ name := (mem_cons.mp h).resolve_left (Ne.symm hc)
      have hkeep : (c != '.') = true := by simpa using hc
      simp only [takeWhile_cons, dropWhile_cons, hkeep, if_true, cons_append]
      rw [← ih hrest]

/-- `find_last_of` for one character, among the first characters of a name. -/
def findLastOf (name : Name) (c : Char) : Nat → Option Nat
  | 0 => none
  | n + 1 => if name[n]? = some c then some n else findLastOf name c n

theorem findLastOf_eq_none_iff {c : Char} {n : Nat} :
    findLastOf name c n = none ↔ ∀ i < n, name[i]? ≠ some c := by
  induction n with
  | zero => simp [findLastOf]
  | succ n ih =>
    unfold findLastOf
    split
    · rename_i hn
      simp only [reduceCtorEq, false_iff, not_forall]
      exact ⟨n, Nat.lt_succ_self _, fun hne => hne hn⟩
    · rename_i hn
      rw [ih]
      constructor
      · intro hall i hi
        rcases Nat.lt_succ_iff_lt_or_eq.mp hi with hi | rfl
        · exact hall i hi
        · exact hn
      · exact fun hall i hi => hall i (Nat.lt_succ_of_lt hi)

theorem findLastOf_of_not_mem {c : Char} (h : c ∉ name) (n : Nat) :
    findLastOf name c n = none :=
  findLastOf_eq_none_iff.mpr fun _ _ hget => h (mem_of_getElem? hget)

def isDigit (c : Char) : Bool := '0' ≤ c && c ≤ '9'

def digitValue (c : Char) : Nat := c.toNat - '0'.toNat

def leadingDecimal (text : Name) : Nat :=
  (text.takeWhile isDigit).foldl (fun value c => value * 10 + digitValue c) 0

def isSpace (c : Char) : Bool := c = ' ' || ('\t' ≤ c && c ≤ '\r')

def strtol (text : Name) : Int :=
  match text.dropWhile isSpace with
  | '-' :: digits => max (-(leadingDecimal digits : Int)) (-(2 ^ 63))
  | '+' :: digits => min (leadingDecimal digits : Int) (2 ^ 63 - 1)
  | digits => min (leadingDecimal digits : Int) (2 ^ 63 - 1)

def atoi (text : Name) : Int := (strtol text).bmod (2 ^ 32)

/-- The loop of `ParseResourceName` from a length of the base name on, with the subscripts that
have been read, the last one of the name first. -/
def parseResourceNameFrom (name : Name) : Nat → Nat → List UInt32 → Name × List UInt32
  | 0, baseNameLength, subscripts => (name.take baseNameLength, subscripts)
  | rounds + 1, baseNameLength, subscripts =>
    match findLastOf name '[' baseNameLength, findLastOf name ']' baseNameLength with
    | some left, some close =>
      if close = baseNameLength - 1 then
        let index := atoi (name.drop (left + 1))
        let subscript := if 0 ≤ index then UInt32.ofNat index.toNat else GL_INVALID_INDEX
        parseResourceNameFrom name rounds left (subscripts ++ [subscript])
      else (name.take baseNameLength, subscripts)
    | _, _ => (name.take baseNameLength, subscripts)

/-- `ParseResourceName`: the base name and the subscripts.  A round takes a bracket off. -/
def ParseResourceName (name : Name) : Name × List UInt32 :=
  parseResourceNameFrom name name.length name.length []

theorem parseResourceNameFrom_subscripts (name : Name) (rounds baseNameLength : Nat)
    (subscripts : List UInt32) :
    ∃ more, (parseResourceNameFrom name rounds baseNameLength subscripts).2 =
      subscripts ++ more := by
  induction rounds generalizing baseNameLength subscripts with
  | zero => exact ⟨[], by simp [parseResourceNameFrom]⟩
  | succ rounds ih =>
    unfold parseResourceNameFrom
    split
    · split
      · obtain ⟨more, hmore⟩ := ih _ _
        exact ⟨_, hmore.trans (append_assoc _ _ _)⟩
      · exact ⟨[], by simp⟩
    · exact ⟨[], by simp⟩

theorem ParseResourceName_base (h : (ParseResourceName name).2 = []) :
    (ParseResourceName name).1 = name := by
  unfold ParseResourceName at h ⊢
  cases hlength : name.length with
  | zero => simp [parseResourceNameFrom, length_eq_zero_iff.mp hlength]
  | succ rounds =>
    rw [hlength] at h
    unfold parseResourceNameFrom at h ⊢
    have hwhole : name.take (rounds + 1) = name := by rw [← hlength, take_length]
    split at h
    · split at h
      · obtain ⟨more, hmore⟩ := parseResourceNameFrom_subscripts name rounds _ _
        rw [hmore] at h
        simp at h
      · rename_i hclose
        simp only [if_neg hclose]
        exact hwhole
    · exact hwhole

theorem bracket_mem_of_subscripts (h : (ParseResourceName name).2 ≠ []) :
    '[' ∈ name := by
  by_contra hbracket
  apply h
  unfold ParseResourceName
  cases name.length with
  | zero => rfl
  | succ rounds =>
      unfold parseResourceNameFrom
      rw [findLastOf_of_not_mem hbracket]

end MetalAngle.Gl.Linking
