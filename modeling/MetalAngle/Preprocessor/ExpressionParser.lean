import Mathlib.Tactic

/-!
# Expressions of the preprocessor

The actions of the grammar of `#if` and `#line` expressions, on the tree that the generated parser
builds, against the meaning that C gives to the expression.
-/

namespace MetalAngle.Preprocessor.ExpressionParser

open BitVec

/-! ## The context of a parse -/

inductive ID
  | PP_INTEGER_OVERFLOW
  | PP_UNDEFINED_SHIFT
  | PP_DIVISION_BY_ZERO
  | PP_CONDITIONAL_UNEXPECTED_TOKEN
  | PP_INVALID_LINE_NUMBER
  | PP_INVALID_FILE_NUMBER

structure Report where
  id : ID
  text : String

structure ErrorSettings where
  unexpectedIdentifier : ID
  integerLiteralsMustFit32BitSignedRange : Bool

/-- `valid` is the flag of the caller, which no action sets to true. -/
structure Context where
  errorSettings : ErrorSettings
  ignoreErrors : Int
  valid : Bool
  diagnostics : List Report

namespace Context

def isIgnoringErrors (c : Context) : Bool := c.ignoreErrors > 0

def startIgnoreErrors (c : Context) : Context := { c with ignoreErrors := c.ignoreErrors + 1 }

def endIgnoreErrors (c : Context) : Context := { c with ignoreErrors := c.ignoreErrors - 1 }

def report (c : Context) (report : Report) : Context :=
  { c with valid := false, diagnostics := c.diagnostics ++ [report] }

def reportUnlessIgnored (c : Context) (report : Report) : Context :=
  if c.isIgnoringErrors then c else c.report report

end Context

/-! ## Operators -/

inductive BinaryOp
  | or | and | bitOr | bitXor | bitAnd | ne | eq | ge | le | gt | lt | right | left
  | sub | add | mod | div | mul
deriving DecidableEq

inductive UnaryOp
  | not | complement | minus | plus

def ofBool (b : Bool) : BitVec 32 := if b then 1 else 0

def WrappingMul (lhs rhs : BitVec 32) : BitVec 32 :=
  (lhs.signExtend 64 * rhs.signExtend 64 &&& 0xffffffff#64).setWidth 32

def operationText (a : BitVec 32) (op : String) (b : BitVec 32) : String :=
  toString a.toInt ++ op ++ toString b.toInt

namespace BinaryOp

def midRule : BinaryOp → BitVec 32 → Context → Context
  | .or, a, c => if a ≠ 0 then c.startIgnoreErrors else c
  | .and, a, c => if a = 0 then c.startIgnoreErrors else c
  | _, _, c => c

def action (op : BinaryOp) (a b : BitVec 32) (c : Context) : BitVec 32 × Context :=
  match op with
  | .or => if a ≠ 0 then (1, c.endIgnoreErrors) else (ofBool (a ≠ 0 || b ≠ 0), c)
  | .and => if a = 0 then (0, c.endIgnoreErrors) else (ofBool (a ≠ 0 && b ≠ 0), c)
  | .bitOr => (a ||| b, c)
  | .bitXor => (a ^^^ b, c)
  | .bitAnd => (a &&& b, c)
  | .ne => (ofBool (a ≠ b), c)
  | .eq => (ofBool (a = b), c)
  | .ge => (ofBool (b.sle a), c)
  | .le => (ofBool (a.sle b), c)
  | .gt => (ofBool (b.slt a), c)
  | .lt => (ofBool (a.slt b), c)
  | .right =>
      if b.toInt < 0 ∨ b.toInt > 31 then
        (0, c.reportUnlessIgnored ⟨.PP_UNDEFINED_SHIFT, operationText a " >> " b⟩)
      else if a.toInt < 0 then (a >>> b.toNat, c)
      else (a.sshiftRight b.toNat, c)
  | .left =>
      if b.toInt < 0 ∨ b.toInt > 31 then
        (0, c.reportUnlessIgnored ⟨.PP_UNDEFINED_SHIFT, operationText a " << " b⟩)
      else (a <<< b.toNat, c)
  | .sub => (a - b, c)
  | .add => (a + b, c)
  | .mod =>
      if b = 0 then
        (0, c.reportUnlessIgnored ⟨.PP_DIVISION_BY_ZERO, operationText a " % " b⟩)
      else if a = .intMin 32 ∧ b = -1 then (0, c)
      else (a.srem b, c)
  | .div =>
      if b = 0 then
        (0, c.reportUnlessIgnored ⟨.PP_DIVISION_BY_ZERO, operationText a " / " b⟩)
      else if a = .intMin 32 ∧ b = -1 then (.intMax 32, c)
      else (a.sdiv b, c)
  | .mul => (WrappingMul a b, c)

def precedence : BinaryOp → Nat
  | .or => 0
  | .and => 1
  | .bitOr => 2
  | .bitXor => 3
  | .bitAnd => 4
  | .eq | .ne => 5
  | .lt | .gt | .le | .ge => 6
  | .left | .right => 7
  | .add | .sub => 8
  | .mul | .div | .mod => 9

end BinaryOp

def UnaryOp.action : UnaryOp → BitVec 32 → BitVec 32
  | .not, a => ofBool (a = 0)
  | .complement, a => ~~~a
  | .minus, a => if a = .intMin 32 then .intMin 32 else -a
  | .plus, a => a

def TOK_UNARY : Nat := 10

/-! ## Expressions -/

inductive Expression
  | constInt (text : String) (number : Nat)
  | identifier (text : String)
  | binary (op : BinaryOp) (lhs rhs : Expression)
  | unary (op : UnaryOp) (operand : Expression)
  | paren (inner : Expression)

namespace Expression

/-- Whether `yylex` reports a literal. -/
def overflows (settings : ErrorSettings) (number : Nat) : Bool :=
  number ≥ 2 ^ 32 || (number ≥ 2 ^ 31 && settings.integerLiteralsMustFit32BitSignedRange)

/-- The value of an expression and the context after the actions of its tokens and rules.  A number
that does not fit is read as the largest one. -/
def parse : Expression → Context → BitVec 32 × Context
  | .constInt text number, c =>
      (.ofNat 32 (min number (2 ^ 32 - 1)),
        if overflows c.errorSettings number then c.report ⟨.PP_INTEGER_OVERFLOW, text⟩ else c)
  | .identifier text, c =>
      (-1, c.reportUnlessIgnored ⟨c.errorSettings.unexpectedIdentifier, text⟩)
  | .binary op lhs rhs, c =>
      let left := lhs.parse c
      let right := rhs.parse (op.midRule left.1 left.2)
      op.action left.1 right.1 right.2
  | .unary op operand, c =>
      let result := operand.parse c
      (op.action result.1, result.2)
  | .paren inner, c => inner.parse c

def precedence : Expression → Nat
  | .binary op _ _ => op.precedence
  | .unary _ _ => TOK_UNARY
  | _ => TOK_UNARY + 1

/-- The trees that are left when the conflicts of the grammar are resolved by the precedences of
operators that are all left associative. -/
def IsResolved : Expression → Prop
  | .binary op lhs rhs =>
      lhs.IsResolved ∧ rhs.IsResolved ∧
        op.precedence ≤ lhs.precedence ∧ op.precedence < rhs.precedence
  | .unary _ operand => operand.IsResolved ∧ TOK_UNARY ≤ operand.precedence
  | .paren inner => inner.IsResolved
  | _ => True

end Expression

/-! ## The meaning of an expression in C -/

inductive Nonterminal
  | logicalOr | logicalAnd | inclusiveOr | exclusiveOr | bitAnd | equality | relational | shift
  | additive | multiplicative | unary | primary
deriving DecidableEq

namespace Nonterminal

/-- The nonterminal of the operands to the right of an operator, and of a single operand. -/
def next : Nonterminal → Nonterminal
  | .logicalOr => .logicalAnd
  | .logicalAnd => .inclusiveOr
  | .inclusiveOr => .exclusiveOr
  | .exclusiveOr => .bitAnd
  | .bitAnd => .equality
  | .equality => .relational
  | .relational => .shift
  | .shift => .additive
  | .additive => .multiplicative
  | .multiplicative => .unary
  | .unary | .primary => .primary

def operators : Nonterminal → List BinaryOp
  | .logicalOr => [.or]
  | .logicalAnd => [.and]
  | .inclusiveOr => [.bitOr]
  | .exclusiveOr => [.bitXor]
  | .bitAnd => [.bitAnd]
  | .equality => [.eq, .ne]
  | .relational => [.lt, .gt, .le, .ge]
  | .shift => [.left, .right]
  | .additive => [.add, .sub]
  | .multiplicative => [.mul, .div, .mod]
  | .unary | .primary => []

inductive Derives : Nonterminal → Expression → Prop
  | constInt (text : String) (number : Nat) : Derives .primary (.constInt text number)
  | identifier (text : String) : Derives .primary (.identifier text)
  | paren {e : Expression} (h : Derives .logicalOr e) : Derives .primary (.paren e)
  | unary (op : UnaryOp) {e : Expression} (h : Derives .unary e) : Derives .unary (.unary op e)
  | binary {n : Nonterminal} {op : BinaryOp} {lhs rhs : Expression} (hop : op ∈ n.operators)
      (hlhs : Derives n lhs) (hrhs : Derives n.next rhs) : Derives n (.binary op lhs rhs)
  | single {n : Nonterminal} {e : Expression} (h : Derives n.next e) : Derives n e

end Nonterminal

namespace BinaryOp

def shortcut : BinaryOp → BitVec 32 → Option (BitVec 32)
  | .or, a => if a ≠ 0 then some 1 else none
  | .and, a => if a = 0 then some 0 else none
  | _, _ => none

/-- The operation on 32-bit integers in two's complement, where it is defined. -/
def denote (op : BinaryOp) (a b : BitVec 32) : Option (BitVec 32) :=
  match op with
  | .or => some (ofBool (a ≠ 0 || b ≠ 0))
  | .and => some (ofBool (a ≠ 0 && b ≠ 0))
  | .bitOr => some (a ||| b)
  | .bitXor => some (a ^^^ b)
  | .bitAnd => some (a &&& b)
  | .ne => some (ofBool (a.toInt ≠ b.toInt))
  | .eq => some (ofBool (a.toInt = b.toInt))
  | .ge => some (ofBool (a.toInt ≥ b.toInt))
  | .le => some (ofBool (a.toInt ≤ b.toInt))
  | .gt => some (ofBool (a.toInt > b.toInt))
  | .lt => some (ofBool (a.toInt < b.toInt))
  | .right => if 0 ≤ b.toInt ∧ b.toInt ≤ 31 then some (a >>> b.toNat) else none
  | .left => if 0 ≤ b.toInt ∧ b.toInt ≤ 31 then some (a <<< b.toNat) else none
  | .sub => some (.ofInt 32 (a.toInt - b.toInt))
  | .add => some (.ofInt 32 (a.toInt + b.toInt))
  | .mul => some (.ofInt 32 (a.toInt * b.toInt))
  | .mod => if b.toInt = 0 then none else some (.ofInt 32 (a.toInt.tmod b.toInt))
  | .div =>
      if b.toInt = 0 then none
      else if a.toInt = -2 ^ 31 ∧ b.toInt = -1 then some (.ofInt 32 (2 ^ 31 - 1))
      else some (.ofInt 32 (a.toInt.tdiv b.toInt))

end BinaryOp

def UnaryOp.denote : UnaryOp → BitVec 32 → BitVec 32
  | .not, a => ofBool (a.toInt = 0)
  | .complement, a => ~~~a
  | .minus, a => .ofInt 32 (-a.toInt)
  | .plus, a => a

/-- The value of an expression, unless a subexpression that is evaluated has none. -/
def Expression.evaluate : Expression → Option (BitVec 32)
  | .constInt _ number => if number < 2 ^ 32 then some (.ofNat 32 number) else none
  | .identifier _ => none
  | .binary op lhs rhs => do
      let a ← lhs.evaluate
      match op.shortcut a with
      | some value => return value
      | none => op.denote a (← rhs.evaluate)
  | .unary op operand => do return op.denote (← operand.evaluate)
  | .paren inner => inner.evaluate

/-! ## Evaluated subexpressions -/

namespace BinaryOp

def faults (op : BinaryOp) (a b : BitVec 32) : List Report :=
  let undefinedShift := b.toInt < 0 ∨ b.toInt > 31
  match op with
  | .right => if undefinedShift then [⟨.PP_UNDEFINED_SHIFT, operationText a " >> " b⟩] else []
  | .left => if undefinedShift then [⟨.PP_UNDEFINED_SHIFT, operationText a " << " b⟩] else []
  | .mod => if b = 0 then [⟨.PP_DIVISION_BY_ZERO, operationText a " % " b⟩] else []
  | .div => if b = 0 then [⟨.PP_DIVISION_BY_ZERO, operationText a " / " b⟩] else []
  | _ => []

def result (op : BinaryOp) (a b : BitVec 32) : BitVec 32 :=
  (op.action a b ⟨⟨.PP_CONDITIONAL_UNEXPECTED_TOKEN, false⟩, 0, true, []⟩).1

end BinaryOp

def Expression.value : Expression → BitVec 32
  | .constInt _ number => .ofNat 32 (min number (2 ^ 32 - 1))
  | .identifier _ => -1
  | .binary op lhs rhs => op.result lhs.value rhs.value
  | .unary op operand => op.action operand.value
  | .paren inner => inner.value

structure Occurrence where
  expression : Expression
  evaluated : Bool

def Occurrence.within (skipped : Bool) (o : Occurrence) : Occurrence :=
  { o with evaluated := o.evaluated && !skipped }

/-- The subexpressions in the order of their rules.  Those are evaluated that are in no skipped
operand. -/
def Expression.occurrences : Expression → List Occurrence
  | .binary op lhs rhs =>
      lhs.occurrences ++
        rhs.occurrences.map (Occurrence.within (op.shortcut lhs.value).isSome) ++
        [⟨.binary op lhs rhs, true⟩]
  | .unary op operand => operand.occurrences ++ [⟨.unary op operand, true⟩]
  | .paren inner => inner.occurrences ++ [⟨.paren inner, true⟩]
  | e => [⟨e, true⟩]

/-- Literals are reported wherever they are, and faults where they are evaluated. -/
def Occurrence.reports (settings : ErrorSettings) (o : Occurrence) : List Report :=
  match o.expression with
  | .constInt text number =>
      if Expression.overflows settings number then [⟨.PP_INTEGER_OVERFLOW, text⟩] else []
  | .identifier text => if o.evaluated then [⟨settings.unexpectedIdentifier, text⟩] else []
  | .binary op lhs rhs => if o.evaluated then op.faults lhs.value rhs.value else []
  | _ => []

def Context.log (c : Context) (reports : List Report) : Context :=
  { c with valid := c.valid && reports.isEmpty, diagnostics := c.diagnostics ++ reports }

/-! ## The actions -/

namespace Context

variable (c : Context) (r : Report) (rs rs' : List Report)

@[simp] theorem log_nil : c.log [] = c := by
  simp [log]

@[simp] theorem log_log : (c.log rs).log rs' = c.log (rs ++ rs') := by
  cases rs <;> simp [log]

theorem report_eq : c.report r = c.log [r] := by
  simp [report, log]

theorem reportUnlessIgnored_eq :
    c.reportUnlessIgnored r = c.log (if c.isIgnoringErrors then [] else [r]) := by
  by_cases h : c.isIgnoringErrors <;> simp [reportUnlessIgnored, h, report_eq]

@[simp] theorem isIgnoringErrors_log : (c.log rs).isIgnoringErrors = c.isIgnoringErrors := rfl

@[simp] theorem errorSettings_log : (c.log rs).errorSettings = c.errorSettings := rfl

@[simp] theorem startIgnoreErrors_log :
    (c.log rs).startIgnoreErrors = c.startIgnoreErrors.log rs := rfl

@[simp] theorem endIgnoreErrors_log : (c.log rs).endIgnoreErrors = c.endIgnoreErrors.log rs := rfl

@[simp] theorem endIgnoreErrors_startIgnoreErrors :
    c.startIgnoreErrors.endIgnoreErrors = c := by
  simp [startIgnoreErrors, endIgnoreErrors]

end Context

namespace BinaryOp

variable (op : BinaryOp) (a b : BitVec 32) (c : Context)

theorem midRule_eq :
    op.midRule a c = if (op.shortcut a).isSome then c.startIgnoreErrors else c := by
  cases op <;> simp [midRule, shortcut]

theorem faults_of_shortcut (h : (op.shortcut a).isSome) : op.faults a b = [] := by
  cases op <;> simp_all [shortcut, faults]

theorem action_eq :
    op.action a b c = (op.result a b, (if (op.shortcut a).isSome then c.endIgnoreErrors else c).log
        (if c.isIgnoringErrors then [] else op.faults a b)) := by
  cases op <;>
    simp only [action, result, shortcut, faults, Context.reportUnlessIgnored_eq] <;>
    split_ifs <;> simp_all

theorem setWidth_signExtend : (a.signExtend 64).setWidth 32 = a := by
  ext i hi
  simp [getLsbD_signExtend, hi]
  omega

theorem WrappingMul_eq : WrappingMul a b = a * b := by
  have hmask : (0xffffffff#64).setWidth 32 = allOnes 32 := by decide
  rw [WrappingMul, setWidth_and, setWidth_mul _ _ (by decide), hmask,
    and_allOnes, setWidth_signExtend, setWidth_signExtend]

theorem denote_mod (h : b ≠ 0) : denote .mod a b = some (result .mod a b) := by
  have hb : b.toInt ≠ 0 := fun hb => h (eq_of_toInt_eq hb)
  by_cases hmin : a = .intMin 32 ∧ b = -1
  · obtain ⟨rfl, rfl⟩ := hmin
    decide
  · simp only [denote, result, action, h, hb, hmin, if_false]
    rw [← toInt_srem, ofInt_toInt]

theorem denote_div (h : b ≠ 0) : denote .div a b = some (result .div a b) := by
  have hb : b.toInt ≠ 0 := fun hb => h (eq_of_toInt_eq hb)
  by_cases hmin : a = .intMin 32 ∧ b = -1
  · obtain ⟨rfl, rfl⟩ := hmin
    decide
  · have hmin' : ¬ (a.toInt = -2 ^ 31 ∧ b.toInt = -1) := fun hm =>
      hmin ⟨eq_of_toInt_eq hm.1, eq_of_toInt_eq hm.2⟩
    have hdiv := toInt_sdiv_of_ne_or_ne a b (not_and_or.mp hmin)
    simp only [denote, result, action, h, hb, hmin, hmin', if_false]
    rw [← hdiv, ofInt_toInt]

theorem denote_right (h : ¬ (b.toInt < 0 ∨ b.toInt > 31)) :
    denote .right a b = some (result .right a b) := by
  have hb : 0 ≤ b.toInt ∧ b.toInt ≤ 31 := by omega
  by_cases ha : a.toInt < 0
  · simp [denote, result, action, h, hb, ha]
  · have hmsb : a.msb = false := by
      rw [msb_eq_toInt]
      simpa using ha
    simp [denote, result, action, h, hb, ha, sshiftRight_eq_of_msb_false hmsb]

theorem denote_eq (h : op.faults a b = []) : op.denote a b = some (op.result a b) := by
  cases op with
  | mod => exact denote_mod a b fun hb => by simp [faults, hb] at h
  | div => exact denote_div a b fun hb => by simp [faults, hb] at h
  | right => exact denote_right a b fun hb => by simp [faults, hb] at h
  | left =>
    have hb : ¬ (b.toInt < 0 ∨ b.toInt > 31) := fun hb => by simp [faults, hb] at h
    have hb' : 0 ≤ b.toInt ∧ b.toInt ≤ 31 := by omega
    simp [denote, result, action, hb, hb']
  | mul => simp [denote, result, action, WrappingMul_eq, ofInt_mul]
  | add => simp [denote, result, action, ofInt_add]
  | sub => simp [denote, result, action, Int.sub_eq_add_neg, ofInt_add, ofInt_neg,
      sub_eq_add_neg]
  | ne | eq => simp [denote, result, action, toInt_inj]
  | ge | le | gt | lt =>
    simp [denote, result, action, sle_eq_decide, slt_eq_decide]
  | or | and =>
    simp only [denote, result, action]
    split_ifs <;> simp_all [ofBool]
  | bitOr | bitXor | bitAnd => rfl

end BinaryOp

namespace Nonterminal

def level (n : Nonterminal) : Nat := n.ctorIdx

theorem mem_operators (n : Nonterminal) (op : BinaryOp) :
    op ∈ n.operators ↔ n.level = op.precedence := by
  cases n <;> cases op <;> decide

theorem level_next (n : Nonterminal) (h : n ≠ .primary) : n.next.level = n.level + 1 := by
  cases n <;> first | rfl | exact absurd rfl h

theorem level_injective (m n : Nonterminal) (h : m.level = n.level) : m = n := by
  cases m <;> cases n <;> first | rfl | (revert h; decide)

theorem exists_level (k : Nat) (h : k ≤ 11) : ∃ n : Nonterminal, n.level = k := by
  interval_cases k
  exacts [⟨.logicalOr, rfl⟩, ⟨.logicalAnd, rfl⟩, ⟨.inclusiveOr, rfl⟩, ⟨.exclusiveOr, rfl⟩,
    ⟨.bitAnd, rfl⟩, ⟨.equality, rfl⟩, ⟨.relational, rfl⟩, ⟨.shift, rfl⟩, ⟨.additive, rfl⟩,
    ⟨.multiplicative, rfl⟩, ⟨.unary, rfl⟩, ⟨.primary, rfl⟩]

/-- A nonterminal derives what one of a higher level does. -/
theorem Derives.lower {m n : Nonterminal} {e : Expression} (h : Derives m e)
    (hle : n.level ≤ m.level) : Derives n e := by
  obtain ⟨d, hd⟩ := Nat.exists_eq_add_of_le hle
  induction d generalizing n with
  | zero => rwa [← level_injective _ _ hd]
  | succ d ih =>
    have hm : m.level ≤ 11 := by cases m <;> decide
    have hn : n ≠ .primary := by
      rintro rfl
      have : Nonterminal.primary.level = 11 := rfl
      omega
    have := level_next n hn
    exact .single (ih (by omega) (by omega))

theorem Derives.resolved {n : Nonterminal} {e : Expression} (h : Derives n e) :
    e.IsResolved ∧ n.level ≤ e.precedence := by
  induction h with
  | constInt | identifier => exact ⟨trivial, le_rfl⟩
  | paren _ ih => exact ⟨ih.1, le_rfl⟩
  | unary op _ ih => exact ⟨ih, le_rfl⟩
  | @binary n op lhs rhs hop _ _ ihl ihr =>
    have hn := (mem_operators n op).mp hop
    have hnext : n.next.level = n.level + 1 := level_next n (by rintro rfl; cases op <;> cases hop)
    exact ⟨⟨ihl.1, ihr.1, hn ▸ ihl.2, by omega⟩, hn.le⟩
  | @single n e _ ih =>
    refine ⟨ih.1, le_trans ?_ ih.2⟩
    cases n <;> decide

end Nonterminal

/-- The trees that the declared precedences leave are those of the grammar of C. -/
theorem Expression.isResolved_iff (e : Expression) :
    e.IsResolved ↔ Nonterminal.Derives .logicalOr e := by
  refine ⟨fun h => ?_, fun h => h.resolved.1⟩
  suffices ∀ n : Nonterminal, n.level ≤ e.precedence → Nonterminal.Derives n e from
    this _ (Nat.zero_le _)
  induction e with
  | constInt text number => exact fun n hn => (Nonterminal.Derives.constInt text number).lower hn
  | identifier text => exact fun n hn => (Nonterminal.Derives.identifier text).lower hn
  | paren inner ih =>
    exact fun n hn => (Nonterminal.Derives.paren (ih h _ (Nat.zero_le _))).lower hn
  | unary op operand ih =>
    exact fun n hn => (Nonterminal.Derives.unary op (ih h.1 _ h.2)).lower hn
  | binary op lhs rhs ihl ihr =>
    intro n hn
    obtain ⟨hlhs, hrhs, hlt, hgt⟩ := h
    have hop : op.precedence ≤ 9 := by cases op <;> decide
    obtain ⟨m, hm⟩ := Nonterminal.exists_level op.precedence (by omega)
    have hnext : m.next.level = m.level + 1 := Nonterminal.level_next m (by
      rintro rfl
      have : Nonterminal.primary.level = 11 := rfl
      omega)
    have hbinary := Nonterminal.Derives.binary ((Nonterminal.mem_operators m op).mpr hm)
      (ihl hlhs m (by omega)) (ihr hrhs m.next (by omega))
    exact hbinary.lower (hm ▸ hn)

/-! ## A whole expression -/

namespace Expression

theorem denote_unary (op : UnaryOp) (a : BitVec 32) : op.denote a = op.action a := by
  cases op with
  | not => simp [UnaryOp.denote, UnaryOp.action, ← toInt_inj]
  | complement | plus => rfl
  | minus =>
    rw [UnaryOp.denote, UnaryOp.action, ofInt_neg, ofInt_toInt]
    split
    · next h => rw [h]; decide
    · rfl

section Reports

variable (settings : ErrorSettings) (skipped : Bool)

/-- The reports of an expression, in an operand that is skipped or not. -/
def reportsWithin (e : Expression) : List Report :=
  (e.occurrences.map (Occurrence.within skipped)).flatMap (Occurrence.reports settings)

theorem reportsWithin_constInt (text : String) (number : Nat) :
    (constInt text number).reportsWithin settings skipped =
      if overflows settings number then [⟨.PP_INTEGER_OVERFLOW, text⟩] else [] := by
  simp [reportsWithin, occurrences, Occurrence.reports, Occurrence.within]

theorem reportsWithin_identifier (text : String) :
    (identifier text).reportsWithin settings skipped =
      if skipped then [] else [⟨settings.unexpectedIdentifier, text⟩] := by
  cases skipped <;> simp [reportsWithin, occurrences, Occurrence.reports, Occurrence.within]

theorem reportsWithin_unary (op : UnaryOp) (operand : Expression) :
    (unary op operand).reportsWithin settings skipped =
      operand.reportsWithin settings skipped := by
  simp [reportsWithin, occurrences, Occurrence.reports, Occurrence.within]

theorem reportsWithin_paren (inner : Expression) :
    (paren inner).reportsWithin settings skipped = inner.reportsWithin settings skipped := by
  simp [reportsWithin, occurrences, Occurrence.reports, Occurrence.within]

theorem reportsWithin_binary (op : BinaryOp) (lhs rhs : Expression) :
    (binary op lhs rhs).reportsWithin settings skipped = lhs.reportsWithin settings skipped ++
        rhs.reportsWithin settings (skipped || (op.shortcut lhs.value).isSome) ++
        (if skipped then [] else op.faults lhs.value rhs.value) := by
  have hwithin : Occurrence.within skipped ∘ Occurrence.within (op.shortcut lhs.value).isSome =
      Occurrence.within (skipped || (op.shortcut lhs.value).isSome) := by
    funext o
    simp [Occurrence.within, Bool.and_comm, Bool.and_left_comm]
  cases skipped <;>
    simp_all [reportsWithin, occurrences, Occurrence.reports, Occurrence.within]

end Reports

/-- The actions compute the value, log what is reported, and leave the count of the operands that
are being skipped as it was. -/
theorem parse_eq (e : Expression) (c : Context) (hc : 0 ≤ c.ignoreErrors) :
    e.parse c = (e.value, c.log (e.reportsWithin c.errorSettings c.isIgnoringErrors)) := by
  induction e generalizing c with
  | constInt text number =>
    rw [reportsWithin_constInt, parse, value]
    split
    · rw [Context.report_eq]
    · rw [Context.log_nil]
  | identifier text =>
    rw [reportsWithin_identifier, parse, value, Context.reportUnlessIgnored_eq]
  | paren inner ih => rw [reportsWithin_paren, parse, value, ih c hc]
  | unary op operand ih => rw [reportsWithin_unary, parse, value, ih c hc]
  | binary op lhs rhs ihl ihr =>
    rw [reportsWithin_binary, parse]
    simp only [ihl c hc, BinaryOp.midRule_eq, BinaryOp.action_eq, value]
    cases hskip : (op.shortcut lhs.value).isSome with
    | false => simp [ihr (c.log _) hc]
    | true =>
      have hstart : c.startIgnoreErrors.isIgnoringErrors := by
        simpa [Context.isIgnoringErrors, Context.startIgnoreErrors] using hc
      have hrhs (rs : List Report) :=
        ihr (c.startIgnoreErrors.log rs) (Int.le_add_one hc)
      have hsettings : c.startIgnoreErrors.errorSettings = c.errorSettings := rfl
      simp [hrhs, hstart, hsettings, BinaryOp.faults_of_shortcut op _ _ hskip]

theorem evaluate_eq (settings : ErrorSettings) (e : Expression)
    (h : e.reportsWithin settings false = []) : e.evaluate = some e.value := by
  induction e with
  | constInt text number =>
    rw [reportsWithin_constInt] at h
    have hlt : number < 4294967296 := by
      by_contra hge
      simp [overflows, Nat.le_of_not_lt hge] at h
    have hmin : min number 4294967295 = number := by omega
    simp [evaluate, value, hlt, hmin]
  | identifier text => simp [reportsWithin_identifier] at h
  | paren inner ih => exact ih (by rwa [reportsWithin_paren] at h)
  | unary op operand ih =>
    have hoperand := ih (by rwa [reportsWithin_unary] at h)
    simp [evaluate, hoperand, denote_unary, value]
  | binary op lhs rhs ihl ihr =>
    rw [reportsWithin_binary, List.append_eq_nil_iff, List.append_eq_nil_iff] at h
    obtain ⟨⟨hlhs, hrhs⟩, hfaults⟩ := h
    rw [evaluate, ihl hlhs, value]
    cases hskip : op.shortcut lhs.value with
    | none =>
      rw [hskip] at hrhs
      simpa [hskip, ihr hrhs] using op.denote_eq _ _ hfaults
    | some v =>
      cases op <;> simp_all [BinaryOp.shortcut, BinaryOp.result, BinaryOp.action]

/-- For every expression: its tree is one of the grammar of C, the count of skipped operands is
zero again, the reports are those of the literals and of the evaluated subexpressions, in order,
and without a report the result is the value of the expression. -/
theorem parse_refines (settings : ErrorSettings) (valid : Bool) (diagnostics : List Report)
    (e : Expression) :
    let reports := e.occurrences.flatMap (Occurrence.reports settings)
    (e.IsResolved ↔ Nonterminal.Derives .logicalOr e) ∧
    (e.parse ⟨settings, 0, valid, diagnostics⟩).2 =
      ⟨settings, 0, valid && reports.isEmpty, diagnostics ++ reports⟩ ∧
    (reports = [] → e.evaluate = some (e.parse ⟨settings, 0, valid, diagnostics⟩).1) := by
  intro reports
  have hreports : reports = e.reportsWithin settings false := by
    have hwithin : Occurrence.within false = id := by
      funext o
      simp [Occurrence.within]
    rw [reportsWithin, hwithin, List.map_id]
  rw [parse_eq e _ le_rfl]
  exact ⟨e.isResolved_iff, by rw [hreports]; rfl, fun h => e.evaluate_eq settings (hreports ▸ h)⟩

end Expression

end MetalAngle.Preprocessor.ExpressionParser
