import Mathlib.Logic.Relation

/-!
# Conditional groups of the preprocessor

`DirectiveParser` keeps a stack of the `#if` chains that are open and skips the groups that are not
selected.  Its input is what the tokenizer makes of the source, line by line.
-/

namespace MetalAngle.Preprocessor.DirectiveParser

structure Token where
  isIdentifier : Bool
  text : String

inductive DirectiveType
  | NONE | DEFINE | UNDEF | IF | IFDEF | IFNDEF | ELSE | ELIF | ENDIF | ERROR | PRAGMA | EXTENSION
  | VERSION | LINE

def getDirective (token : Token) : DirectiveType :=
  if !token.isIdentifier then .NONE
  else match token.text with
    | "define" => .DEFINE
    | "undef" => .UNDEF
    | "if" => .IF
    | "ifdef" => .IFDEF
    | "ifndef" => .IFNDEF
    | "else" => .ELSE
    | "elif" => .ELIF
    | "endif" => .ENDIF
    | "error" => .ERROR
    | "pragma" => .PRAGMA
    | "extension" => .EXTENSION
    | "version" => .VERSION
    | "line" => .LINE
    | _ => .NONE

def isConditionalDirective : DirectiveType → Bool
  | .IF | .IFDEF | .IFNDEF | .ELSE | .ELIF | .ENDIF => true
  | _ => false

/-- What is behind a hash: a token, the others of the line, and the one that ends it, which is
`LAST` or a newline. -/
structure Directive where
  token : Token
  tokens : List Token
  eod : Token
  last : Bool

def Directive.type (d : Directive) : DirectiveType := getDirective d.token

inductive Line
  | text (tokens : List Token)
  | hash
  | directive (d : Directive)

inductive ID
  | PP_UNEXPECTED_TOKEN
  | PP_DIRECTIVE_INVALID_NAME
  | PP_CONDITIONAL_ENDIF_WITHOUT_IF
  | PP_CONDITIONAL_ELSE_WITHOUT_IF
  | PP_CONDITIONAL_ELSE_AFTER_ELSE
  | PP_CONDITIONAL_ELIF_WITHOUT_IF
  | PP_CONDITIONAL_ELIF_AFTER_ELSE
  | PP_CONDITIONAL_UNTERMINATED
  | PP_CONDITIONAL_UNEXPECTED_TOKEN
  | PP_EOF_IN_DIRECTIVE

/-- The diagnostics, the macros, the parser of expressions, which may leave tokens, those of the
other directives, which get the parser's two flags, and what is done with a token of `lex`. -/
structure Handlers (σ : Type*) where
  report : ID → String → σ → σ
  defined : String → σ → Bool
  parseExpression : Directive → σ → Int × List Token × σ
  parse : Directive → Bool → Bool → σ → σ
  emit : Token → σ → σ

structure ConditionalBlock where
  type : String
  skipBlock : Bool := false
  skipGroup : Bool := false
  foundValidGroup : Bool := false
  foundElseGroup : Bool := false

/-- The parser without its stack. -/
structure Context (σ : Type*) where
  mPastFirstStatement : Bool := false
  mSeenNonPreprocessorToken : Bool := false
  env : σ

variable {σ : Type*} (h : Handlers σ) (d : Directive)

namespace Context

variable (c : Context σ)

def report (id : ID) (text : String) : Context σ := { c with env := h.report id text c.env }

/-- The check for more tokens behind a directive. -/
def checkTokens : List Token → Context σ
  | [] => c
  | token :: _ => c.report h .PP_CONDITIONAL_UNEXPECTED_TOKEN token.text

def parseExpressionIf : Int × Context σ :=
  let (expression, tokens, env) := h.parseExpression d c.env
  (expression, { c with env }.checkTokens h tokens)

def parseExpressionIfdef : Int × Context σ :=
  match d.tokens with
  | [] => (0, c.report h .PP_UNEXPECTED_TOKEN d.eod.text)
  | token :: tokens =>
    if !token.isIdentifier then (0, c.report h .PP_UNEXPECTED_TOKEN token.text)
    else (if h.defined token.text c.env then 1 else 0, c.checkTokens h tokens)

/-- The expression of a conditional directive. -/
def expression : Int × Context σ :=
  match d.type with
  | .IFDEF => c.parseExpressionIfdef h d
  | .IFNDEF =>
    let (expression, c) := c.parseExpressionIfdef h d
    (if expression = 0 then 1 else 0, c)
  | _ => c.parseExpressionIf h d

/-- The directives that are not conditional. -/
def parse : Context σ :=
  match d.type with
  | .NONE => c.report h .PP_DIRECTIVE_INVALID_NAME d.token.text
  | _ => { c with env := h.parse d c.mPastFirstStatement c.mSeenNonPreprocessorToken c.env }

/-- The end of `parseDirective`. -/
def checkEnd : Context σ := if d.last then c.report h .PP_EOF_IN_DIRECTIVE d.eod.text else c

end Context

structure Parser (σ : Type*) extends Context σ where
  mConditionalStack : List ConditionalBlock := []

def skipping : List ConditionalBlock → Bool
  | [] => false
  | block :: _ => block.skipBlock || block.skipGroup

@[simp]
theorem skipping_cons (block : ConditionalBlock) (blocks : List ConditionalBlock) :
    skipping (block :: blocks) = (block.skipBlock || block.skipGroup) := rfl

namespace Parser

variable (s : Parser σ)

def parseConditionalIf : Parser σ :=
  let type := d.token.text
  if skipping s.mConditionalStack then
    { s with mConditionalStack := { type, skipBlock := true } :: s.mConditionalStack }
  else
    let (expression, c) := s.expression h d
    ⟨c, { type, skipGroup := expression = 0, foundValidGroup := expression ≠ 0 } ::
      s.mConditionalStack⟩

def parseElse : Parser σ :=
  match s.mConditionalStack with
  | [] => ⟨s.report h .PP_CONDITIONAL_ELSE_WITHOUT_IF d.token.text, []⟩
  | block :: blocks =>
    if block.skipBlock then s
    else if block.foundElseGroup then
      { s with toContext := s.report h .PP_CONDITIONAL_ELSE_AFTER_ELSE d.token.text }
    else
      ⟨s.checkTokens h d.tokens,
        { block with
          foundElseGroup := true, skipGroup := block.foundValidGroup, foundValidGroup := true } ::
            blocks⟩

def parseElif : Parser σ :=
  match s.mConditionalStack with
  | [] => ⟨s.report h .PP_CONDITIONAL_ELIF_WITHOUT_IF d.token.text, []⟩
  | block :: blocks =>
    if block.skipBlock then s
    else if block.foundElseGroup then
      { s with toContext := s.report h .PP_CONDITIONAL_ELIF_AFTER_ELSE d.token.text }
    else if block.foundValidGroup then
      { s with mConditionalStack := { block with skipGroup := true } :: blocks }
    else
      let (expression, c) := s.parseExpressionIf h d
      ⟨c,
        { block with skipGroup := expression = 0, foundValidGroup := expression ≠ 0 } :: blocks⟩

def parseEndif : Parser σ :=
  match s.mConditionalStack with
  | [] => ⟨s.report h .PP_CONDITIONAL_ENDIF_WITHOUT_IF d.token.text, []⟩
  | _ :: blocks => ⟨s.checkTokens h d.tokens, blocks⟩

/-- The switch of `parseDirective`. -/
def dispatch : Parser σ :=
  match d.type with
  | .IF | .IFDEF | .IFNDEF => s.parseConditionalIf h d
  | .ELSE => s.parseElse h d
  | .ELIF => s.parseElif h d
  | .ENDIF => s.parseEndif h d
  | _ => { s with toContext := s.parse h d }

def parseDirective : Parser σ :=
  if skipping s.mConditionalStack && !isConditionalDirective d.type then s
  else
    let s := s.dispatch h d
    { s with toContext := s.checkEnd h d }

def lexToken (s : Parser σ) (token : Token) : Parser σ :=
  if skipping s.mConditionalStack then { s with mSeenNonPreprocessorToken := true }
  else { s with toContext := ⟨true, true, h.emit token s.env⟩ }

def lexLine (s : Parser σ) : Line → Parser σ
  | .text tokens => tokens.foldl (lexToken h) s
  | .hash => { s with mPastFirstStatement := true }
  | .directive d => { s.parseDirective h d with mPastFirstStatement := true }

end Parser

/-! ## Well-nested input -/

def Line.isPlain : Line → Bool
  | .directive d => !isConditionalDirective d.type
  | _ => true

mutual

/-- Lines whose conditional directives are well nested. -/
inductive Group
  | nil
  | line (l : Line) (hl : l.isPlain) (rest : Group)
  | conditional (d : Directive) (hd : d.type = .IF ∨ d.type = .IFDEF ∨ d.type = .IFNDEF)
      (first : Group) (others : Others) (rest : Group)

/-- What comes after the first group of a chain, up to its `#endif`. -/
inductive Others
  | endif (d : Directive) (hd : d.type = .ENDIF)
  | elif (d : Directive) (hd : d.type = .ELIF) (group : Group) (others : Others)
  | otherwise (d : Directive) (hd : d.type = .ELSE) (group : Group) (closing : Directive)
      (hclosing : closing.type = .ENDIF)

end

mutual

def Group.lines : Group → List Line
  | .nil => []
  | .line l _ rest => l :: rest.lines
  | .conditional d _ first others rest =>
    .directive d :: (first.lines ++ (others.lines ++ rest.lines))

def Others.lines : Others → List Line
  | .endif d _ => [.directive d]
  | .elif d _ group others => .directive d :: (group.lines ++ others.lines)
  | .otherwise d _ group closing _ => .directive d :: (group.lines ++ [.directive closing])

end

namespace Context

variable (c : Context σ)

def endDirective : Context σ := { c.checkEnd h d with mPastFirstStatement := true }

def endif : Context σ := (c.checkTokens h d.tokens).endDirective h d

/-- A line that is not conditional; tokens that are skipped count as seen. -/
def takeLine (skip : Bool) : Line → Context σ
  | .text tokens =>
    if skip then
      { c with mSeenNonPreprocessorToken := c.mSeenNonPreprocessorToken || !tokens.isEmpty }
    else tokens.foldl (fun c token => ⟨true, true, h.emit token c.env⟩) c
  | .hash => { c with mPastFirstStatement := true }
  | .directive d =>
    if skip then { c with mPastFirstStatement := true } else (c.parse h d).endDirective h d

end Context

mutual

/-- What a group does.  Of one that is skipped only what is behind a directive that ends a chain is
looked at. -/
def Group.select (skip : Bool) : Group → Context σ → Context σ
  | .nil, c => c
  | .line l _ rest, c => rest.select skip (c.takeLine h skip l)
  | .conditional d _ first others rest, c =>
    if skip then
      rest.select true (others.select true false (first.select true (c.endDirective h d)))
    else
      let (value, c) := c.expression h d
      let c := first.select (value = 0) (c.endDirective h d)
      rest.select false (others.select false (value ≠ 0) c)

/-- The other groups of a chain that is `inside` a group that is skipped, or of which a group has
been `chosen`. -/
def Others.select (inside chosen : Bool) : Others → Context σ → Context σ
  | .endif d _, c => c.endif h d
  | .elif d _ group others, c =>
    if inside || chosen then
      others.select inside chosen (group.select true (c.endDirective h d))
    else
      let (value, c) := c.parseExpressionIf h d
      others.select false (value ≠ 0) (group.select (value = 0) (c.endDirective h d))
  | .otherwise d _ group closing _, c =>
    let c := if inside then c else c.checkTokens h d.tokens
    (group.select (inside || chosen) (c.endDirective h d)).endif h closing

end

namespace Parser

variable (c : Context σ) (blocks : List ConditionalBlock)

theorem lexLine_of_plain {l : Line} (hl : l.isPlain) :
    lexLine h ⟨c, blocks⟩ l = ⟨c.takeLine h (skipping blocks) l, blocks⟩ := by
  cases l with
  | text tokens =>
    clear hl
    rw [lexLine, Context.takeLine]
    induction tokens generalizing c with
    | nil => cases skipping blocks <;> simp
    | cons token tokens ih =>
      cases hskip : skipping blocks with
      | false => simpa [lexToken, hskip] using ih ⟨true, true, h.emit token c.env⟩
      | true => simpa [lexToken, hskip] using ih { c with mSeenNonPreprocessorToken := true }
  | hash => rfl
  | directive d =>
    have hplain : isConditionalDirective d.type = false := by simpa [Line.isPlain] using hl
    have hdispatch : dispatch h d ⟨c, blocks⟩ = ⟨c.parse h d, blocks⟩ := by
      unfold dispatch
      split <;> simp_all [isConditionalDirective]
    cases hskip : skipping blocks <;>
      simp [lexLine, parseDirective, hplain, hskip, hdispatch, Context.takeLine,
        Context.endDirective]

theorem lexLine_of_conditional (s : Parser σ) (hd : isConditionalDirective d.type) :
    s.lexLine h (.directive d) =
      { s.dispatch h d with toContext := (s.dispatch h d).endDirective h d } := by
  simp [lexLine, parseDirective, hd, Context.endDirective]

theorem lexLine_endif (hd : d.type = .ENDIF) (block : ConditionalBlock) :
    lexLine h ⟨c, block :: blocks⟩ (.directive d) = ⟨c.endif h d, blocks⟩ := by
  rw [lexLine_of_conditional h d _ (by rw [hd]; rfl), dispatch, hd]
  rfl

end Parser

open MetalAngle.Preprocessor.DirectiveParser.Parser

mutual

theorem Group.lex_lines : ∀ (g : Group) (c : Context σ) (blocks : List ConditionalBlock),
    g.lines.foldl (lexLine h) ⟨c, blocks⟩ = ⟨g.select h (skipping blocks) c, blocks⟩
  | .nil, c, blocks => rfl
  | .line l hl rest, c, blocks => by
    rw [Group.lines, List.foldl_cons, lexLine_of_plain h c blocks hl, rest.lex_lines, Group.select]
  | .conditional d hd first others rest, c, blocks => by
    have hconditional : isConditionalDirective d.type := by
      rcases hd with hd | hd | hd <;> rw [hd] <;> rfl
    have hopen (s : Parser σ) : s.dispatch h d = s.parseConditionalIf h d := by
      rcases hd with hd | hd | hd <;> rw [dispatch, hd]
    rw [Group.lines, List.foldl_cons, List.foldl_append, List.foldl_append,
      lexLine_of_conditional h d _ hconditional, hopen, parseConditionalIf, Group.select]
    cases hskip : skipping blocks <;>
      simp [hskip, first.lex_lines, others.lex_lines, rest.lex_lines]

theorem Others.lex_lines : ∀ (o : Others) (c : Context σ) (block : ConditionalBlock)
    (blocks : List ConditionalBlock), block.foundElseGroup = false →
    o.lines.foldl (lexLine h) ⟨c, block :: blocks⟩ =
      ⟨o.select h block.skipBlock block.foundValidGroup c, blocks⟩
  | .endif d hd, c, block, blocks, _ => lexLine_endif h d c blocks hd block
  | .elif d hd group others, c, block, blocks, helse => by
    rw [Others.lines, List.foldl_cons, List.foldl_append,
      lexLine_of_conditional h d _ (by rw [hd]; rfl), dispatch, hd, Others.select]
    simp only [parseElif]
    cases hblock : block.skipBlock <;> cases hvalid : block.foundValidGroup <;>
      simp [hblock, helse, hvalid, group.lex_lines, others.lex_lines]
  | .otherwise d hd group closing hclosing, c, block, blocks, helse => by
    rw [Others.lines, List.foldl_cons, List.foldl_append,
      lexLine_of_conditional h d _ (by rw [hd]; rfl), dispatch, hd, Others.select]
    simp only [parseElse]
    cases hblock : block.skipBlock <;>
      simp [hblock, helse, group.lex_lines, lexLine_endif h closing _ _ hclosing]

end

/-- Tokens behind a directive or its missing end are reported, and nothing else happens. -/
def Reports : σ → σ → Prop :=
  Relation.ReflTransGen fun env env' => ∃ text,
    env' = h.report .PP_CONDITIONAL_UNEXPECTED_TOKEN text env ∨
      env' = h.report .PP_EOF_IN_DIRECTIVE text env

namespace Context

variable (c : Context σ)

theorem reports_checkTokens (tokens : List Token) :
    Reports h c.env (c.checkTokens h tokens).env := by
  cases tokens with
  | nil => exact .refl
  | cons token tokens => exact .single ⟨token.text, .inl rfl⟩

theorem reports_endDirective : Reports h c.env (c.endDirective h d).env := by
  unfold endDirective checkEnd
  split
  · exact .single ⟨d.eod.text, .inr rfl⟩
  · exact .refl

theorem reports_endif : Reports h c.env (c.endif h d).env :=
  (c.reports_checkTokens h d.tokens).trans (reports_endDirective h d _)

end Context

mutual

theorem Group.reports_select : ∀ (g : Group) (c : Context σ),
    Reports h c.env (g.select h true c).env
  | .nil, c => .refl
  | .line l hl rest, c => by
    have hrest := rest.reports_select (c.takeLine h true l)
    cases l <;> exact hrest
  | .conditional d _ first others rest, c =>
    (((c.reports_endDirective h d).trans (first.reports_select _)).trans
      (others.reports_select _)).trans (rest.reports_select _)

theorem Others.reports_select : ∀ (o : Others) (c : Context σ),
    Reports h c.env (o.select h true false c).env
  | .endif d _, c => c.reports_endif h d
  | .elif d _ group others, c =>
    ((c.reports_endDirective h d).trans (group.reports_select _)).trans (others.reports_select _)
  | .otherwise d _ group closing _, c =>
    ((c.reports_endDirective h d).trans (group.reports_select _)).trans
      (Context.reports_endif h closing _)

end

/-- In a group that is not selected nothing is defined, evaluated or emitted. -/
theorem lex_skipped (g : Group) (c : Context σ) (block : ConditionalBlock)
    (blocks : List ConditionalBlock) :
    let stack := { block with skipGroup := true } :: blocks
    let s := g.lines.foldl (lexLine h) ⟨c, stack⟩
    s.mConditionalStack = stack ∧ Reports h c.env s.env := by
  intro stack s
  have hlines : s = _ := g.lex_lines h c stack
  rw [hlines, skipping_cons, Bool.or_true]
  exact ⟨rfl, g.reports_select h c⟩

end MetalAngle.Preprocessor.DirectiveParser
