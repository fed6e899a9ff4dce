import MetalAngle.Lib.LabelledRun
import Mathlib.Tactic

/-!
# The input of the preprocessor

`Input` hands the source strings to the tokenizer and takes line continuations out.  The read
location is the list of strings from there on, the first of them from its character index on.
-/

namespace MetalAngle.Preprocessor

open LabelledRun

structure SourceString where
  chars : List Char
  following : Char
deriving DecidableEq

def intMax : Int := 2 ^ 31 - 1

/-- A string in memory; memory that is not listed is zero.  With a negative length the string ends
at the first zero. -/
def SourceString.new (memory : List Char) (length : Int) : SourceString :=
  let len := if length < 0 then (memory.takeWhile (· ≠ '\x00')).length else length.toNat
  { chars := memory.take len, following := memory.getD len '\x00' }

/-- What `mReadLoc` points at, unless the strings have run out. -/
def peek : List SourceString → Option Char
  | [] => none
  | s :: _ => some (s.chars.headD s.following)

def skipChar : List SourceString → Option (List SourceString)
  | [] => none
  | s :: rest =>
      match s.chars with
      | [] => none
      | [_] => some rest
      | _ :: chars => some ({ s with chars := chars } :: rest)

structure ReadResult where
  buf : List Char
  rest : List SourceString
  lineNo : Int
deriving DecidableEq

/-- The loop over the strings: what it writes behind the first `nRead` characters of the buffer. -/
def copyStrings (maxSize : Nat) : List SourceString → Nat → List Char × List SourceString
  | [], _ => ([], [])
  | s :: rest, nRead =>
    if nRead < maxSize then
      let size := min s.chars.length maxSize
      let copied := (s.chars.take size).takeWhile (· ≠ '\\')
      if copied.length < size then
        -- A possible line continuation stops the loop.
        (copied, { s with chars := s.chars.drop copied.length } :: rest)
      else if size = s.chars.length then
        let (more, rest) := copyStrings maxSize rest (nRead + size)
        (copied ++ more, rest)
      else (copied, { s with chars := s.chars.drop size } :: rest)
    else ([], s :: rest)

def readOn (maxSize : Nat) (buf : List Char) (rest : List SourceString) (lineNo : Int) :
    ReadResult :=
  let (copied, rest) := copyStrings maxSize rest buf.length
  { buf := buf ++ copied, rest := rest, lineNo := lineNo }

def readNextLine (maxSize : Nat) (rest : List SourceString) (lineNo : Int) : ReadResult :=
  if lineNo = intMax then { buf := [], rest := rest, lineNo := lineNo }
  else readOn maxSize [] rest (lineNo + 1)

def skipNewline (rest : List SourceString) : Option (List SourceString) :=
  if peek rest = some '\n' then skipChar rest else some rest

def readBehindBackslash (maxSize : Nat) (rest : List SourceString) (lineNo : Int) :
    Option ReadResult :=
  if peek rest = some '\n' then do
    let rest ← skipChar rest
    return readNextLine maxSize rest lineNo
  else if peek rest = some '\r' then do
    let rest ← skipChar rest
    let rest ← skipNewline rest
    return readNextLine maxSize rest lineNo
  else
    some (readOn maxSize ['\\'] rest lineNo)

def read (input : List SourceString) (maxSize : Nat) (lineNo : Int) : Option ReadResult :=
  if peek input = some '\\' ∧ 0 < maxSize then do
    let rest ← skipChar input
    readBehindBackslash maxSize rest lineNo
  else some (readOn maxSize [] input lineNo)

def text (strings : List SourceString) : List Char := strings.flatMap SourceString.chars

def splice : List Char → List Char
  | '\\' :: '\n' :: chars => splice chars
  | '\\' :: '\r' :: '\n' :: chars => splice chars
  | '\\' :: '\r' :: chars => splice chars
  | c :: chars => c :: splice chars
  | [] => []

def continuations : List Char → Nat
  | '\\' :: '\n' :: chars => continuations chars + 1
  | '\\' :: '\r' :: '\n' :: chars => continuations chars + 1
  | '\\' :: '\r' :: chars => continuations chars + 1
  | _ :: chars => continuations chars
  | [] => 0

/-- A call of `read`: the line number before it, what it wrote and what it left. -/
structure ReadCall where
  maxSize : Nat
  lineNo : Int
  buf : List Char
  rest : List SourceString
deriving DecidableEq

structure Reader where
  rest : List SourceString
  lineNo : Int
  reads : List ReadCall
deriving DecidableEq

namespace Reader

def initial (strings : List SourceString) (lineNo : Int) : Reader :=
  { rest := strings, lineNo := lineNo, reads := [] }

def step (r : Reader) (maxSize : Nat) : Option Reader :=
  (read r.rest maxSize r.lineNo).map fun result =>
    { rest := result.rest
      lineNo := result.lineNo
      reads := r.reads ++ [⟨maxSize, r.lineNo, result.buf, result.rest⟩] }

end Reader

end MetalAngle.Preprocessor
