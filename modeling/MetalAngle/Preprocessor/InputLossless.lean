import Mathlib.Data.List.TakeWhile
import MetalAngle.Preprocessor.Input

/-!
# Reading the input loses nothing

A read keeps the text apart from its line continuations as long as it looks at the next character
of the text where it looks for a continuation, does not come to a second continuation before it has
copied anything, and copies from no string more than the buffer has room for.
-/

namespace MetalAngle.Preprocessor

open LabelledRun List Option Reader

/-! ## Text and line continuations -/

variable {c : Char}

theorem splice_cons (hc : c ≠ '\\') (chars : List Char) :
    splice (c :: chars) = c :: splice chars := by
  rw [splice.eq_4]
  all_goals
    intros
    contradiction

theorem continuations_cons (hc : c ≠ '\\') (chars : List Char) :
    continuations (c :: chars) = continuations chars := by
  rw [continuations.eq_4]
  all_goals
    intros
    contradiction

variable {chars : List Char}

theorem splice_backslash (hnewline : chars.head? ≠ some '\n') (hreturn : chars.head? ≠ some '\r') :
    splice ('\\' :: chars) = '\\' :: splice chars ∧
      continuations ('\\' :: chars) = continuations chars := by
  rw [splice.eq_4, continuations.eq_4]
  · exact ⟨rfl, rfl⟩
  all_goals
    intro rest _ hchars
    rw [hchars] at hnewline hreturn
    first | exact hnewline rfl | exact hreturn rfl

theorem splice_newline (chars : List Char) :
    splice ('\\' :: '\n' :: chars) = splice chars ∧
      continuations ('\\' :: '\n' :: chars) = continuations chars + 1 :=
  ⟨splice.eq_1 chars, continuations.eq_1 chars⟩

theorem splice_return_newline (chars : List Char) :
    splice ('\\' :: '\r' :: '\n' :: chars) = splice chars ∧
      continuations ('\\' :: '\r' :: '\n' :: chars) = continuations chars + 1 :=
  ⟨splice.eq_2 chars, continuations.eq_2 chars⟩

theorem splice_return (hnewline : chars.head? ≠ some '\n') :
    splice ('\\' :: '\r' :: chars) = splice chars ∧
      continuations ('\\' :: '\r' :: chars) = continuations chars + 1 := by
  rw [splice.eq_3, continuations.eq_3]
  · exact ⟨rfl, rfl⟩
  all_goals
    intro rest hchars
    rw [hchars] at hnewline
    exact hnewline rfl

theorem splice_append (h : '\\' ∉ chars) (rest : List Char) :
    splice (chars ++ rest) = chars ++ splice rest ∧
      continuations (chars ++ rest) = continuations rest := by
  induction chars with
  | nil => exact ⟨rfl, rfl⟩
  | cons c chars ih =>
      obtain ⟨hc, hchars⟩ := not_or.mp (mem_cons.not.mp h)
      rw [cons_append, splice_cons (Ne.symm hc), continuations_cons (Ne.symm hc),
        (ih hchars).1, (ih hchars).2]
      exact ⟨rfl, rfl⟩

/-! ## Looking at the next character -/

@[simp] theorem text_cons (s : SourceString) (rest : List SourceString) :
    text (s :: rest) = s.chars ++ text rest := flatMap_cons

/-- Where the next character of the text or the one that is looked at is `c`, the string there is
not empty. -/
def SeesNext (strings : List SourceString) (c : Char) : Prop :=
  peek strings = some c ∨ (text strings).head? = some c → ∀ s ∈ strings.head?, s.chars ≠ []

variable {strings : List SourceString}

theorem peek_eq_of_seesNext (h : SeesNext strings c) :
    peek strings = some c ↔ (text strings).head? = some c := by
  cases strings with
  | nil => exact Iff.rfl
  | cons s rest =>
    cases hchars : s.chars with
    | nil =>
        have hno : ¬ (peek (s :: rest) = some c ∨ (text (s :: rest)).head? = some c) :=
          fun hc => h hc s rfl hchars
        exact ⟨fun hc => absurd (.inl hc) hno, fun hc => absurd (.inr hc) hno⟩
    | cons first chars => simp [peek, hchars]

instance (strings : List SourceString) (c : Char) : Decidable (SeesNext strings c) :=
  inferInstanceAs (Decidable (_ → _))

theorem skipChar_of_seesNext (h : SeesNext strings c) (hpeek : peek strings = some c) :
    ∃ rest, skipChar strings = some rest ∧ text strings = c :: text rest := by
  cases strings with
  | nil => contradiction
  | cons s rest =>
    have hne := h (.inl hpeek) s rfl
    match hchars : s.chars with
    | [] => exact absurd hchars hne
    | [first] =>
        obtain rfl : first = c := by simpa [peek, hchars] using hpeek
        exact ⟨rest, by simp [skipChar, hchars], by simp [hchars]⟩
    | first :: second :: chars =>
        obtain rfl : first = c := by simpa [peek, hchars] using hpeek
        exact ⟨{ s with chars := second :: chars } :: rest, by simp [skipChar, hchars],
          by simp [hchars]⟩

/-! ## Copying strings -/

/-- Each string that is copied from has as many characters before its next backslash as there is
room for. -/
def Fits (maxSize : Nat) : List SourceString → Nat → Prop
  | [], _ => True
  | s :: rest, nRead =>
      nRead < maxSize →
        let copied := (s.chars.take maxSize).takeWhile (· ≠ '\\')
        nRead + copied.length ≤ maxSize ∧
          (copied = s.chars → Fits maxSize rest (nRead + copied.length))

instance Fits.decidable (maxSize : Nat) :
    (strings : List SourceString) → (nRead : Nat) → Decidable (Fits maxSize strings nRead)
  | [], _ => inferInstanceAs (Decidable True)
  | s :: rest, nRead =>
      have := Fits.decidable maxSize rest
        (nRead + ((s.chars.take maxSize).takeWhile (· ≠ '\\')).length)
      inferInstanceAs (Decidable (_ → _ ∧ (_ → _)))

theorem copyStrings_cons (maxSize nRead : Nat) (s : SourceString) (rest : List SourceString) :
    copyStrings maxSize (s :: rest) nRead =
      if nRead < maxSize then
        let copied := (s.chars.take maxSize).takeWhile (· ≠ '\\')
        if copied = s.chars then
          (copied ++ (copyStrings maxSize rest (nRead + copied.length)).1,
            (copyStrings maxSize rest (nRead + copied.length)).2)
        else (copied, { s with chars := s.chars.drop copied.length } :: rest)
      else ([], s :: rest) := by
  have htake : s.chars.take (min s.chars.length maxSize) = s.chars.take maxSize := by
    rw [Nat.min_comm, ← take_take, take_length]
  obtain ⟨copied, hcopied⟩ : ∃ copied, copied = (s.chars.take maxSize).takeWhile (· ≠ '\\') :=
    ⟨_, rfl⟩
  have hcopiedFrom : copied <+: s.chars.take maxSize := hcopied ▸ takeWhile_prefix _
  have hlength : copied.length ≤ min s.chars.length maxSize := by
    have hle := hcopiedFrom.length_le
    rw [length_take] at hle
    omega
  have heq : copied = s.chars ↔ copied.length = s.chars.length :=
    ⟨congrArg length, (hcopiedFrom.trans ( take_prefix _ _)).eq_of_length⟩
  rw [copyStrings]
  simp only [htake, ← hcopied, heq]
  split
  case isFalse => rfl
  case isTrue =>
    split
    case isTrue hlt => rw [if_neg (by omega)]
    case isFalse hge =>
      have hsize : min s.chars.length maxSize = copied.length := by omega
      rw [hsize]

theorem not_mem_takeWhile (chars : List Char) : '\\' ∉ chars.takeWhile (· ≠ '\\') := by
  intro hmem
  have h := mem_takeWhile_imp hmem
  simp at h

/-- What is copied and what is left are the text, and what is copied has no backslash. -/
theorem copyStrings_text (maxSize : Nat) (strings : List SourceString) (nRead : Nat) :
    text strings = (copyStrings maxSize strings nRead).1 ++
        text (copyStrings maxSize strings nRead).2 ∧
      '\\' ∉ (copyStrings maxSize strings nRead).1 := by
  induction strings generalizing nRead with
  | nil => exact ⟨rfl, not_mem_nil⟩
  | cons s rest ih =>
    have hnot := not_mem_takeWhile (s.chars.take maxSize)
    rw [copyStrings_cons]
    dsimp only
    split
    case isFalse => exact ⟨rfl, not_mem_nil⟩
    case isTrue =>
      split
      case isTrue hall =>
        obtain ⟨htext, hrest⟩ := ih (nRead + (takeWhile _ _).length)
        refine ⟨?_, fun hmem => (mem_append.mp hmem).elim hnot hrest⟩
        rw [text_cons, append_assoc, ← htext, hall]
      case isFalse =>
        have hcopiedFrom : (s.chars.take maxSize).takeWhile (· ≠ '\\') <+: s.chars :=
          ( takeWhile_prefix _).trans ( take_prefix _ _)
        refine ⟨?_, hnot⟩
        rw [text_cons, text_cons, ← append_assoc, prefix_iff_eq_append.mp hcopiedFrom]

theorem copyStrings_fits_iff {maxSize nRead : Nat} (hle : nRead ≤ maxSize)
    (strings : List SourceString) :
    nRead + (copyStrings maxSize strings nRead).1.length ≤ maxSize ↔
      Fits maxSize strings nRead := by
  induction strings generalizing nRead with
  | nil => exact ⟨fun _ => trivial, fun _ => hle⟩
  | cons s rest ih =>
    rw [copyStrings_cons, Fits]
    dsimp only
    split
    case isFalse hfull => exact ⟨fun _ hlt => absurd hlt hfull, fun _ => hle⟩
    case isTrue hlt =>
      split
      case isTrue hall =>
        rw [length_append, ← Nat.add_assoc]
        constructor
        · intro hlength _
          have hcopied := le_trans (Nat.le_add_right _ _) hlength
          exact ⟨hcopied, fun _ => (ih hcopied).mp hlength⟩
        · intro hfits
          obtain ⟨hcopied, hrest⟩ := hfits hlt
          exact (ih hcopied).mpr (hrest hall)
      case isFalse hsome =>
        exact ⟨fun hlength _ => ⟨hlength, fun hall => absurd hall hsome⟩,
          fun hfits => (hfits hlt).1⟩

theorem copyStrings_eq_nil_iff {maxSize : Nat} (hpos : 0 < maxSize) (strings : List SourceString) :
    (copyStrings maxSize strings 0).1 = [] ↔
      text strings = [] ∨ (text strings).head? = some '\\' := by
  induction strings with
  | nil => exact ⟨fun _ => .inl rfl, fun _ => rfl⟩
  | cons s rest ih =>
    obtain ⟨budget, rfl⟩ := Nat.exists_eq_succ_of_ne_zero hpos.ne'
    rw [copyStrings_cons, if_pos hpos]
    cases hchars : s.chars with
    | nil => simpa [hchars] using ih
    | cons first chars =>
        by_cases hfirst : first = '\\'
        · simp [hchars, hfirst]
        · dsimp only
          split <;> simp [hchars, hfirst]

/-! ## One read -/

/-- What a read owes to the text before it. -/
structure GoodRead (input : List SourceString) (maxSize : Nat) (lineNo : Int)
    (result : ReadResult) : Prop where
  within : result.buf.length ≤ maxSize
  text : splice (text input) = result.buf ++ splice (text result.rest)
  fewer : continuations (MetalAngle.Preprocessor.text result.rest) ≤
    continuations (MetalAngle.Preprocessor.text input)
  lines : result.lineNo = min intMax
    (lineNo + (continuations (MetalAngle.Preprocessor.text input) -
      continuations (MetalAngle.Preprocessor.text result.rest)))
  ended : result.buf = [] → MetalAngle.Preprocessor.text result.rest = [] ∨
    lineNo = intMax ∧ continuations (MetalAngle.Preprocessor.text input) ≠
      continuations (MetalAngle.Preprocessor.text result.rest)

/-- The strings after a line continuation: another one is met only where an EOF is faked. -/
def NextLineAllowed (maxSize : Nat) (rest : List SourceString) (lineNo : Int) : Prop :=
  lineNo ≠ intMax → (text rest).head? ≠ some '\\' ∧ Fits maxSize rest 0

/-- The strings after a backslash. -/
def BackslashAllowed (maxSize : Nat) (rest : List SourceString) (lineNo : Int) : Prop :=
  SeesNext rest '\n' ∧ SeesNext rest '\r' ∧
    if peek rest = some '\n' then ∀ rest' ∈ skipChar rest, NextLineAllowed maxSize rest' lineNo
    else if peek rest = some '\r' then
      ∀ rest' ∈ skipChar rest, SeesNext rest' '\n' ∧
        if peek rest' = some '\n' then
          ∀ rest'' ∈ skipChar rest', NextLineAllowed maxSize rest'' lineNo
        else NextLineAllowed maxSize rest' lineNo
    else Fits maxSize rest 1

/-- When a read loses nothing. -/
def ReadAllowed (input : List SourceString) (maxSize : Nat) (lineNo : Int) : Prop :=
  SeesNext input '\\' ∧
    if peek input = some '\\' then
      ∀ rest ∈ skipChar input, BackslashAllowed maxSize rest lineNo
    else Fits maxSize input 0

variable {input rest : List SourceString} {maxSize : Nat} {lineNo : Int}

theorem readOn_text (maxSize : Nat) (buf : List Char) (rest : List SourceString) (lineNo : Int) :
    (readOn maxSize buf rest lineNo).buf ++ splice (text (readOn maxSize buf rest lineNo).rest) =
        buf ++ splice (text rest) ∧
      continuations (text (readOn maxSize buf rest lineNo).rest) = continuations (text rest) := by
  obtain ⟨htext, hnot⟩ := copyStrings_text maxSize rest buf.length
  rw [htext, (splice_append hnot _).1, (splice_append hnot _).2, ← append_assoc]
  exact ⟨rfl, rfl⟩

/-- Reading on after `n` line continuations. -/
theorem readOn_good_iff (n : Nat) {buf : List Char} {lineNo' : Int} (hpos : 0 < maxSize)
    (hbuf : buf.length ≤ maxSize) (htext : splice (text input) = buf ++ splice (text rest))
    (hcontinuations : continuations (text input) = continuations (text rest) + n)
    (hline : lineNo' = min intMax (lineNo + n)) (hoverflow : lineNo = intMax → n = 0) :
    GoodRead input maxSize lineNo (readOn maxSize buf rest lineNo') ↔
      Fits maxSize rest buf.length ∧ (buf = [] → (text rest).head? ≠ some '\\') := by
  obtain ⟨hspliced, hcount⟩ := readOn_text maxSize buf rest lineNo'
  obtain ⟨hcopied, -⟩ := copyStrings_text maxSize rest buf.length
  have hlength : (readOn maxSize buf rest lineNo').buf.length =
      buf.length + (copyStrings maxSize rest buf.length).1.length := length_append
  have hnil : buf = [] → ((readOn maxSize buf rest lineNo').buf = [] ↔
      text rest = [] ∨ (text rest).head? = some '\\') := by
    rintro rfl
    exact copyStrings_eq_nil_iff hpos rest
  constructor
  case mp =>
    intro hgood
    refine ⟨(copyStrings_fits_iff hbuf rest).mp (hlength ▸ hgood.within), fun hempty hhead => ?_⟩
    rcases hgood.ended ((hnil hempty).mpr (.inr hhead)) with hexhausted | ⟨hmax, hchanged⟩
    · have hnone : (copyStrings maxSize rest buf.length).1 = [] := by
        rw [hempty]
        exact (copyStrings_eq_nil_iff hpos rest).mpr (.inr hhead)
      have hexhausted : text (copyStrings maxSize rest buf.length).2 = [] := hexhausted
      rw [hcopied, hnone, hexhausted] at hhead
      contradiction
    · rw [hcontinuations, hcount, hoverflow hmax] at hchanged
      exact hchanged rfl
  case mpr =>
    rintro ⟨hfits, hhead⟩
    constructor
    case within =>
      rw [hlength]
      exact (copyStrings_fits_iff hbuf rest).mpr hfits
    case text => rw [hspliced, htext]
    case fewer =>
      rw [hcontinuations, hcount]
      exact Nat.le_add_right _ _
    case lines =>
      have hlineNo : (readOn maxSize buf rest lineNo').lineNo = lineNo' := rfl
      rw [hlineNo, hcontinuations, hcount, hline]
      push_cast
      congr 1
      omega
    case ended =>
      intro hempty
      left
      have hbufNil : buf = [] := by
        apply eq_nil_of_length_eq_zero
        rw [hempty, length_nil] at hlength
        omega
      rcases (hnil hbufNil).mp hempty with hexhausted | hbackslash
      · rw [hexhausted] at hcopied
        exact (append_eq_nil_iff.mp hcopied.symm).2
      · exact absurd hbackslash (hhead hbufNil)

theorem readNextLine_text (maxSize : Nat) (rest : List SourceString) (lineNo : Int) :
    (readNextLine maxSize rest lineNo).buf ++
        splice (text (readNextLine maxSize rest lineNo).rest) = splice (text rest) := by
  unfold readNextLine
  split
  · rfl
  · exact (readOn_text maxSize [] rest _).1

theorem readNextLine_good_iff (hpos : 0 < maxSize) (hle : lineNo ≤ intMax)
    (htext : splice (text input) = splice (text rest))
    (hcontinuations : continuations (text input) = continuations (text rest) + 1) :
    GoodRead input maxSize lineNo (readNextLine maxSize rest lineNo) ↔
      NextLineAllowed maxSize rest lineNo := by
  unfold readNextLine NextLineAllowed
  by_cases hmax : lineNo = intMax
  · rw [if_pos hmax]
    refine ⟨fun _ hne => absurd hmax hne,
      fun _ => ⟨Nat.zero_le _, htext, ?_, ?_, fun _ => .inr ⟨hmax, ?_⟩⟩⟩
    · dsimp only
      omega
    · dsimp only
      rw [hcontinuations]
      push_cast
      omega
    · dsimp only
      omega
  · rw [if_neg hmax, readOn_good_iff 1 hpos (Nat.zero_le _) htext hcontinuations
      (by push_cast; omega) (fun h => absurd h hmax)]
    exact ⟨fun h _ => ⟨h.2 rfl, h.1⟩, fun h => ⟨(h hmax).2, fun _ => (h hmax).1⟩⟩

theorem exists_of_not_seesNext
    (h : ¬ SeesNext strings c) :
    (peek strings = some c ∨ (text strings).head? = some c) ∧ skipChar strings = none := by
  unfold SeesNext at h
  push Not at h
  obtain ⟨hnext, s, hs, hempty⟩ := h
  refine ⟨hnext, ?_⟩
  cases strings with
  | nil => rfl
  | cons first rest =>
      obtain rfl : first = s := some.inj hs
      simp [skipChar, hempty]

theorem length_splice_newline (hc : c = '\n' ∨ c = '\r') (chars : List Char) :
    (splice ('\\' :: c :: chars)).length < ('\\' :: splice (c :: chars)).length := by
  have hne : c ≠ '\\' := by rcases hc with rfl | rfl <;> decide
  rw [length_cons, splice_cons hne, length_cons]
  rcases hc with rfl | rfl
  · rw [(splice_newline chars).1]
    omega
  · by_cases hhead : chars.head? = some '\n'
    · obtain ⟨rest, rfl⟩ : ∃ rest, chars = '\n' :: rest := head?_eq_some_iff.mp hhead
      rw [(splice_return_newline rest).1, splice_cons (by decide), length_cons]
      omega
    · rw [(splice_return hhead).1]
      omega

theorem not_good_of_line_end (hc : c = '\n' ∨ c = '\r')
    (htext : text input = '\\' :: text rest) (hhead : (text rest).head? = some c) :
    ¬ GoodRead input maxSize lineNo (readOn maxSize ['\\'] rest lineNo) := by
  intro hgood
  obtain ⟨chars, hchars⟩ : ∃ chars, text rest = c :: chars := head?_eq_some_iff.mp hhead
  have heq := hgood.text.trans (readOn_text maxSize ['\\'] rest lineNo).1
  rw [htext, hchars] at heq
  exact (length_splice_newline hc chars).ne (congrArg length heq)

theorem readNextLine_return_good_iff (hpos : 0 < maxSize) (hle : lineNo ≤ intMax)
    (htext : text input = '\\' :: '\r' :: text rest) :
    (∃ rest', skipNewline rest = some rest' ∧
        GoodRead input maxSize lineNo (readNextLine maxSize rest' lineNo)) ↔
      SeesNext rest '\n' ∧
        if peek rest = some '\n' then
          ∀ rest' ∈ skipChar rest, NextLineAllowed maxSize rest' lineNo
        else NextLineAllowed maxSize rest lineNo := by
  by_cases hsees : SeesNext rest '\n'
  case neg =>
    obtain ⟨hnext, hskip⟩ := exists_of_not_seesNext hsees
    refine iff_of_false ?_ fun hallowed => hsees hallowed.1
    rintro ⟨rest', hrest', hgood⟩
    unfold skipNewline at hrest'
    rw [hskip] at hrest'
    by_cases hpeek : peek rest = some '\n'
    · simp [hpeek] at hrest'
    · rw [if_neg hpeek] at hrest'
      cases hrest'
      obtain ⟨chars, hchars⟩ : ∃ chars, text rest = '\n' :: chars :=
        head?_eq_some_iff.mp (hnext.resolve_left hpeek)
      have heq := hgood.text.trans (readNextLine_text maxSize rest lineNo)
      rw [htext, hchars, (splice_return_newline chars).1, splice_cons (by decide)] at heq
      exact absurd (congrArg length heq) (by simp)
  case pos =>
    unfold skipNewline
    rw [and_iff_right hsees]
    split
    case isTrue hnewline =>
      obtain ⟨rest', hskip, hrest⟩ := skipChar_of_seesNext hsees hnewline
      rw [hrest] at htext
      obtain ⟨hsplice, hcount⟩ := splice_return_newline (text rest')
      rw [← htext] at hsplice hcount
      simpa [hskip] using readNextLine_good_iff hpos hle hsplice hcount
    case isFalse hnewline =>
      obtain ⟨hsplice, hcount⟩ := splice_return (mt (peek_eq_of_seesNext hsees).mpr hnewline)
      rw [← htext] at hsplice hcount
      simpa using readNextLine_good_iff hpos hle hsplice hcount

theorem readBehindBackslash_good_iff (hpos : 0 < maxSize) (hle : lineNo ≤ intMax)
    (htext : text input = '\\' :: text rest) :
    (∃ result, readBehindBackslash maxSize rest lineNo = some result ∧
      GoodRead input maxSize lineNo result) ↔ BackslashAllowed maxSize rest lineNo := by
  by_cases hsees : SeesNext rest '\n' ∧ SeesNext rest '\r'
  case neg =>
    -- An empty string is behind the backslash.
    have hc : ∃ c, (c = '\n' ∨ c = '\r') ∧ ¬ SeesNext rest c := by
      by_cases hnewline : SeesNext rest '\n'
      · exact ⟨'\r', .inr rfl, fun hreturn => hsees ⟨hnewline, hreturn⟩⟩
      · exact ⟨'\n', .inl rfl, hnewline⟩
    obtain ⟨c, hc, hnot⟩ := hc
    obtain ⟨hnext, hskip⟩ := exists_of_not_seesNext hnot
    refine iff_of_false ?_ fun hallowed => hsees ⟨hallowed.1, hallowed.2.1⟩
    rintro ⟨result, hread, hgood⟩
    unfold readBehindBackslash at hread
    rw [hskip] at hread
    by_cases hpeek : peek rest = some '\n' ∨ peek rest = some '\r'
    · rcases hpeek with hpeek | hpeek <;> simp [hpeek] at hread
    · push Not at hpeek
      rw [if_neg hpeek.1, if_neg hpeek.2] at hread
      cases hread
      have hhead := hnext.resolve_left (by rcases hc with rfl | rfl; exacts [hpeek.1, hpeek.2])
      exact not_good_of_line_end hc htext hhead hgood
  case pos =>
    unfold readBehindBackslash BackslashAllowed
    rw [and_iff_right hsees.1, and_iff_right hsees.2]
    split
    case isTrue hnewline =>
      obtain ⟨rest', hskip, hrest⟩ := skipChar_of_seesNext hsees.1 hnewline
      rw [hrest] at htext
      obtain ⟨hsplice, hcount⟩ := splice_newline (text rest')
      rw [← htext] at hsplice hcount
      simpa [hskip] using readNextLine_good_iff hpos hle hsplice hcount
    case isFalse hnewline =>
      split
      case isTrue hreturn =>
        obtain ⟨rest', hskip, hrest⟩ := skipChar_of_seesNext hsees.2 hreturn
        rw [hrest] at htext
        have hiff := readNextLine_return_good_iff hpos hle htext
        simp only [hskip, Option.bind_eq_bind, Option.bind_some, Option.pure_def,
          bind_eq_some_iff, some.injEq, mem_def, forall_eq'] at hiff ⊢
        rw [← hiff]
        constructor
        · rintro ⟨_, ⟨rest'', hrest'', rfl⟩, hgood⟩
          exact ⟨rest'', hrest'', hgood⟩
        · rintro ⟨rest'', hrest'', hgood⟩
          exact ⟨_, ⟨rest'', hrest'', rfl⟩, hgood⟩
      case isFalse hreturn =>
        have hheads : (text rest).head? ≠ some '\n' ∧ (text rest).head? ≠ some '\r' :=
          ⟨mt (peek_eq_of_seesNext hsees.1).mpr hnewline,
            mt (peek_eq_of_seesNext hsees.2).mpr hreturn⟩
        obtain ⟨hsplice, hcount⟩ := splice_backslash hheads.1 hheads.2
        rw [← htext] at hsplice hcount
        have hiff : GoodRead input maxSize lineNo (readOn maxSize ['\\'] rest lineNo) ↔ _ :=
          readOn_good_iff 0 hpos hpos hsplice hcount (by push_cast; omega) (fun _ => rfl)
        simpa using hiff

/-- A read is as it should be exactly when it is allowed. -/
theorem read_good_iff (hpos : 0 < maxSize) (hle : lineNo ≤ intMax) :
    (∃ result, read input maxSize lineNo = some result ∧
      GoodRead input maxSize lineNo result) ↔ ReadAllowed input maxSize lineNo := by
  unfold read ReadAllowed
  simp only [hpos, and_true]
  by_cases hsees : SeesNext input '\\'
  case neg =>
    obtain ⟨hnext, hskip⟩ := exists_of_not_seesNext hsees
    refine iff_of_false ?_ fun hallowed => hsees hallowed.1
    rintro ⟨result, hread, hgood⟩
    by_cases hpeek : peek input = some '\\'
    · simp [hpeek, hskip] at hread
    · rw [if_neg hpeek] at hread
      cases hread
      have hiff := (readOn_good_iff 0 hpos (Nat.zero_le _) rfl rfl (by push_cast; omega)
        (fun _ => rfl)).mp hgood
      exact hiff.2 rfl (hnext.resolve_left hpeek)
  case pos =>
    rw [and_iff_right hsees]
    split
    case isTrue hbackslash =>
      obtain ⟨rest, hskip, htext⟩ := skipChar_of_seesNext hsees hbackslash
      simpa [hskip] using readBehindBackslash_good_iff hpos hle htext
    case isFalse hbackslash =>
      have hhead := mt (peek_eq_of_seesNext hsees).mpr hbackslash
      have hiff : GoodRead input maxSize lineNo (readOn maxSize [] input lineNo) ↔ _ :=
        readOn_good_iff 0 hpos (Nat.zero_le _) rfl rfl (by push_cast; omega) (fun _ => rfl)
      simpa [hhead] using hiff

/-! ## Runs -/

/-- What the reads of a run owe to the strings that it started with. -/
structure Lossless (strings : List SourceString) (lineNo : Int) (r : Reader) : Prop where
  within : ∀ call ∈ r.reads, call.buf.length ≤ call.maxSize
  text : (r.reads.map ReadCall.buf).flatten ++ splice (text r.rest) = splice (text strings)
  lines : r.lineNo = min intMax
    (lineNo + (continuations (MetalAngle.Preprocessor.text strings) -
      continuations (MetalAngle.Preprocessor.text r.rest)))
  ended : ∀ call ∈ r.reads, call.buf = [] →
    MetalAngle.Preprocessor.text call.rest = [] ∨ call.lineNo = intMax

/-- The guard of a run: the read has room and is allowed. -/
def Reader.Allowed (r : Reader) (maxSize : Nat) : Prop :=
  0 < maxSize ∧ ReadAllowed r.rest maxSize r.lineNo

instance (r : Reader) (maxSize : Nat) : Decidable (Reader.Allowed r maxSize) := by
  unfold Reader.Allowed ReadAllowed BackslashAllowed NextLineAllowed
  infer_instance

theorem Lossless.read {r : Reader} {result : ReadResult}
    (hlossless : Lossless strings lineNo r) (hgood : GoodRead r.rest maxSize r.lineNo result) :
    Lossless strings lineNo
      { rest := result.rest
        lineNo := result.lineNo
        reads := r.reads ++ [⟨maxSize, r.lineNo, result.buf, result.rest⟩] } := by
  constructor
  case within =>
    intro call hcall
    rcases mem_append.mp hcall with hold | hnew
    · exact hlossless.within call hold
    · obtain rfl := mem_singleton.mp hnew
      exact hgood.within
  case text =>
    simp only [map_append, map_cons, map_nil, flatten_append,
      flatten_cons, flatten_nil, append_nil]
    rw [append_assoc, ← hgood.text, hlossless.text]
  case lines =>
    have hbefore := hlossless.lines
    have hread := hgood.lines
    have hfewer := hgood.fewer
    dsimp only
    omega
  case ended =>
    intro call hcall hempty
    rcases mem_append.mp hcall with hold | hnew
    · exact hlossless.ended call hold hempty
    · obtain rfl := mem_singleton.mp hnew
      exact (hgood.ended hempty).imp_right And.left

/-- In every run whose reads are allowed nothing is lost, and the next read is as it should be exactly
when it is allowed. -/
theorem read_lossless {strings : List SourceString} (hle : lineNo ≤ intMax) {maxSizes : List Nat}
    {r : Reader} (hrun : Run Reader.step Reader.Allowed (Reader.initial strings lineNo) maxSizes r) :
    Lossless strings lineNo r ∧ ∀ maxSize, 0 < maxSize →
      ((∃ result, read r.rest maxSize r.lineNo = some result ∧
        GoodRead r.rest maxSize r.lineNo result) ↔ ReadAllowed r.rest maxSize r.lineNo) := by
  have hbounded : ∀ {r}, Lossless strings lineNo r → r.lineNo ≤ intMax := by
    intro r h
    have hlines := h.lines
    omega
  have hinitial : Lossless strings lineNo (initial strings lineNo) := by
    refine ⟨nofun, rfl, ?_, nofun⟩
    dsimp only [initial]
    omega
  have hpres : ∀ (r : Reader) (maxSize : Nat) (r' : Reader), Lossless strings lineNo r →
      Reader.Allowed r maxSize → step r maxSize = some r' →
        Lossless strings lineNo r' := by
    intro r maxSize r' h hallowed hstep
    obtain ⟨result, hread, hgood⟩ := (read_good_iff hallowed.1 (hbounded h)).mpr hallowed.2
    unfold step at hstep
    rw [hread] at hstep
    cases hstep
    exact h.read hgood
  have hlossless := hrun.invariant hpres hinitial
  exact ⟨hlossless, fun maxSize hpos => read_good_iff hpos (hbounded hlossless)⟩

/-- Two continuations, the first of them split across strings. -/
theorem read_lossless_foobar :
    let strings := [⟨['f', 'o', 'o', '\\'], '\x00'⟩,
      ⟨['\n', 'b', 'a', '\\', '\r', '\n', 'r'], '\x00'⟩]
    ∃ r, Run step Reader.Allowed (initial strings 0) [11, 8, 6] r ∧
      (Lossless strings 0 r ∧ ∀ maxSize, 0 < maxSize →
        ((∃ result, read r.rest maxSize r.lineNo = some result ∧
          GoodRead r.rest maxSize r.lineNo result) ↔ ReadAllowed r.rest maxSize r.lineNo)) ∧
      (r.reads.map ReadCall.buf).flatten = ['f', 'o', 'o', 'b', 'a', 'r'] ∧ r.lineNo = 2 := by
  intro strings
  obtain ⟨r, hexec, hbuf, hline⟩ : ∃ r,
      exec (checked step fun r maxSize => decide (Reader.Allowed r maxSize))
        (initial strings 0) [11, 8, 6] = some r ∧
      (r.reads.map ReadCall.buf).flatten = ['f', 'o', 'o', 'b', 'a', 'r'] ∧ r.lineNo = 2 :=
    ⟨_, rfl, by decide, by decide⟩
  have hrun := Run.of_exec_checked _ (fun _ _ => of_decide_eq_true) hexec
  exact ⟨r, hrun, read_lossless (by decide) hrun, hbuf, hline⟩

/-- A second continuation in a row is taken for the end of the input, and more strings than the
buffer has room for run over it. -/
theorem read_lossy :
    (∃ result, read [SourceString.new ['\\', '\n', '\\', '\n', 'f', 'o', 'o'] (-1)] 30 0 =
      some result ∧ result.buf = [] ∧ text result.rest ≠ [] ∧ result.lineNo = 1) ∧
    ∃ result, read [SourceString.new ['a', 'b'] 2, SourceString.new ['c', 'd', 'e', 'f'] 4] 3 0 =
      some result ∧ 3 < result.buf.length :=
  ⟨⟨_, rfl, by decide⟩, ⟨_, rfl, by decide⟩⟩

end MetalAngle.Preprocessor
