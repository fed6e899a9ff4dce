import Mathlib.Algebra.Ring.Int.Defs
import Mathlib.Algebra.Ring.Nat
import Mathlib.Data.List.Basic
import MetalAngle.Lib.LabelledRun

/-!
# Debug messages

Messages that are enabled are kept in a log until the application gets them.  It says how many
messages it wants and how large its buffer for the texts is, and may leave out any of the arrays
that tell about the messages.
-/

namespace MetalAngle.Gl.DebugMessages

open LabelledRun List Option
open Function (update update_of_ne)

abbrev GLenum := UInt32

def GL_DONT_CARE : GLenum := 0x1100
def GL_DEBUG_TYPE_PUSH_GROUP : GLenum := 0x8269
def GL_DEBUG_TYPE_POP_GROUP : GLenum := 0x826A
def GL_DEBUG_SEVERITY_LOW : GLenum := 0x9148
def GL_DEBUG_SEVERITY_NOTIFICATION : GLenum := 0x826B

structure Message where
  source : GLenum
  type : GLenum
  id : UInt32
  severity : GLenum
  message : List UInt8

structure Control where
  source : GLenum
  type : GLenum
  severity : GLenum
  ids : List UInt32
  enabled : Bool

structure Group where
  source : GLenum
  id : UInt32
  message : List UInt8
  controls : List Control

structure Debug where
  mOutputEnabled : Bool
  mMessages : List Message
  mMaxLoggedMessages : Nat
  mGroups : List Group

namespace Debug

variable (d : Debug)

/-- `pushDefaultGroup`. -/
def defaultGroup : Group where
  source := 0
  id := 0
  message := []
  controls :=
    [⟨GL_DONT_CARE, GL_DONT_CARE, GL_DONT_CARE, [], true⟩,
      ⟨GL_DONT_CARE, GL_DONT_CARE, GL_DEBUG_SEVERITY_LOW, [], false⟩]

def new (initialDebugState : Bool) (maxLoggedMessages : Nat) : Debug where
  mOutputEnabled := initialDebugState
  mMessages := []
  mMaxLoggedMessages := maxLoggedMessages
  mGroups := [defaultGroup]

end Debug

/-! ## Inserting messages -/

/-- A control is about a message: no `continue` of the loop of `isMessageEnabled` is taken. -/
def Control.isAbout (control : Control) (source type : GLenum) (id : UInt32) (severity : GLenum) :
    Bool :=
  (control.source = GL_DONT_CARE || control.source = source) &&
    (control.type = GL_DONT_CARE || control.type = type) &&
    (control.severity = GL_DONT_CARE || control.severity = severity) &&
    (control.ids.isEmpty || control.ids.contains id)

namespace Debug

variable (d : Debug)

/-- The inner loop of `isMessageEnabled`, over the controls of a group from the last one on. -/
def enabledBy (source type : GLenum) (id : UInt32) (severity : GLenum) :
    List Control → Option Bool
  | [] => none
  | control :: controls =>
    if control.isAbout source type id severity then some control.enabled
    else enabledBy source type id severity controls

/-- The outer loop of `isMessageEnabled`, over the groups from the last one on. -/
def enabledByGroups (source type : GLenum) (id : UInt32) (severity : GLenum) : List Group → Bool
  | [] => true
  | group :: groups =>
    match enabledBy source type id severity group.controls.reverse with
    | some enabled => enabled
    | none => enabledByGroups source type id severity groups

def isMessageEnabled (source type : GLenum) (id : UInt32) (severity : GLenum) : Bool :=
  if !d.mOutputEnabled then false
  else enabledByGroups source type id severity d.mGroups.reverse

def insertMessage (source type : GLenum) (id : UInt32) (severity : GLenum)
    (message : List UInt8) : Debug :=
  if !d.isMessageEnabled source type id severity then d
  else if d.mMessages.length ≥ d.mMaxLoggedMessages then d
  else { d with mMessages := d.mMessages ++ [⟨source, type, id, severity, message⟩] }

def setMessageControl (source type severity : GLenum) (ids : List UInt32) (enabled : Bool) :
    Debug :=
  match d.mGroups.getLast? with
  | none => d
  | some group =>
    { d with
      mGroups := d.mGroups.dropLast ++
        [{ group with controls := group.controls ++ [⟨source, type, severity, ids, enabled⟩] }] }

def pushGroup (source : GLenum) (id : UInt32) (message : List UInt8) : Debug :=
  let d := d.insertMessage source GL_DEBUG_TYPE_PUSH_GROUP id GL_DEBUG_SEVERITY_NOTIFICATION message
  { d with mGroups := d.mGroups ++ [⟨source, id, message, []⟩] }

def popGroup : Option Debug :=
  if d.mGroups.length ≤ 1 then none
  else
    d.mGroups.getLast?.map fun g =>
      { d with mGroups := d.mGroups.dropLast }.insertMessage g.source GL_DEBUG_TYPE_POP_GROUP g.id
        GL_DEBUG_SEVERITY_NOTIFICATION g.message

end Debug

/-! ## Getting messages -/

/-- The arguments of `getMessages`: its bounds, and which of the arrays are not null. -/
structure Request where
  count : Nat
  bufSize : Int
  sources : Bool
  types : Bool
  ids : Bool
  severities : Bool
  lengths : Bool
  messageLog : Bool
deriving DecidableEq

/-- What has been written to the arrays. -/
@[ext] structure Output where
  sources : Nat → Option GLenum
  types : Nat → Option GLenum
  ids : Nat → Option UInt32
  severities : Nat → Option GLenum
  lengths : Nat → Option Int
  messageLog : Nat → Option UInt8

def Output.untouched : Output :=
  ⟨fun _ => none, fun _ => none, fun _ => none, fun _ => none, fun _ => none, fun _ => none⟩

/-- `static_cast<GLsizei>`. -/
def toGLsizei (n : Nat) : Int := Int.bmod n (2 ^ 32)

def store {α : Type} (nonNull : Bool) (array : Nat → Option α) (index : Nat) (value : α) :
    Nat → Option α :=
  if nonNull then update array index (some value) else array

def copy (array : Nat → Option UInt8) : Nat → List UInt8 → Nat → Option UInt8
  | _, [] => array
  | index, byte :: bytes => copy (update array index (some byte)) (index + 1) bytes

structure Result where
  messageCount : Nat
  mMessages : List Message
  output : Output

namespace Request

variable (r : Request)

def write (m : Message) (messageCount messageStringIndex : Nat) (output : Output) : Output where
  messageLog :=
    if r.messageLog then
      update (copy output.messageLog messageStringIndex m.message)
        (messageStringIndex + m.message.length) (some 0)
    else output.messageLog
  sources := store r.sources output.sources messageCount m.source
  types := store r.types output.types messageCount m.type
  ids := store r.ids output.ids messageCount m.id
  severities := store r.severities output.severities messageCount m.severity
  lengths := store r.lengths output.lengths messageCount (toGLsizei m.message.length)

/-- The loop of `getMessages`. -/
def getMessagesLoop : List Message → Nat → Nat → Output → Result
  | [], messageCount, _, output => ⟨messageCount, [], output⟩
  | m :: messages, messageCount, messageStringIndex, output =>
    if messageCount ≤ r.count then
      if r.messageLog ∧ messageStringIndex + m.message.length + 1 > r.bufSize then
        ⟨messageCount, m :: messages, output⟩
      else
        getMessagesLoop messages (messageCount + 1)
          (if r.messageLog then messageStringIndex + m.message.length + 1 else messageStringIndex)
          (r.write m messageCount messageStringIndex output)
    else ⟨messageCount, m :: messages, output⟩

def getMessages (messages : List Message) : Result := r.getMessagesLoop messages 0 0 .untouched

end Request

/-! ## What a call should do -/

def logBytes (messages : List Message) : List UInt8 := messages.flatMap fun m => m.message ++ [0]

def filled {α : Type} (nonNull : Bool) (values : List α) : Nat → Option α :=
  if nonNull then fun i => values[i]? else fun _ => none

def Request.told (r : Request) (messages : List Message) : Output where
  sources := filled r.sources (messages.map (·.source))
  types := filled r.types (messages.map (·.type))
  ids := filled r.ids (messages.map (·.id))
  severities := filled r.severities (messages.map (·.severity))
  lengths := filled r.lengths (messages.map fun m => toGLsizei m.message.length)
  messageLog := filled r.messageLog (logBytes messages)

/-- Nothing is written outside the bounds of the request. -/
structure Output.Within (output : Output) (r : Request) : Prop where
  sources : ∀ i, r.count ≤ i → output.sources i = none
  types : ∀ i, r.count ≤ i → output.types i = none
  ids : ∀ i, r.count ≤ i → output.ids i = none
  severities : ∀ i, r.count ≤ i → output.severities i = none
  lengths : ∀ i, r.count ≤ i → output.lengths i = none
  messageLog : ∀ i : Nat, r.bufSize ≤ i → output.messageLog i = none

/-- A call tells messages at the front of the log and removes these, no more than were asked for and
without leaving the bounds of the arrays. -/
structure Request.Exact (r : Request) (messages : List Message) : Prop where
  count : (r.getMessages messages).messageCount ≤ r.count
  told : ∃ returned, messages = returned ++ (r.getMessages messages).mMessages ∧
    (r.getMessages messages).messageCount = returned.length ∧
    (r.getMessages messages).output = r.told returned
  within : (r.getMessages messages).output.Within r

/-- No more messages are in the log than were asked for, or one more does not fit. -/
def Request.Stops (r : Request) (messages : List Message) : Prop :=
  messages.length ≤ r.count ∨
    r.messageLog ∧ r.bufSize < (logBytes (messages.take (r.count + 1))).length

/-! ## The loop -/

theorem copy_apply (array : Nat → Option UInt8) (index : Nat) (bytes : List UInt8) (i : Nat) :
    copy array index bytes i =
      if index ≤ i ∧ i < index + bytes.length then bytes[i - index]? else array i := by
  induction bytes generalizing array index with
  | nil =>
    rw [if_neg (by simp only [length_nil]; omega)]
    rfl
  | cons byte bytes ih =>
    rw [copy, ih]
    rcases Nat.lt_trichotomy i index with hlt | rfl | hlt
    · rw [if_neg (by omega), if_neg (by omega), update_of_ne (by omega)]
    · rw [if_neg (by omega), if_pos (by simp only [length_cons]; omega)]
      simp
    · have hindex : i - index = (i - (index + 1)) + 1 := by omega
      rw [hindex, getElem?_cons_succ, length_cons]
      by_cases hin : i < index + 1 + bytes.length
      · rw [if_pos (by omega), if_pos (by omega)]
      · rw [if_neg (by omega), if_neg (by omega), update_of_ne (by omega)]

theorem store_filled {α : Type} (nonNull : Bool) (values : List α) (value : α) :
    store nonNull (filled nonNull values) values.length value =
      filled nonNull (values ++ [value]) := by
  cases nonNull with
  | false => rfl
  | true =>
    funext i
    show update (fun i => values[i]?) values.length (some value) i = (values ++ [value])[i]?
    rcases Nat.lt_trichotomy i values.length with hlt | rfl | hlt
    · rw [update_of_ne (by omega), getElem?_append_left hlt]
    · simp
    · rw [update_of_ne (by omega), getElem?_eq_none (by omega),
        getElem?_eq_none (by simp only [length_append, length_singleton]; omega)]

theorem logBytes_append (messages : List Message) (m : Message) :
    logBytes (messages ++ [m]) = logBytes messages ++ (m.message ++ [0]) := by
  simp [logBytes]

theorem copy_filled (bytes text : List UInt8) :
    update (copy (filled true bytes) bytes.length text) (bytes.length + text.length) (some 0) =
      filled true (bytes ++ (text ++ [0])) := by
  funext i
  show _ = (bytes ++ (text ++ [0]))[i]?
  rcases Nat.lt_trichotomy i (bytes.length + text.length) with hlt | rfl | hlt
  · rw [update_of_ne (by omega), copy_apply]
    by_cases hold : i < bytes.length
    · rw [if_neg (by omega), getElem?_append_left hold]
      rfl
    · rw [if_pos (by omega), getElem?_append_right (by omega),
        getElem?_append_left (by omega)]
  · simp
  · rw [update_of_ne (by omega), copy_apply, if_neg (by omega)]
    show bytes[i]? = _
    rw [getElem?_eq_none (by omega), getElem?_eq_none (by simp; omega)]

theorem Request.write_told (r : Request) (returned : List Message) (m : Message) :
    r.write m returned.length (if r.messageLog then (logBytes returned).length else 0)
        (r.told returned) = r.told (returned ++ [m]) := by
  have harray {α : Type} (nonNull : Bool) (f : Message → α) :
      store nonNull (filled nonNull (returned.map f)) returned.length (f m) =
        filled nonNull ((returned ++ [m]).map f) := by
    rw [map_append, map_singleton, ← store_filled, length_map]
  unfold Request.write Request.told
  rw [harray r.sources, harray r.types, harray r.ids, harray r.severities,
    harray r.lengths fun m => toGLsizei m.message.length, logBytes_append]
  cases hlog : r.messageLog with
  | false => rfl
  | true =>
    simp only [if_true]
    rw [copy_filled]

/-- Why the loop ends with a message left: it is one too many, or it does not fit. -/
def Request.StopsAt (r : Request) (returned rest : List Message) : Prop :=
  rest = [] ∨ r.count < returned.length ∨
    r.messageLog ∧ ∃ m ∈ rest.head?, r.bufSize < (logBytes (returned ++ [m])).length

/-- The loop from an iteration on, when some messages have been told. -/
theorem getMessagesLoop_spec (r : Request) (messages returned : List Message)
    (hfits : r.messageLog → ((logBytes returned).length : Int) ≤ r.bufSize)
    (hcount : returned.length ≤ r.count + 1) :
    ∃ told rest, returned ++ messages = told ++ rest ∧ r.getMessagesLoop messages returned.length
          (if r.messageLog then (logBytes returned).length else 0) (r.told returned) =
        ⟨told.length, rest, r.told told⟩ ∧
      (r.messageLog → ((logBytes told).length : Int) ≤ r.bufSize) ∧
      told.length ≤ r.count + 1 ∧ r.StopsAt told rest := by
  induction messages generalizing returned with
  | nil => exact ⟨returned, [], rfl, rfl, hfits, hcount, .inl rfl⟩
  | cons m messages ih =>
    have hlength : (logBytes (returned ++ [m])).length =
        (logBytes returned).length + m.message.length + 1 := by
      simp only [logBytes_append, length_append, length_singleton]
      omega
    unfold Request.getMessagesLoop
    by_cases hmore : returned.length ≤ r.count
    · rw [if_pos hmore]
      by_cases hfull : r.messageLog ∧ r.bufSize < (logBytes (returned ++ [m])).length
      · refine ⟨returned, m :: messages, rfl, ?_, hfits, hcount,
          .inr (.inr ⟨hfull.1, m, rfl, hfull.2⟩)⟩
        rw [if_pos]
        simp only [hfull.1, if_true, true_and]
        omega
      · obtain ⟨told, rest, hsplit, hloop, htold⟩ := ih (returned ++ [m]) (fun hlog => by
            have hroom : ¬ r.bufSize < (logBytes (returned ++ [m])).length :=
              fun hlt => hfull ⟨hlog, hlt⟩
            omega)
          (by simp only [length_append, length_singleton]; omega)
        refine ⟨told, rest, by rw [← hsplit, append_assoc]; rfl, ?_, htold⟩
        rw [← hloop, r.write_told, if_neg]
        · congr 1
          · simp
          · cases r.messageLog with
            | false => rfl
            | true => exact hlength.symm
        · rintro ⟨hlog, hover⟩
          apply hfull
          rw [hlog, if_pos rfl] at hover
          refine ⟨hlog, ?_⟩
          omega
    · rw [if_neg hmore]
      exact ⟨returned, m :: messages, rfl, rfl, hfits, hcount, .inr (.inl (by omega))⟩

theorem length_logBytes_take_le (messages : List Message) {n k : Nat} (h : n ≤ k) :
    (logBytes (messages.take n)).length ≤ (logBytes (messages.take k)).length := by
  have hprefix : messages.take n <+: messages.take k := take_prefix_take_left h
  obtain ⟨rest, hrest⟩ := hprefix
  rw [← hrest, logBytes, logBytes, flatMap_append, length_append]
  exact Nat.le_add_right _ _

theorem getMessages_spec (r : Request) (messages : List Message)
    (hvalid : r.messageLog → 0 ≤ r.bufSize) :
    ∃ told rest, messages = told ++ rest ∧
      r.getMessages messages = ⟨told.length, rest, r.told told⟩ ∧
      (r.messageLog → ((logBytes told).length : Int) ≤ r.bufSize) ∧
      told.length ≤ r.count + 1 ∧ r.StopsAt told rest := by
  have hstart : r.told [] = .untouched := by
    unfold Request.told filled Output.untouched
    ext <;> simp [logBytes]
  have hloop := getMessagesLoop_spec r messages [] hvalid (Nat.zero_le _)
  rw [hstart, nil_append] at hloop
  have hindex : (if r.messageLog then (logBytes []).length else 0) = 0 := ite_self _
  rwa [hindex] at hloop

theorem filled_eq_none {α : Type} {nonNull : Bool} {values : List α} {i : Nat}
    (h : values.length ≤ i) : filled nonNull values i = none := by
  cases nonNull with
  | false => rfl
  | true => exact getElem?_eq_none h

/-- A call is as it should be exactly when it stops in time. -/
theorem exact_iff_stops (r : Request) (messages : List Message)
    (hvalid : r.messageLog → 0 ≤ r.bufSize) : r.Exact messages ↔ r.Stops messages := by
  obtain ⟨told, rest, hsplit, hcall, hfits, hcount, hstop⟩ := getMessages_spec r messages hvalid
  have htake : messages.take told.length = told := by
    rw [hsplit, take_left']
    rfl
  constructor
  · intro hexact
    have hle := hexact.count
    rw [hcall] at hle
    rcases hstop with rfl | hmany | ⟨hlog, m, hhead, hfull⟩
    · left
      rw [hsplit, append_nil]
      exact hle
    · exact absurd hle (Nat.not_le_of_lt hmany)
    · right
      have hnext : messages.take (told.length + 1) = told ++ [m] := by
        obtain ⟨rest', rfl⟩ := head?_eq_some_iff.mp hhead
        rw [hsplit, take_append, take_of_length_le (by omega)]
        simp
      have hmono := length_logBytes_take_le messages (Nat.succ_le_succ hle)
      simp only [Nat.succ_eq_add_one] at hmono
      rw [hnext] at hmono
      refine ⟨hlog, ?_⟩
      omega
  · intro hstops
    have hle : told.length ≤ r.count := by
      by_contra hmany
      have heq : told.length = r.count + 1 := by omega
      rw [heq] at htake
      rcases hstops with hfew | ⟨hlog, hover⟩
      · rw [hsplit, length_append] at hfew
        omega
      · rw [htake] at hover
        have := hfits hlog
        omega
    refine ⟨?_, ⟨told, ?_⟩, ?_⟩
    · rw [hcall]
      exact hle
    · rw [hcall]
      exact ⟨hsplit, rfl, rfl⟩
    · rw [hcall]
      constructor
      · exact fun i hi => filled_eq_none (by rw [length_map]; omega)
      · exact fun i hi => filled_eq_none (by rw [length_map]; omega)
      · exact fun i hi => filled_eq_none (by rw [length_map]; omega)
      · exact fun i hi => filled_eq_none (by rw [length_map]; omega)
      · exact fun i hi => filled_eq_none (by rw [length_map]; omega)
      · intro i hi
        show filled r.messageLog (logBytes told) i = none
        cases hlog : r.messageLog with
        | false => rfl
        | true =>
          apply filled_eq_none
          have := hfits hlog
          omega

/-! ## Runs -/

structure State where
  debug : Debug
  /-- The messages that were enabled and found room when they were inserted. -/
  accepted : List Message
  /-- The messages that calls have told. -/
  returned : List Message

inductive Action
  | insertMessage (source type : GLenum) (id : UInt32) (severity : GLenum) (message : List UInt8)
  | setMessageControl (source type severity : GLenum) (ids : List UInt32) (enabled : Bool)
  | pushGroup (source : GLenum) (id : UInt32) (message : List UInt8)
  | popGroup
  | getMessages (r : Request)

def Debug.Enabled (d : Debug) (m : Message) : Bool :=
  d.mOutputEnabled &&
    (((d.mGroups.flatMap (·.controls)).reverse.find? fun control =>
      control.isAbout m.source m.type m.id m.severity).map (·.enabled)).getD true

def Debug.accepts (d : Debug) (m : Message) : List Message :=
  if d.Enabled m ∧ d.mMessages.length < d.mMaxLoggedMessages then [m] else []

def State.accept (s : State) : Action → List Message
  | .insertMessage source type id severity message =>
    s.accepted ++ s.debug.accepts ⟨source, type, id, severity, message⟩
  | .setMessageControl .. => s.accepted
  | .pushGroup source id message =>
    s.accepted ++ s.debug.accepts
      ⟨source, GL_DEBUG_TYPE_PUSH_GROUP, id, GL_DEBUG_SEVERITY_NOTIFICATION, message⟩
  | .popGroup =>
    match s.debug.mGroups.getLast? with
    | none => s.accepted
    | some g =>
      s.accepted ++ { s.debug with mGroups := s.debug.mGroups.dropLast }.accepts
        { g with type := GL_DEBUG_TYPE_POP_GROUP, severity := GL_DEBUG_SEVERITY_NOTIFICATION }
  | .getMessages _ => s.accepted

def step (s : State) (a : Action) : Option State :=
  match a with
  | .insertMessage source type id severity message =>
    some { s with
      debug := s.debug.insertMessage source type id severity message
      accepted := s.accept a }
  | .setMessageControl source type severity ids enabled =>
    some { s with debug := s.debug.setMessageControl source type severity ids enabled }
  | .pushGroup source id message =>
    some { s with debug := s.debug.pushGroup source id message, accepted := s.accept a }
  | .popGroup => s.debug.popGroup.map fun debug => { s with debug := debug, accepted := s.accept a }
  | .getMessages r =>
    if r.messageLog → 0 ≤ r.bufSize then
      let result := r.getMessages s.debug.mMessages
      some { s with
        debug := { s.debug with mMessages := result.mMessages }
        returned := s.returned ++ s.debug.mMessages.take result.messageCount }
    else none

def State.new (initialDebugState : Bool) (maxLoggedMessages : Nat) : State :=
  ⟨.new initialDebugState maxLoggedMessages, [], []⟩

/-- A call for messages does what it should. -/
def exactCall (s : State) (a : Action) : Prop := ∀ r, a = .getMessages r → r.Exact s.debug.mMessages

/-- A call for messages stops in time. -/
def stoppingCall (s : State) (a : Action) : Prop :=
  ∀ r, a = .getMessages r → r.Stops s.debug.mMessages

namespace Debug

theorem enabledBy_eq (source type : GLenum) (id : UInt32) (severity : GLenum)
    (controls : List Control) :
    enabledBy source type id severity controls =
      (controls.find? fun control => control.isAbout source type id severity).map (·.enabled) := by
  induction controls with
  | nil => rfl
  | cons control controls ih =>
    rw [enabledBy, find?_cons]
    cases control.isAbout source type id severity with
    | true => rfl
    | false => exact ih

theorem enabledByGroups_eq (source type : GLenum) (id : UInt32) (severity : GLenum)
    (groups : List Group) :
    enabledByGroups source type id severity groups =
      (((groups.flatMap fun group => group.controls.reverse).find? fun control =>
        control.isAbout source type id severity).map (·.enabled)).getD true := by
  induction groups with
  | nil => rfl
  | cons group groups ih =>
    rw [enabledByGroups, enabledBy_eq, flatMap_cons, find?_append]
    cases group.controls.reverse.find? fun control => control.isAbout source type id severity with
    | none => exact ih
    | some control => rfl

/-- The loops of `isMessageEnabled` find the last control that is about a message. -/
theorem isMessageEnabled_eq (d : Debug) (m : Message) :
    d.isMessageEnabled m.source m.type m.id m.severity = d.Enabled m := by
  unfold isMessageEnabled Enabled
  rw [enabledByGroups_eq, reverse_flatMap]
  cases d.mOutputEnabled with
  | false => rfl
  | true => rfl

theorem insertMessage_eq (d : Debug) (m : Message) :
    d.insertMessage m.source m.type m.id m.severity m.message =
      { d with mMessages := d.mMessages ++ d.accepts m } := by
  unfold insertMessage accepts
  rw [isMessageEnabled_eq]
  cases henabled : d.Enabled m with
  | false => simp
  | true =>
    by_cases hroom : d.mMessages.length < d.mMaxLoggedMessages
    · simp [hroom, Nat.not_le_of_lt hroom]
    · simp [hroom, Nat.le_of_not_lt hroom]

end Debug

/-- What has come in has gone out, in its order, or is still in the log. -/
theorem accepted_step {s t : State} {a : Action}
    (h : s.accepted = s.returned ++ s.debug.mMessages) (hstep : step s a = some t) :
    t.accepted = t.returned ++ t.debug.mMessages := by
  have hinsert (d : Debug) (m : Message) (hd : d.mMessages = s.debug.mMessages) :
      s.accepted ++ d.accepts m =
        s.returned ++ (d.insertMessage m.source m.type m.id m.severity m.message).mMessages := by
    rw [Debug.insertMessage_eq, h, append_assoc, hd]
  cases a with
  | insertMessage source type id severity message =>
    cases hstep
    exact hinsert s.debug ⟨source, type, id, severity, message⟩ rfl
  | setMessageControl source type severity ids enabled =>
    cases hstep
    rw [h]
    unfold Debug.setMessageControl
    split <;> rfl
  | pushGroup source id message =>
    cases hstep
    exact hinsert s.debug ⟨source, GL_DEBUG_TYPE_PUSH_GROUP, id, GL_DEBUG_SEVERITY_NOTIFICATION,
      message⟩ rfl
  | popGroup =>
    obtain ⟨d, hpop, rfl⟩ := map_eq_some_iff.mp hstep
    unfold Debug.popGroup at hpop
    split at hpop
    · contradiction
    · obtain ⟨g, hlast, rfl⟩ := map_eq_some_iff.mp hpop
      unfold State.accept
      rw [hlast]
      exact hinsert { s.debug with mGroups := s.debug.mGroups.dropLast }
        { g with type := GL_DEBUG_TYPE_POP_GROUP, severity := GL_DEBUG_SEVERITY_NOTIFICATION } rfl
  | getMessages r =>
    obtain ⟨hvalid, ⟨⟩⟩ := ite_none_right_eq_some.mp hstep
    obtain ⟨told, rest, hsplit, hcall, -⟩ := getMessages_spec r s.debug.mMessages hvalid
    rw [hcall]
    rw [h, append_assoc, hsplit, take_left' rfl]

/-- In every run the messages that were enabled and found room are the ones that have been told, in
their order, and the ones in the log; and every call does what it should exactly when every call
stops in time. -/
theorem run_exact_iff (initialDebugState : Bool) (maxLoggedMessages : Nat) (actions : List Action)
    (s : State) :
    (Run step anyStep (.new initialDebugState maxLoggedMessages) actions s →
        s.accepted = s.returned ++ s.debug.mMessages) ∧
      (Run step exactCall (.new initialDebugState maxLoggedMessages) actions s ↔
        Run step stoppingCall (.new initialDebugState maxLoggedMessages) actions s) := by
  constructor
  · intro hrun
    exact hrun.invariant (fun _ _ _ h _ hstep => accepted_step h hstep) rfl
  · apply Run.guard_congr
    intro s a t hstep
    cases a with
    | getMessages r =>
      obtain ⟨hvalid, -⟩ := ite_none_right_eq_some.mp hstep
      have hiff := exact_iff_stops r s.debug.mMessages hvalid
      constructor
      · rintro hexact _ ⟨⟩
        exact hiff.mp (hexact r rfl)
      · rintro hstops _ ⟨⟩
        exact hiff.mpr (hstops r rfl)
    | _ => exact iff_of_true (fun _ h => by cases h) fun _ h => by cases h

/-! ## One message more than asked for -/

def exampleMessage : Message := ⟨0x824A, 0x8251, 7, 0x9146, [104, 105]⟩

def exampleRequest : Request := ⟨1, 0, true, true, true, true, true, false⟩

/-- Of two messages in the log one is asked for, and both are told: the second one is written behind
the ends of the arrays. -/
theorem not_exact_oneMore :
    ∃ s, Run step anyStep (.new true 8)
        [.insertMessage exampleMessage.source exampleMessage.type 7 exampleMessage.severity [104, 105],
          .insertMessage exampleMessage.source exampleMessage.type 8 exampleMessage.severity [33]] s ∧
      (exampleRequest.getMessages s.debug.mMessages).messageCount = 2 ∧
        (exampleRequest.getMessages s.debug.mMessages).output.ids 1 = some 8 ∧
          ¬ exampleRequest.Exact s.debug.mMessages := by
  refine ⟨_, Run.of_exec rfl, by decide +kernel, by decide +kernel, fun hexact => ?_⟩
  have hcount := hexact.count
  revert hcount
  decide +kernel

end MetalAngle.Gl.DebugMessages
