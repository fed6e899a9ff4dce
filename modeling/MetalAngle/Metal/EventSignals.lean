import Mathlib.Data.List.Basic
import MetalAngle.Lib.LabelledRun

/-!
# Event signals of a command buffer

A shared event can be signalled from a native command buffer only between encoders.  A signal that
is queued during a render pass waits until the pass ends; one that is queued at another time ends
the blit or compute encoder that is open.

The history of a command buffer has what is encoded on the native buffers and, for the statements,
the signals that are queued and the start of render passes, whose native encoders come later.
-/

namespace MetalAngle.Metal.EventSignals

open LabelledRun Option List
open Function (update)

/-- `CommandEncoder::Type`. -/
inductive EncoderType
  | RENDER
  | BLIT
  | COMPUTE
deriving DecidableEq

structure SignalEvent where
  event : Nat
  value : Nat

abbrev RenderPassDescID := Nat

inductive Event
  | queue (serial : Nat) (entry : SignalEvent)
  | startPass
  | begin (type : EncoderType)
  | finish (type : EncoderType)
  | signal (serial : Nat) (entry : SignalEvent)
  | wait (serial : Nat) (entry : SignalEvent)
  | present (serial : Nat)
  | commit (serial : Nat)

structure CommandBuffer where
  /-- There is a native command buffer. -/
  hasBuffer : Bool
  mCommitted : Bool
  mQueueSerial : Nat
  /-- The serial that the queue gives to its next command buffer. -/
  mQueueSerialCounter : Nat
  mActiveCommandEncoder : Option EncoderType
  mPendingSignalEvents : List SignalEvent
  /-- The encoder has its native one. -/
  native : EncoderType → Bool
  /-- The render encoder has been started and has not ended. -/
  mRecording : Bool
  mRenderPassDesc : RenderPassDescID
  history : List Event

namespace CommandBuffer

def init : CommandBuffer where
  hasBuffer := false
  mCommitted := false
  mQueueSerial := 0
  mQueueSerialCounter := 1
  mActiveCommandEncoder := none
  mPendingSignalEvents := []
  native _ := false
  mRecording := false
  mRenderPassDesc := 0
  history := []

variable (w : CommandBuffer)

def validImpl : Bool := w.hasBuffer && !w.mCommitted

/-- `valid` of an encoder. -/
def encoderValid : EncoderType → Bool
  | .RENDER => w.mRecording
  | type => w.native type

def record (event : Event) : CommandBuffer := { w with history := w.history ++ [event] }

/-- `restart`, with the serial that `makeMetalCommandBuffer` takes from the queue. -/
def restart : CommandBuffer :=
  { w with
    hasBuffer := true
    mCommitted := false
    mQueueSerial := w.mQueueSerialCounter
    mQueueSerialCounter := w.mQueueSerialCounter + 1 }

def setActiveCommandEncoder (type : EncoderType) : CommandBuffer :=
  { w with mActiveCommandEncoder := some type }

def encodeSignalEvent (entry : SignalEvent) : CommandBuffer :=
  w.record (.signal w.mQueueSerial entry)

/-- `setPendingEvents`; its callers have ended the active encoder, so that `setEventImpl` has
only to encode. -/
def setPendingEvents : CommandBuffer :=
  { w.mPendingSignalEvents.foldl encodeSignalEvent w with mPendingSignalEvents := [] }

def invalidateActiveCommandEncoder (type : EncoderType) : CommandBuffer :=
  if w.mActiveCommandEncoder = some type then
    setPendingEvents { w with mActiveCommandEncoder := none }
  else w

/-- `CommandEncoder::reset`. -/
def resetEncoder (type : EncoderType) : CommandBuffer :=
  invalidateActiveCommandEncoder { w with native := update w.native type false } type

/-- `RenderCommandEncoder::reset`. -/
def resetRenderEncoder : CommandBuffer :=
  { w.resetEncoder .RENDER with mRecording := false }

/-- `CommandEncoder::set`, with the native encoder that is created. -/
def setEncoder (type : EncoderType) : CommandBuffer :=
  setActiveCommandEncoder
    { w.record (.begin type) with native := update w.native type true } type

def ensureMetalEncoderStarted : CommandBuffer :=
  if w.native .RENDER then w else w.setEncoder .RENDER

/-- `RenderCommandEncoder::endEncodingImpl`. -/
def endRenderEncoding : CommandBuffer :=
  if !w.encoderValid .RENDER then w
  else
    { (w.ensureMetalEncoderStarted.record (.finish .RENDER)).resetRenderEncoder with
      mRenderPassDesc := 0 }

def endEncoding : EncoderType → CommandBuffer
  | .RENDER => w.endRenderEncoding
  | type => (w.record (.finish type)).resetEncoder type

def forceEndingCurrentEncoder : CommandBuffer :=
  match w.mActiveCommandEncoder with
  | none => w
  | some type => { w.endEncoding type with mActiveCommandEncoder := none }

def setEventImpl (entry : SignalEvent) : CommandBuffer :=
  w.forceEndingCurrentEncoder.encodeSignalEvent entry

def waitEventImpl (entry : SignalEvent) : CommandBuffer :=
  let w := w.forceEndingCurrentEncoder.setPendingEvents
  w.record (.wait w.mQueueSerial entry)

def queueEventSignal (entry : SignalEvent) : CommandBuffer :=
  let w := w.record (.queue w.mQueueSerial entry)
  if w.mActiveCommandEncoder = some .RENDER then
    { w with mPendingSignalEvents := w.mPendingSignalEvents ++ [entry] }
  else w.setEventImpl entry

def serverWaitEvent (entry : SignalEvent) : CommandBuffer := w.waitEventImpl entry

def present : CommandBuffer := w.record (.present w.mQueueSerial)

def commitImpl : CommandBuffer :=
  if !w.validImpl then w
  else
    let w := w.forceEndingCurrentEncoder.setPendingEvents
    { w.record (.commit w.mQueueSerial) with mCommitted := true }

/-- `RenderCommandEncoder::restart`. -/
def restartRender (desc : RenderPassDescID) : CommandBuffer :=
  if w.encoderValid .RENDER ∧ w.mRenderPassDesc = desc then w
  else
    let w := if w.encoderValid .RENDER then w.endRenderEncoding else w
    if !w.validImpl then w.resetRenderEncoder
    else
      setActiveCommandEncoder
        { w.record .startPass with mRenderPassDesc := desc, mRecording := true } .RENDER

/-- `restart` of the blit and of the compute encoder. -/
def restartEncoder (type : EncoderType) : CommandBuffer :=
  if w.encoderValid type then w
  else if !w.validImpl then w.resetEncoder type
  else w.setEncoder type

/-! ## Sequences of operations -/

inductive Action
  | restart
  /-- A command buffer of another context is made from the same queue. -/
  | otherRestart
  | queueEventSignal (entry : SignalEvent)
  | serverWaitEvent (entry : SignalEvent)
  | beginRender (desc : RenderPassDescID)
  | beginBlit
  | beginCompute
  /-- A draw, which needs the native encoder. -/
  | draw
  | endEncoding (type : EncoderType)
  | present
  | commit

def othersEnded (type : EncoderType) : Bool :=
  (type = .RENDER || !w.encoderValid .RENDER) && (type = .BLIT || !w.encoderValid .BLIT) &&
    (type = .COMPUTE || !w.encoderValid .COMPUTE)

/-- One operation.  A valid buffer is not restarted, signals are queued on a valid one, waits are
not encoded in a render pass, and draws are encoded in one. -/
def step : CommandBuffer → Action → Option CommandBuffer
  | w, .restart => if w.validImpl then none else some w.restart
  | w, .otherRestart => some { w with mQueueSerialCounter := w.mQueueSerialCounter + 1 }
  | w, .queueEventSignal entry => if w.validImpl then some (w.queueEventSignal entry) else none
  | w, .serverWaitEvent entry =>
    if w.validImpl ∧ w.mActiveCommandEncoder ≠ some .RENDER then some (w.serverWaitEvent entry)
    else none
  | w, .beginRender desc => if w.othersEnded .RENDER then some (w.restartRender desc) else none
  | w, .beginBlit => if w.othersEnded .BLIT then some (w.restartEncoder .BLIT) else none
  | w, .beginCompute => if w.othersEnded .COMPUTE then some (w.restartEncoder .COMPUTE) else none
  | w, .draw => if w.encoderValid .RENDER then some w.ensureMetalEncoderStarted else none
  | w, .endEncoding type => if w.encoderValid type then some (w.endEncoding type) else none
  | w, .present => some w.present
  | w, .commit => some w.commitImpl

end CommandBuffer

/-! ## Histories -/

def queued (history : List Event) : List (Nat × SignalEvent) :=
  history.filterMap fun
    | .queue serial entry => some (serial, entry)
    | _ => none

def signals (history : List Event) : List (Nat × SignalEvent) :=
  history.filterMap fun
    | .signal serial entry => some (serial, entry)
    | _ => none

def openEncoder (history : List Event) : Option EncoderType :=
  history.foldl
    (fun encoder event => match event with
      | .startPass => some .RENDER
      | .begin type => some type
      | .finish _ => none
      | _ => encoder)
    none

/-- What an event asks of the history before it: a signal is encoded while no encoder is open and
before its buffer is committed, and with a commit no signal is left. -/
def Event.Allowed (before : List Event) : Event → Prop
  | .signal serial _ => openEncoder before = none ∧ .commit serial ∉ before
  | .commit _ => signals before = queued before
  | _ => True

@[simp] theorem queued_append (history after : List Event) :
    queued (history ++ after) = queued history ++ queued after :=
  filterMap_append

@[simp] theorem signals_append (history after : List Event) :
    signals (history ++ after) = signals history ++ signals after :=
  filterMap_append

@[simp] theorem queued_map_signal (serial : Nat) (entries : List SignalEvent) :
    queued (entries.map (.signal serial)) = [] := by
  simp [queued]

@[simp] theorem signals_map_signal (serial : Nat) (entries : List SignalEvent) :
    signals (entries.map (.signal serial)) = entries.map (serial, ·) := by
  simp [signals, filterMap_map]

theorem openEncoder_concat (history : List Event) (event : Event) :
    openEncoder (history ++ [event]) =
      match event with
      | .startPass => some .RENDER
      | .begin type => some type
      | .finish _ => none
      | _ => openEncoder history := by
  simp [openEncoder]

@[simp] theorem openEncoder_append_signals (history : List Event) (serial : Nat)
    (entries : List SignalEvent) :
    openEncoder (history ++ entries.map (.signal serial)) = openEncoder history := by
  induction entries generalizing history with
  | nil => simp
  | cons entry entries ih =>
      have hstep := ih (history ++ [.signal serial entry])
      rw [openEncoder_concat] at hstep
      simpa using hstep

variable {event : Event}

theorem allowed_concat {history : List Event}
    (hhistory : ∀ before x after, history = before ++ x :: after → x.Allowed before)
    (hevent : event.Allowed history) (before : List Event) (x : Event) (after : List Event)
    (hsplit : history ++ [event] = before ++ x :: after) : x.Allowed before := by
  rcases eq_nil_or_concat after with rfl | ⟨after, last, rfl⟩
  · obtain ⟨rfl, hx⟩ := append_inj' hsplit rfl
    obtain rfl : event = x := by simpa using hx
    exact hevent
  · have hsplit' : history ++ [event] = (before ++ x :: after) ++ [last] := by
      simpa using hsplit
    obtain ⟨hinit, -⟩ := append_inj' hsplit' rfl
    exact hhistory before x after hinit

theorem allowed_append_signals {history : List Event} {serial : Nat}
    (hopen : openEncoder history = none) (hcommit : .commit serial ∉ history)
    (hhistory : ∀ before x after, history = before ++ x :: after → x.Allowed before)
    (entries : List SignalEvent) :
    ∀ before x after, history ++ entries.map (.signal serial) = before ++ x :: after →
      x.Allowed before := by
  induction entries generalizing history with
  | nil => simpa using hhistory
  | cons entry entries ih =>
      have hentry : (Event.signal serial entry).Allowed history := ⟨hopen, hcommit⟩
      have hstep := ih (by rw [openEncoder_concat]; exact hopen) (by simpa using hcommit)
        (allowed_concat hhistory hentry)
      simpa using hstep

namespace CommandBuffer

/-! ## Pending events -/

theorem foldl_encodeSignalEvent (entries : List SignalEvent) (w : CommandBuffer) :
    entries.foldl encodeSignalEvent w =
      { w with history := w.history ++ entries.map (.signal w.mQueueSerial) } := by
  induction entries generalizing w with
  | nil => simp
  | cons entry entries ih => simp [ih, encodeSignalEvent, record]

theorem setPendingEvents_eq (w : CommandBuffer) :
    w.setPendingEvents = { w with
        mPendingSignalEvents := []
        history := w.history ++ w.mPendingSignalEvents.map (.signal w.mQueueSerial) } := by
  rw [setPendingEvents, foldl_encodeSignalEvent]

def ended (w : CommandBuffer) (type : EncoderType) : CommandBuffer :=
  { w with
    native := update w.native type false
    mRecording := false
    mActiveCommandEncoder := none
    mPendingSignalEvents := []
    history := w.history ++ [.finish type] ++
      w.mPendingSignalEvents.map (.signal w.mQueueSerial) }

variable {type : EncoderType}

theorem resetEncoder_eq {w : CommandBuffer} (hactive : w.mActiveCommandEncoder = some type) :
    (w.record (.finish type)).resetEncoder type =
      { w.ended type with mRecording := w.mRecording } := by
  simp [resetEncoder, invalidateActiveCommandEncoder, record, hactive, setPendingEvents_eq, ended]

/-! ## The invariant -/

/-- What every operation keeps, where the signals of `owed` have been queued and are neither
encoded nor pending. -/
structure Inv (owed : List SignalEvent) (w : CommandBuffer) : Prop where
  inOrder : queued w.history =
    signals w.history ++ (w.mPendingSignalEvents ++ owed).map (w.mQueueSerial, ·)
  allowed : ∀ before event after,
    w.history = before ++ event :: after → event.Allowed before
  pendingInRender : w.mPendingSignalEvents ≠ [] → w.mActiveCommandEncoder = some .RENDER
  active_iff : ∀ type, w.encoderValid type ↔ w.mActiveCommandEncoder = some type
  native_recording : w.native .RENDER → w.mRecording
  idle : w.validImpl = false → w.mActiveCommandEncoder = none
  openEncoder_eq : openEncoder w.history = w.mActiveCommandEncoder
  committed : ∀ serial, .commit serial ∈ w.history →
    serial ≤ w.mQueueSerial ∧ (serial = w.mQueueSerial → w.mCommitted)
  counter : w.mQueueSerial < w.mQueueSerialCounter

namespace Inv

variable {owed : List SignalEvent} {w : CommandBuffer}

section

variable (h : Inv owed w)
include h

theorem pending_nil (hactive : w.mActiveCommandEncoder ≠ some .RENDER) :
    w.mPendingSignalEvents = [] := by
  by_contra hpending
  exact hactive (h.pendingInRender hpending)

theorem validImpl_of_active
    (hactive : w.mActiveCommandEncoder = some type) : w.validImpl := by
  by_contra hinvalid
  have hidle := h.idle (by simpa using hinvalid)
  simp [hidle] at hactive

theorem not_committed (hvalid : w.validImpl) :
    .commit w.mQueueSerial ∉ w.history := by
  intro hmem
  have hcommitted := (h.committed _ hmem).2 rfl
  simp [validImpl, hcommitted] at hvalid

/-- The end of the active encoder encodes the pending signals behind it. -/
theorem ended
    (hactive : w.mActiveCommandEncoder = some type) (desc : RenderPassDescID) :
    Inv owed { w.ended type with mRenderPassDesc := desc } where
  __ := h
  inOrder := by
    have hqueued : queued [Event.finish type] = [] := rfl
    have hsignals : signals [Event.finish type] = [] := rfl
    have hold := h.inOrder
    simp only [CommandBuffer.ended, queued_append, signals_append, hqueued, hsignals,
      queued_map_signal, signals_map_signal]
    simpa using hold
  allowed := by
    have hcommit := h.not_committed (h.validImpl_of_active hactive)
    have hfinish : (Event.finish type).Allowed w.history := trivial
    have hcommit' : .commit w.mQueueSerial ∉ w.history ++ [.finish type] := by
      simpa using hcommit
    exact allowed_append_signals (by rw [openEncoder_concat]) hcommit'
      (allowed_concat h.allowed hfinish) w.mPendingSignalEvents
  pendingInRender hpending := absurd rfl hpending
  active_iff other := by
    have hother := h.active_iff other
    cases other <;> cases type <;>
      simp_all [CommandBuffer.ended, encoderValid, update]
  native_recording hnative := by
    have hrecording := h.active_iff .RENDER
    cases type <;> simp_all [CommandBuffer.ended, encoderValid, update] <;>
      exact absurd (h.native_recording hnative) (by simp [hrecording])
  idle _ := rfl
  openEncoder_eq := by
    simp only [CommandBuffer.ended, openEncoder_append_signals, openEncoder_concat]
  committed serial hmem := h.committed serial (by simpa [CommandBuffer.ended] using hmem)

theorem record (hqueued : queued [event] = [])
    (hsignals : signals [event] = []) (hallowed : event.Allowed w.history)
    (hopen : openEncoder (w.history ++ [event]) = openEncoder w.history)
    (hcommit : ∀ serial, event ≠ .commit serial) : Inv owed (w.record event) where
  __ := h
  inOrder := by
    have hold := h.inOrder
    simpa [CommandBuffer.record, hqueued, hsignals] using hold
  allowed := allowed_concat h.allowed hallowed
  openEncoder_eq := hopen.trans h.openEncoder_eq
  committed serial hmem := by
    rcases mem_append.mp hmem with hmem | hmem
    · exact h.committed serial hmem
    · exact absurd (mem_singleton.mp hmem).symm (hcommit serial)

/-- An event that opens an encoder or a pass, where a signal may be pending in a pass only. -/
theorem opened (hvalid : w.validImpl)
    {native : EncoderType → Bool} {recording : Bool}
    (hevent : event = .startPass ∨ event = .begin type)
    (hopen : openEncoder (w.history ++ [event]) = some type)
    (hpending : w.mPendingSignalEvents ≠ [] → type = .RENDER)
    (hrecording : recording ↔ type = .RENDER)
    (hnative : native .RENDER → type = .RENDER) (hblit : native .BLIT ↔ type = .BLIT)
    (hcompute : native .COMPUTE ↔ type = .COMPUTE) (desc : RenderPassDescID) :
    Inv owed { w.record event with
      native := native
      mRecording := recording
      mActiveCommandEncoder := some type
      mRenderPassDesc := desc } where
  __ := h
  inOrder := by
    have hqueued : queued [event] = [] := by rcases hevent with rfl | rfl <;> rfl
    have hsignals : signals [event] = [] := by rcases hevent with rfl | rfl <;> rfl
    have hold := h.inOrder
    simpa [CommandBuffer.record, hqueued, hsignals] using hold
  allowed := by
    have hevent : event.Allowed w.history := by rcases hevent with rfl | rfl <;> trivial
    exact allowed_concat h.allowed hevent
  pendingInRender hne := congrArg some (hpending hne)
  active_iff other := by
    cases other
    · exact hrecording.trans ⟨congrArg some, some.inj⟩
    · exact hblit.trans ⟨congrArg some, some.inj⟩
    · exact hcompute.trans ⟨congrArg some, some.inj⟩
  native_recording hrender := hrecording.mpr (hnative hrender)
  idle hinvalid := absurd (hvalid.symm.trans hinvalid) (by decide)
  openEncoder_eq := hopen
  committed serial hmem := by
    rcases mem_append.mp hmem with hmem | hmem
    · exact h.committed serial hmem
    · rcases hevent with rfl | rfl <;> simp at hmem

theorem ensureMetalEncoderStarted (hrecording : w.mRecording) :
    Inv owed w.ensureMetalEncoderStarted := by
  unfold CommandBuffer.ensureMetalEncoderStarted
  split
  · exact h
  have hactive : w.mActiveCommandEncoder = some .RENDER := (h.active_iff .RENDER).mp hrecording
  have hblit := h.active_iff .BLIT
  have hcompute := h.active_iff .COMPUTE
  rw [hactive] at hblit hcompute
  refine h.opened (h.validImpl_of_active hactive) (.inr rfl) (openEncoder_concat _ _)
    (fun _ => rfl) (by simp [CommandBuffer.record, hrecording]) (fun _ => rfl) ?_ ?_
    w.mRenderPassDesc
  · simpa [encoderValid] using hblit
  · simpa [encoderValid] using hcompute

end

end Inv

/-- What remains when the encoder of `w`, if it has one, is ended. -/
structure Ended (owed : List SignalEvent) (w w' : CommandBuffer) : Prop where
  inv : Inv owed w'
  idle : w'.mActiveCommandEncoder = none
  validImpl : w'.validImpl = w.validImpl

namespace Inv

variable {owed : List SignalEvent} {w : CommandBuffer}

theorem endRenderEncoding (h : Inv owed w) (hactive : w.mActiveCommandEncoder = some .RENDER) :
    Ended owed w w.endRenderEncoding := by
  have hrecording : w.encoderValid .RENDER := (h.active_iff .RENDER).mpr hactive
  have hstarted := h.ensureMetalEncoderStarted hrecording
  have hstill : w.ensureMetalEncoderStarted.mActiveCommandEncoder = some .RENDER := by
    unfold CommandBuffer.ensureMetalEncoderStarted
    split
    · exact hactive
    · rfl
  have hvalid : w.ensureMetalEncoderStarted.validImpl = w.validImpl := by
    unfold CommandBuffer.ensureMetalEncoderStarted
    split <;> rfl
  have heq : w.endRenderEncoding =
      { w.ensureMetalEncoderStarted.ended .RENDER with mRenderPassDesc := 0 } := by
    simp [CommandBuffer.endRenderEncoding, hrecording, resetRenderEncoder, resetEncoder_eq hstill,
      CommandBuffer.ended]
  rw [heq]
  exact ⟨hstarted.ended hstill 0, rfl, hvalid⟩

theorem endEncoding (h : Inv owed w)
    (hactive : w.mActiveCommandEncoder = some type) : Ended owed w (w.endEncoding type) := by
  by_cases hrender : type = .RENDER
  · subst hrender
    exact h.endRenderEncoding hactive
  · have hrecording : w.mRecording = false := by
      have hvalid := h.active_iff .RENDER
      rw [hactive] at hvalid
      simpa [encoderValid, hrender] using hvalid
    have heq : w.endEncoding type = { w.ended type with mRenderPassDesc := w.mRenderPassDesc } := by
      have hreset := resetEncoder_eq hactive
      rw [hrecording] at hreset
      cases type
      · exact absurd rfl hrender
      · exact hreset
      · exact hreset
    rw [heq]
    exact ⟨h.ended hactive _, rfl, rfl⟩

theorem forceEndingCurrentEncoder (h : Inv owed w) :
    Ended owed w w.forceEndingCurrentEncoder := by
  unfold CommandBuffer.forceEndingCurrentEncoder
  split
  · exact ⟨h, ‹_›, rfl⟩
  · rename_i type hactive
    have hended := h.endEncoding hactive
    have heq : { w.endEncoding type with mActiveCommandEncoder := none } = w.endEncoding type := by
      have hidle := hended.idle
      cases hw : w.endEncoding type
      simp_all
    rw [heq]
    exact hended

end Inv

namespace Ended

variable {owed : List SignalEvent} {w w' : CommandBuffer}

theorem pending_nil (h : Ended owed w w') : w'.mPendingSignalEvents = [] :=
  h.inv.pending_nil (by simp [h.idle])

theorem setPendingEvents_eq (h : Ended owed w w') : w'.setPendingEvents = w' := by
  have hpending := h.pending_nil
  rw [CommandBuffer.setPendingEvents_eq, hpending]
  cases w'
  simpa using hpending.symm

end Ended

/-! ## Operations -/

namespace Inv

variable {w : CommandBuffer}

theorem restart (h : Inv [] w) (hinvalid : w.validImpl = false) : Inv [] w.restart where
  __ := h
  inOrder := by
    have hidle := h.idle hinvalid
    have hpending := h.pending_nil (by simp [hidle])
    have hold := h.inOrder
    simpa [CommandBuffer.restart, hpending] using hold
  idle _ := h.idle hinvalid
  committed serial hmem := by
    have hle := (h.committed serial hmem).1
    have hlt := h.counter
    have hnew : serial < w.mQueueSerialCounter := Nat.lt_of_le_of_lt hle hlt
    exact ⟨Nat.le_of_lt hnew, fun heq => absurd heq (Nat.ne_of_lt hnew)⟩
  counter := Nat.lt_succ_self _

theorem otherRestart (h : Inv [] w) :
    Inv [] { w with mQueueSerialCounter := w.mQueueSerialCounter + 1 } :=
  { h with counter := Nat.lt_succ_of_lt h.counter }

theorem recordQueue (h : Inv [] w) (entry : SignalEvent) :
    Inv [entry] (w.record (.queue w.mQueueSerial entry)) where
  __ := h
  inOrder := by
    have hqueued : queued [.queue w.mQueueSerial entry] = [(w.mQueueSerial, entry)] := rfl
    have hsignals : signals [.queue w.mQueueSerial entry] = [] := rfl
    have hold := h.inOrder
    simp only [CommandBuffer.record, queued_append, signals_append, hqueued, hsignals, hold]
    simp
  allowed := by
    have hallowed : (Event.queue w.mQueueSerial entry).Allowed w.history := trivial
    exact allowed_concat h.allowed hallowed
  openEncoder_eq := (openEncoder_concat _ _).trans h.openEncoder_eq
  committed serial hmem := h.committed serial (by simpa [CommandBuffer.record] using hmem)

theorem appendPending {entry : SignalEvent} (h : Inv [entry] w)
    (hactive : w.mActiveCommandEncoder = some .RENDER) :
    Inv [] { w with mPendingSignalEvents := w.mPendingSignalEvents ++ [entry] } :=
  { h with inOrder := by simpa using h.inOrder, pendingInRender := fun _ => hactive }

theorem encodeSignalEvent {entry : SignalEvent} (h : Inv [entry] w)
    (hidle : w.mActiveCommandEncoder = none) (hvalid : w.validImpl) :
    Inv [] (w.encodeSignalEvent entry) where
  __ := h
  inOrder := by
    have hpending := h.pending_nil (by simp [hidle])
    have hqueued : queued [.signal w.mQueueSerial entry] = [] := rfl
    have hsignals : signals [.signal w.mQueueSerial entry] = [(w.mQueueSerial, entry)] := rfl
    have hold := h.inOrder
    simp only [CommandBuffer.encodeSignalEvent, CommandBuffer.record, queued_append,
      signals_append, hqueued, hsignals, hpending]
    simpa [hpending] using hold
  allowed := by
    have hallowed : (Event.signal w.mQueueSerial entry).Allowed w.history :=
      ⟨h.openEncoder_eq.trans hidle, h.not_committed hvalid⟩
    exact allowed_concat h.allowed hallowed
  openEncoder_eq := (openEncoder_concat _ _).trans h.openEncoder_eq
  committed serial hmem :=
    h.committed serial (by
      simpa [CommandBuffer.encodeSignalEvent, CommandBuffer.record] using hmem)

section

variable (h : Inv [] w)
include h

theorem queueEventSignal (hvalid : w.validImpl) (entry : SignalEvent) :
    Inv [] (w.queueEventSignal entry) := by
  have hqueue := h.recordQueue entry
  unfold CommandBuffer.queueEventSignal
  dsimp only
  split
  · exact hqueue.appendPending ‹_›
  · have hended := hqueue.forceEndingCurrentEncoder
    exact hended.inv.encodeSignalEvent hended.idle (hended.validImpl.trans hvalid)

theorem serverWaitEvent (entry : SignalEvent) :
    Inv [] (w.serverWaitEvent entry) := by
  have hended := h.forceEndingCurrentEncoder
  unfold CommandBuffer.serverWaitEvent waitEventImpl
  rw [hended.setPendingEvents_eq]
  exact hended.inv.record rfl rfl trivial (openEncoder_concat _ _) (by simp)

theorem present : Inv [] w.present :=
  h.record rfl rfl trivial (openEncoder_concat _ _) (by simp)

theorem recordCommit (hidle : w.mActiveCommandEncoder = none) :
    Inv [] { w.record (.commit w.mQueueSerial) with mCommitted := true } where
  __ := h
  inOrder := by
    have hqueued : queued [.commit w.mQueueSerial] = [] := rfl
    have hsignals : signals [.commit w.mQueueSerial] = [] := rfl
    have hold := h.inOrder
    simpa [CommandBuffer.record, hqueued, hsignals] using hold
  allowed := by
    have hpending := h.pending_nil (by simp [hidle])
    have hall : signals w.history = queued w.history := by
      simpa [hpending] using h.inOrder.symm
    have hallowed : (Event.commit w.mQueueSerial).Allowed w.history := hall
    exact allowed_concat h.allowed hallowed
  idle _ := hidle
  openEncoder_eq := (openEncoder_concat _ _).trans h.openEncoder_eq
  committed serial hmem := by
    rcases mem_append.mp hmem with hmem | hmem
    · exact ⟨(h.committed serial hmem).1, fun _ => rfl⟩
    · obtain rfl : serial = w.mQueueSerial := by simpa using hmem
      exact ⟨Nat.le_refl _, fun _ => rfl⟩

theorem commitImpl : Inv [] w.commitImpl := by
  have hended := h.forceEndingCurrentEncoder
  unfold CommandBuffer.commitImpl
  split
  · exact h
  · rw [hended.setPendingEvents_eq]
    exact hended.inv.recordCommit hended.idle

theorem native_eq_false (hidle : w.mActiveCommandEncoder = none)
    (type : EncoderType) : w.native type = false := by
  have hvalid := h.active_iff type
  rw [hidle] at hvalid
  cases type
  · have hrecording : w.mRecording = false := by simpa [encoderValid] using hvalid
    by_contra hnative
    simp [h.native_recording (by simpa using hnative)] at hrecording
  · simpa [encoderValid] using hvalid
  · simpa [encoderValid] using hvalid

theorem resetEncoder (hidle : w.mActiveCommandEncoder = none)
    (type : EncoderType) : w.resetEncoder type = w := by
  have hnative : update w.native type false = w.native :=
    Function.update_eq_self_iff.mpr (h.native_eq_false hidle type).symm
  rw [CommandBuffer.resetEncoder, hnative, invalidateActiveCommandEncoder, if_neg (by simp [hidle])]

theorem idle_of_othersEnded
    (hothers : w.othersEnded type) (hself : w.encoderValid type = false) :
    w.mActiveCommandEncoder = none := by
  cases hactive : w.mActiveCommandEncoder with
  | none => rfl
  | some other =>
      have hvalid := (h.active_iff other).mpr hactive
      cases type <;> cases other <;> simp_all [othersEnded]

theorem startPass (hidle : w.mActiveCommandEncoder = none)
    (hvalid : w.validImpl) (desc : RenderPassDescID) :
    Inv [] (setActiveCommandEncoder
      { w.record .startPass with mRenderPassDesc := desc, mRecording := true } .RENDER) :=
  h.opened hvalid (.inl rfl) (openEncoder_concat _ _) (fun _ => rfl) (by simp) (fun _ => rfl)
    (by simp [CommandBuffer.record, h.native_eq_false hidle])
    (by simp [CommandBuffer.record, h.native_eq_false hidle]) desc

theorem restartRender (hothers : w.othersEnded .RENDER)
    (desc : RenderPassDescID) : Inv [] (w.restartRender desc) := by
  have hstart {v : CommandBuffer} (hv : Inv [] v) (hidle : v.mActiveCommandEncoder = none) :
      Inv [] (if !v.validImpl then v.resetRenderEncoder
        else setActiveCommandEncoder
          { v.record .startPass with mRenderPassDesc := desc, mRecording := true } .RENDER) := by
    split
    · have hrecording : v.mRecording = false := by
        have hvalid := hv.active_iff .RENDER
        simpa [hidle, encoderValid] using hvalid
      rw [resetRenderEncoder, hv.resetEncoder hidle, ← hrecording]
      exact hv
    · rename_i hvalid
      exact hv.startPass hidle (by simpa using hvalid) desc
  unfold CommandBuffer.restartRender
  split
  · exact h
  · by_cases hself : w.encoderValid .RENDER
    · have hended := h.endRenderEncoding ((h.active_iff .RENDER).mp hself)
      rw [if_pos hself]
      exact hstart hended.inv hended.idle
    · rw [if_neg hself]
      exact hstart h (h.idle_of_othersEnded hothers (by simpa using hself))

theorem restartEncoder (hrender : type ≠ .RENDER)
    (hothers : w.othersEnded type) : Inv [] (w.restartEncoder type) := by
  unfold CommandBuffer.restartEncoder
  split
  · exact h
  rename_i hself
  have hidle := h.idle_of_othersEnded hothers (by simpa using hself)
  have hrecording : w.mRecording = false := by
    have hvalid := h.active_iff .RENDER
    simpa [hidle, encoderValid] using hvalid
  split
  · rw [h.resetEncoder hidle type]
    exact h
  · rename_i hvalid
    have hpending := h.pending_nil (by simp [hidle])
    refine h.opened (by simpa using hvalid) (.inr rfl) (openEncoder_concat _ _)
      (fun hne => absurd hpending hne) (by simp [CommandBuffer.record, hrecording, hrender])
      ?_ ?_ ?_ w.mRenderPassDesc
    all_goals
      cases type <;> simp_all [h.native_eq_false hidle, update]

end

end Inv

theorem inv_step {w w' : CommandBuffer} {action : Action} (h : Inv [] w)
    (hstep : step w action = some w') : Inv [] w' := by
  cases action with
  | restart =>
      simp only [step, ite_none_left_eq_some, some.injEq] at hstep
      obtain ⟨hinvalid, rfl⟩ := hstep
      exact h.restart (by simpa using hinvalid)
  | otherRestart =>
      cases hstep
      exact h.otherRestart
  | queueEventSignal entry =>
      obtain ⟨hvalid, ⟨⟩⟩ := ite_none_right_eq_some.mp hstep
      exact h.queueEventSignal hvalid entry
  | serverWaitEvent entry =>
      obtain ⟨-, ⟨⟩⟩ := ite_none_right_eq_some.mp hstep
      exact h.serverWaitEvent entry
  | beginRender desc =>
      obtain ⟨hothers, ⟨⟩⟩ := ite_none_right_eq_some.mp hstep
      exact h.restartRender hothers desc
  | beginBlit =>
      obtain ⟨hothers, ⟨⟩⟩ := ite_none_right_eq_some.mp hstep
      exact h.restartEncoder (by decide) hothers
  | beginCompute =>
      obtain ⟨hothers, ⟨⟩⟩ := ite_none_right_eq_some.mp hstep
      exact h.restartEncoder (by decide) hothers
  | draw =>
      obtain ⟨hrecording, ⟨⟩⟩ := ite_none_right_eq_some.mp hstep
      exact h.ensureMetalEncoderStarted hrecording
  | endEncoding type =>
      obtain ⟨hvalid, ⟨⟩⟩ := ite_none_right_eq_some.mp hstep
      exact (h.endEncoding ((h.active_iff type).mp hvalid)).inv
  | present =>
      cases hstep
      exact h.present
  | commit =>
      cases hstep
      exact h.commitImpl

end CommandBuffer

/-! ## The context

`ContextMtl` is the only user of the operations, and it keeps to the conditions of `step`.
-/

namespace ContextMtl

open CommandBuffer

inductive ResolveEncoder
  | blit
  | compute

def ResolveEncoder.type : ResolveEncoder → EncoderType
  | .blit => .BLIT
  | .compute => .COMPUTE

variable (w : CommandBuffer)

def ensureCommandBufferValid : CommandBuffer := if w.validImpl then w else w.restart

/-- `endEncoding` of a blit or compute encoder that is valid. -/
def endIfValid (type : EncoderType) : CommandBuffer :=
  if w.encoderValid type then w.endEncoding type else w

def endOtherEncoders : CommandBuffer := endIfValid (endIfValid w .BLIT) .COMPUTE

/-- `getBlitCommandEncoder` and `getComputeCommandEncoder` where no render pass is open, so that
there are no queries to resolve. -/
def getResolveEncoder (encoder : ResolveEncoder) : CommandBuffer :=
  if w.encoderValid encoder.type then w
  else (ensureCommandBufferValid (endOtherEncoders w)).restartEncoder encoder.type

/-- `OcclusionQueryPool::resolveVisibilityResults`, with the encoders it asks for in turn. -/
def resolveVisibilityResults (encoders : List ResolveEncoder) : CommandBuffer :=
  encoders.foldl getResolveEncoder w

def endEncoding (encoders : List ResolveEncoder) : CommandBuffer :=
  endOtherEncoders
    (if w.encoderValid .RENDER then resolveVisibilityResults (w.endEncoding .RENDER) encoders
    else w)

def getEncoder (encoder : ResolveEncoder) (encoders : List ResolveEncoder) : CommandBuffer :=
  if w.encoderValid encoder.type then w
  else (ensureCommandBufferValid (endEncoding w encoders)).restartEncoder encoder.type

def flushCommandBufer (encoders : List ResolveEncoder) : CommandBuffer :=
  if !w.validImpl then w else (endEncoding w encoders).commitImpl

/-- The calls of a context; `same` tells whether a pass has the targets of a descriptor. -/
inductive Call
  | getRenderCommandEncoder (same : Bool) (desc : RenderPassDescID)
    (encoders : List ResolveEncoder)
  | getBlitCommandEncoder (encoders : List ResolveEncoder)
  | getComputeCommandEncoder (encoders : List ResolveEncoder)
  | draw
  | endEncoding (encoders : List ResolveEncoder)
  | flushCommandBufer (encoders : List ResolveEncoder)
  | finishCommandBuffer (encoders : List ResolveEncoder)
  | present (encoders : List ResolveEncoder)
  | queueEventSignal (entry : SignalEvent)
  | serverWaitEvent (entry : SignalEvent) (encoders : List ResolveEncoder)
  /-- Another context takes a command buffer of the queue. -/
  | otherRestart

def call : CommandBuffer → Call → CommandBuffer
  | w, .getRenderCommandEncoder same desc encoders =>
    if w.encoderValid .RENDER && same then w
    else (ensureCommandBufferValid (endEncoding w encoders)).restartRender desc
  | w, .getBlitCommandEncoder encoders => getEncoder w .blit encoders
  | w, .getComputeCommandEncoder encoders => getEncoder w .compute encoders
  | w, .draw => if w.encoderValid .RENDER then w.ensureMetalEncoderStarted else w
  | w, .endEncoding encoders => endEncoding w encoders
  | w, .flushCommandBufer encoders => flushCommandBufer w encoders
  | w, .finishCommandBuffer encoders => (flushCommandBufer w encoders).commitImpl
  | w, .present encoders =>
    (endEncoding (ensureCommandBufferValid w) encoders).present.commitImpl
  | w, .queueEventSignal entry => (ensureCommandBufferValid w).queueEventSignal entry
  | w, .serverWaitEvent entry encoders =>
    (endEncoding (ensureCommandBufferValid w) encoders).serverWaitEvent entry
  | w, .otherRestart => { w with mQueueSerialCounter := w.mQueueSerialCounter + 1 }

/-- The second state follows from the first, which keeps the invariant, by operations. -/
def Reaches (w w' : CommandBuffer) : Prop := ∃ actions, Run step anyStep w actions w'

namespace Reaches

variable {w w' w'' : CommandBuffer}

theorem refl (w : CommandBuffer) : Reaches w w := ⟨[], .nil w⟩

theorem trans (h : Reaches w w') (h' : Reaches w' w'') : Reaches w w'' := by
  obtain ⟨actions, hrun⟩ := h
  obtain ⟨actions', hrun'⟩ := h'
  exact ⟨actions ++ actions', hrun.append hrun'⟩

theorem of_step (action : Action) (hstep : step w action = some w') : Reaches w w' :=
  ⟨[action], .single trivial hstep⟩

theorem inv (h : Reaches w w') (hinv : Inv [] w) : Inv [] w' := by
  obtain ⟨actions, hrun⟩ := h
  exact hrun.invariant (fun _ _ _ hs _ hstep => inv_step hs hstep) hinv

end Reaches

section

variable {w : CommandBuffer}

end

section

variable {w : CommandBuffer}

end

end ContextMtl

end MetalAngle.Metal.EventSignals
