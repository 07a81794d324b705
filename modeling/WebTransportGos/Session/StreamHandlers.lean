import WebTransportGos.Quicvarint
import Mathlib.Logic.Function.Basic

/-!
The goroutine that reads the header of an accepted stream and sends the stream on a
channel. Server and client each have two of them, for bidirectional and for
unidirectional streams; they differ in the type they expect and in what they do
before the send, which is left to the machines of the two sides.

Channels are unbuffered. A send completes at once when a receiver waits, else the
handler is blocked in it; closing the channel makes a blocked sender panic, a send
on a nil channel blocks for good. Addresses of the two channels are written as
stream kinds, and a nil field as `none`.
-/

namespace WebTransportGos

open GoReader VarintFormat

set_option autoImplicit false

abbrev StreamId := Nat

/-- Which QUIC session a field refers to. -/
abbrev SessionRef := Nat

inductive StreamKind where
  | bidi
  | uni
  deriving DecidableEq, Repr

inductive Loop where
  | accept (kind : StreamKind)
  | message
  | connect
  deriving DecidableEq, Repr

def webTransportStream : Nat := 0x41

def webTransportUniStream : Nat := 0x54

def StreamKind.streamType : StreamKind → Nat
  | .bidi => webTransportStream
  | .uni => webTransportUniStream

/-- `byteReaderImpl.ReadByte` on what the one-byte `Read` returned. The error wins over a
byte that came with it, and the buffer's zero stands for a byte that did not come. -/
def byteReaderImplReadByte (result : ReadResult) : Except Error UInt8 :=
  match result.err with
  | some err => .error err
  | none => .ok (result.data.headD 0)

inductive Phase where
  | reading (got : List UInt8)
  /-- Blocked in `channel <- stream`. -/
  | sending (channel : StreamKind)
  /-- Blocked in a send on a nil channel. -/
  | stuck
  /-- In a send on a closed channel. -/
  | panicked
  | delivered
  | returned
  deriving DecidableEq, Repr

/-- `timedOut`: the goroutine that waits for the reader has given up after a second. -/
structure Handler where
  stream : StreamId
  kind : StreamKind
  phase : Phase
  timedOut : Bool
  deriving DecidableEq, Repr

structure Channel where
  waiting : Nat
  closes : Nat
  deriving DecidableEq, Repr

/-- `delivered` logs each channel receive of a stream. -/
structure Pool where
  handlers : List Handler
  channels : StreamKind → Channel
  delivered : List (StreamKind × StreamId)

def Pool.empty : Pool := ⟨[], fun _ => ⟨0, 0⟩, []⟩

section Header

variable (varint : Quicvarint)

def splitHeader (bytes : List UInt8) : Option (Nat × Nat × List UInt8) :=
  match varint.decode bytes with
  | none => none
  | some (streamType, afterType) => match varint.decode afterType with
      | none => none
      | some (sessionId, rest) => some (streamType, sessionId, rest)

/-- What the handler does after one more `Read`. -/
inductive HeaderStep where
  | more (got : List UInt8)
  | quit
  | header (sessionId : Nat)
  deriving DecidableEq, Repr

def headerStep (kind : StreamKind) (got : List UInt8) (result : ReadResult) : HeaderStep :=
  match byteReaderImplReadByte result with
  | .error _ => .quit
  | .ok byte => match splitHeader varint (got ++ [byte]) with
      | none => .more (got ++ [byte])
      | some (streamType, sessionId, _) =>
          if streamType = kind.streamType then .header sessionId else .quit

def streamHeader (kind : StreamKind) (sessionId : Nat) : List UInt8 :=
  varint.write kind.streamType ++ varint.write sessionId

inductive Output where
  | stream (kind : StreamKind) (id : StreamId) (header : List UInt8)
  | datagram (bytes : List UInt8)
  | closeStream (id : StreamId)
  | closeSession (code : Nat) (message : String)
  deriving DecidableEq, Repr

def Output.Carries (sessionId : Nat) : Output → Prop
  | .stream kind _ header => header = streamHeader varint kind sessionId
  | .datagram bytes => ∃ message, bytes = varint.write sessionId ++ message
  | .closeStream _ => True
  | .closeSession _ _ => True

end Header

namespace Pool

def find (pool : Pool) (stream : StreamId) : Option Handler :=
  pool.handlers.find? fun handler => handler.stream == stream

def accepted (pool : Pool) (stream : StreamId) : Bool :=
  pool.handlers.any fun handler => handler.stream == stream

def setPhase (pool : Pool) (stream : StreamId) (phase : Phase) : Pool :=
  { pool with handlers := pool.handlers.map fun handler =>
      if handler.stream = stream then { handler with phase := phase } else handler }

def setChannel (pool : Pool) (address : StreamKind) (channel : Channel) : Pool :=
  { pool with channels := Function.update pool.channels address channel }

def accept (pool : Pool) (kind : StreamKind) (stream : StreamId) : Pool :=
  { pool with handlers := pool.handlers ++ [⟨stream, kind, .reading [], false⟩] }

def deliver (pool : Pool) (address : StreamKind) (stream : StreamId) : Pool :=
  { pool.setPhase stream .delivered with delivered := pool.delivered ++ [(address, stream)] }

/-- `field <- stream` in the handler of `stream`. -/
def send (pool : Pool) (field : Option StreamKind) (stream : StreamId) : Pool :=
  match field with
  | none => pool.setPhase stream .stuck
  | some address =>
      let channel := pool.channels address
      if 0 < channel.closes then pool.setPhase stream .panicked
      else if 0 < channel.waiting then
        (pool.setChannel address { channel with waiting := channel.waiting - 1 }).deliver address
          stream
      else pool.setPhase stream (.sending address)

/-- A blocked sender panics, every other handler goes on. -/
def panicIfSending (address : StreamKind) (handler : Handler) : Handler :=
  if handler.phase = .sending address then { handler with phase := .panicked } else handler

/-- `close(field)`; `none` when it panics, on a nil or a closed channel. -/
def close (pool : Pool) (field : Option StreamKind) : Option Pool :=
  match field with
  | none => none
  | some address =>
      let channel := pool.channels address
      if 0 < channel.closes then none
      else some
        { pool.setChannel address ⟨0, channel.closes + 1⟩ with
          handlers := pool.handlers.map (panicIfSending address) }

def receive (pool : Pool) (stream : StreamId) : Option Pool :=
  match pool.find stream with
  | none => none
  | some handler => match handler.phase with
      | .sending address => some (pool.deliver address stream)
      | _ => none

/-- The application starts to wait for a stream while nobody is blocked in a send. On a
closed channel the receive returns at once; on a nil channel it changes nothing. -/
def await (pool : Pool) (field : Option StreamKind) : Option Pool :=
  match field with
  | none => none
  | some address =>
      let channel := pool.channels address
      if 0 < channel.closes then some pool
      else if pool.handlers.any fun handler => handler.phase = .sending address then none
      else some (pool.setChannel address { channel with waiting := channel.waiting + 1 })

def timer (pool : Pool) (stream : StreamId) : Pool :=
  { pool with handlers := pool.handlers.map fun handler =>
      if handler.stream = stream then { handler with timedOut := true } else handler }

def crashed (pool : Pool) : Bool := pool.handlers.any fun handler => handler.phase = .panicked

def someSending (pool : Pool) : Bool :=
  pool.handlers.any fun handler =>
    handler.phase = .sending .bidi ∨ handler.phase = .sending .uni

inductive Event where
  | accept (kind : StreamKind) (stream : StreamId)
  | header (stream : StreamId) (result : ReadResult)
  | timer (stream : StreamId)
  | receive (stream : StreamId)
  | await (kind : StreamKind)

def readHeader (varint : Quicvarint) (field : StreamKind → Option StreamKind) (pool : Pool)
    (stream : StreamId) (result : ReadResult) : Option Pool :=
  match pool.find stream with
  | none => none
  | some handler => match handler.phase with
      | .reading got => match headerStep varint handler.kind got result with
          | .more got => some (pool.setPhase stream (.reading got))
          | .quit => some (pool.setPhase stream .returned)
          | .header _ => some (pool.send (field handler.kind) stream)
      | _ => none

def step (varint : Quicvarint) (field : StreamKind → Option StreamKind) (pool : Pool) :
    Event → Option Pool
  | .accept kind stream => if pool.accepted stream then none else some (pool.accept kind stream)
  | .header stream result => pool.readHeader varint field stream result
  | .timer stream => some (pool.timer stream)
  | .receive stream => pool.receive stream
  | .await kind => pool.await (field kind)

section Facts

variable {pool after : Pool} {stream : StreamId} {address : StreamKind} {handler : Handler}
  {field : Option StreamKind}

def closedBoth (pool : Pool) : Pool where
  handlers := (pool.handlers.map (panicIfSending .bidi)).map (panicIfSending .uni)
  channels := fun address => ⟨0, (pool.channels address).closes + 1⟩
  delivered := pool.delivered

theorem closes_set_channel (channel : Channel) (other : StreamKind)
    (same : channel.closes = (pool.channels address).closes) :
    ((pool.setChannel address channel).channels other).closes = (pool.channels other).closes := by
  by_cases equal : other = address
  · subst equal
    simp [setChannel, same]
  · simp [setChannel, equal]

theorem closes_send (other : StreamKind) :
    ((pool.send field stream).channels other).closes = (pool.channels other).closes := by
  cases field with
  | none => rfl
  | some address =>
      simp only [send]
      split_ifs
      · rfl
      · exact closes_set_channel _ other rfl
      · rfl

inductive HeaderEffect (varint : Quicvarint) (field : StreamKind → Option StreamKind)
    (pool : Pool) (stream : StreamId) (result : ReadResult) : Pool → Prop where
  | more {handler : Handler} {got longer : List UInt8}
      (found : pool.find stream = some handler) (reading : handler.phase = .reading got)
      (stepped : headerStep varint handler.kind got result = .more longer) :
      HeaderEffect varint field pool stream result (pool.setPhase stream (.reading longer))
  | quit {handler : Handler} {got : List UInt8}
      (found : pool.find stream = some handler) (reading : handler.phase = .reading got)
      (stepped : headerStep varint handler.kind got result = .quit) :
      HeaderEffect varint field pool stream result (pool.setPhase stream .returned)
  | header {handler : Handler} {got : List UInt8} {sessionId : Nat}
      (found : pool.find stream = some handler) (reading : handler.phase = .reading got)
      (stepped : headerStep varint handler.kind got result = .header sessionId) :
      HeaderEffect varint field pool stream result (pool.send (field handler.kind) stream)

theorem read_header_some {varint : Quicvarint} {fields : StreamKind → Option StreamKind}
    {result : ReadResult} (read : pool.readHeader varint fields stream result = some after) :
    HeaderEffect varint fields pool stream result after := by
  unfold readHeader at read
  split at read
  · cases read
  next handler found =>
    split at read
    next got reading =>
      split at read <;> cases read
      next longer stepped => exact .more found reading stepped
      next stepped => exact .quit found reading stepped
      next sessionId stepped => exact .header found reading stepped
    · cases read

theorem receive_some (received : pool.receive stream = some after) :
    ∃ handler address, pool.find stream = some handler ∧ handler.phase = .sending address ∧
      after = pool.deliver address stream := by
  simp only [receive] at received
  split at received
  · cases received
  next handler found =>
    split at received
    next address sending =>
      cases received
      exact ⟨handler, address, found, sending, rfl⟩
    · cases received

theorem await_some (awaited : pool.await field = some after) :
    after.handlers = pool.handlers ∧ after.delivered = pool.delivered ∧
      ∀ other, (after.channels other).closes = (pool.channels other).closes := by
  cases field with
  | none => cases awaited
  | some address =>
      simp only [await] at awaited
      split_ifs at awaited <;> cases awaited
      · exact ⟨rfl, rfl, fun _ => rfl⟩
      · exact ⟨rfl, rfl, fun other => closes_set_channel _ other rfl⟩

theorem closes_read_header {varint : Quicvarint} {fields : StreamKind → Option StreamKind}
    {result : ReadResult} (read : pool.readHeader varint fields stream result = some after)
    (other : StreamKind) : (after.channels other).closes = (pool.channels other).closes := by
  cases read_header_some read with
  | more found reading stepped => rfl
  | quit found reading stepped => rfl
  | header found reading stepped => exact closes_send other

theorem closes_receive (received : pool.receive stream = some after) (other : StreamKind) :
    (after.channels other).closes = (pool.channels other).closes := by
  obtain ⟨handler, address, _, _, rfl⟩ := receive_some received
  rfl

theorem close_both (bidi : (pool.channels .bidi).closes = 0)
    (uni : (pool.channels .uni).closes = 0) :
    (pool.close (some .bidi)).bind (fun after => after.close (some .uni)) =
      some pool.closedBoth := by
  have untouched : (Function.update pool.channels .bidi (⟨0, 1⟩ : Channel) .uni) =
      pool.channels .uni := Function.update_of_ne (by decide) _ _
  simp only [close, bidi, Nat.lt_irrefl, if_false, Option.bind_some, setChannel, untouched, uni,
    Option.some.injEq, closedBoth, Pool.mk.injEq, and_true, true_and]
  funext other
  cases other
  · rw [Function.update_of_ne (by decide), Function.update_self, bidi]
  · rw [Function.update_self, uni]

end Facts

section Panics

variable {pool after : Pool} {stream : StreamId}

theorem crashed_false :
    pool.crashed = false ↔ ∀ handler ∈ pool.handlers, handler.phase ≠ .panicked := by
  simp [crashed]

theorem crashed_set_phase {phase : Phase} (harmless : phase ≠ .panicked)
    (quiet : pool.crashed = false) : (pool.setPhase stream phase).crashed = false := by
  rw [crashed_false] at quiet ⊢
  intro handler member
  obtain ⟨before, earlier, rfl⟩ := List.mem_map.mp member
  split
  · exact harmless
  · exact quiet before earlier

theorem crashed_accept {kind : StreamKind} (quiet : pool.crashed = false) :
    (pool.accept kind stream).crashed = false := by
  rw [crashed_false] at quiet ⊢
  intro handler member
  cases List.mem_append.mp member with
  | inl earlier => exact quiet handler earlier
  | inr new =>
      rw [List.mem_singleton.mp new]
      simp

theorem crashed_timer (quiet : pool.crashed = false) : (pool.timer stream).crashed = false := by
  rw [crashed_false] at quiet ⊢
  intro handler member
  obtain ⟨before, earlier, rfl⟩ := List.mem_map.mp member
  split
  · exact quiet before earlier
  · exact quiet before earlier

/-- A send panics only on a closed channel. -/
theorem crashed_send {field : Option StreamKind}
    (unclosed : ∀ address, field = some address → (pool.channels address).closes = 0)
    (quiet : pool.crashed = false) : (pool.send field stream).crashed = false := by
  cases field with
  | none => exact crashed_set_phase (by simp) quiet
  | some address =>
      have never := unclosed address rfl
      simp only [send, never, Nat.lt_irrefl, if_false]
      split
      · exact crashed_set_phase (by simp) quiet
      · exact crashed_set_phase (by simp) quiet

theorem crashed_read_header {varint : Quicvarint} {field : StreamKind → Option StreamKind}
    {result : ReadResult}
    (unclosed : ∀ kind address, field kind = some address → (pool.channels address).closes = 0)
    (quiet : pool.crashed = false)
    (read : pool.readHeader varint field stream result = some after) : after.crashed = false := by
  cases read_header_some read with
  | more found reading stepped => exact crashed_set_phase (by simp) quiet
  | quit found reading stepped => exact crashed_set_phase (by simp) quiet
  | @header handler got sessionId found reading stepped =>
      exact crashed_send (unclosed handler.kind) quiet

theorem crashed_receive (quiet : pool.crashed = false)
    (received : pool.receive stream = some after) : after.crashed = false := by
  obtain ⟨handler, address, _, _, rfl⟩ := receive_some received
  have marked : (pool.setPhase stream .delivered).crashed = false :=
    crashed_set_phase (by simp) quiet
  exact marked

theorem crashed_await {field : Option StreamKind} (quiet : pool.crashed = false)
    (awaited : pool.await field = some after) : after.crashed = false := by
  rw [crashed, (await_some awaited).1]
  exact quiet

/-- While the channels are open or the fields nil, no event of the handlers panics. -/
theorem crashed_step {varint : Quicvarint} {field : StreamKind → Option StreamKind} {event : Event}
    (unclosed : ∀ kind address, field kind = some address → (pool.channels address).closes = 0)
    (quiet : pool.crashed = false) (stepped : pool.step varint field event = some after) :
    after.crashed = false := by
  cases event with
  | accept kind stream =>
      simp only [step] at stepped
      split at stepped <;> cases stepped
      exact crashed_accept quiet
  | header stream result => exact crashed_read_header unclosed quiet stepped
  | timer stream =>
      cases stepped
      exact crashed_timer quiet
  | receive stream => exact crashed_receive quiet stepped
  | await kind => exact crashed_await quiet stepped

/-- Closing both channels panics exactly the handlers that are blocked in a send. -/
theorem crashed_closed_both (quiet : pool.crashed = false) :
    pool.closedBoth.crashed = pool.someSending := by
  rw [crashed_false] at quiet
  simp only [crashed, someSending, closedBoth, List.map_map, List.any_map]
  have same : ∀ handler ∈ pool.handlers,
      decide ((panicIfSending .uni (panicIfSending .bidi handler)).phase = .panicked) =
        decide (handler.phase = .sending .bidi ∨ handler.phase = .sending .uni) := by
    intro handler member
    have unharmed := quiet handler member
    rcases handler with ⟨stream, kind, phase, timedOut⟩
    cases phase with
    | panicked => exact absurd rfl unharmed
    | sending address => cases address <;> simp [panicIfSending]
    | _ => simp [panicIfSending]
  rw [Bool.eq_iff_iff, List.any_eq_true, List.any_eq_true]
  refine exists_congr fun handler => and_congr_right fun member => ?_
  rw [← same handler member]
  rfl

end Panics

end Pool

end WebTransportGos
