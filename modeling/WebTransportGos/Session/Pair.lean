import WebTransportGos.Session.ServerLifetime
import WebTransportGos.Session.ClientRuns
import WebTransportGos.Session.Routing

/-!
Both ends of a session and what is on its way between them. A stream is on its way from
the moment an end opens it; everything that will have been written on it by the time it is
read comes with it, cut into results of `Read` in any way. A datagram that was handed to
the QUIC session may arrive at any time, or never.
-/

namespace WebTransportGos

open GoReader GoText VarintFormat StepSystem

set_option autoImplicit false

inductive Side where
  | client
  | server
  deriving DecidableEq, Repr

def Side.other : Side → Side
  | .client => .server
  | .server => .client

inductive EndEvent where
  | client (event : Client.Event)
  | server (event : Server.Event)

structure Pair where
  handshake : List StreamId
  client : Client.State
  server : Server.State
  inbound : Side → List Inbound

/-- What one handshake leaves with the two ends: the CONNECT stream and the control stream
of either of them, which each end takes for the other's settings stream. -/
structure Handshake where
  remoteAddr : GoString
  path : GoString
  req : H3.Request
  clientSession : SessionRef
  serverSession : SessionRef
  connectStream : StreamId
  clientControl : StreamId
  serverControl : StreamId

def Handshake.pair (handshake : Handshake) : Pair where
  handshake := [handshake.connectStream, handshake.clientControl, handshake.serverControl]
  client := Client.handleStream (Client.connectedClient
    (Client.createWebTransportClient handshake.remoteAddr handshake.path)
    handshake.clientSession handshake.connectStream handshake.serverControl)
  server := Server.createWebTransport handshake.serverSession handshake.req
    handshake.connectStream handshake.clientControl
  inbound := fun _ => []

namespace Pair

def pool (pair : Pair) : Side → Pool
  | .client => pair.client.pool
  | .server => pair.server.pool

def outputs (pair : Pair) : Side → List Output
  | .client => pair.client.outputs
  | .server => pair.server.outputs

def messages (pair : Pair) : Side → List (List UInt8)
  | .client => pair.client.messages
  | .server => pair.server.messages

def onMessage (pair : Pair) : Side → Bool
  | .client => pair.client.client.onMessage
  | .server => pair.server.transport.onMessage

def sessionId (pair : Pair) : Side → Nat
  | .client => pair.client.client.sessionId
  | .server => pair.server.transport.sessionId

def link (pair : Pair) (side : Side) : Link := ⟨pair.pool side, pair.inbound side⟩

def OpenAt (pair : Pair) : Side → Prop
  | .client => Client.Open pair.client
  | .server => Server.Open pair.server

def Running (pair : Pair) : Side → Prop
  | .client => Client.Open pair.client ∧ pair.client.fault = none
  | .server => Server.Open pair.server

end Pair

def Client.createCall (stream : StreamId) : StreamKind → Client.ApiCall
  | .bidi => .createStream (.ok stream)
  | .uni => .createUniStream (.ok stream)

def Server.createCall (stream : StreamId) : StreamKind → Server.ApiCall
  | .bidi => .createStream (.ok stream)
  | .uni => .createUniStream (.ok stream)

def createEvent : Side → StreamKind → StreamId → EndEvent
  | .client, kind, stream => .client (.call (Client.createCall stream kind) [])
  | .server, kind, stream => .server (.call (Server.createCall stream kind) [])

def sendEvent : Side → List UInt8 → EndEvent
  | .client, message => .client (.call (.sendMessage message none) [])
  | .server, message => .server (.call (.sendMessage message none) [])

def acceptEvent : Side → StreamKind → StreamId → EndEvent
  | .client, kind, stream => .client (.accept kind (.ok stream))
  | .server, kind, stream => .server (.accept kind (.ok stream) [])

def headerEvent : Side → StreamId → ReadResult → EndEvent
  | .client, stream, result => .client (.header stream result)
  | .server, stream, result => .server (.header stream result)

def datagramEvent : Side → List UInt8 → EndEvent
  | .client, bytes => .client (.message (.ok bytes) [])
  | .server, bytes => .server (.message (.ok bytes) [])

def receiveEvent : Side → StreamId → EndEvent
  | .client, stream => .client (.receive stream)
  | .server, stream => .server (.receive stream)

def EndEvent.side : EndEvent → Side
  | .client _ => .client
  | .server _ => .server

def EndEvent.pool : EndEvent → Option Pool.Event
  | .client event => event.pool
  | .server event => event.pool

def EndEvent.isLocal : EndEvent → Bool
  | .client (.accept _ (.ok _)) => false
  | .client (.header _ _) => false
  | .client (.message (.ok _) _) => false
  | .client (.call (.createStream (.ok _)) _) => false
  | .client (.call (.createUniStream (.ok _)) _) => false
  | .server (.accept _ (.ok _) _) => false
  | .server (.header _ _) => false
  | .server (.message (.ok _) _) => false
  | .server (.call (.createStream (.ok _)) _) => false
  | .server (.call (.createUniStream (.ok _)) _) => false
  | _ => true

def EndEvent.received : EndEvent → Option StreamId
  | .client (.receive stream) => some stream
  | .server (.receive stream) => some stream
  | _ => none

inductive Pair.Event where
  /-- An end opens a stream by `CreateStream` or `CreateUniStream` and its application
  writes `payload` on it; the other end will get all of it as `chunks`. -/
  | opens (opener : Side) (kind : StreamKind) (stream : StreamId) (payload : List UInt8)
      (chunks : List (List UInt8))
  | foreign (receiver : Side) (kind : StreamKind) (stream : StreamId) (source : Source)
  | accepts (side : Side) (stream : StreamId)
  | feeds (side : Side) (stream : StreamId)
  | datagram (receiver : Side) (bytes : List UInt8)
  | acts (event : EndEvent)

def Pair.Event.action (side : Side) : Pair.Event → Link.Action
  | .opens opener _ _ _ _ => if side = opener.other then .arrival else .idle
  | .foreign receiver _ _ _ => if side = receiver then .arrival else .idle
  | .accepts acceptor _ => if side = acceptor then .progress else .idle
  | .feeds reader _ => if side = reader then .progress else .idle
  | .datagram _ _ => .idle
  | .acts event => if side = event.side ∧ event.received.isSome then .progress else .idle

instance (source : Source) : Decidable (Productive source) :=
  inferInstanceAs (Decidable (∀ result ∈ source, result.err = none → result.data ≠ []))

namespace Pair

variable (varint : Quicvarint)

def stepEnd (pair : Pair) : EndEvent → Option Pair
  | .client event => (Client.step varint pair.client event).map fun client =>
      { pair with client := client }
  | .server event => (Server.step varint pair.server event).map fun server =>
      { pair with server := server }

def Fresh (pair : Pair) (stream : StreamId) : Prop :=
  stream ∉ pair.handshake ∧ stream ∉ (pair.inbound .client).map Inbound.stream ∧
    stream ∉ (pair.inbound .server).map Inbound.stream

instance (pair : Pair) (stream : StreamId) : Decidable (pair.Fresh stream) :=
  inferInstanceAs (Decidable (_ ∧ _ ∧ _))

def arrive (pair : Pair) (receiver : Side) (entry : Inbound) : Pair :=
  { pair with inbound :=
      Function.update pair.inbound receiver (pair.inbound receiver ++ [entry]) }

def advance (pair : Pair) (side : Side) (stream : StreamId) (rest : Source) : Pair :=
  { pair with inbound :=
      Function.update pair.inbound side (setUnread stream rest (pair.inbound side)) }

def entryOf (pair : Pair) (side : Side) (stream : StreamId) : Option Inbound :=
  (pair.inbound side).find? fun entry => entry.stream == stream

/-- Results without an error, one for each chunk. -/
def unfinished (chunks : List (List UInt8)) : Source := chunks.map fun data => ⟨data, none⟩

def opensStep (pair : Pair) (opener : Side) (kind : StreamKind) (stream : StreamId)
    (payload : List UInt8) (chunks : List (List UInt8)) : Option Pair :=
  if pair.Fresh stream ∧ [] ∉ chunks then
    match pair.stepEnd varint (createEvent opener kind stream) with
    | none => none
    | some next => match (next.outputs opener).drop (pair.outputs opener).length with
        | [.stream _ _ header] =>
            if chunks.flatten = header ++ payload then
              some (next.arrive opener.other
                ⟨stream, kind, some payload, unfinished chunks, unfinished chunks⟩)
            else none
        | _ => none
  else none

def feedsStep (pair : Pair) (side : Side) (stream : StreamId) : Option Pair :=
  match pair.entryOf side stream with
  | none => none
  | some entry => match GoReader.read 1 entry.unread with
      | none => none
      | some (result, rest) =>
          (pair.stepEnd varint (headerEvent side stream result)).map fun next =>
            next.advance side stream rest

def step (pair : Pair) : Event → Option Pair
  | .opens opener kind stream payload chunks =>
      pair.opensStep varint opener kind stream payload chunks
  | .foreign receiver kind stream source =>
      if pair.Fresh stream ∧ Productive source then
        some (pair.arrive receiver ⟨stream, kind, none, source, source⟩)
      else none
  | .accepts side stream => match pair.entryOf side stream with
      | none => none
      | some entry => pair.stepEnd varint (acceptEvent side entry.kind stream)
  | .feeds side stream => pair.feedsStep varint side stream
  | .datagram receiver bytes =>
      if .datagram bytes ∈ pair.outputs receiver.other then
        pair.stepEnd varint (datagramEvent receiver bytes)
      else none
  | .acts event => if event.isLocal then pair.stepEnd varint event else none

end Pair

end WebTransportGos
