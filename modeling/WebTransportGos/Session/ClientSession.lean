import WebTransportGos.Session.StreamHandlers
import WebTransportGos.Library.GoText

/-!
webtransport_client.go: the `WebTransportClient` and the goroutines `handleStream`
starts. Unlike the server's, they take the session and the streams from the client's
fields each time round, and they look at the accepted stream before the error that may
have come instead of it. Here too one step is the code between two blocking calls; it
ends with the evaluation of the next blocking call, which is where a cleared field is
used.

What the application calls inside `OnMessage` is a step of its own. No call changes the
session field of a connected client, so that the next `ReceiveMessage` does not depend
on the order.
-/

namespace WebTransportGos.Client

open GoReader GoText

set_option autoImplicit false

/-- Of `OnMessage` and `OnClose` only being set matters. -/
structure WebTransportClient where
  remoteAddr : GoString
  path : GoString
  connected : Bool
  sessionId : Nat
  stream : Option StreamKind
  receiveStream : Option StreamKind
  onMessage : Bool
  onClose : Bool
  session : Option SessionRef
  connectStream : Option StreamId
  settingsStream : Option StreamId

def createWebTransportClient (remoteAddr path : GoString) : WebTransportClient where
  remoteAddr := remoteAddr
  path := path
  connected := false
  sessionId := 0
  stream := some .bidi
  receiveStream := some .uni
  onMessage := false
  onClose := false
  session := none
  connectStream := none
  settingsStream := none

def connectedClient (client : WebTransportClient) (session : SessionRef)
    (connectStream settingsStream : StreamId) : WebTransportClient :=
  { client with
    connected := true
    session := some session
    connectStream := some connectStream
    settingsStream := some settingsStream }

/-- The field of the stream that the accept loop of this kind passes over. -/
def WebTransportClient.ownStream (client : WebTransportClient) : StreamKind → Option StreamId
  | .bidi => client.connectStream
  | .uni => client.settingsStream

def WebTransportClient.channelField (client : WebTransportClient) :
    StreamKind → Option StreamKind
  | .bidi => client.stream
  | .uni => client.receiveStream

def WebTransportClient.callee (client : WebTransportClient) : Loop → Option Nat
  | .accept _ => client.session
  | .message => client.session
  | .connect => client.connectStream

inductive LoopPhase where
  | ready
  | blocked
  | returned
  deriving DecidableEq, Repr

inductive Fault where
  | nilCall
  | channelClose
  deriving DecidableEq, Repr

structure State where
  client : WebTransportClient
  pool : Pool
  loops : Loop → LoopPhase
  messages : List (List UInt8)
  outputs : List Output
  onCloseRuns : Nat
  fault : Option Fault

/-- `handleStream`: the goroutines exist, none has run yet. -/
def handleStream (client : WebTransportClient) : State where
  client := client
  pool := .empty
  loops := fun _ => .ready
  messages := []
  outputs := []
  onCloseRuns := 0
  fault := none

inductive ApiCall where
  | createStream (opened : Except Error StreamId)
  | createUniStream (opened : Except Error StreamId)
  | sendMessage (message : List UInt8) (sent : Option Error)
  | close (code : Nat) (message : String) (closed : Option Error)
  deriving DecidableEq, Repr

def ApiCall.isClose : ApiCall → Bool
  | .close _ _ _ => true
  | _ => false

def State.nilCall (state : State) : State := { state with fault := some .nilCall }

variable (varint : Quicvarint)

def notConnected : Error := .text "client not connect"

/-- `CreateStream` and `CreateUniStream`. The result of writing the header is dropped. -/
def createStream (kind : StreamKind) (opened : Except Error StreamId) (state : State) :
    Option Error × State :=
  if state.client.connected then
    match state.client.session with
    | none => (none, state.nilCall)
    | some _ => match opened with
        | .error err => (some err, state)
        | .ok id => (none, { state with outputs := state.outputs ++
            [.stream kind id (streamHeader varint kind state.client.sessionId)] })
  else (some notConnected, state)

def sendMessage (message : List UInt8) (sent : Option Error) (state : State) :
    Option Error × State :=
  if state.client.connected then
    match state.client.session with
    | none => (none, state.nilCall)
    | some _ => (sent, { state with outputs := state.outputs ++
        [.datagram (varint.write state.client.sessionId ++ message)] })
  else (some notConnected, state)

/-- `Close`, with `closing` for the client's own `close`. The test is the other way round
than in the calls above: a connected client is left alone. -/
def closeWith (closing : State → State) (code : Nat) (message : String) (closed : Option Error)
    (state : State) : Option Error × State :=
  if !state.client.connected then
    match state.client.connectStream with
    | none => (none, state.nilCall)
    | some stream => match state.client.session with
        | none => (none, { state.nilCall with outputs := state.outputs ++ [.closeStream stream] })
        | some _ => (closed, closing { state with outputs :=
            state.outputs ++ [.closeStream stream, .closeSession code message] })
  else (none, state)

def callWith (closing : State → State) (state : State) : ApiCall → Option Error × State
  | .createStream opened => createStream varint .bidi opened state
  | .createUniStream opened => createStream varint .uni opened state
  | .sendMessage message sent => sendMessage varint message sent state
  | .close code message closed => closeWith closing code message closed state

/-- The calls `OnClose` makes, up to the first that panics. The connect stream is nil by
then, so that `Close` does not get as far as `close`. -/
def callsInOnClose (state : State) (calls : List ApiCall) : State :=
  calls.foldl (fun state call =>
    if state.fault.isSome then state else (callWith varint id state call).2) state

def close (onClose : List ApiCall) (state : State) : State :=
  match state.client.session with
  | none => state
  | some _ =>
      let client := { state.client with session := none }
      match state.pool.close client.stream with
      | none => { state with client := client, fault := some .channelClose }
      | some pool => match pool.close client.receiveStream with
          | none => { state with client := client, pool := pool, fault := some .channelClose }
          | some pool =>
              let cleared : State := { state with
                pool := pool
                client := { client with
                  connectStream := none, settingsStream := none, receiveStream := none,
                  stream := none, connected := false } }
              if cleared.client.onClose then
                callsInOnClose varint
                  { cleared with onCloseRuns := cleared.onCloseRuns + 1 } onClose
              else cleared

def call (onClose : List ApiCall) (state : State) : ApiCall → Option Error × State :=
  callWith varint (close varint onClose) state

inductive Event where
  | start (loop : Loop)
  /-- `AcceptStream` or `AcceptUniStream` returns; with an error the stream is nil. -/
  | accept (kind : StreamKind) (result : Except Error StreamId)
  | header (stream : StreamId) (result : ReadResult)
  | receive (stream : StreamId)
  | await (kind : StreamKind)
  | message (result : Except Error (List UInt8)) (onClose : List ApiCall)
  | connectRead (data : List UInt8) (err : Option Error) (onClose : List ApiCall)
  | call (apiCall : ApiCall) (onClose : List ApiCall)
  | setOnMessage (isSet : Bool)
  | setOnClose (isSet : Bool)

def State.block (state : State) (loop : Loop) : State :=
  match state.client.callee loop with
  | none => state.nilCall
  | some _ => { state with loops := Function.update state.loops loop .blocked }

def State.leave (state : State) (loop : Loop) : State :=
  { state with loops := Function.update state.loops loop .returned }

def startStep (state : State) (loop : Loop) : Option State :=
  if state.loops loop = .ready then some (state.block loop) else none

/-- `stream.StreamID()` is evaluated for the log line before the error is looked at, and
with an error the stream is nil: the branch that closes is never reached. -/
def acceptStep (state : State) (kind : StreamKind) (result : Except Error StreamId) :
    Option State :=
  if state.loops (.accept kind) ≠ .blocked then none
  else match result with
    | .error _ => some state.nilCall
    | .ok stream =>
        if state.pool.accepted stream then none
        else match state.client.ownStream kind with
          | none => some state.nilCall
          | some own =>
              if stream = own then some (state.block (.accept kind))
              else some ({ state with pool := state.pool.accept kind stream }.block (.accept kind))

def messageFor (client : WebTransportClient) (datagram : List UInt8) : Option (List UInt8) :=
  if datagram ≠ [] ∧ client.onMessage then some datagram else none

def messageStep (state : State) (result : Except Error (List UInt8)) (onClose : List ApiCall) :
    Option State :=
  if state.loops .message ≠ .blocked then none
  else match result with
    | .error _ => some ((close varint onClose state).leave .message)
    | .ok datagram =>
        let handled := { state with
          messages := state.messages ++ (messageFor state.client datagram).toList }
        some (handled.block .message)

def connectStep (state : State) (err : Option Error) (onClose : List ApiCall) : Option State :=
  if state.loops .connect ≠ .blocked then none
  else match err with
    | some _ => some ((close varint onClose state).leave .connect)
    | none => some (state.block .connect)

def progress (state : State) : Event → Option State
  | .start loop => startStep state loop
  | .accept kind result => acceptStep state kind result
  | .header stream result =>
      (state.pool.readHeader varint state.client.channelField stream result).map fun pool =>
        { state with pool := pool }
  | .receive stream => (state.pool.receive stream).map fun pool => { state with pool := pool }
  | .await kind => (state.pool.await (state.client.channelField kind)).map fun pool =>
      { state with pool := pool }
  | .message result onClose => messageStep varint state result onClose
  | .connectRead _ err onClose => connectStep varint state err onClose
  | .call apiCall onClose => some (call varint onClose state apiCall).2
  | .setOnMessage isSet =>
      some { state with client := { state.client with onMessage := isSet } }
  | .setOnClose isSet =>
      some { state with client := { state.client with onClose := isSet } }

def step (state : State) (event : Event) : Option State :=
  if state.fault.isSome || state.pool.crashed then none else progress varint state event

end WebTransportGos.Client
