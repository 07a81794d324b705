import WebTransportGos.Session.StreamHandlers
import WebTransportGos.H3.Request

/-!
webtransport.go: the server's `WebTransport` and the goroutines `createWebTransport`
starts. One step of the machine is the code between two blocking calls: the return of
an accept, of a `Read` or of `ReceiveMessage`, a firing timer, a channel receive of the
application, or a call of the application.

What the application calls inside `OnClose` is part of the step that closes, because
`OnClose` is the last thing `close` does. What it calls inside `OnMessage`, the last
thing the loop does with a datagram, is a step of its own behind it.
-/

namespace WebTransportGos.Server

open GoReader GoText

set_option autoImplicit false

/-- A nil field is `none`; of `OnMessage` and `OnClose` only being set matters. -/
structure WebTransport where
  session : Option SessionRef
  req : Option H3.Request
  stream : Option StreamKind
  receiveStream : Option StreamKind
  onMessage : Bool
  onClose : Bool
  sessionId : Nat
  connectStream : Option StreamId
  settingsStream : Option StreamId
  closed : Bool

def newWebTransport (session : SessionRef) (req : H3.Request)
    (connectStream settingsStream : StreamId) : WebTransport where
  session := some session
  req := some req
  stream := some .bidi
  receiveStream := some .uni
  onMessage := false
  onClose := false
  sessionId := 0
  connectStream := some connectStream
  settingsStream := some settingsStream
  closed := false

/-- The field of the stream that the accept loop of this kind passes over. -/
def WebTransport.ownStream (transport : WebTransport) : StreamKind → Option StreamId
  | .bidi => transport.connectStream
  | .uni => transport.settingsStream

def WebTransport.channelField (transport : WebTransport) : StreamKind → Option StreamKind
  | .bidi => transport.stream
  | .uni => transport.receiveStream

/-- `messages` are the arguments `OnMessage` was called with, `nilCall` a method call on a
nil field, which ends the process. -/
structure State where
  transport : WebTransport
  pool : Pool
  running : Loop → Bool
  messages : List (List UInt8)
  outputs : List Output
  onCloseRuns : Nat
  nilCall : Bool

def createWebTransport (session : SessionRef) (req : H3.Request)
    (connectStream settingsStream : StreamId) : State where
  transport := newWebTransport session req connectStream settingsStream
  pool := .empty
  running := fun _ => true
  messages := []
  outputs := []
  onCloseRuns := 0
  nilCall := false

inductive ApiCall where
  | createStream (opened : Except Error StreamId)
  | createUniStream (opened : Except Error StreamId)
  | sendMessage (message : List UInt8) (sent : Option Error)
  | close (code : Nat) (message : String)

variable (varint : Quicvarint)

/-- `CreateStream` and `CreateUniStream`. The result of writing the header is dropped. -/
def createStream (kind : StreamKind) (opened : Except Error StreamId) (state : State) :
    Option Error × State :=
  match state.transport.session with
  | none => (some (.text "session is nil"), state)
  | some _ => match opened with
      | .error err => (some err, state)
      | .ok id => (none, { state with outputs := state.outputs ++
          [.stream kind id (streamHeader varint kind state.transport.sessionId)] })

def sendMessage (message : List UInt8) (sent : Option Error) (state : State) :
    Option Error × State :=
  let bytes := varint.write state.transport.sessionId ++ message
  match state.transport.session with
  | none => (some (.text "session is nil"), state)
  | some _ => (sent, { state with outputs := state.outputs ++ [.datagram bytes] })

/-- A call, with `closing` for what `Close` does on an open transport. -/
def callWith (closing : State → State) (state : State) : ApiCall → Option Error × State
  | .createStream opened => createStream varint .bidi opened state
  | .createUniStream opened => createStream varint .uni opened state
  | .sendMessage message sent => sendMessage varint message sent state
  | .close _ _ => match state.transport.session with
      | none => (some (.text "session is not opened"), state)
      | some _ => (none, closing state)

/-- The calls `OnClose` makes. The session field is nil by then, so that `Close` never
gets past its first test there. -/
def callsInOnClose (state : State) (calls : List ApiCall) : State :=
  calls.foldl (fun state call => (callWith varint id state call).2) state

/-- `WebTransport.close`. A panic of `close` on a channel is recovered and leaves what was
done before it. -/
def close (onClose : List ApiCall) (state : State) : State :=
  if state.transport.closed then state
  else match state.transport.session with
    | none => state
    | some _ =>
        let transport := { state.transport with session := none, closed := true }
        match state.pool.close transport.stream with
        | none => { state with transport := transport }
        | some pool => match pool.close transport.receiveStream with
            | none => { state with transport := transport, pool := pool }
            | some pool =>
                let cleared : State := { state with
                  pool := pool
                  transport := { transport with
                    connectStream := none, settingsStream := none, req := none,
                    receiveStream := none, stream := none } }
                if cleared.transport.onClose then
                  callsInOnClose varint
                    { cleared with onCloseRuns := cleared.onCloseRuns + 1 } onClose
                else cleared

def call (onClose : List ApiCall) (state : State) (apiCall : ApiCall) : Option Error × State :=
  callWith varint (close varint onClose) state apiCall

inductive Event where
  /-- `AcceptStream` or `AcceptUniStream` returns; a session gives each stream once. -/
  | accept (kind : StreamKind) (result : Except Error StreamId) (onClose : List ApiCall)
  | header (stream : StreamId) (result : ReadResult)
  | timer (stream : StreamId)
  | receive (stream : StreamId)
  | await (kind : StreamKind)
  | message (result : Except Error (List UInt8)) (onClose : List ApiCall)
  | connectRead (data : List UInt8) (err : Option Error) (onClose : List ApiCall)
  | call (apiCall : ApiCall) (onClose : List ApiCall)
  | setOnMessage (isSet : Bool)
  | setOnClose (isSet : Bool)

def State.leave (state : State) (loop : Loop) : State :=
  { state with running := Function.update state.running loop false }

def acceptStep (state : State) (kind : StreamKind) (result : Except Error StreamId)
    (onClose : List ApiCall) : Option State :=
  if !state.running (.accept kind) then none
  else match result with
    | .error _ => some ((close varint onClose state).leave (.accept kind))
    | .ok stream =>
        if state.pool.accepted stream then none
        else match state.transport.session with
          | none => some (state.leave (.accept kind))
          | some _ => match state.transport.ownStream kind with
              | none => some { state with nilCall := true }
              | some own =>
                  if stream = own then some state
                  else some { state with pool := state.pool.accept kind stream }

/-- The handler is told apart from those of other streams by its stream id. -/
def headerEvent (state : State) (stream : StreamId) (result : ReadResult) : Option State :=
  match state.pool.find stream with
  | none => none
  | some handler => match handler.phase with
      | .reading got => match headerStep varint handler.kind got result with
          | .more got => some { state with pool := state.pool.setPhase stream (.reading got) }
          | .quit => some { state with pool := state.pool.setPhase stream .returned }
          | .header sessionId =>
              let transport := { state.transport with sessionId := sessionId }
              some { state with
                transport := transport
                pool := state.pool.send (transport.channelField handler.kind) stream }
      | _ => none

def messageFor (transport : WebTransport) (datagram : List UInt8) : Option (List UInt8) :=
  if datagram ≠ [] ∧ transport.onMessage then
    match varint.decode datagram with
    | none => none
    | some (sessionId, rest) => if sessionId = transport.sessionId then some rest else none
  else none

def messageStep (state : State) (result : Except Error (List UInt8)) (onClose : List ApiCall) :
    Option State :=
  if !state.running .message then none
  else match result with
    | .error _ => some ((close varint onClose state).leave .message)
    | .ok datagram => match messageFor varint state.transport datagram with
        | none => some state
        | some message => some { state with messages := state.messages ++ [message] }

def connectStep (state : State) (err : Option Error) (onClose : List ApiCall) : Option State :=
  if !state.running .connect then none
  else match err with
    | some _ => some ((close varint onClose state).leave .connect)
    | none => some state

def progress (state : State) : Event → Option State
  | .accept kind result onClose => acceptStep varint state kind result onClose
  | .header stream result => headerEvent varint state stream result
  | .timer stream => some { state with pool := state.pool.timer stream }
  | .receive stream => (state.pool.receive stream).map fun pool => { state with pool := pool }
  | .await kind => (state.pool.await (state.transport.channelField kind)).map fun pool =>
      { state with pool := pool }
  | .message result onClose => messageStep varint state result onClose
  | .connectRead _ err onClose => connectStep varint state err onClose
  | .call apiCall onClose => some (call varint onClose state apiCall).2
  | .setOnMessage isSet =>
      some { state with transport := { state.transport with onMessage := isSet } }
  | .setOnClose isSet =>
      some { state with transport := { state.transport with onClose := isSet } }

def callsClose (state : State) : Event → Bool
  | .accept kind (.error _) _ => state.running (.accept kind)
  | .message (.error _) _ => state.running .message
  | .connectRead _ (some _) _ => state.running .connect
  | .call (.close _ _) _ => state.transport.session.isSome
  | _ => false

def deliveredMessage (state : State) : Event → Option (List UInt8)
  | .message (.ok datagram) _ =>
      if state.running .message then messageFor varint state.transport datagram else none
  | _ => none

/-- The session id of the header this step completes, if the stream type is the right one. -/
def completedHeader (state : State) : Event → Option Nat
  | .header stream result => match state.pool.find stream with
      | none => none
      | some handler => match handler.phase with
          | .reading got => match headerStep varint handler.kind got result with
              | .header sessionId => some sessionId
              | _ => none
          | _ => none
  | _ => none

def callOutputs (sessionId : Nat) : ApiCall → List Output
  | .createStream (.ok id) => [.stream .bidi id (streamHeader varint .bidi sessionId)]
  | .createUniStream (.ok id) => [.stream .uni id (streamHeader varint .uni sessionId)]
  | .sendMessage message _ => [.datagram (varint.write sessionId ++ message)]
  | _ => []

def eventOutputs (state : State) : Event → List Output
  | .call apiCall _ =>
      if state.transport.session.isSome then callOutputs varint state.transport.sessionId apiCall
      else []
  | _ => []

def step (state : State) (event : Event) : Option State :=
  if state.nilCall || state.pool.crashed then none else progress varint state event

end WebTransportGos.Server
