import WebTransportGos.Library.StepSystem
import WebTransportGos.Session.Lifetime
import WebTransportGos.Session.ClientSession

/-!
The life of a connected client: open with every field set, then closed with every field
nil. In between nothing but `close` touches those fields. The loops use the fields without
a test, so a step may end the process; `step_fault` says exactly when.
-/

namespace WebTransportGos.Client

open GoReader GoText StepSystem

set_option autoImplicit false

structure Open (state : State) : Prop where
  connected : state.client.connected = true
  session : state.client.session ≠ none
  connectStream : state.client.connectStream ≠ none
  settingsStream : state.client.settingsStream ≠ none
  stream : state.client.stream = some .bidi
  receiveStream : state.client.receiveStream = some .uni
  closes : ∀ kind, (state.pool.channels kind).closes = 0

structure Closed (state : State) : Prop where
  connected : state.client.connected = false
  session : state.client.session = none
  connectStream : state.client.connectStream = none
  settingsStream : state.client.settingsStream = none
  stream : state.client.stream = none
  receiveStream : state.client.receiveStream = none
  closes : ∀ kind, (state.pool.channels kind).closes = 1

def WebTransportClient.cleared (client : WebTransportClient) : WebTransportClient :=
  { client with
    session := none, connectStream := none, settingsStream := none, receiveStream := none,
    stream := none, connected := false }

def closesInOnClose (state : State) (onClose : List ApiCall) : Bool :=
  state.client.onClose && onClose.any ApiCall.isClose

def State.cleared (state : State) (onClose : List ApiCall) : State :=
  { state with
    client := state.client.cleared
    pool := state.pool.closedBoth
    onCloseRuns := state.onCloseRuns + if state.client.onClose then 1 else 0
    fault := if closesInOnClose state onClose then some .nilCall else none }

def WebTransportClient.fields (client : WebTransportClient) : Fields Bool where
  session := client.session
  connectStream := client.connectStream
  settingsStream := client.settingsStream
  stream := client.stream
  receiveStream := client.receiveStream
  own := client.connected

def State.life (state : State) : Life Bool := ⟨state.client.fields, state.pool, state.onCloseRuns⟩

section Life

variable {state next : State}

theorem Open.life (opened : Open state) : state.life.Opened :=
  ⟨opened.session, opened.connectStream, opened.settingsStream, opened.stream,
    opened.receiveStream, opened.closes⟩

theorem Closed.life (closed : Closed state) : state.life.Closed :=
  ⟨closed.session, closed.connectStream, closed.settingsStream, closed.stream,
    closed.receiveStream, closed.closes⟩

theorem Open.of_same (opened : Open state) (same : state.life.Same next.life) : Open next :=
  have after := same.opened opened.life
  ⟨same.own.trans opened.connected, after.session, after.connectStream, after.settingsStream,
    after.stream, after.receiveStream, after.closes⟩

theorem Closed.of_same (closed : Closed state) (same : state.life.Same next.life) : Closed next :=
  have after := same.closed closed.life
  ⟨same.own.trans closed.connected, after.session, after.connectStream, after.settingsStream,
    after.stream, after.receiveStream, after.closes⟩

end Life

section Closing

variable (varint : Quicvarint) {state : State}

/-- On a cleared client a call returns an error, except `Close`, which uses the nil stream. -/
theorem call_cleared (closing : State → State) (disconnected : state.client.connected = false)
    (cleared : state.client.connectStream = none) (apiCall : ApiCall) :
    (callWith varint closing state apiCall).2 =
      if apiCall.isClose then state.nilCall else state := by
  cases apiCall with
  | close code message closed => simp [callWith, closeWith, disconnected, cleared, ApiCall.isClose]
  | createStream opened => simp [callWith, createStream, disconnected, ApiCall.isClose]
  | createUniStream opened => simp [callWith, createStream, disconnected, ApiCall.isClose]
  | sendMessage message sent => simp [callWith, sendMessage, disconnected, ApiCall.isClose]

theorem calls_after_fault (faulted : state.fault ≠ none) (calls : List ApiCall) :
    callsInOnClose varint state calls = state := by
  induction calls with
  | nil => rfl
  | cons apiCall calls induction =>
      simp only [callsInOnClose, List.foldl_cons] at induction ⊢
      rw [if_pos (Option.isSome_iff_ne_none.mpr faulted)]
      exact induction

theorem calls_in_on_close_cleared (disconnected : state.client.connected = false)
    (cleared : state.client.connectStream = none) (quiet : state.fault = none)
    (calls : List ApiCall) :
    callsInOnClose varint state calls =
      { state with fault := if calls.any ApiCall.isClose then some .nilCall else none } := by
  induction calls with
  | nil => simp [callsInOnClose, ← quiet]
  | cons apiCall calls induction =>
      have first : callsInOnClose varint state (apiCall :: calls) =
          callsInOnClose varint (if apiCall.isClose then state.nilCall else state) calls := by
        simp only [callsInOnClose, List.foldl_cons]
        rw [if_neg (by simp [quiet]), call_cleared varint id disconnected cleared]
      rw [first]
      cases closing : apiCall.isClose with
      | true =>
          rw [if_pos rfl, calls_after_fault varint (by simp [State.nilCall])]
          simp [State.nilCall, closing]
      | false => simp [induction, closing]

theorem close_open (opened : Open state) (quiet : state.fault = none) (onClose : List ApiCall) :
    close varint onClose state = state.cleared onClose := by
  obtain ⟨session, present⟩ := Option.ne_none_iff_exists'.mp opened.session
  have both := Pool.close_both (opened.closes .bidi) (opened.closes .uni)
  rw [close, present]
  simp only [opened.stream, opened.receiveStream]
  cases first : state.pool.close (some .bidi) with
  | none => simp [first] at both
  | some pool =>
      rw [first, Option.bind_some] at both
      simp only [both]
      cases isSet : state.client.onClose with
      | true =>
          rw [if_pos rfl, calls_in_on_close_cleared varint]
          · simp [State.cleared, WebTransportClient.cleared, closesInOnClose, isSet]
          · rfl
          · rfl
          · exact quiet
      | false =>
          simp [State.cleared, WebTransportClient.cleared, closesInOnClose, isSet, quiet]

theorem close_closed (closed : state.client.session = none) (onClose : List ApiCall) :
    close varint onClose state = state := by
  rw [close, closed]

theorem cleared_closed (opened : Open state) (onClose : List ApiCall) :
    Closed (state.cleared onClose) where
  connected := rfl
  session := rfl
  connectStream := rfl
  settingsStream := rfl
  stream := rfl
  receiveStream := rfl
  closes kind := by simp [State.cleared, Pool.closedBoth, opened.closes kind]

end Closing

/-- The events in which the client's `close` is called. -/
def callsClose (state : State) : Event → Bool
  | .message (.error _) _ => true
  | .connectRead _ (some _) _ => true
  | .call (.close _ _ _) _ =>
      !state.client.connected && state.client.connectStream.isSome && state.client.session.isSome
  | _ => false

def Event.onCloseCalls : Event → List ApiCall
  | .message _ onClose => onClose
  | .connectRead _ _ onClose => onClose
  | .call _ onClose => onClose
  | _ => []

def Event.reportsError : Event → Bool
  | .accept _ (.error _) => true
  | .message (.error _) _ => true
  | .connectRead _ (some _) _ => true
  | _ => false

/-- What the event is to the handlers. -/
def Event.pool : Event → Option Pool.Event
  | .accept kind (.ok stream) => some (.accept kind stream)
  | .header stream result => some (.header stream result)
  | .receive stream => some (.receive stream)
  | .await kind => some (.await kind)
  | _ => none

def deliveredMessage (state : State) : Event → Option (List UInt8)
  | .message (.ok datagram) _ => messageFor state.client datagram
  | _ => none

section Step

variable {varint : Quicvarint} {state next : State} {event : Event}

theorem step_some : step varint state event = some next ↔
    state.fault = none ∧ state.pool.crashed = false ∧
      progress varint state event = some next := by
  unfold step
  cases state.fault <;> cases state.pool.crashed <;> simp

/-- At most one loop has come round to its blocking call. -/
def Rounds (state : State) (loops : Loop → LoopPhase) : Prop :=
  loops = state.loops ∨ ∃ loop, loops = Function.update state.loops loop .blocked

/-- Everything a step can do. Coming round to a blocking call may end in a fault. -/
inductive Effect (varint : Quicvarint) (state : State) : Event → State → Prop where
  | closes {event : Event} (loop : Loop) (reported : event.reportsError = true)
      (called : callsClose state event = true) (silent : deliveredMessage state event = none) :
      Effect varint state event ((close varint event.onCloseCalls state).leave loop)
  | passes {event : Event} (loops : Loop → LoopPhase) (fault : Option Fault)
      (quiet : callsClose state event = false) (silent : deliveredMessage state event = none)
      (rounds : Rounds state loops) :
      Effect varint state event { state with loops := loops, fault := fault }
  | accepts {kind : StreamKind} {stream : StreamId} (loops : Loop → LoopPhase)
      (fault : Option Fault) (fresh : state.pool.accepted stream = false)
      (rounds : Rounds state loops) :
      Effect varint state (.accept kind (.ok stream))
        { state with pool := state.pool.accept kind stream, loops := loops, fault := fault }
  | reads {stream : StreamId} {result : ReadResult} {pool : Pool}
      (read : state.pool.readHeader varint state.client.channelField stream result = some pool) :
      Effect varint state (.header stream result) { state with pool := pool }
  | receives {stream : StreamId} {pool : Pool} (received : state.pool.receive stream = some pool) :
      Effect varint state (.receive stream) { state with pool := pool }
  | awaits {kind : StreamKind} {pool : Pool}
      (awaited : state.pool.await (state.client.channelField kind) = some pool) :
      Effect varint state (.await kind) { state with pool := pool }
  | message {datagram : List UInt8} {onClose : List ApiCall} (loops : Loop → LoopPhase)
      (fault : Option Fault) (rounds : Rounds state loops) :
      Effect varint state (.message (.ok datagram) onClose)
        { state with
          messages := state.messages ++ (messageFor state.client datagram).toList
          loops := loops
          fault := fault }
  | calls {apiCall : ApiCall} {onClose : List ApiCall} (outputs : List Output)
      (fault : Option Fault) (quiet : callsClose state (.call apiCall onClose) = false) :
      Effect varint state (.call apiCall onClose)
        { state with outputs := outputs, fault := fault }
  | setOnMessage (isSet : Bool) :
      Effect varint state (.setOnMessage isSet)
        { state with client := { state.client with onMessage := isSet } }
  | setOnClose (isSet : Bool) :
      Effect varint state (.setOnClose isSet)
        { state with client := { state.client with onClose := isSet } }

theorem block_fault (quiet : state.fault = none) (loop : Loop) :
    (state.block loop).fault = none ↔ state.client.callee loop ≠ none := by
  unfold State.block
  split
  next cleared => simp [State.nilCall, cleared]
  next present => simp [quiet, present]

/-- Coming round to a blocking call changes the loop's phase or ends the process. -/
theorem block_eq (state : State) (loop : Loop) :
    ∃ loops fault, Rounds state loops ∧
      state.block loop = { state with loops := loops, fault := fault } := by
  unfold State.block
  split
  · exact ⟨_, _, .inl rfl, rfl⟩
  · exact ⟨_, _, .inr ⟨loop, rfl⟩, rfl⟩

theorem accept_effect {kind : StreamKind} {result : Except Error StreamId}
    (taken : acceptStep state kind result = some next) :
    Effect varint state (.accept kind result) next := by
  unfold acceptStep at taken
  split at taken
  · cases taken
  · cases result with
    | error err =>
        cases taken
        exact .passes _ _ rfl rfl (.inl rfl)
    | ok stream =>
        cases fresh : state.pool.accepted stream with
        | true => simp [fresh] at taken
        | false =>
            simp only [fresh] at taken
            split at taken
            next impossible => cases impossible
            split at taken
            · cases taken
              exact .passes _ _ rfl rfl (.inl rfl)
            · split at taken <;> cases taken
              · obtain ⟨loops, fault, rounds, same⟩ := block_eq state (.accept kind)
                rw [same]
                exact .passes _ _ rfl rfl rounds
              · obtain ⟨loops, fault, rounds, same⟩ := block_eq
                  { state with pool := state.pool.accept kind stream } (.accept kind)
                rw [same]
                exact .accepts _ _ fresh rounds

theorem message_effect {result : Except Error (List UInt8)} {onClose : List ApiCall}
    (taken : messageStep varint state result onClose = some next) :
    Effect varint state (.message result onClose) next := by
  unfold messageStep at taken
  split at taken
  · cases taken
  · cases result with
    | error err =>
        cases taken
        exact .closes .message rfl rfl rfl
    | ok datagram =>
        cases taken
        obtain ⟨loops, fault, rounds, same⟩ := block_eq { state with
          messages := state.messages ++ (messageFor state.client datagram).toList } .message
        rw [same]
        exact .message _ _ rounds

theorem connect_effect {data : List UInt8} {err : Option Error} {onClose : List ApiCall}
    (taken : connectStep varint state err onClose = some next) :
    Effect varint state (.connectRead data err onClose) next := by
  unfold connectStep at taken
  split at taken
  · cases taken
  · cases err with
    | some err =>
        cases taken
        exact .closes .connect rfl rfl rfl
    | none =>
        cases taken
        obtain ⟨loops, fault, rounds, same⟩ := block_eq state .connect
        rw [same]
        exact .passes _ _ rfl rfl rounds

theorem create_stream_eq (kind : StreamKind) (opened : Except Error StreamId) (state : State) :
    ∃ outputs fault, (createStream varint kind opened state).2 =
      { state with outputs := outputs, fault := fault } := by
  unfold createStream
  split
  · split
    · exact ⟨_, _, rfl⟩
    · cases opened with
      | error err => exact ⟨_, _, rfl⟩
      | ok id => exact ⟨_, _, rfl⟩
  · exact ⟨_, _, rfl⟩

theorem call_effect {apiCall : ApiCall} {onClose : List ApiCall}
    (quiet : callsClose state (.call apiCall onClose) = false) :
    Effect varint state (.call apiCall onClose) (call varint onClose state apiCall).2 := by
  have shape : ∃ outputs fault, (call varint onClose state apiCall).2 =
      { state with outputs := outputs, fault := fault } := by
    cases apiCall with
    | createStream opened => exact create_stream_eq .bidi opened state
    | createUniStream opened => exact create_stream_eq .uni opened state
    | sendMessage message sent =>
        simp only [call, callWith, sendMessage]
        split
        · split
          · exact ⟨_, _, rfl⟩
          · exact ⟨_, _, rfl⟩
        · exact ⟨_, _, rfl⟩
    | close code message closed =>
        simp only [call, callWith, closeWith]
        split
        next disconnected =>
          split
          · exact ⟨_, _, rfl⟩
          next present =>
            split
            · exact ⟨_, _, rfl⟩
            next session =>
              rw [Bool.not_eq_true'] at disconnected
              simp [callsClose, present, session, disconnected] at quiet
        · exact ⟨_, _, rfl⟩
  obtain ⟨outputs, fault, same⟩ := shape
  rw [same]
  exact .calls outputs fault quiet

end Step

section Invariant

variable {varint : Quicvarint} {state next : State} {event : Event}

def Consistent (state : State) : Prop := Open state ∨ Closed state

theorem Open.callee (opened : Open state) (loop : Loop) : state.client.callee loop ≠ none := by
  cases loop with
  | accept kind => exact opened.session
  | message => exact opened.session
  | connect => exact opened.connectStream

theorem Closed.callee (closed : Closed state) (loop : Loop) : state.client.callee loop = none := by
  cases loop with
  | accept kind => exact closed.session
  | message => exact closed.session
  | connect => exact closed.connectStream

theorem Open.own_stream (opened : Open state) (kind : StreamKind) :
    state.client.ownStream kind ≠ none := opened.life.own_stream kind

theorem Closed.own_stream (closed : Closed state) (kind : StreamKind) :
    state.client.ownStream kind = none := closed.life.own_stream kind

theorem Consistent.call_quiet (consistent : Consistent state) (apiCall : ApiCall)
    (onClose : List ApiCall) : callsClose state (.call apiCall onClose) = false := by
  cases apiCall with
  | close code message closed =>
      cases consistent with
      | inl opened => simp [callsClose, opened.connected]
      | inr closed => simp [callsClose, closed.connectStream]
  | _ => rfl

theorem step_effect_quiet
    (calls : ∀ apiCall onClose, event = .call apiCall onClose → callsClose state event = false)
    (taken : step varint state event = some next) : Effect varint state event next := by
  replace taken := (step_some.mp taken).2.2
  cases event with
  | start loop =>
      simp only [progress, startStep] at taken
      split at taken <;> cases taken
      obtain ⟨loops, fault, rounds, same⟩ := block_eq state loop
      rw [same]
      exact .passes _ _ rfl rfl rounds
  | accept kind result => exact accept_effect taken
  | header stream result =>
      obtain ⟨pool, read, rfl⟩ := Option.map_eq_some_iff.mp taken
      exact .reads read
  | receive stream =>
      obtain ⟨pool, received, rfl⟩ := Option.map_eq_some_iff.mp taken
      exact .receives received
  | await kind =>
      obtain ⟨pool, awaited, rfl⟩ := Option.map_eq_some_iff.mp taken
      exact .awaits awaited
  | message result onClose => exact message_effect taken
  | connectRead data err onClose => exact connect_effect taken
  | call apiCall onClose =>
      cases taken
      exact call_effect (calls apiCall onClose rfl)
  | setOnMessage isSet =>
      cases taken
      exact .setOnMessage isSet
  | setOnClose isSet =>
      cases taken
      exact .setOnClose isSet

/-- A connected client's `Close` does nothing, a closed one's does not get to `close`: only
the loops call it. -/
theorem step_effect (consistent : Consistent state)
    (taken : step varint state event = some next) : Effect varint state event next := by
  apply step_effect_quiet _ taken
  rintro apiCall onClose rfl
  exact consistent.call_quiet apiCall onClose

theorem step_closes (consistent : Consistent state) (taken : step varint state event = some next)
    (called : callsClose state event = true) :
    ∃ loop, next = (close varint event.onCloseCalls state).leave loop := by
  cases step_effect consistent taken with
  | closes loop reported _ silent => exact ⟨loop, rfl⟩
  | passes loops fault quiet silent rounds => simp [called] at quiet
  | calls outputs fault quiet => simp [called] at quiet
  | _ => simp [callsClose] at called

theorem step_kept (consistent : Consistent state) (taken : step varint state event = some next)
    (quiet : callsClose state event = false) : state.life.Same next.life := by
  cases step_effect consistent taken with
  | closes loop reported called silent => simp [called] at quiet
  | passes loops fault _ silent rounds => exact ⟨rfl, fun _ => rfl, rfl⟩
  | accepts loops fault fresh rounds => exact ⟨rfl, fun _ => rfl, rfl⟩
  | reads read => exact ⟨rfl, Pool.closes_read_header read, rfl⟩
  | receives received => exact ⟨rfl, Pool.closes_receive received, rfl⟩
  | awaits awaited => exact ⟨rfl, (Pool.await_some awaited).2.2, rfl⟩
  | message loops fault rounds => exact ⟨rfl, fun _ => rfl, rfl⟩
  | calls outputs fault _ => exact ⟨rfl, fun _ => rfl, rfl⟩
  | setOnMessage isSet => exact ⟨rfl, fun _ => rfl, rfl⟩
  | setOnClose isSet => exact ⟨rfl, fun _ => rfl, rfl⟩

/-- A step that does not close is a step of the handlers or nothing to them. -/
theorem step_pool (consistent : Consistent state) (taken : step varint state event = some next)
    (quiet : callsClose state event = false) :
    next.pool = state.pool ∨ ∃ poolEvent, event.pool = some poolEvent ∧
      state.pool.step varint state.client.channelField poolEvent = some next.pool := by
  cases step_effect consistent taken with
  | closes loop reported called silent => simp [called] at quiet
  | accepts loops fault fresh rounds => exact .inr ⟨_, rfl, by simp [Pool.step, fresh]⟩
  | reads read => exact .inr ⟨_, rfl, read⟩
  | receives received => exact .inr ⟨_, rfl, received⟩
  | awaits awaited => exact .inr ⟨_, rfl, awaited⟩
  | _ => exact .inl rfl

theorem Consistent.unclosed (consistent : Consistent state) (kind address : StreamKind)
    (refers : state.client.channelField kind = some address) :
    (state.pool.channels address).closes = 0 :=
  Life.unclosed (consistent.imp Open.life Closed.life) kind address refers

theorem close_is_closed (varint : Quicvarint) (consistent : Consistent state)
    (quiet : state.fault = none) (onClose : List ApiCall) : Closed (close varint onClose state) := by
  cases consistent with
  | inl opened =>
      rw [close_open varint opened quiet]
      exact cleared_closed opened onClose
  | inr closed =>
      rw [close_closed varint closed.session]
      exact closed

theorem step_closed_of_close (consistent : Consistent state)
    (taken : step varint state event = some next) (called : callsClose state event = true) :
    Closed next := by
  obtain ⟨loop, rfl⟩ := step_closes consistent taken called
  have quiet := (step_some.mp taken).1
  exact (close_is_closed varint consistent quiet _).of_same ⟨rfl, fun _ => rfl, rfl⟩

theorem step_phased (consistent : Consistent state) (taken : step varint state event = some next) :
    Phased Open Closed (callsClose state event) state next where
  ending := step_closed_of_close consistent taken
  staying quiet :=
    have same := step_kept consistent taken quiet
    ⟨fun opened => opened.of_same same, fun closed => closed.of_same same⟩

/-- While nothing closes, a loop stays where it is or comes round to its blocking call. -/
theorem step_rounds (consistent : Consistent state) (taken : step varint state event = some next)
    (quiet : callsClose state event = false) : Rounds state next.loops := by
  cases step_effect consistent taken with
  | closes loop reported called silent => simp [called] at quiet
  | passes loops fault _ silent rounds => exact rounds
  | accepts loops fault fresh rounds => exact rounds
  | message loops fault rounds => exact rounds
  | _ => exact .inl rfl

theorem step_consistent (consistent : Consistent state)
    (taken : step varint state event = some next) : Consistent next :=
  (step_phased consistent taken).either_stays consistent

theorem close_logs (varint : Quicvarint) (consistent : Consistent state)
    (quiet : state.fault = none) (onClose : List ApiCall) :
    (close varint onClose state).messages = state.messages ∧
      (close varint onClose state).outputs = state.outputs ∧
      (close varint onClose state).client.sessionId = state.client.sessionId := by
  cases consistent with
  | inl opened =>
      rw [close_open varint opened quiet]
      exact ⟨rfl, rfl, rfl⟩
  | inr closed =>
      rw [close_closed varint closed.session]
      exact ⟨rfl, rfl, rfl⟩

def callOutputs (varint : Quicvarint) (sessionId : Nat) : ApiCall → List Output
  | .createStream (.ok id) => [.stream .bidi id (streamHeader varint .bidi sessionId)]
  | .createUniStream (.ok id) => [.stream .uni id (streamHeader varint .uni sessionId)]
  | .sendMessage message _ => [.datagram (varint.write sessionId ++ message)]
  | _ => []

theorem call_outputs (consistent : Consistent state) {apiCall : ApiCall} {onClose : List ApiCall} :
    (call varint onClose state apiCall).2.outputs = state.outputs ++
      if state.client.connected then callOutputs varint state.client.sessionId apiCall else [] := by
  cases consistent with
  | inr closed =>
      rw [call, call_cleared varint _ closed.connected closed.connectStream, closed.connected]
      split <;> simp [State.nilCall]
  | inl opened =>
      obtain ⟨session, present⟩ := Option.ne_none_iff_exists'.mp opened.session
      rw [opened.connected, if_pos rfl]
      cases apiCall with
      | createStream result =>
          cases result <;>
            simp [call, callWith, createStream, opened.connected, present, callOutputs]
      | createUniStream result =>
          cases result <;>
            simp [call, callWith, createStream, opened.connected, present, callOutputs]
      | sendMessage message sent =>
          simp [call, callWith, sendMessage, opened.connected, present, callOutputs]
      | close code message closed =>
          simp [call, callWith, closeWith, opened.connected, callOutputs]

def eventOutputs (varint : Quicvarint) (state : State) : Event → List Output
  | .call apiCall _ =>
      if state.client.connected then callOutputs varint state.client.sessionId apiCall else []
  | _ => []

theorem step_outputs (consistent : Consistent state)
    (taken : step varint state event = some next) :
    next.outputs = state.outputs ++ eventOutputs varint state event := by
  obtain ⟨quiet, -, progressed⟩ := step_some.mp taken
  cases event with
  | call apiCall onClose =>
      cases progressed
      exact call_outputs consistent
  | _ =>
      simp only [eventOutputs, List.append_nil]
      cases step_effect consistent taken with
      | closes loop reported called silent => exact (close_logs varint consistent quiet _).2.1
      | _ => rfl

theorem step_session_id (consistent : Consistent state)
    (taken : step varint state event = some next) :
    next.client.sessionId = state.client.sessionId := by
  have quiet := (step_some.mp taken).1
  cases step_effect consistent taken with
  | closes loop reported called silent => exact (close_logs varint consistent quiet _).2.2
  | _ => rfl

end Invariant

end WebTransportGos.Client
