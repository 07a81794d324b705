import WebTransportGos.Library.StepSystem
import WebTransportGos.Session.Lifetime
import WebTransportGos.Session.ServerTransport

/-!
The life of a server transport: open with every field set, then closed with every
field nil, with one step from the one to the other. `step_effect` says once what a step
can do; the invariant and what a step adds to the logs are read off it.
-/

namespace WebTransportGos.Server

open GoReader StepSystem

set_option autoImplicit false

structure Open (state : State) : Prop where
  session : state.transport.session ≠ none
  connectStream : state.transport.connectStream ≠ none
  settingsStream : state.transport.settingsStream ≠ none
  req : state.transport.req ≠ none
  stream : state.transport.stream = some .bidi
  receiveStream : state.transport.receiveStream = some .uni
  closed : state.transport.closed = false
  closes : ∀ kind, (state.pool.channels kind).closes = 0
  onCloseRuns : state.onCloseRuns = 0

structure Closed (state : State) : Prop where
  session : state.transport.session = none
  connectStream : state.transport.connectStream = none
  settingsStream : state.transport.settingsStream = none
  req : state.transport.req = none
  stream : state.transport.stream = none
  receiveStream : state.transport.receiveStream = none
  closed : state.transport.closed = true
  closes : ∀ kind, (state.pool.channels kind).closes = 1
  onCloseRuns : state.onCloseRuns ≤ 1

def WebTransport.cleared (transport : WebTransport) : WebTransport :=
  { transport with
    session := none, closed := true, connectStream := none, settingsStream := none, req := none,
    receiveStream := none, stream := none }

def State.cleared (state : State) : State :=
  { state with
    transport := state.transport.cleared
    pool := state.pool.closedBoth
    onCloseRuns := state.onCloseRuns + if state.transport.onClose then 1 else 0 }

@[simp] theorem channel_field_session_id (transport : WebTransport) (sessionId : Nat)
    (kind : StreamKind) :
    { transport with sessionId := sessionId }.channelField kind = transport.channelField kind := by
  cases kind <;> rfl

def State.life (state : State) : Life (Option H3.Request × Bool) where
  fields :=
    { session := state.transport.session
      connectStream := state.transport.connectStream
      settingsStream := state.transport.settingsStream
      stream := state.transport.stream
      receiveStream := state.transport.receiveStream
      own := (state.transport.req, state.transport.closed) }
  pool := state.pool
  onCloseRuns := state.onCloseRuns

section Life

variable {state next : State}

theorem Open.life (opened : Open state) : state.life.Opened :=
  ⟨opened.session, opened.connectStream, opened.settingsStream, opened.stream,
    opened.receiveStream, opened.closes⟩

theorem Closed.life (closed : Closed state) : state.life.Closed :=
  ⟨closed.session, closed.connectStream, closed.settingsStream, closed.stream,
    closed.receiveStream, closed.closes⟩

theorem Open.of_same (opened : Open state) (same : state.life.Same next.life) : Open next :=
  have after := same.opened opened.life
  have req : next.transport.req = state.transport.req := congrArg Prod.fst same.own
  ⟨after.session, after.connectStream, after.settingsStream, req ▸ opened.req, after.stream,
    after.receiveStream, (congrArg Prod.snd same.own).trans opened.closed, after.closes,
    same.onCloseRuns.trans opened.onCloseRuns⟩

theorem Closed.of_same (closed : Closed state) (same : state.life.Same next.life) : Closed next :=
  have after := same.closed closed.life
  ⟨after.session, after.connectStream, after.settingsStream,
    (congrArg Prod.fst same.own).trans closed.req, after.stream, after.receiveStream,
    (congrArg Prod.snd same.own).trans closed.closed, after.closes,
    same.onCloseRuns.trans_le closed.onCloseRuns⟩

end Life

section Calls

variable (varint : Quicvarint) {state : State}

/-- On a nil session every call returns an error and changes nothing. -/
theorem call_with_closed (closing : State → State) (closed : state.transport.session = none)
    (apiCall : ApiCall) :
    ∃ err, callWith varint closing state apiCall = (some err, state) := by
  cases apiCall with
  | createStream opened => exact ⟨_, by simp only [callWith, createStream, closed]; rfl⟩
  | createUniStream opened => exact ⟨_, by simp only [callWith, createStream, closed]; rfl⟩
  | sendMessage message sent => exact ⟨_, by simp only [callWith, sendMessage, closed]; rfl⟩
  | close code message => exact ⟨_, by simp only [callWith, closed]; rfl⟩

theorem calls_in_on_close_closed (closed : state.transport.session = none)
    (calls : List ApiCall) : callsInOnClose varint state calls = state := by
  induction calls with
  | nil => rfl
  | cons apiCall calls induction =>
      obtain ⟨err, returned⟩ := call_with_closed varint id closed apiCall
      simp only [callsInOnClose, List.foldl_cons, returned] at induction ⊢
      exact induction

theorem close_open (opened : Open state) (onClose : List ApiCall) :
    close varint onClose state = state.cleared := by
  obtain ⟨session, present⟩ := Option.ne_none_iff_exists'.mp opened.session
  have both := Pool.close_both (opened.closes .bidi) (opened.closes .uni)
  rw [close, if_neg (by simp [opened.closed]), present]
  simp only [opened.stream, opened.receiveStream]
  rcases first : state.pool.close (some .bidi) with _ | pool
  · simp [first] at both
  · rw [first, Option.bind_some] at both
    simp only [both]
    split
    next isSet =>
      rw [calls_in_on_close_closed varint rfl]
      simp [State.cleared, WebTransport.cleared, isSet]
    next notSet =>
      simp [State.cleared, WebTransport.cleared, notSet]

theorem close_closed (closed : state.transport.closed = true) (onClose : List ApiCall) :
    close varint onClose state = state := by
  rw [close, if_pos closed]

end Calls

theorem cleared_closed {state : State} (opened : Open state) : Closed state.cleared where
  session := rfl
  connectStream := rfl
  settingsStream := rfl
  req := rfl
  stream := rfl
  receiveStream := rfl
  closed := rfl
  closes kind := by simp [State.cleared, Pool.closedBoth, opened.closes kind]
  onCloseRuns := by
    simp only [State.cleared, opened.onCloseRuns]
    split <;> omega

section Step

variable {varint : Quicvarint} {state next : State} {event : Event}

theorem step_some : step varint state event = some next ↔
    state.nilCall = false ∧ state.pool.crashed = false ∧
      progress varint state event = some next := by
  unfold step
  cases state.nilCall <;> cases state.pool.crashed <;> simp

/-- The step hands nothing to `OnMessage` or to the QUIC session and completes no header. -/
structure Plain (varint : Quicvarint) (state : State) (event : Event) : Prop where
  message : deliveredMessage varint state event = none
  header : completedHeader varint state event = none
  outputs : eventOutputs varint state event = []

inductive Effect (varint : Quicvarint) (state : State) : Event → State → Prop where
  | closes {event : Event} (onClose : List ApiCall) (running : Loop → Bool)
      (called : callsClose state event = true) (plain : Plain varint state event) :
      Effect varint state event { close varint onClose state with running := running }
  | passes {event : Event} (running : Loop → Bool)
      (quiet : callsClose state event = false)
      (kept : state.transport.session ≠ none → running = state.running)
      (plain : Plain varint state event) :
      Effect varint state event { state with running := running }
  | nilCall {kind : StreamKind} {stream : StreamId} {onClose : List ApiCall}
      (opened : state.transport.session ≠ none)
      (cleared : state.transport.ownStream kind = none) :
      Effect varint state (.accept kind (.ok stream) onClose) { state with nilCall := true }
  | accepts {kind : StreamKind} {stream : StreamId} {onClose : List ApiCall}
      (fresh : state.pool.accepted stream = false)
      (opened : state.transport.session ≠ none) :
      Effect varint state (.accept kind (.ok stream) onClose)
        { state with pool := state.pool.accept kind stream }
  | reads {stream : StreamId} {result : ReadResult} {handler : Handler} {got more : List UInt8}
      (found : state.pool.find stream = some handler) (reading : handler.phase = .reading got)
      (stepped : headerStep varint handler.kind got result = .more more) :
      Effect varint state (.header stream result)
        { state with pool := state.pool.setPhase stream (.reading more) }
  | quits {stream : StreamId} {result : ReadResult} {handler : Handler} {got : List UInt8}
      (found : state.pool.find stream = some handler) (reading : handler.phase = .reading got)
      (stepped : headerStep varint handler.kind got result = .quit) :
      Effect varint state (.header stream result)
        { state with pool := state.pool.setPhase stream .returned }
  | header {stream : StreamId} {result : ReadResult} {handler : Handler} {got : List UInt8}
      {sessionId : Nat}
      (found : state.pool.find stream = some handler) (reading : handler.phase = .reading got)
      (stepped : headerStep varint handler.kind got result = .header sessionId) :
      Effect varint state (.header stream result)
        { state with
          transport := { state.transport with sessionId := sessionId }
          pool := state.pool.send (state.transport.channelField handler.kind) stream }
  | timer (stream : StreamId) :
      Effect varint state (.timer stream) { state with pool := state.pool.timer stream }
  | receives {stream : StreamId} {pool : Pool} (received : state.pool.receive stream = some pool) :
      Effect varint state (.receive stream) { state with pool := pool }
  | awaits {kind : StreamKind} {pool : Pool}
      (awaited : state.pool.await (state.transport.channelField kind) = some pool) :
      Effect varint state (.await kind) { state with pool := pool }
  | message {datagram message : List UInt8} {onClose : List ApiCall}
      (delivered : deliveredMessage varint state (.message (.ok datagram) onClose) =
        some message) :
      Effect varint state (.message (.ok datagram) onClose)
        { state with messages := state.messages ++ [message] }
  | outputs {apiCall : ApiCall} {onClose : List ApiCall}
      (quiet : callsClose state (.call apiCall onClose) = false) :
      Effect varint state (.call apiCall onClose)
        { state with outputs := state.outputs ++ eventOutputs varint state (.call apiCall onClose) }
  | setOnMessage (isSet : Bool) :
      Effect varint state (.setOnMessage isSet)
        { state with transport := { state.transport with onMessage := isSet } }
  | setOnClose (isSet : Bool) :
      Effect varint state (.setOnClose isSet)
        { state with transport := { state.transport with onClose := isSet } }

theorem accept_effect {kind : StreamKind} {result : Except Error StreamId}
    {onClose : List ApiCall} (taken : acceptStep varint state kind result onClose = some next) :
    Effect varint state (.accept kind result onClose) next := by
  unfold acceptStep at taken
  cases running : state.running (.accept kind) with
  | false => simp [running] at taken
  | true =>
      rw [running] at taken
      cases result with
      | error err =>
          cases taken
          exact .closes onClose _ running ⟨rfl, rfl, rfl⟩
      | ok stream =>
          cases fresh : state.pool.accepted stream with
          | true => simp [fresh] at taken
          | false =>
              rcases session : state.transport.session with _ | session
              · simp only [fresh, session] at taken
                cases taken
                exact .passes _ rfl (absurd session) ⟨rfl, rfl, rfl⟩
              · have opened : state.transport.session ≠ none := by simp [session]
                cases own : state.transport.ownStream kind with
                | none =>
                    simp only [fresh, session, own] at taken
                    cases taken
                    exact .nilCall opened own
                | some passed =>
                    by_cases same : stream = passed
                    · simp only [fresh, session, own, if_pos same] at taken
                      cases taken
                      exact .passes _ rfl (fun _ => rfl) ⟨rfl, rfl, rfl⟩
                    · simp only [fresh, session, own, if_neg same] at taken
                      cases taken
                      exact .accepts fresh opened

theorem header_effect {stream : StreamId} {result : ReadResult}
    (taken : headerEvent varint state stream result = some next) :
    Effect varint state (.header stream result) next := by
  unfold headerEvent at taken
  split at taken
  · cases taken
  next handler found =>
    split at taken
    next got reading =>
      split at taken
      next more stepped =>
        cases taken
        exact .reads found reading stepped
      next stepped =>
        cases taken
        exact .quits found reading stepped
      next sessionId stepped =>
        cases taken
        rw [channel_field_session_id]
        exact .header found reading stepped
    · cases taken

theorem message_effect {result : Except Error (List UInt8)} {onClose : List ApiCall}
    (taken : messageStep varint state result onClose = some next) :
    Effect varint state (.message result onClose) next := by
  unfold messageStep at taken
  cases running : state.running .message with
  | false => simp [running] at taken
  | true =>
      rw [running] at taken
      cases result with
      | error err =>
          cases taken
          exact .closes onClose _ running ⟨rfl, rfl, rfl⟩
      | ok datagram =>
          rcases delivered : messageFor varint state.transport datagram with _ | message
          · simp only [delivered] at taken
            cases taken
            exact .passes _ rfl (fun _ => rfl) ⟨by simp [deliveredMessage, delivered], rfl, rfl⟩
          · simp only [delivered] at taken
            cases taken
            exact .message (by simp [deliveredMessage, running, delivered])

theorem connect_effect {data : List UInt8} {err : Option Error} {onClose : List ApiCall}
    (taken : connectStep varint state err onClose = some next) :
    Effect varint state (.connectRead data err onClose) next := by
  unfold connectStep at taken
  cases running : state.running .connect with
  | false => simp [running] at taken
  | true =>
      rw [running] at taken
      cases err with
      | some err =>
          cases taken
          exact .closes onClose _ running ⟨rfl, rfl, rfl⟩
      | none =>
          cases taken
          exact .passes _ rfl (fun _ => rfl) ⟨rfl, rfl, rfl⟩

theorem call_outputs {apiCall : ApiCall} {onClose : List ApiCall}
    (opened : state.transport.session ≠ none)
    (quiet : callsClose state (.call apiCall onClose) = false) :
    (call varint onClose state apiCall).2 =
      { state with
        outputs := state.outputs ++ eventOutputs varint state (.call apiCall onClose) } := by
  obtain ⟨session, present⟩ := Option.ne_none_iff_exists'.mp opened
  cases apiCall with
  | close code message => simp [callsClose, present] at quiet
  | createStream opened =>
      cases opened <;> simp [call, callWith, createStream, present, eventOutputs, callOutputs]
  | createUniStream opened =>
      cases opened <;> simp [call, callWith, createStream, present, eventOutputs, callOutputs]
  | sendMessage message sent =>
      simp [call, callWith, sendMessage, present, eventOutputs, callOutputs]

theorem call_effect (apiCall : ApiCall) (onClose : List ApiCall) :
    Effect varint state (.call apiCall onClose) (call varint onClose state apiCall).2 := by
  cases session : state.transport.session with
  | none =>
      obtain ⟨err, returned⟩ :=
        call_with_closed varint (close varint onClose) session apiCall
      rw [call, returned]
      refine .passes _ ?_ (fun _ => rfl) ⟨rfl, rfl, by simp [eventOutputs, session]⟩
      cases apiCall <;> simp [callsClose, session]
  | some present =>
      cases closing : callsClose state (.call apiCall onClose) with
      | false =>
          rw [call_outputs (by simp [session]) closing]
          exact .outputs closing
      | true =>
          cases apiCall with
          | close code message =>
              have closed : (call varint onClose state (.close code message)).2 =
                  close varint onClose state := by simp only [call, callWith, session]
              rw [closed]
              exact .closes onClose _ closing ⟨rfl, rfl, by simp [eventOutputs, callOutputs]⟩
          | createStream opened => simp [callsClose] at closing
          | createUniStream opened => simp [callsClose] at closing
          | sendMessage message sent => simp [callsClose] at closing

theorem step_effect (taken : step varint state event = some next) :
    Effect varint state event next := by
  replace taken := (step_some.mp taken).2.2
  cases event with
  | accept kind result onClose => exact accept_effect taken
  | header stream result => exact header_effect taken
  | timer stream =>
      cases taken
      exact .timer stream
  | receive stream =>
      obtain ⟨pool, received, rfl⟩ := Option.map_eq_some_iff.mp taken
      exact .receives received
  | await kind =>
      obtain ⟨pool, awaited, rfl⟩ := Option.map_eq_some_iff.mp taken
      exact .awaits awaited
  | message result onClose => exact message_effect taken
  | connectRead data err onClose => exact connect_effect taken
  | call apiCall onClose =>
      cases taken
      exact call_effect apiCall onClose
  | setOnMessage isSet =>
      cases taken
      exact .setOnMessage isSet
  | setOnClose isSet =>
      cases taken
      exact .setOnClose isSet

end Step

section Handlers

variable {varint : Quicvarint} {state next : State} {event : Event}

def Event.pool : Event → Option Pool.Event
  | .accept kind (.ok stream) _ => some (.accept kind stream)
  | .header stream result => some (.header stream result)
  | .timer stream => some (.timer stream)
  | .receive stream => some (.receive stream)
  | .await kind => some (.await kind)
  | _ => none

theorem step_pool (taken : step varint state event = some next)
    (quiet : callsClose state event = false) :
    next.pool = state.pool ∨ ∃ poolEvent, event.pool = some poolEvent ∧
      state.pool.step varint state.transport.channelField poolEvent = some next.pool := by
  cases step_effect taken with
  | closes onClose running called plain => simp [called] at quiet
  | accepts fresh opened => exact .inr ⟨_, rfl, by simp [Pool.step, fresh]⟩
  | reads found reading stepped =>
      exact .inr ⟨_, rfl, by simp [Pool.step, Pool.readHeader, found, reading, stepped]⟩
  | quits found reading stepped =>
      exact .inr ⟨_, rfl, by simp [Pool.step, Pool.readHeader, found, reading, stepped]⟩
  | header found reading stepped =>
      exact .inr ⟨_, rfl, by simp [Pool.step, Pool.readHeader, found, reading, stepped]⟩
  | timer stream => exact .inr ⟨_, rfl, rfl⟩
  | receives received => exact .inr ⟨_, rfl, received⟩
  | awaits awaited => exact .inr ⟨_, rfl, awaited⟩
  | _ => exact .inl rfl

end Handlers

section Invariant

variable {varint : Quicvarint} {state next : State} {event : Event}

/-- What holds between any two steps. -/
structure Consistent (state : State) : Prop where
  life : Open state ∨ Closed state
  nilCall : state.nilCall = false

theorem create_open (session : SessionRef) (req : H3.Request)
    (connectStream settingsStream : StreamId) :
    Open (createWebTransport session req connectStream settingsStream) where
  session := Option.some_ne_none session
  connectStream := Option.some_ne_none connectStream
  settingsStream := Option.some_ne_none settingsStream
  req := Option.some_ne_none req
  stream := rfl
  receiveStream := rfl
  closed := rfl
  closes _ := rfl
  onCloseRuns := rfl

theorem create_consistent (session : SessionRef) (req : H3.Request)
    (connectStream settingsStream : StreamId) :
    Consistent (createWebTransport session req connectStream settingsStream) :=
  ⟨.inl (create_open session req connectStream settingsStream), rfl⟩

theorem Open.not_closed (opened : Open state) : ¬ Closed state :=
  fun closed => opened.session closed.session

theorem Open.own_stream (opened : Open state) (kind : StreamKind) :
    state.transport.ownStream kind ≠ none := opened.life.own_stream kind

theorem Consistent.unclosed (consistent : Consistent state) (kind address : StreamKind)
    (refers : state.transport.channelField kind = some address) :
    (state.pool.channels address).closes = 0 :=
  Life.unclosed (consistent.life.imp Open.life Closed.life) kind address refers

theorem close_cases (varint : Quicvarint) (consistent : Consistent state) (onClose : List ApiCall) :
    (Open state ∧ close varint onClose state = state.cleared) ∨
      (Closed state ∧ close varint onClose state = state) := by
  cases consistent.life with
  | inl opened => exact .inl ⟨opened, close_open varint opened onClose⟩
  | inr closed => exact .inr ⟨closed, close_closed varint closed.closed onClose⟩

theorem close_nil_call (varint : Quicvarint) (consistent : Consistent state)
    (onClose : List ApiCall) : (close varint onClose state).nilCall = false := by
  rcases close_cases varint consistent onClose with ⟨_, same⟩ | ⟨_, same⟩ <;> rw [same]
  · exact consistent.nilCall
  · exact consistent.nilCall

theorem close_is_closed (varint : Quicvarint) (consistent : Consistent state)
    (onClose : List ApiCall) : Closed (close varint onClose state) := by
  rcases close_cases varint consistent onClose with ⟨opened, same⟩ | ⟨closed, same⟩ <;>
    rw [same]
  · exact cleared_closed opened
  · exact closed

theorem step_kept (taken : step varint state event = some next)
    (quiet : callsClose state event = false) : state.life.Same next.life := by
  cases step_effect taken with
  | closes onClose running called plain => simp [called] at quiet
  | passes running _ kept plain => exact ⟨rfl, fun _ => rfl, rfl⟩
  | nilCall opened cleared => exact ⟨rfl, fun _ => rfl, rfl⟩
  | accepts fresh opened => exact ⟨rfl, fun _ => rfl, rfl⟩
  | reads found reading stepped => exact ⟨rfl, fun _ => rfl, rfl⟩
  | quits found reading stepped => exact ⟨rfl, fun _ => rfl, rfl⟩
  | header found reading stepped => exact ⟨rfl, Pool.closes_send, rfl⟩
  | timer stream => exact ⟨rfl, fun _ => rfl, rfl⟩
  | receives received => exact ⟨rfl, Pool.closes_receive received, rfl⟩
  | awaits awaited => exact ⟨rfl, (Pool.await_some awaited).2.2, rfl⟩
  | message delivered => exact ⟨rfl, fun _ => rfl, rfl⟩
  | outputs _ => exact ⟨rfl, fun _ => rfl, rfl⟩
  | setOnMessage isSet => exact ⟨rfl, fun _ => rfl, rfl⟩
  | setOnClose isSet => exact ⟨rfl, fun _ => rfl, rfl⟩

theorem step_closes (taken : step varint state event = some next)
    (called : callsClose state event = true) :
    ∃ onClose running, next = { close varint onClose state with running := running } := by
  cases step_effect taken with
  | closes onClose running _ plain => exact ⟨onClose, running, rfl⟩
  | passes running quiet kept plain => simp [called] at quiet
  | outputs quiet => simp [called] at quiet
  | _ => simp [callsClose] at called

theorem step_closed_of_close (consistent : Consistent state)
    (taken : step varint state event = some next) (called : callsClose state event = true) :
    Closed next := by
  obtain ⟨onClose, running, rfl⟩ := step_closes taken called
  exact (close_is_closed varint consistent onClose).of_same ⟨rfl, fun _ => rfl, rfl⟩

theorem step_phased (consistent : Consistent state) (taken : step varint state event = some next) :
    Phased Open Closed (callsClose state event) state next where
  ending := step_closed_of_close consistent taken
  staying quiet :=
    have same := step_kept taken quiet
    ⟨fun opened => opened.of_same same, fun closed => closed.of_same same⟩

/-- No loop of an open transport meets a nil field, and a closed one does not get there. -/
theorem step_nil_call (consistent : Consistent state)
    (taken : step varint state event = some next) : next.nilCall = false := by
  cases step_effect taken with
  | closes onClose running called plain => exact close_nil_call varint consistent onClose
  | @nilCall kind stream onClose opened cleared =>
      cases consistent.life with
      | inl isOpen => exact absurd cleared (isOpen.own_stream kind)
      | inr isClosed => exact absurd isClosed.session opened
  | _ => exact consistent.nilCall

theorem step_running (opened : Open state) (taken : step varint state event = some next)
    (quiet : callsClose state event = false) : next.running = state.running := by
  cases step_effect taken with
  | closes onClose running called plain => simp [called] at quiet
  | passes running _ kept plain => exact kept opened.session
  | _ => rfl

theorem step_consistent (consistent : Consistent state)
    (taken : step varint state event = some next) : Consistent next :=
  ⟨(step_phased consistent taken).either_stays consistent.life, step_nil_call consistent taken⟩

theorem step_closed (consistent : Consistent state) (closed : Closed state)
    (taken : step varint state event = some next) : Closed next :=
  (step_phased consistent taken).second_stays closed

end Invariant

section Logs

variable {varint : Quicvarint} {state next : State} {event : Event}

theorem close_logs (varint : Quicvarint) (consistent : Consistent state) (onClose : List ApiCall) :
    (close varint onClose state).messages = state.messages ∧
      (close varint onClose state).outputs = state.outputs ∧
      (close varint onClose state).transport.sessionId = state.transport.sessionId := by
  rcases close_cases varint consistent onClose with ⟨_, same⟩ | ⟨_, same⟩ <;> rw [same]
  · exact ⟨rfl, rfl, rfl⟩
  · exact ⟨rfl, rfl, rfl⟩

theorem step_messages (consistent : Consistent state)
    (taken : step varint state event = some next) :
    next.messages = state.messages ++ (deliveredMessage varint state event).toList := by
  cases step_effect taken with
  | closes onClose running called plain =>
      rw [plain.message, Option.toList_none, List.append_nil]
      exact (close_logs varint consistent onClose).1
  | passes running quiet kept plain => simp [plain.message]
  | message delivered => simp [delivered]
  | _ => simp [deliveredMessage]

theorem step_session_id (consistent : Consistent state)
    (taken : step varint state event = some next) :
    next.transport.sessionId =
      (completedHeader varint state event).getD state.transport.sessionId := by
  cases step_effect taken with
  | closes onClose running called plain =>
      rw [plain.header]
      exact (close_logs varint consistent onClose).2.2
  | passes running quiet kept plain => simp [plain.header]
  | reads found reading stepped => simp [completedHeader, found, reading, stepped]
  | quits found reading stepped => simp [completedHeader, found, reading, stepped]
  | header found reading stepped => simp [completedHeader, found, reading, stepped]
  | _ => simp [completedHeader]

theorem step_outputs (consistent : Consistent state)
    (taken : step varint state event = some next) :
    next.outputs = state.outputs ++ eventOutputs varint state event := by
  cases step_effect taken with
  | closes onClose running called plain =>
      rw [plain.outputs, List.append_nil]
      exact (close_logs varint consistent onClose).2.1
  | passes running quiet kept plain => simp [plain.outputs]
  | outputs quiet => rfl
  | _ => simp [eventOutputs]

end Logs

end WebTransportGos.Server
