import WebTransportGos.Session.ServerRuns
import WebTransportGos.Session.ClientRuns

/-!
Closing against the stream handlers, on both sides. `close` closes the two channels while
handlers may be blocked in a send on them, and no handler recovers from the panic this
gives. Behind the close the channel fields are nil, so that later sends block instead.
-/

namespace WebTransportGos

open StepSystem

set_option autoImplicit false

namespace Server

section

variable {varint : Quicvarint} {state next : State} {event : Event}

/-- No handler is in a send on a closed channel. -/
def NoSendOnClosed (_ : State) (_ : Event) (next : State) : Prop := next.pool.crashed = false

/-- An open transport is closed only while no handler is blocked in a send. -/
def ClosesIdle (state : State) (event : Event) (_ : State) : Prop :=
  callsClose state event = true → state.transport.closed = false →
    state.pool.someSending = false

theorem no_send_on_closed_iff (consistent : Consistent state)
    (taken : step varint state event = some next) :
    NoSendOnClosed state event next ↔ ClosesIdle state event next := by
  have quiet := (step_some.mp taken).2.1
  unfold NoSendOnClosed ClosesIdle
  cases closing : callsClose state event with
  | false =>
      simp only [Bool.false_eq_true, false_implies, iff_true]
      rcases step_pool taken closing with same | ⟨poolEvent, -, stepped⟩
      · exact same ▸ quiet
      · exact Pool.crashed_step consistent.unclosed quiet stepped
  | true =>
      obtain ⟨onClose, running, rfl⟩ := step_closes taken closing
      rcases close_cases varint consistent onClose with ⟨opened, same⟩ | ⟨closed, same⟩
      · simp [same, State.cleared, Pool.crashed_closed_both quiet, opened.closed]
      · simp [same, quiet, closed.closed]

end

end Server

namespace Client

section

variable {varint : Quicvarint} {state next : State} {event : Event}

def NoSendOnClosed (_ : State) (_ : Event) (next : State) : Prop := next.pool.crashed = false

def ClosesIdle (state : State) (event : Event) (_ : State) : Prop :=
  callsClose state event = true → state.client.connected = true →
    state.pool.someSending = false

theorem no_send_on_closed_iff (consistent : Consistent state)
    (taken : step varint state event = some next) :
    NoSendOnClosed state event next ↔ ClosesIdle state event next := by
  obtain ⟨unfaulted, quiet, -⟩ := step_some.mp taken
  unfold NoSendOnClosed ClosesIdle
  cases closing : callsClose state event with
  | false =>
      simp only [Bool.false_eq_true, false_implies, iff_true]
      rcases step_pool consistent taken closing with same | ⟨poolEvent, -, stepped⟩
      · exact same ▸ quiet
      · exact Pool.crashed_step consistent.unclosed quiet stepped
  | true =>
      obtain ⟨loop, rfl⟩ := step_closes consistent taken closing
      cases consistent with
      | inl opened =>
          simp [State.leave, close_open varint opened unfaulted, State.cleared,
            Pool.crashed_closed_both quiet, opened.connected]
      | inr closed =>
          simp [State.leave, close_closed varint closed.session, quiet, closed.connected]

end

end Client

/-- Handlers survive a run of either side exactly if every close finds them all past or
before their send. -/
theorem handlers_survive_iff_closes_idle (varint : Quicvarint) (session : SessionRef)
    (connectStream settingsStream : StreamId) :
    (∀ req events,
      Steps (Server.step varint) Server.NoSendOnClosed
          (Server.createWebTransport session req connectStream settingsStream) events ↔
        Steps (Server.step varint) Server.ClosesIdle
          (Server.createWebTransport session req connectStream settingsStream) events) ∧
    ∀ remoteAddr path events,
      Steps (Client.step varint) Client.NoSendOnClosed
          (Client.handleStream (Client.connectedClient
            (Client.createWebTransportClient remoteAddr path) session connectStream
            settingsStream)) events ↔
        Steps (Client.step varint) Client.ClosesIdle
          (Client.handleStream (Client.connectedClient
            (Client.createWebTransportClient remoteAddr path) session connectStream
            settingsStream)) events := by
  constructor
  · intro req events
    apply steps_iff Server.Consistent
    · intro state event next consistent taken
      exact Server.no_send_on_closed_iff consistent taken
    · intro state event next consistent _ taken
      exact Server.step_consistent consistent taken
    · exact Server.create_consistent session req connectStream settingsStream
  · intro remoteAddr path events
    apply steps_iff Client.Consistent
    · intro state event next consistent taken
      exact Client.no_send_on_closed_iff consistent taken
    · intro state event next consistent _ taken
      exact Client.step_consistent consistent taken
    · exact .inl (Client.connected_open _ session connectStream settingsStream rfl rfl)

/-- Nobody receives from `Stream`, and the application closes the transport. -/
theorem blocked_handler_panics :
    ¬ ∀ events, Steps (Server.step .reference) Server.NoSendOnClosed Server.echoTransport events := by
  intro survives
  have closing := survives [.accept .bidi (.ok 4) [], .header 4 ⟨[0x40], none⟩,
    .header 4 ⟨[0x41], none⟩, .header 4 ⟨[0], none⟩, .call (.close 0 "") []]
  have survived := (((((closing _ rfl).2 _ rfl).2 _ rfl).2 _ rfl).2 _ rfl).1
  unfold Server.NoSendOnClosed at survived
  exact absurd survived (by decide)

end WebTransportGos
