import WebTransportGos.Session.ClientLifetime

/-!
Whole runs of a connected client's loops. The accept loops look at the stream before the
error and all four use fields that `close` clears, so that most ways for a session to end
take the process with them; the result says exactly which runs do not.
-/

namespace WebTransportGos.Client

open GoReader GoText StepSystem

set_option autoImplicit false

section Fault

variable {varint : Quicvarint} {state next : State} {event : Event}

/-- No accept loop gets an error, and once the client is closed no loop gets anything but
one. `Close` is not called then either. -/
def Survivable (state : State) (event : Event) (_ : State) : Prop :=
  match event with
  | .start _ => state.client.connected = true
  | .accept _ (.ok _) => state.client.connected = true
  | .accept _ (.error _) => False
  | .message (.ok _) _ => state.client.connected = true
  | .message (.error _) onClose =>
      state.client.connected = true → closesInOnClose state onClose = false
  | .connectRead _ none _ => state.client.connected = true
  | .connectRead _ (some _) onClose =>
      state.client.connected = true → closesInOnClose state onClose = false
  | .call apiCall _ => apiCall.isClose = true → state.client.connected = true
  | _ => True

theorem Consistent.callee (consistent : Consistent state) (loop : Loop) :
    state.client.callee loop ≠ none ↔ state.client.connected = true := by
  cases consistent with
  | inl opened => simp [opened.callee loop, opened.connected]
  | inr closed => simp [closed.callee loop, closed.connected]

theorem Consistent.own_stream (consistent : Consistent state) (kind : StreamKind) :
    state.client.ownStream kind ≠ none ↔ state.client.connected = true := by
  cases consistent with
  | inl opened => simp [opened.own_stream kind, opened.connected]
  | inr closed => simp [closed.own_stream kind, closed.connected]

theorem close_fault (consistent : Consistent state) (quiet : state.fault = none)
    (onClose : List ApiCall) : (close varint onClose state).fault = none ↔
      (state.client.connected = true → closesInOnClose state onClose = false) := by
  cases consistent with
  | inl opened =>
      rw [close_open varint opened quiet]
      simp [State.cleared, opened.connected]
  | inr closed =>
      rw [close_closed varint closed.session]
      simp [closed.connected, quiet]

theorem accept_fault (consistent : Consistent state) (quiet : state.fault = none)
    {kind : StreamKind} {stream : StreamId}
    (taken : acceptStep state kind (.ok stream) = some next) :
    next.fault = none ↔ state.client.connected = true := by
  unfold acceptStep at taken
  split at taken
  · cases taken
  · dsimp only at taken
    split at taken
    · cases taken
    · split at taken
      next cleared =>
        cases taken
        rw [← consistent.own_stream kind]
        simp [State.nilCall, cleared]
      next own present =>
        split at taken <;> cases taken
        · rw [block_fault quiet, consistent.callee]
        · apply (block_fault _ _).trans
          · exact consistent.callee (.accept kind)
          · exact quiet

theorem call_fault (consistent : Consistent state) (quiet : state.fault = none)
    (onClose : List ApiCall) (apiCall : ApiCall) :
    (call varint onClose state apiCall).2.fault = none ↔
      (apiCall.isClose = true → state.client.connected = true) := by
  cases consistent with
  | inr closed =>
      rw [call, call_cleared varint _ closed.connected closed.connectStream]
      cases closing : apiCall.isClose <;> simp [State.nilCall, quiet, closed.connected]
  | inl opened =>
      obtain ⟨session, present⟩ := Option.ne_none_iff_exists'.mp opened.session
      simp only [opened.connected, implies_true, iff_true]
      cases apiCall with
      | createStream result =>
          cases result <;> simp [call, callWith, createStream, opened.connected, present, quiet]
      | createUniStream result =>
          cases result <;> simp [call, callWith, createStream, opened.connected, present, quiet]
      | sendMessage message sent =>
          simp [call, callWith, sendMessage, opened.connected, present, quiet]
      | close code message closed => simp [call, callWith, closeWith, opened.connected, quiet]

/-- A step ends the process exactly if it is not survivable. -/
theorem step_fault (consistent : Consistent state)
    (taken : step varint state event = some next) :
    next.fault = none ↔ Survivable state event next := by
  obtain ⟨quiet, -, taken⟩ := step_some.mp taken
  match event with
  | .start loop =>
      simp only [progress, startStep] at taken
      split at taken <;> cases taken
      rw [block_fault quiet, consistent.callee]
      rfl
  | .accept kind (.ok stream) => exact accept_fault consistent quiet taken
  | .accept kind (.error err) =>
      simp only [progress, acceptStep] at taken
      split at taken <;> cases taken
      simp [State.nilCall, Survivable]
  | .header stream result =>
      obtain ⟨pool, -, rfl⟩ := Option.map_eq_some_iff.mp taken
      simp [quiet, Survivable]
  | .receive stream =>
      obtain ⟨pool, -, rfl⟩ := Option.map_eq_some_iff.mp taken
      simp [quiet, Survivable]
  | .await kind =>
      obtain ⟨pool, -, rfl⟩ := Option.map_eq_some_iff.mp taken
      simp [quiet, Survivable]
  | .message (.ok datagram) onClose =>
      simp only [progress, messageStep] at taken
      split at taken <;> cases taken
      apply (block_fault _ _).trans
      · exact consistent.callee .message
      · exact quiet
  | .message (.error err) onClose =>
      simp only [progress, messageStep] at taken
      split at taken <;> cases taken
      exact close_fault consistent quiet onClose
  | .connectRead data none onClose =>
      simp only [progress, connectStep] at taken
      split at taken <;> cases taken
      rw [block_fault quiet]
      exact consistent.callee .connect
  | .connectRead data (some err) onClose =>
      simp only [progress, connectStep] at taken
      split at taken <;> cases taken
      exact close_fault consistent quiet onClose
  | .call apiCall onClose =>
      cases taken
      exact call_fault consistent quiet onClose apiCall
  | .setOnMessage isSet =>
      cases taken
      simp [quiet, Survivable]
  | .setOnClose isSet =>
      cases taken
      simp [quiet, Survivable]

end Fault

/-- No method of a nil field is called; an error that a loop reports leaves the client
disconnected with its channels closed once; `OnClose` runs when the first such error ends
the session and at no other time. -/
structure EndsOnce (state : State) (event : Event) (next : State) : Prop where
  fault : next.fault = none
  ended : event.reportsError = true →
    next.client.connected = false ∧ ∀ kind, (next.pool.channels kind).closes = 1
  onCloseRuns : next.onCloseRuns = state.onCloseRuns +
    if state.client.connected ∧ event.reportsError ∧ state.client.onClose then 1 else 0

section Ending

variable {varint : Quicvarint} {state next : State} {event : Event}

theorem survivable_closes (survivable : Survivable state event next) :
    callsClose state event = event.reportsError := by
  match event with
  | .start loop => rfl
  | .accept kind (.ok stream) => rfl
  | .accept kind (.error err) => exact survivable.elim
  | .header stream result => rfl
  | .receive stream => rfl
  | .await kind => rfl
  | .message (.ok datagram) onClose => rfl
  | .message (.error err) onClose => rfl
  | .connectRead data none onClose => rfl
  | .connectRead data (some err) onClose => rfl
  | .call (.close code message closed) onClose =>
      simp [callsClose, Event.reportsError, survivable rfl]
  | .call (.createStream opened) onClose => rfl
  | .call (.createUniStream opened) onClose => rfl
  | .call (.sendMessage message sent) onClose => rfl
  | .setOnMessage isSet => rfl
  | .setOnClose isSet => rfl

theorem step_on_close_runs (consistent : Consistent state)
    (taken : step varint state event = some next) :
    next.onCloseRuns = state.onCloseRuns +
      if state.client.connected ∧ callsClose state event ∧ state.client.onClose then 1 else 0 := by
  cases closing : callsClose state event with
  | false =>
      have runs : next.onCloseRuns = state.onCloseRuns :=
        (step_kept consistent taken closing).onCloseRuns
      simp [runs]
  | true =>
      have quiet := (step_some.mp taken).1
      obtain ⟨loop, rfl⟩ := step_closes consistent taken closing
      cases consistent with
      | inl opened => simp [State.leave, close_open varint opened quiet, State.cleared,
          opened.connected]
      | inr closed => simp [State.leave, close_closed varint closed.session, closed.connected]

theorem ends_once_iff_survivable (consistent : Consistent state)
    (taken : step varint state event = some next) :
    EndsOnce state event next ↔ Survivable state event next := by
  refine ⟨fun ends => (step_fault consistent taken).mp ends.fault, fun survivable => ?_⟩
  have closes := survivable_closes survivable
  refine ⟨(step_fault consistent taken).mpr survivable, ?_, ?_⟩
  · intro reported
    have closed := step_closed_of_close consistent taken (closes.trans reported)
    exact ⟨closed.connected, closed.closes⟩
  · rw [step_on_close_runs consistent taken, closes]

theorem connected_open (client : WebTransportClient) (session : SessionRef)
    (connectStream settingsStream : StreamId)
    (bidi : client.stream = some .bidi) (uni : client.receiveStream = some .uni) :
    Open (handleStream (connectedClient client session connectStream settingsStream)) where
  connected := rfl
  session := Option.some_ne_none session
  connectStream := Option.some_ne_none connectStream
  settingsStream := Option.some_ne_none settingsStream
  stream := bidi
  receiveStream := uni
  closes _ := rfl

end Ending

/-- The loops of a fresh client end it once and without a nil call in exactly those runs
whose steps are survivable. -/
theorem loops_end_once_iff (varint : Quicvarint) (remoteAddr path : GoString)
    (session : SessionRef) (connectStream settingsStream : StreamId) (events : List Event) :
    Steps (step varint) EndsOnce (handleStream (connectedClient
        (createWebTransportClient remoteAddr path) session connectStream settingsStream)) events ↔
      Steps (step varint) Survivable (handleStream (connectedClient
        (createWebTransportClient remoteAddr path) session connectStream settingsStream))
        events := by
  apply steps_iff Consistent
  · intro state event next consistent taken
    exact ends_once_iff_survivable consistent taken
  · intro state event next consistent _ taken
    exact step_consistent consistent taken
  · exact .inl (connected_open _ session connectStream settingsStream rfl rfl)

def echoClient : State :=
  handleStream (connectedClient
    (createWebTransportClient (lit "localhost:4433") (lit "/echo")) 1 0 3)

/-- The session ends, and the first accept loop to notice calls `StreamID` on nil. -/
theorem accept_error_panics :
    ¬ ∀ events, Steps (step .reference) EndsOnce echoClient events := by
  intro endsOnce
  have ended := endsOnce [.start (.accept .uni), .accept .uni (.error (.text "session closed"))]
  exact absurd ((ended _ rfl).2 _ rfl).1.fault (by decide)

end WebTransportGos.Client
