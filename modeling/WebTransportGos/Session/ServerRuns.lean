import WebTransportGos.Session.ServerLifetime

/-!
Whole runs of a server transport: it closes once and for good, and what its session id
and its callbacks do before and after that. The header a peer writes on a stream is
stored as the transport's own session id, and the loop over datagrams does not look at
the session field; both results say exactly which runs are not hurt by it.
-/

namespace WebTransportGos.Server

open GoReader GoText StepSystem

set_option autoImplicit false

variable (varint : Quicvarint) (session : SessionRef) (req : H3.Request)

/-- A transport is open or closed, closed once and for good, and then refuses every call. -/
theorem open_or_closed_for_good (connectStream settingsStream : StreamId) {state : State}
    (reached : Reachable (step varint) (createWebTransport session req connectStream settingsStream)
      state) :
    (Open state ∨ Closed state) ∧ state.nilCall = false ∧ state.onCloseRuns ≤ 1 ∧
      (Closed state →
        (∀ events final, run (step varint) state events = some final → Closed final) ∧
        ∀ onClose apiCall, ∃ err, call varint onClose state apiCall = (some err, state)) := by
  have consistent : Consistent state :=
    reachable_invariant (fun _ _ _ holds taken => step_consistent holds taken)
      (create_consistent session req connectStream settingsStream) reached
  refine ⟨consistent.life, consistent.nilCall, ?_, fun closed => ⟨?_, ?_⟩⟩
  · cases consistent.life with
    | inl opened => exact opened.onCloseRuns ▸ Nat.zero_le 1
    | inr closed => exact closed.onCloseRuns
  · intro events final ran
    have both : Consistent final ∧ Closed final := by
      apply run_invariant _ ⟨consistent, closed⟩ ran
      intro before event after holds taken
      exact ⟨step_consistent holds.1 taken, step_closed holds.1 holds.2 taken⟩
    exact both.2
  · intro onClose apiCall
    exact call_with_closed varint (close varint onClose) closed.session apiCall

def echoTransport : State :=
  createWebTransport 1
    { method := lit "CONNECT", url := { path := lit "/echo" }, proto := lit "webtransport"
      host := lit "localhost:4433" } 0 2

/-- The application closes a fresh transport and calls `Close` once more from `OnClose`. -/
theorem closed_by_application :
    ∃ state, Closed state ∧ state.onCloseRuns = 1 ∧
      ∀ onClose apiCall, ∃ err, call .reference onClose state apiCall = (some err, state) := by
  have reached : Reachable (step .reference) echoTransport _ :=
    ⟨[.setOnClose true, .call (.close 0 "") [.close 0 ""]], rfl⟩
  have settled := open_or_closed_for_good .reference 1 _ 0 2 reached
  have closed := settled.1.resolve_left fun opened => absurd opened.closed (by decide)
  exact ⟨_, closed, by decide, (settled.2.2.2 closed).2⟩

/-- A step of a closed transport calls no `OnMessage` and leaves the session id alone. -/
def NoCallback (state : State) (_ : Event) (next : State) : Prop :=
  Closed state →
    next.messages = state.messages ∧ next.transport.sessionId = state.transport.sessionId

/-- No datagram with the session's id arrives at a closed transport whose `OnMessage` is set,
and no stream's header is completed there with another id. -/
def NothingArrives (state : State) (event : Event) (_ : State) : Prop :=
  Closed state →
    (∀ datagram message onClose, event = .message (.ok datagram) onClose →
      state.transport.onMessage = true →
      varint.decode datagram ≠ some (state.transport.sessionId, message)) ∧
    ∀ sessionId, completedHeader varint state event = some sessionId →
      sessionId = state.transport.sessionId

section Messages

variable {varint : Quicvarint} {state next : State} {event : Event}

theorem message_for_some {transport : WebTransport} {datagram message : List UInt8} :
    messageFor varint transport datagram = some message ↔
      transport.onMessage = true ∧
        varint.decode datagram = some (transport.sessionId, message) := by
  unfold messageFor
  cases decoded : varint.decode datagram with
  | none => simp
  | some header =>
      obtain ⟨sessionId, rest⟩ := header
      have notEmpty : datagram ≠ [] := by
        intro empty
        rw [empty] at decoded
        cases decoded
      by_cases same : sessionId = transport.sessionId
      · simp [notEmpty, same]
      · simp [same]

theorem delivered_message_of_datagram {datagram : List UInt8} {onClose : List ApiCall}
    (taken : step varint state (.message (.ok datagram) onClose) = some next) :
    deliveredMessage varint state (.message (.ok datagram) onClose) =
      messageFor varint state.transport datagram := by
  have progressed := (step_some.mp taken).2.2
  cases running : state.running .message with
  | false => simp [progress, messageStep, running] at progressed
  | true => simp [deliveredMessage, running]

theorem delivered_message_none (taken : step varint state event = some next) :
    deliveredMessage varint state event = none ↔
      ∀ datagram message onClose, event = .message (.ok datagram) onClose →
        state.transport.onMessage = true →
        varint.decode datagram ≠ some (state.transport.sessionId, message) := by
  constructor
  · rintro silent datagram message onClose rfl isSet decoded
    rw [delivered_message_of_datagram taken, message_for_some.mpr ⟨isSet, decoded⟩] at silent
    cases silent
  · intro condition
    by_contra delivered
    obtain ⟨message, delivered⟩ := Option.ne_none_iff_exists'.mp delivered
    match event, taken, delivered, condition with
    | .message (.ok datagram) onClose, taken, delivered, condition =>
        rw [delivered_message_of_datagram taken] at delivered
        obtain ⟨isSet, decoded⟩ := message_for_some.mp delivered
        exact condition datagram message onClose rfl isSet decoded

end Messages

/-- A closed transport stays silent along a run exactly if nothing arrives at it. -/
theorem no_callback_iff_nothing_arrives (connectStream settingsStream : StreamId)
    (events : List Event) :
    Steps (step varint) NoCallback
        (createWebTransport session req connectStream settingsStream) events ↔
      Steps (step varint) (NothingArrives varint)
        (createWebTransport session req connectStream settingsStream) events := by
  apply steps_iff Consistent
  · intro state event next consistent taken
    refine imp_congr_right fun closed => and_congr ?_ ?_
    · rw [step_messages consistent taken, List.append_right_eq_self, Option.toList_eq_nil_iff]
      exact delivered_message_none taken
    · rw [step_session_id consistent taken]
      cases completedHeader varint state event <;> simp
  · intro state event next consistent _ taken
    exact step_consistent consistent taken
  · exact create_consistent session req connectStream settingsStream

/-- `Close` returned nil, and the next datagram still reaches `OnMessage`. -/
theorem callback_after_close :
    ¬ ∀ events, Steps (step .reference) NoCallback echoTransport events := by
  intro silent
  have closing := silent [.setOnMessage true, .call (.close 0 "") [], .message (.ok [0, 104]) []]
  have afterClose := (((closing _ rfl).2 _ rfl).2 _ rfl).1
  have closed : Closed (close .reference [] { echoTransport with
      transport := { echoTransport.transport with onMessage := true } }) :=
    close_is_closed .reference
      (@step_consistent .reference _ _ (.setOnMessage true) (create_consistent 1 _ 0 2) rfl) []
  exact absurd (afterClose closed).1 (by decide)

def connectStreamId : StreamId := 0

/-- The session id is that of the CONNECT stream, everything written carries it, and a
datagram that carries it reaches `OnMessage`. -/
def SessionIdKept (state : State) (event : Event) (next : State) : Prop :=
  next.transport.sessionId = connectStreamId ∧
    (∀ output ∈ next.outputs, output.Carries varint connectStreamId) ∧
    ∀ datagram message onClose, event = .message (.ok datagram) onClose →
      state.transport.onMessage = true →
      varint.decode datagram = some (connectStreamId, message) →
      next.messages = state.messages ++ [message]

def HeaderCarriesConnectId (state : State) (event : Event) (_ : State) : Prop :=
  ∀ sessionId, completedHeader varint state event = some sessionId → sessionId = connectStreamId

structure ConnectIdHeld (state : State) : Prop where
  consistent : Consistent state
  sessionId : state.transport.sessionId = connectStreamId
  outputs : ∀ output ∈ state.outputs, output.Carries varint connectStreamId

section SessionId

variable {varint : Quicvarint} {state next : State} {event : Event}

theorem call_outputs_carry (sessionId : Nat) (apiCall : ApiCall) :
    ∀ output ∈ callOutputs varint sessionId apiCall, output.Carries varint sessionId := by
  intro output member
  match apiCall with
  | .createStream (.ok id) =>
      rw [List.mem_singleton.mp member]
      rfl
  | .createUniStream (.ok id) =>
      rw [List.mem_singleton.mp member]
      rfl
  | .sendMessage message sent =>
      rw [List.mem_singleton.mp member]
      exact ⟨message, rfl⟩
  | .createStream (.error _) => cases member
  | .createUniStream (.error _) => cases member
  | .close _ _ => cases member

theorem event_outputs_carry :
    ∀ output ∈ eventOutputs varint state event,
      output.Carries varint state.transport.sessionId := by
  intro output member
  cases event with
  | call apiCall onClose =>
      simp only [eventOutputs] at member
      split at member
      · exact call_outputs_carry _ apiCall output member
      · cases member
  | _ => cases member

theorem connect_id_held_step (held : ConnectIdHeld varint state)
    (carried : HeaderCarriesConnectId varint state event next)
    (taken : step varint state event = some next) : ConnectIdHeld varint next where
  consistent := step_consistent held.consistent taken
  sessionId := by
    rw [step_session_id held.consistent taken]
    cases completed : completedHeader varint state event with
    | none => exact held.sessionId
    | some sessionId => exact carried sessionId completed
  outputs := by
    rw [step_outputs held.consistent taken]
    intro output member
    cases List.mem_append.mp member with
    | inl earlier => exact held.outputs output earlier
    | inr now => exact held.sessionId ▸ event_outputs_carry output now

theorem session_id_kept (held : ConnectIdHeld varint state)
    (carried : HeaderCarriesConnectId varint state event next)
    (taken : step varint state event = some next) : SessionIdKept varint state event next := by
  have after := connect_id_held_step held carried taken
  refine ⟨after.sessionId, after.outputs, ?_⟩
  rintro datagram message onClose rfl isSet decoded
  rw [← held.sessionId] at decoded
  rw [step_messages held.consistent taken, delivered_message_of_datagram taken,
    message_for_some.mpr ⟨isSet, decoded⟩, Option.toList_some]

end SessionId

/-- The session id survives a run exactly if every header the peer completes carries it. -/
theorem session_id_kept_iff_headers_carry (settingsStream : StreamId) (events : List Event) :
    Steps (step varint) (SessionIdKept varint)
        (createWebTransport session req connectStreamId settingsStream) events ↔
      Steps (step varint) (HeaderCarriesConnectId varint)
        (createWebTransport session req connectStreamId settingsStream) events := by
  apply steps_iff (ConnectIdHeld varint)
  · intro state event next held taken
    refine ⟨fun kept sessionId completed => ?_, fun carried => session_id_kept held carried taken⟩
    have stored := step_session_id held.consistent taken
    rw [completed, Option.getD_some] at stored
    exact stored.symm.trans kept.1
  · intro state event next held carried taken
    exact connect_id_held_step held carried taken
  · exact ⟨create_consistent session req connectStreamId settingsStream, rfl, fun _ => nofun⟩

/-- A unidirectional stream of the peer with session id 7 in its header. -/
theorem session_id_overwritten :
    ¬ ∀ events, Steps (step .reference) (SessionIdKept .reference) echoTransport events := by
  intro kept
  have overwritten := kept [.accept .uni (.ok 6) [], .header 6 ⟨[0x40], none⟩,
    .header 6 ⟨[0x54], none⟩, .header 6 ⟨[7], none⟩]
  exact absurd ((((overwritten _ rfl).2 _ rfl).2 _ rfl).2 _ rfl).1.1 (by decide)

end WebTransportGos.Server
