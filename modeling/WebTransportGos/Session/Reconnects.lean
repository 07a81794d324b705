import WebTransportGos.Handshake.Connect
import WebTransportGos.Session.ClientRuns

/-!
webtransport_client.go: one client over several calls of `Connect` and `Close`. `Connect`
assigns its fields as it goes and takes nothing back when it fails; every call of it that
succeeds starts the four goroutines once more. `Close` tests `connected` the other way round
than the rest of the package does.

Stream ids tell the streams of all sessions apart.
-/

namespace WebTransportGos.Client

open GoReader GoText StepSystem H3

set_option autoImplicit false

variable (packages : Packages)

def Connecting.outputs (connecting : Connecting) (peer : Peer) : List Output :=
  (match peer.openUniStream, connecting.settings with
    | .ok stream, some bytes => [.stream .uni stream bytes]
    | _, _ => []) ++
  (match peer.openStream, connecting.request with
    | .ok (stream, _), some bytes => [.stream .bidi stream bytes]
    | _, _ => [])

def connectState (peer : Peer) (state : State) : Outcome (Option Error) × State :=
  let (returned, connecting) := connect packages state.client peer
  (returned, { state with
    client := connecting.client
    outputs := state.outputs ++ connecting.outputs peer })

structure Idle (client : WebTransportClient) : Prop where
  session : client.session = none
  connectStream : client.connectStream = none
  settingsStream : client.settingsStream = none
  connected : client.connected = false

/-- The client is idle and as it was before, and a session that was dialled has been closed in
between. -/
structure LeavesNothing (peer : Peer) (before after : State) : Prop where
  idle : Idle after.client
  same : after.client = before.client
  closed : ∀ session, peer.dial = .ok session →
    ∃ code message, Output.closeSession code message ∈ after.outputs.drop before.outputs.length

/-- Once there is a session, every exit of `Connect` leaves it with the client. -/
theorem connect_session (client : WebTransportClient) {peer : Peer} {session : SessionRef}
    (dial : peer.dial = .ok session) :
    (connect packages client peer).2.client.session = some session := by
  generalize reaches : (connect packages client peer).2 = left
  have reached := connect_reached packages client peer
  rw [reaches] at reached
  cases reached with
  | undialled failed => simp [dial] at failed
  | dialled again => exact congrArg some (Except.ok.inj (again.symm.trans dial))
  | settled again => exact congrArg some (Except.ok.inj (again.symm.trans dial))
  | requested again => exact congrArg some (Except.ok.inj (again.symm.trans dial))
  | connected again => exact congrArg some (Except.ok.inj (again.symm.trans dial))

theorem connect_undialled (client : WebTransportClient) {peer : Peer} {err : Error}
    (failed : peer.dial = .error err) :
    connect packages client peer = (.ok (some err), ⟨client, none, none⟩) := by
  simp only [connect, failed]

/-- A failed `Connect` leaves nothing behind exactly if no session was dialled, on a client
that held nothing before. -/
theorem failed_connect_leaves_nothing_iff {peer : Peer} {state : State} {err : Error}
    (failed : (connectState packages peer state).1 = .ok (some err)) :
    LeavesNothing peer state (connectState packages peer state).2 ↔
      peer.dial = .error err ∧ Idle state.client := by
  cases dial : peer.dial with
  | ok session =>
      constructor
      · intro leaves
        have kept := connect_session packages state.client dial
        rw [show (connect packages state.client peer).2.client.session = none from
          leaves.idle.session] at kept
        cases kept
      · rintro ⟨undialled, -⟩
        cases undialled
  | error other =>
      have returned := connect_undialled packages state.client dial
      have same : other = err := by
        simp only [connectState, returned] at failed
        simpa using failed
      have client : (connectState packages peer state).2.client = state.client := by
        simp only [connectState, returned]
      constructor
      · intro leaves
        exact ⟨congrArg Except.error same, client ▸ leaves.idle⟩
      · rintro ⟨-, idle⟩
        refine ⟨client.symm ▸ idle, client, ?_⟩
        intro session dialled
        rw [dial] at dialled
        cases dialled

def createdState (remoteAddr path : GoString) : State :=
  { handleStream (createWebTransportClient remoteAddr path) with loops := fun _ => .returned }

theorem created_idle (remoteAddr path : GoString) : Idle (createdState remoteAddr path).client :=
  ⟨rfl, rfl, rfl, rfl⟩

def absentPeer : Peer where
  dial := .error (.text "timeout: no recent network activity")
  acceptUniStream := .error .eof
  openUniStream := .error .eof
  openStream := .error .eof
  written := none
  walks := .same

theorem absent_peer_leaves_nothing :
    LeavesNothing absentPeer (createdState (lit "localhost:4433") (lit "/echo"))
      (connectState .reference absentPeer
        (createdState (lit "localhost:4433") (lit "/echo"))).2 :=
  (failed_connect_leaves_nothing_iff .reference rfl).mpr ⟨rfl, created_idle _ _⟩

def silentPeer : Peer := { absentPeer with dial := .ok 1 }

theorem silent_peer_leaves_session : ¬∀ (peer : Peer) (err : Error),
    (connectState .reference peer (createdState (lit "localhost:4433") (lit "/echo"))).1 =
      .ok (some err) →
    LeavesNothing peer (createdState (lit "localhost:4433") (lit "/echo"))
      (connectState .reference peer (createdState (lit "localhost:4433") (lit "/echo"))).2 := by
  intro leaves
  have session := (leaves silentPeer .eof rfl).idle.session
  cases session

/-- The client with its last connection's goroutines, and those of earlier connections. -/
structure Process where
  state : State
  earlier : List (Loop → LoopPhase)

inductive ProcessEvent where
  /-- A call of `Connect`, up to its return or its last blocking call. -/
  | connect (peer : Peer)
  /-- The goroutines of an earlier connection are looked at in place of the last one's. -/
  | schedule (index : Nat)
  | takes (event : Event)

/-- A nil error without a request is that of a first `Read` that returned nothing, and starts
no goroutines. A panic in `Connect` leaves no process. -/
def connectProcess (peer : Peer) (process : Process) : Option Process :=
  if process.state.fault.isSome || process.state.pool.crashed then none
  else match connectState packages peer process.state with
    | (.panic _, _) => none
    | (.ok none, state) =>
        if (connect packages process.state.client peer).2.request = none then
          some { process with state := state }
        else some ⟨{ state with loops := fun _ => .ready }, state.loops :: process.earlier⟩
    | (_, state) => some { process with state := state }

def schedule (index : Nat) (process : Process) : Option Process :=
  process.earlier[index]?.map fun loops =>
    ⟨{ process.state with loops := loops }, process.earlier.set index process.state.loops⟩

def processStep (process : Process) : ProcessEvent → Option Process
  | .connect peer => connectProcess packages peer process
  | .schedule index => schedule index process
  | .takes event => (step packages.varint process.state event).map fun state =>
      { process with state := state }

def created (remoteAddr path : GoString) : Process := ⟨createdState remoteAddr path, []⟩

/-- A connect stream is never held without a session, and a connected client holds both. -/
structure Held (client : WebTransportClient) : Prop where
  session : client.connectStream ≠ none → client.session ≠ none
  connected : client.connected = true → client.connectStream ≠ none

section Holding

variable {packages} {varint : Quicvarint} {state next : State}

theorem Held.of_life {client other : WebTransportClient} (held : Held client)
    (same : other.fields = client.fields) : Held other := by
  have session : other.session = client.session := congrArg Fields.session same
  have connectStream : other.connectStream = client.connectStream :=
    congrArg Fields.connectStream same
  have connected : other.connected = client.connected := congrArg Fields.own same
  constructor
  · rw [session, connectStream]
    exact held.session
  · rw [connectStream, connected]
    exact held.connected

theorem cleared_held (client : WebTransportClient) : Held client.cleared :=
  ⟨fun present => absurd rfl present, fun connected => by cases connected⟩

/-- `close` does nothing, clears the client or panics on a channel, and leaves no session. -/
theorem close_client (varint : Quicvarint) (quiet : state.fault = none) (onClose : List ApiCall) :
    (state.client.session = none ∧ close varint onClose state = state) ∨
      (close varint onClose state).client = state.client.cleared ∨
      ((close varint onClose state).client.session = none ∧
        (close varint onClose state).fault ≠ none) := by
  unfold close
  split
  next undialled => exact .inl ⟨undialled, rfl⟩
  · dsimp only
    split
    · exact .inr (.inr ⟨rfl, Option.some_ne_none _⟩)
    split
    · exact .inr (.inr ⟨rfl, Option.some_ne_none _⟩)
    split
    · rw [calls_in_on_close_cleared varint]
      · exact .inr (.inl rfl)
      · rfl
      · rfl
      · exact quiet
    · exact .inr (.inl rfl)

theorem close_held (varint : Quicvarint) (held : Held state.client) (quiet : state.fault = none)
    (onClose : List ApiCall) :
    (close varint onClose state).fault = none → Held (close varint onClose state).client := by
  intro survived
  rcases close_client varint quiet onClose with ⟨-, same⟩ | cleared | ⟨-, faulted⟩
  · exact same.symm ▸ held
  · exact cleared.symm ▸ cleared_held state.client
  · exact absurd survived faulted

theorem effect_held {event : Event} (held : Held state.client) (quiet : state.fault = none)
    (effect : Effect varint state event next) : next.fault = none → Held next.client := by
  intro survived
  cases effect with
  | closes loop reported called silent => exact close_held varint held quiet _ survived
  | setOnMessage isSet => exact held.of_life rfl
  | setOnClose isSet => exact held.of_life rfl
  | _ => exact held

theorem call_closing {apiCall : ApiCall} {onClose : List ApiCall}
    (called : callsClose state (.call apiCall onClose) = true) :
    ∃ outputs, (call varint onClose state apiCall).2 =
      close varint onClose { state with outputs := outputs } := by
  cases apiCall with
  | close code message closed =>
      simp only [callsClose, Bool.and_eq_true, Bool.not_eq_true', Option.isSome_iff_exists]
        at called
      rcases called with ⟨⟨disconnected, stream, opened⟩, session, dialled⟩
      simp only [call, callWith, closeWith, disconnected, opened, dialled]
      exact ⟨_, rfl⟩
  | _ => simp [callsClose] at called

theorem step_held {event : Event} (held : Held state.client)
    (taken : step varint state event = some next) : next.fault = none → Held next.client := by
  have quiet := (step_some.mp taken).1
  by_cases closing : ∃ apiCall onClose, event = .call apiCall onClose ∧ callsClose state event = true
  · rcases closing with ⟨apiCall, onClose, rfl, called⟩
    rcases @call_closing varint state apiCall onClose called with ⟨outputs, same⟩
    cases (step_some.mp taken).2.2
    intro survived
    rw [same] at survived ⊢
    exact @close_held { state with outputs := outputs } varint held quiet onClose survived
  · apply effect_held held quiet
    apply step_effect_quiet _ taken
    intro apiCall onClose isCall
    rw [← Bool.not_eq_true]
    intro called
    exact closing ⟨apiCall, onClose, isCall, called⟩

theorem connect_held (held : Held state.client) (peer : Peer) :
    Held (connect packages state.client peer).2.client := by
  generalize reaches : (connect packages state.client peer).2 = left
  have reached := connect_reached packages state.client peer
  rw [reaches] at reached
  cases reached with
  | undialled failed => exact held
  | dialled dial => exact ⟨fun _ => Option.some_ne_none _, held.connected⟩
  | settled dial settingsStream settings =>
      exact ⟨fun _ => Option.some_ne_none _, held.connected⟩
  | requested dial settingsStream requestStream settings =>
      exact ⟨fun _ => Option.some_ne_none _, fun _ => Option.some_ne_none _⟩
  | connected dial settingsStream requestStream settings =>
      exact ⟨fun _ => Option.some_ne_none _, fun _ => Option.some_ne_none _⟩

variable (packages) in
theorem connect_process_state {peer : Peer} {process after : Process}
    (taken : connectProcess packages peer process = some after) :
    after.state.client = (connect packages process.state.client peer).2.client ∧
      process.state.fault = none := by
  unfold connectProcess at taken
  split at taken
  · cases taken
  next running =>
    have quiet : process.state.fault = none := by
      simp only [Bool.or_eq_true, not_or, Option.isSome_iff_ne_none, ne_eq, not_not] at running
      exact running.1
    refine ⟨?_, quiet⟩
    rcases returned : connectState packages peer process.state with ⟨outcome, state⟩
    have client : state.client = (connect packages process.state.client peer).2.client :=
      congrArg (fun result => result.2.client) returned.symm
    rw [returned] at taken
    cases outcome with
    | panic reason => cases taken
    | hang =>
        cases taken
        exact client
    | fail err =>
        cases taken
        exact client
    | ok result =>
        cases result with
        | some err =>
            cases taken
            exact client
        | none =>
            dsimp only at taken
            split at taken <;> cases taken <;> exact client

def Sound (process : Process) : Prop := process.state.fault = none → Held process.state.client

theorem process_sound {process after : Process} {event : ProcessEvent} (sound : Sound process)
    (taken : processStep packages process event = some after) : Sound after := by
  intro survived
  cases event with
  | connect peer =>
      rcases connect_process_state packages taken with ⟨client, quiet⟩
      rw [client]
      exact connect_held (sound quiet) peer
  | schedule index =>
      rcases Option.map_eq_some_iff.mp taken with ⟨loops, present, rfl⟩
      exact sound survived
  | takes event =>
      rcases Option.map_eq_some_iff.mp taken with ⟨state, stepped, rfl⟩
      exact step_held (sound (step_some.mp stepped).1) stepped survived

end Holding

/-- `Close` as it is meant: of a connected client it ends connection and session, and of
another it leaves everything alone. -/
structure CloseWorks (code : Nat) (message : String) (before after : State) : Prop where
  connected : before.client.connected = true →
    (∃ stream, before.client.connectStream = some stream ∧
      after.outputs = before.outputs ++ [.closeStream stream, .closeSession code message]) ∧
    after.client = before.client.cleared ∧
    after.onCloseRuns = before.onCloseRuns + if before.client.onClose then 1 else 0
  disconnected : before.client.connected = false →
    after.fault = none ∧ after.client = before.client

/-- What `Close` does: nothing on a connected client, a nil call without a connect stream, and
behind a `Connect` that failed late it closes what is left. -/
inductive CloseEffect (varint : Quicvarint) (code : Nat) (message : String)
    (onClose : List ApiCall) (before : State) : State → Prop where
  | connected (connected : before.client.connected = true) :
      CloseEffect varint code message onClose before before
  | unopened (disconnected : before.client.connected = false)
      (unopened : before.client.connectStream = none) :
      CloseEffect varint code message onClose before before.nilCall
  | opened (disconnected : before.client.connected = false) {stream : StreamId}
      (opened : before.client.connectStream = some stream) :
      CloseEffect varint code message onClose before (close varint onClose { before with
        outputs := before.outputs ++ [.closeStream stream, .closeSession code message] })

section Close

variable {varint : Quicvarint} {state next : State} {code : Nat} {message : String}
  {onClose : List ApiCall}

theorem close_effect (held : Held state.client) (closed : Option Error) :
    CloseEffect varint code message onClose state
      (call varint onClose state (.close code message closed)).2 := by
  cases connected : state.client.connected with
  | true =>
      simp only [call, callWith, closeWith, connected]
      exact .connected connected
  | false =>
      cases opened : state.client.connectStream with
      | none =>
          simp only [call, callWith, closeWith, connected, opened]
          exact .unopened connected opened
      | some stream =>
          have present : state.client.session ≠ none := by
            apply held.session
            rw [opened]
            exact Option.some_ne_none stream
          rcases Option.ne_none_iff_exists'.mp present with ⟨session, dialled⟩
          simp only [call, callWith, closeWith, connected, opened, dialled]
          exact .opened connected opened

theorem close_session (varint : Quicvarint) (quiet : state.fault = none)
    (onClose : List ApiCall) : (close varint onClose state).client.session = none := by
  rcases close_client varint quiet onClose with ⟨undialled, same⟩ | cleared | ⟨gone, -⟩
  · rw [same]
    exact undialled
  · rw [cleared]
    rfl
  · exact gone

theorem close_fails (held : Held state.client) (quiet : state.fault = none)
    (effect : CloseEffect varint code message onClose state next) :
    ¬CloseWorks code message state next := by
  intro works
  cases effect with
  | connected connected =>
      rcases (works.connected connected).1 with ⟨stream, -, grown⟩
      have longer := congrArg List.length grown
      simp at longer
  | unopened disconnected unopened =>
      have survived := (works.disconnected disconnected).1
      cases survived
  | @opened disconnected stream opened =>
      have same := (works.disconnected disconnected).2
      have gone := @close_session { state with
        outputs := state.outputs ++ [.closeStream stream, .closeSession code message] }
        varint quiet onClose
      rw [same] at gone
      apply held.session _ gone
      rw [opened]
      exact Option.some_ne_none stream

end Close

def OnEveryClose (law : Nat → String → List ApiCall → State → State → Prop) (before : Process)
    (event : ProcessEvent) (after : Process) : Prop :=
  ∀ code message closed onClose, event = .takes (.call (.close code message closed) onClose) →
    law code message onClose before.state after.state

theorem close_taken {process after : Process} {code : Nat} {message : String}
    {closed : Option Error} {onClose : List ApiCall} (sound : Sound process)
    (taken : processStep packages process (.takes (.call (.close code message closed) onClose)) =
      some after) :
    Held process.state.client ∧ process.state.fault = none ∧
      CloseEffect packages.varint code message onClose process.state after.state := by
  rcases Option.map_eq_some_iff.mp taken with ⟨state, stepped, rfl⟩
  rcases step_some.mp stepped with ⟨quiet, -, progressed⟩
  have held := sound quiet
  cases progressed
  exact ⟨held, quiet, close_effect held closed⟩

theorem created_sound (remoteAddr path : GoString) : Sound (created remoteAddr path) :=
  fun _ => ⟨fun present => absurd rfl present, fun connected => by cases connected⟩

theorem close_effects (remoteAddr path : GoString) (events : List ProcessEvent) :
    Steps (processStep packages) (OnEveryClose (CloseEffect packages.varint))
      (created remoteAddr path) events := by
  apply steps_of_invariant Sound _ (created_sound remoteAddr path)
  intro process event after sound taken
  refine ⟨?_, process_sound sound taken⟩
  rintro code message closed onClose rfl
  exact (close_taken packages sound taken).2.2

/-- In no run does a call of `Close` do what it is for. -/
theorem close_never_works (remoteAddr path : GoString) (events : List ProcessEvent) :
    Steps (processStep packages)
      (OnEveryClose fun code message _ before after => ¬CloseWorks code message before after)
      (created remoteAddr path) events := by
  apply steps_of_invariant Sound _ (created_sound remoteAddr path)
  intro process event after sound taken
  refine ⟨?_, process_sound sound taken⟩
  rintro code message closed onClose rfl
  rcases close_taken packages sound taken with ⟨held, quiet, effect⟩
  exact close_fails held quiet effect

/-- A client that was never connected is closed. -/
theorem fresh_close_panics : ¬∀ events, Steps (processStep .reference)
    (OnEveryClose fun code message _ before after => CloseWorks code message before after)
    (created (lit "localhost:4433") (lit "/echo")) events := by
  intro works
  have closing := works [.takes (.call (.close 0 "bye" none) [])]
  have survived := ((closing _ rfl).1 0 "bye" none [] rfl).disconnected rfl
  cases survived.1

end WebTransportGos.Client
