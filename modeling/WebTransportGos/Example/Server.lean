import WebTransportGos.Handshake.FrameLength
import WebTransportGos.Handshake.RequestTrip
import WebTransportGos.Session.Closing

/-!
webtransport_server.go, `Run`, and example/server/server.go, `main`: one process with a
goroutine for every QUIC session, those of its transport, and the goroutine that takes
transports from the channel `server.Webtransport`. A step is the code between two blocking
calls, except that this goroutine may be interrupted wherever it reads `transport.Req`,
which `close` sets to nil.
-/

namespace WebTransportGos.Program

open GoText StepSystem

set_option autoImplicit false

inductive App where
  | counter
  | room
  deriving DecidableEq, Repr

def App.path : App → GoString
  | .counter => lit "/counter"
  | .room => lit "/room"

/-- How far `handleSession` is with a session: `offered` is blocked in the send on the
channel, `ended` has returned without a transport. -/
inductive Phase where
  | handshake
  | ended
  | offered (transport : Server.State)
  | taken (transport : Server.State)

def Phase.transport : Phase → Option Server.State
  | .handshake => none
  | .ended => none
  | .offered transport => some transport
  | .taken transport => some transport

def Phase.moved : Phase → Server.State → Phase
  | .handshake, _ => .handshake
  | .ended, _ => .ended
  | .offered _, transport => .offered transport
  | .taken _, transport => .taken transport

/-- Where the goroutine over `server.Webtransport` is. -/
inductive Point where
  | receives
  | path (app : App) (session : SessionRef)
  | log (app : App) (session : SessionRef)
  | refuses (session : SessionRef)
  | returned (app : App) (session : SessionRef)
  deriving DecidableEq, Repr

/-- `accepted` logs the requests answered with 200, `taken` the sessions received from the
channel. -/
structure State where
  sessions : SessionRef → Option Phase
  point : Point
  accepted : List (SessionRef × H3.Request)
  taken : List SessionRef
  exited : Bool

def newProgram : State := ⟨fun _ => none, .receives, [], [], false⟩

inductive Event where
  | accept (session : SessionRef)
  | acceptFails
  | handshake (incoming : Server.Incoming)
  | transport (session : SessionRef) (event : Server.Event)
  | take (session : SessionRef)
  | goesOn

namespace State

def transport (state : State) (session : SessionRef) : Option Server.State :=
  (state.sessions session).bind Phase.transport

def set (state : State) (session : SessionRef) (phase : Phase) : State :=
  { state with sessions := Function.update state.sessions session (some phase) }

/-- The transport of a session has moved. A panic in one of its goroutines ends the process. -/
def moved (state : State) (session : SessionRef) (transport : Server.State) : State :=
  { state with
    sessions := Function.update state.sessions session
      ((state.sessions session).map fun phase => phase.moved transport)
    exited := transport.nilCall || transport.pool.crashed }

end State

/-- What is no call or receive of the application. -/
def outside : Server.Event → Bool
  | .accept _ _ _ | .header _ _ | .timer _ | .message _ _ | .connectRead _ _ _ => true
  | _ => false

/-- What the goroutines and the callback of a served transport do. The room ranges over
`Stream` only. -/
def App.uses (app : App) (pool : Pool) : Server.Event → Bool
  | .receive stream => app = .counter || (pool.find stream).any fun handler => handler.kind = .bidi
  | .await kind => app = .counter || kind = .bidi
  | .call (.createStream _) _ | .call (.createUniStream _) _ => app = .counter
  | .call (.sendMessage _ _) _ => true
  | _ => false

def State.allows (state : State) (session : SessionRef) (pool : Pool) (event : Server.Event) :
    Bool :=
  outside event || match state.point with
    | .returned app served => served = session && app.uses pool event
    | _ => false

variable (packages : H3.Packages) (server : Server.WebTransportServer)

def handshakeStep (state : State) (incoming : Server.Incoming) : Option State :=
  match state.sessions incoming.session with
  | some .handshake =>
      let handled := Server.handleSession packages server incoming
      match handled.outcome with
      | .panic _ => some { state with exited := true }
      | .hang => none
      | .fail _ => some (state.set incoming.session .ended)
      | .ok _ => match handled.transport with
          | none => some (state.set incoming.session .ended)
          | some transport => some { state.set incoming.session (.offered transport) with
              accepted := state.accepted ++
                transport.transport.req.toList.map fun req => (incoming.session, req) }
  | _ => none

/-- One point of the goroutine; a nil `Req` is a panic. -/
def mainStep (state : State) : Option State :=
  match state.point with
  | .receives => none
  | .path app session => (state.transport session).map fun transport =>
      match transport.transport.req with
      | none => { state with exited := true }
      | some req => { state with point :=
          if req.url.path = app.path then .log app session
          else match app with
            | .counter => .path .room session
            | .room => .refuses session }
  | .log app session => (state.transport session).bind fun transport =>
      match transport.transport.req with
      | none => some { state with exited := true }
      | some _ => (Server.step packages.varint transport (.setOnMessage true)).map fun after =>
          { state.moved session after with point := .returned app session }
  | .refuses session => (state.transport session).bind fun transport =>
      (Server.step packages.varint transport (.call (.close 1000 "not support") [])).map fun after =>
        { state.moved session after with point := .receives }
  | .returned _ _ => none

def progress (state : State) : Event → Option State
  | .accept session =>
      if (state.sessions session).isNone then some (state.set session .handshake) else none
  | .acceptFails => some { state with exited := true }
  | .handshake incoming => handshakeStep packages server state incoming
  | .transport session event => (state.transport session).bind fun transport =>
      if state.allows session transport.pool event then
        (Server.step packages.varint transport event).map (state.moved session)
      else none
  | .take session => match state.point, state.sessions session with
      | .receives, some (.offered transport) =>
          some { state.set session (.taken transport) with
            point := .path .counter session
            taken := state.taken ++ [session] }
      | _, _ => none
  | .goesOn => mainStep packages state

def step (state : State) (event : Event) : Option State :=
  if state.exited then none else progress packages server state event

section Handshake

variable {packages} {server} {incoming : Server.Incoming}

theorem handled_transport {transport : Server.State}
    (handled : (Server.handleSession packages server incoming).transport = some transport) :
    (Server.handleSession packages server incoming).outcome = .ok () ∧
      ∃ req requestStream settingsStream, transport =
        Server.createWebTransport incoming.session req requestStream settingsStream := by
  cases reached : incoming.requestStream with
  | none =>
      obtain ⟨control, silent⟩ := Server.handle_session_unreached packages server reached
      rw [silent] at handled
      cases handled
  | some streams =>
      obtain ⟨settingsStream, requestStream, source⟩ := streams
      rw [Server.handle_session_reached packages server reached] at handled ⊢
      cases read : ((Server.readRequest packages).run source).1 with
      | ok found =>
          rw [read, Server.respond] at handled
          rw [Server.respond]
          split at handled
          next accepted =>
            cases handled
            rw [if_pos accepted]
            exact ⟨rfl, _, _, _, rfl⟩
          · cases handled
      | fail err =>
          rw [read] at handled
          cases handled
      | hang =>
          rw [read] at handled
          cases handled
      | panic reason =>
          rw [read] at handled
          cases handled

theorem no_panic_iff : (∀ reason, (Server.handleSession packages server incoming).outcome ≠
    .panic reason) ↔ Server.LengthFits packages incoming := by
  constructor
  · intro survives settingsStream requestStream source length rest reached next
    by_contra large
    apply survives outOfRange
    rw [Server.handle_session_reached packages server reached,
      Server.read_request_large next (Nat.not_le.mp large)]
    rfl
  · intro fits
    exact ((Server.headers_end_iff packages server incoming).mpr fits).noPanic

end Handshake

section Transports

variable {state : State} {session other : SessionRef} {transport : Server.State}

theorem transport_set (phase : Phase) : (state.set session phase).transport other =
    if other = session then phase.transport else state.transport other := by
  rw [State.transport, State.set]
  dsimp only
  by_cases same : other = session
  · rw [same, Function.update_self, if_pos rfl]
    rfl
  · rw [Function.update_of_ne same, if_neg same]
    rfl

theorem transport_moved (present : state.transport session = some transport)
    (after : Server.State) : (state.moved session after).transport other =
      if other = session then some after else state.transport other := by
  rw [State.transport, State.moved]
  dsimp only
  by_cases same : other = session
  · rw [same, Function.update_self, if_pos rfl]
    obtain ⟨phase, held, inside⟩ := Option.bind_eq_some_iff.mp present
    rw [held]
    cases phase with
    | handshake => cases inside
    | ended => cases inside
    | offered transport => rfl
    | taken transport => rfl
  · rw [Function.update_of_ne same, if_neg same]
    rfl

structure Extends (state next : State) : Prop where
  accepted : state.accepted ⊆ next.accepted
  sessions : ∀ session transport, state.sessions session = some (.taken transport) →
    ∃ after, next.sessions session = some (.taken after) ∧
      (Server.Closed transport → Server.Closed after)

theorem extends_same {next : State} (accepted : next.accepted = state.accepted)
    (sessions : next.sessions = state.sessions) : Extends state next where
  accepted := by
    rw [accepted]
    exact List.Subset.refl _
  sessions session transport held := ⟨transport, by rw [sessions, held], id⟩

theorem extends_set {phase : Phase}
    (other : ∀ transport, state.sessions session = some (.taken transport) →
      phase = .taken transport) : Extends state (state.set session phase) where
  accepted := List.Subset.refl _
  sessions taken transport held := by
    refine ⟨transport, ?_, id⟩
    rw [State.set]
    by_cases same : taken = session
    · rw [same] at held
      rw [same, other transport held]
      exact Function.update_self _ _ _
    · exact (Function.update_of_ne same _ _).trans held

theorem extends_moved {varint : Quicvarint} {event : Server.Event} {after : Server.State}
    (present : state.transport session = some transport) (consistent : Server.Consistent transport)
    (stepped : Server.step varint transport event = some after) :
    Extends state (state.moved session after) where
  accepted := List.Subset.refl _
  sessions taken earlier held := by
    by_cases same : taken = session
    · have equal : transport = earlier := by
        rw [State.transport, ← same, held] at present
        exact (Option.some.inj present).symm
      refine ⟨after, ?_, ?_⟩
      · rw [State.moved, same]
        dsimp only
        rw [Function.update_self, ← same, held]
        rfl
      · intro closed
        rw [← equal] at closed
        exact Server.step_closed consistent closed stepped
    · exact ⟨earlier, (Function.update_of_ne same _ _).trans held, id⟩

/-- `close` clears the request, and nothing else changes it. -/
theorem step_request {varint : Quicvarint} {event : Server.Event} {after : Server.State}
    (consistent : Server.Consistent transport)
    (stepped : Server.step varint transport event = some after) :
    after.transport.req = none ∨ after.transport.req = transport.transport.req := by
  cases closing : Server.callsClose transport event with
  | true => exact .inl (Server.step_closed_of_close consistent stepped closing).req
  | false => exact .inr (congrArg Prod.fst (Server.step_kept stepped closing).own)

end Transports

def Foreign (req : H3.Request) : Prop := ∀ app : App, req.url.path ≠ app.path

def Point.session : Point → Option SessionRef
  | .receives => none
  | .path _ session | .log _ session | .refuses session | .returned _ session => some session

def Point.Knows : Point → H3.Request → Prop
  | .receives, _ | .path .counter _, _ => True
  | .path .room _, req => req.url.path ≠ App.counter.path
  | .log app _, req | .returned app _, req => req.url.path = app.path
  | .refuses _, req => Foreign req

structure Refused (state : State) (session : SessionRef) : Prop where
  phase : ∃ transport, state.sessions session = some (.taken transport) ∧ Server.Closed transport
  request : ∃ req, (session, req) ∈ state.accepted ∧ Foreign req

/-- Every transport is one of the session's request, and all that were taken have been refused,
but for one in the hands of the goroutine. -/
structure Sound (state : State) : Prop where
  transports : ∀ session transport, state.transport session = some transport →
    Server.Consistent transport ∧ ∃ req, (session, req) ∈ state.accepted ∧
      (transport.transport.req = none ∨ transport.transport.req = some req)
  once : (state.accepted.map Prod.fst).Nodup
  known : ∀ session ∈ state.accepted.map Prod.fst, state.transport session ≠ none
  idle : state.point.session = none → ∀ session ∈ state.taken, Refused state session
  busy : ∀ session, state.point.session = some session → ∃ before transport req,
    state.taken = before ++ [session] ∧ (∀ other ∈ before, Refused state other) ∧
      state.sessions session = some (.taken transport) ∧ (session, req) ∈ state.accepted ∧
      state.point.Knows req

section Steps

variable {packages} {server} {state next : State} {session : SessionRef}

theorem Refused.extend (refused : Refused state session) (extended : Extends state next) :
    Refused next session := by
  obtain ⟨transport, held, closed⟩ := refused.phase
  obtain ⟨after, still, keeps⟩ := extended.sessions session transport held
  obtain ⟨req, logged, foreign⟩ := refused.request
  exact ⟨⟨after, still, keeps closed⟩, ⟨req, extended.accepted logged, foreign⟩⟩

theorem Sound.extend (sound : Sound state) (extended : Extends state next)
    (point : next.point = state.point) (taken : next.taken = state.taken)
    (transports : ∀ session transport, next.transport session = some transport →
      Server.Consistent transport ∧ ∃ req, (session, req) ∈ next.accepted ∧
        (transport.transport.req = none ∨ transport.transport.req = some req))
    (once : (next.accepted.map Prod.fst).Nodup)
    (known : ∀ session ∈ next.accepted.map Prod.fst, next.transport session ≠ none) :
    Sound next where
  transports := transports
  once := once
  known := known
  idle := by
    rw [point, taken]
    intro free session member
    exact (sound.idle free session member).extend extended
  busy := by
    rw [point, taken]
    intro session held
    obtain ⟨before, transport, req, order, refused, phase, logged, knows⟩ := sound.busy session held
    obtain ⟨after, still, -⟩ := extended.sessions session transport phase
    exact ⟨before, after, req, order, fun other member => (refused other member).extend extended,
      still, extended.accepted logged, knows⟩

theorem moved_transports (sound : Sound state) {varint : Quicvarint} {event : Server.Event}
    {transport after : Server.State} (present : state.transport session = some transport)
    (stepped : Server.step varint transport event = some after) :
    (∀ other found, (state.moved session after).transport other = some found →
      Server.Consistent found ∧ ∃ req, (other, req) ∈ state.accepted ∧
        (found.transport.req = none ∨ found.transport.req = some req)) ∧
    ∀ other ∈ state.accepted.map Prod.fst, (state.moved session after).transport other ≠ none := by
  obtain ⟨consistent, req, logged, request⟩ := sound.transports session transport present
  constructor
  · intro other found held
    rw [transport_moved present] at held
    split at held
    next same =>
      cases held
      refine ⟨Server.step_consistent consistent stepped, req, same ▸ logged, ?_⟩
      rcases step_request consistent stepped with cleared | kept
      · exact .inl cleared
      · rw [kept]
        exact request
    next => exact sound.transports other found held
  · intro other member
    rw [transport_moved present]
    split
    · exact Option.some_ne_none _
    · exact sound.known other member

theorem moved_sound (sound : Sound state) {varint : Quicvarint} {event : Server.Event}
    {transport after : Server.State} (present : state.transport session = some transport)
    (stepped : Server.step varint transport event = some after) :
    Sound (state.moved session after) := by
  obtain ⟨transports, known⟩ := moved_transports sound present stepped
  have consistent := (sound.transports session transport present).1
  exact sound.extend (extends_moved present consistent stepped) rfl rfl transports sound.once known

theorem set_sound (sound : Sound state) {phase : Phase} (absent : state.transport session = none)
    (empty : phase.transport = none) : Sound (state.set session phase) := by
  have same (other : SessionRef) :
      (state.set session phase).transport other = state.transport other := by
    rw [transport_set]
    split
    next equal => rw [empty, equal, absent]
    next => rfl
  refine sound.extend (extends_set ?_) rfl rfl ?_ sound.once ?_
  · intro transport held
    rw [State.transport, held] at absent
    cases absent
  · intro other transport
    rw [same]
    exact sound.transports other transport
  · intro other member
    rw [same]
    exact sound.known other member

theorem exit_sound (sound : Sound state) : Sound { state with exited := true } :=
  sound.extend (extends_same rfl rfl) rfl rfl sound.transports sound.once sound.known

theorem offer_sound (sound : Sound state) (absent : state.transport session = none)
    (req : H3.Request) (ref connectStream settingsStream : StreamId) :
    Sound { state.set session
        (.offered (Server.createWebTransport ref req connectStream settingsStream)) with
      accepted := state.accepted ++ [(session, req)] } := by
  let created := Server.createWebTransport ref req connectStream settingsStream
  have transports (other : SessionRef) : State.transport { state.set session (.offered created) with
      accepted := state.accepted ++ [(session, req)] } other =
        if other = session then some created else state.transport other :=
    transport_set (.offered created)
  have extended : Extends state { state.set session (.offered created) with
      accepted := state.accepted ++ [(session, req)] } := by
    have placed : Extends state (state.set session (.offered created)) := by
      apply extends_set
      intro transport held
      rw [State.transport, held] at absent
      cases absent
    exact ⟨List.subset_append_left _ _, placed.sessions⟩
  refine sound.extend extended rfl rfl ?_ ?_ ?_
  · intro other found held
    rw [transports] at held
    split at held
    next same =>
      cases held
      rw [same]
      exact ⟨Server.create_consistent ref req connectStream settingsStream, req,
        List.mem_append_right _ List.mem_cons_self, .inr rfl⟩
    next =>
      obtain ⟨consistent, own, logged, request⟩ := sound.transports other found held
      exact ⟨consistent, own, List.mem_append_left _ logged, request⟩
  · rw [List.map_append]
    apply sound.once.append (List.nodup_singleton _)
    intro other old new
    rw [List.mem_singleton.mp new] at old
    exact sound.known session old absent
  · intro other member
    rw [transports]
    split
    · exact Option.some_ne_none _
    next apart =>
      rw [List.map_append, List.mem_append] at member
      rcases member with old | new
      · exact sound.known other old
      · exact absurd (List.mem_singleton.mp new) apart

theorem handshake_sound (sound : Sound state) {incoming : Server.Incoming}
    (taken : handshakeStep packages server state incoming = some next) : Sound next := by
  rw [handshakeStep] at taken
  split at taken
  next waiting =>
    have absent : state.transport incoming.session = none := by
      rw [State.transport, waiting]
      rfl
    dsimp only at taken
    split at taken
    · cases taken
      exact exit_sound sound
    · cases taken
    · cases taken
      exact set_sound sound absent rfl
    · split at taken
      · cases taken
        exact set_sound sound absent rfl
      next transport handled =>
        cases taken
        obtain ⟨-, req, requestStream, settingsStream, rfl⟩ := handled_transport handled
        exact offer_sound sound absent req _ requestStream settingsStream
  next => cases taken

theorem take_sound (sound : Sound state) {transport : Server.State}
    (free : state.point.session = none)
    (offered : state.sessions session = some (.offered transport)) :
    Sound { state.set session (.taken transport) with
      point := .path .counter session, taken := state.taken ++ [session] } := by
  have present : state.transport session = some transport := by
    rw [State.transport, offered]
    rfl
  have same (other : SessionRef) : State.transport { state.set session (.taken transport) with
      point := .path .counter session, taken := state.taken ++ [session] } other =
        state.transport other := by
    refine (transport_set (.taken transport)).trans ?_
    split
    next equal =>
      rw [equal, present]
      rfl
    next => rfl
  have placed : Extends state (state.set session (.taken transport)) := by
    apply extends_set
    intro other held
    rw [offered] at held
    cases held
  have extended : Extends state { state.set session (.taken transport) with
      point := .path .counter session, taken := state.taken ++ [session] } :=
    ⟨placed.accepted, placed.sessions⟩
  constructor
  · intro other found held
    rw [same] at held
    exact sound.transports other found held
  · exact sound.once
  · intro other member
    rw [same]
    exact sound.known other member
  · intro impossible
    cases impossible
  · intro other held
    cases held
    obtain ⟨-, req, logged, -⟩ := sound.transports session transport present
    refine ⟨state.taken, transport, req, rfl, ?_, Function.update_self _ _ _, logged, trivial⟩
    intro earlier member
    exact (sound.idle free earlier member).extend extended

theorem point_sound (sound : Sound state) {point : Point}
    (held : state.point.session = some session) (same : point.session = some session)
    (learns : ∀ req, (session, req) ∈ state.accepted → state.point.Knows req → point.Knows req) :
    Sound { state with point := point } where
  transports := sound.transports
  once := sound.once
  known := sound.known
  idle free := by
    rw [same] at free
    cases free
  busy other holds := by
    have equal : session = other := Option.some.inj (same.symm.trans holds)
    subst equal
    obtain ⟨before, transport, req, order, refused, phase, logged, knows⟩ :=
      sound.busy session held
    refine ⟨before, transport, req, order, ?_, phase, logged, learns req logged knows⟩
    intro earlier member
    exact (refused earlier member).extend (extends_same rfl rfl)

theorem request_unique (sound : Sound state) {req other : H3.Request}
    (one : (session, req) ∈ state.accepted) (two : (session, other) ∈ state.accepted) :
    req = other :=
  congrArg Prod.snd (List.inj_on_of_nodup_map sound.once one two rfl)

theorem close_closes {varint : Quicvarint} {transport after : Server.State} {code : Nat}
    {message : String} {onClose : List Server.ApiCall} (consistent : Server.Consistent transport)
    (stepped : Server.step varint transport (.call (.close code message) onClose) = some after) :
    Server.Closed after := by
  cases consistent.life with
  | inl opened =>
      have calls : Server.callsClose transport (.call (.close code message) onClose) = true :=
        Option.isSome_iff_ne_none.mpr opened.session
      exact Server.step_closed_of_close consistent stepped calls
  | inr closed => exact Server.step_closed consistent closed stepped

theorem refuse_sound (sound : Sound state) (point : state.point = .refuses session)
    {varint : Quicvarint} {transport after : Server.State} {code : Nat} {message : String}
    {onClose : List Server.ApiCall} (present : state.transport session = some transport)
    (stepped : Server.step varint transport (.call (.close code message) onClose) = some after) :
    Sound { state.moved session after with point := .receives } := by
  have moves := moved_sound sound present stepped
  have consistent := (sound.transports session transport present).1
  have held : (state.moved session after).point.session = some session := by
    rw [State.moved, point]
    rfl
  obtain ⟨before, found, req, order, refused, phase, logged, knows⟩ := moves.busy session held
  have closed : Server.Closed found := by
    have same : (state.moved session after).transport session =
        if session = session then some after else state.transport session :=
      transport_moved present after
    rw [if_pos rfl, State.transport, phase] at same
    rw [Option.some.inj same]
    exact close_closes consistent stepped
  have foreign : Foreign req := by
    rw [State.moved, point] at knows
    exact knows
  constructor
  · exact moves.transports
  · exact moves.once
  · exact moves.known
  · intro _ other member
    have extended : Extends (state.moved session after)
      { state.moved session after with point := .receives } := extends_same rfl rfl
    have listed : other ∈ (state.moved session after).taken := member
    rw [order, List.mem_append] at listed
    rcases listed with earlier | last
    · exact (refused other earlier).extend extended
    · rw [List.mem_singleton.mp last]
      have own : Refused (state.moved session after) session :=
        ⟨⟨found, phase, closed⟩, ⟨req, logged, foreign⟩⟩
      exact own.extend extended
  · intro other impossible
    cases impossible

theorem path_sound {app : App} {req : H3.Request} {after : Point}
    (moves : after = if req.url.path = app.path then .log app session
      else match app with
        | .counter => .path .room session
        | .room => .refuses session)
    (sound : Sound state) (point : state.point = .path app session) {transport : Server.State}
    (present : state.transport session = some transport)
    (read : transport.transport.req = some req) : Sound { state with point := after } := by
  obtain ⟨-, own, logged, request⟩ := sound.transports session transport present
  have agrees : req = own := by
    rcases request with cleared | kept
    · rw [read] at cleared
      cases cleared
    · rw [read] at kept
      exact Option.some.inj kept
  subst agrees
  have held : state.point.session = some session := by
    rw [point]
    rfl
  rw [moves]
  apply point_sound sound held
  · split
    · rfl
    · cases app with
      | counter => rfl
      | room => rfl
  · intro other present knows
    have equal := request_unique sound logged present
    subst equal
    split
    next matched => exact matched
    next apart =>
      cases app with
      | counter => exact apart
      | room =>
          rw [point] at knows
          intro either
          cases either with
          | counter => exact knows
          | room => exact apart

theorem main_sound (sound : Sound state) (taken : mainStep packages state = some next) :
    Sound next := by
  rw [mainStep] at taken
  cases point : state.point with
  | receives =>
      rw [point] at taken
      cases taken
  | path app session =>
      rw [point] at taken
      obtain ⟨transport, present, same⟩ := Option.map_eq_some_iff.mp taken
      split at same
      · cases same
        have exits := exit_sound sound
        rw [point] at exits
        exact exits
      next req read =>
        subst same
        exact path_sound rfl sound point present read
  | log app session =>
      rw [point] at taken
      obtain ⟨transport, present, same⟩ := Option.bind_eq_some_iff.mp taken
      split at same
      · cases same
        have exits := exit_sound sound
        rw [point] at exits
        exact exits
      next req read =>
        obtain ⟨after, stepped, rfl⟩ := Option.map_eq_some_iff.mp same
        have moves := moved_sound sound present stepped
        have held : (state.moved session after).point.session = some session := by
          rw [State.moved, point]
          rfl
        apply point_sound moves held rfl
        intro other _ knows
        rw [State.moved, point] at knows
        exact knows
  | refuses session =>
      rw [point] at taken
      obtain ⟨transport, present, same⟩ := Option.bind_eq_some_iff.mp taken
      obtain ⟨after, stepped, rfl⟩ := Option.map_eq_some_iff.mp same
      exact refuse_sound sound point present stepped
  | returned app session =>
      rw [point] at taken
      cases taken

theorem step_sound (sound : Sound state) {event : Event}
    (taken : step packages server state event = some next) : Sound next := by
  rw [step] at taken
  split at taken
  · cases taken
  · cases event with
    | accept session =>
        obtain ⟨fresh, same⟩ := Option.ite_none_right_eq_some.mp taken
        cases same
        apply set_sound sound _ rfl
        rw [State.transport, Option.isNone_iff_eq_none.mp fresh]
        rfl
    | acceptFails =>
        cases taken
        exact exit_sound sound
    | handshake incoming => exact handshake_sound sound taken
    | transport session event =>
        obtain ⟨transport, present, same⟩ := Option.bind_eq_some_iff.mp taken
        obtain ⟨-, moved⟩ := Option.ite_none_right_eq_some.mp same
        obtain ⟨after, stepped, rfl⟩ := Option.map_eq_some_iff.mp moved
        exact moved_sound sound present stepped
    | take session =>
        rw [progress] at taken
        split at taken
        next transport free offered =>
          cases taken
          exact take_sound sound (by rw [free]; rfl) offered
        next => cases taken
    | goesOn => exact main_sound sound taken

theorem new_sound : Sound newProgram where
  transports session transport impossible := by cases impossible
  once := List.nodup_nil
  known session impossible := by cases impossible
  idle _ session impossible := by cases impossible
  busy session impossible := by cases impossible

end Steps

section Serving

variable {packages} {server} {state next : State} {session : SessionRef}

structure Stuck (state next : State) : Prop where
  point : next.point = state.point
  taken : next.taken = state.taken
  offered : ∀ session transport, state.sessions session = some (.offered transport) →
    ∃ after, next.sessions session = some (.offered after)

theorem stuck_set {phase : Phase}
    (other : ∀ transport, state.sessions session ≠ some (.offered transport)) :
    Stuck state (state.set session phase) where
  point := rfl
  taken := rfl
  offered waiting transport held := by
    refine ⟨transport, ?_⟩
    have apart : waiting ≠ session := by
      intro same
      rw [same] at held
      exact other transport held
    exact (Function.update_of_ne apart _ _).trans held

theorem stuck_moved (transport : Server.State) : Stuck state (state.moved session transport) where
  point := rfl
  taken := rfl
  offered waiting before held := by
    by_cases same : waiting = session
    · refine ⟨transport, ?_⟩
      rw [State.moved, same]
      dsimp only
      rw [Function.update_self, ← same, held]
      rfl
    · exact ⟨before, (Function.update_of_ne same _ _).trans held⟩

theorem stuck_exits : Stuck state { state with exited := true } :=
  ⟨rfl, rfl, fun _ transport held => ⟨transport, held⟩⟩

/-- Behind its `return` the goroutine takes nothing. -/
theorem step_stuck {app : App} (returned : state.point = .returned app session) {event : Event}
    (taken : step packages server state event = some next) : Stuck state next := by
  rw [step] at taken
  split at taken
  · cases taken
  · cases event with
    | accept session =>
        obtain ⟨fresh, same⟩ := Option.ite_none_right_eq_some.mp taken
        cases same
        apply stuck_set
        intro transport held
        rw [held] at fresh
        cases fresh
    | acceptFails =>
        cases taken
        exact stuck_exits
    | handshake incoming =>
        rw [progress, handshakeStep] at taken
        split at taken
        next waiting =>
          have other (transport : Server.State) :
              state.sessions incoming.session ≠ some (.offered transport) := by
            rw [waiting]
            intro impossible
            cases impossible
          dsimp only at taken
          split at taken
          · cases taken
            exact stuck_exits
          · cases taken
          · cases taken
            exact stuck_set other
          · split at taken
            · cases taken
              exact stuck_set other
            next transport _ =>
              cases taken
              have placed := @stuck_set state incoming.session (.offered transport) other
              exact ⟨placed.point, placed.taken, placed.offered⟩
        next => cases taken
    | transport session event =>
        obtain ⟨transport, present, same⟩ := Option.bind_eq_some_iff.mp taken
        obtain ⟨-, moved⟩ := Option.ite_none_right_eq_some.mp same
        obtain ⟨after, stepped, rfl⟩ := Option.map_eq_some_iff.mp moved
        exact stuck_moved after
    | take session =>
        rw [progress, returned] at taken
        cases taken
    | goesOn =>
        rw [progress, mainStep, returned] at taken
        cases taken

/-- All sessions that were taken have been refused, but for one, which the goroutine has in
its hands or serves; when it serves one it takes no other, in whatever comes. -/
theorem serves_one (reached : Reachable (step packages server) newProgram state) :
    (∃ refused, (∀ session ∈ refused, Refused state session) ∧
      (state.taken = refused ∨ ∃ session, state.taken = refused ++ [session])) ∧
    ∀ app session, state.point = .returned app session →
      (∃ req, (session, req) ∈ state.accepted ∧ req.url.path = app.path) ∧
      state.taken.getLast? = some session ∧
      ∀ events final, run (step packages server) state events = some final → Stuck state final := by
  have sound : Sound state :=
    reachable_invariant (fun _ _ _ sound taken => step_sound sound taken) new_sound reached
  constructor
  · cases held : state.point.session with
    | none => exact ⟨state.taken, sound.idle held, .inl rfl⟩
    | some session =>
        obtain ⟨before, _, _, order, refused, -⟩ := sound.busy session held
        exact ⟨before, refused, .inr ⟨session, order⟩⟩
  · intro app session returned
    have held : state.point.session = some session := by
      rw [returned]
      rfl
    obtain ⟨before, transport, req, order, -, -, logged, knows⟩ := sound.busy session held
    rw [returned] at knows
    refine ⟨⟨req, logged, knows⟩, ?_, ?_⟩
    · rw [order, List.getLast?_append_of_ne_nil _ (List.cons_ne_nil _ _)]
      rfl
    · intro events final ran
      have stays : Stuck state state := ⟨rfl, rfl, fun _ transport held => ⟨transport, held⟩⟩
      refine run_invariant ?_ stays ran
      intro before event after stuck taken
      have goes := step_stuck (stuck.point.trans returned) taken
      refine ⟨goes.point.trans stuck.point, goes.taken.trans stuck.taken, ?_⟩
      intro waiting transport offered
      obtain ⟨middle, still⟩ := stuck.offered waiting transport offered
      exact goes.offered waiting middle still

end Serving

def visitor : Server.Incoming where
  session := 1
  remoteAddr := lit "127.0.0.1:50000"
  walks := .same
  openUniStream := .ok 3
  acceptUniStream := .ok 2
  acceptStream :=
    .ok (0, [⟨connectBytes .reference (lit "localhost:4433") (lit "/room"), none⟩])

/-- The client is served, and nobody is after it. -/
theorem visitor_served : ∃ state : State, state.point = .returned .room 1 ∧
    ∀ events final, run (step .reference ⟨[]⟩) state events = some final → final.taken = [1] := by
  let events : List Event :=
    [.accept 1, .handshake visitor, .take 1, .goesOn, .goesOn, .goesOn]
  have served : (run (step .reference ⟨[]⟩) newProgram events).map
      (fun state => (state.point, state.taken)) = some (.returned .room 1, [1]) := by
    decide +kernel
  obtain ⟨state, ran, same⟩ := Option.map_eq_some_iff.mp served
  have point : state.point = .returned .room 1 := congrArg Prod.fst same
  have taken : state.taken = [1] := congrArg Prod.snd same
  obtain ⟨-, -, stuck⟩ := (serves_one ⟨events, ran⟩).2 .room 1 point
  refine ⟨state, point, ?_⟩
  intro later final runs
  exact (stuck later final runs).taken.trans taken

def Point.Safe : Point → Server.State → Prop
  | .receives, _ | .returned _ _, _ => True
  | .path _ _, transport | .log _ _, transport => transport.transport.req ≠ none
  | .refuses _, transport =>
      transport.transport.closed = false → transport.pool.someSending = false

/-- The listener goes on, a HEADERS frame announces what can be allocated, transports are
closed while no handler is in a send, and not while the goroutine still reads `Req`. -/
def Harmless (state : State) (event : Event) (_ : State) : Prop :=
  match event with
  | .accept _ => True
  | .acceptFails => False
  | .handshake incoming => Server.LengthFits packages incoming
  | .transport session event => ∀ transport, state.transport session = some transport →
      Server.ClosesIdle transport event transport
  | .take _ => True
  | .goesOn => ∀ session transport, state.point.session = some session →
      state.transport session = some transport → state.point.Safe transport

def Survives (_ : State) (_ : Event) (next : State) : Prop := next.exited = false

section Exits

variable {packages} {server} {state next : State} {session : SessionRef} {transport : Server.State}

theorem moved_survives_iff {varint : Quicvarint} {event : Server.Event} {after : Server.State}
    (consistent : Server.Consistent transport)
    (stepped : Server.step varint transport event = some after) :
    (state.moved session after).exited = false ↔ Server.ClosesIdle transport event transport := by
  have alive := Server.step_nil_call consistent stepped
  have idle : Server.NoSendOnClosed transport event after ↔
      Server.ClosesIdle transport event transport :=
    Server.no_send_on_closed_iff consistent stepped
  rw [State.moved, alive, Bool.false_or]
  exact idle

theorem handshake_survives_iff {incoming : Server.Incoming} (alive : state.exited = false)
    (taken : handshakeStep packages server state incoming = some next) :
    next.exited = false ↔ Server.LengthFits packages incoming := by
  have fits : (∀ reason, (Server.handleSession packages server incoming).outcome ≠
      .panic reason) ↔ Server.LengthFits packages incoming := no_panic_iff
  rw [← fits]
  rw [handshakeStep] at taken
  split at taken
  next waiting =>
    dsimp only at taken
    split at taken
    next reason panicked =>
      cases taken
      exact iff_of_false (by simp) fun survives => survives reason panicked
    · cases taken
    next err failed =>
      cases taken
      refine iff_of_true alive fun reason => ?_
      rw [failed]
      intro impossible
      cases impossible
    next ended =>
      have quiet (reason : String) : (Server.handleSession packages server incoming).outcome ≠
          .panic reason := by
        rw [ended]
        intro impossible
        cases impossible
      split at taken
      · cases taken
        exact iff_of_true alive quiet
      · cases taken
        exact iff_of_true alive quiet
  next => cases taken

theorem safe_iff {point : Point} (own : point.session = some session)
    (present : state.transport session = some transport) :
    (∀ session transport, point.session = some session →
      state.transport session = some transport → point.Safe transport) ↔
        point.Safe transport := by
  constructor
  · intro all
    exact all session transport own present
  · intro safe other found same holds
    cases own.symm.trans same
    cases present.symm.trans holds
    exact safe

theorem main_survives_iff (sound : Sound state) (alive : state.exited = false)
    (taken : mainStep packages state = some next) :
    next.exited = false ↔ ∀ session transport, state.point.session = some session →
      state.transport session = some transport → state.point.Safe transport := by
  rw [mainStep] at taken
  cases point : state.point with
  | receives =>
      rw [point] at taken
      cases taken
  | path app session =>
      rw [point] at taken
      obtain ⟨transport, present, same⟩ := Option.map_eq_some_iff.mp taken
      rw [safe_iff rfl present]
      split at same
      next cleared =>
        subst same
        exact iff_of_false (by simp) fun safe => safe cleared
      next req read =>
        subst same
        refine iff_of_true alive ?_
        rw [Point.Safe, read]
        exact Option.some_ne_none _
  | log app session =>
      rw [point] at taken
      obtain ⟨transport, present, same⟩ := Option.bind_eq_some_iff.mp taken
      rw [safe_iff rfl present]
      split at same
      next cleared =>
        cases same
        exact iff_of_false (by simp) fun safe => safe cleared
      next req read =>
        obtain ⟨after, stepped, rfl⟩ := Option.map_eq_some_iff.mp same
        have consistent := (sound.transports session transport present).1
        have survives := @moved_survives_iff state session _ _ _ _ consistent stepped
        refine iff_of_true (survives.mpr ?_) ?_
        · intro impossible
          cases impossible
        · rw [Point.Safe, read]
          exact Option.some_ne_none _
  | refuses session =>
      rw [point] at taken
      obtain ⟨transport, present, same⟩ := Option.bind_eq_some_iff.mp taken
      obtain ⟨after, stepped, rfl⟩ := Option.map_eq_some_iff.mp same
      rw [safe_iff rfl present]
      have consistent := (sound.transports session transport present).1
      have survives := @moved_survives_iff state session _ _ _ _ consistent stepped
      refine survives.trans ?_
      cases consistent.life with
      | inl opened =>
          have calls : Server.callsClose transport
              (.call (.close 1000 "not support") []) = true :=
            Option.isSome_iff_ne_none.mpr opened.session
          rw [Server.ClosesIdle, Point.Safe, calls]
          exact forall_prop_of_true rfl
      | inr closed =>
          rw [Server.ClosesIdle, Point.Safe, closed.closed]
          exact iff_of_true (fun _ impossible => by cases impossible) fun impossible => by
            cases impossible
  | returned app session =>
      rw [point] at taken
      cases taken

theorem step_survives_iff {event : Event} (sound : Sound state)
    (taken : step packages server state event = some next) :
    next.exited = false ↔ Harmless packages state event next := by
  rw [step] at taken
  split at taken
  · cases taken
  next living =>
    have alive : state.exited = false := by simpa using living
    cases event with
    | accept session =>
        obtain ⟨-, same⟩ := Option.ite_none_right_eq_some.mp taken
        cases same
        exact iff_of_true alive trivial
    | acceptFails =>
        cases taken
        exact iff_of_false (by simp) id
    | handshake incoming => exact handshake_survives_iff alive taken
    | transport session event =>
        obtain ⟨transport, present, same⟩ := Option.bind_eq_some_iff.mp taken
        obtain ⟨-, moved⟩ := Option.ite_none_right_eq_some.mp same
        obtain ⟨after, stepped, rfl⟩ := Option.map_eq_some_iff.mp moved
        have consistent := (sound.transports session transport present).1
        refine (moved_survives_iff consistent stepped).trans ?_
        constructor
        · intro idle other held
          cases present.symm.trans held
          exact idle
        · intro idle
          exact idle transport present
    | take session =>
        rw [progress] at taken
        split at taken
        · cases taken
          exact iff_of_true alive trivial
        · cases taken
    | goesOn => exact main_survives_iff sound alive taken

end Exits

/-- The process goes on along a run exactly if every step of it is harmless. -/
theorem survives_iff_harmless (events : List Event) :
    Steps (step packages server) Survives newProgram events ↔
      Steps (step packages server) (Harmless packages) newProgram events := by
  apply steps_iff Sound
  · intro state event next sound taken
    exact step_survives_iff sound taken
  · intro state event next sound _ taken
    exact step_sound sound taken
  · exact new_sound

section Visitor

variable {packages} {server} {incoming : Server.Incoming} {transport : Server.State}

/-- The connect stream of a fresh transport ends: `Req` is nil, and nothing panics. -/
theorem fresh_ends {varint : Quicvarint} {created : Server.State} {ref : SessionRef}
    {req : H3.Request} {connectStream settingsStream : StreamId}
    (same : created = Server.createWebTransport ref req connectStream settingsStream)
    (err : GoReader.Error) :
    ∃ after, Server.step varint created (.connectRead [] (some err) []) = some after ∧
      after.transport.req = none ∧ after.nilCall = false ∧ after.pool.crashed = false := by
  subst same
  have consistent := Server.create_consistent ref req connectStream settingsStream
  have stepped : Server.step varint
      (Server.createWebTransport ref req connectStream settingsStream)
        (.connectRead [] (some err) []) =
      some ((Server.close varint []
        (Server.createWebTransport ref req connectStream settingsStream)).leave .connect) := rfl
  refine ⟨_, stepped, ?_, Server.step_nil_call consistent stepped, ?_⟩
  · exact (Server.step_closed_of_close consistent stepped rfl).req
  · apply (Server.no_send_on_closed_iff consistent stepped).mpr
    intro _ _
    rfl

/-- Whenever the goroutine waits for a transport, a client whose request is accepted can end
the process: by ending its connect stream before `Req` is read. -/
theorem early_end_exits {state : State} (alive : state.exited = false)
    (free : state.point = .receives) (fresh : state.sessions incoming.session = none)
    (accepted : (Server.handleSession packages server incoming).transport ≠ none)
    (err : GoReader.Error) :
    (run (step packages server) state
      [.accept incoming.session, .handshake incoming,
        .transport incoming.session (.connectRead [] (some err) []),
        .take incoming.session, .goesOn]).map State.exited = some true := by
  obtain ⟨transport, handled⟩ := Option.ne_none_iff_exists'.mp accepted
  obtain ⟨ended, req, connectStream, settingsStream, same⟩ := handled_transport handled
  obtain ⟨after, stepped, cleared, noNilCall, noCrash⟩ := @fresh_ends packages.varint _ _ _ _ _ same err
  let session := incoming.session
  let shaken := state.set session .handshake
  let offered : State := { shaken.set session (.offered transport) with
    accepted := state.accepted ++ transport.transport.req.toList.map fun req => (session, req) }
  have first : step packages server state (.accept session) = some shaken := by
    rw [step, if_neg (by simp [alive]), progress, if_pos (by rw [fresh]; rfl)]
  have waits : shaken.sessions session = some .handshake := Function.update_self _ _ _
  have second : step packages server shaken (.handshake incoming) = some offered := by
    have living : ¬shaken.exited = true := by
      rw [Bool.not_eq_true]
      exact alive
    rw [step, if_neg living, progress, handshakeStep, waits]
    dsimp only
    rw [ended, handled]
    rfl
  have held : offered.sessions session = some (.offered transport) := Function.update_self _ _ _
  have present : offered.transport session = some transport := by
    rw [State.transport, held]
    rfl
  have third : step packages server offered (.transport session (.connectRead [] (some err) [])) =
      some (offered.moved session after) := by
    have living : ¬offered.exited = true := by
      rw [Bool.not_eq_true]
      exact alive
    rw [step, if_neg living, progress, present, Option.bind_some, State.allows, outside,
      Bool.true_or, if_pos rfl, stepped]
    rfl
  have quiet : ¬(offered.moved session after).exited = true := by
    rw [State.moved, noNilCall, noCrash]
    exact Bool.false_ne_true
  have moved : (offered.moved session after).sessions session = some (.offered after) := by
    rw [State.moved, held]
    exact Function.update_self _ _ _
  let taken : State := { (offered.moved session after).set session (.taken after) with
    point := .path .counter session, taken := state.taken ++ [session] }
  have fourth : step packages server (offered.moved session after) (.take session) = some taken := by
    have point : (offered.moved session after).point = .receives := free
    rw [step, if_neg quiet, progress, point, moved]
    rfl
  have last : taken.transport session = some after := by
    have phase : taken.sessions session = some (.taken after) := Function.update_self _ _ _
    rw [State.transport, phase]
    rfl
  have fifth : step packages server taken .goesOn = some { taken with exited := true } := by
    have living : ¬taken.exited = true := quiet
    have point : taken.point = .path .counter session := rfl
    rw [step, if_neg living, progress, mainStep, point]
    dsimp only
    rw [last, Option.map_some, cleared]
  rw [run_cons, first, Option.bind_some, run_cons, second, Option.bind_some, run_cons, third,
    Option.bind_some, run_cons, fourth, Option.bind_some, run_cons, fifth]
  rfl

end Visitor

/-- The client ends its connect stream at once. -/
theorem visitor_exits : (run (step .reference ⟨[]⟩) newProgram
    [.accept 1, .handshake visitor, .transport 1 (.connectRead [] (some .eof) []), .take 1,
      .goesOn]).map State.exited = some true :=
  @early_end_exits .reference ⟨[]⟩ visitor newProgram rfl rfl rfl
    (Option.isSome_iff_ne_none.mp (by decide +kernel)) .eof

end WebTransportGos.Program
