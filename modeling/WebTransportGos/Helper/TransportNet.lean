import WebTransportGos.Helper.TransportLoss
import WebTransportGos.Helper.TransportAttempts
import WebTransportGos.Helper.WsLife

/-!
Transport.js with WebTransportWS.js as its native socket: every attempt is an object whose
`connect` runs on its own, and calls the handlers that the transport has set. It has no
`onerror`. What is handed to a socket is left out.
-/

namespace WebTransportGos.Helper.Transport

open StepSystem

set_option autoImplicit false

variable {Server Data : Type*}

/-- `lives` are the objects of the sockets. -/
structure WsNet (Server Data : Type*) where
  transport : Transport Server Data
  lives : List WsLife

def newWsNet (Server Data : Type*) : WsNet Server Data := ⟨newTransport Server Data, []⟩

inductive NetEvent (Server Data : Type*) where
  | transport (event : Event Server Data)
  | native (socket : Nat) (event : WsLife.Event)

def Event.isNative : Event Server Data → Bool
  | .opened _ | .errored _ | .message _ | .closed _ => true
  | _ => false

def isCall : WsLife.Event → Bool
  | .send | .close => true
  | _ => false

def handler (socket : Nat) : Callback → Event Server Data
  | .onopen => .opened socket
  | .onmessage => .message socket
  | .onclose => .closed socket

/-- The objects of new sockets begin; `close` and `clear` were called on the closed ones. -/
def attend (new : WsLife) (lives : List WsLife) (sockets : List (NativeSocket Server)) :
    List WsLife :=
  sockets.mapIdx fun index native =>
    let life := lives.getD index new
    { life with nulled := life.nulled || native.closed }

variable (options : TransportOptions) (new : WsLife)

def moved (lives : List WsLife) (next : Transport Server Data) : WsNet Server Data :=
  ⟨next, attend new lives next.sockets⟩

def netStep (state : WsNet Server Data) : NetEvent Server Data → Option (WsNet Server Data)
  | .transport event =>
      if event.isNative then none else (step options state.transport event).map (moved new state.lives)
  | .native socket event =>
      if isCall event ∨ state.transport.phase ≠ .idle then none
      else (state.lives[socket]?).bind fun life => (life.react event).bind fun result =>
        let lives := state.lives.set socket result.1
        match result.2 with
        | none => some ⟨state.transport, lives⟩
        | some callback =>
            (step options state.transport (handler socket callback)).map (moved new lives)

inductive NetMoves (state : WsNet Server Data) : NetEvent Server Data → WsNet Server Data → Prop
  | transport {event : Event Server Data} {next : Transport Server Data}
      (own : event.isNative = false) (taken : step options state.transport event = some next) :
      NetMoves state (.transport event) (moved new state.lives next)
  | silent {socket : Nat} {event : WsLife.Event} {life after : WsLife}
      (known : state.lives[socket]? = some life) (outer : isCall event = false)
      (reacts : life.react event = some (after, none)) :
      NetMoves state (.native socket event) ⟨state.transport, state.lives.set socket after⟩
  | calls {socket : Nat} {event : WsLife.Event} {life after : WsLife} {callback : Callback}
      {next : Transport Server Data} (known : state.lives[socket]? = some life)
      (outer : isCall event = false) (reacts : life.react event = some (after, some callback))
      (taken : step options state.transport (handler socket callback) = some next) :
      NetMoves state (.native socket event) (moved new (state.lives.set socket after) next)

variable {options new}

theorem net_moves {state next : WsNet Server Data} {event : NetEvent Server Data}
    (taken : netStep options new state event = some next) :
    NetMoves options new state event next := by
  cases event with
  | transport event =>
    obtain ⟨own, same⟩ := Option.ite_none_left_eq_some.mp taken
    obtain ⟨after, stepped, same⟩ := Option.map_eq_some_iff.mp same
    rw [← same]
    exact .transport (Bool.eq_false_iff.mpr own) stepped
  | native socket event =>
    obtain ⟨free, same⟩ := Option.ite_none_left_eq_some.mp taken
    obtain ⟨life, known, same⟩ := Option.bind_eq_some_iff.mp same
    obtain ⟨⟨after, called⟩, reacts, same⟩ := Option.bind_eq_some_iff.mp same
    have outer : isCall event = false := Bool.eq_false_iff.mpr fun call => free (.inl call)
    cases called with
    | none =>
      cases same
      exact .silent known outer reacts
    | some callback =>
      obtain ⟨after, stepped, same⟩ := Option.map_eq_some_iff.mp same
      rw [← same]
      exact .calls known outer reacts stepped

structure Matches (cap ended : Nat) (settled : Prop) (life : WsLife) : Prop where
  counted : life.Counted cap ended
  settled : settled ↔ life.settled = true

structure Fits (cap : Nat) (lives : List WsLife) (abstract : WsTransport Server Data) : Prop where
  counts : ∀ socket life, lives[socket]? = some life →
    Matches cap (abstract.ended.count socket) (socket ∈ abstract.settled) life
  unborn : ∀ socket, lives.length ≤ socket →
    abstract.ended.count socket = 0 ∧ socket ∉ abstract.settled

structure Tracks (cap : Nat) (state : WsNet Server Data) (abstract : WsTransport Server Data) :
    Prop where
  transport : abstract.transport = state.transport
  length : state.lives.length = state.transport.sockets.length
  fits : Fits cap state.lives abstract

section Tracking

variable {cap : Nat} {state next : WsNet Server Data} {abstract : WsTransport Server Data}
  {lives : List WsLife} {life after : WsLife} {socket : Nat}

theorem attend_get (lives : List WsLife) (sockets : List (NativeSocket Server)) (socket : Nat) :
    (attend new lives sockets)[socket]? = sockets[socket]?.map fun native =>
      { lives.getD socket new with nulled := (lives.getD socket new).nulled || native.closed } :=
  List.getElem?_mapIdx

/-- Of an object that is there, only `nulled` may change. -/
theorem attend_known {sockets : List (NativeSocket Server)} {native : NativeSocket Server}
    (known : lives[socket]? = some life) (found : sockets[socket]? = some native) :
    (attend new lives sockets)[socket]? =
      some { life with nulled := life.nulled || native.closed } := by
  rw [attend_get, found, Option.map_some, List.getD_eq_getElem?_getD, known, Option.getD_some]

theorem attend_length (lives : List WsLife) (sockets : List (NativeSocket Server)) :
    (attend new lives sockets).length = sockets.length := List.length_mapIdx

theorem Matches.null {ended : Nat} {settled : Prop} (fits : Matches cap ended settled life)
    (nulled : Bool) : Matches cap ended settled { life with nulled := nulled } :=
  ⟨fits.counted.null nulled, fits.settled⟩

theorem tracks_moved (begins : Matches cap 0 False new) {next : Transport Server Data}
    (transport : abstract.transport = next) (grown : lives.length ≤ next.sockets.length)
    (fits : Fits cap lives abstract) : Tracks cap (moved new lives next) abstract where
  transport := transport
  length := attend_length lives next.sockets
  fits := by
    constructor
    · intro socket life known
      rw [moved, attend_get] at known
      obtain ⟨native, -, same⟩ := Option.map_eq_some_iff.mp known
      rw [← same]
      apply Matches.null
      rw [List.getD_eq_getElem?_getD]
      cases earlier : lives[socket]? with
      | some life => exact fits.counts socket life earlier
      | none =>
        obtain ⟨zero, outside⟩ := fits.unborn socket (List.getElem?_eq_none_iff.mp earlier)
        rw [zero]
        exact ⟨begins.counted, iff_of_false outside fun settled => begins.settled.mpr settled⟩
    · intro socket behind
      rw [moved, attend_length] at behind
      exact fits.unborn socket (Nat.le_trans grown behind)

theorem fits_set (fits : Fits cap lives abstract) (known : lives[socket]? = some life)
    {behind : WsTransport Server Data}
    (own : Matches cap (behind.ended.count socket) (socket ∈ behind.settled) after)
    (others : ∀ other, other ≠ socket → behind.ended.count other = abstract.ended.count other ∧
      (other ∈ behind.settled ↔ other ∈ abstract.settled)) :
    Fits cap (lives.set socket after) behind where
  counts other found present := by
    rw [List.getElem?_set] at present
    by_cases same : socket = other
    · rw [if_pos same, if_pos (List.getElem?_eq_some_iff.mp known).1] at present
      rw [← same, ← Option.some.inj present]
      exact own
    · rw [if_neg same] at present
      obtain ⟨ended, settled⟩ := others other (Ne.symm same)
      have before := fits.counts other found present
      rw [ended]
      exact ⟨before.counted, settled.trans before.settled⟩
  unborn other outside := by
    rw [List.length_set] at outside
    have apart : other ≠ socket := by
      intro same
      have inside := (List.getElem?_eq_some_iff.mp known).1
      omega
    obtain ⟨ended, settled⟩ := others other apart
    obtain ⟨zero, never⟩ := fits.unborn other outside
    exact ⟨ended.trans zero, settled.not.mpr never⟩

theorem step_longer {event : Event Server Data} {transport next : Transport Server Data}
    (taken : step options transport event = some next) :
    transport.sockets.length ≤ next.sockets.length := by
  by_contra shorter
  have inside : next.sockets.length < transport.sockets.length := Nat.not_le.mp shorter
  obtain ⟨after, found, -⟩ := step_grown options taken next.sockets.length _
    (List.getElem?_eq_getElem inside)
  exact Nat.lt_irrefl _ (List.getElem?_eq_some_iff.mp found).1

theorem ws_step_transport {event : Event Server Data} {next : Transport Server Data}
    (unclosed : ∀ socket, event ≠ .closed socket) (unfailed : ∀ socket, event ≠ .errored socket)
    (taken : step options abstract.transport event = some next) :
    wsStep options cap abstract (.transport event) = some { abstract with transport := next } := by
  have moves : wsStep options cap abstract (.transport event) =
      (step options abstract.transport event).map fun next => { abstract with transport := next } := by
    cases event with
    | closed socket => exact absurd rfl (unclosed socket)
    | errored socket => exact absurd rfl (unfailed socket)
    | _ => rfl
  rw [moves, taken]
  rfl

theorem raise_close {next : Transport Server Data}
    (taken : step options abstract.transport (.closed socket) = some next) : ∃ heard,
    raiseClose options socket abstract = some { abstract with transport := next, heard := heard } := by
  rw [raiseClose, taken]
  exact ⟨_, rfl⟩

theorem count_other {ended : List Nat} {other : Nat} (apart : other ≠ socket) :
    (ended ++ [socket]).count other = ended.count other := by
  rw [List.count_append, List.count_singleton, if_neg (by simpa using Ne.symm apart), Nat.add_zero]

theorem mem_other {settled : List Nat} {other : Nat} (apart : other ≠ socket) :
    other ∈ settled ++ [socket] ↔ other ∈ settled := by
  rw [List.mem_append, List.mem_singleton]
  exact or_iff_left apart

section Counts

variable {event : WsLife.Event} {called : Option Callback}

theorem fits_quiet (fits : Fits cap lives abstract) (known : lives[socket]? = some life)
    (reacts : life.react event = some (after, called)) (loops : ∀ index, event ≠ .ends index)
    (promise : event ≠ .settles) : Fits cap (lives.set socket after) abstract := by
  have before := fits.counts socket life known
  have own : Matches cap (abstract.ended.count socket) (socket ∈ abstract.settled) after :=
    ⟨WsLife.react_counted before.counted reacts loops,
      before.settled.trans (by rw [WsLife.settled_kept reacts promise])⟩
  exact fits_set fits known own fun _ _ => ⟨rfl, Iff.rfl⟩

theorem fits_ends (fits : Fits cap lives abstract) (known : lives[socket]? = some life)
    {index : Nat} (member : index ∈ life.reading) : abstract.ended.count socket < cap ∧
      Fits cap (lives.set socket { life with reading := life.reading.erase index })
        { abstract with ended := abstract.ended ++ [socket] } := by
  have before := fits.counts socket life known
  obtain ⟨less, counted⟩ := WsLife.ends_counted before.counted member
  have more : (abstract.ended ++ [socket]).count socket = abstract.ended.count socket + 1 := by
    rw [List.count_append, List.count_singleton_self]
  refine ⟨less, fits_set fits known ?_ fun other apart => ⟨count_other apart, Iff.rfl⟩⟩
  dsimp only
  rw [more]
  exact ⟨counted, before.settled⟩

theorem fits_settles (fits : Fits cap lives abstract) (known : lives[socket]? = some life)
    (pending : ¬life.settled = true) : socket ∉ abstract.settled ∧
      Fits cap (lives.set socket { life with settled := true })
        { abstract with settled := abstract.settled ++ [socket] } := by
  have before := fits.counts socket life known
  refine ⟨before.settled.not.mpr pending,
    fits_set fits known ?_ fun other apart => ⟨rfl, mem_other apart⟩⟩
  refine ⟨before.counted.settle true, iff_of_true ?_ rfl⟩
  exact List.mem_append_right _ (List.mem_singleton_self _)

end Counts

theorem own_simulates (begins : Matches cap 0 False new) {event : Event Server Data}
    {next : Transport Server Data} (tracks : Tracks cap state abstract)
    (own : event.isNative = false) (taken : step options state.transport event = some next) :
    ∃ move after, wsStep options cap abstract move = some after ∧
      Tracks cap (moved new state.lives next) after := by
  have longer := tracks.length ▸ step_longer taken
  rw [← tracks.transport] at taken
  have unclosed (socket : Nat) : event ≠ .closed socket := by
    intro same
    rw [same] at own
    cases own
  have unfailed (socket : Nat) : event ≠ .errored socket := by
    intro same
    rw [same] at own
    cases own
  exact ⟨.transport event, _, ws_step_transport unclosed unfailed taken,
    tracks_moved begins rfl longer ⟨tracks.fits.counts, tracks.fits.unborn⟩⟩

theorem silent_tracks (tracks : Tracks cap state abstract) {event : WsLife.Event}
    (known : state.lives[socket]? = some life) (reacts : life.react event = some (after, none)) :
    Tracks cap ⟨state.transport, state.lives.set socket after⟩ abstract := by
  refine ⟨tracks.transport, List.length_set.trans tracks.length, ?_⟩
  apply fits_quiet tracks.fits known reacts
  · intro index same
    subst same
    obtain ⟨-, impossible⟩ := Option.ite_none_right_eq_some.mp reacts
    cases impossible
  · intro same
    subst same
    obtain ⟨-, impossible⟩ := Option.ite_none_left_eq_some.mp reacts
    cases impossible

theorem calls_simulates (begins : Matches cap 0 False new) {event : WsLife.Event}
    {callback : Callback} {next : Transport Server Data} (tracks : Tracks cap state abstract)
    (known : state.lives[socket]? = some life) (outer : isCall event = false)
    (reacts : life.react event = some (after, some callback))
    (taken : step options state.transport (handler socket callback) = some next) :
    ∃ move behind, wsStep options cap abstract move = some behind ∧
      Tracks cap (moved new (state.lives.set socket after) next) behind := by
  have longer : (state.lives.set socket after).length ≤ next.sockets.length := by
    rw [List.length_set, tracks.length]
    exact step_longer taken
  rw [← tracks.transport] at taken
  cases event with
  | fulfilled | rejected =>
    obtain ⟨-, impossible⟩ := Option.ite_none_right_eq_some.mp reacts
    cases impossible
  | tick | message index =>
    have fits := fits_quiet tracks.fits known reacts (by intro _ same; cases same)
      (by intro same; cases same)
    obtain ⟨-, same⟩ := Option.ite_none_right_eq_some.mp reacts
    cases same
    exact ⟨_, _, ws_step_transport (by intro _ same; cases same) (by intro _ same; cases same)
      taken, tracks_moved begins rfl longer ⟨fits.counts, fits.unborn⟩⟩
  | ends index =>
    obtain ⟨member, same⟩ := Option.ite_none_right_eq_some.mp reacts
    cases same
    obtain ⟨less, fits⟩ := fits_ends tracks.fits known member
    obtain ⟨heard, raised⟩ := @raise_close _ _ options
      { abstract with ended := abstract.ended ++ [socket] } socket _ taken
    exact ⟨.loopEnded socket, _, (if_pos less).trans raised,
      tracks_moved begins rfl longer ⟨fits.counts, fits.unborn⟩⟩
  | settles =>
    obtain ⟨pending, same⟩ := Option.ite_none_left_eq_some.mp reacts
    cases same
    obtain ⟨fresh, fits⟩ := fits_settles tracks.fits known pending
    obtain ⟨heard, raised⟩ := @raise_close _ _ options
      { abstract with settled := abstract.settled ++ [socket] } socket _ taken
    exact ⟨.closedSettled socket, _, (if_neg fresh).trans raised,
      tracks_moved begins rfl longer ⟨fits.counts, fits.unborn⟩⟩
  | send | close => cases outer

/-- An object that moves on is no more than an event of its socket, or a call of `onclose` that
was still to come. -/
theorem net_simulates (begins : Matches cap 0 False new) {event : NetEvent Server Data}
    (tracks : Tracks cap state abstract) (taken : netStep options new state event = some next) :
    Tracks cap next abstract ∨ ∃ move after, wsStep options cap abstract move = some after ∧
      Tracks cap next after := by
  cases net_moves taken with
  | transport own stepped => exact .inr (own_simulates begins tracks own stepped)
  | silent known outer reacts => exact .inl (silent_tracks tracks known reacts)
  | calls known outer reacts handled =>
    exact .inr (calls_simulates begins tracks known outer reacts handled)

theorem new_tracks (cap : Nat) :
    Tracks cap (newWsNet Server Data) (newWsTransport Server Data) where
  transport := rfl
  length := rfl
  fits := by
    constructor
    · intro socket life impossible
      cases impossible
    · intro socket _
      exact ⟨rfl, List.not_mem_nil⟩

end Tracking

theorem new_matches (given : WebTransportWSOptions) (useDatagrams : Bool) :
    Matches (newWsLife given useDatagrams).loops 0 False (newWsLife given useDatagrams) :=
  ⟨WsLife.new_counted given useDatagrams, iff_of_false id Bool.false_ne_true⟩

/-- To the transport, the objects are sockets of which `onclose` is called as often as they have
loops, and once more. -/
theorem net_refines (options : TransportOptions) (given : WebTransportWSOptions)
    (useDatagrams : Bool) (state : WsNet Server Data)
    (reached : Reachable (netStep options (newWsLife given useDatagrams)) (newWsNet Server Data)
      state) :
    ∃ abstract, Reachable (wsStep options (newWsLife given useDatagrams).loops)
        (newWsTransport Server Data) abstract ∧
      Tracks (newWsLife given useDatagrams).loops state abstract := by
  obtain ⟨events, ran⟩ := reached
  have begins := new_matches given useDatagrams
  obtain ⟨moves, abstract, moved, tracks⟩ := run_simulates
    (fun state event next abstract (tracks : Tracks _ state abstract) taken =>
      net_simulates begins tracks taken) (new_tracks _) ran
  exact ⟨abstract, ⟨moves, moved⟩, tracks⟩

section Waiting

variable {transport next : Transport Server Data} {socket other : Nat} {entry : Bool × Nat}

theorem stands_longer (stands : transport.standing[socket]? = some entry)
    (longer : transport.sockets <+: next.sockets) : next.standing[socket]? = some entry := by
  obtain ⟨more, whole⟩ := longer
  have inside := (List.getElem?_eq_some_iff.mp stands).1
  rw [standing, ← whole, List.map_append]
  exact (List.getElem?_append_left inside).trans stands

theorem stands_begun {round : Nat} (stands : transport.standing[socket]? = some entry)
    (begun : Begun transport next round) : next.standing[socket]? = some entry := by
  apply stands_longer stands
  cases begun with
  | begins server rounds sockets => exact sockets ▸ List.prefix_append _ _
  | schedules rounds sockets => exact sockets ▸ List.prefix_rfl
  | neither rounds sockets => exact sockets ▸ List.prefix_rfl

theorem stands_connect_again (stands : transport.standing[socket]? = some entry) (other : Nat) :
    (connectAgain options other transport).standing[socket]? = some entry := by
  rcases connect_again_cases options other transport with same | ⟨native, closure, -, -, again⟩
  · rw [same]
    exact stands
  · rw [again]
    have kept : (cleared options other transport).standing = transport.standing :=
      cleared_map options _ (by intro _; rfl) other transport
    apply stands_longer _ (connect_attempting _ _ _ _).sockets
    rw [kept]
    exact stands

theorem stands_onclose (stands : transport.standing[socket]? = some entry) (other : Nat) :
    (onclose options other transport).standing[socket]? = some entry := by
  rcases onclose_cases options other transport with
    ⟨-, -, -, after⟩ | ⟨-, -, -, after⟩ | ⟨-, onCloses, after⟩
  · rw [after]
    have left : (leaving other transport).standing[socket]? = some entry := stands
    exact stands_connect_again left other
  · rw [after]
    exact stands
  · rw [after]
    exact stands

theorem stands_after_close (stands : transport.standing[socket]? = some entry) :
    (afterClose transport).standing[socket]? = some entry := by
  rw [afterClose]
  cases transport.socket with
  | none => exact stands
  | some held =>
    have kept := @standing_touch _ _ transport held
      (fun native => { native with listening := false, closed := true })
      (by intro _; rfl) (by intro _; rfl)
    exact (congrArg (fun standing => standing[socket]?) kept).trans stands

theorem stands_complete {native found : NativeSocket Server} {status : TransportStatus}
    (known : transport.sockets[other]? = some found) (apart : other ≠ socket)
    (stands : transport.standing[socket]? = some entry) :
    (connectComplete options other native status transport).standing[socket]? = some entry := by
  have completed : (transport.touch other fun native =>
      { native with awaited := false }).standing[socket]? = some entry := by
    rw [standing_completed known, List.getElem?_set_ne apart]
    exact stands
  have touched {change : NativeSocket Server → NativeSocket Server}
      (awaited : ∀ native, (change native).awaited = native.awaited)
      (round : ∀ native, (change native).round = native.round) :
      ((transport.touch other fun native => { native with awaited := false }).touch other
        change).standing[socket]? = some entry := by
    rw [standing_touch other awaited round]
    exact completed
  rcases connect_complete_cases options other native status transport with
    ⟨-, -, same⟩ | ⟨-, -, same⟩ | ⟨-, same⟩ | ⟨-, same⟩ | ⟨-, -, same⟩
  · obtain ⟨queue, phase, handed, opened⟩ := established_eq options other
      (transport.touch other fun native => { native with awaited := false })
    rw [same, opened]
    exact touched (by intro _; rfl) (by intro _; rfl)
  · rw [same]
    exact stands_begun completed (attempt_failed_begun _ _ _ _)
  · rw [same, standing, flush_closing_sockets]
    exact completed
  · rw [same]
    exact touched (by intro _; rfl) (by intro _; rfl)
  · rw [same]
    exact completed

/-- Only its own events end an attempt. -/
theorem step_stands {event : Event Server Data} (taken : step options transport event = some next)
    (opened : event ≠ .opened socket) (errored : event ≠ .errored socket)
    (timeout : event ≠ .timeout socket) (stands : transport.standing[socket]? = some entry) :
    next.standing[socket]? = some entry := by
  have touched (other : Nat) {change : NativeSocket Server → NativeSocket Server}
      (awaited : ∀ native, (change native).awaited = native.awaited)
      (round : ∀ native, (change native).round = native.round) :
      (transport.touch other change).standing[socket]? = some entry := by
    rw [standing_touch other awaited round]
    exact stands
  cases step_moves taken with
  | connect server proxys => exact stands_longer stands (connect_attempting _ _ _ _).sockets
  | send data =>
    obtain ⟨queue, handed, onSends, dropped, sent⟩ := send_eq options data (noteSend data transport)
    rw [sent]
    exact stands
  | close returns => exact stands_after_close stands
  | reconnect returns =>
    unfold afterReconnect
    split
    · exact stands
    · split
      · exact stands_after_close stands
      · exact stands_longer (stands_after_close stands) (connect_attempting _ _ _ _).sockets
  | resumeOpen phase => exact stands
  | resumeReconnecting phase => exact stands_connect_again stands _
  | resumeSend phase =>
    rw [standing, flush_closing_sockets]
    exact stands
  | opened idle known awaited =>
    have apart := fun same => opened (congrArg Event.opened same)
    exact stands_complete known apart stands
  | openedLate idle known late => exact stands
  | @errored other native idle known awaited =>
    have apart := fun same => errored (congrArg Event.errored same)
    have ended : (transport.touch other fun native =>
        { native with ended := true }).sockets[other]? = some { native with ended := true } :=
      touch_self known
    exact stands_complete ended apart (touched _ (by intro _; rfl) (by intro _; rfl))
  | erroredLate idle known late => exact touched _ (by intro _; rfl) (by intro _; rfl)
  | message other idle => exact stands
  | closed idle known listening =>
    exact stands_onclose (touched _ (by intro _; rfl) (by intro _; rfl)) _
  | closedUnheard idle known deaf => exact touched _ (by intro _; rfl) (by intro _; rfl)
  | timeout idle known awaited =>
    have apart := fun same => timeout (congrArg Event.timeout same)
    exact stands_complete known apart stands
  | @nextStart round idle scheduled =>
    have fired : standing { transport with
        nextStarts := transport.nextStarts.erase round } = transport.standing := rfl
    exact stands_longer (fired ▸ stands) (next_start_attempting round _).sockets
  | lazyClose idle scheduled => exact touched _ (by intro _; rfl) (by intro _; rfl)
  | reconnectTimer idle scheduled =>
    have fired : standing { transport with
        reconnects := transport.reconnects - 1, status := .close } = transport.standing := rfl
    exact stands_longer (fired ▸ stands) (connect_attempting _ _ _ _).sockets

end Waiting

section Refused

variable {state next final : WsNet Server Data} {lives : List WsLife} {life after : WsLife}
  {socket : Nat}

def Dead (lives : List WsLife) (socket : Nat) : Prop :=
  ∃ life, lives[socket]? = some life ∧ life.stage = .threw ∧ life.nextTick = false

theorem dead_attend (dead : Dead lives socket) {sockets : List (NativeSocket Server)}
    (inside : socket < sockets.length) : Dead (attend new lives sockets) socket := by
  obtain ⟨life, known, threw, early⟩ := dead
  exact ⟨_, attend_known known (List.getElem?_eq_getElem inside), threw, early⟩

theorem dead_set (dead : Dead lives socket) {other : Nat} (known : lives[other]? = some life)
    {event : WsLife.Event} {called : Option Callback}
    (reacts : life.react event = some (after, called)) :
    Dead (lives.set other after) socket ∧ (other = socket → called ≠ some .onopen) := by
  obtain ⟨own, present, threw, early⟩ := dead
  by_cases same : other = socket
  · subst same
    cases known.symm.trans present
    obtain ⟨still, late, silent⟩ := WsLife.threw_stays threw early reacts
    refine ⟨⟨after, ?_, still, late⟩, fun _ => silent⟩
    exact List.getElem?_set_self (List.getElem?_eq_some_iff.mp known).1
  · refine ⟨⟨own, ?_, threw, early⟩, fun equal => absurd equal same⟩
    rw [List.getElem?_set_ne same]
    exact present

structure Refused (state : WsNet Server Data) (socket : Nat) : Prop where
  stands : ∃ round, state.transport.standing[socket]? = some (true, round)
  dead : Dead state.lives socket

theorem standing_inside {transport : Transport Server Data} {entry : Bool × Nat}
    (stands : transport.standing[socket]? = some entry) : socket < transport.sockets.length := by
  have inside := (List.getElem?_eq_some_iff.mp stands).1
  rw [standing, List.length_map] at inside
  exact inside

theorem timeout_set {transport next : Transport Server Data}
    (taken : step options transport (.timeout socket) = some next) : 0 < options.timeout := by
  rw [step] at taken
  · obtain ⟨-, fires⟩ := Option.ite_none_right_eq_some.mp taken
    rw [react] at fires
    split at fires
    · cases fires
    · exact (Option.ite_none_right_eq_some.mp fires).1.1
  · intro call impossible
    cases impossible
  · intro impossible
    cases impossible

theorem timeout_step {transport : Transport Server Data} {native : NativeSocket Server}
    (positive : 0 < options.timeout) (idle : transport.phase = .idle)
    (known : transport.sockets[socket]? = some native) (awaited : native.awaited = true) :
    step options transport (.timeout socket) =
      some (connectComplete options socket native .timeout transport) := by
  rw [step]
  · rw [if_pos idle, react, known]
    exact if_pos ⟨positive, awaited⟩
  · intro call impossible
    cases impossible
  · intro impossible
    cases impossible

theorem timeout_completes {transport : Transport Server Data} {native : NativeSocket Server}
    (positive : 0 < options.timeout) (idle : transport.phase = .idle)
    (known : transport.sockets[socket]? = some native) (awaited : native.awaited = true) :
    ∃ next, step options transport (.timeout socket) = some next ∧
      ∃ after, next.sockets[socket]? = some after ∧ after.awaited = false := by
  refine ⟨_, timeout_step positive idle known awaited, ?_⟩
  have completed : (transport.touch socket fun native =>
      { native with awaited := false }).sockets[socket]? = some { native with awaited := false } :=
    touch_self known
  have keeps {next : Transport Server Data} (grown : Grown (transport.touch socket fun native =>
      { native with awaited := false }) next) :
      ∃ after, next.sockets[socket]? = some after ∧ after.awaited = false := by
    obtain ⟨after, found, later⟩ := grown socket _ completed
    exact ⟨after, found, later.awaited rfl⟩
  rcases connect_complete_cases options socket native .timeout transport with
    ⟨-, opened, -⟩ | ⟨-, -, same⟩ | ⟨-, same⟩ | ⟨-, same⟩ | ⟨-, -, same⟩
  · cases opened
  · rw [same]
    exact keeps (attempt_failed_keeps options _ _ _ _).grown
  · rw [same]
    exact keeps (flush_closing_keeps options socket _).grown
  · rw [same]
    exact keeps (grown_modify rfl later_closed)
  · rw [same]
    exact keeps (Grown.refl _)

theorem step_refused (never : options.timeout = 0) {event : NetEvent Server Data}
    (refused : Refused state socket) (taken : netStep options new state event = some next) :
    Refused next socket := by
  obtain ⟨⟨round, stands⟩, dead⟩ := refused
  cases net_moves taken with
  | @transport event stepped own moved =>
    have still : stepped.standing[socket]? = some (true, round) := by
      apply step_stands moved _ _ _ stands
      · intro same
        rw [same] at own
        cases own
      · intro same
        rw [same] at own
        cases own
      · intro same
        subst same
        exact Nat.lt_irrefl 0 (never ▸ timeout_set moved)
    exact ⟨⟨round, still⟩, dead_attend dead (standing_inside still)⟩
  | silent known outer reacts => exact ⟨⟨round, stands⟩, (dead_set dead known reacts).1⟩
  | @calls other event life after callback stepped known outer reacts handled =>
    obtain ⟨remains, silent⟩ := dead_set dead known reacts
    have still : stepped.standing[socket]? = some (true, round) := by
      apply step_stands handled _ _ _ stands
      · intro same
        cases callback with
        | onopen =>
          cases same
          exact silent rfl rfl
        | onmessage => cases same
        | onclose => cases same
      · intro same
        cases callback with
        | onopen => cases same
        | onmessage => cases same
        | onclose => cases same
      · intro same
        cases callback with
        | onopen => cases same
        | onmessage => cases same
        | onclose => cases same
    exact ⟨⟨round, still⟩, dead_attend remains (standing_inside still)⟩

/-- Between callbacks, an attempt whose object has thrown can still be given up, exactly if a
timeout is set. -/
theorem refused_given_up_iff (options : TransportOptions) (given : WebTransportWSOptions)
    (useDatagrams : Bool) (state : WsNet Server Data)
    (reached : Reachable (netStep options (newWsLife given useDatagrams)) (newWsNet Server Data)
      state) (idle : state.transport.phase = .idle) (socket : Nat) (native : NativeSocket Server)
    (known : state.transport.sockets[socket]? = some native) (awaited : native.awaited = true)
    (life : WsLife) (own : state.lives[socket]? = some life) (threw : life.stage = .threw) :
    (∃ final, Reachable (netStep options (newWsLife given useDatagrams)) state final ∧
      ∃ after, final.transport.sockets[socket]? = some after ∧ after.awaited = false) ↔
      0 < options.timeout := by
  constructor
  · intro given_up
    obtain ⟨final, later, after, found, done⟩ := given_up
    obtain ⟨abstract, -, tracks⟩ := net_refines options given useDatagrams state reached
    have early : life.nextTick = false := by
      apply ((tracks.fits.counts socket life own).counted.early _).2.2
      rw [threw]
      decide
    by_contra none
    have never : options.timeout = 0 := Nat.eq_zero_of_not_pos none
    have start : Refused state socket := by
      refine ⟨⟨native.round, ?_⟩, ⟨life, own, threw, early⟩⟩
      rw [standing, List.getElem?_map, known, Option.map_some, awaited]
    have kept (state : WsNet Server Data) (event : NetEvent Server Data) (next : WsNet Server Data)
        (before : Refused state socket)
        (taken : netStep options (newWsLife given useDatagrams) state event = some next) :
        Refused next socket := step_refused never before taken
    have refused := reachable_invariant kept start later
    obtain ⟨⟨round, stands⟩, -⟩ := refused
    rw [standing, List.getElem?_map, found, Option.map_some, done] at stands
    cases stands
  · intro positive
    obtain ⟨next, taken, after, found, done⟩ := timeout_completes positive idle known awaited
    refine ⟨moved (newWsLife given useDatagrams) state.lives next, ⟨[.transport (.timeout socket)], ?_⟩,
      after, found, done⟩
    have application : ¬(Event.timeout socket : Event Server Data).isNative = true :=
      Bool.false_ne_true
    rw [run_cons, netStep, if_neg application, taken]
    rfl

/-- A call of `connect` whose object throws at once. -/
theorem rejected_stays :
    (∃ final, Reachable (netStep {} (newWsLife defaultOptions false))
      ⟨connect (some 7) [8] (some 7) (newTransport Nat Nat),
        [{ newWsLife defaultOptions false with stage := .threw }]⟩ final ∧
      ∃ after, final.transport.sockets[0]? = some after ∧ after.awaited = false) ↔ 0 < 0 :=
  refused_given_up_iff {} defaultOptions false _
    ⟨[.transport (.call (.connect 7 [8])), .native 0 .rejected], rfl⟩ rfl 0 (newSocket 0 7) rfl rfl
    _ rfl rfl

end Refused

section Single

variable {transport next : Transport Server Data}

def made (transport : Transport Server Data) : List Nat :=
  transport.sockets.map NativeSocket.round

structure Single (transport : Transport Server Data) : Prop where
  unscheduled : transport.nextStarts = []
  silent : transport.log.reports = []
  known : ∀ round ∈ transport.made, round < transport.rounds.length
  once : transport.made.Nodup

theorem Single.of_same (single : Single transport) (made : next.made = transport.made)
    (rounds : next.rounds.length = transport.rounds.length)
    (nextStarts : next.nextStarts.Sublist transport.nextStarts)
    (reports : next.log.reports = transport.log.reports) : Single next where
  unscheduled := List.eq_nil_of_sublist_nil (single.unscheduled ▸ nextStarts)
  silent := reports.trans single.silent
  known := by
    rw [made, rounds]
    exact single.known
  once := made ▸ single.once

theorem made_touch (socket : Nat) {change : NativeSocket Server → NativeSocket Server}
    (round : ∀ native, (change native).round = native.round) :
    (transport.touch socket change).made = transport.made :=
  modify_map_same round transport.sockets socket

theorem connect_single (single : Single transport) (server : Option Server)
    (proxys : List Server) (preferred : Option Server) :
    Single (connect server proxys preferred transport) := by
  cases free : transport.status.busy with
  | true =>
    rw [connect_busy server proxys preferred free]
    exact single.of_same rfl rfl (List.Sublist.refl _) rfl
  | false =>
    have more : transport.rounds.length + 1 =
        (calling server proxys preferred transport).rounds.length := by
      rw [calling, List.length_append, List.length_singleton]
    have known : ∀ round ∈ transport.made, round < transport.rounds.length + 1 := by
      intro round member
      exact Nat.lt_succ_of_lt (single.known round member)
    rw [connect_free server proxys preferred free]
    cases next_start_begun transport.rounds.length (calling server proxys preferred transport) with
    | begins first rounds sockets nextStarts =>
      have made : (nextStart transport.rounds.length
          (calling server proxys preferred transport)).made =
          transport.made ++ [transport.rounds.length] := by
        rw [Transport.made, sockets, List.map_append]
        rfl
      refine ⟨nextStarts.trans single.unscheduled, ?_, ?_, ?_⟩
      · rw [(next_start_attempting _ _).log]
        exact single.silent
      · rw [made, rounds, ← more]
        intro round member
        rcases List.mem_append.mp member with before | own
        · exact known round before
        · rw [List.mem_singleton.mp own]
          exact Nat.lt_succ_self _
      · rw [made]
        apply List.Nodup.append single.once (List.nodup_singleton _)
        rw [List.disjoint_singleton]
        intro member
        exact Nat.lt_irrefl _ (single.known _ member)
    | schedules rounds sockets nextStarts =>
      rw [next_start_eq _ rfl] at nextStarts
      cases List.self_eq_append_right.mp nextStarts
    | neither rounds sockets nextStarts =>
      have made : (nextStart transport.rounds.length
          (calling server proxys preferred transport)).made = transport.made := by
        rw [Transport.made, sockets]
        rfl
      refine ⟨nextStarts.trans single.unscheduled, ?_, ?_, made ▸ single.once⟩
      · rw [(next_start_attempting _ _).log]
        exact single.silent
      · rw [made, rounds, ← more]
        exact known

theorem connect_again_single (single : Single transport) (socket : Nat) :
    Single (connectAgain options socket transport) := by
  rcases connect_again_cases options socket transport with same | ⟨native, closure, -, -, again⟩
  · rw [same]
    exact single
  · rw [again]
    apply connect_single
    refine single.of_same ?_ rfl (List.Sublist.refl _) rfl
    exact cleared_map options _ (by intro _; rfl) socket transport

theorem onclose_single (single : Single transport) (socket : Nat) :
    Single (onclose options socket transport) := by
  have left : Single (leaving socket transport) :=
    single.of_same rfl rfl (List.Sublist.refl _) rfl
  rcases onclose_cases options socket transport with
    ⟨-, -, -, after⟩ | ⟨-, -, -, after⟩ | ⟨-, onCloses, after⟩
  · rw [after]
    exact connect_again_single left socket
  · rw [after]
    exact left.of_same rfl rfl (List.Sublist.refl _) rfl
  · rw [after]
    exact single.of_same rfl rfl (List.Sublist.refl _) rfl

theorem after_close_single (single : Single transport) : Single (afterClose transport) := by
  refine single.of_same ?_ rfl (starts_kept_sublist transport) rfl
  rw [afterClose]
  cases transport.socket with
  | none => rfl
  | some socket =>
    exact @made_touch _ _ transport socket
      (fun native => { native with listening := false, closed := true }) (by intro _; rfl)

theorem flush_closing_single (single : Single transport) (socket : Nat) :
    Single (flushClosing options socket transport) := by
  obtain ⟨queue, phase, handed, onSends, lazyCloses, flushed⟩ :=
    flush_closing_eq options socket transport
  rw [flushed]
  exact single.of_same rfl rfl (List.Sublist.refl _) rfl

theorem complete_single (single : Single transport) (socket : Nat) (native : NativeSocket Server) :
    Single (connectComplete options socket native .opened transport) := by
  have completed : Single (transport.touch socket fun native =>
      { native with awaited := false }) :=
    single.of_same (made_touch socket (by intro _; rfl)) rfl (List.Sublist.refl _) rfl
  rcases connect_complete_cases options socket native .opened transport with
    ⟨-, -, same⟩ | ⟨-, failed, -⟩ | ⟨-, same⟩ | ⟨-, same⟩ | ⟨-, -, same⟩
  · obtain ⟨queue, phase, handed, opened⟩ := established_eq options socket
      (transport.touch socket fun native => { native with awaited := false })
    rw [same, opened]
    exact completed.of_same (made_touch socket (by intro _; rfl)) rfl (List.Sublist.refl _) rfl
  · exact absurd rfl failed
  · rw [same]
    exact flush_closing_single completed socket
  · rw [same]
    exact completed.of_same (made_touch socket (by intro _; rfl)) rfl (List.Sublist.refl _) rfl
  · rw [same]
    exact completed

theorem step_single {event : Event Server Data} (never : options.timeout = 0)
    (unfailed : ∀ socket, event ≠ .errored socket) (single : Single transport)
    (taken : step options transport event = some next) : Single next := by
  have touched (socket : Nat) {change : NativeSocket Server → NativeSocket Server}
      (round : ∀ native, (change native).round = native.round) :
      Single (transport.touch socket change) :=
    single.of_same (made_touch socket round) rfl (List.Sublist.refl _) rfl
  cases step_moves taken with
  | connect server proxys => exact connect_single single _ _ _
  | send data =>
    obtain ⟨queue, handed, onSends, dropped, sent⟩ := send_eq options data (noteSend data transport)
    rw [sent]
    exact single.of_same rfl rfl (List.Sublist.refl _) rfl
  | close returns => exact after_close_single single
  | reconnect returns =>
    unfold afterReconnect
    split
    · exact single
    · split
      · exact (after_close_single single).of_same rfl rfl (List.Sublist.refl _) rfl
      · exact connect_single (after_close_single single) _ _ _
  | resumeOpen phase => exact single.of_same rfl rfl (List.Sublist.refl _) rfl
  | resumeReconnecting phase => exact connect_again_single single _
  | resumeSend phase => exact flush_closing_single single _
  | opened idle known awaited =>
    apply complete_single
    exact single.of_same rfl rfl (List.Sublist.refl _) rfl
  | openedLate idle known late => exact single.of_same rfl rfl (List.Sublist.refl _) rfl
  | errored idle known awaited => exact absurd rfl (unfailed _)
  | erroredLate idle known late => exact absurd rfl (unfailed _)
  | message socket idle => exact single
  | closed idle known listening =>
    apply onclose_single
    exact touched _ (by intro _; rfl)
  | closedUnheard idle known deaf => exact touched _ (by intro _; rfl)
  | timeout idle known awaited => exact absurd (never ▸ timeout_set taken) (Nat.lt_irrefl 0)
  | nextStart idle scheduled =>
    rw [single.unscheduled] at scheduled
    cases scheduled
  | lazyClose idle scheduled =>
    exact single.of_same (made_touch _ (by intro _; rfl)) rfl (List.Sublist.refl _) rfl
  | reconnectTimer idle scheduled =>
    apply connect_single
    exact single.of_same rfl rfl (List.Sublist.refl _) rfl

theorem net_step_single {state after : WsNet Server Data} {event : NetEvent Server Data}
    (never : options.timeout = 0) (single : Single state.transport)
    (taken : netStep options new state event = some after) : Single after.transport := by
  cases net_moves taken with
  | transport own moved =>
    apply step_single never _ single moved
    intro socket same
    rw [same] at own
    cases own
  | silent known outer reacts => exact single
  | @calls socket event life behind callback stepped known outer reacts handled =>
    apply step_single never _ single handled
    intro socket same
    cases callback with
    | onopen => cases same
    | onmessage => cases same
    | onclose => cases same

end Single

theorem own_run {state : WsNet Server Data} {events : List (Event Server Data)}
    {next : Transport Server Data} (own : ∀ event ∈ events, event.isNative = false)
    (ran : run (step options) state.transport events = some next) :
    ∃ after, run (netStep options new) state (events.map .transport) = some after ∧
      after.transport = next := by
  induction events generalizing state with
  | nil => exact ⟨state, rfl, Option.some.inj ran⟩
  | cons event events induction =>
    obtain ⟨stepped, taken, rest⟩ := run_cons_some.mp ran
    have application : ¬event.isNative = true := by
      rw [own event List.mem_cons_self]
      exact Bool.false_ne_true
    have first : netStep options new state (.transport event) =
        some (moved new state.lives stepped) := by
      rw [netStep, if_neg application, taken]
      rfl
    obtain ⟨after, later, same⟩ := @induction (moved new state.lives stepped)
      (fun other member => own other (List.mem_cons_of_mem event member)) rest
    exact ⟨after, run_cons_some.mpr ⟨_, first, later⟩, same⟩

theorem second_attempt (positive : 0 < options.timeout) (server : Server) :
    ∃ events next, (∀ event ∈ events, event.isNative = false) ∧
      run (step options) (newTransport Server Data) events = some next ∧ next.made = [0, 0] := by
  let first : Transport Server Data := connect (some server) [server] (some server)
    (newTransport Server Data)
  have called : step options (newTransport Server Data) (.call (.connect server [server])) =
    some first := rfl
  have fires : step options first (.timeout 0) =
      some (connectComplete options 0 (newSocket 0 server) .timeout first) :=
    timeout_step positive rfl rfl rfl
  have ended : connectComplete options 0 (newSocket 0 server) .timeout first = nextEnd options 0
      (first.touch 0 fun native => { native with awaited := false }) := rfl
  let behind : Transport Server Data := first.touch 0 fun native => { native with awaited := false }
  by_cases waits : 0 < options.interval
  · let scheduled : Transport Server Data := { behind with
      nextStartTimer := some 0
      nextStarts := [0] }
    have comes : nextEnd options 0 behind = scheduled := if_pos waits
    have starts : step options scheduled (.nextStart 0) =
      some (nextStart 0 { scheduled with nextStarts := [] }) := rfl
    have ran : run (step options) (newTransport Server Data) [.call (.connect server [server]),
        .timeout 0, .nextStart 0] = some (nextStart 0 { scheduled with nextStarts := [] }) := by
      rw [run_cons, called, Option.bind_some, run_cons, fires, ended, comes, Option.bind_some,
        run_cons, starts, Option.bind_some]
      rfl
    exact ⟨_, _, by simp [Event.isNative], ran, rfl⟩
  · have comes : nextEnd options 0 behind = nextStart 0 behind := if_neg waits
    have ran : run (step options) (newTransport Server Data) [.call (.connect server [server]),
        .timeout 0] = some (nextStart 0 behind) := by
      rw [run_cons, called, Option.bind_some, run_cons, fires, ended, comes, Option.bind_some]
      rfl
    exact ⟨_, _, by simp [Event.isNative], ran, rfl⟩

/-- Every call of `connect` makes one attempt at most, at the first server of its list, and nothing
is reported, exactly if no timeout is set: proxies and retries come to nothing without one. -/
theorem one_attempt_iff (options : TransportOptions) (given : WebTransportWSOptions)
    (useDatagrams : Bool) (server : Server) :
    (∀ state, Reachable (netStep options (newWsLife given useDatagrams)) (newWsNet Server Data)
        state →
      (state.transport.sockets.map NativeSocket.round).Nodup ∧ state.transport.log.reports = []) ↔
    options.timeout = 0 := by
  constructor
  · intro all
    by_contra set
    have positive : 0 < options.timeout := Nat.pos_of_ne_zero set
    obtain ⟨events, next, own, ran, twice⟩ := @second_attempt Server Data options positive server
    obtain ⟨state, reached, same⟩ := @own_run Server Data options (newWsLife given useDatagrams)
      (newWsNet Server Data) events next own ran
    rw [← same] at twice
    have once := (all state ⟨_, reached⟩).1
    rw [made] at twice
    rw [twice] at once
    exact absurd once (by decide)
  · intro never state reached
    have kept (state : WsNet Server Data) (event : NetEvent Server Data) (next : WsNet Server Data)
        (single : Single state.transport)
        (taken : netStep options (newWsLife given useDatagrams) state event = some next) :
        Single next.transport := net_step_single never single taken
    have start : Single (newWsNet Server Data).transport := by
      refine ⟨rfl, rfl, ?_, List.nodup_nil⟩
      intro round member
      cases member
    have single := reachable_invariant kept start reached
    exact ⟨single.once, single.silent⟩

end WebTransportGos.Helper.Transport
