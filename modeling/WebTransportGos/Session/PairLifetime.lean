import WebTransportGos.Session.PairEnds

/-!
What holds of both ends and of the streams between them along every run, and that each
direction of the pair is a `Link`: a step of the pair is at most one step of each.
-/

namespace WebTransportGos

open GoReader GoText VarintFormat StepSystem

set_option autoImplicit false

namespace Pair

variable {varint : Quicvarint} {pair next after : Pair} {side : Side}

/-- Everything a step can do: an end makes a step of its own, and with it a stream sets out
or is read a little further. -/
inductive Effect (varint : Quicvarint) (pair : Pair) : Event → Pair → Prop where
  | opens {opener : Side} {kind handedKind : StreamKind} {stream handedStream : StreamId}
      {payload header : List UInt8} {chunks : List (List UInt8)} {after : Pair}
      (fresh : pair.Fresh stream) (pieces : [] ∉ chunks)
      (taken : pair.stepEnd varint (createEvent opener kind stream) = some after)
      (handed : (after.outputs opener).drop (pair.outputs opener).length =
        [.stream handedKind handedStream header])
      (whole : chunks.flatten = header ++ payload) :
      Effect varint pair (.opens opener kind stream payload chunks) (after.arrive opener.other
        ⟨stream, kind, some payload, unfinished chunks, unfinished chunks⟩)
  | foreign {receiver : Side} {kind : StreamKind} {stream : StreamId} {source : Source}
      (fresh : pair.Fresh stream) (productive : Productive source) :
      Effect varint pair (.foreign receiver kind stream source)
        (pair.arrive receiver ⟨stream, kind, none, source, source⟩)
  | accepts {side : Side} {entry : Inbound} {after : Pair} (member : entry ∈ pair.inbound side)
      (taken : pair.stepEnd varint (acceptEvent side entry.kind entry.stream) = some after) :
      Effect varint pair (.accepts side entry.stream) after
  | feeds {side : Side} {entry : Inbound} {result : ReadResult} {rest : Source} {after : Pair}
      (member : entry ∈ pair.inbound side)
      (returned : GoReader.read 1 entry.unread = some (result, rest))
      (taken : pair.stepEnd varint (headerEvent side entry.stream result) = some after) :
      Effect varint pair (.feeds side entry.stream) (after.advance side entry.stream rest)
  | datagram {receiver : Side} {bytes : List UInt8} {after : Pair}
      (taken : pair.stepEnd varint (datagramEvent receiver bytes) = some after) :
      Effect varint pair (.datagram receiver bytes) after
  | acts {event : EndEvent} {after : Pair} (isLocal : event.isLocal = true)
      (taken : pair.stepEnd varint event = some after) :
      Effect varint pair (.acts event) after

theorem entry_of_some {stream : StreamId} {entry : Inbound}
    (found : pair.entryOf side stream = some entry) :
    entry ∈ pair.inbound side ∧ entry.stream = stream :=
  ⟨List.mem_of_find?_eq_some found, by simpa using List.find?_some found⟩

theorem step_effect {event : Event} (taken : pair.step varint event = some next) :
    Effect varint pair event next := by
  cases event with
  | opens opener kind stream payload chunks =>
      simp only [step, opensStep] at taken
      split at taken
      next allowed =>
        split at taken
        · cases taken
        next after ended =>
          split at taken
          next handedKind handedStream header handed =>
            split at taken
            next whole =>
              cases taken
              exact .opens allowed.1 allowed.2 ended handed whole
            next => cases taken
          next => cases taken
      next => cases taken
  | foreign receiver kind stream source =>
      simp only [step] at taken
      split at taken
      next allowed =>
        cases taken
        exact .foreign allowed.1 allowed.2
      next => cases taken
  | accepts side stream =>
      simp only [step] at taken
      split at taken
      · cases taken
      next entry found =>
        obtain ⟨member, rfl⟩ := entry_of_some found
        exact .accepts member taken
  | feeds side stream =>
      simp only [step, feedsStep] at taken
      split at taken
      · cases taken
      next entry found =>
        obtain ⟨member, rfl⟩ := entry_of_some found
        split at taken
        · cases taken
        next result rest returned =>
          obtain ⟨after, ended, rfl⟩ := Option.map_eq_some_iff.mp taken
          exact .feeds member returned ended
  | datagram receiver bytes =>
      simp only [step] at taken
      split at taken
      · exact .datagram taken
      · cases taken
  | acts event =>
      simp only [step] at taken
      split at taken
      next isLocal => exact .acts isLocal taken
      next => cases taken

theorem step_end_frame {event : EndEvent} (taken : pair.stepEnd varint event = some next) :
    next.inbound = pair.inbound ∧ next.handshake = pair.handshake := by
  cases event with
  | client event =>
      obtain ⟨client, -, rfl⟩ := Option.map_eq_some_iff.mp taken
      exact ⟨rfl, rfl⟩
  | server event =>
      obtain ⟨server, -, rfl⟩ := Option.map_eq_some_iff.mp taken
      exact ⟨rfl, rfl⟩

theorem step_end_link {event : EndEvent} (taken : pair.stepEnd varint event = some next)
    (side : Side) : next.link side = { pair.link side with pool := next.pool side } := by
  rw [link, (step_end_frame taken).1]
  rfl

structure Sound (varint : Quicvarint) (pair : Pair) : Prop where
  client : Client.Live pair.handshake pair.client
  server : Server.Live pair.handshake pair.server
  apart : ∀ side, ∀ entry ∈ pair.inbound side, entry.stream ∉ pair.handshake
  routed : ∀ side, pair.OpenAt side → Routed varint (pair.link side)

theorem step_end_live {event : EndEvent} (sound : Sound varint pair)
    (taken : pair.stepEnd varint event = some next) :
    Client.Live next.handshake next.client ∧ Server.Live next.handshake next.server := by
  cases event with
  | client event =>
      obtain ⟨client, stepped, rfl⟩ := Option.map_eq_some_iff.mp taken
      exact ⟨Client.live_step sound.client stepped, sound.server⟩
  | server event =>
      obtain ⟨server, stepped, rfl⟩ := Option.map_eq_some_iff.mp taken
      exact ⟨sound.client, Server.live_step sound.server stepped⟩

/-- An end that is open after the step was open before it; its handlers make one step, or
none if the event is nothing to them, and those of the other end make none. -/
theorem step_end_pool {event : EndEvent} (sound : Sound varint pair)
    (taken : pair.stepEnd varint event = some next) (opened : next.OpenAt side) :
    pair.OpenAt side ∧ (next.pool side = pair.pool side ∨
      side = event.side ∧ ∃ poolEvent, event.pool = some poolEvent ∧
        (pair.pool side).step varint openFields poolEvent = some (next.pool side)) := by
  cases event with
  | client event =>
      obtain ⟨client, stepped, rfl⟩ := Option.map_eq_some_iff.mp taken
      cases side with
      | client =>
          refine ⟨(Client.open_of_step sound.client.consistent stepped opened).1, ?_⟩
          refine (Client.step_pool_open sound.client.consistent stepped opened).imp_right ?_
          exact fun handlers => ⟨rfl, handlers⟩
      | server => exact ⟨opened, .inl rfl⟩
  | server event =>
      obtain ⟨server, stepped, rfl⟩ := Option.map_eq_some_iff.mp taken
      cases side with
      | client => exact ⟨opened, .inl rfl⟩
      | server =>
          refine ⟨(Server.open_of_step sound.server.consistent stepped opened).1, ?_⟩
          refine (Server.step_pool_open sound.server.consistent stepped opened).imp_right ?_
          exact fun handlers => ⟨rfl, handlers⟩

theorem running_of_step_end {event : EndEvent} (taken : pair.stepEnd varint event = some next)
    (opened : pair.OpenAt event.side) : pair.Running event.side := by
  cases event with
  | client event =>
      obtain ⟨client, stepped, -⟩ := Option.map_eq_some_iff.mp taken
      exact ⟨opened, (Client.step_some.mp stepped).1⟩
  | server event => exact opened

def Accepting (pair : Pair) (kind : StreamKind) : Side → Prop
  | .client => pair.client.loops (.accept kind) = .blocked
  | .server => True

theorem accepting_of_step_end {kind : StreamKind} {stream : StreamId}
    (taken : pair.stepEnd varint (acceptEvent side kind stream) = some next) :
    pair.Accepting kind side := by
  cases side with
  | server => trivial
  | client =>
      obtain ⟨client, stepped, -⟩ := Option.map_eq_some_iff.mp taken
      have progressed := (Client.step_some.mp stepped).2.2
      simp only [Client.progress, Client.acceptStep] at progressed
      split at progressed
      · cases progressed
      next blocked => exact of_not_not blocked

theorem step_end_accept (sound : Sound varint pair) (running : pair.Running side)
    {kind : StreamKind} {stream : StreamId} (accepting : pair.Accepting kind side)
    (foreign : stream ∉ pair.handshake) :
    (pair.stepEnd varint (acceptEvent side kind stream)).map (fun next => next.pool side) =
      (pair.pool side).step varint openFields (.accept kind stream) := by
  cases side with
  | client =>
      rw [acceptEvent, stepEnd, Option.map_map]
      exact Client.accept_open sound.client running.1 running.2 kind accepting foreign
  | server =>
      rw [acceptEvent, stepEnd, Option.map_map]
      exact Server.accept_open sound.server running kind foreign

theorem step_end_header (sound : Sound varint pair) (running : pair.Running side)
    (stream : StreamId) (result : ReadResult) :
    (pair.stepEnd varint (headerEvent side stream result)).map (fun next => next.pool side) =
      (pair.pool side).readHeader varint openFields stream result := by
  cases side with
  | client =>
      rw [headerEvent, stepEnd, Option.map_map]
      exact Client.header_open sound.client running.1 running.2 stream result
  | server =>
      rw [headerEvent, stepEnd, Option.map_map]
      exact Server.header_open sound.server running stream result

theorem step_end_receive (sound : Sound varint pair) (running : pair.Running side)
    (stream : StreamId) :
    (pair.stepEnd varint (receiveEvent side stream)).map (fun next => next.pool side) =
      (pair.pool side).receive stream := by
  cases side with
  | client =>
      rw [receiveEvent, stepEnd, Option.map_map]
      exact Client.receive_open sound.client running.1 running.2 stream
  | server =>
      rw [receiveEvent, stepEnd, Option.map_map]
      exact Server.receive_open sound.server running stream

theorem view_unfinished (chunks : List (List UInt8)) :
    view (unfinished chunks) = ⟨chunks.flatten, .hang⟩ := by
  induction chunks with
  | nil => rfl
  | cons chunk chunks induction =>
      rw [unfinished, List.map_cons, view_data, ← unfinished, induction]
      rfl

theorem productive_unfinished {chunks : List (List UInt8)} (pieces : [] ∉ chunks) :
    Productive (unfinished chunks) := by
  intro result member _ empty
  obtain ⟨chunk, present, rfl⟩ := List.mem_map.mp member
  exact pieces (empty ▸ present)

section Opens

variable {opener : Side} {kind handedKind : StreamKind} {stream handedStream : StreamId}
  {payload header : List UInt8} {chunks : List (List UInt8)}

/-- A stream that is opened through the API begins with the header of its kind. -/
theorem view_of_opens (sound : Sound varint pair)
    (taken : pair.stepEnd varint (createEvent opener kind stream) = some after)
    (handed : (after.outputs opener).drop (pair.outputs opener).length =
      [.stream handedKind handedStream header])
    (whole : chunks.flatten = header ++ payload) :
    view (unfinished chunks) =
      ⟨streamHeader varint kind (pair.sessionId opener) ++ payload, .hang⟩ := by
  have written : header = streamHeader varint kind (pair.sessionId opener) := by
    cases opener with
    | client =>
        obtain ⟨client, stepped, rfl⟩ := Option.map_eq_some_iff.mp taken
        exact Client.created_header sound.client.consistent stepped handed
    | server =>
        obtain ⟨server, stepped, rfl⟩ := Option.map_eq_some_iff.mp taken
        exact Server.created_header sound.server.consistent stepped handed
  rw [view_unfinished, whole, written]

theorem session_id_lt (sound : Sound varint pair) (side : Side) :
    pair.sessionId side < 2 ^ 62 := by
  cases side with
  | client =>
      have zero : pair.sessionId .client = 0 := sound.client.sessionId
      rw [zero]
      exact Nat.two_pow_pos 62
  | server => exact sound.server.sessionId

theorem arrived_of_opens (sound : Sound varint pair) (pieces : [] ∉ chunks)
    (taken : pair.stepEnd varint (createEvent opener kind stream) = some after)
    (handed : (after.outputs opener).drop (pair.outputs opener).length =
      [.stream handedKind handedStream header])
    (whole : chunks.flatten = header ++ payload) :
    Arrived varint ⟨stream, kind, some payload, unfinished chunks, unfinished chunks⟩ := by
  refine ⟨rfl, productive_unfinished pieces, ?_⟩
  rintro _ ⟨⟩
  exact ⟨pair.sessionId opener, session_id_lt sound opener,
    view_of_opens sound taken handed whole⟩

end Opens

theorem Fresh.not_inbound {stream : StreamId} (fresh : pair.Fresh stream) (side : Side) :
    stream ∉ (pair.inbound side).map Inbound.stream := by
  cases side with
  | client => exact fresh.2.1
  | server => exact fresh.2.2

theorem link_with_inbound (pair : Pair) (inbound : Side → List Inbound) (side : Side) :
    ({ pair with inbound := inbound } : Pair).link side = ⟨pair.pool side, inbound side⟩ := by
  cases side <;> rfl

theorem link_arrive_self (pair : Pair) (side : Side) (entry : Inbound) :
    (pair.arrive side entry).link side =
      { pair.link side with inbound := (pair.link side).inbound ++ [entry] } := by
  rw [arrive, link_with_inbound, Function.update_self]
  rfl

theorem link_arrive_other (pair : Pair) {receiver : Side} (different : side ≠ receiver)
    (entry : Inbound) : (pair.arrive receiver entry).link side = pair.link side := by
  rw [arrive, link_with_inbound, Function.update_of_ne different]
  rfl

theorem link_advance_self (pair : Pair) (side : Side) (stream : StreamId) (rest : Source) :
    (pair.advance side stream rest).link side =
      ⟨pair.pool side, setUnread stream rest (pair.inbound side)⟩ := by
  rw [advance, link_with_inbound, Function.update_self]

theorem link_advance_other (pair : Pair) {reader : Side} (different : side ≠ reader)
    (stream : StreamId) (rest : Source) :
    (pair.advance reader stream rest).link side = pair.link side := by
  rw [advance, link_with_inbound, Function.update_of_ne different]
  rfl

theorem mem_arrive {receiver : Side} {new entry : Inbound}
    (member : entry ∈ (pair.arrive receiver new).inbound side) :
    entry ∈ pair.inbound side ∨ side = receiver ∧ entry = new := by
  simp only [arrive] at member
  by_cases same : side = receiver
  · rw [same, Function.update_self] at member
    rcases List.mem_append.mp member with earlier | now
    · exact .inl (same ▸ earlier)
    · exact .inr ⟨same, List.mem_singleton.mp now⟩
  · rw [Function.update_of_ne same] at member
    exact .inl member

theorem mem_advance {reader : Side} {stream : StreamId} {rest : Source} {entry : Inbound}
    (member : entry ∈ (pair.advance reader stream rest).inbound side) :
    ∃ before ∈ pair.inbound side, { before with unread := entry.unread } = entry := by
  simp only [advance] at member
  by_cases same : side = reader
  · rw [same, Function.update_self] at member
    obtain ⟨before, earlier, rfl⟩ := List.mem_map.mp member
    refine ⟨before, same ▸ earlier, ?_⟩
    split <;> rfl
  · rw [Function.update_of_ne same] at member
    exact ⟨entry, member, rfl⟩

theorem open_arrive (receiver : Side) (entry : Inbound) :
    (pair.arrive receiver entry).OpenAt side ↔ pair.OpenAt side := by
  cases side <;> exact Iff.rfl

theorem open_advance (reader : Side) (stream : StreamId) (rest : Source) :
    (pair.advance reader stream rest).OpenAt side ↔ pair.OpenAt side := by
  cases side <;> exact Iff.rfl

theorem link_of_step_end {event : EndEvent} (sound : Sound varint pair)
    (taken : pair.stepEnd varint event = some next) (opened : next.OpenAt side)
    (nothing : side ≠ event.side ∨ event.pool = none) :
    pair.OpenAt side ∧ next.link side = pair.link side := by
  obtain ⟨before, same | ⟨own, poolEvent, handled, -⟩⟩ := step_end_pool sound taken opened
  · refine ⟨before, ?_⟩
    rw [link, link, same, (step_end_frame taken).1]
  · rcases nothing with different | none
    · exact absurd own different
    · cases none.symm.trans handled

theorem local_pool {event : EndEvent} (isLocal : event.isLocal = true)
    (other : event.received = none) :
    event.pool = none ∨ (∃ stream, event.pool = some (.timer stream)) ∨
      ∃ kind, event.pool = some (.await kind) := by
  rcases event with event | event
  · cases event with
    | accept kind result =>
        cases result with
        | error err => exact .inl rfl
        | ok stream => cases isLocal
    | header stream result => cases isLocal
    | receive stream => cases other
    | await kind => exact .inr (.inr ⟨kind, rfl⟩)
    | _ => exact .inl rfl
  · cases event with
    | accept kind result onClose =>
        cases result with
        | error err => exact .inl rfl
        | ok stream => cases isLocal
    | header stream result => cases isLocal
    | timer stream => exact .inr (.inl ⟨stream, rfl⟩)
    | receive stream => cases other
    | await kind => exact .inr (.inr ⟨kind, rfl⟩)
    | _ => exact .inl rfl

theorem received_some {event : EndEvent} {stream : StreamId}
    (received : event.received = some stream) : event = receiveEvent event.side stream := by
  rcases event with event | event
  · cases event <;> cases received
    rfl
  · cases event <;> cases received
    rfl

/-- Each direction of the pair makes the step of a link that the event is to it, or none if
it is nothing to it. -/
def LinkStep (varint : Quicvarint) (pair : Pair) (event : Event) (next : Pair) (side : Side) :
    Prop :=
  pair.OpenAt side ∧
    (event.action side = .idle ∧ next.link side = pair.link side ∨
      (pair.link side).Step varint (event.action side) (next.link side))

section LinkSteps

variable (sound : Sound varint pair)
include sound

theorem opens_link {opener : Side} {kind handedKind : StreamKind}
    {stream handedStream : StreamId} {payload header : List UInt8} {chunks : List (List UInt8)}
    (fresh : pair.Fresh stream) (pieces : [] ∉ chunks)
    (taken : pair.stepEnd varint (createEvent opener kind stream) = some after)
    (handed : (after.outputs opener).drop (pair.outputs opener).length =
      [.stream handedKind handedStream header])
    (whole : chunks.flatten = header ++ payload) (opened : after.OpenAt side) :
    LinkStep varint pair (.opens opener kind stream payload chunks) (after.arrive opener.other
      ⟨stream, kind, some payload, unfinished chunks, unfinished chunks⟩) side := by
  have nothing : (createEvent opener kind stream).pool = none := by
    cases opener <;> cases kind <;> rfl
  obtain ⟨before, same⟩ := link_of_step_end sound taken opened (.inr nothing)
  refine ⟨before, ?_⟩
  by_cases receiver : side = opener.other
  · right
    subst receiver
    rw [link_arrive_self, same, Event.action, if_pos rfl]
    apply Link.Step.arrives
    · exact fresh.not_inbound opener.other
    · exact arrived_of_opens sound pieces taken handed whole
  · left
    rw [link_arrive_other after receiver]
    exact ⟨if_neg receiver, same⟩

omit sound in
theorem foreign_link {receiver : Side} {kind : StreamKind} {stream : StreamId} {source : Source}
    (fresh : pair.Fresh stream) (productive : Productive source) (opened : pair.OpenAt side) :
    LinkStep varint pair (.foreign receiver kind stream source)
      (pair.arrive receiver ⟨stream, kind, none, source, source⟩) side := by
  refine ⟨opened, ?_⟩
  by_cases own : side = receiver
  · right
    subst own
    rw [link_arrive_self, Event.action, if_pos rfl]
    apply Link.Step.arrives
    · exact fresh.not_inbound side
    · exact ⟨rfl, productive, fun payload written => by cases written⟩
  · left
    rw [link_arrive_other pair own]
    exact ⟨if_neg own, rfl⟩

theorem accepts_link {acceptor : Side} {entry : Inbound} (member : entry ∈ pair.inbound acceptor)
    (taken : pair.stepEnd varint (acceptEvent acceptor entry.kind entry.stream) = some next)
    (opened : next.OpenAt side) :
    LinkStep varint pair (.accepts acceptor entry.stream) next side := by
  have own : (acceptEvent acceptor entry.kind entry.stream).side = acceptor := by
    cases acceptor <;> rfl
  by_cases same : side = acceptor
  · subst same
    obtain ⟨before, -⟩ := step_end_pool sound taken opened
    have running := running_of_step_end taken (own.symm ▸ before)
    rw [own] at running
    have handled := step_end_accept sound running (accepting_of_step_end taken)
      (sound.apart side entry member)
    rw [taken, Option.map_some] at handled
    refine ⟨before, .inr ?_⟩
    rw [Event.action, if_pos rfl]
    rw [step_end_link taken]
    exact .accepts member handled.symm
  · obtain ⟨before, unchanged⟩ := link_of_step_end sound taken opened (.inl (own.symm ▸ same))
    exact ⟨before, .inl ⟨if_neg same, unchanged⟩⟩

theorem feeds_link {reader : Side} {entry : Inbound} {result : ReadResult} {rest : Source}
    (member : entry ∈ pair.inbound reader)
    (returned : GoReader.read 1 entry.unread = some (result, rest))
    (taken : pair.stepEnd varint (headerEvent reader entry.stream result) = some after)
    (opened : after.OpenAt side) :
    LinkStep varint pair (.feeds reader entry.stream) (after.advance reader entry.stream rest)
      side := by
  have own : (headerEvent reader entry.stream result).side = reader := by cases reader <;> rfl
  by_cases same : side = reader
  · subst same
    obtain ⟨before, -⟩ := step_end_pool sound taken opened
    have running := running_of_step_end taken (own.symm ▸ before)
    rw [own] at running
    have handled := step_end_header sound running entry.stream result
    rw [taken, Option.map_some] at handled
    refine ⟨before, .inr ?_⟩
    rw [Event.action, if_pos rfl, link_advance_self, (step_end_frame taken).1]
    exact .feeds member returned handled.symm
  · obtain ⟨before, unchanged⟩ := link_of_step_end sound taken opened (.inl (own.symm ▸ same))
    rw [← link_advance_other after same entry.stream rest] at unchanged
    exact ⟨before, .inl ⟨if_neg same, unchanged⟩⟩

theorem acts_link {event : EndEvent} (isLocal : event.isLocal = true)
    (taken : pair.stepEnd varint event = some next) (opened : next.OpenAt side) :
    LinkStep varint pair (.acts event) next side := by
  obtain ⟨before, handlers⟩ := step_end_pool sound taken opened
  refine ⟨before, ?_⟩
  by_cases same : side = event.side
  · subst same
    cases received : event.received with
    | some stream =>
        right
        have isReceive := received_some received
        have running := running_of_step_end taken before
        have handled := step_end_receive sound running stream
        rw [← isReceive, taken, Option.map_some] at handled
        rw [Event.action, if_pos ⟨rfl, by simp [received]⟩, step_end_link taken]
        exact .receives handled.symm
    | none =>
        have idle : (Event.acts event).action event.side = .idle := by
          rw [Event.action, if_neg (by simp [received])]
        rw [idle]
        rcases handlers with unchanged | ⟨-, poolEvent, own, stepped⟩
        · exact .inl ⟨rfl, by rw [step_end_link taken, unchanged, link]⟩
        · rcases local_pool isLocal received with nothing | ⟨stream, timer⟩ | ⟨kind, await⟩
          · cases nothing.symm.trans own
          · cases timer.symm.trans own
            right
            rw [step_end_link taken, ← Option.some.inj stepped]
            exact .times
          · cases await.symm.trans own
            right
            rw [step_end_link taken]
            exact .awaits stepped
  · left
    have idle : (Event.acts event).action side = .idle := if_neg fun both => same both.1
    exact ⟨idle, (link_of_step_end sound taken opened (.inl same)).2⟩

/-- The simulation: what a step of the pair is to each direction. -/
theorem step_link {event : Event} (taken : pair.step varint event = some next)
    (opened : next.OpenAt side) : LinkStep varint pair event next side := by
  cases step_effect taken with
  | opens fresh pieces ended handed whole =>
      exact opens_link sound fresh pieces ended handed whole ((open_arrive _ _).mp opened)
  | foreign fresh productive => exact foreign_link fresh productive ((open_arrive _ _).mp opened)
  | accepts member ended => exact accepts_link sound member ended opened
  | feeds member returned ended =>
      exact feeds_link sound member returned ended ((open_advance _ _ _).mp opened)
  | @datagram receiver bytes after ended =>
      have nothing : (datagramEvent receiver bytes).pool = none := by cases receiver <;> rfl
      obtain ⟨before, same⟩ := link_of_step_end sound ended opened (.inr nothing)
      exact ⟨before, .inl ⟨rfl, same⟩⟩
  | acts isLocal ended => exact acts_link sound isLocal ended opened

/-- The streams of the handshake are never among those that come in. -/
theorem apart_step {event : Event} (taken : pair.step varint event = some next) (side : Side) :
    ∀ entry ∈ next.inbound side, entry.stream ∉ next.handshake := by
  have kept {endEvent : EndEvent} {after : Pair}
      (ended : pair.stepEnd varint endEvent = some after) :
      ∀ entry ∈ after.inbound side, entry.stream ∉ after.handshake := by
    rw [(step_end_frame ended).1, (step_end_frame ended).2]
    exact sound.apart side
  intro entry member
  cases step_effect taken with
  | opens fresh pieces ended handed whole =>
      rcases mem_arrive member with earlier | ⟨-, rfl⟩
      · exact kept ended entry earlier
      · exact (step_end_frame ended).2 ▸ fresh.1
  | foreign fresh productive =>
      rcases mem_arrive member with earlier | ⟨-, rfl⟩
      · exact sound.apart side entry earlier
      · exact fresh.1
  | accepts own ended => exact kept ended entry member
  | feeds own returned ended =>
      obtain ⟨before, earlier, same⟩ := mem_advance member
      rw [← same]
      exact kept ended before earlier
  | datagram ended => exact kept ended entry member
  | acts isLocal ended => exact kept ended entry member

theorem live_step {event : Event} (taken : pair.step varint event = some next) :
    Client.Live next.handshake next.client ∧ Server.Live next.handshake next.server := by
  cases step_effect taken with
  | opens fresh pieces ended handed whole =>
      obtain ⟨client, server⟩ := step_end_live sound ended
      exact ⟨client, server⟩
  | foreign fresh productive => exact ⟨sound.client, sound.server⟩
  | accepts member ended => exact step_end_live sound ended
  | feeds member returned ended =>
      obtain ⟨client, server⟩ := step_end_live sound ended
      exact ⟨client, server⟩
  | datagram ended => exact step_end_live sound ended
  | acts isLocal ended => exact step_end_live sound ended

theorem sound_step {event : Event} (taken : pair.step varint event = some next) :
    Sound varint next where
  client := (live_step sound taken).1
  server := (live_step sound taken).2
  apart := apart_step sound taken
  routed side opened := by
    obtain ⟨before, ⟨-, same⟩ | stepped⟩ := step_link sound taken opened
    · exact same ▸ sound.routed side before
    · exact routed_step (sound.routed side before) stepped

end LinkSteps

theorem sound_start (varint : Quicvarint) (handshake : Handshake) :
    Sound varint handshake.pair where
  client := by
    refine ⟨.inl (Client.connected_open _ _ _ _ rfl rfl), fun _ loop => ?_, fun _ => rfl, rfl, ?_⟩
    · exact fun returned => by cases returned
    · rintro (_ | _) stream ⟨⟩
      · exact List.mem_cons_self
      · simp [Handshake.pair]
  server := by
    refine ⟨Server.create_consistent _ _ _ _, fun _ _ => rfl, fun _ => rfl, Nat.two_pow_pos 62, ?_⟩
    rintro (_ | _) stream ⟨⟩
    · exact List.mem_cons_self
    · simp [Handshake.pair]
  apart _ _ member := by cases member
  routed side _ := by
    cases side with
    | client => exact routed_empty
    | server => exact routed_empty

theorem sound_of_reachable {handshake : Handshake}
    (reached : Reachable (step varint) handshake.pair pair) : Sound varint pair :=
  reachable_invariant (fun _ _ _ sound taken => sound_step sound taken)
    (sound_start varint handshake) reached

end Pair

end WebTransportGos
