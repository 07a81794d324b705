import WebTransportGos.Session.ServerRuns
import WebTransportGos.Session.Demultiplexing

/-!
Datagrams between the two ends. Both put the session id in front of a message; the server's
loop takes it off again, the client's hands the datagram on as it is. As long as all streams
are opened through the API the server's session id stays that of the handshake, so what the
client sends arrives as it was, and nothing that the server sends does.
-/

namespace WebTransportGos

open GoReader GoText VarintFormat StepSystem

set_option autoImplicit false

namespace Pair

def Event.isForeign : Event → Bool
  | .foreign _ _ _ _ => true
  | _ => false

/-- The pair while both ends keep to the API. -/
def apiStep (varint : Quicvarint) (pair : Pair) (event : Event) : Option Pair :=
  if event.isForeign then none else pair.step varint event

def Listening (pair : Pair) : Side → Prop
  | .client => pair.client.loops .message = .blocked
  | .server => pair.server.running .message = true

/-- With API streams only, every header the server gets carries the id 0. -/
structure FromApi (varint : Quicvarint) (pair : Pair) : Prop where
  sound : Sound varint pair
  sessionId : pair.OpenAt .server → pair.server.transport.sessionId = 0
  headers : ∀ entry ∈ pair.inbound .server, ∃ payload,
    view entry.original = ⟨streamHeader varint entry.kind 0 ++ payload, .hang⟩

variable {varint : Quicvarint} {pair next after : Pair} {side : Side} {event : Event}

theorem api_step_some : pair.apiStep varint event = some next ↔
    event.isForeign = false ∧ pair.step varint event = some next := by
  unfold apiStep
  cases event.isForeign <;> simp

/-- The id of a completed header is the one the stream begins with. -/
theorem completed_of_feed (api : FromApi varint pair) (opened : pair.OpenAt .server)
    {entry : Inbound} {result : ReadResult} {rest : Source} {sessionId : Nat}
    (member : entry ∈ pair.inbound .server)
    (returned : GoReader.read 1 entry.unread = some (result, rest))
    (completed : Server.completedHeader varint pair.server (.header entry.stream result) =
      some sessionId) : sessionId = 0 := by
  have routed := api.sound.routed .server opened
  simp only [Server.completedHeader] at completed
  split at completed
  · cases completed
  next handler found =>
    split at completed
    next got reading =>
      split at completed
      next id stepped =>
        cases completed
        obtain ⟨-, fits⟩ := routed.status_found member found
        rw [reading] at fits
        obtain ⟨incomplete, origin, -⟩ := fits
        obtain ⟨-, single⟩ := read_one_productive (routed.productive entry member) returned
        rcases @header_step_cases varint handler.kind got result single with
          ⟨err, -, quits⟩ | ⟨byte, -, data, ⟨-, more⟩ | ⟨streamType, own, behind, split, ends⟩⟩
        · cases stepped.symm.trans quits
        · cases stepped.symm.trans more
        · rw [stepped] at ends
          split at ends
          next => 
            cases ends
            rw [(read_some returned).2.1, data] at origin
            have whole := header_of_completed incomplete origin split
            obtain ⟨payload, written⟩ := api.headers entry member
            rw [written, split_stream_header entry.kind (Nat.two_pow_pos 62)] at whole
            cases whole
            rfl
          next => cases ends
      next => cases completed
    · cases completed

theorem step_end_session_id {endEvent : EndEvent} (sound : Sound varint pair)
    (ended : pair.stepEnd varint endEvent = some after)
    (silent : ∀ serverEvent, endEvent = .server serverEvent →
      Server.completedHeader varint pair.server serverEvent = none) :
    after.server.transport.sessionId = pair.server.transport.sessionId := by
  cases endEvent with
  | client clientEvent =>
      obtain ⟨client, -, rfl⟩ := Option.map_eq_some_iff.mp ended
      rfl
  | server serverEvent =>
      obtain ⟨server, stepped, rfl⟩ := Option.map_eq_some_iff.mp ended
      have stored := Server.step_session_id sound.server.consistent stepped
      rw [silent serverEvent rfl] at stored
      exact stored

/-- A read of the server's handler stores the id of a header that it completes. -/
theorem step_end_header_session_id {stream : StreamId} {result : ReadResult}
    (sound : Sound varint pair)
    (ended : pair.stepEnd varint (headerEvent .server stream result) = some after) :
    after.server.transport.sessionId = pair.server.transport.sessionId ∨
      Server.completedHeader varint pair.server (.header stream result) =
        some after.server.transport.sessionId := by
  obtain ⟨server, stepped, rfl⟩ := Option.map_eq_some_iff.mp ended
  have stored := Server.step_session_id sound.server.consistent stepped
  cases completed : Server.completedHeader varint pair.server (.header stream result) with
  | none =>
      rw [completed] at stored
      exact .inl stored
  | some sessionId =>
      rw [completed, Option.getD_some] at stored
      exact .inr (congrArg some stored.symm)

theorem step_session_id (sound : Sound varint pair) (taken : pair.step varint event = some next) :
    next.server.transport.sessionId = pair.server.transport.sessionId ∨
      ∃ entry ∈ pair.inbound .server, ∃ result rest,
        GoReader.read 1 entry.unread = some (result, rest) ∧
        Server.completedHeader varint pair.server (.header entry.stream result) =
          some next.server.transport.sessionId := by
  cases step_effect taken with
  | @opens opener kind _ stream _ _ _ _ after fresh pieces ended handed whole =>
      left
      apply Eq.trans _ (step_end_session_id sound ended _)
      · rfl
      · cases opener <;> rintro _ ⟨⟩
        rfl
  | foreign fresh productive => exact .inl rfl
  | @accepts side entry after member ended =>
      refine .inl (step_end_session_id sound ended ?_)
      cases side <;> rintro _ ⟨⟩
      rfl
  | @feeds side entry result rest after member returned ended =>
      cases side with
      | client =>
          left
          apply Eq.trans _ (step_end_session_id sound ended _)
          · rfl
          · rintro _ ⟨⟩
      | server =>
          apply (step_end_header_session_id sound ended).imp_right
          intro completed
          exact ⟨entry, member, result, rest, returned, completed⟩
  | @datagram receiver bytes after ended =>
      refine .inl (step_end_session_id sound ended ?_)
      cases receiver <;> rintro _ ⟨⟩
      rfl
  | @acts event after isLocal ended =>
      refine .inl (step_end_session_id sound ended ?_)
      rintro serverEvent rfl
      cases serverEvent with
      | header stream result => cases isLocal
      | _ => rfl

theorem from_api_step (api : FromApi varint pair) (taken : pair.apiStep varint event = some next) :
    FromApi varint next := by
  obtain ⟨api', taken⟩ := api_step_some.mp taken
  refine ⟨sound_step api.sound taken, fun opened => ?_, fun entry member => ?_⟩
  · have before := (step_link api.sound taken opened).1
    rcases step_session_id api.sound taken with
      same | ⟨entry, member, result, rest, returned, completed⟩
    · exact same.trans (api.sessionId before)
    · exact completed_of_feed api before member returned completed
  · cases step_effect taken with
    | @opens opener kind _ stream _ payload _ _ after fresh pieces ended handed whole =>
        rcases mem_arrive member with earlier | ⟨receiver, rfl⟩
        · rw [(step_end_frame ended).1] at earlier
          exact api.headers entry earlier
        · cases opener with
          | server => cases receiver
          | client =>
              have begins := view_of_opens api.sound ended handed whole
              rw [show pair.sessionId .client = 0 from api.sound.client.sessionId] at begins
              exact ⟨payload, begins⟩
    | foreign fresh productive => cases api'
    | accepts own ended =>
        rw [(step_end_frame ended).1] at member
        exact api.headers entry member
    | feeds own returned ended =>
        obtain ⟨before, earlier, same⟩ := mem_advance member
        rw [(step_end_frame ended).1] at earlier
        rw [← same]
        exact api.headers before earlier
    | datagram ended =>
        rw [(step_end_frame ended).1] at member
        exact api.headers entry member
    | acts isLocal ended =>
        rw [(step_end_frame ended).1] at member
        exact api.headers entry member

theorem from_api_of_reachable {handshake : Handshake}
    (reached : Reachable (apiStep varint) handshake.pair pair) : FromApi varint pair := by
  apply reachable_invariant _ _ reached
  · intro state event after api taken
    exact from_api_step api taken
  · refine ⟨sound_start varint handshake, fun _ => rfl, ?_⟩
    intro entry member
    cases member

theorem step_end_outputs {event : EndEvent} (sound : Sound varint pair)
    (taken : pair.stepEnd varint event = some next) {output : Output}
    (handed : output ∈ pair.outputs side) : output ∈ next.outputs side := by
  cases event with
  | client event =>
      obtain ⟨client, stepped, rfl⟩ := Option.map_eq_some_iff.mp taken
      cases side with
      | server => exact handed
      | client =>
          change output ∈ client.outputs
          rw [Client.step_outputs sound.client.consistent stepped]
          exact List.mem_append_left _ handed
  | server event =>
      obtain ⟨server, stepped, rfl⟩ := Option.map_eq_some_iff.mp taken
      cases side with
      | client => exact handed
      | server =>
          change output ∈ server.outputs
          rw [Server.step_outputs sound.server.consistent stepped]
          exact List.mem_append_left _ handed

theorem step_outputs (sound : Sound varint pair) (taken : pair.step varint event = some next)
    {output : Output} (handed : output ∈ pair.outputs side) : output ∈ next.outputs side := by
  cases step_effect taken with
  | opens fresh pieces ended _ whole =>
      have kept := step_end_outputs sound ended handed
      cases side <;> exact kept
  | foreign fresh productive => cases side <;> exact handed
  | accepts member ended => exact step_end_outputs sound ended handed
  | feeds member returned ended =>
      have kept := step_end_outputs sound ended handed
      cases side <;> exact kept
  | datagram ended => exact step_end_outputs sound ended handed
  | acts isLocal ended => exact step_end_outputs sound ended handed

theorem run_outputs {events : List Event} {output : Output} (api : FromApi varint pair)
    (ran : run (apiStep varint) pair events = some next) (handed : output ∈ pair.outputs side) :
    output ∈ next.outputs side := by
  have kept : FromApi varint next ∧ output ∈ next.outputs side := by
    apply run_invariant _ ⟨api, handed⟩ ran
    intro state event after holds stepped
    refine ⟨from_api_step holds.1 stepped, ?_⟩
    exact step_outputs holds.1.sound (api_step_some.mp stepped).2 holds.2
  exact kept.2

theorem api_step_datagram {bytes : List UInt8}
    (handed : .datagram bytes ∈ pair.outputs side.other) :
    pair.apiStep varint (.datagram side bytes) =
      pair.stepEnd varint (datagramEvent side bytes) :=
  if_pos handed

theorem bytes_of_send {message bytes : List UInt8} (sound : Sound varint pair)
    (taken : pair.stepEnd varint (sendEvent side message) = some next)
    (handed : next.outputs side = pair.outputs side ++ [.datagram bytes]) :
    bytes = varint.write (pair.sessionId side) ++ message := by
  cases side with
  | client =>
      obtain ⟨client, stepped, rfl⟩ := Option.map_eq_some_iff.mp taken
      have grown := (Client.step_outputs sound.client.consistent stepped).symm.trans handed
      have new := List.append_cancel_left grown
      simp only [Client.eventOutputs] at new
      split at new
      · cases new
        rfl
      · cases new
  | server =>
      obtain ⟨server, stepped, rfl⟩ := Option.map_eq_some_iff.mp taken
      have grown := (Server.step_outputs sound.server.consistent stepped).symm.trans handed
      have new := List.append_cancel_left grown
      simp only [Server.eventOutputs] at new
      split at new
      · cases new
        rfl
      · cases new

theorem message_shorter {message bytes : List UInt8} (sound : Sound varint pair)
    (written : bytes = varint.write (pair.sessionId side) ++ message) :
    message.length < bytes.length := by
  have small : pair.sessionId side < varint.format.limit := by
    rw [varint.limit_eq]
    exact session_id_lt sound side
  have positive : 0 < (varint.write (pair.sessionId side)).length :=
    List.length_pos_of_ne_nil (Format.write_ne_nil small)
  rw [written, List.length_append]
  exact Nat.lt_add_of_pos_left positive

theorem server_takes {message bytes : List UInt8} (sound : Sound varint pair)
    (opened : pair.OpenAt .server) (isSet : pair.onMessage .server = true)
    (decoded : varint.decode bytes = some (pair.server.transport.sessionId, message)) :
    ∃ after, pair.stepEnd varint (datagramEvent .server bytes) = some after ∧
      after.messages .server = pair.messages .server ++ [message] := by
  have delivered := Server.message_for_some.mpr ⟨isSet, decoded⟩
  have stepped := @Server.step_open varint _ _ (.message (.ok bytes) []) sound.server opened
  simp only [Server.progress, Server.messageStep, sound.server.running opened, delivered,
    Bool.not_true, Bool.false_eq_true, if_false] at stepped
  simp only [datagramEvent, stepEnd, stepped, Option.map_some]
  exact ⟨_, rfl, rfl⟩

theorem client_takes {bytes : List UInt8} (sound : Sound varint pair)
    (running : pair.Running .client) (isSet : pair.onMessage .client = true)
    (listening : pair.Listening .client) (some : bytes ≠ []) :
    ∃ after, pair.stepEnd varint (datagramEvent .client bytes) = .some after ∧
      after.messages .client = pair.messages .client ++ [bytes] := by
  have delivered : Client.messageFor pair.client.client bytes = .some bytes := if_pos ⟨some, isSet⟩
  have blocked : pair.client.loops .message = .blocked := listening
  have stepped := @Client.step_open varint _ _ (.message (.ok bytes) []) sound.client running.1
    running.2
  simp only [Client.progress, Client.messageStep, blocked, delivered, ne_eq, not_true_eq_false,
    if_false] at stepped
  simp only [datagramEvent, stepEnd, stepped, Option.map_some]
  refine ⟨_, rfl, ?_⟩
  unfold Client.State.block
  split
  · rfl
  · rfl

end Pair

open Pair in
/-- A message that is handed over in one state and arrives in a later one calls `OnMessage`
once with exactly its bytes if the client has sent it, and with other bytes if the server
has. -/
theorem message_survives_iff (varint : Quicvarint) (handshake : Handshake) (sender : Side)
    {pair sent later : Pair} {events : List Pair.Event} {message bytes : List UInt8}
    (reached : Reachable (apiStep varint) handshake.pair pair)
    (taken : pair.apiStep varint (.acts (sendEvent sender message)) = some sent)
    (handed : sent.outputs sender = pair.outputs sender ++ [.datagram bytes])
    (ran : run (apiStep varint) sent events = some later)
    (running : later.Running sender.other) (isSet : later.onMessage sender.other = true)
    (listening : later.Listening sender.other) :
    ∃ after, later.apiStep varint (.datagram sender.other bytes) = some after ∧
      (after.messages sender.other = later.messages sender.other ++ [message] ↔
        sender = .client) := by
  have before := from_api_of_reachable reached
  have first := from_api_step before taken
  have api : FromApi varint later :=
    run_invariant (fun _ _ _ holds stepped => from_api_step holds stepped) first ran
  have isLocal : (sendEvent sender message).isLocal = true := by cases sender <;> rfl
  have ended := (api_step_some.mp taken).2
  simp only [Pair.step, isLocal, if_true] at ended
  have written := bytes_of_send before.sound ended handed
  have onItsWay : Output.datagram bytes ∈ later.outputs sender :=
    run_outputs first ran (by simp [handed])
  cases sender with
  | client =>
      have zero : pair.sessionId .client = 0 := before.sound.client.sessionId
      have decoded : varint.decode bytes =
          some (later.server.transport.sessionId, message) := by
        rw [written, zero, api.sessionId running, varint.decode_write (Nat.two_pow_pos 62)]
      obtain ⟨after, stepped, called⟩ := server_takes api.sound running isSet decoded
      exact ⟨after, (api_step_datagram onItsWay).trans stepped, fun _ => rfl, fun _ => called⟩
  | server =>
      have longer := message_shorter before.sound written
      have notEmpty : bytes ≠ [] := List.ne_nil_of_length_pos (Nat.zero_lt_of_lt longer)
      obtain ⟨after, stepped, called⟩ := client_takes api.sound running isSet listening notEmpty
      refine ⟨after, (api_step_datagram onItsWay).trans stepped, ?_⟩
      constructor
      · intro intact
        have same : [bytes] = [message] := List.append_cancel_left (called.symm.trans intact)
        rw [List.singleton_inj.mp same] at longer
        exact absurd longer (Nat.lt_irrefl _)
      · intro impossible
        cases impossible

/-- The client sends one byte, and the server's `OnMessage` gets it. -/
theorem client_message_survives :
    ∃ later after : Pair, later.apiStep .reference (.datagram .server [0, 104]) = some after ∧
      after.messages .server = later.messages .server ++ [[104]] := by
  have reached : Reachable (Pair.apiStep .reference) echoHandshake.pair _ :=
    ⟨[.acts (.server (.setOnMessage true))], rfl⟩
  have opened : Server.Open _ := ((Pair.from_api_of_reachable reached).sound.server.consistent
    ).life.resolve_right fun closed => absurd closed.closed (by decide)
  obtain ⟨after, arrived, called⟩ := @message_survives_iff .reference echoHandshake .client _ _ _ []
    [104] [0, 104] reached rfl rfl rfl opened rfl rfl
  exact ⟨_, after, arrived, called.mpr rfl⟩

/-- The server sends one byte, and the client's `OnMessage` gets two. -/
theorem server_message_keeps_prefix :
    ¬ ∀ (sender : Side) (pair sent later : Pair) (events : List Pair.Event)
      (message bytes : List UInt8),
      Reachable (Pair.apiStep .reference) echoHandshake.pair pair →
      pair.apiStep .reference (.acts (sendEvent sender message)) = some sent →
      sent.outputs sender = pair.outputs sender ++ [.datagram bytes] →
      run (Pair.apiStep .reference) sent events = some later →
      later.Running .client → later.Running .server → later.onMessage sender.other = true →
      later.Listening sender.other →
      ∃ after, later.apiStep .reference (.datagram sender.other bytes) = some after ∧
        after.messages sender.other = later.messages sender.other ++ [message] := by
  intro delivers
  have reached : Reachable (Pair.apiStep .reference) echoHandshake.pair _ :=
    ⟨[.acts (.client (.start .message)), .acts (.client (.setOnMessage true))], rfl⟩
  have further : Reachable (Pair.apiStep .reference) echoHandshake.pair _ :=
    ⟨[.acts (.client (.start .message)), .acts (.client (.setOnMessage true)),
      .acts (sendEvent .server [104])], rfl⟩
  have sound := (Pair.from_api_of_reachable further).sound
  have server : Server.Open _ :=
    sound.server.consistent.life.resolve_right fun closed => absurd closed.closed (by decide)
  have client : Client.Open _ :=
    sound.client.consistent.resolve_right fun closed => absurd closed.connected (by decide)
  obtain ⟨after, arrived, called⟩ := delivers .server _ _ _ [] [104] [0, 104] reached rfl rfl rfl
    ⟨client, rfl⟩ server rfl rfl
  cases arrived
  exact absurd called (by decide)

end WebTransportGos
