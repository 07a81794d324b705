import WebTransportGos.Session.PairLifetime
import WebTransportGos.Session.Progress

/-!
The streams of a whole session. Whatever the two ends do, an end that is open gets every
stream of the other end's `CreateStream` and `CreateUniStream` once, on the channel of its
kind and with exactly its payload to read, and no stream whose header does not fit.
-/

namespace WebTransportGos

open GoReader GoText VarintFormat StepSystem

set_option autoImplicit false

def unstartedLoops (loops : Loop → Client.LoopPhase) : Nat :=
  [Loop.accept .bidi, .accept .uni, .message, .connect].countP fun loop => loops loop = .ready

theorem unstarted_update (loops : Loop → Client.LoopPhase) (loop : Loop) :
    unstartedLoops (Function.update loops loop .blocked) +
      (if loops loop = .ready then 1 else 0) = unstartedLoops loops := by
  unfold unstartedLoops
  rcases loop with (_ | _) | _ | _ <;> simp [List.countP_cons, Function.update_apply] <;> omega

namespace Pair

def unstarted (pair : Pair) : Side → Nat
  | .client => unstartedLoops pair.client.loops
  | .server => 0

/-- The steps this end can still make with the streams that have come in, at most. -/
def work (pair : Pair) (side : Side) : Nat := (pair.link side).work + pair.unstarted side

def Event.advances (side : Side) : Event → Bool
  | .acts (.client (.start _)) => side = .client
  | event => event.action side = .progress

variable {varint : Quicvarint} {pair next : Pair} {side : Side} {event : Event}

theorem open_of_running (running : pair.Running side) : pair.OpenAt side := by
  cases side with
  | client => exact running.1
  | server => exact running

/-- Neither end starts a loop by a step of the other one, nor by any step but `start`. -/
theorem step_end_unstarted {event : EndEvent} (sound : Sound varint pair)
    (taken : pair.stepEnd varint event = some next) (opened : next.OpenAt side) :
    next.unstarted side ≤ pair.unstarted side := by
  cases event with
  | server event =>
      obtain ⟨server, -, rfl⟩ := Option.map_eq_some_iff.mp taken
      cases side <;> exact Nat.le_refl _
  | client event =>
      obtain ⟨client, stepped, rfl⟩ := Option.map_eq_some_iff.mp taken
      cases side with
      | server => exact Nat.le_refl _
      | client =>
          have quiet := (Client.open_of_step sound.client.consistent stepped opened).2
          have rounds := Client.step_rounds sound.client.consistent stepped quiet
          rcases rounds with same | ⟨loop, blocked⟩
          · exact Nat.le_of_eq (congrArg unstartedLoops same)
          · have fewer := unstarted_update pair.client.loops loop
            simp only [unstarted, blocked]
            omega

theorem step_end_start {loop : Loop}
    (taken : pair.stepEnd varint (.client (.start loop)) = some next)
    (running : next.Running .client) :
    next.unstarted .client + 1 = pair.unstarted .client := by
  obtain ⟨client, stepped, rfl⟩ := Option.map_eq_some_iff.mp taken
  have progressed := (Client.step_some.mp stepped).2.2
  simp only [Client.progress, Client.startStep] at progressed
  split at progressed
  next ready =>
    cases progressed
    have fewer := unstarted_update pair.client.loops loop
    rw [if_pos ready] at fewer
    have quiet := running.2
    simp only [unstarted, Client.State.block] at quiet ⊢
    split at quiet
    · cases quiet
    · exact fewer
  next => cases progressed

theorem step_unstarted (sound : Sound varint pair) (taken : pair.step varint event = some next)
    (opened : next.OpenAt side) : next.unstarted side ≤ pair.unstarted side := by
  cases step_effect taken with
  | opens fresh pieces ended handed whole =>
      have fewer := step_end_unstarted sound ended ((open_arrive _ _).mp opened)
      cases side <;> exact fewer
  | foreign fresh productive => cases side <;> exact Nat.le_refl _
  | accepts member ended => exact step_end_unstarted sound ended opened
  | feeds member returned ended =>
      have fewer := step_end_unstarted sound ended ((open_advance _ _ _).mp opened)
      cases side <;> exact fewer
  | datagram ended => exact step_end_unstarted sound ended opened
  | acts isLocal ended => exact step_end_unstarted sound ended opened

theorem step_running (sound : Sound varint pair) (taken : pair.step varint event = some next)
    (running : next.Running side) : pair.Running side := by
  have before := (step_link sound taken (open_of_running running)).1
  have back {endEvent : EndEvent} {after : Pair}
      (ended : pair.stepEnd varint endEvent = some after) (quiet : after.client.fault = none) :
      pair.client.fault = none := by
    cases endEvent with
    | client clientEvent =>
        obtain ⟨client, stepped, -⟩ := Option.map_eq_some_iff.mp ended
        exact (Client.step_some.mp stepped).1
    | server serverEvent =>
        obtain ⟨server, -, rfl⟩ := Option.map_eq_some_iff.mp ended
        exact quiet
  cases side with
  | server => exact before
  | client =>
      refine ⟨before, ?_⟩
      cases step_effect taken with
      | opens fresh pieces ended handed whole => exact back ended running.2
      | foreign fresh productive => exact running.2
      | accepts member ended => exact back ended running.2
      | feeds member returned ended => exact back ended running.2
      | datagram ended => exact back ended running.2
      | acts isLocal ended => exact back ended running.2

theorem link_work (sound : Sound varint pair) (taken : pair.step varint event = some next)
    (opened : next.OpenAt side) (present : event.action side ≠ .arrival) :
    (next.link side).work + (if event.action side = .progress then 1 else 0) ≤
      (pair.link side).work := by
  obtain ⟨before, ⟨idle, same⟩ | stepped⟩ := step_link sound taken opened
  · rw [same, idle]
    exact Nat.le_refl _
  · cases action : event.action side with
    | arrival => exact absurd action present
    | progress =>
        rw [action] at stepped
        exact work_progress (sound.routed side before) stepped
    | idle =>
        rw [action] at stepped
        exact Nat.le_of_eq (work_idle stepped)

/-- Whatever happens, but for streams that come in, leaves an end with less to do if it goes
on with something, and with no more if not. -/
theorem step_work (sound : Sound varint pair) (taken : pair.step varint event = some next)
    (present : event.action side ≠ .arrival) (running : next.Running side) :
    next.work side + (if event.advances side then 1 else 0) ≤ pair.work side := by
  have lighter := link_work sound taken (open_of_running running) present
  have fewer := step_unstarted sound taken (open_of_running running)
  unfold work
  by_cases starts : ∃ loop, event = .acts (.client (.start loop)) ∧ side = .client
  · obtain ⟨loop, rfl, rfl⟩ := starts
    have started := step_end_start taken running
    simp only [Event.advances, decide_true, if_true]
    omega
  · have same : event.advances side = decide (event.action side = .progress) := by
      unfold Event.advances
      split
      next loop =>
        have other : side ≠ .client := fun same => starts ⟨loop, rfl, same⟩
        simp [other, Event.action, EndEvent.received]
      next => rfl
    simp only [same, decide_eq_true_eq]
    omega

theorem entry_of_member (sound : Sound varint pair) (opened : pair.OpenAt side)
    {entry : Inbound} (member : entry ∈ pair.inbound side) :
    pair.entryOf side entry.stream = some entry := by
  cases found : pair.entryOf side entry.stream with
  | none => exact absurd (beq_self_eq_true _) (List.find?_eq_none.mp found entry member)
  | some other =>
      obtain ⟨otherMember, same⟩ := entry_of_some found
      rw [(sound.routed side opened).same_entry member otherMember same]

theorem accepting_or_start (sound : Sound varint pair) (running : pair.Running side)
    (kind : StreamKind) :
    pair.Accepting kind side ∨
      side = .client ∧ ∃ next,
        pair.step varint (.acts (.client (.start (.accept kind)))) = some next := by
  cases side with
  | server => exact .inl trivial
  | client =>
      cases phase : pair.client.loops (.accept kind) with
      | blocked => exact .inl phase
      | returned => exact absurd phase (sound.client.loops running.1 (.accept kind))
      | ready =>
          refine .inr ⟨rfl, ?_⟩
          have started := @Client.step_open varint _ _ (.start (.accept kind)) sound.client
            running.1 running.2
          simp only [Client.progress, Client.startStep, phase, if_true] at started
          simp only [step, EndEvent.isLocal, if_true, stepEnd, started, Option.map_some]
          exact ⟨_, rfl⟩

/-- An end that can go on with nothing has delivered every stream of the API. -/
theorem delivered_of_stuck (sound : Sound varint pair) (running : pair.Running side)
    (stuck : ∀ event, event.advances side = true → pair.step varint event = none)
    {entry : Inbound} {payload : List UInt8} (member : entry ∈ pair.inbound side)
    (written : entry.payload = some payload) :
    (entry.kind, entry.stream) ∈ (pair.pool side).delivered := by
  have opened := open_of_running running
  have found := entry_of_member sound opened member
  rcases (sound.routed side opened).progress member written with
    fresh | ⟨result, rest, pool, returned, read⟩ | ⟨pool, received⟩ | delivered
  · rcases accepting_or_start sound running entry.kind with accepting | ⟨rfl, next, started⟩
    · have handled := step_end_accept sound running accepting (sound.apart side entry member)
      have accepted : (pair.pool side).accepted entry.stream = false := fresh
      have never := stuck (.accepts side entry.stream) (by simp [Event.advances, Event.action])
      simp only [step, found] at never
      simp [never, Pool.step, accepted] at handled
    · cases (stuck _ rfl).symm.trans started
  · have handled := step_end_header sound running entry.stream result
    have never := stuck (.feeds side entry.stream) (by simp [Event.advances, Event.action])
    simp only [step, feedsStep, found, returned, Option.map_eq_none_iff] at never
    rw [never] at handled
    cases handled.trans read
  · have handled := step_end_receive sound running entry.stream
    have never := stuck (.acts (receiveEvent side entry.stream)) (by cases side <;> rfl)
    have isLocal : (receiveEvent side entry.stream).isLocal = true := by cases side <;> rfl
    simp only [step, isLocal, if_true] at never
    rw [never] at handled
    cases handled.trans received
  · exact delivered

/-- What the application of this end has got of the streams that came in. -/
structure Routes (varint : Quicvarint) (pair : Pair) (side : Side) : Prop where
  once : (pair.pool side).delivered.Nodup
  own : ∀ kind stream, (kind, stream) ∈ (pair.pool side).delivered →
    ∃ entry ∈ pair.inbound side, entry.stream = stream ∧ entry.kind = kind ∧ Fits varint entry
  misfit : ∀ entry ∈ pair.inbound side, ¬ Fits varint entry →
    ∀ kind, (kind, entry.stream) ∉ (pair.pool side).delivered
  payload : ∀ entry ∈ pair.inbound side, ∀ payload, entry.payload = some payload →
    (entry.kind, entry.stream) ∈ (pair.pool side).delivered →
    (∃ sessionId, view entry.original =
      ⟨streamHeader varint entry.kind sessionId ++ payload, .hang⟩) ∧
    (varint.write entry.kind.streamType).length = 2 ∧ view entry.unread = ⟨payload, .hang⟩

theorem stream_type_length (varint : Quicvarint) (kind : StreamKind) :
    (varint.write kind.streamType).length = 2 := by
  rw [← varint.len_eq, varint.len_two] <;> cases kind <;> decide

theorem routes_of_sound (sound : Sound varint pair) (opened : pair.OpenAt side) :
    Routes varint pair side := by
  have routed := sound.routed side opened
  refine ⟨routed.once, fun kind stream entered => ?_, fun entry member misfit kind entered => ?_,
    fun entry member payload written entered => ⟨?_, stream_type_length varint _, ?_⟩⟩
  · obtain ⟨handler, found, -, -⟩ := routed.logged kind stream entered
    obtain ⟨entry, member, rfl⟩ := List.mem_map.mp (routed.known stream handler found)
    obtain ⟨same, read⟩ := routed.of_delivered member entered
    exact ⟨entry, member, rfl, same.symm, read.fits⟩
  · exact misfit (routed.of_delivered member entered).2.fits
  · obtain ⟨sessionId, -, origin⟩ := routed.opened entry member payload written
    exact ⟨sessionId, origin⟩
  · exact routed.payload_of_header member written (routed.of_delivered member entered).2

end Pair

open Pair in
/-- Along every run of both ends an end that is open routes its streams, has only so much to
do for those that have come in, and has delivered every stream of the API when it is done. -/
theorem streams_routed (varint : Quicvarint) (handshake : Handshake) {pair : Pair}
    (reached : Reachable (Pair.step varint) handshake.pair pair) (side : Side)
    (running : pair.Running side) :
    pair.Routes varint side ∧
    ∀ events final, run (Pair.step varint) pair events = some final →
      (∀ event ∈ events, event.action side ≠ .arrival) → final.Running side →
      events.countP (Event.advances side) ≤ pair.work side ∧
      ((∀ event, event.advances side = true → final.step varint event = none) →
        ∀ entry ∈ final.inbound side, ∀ payload, entry.payload = some payload →
          (entry.kind, entry.stream) ∈ (final.pool side).delivered) := by
  have sound := sound_of_reachable reached
  refine ⟨routes_of_sound sound (open_of_running running), fun events final ran none ends => ?_⟩
  constructor
  · have bounded : pair.Running side ∧
        final.work side + events.countP (Event.advances side) ≤ pair.work side := by
      apply run_rank (Sound varint) (fun pair => pair.Running side) (Event.advances side)
        (fun pair => pair.work side) (fun _ _ _ holds taken => sound_step holds taken)
        _ sound none ran ends
      intro state event next holds taken present lives
      exact ⟨step_running holds taken lives, step_work holds taken present lives⟩
    exact le_of_add_le_right bounded.2
  · intro stuck entry member payload written
    have soundly := run_invariant (fun _ _ _ holds taken => sound_step holds taken) sound ran
    exact delivered_of_stuck soundly ends stuck member written

def echoHandshake : Handshake where
  remoteAddr := lit "localhost:4433"
  path := lit "/echo"
  req := { method := lit "CONNECT", url := { path := lit "/echo" }, proto := lit "webtransport"
           host := lit "localhost:4433" }
  clientSession := 1
  serverSession := 1
  connectStream := 0
  clientControl := 2
  serverControl := 3

/-- The client opens a stream and writes one byte, the server's application receives it. -/
theorem echo_stream_routed :
    ∃ pair : Pair, pair.Routes .reference .server ∧ (pair.pool .server).delivered = [(.bidi, 4)] ∧
      ∀ entry ∈ pair.inbound .server, view entry.unread = ⟨[104], .hang⟩ := by
  have reached : Reachable (Pair.step .reference) echoHandshake.pair _ :=
    ⟨[.opens .client .bidi 4 [104] [[0x40], [0x41, 0, 104]], .accepts .server 4,
      .feeds .server 4, .feeds .server 4, .feeds .server 4, .acts (.server (.receive 4))], rfl⟩
  have life := (Pair.sound_of_reachable reached).server.consistent.life
  have opened := life.resolve_right fun closed => absurd closed.closed (by decide)
  have routes := (streams_routed .reference echoHandshake reached .server opened).1
  refine ⟨_, routes, rfl, fun entry member => ?_⟩
  obtain rfl := List.mem_singleton.mp member
  exact (routes.payload _ member [104] rfl List.mem_cons_self).2.2

end WebTransportGos
