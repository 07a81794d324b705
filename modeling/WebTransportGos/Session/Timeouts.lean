import WebTransportGos.Session.Routing
import WebTransportGos.Session.ServerRuns

/-!
The timer of a stream. The goroutine that waits for the header gives up after a second;
the one that reads the header has no part in that and goes on, so that a header whose last
byte comes later is still acted on. A run is watched for the streams whose timer fired
while the header was being read.
-/

namespace WebTransportGos

open GoReader

set_option autoImplicit false

def Phase.sends : Phase → Bool
  | .reading _ => false
  | .sending _ => true
  | .stuck => true
  | .panicked => true
  | .delivered => true
  | .returned => false

namespace Pool

def Given (pool : Pool) (stream : StreamId) : Prop :=
  ∃ kind, (kind, stream) ∈ pool.delivered

def Logged (pool : Pool) : Prop :=
  ∀ stream, pool.Given stream →
    ∃ handler, pool.find stream = some handler ∧ handler.phase = .delivered

/-- No handler has come to a send of the stream. -/
def Unsent (pool : Pool) (stream : StreamId) : Prop :=
  ∀ handler, pool.find stream = some handler → handler.phase.sends = false

section Handlers

variable {pool after : Pool} {stream other : StreamId} {address : StreamKind}
  {handler : Handler}

theorem Logged.ungiven (logged : pool.Logged) (unsent : pool.Unsent stream) :
    ¬pool.Given stream := by
  intro given
  obtain ⟨done, found, delivered⟩ := logged stream given
  have early := unsent done found
  rw [delivered] at early
  cases early

theorem panic_if_sending_stream (handler : Handler) :
    (panicIfSending address handler).stream = handler.stream := by
  unfold panicIfSending
  split <;> rfl

theorem panic_if_sending_other (other : ∀ address, handler.phase ≠ .sending address) :
    panicIfSending address handler = handler := if_neg (other address)

theorem find_closed_both : pool.closedBoth.find stream =
    ((pool.find stream).map (panicIfSending .bidi)).map (panicIfSending .uni) := by
  rw [← find_map _ panic_if_sending_stream, ← find_map _ panic_if_sending_stream]
  rfl

/-- A handler that is in no send does not notice that the channels are closed. -/
theorem find_closed_both_of (found : pool.find stream = some handler)
    (other : ∀ address, handler.phase ≠ .sending address) :
    pool.closedBoth.find stream = some handler := by
  rw [find_closed_both, found, Option.map_some, panic_if_sending_other other, Option.map_some,
    panic_if_sending_other other]

theorem find_send_phase (pool : Pool) (field : Option StreamKind) (stream : StreamId) :
    ∃ phase, phase.sends = true ∧ ∀ other, (pool.send field stream).find other =
      if other = stream then (pool.find other).map fun handler => { handler with phase := phase }
      else pool.find other := by
  cases field with
  | none => exact ⟨.stuck, rfl, fun other => find_set_phase .stuck⟩
  | some address =>
      simp only [send]
      split_ifs
      · exact ⟨.panicked, rfl, fun other => find_set_phase .panicked⟩
      · exact ⟨.delivered, rfl, fun other => find_set_phase .delivered⟩
      · exact ⟨.sending address, rfl, fun other => find_set_phase (.sending address)⟩

theorem given_deliver :
    (pool.deliver address stream).Given other ↔ pool.Given other ∨ other = stream := by
  simp only [Given, deliver, List.mem_append, List.mem_singleton, Prod.mk.injEq, exists_or]
  apply or_congr_right
  constructor
  · intro found
    obtain ⟨kind, _, same⟩ := found
    exact same
  · intro same
    exact ⟨address, rfl, same⟩

theorem logged_set_phase {phase : Phase} (logged : pool.Logged)
    (found : pool.find stream = some handler) (pending : handler.phase ≠ .delivered) :
    (pool.setPhase stream phase).Logged := by
  intro other given
  obtain ⟨done, present, delivered⟩ := logged other given
  have different : other ≠ stream := by
    intro same
    rw [same, found] at present
    cases present
    exact pending delivered
  exact ⟨done, by rw [find_set_phase, if_neg different, present], delivered⟩

theorem logged_deliver (logged : pool.Logged) (found : pool.find stream = some handler) :
    (pool.deliver address stream).Logged := by
  intro other given
  have finds : (pool.deliver address stream).find other =
      (pool.setPhase stream .delivered).find other := rfl
  rw [finds, find_set_phase]
  by_cases same : other = stream
  · rw [if_pos same, same, found]
    exact ⟨_, rfl, rfl⟩
  · rw [if_neg same]
    exact logged other ((given_deliver.mp given).resolve_right same)

theorem logged_send {field : Option StreamKind} (logged : pool.Logged)
    (found : pool.find stream = some handler) (pending : handler.phase ≠ .delivered) :
    (pool.send field stream).Logged := by
  cases field with
  | none => exact logged_set_phase logged found pending
  | some address =>
      simp only [send]
      split_ifs
      · exact logged_set_phase logged found pending
      · have same : (pool.setChannel address
            ⟨(pool.channels address).waiting - 1, (pool.channels address).closes⟩).Logged := logged
        exact logged_deliver same found
      · exact logged_set_phase logged found pending

theorem logged_await {field : Option StreamKind} (logged : pool.Logged)
    (awaited : pool.await field = some after) : after.Logged := by
  obtain ⟨handlers, delivered, _⟩ := await_some awaited
  intro other given
  rw [Given, delivered] at given
  rw [find, handlers]
  exact logged other given

theorem logged_accept {kind : StreamKind} (logged : pool.Logged) :
    (pool.accept kind stream).Logged := by
  intro other given
  obtain ⟨done, present, delivered⟩ := logged other given
  exact ⟨done, by rw [find_accept, present, Option.some_or], delivered⟩

theorem logged_timer (logged : pool.Logged) : (pool.timer stream).Logged := by
  intro other given
  obtain ⟨done, present, delivered⟩ := logged other given
  rw [find_timer, present, Option.map_some]
  exact ⟨_, rfl, by split <;> exact delivered⟩

theorem logged_closed_both (logged : pool.Logged) : pool.closedBoth.Logged := by
  intro other given
  obtain ⟨done, present, delivered⟩ := logged other given
  exact ⟨done, find_closed_both_of present (by simp [delivered]), delivered⟩

theorem unsent_set_phase {phase : Phase} (quiet : phase.sends = false)
    (unsent : pool.Unsent other) : (pool.setPhase stream phase).Unsent other := by
  intro handler found
  rw [find_set_phase] at found
  split at found
  · obtain ⟨before, _, rfl⟩ := Option.map_eq_some_iff.mp found
    exact quiet
  · exact unsent handler found

theorem unsent_accept {kind : StreamKind} (unsent : pool.Unsent other) :
    (pool.accept kind stream).Unsent other := by
  intro handler found
  rw [find_accept] at found
  cases present : pool.find other with
  | some before =>
      rw [present, Option.some_or] at found
      exact unsent handler (present.trans found)
  | none =>
      rw [present, Option.none_or] at found
      split at found <;> cases found
      rfl

theorem unsent_timer (unsent : pool.Unsent other) : (pool.timer stream).Unsent other := by
  intro handler found
  rw [find_timer] at found
  obtain ⟨before, present, rfl⟩ := Option.map_eq_some_iff.mp found
  have early := unsent before present
  split <;> exact early

theorem unsent_await {field : Option StreamKind} (unsent : pool.Unsent other)
    (awaited : pool.await field = some after) : after.Unsent other := by
  rw [Unsent, find, (await_some awaited).1]
  exact unsent

theorem unsent_closed_both (unsent : pool.Unsent other) : pool.closedBoth.Unsent other := by
  intro handler found
  cases present : pool.find other with
  | none =>
      rw [find_closed_both, present] at found
      cases found
  | some before =>
      have early := unsent before present
      have idle (address : StreamKind) : before.phase ≠ .sending address := by
        intro sending
        rw [sending] at early
        cases early
      rw [find_closed_both_of present idle] at found
      cases found
      exact early

theorem unsent_receive (unsent : pool.Unsent other)
    (received : pool.receive stream = some after) : after.Unsent other := by
  obtain ⟨sender, address, found, sending, rfl⟩ := receive_some received
  intro handler present
  have finds : (pool.deliver address stream).find other =
      (pool.setPhase stream .delivered).find other := rfl
  rw [finds, find_set_phase] at present
  by_cases same : other = stream
  · subst same
    have early := unsent sender found
    rw [sending] at early
    cases early
  · rw [if_neg same] at present
    exact unsent handler present

theorem unsent_send {field : Option StreamKind} (found : pool.find stream = some handler) :
    (pool.send field stream).Unsent other ↔ other ≠ stream ∧ pool.Unsent other := by
  obtain ⟨phase, sends, finds⟩ := find_send_phase pool field stream
  rw [Unsent, finds]
  by_cases same : other = stream
  · rw [if_pos same, same, found]
    constructor
    · intro unsent
      have early := unsent _ rfl
      rw [sends] at early
      cases early
    · intro both
      exact absurd rfl both.1
  · rw [if_neg same]
    exact (and_iff_right same).symm

end Handlers

end Pool

namespace Server

open StepSystem

section Steps

variable {varint : Quicvarint} {state next : State} {event : Event}

theorem close_pool (varint : Quicvarint) (consistent : Consistent state) (onClose : List ApiCall) :
    (close varint onClose state).pool = state.pool.closedBoth ∨
      (close varint onClose state).pool = state.pool := by
  rcases close_cases varint consistent onClose with ⟨_, same⟩ | ⟨_, same⟩ <;> rw [same]
  · exact .inl rfl
  · exact .inr rfl

theorem step_logged (consistent : Consistent state) (logged : state.pool.Logged)
    (taken : step varint state event = some next) : next.pool.Logged := by
  cases step_effect taken with
  | closes onClose running called plain =>
      rcases close_pool varint consistent onClose with both | same
      · exact both ▸ Pool.logged_closed_both logged
      · exact same ▸ logged
  | accepts fresh opened => exact Pool.logged_accept logged
  | reads found reading stepped =>
      exact Pool.logged_set_phase logged found (by simp [reading])
  | quits found reading stepped =>
      exact Pool.logged_set_phase logged found (by simp [reading])
  | header found reading stepped => exact Pool.logged_send logged found (by simp [reading])
  | timer stream => exact Pool.logged_timer logged
  | receives received =>
      obtain ⟨handler, address, found, sending, rfl⟩ := Pool.receive_some received
      exact Pool.logged_deliver logged found
  | awaits awaited => exact Pool.logged_await logged awaited
  | _ => exact logged

/-- A stream that is not sent stays so exactly if the step does not complete its header. -/
theorem step_unsent (consistent : Consistent state) {stream : StreamId}
    (unsent : state.pool.Unsent stream) (taken : step varint state event = some next) :
    next.pool.Unsent stream ↔ ∀ result, event = .header stream result →
      completedHeader varint state event = none := by
  have quiet (unread : completedHeader varint state event = none)
      (still : next.pool.Unsent stream) : next.pool.Unsent stream ↔
        ∀ result, event = .header stream result → completedHeader varint state event = none :=
    iff_of_true still fun _ _ => unread
  cases step_effect taken with
  | closes onClose running called plain =>
      apply quiet plain.header
      rcases close_pool varint consistent onClose with both | same
      · exact both ▸ Pool.unsent_closed_both unsent
      · exact same ▸ unsent
  | passes running callsNothing kept plain => exact quiet plain.header unsent
  | accepts fresh opened => exact quiet rfl (Pool.unsent_accept unsent)
  | reads found reading stepped =>
      apply quiet
      · simp [completedHeader, found, reading, stepped]
      · exact Pool.unsent_set_phase rfl unsent
  | quits found reading stepped =>
      apply quiet
      · simp [completedHeader, found, reading, stepped]
      · exact Pool.unsent_set_phase rfl unsent
  | @header other result handler got sessionId found reading stepped =>
      have completed : completedHeader varint state (.header other result) = some sessionId := by
        simp [completedHeader, found, reading, stepped]
      rw [Pool.unsent_send found, and_iff_left unsent, completed]
      constructor
      · intro different answer same
        cases same
        exact absurd rfl different
      · intro unread same
        cases unread result (same ▸ rfl)
  | timer other => exact quiet rfl (Pool.unsent_timer unsent)
  | receives received => exact quiet rfl (Pool.unsent_receive unsent received)
  | awaits awaited => exact quiet rfl (Pool.unsent_await unsent awaited)
  | _ => exact quiet rfl unsent

end Steps

def firesEarly (state : State) : Event → Option StreamId
  | .timer stream => match state.pool.find stream with
      | none => none
      | some handler => match handler.phase with
          | .reading _ => some stream
          | _ => none
  | _ => none

/-- A transport and the streams whose timer has fired before their header was read. -/
structure Watched where
  state : State
  late : List StreamId

variable (varint : Quicvarint) (session : SessionRef) (req : H3.Request)

def watch (watched : Watched) (event : Event) : Option Watched :=
  (step varint watched.state event).map fun next =>
    ⟨next, watched.late ++ (firesEarly watched.state event).toList⟩

def createWatched (connectStream settingsStream : StreamId) : Watched :=
  ⟨createWebTransport session req connectStream settingsStream, []⟩

/-- No late stream is sent or has been received, and its header leaves the session id alone. -/
def LateIgnored (watched : Watched) (event : Event) (next : Watched) : Prop :=
  ∀ stream ∈ watched.late, next.state.pool.Unsent stream ∧ ¬next.state.pool.Given stream ∧
    ∀ result, event = .header stream result →
      next.state.transport.sessionId = watched.state.transport.sessionId

def NoLateHeader (watched : Watched) (event : Event) (_ : Watched) : Prop :=
  ∀ stream ∈ watched.late, ∀ result, event = .header stream result →
    completedHeader varint watched.state event = none

structure LateUnsent (watched : Watched) : Prop where
  consistent : Consistent watched.state
  logged : watched.state.pool.Logged
  unsent : ∀ stream ∈ watched.late, watched.state.pool.Unsent stream

section Watched

variable {varint : Quicvarint} {watched next : Watched} {event : Event} {stream : StreamId}

theorem fires_early_unsent {state after : State} (consistent : Consistent state)
    (fires : firesEarly state event = some stream)
    (taken : step varint state event = some after) : after.pool.Unsent stream := by
  unfold firesEarly at fires
  split at fires
  next timed =>
    split at fires
    · cases fires
    next owner present =>
      split at fires
      next got reading =>
        cases fires
        have unsent : state.pool.Unsent stream := by
          intro handler found
          cases present.symm.trans found
          rw [reading]
          rfl
        exact (step_unsent consistent unsent taken).mpr nofun
      · cases fires
  · cases fires

/-- Under the invariant the two laws of a step agree. -/
theorem late_ignored_iff (held : LateUnsent watched)
    (taken : watch varint watched event = some next) :
    LateIgnored watched event next ↔ NoLateHeader varint watched event next := by
  obtain ⟨state, stepped, rfl⟩ := Option.map_eq_some_iff.mp taken
  apply forall_congr'
  intro stream
  apply imp_congr_right
  intro late
  have unsent := step_unsent held.consistent (held.unsent stream late) stepped
  rw [step_session_id held.consistent stepped]
  constructor
  · intro ignored
    exact unsent.mp ignored.1
  · intro unread
    have still := unsent.mpr unread
    refine ⟨still, (step_logged held.consistent held.logged stepped).ungiven still, ?_⟩
    intro result heads
    rw [unread result heads, Option.getD_none]

theorem late_unsent_step (held : LateUnsent watched)
    (unread : NoLateHeader varint watched event next)
    (taken : watch varint watched event = some next) : LateUnsent next := by
  have ignored := (late_ignored_iff held taken).mpr unread
  obtain ⟨state, stepped, rfl⟩ := Option.map_eq_some_iff.mp taken
  refine ⟨step_consistent held.consistent stepped,
    step_logged held.consistent held.logged stepped, ?_⟩
  intro stream member
  cases List.mem_append.mp member with
  | inl earlier => exact (ignored stream earlier).1
  | inr now => exact fires_early_unsent held.consistent (Option.mem_toList.mp now) stepped

end Watched

/-- Late streams are ignored in exactly the runs in which none of their headers is completed. -/
theorem late_ignored_iff_no_late_header (connectStream settingsStream : StreamId)
    (events : List Event) :
    Steps (watch varint) LateIgnored (createWatched session req connectStream settingsStream)
        events ↔
      Steps (watch varint) (NoLateHeader varint)
        (createWatched session req connectStream settingsStream) events := by
  apply steps_iff LateUnsent
  · intro watched event next held taken
    exact late_ignored_iff held taken
  · intro watched event next held unread taken
    exact late_unsent_step held unread taken
  · constructor
    · exact create_consistent session req connectStream settingsStream
    · intro stream given
      obtain ⟨_, logged⟩ := given
      cases logged
    · intro stream late
      cases late

/-- The last byte of a header comes after the timer: the stream goes to the application and
its session id, 7, becomes that of the transport. -/
theorem late_header_served :
    ¬ ∀ events, Steps (watch .reference) LateIgnored ⟨echoTransport, []⟩ events := by
  intro ignored
  have served := ignored [.await .uni, .accept .uni (.ok 6) [], .header 6 ⟨[0x40], none⟩,
    .header 6 ⟨[0x54], none⟩, .timer 6, .header 6 ⟨[7], none⟩]
  have law := ((((((served _ rfl).2 _ rfl).2 _ rfl).2 _ rfl).2 _ rfl).2 _ rfl).1
  have late := law 6 (by decide)
  exact late.2.1 ⟨.uni, by decide⟩

end Server

end WebTransportGos
