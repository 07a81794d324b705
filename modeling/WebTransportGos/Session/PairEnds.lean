import WebTransportGos.Session.Pair

/-!
What holds of either end along its own run, and what its handlers do while it is open:
they get every accepted stream but those of the handshake, every byte that is read, and
the receives of the application.
-/

namespace WebTransportGos

open GoReader VarintFormat

set_option autoImplicit false

theorem header_step_lt {varint : Quicvarint} {kind : StreamKind} {got : List UInt8}
    {result : ReadResult} {sessionId : Nat}
    (completed : headerStep varint kind got result = .header sessionId) : sessionId < 2 ^ 62 := by
  unfold headerStep at completed
  split at completed
  · cases completed
  next byte _ =>
    unfold splitHeader at completed
    cases typed : varint.decode (got ++ [byte]) with
    | none => simp [typed] at completed
    | some first =>
        cases identified : varint.decode first.2 with
        | none => simp [typed, identified] at completed
        | some second =>
            simp only [typed, identified] at completed
            split at completed <;> cases completed
            exact varint.decode_lt identified

namespace Server

/-- What holds of the server's end along a run; `own` are the streams of the handshake. -/
structure Live (own : List StreamId) (state : State) : Prop where
  consistent : Consistent state
  running : Open state → ∀ loop, state.running loop = true
  quiet : Open state → state.pool.crashed = false
  sessionId : state.transport.sessionId < 2 ^ 62
  own : ∀ kind stream, state.transport.ownStream kind = some stream → stream ∈ own

variable {varint : Quicvarint} {own : List StreamId} {state next : State} {event : Event}

theorem Open.channel_field (opened : Open state) :
    state.transport.channelField = openFields := by
  funext kind
  exact opened.life.channel_field kind

theorem open_of_step (consistent : Consistent state)
    (taken : step varint state event = some next) (opened : Open next) :
    Open state ∧ callsClose state event = false :=
  (step_phased consistent taken).first_before consistent.life opened.not_closed

theorem completed_header_lt {sessionId : Nat}
    (completed : completedHeader varint state event = some sessionId) : sessionId < 2 ^ 62 := by
  unfold completedHeader at completed
  split at completed
  next stream result =>
    split at completed
    · cases completed
    · split at completed
      · split at completed
        next stepped =>
          cases completed
          exact header_step_lt stepped
        next => cases completed
      · cases completed
  next => cases completed

theorem live_step (live : Live own state) (taken : step varint state event = some next) :
    Live own next where
  consistent := step_consistent live.consistent taken
  running opened := by
    obtain ⟨before, quiet⟩ := open_of_step live.consistent taken opened
    rw [step_running before taken quiet]
    exact live.running before
  quiet opened := by
    obtain ⟨before, quiet⟩ := open_of_step live.consistent taken opened
    rcases step_pool taken quiet with same | ⟨poolEvent, -, stepped⟩
    · rw [same]
      exact live.quiet before
    · exact Pool.crashed_step live.consistent.unclosed (live.quiet before) stepped
  sessionId := by
    rw [step_session_id live.consistent taken]
    cases completed : completedHeader varint state event with
    | none => exact live.sessionId
    | some sessionId => exact completed_header_lt completed
  own kind stream present := by
    cases (step_consistent live.consistent taken).life with
    | inl opened =>
        obtain ⟨before, quiet⟩ := open_of_step live.consistent taken opened
        have same := (step_kept taken quiet).own_stream kind
        exact live.own kind stream (same.symm.trans present)
    | inr closed => cases (closed.life.own_stream kind).symm.trans present

/-- What a step of an open transport is to the handlers. -/
theorem step_pool_open (consistent : Consistent state)
    (taken : step varint state event = some next) (opened : Open next) :
    next.pool = state.pool ∨ ∃ poolEvent, event.pool = some poolEvent ∧
      state.pool.step varint openFields poolEvent = some next.pool := by
  obtain ⟨before, quiet⟩ := open_of_step consistent taken opened
  rw [← before.channel_field]
  exact step_pool taken quiet

theorem step_open (live : Live own state) (opened : Open state) :
    step varint state event = progress varint state event := by
  rw [step, live.consistent.nilCall, live.quiet opened]
  rfl

theorem accept_open (live : Live own state) (opened : Open state) (kind : StreamKind)
    {stream : StreamId} (foreign : stream ∉ own) :
    (step varint state (.accept kind (.ok stream) [])).map State.pool =
      state.pool.step varint openFields (.accept kind stream) := by
  obtain ⟨session, present⟩ := Option.ne_none_iff_exists'.mp opened.session
  obtain ⟨passed, ownStream⟩ := Option.ne_none_iff_exists'.mp (opened.own_stream kind)
  have different : stream ≠ passed := fun same => foreign (same ▸ live.own kind passed ownStream)
  rw [step_open live opened]
  simp only [progress, acceptStep, live.running opened, present, ownStream, if_neg different,
    Pool.step]
  cases state.pool.accepted stream <;> rfl

theorem header_open (live : Live own state) (opened : Open state) (stream : StreamId)
    (result : ReadResult) :
    (step varint state (.header stream result)).map State.pool =
      state.pool.readHeader varint openFields stream result := by
  rw [step_open live opened, ← opened.channel_field]
  simp only [progress, headerEvent, Pool.readHeader]
  cases state.pool.find stream with
  | none => rfl
  | some handler =>
      cases reading : handler.phase with
      | reading got =>
          simp only [reading, channel_field_session_id]
          cases headerStep varint handler.kind got result <;> rfl
      | _ => simp [reading]

theorem receive_open (live : Live own state) (opened : Open state) (stream : StreamId) :
    (step varint state (.receive stream)).map State.pool = state.pool.receive stream := by
  rw [step_open live opened, progress]
  cases state.pool.receive stream <;> rfl

theorem created_header (consistent : Consistent state) {kind handedKind : StreamKind}
    {stream handedStream : StreamId} {header : List UInt8}
    (taken : step varint state (.call (createCall stream kind) []) = some next)
    (handed : next.outputs.drop state.outputs.length = [.stream handedKind handedStream header]) :
    header = streamHeader varint kind state.transport.sessionId := by
  rw [step_outputs consistent taken, List.drop_left, eventOutputs] at handed
  split at handed
  · cases kind <;> cases handed <;> rfl
  · cases handed

end Server

namespace Client

structure Live (own : List StreamId) (state : State) : Prop where
  consistent : Consistent state
  loops : Open state → ∀ loop, state.loops loop ≠ .returned
  quiet : Open state → state.pool.crashed = false
  sessionId : state.client.sessionId = 0
  own : ∀ kind stream, state.client.ownStream kind = some stream → stream ∈ own

variable {varint : Quicvarint} {own : List StreamId} {state next : State} {event : Event}

theorem Open.channel_field (opened : Open state) : state.client.channelField = openFields := by
  funext kind
  exact opened.life.channel_field kind

theorem Open.not_closed (opened : Open state) : ¬ Closed state :=
  fun closed => opened.session closed.session

theorem open_of_step (consistent : Consistent state)
    (taken : step varint state event = some next) (opened : Open next) :
    Open state ∧ callsClose state event = false :=
  (step_phased consistent taken).first_before consistent opened.not_closed

theorem live_step (live : Live own state) (taken : step varint state event = some next) :
    Live own next where
  consistent := step_consistent live.consistent taken
  loops opened loop := by
    obtain ⟨before, quiet⟩ := open_of_step live.consistent taken opened
    rcases step_rounds live.consistent taken quiet with same | ⟨other, blocked⟩
    · rw [same]
      exact live.loops before loop
    · rw [blocked]
      by_cases same : loop = other
      · rw [same, Function.update_self]
        simp
      · rw [Function.update_of_ne same]
        exact live.loops before loop
  quiet opened := by
    obtain ⟨before, quiet⟩ := open_of_step live.consistent taken opened
    rcases step_pool live.consistent taken quiet with same | ⟨poolEvent, -, stepped⟩
    · rw [same]
      exact live.quiet before
    · exact Pool.crashed_step live.consistent.unclosed (live.quiet before) stepped
  sessionId := (step_session_id live.consistent taken).trans live.sessionId
  own kind stream present := by
    cases step_consistent live.consistent taken with
    | inl opened =>
        obtain ⟨before, quiet⟩ := open_of_step live.consistent taken opened
        have same := (step_kept live.consistent taken quiet).own_stream kind
        exact live.own kind stream (same.symm.trans present)
    | inr closed => cases (closed.own_stream kind).symm.trans present

theorem step_pool_open (consistent : Consistent state)
    (taken : step varint state event = some next) (opened : Open next) :
    next.pool = state.pool ∨ ∃ poolEvent, event.pool = some poolEvent ∧
      state.pool.step varint openFields poolEvent = some next.pool := by
  obtain ⟨before, quiet⟩ := open_of_step consistent taken opened
  rw [← before.channel_field]
  exact step_pool consistent taken quiet

theorem step_open (live : Live own state) (opened : Open state) (quiet : state.fault = none) :
    step varint state event = progress varint state event := by
  rw [step, quiet, live.quiet opened]
  rfl

theorem block_pool (state : State) (loop : Loop) : (state.block loop).pool = state.pool := by
  unfold State.block
  split <;> rfl

theorem accept_open (live : Live own state) (opened : Open state) (quiet : state.fault = none)
    (kind : StreamKind) (blocked : state.loops (.accept kind) = .blocked) {stream : StreamId}
    (foreign : stream ∉ own) :
    (step varint state (.accept kind (.ok stream))).map State.pool =
      state.pool.step varint openFields (.accept kind stream) := by
  obtain ⟨passed, ownStream⟩ := Option.ne_none_iff_exists'.mp (opened.own_stream kind)
  have different : stream ≠ passed := fun same => foreign (same ▸ live.own kind passed ownStream)
  rw [step_open live opened quiet]
  simp only [progress, acceptStep, blocked, ownStream, if_neg different, Pool.step, ne_eq,
    not_true_eq_false, if_false]
  cases state.pool.accepted stream with
  | true => rfl
  | false => exact congrArg some (block_pool _ _)

theorem header_open (live : Live own state) (opened : Open state) (quiet : state.fault = none)
    (stream : StreamId) (result : ReadResult) :
    (step varint state (.header stream result)).map State.pool =
      state.pool.readHeader varint openFields stream result := by
  rw [step_open live opened quiet, progress, opened.channel_field]
  cases state.pool.readHeader varint openFields stream result <;> rfl

theorem receive_open (live : Live own state) (opened : Open state) (quiet : state.fault = none)
    (stream : StreamId) :
    (step varint state (.receive stream)).map State.pool = state.pool.receive stream := by
  rw [step_open live opened quiet, progress]
  cases state.pool.receive stream <;> rfl

theorem created_header (consistent : Consistent state) {kind handedKind : StreamKind}
    {stream handedStream : StreamId} {header : List UInt8}
    (taken : step varint state (.call (createCall stream kind) []) = some next)
    (handed : next.outputs.drop state.outputs.length = [.stream handedKind handedStream header]) :
    header = streamHeader varint kind state.client.sessionId := by
  obtain ⟨-, -, taken⟩ := step_some.mp taken
  cases taken
  rw [call_outputs consistent, List.drop_left] at handed
  split at handed
  · cases kind <;> cases handed <;> rfl
  · cases handed

end Client

end WebTransportGos
