import WebTransportGos.Helper.TransportSteps

/-!
What becomes of the data given to `send` while `close` is not called: in its order it is handed
to a native socket, or dropped from a full queue, or still queued.
-/

namespace WebTransportGos.Helper.Transport

open StepSystem

set_option autoImplicit false

variable {Server Data : Type*} {options : TransportOptions}
  {transport next : Transport Server Data} {event : Event Server Data}

def outcomes (handed : Bool) (past : List (Data × Bool)) : List Data :=
  (past.filter fun item => item.2 = handed).map Prod.fst

theorem outcomes_append (handed : Bool) (past later : List (Data × Bool)) :
    outcomes handed (past ++ later) = outcomes handed past ++ outcomes handed later := by
  rw [outcomes, List.filter_append, List.map_append]
  rfl

theorem outcomes_same (handed : Bool) (items : List Data) :
    outcomes handed (items.map fun data => (data, handed)) = items := by
  rw [outcomes, List.filter_eq_self.mpr, List.map_map]
  · exact List.map_id _
  · simp

theorem outcomes_other {handed other : Bool} (different : other ≠ handed) (items : List Data) :
    outcomes handed (items.map fun data => (data, other)) = [] := by
  rw [outcomes, List.filter_eq_nil_iff.mpr, List.map_nil]
  simp [different]

theorem outcomes_sublist (handed : Bool) (past : List (Data × Bool)) :
    (outcomes handed past).Sublist (past.map Prod.fst) :=
  List.filter_sublist.map Prod.fst

/-- The sends are those that have had an outcome and then the queue; those handed over are in
the order of the sends, and so are the dropped ones. -/
def InOrder (transport : Transport Server Data) : Prop :=
  ∃ past : List (Data × Bool),
    transport.log.sends = past.map Prod.fst ++ transport.queue ∧
      transport.log.handed.map Prod.snd = outcomes true past ∧
      transport.log.dropped = outcomes false past

def Told (options : TransportOptions) (transport : Transport Server Data) : Prop :=
  options.onSend = true → transport.log.onSends = transport.log.handed.map Prod.snd

/-- Nothing is dropped but the oldest of a full queue, when the next one comes. -/
def DropsOldest (options : TransportOptions) (transport : Transport Server Data)
    (event : Event Server Data) (next : Transport Server Data) : Prop :=
  next.log.dropped = transport.log.dropped ∨
    ∃ data oldest queue, event = .call (.send data) ∧ transport.queue = oldest :: queue ∧
      transport.queue.length = options.queueMax ∧ next.queue = queue ++ [data] ∧
      next.log.dropped = transport.log.dropped ++ [oldest]

structure KeepsMessages (options : TransportOptions) (transport : Transport Server Data)
    (event : Event Server Data) (next : Transport Server Data) : Prop where
  order : InOrder next
  told : Told options next
  drops : DropsOldest options transport event next

/-- `close` is not called (`reconnect` calls it). Behind an open event with something in the
queue `onOpen` sends nothing, and `onSend` is not set. -/
def SendKept (options : TransportOptions) (transport : Transport Server Data)
    (event : Event Server Data) (_ : Transport Server Data) : Prop :=
  match event with
  | .call .close => False
  | .call .reconnect => False
  | .call (.send _) => ∀ socket, transport.phase = .onOpen socket → transport.queue = []
  | .opened socket => (∃ native, transport.sockets[socket]? = some native ∧
      native.awaited = true) → transport.status = .connecting → transport.queue ≠ [] →
      options.onSend = false
  | _ => True

/-- What holds between two steps. While the transport is OPEN the queue is empty, but in
`onOpen`; nothing is left of a call of `close`. -/
structure Sending (options : TransportOptions) (transport : Transport Server Data) : Prop where
  order : InOrder transport
  told : Told options transport
  held : transport.status = .opened → transport.socket ≠ none
  flushed : transport.status = .opened → transport.queue = [] ∨
    ∃ socket, transport.phase = .onOpen socket
  opening : ∀ socket, transport.phase = .onOpen socket → transport.status = .opened ∧
    (transport.queue ≠ [] → options.onSend = false)
  closing : transport.status ≠ .closing
  flushing : ∀ socket, transport.phase ≠ .onSend socket
  lazyCloses : transport.lazyCloses = []
  reconnects : transport.reconnects = 0

def messages (transport : Transport Server Data) :
    List Data × List Data × List (Nat × Data) × List Data × List Data :=
  (transport.queue, transport.log.sends, transport.log.handed, transport.log.onSends,
    transport.log.dropped)

def closers (transport : Transport Server Data) : List Nat × Nat :=
  (transport.lazyCloses, transport.reconnects)

structure Quiet (transport next : Transport Server Data) : Prop where
  stays : Stays transport next
  messages : next.messages = transport.messages
  closers : next.closers = transport.closers
  closing : next.status = .closing → transport.status = .closing
  phase : next.phase = transport.phase ∨
    (∀ socket, transport.phase ≠ .onOpen socket) ∧
      (∀ socket, next.phase ≠ .onOpen socket) ∧ ∀ socket, next.phase ≠ .onSend socket
  opening : ∀ socket, transport.phase = .onOpen socket → transport.status = .opened →
    next.status = .opened

theorem Sending.quiet (sending : Sending options transport) (quiet : Quiet transport next) :
    Sending options next := by
  have same := quiet.messages
  simp only [messages, Prod.mk.injEq] at same
  rcases same with ⟨queue, sends, handed, onSends, dropped⟩
  have timers := quiet.closers
  simp only [closers, Prod.mk.injEq] at timers
  refine ⟨?_, ?_, ?_, ?_, ?_, ?_, ?_, ?_, ?_⟩
  · rcases sending.order with ⟨past, sent, given, lost⟩
    exact ⟨past, by rw [sends, queue, sent], by rw [handed, given], by rw [dropped, lost]⟩
  · intro set
    rw [onSends, handed]
    exact sending.told set
  · intro opened
    rcases quiet.stays.same_open opened with ⟨before, held⟩
    rw [held]
    exact sending.held before
  · intro opened
    rw [queue]
    apply (sending.flushed (quiet.stays.opened opened)).imp id
    rintro ⟨socket, phase⟩
    rcases quiet.phase with kept | ⟨elsewhere, -, -⟩
    · exact ⟨socket, kept.trans phase⟩
    · exact absurd phase (elsewhere socket)
  · intro socket phase
    rcases quiet.phase with kept | ⟨-, elsewhere, -⟩
    · rcases sending.opening socket (kept.symm.trans phase) with ⟨opened, unset⟩
      rw [queue]
      exact ⟨quiet.opening socket (kept.symm.trans phase) opened, unset⟩
    · exact absurd phase (elsewhere socket)
  · exact fun closing => sending.closing (quiet.closing closing)
  · intro socket phase
    rcases quiet.phase with kept | ⟨-, -, elsewhere⟩
    · exact sending.flushing socket (kept.symm.trans phase)
    · exact elsewhere socket phase
  · exact timers.1.trans sending.lazyCloses
  · exact timers.2.trans sending.reconnects

theorem Quiet.refl (transport : Transport Server Data) : Quiet transport transport :=
  ⟨Stays.refl transport, rfl, rfl, id, .inl rfl, fun _ _ => id⟩

theorem Quiet.of_touch {socket : Nat} {change : NativeSocket Server → NativeSocket Server}
    (quiet : Quiet (transport.touch socket change) next) : Quiet transport next :=
  ⟨⟨quiet.stays.opened, quiet.stays.held⟩, quiet.messages, quiet.closers, quiet.closing,
    quiet.phase, quiet.opening⟩

theorem Quiet.touched (transport : Transport Server Data) (socket : Nat)
    (change : NativeSocket Server → NativeSocket Server) :
    Quiet transport (transport.touch socket change) :=
  ⟨⟨id, .inl rfl⟩, rfl, rfl, id, .inl rfl, fun _ _ => id⟩

theorem Attempting.quiet (attempting : Attempting transport next)
    (opened : next.status = .opened ↔ transport.status = .opened)
    (closing : next.status = .closing → transport.status = .closing) : Quiet transport next := by
  refine ⟨⟨opened.mp, .inl attempting.socket⟩, ?_, ?_, closing, .inl attempting.phase,
    fun _ _ => opened.mpr⟩
  · rw [messages, messages, attempting.queue, attempting.log]
  · rw [closers, closers, attempting.lazyCloses, attempting.reconnects]

theorem connect_quiet (server : Option Server) (proxys : List Server) (preferred : Option Server)
    (transport : Transport Server Data) :
    Quiet transport (connect server proxys preferred transport) := by
  apply (connect_attempting server proxys preferred transport).quiet
  · rw [connect_status]
    split
    · exact Iff.rfl
    next free =>
      apply iff_of_false (by simp)
      intro opened
      simp [opened, TransportStatus.busy] at free
  · rw [connect_status]
    split
    · exact id
    · intro closing
      cases closing

theorem next_start_quiet (round : Nat) (transport : Transport Server Data) :
    Quiet transport (nextStart round transport) := by
  apply (next_start_attempting round transport).quiet
  · rw [next_start_status]
    split
    next closing => simp [closing]
    next => exact Iff.rfl
  · rw [next_start_status]
    split
    next closing => exact fun _ => closing
    next => exact id

theorem next_end_quiet (round : Nat) (transport : Transport Server Data) :
    Quiet transport (nextEnd options round transport) := by
  unfold nextEnd
  split
  · exact ⟨⟨id, .inl rfl⟩, rfl, rfl, id, .inl rfl, fun _ _ => id⟩
  · exact next_start_quiet round transport

theorem attempt_failed_quiet (round : Nat) (server : Server) {status : TransportStatus}
    (connecting : transport.status = .connecting) (failed : status ≠ .opened)
    (final : status ≠ .closing) :
    Quiet transport (attemptFailed options round server status transport) := by
  have elsewhere : transport.status ≠ .opened := by
    rw [connecting]
    decide
  rcases attempt_failed_cases options round server status transport with
    same | same | same | ⟨retryIndex, reports, same⟩
  · rw [same]
    exact Quiet.refl transport
  · rw [same]
    exact next_end_quiet round transport
  · rw [same]
    have again := @next_end_quiet Server Data options round (retrying transport round)
    exact ⟨⟨again.stays.opened, again.stays.held⟩, again.messages, again.closers,
      again.closing, again.phase, again.opening⟩
  · rw [same]
    exact ⟨⟨fun opened => absurd opened failed, .inl rfl⟩, rfl, rfl,
      fun closing => absurd closing final, .inl rfl,
      fun _ _ opened => absurd opened elsewhere⟩

theorem connect_complete_quiet {socket : Nat} {native : NativeSocket Server}
    {status : TransportStatus} (calm : transport.status ≠ .closing) (final : status ≠ .closing)
    (failed : transport.status = .connecting → status ≠ .opened) :
    Quiet transport (connectComplete options socket native status transport) := by
  by_cases connecting : transport.status = .connecting
  · rw [connect_complete_fails options native connecting (failed connecting)]
    apply Quiet.of_touch
    exact attempt_failed_quiet native.round native.server connecting (failed connecting) final
  · rw [connect_complete_ignored options connecting calm]
    exact Quiet.touched _ _ _

theorem connect_again_quiet (socket : Nat) (phase : ∀ other, transport.phase ≠ .onOpen other) :
    Quiet transport (connectAgain options socket transport) := by
  rcases connect_again_cases options socket transport with same | ⟨native, closure, -, -, again⟩
  · rw [same]
    exact Quiet.refl transport
  · rw [again]
    have quiet := connect_quiet (some native.server) closure.proxys closure.preferred
      (cleared options socket transport)
    have idle := (connect_attempting (some native.server) closure.proxys closure.preferred
      (cleared options socket transport)).phase
    refine ⟨⟨quiet.stays.opened, quiet.stays.held⟩, quiet.messages, quiet.closers,
      quiet.closing, .inr ⟨phase, ?_, ?_⟩, fun other opens => absurd opens (phase other)⟩
    · intro other opens
      cases idle.symm.trans opens
    · intro other opens
      cases idle.symm.trans opens

theorem onclose_quiet (socket : Nat) (idle : transport.phase = .idle) :
    Quiet transport (onclose options socket transport) := by
  have calm (other : Nat) : transport.phase ≠ .onOpen other := by
    rw [idle]
    simp
  rcases onclose_cases options socket transport with
    ⟨opened, -, -, after⟩ | ⟨opened, -, -, after⟩ | ⟨-, onCloses, after⟩
  · rw [after]
    have again := @connect_again_quiet Server Data options (leaving socket transport) socket calm
    refine ⟨⟨fun _ => opened, again.stays.held⟩, again.messages, again.closers, ?_,
      again.phase, ?_⟩
    · exact fun closing => by cases again.closing closing
    · exact fun other phase => absurd phase (calm other)
  · rw [after]
    refine ⟨⟨fun _ => opened, .inl rfl⟩, rfl, rfl, ?_, .inr ⟨calm, ?_, ?_⟩, ?_⟩
    · exact fun closing => by cases closing
    · simp
    · simp
    · exact fun other phase => absurd phase (calm other)
  · rw [after]
    exact ⟨⟨id, .inl rfl⟩, rfl, rfl, id, .inl rfl, fun _ _ => id⟩

theorem order_flush (order : InOrder transport) (socket : Nat) :
    InOrder (flushQueue socket transport) := by
  rcases order with ⟨past, sent, handed, dropped⟩
  have items : (transport.queue.map fun data => (data, true)).map Prod.fst = transport.queue := by
    rw [List.map_map]
    exact List.map_id _
  have flushed : (transport.queue.map fun data => (socket, data)).map Prod.snd =
      transport.queue := by
    rw [List.map_map]
    exact List.map_id _
  refine ⟨past ++ transport.queue.map fun data => (data, true), ?_, ?_, ?_⟩
  · rw [List.map_append, items, flushQueue, List.append_nil]
    exact sent
  · rw [outcomes_append, outcomes_same, flushQueue, List.map_append, flushed, handed]
  · rw [outcomes_append, outcomes_other (by decide), List.append_nil]
    exact dropped

theorem told_flush (told : Told options transport)
    (unset : transport.queue ≠ [] → options.onSend = false) (socket : Nat) :
    Told options (flushQueue socket transport) := by
  intro set
  have empty : transport.queue = [] := by
    by_contra queued
    cases set.symm.trans (unset queued)
  rw [flushQueue, empty, List.map_nil, List.append_nil]
  exact told set

theorem send_away {data : Data} (away : transport.status ≠ .opened) : ∃ queue dropped,
    send options data (noteSend data transport) = { noteSend data transport with
      queue := queue
      log := { (noteSend data transport).log with dropped := dropped } } := by
  unfold send noteSend
  dsimp only
  rw [if_pos away]
  exact ⟨_, _, rfl⟩

theorem send_full {data oldest : Data} {queue : List Data} (away : transport.status ≠ .opened)
    (full : 0 < options.queueMax ∧ transport.queue.length = options.queueMax)
    (queued : transport.queue = oldest :: queue) :
    send options data (noteSend data transport) = { noteSend data transport with
      queue := queue ++ [data]
      log := { (noteSend data transport).log with
        dropped := transport.log.dropped ++ [oldest] } } := by
  unfold send noteSend
  dsimp only
  rw [if_pos away, if_pos full, if_pos full, queued]
  rfl

theorem send_room {data : Data} (away : transport.status ≠ .opened)
    (room : ¬(0 < options.queueMax ∧ transport.queue.length = options.queueMax)) :
    send options data (noteSend data transport) =
      { noteSend data transport with queue := transport.queue ++ [data] } := by
  unfold send noteSend
  dsimp only
  rw [if_pos away, if_neg room, if_neg room, List.append_nil]

theorem send_opened {socket : Nat} (opened : transport.status = .opened)
    (held : transport.socket = some socket) (data : Data) :
    send options data (noteSend data transport) = { noteSend data transport with
      log := { (noteSend data transport).log with
        handed := transport.log.handed ++ [(socket, data)]
        onSends := transport.log.onSends ++ if options.onSend then [data] else [] } } := by
  unfold send noteSend
  dsimp only
  rw [if_neg (not_not.mpr opened), held]

theorem order_queue (order : InOrder transport) (data : Data)
    (away : transport.status ≠ .opened) :
    InOrder (send options data (noteSend data transport)) ∧
      DropsOldest options transport (.call (.send data))
        (send options data (noteSend data transport)) := by
  rcases order with ⟨past, sent, handed, dropped⟩
  by_cases full : 0 < options.queueMax ∧ transport.queue.length = options.queueMax
  · have nonempty : transport.queue ≠ [] := by
      intro empty
      rw [empty, List.length_nil] at full
      omega
    rcases List.exists_cons_of_ne_nil nonempty with ⟨oldest, queue, queued⟩
    rw [send_full away full queued]
    constructor
    · refine ⟨past ++ [(oldest, false)], ?_, ?_, ?_⟩
      · simp [noteSend, sent, queued]
      · rw [outcomes_append]
        exact handed.trans (List.append_nil _).symm
      · rw [outcomes_append, ← dropped]
        rfl
    · exact .inr ⟨data, oldest, queue, rfl, queued, full.2, rfl, rfl⟩
  · rw [send_room away full]
    constructor
    · refine ⟨past, ?_, handed, dropped⟩
      simp [noteSend, sent]
    · exact .inl rfl

theorem step_send (sending : Sending options transport) (data : Data)
    (kept : ∀ socket, transport.phase = .onOpen socket → transport.queue = []) :
    Sending options (send options data (noteSend data transport)) ∧
      DropsOldest options transport (.call (.send data))
        (send options data (noteSend data transport)) := by
  by_cases opened : transport.status = .opened
  · rcases Option.ne_none_iff_exists'.mp (sending.held opened) with ⟨socket, held⟩
    have empty : transport.queue = [] := by
      rcases sending.flushed opened with empty | ⟨socket, phase⟩
      · exact empty
      · exact kept socket phase
    rw [send_opened opened held]
    refine ⟨⟨?_, ?_, sending.held, fun _ => .inl empty, sending.opening, sending.closing,
      sending.flushing, sending.lazyCloses, sending.reconnects⟩, .inl rfl⟩
    · rcases sending.order with ⟨past, sent, handed, dropped⟩
      refine ⟨past ++ [(data, true)], ?_, ?_, ?_⟩
      · simp [noteSend, sent, empty]
      · rw [outcomes_append, ← handed, List.map_append]
        rfl
      · rw [outcomes_append]
        exact dropped.trans (List.append_nil _).symm
    · intro set
      dsimp only
      rw [if_pos set, List.map_append, sending.told set]
      rfl
  · rcases @order_queue Server Data options transport sending.order data opened with ⟨order, drops⟩
    have away (socket : Nat) (phase : transport.phase = .onOpen socket) : False :=
      opened (sending.opening socket phase).1
    rcases @send_away Server Data options transport data opened with ⟨queue, dropped, sent⟩
    rw [sent] at order drops ⊢
    exact ⟨⟨order, sending.told, fun same => absurd same opened, fun same => absurd same opened,
      fun socket phase => (away socket phase).elim, sending.closing, sending.flushing,
      sending.lazyCloses, sending.reconnects⟩, drops⟩

/-- A socket opens, and the queue is flushed, at once or behind `onOpen`. -/
theorem step_established (sending : Sending options transport) (socket : Nat)
    (unset : transport.queue ≠ [] → options.onSend = false) :
    Sending options (established options socket transport) := by
  unfold established
  dsimp only
  split
  · refine ⟨sending.order, sending.told, ?_, fun _ => .inr ⟨socket, rfl⟩,
      fun _ _ => ⟨rfl, unset⟩, ?_, ?_, sending.lazyCloses, sending.reconnects⟩
    · simp
    · simp
    · simp
  · refine ⟨order_flush sending.order socket, told_flush sending.told unset socket, ?_,
      fun _ => .inl rfl, ?_, ?_, ?_, sending.lazyCloses, sending.reconnects⟩
    · simp [flushQueue]
    · intro other phase
      cases phase
    · simp [flushQueue]
    · simp [flushQueue]

theorem step_flush (sending : Sending options transport) {socket : Nat}
    (phase : transport.phase = .onOpen socket) : Sending options (flushQueue socket transport) := by
  rcases sending.opening socket phase with ⟨opened, unset⟩
  refine ⟨order_flush sending.order socket, told_flush sending.told unset socket,
    sending.held, fun _ => .inl rfl, ?_, sending.closing, ?_, sending.lazyCloses,
    sending.reconnects⟩
  · intro other opening
    cases opening
  · intro other flushing
    cases flushing

/-- On the condition a step keeps what holds between two steps. -/
theorem step_sending (sending : Sending options transport)
    (kept : SendKept options transport event next)
    (taken : step options transport event = some next) :
    Sending options next ∧ DropsOldest options transport event next := by
  have quiet (calm : Quiet transport next) :
      Sending options next ∧ DropsOldest options transport event next := by
    refine ⟨sending.quiet calm, .inl ?_⟩
    have same := calm.messages
    simp only [messages, Prod.mk.injEq] at same
    exact same.2.2.2.2
  cases step_moves taken with
  | connect server proxys => exact quiet (connect_quiet _ _ _ _)
  | send data => exact step_send sending data kept
  | close returns => exact kept.elim
  | reconnect returns => exact kept.elim
  | resumeOpen phase => exact ⟨step_flush sending phase, .inl rfl⟩
  | resumeReconnecting phase =>
      apply quiet
      apply connect_again_quiet
      rw [phase]
      simp
  | resumeSend phase => exact absurd phase (sending.flushing _)
  | @opened socket native idle known awaited =>
      let noted : Transport Server Data := noteOpened socket transport
      have same : Quiet transport noted := ⟨⟨id, .inl rfl⟩, rfl, rfl, id, .inl rfl, fun _ _ => id⟩
      by_cases connecting : transport.status = .connecting
      · have opening : noted.status = .connecting := connecting
        have completed := Quiet.touched noted socket fun native => { native with awaited := false }
        rw [connect_complete_opens options native opening]
        constructor
        · exact step_established ((sending.quiet same).quiet completed) socket
            (kept ⟨native, known, awaited⟩ connecting)
        · rcases established_eq options socket (noted.touch socket fun native =>
            { native with awaited := false }) with ⟨queue, phase, handed, opened⟩
          rw [opened]
          exact .inl rfl
      · have ignored := @connect_complete_quiet Server Data options noted socket native .opened
          sending.closing (by decide) (fun other => absurd other connecting)
        exact quiet ⟨⟨ignored.stays.opened, ignored.stays.held⟩, ignored.messages,
          ignored.closers, ignored.closing, ignored.phase, ignored.opening⟩
  | openedLate idle known late =>
      exact quiet ⟨⟨id, .inl rfl⟩, rfl, rfl, id, .inl rfl, fun _ _ => id⟩
  | @errored socket native idle known awaited =>
      apply quiet
      apply Quiet.of_touch
      exact connect_complete_quiet sending.closing (by decide) (fun _ => by decide)
  | erroredLate idle known late => exact quiet (Quiet.touched _ _ _)
  | message socket idle => exact quiet (Quiet.refl _)
  | closed idle known listening =>
      apply quiet
      apply Quiet.of_touch
      exact onclose_quiet _ idle
  | closedUnheard idle known deaf => exact quiet (Quiet.touched _ _ _)
  | timeout idle known awaited =>
      exact quiet (connect_complete_quiet sending.closing (by decide) (fun _ => by decide))
  | @nextStart round idle scheduled =>
      have started := next_start_quiet round
        { transport with nextStarts := transport.nextStarts.erase round }
      exact quiet ⟨⟨started.stays.opened, started.stays.held⟩, started.messages, started.closers,
        started.closing, started.phase, started.opening⟩
  | lazyClose idle scheduled =>
      rw [sending.lazyCloses] at scheduled
      cases scheduled
  | reconnectTimer idle scheduled =>
      rw [sending.reconnects] at scheduled
      cases scheduled

/-- In every run without `close` whose open events find nothing that `onSend` or a send in
`onOpen` would disturb, no message is lost, doubled or overtaken. -/
theorem messages_kept {events : List (Event Server Data)}
    (kept : Steps (step options) (SendKept options) (newTransport Server Data) events) :
    Steps (step options) (KeepsMessages options) (newTransport Server Data) events := by
  apply steps_imp (Sending options) _ _ kept
  · intro transport event next sending condition taken
    rcases step_sending sending condition taken with ⟨after, drops⟩
    exact ⟨⟨after.order, after.told, drops⟩, after⟩
  · refine ⟨⟨[], rfl, rfl, rfl⟩, fun _ => rfl, ?_, ?_, ?_, ?_, ?_, rfl, rfl⟩
    · simp [newTransport]
    · simp [newTransport]
    · simp [newTransport]
    · simp [newTransport]
    · simp [newTransport]

theorem messages_kept_in_on_open : Steps (step { queueMax := 1, onOpen := true })
    (KeepsMessages { queueMax := 1, onOpen := true }) (newTransport Nat Nat)
    [.call (.send 1), .call (.send 2), .call (.connect 1 []), .opened 0, .resume,
      .call (.send 3)] := by
  apply messages_kept
  refine steps_cons rfl ?_ (steps_cons rfl ?_ (steps_cons rfl ?_ (steps_cons rfl ?_
    (steps_cons rfl ?_ (steps_cons rfl ?_ trivial)))))
  · exact fun _ phase => by cases phase
  · exact fun _ phase => by cases phase
  · trivial
  · exact fun _ _ _ => rfl
  · trivial
  · exact fun _ phase => by cases phase

/-- `onOpen` sends 2 while 1 is queued, and 2 is handed over first; and for what was queued when
the socket opens `onSend` is not called. -/
theorem messages_not_always_kept : (¬∀ (options : TransportOptions) (transport : Transport Nat Nat)
    (events : List (Event Nat Nat)),
    (∀ call, .call call ∈ events → call ≠ .close ∧ call ≠ .reconnect) →
    run (step options) (newTransport Nat Nat) events = some transport → InOrder transport) ∧
    ¬∀ (options : TransportOptions) (transport : Transport Nat Nat)
    (events : List (Event Nat Nat)),
    (∀ call, .call call ∈ events → call ≠ .close ∧ call ≠ .reconnect) →
    run (step options) (newTransport Nat Nat) events = some transport → Told options transport := by
  constructor
  · intro order
    let events : List (Event Nat Nat) := [.call (.send 1), .call (.connect 1 []), .opened 0,
      .call (.send 2), .resume]
    have ran : ∃ transport, run (step { onOpen := true }) (newTransport Nat Nat) events =
        some transport ∧ transport.queue = [] ∧ transport.log.sends = [1, 2] ∧
        transport.log.handed.map Prod.snd = [2, 1] := by
      exact ⟨_, rfl, rfl, rfl, rfl⟩
    rcases ran with ⟨transport, ran, empty, sends, given⟩
    rcases order _ transport events (by simp [events]) ran with ⟨past, sent, handed, -⟩
    have within := outcomes_sublist true past
    rw [empty, List.append_nil] at sent
    rw [← handed, given, ← sent, sends] at within
    exact absurd within (by decide)
  · intro told
    let events : List (Event Nat Nat) := [.call (.send 1), .call (.connect 1 []), .opened 0]
    have none := told { onSend := true } _ events (by simp [events]) rfl rfl
    cases none

end WebTransportGos.Helper.Transport
