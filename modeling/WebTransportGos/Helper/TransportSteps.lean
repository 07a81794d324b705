import WebTransportGos.Helper.Transport

/-!
What the parts of a Transport do, and with that every step: the calls that return, the life
of one socket from its attempt on, and what no step takes back.
-/

namespace WebTransportGos.Helper.Transport

open StepSystem

set_option autoImplicit false

variable {Server Data : Type*} (options : TransportOptions)

section Parts

variable {transport : Transport Server Data}

@[simp] theorem touch_status (socket : Nat) (change : NativeSocket Server → NativeSocket Server) :
    (transport.touch socket change).status = transport.status := rfl

@[simp] theorem touch_queue (socket : Nat) (change : NativeSocket Server → NativeSocket Server) :
    (transport.touch socket change).queue = transport.queue := rfl

@[simp] theorem touch_socket (socket : Nat) (change : NativeSocket Server → NativeSocket Server) :
    (transport.touch socket change).socket = transport.socket := rfl

@[simp] theorem touch_rounds (socket : Nat) (change : NativeSocket Server → NativeSocket Server) :
    (transport.touch socket change).rounds = transport.rounds := rfl

@[simp] theorem touch_phase (socket : Nat) (change : NativeSocket Server → NativeSocket Server) :
    (transport.touch socket change).phase = transport.phase := rfl

@[simp] theorem touch_log (socket : Nat) (change : NativeSocket Server → NativeSocket Server) :
    (transport.touch socket change).log = transport.log := rfl

theorem touch_get (socket other : Nat)
    (change : NativeSocket Server → NativeSocket Server) :
    (transport.touch socket change).sockets[other]? = transport.sockets[other]?.map fun native =>
      if socket = other then change native else native :=
  List.getElem?_modify change socket transport.sockets other

theorem touch_self {socket : Nat} {native : NativeSocket Server}
    {change : NativeSocket Server → NativeSocket Server}
    (known : transport.sockets[socket]? = some native) :
    (transport.touch socket change).sockets[socket]? = some (change native) := by
  rw [touch_get, known, Option.map_some, if_pos rfl]

theorem touch_other {socket other : Nat} {change : NativeSocket Server → NativeSocket Server}
    (different : socket ≠ other) :
    (transport.touch socket change).sockets[other]? = transport.sockets[other]? := by
  rw [touch_get]
  simp only [if_neg different, Option.map_id']

theorem modify_map_same {Item Part : Type*} {part : Item → Part} {change : Item → Item}
    (same : ∀ item, part (change item) = part item) (items : List Item) (index : Nat) :
    (items.modify index change).map part = items.map part := by
  induction items generalizing index with
  | nil => rw [List.modify_nil]
  | cons item items induction =>
      cases index with
      | zero => rw [List.modify_zero_cons, List.map_cons, List.map_cons, same]
      | succ index => rw [List.modify_succ_cons, List.map_cons, List.map_cons, induction]

/-- What the start of an attempt leaves as it is. -/
structure Attempting (transport next : Transport Server Data) : Prop where
  queue : next.queue = transport.queue
  retryIndex : next.retryIndex = transport.retryIndex
  socket : next.socket = transport.socket
  lazyCloses : next.lazyCloses = transport.lazyCloses
  reconnects : next.reconnects = transport.reconnects
  log : next.log = transport.log
  phase : next.phase = transport.phase
  sockets : transport.sockets <+: next.sockets

theorem next_start_attempting (round : Nat) (transport : Transport Server Data) :
    Attempting transport (nextStart round transport) := by
  unfold nextStart
  split
  · exact ⟨rfl, rfl, rfl, rfl, rfl, rfl, rfl, List.prefix_rfl⟩
  · exact ⟨rfl, rfl, rfl, rfl, rfl, rfl, rfl, List.prefix_append _ _⟩

theorem next_end_attempting (round : Nat) (transport : Transport Server Data) :
    Attempting transport (nextEnd options round transport) := by
  unfold nextEnd
  split
  · exact ⟨rfl, rfl, rfl, rfl, rfl, rfl, rfl, List.prefix_rfl⟩
  · exact next_start_attempting round transport

theorem connect_attempting (server : Option Server) (proxys : List Server)
    (preferred : Option Server) (transport : Transport Server Data) :
    Attempting transport (connect server proxys preferred transport) := by
  unfold connect
  dsimp only
  split
  · exact ⟨rfl, rfl, rfl, rfl, rfl, rfl, rfl, List.prefix_rfl⟩
  · have started := next_start_attempting transport.rounds.length { transport with
      server := server
      proxys := proxys
      preferred := preferred
      rounds := transport.rounds ++ [⟨server, proxys, 0, preferred⟩]
      status := .connecting }
    exact ⟨started.queue, started.retryIndex, started.socket, started.lazyCloses,
      started.reconnects, started.log, started.phase, started.sockets⟩

theorem next_start_status (round : Nat) (transport : Transport Server Data) :
    (nextStart round transport).status =
      if transport.status = .closing then .close else transport.status := by
  unfold nextStart
  split
  · rfl
  next connecting =>
    rw [not_not] at connecting
    rw [if_neg (by rw [connecting]; decide)]

theorem next_end_status (round : Nat) (connecting : transport.status = .connecting) :
    (nextEnd options round transport).status = .connecting := by
  unfold nextEnd
  split
  · exact connecting
  · rw [next_start_status, if_neg (by rw [connecting]; decide), connecting]

theorem connect_busy (server : Option Server) (proxys : List Server) (preferred : Option Server)
    (busy : transport.status.busy = true) : connect server proxys preferred transport =
      { transport with server := server, proxys := proxys, preferred := preferred } := by
  rw [connect]
  exact if_pos busy

def calling (server : Option Server) (proxys : List Server) (preferred : Option Server)
    (transport : Transport Server Data) : Transport Server Data :=
  { transport with
    server := server
    proxys := proxys
    preferred := preferred
    rounds := transport.rounds ++ [⟨server, proxys, 0, preferred⟩]
    status := .connecting }

theorem connect_free (server : Option Server) (proxys : List Server) (preferred : Option Server)
    (free : transport.status.busy = false) : connect server proxys preferred transport =
      nextStart transport.rounds.length (calling server proxys preferred transport) := by
  rw [connect]
  exact if_neg (by simp [free])

theorem connect_sockets (server : Server) (proxys : List Server) (preferred : Option Server)
    (free : transport.status.busy = false) :
    (connect (some server) proxys preferred transport).sockets =
      transport.sockets ++ [newSocket transport.rounds.length server] := by
  rw [connect_free _ _ _ free, nextStart]
  simp [calling, Round.servers]

theorem connect_status (server : Option Server) (proxys : List Server)
    (preferred : Option Server) (transport : Transport Server Data) :
    (connect server proxys preferred transport).status =
      if transport.status.busy then transport.status else .connecting := by
  cases free : transport.status.busy with
  | true => rw [connect_busy server proxys preferred free, if_pos rfl]
  | false =>
      rw [connect_free server proxys preferred free, next_start_status]
      rfl

theorem send_eq (data : Data) (transport : Transport Server Data) :
    ∃ queue handed onSends dropped, send options data transport = { transport with
      queue := queue
      log := { transport.log with handed := handed, onSends := onSends, dropped := dropped } } := by
  unfold send
  split
  · exact ⟨_, _, _, _, rfl⟩
  · split
    · exact ⟨_, _, _, _, rfl⟩
    · exact ⟨_, _, _, _, rfl⟩

theorem send_status (data : Data) (transport : Transport Server Data) :
    (send options data transport).status = transport.status := by
  rcases send_eq options data transport with ⟨queue, handed, onSends, dropped, sent⟩
  rw [sent]

def clearedSockets (socket : Nat) (transport : Transport Server Data) :
    List (NativeSocket Server) :=
  if options.clears then
    transport.sockets.modify socket fun native => { native with closed := true }
  else transport.sockets

def cleared (socket : Nat) (transport : Transport Server Data) : Transport Server Data :=
  { transport with phase := .idle, sockets := clearedSockets options socket transport }

theorem cleared_map {Part : Type*} (part : NativeSocket Server → Part)
    (same : ∀ native, part { native with closed := true } = part native) (socket : Nat)
    (transport : Transport Server Data) :
    (clearedSockets options socket transport).map part = transport.sockets.map part := by
  unfold clearedSockets
  split
  · exact modify_map_same same transport.sockets socket
  · rfl

/-- `connect` is called with the server of the socket and the proxies of its call. -/
theorem connect_again_cases (socket : Nat) (transport : Transport Server Data) :
    connectAgain options socket transport = transport ∨ ∃ native closure,
      transport.sockets[socket]? = some native ∧
      transport.rounds[native.round]? = some closure ∧
      connectAgain options socket transport = connect (some native.server) closure.proxys
        closure.preferred (cleared options socket transport) := by
  unfold connectAgain
  cases known : transport.sockets[socket]? with
  | none => exact .inl rfl
  | some native =>
      dsimp only
      cases began : transport.rounds[native.round]? with
      | none => exact .inl rfl
      | some closure =>
          refine .inr ⟨native, closure, rfl, began, ?_⟩
          unfold cleared clearedSockets
          dsimp only
          split
          · rfl
          · rfl

def leaving (socket : Nat) (transport : Transport Server Data) : Transport Server Data :=
  { transport with
    status := .none
    log := { transport.log with reconnects := transport.log.reconnects ++ [socket] } }

/-- OPEN is left, to connect at once or behind `onReconnecting`, or `onClose` is called at most. -/
theorem onclose_cases (socket : Nat) (transport : Transport Server Data) :
    (transport.status = .opened ∧ options.connectOnClose = true ∧
      options.onReconnecting = false ∧ onclose options socket transport =
        connectAgain options socket (leaving socket transport)) ∨
    (transport.status = .opened ∧ options.connectOnClose = true ∧
      options.onReconnecting = true ∧ onclose options socket transport =
        { leaving socket transport with phase := .onReconnecting socket }) ∨
    (transport.status = .opened → options.connectOnClose = false) ∧ ∃ onCloses,
      onclose options socket transport =
        { transport with log := { transport.log with onCloses := onCloses } } := by
  unfold onclose leaving
  split
  next opened =>
    split
    next connects =>
      dsimp only
      split
      next asks => exact .inr (.inl ⟨opened, connects, asks, rfl⟩)
      next never => exact .inl ⟨opened, connects, Bool.eq_false_iff.mpr never, rfl⟩
    next never => exact .inr (.inr ⟨fun _ => Bool.eq_false_iff.mpr never, _, rfl⟩)
  next elsewhere => exact .inr (.inr ⟨fun opened => absurd opened elsewhere, _, rfl⟩)

def Retries (options : TransportOptions) (transport : Transport Server Data) : Prop :=
  0 < options.retryCount ∧ transport.retryIndex < options.retryCount - 1

def retrying (transport : Transport Server Data) (round : Nat) : Transport Server Data :=
  { transport with
    retryIndex := transport.retryIndex + 1
    rounds := transport.rounds.modify round fun closure => { closure with serverIndex := 0 } }

section Failing

variable {round : Nat} {closure : Round Server} (server : Server) (status : TransportStatus)

theorem attempt_failed_retries (began : transport.rounds[round]? = some closure)
    (last : closure.serverIndex = closure.servers.length) (retries : Retries options transport) :
    attemptFailed options round server status transport =
      nextEnd options round (retrying transport round) := by
  rw [attemptFailed, began]
  dsimp only
  rw [if_pos last]
  exact if_pos retries

theorem attempt_failed_onward (began : transport.rounds[round]? = some closure)
    (more : closure.serverIndex ≠ closure.servers.length) :
    attemptFailed options round server status transport = nextEnd options round transport := by
  rw [attemptFailed, began]
  dsimp only
  rw [if_neg more]

theorem attempt_failed_last (began : transport.rounds[round]? = some closure)
    (last : closure.serverIndex = closure.servers.length) (done : ¬Retries options transport) :
    attemptFailed options round server status transport = { transport with
      retryIndex :=
        if 0 < options.retryCount then transport.retryIndex + 1 else transport.retryIndex
      status := status
      log := { transport.log with
        reports := transport.log.reports ++
          if reportSet options status then [(status, server)] else [] } } := by
  rw [attemptFailed, began]
  dsimp only
  rw [if_pos last]
  exact if_neg done

end Failing

/-- The next attempt follows, in the same round or in another one, or the failure is final. -/
theorem attempt_failed_cases (round : Nat) (server : Server) (status : TransportStatus)
    (transport : Transport Server Data) :
    attemptFailed options round server status transport = transport ∨
    attemptFailed options round server status transport = nextEnd options round transport ∨
    attemptFailed options round server status transport =
      nextEnd options round (retrying transport round) ∨
    ∃ retryIndex reports, attemptFailed options round server status transport = { transport with
      retryIndex := retryIndex
      status := status
      log := { transport.log with reports := reports } } := by
  cases began : transport.rounds[round]? with
  | none => exact .inl (by simp only [attemptFailed, began])
  | some closure =>
      by_cases last : closure.serverIndex = closure.servers.length
      · by_cases retries : Retries options transport
        · exact .inr (.inr (.inl (attempt_failed_retries options server status began last retries)))
        · exact .inr (.inr (.inr
            ⟨_, _, attempt_failed_last options server status began last retries⟩))
      · exact .inr (.inl (attempt_failed_onward options server status began last))

theorem attempt_failed_status {round : Nat} {server : Server} {status : TransportStatus}
    (connecting : transport.status = .connecting) :
    (attemptFailed options round server status transport).status = .connecting ∨
      (attemptFailed options round server status transport).status = status := by
  rcases attempt_failed_cases options round server status transport with
    same | same | same | ⟨retryIndex, reports, same⟩
  · exact .inl ((congrArg Transport.status same).trans connecting)
  · rw [same]
    exact .inl (next_end_status options round connecting)
  · rw [same]
    exact .inl (next_end_status options round connecting)
  · exact .inr (congrArg Transport.status same)

theorem attempt_failed_socket (round : Nat) (server : Server) (status : TransportStatus)
    (transport : Transport Server Data) :
    (attemptFailed options round server status transport).socket = transport.socket := by
  rcases attempt_failed_cases options round server status transport with
    same | same | same | ⟨retryIndex, reports, same⟩
  · rw [same]
  · rw [same, (next_end_attempting options round transport).socket]
  · rw [same, (next_end_attempting options round (retrying transport round)).socket]
    rfl
  · rw [same]

/-- Neither connecting nor closing, the transport ignores the end of an attempt. -/
theorem connect_complete_ignored {socket : Nat} {native : NativeSocket Server}
    {status : TransportStatus} (notConnecting : transport.status ≠ .connecting)
    (notClosing : transport.status ≠ .closing) :
    connectComplete options socket native status transport =
      transport.touch socket fun native => { native with awaited := false } := by
  unfold connectComplete
  dsimp only
  split
  next connecting => exact absurd connecting notConnecting
  next closing => exact absurd closing notClosing
  next => rfl

theorem established_eq (socket : Nat) (transport : Transport Server Data) :
    ∃ queue phase handed, established options socket transport =
      { transport.touch socket fun native => { native with listening := true } with
        socket := some socket
        status := .opened
        retryIndex := if 0 < options.retryCount then 0 else transport.retryIndex
        queue := queue
        phase := phase
        log := { transport.log with handed := handed } } := by
  unfold established
  dsimp only
  split
  · exact ⟨_, _, _, rfl⟩
  · exact ⟨_, _, _, rfl⟩

theorem established_status (socket : Nat) (transport : Transport Server Data) :
    (established options socket transport).status = .opened := by
  rcases established_eq options socket transport with ⟨queue, phase, handed, opened⟩
  rw [opened]

theorem established_socket (socket : Nat) (transport : Transport Server Data) :
    (established options socket transport).socket = some socket := by
  rcases established_eq options socket transport with ⟨queue, phase, handed, opened⟩
  rw [opened]

theorem established_rounds (socket : Nat) (transport : Transport Server Data) :
    (established options socket transport).rounds = transport.rounds := by
  rcases established_eq options socket transport with ⟨queue, phase, handed, opened⟩
  rw [opened]
  rfl

theorem established_other {socket other : Nat} (different : socket ≠ other)
    (transport : Transport Server Data) :
    (established options socket transport).sockets[other]? = transport.sockets[other]? := by
  rcases established_eq options socket transport with ⟨queue, phase, handed, opened⟩
  rw [opened]
  exact touch_other different

theorem connect_complete_opens {socket : Nat} (native : NativeSocket Server)
    (connecting : transport.status = .connecting) :
    connectComplete options socket native .opened transport = established options socket
      (transport.touch socket fun native => { native with awaited := false }) := by
  rw [connectComplete]
  dsimp only
  rw [touch_status, connecting]
  exact if_pos rfl

theorem connect_complete_fails {socket : Nat} (native : NativeSocket Server)
    {status : TransportStatus} (connecting : transport.status = .connecting)
    (failed : status ≠ .opened) : connectComplete options socket native status transport =
      attemptFailed options native.round native.server status
        (transport.touch socket fun native => { native with awaited := false }) := by
  rw [connectComplete]
  dsimp only
  rw [touch_status, connecting]
  exact if_neg failed

theorem connect_complete_flushes {socket : Nat} (native : NativeSocket Server)
    {status : TransportStatus} (closing : transport.status = .closing)
    (flushes : status = .opened ∧ options.refreshQueueOnClose = true ∧ transport.queue ≠ []) :
    connectComplete options socket native status transport = flushClosing options socket
      (transport.touch socket fun native => { native with awaited := false }) := by
  rw [connectComplete]
  dsimp only
  rw [touch_status, closing]
  exact if_pos flushes

theorem connect_complete_closes {socket : Nat} (native : NativeSocket Server)
    {status : TransportStatus} (closing : transport.status = .closing)
    (closes : ¬(status = .opened ∧ options.refreshQueueOnClose = true ∧ transport.queue ≠ [])) :
    connectComplete options socket native status transport =
      { (transport.touch socket fun native => { native with awaited := false }).touch socket
          fun native => { native with closed := true } with status := .close } := by
  rw [connectComplete]
  dsimp only
  rw [touch_status, closing]
  exact if_neg closes

/-- How an attempt ends: it is held, or fails, while the transport is connecting; it is flushed or
closed while the transport is closing; else it is ignored. -/
theorem connect_complete_cases (socket : Nat) (native : NativeSocket Server)
    (status : TransportStatus) (transport : Transport Server Data) :
    (transport.status = .connecting ∧ status = .opened ∧
      connectComplete options socket native status transport = established options socket
        (transport.touch socket fun native => { native with awaited := false })) ∨
    (transport.status = .connecting ∧ status ≠ .opened ∧
      connectComplete options socket native status transport =
        attemptFailed options native.round native.server status
          (transport.touch socket fun native => { native with awaited := false })) ∨
    (transport.status = .closing ∧
      connectComplete options socket native status transport = flushClosing options socket
        (transport.touch socket fun native => { native with awaited := false })) ∨
    (transport.status = .closing ∧ connectComplete options socket native status transport =
      { (transport.touch socket fun native => { native with awaited := false }).touch socket
          fun native => { native with closed := true } with status := .close }) ∨
    (transport.status ≠ .connecting ∧ transport.status ≠ .closing ∧
      connectComplete options socket native status transport =
        transport.touch socket fun native => { native with awaited := false }) := by
  by_cases connecting : transport.status = .connecting
  · by_cases opens : status = .opened
    · subst opens
      exact .inl ⟨connecting, rfl, connect_complete_opens options native connecting⟩
    · exact .inr (.inl ⟨connecting, opens,
        connect_complete_fails options native connecting opens⟩)
  · by_cases closing : transport.status = .closing
    · by_cases flushes : status = .opened ∧ options.refreshQueueOnClose = true ∧
          transport.queue ≠ []
      · exact .inr (.inr (.inl ⟨closing,
          connect_complete_flushes options native closing flushes⟩))
      · exact .inr (.inr (.inr (.inl ⟨closing,
          connect_complete_closes options native closing flushes⟩)))
    · exact .inr (.inr (.inr (.inr ⟨connecting, closing,
        connect_complete_ignored options connecting closing⟩)))

theorem connect_again_status (socket : Nat) (transport : Transport Server Data) :
    (connectAgain options socket transport).status = .connecting ∨
      (connectAgain options socket transport).status = transport.status := by
  rcases connect_again_cases options socket transport with same | ⟨native, closure, -, -, again⟩
  · exact .inr (congrArg status same)
  · rw [again, connect_status]
    split
    · exact .inr rfl
    · exact .inl rfl

theorem flush_closing_eq (socket : Nat) (transport : Transport Server Data) :
    ∃ queue phase handed onSends lazyCloses, flushClosing options socket transport =
      { transport with
        queue := queue
        phase := phase
        lazyCloses := lazyCloses
        log := { transport.log with handed := handed, onSends := onSends } } := by
  unfold flushClosing
  split
  · split
    · exact ⟨_, _, _, _, _, rfl⟩
    · exact ⟨_, _, _, _, _, rfl⟩
  · exact ⟨_, _, _, _, _, rfl⟩

variable {options}

/-- Away from OPEN `send` puts the data back into the queue, and the loop goes on. -/
theorem drain_stuck (away : transport.status ≠ .opened) (queued : transport.queue ≠ [])
    (fuel : Nat) : drainQueue options fuel transport = none := by
  induction fuel generalizing transport with
  | zero => rfl
  | succ fuel induction =>
      rw [drainQueue]
      split
      next empty => exact absurd empty queued
      next data queue _ =>
        apply induction
        · rw [send_status]
          exact away
        · rw [send, if_pos away]
          exact List.append_ne_nil_of_right_ne_nil _ (List.cons_ne_nil data [])

def Hangs (options : TransportOptions) (transport : Transport Server Data) : Prop :=
  options.refreshQueueOnClose = true ∧ transport.socket ≠ none ∧ transport.queue ≠ []

theorem close_with_hangs (hangs : Hangs options transport) (fuel : Nat) :
    closeWith options fuel transport = none := by
  rcases hangs with ⟨refresh, held, queued⟩
  rcases Option.ne_none_iff_exists'.mp held with ⟨socket, present⟩
  rw [closeWith, present]
  dsimp only
  rw [if_pos ⟨refresh, queued⟩]
  have stuck := @drain_stuck Server Data options
    { transport with socket := none, status := .closing } (by simp) queued fuel
  rw [stuck]
  rfl

def startsKept (transport : Transport Server Data) : List Nat :=
  match transport.nextStartTimer with
  | none => transport.nextStarts
  | some round => transport.nextStarts.erase round

theorem clear_next_start_eq (transport : Transport Server Data) : clearNextStart transport =
    { transport with nextStartTimer := none, nextStarts := startsKept transport } := by
  unfold clearNextStart startsKept
  cases timer : transport.nextStartTimer with
  | none =>
      dsimp only
      rw [← timer]
  | some round => rfl

def afterClose (transport : Transport Server Data) : Transport Server Data :=
  { transport with
    socket := none
    status := if transport.socket.isSome then .close else .closing
    sockets := transport.socket.elim transport.sockets fun socket =>
      transport.sockets.modify socket fun native =>
        { native with listening := false, closed := true }
    nextStartTimer := none
    nextStarts := startsKept transport }

theorem close_with_returns (returns : ¬Hangs options transport) (fuel : Nat) :
    closeWith options fuel transport = some (afterClose transport) := by
  rw [closeWith, afterClose]
  cases held : transport.socket with
  | none =>
      dsimp only
      rw [clear_next_start_eq]
      rfl
  | some socket =>
      dsimp only
      rw [if_neg, clear_next_start_eq]
      · rfl
      · rintro ⟨refresh, queued⟩
        exact returns ⟨refresh, by simp [held], queued⟩

theorem close_some {next : Transport Server Data} : close options transport = some next ↔
    ¬Hangs options transport ∧ next = afterClose transport := by
  rw [close]
  by_cases hangs : Hangs options transport
  · rw [close_with_hangs hangs]
    simp [hangs]
  · rw [close_with_returns hangs, Option.some.injEq, eq_comm]
    simp [hangs]

def afterReconnect (transport : Transport Server Data) : Transport Server Data :=
  if transport.status = .connecting then transport
  else if transport.socket = none then
    { afterClose transport with reconnects := transport.reconnects + 1 }
  else connect transport.server transport.proxys transport.preferred (afterClose transport)

theorem reconnect_some {next : Transport Server Data} : reconnect options transport = some next ↔
    (transport.status ≠ .connecting → ¬Hangs options transport) ∧
      next = afterReconnect transport := by
  unfold reconnect afterReconnect
  by_cases connecting : transport.status = .connecting
  · simp [connecting, eq_comm]
  · rw [if_pos connecting, if_neg connecting, Option.map_eq_some_iff]
    simp only [close_some]
    have closed : (afterClose transport).status = .closing ↔ transport.socket = none := by
      rw [afterClose]
      cases transport.socket with
      | none => simp
      | some socket => simp
    constructor
    · rintro ⟨after, ⟨returns, rfl⟩, rfl⟩
      refine ⟨fun _ => returns, ?_⟩
      by_cases held : transport.socket = none
      · rw [if_pos held, if_pos (closed.mpr held)]
        rfl
      · rw [if_neg held, if_neg (fun closing => held (closed.mp closing))]
        rfl
    · rintro ⟨returns, rfl⟩
      refine ⟨afterClose transport, ⟨returns connecting, rfl⟩, ?_⟩
      by_cases held : transport.socket = none
      · rw [if_pos held, if_pos (closed.mpr held)]
        rfl
      · rw [if_neg held, if_neg (fun closing => held (closed.mp closing))]
        rfl

/-- What a step does, event by event. -/
inductive Moves (options : TransportOptions) (transport : Transport Server Data) :
    Event Server Data → Transport Server Data → Prop where
  | connect (server : Server) (proxys : List Server) :
      Moves options transport (.call (.connect server proxys))
        (connect (some server) proxys (some server) transport)
  | send (data : Data) :
      Moves options transport (.call (.send data))
        (send options data (noteSend data transport))
  | close (returns : ¬Hangs options transport) :
      Moves options transport (.call .close) (afterClose transport)
  | reconnect (returns : transport.status ≠ .connecting → ¬Hangs options transport) :
      Moves options transport (.call .reconnect) (afterReconnect transport)
  | resumeOpen {socket : Nat} (phase : transport.phase = .onOpen socket) :
      Moves options transport .resume (flushQueue socket transport)
  | resumeReconnecting {socket : Nat} (phase : transport.phase = .onReconnecting socket) :
      Moves options transport .resume (connectAgain options socket transport)
  | resumeSend {socket : Nat} (phase : transport.phase = .onSend socket) :
      Moves options transport .resume (flushClosing options socket transport)
  | opened {socket : Nat} {native : NativeSocket Server} (idle : transport.phase = .idle)
      (known : transport.sockets[socket]? = some native) (awaited : native.awaited = true) :
      Moves options transport (.opened socket)
        (connectComplete options socket native .opened (noteOpened socket transport))
  | openedLate {socket : Nat} {native : NativeSocket Server} (idle : transport.phase = .idle)
      (known : transport.sockets[socket]? = some native) (late : native.awaited = false) :
      Moves options transport (.opened socket) (noteOpened socket transport)
  | errored {socket : Nat} {native : NativeSocket Server} (idle : transport.phase = .idle)
      (known : transport.sockets[socket]? = some native) (awaited : native.awaited = true) :
      Moves options transport (.errored socket) (connectComplete options socket native .error
        (transport.touch socket fun native => { native with ended := true }))
  | erroredLate {socket : Nat} {native : NativeSocket Server} (idle : transport.phase = .idle)
      (known : transport.sockets[socket]? = some native) (late : native.awaited = false) :
      Moves options transport (.errored socket)
        (transport.touch socket fun native => { native with ended := true })
  | message (socket : Nat) (idle : transport.phase = .idle) :
      Moves options transport (.message socket) transport
  | closed {socket : Nat} {native : NativeSocket Server} (idle : transport.phase = .idle)
      (known : transport.sockets[socket]? = some native) (listening : native.listening = true) :
      Moves options transport (.closed socket) (onclose options socket
        (transport.touch socket fun native => { native with ended := true, lost := true }))
  | closedUnheard {socket : Nat} {native : NativeSocket Server} (idle : transport.phase = .idle)
      (known : transport.sockets[socket]? = some native) (deaf : native.listening = false) :
      Moves options transport (.closed socket)
        (transport.touch socket fun native => { native with ended := true })
  | timeout {socket : Nat} {native : NativeSocket Server} (idle : transport.phase = .idle)
      (known : transport.sockets[socket]? = some native) (awaited : native.awaited = true) :
      Moves options transport (.timeout socket)
        (connectComplete options socket native .timeout transport)
  | nextStart {round : Nat} (idle : transport.phase = .idle)
      (scheduled : round ∈ transport.nextStarts) :
      Moves options transport (.nextStart round) (nextStart round
        { transport with nextStarts := transport.nextStarts.erase round })
  | lazyClose {socket : Nat} (idle : transport.phase = .idle)
      (scheduled : socket ∈ transport.lazyCloses) :
      Moves options transport (.lazyClose socket)
        { transport.touch socket fun native => { native with closed := true } with
          lazyCloses := transport.lazyCloses.erase socket
          status := .close }
  | reconnectTimer (idle : transport.phase = .idle) (scheduled : 0 < transport.reconnects) :
      Moves options transport .reconnect
        (connect transport.server transport.proxys transport.preferred { transport with
          reconnects := transport.reconnects - 1
          status := .close })

theorem resume_moves {next : Transport Server Data}
    (taken : resume options transport = some next) : Moves options transport .resume next := by
  unfold resume at taken
  split at taken
  · cases taken
  next phase =>
    cases taken
    exact .resumeOpen phase
  next phase =>
    cases taken
    exact .resumeReconnecting phase
  next phase =>
    cases taken
    exact .resumeSend phase

theorem react_moves {event : Event Server Data} {next : Transport Server Data}
    (idle : transport.phase = .idle) (taken : react options transport event = some next) :
    Moves options transport event next := by
  cases event with
  | call call => cases taken
  | resume => cases taken
  | opened socket =>
      rcases Option.map_eq_some_iff.mp taken with ⟨native, known, rfl⟩
      unfold onopenEvent
      cases awaited : native.awaited with
      | true => exact .opened idle known awaited
      | false => exact .openedLate idle known awaited
  | errored socket =>
      rcases Option.map_eq_some_iff.mp taken with ⟨native, known, rfl⟩
      unfold onerrorEvent
      cases awaited : native.awaited with
      | true => exact .errored idle known awaited
      | false => exact .erroredLate idle known awaited
  | message socket =>
      rcases Option.map_eq_some_iff.mp taken with ⟨native, known, rfl⟩
      exact .message socket idle
  | closed socket =>
      rcases Option.map_eq_some_iff.mp taken with ⟨native, known, rfl⟩
      unfold oncloseEvent
      cases listening : native.listening with
      | true => exact .closed idle known listening
      | false => exact .closedUnheard idle known listening
  | timeout socket =>
      simp only [react] at taken
      split at taken
      · cases taken
      next native known =>
        split at taken
        next waits =>
          cases taken
          exact .timeout idle known waits.2
        next => cases taken
  | nextStart round =>
      simp only [react] at taken
      split at taken
      next scheduled =>
        cases taken
        exact .nextStart idle scheduled
      next => cases taken
  | lazyClose socket =>
      simp only [react] at taken
      split at taken
      next scheduled =>
        cases taken
        exact .lazyClose idle scheduled
      next => cases taken
  | reconnect =>
      simp only [react] at taken
      split at taken
      next scheduled =>
        cases taken
        exact .reconnectTimer idle scheduled
      next => cases taken

theorem step_moves {event : Event Server Data} {next : Transport Server Data}
    (taken : step options transport event = some next) : Moves options transport event next := by
  cases event with
  | call call =>
      cases call with
      | connect server proxys =>
          cases taken
          exact .connect server proxys
      | send data =>
          cases taken
          exact .send data
      | close =>
          rcases close_some.mp taken with ⟨returns, rfl⟩
          exact .close returns
      | reconnect =>
          rcases reconnect_some.mp taken with ⟨returns, rfl⟩
          exact .reconnect returns
  | resume => exact resume_moves taken
  | _ =>
      simp only [step] at taken
      split at taken
      next idle => exact react_moves idle taken
      next => cases taken

end Parts

theorem forall_modify {Item : Type*} {valid : Item → Prop} {change : Item → Item}
    {items : List Item} {index : Nat} (all : ∀ item ∈ items, valid item)
    (changed : ∀ item, items[index]? = some item → valid (change item)) :
    ∀ item ∈ items.modify index change, valid item := by
  intro item member
  rcases List.mem_iff_getElem?.mp member with ⟨other, found⟩
  rw [List.getElem?_modify, Option.map_eq_map, Option.map_eq_some_iff] at found
  rcases found with ⟨before, present, same⟩
  by_cases here : index = other
  · rw [if_pos here] at same
    rw [← same]
    exact changed before (here ▸ present)
  · rw [if_neg here] at same
    rw [← same]
    exact all before (List.mem_of_getElem? present)

/-- A property of a socket that begins with the attempt and lives through all that can
happen to it. -/
structure SocketLaw (valid : NativeSocket Server → Prop) : Prop where
  begins : ∀ round server, valid (newSocket round server)
  completes : ∀ native, valid native → valid { native with awaited := false }
  opens : ∀ native, valid native → native.awaited = false → valid { native with listening := true }
  ends : ∀ native, valid native → valid { native with ended := true }
  isLost : ∀ native, valid native → native.listening = true →
    valid { native with ended := true, lost := true }
  closes : ∀ native, valid native → valid { native with closed := true }
  isReleased : ∀ native, valid native → valid { native with listening := false, closed := true }

def EachSocket (valid : NativeSocket Server → Prop) (transport : Transport Server Data) : Prop :=
  ∀ native ∈ transport.sockets, valid native

section Lives

variable {transport next : Transport Server Data} {valid : NativeSocket Server → Prop}

theorem next_start_lives (law : SocketLaw valid) (round : Nat)
    (all : EachSocket valid transport) :
    EachSocket valid (nextStart round transport) := by
  unfold nextStart
  split
  · exact all
  · intro native member
    rcases List.mem_append.mp member with before | new
    · exact all native before
    · rw [Option.mem_toList, Option.map_eq_some_iff] at new
      rcases new with ⟨server, -, rfl⟩
      exact law.begins round server

theorem next_end_lives (law : SocketLaw valid) (round : Nat)
    (all : EachSocket valid transport) :
    EachSocket valid (nextEnd options round transport) := by
  unfold nextEnd
  split
  · exact all
  · exact next_start_lives law round all

theorem connect_lives (law : SocketLaw valid) (server : Option Server) (proxys : List Server)
    (preferred : Option Server) (all : EachSocket valid transport) :
    EachSocket valid (connect server proxys preferred transport) := by
  cases free : transport.status.busy with
  | true =>
      rw [connect_busy server proxys preferred free]
      exact all
  | false =>
      rw [connect_free server proxys preferred free]
      exact next_start_lives law _ all

theorem connect_again_lives (law : SocketLaw valid) (socket : Nat)
    (all : EachSocket valid transport) :
    EachSocket valid (connectAgain options socket transport) := by
  rcases connect_again_cases options socket transport with same | ⟨native, closure, -, -, again⟩
  · rw [same]
    exact all
  · rw [again]
    apply connect_lives law
    unfold EachSocket cleared clearedSockets
    dsimp only
    split
    · apply forall_modify all
      intro item present
      exact law.closes item (all item (List.mem_of_getElem? present))
    · exact all

theorem onclose_lives (law : SocketLaw valid) (socket : Nat)
    (all : EachSocket valid transport) :
    EachSocket valid (onclose options socket transport) := by
  rcases onclose_cases options socket transport with
    ⟨-, -, -, after⟩ | ⟨-, -, -, after⟩ | ⟨-, onCloses, after⟩
  · rw [after]
    exact connect_again_lives options law socket all
  · rw [after]
    exact all
  · rw [after]
    exact all

theorem attempt_failed_lives (law : SocketLaw valid) {round : Nat} {server : Server}
    {status : TransportStatus} (all : EachSocket valid transport) :
    EachSocket valid (attemptFailed options round server status transport) := by
  rcases attempt_failed_cases options round server status transport with
    same | same | same | ⟨retryIndex, reports, same⟩
  · rw [same]
    exact all
  · rw [same]
    exact next_end_lives options law round all
  · rw [same]
    exact next_end_lives options law round all
  · rw [same]
    exact all

theorem flush_closing_sockets (socket : Nat) (transport : Transport Server Data) :
    (flushClosing options socket transport).sockets = transport.sockets := by
  rcases flush_closing_eq options socket transport with
    ⟨queue, phase, handed, onSends, lazyCloses, flushed⟩
  rw [flushed]

theorem connect_complete_lives (law : SocketLaw valid) {socket : Nat}
    {native : NativeSocket Server} {status : TransportStatus}
    (all : EachSocket valid transport) :
    EachSocket valid (connectComplete options socket native status transport) := by
  have completed : EachSocket valid
      (transport.touch socket fun native => { native with awaited := false }) := by
    apply forall_modify all
    intro item present
    exact law.completes item (all item (List.mem_of_getElem? present))
  rcases connect_complete_cases options socket native status transport with
    ⟨-, -, same⟩ | ⟨-, -, same⟩ | ⟨-, same⟩ | ⟨-, same⟩ | ⟨-, -, same⟩
  · rcases established_eq options socket (transport.touch socket fun native =>
      { native with awaited := false }) with ⟨queue, phase, handed, opened⟩
    rw [same, opened]
    apply forall_modify completed
    intro item present
    rw [touch_get, Option.map_eq_some_iff] at present
    rcases present with ⟨before, known, rfl⟩
    rw [if_pos rfl]
    apply law.opens
    · exact law.completes before (all before (List.mem_of_getElem? known))
    · rfl
  · rw [same]
    exact attempt_failed_lives options law completed
  · rw [same, EachSocket, flush_closing_sockets]
    exact completed
  · rw [same]
    apply forall_modify completed
    intro item present
    exact law.closes item (completed item (List.mem_of_getElem? present))
  · rw [same]
    exact completed

theorem after_close_lives (law : SocketLaw valid)
    (all : EachSocket valid transport) :
    EachSocket valid (afterClose transport) := by
  rw [afterClose]
  cases transport.socket with
  | none => exact all
  | some socket =>
      apply forall_modify all
      intro item present
      exact law.isReleased item (all item (List.mem_of_getElem? present))

theorem after_reconnect_lives (law : SocketLaw valid)
    (all : EachSocket valid transport) :
    EachSocket valid (afterReconnect transport) := by
  unfold afterReconnect
  split
  · exact all
  · split
    · exact after_close_lives law all
    · exact connect_lives law _ _ _ (after_close_lives law all)

theorem step_lives (law : SocketLaw valid) {event : Event Server Data}
    (taken : step options transport event = some next)
    (all : EachSocket valid transport) :
    EachSocket valid next := by
  have ended (socket : Nat) : EachSocket valid
      (transport.touch socket fun native => { native with ended := true }) := by
    apply forall_modify all
    intro item present
    exact law.ends item (all item (List.mem_of_getElem? present))
  cases step_moves taken with
  | connect server proxys => exact connect_lives law _ _ _ all
  | send data =>
      rcases send_eq options data (noteSend data transport) with ⟨queue, handed, onSends, dropped, sent⟩
      rw [sent]
      exact all
  | close returns => exact after_close_lives law all
  | reconnect returns => exact after_reconnect_lives law all
  | resumeOpen phase => exact all
  | resumeReconnecting phase => exact connect_again_lives options law _ all
  | resumeSend phase =>
      rw [EachSocket, flush_closing_sockets]
      exact all
  | opened idle known awaited => exact connect_complete_lives options law all
  | openedLate idle known late => exact all
  | errored idle known awaited => exact connect_complete_lives options law (ended _)
  | erroredLate idle known late => exact ended _
  | message socket idle => exact all
  | closed idle known listening =>
      apply onclose_lives options law
      apply forall_modify all
      intro item present
      cases known.symm.trans present
      exact law.isLost _ (all _ (List.mem_of_getElem? present)) listening
  | closedUnheard idle known deaf => exact ended _
  | timeout idle known awaited => exact connect_complete_lives options law all
  | nextStart idle scheduled => exact next_start_lives law _ all
  | lazyClose idle scheduled =>
      apply forall_modify all
      intro item present
      exact law.closes item (all item (List.mem_of_getElem? present))
  | reconnectTimer idle scheduled => exact connect_lives law _ _ _ all

end Lives

def Fresh (native : NativeSocket Server) : Prop :=
  native.awaited = true → native.listening = false ∧ native.lost = false

theorem fresh_law : @SocketLaw Server Fresh where
  begins _ _ _ := ⟨rfl, rfl⟩
  completes _ _ awaited := absurd awaited Bool.false_ne_true
  opens _ _ completed awaited := absurd (completed.symm.trans awaited) Bool.false_ne_true
  ends _ fresh awaited := fresh awaited
  isLost _ fresh listening awaited :=
    absurd ((fresh awaited).1.symm.trans listening) Bool.false_ne_true
  closes _ fresh awaited := fresh awaited
  isReleased _ fresh awaited := ⟨rfl, (fresh awaited).2⟩

/-- What becomes of a socket: its attempt is not awaited again, and its end is for good. -/
structure Later (native after : NativeSocket Server) : Prop where
  round : after.round = native.round
  server : after.server = native.server
  awaited : native.awaited = false → after.awaited = false
  closed : native.closed = true → after.closed = true
  ended : native.ended = true → after.ended = true

theorem Later.refl (native : NativeSocket Server) : Later native native :=
  ⟨rfl, rfl, id, id, id⟩

theorem Later.trans {native middle after : NativeSocket Server} (first : Later native middle)
    (second : Later middle after) : Later native after :=
  ⟨second.round.trans first.round, second.server.trans first.server,
    second.awaited ∘ first.awaited, second.closed ∘ first.closed, second.ended ∘ first.ended⟩

def Grown (transport next : Transport Server Data) : Prop :=
  ∀ (socket : Nat) (native : NativeSocket Server), transport.sockets[socket]? = some native →
    ∃ after, next.sockets[socket]? = some after ∧ Later native after

structure Keeps (transport next : Transport Server Data) : Prop where
  grown : Grown transport next
  reconnects : next.log.reconnects = transport.log.reconnects
  onCloses : next.log.onCloses = transport.log.onCloses

section Keeping

variable {transport middle next : Transport Server Data}

theorem Grown.refl (transport : Transport Server Data) : Grown transport transport :=
  fun _ native known => ⟨native, known, Later.refl native⟩

theorem Grown.trans (first : Grown transport middle) (second : Grown middle next) :
    Grown transport next := by
  intro socket native known
  rcases first socket native known with ⟨between, found, before⟩
  rcases second socket between found with ⟨after, last, behind⟩
  exact ⟨after, last, before.trans behind⟩

theorem Grown.of_prefix (longer : transport.sockets <+: next.sockets) : Grown transport next := by
  rcases longer with ⟨more, whole⟩
  intro socket native known
  have inside := (List.getElem?_eq_some_iff.mp known).1
  refine ⟨native, ?_, Later.refl native⟩
  rw [← whole, List.getElem?_append_left inside]
  exact known

theorem grown_modify {socket : Nat} {change : NativeSocket Server → NativeSocket Server}
    (changed : next.sockets = transport.sockets.modify socket change)
    (later : ∀ native, Later native (change native)) : Grown transport next := by
  intro other native known
  rw [changed]
  by_cases here : socket = other
  · subst here
    exact ⟨change native, touch_self known, later native⟩
  · exact ⟨native, (touch_other here).trans known, Later.refl native⟩

theorem Keeps.refl (transport : Transport Server Data) : Keeps transport transport :=
  ⟨Grown.refl transport, rfl, rfl⟩

theorem Keeps.trans (first : Keeps transport middle) (second : Keeps middle next) :
    Keeps transport next :=
  ⟨first.grown.trans second.grown, second.reconnects.trans first.reconnects,
    second.onCloses.trans first.onCloses⟩

theorem Attempting.keeps (attempting : Attempting transport next) : Keeps transport next :=
  ⟨Grown.of_prefix attempting.sockets, by rw [attempting.log], by rw [attempting.log]⟩

theorem keeps_same (sockets : next.sockets = transport.sockets)
    (reconnects : next.log.reconnects = transport.log.reconnects)
    (onCloses : next.log.onCloses = transport.log.onCloses) : Keeps transport next :=
  ⟨Grown.of_prefix (sockets ▸ List.prefix_rfl), reconnects, onCloses⟩

theorem later_completed (native : NativeSocket Server) :
    Later native { native with awaited := false } := ⟨rfl, rfl, fun _ => rfl, id, id⟩

theorem later_listening (native : NativeSocket Server) :
    Later native { native with listening := true } := ⟨rfl, rfl, id, id, id⟩

theorem later_ended (native : NativeSocket Server) :
    Later native { native with ended := true } := ⟨rfl, rfl, id, id, fun _ => rfl⟩

theorem later_lost (native : NativeSocket Server) :
    Later native { native with ended := true, lost := true } :=
  ⟨rfl, rfl, id, id, fun _ => rfl⟩

theorem later_closed (native : NativeSocket Server) :
    Later native { native with closed := true } := ⟨rfl, rfl, id, fun _ => rfl, id⟩

theorem later_released (native : NativeSocket Server) :
    Later native { native with listening := false, closed := true } :=
  ⟨rfl, rfl, id, fun _ => rfl, id⟩

theorem send_keeps (data : Data) (transport : Transport Server Data) :
    Keeps transport (send options data (noteSend data transport)) := by
  rcases send_eq options data (noteSend data transport) with ⟨queue, handed, onSends, dropped, sent⟩
  rw [sent]
  exact keeps_same rfl rfl rfl

theorem flush_closing_keeps (socket : Nat) (transport : Transport Server Data) :
    Keeps transport (flushClosing options socket transport) := by
  rcases flush_closing_eq options socket transport with
    ⟨queue, phase, handed, onSends, lazyCloses, flushed⟩
  rw [flushed]
  exact keeps_same rfl rfl rfl

theorem connect_again_keeps (socket : Nat) (transport : Transport Server Data) :
    Keeps transport (connectAgain options socket transport) := by
  rcases connect_again_cases options socket transport with same | ⟨native, closure, -, -, again⟩
  · rw [same]
    exact Keeps.refl transport
  · rw [again]
    apply Keeps.trans _ (connect_attempting _ _ _ _).keeps
    unfold cleared clearedSockets
    split
    · exact ⟨grown_modify rfl later_closed, rfl, rfl⟩
    · exact keeps_same rfl rfl rfl

theorem attempt_failed_keeps (round : Nat) (server : Server) (status : TransportStatus)
    (transport : Transport Server Data) :
    Keeps transport (attemptFailed options round server status transport) := by
  rcases attempt_failed_cases options round server status transport with
    same | same | same | ⟨retryIndex, reports, same⟩
  · rw [same]
    exact Keeps.refl transport
  · rw [same]
    exact (next_end_attempting options round transport).keeps
  · rw [same]
    have keeps := (next_end_attempting options round (retrying transport round)).keeps
    exact ⟨keeps.grown, keeps.reconnects, keeps.onCloses⟩
  · rw [same]
    exact keeps_same rfl rfl rfl

theorem established_keeps (socket : Nat) (transport : Transport Server Data) :
    Keeps transport (established options socket transport) := by
  rcases established_eq options socket transport with ⟨queue, phase, handed, opened⟩
  rw [opened]
  exact ⟨grown_modify rfl later_listening, rfl, rfl⟩

theorem connect_complete_keeps (socket : Nat) (native : NativeSocket Server)
    (status : TransportStatus) (transport : Transport Server Data) :
    Keeps transport (connectComplete options socket native status transport) := by
  have completed : Keeps transport
      (transport.touch socket fun native => { native with awaited := false }) :=
    ⟨grown_modify rfl later_completed, rfl, rfl⟩
  rcases connect_complete_cases options socket native status transport with
    ⟨-, -, same⟩ | ⟨-, -, same⟩ | ⟨-, same⟩ | ⟨-, same⟩ | ⟨-, -, same⟩
  · rw [same]
    exact completed.trans (established_keeps options socket _)
  · rw [same]
    exact completed.trans (attempt_failed_keeps options _ _ _ _)
  · rw [same]
    exact completed.trans (flush_closing_keeps options socket _)
  · rw [same]
    exact completed.trans ⟨grown_modify rfl later_closed, rfl, rfl⟩
  · rw [same]
    exact completed

theorem after_close_keeps (transport : Transport Server Data) :
    Keeps transport (afterClose transport) := by
  rw [afterClose]
  cases transport.socket with
  | none => exact keeps_same rfl rfl rfl
  | some socket => exact ⟨grown_modify rfl later_released, rfl, rfl⟩

theorem after_reconnect_keeps (transport : Transport Server Data) :
    Keeps transport (afterReconnect transport) := by
  unfold afterReconnect
  split
  · exact Keeps.refl transport
  · split
    · exact (after_close_keeps transport).trans (keeps_same rfl rfl rfl)
    · exact (after_close_keeps transport).trans (connect_attempting _ _ _ _).keeps

theorem onclose_grown (socket : Nat) (transport : Transport Server Data) :
    Grown transport (onclose options socket transport) := by
  rcases onclose_cases options socket transport with
    ⟨-, -, -, after⟩ | ⟨-, -, -, after⟩ | ⟨-, onCloses, after⟩
  · rw [after]
    exact (connect_again_keeps options socket (leaving socket transport)).grown
  · rw [after]
    exact Grown.refl transport
  · rw [after]
    exact Grown.refl transport

/-- Only the close event of a socket is answered by a reconnect or `onClose`. -/
theorem step_keeps {event : Event Server Data} (taken : step options transport event = some next)
    (other : ∀ socket, event ≠ .closed socket) : Keeps transport next := by
  cases step_moves taken with
  | connect server proxys => exact (connect_attempting _ _ _ _).keeps
  | send data => exact send_keeps options data transport
  | close returns => exact after_close_keeps transport
  | reconnect returns => exact after_reconnect_keeps transport
  | resumeOpen phase => exact keeps_same rfl rfl rfl
  | resumeReconnecting phase => exact connect_again_keeps options _ transport
  | resumeSend phase => exact flush_closing_keeps options _ transport
  | opened idle known awaited =>
      apply Keeps.trans _ (connect_complete_keeps options _ _ _ _)
      exact keeps_same rfl rfl rfl
  | openedLate idle known late => exact keeps_same rfl rfl rfl
  | errored idle known awaited =>
      apply Keeps.trans _ (connect_complete_keeps options _ _ _ _)
      exact ⟨grown_modify rfl later_ended, rfl, rfl⟩
  | erroredLate idle known late => exact ⟨grown_modify rfl later_ended, rfl, rfl⟩
  | message socket idle => exact Keeps.refl transport
  | closed idle known listening => exact absurd rfl (other _)
  | closedUnheard idle known deaf => exact absurd rfl (other _)
  | timeout idle known awaited => exact connect_complete_keeps options _ _ _ _
  | nextStart idle scheduled =>
      apply Keeps.trans _ (next_start_attempting _ _).keeps
      exact keeps_same rfl rfl rfl
  | lazyClose idle scheduled => exact ⟨grown_modify rfl later_closed, rfl, rfl⟩
  | reconnectTimer idle scheduled =>
      apply Keeps.trans _ (connect_attempting _ _ _ _).keeps
      exact keeps_same rfl rfl rfl

theorem step_grown {event : Event Server Data} (taken : step options transport event = some next) :
    Grown transport next := by
  by_cases closing : ∃ socket, event = .closed socket
  · rcases closing with ⟨socket, rfl⟩
    cases step_moves taken with
    | closed idle known listening =>
        exact Grown.trans (grown_modify rfl later_lost) (onclose_grown options socket _)
    | closedUnheard idle known deaf => exact grown_modify rfl later_ended
  · exact (step_keeps options taken fun socket same => closing ⟨socket, same⟩).grown

end Keeping

section Holding

variable {transport next : Transport Server Data}

/-- OPEN does not begin, and the socket held stays, or is let go of with the status. -/
structure Stays (transport next : Transport Server Data) : Prop where
  opened : next.status = .opened → transport.status = .opened
  held : next.socket = transport.socket ∨ next.socket = none ∧ next.status ≠ .opened

theorem Stays.refl (transport : Transport Server Data) : Stays transport transport :=
  ⟨id, .inl rfl⟩

theorem Stays.same_open (stays : Stays transport next) (opened : next.status = .opened) :
    transport.status = .opened ∧ next.socket = transport.socket := by
  refine ⟨stays.opened opened, ?_⟩
  rcases stays.held with same | ⟨-, elsewhere⟩
  · exact same
  · exact absurd opened elsewhere

theorem after_close_status (transport : Transport Server Data) :
    (afterClose transport).status ≠ .opened := by
  rw [afterClose]
  cases transport.socket with
  | none => simp
  | some socket => simp

theorem after_close_stays (transport : Transport Server Data) :
    Stays transport (afterClose transport) :=
  ⟨fun opened => absurd opened (after_close_status transport),
    .inr ⟨rfl, after_close_status transport⟩⟩

theorem connect_opened {server : Option Server} {proxys : List Server} {preferred : Option Server}
    (opened : (connect server proxys preferred transport).status = .opened) :
    transport.status = .opened := by
  rw [connect_status] at opened
  split at opened
  · exact opened
  · cases opened

theorem connect_stays (server : Option Server) (proxys : List Server)
    (preferred : Option Server) (transport : Transport Server Data) :
    Stays transport (connect server proxys preferred transport) :=
  ⟨connect_opened, .inl (connect_attempting server proxys preferred transport).socket⟩

theorem connect_again_stays (socket : Nat) (transport : Transport Server Data) :
    Stays transport (connectAgain options socket transport) := by
  rcases connect_again_cases options socket transport with same | ⟨native, closure, -, -, again⟩
  · rw [same]
    exact Stays.refl transport
  · rw [again]
    have stays := connect_stays (some native.server) closure.proxys closure.preferred
      (cleared options socket transport)
    exact ⟨stays.opened, stays.held⟩

theorem attempt_failed_stays {round : Nat} {server : Server} {status : TransportStatus}
    (connecting : transport.status = .connecting) (failed : status ≠ .opened) :
    Stays transport (attemptFailed options round server status transport) := by
  refine ⟨?_, .inl (attempt_failed_socket options round server status transport)⟩
  intro opened
  rcases attempt_failed_status options connecting with same | last
  · cases same.symm.trans opened
  · exact absurd (last.symm.trans opened) failed

theorem flush_closing_stays (socket : Nat) (transport : Transport Server Data) :
    Stays transport (flushClosing options socket transport) := by
  rcases flush_closing_eq options socket transport with ⟨queue, phase, handed, onSends, lazyCloses, flushed⟩
  rw [flushed]
  exact ⟨id, .inl rfl⟩

theorem connect_complete_stays {socket : Nat} {native : NativeSocket Server}
    {status : TransportStatus} (failed : status = .opened → transport.status ≠ .connecting) :
    Stays transport (connectComplete options socket native status transport) := by
  rcases connect_complete_cases options socket native status transport with
    ⟨connecting, opens, -⟩ | ⟨connecting, failing, same⟩ | ⟨closing, same⟩ | ⟨closing, same⟩ |
    ⟨-, -, same⟩
  · exact absurd connecting (failed opens)
  · rw [same]
    have stays := @attempt_failed_stays Server Data options
      (transport.touch socket fun native => { native with awaited := false }) native.round
      native.server status connecting failing
    exact ⟨stays.opened, stays.held⟩
  · rw [same]
    have stays := flush_closing_stays options socket
      (transport.touch socket fun native => { native with awaited := false })
    exact ⟨stays.opened, stays.held⟩
  · rw [same]
    exact ⟨(fun opened => by cases opened), .inl rfl⟩
  · rw [same]
    exact ⟨id, .inl rfl⟩

theorem after_reconnect_stays (transport : Transport Server Data) :
    Stays transport (afterReconnect transport) := by
  unfold afterReconnect
  split
  · exact Stays.refl transport
  · split
    · exact ⟨(after_close_stays transport).opened, (after_close_stays transport).held⟩
    · have elsewhere : (connect transport.server transport.proxys transport.preferred
          (afterClose transport)).status ≠ .opened :=
        fun opened => after_close_status transport (connect_opened opened)
      refine ⟨fun opened => absurd opened elsewhere, .inr ⟨?_, elsewhere⟩⟩
      rw [(connect_attempting _ _ _ _).socket]
      rfl

theorem onclose_stays (socket : Nat) (transport : Transport Server Data) :
    Stays transport (onclose options socket transport) := by
  rcases onclose_cases options socket transport with
    ⟨opened, -, -, after⟩ | ⟨opened, -, -, after⟩ | ⟨-, onCloses, after⟩
  · rw [after]
    exact ⟨fun _ => opened, (connect_again_stays options socket (leaving socket transport)).held⟩
  · rw [after]
    exact ⟨fun _ => opened, .inl rfl⟩
  · rw [after]
    exact ⟨id, .inl rfl⟩

/-- A socket is held from its open event on, if its attempt is awaited and the transport
connecting. -/
theorem step_stays {event : Event Server Data} (taken : step options transport event = some next) :
    Stays transport next ∨ ∃ socket native, event = .opened socket ∧
      transport.sockets[socket]? = some native ∧ native.awaited = true ∧
      transport.status = .connecting ∧
      next = connectComplete options socket native .opened (noteOpened socket transport) := by
  cases step_moves taken with
  | connect server proxys => exact .inl (connect_stays _ _ _ _)
  | send data =>
      rcases send_eq options data (noteSend data transport) with ⟨queue, handed, onSends, dropped, sent⟩
      rw [sent]
      exact .inl ⟨id, .inl rfl⟩
  | close returns => exact .inl (after_close_stays transport)
  | reconnect returns => exact .inl (after_reconnect_stays transport)
  | resumeOpen phase => exact .inl ⟨id, .inl rfl⟩
  | resumeReconnecting phase => exact .inl (connect_again_stays options _ _)
  | resumeSend phase => exact .inl (flush_closing_stays options _ transport)
  | @opened socket native idle known awaited =>
      by_cases connecting : transport.status = .connecting
      · exact .inr ⟨_, _, rfl, known, awaited, connecting, rfl⟩
      · apply Or.inl
        have stays := @connect_complete_stays Server Data options (noteOpened socket transport)
          socket native .opened (fun _ => connecting)
        exact ⟨stays.opened, stays.held⟩
  | openedLate idle known late => exact .inl ⟨id, .inl rfl⟩
  | @errored socket native idle known awaited =>
      apply Or.inl
      have stays := @connect_complete_stays Server Data options
        (transport.touch socket fun native => { native with ended := true }) socket native .error
        (fun opened => by cases opened)
      exact ⟨stays.opened, stays.held⟩
  | erroredLate idle known late => exact .inl ⟨id, .inl rfl⟩
  | message socket idle => exact .inl (Stays.refl transport)
  | @closed socket native idle known listening =>
      apply Or.inl
      have stays := onclose_stays options socket
        (transport.touch socket fun native => { native with ended := true, lost := true })
      exact ⟨stays.opened, stays.held⟩
  | closedUnheard idle known deaf => exact .inl ⟨id, .inl rfl⟩
  | timeout idle known awaited =>
      exact .inl (connect_complete_stays options fun opened => by cases opened)
  | nextStart idle scheduled =>
      apply Or.inl
      refine ⟨?_, .inl (next_start_attempting _ _).socket⟩
      intro opened
      rw [next_start_status] at opened
      split at opened
      · cases opened
      · exact opened
  | lazyClose idle scheduled => exact .inl ⟨fun opened => by simp at opened, .inl rfl⟩
  | reconnectTimer idle scheduled =>
      apply Or.inl
      refine ⟨fun opened => ?_, .inl (connect_attempting _ _ _ _).socket⟩
      cases connect_opened opened

end Holding

end WebTransportGos.Helper.Transport
