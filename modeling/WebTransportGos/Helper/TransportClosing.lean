import WebTransportGos.Helper.TransportSteps

/-!
`close` of a Transport: when it returns and flushes the queue, and which callback ends the
closing that it begins.
-/

namespace WebTransportGos.Helper.Transport

open StepSystem

set_option autoImplicit false

variable {Server Data : Type*} {options : TransportOptions} {transport : Transport Server Data}

/-- With enough fuel `close` returns. If it is to flush and holds a socket, that socket has been
given the queue in its order, and the queue is empty. -/
def CloseFlushes (options : TransportOptions) (transport : Transport Server Data) : Prop :=
  ∃ fuel after, closeWith options fuel transport = some after ∧
    (options.refreshQueueOnClose = true → ∀ socket, transport.socket = some socket →
      after.log.handed = transport.log.handed ++ transport.queue.map (fun data => (socket, data)) ∧
        after.queue = [])

/-- Exactly when there is something to flush `close` does not return. -/
theorem close_flushes_iff : CloseFlushes options transport ↔ ¬(options.refreshQueueOnClose = true ∧
    transport.socket ≠ none ∧ transport.queue ≠ []) := by
  constructor
  · rintro ⟨fuel, after, returned, -⟩ hangs
    rw [close_with_hangs hangs] at returned
    cases returned
  · intro returns
    refine ⟨0, _, close_with_returns returns 0, ?_⟩
    intro refresh socket held
    have empty : transport.queue = [] := by
      by_contra queued
      exact returns ⟨refresh, by simp [held], queued⟩
    rw [empty, List.map_nil, List.append_nil]
    exact ⟨rfl, empty⟩

/-- A message is sent while the transport connects again, and then it is closed. -/
theorem close_not_always_flushes : ¬∀ (options : TransportOptions) (transport : Transport Nat Nat),
    Reachable (step options) (newTransport Nat Nat) transport → CloseFlushes options transport := by
  intro flushes
  let options : TransportOptions := { refreshQueueOnClose := true, connectOnClose := true }
  let events : List (Event Nat Nat) := [.call (.connect 1 []), .opened 0, .closed 0, .call (.send 7)]
  have ran : ∃ transport, run (step options) (newTransport Nat Nat) events = some transport ∧
      transport.socket = some 0 ∧ transport.queue = [7] := by
    exact ⟨_, rfl, rfl, rfl⟩
  rcases ran with ⟨transport, ran, held, queued⟩
  rcases flushes options transport ⟨events, ran⟩ with ⟨fuel, after, returned, -⟩
  rw [close_with_hangs ⟨rfl, by simp [held], by simp [queued]⟩] at returned
  cases returned

def Awaits (sockets : List (NativeSocket Server)) : Prop :=
  ∃ native ∈ sockets, native.awaited = true

/-- A callback is pending that ends the closing: the completion of an attempt, the start of the
next one, a lazy close, the timer of `reconnect`, or the rest of a flush. -/
def Pending (transport : Transport Server Data) : Prop :=
  Awaits transport.sockets ∨ transport.nextStarts ≠ [] ∨ transport.lazyCloses ≠ [] ∨
    0 < transport.reconnects ∨ ∃ socket, transport.phase = .onSend socket

def Unstuck (transport : Transport Server Data) : Prop :=
  transport.status = .closing → Pending transport

theorem awaits_modify {sockets : List (NativeSocket Server)} {socket : Nat}
    {change : NativeSocket Server → NativeSocket Server}
    (same : ∀ native, (change native).awaited = native.awaited) :
    Awaits (sockets.modify socket change) ↔ Awaits sockets := by
  have through (sockets : List (NativeSocket Server)) :
      Awaits sockets ↔ true ∈ sockets.map NativeSocket.awaited := by
    simp [Awaits]
  rw [through, through, modify_map_same same]

section Closing

variable {next : Transport Server Data} {event : Event Server Data}

theorem Unstuck.of_same (unstuck : Unstuck transport) (status : next.status = transport.status)
    (sockets : Awaits transport.sockets → Awaits next.sockets)
    (nextStarts : next.nextStarts = transport.nextStarts)
    (lazyCloses : next.lazyCloses = transport.lazyCloses)
    (reconnects : next.reconnects = transport.reconnects)
    (phase : ∀ socket, transport.phase = .onSend socket → ∃ other, next.phase = .onSend other) :
    Unstuck next := by
  intro closing
  rw [status] at closing
  rw [Pending, nextStarts, lazyCloses, reconnects]
  rcases unstuck closing with awaits | starts | lazy | timer | ⟨socket, flushing⟩
  · exact .inl (sockets awaits)
  · exact .inr (.inl starts)
  · exact .inr (.inr (.inl lazy))
  · exact .inr (.inr (.inr (.inl timer)))
  · exact .inr (.inr (.inr (.inr (phase socket flushing))))

theorem unstuck_elsewhere (elsewhere : next.status ≠ .closing) : Unstuck next :=
  fun closing => absurd closing elsewhere

theorem unstuck_connect (unstuck : Unstuck transport) (server : Option Server)
    (proxys : List Server) (preferred : Option Server) :
    Unstuck (connect server proxys preferred transport) := by
  cases free : transport.status.busy with
  | true =>
      rw [connect_busy server proxys preferred free]
      exact unstuck
  | false =>
      apply unstuck_elsewhere
      rw [connect_status, free]
      simp

theorem next_start_unstuck (round : Nat) (transport : Transport Server Data) :
    Unstuck (nextStart round transport) := by
  apply unstuck_elsewhere
  rw [next_start_status]
  split
  · simp
  · assumption

theorem flush_closing_unstuck (socket : Nat) (transport : Transport Server Data) :
    Unstuck (flushClosing options socket transport) := by
  intro _
  unfold flushClosing
  split
  · split
    · exact .inr (.inr (.inl (List.append_ne_nil_of_right_ne_nil _ (List.cons_ne_nil _ _))))
    · exact .inr (.inr (.inr (.inr ⟨socket, rfl⟩)))
  · exact .inr (.inr (.inl (List.append_ne_nil_of_right_ne_nil _ (List.cons_ne_nil _ _))))

/-- The completion of an attempt ends the closing, or begins to flush. -/
theorem connect_complete_unstuck {socket : Nat} {native : NativeSocket Server}
    {status : TransportStatus} (final : status ≠ .closing) (transport : Transport Server Data) :
    Unstuck (connectComplete options socket native status transport) := by
  rcases connect_complete_cases options socket native status transport with
    ⟨-, -, same⟩ | ⟨connecting, -, same⟩ | ⟨-, same⟩ | ⟨-, same⟩ | ⟨-, elsewhere, same⟩
  · rw [same]
    apply unstuck_elsewhere
    rw [established_status]
    decide
  · rw [same]
    apply unstuck_elsewhere
    rcases @attempt_failed_status Server Data options (transport.touch socket fun native =>
      { native with awaited := false }) native.round native.server status connecting with still | last
    · rw [still]
      decide
    · rw [last]
      exact final
  · rw [same]
    exact flush_closing_unstuck socket _
  · rw [same]
    exact unstuck_elsewhere (by simp)
  · rw [same]
    exact unstuck_elsewhere elsewhere

theorem connect_again_unstuck (unstuck : Unstuck transport) {socket : Nat}
    (reconnecting : ∀ other, transport.phase ≠ .onSend other) :
    Unstuck (connectAgain options socket transport) := by
  rcases connect_again_cases options socket transport with same | ⟨native, closure, -, -, again⟩
  · rw [same]
    exact unstuck
  · rw [again]
    apply unstuck_connect
    refine unstuck.of_same rfl ?_ rfl rfl rfl ?_
    · unfold cleared clearedSockets
      dsimp only
      split
      · exact (awaits_modify (by intro _; rfl)).mpr
      · exact id
    · exact fun other flushing => absurd flushing (reconnecting other)

theorem onclose_unstuck (unstuck : Unstuck transport) (idle : transport.phase = .idle)
    (socket : Nat) : Unstuck (onclose options socket transport) := by
  have left : Unstuck (leaving socket transport) := unstuck_elsewhere (by simp [leaving])
  rcases onclose_cases options socket transport with
    ⟨-, -, -, after⟩ | ⟨-, -, -, after⟩ | ⟨-, onCloses, after⟩
  · rw [after]
    apply connect_again_unstuck left
    simp [leaving, idle]
  · rw [after]
    exact unstuck_elsewhere (by simp [leaving])
  · rw [after]
    exact unstuck

theorem after_reconnect_unstuck (unstuck : Unstuck transport) :
    Unstuck (afterReconnect transport) := by
  unfold afterReconnect
  split
  · exact unstuck
  · split
    · exact fun _ => .inr (.inr (.inr (.inl (Nat.succ_pos _))))
    next held =>
      apply unstuck_connect
      apply unstuck_elsewhere
      rw [afterClose]
      cases present : transport.socket with
      | none => exact absurd present held
      | some socket => simp

/-- A call of `close` that ends in CLOSING leaves the callbacks pending but for the timer that it
clears. -/
theorem after_close_unstuck : Unstuck (afterClose transport) ↔
    transport.socket ≠ none ∨ Pending (clearNextStart transport) := by
  rw [clear_next_start_eq, Unstuck, afterClose]
  cases transport.socket with
  | none => simp [Pending]
  | some socket => simp

/-- When `close` is called, a socket is held or another callback is pending. -/
def ClosePending (transport : Transport Server Data) (event : Event Server Data)
    (_ : Transport Server Data) : Prop :=
  match event with
  | .call .close => transport.socket ≠ none ∨ Pending (clearNextStart transport)
  | _ => True

theorem unstuck_touch (unstuck : Unstuck transport) (socket : Nat)
    {change : NativeSocket Server → NativeSocket Server}
    (same : ∀ native, (change native).awaited = native.awaited) :
    Unstuck (transport.touch socket change) :=
  unstuck.of_same rfl (awaits_modify same).mpr rfl rfl rfl fun other flushing => ⟨other, flushing⟩

/-- A step leaves the closing stuck exactly if it is a call of `close` that does. -/
theorem step_unstuck (unstuck : Unstuck transport)
    (taken : step options transport event = some next) :
    Unstuck next ↔ ClosePending transport event next := by
  cases step_moves taken with
  | connect server proxys => exact iff_of_true (unstuck_connect unstuck _ _ _) trivial
  | send data =>
      rcases send_eq options data (noteSend data transport) with ⟨queue, handed, onSends, dropped, sent⟩
      rw [sent]
      exact iff_of_true unstuck trivial
  | close returns => exact after_close_unstuck
  | reconnect returns => exact iff_of_true (after_reconnect_unstuck unstuck) trivial
  | resumeOpen phase =>
      refine iff_of_true (unstuck.of_same rfl id rfl rfl rfl ?_) trivial
      simp [phase]
  | resumeReconnecting phase =>
      refine iff_of_true (connect_again_unstuck unstuck ?_) trivial
      simp [phase]
  | resumeSend phase => exact iff_of_true (flush_closing_unstuck _ _) trivial
  | opened idle known awaited =>
      exact iff_of_true (connect_complete_unstuck (by decide) _) trivial
  | openedLate idle known late => exact iff_of_true unstuck trivial
  | errored idle known awaited =>
      exact iff_of_true (connect_complete_unstuck (by decide) _) trivial
  | erroredLate idle known late =>
      exact iff_of_true (unstuck_touch unstuck _ (by intro _; rfl)) trivial
  | message socket idle => exact iff_of_true unstuck trivial
  | closed idle known listening =>
      apply iff_of_true _ trivial
      exact onclose_unstuck (unstuck_touch unstuck _ (by intro _; rfl)) idle _
  | closedUnheard idle known deaf =>
      exact iff_of_true (unstuck_touch unstuck _ (by intro _; rfl)) trivial
  | timeout idle known awaited =>
      exact iff_of_true (connect_complete_unstuck (by decide) _) trivial
  | nextStart idle scheduled => exact iff_of_true (next_start_unstuck _ _) trivial
  | lazyClose idle scheduled => exact iff_of_true (unstuck_elsewhere (by simp)) trivial
  | reconnectTimer idle scheduled =>
      exact iff_of_true (unstuck_connect (unstuck_elsewhere (by simp)) _ _ _) trivial

def Completes (transport : Transport Server Data) (event : Event Server Data) : Prop :=
  match event with
  | .opened socket =>
      ∃ native, transport.sockets[socket]? = some native ∧ native.awaited = true
  | .errored socket =>
      ∃ native, transport.sockets[socket]? = some native ∧ native.awaited = true
  | .timeout _ => True
  | .nextStart _ => True
  | .lazyClose _ => True
  | .reconnect => True
  | _ => False

/-- The status has become CLOSE (the timer of `reconnect` goes on to connect), or a flush has
begun, with a lazy close behind it. -/
def EndsClosing (next : Transport Server Data) : Prop :=
  next.status = .close ∨ next.status = .connecting ∨ next.lazyCloses ≠ [] ∨
    ∃ socket, next.phase = .onSend socket

theorem flush_closing_ends (socket : Nat) (transport : Transport Server Data) :
    EndsClosing (flushClosing options socket transport) := by
  unfold flushClosing
  split
  · split
    · exact .inr (.inr (.inl (List.append_ne_nil_of_right_ne_nil _ (List.cons_ne_nil _ _))))
    · exact .inr (.inr (.inr ⟨socket, rfl⟩))
  · exact .inr (.inr (.inl (List.append_ne_nil_of_right_ne_nil _ (List.cons_ne_nil _ _))))

theorem connect_complete_ends {socket : Nat} {native : NativeSocket Server}
    {status : TransportStatus} (closing : transport.status = .closing) :
    EndsClosing (connectComplete options socket native status transport) := by
  rcases connect_complete_cases options socket native status transport with
    ⟨connecting, -⟩ | ⟨connecting, -⟩ | ⟨-, same⟩ | ⟨-, same⟩ | ⟨-, elsewhere, -⟩
  · cases closing.symm.trans connecting
  · cases closing.symm.trans connecting
  · rw [same]
    exact flush_closing_ends socket _
  · rw [same]
    exact .inl rfl
  · exact absurd closing elsewhere

theorem completion_ends (closing : transport.status = .closing)
    (completes : Completes transport event)
    (taken : step options transport event = some next) : EndsClosing next := by
  cases step_moves taken with
  | connect server proxys => cases completes
  | send data => cases completes
  | close returns => cases completes
  | reconnect returns => cases completes
  | resumeOpen phase => cases completes
  | resumeReconnecting phase => cases completes
  | resumeSend phase => cases completes
  | opened idle known awaited => exact connect_complete_ends closing
  | openedLate idle known late =>
      rcases completes with ⟨native, same, awaited⟩
      cases known.symm.trans same
      cases late.symm.trans awaited
  | errored idle known awaited => exact connect_complete_ends closing
  | erroredLate idle known late =>
      rcases completes with ⟨native, same, awaited⟩
      cases known.symm.trans same
      cases late.symm.trans awaited
  | message socket idle => cases completes
  | closed idle known listening => cases completes
  | closedUnheard idle known deaf => cases completes
  | timeout idle known awaited => exact connect_complete_ends closing
  | nextStart idle scheduled =>
      apply Or.inl
      rw [next_start_status]
      exact if_pos closing
  | lazyClose idle scheduled => exact .inl rfl
  | reconnectTimer idle scheduled =>
      apply Or.inr
      apply Or.inl
      rw [connect_status]
      rfl

end Closing

structure ClosingEnds (transport : Transport Server Data) (event : Event Server Data)
    (next : Transport Server Data) : Prop where
  pending : Unstuck next
  ends : transport.status = .closing → Completes transport event → EndsClosing next

/-- Exactly the runs in which no `close` finds nothing to wait for. -/
theorem closing_ends_iff (events : List (Event Server Data)) :
    Steps (step options) ClosingEnds (newTransport Server Data) events ↔
      Steps (step options) ClosePending (newTransport Server Data) events := by
  apply steps_iff Unstuck
  · intro transport event next unstuck taken
    constructor
    · intro ends
      exact (step_unstuck unstuck taken).mp ends.pending
    · intro condition
      refine ⟨(step_unstuck unstuck taken).mpr condition, ?_⟩
      exact fun closing completes => completion_ends closing completes taken
  · intro transport event next unstuck condition taken
    exact (step_unstuck unstuck taken).mpr condition
  · exact unstuck_elsewhere (by simp [newTransport])

/-- `close` before any `connect`: no callback is pending. -/
theorem close_first_stuck : ¬∀ (options : TransportOptions) (transport : Transport Nat Nat),
    Reachable (step options) (newTransport Nat Nat) transport → Unstuck transport := by
  intro unstuck
  have pending := unstuck {} _ ⟨[.call .close], rfl⟩ rfl
  simp [Pending, Awaits, newTransport, clearNextStart] at pending

end WebTransportGos.Helper.Transport
