import WebTransportGos.Helper.TransportSteps

/-!
What status OPEN of a Transport tells about its socket, and how often the end of one socket
is reported.
-/

namespace WebTransportGos.Helper.Transport

open StepSystem

set_option autoImplicit false

variable {Server Data : Type*} {options : TransportOptions}
  {transport next : Transport Server Data} {event : Event Server Data}

/-- The socket held is the one that opened last, and its close has not been handled. -/
def OpenTrue (transport : Transport Server Data) : Prop :=
  transport.status = .opened → ∃ socket native, transport.socket = some socket ∧
    transport.log.lastOpened = some socket ∧ transport.sockets[socket]? = some native ∧
    native.lost = false

theorem open_elsewhere (elsewhere : next.status ≠ .opened) : OpenTrue next :=
  fun opened => absurd opened elsewhere

theorem OpenTrue.of_same (truth : OpenTrue transport)
    (status : next.status = .opened → transport.status = .opened)
    (held : next.socket = transport.socket)
    (lastOpened : next.log.lastOpened = transport.log.lastOpened)
    (kept : ∀ socket native, transport.sockets[socket]? = some native → native.lost = false →
      transport.socket = some socket →
      ∃ after, next.sockets[socket]? = some after ∧ after.lost = false) : OpenTrue next := by
  intro opened
  rcases truth (status opened) with ⟨socket, native, present, last, known, open_⟩
  rcases kept socket native known open_ present with ⟨after, still, same⟩
  exact ⟨socket, after, held.trans present, lastOpened.trans last, still, same⟩

theorem touch_kept {socket other : Nat} {change : NativeSocket Server → NativeSocket Server}
    {native : NativeSocket Server} (same : socket = other → (change native).lost = native.lost)
    (known : transport.sockets[other]? = some native) (open_ : native.lost = false) :
    ∃ after, (transport.touch socket change).sockets[other]? = some after ∧
      after.lost = false := by
  by_cases here : socket = other
  · subst here
    exact ⟨_, touch_self known, (same rfl).trans open_⟩
  · rw [touch_other here]
    exact ⟨native, known, open_⟩

theorem open_touch_iff (socket : Nat) {change : NativeSocket Server → NativeSocket Server}
    (same : ∀ native, (change native).lost = native.lost) :
    OpenTrue (transport.touch socket change) ↔ OpenTrue transport := by
  constructor
  · intro truth opened
    rcases truth opened with ⟨held, after, present, last, known, open_⟩
    rw [touch_get, Option.map_eq_some_iff] at known
    rcases known with ⟨native, known, rfl⟩
    refine ⟨held, native, present, last, known, ?_⟩
    split at open_
    · exact (same native).symm.trans open_
    · exact open_
  · intro truth
    exact truth.of_same id rfl rfl fun _ native known open_ _ =>
      touch_kept (fun _ => same native) known open_

theorem open_touch (truth : OpenTrue transport) (socket : Nat)
    {change : NativeSocket Server → NativeSocket Server}
    (same : ∀ native, (change native).lost = native.lost) :
    OpenTrue (transport.touch socket change) :=
  (open_touch_iff socket same).mpr truth

theorem open_send (truth : OpenTrue transport) (data : Data) :
    OpenTrue (send options data (noteSend data transport)) := by
  rcases send_eq options data (noteSend data transport) with ⟨queue, handed, onSends, dropped, sent⟩
  rw [sent]
  exact truth

theorem open_next_start (truth : OpenTrue transport) (round : Nat) (nextStarts : List Nat) :
    OpenTrue (nextStart round { transport with nextStarts := nextStarts }) := by
  unfold nextStart
  split
  · refine truth.of_same ?_ rfl rfl fun _ native known open_ _ => ⟨native, known, open_⟩
    dsimp only
    split
    · intro opened
      cases opened
    · exact id
  next connecting =>
    apply open_elsewhere
    simp only [ne_eq, not_not] at connecting
    simp [connecting]

theorem open_connect (truth : OpenTrue transport) (server : Option Server)
    (proxys : List Server) (preferred : Option Server) :
    OpenTrue (connect server proxys preferred transport) := by
  cases free : transport.status.busy with
  | true =>
      rw [connect_busy server proxys preferred free]
      exact truth
  | false =>
      apply open_elsewhere
      rw [connect_status, free]
      simp

theorem open_connect_again (truth : OpenTrue transport) (socket : Nat) :
    OpenTrue (connectAgain options socket transport) := by
  rcases connect_again_cases options socket transport with same | ⟨native, closure, -, -, again⟩
  · rw [same]
    exact truth
  · rw [again]
    apply open_connect
    refine truth.of_same id rfl rfl ?_
    intro other native present open_ _
    unfold cleared clearedSockets
    dsimp only
    split
    · exact @touch_kept Server Data transport _ _ _ _ (fun _ => rfl) present open_
    · exact ⟨native, present, open_⟩

/-- An attempt that fails, and the completion of one while the transport is not connecting. -/
theorem open_connect_complete (truth : OpenTrue transport) {socket : Nat}
    {native : NativeSocket Server} {status : TransportStatus}
    (failed : status = .opened → transport.status ≠ .connecting) :
    OpenTrue (connectComplete options socket native status transport) := by
  have completed := @open_touch Server Data transport truth socket
    (fun native => { native with awaited := false }) fun _ => rfl
  rcases connect_complete_cases options socket native status transport with
    ⟨connecting, opens, -⟩ | ⟨connecting, failing, same⟩ | ⟨closing, same⟩ | ⟨closing, same⟩ |
    ⟨-, -, same⟩
  · exact absurd connecting (failed opens)
  · rw [same]
    apply open_elsewhere
    rcases @attempt_failed_status Server Data options (transport.touch socket fun native =>
      { native with awaited := false }) native.round native.server status connecting with still | last
    · rw [still]
      decide
    · rwa [last]
  · rw [same]
    apply open_elsewhere
    rcases flush_closing_eq options socket (transport.touch socket fun native =>
      { native with awaited := false }) with ⟨queue, phase, handed, onSends, lazyCloses, flushed⟩
    rw [flushed]
    exact fun opened => by cases closing.symm.trans opened
  · rw [same]
    exact open_elsewhere (by simp)
  · rw [same]
    exact completed

theorem open_established (fresh : EachSocket Fresh transport) {socket : Nat}
    {native : NativeSocket Server} (known : transport.sockets[socket]? = some native)
    (awaited : native.awaited = true) (last : transport.log.lastOpened = some socket)
    (connecting : transport.status = .connecting) :
    OpenTrue (connectComplete options socket native .opened transport) := by
  have unlost := (fresh native (List.mem_of_getElem? known) awaited).2
  rw [connect_complete_opens options native connecting]
  rcases established_eq options socket (transport.touch socket fun native =>
    { native with awaited := false }) with ⟨queue, phase, handed, opened⟩
  rw [opened]
  intro _
  refine ⟨socket, { native with awaited := false, listening := true }, rfl, last, ?_, unlost⟩
  exact touch_self (touch_self known)

/-- An open event finds OPEN with its own socket only, and the end of the held socket finds
OPEN only if the transport is to connect again. -/
def OpenKept (options : TransportOptions) (transport : Transport Server Data)
    (event : Event Server Data) (_ : Transport Server Data) : Prop :=
  match event with
  | .opened socket => transport.status = .opened → transport.socket = some socket
  | .closed socket => transport.status = .opened → transport.socket = some socket →
      (∃ native, transport.sockets[socket]? = some native ∧ native.listening = true) →
      options.connectOnClose = true
  | _ => True

/-- An open event that is not answered is still the last one. -/
theorem open_unanswered (truth : OpenTrue transport) (socket : Nat) :
    OpenTrue (noteOpened socket transport) ↔
      (transport.status = .opened → transport.socket = some socket) := by
  constructor
  · intro after opened
    rcases after opened with ⟨held, native, present, last, -⟩
    cases last
    exact present
  · intro own opened
    rcases truth opened with ⟨held, native, present, -, known, open_⟩
    cases present.symm.trans (own opened)
    exact ⟨socket, native, present, rfl, known, open_⟩

theorem open_opened (truth : OpenTrue transport) (fresh : EachSocket Fresh transport)
    {socket : Nat} {native : NativeSocket Server}
    (known : transport.sockets[socket]? = some native) (awaited : native.awaited = true) :
    OpenTrue (connectComplete options socket native .opened (noteOpened socket transport)) ↔
      (transport.status = .opened → transport.socket = some socket) := by
  by_cases connecting : transport.status = .connecting
  · have held := @open_established Server Data options
      { transport with log := { transport.log with lastOpened := some socket } } fresh socket native
      known awaited rfl connecting
    exact iff_of_true held (fun opened => by cases connecting.symm.trans opened)
  · have completed := open_unanswered truth socket
    by_cases opened : transport.status = .opened
    · have notClosing : (noteOpened socket transport).status ≠ .closing :=
        fun closing => by cases opened.symm.trans closing
      have ignored := @connect_complete_ignored Server Data options (noteOpened socket transport)
        socket native .opened connecting notClosing
      rw [← completed, ignored]
      exact open_touch_iff socket (by intro _; rfl)
    · apply iff_of_true _ (fun other => absurd other opened)
      apply open_connect_complete (completed.mpr fun other => absurd other opened)
      exact fun _ => connecting

theorem open_onclose (truth : OpenTrue transport) {socket : Nat}
    {native : NativeSocket Server} (known : transport.sockets[socket]? = some native) :
    OpenTrue (onclose options socket
        (transport.touch socket fun native => { native with ended := true, lost := true })) ↔
      (transport.status = .opened → transport.socket = some socket →
        options.connectOnClose = true) := by
  have left : OpenTrue (leaving socket
      (transport.touch socket fun native => { native with ended := true, lost := true })) :=
    open_elsewhere (by simp [leaving])
  rcases onclose_cases options socket (transport.touch socket fun native =>
    { native with ended := true, lost := true }) with
    ⟨-, again, -, after⟩ | ⟨-, again, -, after⟩ | ⟨never, onCloses, after⟩
  · rw [after]
    exact iff_of_true (open_connect_again left socket) fun _ _ => again
  · rw [after]
    exact iff_of_true (open_elsewhere (by simp [leaving])) fun _ _ => again
  · rw [after]
    constructor
    · intro lost opened own
      rcases lost opened with ⟨held, native, present, -, found, open_⟩
      cases own.symm.trans present
      cases (touch_self known).symm.trans found
      cases open_
    · intro elsewhere opened
      refine truth.of_same id rfl rfl ?_ opened
      intro other before found open_ present
      refine touch_kept ?_ found open_
      rintro rfl
      cases (never opened).symm.trans (elsewhere opened present)

theorem step_open (truth : OpenTrue transport) (fresh : EachSocket Fresh transport)
    (taken : step options transport event = some next) :
    OpenTrue next ↔ OpenKept options transport event next := by
  cases step_moves taken with
  | connect server proxys => exact iff_of_true (open_connect truth _ _ _) trivial
  | send data => exact iff_of_true (open_send truth data) trivial
  | close returns => exact iff_of_true (open_elsewhere (after_close_status _)) trivial
  | reconnect returns =>
      apply iff_of_true _ trivial
      unfold afterReconnect
      split
      · exact truth
      · split
        · exact open_elsewhere (after_close_status _)
        · exact open_connect (open_elsewhere (after_close_status _)) _ _ _
  | resumeOpen phase => exact iff_of_true truth trivial
  | resumeReconnecting phase => exact iff_of_true (open_connect_again truth _) trivial
  | resumeSend phase =>
      rcases flush_closing_eq options _ transport with ⟨queue, phase, handed, onSends, lazyCloses, flushed⟩
      rw [flushed]
      apply iff_of_true _ trivial
      exact truth.of_same id rfl rfl fun _ native known open_ _ => ⟨native, known, open_⟩
  | opened idle known awaited => exact open_opened truth fresh known awaited
  | openedLate idle known late => exact open_unanswered truth _
  | errored idle known awaited =>
      apply iff_of_true _ trivial
      apply open_connect_complete (open_touch truth _ (by intro _; rfl))
      exact fun opened => by cases opened
  | erroredLate idle known late => exact iff_of_true (open_touch truth _ (by intro _; rfl)) trivial
  | message socket idle => exact iff_of_true truth trivial
  | closed idle known listening =>
      rw [open_onclose truth known]
      exact ⟨fun met opened own _ => met opened own,
        fun met opened own => met opened own ⟨_, known, listening⟩⟩
  | closedUnheard idle known deaf =>
      apply iff_of_true (open_touch truth _ (by intro _; rfl))
      rintro - - ⟨native, same, listening⟩
      cases known.symm.trans same
      cases deaf.symm.trans listening
  | timeout idle known awaited =>
      apply iff_of_true _ trivial
      exact open_connect_complete truth (fun opened => by cases opened)
  | nextStart idle scheduled => exact iff_of_true (open_next_start truth _ _) trivial
  | lazyClose idle scheduled => exact iff_of_true (open_elsewhere (by simp)) trivial
  | reconnectTimer idle scheduled =>
      exact iff_of_true (open_connect (open_elsewhere (by simp)) _ _ _) trivial

/-- OPEN is true, and behind the end of the held socket `send` queues and `connect` begins an
attempt (unless one is going on or the transport is closing). -/
structure OpenTells (options : TransportOptions) (_ : Transport Server Data)
    (_ : Event Server Data) (next : Transport Server Data) : Prop where
  truth : OpenTrue next
  queues : ∀ socket native, next.socket = some socket → next.sockets[socket]? = some native →
    native.lost = true → ∀ data, (send options data next).log.handed = next.log.handed ∧
      ∃ older, (send options data next).queue = older ++ [data]
  connects : ∀ socket native, next.socket = some socket → next.sockets[socket]? = some native →
    native.lost = true → next.status ≠ .connecting → next.status ≠ .closing →
    ∀ server proxys, (connect (some server) proxys (some server) next).sockets =
      next.sockets ++ [newSocket next.rounds.length server]

theorem OpenTrue.lost {socket : Nat} {native : NativeSocket Server} (truth : OpenTrue transport)
    (held : transport.socket = some socket) (known : transport.sockets[socket]? = some native)
    (lost : native.lost = true) : transport.status ≠ .opened := by
  intro opened
  rcases truth opened with ⟨other, native', present, -, found, open_⟩
  cases held.symm.trans present
  cases known.symm.trans found
  cases lost.symm.trans open_

theorem OpenTrue.tells (truth : OpenTrue next) : OpenTells options transport event next where
  truth := truth
  queues socket native held known lost data := by
    rw [send, if_pos (truth.lost held known lost)]
    exact ⟨rfl, _, rfl⟩
  connects socket native held known lost notConnecting notClosing server proxys := by
    apply connect_sockets
    have notOpened := truth.lost held known lost
    simp [TransportStatus.busy, notOpened, notConnecting, notClosing]

/-- Exactly the runs in which the end of the held socket finds OPEN with `connectOnClose` only,
and no other socket opens while the status is OPEN. -/
theorem open_tells_iff (events : List (Event Server Data)) :
    Steps (step options) (OpenTells options) (newTransport Server Data) events ↔
      Steps (step options) (OpenKept options) (newTransport Server Data) events := by
  apply steps_iff fun transport => OpenTrue transport ∧ EachSocket Fresh transport
  · rintro transport event next ⟨truth, fresh⟩ taken
    constructor
    · exact fun tells => (step_open truth fresh taken).mp tells.truth
    · exact fun kept => ((step_open truth fresh taken).mpr kept).tells
  · rintro transport event next ⟨truth, fresh⟩ kept taken
    exact ⟨(step_open truth fresh taken).mpr kept, step_lives options fresh_law taken fresh⟩
  · exact ⟨open_elsewhere (by simp [newTransport]), by simp [EachSocket, newTransport]⟩

/-- A remote close without `connectOnClose`: the status stays OPEN. -/
theorem open_after_remote_close : ¬∀ (options : TransportOptions) (transport : Transport Nat Nat),
    Reachable (step options) (newTransport Nat Nat) transport → OpenTrue transport := by
  intro truth
  let events : List (Event Nat Nat) := [.call (.connect 1 []), .opened 0, .closed 0]
  rcases truth { onClose := true } _ ⟨events, rfl⟩ rfl with ⟨socket, native, held, -, known, open_⟩
  cases held
  cases known
  cases open_

end WebTransportGos.Helper.Transport
