import WebTransportGos.Helper.TransportSteps

/-!
A Transport over WebTransportWS: the read loops of a socket and its `closed` promise all call
`onclose`, each in its own time, and none of the calls takes it away.
-/

namespace WebTransportGos.Helper.Transport

open StepSystem

set_option autoImplicit false

variable {Server Data : Type*}

/-- `ended` has an entry for each read loop of a socket that has ended, `settled` the sockets
whose `closed` promise has. Those that found the transport OPEN with their `onclose` set are
the `heard` ones. -/
structure WsTransport (Server Data : Type*) where
  transport : Transport Server Data
  ended : List Nat
  settled : List Nat
  heard : List Nat

def newWsTransport (Server Data : Type*) : WsTransport Server Data :=
  ⟨newTransport Server Data, [], [], []⟩

inductive WsEvent (Server Data : Type*) where
  | transport (event : Event Server Data)
  | loopEnded (socket : Nat)
  | closedSettled (socket : Nat)

def WsEvent.calls : WsEvent Server Data → Option Nat
  | .transport _ => none
  | .loopEnded socket => some socket
  | .closedSettled socket => some socket

/-- The `onclose` of the socket is set, and the transport is OPEN. -/
def Hears (transport : Transport Server Data) (socket : Nat) : Bool :=
  transport.status = .opened ∧ transport.sockets[socket]?.any NativeSocket.listening

def raiseClose (options : TransportOptions) (socket : Nat) (state : WsTransport Server Data) :
    Option (WsTransport Server Data) :=
  (step options state.transport (.closed socket)).map fun next =>
    { state with
      transport := next
      heard := state.heard ++ if Hears state.transport socket then [socket] else [] }

/-- WebTransportWS calls `onclose` as below, and `onerror` never. -/
def wsStep (options : TransportOptions) (streamCount : Nat) (state : WsTransport Server Data) :
    WsEvent Server Data → Option (WsTransport Server Data)
  | .transport (.closed _) => none
  | .transport (.errored _) => none
  | .transport event => (step options state.transport event).map fun next =>
      { state with transport := next }
  | .loopEnded socket =>
      if state.ended.count socket < streamCount then
        raiseClose options socket { state with ended := state.ended ++ [socket] }
      else none
  | .closedSettled socket =>
      if socket ∈ state.settled then none
      else raiseClose options socket { state with settled := state.settled ++ [socket] }

variable {options : TransportOptions}

section Answer

variable {transport next : Transport Server Data} {socket : Nat}

theorem hears_iff {native : NativeSocket Server} (known : transport.sockets[socket]? = some native) :
    Hears transport socket = true ↔ transport.status = .opened ∧ native.listening = true := by
  rw [Hears, decide_eq_true_iff, known, Option.any_some]

theorem hears_known (hears : Hears transport socket = true) : transport.status = .opened ∧
    ∃ native, transport.sockets[socket]? = some native ∧ native.listening = true := by
  rw [Hears, decide_eq_true_iff, Option.any_eq_true_iff_get] at hears
  rcases hears with ⟨opened, present, listening⟩
  exact ⟨opened, _, (Option.some_get present).symm, listening⟩

/-- Not heard, the end of a socket changes nothing but the socket. -/
theorem closed_unheard (deaf : Hears transport socket = false)
    (taken : step options transport (.closed socket) = some next) :
    Keeps transport next ∧ next.status = transport.status ∧ next.socket = transport.socket := by
  cases step_moves taken with
  | closed idle known listening =>
      have elsewhere : transport.status ≠ .opened := by
        intro opened
        have hears := (hears_iff known).mpr ⟨opened, listening⟩
        cases deaf.symm.trans hears
      rw [onclose, touch_status, if_neg elsewhere]
      exact ⟨⟨grown_modify rfl later_lost, rfl, rfl⟩, rfl, rfl⟩
  | closedUnheard idle known listening =>
      exact ⟨⟨grown_modify rfl later_ended, rfl, rfl⟩, rfl, rfl⟩

/-- With `connectOnClose` the transport leaves OPEN to connect again. -/
theorem closed_reconnects (hears : Hears transport socket = true)
    (again : options.connectOnClose = true)
    (taken : step options transport (.closed socket) = some next) :
    next.status ≠ .opened ∧ next.log.onCloses = transport.log.onCloses ∧
      next.log.reconnects = transport.log.reconnects ++ [socket] := by
  cases step_moves taken with
  | closed idle known listening =>
      have opened := ((hears_iff known).mp hears).1
      rw [onclose, touch_status, if_pos opened, if_pos again]
      dsimp only
      split
      · exact ⟨by simp, rfl, rfl⟩
      · have kept := connect_again_keeps options socket
          { transport.touch socket fun native => { native with ended := true, lost := true } with
            status := .none
            log := { transport.log with reconnects := transport.log.reconnects ++ [socket] } }
        refine ⟨?_, kept.onCloses, kept.reconnects⟩
        intro stays
        cases (connect_again_stays options socket _).opened stays
  | closedUnheard idle known deaf =>
      have listening := ((hears_iff known).mp hears).2
      cases deaf.symm.trans listening

/-- Without it `onClose` is called, if it is set, and the transport stays OPEN. -/
theorem closed_tells (hears : Hears transport socket = true)
    (never : options.connectOnClose = false)
    (taken : step options transport (.closed socket) = some next) :
    next.status = transport.status ∧ next.socket = transport.socket ∧
      next.log.reconnects = transport.log.reconnects ∧
      next.log.onCloses = transport.log.onCloses ++ if options.onClose then [socket] else [] := by
  cases step_moves taken with
  | closed idle known listening =>
      have opened := ((hears_iff known).mp hears).1
      rw [onclose, touch_status, if_pos opened, never, if_neg Bool.false_ne_true]
      exact ⟨rfl, rfl, rfl, rfl⟩
  | closedUnheard idle known deaf =>
      have listening := ((hears_iff known).mp hears).2
      cases deaf.symm.trans listening

end Answer

/-- No socket has been answered twice, and the end of a socket that is not held (it has been
replaced by a later one) changes no status and starts no reconnect. -/
structure LostOnce (state : WsTransport Server Data) (event : WsEvent Server Data)
    (next : WsTransport Server Data) : Prop where
  reconnects : ∀ socket, next.transport.log.reconnects.count socket ≤ 1
  onCloses : ∀ socket, next.transport.log.onCloses.count socket ≤ 1
  later : ∀ socket, event.calls = some socket → state.transport.socket ≠ some socket →
    next.transport.status = state.transport.status ∧
      next.transport.log.reconnects = state.transport.log.reconnects

/-- With `connectOnClose` an end that is heard is that of the held socket; with `onClose` only it
is the first one of its socket that is heard. -/
def HeardOnce (options : TransportOptions) (state : WsTransport Server Data)
    (event : WsEvent Server Data) (_ : WsTransport Server Data) : Prop :=
  ∀ socket, event.calls = some socket → Hears state.transport socket = true →
    (options.connectOnClose = true → state.transport.socket = some socket) ∧
      (options.connectOnClose = false → options.onClose = true → socket ∉ state.heard)

/-- A socket whose end was answered by a reconnect is not awaited, and not the one that is OPEN. -/
def Gone (transport : Transport Server Data) (socket : Nat) : Prop :=
  (∃ native, transport.sockets[socket]? = some native ∧ native.awaited = false) ∧
    (transport.status = .opened → transport.socket ≠ some socket)

structure LossKept (options : TransportOptions) (state : WsTransport Server Data) : Prop where
  reconnects : ∀ socket, state.transport.log.reconnects.count socket ≤ 1
  onCloses : ∀ socket, state.transport.log.onCloses.count socket ≤ 1
  gone : ∀ socket ∈ state.transport.log.reconnects, Gone state.transport socket
  fresh : EachSocket Fresh state.transport
  heard : options.connectOnClose = false → options.onClose = true →
    state.transport.log.onCloses = state.heard

section Loss

variable {state next : WsTransport Server Data} {streamCount : Nat}

theorem ws_step_moves {event : WsEvent Server Data}
    (taken : wsStep options streamCount state event = some next) :
    (∃ other, event = .transport other ∧ (∀ socket, other ≠ .closed socket) ∧
      step options state.transport other = some next.transport ∧ next.heard = state.heard) ∨
    ∃ socket, event.calls = some socket ∧
      step options state.transport (.closed socket) = some next.transport ∧
      next.heard = state.heard ++ if Hears state.transport socket then [socket] else [] := by
  cases event with
  | transport other =>
      apply Or.inl
      cases other with
      | closed socket => cases taken
      | errored socket => cases taken
      | _ =>
          rcases Option.map_eq_some_iff.mp taken with ⟨after, moved, rfl⟩
          exact ⟨_, rfl, by simp, moved, rfl⟩
  | loopEnded socket =>
      apply Or.inr
      rw [wsStep] at taken
      split at taken
      · rcases Option.map_eq_some_iff.mp taken with ⟨after, moved, rfl⟩
        exact ⟨socket, rfl, moved, rfl⟩
      · cases taken
  | closedSettled socket =>
      apply Or.inr
      rw [wsStep] at taken
      split at taken
      · cases taken
      · rcases Option.map_eq_some_iff.mp taken with ⟨after, moved, rfl⟩
        exact ⟨socket, rfl, moved, rfl⟩

theorem Gone.later {transport next : Transport Server Data} {socket : Nat}
    (gone : Gone transport socket) (grown : Grown transport next)
    (other : next.status = .opened → next.socket ≠ some socket) : Gone next socket := by
  rcases gone.1 with ⟨native, known, done⟩
  rcases grown socket native known with ⟨after, still, later⟩
  exact ⟨⟨after, still, later.awaited done⟩, other⟩

/-- A socket that is gone does not come back: OPEN stays with its socket, or begins with one that
was awaited. -/
theorem Gone.stays {state next : Transport Server Data} {socket : Nat}
    {event : Event Server Data} (gone : Gone state socket)
    (taken : step options state event = some next) : Gone next socket := by
  apply gone.later (step_grown options taken)
  intro opened held
  rcases step_stays options taken with stays | ⟨own, native, rfl, known, awaited, connecting, rfl⟩
  · rcases stays.same_open opened with ⟨before, same⟩
    exact gone.2 before (same.symm.trans held)
  · rcases gone.1 with ⟨late, present, done⟩
    have opening : (noteOpened own state).status = .connecting := connecting
    rw [connect_complete_opens options native opening, established_socket] at held
    cases held
    cases known.symm.trans present
    cases done.symm.trans awaited

theorem loss_elsewhere (kept : LossKept options state) {event : Event Server Data}
    (other : ∀ socket, event ≠ .closed socket)
    (taken : step options state.transport event = some next.transport)
    (heard : next.heard = state.heard) : LossKept options next := by
  have keeps := step_keeps options taken other
  refine ⟨?_, ?_, ?_, step_lives options fresh_law taken kept.fresh, ?_⟩
  · rw [keeps.reconnects]
    exact kept.reconnects
  · rw [keeps.onCloses]
    exact kept.onCloses
  · rw [keeps.reconnects]
    exact fun socket lost => (kept.gone socket lost).stays taken
  · rw [keeps.onCloses, heard]
    exact kept.heard

theorem count_one_more {items : List Nat} {item : Nat} (once : ∀ other, items.count other ≤ 1)
    (absent : item ∉ items) : ∀ other, (items ++ [item]).count other ≤ 1 := by
  intro other
  rw [List.count_append]
  by_cases same : item = other
  · subst same
    have none := List.count_eq_zero.mpr absent
    have single : [item].count item = 1 := List.count_singleton_self
    omega
  · rw [List.count_singleton, if_neg (by simpa using same)]
    exact once other

theorem loss_unheard (kept : LossKept options state) {socket : Nat}
    (taken : step options state.transport (.closed socket) = some next.transport)
    (deaf : Hears state.transport socket = false) (heard : next.heard = state.heard) :
    LossKept options next := by
  rcases closed_unheard deaf taken with ⟨keeps, -, -⟩
  refine ⟨?_, ?_, ?_, step_lives options fresh_law taken kept.fresh, ?_⟩
  · rw [keeps.reconnects]
    exact kept.reconnects
  · rw [keeps.onCloses]
    exact kept.onCloses
  · rw [keeps.reconnects]
    exact fun other lost => (kept.gone other lost).stays taken
  · rw [keeps.onCloses, heard]
    exact kept.heard

theorem loss_reconnects (kept : LossKept options state) {socket : Nat}
    (taken : step options state.transport (.closed socket) = some next.transport)
    (hears : Hears state.transport socket = true) (again : options.connectOnClose = true)
    (held : state.transport.socket = some socket) : LossKept options next := by
  rcases hears_known hears with ⟨opened, native, known, listening⟩
  rcases closed_reconnects hears again taken with ⟨status, onCloses, reconnects⟩
  have completed : native.awaited = false := by
    by_contra awaited
    rw [Bool.not_eq_false] at awaited
    have deaf := (kept.fresh native (List.mem_of_getElem? known) awaited).1
    cases deaf.symm.trans listening
  refine ⟨?_, ?_, ?_, step_lives options fresh_law taken kept.fresh, ?_⟩
  · rw [reconnects]
    apply count_one_more kept.reconnects
    exact fun lost => (kept.gone socket lost).2 opened held
  · rw [onCloses]
    exact kept.onCloses
  · intro other lost
    rw [reconnects, List.mem_append, List.mem_singleton] at lost
    rcases lost with before | rfl
    · exact (kept.gone other before).stays taken
    · rcases step_grown options taken other native known with ⟨after, still, later⟩
      exact ⟨⟨after, still, later.awaited completed⟩, fun stays => absurd stays status⟩
  · intro never
    cases again.symm.trans never

theorem loss_tells (kept : LossKept options state) {socket : Nat}
    (taken : step options state.transport (.closed socket) = some next.transport)
    (hears : Hears state.transport socket = true) (never : options.connectOnClose = false)
    (heard : next.heard = state.heard ++ [socket])
    (first : options.onClose = true → socket ∉ state.heard) : LossKept options next := by
  rcases closed_tells hears never taken with ⟨-, -, reconnects, onCloses⟩
  refine ⟨?_, ?_, ?_, step_lives options fresh_law taken kept.fresh, ?_⟩
  · rw [reconnects]
    exact kept.reconnects
  · rw [onCloses]
    cases told : options.onClose with
    | true =>
        rw [if_pos rfl]
        apply count_one_more kept.onCloses
        rw [kept.heard never told]
        exact first told
    | false =>
        rw [if_neg Bool.false_ne_true, List.append_nil]
        exact kept.onCloses
  · rw [reconnects]
    exact fun other lost => (kept.gone other lost).stays taken
  · intro _ told
    rw [onCloses, told, if_pos rfl, heard, kept.heard never told]

theorem step_loss (kept : LossKept options state) {event : WsEvent Server Data}
    (condition : HeardOnce options state event next)
    (taken : wsStep options streamCount state event = some next) : LossKept options next := by
  rcases ws_step_moves taken with ⟨other, -, elsewhere, moved, heard⟩ | ⟨socket, calls, moved, heard⟩
  · exact loss_elsewhere kept elsewhere moved heard
  · cases hears : Hears state.transport socket with
    | false =>
        rw [hears, if_neg Bool.false_ne_true, List.append_nil] at heard
        exact loss_unheard kept moved hears heard
    | true =>
        rw [hears, if_pos rfl] at heard
        rcases condition socket calls hears with ⟨held, first⟩
        cases again : options.connectOnClose with
        | true => exact loss_reconnects kept moved hears again (held again)
        | false => exact loss_tells kept moved hears again heard (first again)

/-- The law of a step is its condition. -/
theorem lost_once_iff (kept : LossKept options state) {event : WsEvent Server Data}
    (taken : wsStep options streamCount state event = some next) :
    LostOnce state event next ↔ HeardOnce options state event next := by
  constructor
  · intro once
    rcases ws_step_moves taken with ⟨other, rfl, -⟩ | ⟨socket, calls, moved, -⟩
    · intro socket calls
      cases calls
    · intro other same hears
      cases calls.symm.trans same
      constructor
      · intro again
        by_contra elsewhere
        have status := (once.later socket calls elsewhere).1
        have opened := (hears_known hears).1
        exact (closed_reconnects hears again moved).1 (status.trans opened)
      · intro never told member
        have bound := once.onCloses socket
        rw [(closed_tells hears never moved).2.2.2, told, if_pos rfl, kept.heard never told,
          List.count_append, List.count_singleton_self] at bound
        have before := List.count_pos_iff.mpr member
        omega
  · intro condition
    have later := step_loss kept condition taken
    refine ⟨later.reconnects, later.onCloses, ?_⟩
    intro socket calls elsewhere
    rcases ws_step_moves taken with ⟨other, rfl, -⟩ | ⟨own, same, moved, -⟩
    · cases calls
    · cases calls.symm.trans same
      cases hears : Hears state.transport socket with
      | false =>
          rcases closed_unheard hears moved with ⟨keeps, status, -⟩
          exact ⟨status, keeps.reconnects⟩
      | true =>
          cases again : options.connectOnClose with
          | true => exact absurd ((condition socket calls hears).1 again) elsewhere
          | false =>
              rcases closed_tells hears again moved with ⟨status, -, reconnects, -⟩
              exact ⟨status, reconnects⟩

/-- Exactly the runs in which only the held socket's end is heard with `connectOnClose`, and with
`onClose` alone no socket's end is heard twice. -/
theorem one_loss_iff (streamCount : Nat) (events : List (WsEvent Server Data)) :
    Steps (wsStep options streamCount) LostOnce (newWsTransport Server Data) events ↔
      Steps (wsStep options streamCount) (HeardOnce options) (newWsTransport Server Data) events := by
  apply steps_iff (LossKept options)
  · exact fun state event next kept taken => lost_once_iff kept taken
  · exact fun state event next kept condition taken => step_loss kept condition taken
  · refine ⟨?_, ?_, ?_, ?_, fun _ _ => rfl⟩
    · simp [newWsTransport, newTransport]
    · simp [newWsTransport, newTransport]
    · simp [newWsTransport, newTransport]
    · simp [EachSocket, newWsTransport, newTransport]

end Loss

/-- A read loop ends and `closed` settles: the second call finds the replacement OPEN, or calls
`onClose` again. -/
theorem one_loss_twice :
    (¬∀ (options : TransportOptions) (streamCount : Nat) (state : WsTransport Nat Nat),
      Reachable (wsStep options streamCount) (newWsTransport Nat Nat) state →
      ∀ socket, state.transport.log.reconnects.count socket ≤ 1) ∧
    ¬∀ (options : TransportOptions) (streamCount : Nat) (state : WsTransport Nat Nat),
      Reachable (wsStep options streamCount) (newWsTransport Nat Nat) state →
      ∀ socket, state.transport.log.onCloses.count socket ≤ 1 := by
  constructor
  · intro once
    let events : List (WsEvent Nat Nat) := [.transport (.call (.connect 1 [])),
      .transport (.opened 0), .loopEnded 0, .transport (.opened 1), .closedSettled 0]
    have twice := once { connectOnClose := true, clears := true } 1 _ ⟨events, rfl⟩ 0
    exact absurd twice (by decide)
  · intro once
    let events : List (WsEvent Nat Nat) := [.transport (.call (.connect 1 [])),
      .transport (.opened 0), .loopEnded 0, .closedSettled 0]
    have twice := once { onClose := true, clears := true } 1 _ ⟨events, rfl⟩ 0
    exact absurd twice (by decide)

end WebTransportGos.Helper.Transport
