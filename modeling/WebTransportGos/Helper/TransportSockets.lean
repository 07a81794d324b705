import Mathlib.Data.List.NodupEquivFin
import WebTransportGos.Helper.TransportAttempts

/-!
Who owns a native socket of a Transport that may be open: the transport that holds it, or the
call of `connect` that awaits it, and no other.
-/

namespace WebTransportGos.Helper.Transport

open StepSystem

set_option autoImplicit false

variable {Server Data : Type*} {options : TransportOptions}
  {transport next : Transport Server Data} {event : Event Server Data}

/-- `close` has not been called, and the socket has reported no error or close. -/
def MayOpen (native : NativeSocket Server) : Prop :=
  native.closed = false ∧ native.ended = false

/-- The socket is held, or awaited by the last call of `connect` that has begun. -/
def Owns (transport : Transport Server Data) (socket : Nat) (native : NativeSocket Server) : Prop :=
  transport.socket = some socket ∨
    native.awaited = true ∧ native.round + 1 = transport.rounds.length

def Owned (transport : Transport Server Data) : Prop :=
  ∀ (socket : Nat) (native : NativeSocket Server), transport.sockets[socket]? = some native →
    MayOpen native → Owns transport socket native

/-- Each socket that may be open is owned, and one attempt at most is awaited by the current
call. -/
structure OneConnection (transport : Transport Server Data) : Prop where
  owned : Owned transport
  awaits : ∀ (socket other : Nat) (native awaiting : NativeSocket Server),
    transport.sockets[socket]? = some native → transport.sockets[other]? = some awaiting →
    native.awaited = true → awaiting.awaited = true →
    native.round + 1 = transport.rounds.length → awaiting.round + 1 = transport.rounds.length →
    socket = other

def OnlyHeld (transport : Transport Server Data) (excused : Nat → Prop) : Prop :=
  ∀ (socket : Nat) (native : NativeSocket Server), transport.sockets[socket]? = some native →
    MayOpen native → transport.socket = some socket ∨ excused socket

theorem Attempted.one_connection (attempted : Attempted transport) (owned : Owned transport) :
    OneConnection transport := by
  refine ⟨owned, ?_⟩
  intro socket other native awaiting known found awaited waits current last
  have stands (index : Nat) (entry : NativeSocket Server)
      (present : transport.sockets[index]? = some entry) (waiting : entry.awaited = true)
      (round : entry.round + 1 = transport.rounds.length) :
      ∃ inside : index < transport.standing.length,
        transport.standing[index] = (true, native.round) := by
    rcases List.getElem?_eq_some_iff.mp present with ⟨bound, here⟩
    have inside : index < transport.standing.length := by
      rw [standing, List.length_map]
      exact bound
    refine ⟨inside, ?_⟩
    simp only [standing, List.getElem_map, here, waiting, Prod.mk.injEq, true_and]
    omega
  rcases stands socket native known awaited current with ⟨first, firstStands⟩
  rcases stands other awaiting found waits last with ⟨second, secondStands⟩
  have single := attempted.single native.round
  rw [pending] at single
  by_contra different
  have twice : 2 ≤ transport.standing.count (true, native.round) := by
    apply List.replicate_sublist_iff.mp
    apply List.duplicate_iff_sublist.mp
    apply List.duplicate_iff_exists_distinct_get.mpr
    rcases Nat.lt_or_gt_of_ne different with before | after
    · exact ⟨⟨socket, first⟩, ⟨other, second⟩, before, firstStands.symm, secondStands.symm⟩
    · exact ⟨⟨other, second⟩, ⟨socket, first⟩, after, secondStands.symm, firstStands.symm⟩
  omega

theorem Owned.of_same (owned : Owned transport) (sockets : next.sockets = transport.sockets)
    (held : next.socket = transport.socket)
    (rounds : next.rounds.length = transport.rounds.length) : Owned next := by
  intro socket native known open_
  rw [sockets] at known
  rw [Owns, held, rounds]
  exact owned socket native known open_

theorem owned_dead (owned : Owned transport) (socket : Nat)
    {change : NativeSocket Server → NativeSocket Server}
    (dead : ∀ native, ¬MayOpen (change native)) : Owned (transport.touch socket change) := by
  intro other native known open_
  by_cases same : socket = other
  · subst same
    rw [touch_get, Option.map_eq_some_iff] at known
    rcases known with ⟨before, -, rfl⟩
    rw [if_pos rfl] at open_
    exact absurd open_ (dead before)
  · rw [touch_other same] at known
    exact owned other native known open_

theorem owned_close (owned : Owned transport) (socket : Nat) :
    Owned (transport.touch socket fun native => { native with closed := true }) := by
  apply owned_dead owned
  intro native open_
  cases open_.1

theorem owned_end (owned : Owned transport) (socket : Nat) :
    Owned (transport.touch socket fun native => { native with ended := true }) := by
  apply owned_dead owned
  intro native open_
  cases open_.2

/-- The end of an attempt that is not held leaves its socket without an owner. -/
theorem owned_completed (owned : Owned transport) (complete : HeldComplete transport)
    {socket : Nat} {native : NativeSocket Server}
    (known : transport.sockets[socket]? = some native) (awaited : native.awaited = true) :
    Owned (transport.touch socket fun native => { native with awaited := false }) ↔
      ¬MayOpen native := by
  constructor
  · intro after open_
    rcases after socket _ (touch_self known) open_ with held | ⟨still, -⟩
    · rcases complete socket held with ⟨other, same, done⟩
      cases known.symm.trans same
      cases done.symm.trans awaited
    · cases still
  · intro dead other after found open_
    by_cases same : socket = other
    · subst same
      cases (touch_self known).symm.trans found
      exact absurd open_ dead
    · rw [touch_other same] at found
      exact owned other after found open_

/-- An attempt that is begun is owned if its call is the current one. -/
theorem owned_more (complete : HeldComplete transport) {round : Nat} {server : Option Server}
    (sockets : next.sockets = transport.sockets ++ (server.map (newSocket round)).toList)
    (held : next.socket = transport.socket)
    (rounds : next.rounds.length = transport.rounds.length) :
    Owned next ↔ Owned transport ∧ (server ≠ none → round + 1 = transport.rounds.length) := by
  constructor
  · intro after
    constructor
    · intro socket native known open_
      have still : next.sockets[socket]? = some native := by
        rw [sockets, List.getElem?_append_left (List.getElem?_eq_some_iff.mp known).1]
        exact known
      have own := after socket native still open_
      rwa [Owns, held, rounds] at own
    · intro given
      rcases Option.ne_none_iff_exists'.mp given with ⟨named, present⟩
      have new : next.sockets[transport.sockets.length]? = some (newSocket round named) := by
        rw [sockets, present, Option.map_some, Option.toList_some, List.getElem?_concat_length]
      rcases after _ _ new ⟨rfl, rfl⟩ with own | ⟨-, current⟩
      · rcases complete _ (held.symm.trans own) with ⟨native, known, -⟩
        exact absurd (List.getElem?_eq_some_iff.mp known).1 (Nat.lt_irrefl _)
      · rw [← rounds]
        exact current
  · rintro ⟨owned, current⟩ socket native known open_
    rw [sockets] at known
    rw [Owns, held, rounds]
    by_cases inside : socket < transport.sockets.length
    · rw [List.getElem?_append_left inside] at known
      exact owned socket native known open_
    · rw [List.getElem?_append_right (Nat.le_of_not_lt inside)] at known
      have new := List.mem_of_getElem? known
      rw [Option.mem_toList, Option.map_eq_some_iff] at new
      rcases new with ⟨named, present, rfl⟩
      exact .inr ⟨rfl, current (by simp [present])⟩

def following (options : TransportOptions) (transport : Transport Server Data) (round : Nat) :
    Option Server :=
  if 0 < options.interval then none
  else transport.rounds[round]?.bind fun closure =>
    if closure.serverIndex = closure.servers.length then
      if 0 < options.retryCount ∧ transport.retryIndex < options.retryCount - 1 then closure.server
      else none
    else nextServer transport round

theorem attempt_failed_sockets (round : Nat) (server : Server) (status : TransportStatus)
    (connecting : transport.status = .connecting) :
    (attemptFailed options round server status transport).sockets = transport.sockets ++
      ((following options transport round).map (newSocket round)).toList := by
  unfold attemptFailed following
  cases began : transport.rounds[round]? with
  | none => simp
  | some closure =>
      dsimp only [Option.bind_some]
      split
      · split
        next retries =>
          have again := @next_end_sockets Server Data options { transport with
            retryIndex := transport.retryIndex + 1
            rounds := transport.rounds.modify round fun closure =>
              { closure with serverIndex := 0 } } round connecting
          have first : (transport.rounds.modify round fun closure =>
              { closure with serverIndex := 0 })[round]? = some { closure with serverIndex := 0 } := by
            rw [List.getElem?_modify_eq, began]
            rfl
          rw [nextServer, first] at again
          exact again
        · simp
      · exact next_end_sockets round connecting

theorem owned_connect_free (attempted : Attempted transport)
    (free : transport.status.busy = false)
    (server : Option Server) (proxys : List Server) (preferred : Option Server) :
    Owned (connect server proxys preferred transport) ↔
      OnlyHeld transport fun _ => False := by
  have sockets : (connect server proxys preferred transport).sockets = transport.sockets ++
      ((nextServer (calling server proxys preferred transport) transport.rounds.length).map
        (newSocket transport.rounds.length)).toList := by
    rw [connect_free server proxys preferred free]
    exact next_start_sockets _ rfl
  have held := (connect_attempting server proxys preferred transport).socket
  have rounds : (connect server proxys preferred transport).rounds.length =
      transport.rounds.length + 1 := by
    rw [connect_free server proxys preferred free]
    exact (next_start_begun _ _).same_rounds.trans (calling_rounds server proxys preferred transport)
  constructor
  · intro after socket native known open_
    have still : (connect server proxys preferred transport).sockets[socket]? = some native := by
      rw [sockets, List.getElem?_append_left (List.getElem?_eq_some_iff.mp known).1]
      exact known
    rcases after socket native still open_ with own | ⟨-, current⟩
    · exact .inl (held.symm.trans own)
    · have before := attempted.inside known
      rw [rounds] at current
      exact absurd (Nat.succ.inj current) (Nat.ne_of_lt before)
  · intro only socket native known open_
    rw [sockets] at known
    by_cases inside : socket < transport.sockets.length
    · rw [List.getElem?_append_left inside] at known
      rcases only socket native known open_ with own | excused
      · exact .inl (held.trans own)
      · exact excused.elim
    · rw [List.getElem?_append_right (Nat.le_of_not_lt inside)] at known
      have new := List.mem_of_getElem? known
      rw [Option.mem_toList, Option.map_eq_some_iff] at new
      rcases new with ⟨given, -, rfl⟩
      exact .inr ⟨rfl, rounds.symm⟩

theorem owned_connect (owned : Owned transport) (attempted : Attempted transport)
    (server : Option Server) (proxys : List Server) (preferred : Option Server) :
    Owned (connect server proxys preferred transport) ↔
      (transport.status.busy = false → OnlyHeld transport fun _ => False) := by
  cases free : transport.status.busy with
  | true =>
      rw [connect_busy server proxys preferred free]
      exact iff_of_true (owned.of_same rfl rfl rfl) (fun idle => by cases idle)
  | false =>
      rw [owned_connect_free attempted free]
      exact ⟨fun only _ => only, fun only => only rfl⟩

theorem only_held_dead (socket : Nat) {change : NativeSocket Server → NativeSocket Server}
    (dead : ∀ native, ¬MayOpen (change native)) (excused : Nat → Prop) :
    OnlyHeld (transport.touch socket change) excused ↔
      OnlyHeld transport fun other => excused other ∨ other = socket := by
  constructor
  · intro only other native known open_
    by_cases same : other = socket
    · exact .inr (.inr same)
    · rw [← touch_other (Ne.symm same)] at known
      exact (only other native known open_).imp id .inl
  · intro only other native known open_
    by_cases same : socket = other
    · subst same
      rw [touch_get, Option.map_eq_some_iff] at known
      rcases known with ⟨before, -, rfl⟩
      rw [if_pos rfl] at open_
      exact absurd open_ (dead before)
    · rw [touch_other same] at known
      rcases only other native known open_ with held | known | own
      · exact .inl held
      · exact .inr known
      · exact absurd own.symm same

theorem OnlyHeld.congr {excused allowed : Nat → Prop} (same : ∀ socket, excused socket ↔ allowed socket) :
    OnlyHeld transport excused ↔ OnlyHeld transport allowed := by
  constructor
  · exact fun only socket native known open_ => (only socket native known open_).imp id (same socket).mp
  · exact fun only socket native known open_ => (only socket native known open_).imp id (same socket).mpr

/-- Behind the end of a socket, which is cleared if it can be, a new call owns none before it. -/
theorem owned_connect_again (owned : Owned transport) (attempted : Attempted transport)
    {socket : Nat} {native : NativeSocket Server}
    (known : transport.sockets[socket]? = some native) :
    Owned (connectAgain options socket transport) ↔ (transport.status.busy = false →
      OnlyHeld transport fun other => options.clears = true ∧ other = socket) := by
  have began := List.getElem?_eq_getElem (attempted.inside known)
  rw [connectAgain, known]
  dsimp only
  rw [began]
  dsimp only
  cases clears : options.clears with
  | true =>
      have closed := owned_close owned socket
      have still : Attempted (transport.touch socket fun native =>
          { native with closed := true }) :=
        attempted.of_same (standing_touch socket (by intro _; rfl) (by intro _; rfl)) rfl
          (List.Sublist.refl _)
      rw [if_pos rfl, owned_connect]
      · apply imp_congr Iff.rfl
        refine (only_held_dead socket (fun native open_ => by cases open_.1) _).trans ?_
        exact OnlyHeld.congr (by simp)
      · exact closed.of_same rfl rfl rfl
      · exact still.of_same rfl rfl (List.Sublist.refl _)
  | false =>
      rw [if_neg Bool.false_ne_true, owned_connect]
      · simp only [Bool.false_eq_true, false_and]
        exact Iff.rfl
      · exact owned.of_same rfl rfl rfl
      · exact attempted.of_same rfl rfl (List.Sublist.refl _)

/-- What an attempt finds when it ends. If the socket opens, the one held before is gone; if it
does not, it will not, and no call but the current one goes on. While the transport is closing
the socket is closed, if it is not flushed; later it is left alone. -/
structure CompletionKept (options : TransportOptions) (transport : Transport Server Data)
    (native : NativeSocket Server) (result : TransportStatus) : Prop where
  opens : transport.status = .connecting → result = .opened → ∀ held other,
    transport.socket = some held → transport.sockets[held]? = some other → ¬MayOpen other
  fails : transport.status = .connecting → result ≠ .opened → ¬MayOpen native ∧
    (following options transport native.round ≠ none → native.round + 1 = transport.rounds.length)
  flushes : transport.status = .closing → result = .opened → options.refreshQueueOnClose = true →
    transport.queue ≠ [] → ¬MayOpen native
  ignored : transport.status ≠ .connecting → transport.status ≠ .closing → ¬MayOpen native

section Completion

variable {socket : Nat} {native : NativeSocket Server} {result : TransportStatus}

theorem owned_established (owned : Owned transport) (complete : HeldComplete transport)
    (known : transport.sockets[socket]? = some native) (awaited : native.awaited = true) :
    Owned (established options socket (transport.touch socket fun native =>
      { native with awaited := false })) ↔
      ∀ held other, transport.socket = some held → transport.sockets[held]? = some other →
        ¬MayOpen other := by
  have elsewhere (other : Nat) (different : socket ≠ other) :
      (established options socket (transport.touch socket fun native =>
        { native with awaited := false })).sockets[other]? = transport.sockets[other]? :=
    (established_other options different _).trans (touch_other different)
  constructor
  · intro after held other before found open_
    rcases complete held before with ⟨same, present, done⟩
    cases found.symm.trans present
    have different : socket ≠ held := by
      rintro rfl
      cases known.symm.trans found
      cases done.symm.trans awaited
    rcases after held other ((elsewhere held different).trans found) open_ with own | ⟨waits, -⟩
    · rw [established_socket] at own
      exact different (Option.some.inj own)
    · cases done.symm.trans waits
  · intro dead other after found open_
    rw [Owns, established_socket, established_rounds]
    by_cases same : socket = other
    · exact .inl (congrArg some same)
    · have before := (elsewhere other same).symm.trans found
      rcases owned other after before open_ with held | waits
      · exact absurd open_ (dead other after held before)
      · exact .inr waits

theorem held_touch (complete : HeldComplete transport) (socket : Nat)
    {change : NativeSocket Server → NativeSocket Server}
    (late : ∀ native, native.awaited = false → (change native).awaited = false) :
    HeldComplete (transport.touch socket change) := by
  intro held own
  rcases complete held own with ⟨native, known, done⟩
  by_cases same : socket = held
  · subst same
    exact ⟨_, touch_self known, late native done⟩
  · exact ⟨native, (touch_other same).trans known, done⟩

theorem owned_failed (owned : Owned transport) (complete : HeldComplete transport)
    (known : transport.sockets[socket]? = some native) (awaited : native.awaited = true)
    (connecting : transport.status = .connecting) :
    Owned (attemptFailed options native.round native.server result
      (transport.touch socket fun native => { native with awaited := false })) ↔
      ¬MayOpen native ∧ (following options transport native.round ≠ none →
        native.round + 1 = transport.rounds.length) := by
  have rounds := (@attempt_failed_begun Server Data options native.round native.server result
    (transport.touch socket fun native => { native with awaited := false })).same_rounds
  refine (owned_more (held_touch complete socket fun _ _ => rfl)
    (attempt_failed_sockets native.round native.server result connecting)
    (attempt_failed_socket _ _ _ _ _) rounds).trans ?_
  exact and_congr (owned_completed owned complete known awaited) Iff.rfl

theorem owned_complete (owned : Owned transport) (complete : HeldComplete transport)
    (known : transport.sockets[socket]? = some native) (awaited : native.awaited = true) :
    Owned (connectComplete options socket native result transport) ↔
      CompletionKept options transport native result := by
  have completed := owned_completed owned complete known awaited
  by_cases connecting : transport.status = .connecting
  · by_cases opened : result = .opened
    · subst opened
      rw [connect_complete_opens options native connecting]
      refine (owned_established owned complete known awaited).trans ?_
      constructor
      · exact fun dead => ⟨fun _ _ => dead, fun _ failed => absurd rfl failed,
          fun closing => (by cases connecting.symm.trans closing),
          fun elsewhere => absurd connecting elsewhere⟩
      · exact fun kept => kept.opens connecting rfl
    · rw [connect_complete_fails options native connecting opened]
      refine (owned_failed owned complete known awaited connecting).trans ?_
      constructor
      · exact fun dead => ⟨fun _ same => absurd same opened, fun _ _ => dead,
          fun closing => (by cases connecting.symm.trans closing),
          fun elsewhere => absurd connecting elsewhere⟩
      · exact fun kept => kept.fails connecting opened
  · by_cases closing : transport.status = .closing
    · by_cases flushes : result = .opened ∧ options.refreshQueueOnClose = true ∧ transport.queue ≠ []
      · rw [connect_complete_flushes options native closing flushes]
        rcases flush_closing_eq options socket (transport.touch socket fun native =>
          { native with awaited := false }) with ⟨queue, phase, handed, onSends, lazyCloses, flushed⟩
        rw [flushed]
        refine completed.trans ?_
        constructor
        · exact fun dead => ⟨fun same => absurd same connecting, fun same => absurd same connecting,
            fun _ _ _ _ => dead, fun _ elsewhere => absurd closing elsewhere⟩
        · exact fun kept => kept.flushes closing flushes.1 flushes.2.1 flushes.2.2
      · rw [connect_complete_closes options native closing flushes]
        have dead := owned_dead owned socket
          (fun native : NativeSocket Server => (fun open_ => by cases open_.1 :
            ¬MayOpen { native with awaited := false, closed := true }))
        apply iff_of_true
        · refine dead.of_same ?_ rfl rfl
          exact List.modify_modify_eq _ _ _ _
        · exact ⟨fun same => absurd same connecting, fun same => absurd same connecting,
            fun _ opened refresh queued => absurd ⟨opened, refresh, queued⟩ flushes,
            fun _ elsewhere => absurd closing elsewhere⟩
    · rw [connect_complete_ignored options connecting closing]
      refine completed.trans ?_
      constructor
      · exact fun dead => ⟨fun same => absurd same connecting, fun same => absurd same connecting,
          fun same => absurd same closing, fun _ _ => dead⟩
      · exact fun kept => kept.ignored connecting closing

end Completion

def AnswersAtOnce (options : TransportOptions) (transport : Transport Server Data)
    (socket : Nat) : Prop :=
  transport.status = .opened ∧ options.connectOnClose = true ∧ options.onReconnecting = false ∧
    ∃ native, transport.sockets[socket]? = some native ∧ native.listening = true

/-- A call of `connect` that begins leaves no socket behind that may be open, the end of an
attempt is answered by its owner, and an attempt that is begun belongs to the current call. -/
def OneKept (options : TransportOptions) (transport : Transport Server Data)
    (event : Event Server Data) (_ : Transport Server Data) : Prop :=
  match event with
  | .call (.connect _ _) => transport.status.busy = false → OnlyHeld transport fun _ => False
  | .call .reconnect => transport.status ≠ .connecting → transport.socket ≠ none →
      OnlyHeld transport fun _ => False
  | .reconnect => OnlyHeld transport fun _ => False
  | .resume => ∀ socket, transport.phase = .onReconnecting socket →
      (∃ native, transport.sockets[socket]? = some native) → transport.status.busy = false →
      OnlyHeld transport fun other => options.clears = true ∧ other = socket
  | .closed socket => AnswersAtOnce options transport socket →
      OnlyHeld transport fun other => other = socket
  | .opened socket => ∀ native, transport.sockets[socket]? = some native → native.awaited = true →
      CompletionKept options transport native .opened
  | .errored socket => ∀ native, transport.sockets[socket]? = some native → native.awaited = true →
      CompletionKept options transport { native with ended := true } .error
  | .timeout socket => ∀ native, transport.sockets[socket]? = some native → native.awaited = true →
      CompletionKept options transport native .timeout
  | .nextStart round => transport.status = .connecting → nextServer transport round ≠ none →
      round + 1 = transport.rounds.length
  | _ => True

theorem owned_after_close (owned : Owned transport) : Owned (afterClose transport) := by
  rw [afterClose]
  cases held : transport.socket with
  | none => exact owned.of_same rfl held.symm rfl
  | some socket =>
      intro other native known open_
      have elsewhere : socket ≠ other := by
        rintro rfl
        rw [Option.elim_some, List.getElem?_modify_eq] at known
        rcases Option.map_eq_some_iff.mp known with ⟨before, -, rfl⟩
        cases open_.1
      rw [Option.elim_some, List.getElem?_modify_ne _ _ elsewhere] at known
      rcases owned other native known open_ with own | waits
      · cases held.symm.trans own
        exact absurd rfl elsewhere
      · exact .inr waits

theorem only_held_after_close (held : transport.socket ≠ none) :
    OnlyHeld (afterClose transport) (fun _ => False) ↔ OnlyHeld transport fun _ => False := by
  rcases Option.ne_none_iff_exists'.mp held with ⟨socket, own⟩
  have elsewhere (other : Nat) (different : socket ≠ other) :
      (afterClose transport).sockets[other]? = transport.sockets[other]? := by
    rw [afterClose, own]
    exact List.getElem?_modify_ne _ _ different
  constructor
  · intro only other native known open_
    by_cases same : socket = other
    · exact .inl (own.trans (congrArg some same))
    · rcases only other native ((elsewhere other same).trans known) open_ with none | never
      · cases none
      · exact never.elim
  · intro only other native known open_
    by_cases same : socket = other
    · subst same
      rw [afterClose, own, Option.elim_some, List.getElem?_modify_eq] at known
      rcases Option.map_eq_some_iff.mp known with ⟨before, -, rfl⟩
      cases open_.1
    · rcases only other native ((elsewhere other same).symm.trans known) open_ with still | never
      · cases own.symm.trans still
        exact absurd rfl same
      · exact never.elim

theorem owned_after_reconnect (owned : Owned transport) (attempted : Attempted transport) :
    Owned (afterReconnect transport) ↔ (transport.status ≠ .connecting →
      transport.socket ≠ none → OnlyHeld transport fun _ => False) := by
  unfold afterReconnect
  split
  next connecting => exact iff_of_true owned (fun elsewhere => absurd connecting elsewhere)
  next elsewhere =>
    split
    next free =>
      apply iff_of_true _ (fun _ held => absurd free held)
      exact (owned_after_close owned).of_same rfl rfl rfl
    next held =>
      rw [owned_connect (owned_after_close owned) (after_close_attempted attempted),
        only_held_after_close held]
      have closed : (afterClose transport).status.busy = false := by
        rw [afterClose, Option.isSome_iff_ne_none.mpr held]
        rfl
      exact ⟨fun only _ _ => only closed, fun only _ => only elsewhere held⟩

theorem owned_onclose (owned : Owned transport) (attempted : Attempted transport) {socket : Nat}
    {native : NativeSocket Server} (known : transport.sockets[socket]? = some native) :
    Owned (onclose options socket transport) ↔
      (transport.status = .opened → options.connectOnClose = true →
        options.onReconnecting = false →
        OnlyHeld transport fun other => options.clears = true ∧ other = socket) := by
  rcases onclose_cases options socket transport with
    ⟨opened, connects, never, after⟩ | ⟨-, -, asks, after⟩ | ⟨stays, onCloses, after⟩
  · have left : Owned (leaving socket transport) := owned.of_same rfl rfl rfl
    have still : Attempted (leaving socket transport) :=
      attempted.of_same rfl rfl (List.Sublist.refl _)
    have present : (leaving socket transport).sockets[socket]? = some native := known
    rw [after, owned_connect_again left still present]
    exact ⟨fun only _ _ _ => only rfl, fun only _ => only opened connects never⟩
  · rw [after]
    apply iff_of_true (owned.of_same rfl rfl rfl)
    exact fun _ _ never => by cases asks.symm.trans never
  · rw [after]
    apply iff_of_true (owned.of_same rfl rfl rfl)
    exact fun opened connects => by cases (stays opened).symm.trans connects

theorem owned_closed (owned : Owned transport) (attempted : Attempted transport) {socket : Nat}
    {native : NativeSocket Server} (known : transport.sockets[socket]? = some native)
    (listening : native.listening = true) :
    Owned (onclose options socket
        (transport.touch socket fun native => { native with ended := true, lost := true })) ↔
      (AnswersAtOnce options transport socket →
        OnlyHeld transport fun other => other = socket) := by
  have dead (native : NativeSocket Server) : ¬MayOpen { native with ended := true, lost := true } :=
    fun open_ => by cases open_.2
  rw [owned_onclose (owned_dead owned socket dead) _ (touch_self known)]
  · have same := (only_held_dead socket dead (fun other => options.clears = true ∧
      other = socket)).trans (@OnlyHeld.congr Server Data transport _ (fun other => other = socket)
        fun other => ⟨fun allowed => allowed.elim And.right id, .inr⟩)
    rw [same]
    constructor
    · rintro only ⟨opened, again, never, -⟩
      exact only opened again never
    · exact fun only opened again never => only ⟨opened, again, never, native, known, listening⟩
  · exact attempted.of_same (standing_touch socket (by intro _; rfl) (by intro _; rfl)) rfl
      (List.Sublist.refl _)

theorem owned_next_start (owned : Owned transport) (complete : HeldComplete transport)
    (round : Nat) (nextStarts : List Nat) :
    Owned (nextStart round { transport with nextStarts := nextStarts }) ↔
      (transport.status = .connecting → nextServer transport round ≠ none →
        round + 1 = transport.rounds.length) := by
  by_cases connecting : transport.status = .connecting
  · have begun := @owned_more Server Data { transport with nextStarts := nextStarts } _ complete
      round _ (next_start_sockets round connecting) (next_start_attempting _ _).socket
      (next_start_begun _ _).same_rounds
    rw [begun]
    constructor
    · exact fun after _ => after.2
    · exact fun current => ⟨owned, current connecting⟩
  · apply iff_of_true _ (fun other => absurd other connecting)
    rw [nextStart, if_pos connecting]
    exact owned.of_same rfl rfl rfl

theorem forall_awaited {socket : Nat} {native : NativeSocket Server}
    {kept : NativeSocket Server → Prop} (known : transport.sockets[socket]? = some native)
    (awaited : native.awaited = true) :
    (∀ other, transport.sockets[socket]? = some other → other.awaited = true → kept other) ↔
      kept native := by
  constructor
  · intro each
    exact each native known awaited
  · rintro met other same -
    cases known.symm.trans same
    exact met

theorem forall_late {socket : Nat} {native : NativeSocket Server}
    {kept : NativeSocket Server → Prop} (known : transport.sockets[socket]? = some native)
    (late : native.awaited = false) :
    ∀ other, transport.sockets[socket]? = some other → other.awaited = true → kept other := by
  intro other same awaited
  cases known.symm.trans same
  cases late.symm.trans awaited

theorem owned_resume_reconnecting (owned : Owned transport) (attempted : Attempted transport)
    {socket : Nat} (phase : transport.phase = .onReconnecting socket) :
    Owned (connectAgain options socket transport) ↔ OneKept options transport .resume next := by
  cases known : transport.sockets[socket]? with
  | none =>
      rw [connectAgain, known]
      apply iff_of_true owned
      rintro other same ⟨native, present⟩
      cases phase.symm.trans same
      cases known.symm.trans present
  | some native =>
      rw [owned_connect_again owned attempted known]
      constructor
      · rintro only other same - free
        cases phase.symm.trans same
        exact only free
      · exact fun only free => only socket phase ⟨native, known⟩ free

theorem owned_resume (after : Owned next)
    (elsewhere : ∀ socket, transport.phase ≠ .onReconnecting socket) :
    Owned next ↔ OneKept options transport .resume next :=
  iff_of_true after fun socket reconnecting => absurd reconnecting (elsewhere socket)

theorem owned_opened (owned : Owned transport) (complete : HeldComplete transport) {socket : Nat}
    {native : NativeSocket Server} (known : transport.sockets[socket]? = some native)
    (awaited : native.awaited = true) :
    Owned (connectComplete options socket native .opened (noteOpened socket transport)) ↔
      CompletionKept options transport native .opened := by
  have kept := @owned_complete Server Data options (noteOpened socket transport) socket native
    .opened owned complete known awaited
  refine kept.trans ⟨fun met => ?_, fun met => ?_⟩
  · exact ⟨met.opens, met.fails, met.flushes, met.ignored⟩
  · exact ⟨met.opens, met.fails, met.flushes, met.ignored⟩

theorem owned_errored (owned : Owned transport) (complete : HeldComplete transport) {socket : Nat}
    {native : NativeSocket Server} (known : transport.sockets[socket]? = some native)
    (awaited : native.awaited = true) :
    Owned (connectComplete options socket native .error
        (transport.touch socket fun native => { native with ended := true })) ↔
      CompletionKept options transport { native with ended := true } .error := by
  have ended : HeldComplete (transport.touch socket fun native => { native with ended := true }) :=
    held_touch complete socket (by intro _; exact id)
  have kept := @owned_complete Server Data options (transport.touch socket fun native =>
    { native with ended := true }) socket { native with ended := true } .error
    (owned_end owned socket) ended (touch_self known) awaited
  refine kept.trans ⟨fun met => ?_, fun met => ?_⟩
  · exact ⟨(fun _ opened => by cases opened), met.fails, met.flushes, met.ignored⟩
  · exact ⟨(fun _ opened => by cases opened), met.fails, met.flushes, met.ignored⟩

theorem owned_closed_unheard (owned : Owned transport) {socket : Nat}
    {native : NativeSocket Server} (known : transport.sockets[socket]? = some native)
    (deaf : native.listening = false) :
    Owned (transport.touch socket fun native => { native with ended := true }) ↔
      OneKept options transport (.closed socket) next := by
  apply iff_of_true (owned_end owned _)
  rintro ⟨-, -, -, native, same, listening⟩
  cases known.symm.trans same
  cases deaf.symm.trans listening

/-- A step keeps the owners exactly on the condition. -/
theorem step_owned (owned : Owned transport) (attempted : Attempted transport)
    (complete : HeldComplete transport) (taken : step options transport event = some next) :
    Owned next ↔ OneKept options transport event next := by
  cases step_moves taken with
  | connect server proxys => exact owned_connect owned attempted _ _ _
  | send data =>
      rcases send_eq options data (noteSend data transport) with ⟨queue, handed, onSends, dropped, sent⟩
      rw [sent]
      exact iff_of_true (owned.of_same rfl rfl rfl) trivial
  | close returns => exact iff_of_true (owned_after_close owned) trivial
  | reconnect returns => exact owned_after_reconnect owned attempted
  | resumeOpen phase =>
      exact owned_resume (owned.of_same rfl rfl rfl) (by simp [phase])
  | resumeReconnecting phase => exact owned_resume_reconnecting owned attempted phase
  | resumeSend phase =>
      rcases flush_closing_eq options _ transport with ⟨queue, after, handed, onSends, lazyCloses, flushed⟩
      rw [flushed]
      exact owned_resume (owned.of_same rfl rfl rfl) (by simp [phase])
  | opened idle known awaited =>
      exact (owned_opened owned complete known awaited).trans
        (@forall_awaited _ _ transport _ _ (fun native =>
          CompletionKept options transport native .opened) known awaited).symm
  | openedLate idle known late =>
      exact iff_of_true (owned.of_same rfl rfl rfl) (forall_late known late)
  | errored idle known awaited =>
      exact (owned_errored owned complete known awaited).trans
        (@forall_awaited _ _ transport _ _ (fun native =>
          CompletionKept options transport { native with ended := true } .error) known awaited).symm
  | erroredLate idle known late =>
      exact iff_of_true (owned_end owned _) (forall_late known late)
  | message socket idle => exact iff_of_true owned trivial
  | closed idle known listening => exact owned_closed owned attempted known listening
  | closedUnheard idle known deaf => exact owned_closed_unheard owned known deaf
  | timeout idle known awaited =>
      exact (owned_complete owned complete known awaited).trans
        (@forall_awaited _ _ transport _ _ (fun native =>
          CompletionKept options transport native .timeout) known awaited).symm
  | nextStart idle scheduled => exact owned_next_start owned complete _ _
  | lazyClose idle scheduled =>
      exact iff_of_true ((owned_close owned _).of_same rfl rfl rfl) trivial
  | reconnectTimer idle scheduled =>
      rw [owned_connect]
      · exact ⟨fun only => only rfl, fun only _ => only⟩
      · exact owned.of_same rfl rfl rfl
      · exact attempted.of_same rfl rfl (List.Sublist.refl _)

/-- Exactly the runs in which no attempt is given up while its socket may still open, and no call
of `connect` begins over another one. -/
theorem one_connection_iff (events : List (Event Server Data)) :
    Steps (step options) (fun _ _ next => OneConnection next) (newTransport Server Data) events ↔
      Steps (step options) (OneKept options) (newTransport Server Data) events := by
  apply steps_iff fun transport =>
    Owned transport ∧ Attempted transport ∧ HeldComplete transport
  · rintro transport event next ⟨owned, attempted, complete⟩ taken
    have kept := step_owned owned attempted complete taken
    constructor
    · exact fun one => kept.mp one.owned
    · exact fun condition =>
        (step_attempted attempted taken).one_connection (kept.mpr condition)
  · rintro transport event next ⟨owned, attempted, complete⟩ condition taken
    exact ⟨(step_owned owned attempted complete taken).mpr condition,
      step_attempted attempted taken, step_held complete taken⟩
  · refine ⟨?_, ⟨?_, ?_, ?_⟩, ?_⟩
    · intro socket native known
      cases known
    · simp [standing, newTransport]
    · simp [newTransport]
    · simp [pending, standing, newTransport]
    · intro socket held
      cases held

/-- After a timeout the first socket is left as it is, and the next server is tried. -/
theorem timed_out_left_open : ¬∀ (options : TransportOptions) (transport : Transport Nat Nat),
    Reachable (step options) (newTransport Nat Nat) transport → OneConnection transport := by
  intro one
  let events : List (Event Nat Nat) := [.call (.connect 1 [2]), .timeout 0]
  rcases (one { timeout := 10 } _ ⟨events, rfl⟩).owned 0 _ rfl ⟨rfl, rfl⟩ with held | ⟨awaited, -⟩
  · cases held
  · cases awaited

end WebTransportGos.Helper.Transport
