import WebTransportGos.Helper.TransportSteps

/-!
The attempts that a call of `connect` has begun: each call has at most one that is awaited, or
one that is scheduled, at any time, whatever other calls have left behind.
-/

namespace WebTransportGos.Helper.Transport

open StepSystem

set_option autoImplicit false

variable {Server Data : Type*} {options : TransportOptions}
  {transport next : Transport Server Data} {event : Event Server Data}

def nextServer (transport : Transport Server Data) (round : Nat) : Option Server :=
  transport.rounds[round]?.bind fun closure => closure.servers[closure.serverIndex]?.join

theorem next_start_eq (round : Nat) (connecting : transport.status = .connecting) :
    nextStart round transport = { transport with
      nextStartTimer := none
      rounds := transport.rounds.modify round fun closure =>
        { closure with serverIndex := closure.serverIndex + 1 }
      sockets := transport.sockets ++
        ((nextServer transport round).map (newSocket round)).toList } := by
  rw [nextStart, if_neg (by rw [connecting]; simp)]
  rfl

theorem next_start_sockets (round : Nat) (connecting : transport.status = .connecting) :
    (nextStart round transport).sockets = transport.sockets ++
      ((nextServer transport round).map (newSocket round)).toList := by
  rw [next_start_eq round connecting]

theorem next_end_sockets (round : Nat) (connecting : transport.status = .connecting) :
    (nextEnd options round transport).sockets = transport.sockets ++
      ((if 0 < options.interval then none else nextServer transport round).map
        (newSocket round)).toList := by
  unfold nextEnd
  split
  · exact (List.append_nil _).symm
  · exact next_start_sockets round connecting

/-- Of every socket, whether it is awaited and by which call of `connect`. -/
def standing (transport : Transport Server Data) : List (Bool × Nat) :=
  transport.sockets.map fun native => (native.awaited, native.round)

def pending (transport : Transport Server Data) (round : Nat) : Nat :=
  transport.standing.count (true, round) + transport.nextStarts.count round

/-- The attempts belong to calls of `connect`, and each call has one at a time. -/
structure Attempted (transport : Transport Server Data) : Prop where
  known : ∀ entry ∈ transport.standing, entry.2 < transport.rounds.length
  scheduled : ∀ round ∈ transport.nextStarts, round < transport.rounds.length
  single : ∀ round, transport.pending round ≤ 1

theorem Attempted.inside (attempted : Attempted transport) {socket : Nat}
    {native : NativeSocket Server} (known : transport.sockets[socket]? = some native) :
    native.round < transport.rounds.length :=
  attempted.known (native.awaited, native.round)
    (List.mem_map_of_mem (List.mem_of_getElem? known))

/-- The call of `connect` begins an attempt, or schedules one, or can do neither. -/
inductive Begun (transport next : Transport Server Data) (round : Nat) : Prop where
  | begins (server : Server) (rounds : next.rounds.length = transport.rounds.length)
      (sockets : next.sockets = transport.sockets ++ [newSocket round server])
      (nextStarts : next.nextStarts = transport.nextStarts)
  | schedules (rounds : next.rounds.length = transport.rounds.length)
      (sockets : next.sockets = transport.sockets)
      (nextStarts : next.nextStarts = transport.nextStarts ++ [round])
  | neither (rounds : next.rounds.length = transport.rounds.length)
      (sockets : next.sockets = transport.sockets)
      (nextStarts : next.nextStarts = transport.nextStarts)

theorem next_start_begun (round : Nat) (transport : Transport Server Data) :
    Begun transport (nextStart round transport) round := by
  unfold nextStart
  split
  · exact .neither rfl rfl rfl
  · dsimp only
    cases transport.rounds[round]?.bind fun closure => closure.servers[closure.serverIndex]?.join with
    | none => exact .neither (List.length_modify _ _ _) (List.append_nil _) rfl
    | some server => exact .begins server (List.length_modify _ _ _) rfl rfl

theorem next_end_begun (round : Nat) (transport : Transport Server Data) :
    Begun transport (nextEnd options round transport) round := by
  unfold nextEnd
  split
  · exact .schedules rfl rfl rfl
  · exact next_start_begun round transport

theorem Begun.of_same {middle : Transport Server Data} {round : Nat}
    (begun : Begun middle next round) (rounds : middle.rounds.length = transport.rounds.length)
    (sockets : middle.sockets = transport.sockets)
    (nextStarts : middle.nextStarts = transport.nextStarts) : Begun transport next round := by
  cases begun with
  | begins server length added kept =>
      exact .begins server (length.trans rounds) (by rw [added, sockets]) (kept.trans nextStarts)
  | schedules length kept added =>
      exact .schedules (length.trans rounds) (kept.trans sockets) (by rw [added, nextStarts])
  | neither length kept same =>
      exact .neither (length.trans rounds) (kept.trans sockets) (same.trans nextStarts)

theorem Begun.same_rounds {round : Nat} (begun : Begun transport next round) :
    next.rounds.length = transport.rounds.length := by
  cases begun with
  | begins server rounds => exact rounds
  | schedules rounds => exact rounds
  | neither rounds => exact rounds

theorem attempt_failed_begun (round : Nat) (server : Server) (status : TransportStatus)
    (transport : Transport Server Data) :
    Begun transport (attemptFailed options round server status transport) round := by
  rcases attempt_failed_cases options round server status transport with
    same | same | same | ⟨retryIndex, reports, same⟩
  · rw [same]
    exact .neither rfl rfl rfl
  · rw [same]
    exact next_end_begun round transport
  · rw [same]
    exact (next_end_begun round (retrying transport round)).of_same
      (List.length_modify _ _ _) rfl rfl
  · rw [same]
    exact .neither rfl rfl rfl

theorem standing_of_sockets (sockets : next.sockets = transport.sockets) :
    next.standing = transport.standing := by
  rw [standing, sockets, standing]

/-- An attempt of another call, or one more of this call. -/
theorem Begun.pending_le {round : Nat} (begun : Begun transport next round) (other : Nat) :
    next.pending other ≤ transport.pending other + if other = round then 1 else 0 := by
  rw [pending, pending]
  cases begun with
  | begins server rounds sockets nextStarts =>
      have stands : next.standing = transport.standing ++ [(true, round)] := by
        rw [standing, sockets, List.map_append]
        rfl
      rw [stands, nextStarts, List.count_append]
      by_cases same : other = round
      · subst same
        rw [List.count_singleton_self, if_pos rfl]
        omega
      · rw [List.count_singleton, if_neg (by simpa using fun swapped => same swapped.symm)]
        omega
  | schedules rounds sockets nextStarts =>
      rw [standing_of_sockets sockets, nextStarts, List.count_append]
      by_cases same : other = round
      · subst same
        rw [List.count_singleton_self, if_pos rfl]
        omega
      · rw [List.count_singleton, if_neg (by simpa using fun swapped => same swapped.symm)]
        omega
  | neither rounds sockets nextStarts =>
      rw [standing_of_sockets sockets, nextStarts]
      omega

theorem Attempted.begun (attempted : Attempted transport) {round : Nat}
    (begun : Begun transport next round) (inside : round < transport.rounds.length)
    (free : transport.pending round = 0) : Attempted next := by
  have single (other : Nat) : next.pending other ≤ 1 := by
    have more := begun.pending_le other
    by_cases same : other = round
    · subst same
      rw [free, if_pos rfl] at more
      exact more
    · rw [if_neg same] at more
      exact Nat.le_trans more (attempted.single other)
  cases begun with
  | begins server rounds sockets nextStarts =>
      refine ⟨?_, ?_, single⟩
      · rw [standing, sockets, rounds, List.map_append]
        intro entry member
        rcases List.mem_append.mp member with before | new
        · exact attempted.known entry before
        · rw [List.map_singleton, List.mem_singleton] at new
          rw [new]
          exact inside
      · rw [nextStarts, rounds]
        exact attempted.scheduled
  | schedules rounds sockets nextStarts =>
      refine ⟨?_, ?_, single⟩
      · rw [standing_of_sockets sockets, rounds]
        exact attempted.known
      · rw [nextStarts, rounds]
        intro other member
        rcases List.mem_append.mp member with before | new
        · exact attempted.scheduled other before
        · rw [List.mem_singleton.mp new]
          exact inside
  | neither rounds sockets nextStarts =>
      refine ⟨?_, ?_, single⟩
      · rw [standing_of_sockets sockets, rounds]
        exact attempted.known
      · rw [nextStarts, rounds]
        exact attempted.scheduled

theorem Attempted.of_same (attempted : Attempted transport)
    (standing : next.standing = transport.standing)
    (rounds : next.rounds.length = transport.rounds.length)
    (nextStarts : next.nextStarts.Sublist transport.nextStarts) : Attempted next := by
  refine ⟨?_, ?_, ?_⟩
  · rw [standing, rounds]
    exact attempted.known
  · rw [rounds]
    exact fun round member => attempted.scheduled round (nextStarts.subset member)
  · intro round
    have fewer := nextStarts.count_le round
    have single := attempted.single round
    rw [pending] at single
    rw [pending, standing]
    omega

theorem standing_touch (socket : Nat) {change : NativeSocket Server → NativeSocket Server}
    (awaited : ∀ native, (change native).awaited = native.awaited)
    (round : ∀ native, (change native).round = native.round) :
    (transport.touch socket change).standing = transport.standing := by
  apply modify_map_same
  intro native
  rw [awaited, round]

/-- The end of an attempt that is awaited. -/
theorem standing_completed {socket : Nat} {native : NativeSocket Server}
    (known : transport.sockets[socket]? = some native) :
    (transport.touch socket fun native => { native with awaited := false }).standing =
      transport.standing.set socket (false, native.round) := by
  apply List.ext_getElem?
  intro other
  rw [standing, List.getElem?_map, touch_get, List.getElem?_set, standing, List.length_map]
  by_cases same : socket = other
  · subst same
    rw [known, if_pos rfl, if_pos (List.getElem?_eq_some_iff.mp known).1, Option.map_some,
      Option.map_some, if_pos rfl]
  · simp [same]

theorem pending_completed {socket : Nat} {native : NativeSocket Server}
    (known : transport.sockets[socket]? = some native) (awaited : native.awaited = true)
    (round : Nat) :
    (transport.touch socket fun native => { native with awaited := false }).pending round +
      (if native.round = round then 1 else 0) = transport.pending round := by
  rcases List.getElem?_eq_some_iff.mp known with ⟨inside, here⟩
  have stood : socket < transport.standing.length := by
    rw [standing, List.length_map]
    exact inside
  have there : transport.standing[socket] = (true, native.round) := by
    simp only [standing, List.getElem_map, here, awaited]
  have member : (true, native.round) ∈ transport.standing := there ▸ List.getElem_mem stood
  have timers : (transport.touch socket fun native =>
      { native with awaited := false }).nextStarts = transport.nextStarts := rfl
  rw [pending, pending, standing_completed known, List.count_set stood, there, timers,
    if_neg (by simp : ¬((false, native.round) == (true, round)) = true)]
  by_cases same : native.round = round
  · subst same
    have positive := List.count_pos_iff.mpr member
    rw [if_pos rfl, if_pos (beq_self_eq_true _)]
    omega
  · rw [if_neg same, if_neg (by simpa using same)]
    omega

theorem Attempted.completed (attempted : Attempted transport) {socket : Nat}
    {native : NativeSocket Server} (known : transport.sockets[socket]? = some native)
    (awaited : native.awaited = true) :
    Attempted (transport.touch socket fun native => { native with awaited := false }) ∧
      (transport.touch socket fun native => { native with awaited := false }).pending
        native.round = 0 := by
  have fewer := pending_completed known awaited
  refine ⟨⟨?_, attempted.scheduled, ?_⟩, ?_⟩
  · rw [standing_completed known]
    intro entry member
    rcases List.mem_or_eq_of_mem_set member with before | here
    · exact attempted.known entry before
    · rw [here]
      exact attempted.inside known
  · intro round
    have less := fewer round
    have single := attempted.single round
    omega
  · have less := fewer native.round
    have single := attempted.single native.round
    rw [if_pos rfl] at less
    omega

theorem Attempted.fresh_round (attempted : Attempted transport) :
    transport.pending transport.rounds.length = 0 := by
  rw [pending, Nat.add_eq_zero_iff, List.count_eq_zero, List.count_eq_zero]
  constructor
  · intro member
    exact Nat.lt_irrefl _ (attempted.known _ member)
  · intro member
    exact Nat.lt_irrefl _ (attempted.scheduled _ member)

theorem calling_rounds (server : Option Server) (proxys : List Server)
    (preferred : Option Server) (transport : Transport Server Data) :
    (calling server proxys preferred transport).rounds.length = transport.rounds.length + 1 :=
  List.length_append

theorem calling_attempted (attempted : Attempted transport) (server : Option Server)
    (proxys : List Server) (preferred : Option Server) :
    Attempted (calling server proxys preferred transport) := by
  refine ⟨?_, ?_, attempted.single⟩
  · rw [calling_rounds]
    exact fun entry member => Nat.lt_succ_of_lt (attempted.known entry member)
  · rw [calling_rounds]
    exact fun round member => Nat.lt_succ_of_lt (attempted.scheduled round member)

theorem connect_attempted (attempted : Attempted transport) (server : Option Server)
    (proxys : List Server) (preferred : Option Server) :
    Attempted (connect server proxys preferred transport) := by
  cases free : transport.status.busy with
  | true =>
      rw [connect_busy server proxys preferred free]
      exact attempted.of_same rfl rfl (List.Sublist.refl _)
  | false =>
      rw [connect_free server proxys preferred free]
      apply (calling_attempted attempted server proxys preferred).begun (next_start_begun _ _)
      · rw [calling_rounds]
        exact Nat.lt_succ_self _
      · exact attempted.fresh_round

theorem connect_again_attempted (attempted : Attempted transport) (socket : Nat) :
    Attempted (connectAgain options socket transport) := by
  rcases connect_again_cases options socket transport with same | ⟨native, closure, -, -, again⟩
  · rw [same]
    exact attempted
  · rw [again]
    apply connect_attempted
    exact attempted.of_same (cleared_map options _ (by intro _; rfl) socket transport) rfl
      (List.Sublist.refl _)

theorem connect_complete_attempted (attempted : Attempted transport) {socket : Nat}
    {native : NativeSocket Server} {status : TransportStatus}
    (known : transport.sockets[socket]? = some native) (awaited : native.awaited = true) :
    Attempted (connectComplete options socket native status transport) := by
  rcases attempted.completed known awaited with ⟨completed, free⟩
  have inside := attempted.inside known
  rcases connect_complete_cases options socket native status transport with
    ⟨-, -, same⟩ | ⟨-, -, same⟩ | ⟨-, same⟩ | ⟨-, same⟩ | ⟨-, -, same⟩
  · rcases established_eq options socket (transport.touch socket fun native =>
      { native with awaited := false }) with ⟨queue, phase, handed, opened⟩
    rw [same, opened]
    refine completed.of_same ?_ rfl (List.Sublist.refl _)
    exact standing_touch socket (by intro _; rfl) (by intro _; rfl)
  · rw [same]
    exact completed.begun (attempt_failed_begun _ _ _ _) inside free
  · rcases flush_closing_eq options socket (transport.touch socket fun native =>
      { native with awaited := false }) with ⟨queue, phase, handed, onSends, lazyCloses, flushed⟩
    rw [same, flushed]
    exact completed.of_same rfl rfl (List.Sublist.refl _)
  · rw [same]
    refine completed.of_same ?_ rfl (List.Sublist.refl _)
    exact standing_touch socket (by intro _; rfl) (by intro _; rfl)
  · rw [same]
    exact completed

theorem starts_kept_sublist (transport : Transport Server Data) :
    (startsKept transport).Sublist transport.nextStarts := by
  unfold startsKept
  split
  · exact List.Sublist.refl _
  · exact List.erase_sublist

theorem after_close_attempted (attempted : Attempted transport) :
    Attempted (afterClose transport) := by
  refine attempted.of_same ?_ rfl (starts_kept_sublist transport)
  rw [afterClose]
  cases transport.socket with
  | none => rfl
  | some socket => exact standing_touch socket (by intro _; rfl) (by intro _; rfl)

theorem after_reconnect_attempted (attempted : Attempted transport) :
    Attempted (afterReconnect transport) := by
  unfold afterReconnect
  split
  · exact attempted
  · split
    · exact (after_close_attempted attempted).of_same rfl rfl (List.Sublist.refl _)
    · exact connect_attempted (after_close_attempted attempted) _ _ _

theorem onclose_attempted (attempted : Attempted transport) (socket : Nat) :
    Attempted (onclose options socket transport) := by
  have left : Attempted (leaving socket transport) :=
    attempted.of_same rfl rfl (List.Sublist.refl _)
  rcases onclose_cases options socket transport with
    ⟨-, -, -, after⟩ | ⟨-, -, -, after⟩ | ⟨-, onCloses, after⟩
  · rw [after]
    exact connect_again_attempted left socket
  · rw [after]
    exact left.of_same rfl rfl (List.Sublist.refl _)
  · rw [after]
    exact attempted.of_same rfl rfl (List.Sublist.refl _)

theorem pending_fired (attempted : Attempted transport) {round : Nat}
    (scheduled : round ∈ transport.nextStarts) :
    pending { transport with nextStarts := transport.nextStarts.erase round } round = 0 := by
  have single := attempted.single round
  have present := List.count_pos_iff.mpr scheduled
  rw [pending] at single
  change transport.standing.count (true, round) + (transport.nextStarts.erase round).count round = 0
  rw [List.count_erase_self]
  omega

theorem next_start_attempted (attempted : Attempted transport) {round : Nat}
    (scheduled : round ∈ transport.nextStarts) : Attempted (nextStart round
      { transport with nextStarts := transport.nextStarts.erase round }) := by
  have erased : Attempted { transport with nextStarts := transport.nextStarts.erase round } :=
    attempted.of_same rfl rfl List.erase_sublist
  exact erased.begun (next_start_begun round _) (attempted.scheduled round scheduled)
    (pending_fired attempted scheduled)

theorem step_attempted (attempted : Attempted transport)
    (taken : step options transport event = some next) : Attempted next := by
  have same (other : Transport Server Data) (standing : other.standing = transport.standing)
      (rounds : other.rounds = transport.rounds)
      (nextStarts : other.nextStarts = transport.nextStarts) : Attempted other :=
    attempted.of_same standing (by rw [rounds]) (by rw [nextStarts])
  have touched (socket : Nat) : Attempted (transport.touch socket fun native =>
      { native with ended := true }) :=
    same _ (standing_touch socket (by intro _; rfl) (by intro _; rfl)) rfl rfl
  cases step_moves taken with
  | connect server proxys => exact connect_attempted attempted _ _ _
  | send data =>
      rcases send_eq options data (noteSend data transport) with ⟨queue, handed, onSends, dropped, sent⟩
      rw [sent]
      exact same _ rfl rfl rfl
  | close returns => exact after_close_attempted attempted
  | reconnect returns => exact after_reconnect_attempted attempted
  | resumeOpen phase => exact same _ rfl rfl rfl
  | resumeReconnecting phase => exact connect_again_attempted attempted _
  | resumeSend phase =>
      rcases flush_closing_eq options _ transport with ⟨queue, phase, handed, onSends, lazyCloses, flushed⟩
      rw [flushed]
      exact same _ rfl rfl rfl
  | opened idle known awaited =>
      exact connect_complete_attempted (same (noteOpened _ transport) rfl rfl rfl) known awaited
  | openedLate idle known late => exact same _ rfl rfl rfl
  | @errored socket native idle known awaited =>
      exact @connect_complete_attempted Server Data options _ (touched socket) socket
        { native with ended := true } .error (touch_self known) awaited
  | erroredLate idle known late => exact touched _
  | message socket idle => exact attempted
  | closed idle known listening =>
      apply onclose_attempted
      exact same _ (standing_touch _ (by intro _; rfl) (by intro _; rfl)) rfl rfl
  | closedUnheard idle known deaf => exact touched _
  | timeout idle known awaited => exact connect_complete_attempted attempted known awaited
  | nextStart idle scheduled => exact next_start_attempted attempted scheduled
  | lazyClose idle scheduled =>
      exact same _ (standing_touch _ (by intro _; rfl) (by intro _; rfl)) rfl rfl
  | reconnectTimer idle scheduled =>
      apply connect_attempted
      exact same _ rfl rfl rfl

def HeldComplete (transport : Transport Server Data) : Prop :=
  ∀ socket, transport.socket = some socket →
    ∃ native, transport.sockets[socket]? = some native ∧ native.awaited = false

theorem step_held (complete : HeldComplete transport)
    (taken : step options transport event = some next) : HeldComplete next := by
  intro socket held
  have earlier (before : transport.socket = some socket) :
      ∃ native, next.sockets[socket]? = some native ∧ native.awaited = false := by
    rcases complete socket before with ⟨native, known, done⟩
    rcases step_grown options taken socket native known with ⟨after, still, later⟩
    exact ⟨after, still, later.awaited done⟩
  rcases step_stays options taken with stays | ⟨own, native, rfl, known, awaited, connecting, rfl⟩
  · rcases stays.held with same | ⟨none, -⟩
    · exact earlier (same.symm.trans held)
    · cases none.symm.trans held
  · have opening : (noteOpened own transport).status = .connecting := connecting
    rw [connect_complete_opens options native opening] at held ⊢
    rcases established_eq options own ((noteOpened own transport).touch own fun native =>
      { native with awaited := false }) with ⟨queue, phase, handed, opened⟩
    rw [opened] at held ⊢
    cases held
    exact ⟨_, touch_self (touch_self known), rfl⟩

end WebTransportGos.Helper.Transport
