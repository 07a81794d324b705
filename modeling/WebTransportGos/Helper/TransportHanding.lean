import WebTransportGos.Helper.TransportAttempts
import WebTransportGos.Helper.TransportQueue

/-!
To which sockets a Transport hands the data given to `send`, and which it has closed by then.
-/

namespace WebTransportGos.Helper.Transport

open StepSystem

set_option autoImplicit false

variable {Server Data : Type*} {options : TransportOptions}
  {transport next : Transport Server Data} {event : Event Server Data}

def Past (transport : Transport Server Data) (socket : Nat) : Prop :=
  ∃ native, transport.sockets[socket]? = some native ∧ native.awaited = false

theorem Past.grown {socket : Nat} (past : Past transport socket) (grown : Grown transport next) :
    Past next socket := by
  obtain ⟨native, known, done⟩ := past
  obtain ⟨after, still, later⟩ := grown socket native known
  exact ⟨after, still, later.awaited done⟩

/-- Of a closed socket: OPEN does not mean it, and of the callbacks that hand something to their
socket it can be in `onOpen` only. -/
structure Shut (transport : Transport Server Data) (socket : Nat) (native : NativeSocket Server) :
    Prop where
  past : native.awaited = false
  held : transport.status = .opened → transport.socket ≠ some socket
  flushing : transport.phase ≠ .onSend socket
  opening : transport.phase = .onOpen socket → native.listening = false

structure Handing (transport : Transport Server Data) : Prop where
  held : HeldComplete transport
  lazyCloses : ∀ socket ∈ transport.lazyCloses, Past transport socket
  opening : ∀ socket, transport.phase = .onOpen socket → Past transport socket
  flushing : ∀ socket, transport.phase = .onSend socket →
    Past transport socket ∧ transport.socket = none
  asking : ∀ socket, transport.phase = .onReconnecting socket →
    Past transport socket ∧ transport.status ≠ .opened
  closing : transport.status = .closing → transport.socket = none
  shut : ∀ socket native, transport.sockets[socket]? = some native → native.closed = true →
    Shut transport socket native

/-- Why a socket is closed behind a step: it was, or the transport is not OPEN any more. -/
def Closes (transport next : Transport Server Data) (socket : Nat) (after : NativeSocket Server) :
    Prop :=
  (∃ native, transport.sockets[socket]? = some native ∧ native.closed = true ∧
    (native.listening = false → after.listening = false)) ∨
  Past transport socket ∧ next.status ≠ .opened ∧ next.phase ≠ .onSend socket ∧
    (next.phase = .onOpen socket → after.listening = false)

theorem closes_same {socket : Nat} {native : NativeSocket Server}
    (known : transport.sockets[socket]? = some native) (closed : native.closed = true) :
    Closes transport next socket native := .inl ⟨native, known, closed, id⟩

/-- A step behind which no other socket is held and no other callback runs. -/
theorem Handing.later (handing : Handing transport) (grown : Grown transport next)
    (socket : next.socket = transport.socket ∨ next.socket = none)
    (lazyCloses : next.lazyCloses ⊆ transport.lazyCloses)
    (phase : next.phase = transport.phase ∨ next.phase = .idle)
    (opened : next.status = .opened → transport.status = .opened)
    (closing : next.status = .closing → transport.status = .closing ∨ next.socket = none)
    (closes : ∀ socket after, next.sockets[socket]? = some after → after.closed = true →
      Closes transport next socket after) : Handing next := by
  have same_phase (other : Phase) (busy : other ≠ .idle) (now : next.phase = other) :
      transport.phase = other := by
    cases phase with
    | inl kept => exact kept.symm.trans now
    | inr idle => exact absurd (now.symm.trans idle) busy
  have none (before : transport.socket = none) : next.socket = none := by
    cases socket with
    | inl kept => exact kept.trans before
    | inr gone => exact gone
  have held (index : Nat) (now : next.socket = some index) : transport.socket = some index := by
    cases socket with
    | inl kept => exact kept.symm.trans now
    | inr gone => cases gone.symm.trans now
  constructor
  · intro index now
    have past : Past transport index := handing.held index (held index now)
    exact past.grown grown
  · intro index member
    exact (handing.lazyCloses index (lazyCloses member)).grown grown
  · intro index now
    exact (handing.opening index (same_phase _ (by simp) now)).grown grown
  · intro index now
    obtain ⟨past, before⟩ := handing.flushing index (same_phase _ (by simp) now)
    exact ⟨past.grown grown, none before⟩
  · intro index now
    obtain ⟨past, before⟩ := handing.asking index (same_phase _ (by simp) now)
    exact ⟨past.grown grown, fun again => before (opened again)⟩
  · intro now
    cases closing now with
    | inl before => exact none (handing.closing before)
    | inr gone => exact gone
  · intro index after found closed
    cases closes index after found closed with
    | inl was =>
      obtain ⟨native, known, before, deaf⟩ := was
      have shut := handing.shut index native known before
      obtain ⟨other, same, later⟩ := grown index native known
      cases found.symm.trans same
      constructor
      · exact later.awaited shut.past
      · intro again now
        exact shut.held (opened again) (held index now)
      · intro now
        exact shut.flushing (same_phase _ (by simp) now)
      · intro now
        exact deaf (shut.opening (same_phase _ (by simp) now))
    | inr new =>
      obtain ⟨past, elsewhere, flushing, deaf⟩ := new
      obtain ⟨other, same, done⟩ := past.grown grown
      cases found.symm.trans same
      exact ⟨done, fun again => absurd again elsewhere, flushing, deaf⟩

section Closing

variable {socket : Nat}

theorem closed_begun {round : Nat} (begun : Begun transport next round)
    {native : NativeSocket Server} (found : next.sockets[socket]? = some native)
    (closed : native.closed = true) : transport.sockets[socket]? = some native := by
  cases begun with
  | begins server rounds sockets nextStarts =>
    rw [sockets, List.getElem?_append] at found
    split at found
    · exact found
    · rw [List.mem_singleton.mp (List.mem_of_getElem? found)] at closed
      cases closed
  | schedules rounds sockets nextStarts => exact sockets ▸ found
  | neither rounds sockets nextStarts => exact sockets ▸ found

theorem handing_begun (handing : Handing transport) {round : Nat} (begun : Begun transport next round)
    (held : next.socket = transport.socket) (lazyCloses : next.lazyCloses = transport.lazyCloses)
    (phase : next.phase = transport.phase)
    (opened : next.status = .opened → transport.status = .opened)
    (closing : next.status = .closing → transport.status = .closing) : Handing next := by
  have longer : transport.sockets <+: next.sockets := by
    cases begun with
    | begins server rounds sockets nextStarts => exact sockets ▸ List.prefix_append _ _
    | schedules rounds sockets nextStarts => exact sockets ▸ List.prefix_rfl
    | neither rounds sockets nextStarts => exact sockets ▸ List.prefix_rfl
  exact handing.later (Grown.of_prefix longer) (.inl held) (lazyCloses ▸ List.Subset.refl _)
    (.inl phase) opened (fun now => .inl (closing now))
    fun _ _ found closed => closes_same (closed_begun begun found closed) closed

theorem Handing.of_same (handing : Handing transport) (sockets : next.sockets = transport.sockets)
    (held : next.socket = transport.socket) (lazyCloses : next.lazyCloses = transport.lazyCloses)
    (phase : next.phase = transport.phase ∨ next.phase = .idle)
    (opened : next.status = .opened → transport.status = .opened)
    (closing : next.status = .closing → transport.status = .closing) : Handing next :=
  handing.later (Grown.of_prefix (sockets ▸ List.prefix_rfl)) (.inl held)
    (lazyCloses ▸ List.Subset.refl _) phase opened (fun now => .inl (closing now))
    fun _ _ found closed => closes_same (sockets ▸ found) closed

theorem handing_next_start (handing : Handing transport) (round : Nat) :
    Handing (nextStart round transport) := by
  have attempting := next_start_attempting round transport
  have quiet := next_start_quiet round transport
  exact handing_begun handing (next_start_begun round transport) attempting.socket
    attempting.lazyCloses attempting.phase quiet.stays.opened quiet.closing

theorem handing_next_end (handing : Handing transport) (round : Nat) :
    Handing (nextEnd options round transport) := by
  have attempting := next_end_attempting options round transport
  have quiet := @next_end_quiet Server Data options round transport
  exact handing_begun handing (next_end_begun round transport) attempting.socket
    attempting.lazyCloses attempting.phase quiet.stays.opened quiet.closing

theorem handing_connect (handing : Handing transport) (server : Option Server)
    (proxys : List Server) (preferred : Option Server) :
    Handing (connect server proxys preferred transport) := by
  cases free : transport.status.busy with
  | true =>
    rw [connect_busy server proxys preferred free]
    exact handing.of_same rfl rfl rfl (.inl rfl) id id
  | false =>
    rw [connect_free server proxys preferred free]
    apply handing_next_start
    have calls : Handing (calling server proxys preferred transport) := by
      refine handing.of_same rfl rfl rfl (.inl rfl) ?_ ?_
      · intro impossible
        cases impossible
      · intro impossible
        cases impossible
    exact calls

theorem handing_touch (handing : Handing transport)
    {change : NativeSocket Server → NativeSocket Server}
    (later : ∀ native, Later native (change native))
    (closed : ∀ native, (change native).closed = native.closed)
    (listening : ∀ native, (change native).listening = native.listening) :
    Handing (transport.touch socket change) := by
  refine handing.later (grown_modify rfl later) (.inl rfl) (List.Subset.refl _) (.inl rfl) id
    .inl ?_
  intro other after found shut
  rw [touch_get, Option.map_eq_some_iff] at found
  obtain ⟨native, known, same⟩ := found
  rw [← same] at shut ⊢
  refine .inl ⟨native, known, ?_, ?_⟩
  · split at shut
    · exact (closed native).symm.trans shut
    · exact shut
  · split
    · exact fun deaf => (listening native).trans deaf
    · exact id

/-- A socket is closed between callbacks, or behind the one in which it was lost. -/
theorem handing_close (handing : Handing transport) (past : Past transport socket)
    (sockets : next.sockets = transport.sockets.modify socket fun native =>
      { native with closed := true })
    (held : next.socket = transport.socket) (lazyCloses : next.lazyCloses ⊆ transport.lazyCloses)
    (idle : next.phase = .idle) (opened : next.status ≠ .opened)
    (closing : next.status = .closing → transport.status = .closing) : Handing next := by
  refine handing.later (grown_modify sockets later_closed) (.inl held) lazyCloses (.inr idle)
    (fun now => absurd now opened) (fun now => .inl (closing now)) ?_
  intro other after found closed
  by_cases same : socket = other
  · subst same
    refine .inr ⟨past, opened, ?_, ?_⟩
    · simp [idle]
    · simp [idle]
  · rw [sockets] at found
    exact closes_same ((touch_other same).symm.trans found) closed

theorem handing_after_close (handing : Handing transport) : Handing (afterClose transport) := by
  have grown : Grown transport (afterClose transport) := (after_close_keeps transport).grown
  refine handing.later grown (.inr rfl) (List.Subset.refl _) (.inl rfl)
    (fun now => absurd now (after_close_status transport)) (fun _ => .inr rfl) ?_
  intro other after found closed
  rw [afterClose] at found
  cases held : transport.socket with
  | none =>
    rw [held] at found
    exact closes_same found closed
  | some socket =>
    rw [held] at found
    by_cases same : socket = other
    · subst same
      refine .inr ⟨handing.held socket held, after_close_status transport, ?_, ?_⟩
      · intro flushing
        cases (handing.flushing socket flushing).2.symm.trans held
      · intro _
        obtain ⟨native, -, whole⟩ := Option.map_eq_some_iff.mp
          ((@touch_get Server Data transport socket socket _).symm.trans found)
        rw [if_pos rfl] at whole
        rw [← whole]
    · exact closes_same ((touch_other same).symm.trans found) closed

theorem handing_after_reconnect (handing : Handing transport) :
    Handing (afterReconnect transport) := by
  unfold afterReconnect
  split
  · exact handing
  · split
    · exact (handing_after_close handing).of_same rfl rfl rfl (.inl rfl) id id
    · exact handing_connect (handing_after_close handing) _ _ _

theorem handing_connect_again (handing : Handing transport) (past : Past transport socket)
    (opened : transport.status ≠ .opened) :
    Handing (connectAgain options socket transport) := by
  rcases connect_again_cases options socket transport with same | ⟨native, closure, -, -, again⟩
  · rw [same]
    exact handing
  · rw [again]
    apply handing_connect
    by_cases clears : options.clears = true
    · apply handing_close handing past
      · exact if_pos clears
      · rfl
      · exact List.Subset.refl _
      · rfl
      · exact opened
      · exact id
    · exact handing.of_same (if_neg clears) rfl rfl (.inr rfl) id id

end Closing

section Sound

variable {socket : Nat} {native : NativeSocket Server}

theorem handing_flush_closing (handing : Handing transport) (past : Past transport socket)
    (none : transport.socket = none)
    (unclosed : ∀ native, transport.sockets[socket]? = some native → native.closed = false) :
    Handing (flushClosing options socket transport) := by
  have asked : ∀ next : Transport Server Data, next.sockets = transport.sockets →
      next.socket = transport.socket → next.status = transport.status →
      next.lazyCloses ⊆ transport.lazyCloses ++ [socket] →
      next.phase = .idle ∨ next.phase = .onSend socket → Handing next := by
    intro next sockets held status lazyCloses phase
    have grown : Grown transport next := Grown.of_prefix (sockets ▸ List.prefix_rfl)
    have elsewhere (other : Phase) (away : other ≠ .idle) (else_ : other ≠ .onSend socket) :
        next.phase ≠ other := by
      intro now
      cases phase with
      | inl rests => exact away (now.symm.trans rests)
      | inr sends => exact else_ (now.symm.trans sends)
    constructor
    · intro index now
      cases (held.symm.trans now).symm.trans none
    · intro index member
      cases List.mem_append.mp (lazyCloses member) with
      | inl before => exact (handing.lazyCloses index before).grown grown
      | inr last => exact List.mem_singleton.mp last ▸ past.grown grown
    · intro index now
      exact absurd now (elsewhere _ (by simp) (by simp))
    · intro index now
      cases phase with
      | inl rests => cases now.symm.trans rests
      | inr sends =>
        cases now.symm.trans sends
        exact ⟨past.grown grown, held.trans none⟩
    · intro index now
      exact absurd now (elsewhere _ (by simp) (by simp))
    · intro _
      exact held.trans none
    · intro index after found closed
      rw [sockets] at found
      have shut := handing.shut index after found closed
      refine ⟨shut.past, ?_, ?_, ?_⟩
      · intro _ now
        cases (held.symm.trans now).symm.trans none
      · intro now
        cases phase with
        | inl rests => cases now.symm.trans rests
        | inr sends =>
          cases now.symm.trans sends
          cases (unclosed after found).symm.trans closed
      · intro now
        exact absurd now (elsewhere _ (by simp) (by simp))
  unfold flushClosing
  split
  · split
    · exact asked _ rfl rfl rfl (List.Subset.refl _) (.inl rfl)
    · exact asked _ rfl rfl rfl (List.subset_append_left _ _) (.inr rfl)
  · exact asked _ rfl rfl rfl (List.Subset.refl _) (.inl rfl)

theorem handing_established (handing : Handing transport) (past : Past transport socket)
    (unclosed : ∀ native, transport.sockets[socket]? = some native → native.closed = false) :
    Handing (established options socket transport) := by
  have opens : ∀ next : Transport Server Data,
      next.sockets = transport.sockets.modify socket (fun native =>
        { native with listening := true }) →
      next.socket = some socket → next.status = .opened →
      next.lazyCloses = transport.lazyCloses →
      next.phase = .idle ∨ next.phase = .onOpen socket → Handing next := by
    intro next sockets held status lazyCloses phase
    have grown : Grown transport next := grown_modify sockets later_listening
    have elsewhere (other : Phase) (away : other ≠ .idle) (else_ : other ≠ .onOpen socket) :
        next.phase ≠ other := by
      intro now
      cases phase with
      | inl rests => exact away (now.symm.trans rests)
      | inr opening => exact else_ (now.symm.trans opening)
    have other_one (other : Nat) (after : NativeSocket Server)
        (found : next.sockets[other]? = some after) (closed : after.closed = true) :
        socket ≠ other ∧ transport.sockets[other]? = some after := by
      rw [sockets] at found
      by_cases same : socket = other
      · subst same
        obtain ⟨native, known, whole⟩ := Option.map_eq_some_iff.mp
          ((@touch_get Server Data transport socket socket _).symm.trans found)
        rw [if_pos rfl] at whole
        rw [← whole] at closed
        cases (unclosed native known).symm.trans closed
      · exact ⟨same, (touch_other same).symm.trans found⟩
    constructor
    · intro index now
      cases held.symm.trans now
      exact past.grown grown
    · intro index member
      exact (handing.lazyCloses index (lazyCloses ▸ member)).grown grown
    · intro index now
      cases phase with
      | inl rests => cases now.symm.trans rests
      | inr opening =>
        cases now.symm.trans opening
        exact past.grown grown
    · intro index now
      exact absurd now (elsewhere _ (by simp) (by simp))
    · intro index now
      exact absurd now (elsewhere _ (by simp) (by simp))
    · intro now
      cases now.symm.trans status
    · intro other after found closed
      obtain ⟨apart, before⟩ := other_one other after found closed
      refine ⟨(handing.shut other after before closed).past, ?_, ?_, ?_⟩
      · intro _ now
        exact apart (Option.some.inj (held.symm.trans now))
      · exact elsewhere _ (by simp) (by simp)
      · intro now
        refine absurd now (elsewhere _ (by simp) ?_)
        intro same
        cases same
        exact apart rfl
  unfold established
  dsimp only
  split
  · exact opens _ rfl rfl rfl rfl (.inr rfl)
  · exact opens _ rfl rfl rfl rfl (.inl rfl)

theorem handing_failed (handing : Handing transport) (round : Nat) (server : Server)
    {status : TransportStatus} (opened : status ≠ .opened) (closing : status ≠ .closing) :
    Handing (attemptFailed options round server status transport) := by
  rcases attempt_failed_cases options round server status transport with
    same | same | same | ⟨retryIndex, reports, same⟩
  · rw [same]
    exact handing
  · rw [same]
    exact handing_next_end handing round
  · rw [same]
    have again : Handing (retrying transport round) := handing.of_same rfl rfl rfl (.inl rfl) id id
    exact handing_next_end again round
  · rw [same]
    exact handing.of_same rfl rfl rfl (.inl rfl) (fun now => absurd now opened)
      fun now => absurd now closing

theorem handing_complete (handing : Handing transport) (idle : transport.phase = .idle)
    {found : NativeSocket Server} (known : transport.sockets[socket]? = some found)
    (awaited : found.awaited = true) {status : TransportStatus} (closing : status ≠ .closing) :
    Handing (connectComplete options socket native status transport) := by
  have completed : Handing (transport.touch socket fun native => { native with awaited := false }) :=
    handing_touch handing later_completed (by intro _; rfl) (by intro _; rfl)
  have present : (transport.touch socket fun native => { native with awaited := false }).sockets[socket]? =
      some { found with awaited := false } := touch_self known
  have past : Past (transport.touch socket fun native => { native with awaited := false }) socket :=
    ⟨_, present, rfl⟩
  -- a closed socket would not have been awaited
  have open_ : found.closed = false := by
    by_contra closed
    have shut := handing.shut socket found known (by simpa using closed)
    cases shut.past.symm.trans awaited
  have unclosed : ∀ other, (transport.touch socket fun native =>
      { native with awaited := false }).sockets[socket]? = some other → other.closed = false := by
    intro other found
    cases present.symm.trans found
    exact open_
  rcases connect_complete_cases options socket native status transport with
    ⟨-, -, same⟩ | ⟨-, failed, same⟩ | ⟨shutting, same⟩ | ⟨-, same⟩ | ⟨-, -, same⟩
  · rw [same]
    exact handing_established completed past unclosed
  · rw [same]
    exact handing_failed completed _ _ failed closing
  · rw [same]
    exact handing_flush_closing completed past (handing.closing shutting) unclosed
  · rw [same]
    refine handing_close completed past rfl rfl (List.Subset.refl _) idle ?_ ?_
    · simp
    · intro now
      cases now
  · rw [same]
    exact completed

theorem handing_onclose (handing : Handing transport) (past : Past transport socket) :
    Handing (onclose options socket transport) := by
  have left : Handing (leaving socket transport) := by
    refine handing.of_same rfl rfl rfl (.inl rfl) ?_ ?_
    · intro now
      cases now
    · intro now
      cases now
  rcases onclose_cases options socket transport with
    ⟨-, -, -, after⟩ | ⟨-, -, -, after⟩ | ⟨-, onCloses, after⟩
  · rw [after]
    apply handing_connect_again left past
    simp [leaving]
  · rw [after]
    refine ⟨left.held, left.lazyCloses, ?_, ?_, ?_, left.closing, ?_⟩
    · intro other now
      cases now
    · intro other now
      cases now
    · intro other now
      cases now
      exact ⟨past, by simp [leaving]⟩
    · intro other native known closed
      have shut := left.shut other native known closed
      refine ⟨shut.past, shut.held, ?_, ?_⟩
      · intro now
        cases now
      · intro now
        cases now
  · rw [after]
    exact handing.of_same rfl rfl rfl (.inl rfl) id id

theorem step_handing (handing : Handing transport) (fresh : EachSocket Fresh transport)
    (taken : step options transport event = some next) : Handing next := by
  cases step_moves taken with
  | connect server proxys => exact handing_connect handing _ _ _
  | send data =>
    obtain ⟨queue, handed, onSends, dropped, sent⟩ := send_eq options data (noteSend data transport)
    rw [sent]
    exact handing.of_same rfl rfl rfl (.inl rfl) id id
  | close returns => exact handing_after_close handing
  | reconnect returns => exact handing_after_reconnect handing
  | resumeOpen phase => exact handing.of_same rfl rfl rfl (.inr rfl) id id
  | resumeReconnecting phase =>
    obtain ⟨past, elsewhere⟩ := handing.asking _ phase
    exact handing_connect_again handing past elsewhere
  | resumeSend phase =>
    obtain ⟨past, none⟩ := handing.flushing _ phase
    apply handing_flush_closing handing past none
    intro native known
    by_contra closed
    exact (handing.shut _ native known (by simpa using closed)).flushing phase
  | @opened socket native idle known awaited =>
    have noted : Handing (noteOpened socket transport) :=
      handing.of_same rfl rfl rfl (.inl rfl) id id
    exact handing_complete noted idle known awaited (by simp)
  | openedLate idle known late => exact handing.of_same rfl rfl rfl (.inl rfl) id id
  | @errored socket native idle known awaited =>
    have ended : Handing (transport.touch socket fun native => { native with ended := true }) :=
      handing_touch handing later_ended (by intro _; rfl) (by intro _; rfl)
    exact handing_complete ended idle (touch_self known) awaited (by simp)
  | erroredLate idle known late =>
    exact handing_touch handing later_ended (by intro _; rfl) (by intro _; rfl)
  | message socket idle => exact handing
  | @closed socket native idle known listening =>
    have lost : Handing (transport.touch socket fun native =>
        { native with ended := true, lost := true }) :=
      handing_touch handing later_lost (by intro _; rfl) (by intro _; rfl)
    apply handing_onclose lost
    refine ⟨_, touch_self known, ?_⟩
    by_contra awaited
    have heard := (fresh _ (List.mem_of_getElem? known) (by simpa using awaited)).1
    cases heard.symm.trans listening
  | closedUnheard idle known deaf =>
    exact handing_touch handing later_ended (by intro _; rfl) (by intro _; rfl)
  | timeout idle known awaited => exact handing_complete handing idle known awaited (by simp)
  | nextStart idle scheduled =>
    apply handing_next_start
    exact handing.of_same rfl rfl rfl (.inl rfl) id id
  | lazyClose idle scheduled =>
    refine handing_close handing (handing.lazyCloses _ scheduled) rfl rfl
      List.erase_subset idle ?_ ?_
    · simp
    · intro now
      cases now
  | reconnectTimer idle scheduled =>
    apply handing_connect
    refine handing.of_same rfl rfl rfl (.inl rfl) ?_ ?_
    · intro now
      cases now
    · intro now
      cases now

end Sound

def receivers (transport next : Transport Server Data) : List Nat :=
  (next.log.handed.drop transport.log.handed.length).map Prod.fst

def HandsTo (socket : Nat) (transport next : Transport Server Data) : Prop :=
  ∃ items : List Data,
    next.log.handed = transport.log.handed ++ items.map fun data => (socket, data)

/-- Why a step hands something to a socket. -/
inductive Receives (transport : Transport Server Data) : Event Server Data → Nat → Prop where
  | sent {socket : Nat} {data : Data} (opened : transport.status = .opened)
      (held : transport.socket = some socket) : Receives transport (.call (.send data)) socket
  | opens {socket : Nat} {native : NativeSocket Server}
      (known : transport.sockets[socket]? = some native) (awaited : native.awaited = true) :
      Receives transport (.opened socket) socket
  | flushed {socket : Nat} (phase : transport.phase = .onOpen socket)
      (queued : transport.queue ≠ []) : Receives transport .resume socket
  | resumed {socket : Nat} (phase : transport.phase = .onSend socket) :
      Receives transport .resume socket

section Receivers

variable {socket other : Nat} {native : NativeSocket Server}

theorem receivers_none (same : next.log.handed = transport.log.handed) :
    receivers transport next = [] := by
  rw [receivers, same, List.drop_length, List.map_nil]

theorem receivers_one (hands : HandsTo socket transport next)
    (member : other ∈ receivers transport next) : other = socket := by
  obtain ⟨items, handed⟩ := hands
  rw [receivers, handed, List.drop_left, List.map_map] at member
  obtain ⟨item, -, same⟩ := List.mem_map.mp member
  exact same.symm

theorem flush_closing_hands (socket : Nat) (transport : Transport Server Data) :
    HandsTo socket transport (flushClosing options socket transport) := by
  unfold flushClosing
  split
  · split
    · exact ⟨[], (List.append_nil _).symm⟩
    next data queue _ => exact ⟨[data], rfl⟩
  · exact ⟨transport.queue, rfl⟩

theorem established_hands (socket : Nat) (transport : Transport Server Data) :
    HandsTo socket transport (established options socket transport) := by
  unfold established
  dsimp only
  split
  · exact ⟨[], (List.append_nil _).symm⟩
  · exact ⟨transport.queue, rfl⟩

theorem attempt_failed_handed (round : Nat) (server : Server) (status : TransportStatus)
    (transport : Transport Server Data) :
    (attemptFailed options round server status transport).log.handed = transport.log.handed ∧
      (attemptFailed options round server status transport).phase = transport.phase := by
  rcases attempt_failed_cases options round server status transport with
    same | same | same | ⟨retryIndex, reports, same⟩
  · rw [same]
    exact ⟨rfl, rfl⟩
  · have attempting := next_end_attempting options round transport
    rw [same, attempting.log, attempting.phase]
    exact ⟨rfl, rfl⟩
  · have attempting := next_end_attempting options round (retrying transport round)
    rw [same, attempting.log, attempting.phase]
    exact ⟨rfl, rfl⟩
  · rw [same]
    exact ⟨rfl, rfl⟩

theorem connect_again_handed (socket : Nat) (transport : Transport Server Data) :
    (connectAgain options socket transport).log.handed = transport.log.handed := by
  rcases connect_again_cases options socket transport with same | ⟨native, closure, -, -, again⟩
  · rw [same]
  · rw [again, (connect_attempting _ _ _ _).log]
    rfl

theorem onclose_handed (socket : Nat) (transport : Transport Server Data) :
    (onclose options socket transport).log.handed = transport.log.handed := by
  rcases onclose_cases options socket transport with
    ⟨-, -, -, after⟩ | ⟨-, -, -, after⟩ | ⟨-, onCloses, after⟩
  · rw [after]
    exact connect_again_handed socket (leaving socket transport)
  · rw [after]
    rfl
  · rw [after]

theorem after_reconnect_handed (transport : Transport Server Data) :
    (afterReconnect transport).log.handed = transport.log.handed := by
  unfold afterReconnect
  split
  · rfl
  · split
    · rfl
    · rw [(connect_attempting _ _ _ _).log]
      rfl

theorem failed_handed {status : TransportStatus} (failed : status ≠ .opened) :
    (connectComplete options socket native status transport).log.handed = transport.log.handed ∧
      (connectComplete options socket native status transport).phase = transport.phase := by
  by_cases connecting : transport.status = .connecting
  · rw [connect_complete_fails options native connecting failed]
    exact attempt_failed_handed _ _ _ _
  · by_cases closing : transport.status = .closing
    · rw [connect_complete_closes options native closing fun flushes => failed flushes.1]
      exact ⟨rfl, rfl⟩
    · rw [connect_complete_ignored options connecting closing]
      exact ⟨rfl, rfl⟩

theorem complete_hands (status : TransportStatus) :
    HandsTo socket transport (connectComplete options socket native status transport) := by
  rcases connect_complete_cases options socket native status transport with
    ⟨-, -, same⟩ | ⟨-, -, same⟩ | ⟨-, same⟩ | ⟨-, same⟩ | ⟨-, -, same⟩
  · rw [same]
    exact established_hands socket _
  · rw [same]
    exact ⟨[], (attempt_failed_handed _ _ _ _).1.trans (List.append_nil _).symm⟩
  · rw [same]
    exact flush_closing_hands socket _
  · rw [same]
    exact ⟨[], (List.append_nil _).symm⟩
  · rw [same]
    exact ⟨[], (List.append_nil _).symm⟩

theorem send_handed (data : Data) (transport : Transport Server Data) :
    (send options data (noteSend data transport)).log.handed = transport.log.handed ∨
      ∃ socket, transport.status = .opened ∧ transport.socket = some socket ∧
        HandsTo socket transport (send options data (noteSend data transport)) := by
  by_cases opened : transport.status = .opened
  · cases held : transport.socket with
    | none =>
      left
      unfold send noteSend
      dsimp only
      rw [if_neg (not_not.mpr opened), held]
    | some socket =>
      right
      refine ⟨socket, opened, rfl, [data], ?_⟩
      rw [send_opened opened held]
      rfl
  · left
    obtain ⟨queue, dropped, sent⟩ := @send_away _ _ options _ data opened
    rw [sent]
    rfl

theorem step_receives (taken : step options transport event = some next)
    (member : socket ∈ receivers transport next) : Receives transport event socket := by
  have nothing (same : next.log.handed = transport.log.handed) :
      Receives transport event socket := by
    rw [receivers_none same] at member
    cases member
  cases step_moves taken with
  | connect server proxys =>
    apply nothing
    rw [(connect_attempting _ _ _ _).log]
  | send data =>
    rcases send_handed data transport with same | ⟨own, opened, held, hands⟩
    · exact nothing same
    · rw [receivers_one hands member]
      exact .sent opened held
  | close returns => exact nothing rfl
  | reconnect returns => exact nothing (after_reconnect_handed transport)
  | @resumeOpen own phase =>
    have hands : HandsTo own transport (flushQueue own transport) := ⟨transport.queue, rfl⟩
    rw [receivers_one hands member]
    apply Receives.flushed phase
    intro empty
    rw [receivers_none] at member
    · cases member
    · rw [flushQueue, empty]
      exact List.append_nil _
  | resumeReconnecting phase => exact nothing (connect_again_handed _ transport)
  | resumeSend phase =>
    rw [receivers_one (flush_closing_hands _ transport) member]
    exact .resumed phase
  | @opened own native idle known awaited =>
    have hands : HandsTo own transport
        (connectComplete options own native .opened (noteOpened own transport)) :=
      @complete_hands Server Data options (noteOpened own transport) own native _
    rw [receivers_one hands member]
    exact .opens known awaited
  | openedLate idle known late => exact nothing rfl
  | errored idle known awaited => exact nothing (failed_handed (by simp)).1
  | erroredLate idle known late => exact nothing rfl
  | message other idle => exact nothing rfl
  | closed idle known listening => exact nothing (onclose_handed _ _)
  | closedUnheard idle known deaf => exact nothing rfl
  | timeout idle known awaited => exact nothing (failed_handed (by simp)).1
  | nextStart idle scheduled =>
    apply nothing
    rw [(next_start_attempting _ _).log]
  | lazyClose idle scheduled => exact nothing rfl
  | reconnectTimer idle scheduled =>
    apply nothing
    rw [(connect_attempting _ _ _ _).log]

theorem opens_unclosed (handing : Handing transport) (known : transport.sockets[socket]? = some native)
    (awaited : native.awaited = true)
    (member : other ∈ receivers transport (connectComplete options socket native .opened transport)) :
    ∃ after, (connectComplete options socket native .opened transport).sockets[socket]? = some after ∧
      after.closed = false := by
  have unclosed : native.closed = false := by
    by_contra closed
    cases (handing.shut socket native known (by simpa using closed)).past.symm.trans awaited
  have present : (transport.touch socket fun native => { native with awaited := false }).sockets[socket]? =
      some { native with awaited := false } := touch_self known
  rcases connect_complete_cases options socket native .opened transport with
    ⟨-, -, same⟩ | ⟨-, failed, -⟩ | ⟨-, same⟩ | ⟨-, same⟩ | ⟨-, -, same⟩
  · obtain ⟨queue, phase, handed, opened⟩ := established_eq options socket
      (transport.touch socket fun native => { native with awaited := false })
    rw [same, opened]
    exact ⟨_, touch_self present, unclosed⟩
  · exact absurd rfl failed
  · rw [same, flush_closing_sockets]
    exact ⟨_, present, unclosed⟩
  · rw [same, receivers_none] at member
    · cases member
    · rfl
  · rw [same]
    exact ⟨_, present, unclosed⟩

/-- A socket that is handed something is closed in one case only, and its handlers are gone then. -/
theorem receives_closed (handing : Handing transport)
    (taken : step options transport event = some next)
    (member : socket ∈ receivers transport next) :
    ∃ after, next.sockets[socket]? = some after ∧ (after.closed = true →
      after.listening = false ∧ event = .resume ∧ transport.phase = .onOpen socket ∧
        transport.queue ≠ []) := by
  have receives := step_receives taken member
  have moves := step_moves taken
  cases receives with
  | @sent _ data opened held =>
    cases moves
    obtain ⟨native, known, -⟩ := handing.held socket held
    obtain ⟨queue, handed, onSends, dropped, sent⟩ := send_eq options data (noteSend data transport)
    refine ⟨native, ?_, ?_⟩
    · rw [sent]
      exact known
    · intro closed
      exact absurd held ((handing.shut socket native known closed).held opened)
  | opens known awaited =>
    cases moves with
    | opened idle found waits =>
      have noted : Handing (noteOpened socket transport) :=
        handing.of_same rfl rfl rfl (.inl rfl) id id
      obtain ⟨after, still, unclosed⟩ := opens_unclosed noted found waits member
      exact ⟨after, still, fun closed => by cases unclosed.symm.trans closed⟩
    | openedLate idle found late =>
      cases known.symm.trans found
      cases late.symm.trans awaited
  | flushed phase queued =>
    obtain ⟨native, known, -⟩ := handing.opening socket phase
    cases moves with
    | resumeOpen same =>
      refine ⟨native, known, ?_⟩
      intro closed
      exact ⟨(handing.shut socket native known closed).opening phase, rfl, phase, queued⟩
    | resumeReconnecting other => cases phase.symm.trans other
    | resumeSend other => cases phase.symm.trans other
  | resumed phase =>
    obtain ⟨⟨native, known, -⟩, -⟩ := handing.flushing socket phase
    cases moves with
    | resumeOpen other => cases phase.symm.trans other
    | resumeReconnecting other => cases phase.symm.trans other
    | resumeSend same =>
      refine ⟨native, ?_, ?_⟩
      · rw [flush_closing_sockets]
        exact known
      · intro closed
        exact absurd phase (handing.shut socket native known closed).flushing

end Receivers

def Serves (transport : Transport Server Data) (socket : Nat) : Prop :=
  transport.socket = some socket ∨ transport.phase = .onOpen socket ∨
    transport.phase = .onSend socket

section Serving

variable {socket other : Nat} {native : NativeSocket Server}

theorem Serves.earlier (serves : Serves next socket)
    (held : next.socket = transport.socket ∨ next.socket = none)
    (phase : next.phase = transport.phase ∨ next.phase = .idle ∨
      ∃ other, next.phase = .onReconnecting other) : Serves transport socket := by
  have same (now : next.phase = .onOpen socket ∨ next.phase = .onSend socket) :
      next.phase = transport.phase := by
    rcases phase with kept | idle | ⟨other, asks⟩
    · exact kept
    · rw [idle] at now
      simp at now
    · rw [asks] at now
      simp at now
  rcases serves with now | now | now
  · cases held with
    | inl kept => exact .inl (kept.symm.trans now)
    | inr gone => cases gone.symm.trans now
  · exact .inr (.inl ((same (.inl now)).symm.trans now))
  · exact .inr (.inr ((same (.inr now)).symm.trans now))

theorem connect_again_phase_cases (socket : Nat) (transport : Transport Server Data) :
    (connectAgain options socket transport).phase = transport.phase ∨
      (connectAgain options socket transport).phase = .idle := by
  rcases connect_again_cases options socket transport with same | ⟨native, closure, -, -, again⟩
  · exact .inl (congrArg Transport.phase same)
  · rw [again, (connect_attempting _ _ _ _).phase]
    exact .inr rfl

theorem flush_closing_phase (socket : Nat) (transport : Transport Server Data) :
    (flushClosing options socket transport).phase = .idle ∨
      (flushClosing options socket transport).phase = .onSend socket := by
  unfold flushClosing
  split
  · split
    · exact .inl rfl
    · exact .inr rfl
  · exact .inl rfl

/-- Behind the open event of a socket no other one serves that did not before. -/
theorem complete_serves (serves : Serves (connectComplete options other native .opened transport) socket) :
    Serves transport socket ∨ socket = other := by
  rcases connect_complete_cases options other native .opened transport with
    ⟨-, -, same⟩ | ⟨-, failed, -⟩ | ⟨-, same⟩ | ⟨-, same⟩ | ⟨-, -, same⟩
  · rw [same] at serves
    right
    rcases serves with now | now | now
    · rw [established_socket] at now
      exact (Option.some.inj now).symm
    · unfold established at now
      dsimp only at now
      split at now
      · cases now
        rfl
      · cases now
    · unfold established at now
      dsimp only at now
      split at now
      · cases now
      · cases now
  · exact absurd rfl failed
  · rw [same] at serves
    have stays := @flush_closing_phase Server Data options other
      (transport.touch other fun native => { native with awaited := false })
    obtain ⟨queue, phase, handed, onSends, lazyCloses, flushed⟩ := flush_closing_eq options other
      (transport.touch other fun native => { native with awaited := false })
    rcases serves with now | now | now
    · rw [flushed] at now
      exact .inl (.inl now)
    · rw [now] at stays
      simp at stays
    · rw [now] at stays
      simp only [reduceCtorEq, Phase.onSend.injEq, false_or] at stays
      exact .inr stays
  · rw [same] at serves
    exact .inl (serves.earlier (.inl rfl) (.inl rfl))
  · rw [same] at serves
    exact .inl (serves.earlier (.inl rfl) (.inl rfl))

theorem step_serves (taken : step options transport event = some next) (serves : Serves next socket) :
    Serves transport socket ∨ event = .opened socket := by
  have held : (∀ own, event ≠ .opened own) → next.socket = transport.socket ∨ next.socket = none := by
    intro unopened
    rcases step_stays options taken with stays | ⟨own, native, opening, -⟩
    · exact stays.held.imp id And.left
    · exact absurd opening (unopened own)
  have earlier (unopened : ∀ own, event ≠ .opened own) (phase : next.phase = transport.phase ∨
      next.phase = .idle ∨ ∃ other, next.phase = .onReconnecting other) :
      Serves transport socket ∨ event = .opened socket :=
    .inl (serves.earlier (held unopened) phase)
  cases step_moves taken with
  | connect server proxys => exact earlier (by simp) (.inl (connect_attempting _ _ _ _).phase)
  | send data =>
    refine earlier (by simp) (.inl ?_)
    obtain ⟨queue, handed, onSends, dropped, sent⟩ := send_eq options data (noteSend data transport)
    rw [sent]
    rfl
  | close returns => exact earlier (by simp) (.inl rfl)
  | reconnect returns =>
    refine earlier (by simp) (.inl ?_)
    unfold afterReconnect
    split
    · rfl
    · split
      · rfl
      · exact (connect_attempting _ _ _ _).phase
  | resumeOpen phase => exact earlier (by simp) (.inr (.inl rfl))
  | resumeReconnecting phase =>
    exact earlier (by simp) ((connect_again_phase_cases _ transport).imp_right .inl)
  | resumeSend phase =>
    refine earlier (by simp) ?_
    rcases @flush_closing_phase Server Data options _ transport with idle | again
    · exact .inr (.inl idle)
    · exact .inl (again.trans phase.symm)
  | @opened own native idle known awaited =>
    cases complete_serves serves with
    | inl before => exact .inl before
    | inr same => exact .inr (congrArg Event.opened same.symm)
  | openedLate idle known late => exact .inl serves
  | errored idle known awaited => exact earlier (by simp) (.inl (failed_handed (by simp)).2)
  | erroredLate idle known late => exact .inl serves
  | message other idle => exact .inl serves
  | @closed own native idle known listening =>
    refine earlier (by simp) ?_
    rcases onclose_cases options own
        (transport.touch own fun native => { native with ended := true, lost := true }) with
      ⟨-, -, -, after⟩ | ⟨-, -, -, after⟩ | ⟨-, onCloses, after⟩
    · rw [after]
      exact (connect_again_phase_cases _ _).imp_right .inl
    · rw [after]
      exact .inr (.inr ⟨own, rfl⟩)
    · rw [after]
      exact .inl rfl
  | closedUnheard idle known deaf => exact .inl serves
  | timeout idle known awaited => exact earlier (by simp) (.inl (failed_handed (by simp)).2)
  | nextStart idle scheduled => exact earlier (by simp) (.inl (next_start_attempting _ _).phase)
  | lazyClose idle scheduled => exact .inl serves
  | reconnectTimer idle scheduled => exact earlier (by simp) (.inl (connect_attempting _ _ _ _).phase)

end Serving

end WebTransportGos.Helper.Transport
