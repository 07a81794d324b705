import WebTransportGos.Helper.TransportNet
import WebTransportGos.Helper.TransportHanding

/-!
To which objects a Transport over WebTransportWS hands data. Until its `connect` has returned an
object has not all of its streams, and behind `close` it has none, and `send` throws.
-/

namespace WebTransportGos.Helper.Transport

open StepSystem

set_option autoImplicit false

variable {Server Data : Type*} {options : TransportOptions}
  {transport next : Transport Server Data}

/-- What is handed over goes to objects whose `connect` has returned; one that is closed calls no
handler of the transport when its `send` throws. -/
def HandedReturned (state : WsNet Server Data) (_ : NetEvent Server Data)
    (next : WsNet Server Data) : Prop :=
  ∀ socket ∈ receivers state.transport next.transport, ∃ life native,
    next.lives[socket]? = some life ∧ life.stage = .returned ∧
      next.transport.sockets[socket]? = some native ∧
      (life.nulled = true → native.listening = false)

def HandedOpen (state : WsNet Server Data) (_ : NetEvent Server Data)
    (next : WsNet Server Data) : Prop :=
  ∀ socket ∈ receivers state.transport next.transport, ∃ life,
    next.lives[socket]? = some life ∧ life.nulled = false

/-- A call of `onOpen` that has closed its socket leaves nothing in the queue. -/
def FlushesOpen (state : WsNet Server Data) (event : NetEvent Server Data)
    (_ : WsNet Server Data) : Prop :=
  event = .transport .resume → ∀ socket native, state.transport.phase = .onOpen socket →
    state.transport.sockets[socket]? = some native → native.closed = true →
      state.transport.queue = []

structure Objects (transport : Transport Server Data) (lives : List WsLife) : Prop where
  nulled : ∀ (socket : Nat) (native : NativeSocket Server) (life : WsLife),
    transport.sockets[socket]? = some native → lives[socket]? = some life →
      life.nulled = native.closed
  serves : ∀ socket, Serves transport socket → ∃ life, lives[socket]? = some life ∧
    life.stage = .returned

section Objects

variable {new life after : WsLife} {lives : List WsLife} {socket : Nat}

theorem Objects.set (objects : Objects transport lives) {called : Option Callback}
    {event : WsLife.Event} (known : lives[socket]? = some life) (outer : isCall event = false)
    (reacts : life.react event = some (after, called)) :
    Objects transport (lives.set socket after) := by
  have inside := (List.getElem?_eq_some_iff.mp known).1
  have kept : after.nulled = life.nulled := by
    apply WsLife.nulled_kept reacts
    intro same
    rw [same] at outer
    cases outer
  constructor
  · intro other native found stands present
    by_cases same : socket = other
    · subst same
      rw [List.getElem?_set_self inside] at present
      rw [← Option.some.inj present, kept]
      exact objects.nulled socket native life stands known
    · rw [List.getElem?_set_ne same] at present
      exact objects.nulled other native found stands present
  · intro other serves
    obtain ⟨found, present, returned⟩ := objects.serves other serves
    by_cases same : socket = other
    · subst same
      cases known.symm.trans present
      exact ⟨after, List.getElem?_set_self inside, WsLife.returned_stays returned reacts⟩
    · exact ⟨found, (List.getElem?_set_ne same).trans present, returned⟩

/-- The transport has moved. What has begun to serve must have opened. -/
theorem Objects.moves (objects : Objects transport lives) (begins : new.nulled = false)
    (length : lives.length = transport.sockets.length) (grown : Grown transport next)
    (opened : ∀ socket, Serves next socket → Serves transport socket ∨
      ∃ life, lives[socket]? = some life ∧ life.stage = .returned) :
    Objects next (attend new lives next.sockets) := by
  have stands (socket : Nat) {life : WsLife} (earlier : lives[socket]? = some life) :
      ∃ native after, transport.sockets[socket]? = some native ∧
        next.sockets[socket]? = some after ∧ Later native after := by
    have inside : socket < transport.sockets.length :=
      length ▸ (List.getElem?_eq_some_iff.mp earlier).1
    obtain ⟨after, found, later⟩ := grown socket _ (List.getElem?_eq_getElem inside)
    exact ⟨_, after, List.getElem?_eq_getElem inside, found, later⟩
  constructor
  · intro socket native life found present
    cases earlier : lives[socket]? with
    | none =>
      rw [attend_get, found, Option.map_some, List.getD_eq_getElem?_getD, earlier,
        Option.getD_none] at present
      rw [← Option.some.inj present]
      exact (congrArg (· || native.closed) begins).trans (Bool.false_or _)
    | some own =>
      obtain ⟨before, other, known, same, later⟩ := stands socket earlier
      cases found.symm.trans same
      rw [attend_known earlier found] at present
      rw [← Option.some.inj present]
      dsimp only
      rw [objects.nulled socket before own known earlier]
      cases closed : before.closed with
      | true => exact (later.closed closed).symm
      | false => rfl
  · intro socket now
    have returned : ∃ life, lives[socket]? = some life ∧ life.stage = .returned := by
      cases opened socket now with
      | inl before => exact objects.serves socket before
      | inr new => exact new
    obtain ⟨life, known, returned⟩ := returned
    obtain ⟨-, native, -, found, -⟩ := stands socket known
    exact ⟨_, attend_known known found, returned⟩

end Objects

structure Handed (state : WsNet Server Data) : Prop where
  handing : Handing state.transport
  fresh : EachSocket Fresh state.transport
  objects : Objects state.transport state.lives

section Runs

variable {given : WebTransportWSOptions} {useDatagrams : Bool} {state next : WsNet Server Data}
  {event : NetEvent Server Data} {socket : Nat}

theorem new_handed : Handed (newWsNet Server Data) := by
  have unknown (socket : Nat) : ¬Serves (newTransport Server Data) socket := by
    intro serves
    rcases serves with now | now | now
    · cases now
    · cases now
    · cases now
  refine ⟨?_, ?_, ?_, ?_⟩
  · constructor
    · intro socket now
      cases now
    · intro socket member
      cases member
    · intro socket now
      cases now
    · intro socket now
      cases now
    · intro socket now
      cases now
    · intro now
      cases now
    · intro socket native known
      cases known
  · intro native member
    cases member
  · intro socket native life known
    cases known
  · intro socket now
    exact absurd now (unknown socket)

/-- A step of the net is one of the transport, or of an object alone. An object that calls `onopen`
has opened. -/
inductive Driven (options : TransportOptions) (new : WsLife) (state : WsNet Server Data) :
    NetEvent Server Data → WsNet Server Data → Prop where
  | alone {event : NetEvent Server Data} {lives : List WsLife}
      (objects : Objects state.transport lives) : Driven options new state event ⟨state.transport, lives⟩
  | moves {event : NetEvent Server Data} {move : Event Server Data} {lives : List WsLife}
      {after : Transport Server Data} (taken : step options state.transport move = some after)
      (length : lives.length = state.transport.sockets.length)
      (objects : Objects state.transport lives)
      (opens : ∀ socket, move = .opened socket → ∃ life, lives[socket]? = some life ∧
        life.stage = .returned)
      (resumes : move = .resume → event = .transport .resume) :
      Driven options new state event (moved new lives after)

theorem net_driven (reached : Reachable (netStep options (newWsLife given useDatagrams))
      (newWsNet Server Data) state) (handed : Handed state)
    (taken : netStep options (newWsLife given useDatagrams) state event = some next) :
    Driven options (newWsLife given useDatagrams) state event next := by
  obtain ⟨abstract, -, tracks⟩ := net_refines options given useDatagrams state reached
  cases net_moves taken with
  | @transport move after own stepped =>
    apply Driven.moves stepped tracks.length handed.objects
    · intro socket same
      rw [same] at own
      cases own
    · intro same
      rw [same]
  | silent known outer reacts => exact .alone (handed.objects.set known outer reacts)
  | @calls socket event life after callback stepped known outer reacts handled =>
    apply Driven.moves handled (List.length_set.trans tracks.length)
      (handed.objects.set known outer reacts)
    · intro other same
      cases callback with
      | onopen =>
        cases same
        have returned : life.stage = .returned := by
          by_contra early
          have late := ((tracks.fits.counts socket life known).counted.early early).2.2
          cases late.symm.trans (WsLife.onopen_due reacts)
        exact ⟨after, List.getElem?_set_self (List.getElem?_eq_some_iff.mp known).1,
          WsLife.returned_stays returned reacts⟩
      | onmessage => cases same
      | onclose => cases same
    · intro same
      cases callback with
      | onopen => cases same
      | onmessage => cases same
      | onclose => cases same

theorem handed_step (handed : Handed state) {new : WsLife} (begins : new.nulled = false)
    (driven : Driven options new state event next) : Handed next := by
  cases driven with
  | alone objects => exact ⟨handed.handing, handed.fresh, objects⟩
  | moves taken length objects opens resumes =>
    refine ⟨step_handing handed.handing handed.fresh taken,
      step_lives options fresh_law taken handed.fresh, ?_⟩
    apply objects.moves begins length (step_grown options taken)
    intro socket serves
    exact (step_serves taken serves).imp_right (opens socket)

theorem Receives.serves {move : Event Server Data} (receives : Receives transport move socket) :
    Serves transport socket ∨ move = .opened socket := by
  cases receives with
  | sent opened held => exact .inl (.inl held)
  | opens known awaited => exact .inr rfl
  | flushed phase queued => exact .inl (.inr (.inl phase))
  | resumed phase => exact .inl (.inr (.inr phase))

/-- To whom a step hands: an object that has opened, closed in the one case only. -/
theorem handed_closed (handed : Handed state) {new : WsLife} (begins : new.nulled = false)
    (driven : Driven options new state event next)
    (member : socket ∈ receivers state.transport next.transport) : ∃ life native,
      next.lives[socket]? = some life ∧ life.stage = .returned ∧
      next.transport.sockets[socket]? = some native ∧ life.nulled = native.closed ∧
      (native.closed = true → native.listening = false ∧ event = .transport .resume ∧
        state.transport.phase = .onOpen socket ∧ state.transport.queue ≠ []) := by
  have after := handed_step handed begins driven
  cases driven with
  | alone objects =>
    rw [receivers_none rfl] at member
    cases member
  | @moves move lives _ taken length objects opens resumes =>
    obtain ⟨native, found, closed⟩ := receives_closed handed.handing taken member
    have returned : ∃ life, lives[socket]? = some life ∧ life.stage = .returned := by
      cases (step_receives taken member).serves with
      | inl serves => exact objects.serves socket serves
      | inr same => exact opens socket same
    obtain ⟨life, known, returned⟩ := returned
    have attended := @attend_known Server new _ _ _ _ _ known found
    refine ⟨_, native, attended, returned, found, after.objects.nulled socket native _ found attended, ?_⟩
    intro shut
    obtain ⟨deaf, resumed, phase, queued⟩ := closed shut
    exact ⟨deaf, resumes resumed, phase, queued⟩

theorem flush_step {new : WsLife} (phase : state.transport.phase = .onOpen socket)
    (taken : netStep options new state (.transport .resume) = some next) :
    next = moved new state.lives (flushQueue socket state.transport) := by
  have resumes : netStep options new state (.transport .resume) =
      (resume options state.transport).map (moved new state.lives) := rfl
  rw [resumes, resume, phase] at taken
  exact (Option.some.inj taken).symm

theorem handed_open_step (handed : Handed state) {new : WsLife} (begins : new.nulled = false)
    (driven : Driven options new state event next)
    (taken : netStep options new state event = some next) :
    HandedOpen state event next ↔ FlushesOpen state event next := by
  constructor
  · intro opens resumed socket native phase known closed
    by_contra queued
    subst resumed
    have flushed := flush_step phase taken
    have member : socket ∈ receivers state.transport next.transport := by
      obtain ⟨data, later, queue⟩ := List.exists_cons_of_ne_nil queued
      rw [flushed, moved, receivers, flushQueue]
      dsimp only
      rw [List.drop_left, queue]
      exact List.mem_cons_self
    obtain ⟨life, present, unclosed⟩ := opens socket member
    have found : next.transport.sockets[socket]? = some native := by
      rw [flushed]
      exact known
    have shut := (handed_step handed begins driven).objects.nulled socket native life found present
    cases unclosed.symm.trans (shut.trans closed)
  · intro flushes socket member
    obtain ⟨life, native, present, -, found, nulled, closed⟩ :=
      handed_closed handed begins driven member
    refine ⟨life, present, ?_⟩
    by_contra shut
    have closes : native.closed = true := by
      rw [← nulled]
      exact Bool.eq_true_of_not_eq_false shut
    obtain ⟨-, resumed, phase, queued⟩ := closed closes
    subst resumed
    rw [flush_step phase taken] at found
    exact queued (flushes rfl socket native phase found closes)

/-- What is handed over goes to objects that have opened, whatever the application calls and the
objects do; along a run it goes to objects that are not closed, exactly if no call of `onOpen`
that closes its socket leaves something in the queue. -/
theorem handed_open_iff (options : TransportOptions) (given : WebTransportWSOptions)
    (useDatagrams : Bool) (events : List (NetEvent Server Data)) :
    Steps (netStep options (newWsLife given useDatagrams)) HandedReturned (newWsNet Server Data)
        events ∧
      (Steps (netStep options (newWsLife given useDatagrams)) HandedOpen (newWsNet Server Data)
          events ↔
        Steps (netStep options (newWsLife given useDatagrams)) FlushesOpen (newWsNet Server Data)
          events) := by
  let inv (state : WsNet Server Data) : Prop :=
    Reachable (netStep options (newWsLife given useDatagrams)) (newWsNet Server Data) state ∧
      Handed state
  have preserved (state : WsNet Server Data) (event : NetEvent Server Data)
      (next : WsNet Server Data) (before : inv state)
      (taken : netStep options (newWsLife given useDatagrams) state event = some next) :
      inv next := by
    obtain ⟨reached, handed⟩ := before
    exact ⟨reached.trans (reachable_step taken),
      handed_step handed rfl (net_driven reached handed taken)⟩
  constructor
  · apply steps_of_invariant inv _ ⟨reachable_refl _, new_handed⟩
    intro state event next before taken
    refine ⟨?_, preserved state event next before taken⟩
    intro socket member
    obtain ⟨reached, handed⟩ := before
    obtain ⟨life, native, present, returned, found, nulled, closed⟩ :=
      handed_closed handed rfl (net_driven reached handed taken) member
    exact ⟨life, native, present, returned, found, fun shut => (closed (nulled ▸ shut)).1⟩
  · apply steps_iff inv _ _ ⟨reachable_refl _, new_handed⟩
    · intro state event next before taken
      obtain ⟨reached, handed⟩ := before
      exact handed_open_step handed rfl (net_driven reached handed taken) taken
    · intro state event next before _ taken
      exact preserved state event next before taken

end Runs

end WebTransportGos.Helper.Transport
