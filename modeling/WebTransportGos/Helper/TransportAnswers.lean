import WebTransportGos.Helper.TransportNet
import Mathlib.Logic.Relation

/-!
How often Transport.js answers the end of one WebTransportWS: every read loop calls `onclose` when
it ends, and `closed` once more.
-/

namespace WebTransportGos.Helper.Transport

open StepSystem

set_option autoImplicit false

variable {Server Data : Type*} {options : TransportOptions}

def answers (transport : Transport Server Data) (socket : Nat) : Nat :=
  transport.log.reconnects.count socket + transport.log.onCloses.count socket

section Bound

variable {transport next : Transport Server Data} {socket other cap : Nat}
  {state after : WsTransport Server Data}

theorem Keeps.answers (keeps : Keeps transport next) (socket : Nat) :
    next.answers socket = transport.answers socket := by
  rw [Transport.answers, keeps.reconnects, keeps.onCloses, Transport.answers]

theorem closed_answers (taken : step options transport (.closed socket) = some next)
    (other : Nat) : next.answers other ≤ transport.answers other + [socket].count other := by
  cases hears : Hears transport socket with
  | false =>
    rw [(closed_unheard hears taken).1.answers]
    exact Nat.le_add_right _ _
  | true =>
    cases again : options.connectOnClose with
    | true =>
      obtain ⟨-, onCloses, reconnects⟩ := closed_reconnects hears again taken
      rw [answers, onCloses, reconnects, List.count_append, answers]
      omega
    | false =>
      obtain ⟨-, -, reconnects, onCloses⟩ := closed_tells hears again taken
      rw [answers, onCloses, reconnects, List.count_append, answers]
      split
      · omega
      · rw [List.count_nil]
        omega

structure Answered (cap : Nat) (state : WsTransport Server Data) : Prop where
  answers : ∀ socket, state.transport.answers socket ≤
    state.ended.count socket + state.settled.count socket
  ended : ∀ socket, state.ended.count socket ≤ cap
  settled : ∀ socket, state.settled.count socket ≤ 1

theorem count_added {ended : List Nat} {bound : Nat} (all : ∀ other, ended.count other ≤ bound)
    (room : ended.count socket < bound) (other : Nat) :
    (ended ++ [socket]).count other ≤ bound := by
  rw [List.count_append]
  by_cases same : other = socket
  · rw [same, List.count_singleton_self]
    exact room
  · rw [List.count_singleton, if_neg (by simpa using Ne.symm same)]
    exact all other

theorem ws_step_answered {event : WsEvent Server Data} (answered : Answered cap state)
    (taken : wsStep options cap state event = some after) : Answered cap after := by
  cases event with
  | transport event =>
    have moves : ∃ next, step options state.transport event = some next ∧
        { state with transport := next } = after ∧ ∀ socket, event ≠ .closed socket := by
      cases event with
      | closed socket => cases taken
      | errored socket => cases taken
      | _ =>
        obtain ⟨next, moved, same⟩ := Option.map_eq_some_iff.mp taken
        exact ⟨next, moved, same, by simp⟩
    obtain ⟨next, moved, same, other⟩ := moves
    rw [← same]
    refine ⟨?_, answered.ended, answered.settled⟩
    intro socket
    exact ((step_keeps options moved other).answers socket).symm ▸ answered.answers socket
  | loopEnded socket =>
    obtain ⟨room, raised⟩ := Option.ite_none_right_eq_some.mp taken
    obtain ⟨next, moved, same⟩ := Option.map_eq_some_iff.mp raised
    rw [← same]
    refine ⟨?_, count_added answered.ended room, answered.settled⟩
    intro other
    have more := closed_answers moved other
    have before := answered.answers other
    dsimp only at more ⊢
    rw [List.count_append]
    omega
  | closedSettled socket =>
    obtain ⟨fresh, raised⟩ := Option.ite_none_left_eq_some.mp taken
    obtain ⟨next, moved, same⟩ := Option.map_eq_some_iff.mp raised
    rw [← same]
    have none : state.settled.count socket < 1 := by
      rw [List.count_eq_zero.mpr fresh]
      exact Nat.zero_lt_one
    refine ⟨?_, answered.ended, count_added answered.settled none⟩
    intro other
    have more := closed_answers moved other
    have before := answered.answers other
    dsimp only at more ⊢
    rw [List.count_append]
    omega

theorem new_answered (cap : Nat) : Answered cap (newWsTransport Server Data) :=
  ⟨fun _ => Nat.le_refl _, fun _ => Nat.zero_le _, fun _ => Nat.zero_le _⟩

theorem answers_le (given : WebTransportWSOptions) (useDatagrams : Bool)
    {state : WsNet Server Data}
    (reached : Reachable (netStep options (newWsLife given useDatagrams)) (newWsNet Server Data)
      state) (socket : Nat) :
    state.transport.answers socket ≤ (newWsLife given useDatagrams).loops + 1 := by
  obtain ⟨abstract, ran, tracks⟩ := net_refines options given useDatagrams state reached
  have answered := reachable_invariant (fun _ _ _ before taken => ws_step_answered before taken)
    (new_answered _) ran
  have ended := answered.ended socket
  have settled := answered.settled socket
  have most := answered.answers socket
  rw [tracks.transport] at most
  omega

end Bound

section Opening

variable {new : WsLife} {state : WsNet Server Data} {lives : List WsLife} {life : WsLife}
  {socket other : Nat}

theorem attend_new (behind : lives.length ≤ socket) {sockets : List (NativeSocket Server)}
    {native : NativeSocket Server} (known : sockets[socket]? = some native)
    (fresh : native.closed = false) : (attend new lives sockets)[socket]? = some new := by
  rw [attend_get, known, Option.map_some, List.getD_eq_getElem?_getD,
    List.getElem?_eq_none_iff.mpr behind, Option.getD_none, fresh, Bool.or_false]

theorem native_silent (idle : state.transport.phase = .idle)
    (known : state.lives[socket]? = some life) {after : WsLife} (fulfils : life.Fulfils after) :
    netStep options new state (.native socket .fulfilled) =
      some ⟨state.transport, state.lives.set socket after⟩ := by
  have free : ¬(isCall .fulfilled = true ∨ state.transport.phase ≠ .idle) := by
    rw [idle]
    decide
  rw [netStep, if_neg free, known, Option.bind_some, fulfils, Option.bind_some]

theorem native_calls (idle : state.transport.phase = .idle)
    (known : state.lives[socket]? = some life) {event : WsLife.Event} {after : WsLife}
    {callback : Callback} (outer : isCall event = false)
    (reacts : life.react event = some (after, some callback)) :
    netStep options new state (.native socket event) =
      (step options state.transport (handler socket callback)).map
        (moved new (state.lives.set socket after)) := by
  have free : ¬(isCall event = true ∨ state.transport.phase ≠ .idle) := by
    rw [idle, outer]
    decide
  rw [netStep, if_neg free, known, Option.bind_some, reacts, Option.bind_some]

theorem native_opens (idle : state.transport.phase = .idle)
    (known : state.lives[socket]? = some life) {after : WsLife}
    (fulfils : Relation.ReflTransGen WsLife.Fulfils life after) :
    Reachable (netStep options new) state ⟨state.transport, state.lives.set socket after⟩ := by
  have inside := (List.getElem?_eq_some_iff.mp known).1
  induction fulfils with
  | refl =>
    rw [← (List.getElem?_eq_some_iff.mp known).2, List.set_getElem_self]
    exact reachable_refl state
  | @tail between last earlier fulfils induction =>
    apply induction.trans
    have present : (state.lives.set socket between)[socket]? = some between :=
      List.getElem?_set_self inside
    have taken := @native_silent Server Data options new
      ⟨state.transport, state.lives.set socket between⟩ between socket idle present last fulfils
    rw [List.set_set] at taken
    exact reachable_step taken

structure OneOpen (loops socket : Nat) (lives after : List WsLife) : Prop where
  own : ∃ life, after[socket]? = some life ∧ life.settled = false ∧ life.reading = List.range loops
  others : ∀ other life, other ≠ socket → lives[other]? = some life →
    ∃ nulled, after[other]? = some { life with nulled := nulled }

theorem OneOpen.attend {loops : Nat} {between : List WsLife}
    (opens : OneOpen loops socket lives between) {sockets : List (NativeSocket Server)}
    (length : between.length = sockets.length) :
    OneOpen loops socket lives (attend new between sockets) where
  own := by
    obtain ⟨life, known, settled, reading⟩ := opens.own
    have inside : socket < sockets.length := length ▸ (List.getElem?_eq_some_iff.mp known).1
    exact ⟨_, attend_known known (List.getElem?_eq_getElem inside), settled, reading⟩
  others := by
    intro other life apart known
    obtain ⟨before, present⟩ := opens.others other life apart known
    have inside : other < sockets.length := length ▸ (List.getElem?_eq_some_iff.mp present).1
    have found := @attend_known _ new _ _ _ sockets _ present (List.getElem?_eq_getElem inside)
    exact ⟨_, found⟩

def opening (options : TransportOptions) (socket : Nat) (transport : Transport Server Data) :
    Transport Server Data :=
  { ((noteOpened socket transport).touch socket fun native =>
      { native with awaited := false }).touch socket fun native =>
      { native with listening := true } with
    socket := some socket
    status := .opened
    retryIndex := if 0 < options.retryCount then 0 else transport.retryIndex }

theorem opened_step {transport : Transport Server Data} {native : NativeSocket Server}
    (idle : transport.phase = .idle) (connecting : transport.status = .connecting)
    (known : transport.sockets[socket]? = some native) (awaited : native.awaited = true) :
    step options transport (.opened socket) = some (if options.onOpen then
      { opening options socket transport with phase := .onOpen socket }
      else flushQueue socket (opening options socket transport)) := by
  have noted : (noteOpened socket transport).status = .connecting := connecting
  rw [step]
  · rw [if_pos idle, react, handleNative, known, Option.map_some, onopenEvent, if_pos awaited,
      connect_complete_opens options native noted]
    rfl
  · intro call impossible
    cases impossible
  · intro impossible
    cases impossible

/-- `onOpen` does nothing here. -/
theorem awakes {native : NativeSocket Server}
    (opens : ∃ after, Relation.ReflTransGen WsLife.Fulfils new after ∧ after.nextTick = true ∧
      after.settled = false ∧ after.reading = List.range new.loops)
    (idle : state.transport.phase = .idle) (connecting : state.transport.status = .connecting)
    (known : state.transport.sockets[socket]? = some native) (awaited : native.awaited = true)
    (present : state.lives[socket]? = some new)
    (length : state.lives.length = state.transport.sockets.length) :
    ∃ after, Reachable (netStep options new) state after ∧
      after.transport = flushQueue socket (opening options socket state.transport) ∧
      after.lives.length = after.transport.sockets.length ∧
      OneOpen new.loops socket state.lives after.lives := by
  obtain ⟨life, fulfils, due, settled, reading⟩ := opens
  have inside := (List.getElem?_eq_some_iff.mp present).1
  have begun := @native_opens Server Data options new state new socket idle present life fulfils
  have ticks := @native_calls Server Data options new
    ⟨state.transport, state.lives.set socket life⟩ life socket idle
    (List.getElem?_set_self inside) .tick _ .onopen rfl (WsLife.reacts_tick due)
  rw [List.set_set, handler, opened_step idle connecting known awaited, Option.map_some] at ticks
  let ticked : List WsLife := state.lives.set socket { life with nextTick := false }
  have first : OneOpen new.loops socket state.lives ticked := by
    refine ⟨⟨_, List.getElem?_set_self inside, settled, reading⟩, ?_⟩
    intro other life apart known
    refine ⟨life.nulled, ?_⟩
    rw [List.getElem?_set_ne (Ne.symm apart)]
    exact known
  have sockets : (opening options socket state.transport).sockets.length = ticked.length := by
    rw [List.length_set, length]
    exact (List.length_modify _ _ _).trans (List.length_modify _ _ _)
  cases callback : options.onOpen with
  | false =>
    rw [if_neg (Bool.eq_false_iff.mp callback)] at ticks
    exact ⟨_, begun.trans (reachable_step ticks), rfl, attend_length _ _,
      first.attend sockets.symm⟩
  | true =>
    rw [if_pos callback] at ticks
    -- `onOpen` is called before the queue is flushed
    let waiting : Transport Server Data :=
      { opening options socket state.transport with phase := .onOpen socket }
    have resumes : netStep options new (moved new ticked waiting) (.transport .resume) =
        some (moved new (attend new ticked waiting.sockets)
          (flushQueue socket (opening options socket state.transport))) := rfl
    exact ⟨_, begun.trans ((reachable_step ticks).trans (reachable_step resumes)), rfl,
      attend_length _ _, (first.attend sockets.symm).attend (attend_length _ _)⟩

end Opening

section Answers

variable {new life after : WsLife} {state : WsNet Server Data} {transport : Transport Server Data}
  {native : NativeSocket Server} {answered : Nat} {event : WsLife.Event}

/-- The first socket is listened to while the transport is OPEN, this is its object, and its ends
were answered so many times. -/
structure Heard (state : WsNet Server Data) (life : WsLife) (answered : Nat) : Prop where
  idle : state.transport.phase = .idle
  opened : state.transport.status = .opened
  listening : ∃ native, state.transport.sockets[0]? = some native ∧ native.listening = true ∧
    native.round < state.transport.rounds.length
  own : ∃ nulled, state.lives[0]? = some { life with nulled := nulled }
  length : state.lives.length = state.transport.sockets.length
  answers : state.transport.answers 0 = answered

def lostFirst (transport : Transport Server Data) : Transport Server Data :=
  transport.touch 0 fun native => { native with ended := true, lost := true }

theorem closed_step (idle : transport.phase = .idle)
    (known : transport.sockets[0]? = some native) (listening : native.listening = true) :
    step options transport (.closed 0) = some (onclose options 0 (lostFirst transport)) := by
  rw [step]
  · rw [if_pos idle, react, handleNative, known, Option.map_some, oncloseEvent, if_pos listening]
    rfl
  · intro call impossible
    cases impossible
  · intro impossible
    cases impossible

theorem connect_again_eq {socket : Nat} {closure : Round Server}
    (known : transport.sockets[socket]? = some native)
    (began : transport.rounds[native.round]? = some closure) :
    connectAgain options socket transport = connect (some native.server) closure.proxys
      closure.preferred (cleared options socket transport) := by
  rw [connectAgain, known]
  dsimp only
  rw [began]
  dsimp only
  rw [cleared, clearedSockets]
  split
  · rfl
  · rfl

theorem connect_again_phase {socket : Nat} (known : transport.sockets[socket]? = some native)
    (inside : native.round < transport.rounds.length) (phase : Phase) :
    connectAgain options socket { transport with phase := phase } =
      connectAgain options socket transport := by
  have began := List.getElem?_eq_getElem inside
  rw [connect_again_eq known began,
    @connect_again_eq _ _ _ { transport with phase := phase } native socket _ known began]
  rfl

/-- A transport that connects again has one socket more, and listens to the first as before. -/
structure Again (transport next : Transport Server Data) (native : NativeSocket Server) : Prop where
  connecting : next.status = .connecting
  idle : next.phase = .idle
  log : next.log = transport.log
  rounds : next.rounds.length = transport.rounds.length + 1
  first : ∃ kept, next.sockets[0]? = some kept ∧ kept.listening = native.listening ∧
    kept.round = native.round
  more : next.sockets.length = transport.sockets.length + 1
  newest : ∃ server, next.sockets[transport.sockets.length]? =
    some (newSocket transport.rounds.length server)

theorem connects_again (known : transport.sockets[0]? = some native)
    (inside : native.round < transport.rounds.length) (free : transport.status.busy = false) :
    Again transport (connectAgain options 0 transport) native := by
  have cleared_free : (cleared options 0 transport).status.busy = false := free
  have length : (cleared options 0 transport).sockets.length = transport.sockets.length := by
    have same := congrArg List.length (cleared_map options NativeSocket.round (by intro _; rfl) 0
      transport)
    rw [List.length_map, List.length_map] at same
    exact same
  have kept : ∃ kept, (cleared options 0 transport).sockets[0]? = some kept ∧
      kept.listening = native.listening ∧ kept.round = native.round := by
    have same := congrArg (fun parts => parts[0]?) (cleared_map options
      (fun native => (native.listening, native.round)) (by intro _; rfl) 0 transport)
    rw [List.getElem?_map, List.getElem?_map, known, Option.map_some] at same
    obtain ⟨kept, found, parts⟩ := Option.map_eq_some_iff.mp same
    exact ⟨kept, found, congrArg Prod.fst parts, congrArg Prod.snd parts⟩
  rw [connect_again_eq known (List.getElem?_eq_getElem inside)]
  have began := connect_attempting (some native.server) transport.rounds[native.round].proxys
    transport.rounds[native.round].preferred (cleared options 0 transport)
  have sockets := connect_sockets native.server transport.rounds[native.round].proxys
    transport.rounds[native.round].preferred cleared_free
  refine ⟨?_, began.phase, began.log, ?_, ?_, ?_, ?_⟩
  · rw [connect_status, if_neg (by rw [cleared_free]; exact Bool.false_ne_true)]
  · rw [connect_free _ _ _ cleared_free, next_start_eq _ rfl]
    exact (List.length_modify _ _ _).trans List.length_append
  · obtain ⟨kept, found, parts⟩ := kept
    refine ⟨kept, ?_, parts⟩
    rw [sockets, List.getElem?_append_left (List.getElem?_eq_some_iff.mp found).1]
    exact found
  · rw [sockets, List.length_append, length]
    rfl
  · refine ⟨native.server, ?_⟩
    rw [sockets, ← length, List.getElem?_concat_length]
    rfl

/-- The net behind a call of `onclose` by which the transport connects again, whether or not
`onReconnecting` is set. -/
theorem again_reached (again : options.connectOnClose = true) (heard : Heard state life answered)
    (outer : isCall event = false)
    (reacts : ∀ nulled, { life with nulled := nulled }.react event =
      some ({ after with nulled := nulled }, some .onclose)) :
    ∃ lives, Reachable (netStep options new) state
        (moved new lives (connectAgain options 0 (leaving 0 (lostFirst state.transport)))) ∧
      lives.length = state.transport.sockets.length ∧
      ∃ nulled, lives[0]? = some { after with nulled := nulled } := by
  obtain ⟨nulled, own⟩ := heard.own
  obtain ⟨native, known, listening, begun⟩ := heard.listening
  have inside := (List.getElem?_eq_some_iff.mp own).1
  have calls := @native_calls Server Data options new state _ 0 heard.idle own event _ .onclose
    outer (reacts nulled)
  rw [handler, closed_step heard.idle known listening, Option.map_some] at calls
  let first : List WsLife := state.lives.set 0 { after with nulled := nulled }
  have length : first.length = state.transport.sockets.length := by
    rw [List.length_set, heard.length]
  have present : first[0]? = some { after with nulled := nulled } := List.getElem?_set_self inside
  have opened : (lostFirst state.transport).status = .opened := heard.opened
  rw [onclose, if_pos opened, if_pos again] at calls
  cases callback : options.onReconnecting with
  | false =>
    dsimp only at calls
    rw [if_neg (Bool.eq_false_iff.mp callback)] at calls
    exact ⟨first, reachable_step calls, length, nulled, present⟩
  | true =>
    dsimp only at calls
    rw [if_pos callback] at calls
    -- `onReconnecting` is called before the transport connects
    let waiting : Transport Server Data :=
      { leaving 0 (lostFirst state.transport) with phase := .onReconnecting 0 }
    have resumes : netStep options new (moved new first waiting) (.transport .resume) =
        some (moved new (attend new first waiting.sockets) (connectAgain options 0 waiting)) := rfl
    have lost : (lostFirst state.transport).sockets[0]? =
        some { native with ended := true, lost := true } := touch_self known
    have same : connectAgain options 0 waiting =
        connectAgain options 0 (leaving 0 (lostFirst state.transport)) :=
      @connect_again_phase _ _ options (leaving 0 (lostFirst state.transport)) _ 0 lost begun _
    rw [same] at resumes
    have sockets : waiting.sockets.length = state.transport.sockets.length :=
      List.length_modify _ _ _
    have within : 0 < waiting.sockets.length := by
      rw [sockets, ← heard.length]
      exact inside
    have found := @attend_known _ new _ _ _ waiting.sockets _ present
      (List.getElem?_eq_getElem within)
    refine ⟨_, (reachable_step calls).trans (reachable_step resumes), ?_, _, found⟩
    rw [attend_length, sockets]

theorem Heard.closes_told (silent : options.connectOnClose = false) (told : options.onClose = true)
    (heard : Heard state life answered) (outer : isCall event = false)
    (reacts : ∀ nulled, { life with nulled := nulled }.react event =
      some ({ after with nulled := nulled }, some .onclose)) :
    ∃ next, Reachable (netStep options new) state next ∧ Heard next after (answered + 1) := by
  obtain ⟨native, known, listening, begun⟩ := heard.listening
  have lost : (lostFirst state.transport).sockets[0]? =
      some { native with ended := true, lost := true } := touch_self known
  obtain ⟨nulled, own⟩ := heard.own
  have inside := (List.getElem?_eq_some_iff.mp own).1
  have calls := @native_calls Server Data options new state _ 0 heard.idle own event _ .onclose
    outer (reacts nulled)
  have opened : (lostFirst state.transport).status = .opened := heard.opened
  rw [handler, closed_step heard.idle known listening, Option.map_some, onclose, if_pos opened,
    silent, if_neg Bool.false_ne_true, if_pos told] at calls
  have present : (state.lives.set 0 { after with nulled := nulled })[0]? =
      some { after with nulled := nulled } := List.getElem?_set_self inside
  have attended := @attend_known _ new _ _ _ (lostFirst state.transport).sockets _ present lost
  refine ⟨_, reachable_step calls, heard.idle, heard.opened, ⟨_, lost, listening, begun⟩,
    ⟨_, attended⟩, attend_length _ _, ?_⟩
  have before := heard.answers
  rw [Transport.answers] at before
  have more : (lostFirst state.transport).log.onCloses ++ [0] =
    state.transport.log.onCloses ++ [0] := rfl
  rw [moved, Transport.answers]
  dsimp only
  rw [more, List.count_append, List.count_singleton_self, ← Nat.add_assoc]
  exact congrArg (· + 1) before

theorem Heard.closes_again
    (opens : ∃ after, Relation.ReflTransGen WsLife.Fulfils new after ∧ after.nextTick = true ∧
      after.settled = false ∧ after.reading = List.range new.loops)
    (again : options.connectOnClose = true)
    (heard : Heard state life answered) (outer : isCall event = false)
    (reacts : ∀ nulled, { life with nulled := nulled }.react event =
      some ({ after with nulled := nulled }, some .onclose)) :
    ∃ next, Reachable (netStep options new) state next ∧ Heard next after (answered + 1) := by
  obtain ⟨native, known, listening, begun⟩ := heard.listening
  have lost : (lostFirst state.transport).sockets[0]? =
      some { native with ended := true, lost := true } := touch_self known
  have sockets : (lostFirst state.transport).sockets.length = state.transport.sockets.length :=
    List.length_modify _ _ _
  obtain ⟨lives, reached, length, nulled, present⟩ :=
    @again_reached Server Data options new life after state answered event again heard outer reacts
  have connects := @connects_again Server Data options (leaving 0 (lostFirst state.transport)) _
    lost begun rfl
  obtain ⟨server, newest⟩ := connects.newest
  obtain ⟨kept, found, listens, round⟩ := connects.first
  have left : (leaving 0 (lostFirst state.transport)).sockets.length = lives.length :=
    sockets.trans length.symm
  have some_life : 0 < lives.length := (List.getElem?_eq_some_iff.mp present).1
  have apart : (leaving 0 (lostFirst state.transport)).sockets.length ≠ 0 := by
    rw [left]
    exact Nat.ne_of_gt some_life
  obtain ⟨next, wakes, awoken, lengths, one⟩ := @awakes Server Data options new
    (moved new lives (connectAgain options 0 (leaving 0 (lostFirst state.transport)))) _ _ opens
    connects.idle connects.connecting newest rfl (attend_new left.symm.le newest rfl)
    (attend_length _ _)
  have attended := @attend_known _ new _ _ _ _ _ present found
  refine ⟨next, reached.trans wakes, ?_, ?_, ⟨kept, ?_, ?_, ?_⟩, ?_, lengths, ?_⟩
  · rw [awoken]
    rfl
  · rw [awoken]
    rfl
  · rw [awoken]
    exact (touch_other apart).trans ((touch_other apart).trans found)
  · exact listens.trans listening
  · rw [awoken, round]
    exact Nat.lt_of_lt_of_eq (Nat.lt_succ_of_lt begun) connects.rounds.symm
  · obtain ⟨last, comes⟩ := one.others 0 _ (Ne.symm apart) attended
    exact ⟨last, comes⟩
  · have reconnects := congrArg TransportLog.reconnects connects.log
    have onCloses := congrArg TransportLog.onCloses connects.log
    have log : next.transport.log.reconnects = state.transport.log.reconnects ++ [0] ∧
        next.transport.log.onCloses = state.transport.log.onCloses := by
      rw [awoken]
      exact ⟨reconnects, onCloses⟩
    have before := heard.answers
    rw [Transport.answers] at before
    rw [Transport.answers, log.1, log.2, List.count_append, List.count_singleton_self]
    omega

theorem Heard.closes
    (opens : ∃ after, Relation.ReflTransGen WsLife.Fulfils new after ∧ after.nextTick = true ∧
      after.settled = false ∧ after.reading = List.range new.loops)
    (answering : options.connectOnClose = true ∨ options.onClose = true)
    (heard : Heard state life answered) (outer : isCall event = false)
    (reacts : ∀ nulled, { life with nulled := nulled }.react event =
      some ({ after with nulled := nulled }, some .onclose)) :
    ∃ next, Reachable (netStep options new) state next ∧ Heard next after (answered + 1) := by
  cases again : options.connectOnClose with
  | true => exact heard.closes_again opens again outer reacts
  | false =>
    apply heard.closes_told again _ outer reacts
    exact answering.resolve_left (by simp [again])

theorem Heard.all_end
    (opens : ∃ after, Relation.ReflTransGen WsLife.Fulfils new after ∧ after.nextTick = true ∧
      after.settled = false ∧ after.reading = List.range new.loops)
    (answering : options.connectOnClose = true ∨ options.onClose = true) (reading : List Nat)
    (heard : Heard state { life with reading := reading } answered) :
    ∃ next, Reachable (netStep options new) state next ∧
      Heard next { life with reading := [] } (answered + reading.length) := by
  induction reading generalizing state answered with
  | nil => exact ⟨state, reachable_refl state, heard⟩
  | cons index reading induction =>
    have reacts (nulled : Bool) :
        { life with reading := index :: reading, nulled := nulled }.react (.ends index) =
          some ({ life with reading := reading, nulled := nulled }, some .onclose) := by
      have ends := @WsLife.reacts_ends { life with reading := index :: reading, nulled := nulled }
        index List.mem_cons_self
      rw [List.erase_cons_head] at ends
      exact ends
    obtain ⟨between, first, left⟩ := @Heard.closes Server Data options new _
      { life with reading := reading } state answered (.ends index) opens answering heard rfl reacts
    obtain ⟨next, rest, none⟩ := induction left
    refine ⟨next, first.trans rest, ?_⟩
    rw [List.length_cons, ← Nat.add_assoc, Nat.add_right_comm]
    exact none

theorem first_heard
    (opens : ∃ after, Relation.ReflTransGen WsLife.Fulfils new after ∧ after.nextTick = true ∧
      after.settled = false ∧ after.reading = List.range new.loops) (server : Server) :
    ∃ state life, Reachable (netStep options new) (newWsNet Server Data) state ∧
      Heard state life 0 ∧ life.settled = false ∧ life.reading = List.range new.loops := by
  let called : WsNet Server Data := moved new []
    (connect (some server) [] (some server) (newTransport Server Data))
  have calls : netStep options new (newWsNet Server Data)
    (.transport (.call (.connect server []))) = some called := rfl
  have present : called.lives[0]? = some new :=
    @attend_new Server new [] 0 (Nat.le_refl 0) _ (newSocket 0 server) rfl rfl
  obtain ⟨state, wakes, awoken, lengths, one⟩ := @awakes Server Data options new called 0
    (newSocket 0 server) opens rfl rfl rfl rfl present (attend_length _ _)
  obtain ⟨life, own, settled, reading⟩ := one.own
  have heard : Heard state life 0 := by
    let listening : NativeSocket Server :=
      { newSocket 0 server with awaited := false, listening := true }
    refine ⟨?_, ?_, ⟨listening, ?_, rfl, ?_⟩, ⟨life.nulled, own⟩, lengths, ?_⟩
    · rw [awoken]
      rfl
    · rw [awoken]
      rfl
    · rw [awoken]
      rfl
    · rw [awoken]
      exact Nat.zero_lt_one
    · rw [awoken]
      rfl
  exact ⟨state, life, (reachable_step calls).trans wakes, heard, settled, reading⟩

end Answers

section Silence

variable {transport next : Transport Server Data} {state after : WsTransport Server Data}
  {cap socket : Nat}

theorem closed_silent (never : options.connectOnClose = false) (untold : options.onClose = false)
    (taken : step options transport (.closed socket) = some next) (other : Nat) :
    next.answers other = transport.answers other := by
  cases hears : Hears transport socket with
  | false => exact (closed_unheard hears taken).1.answers other
  | true =>
    obtain ⟨-, -, reconnects, onCloses⟩ := closed_tells hears never taken
    rw [answers, onCloses, reconnects, untold, if_neg Bool.false_ne_true, List.append_nil, answers]

end Silence

/-- The end of a socket is answered no more often than its loops are, and once more; and it may
be, if the transport answers at all. -/
theorem answered_at_most_iff (options : TransportOptions) (given : WebTransportWSOptions)
    (useDatagrams : Bool) (server : Server) (bound : Nat) :
    (∀ state, Reachable (netStep options (newWsLife given useDatagrams)) (newWsNet Server Data)
        state →
      ∀ socket, state.transport.log.reconnects.count socket +
        state.transport.log.onCloses.count socket ≤ bound) ↔
    (options.connectOnClose = true ∨ options.onClose = true →
      (newWsLife given useDatagrams).loops + 1 ≤ bound) := by
  constructor
  · intro all answering
    have opens := WsLife.new_opens given useDatagrams
    obtain ⟨state, life, reached, heard, settled, reading⟩ :=
      @first_heard Server Data options _ opens server
    have whole : life =
        { life with reading := List.range (newWsLife given useDatagrams).loops } := by
      rw [← reading]
    rw [whole] at heard
    obtain ⟨ended, first, left⟩ := heard.all_end opens answering _
    have reacts (nulled : Bool) :
        { life with reading := [], nulled := nulled }.react .settles =
          some ({ life with reading := [], settled := true, nulled := nulled }, some .onclose) :=
      WsLife.reacts_settles settled
    obtain ⟨final, last, done⟩ := @Heard.closes Server Data options _ _
      { life with reading := [], settled := true } ended _ .settles opens answering left rfl reacts
    have count := done.answers
    rw [answers, List.length_range, Nat.zero_add] at count
    rw [← count]
    exact all final (reached.trans (first.trans last)) 0
  · intro enough state reached socket
    by_cases answering : options.connectOnClose = true ∨ options.onClose = true
    · exact Nat.le_trans (answers_le given useDatagrams reached socket) (enough answering)
    · obtain ⟨again, told⟩ := not_or.mp answering
      have kept (state : WsTransport Server Data) (event : WsEvent Server Data)
          (next : WsTransport Server Data) (none : state.transport.answers socket = 0)
          (taken : wsStep options (newWsLife given useDatagrams).loops state event = some next) :
          next.transport.answers socket = 0 := by
        rcases ws_step_moves taken with ⟨other, -, elsewhere, moved, -⟩ | ⟨ended, -, moved, -⟩
        · exact ((step_keeps options moved elsewhere).answers socket).trans none
        · have silent := closed_silent (Bool.eq_false_iff.mpr again) (Bool.eq_false_iff.mpr told)
            moved socket
          exact silent.trans none
      obtain ⟨abstract, ran, tracks⟩ := net_refines options given useDatagrams state reached
      have none := reachable_invariant kept rfl ran
      rw [tracks.transport, answers] at none
      rw [none]
      exact Nat.zero_le bound

end WebTransportGos.Helper.Transport
