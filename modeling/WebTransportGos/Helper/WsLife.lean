import WebTransportGos.Library.StepSystem
import WebTransportGos.Helper.WebTransportWS
import Mathlib.Logic.Relation

/-!
bjy-common, lib/helper/WebTransportWS.js: the asynchronous `connect`, the read loops that it
begins, the promise `closed` of the browser's WebTransport, and the callbacks `onopen`,
`onmessage` and `onclose`. `close` may come at any time; it sets the fields to null and takes
neither callbacks nor loops away.

Left out are what is written and decoded, and the ping timer. A callback counts as called when it
would be if it were set; none throws.
-/

namespace WebTransportGos.Helper

open StepSystem

set_option autoImplicit false

/-- What `connect` waits for: `transport.ready`, the stream of this index, or the writers. It has
thrown where a promise is rejected, or a field is null. -/
inductive ConnectStage where
  | ready
  | stream (index : Nat)
  | writers
  | returned
  | threw
  deriving DecidableEq, Repr

def ConnectStage.waits : ConnectStage → Bool
  | .ready | .stream _ | .writers => true
  | .returned | .threw => false

inductive Callback where
  | onopen
  | onmessage
  | onclose
  deriving DecidableEq, Repr

/-- `readers` counts the array, as long as it is not null; `reading` are the loops that wait for
their reader, and `nextTick` is whether the callback of that name is due. -/
structure WsLife where
  mode : Mode
  useDatagrams : Bool
  streamCount : Nat
  stage : ConnectStage
  readers : Nat
  nextTick : Bool
  reading : List Nat
  settled : Bool
  nulled : Bool
  deriving DecidableEq, Repr

def newWsLife (options : WebTransportWSOptions) (useDatagrams : Bool) : WsLife where
  mode := options.adjusted.mode
  useDatagrams := useDatagrams
  streamCount := options.adjusted.streamCount
  stage := .ready
  readers := 0
  nextTick := false
  reading := []
  settled := false
  nulled := false

namespace WsLife

inductive Event where
  | fulfilled
  | rejected
  | tick
  | message (index : Nat)
  | ends (index : Nat)
  | settles
  | send
  | close

def afterStream (index streamCount : Nat) : ConnectStage :=
  if index < streamCount then .stream index else .writers

/-- `connect` as far as the next `await`, and `handleRead` at its end. -/
def goOn (life : WsLife) : WsLife :=
  match life.stage with
  | .ready =>
      if life.nulled then { life with stage := .threw }
      else if life.useDatagrams then { life with readers := 1, stage := .writers }
      else { life with stage := afterStream 0 life.streamCount }
  | .stream index =>
      if life.nulled then { life with stage := .threw }
      else { life with
        readers := life.readers + 1
        stage := afterStream (index + 1) life.streamCount }
  | .writers => { life with
      stage := .returned
      nextTick := true
      reading := if life.nulled then [] else List.range life.readers }
  | .returned => life
  | .threw => life

/-- The life behind an event, and the callback that it calls. Behind `close` a chunk of text
throws, as the decoders are null, and so does `send`, which tells `onclose`. -/
def react (life : WsLife) : Event → Option (WsLife × Option Callback)
  | .fulfilled => if life.stage.waits then some (life.goOn, none) else none
  | .rejected => if life.stage.waits then some ({ life with stage := .threw }, none) else none
  | .tick => if life.nextTick then some ({ life with nextTick := false }, some .onopen) else none
  | .message index =>
      if index ∈ life.reading ∧ ¬(life.mode = .text ∧ life.nulled = true) then
        some (life, some .onmessage)
      else none
  | .ends index =>
      if index ∈ life.reading then
        some ({ life with reading := life.reading.erase index }, some .onclose)
      else none
  | .settles =>
      if life.settled then none else some ({ life with settled := true }, some .onclose)
  | .send => some (life, if life.mode = .text ∧ life.nulled = true then some .onclose else none)
  | .close => some ({ life with nulled := true }, none)

def step (state : WsLife × List Callback) (event : Event) : Option (WsLife × List Callback) :=
  (state.1.react event).map fun result => (result.1, state.2 ++ result.2.toList)

section Events

variable {life : WsLife} {index : Nat}

theorem reacts_tick (due : life.nextTick = true) :
    life.react .tick = some ({ life with nextTick := false }, some .onopen) := if_pos due

theorem reacts_message (member : index ∈ life.reading)
    (apart : ¬(life.mode = .text ∧ life.nulled = true)) :
    life.react (.message index) = some (life, some .onmessage) := if_pos ⟨member, apart⟩

theorem reacts_ends (member : index ∈ life.reading) : life.react (.ends index) =
    some ({ life with reading := life.reading.erase index }, some .onclose) := if_pos member

theorem reacts_settles (pending : life.settled = false) :
    life.react .settles = some ({ life with settled := true }, some .onclose) :=
  if_neg (Bool.eq_false_iff.mp pending)

theorem reacts_send (text : life.mode = .text) (nulled : life.nulled = true) :
    life.react .send = some (life, some .onclose) :=
  congrArg (fun called => some (life, called)) (if_pos ⟨text, nulled⟩)

end Events

def loops (life : WsLife) : Nat := if life.useDatagrams then 1 else life.streamCount

structure Counted (cap ended : Nat) (life : WsLife) : Prop where
  loops : life.loops = cap
  readers : life.readers ≤ cap
  stream : ∀ index, life.stage = .stream index → life.useDatagrams = false ∧
    life.readers = index ∧ index < cap
  ready : life.stage = .ready → life.readers = 0
  room : ended + life.reading.length ≤ cap
  early : life.stage ≠ .returned → ended = 0 ∧ life.reading = [] ∧ life.nextTick = false

section Counting

variable {life after : WsLife} {cap ended index : Nat} {event : Event}
  {called : Option Callback}

theorem new_counted (options : WebTransportWSOptions) (useDatagrams : Bool) :
    Counted (newWsLife options useDatagrams).loops 0 (newWsLife options useDatagrams) where
  loops := rfl
  readers := Nat.zero_le _
  stream index impossible := by cases impossible
  ready _ := rfl
  room := Nat.zero_le _
  early _ := ⟨rfl, rfl, rfl⟩

theorem Counted.null (counted : Counted cap ended life) (nulled : Bool) :
    Counted cap ended { life with nulled := nulled } :=
  ⟨counted.loops, counted.readers, counted.stream, counted.ready, counted.room, counted.early⟩

theorem Counted.settle (counted : Counted cap ended life) (settled : Bool) :
    Counted cap ended { life with settled := settled } :=
  ⟨counted.loops, counted.readers, counted.stream, counted.ready, counted.room, counted.early⟩

theorem Counted.threw (counted : Counted cap ended life) (waits : life.stage ≠ .returned) :
    Counted cap ended { life with stage := .threw } where
  loops := counted.loops
  readers := counted.readers
  stream index impossible := by cases impossible
  ready impossible := by cases impossible
  room := counted.room
  early _ := counted.early waits

theorem Counted.streams (counted : Counted cap ended life) (waits : life.stage ≠ .returned)
    (plain : life.useDatagrams = false) {readers : Nat} (some : readers ≤ cap) :
    Counted cap ended
      { life with readers := readers, stage := afterStream readers life.streamCount } := by
  have count : life.streamCount = cap := by
    have loops := counted.loops
    rw [WsLife.loops, plain] at loops
    exact loops
  rw [afterStream]
  by_cases more : readers < life.streamCount
  · rw [if_pos more]
    refine ⟨counted.loops, some, ?_, ?_, counted.room, fun _ => counted.early waits⟩
    · intro index same
      cases same
      exact ⟨plain, rfl, count ▸ more⟩
    · intro impossible
      cases impossible
  · rw [if_neg more]
    refine ⟨counted.loops, some, ?_, ?_, counted.room, fun _ => counted.early waits⟩
    · intro index impossible
      cases impossible
    · intro impossible
      cases impossible

theorem Counted.go_on (counted : Counted cap ended life) : Counted cap ended life.goOn := by
  rw [goOn]
  cases stage : life.stage with
  | ready =>
    have waits : life.stage ≠ .returned := by
      rw [stage]
      decide
    dsimp only
    split
    · exact counted.threw waits
    · split
      next datagrams =>
        have one : cap = 1 := by
          rw [← counted.loops, WsLife.loops, if_pos datagrams]
        refine ⟨counted.loops, one ▸ Nat.le_refl _, ?_, ?_, counted.room,
          fun _ => counted.early waits⟩
        · intro index impossible
          cases impossible
        · intro impossible
          cases impossible
      next plain =>
        have streams := counted.streams waits (Bool.eq_false_iff.mpr plain) (Nat.zero_le cap)
        have none : { life with readers := 0, stage := afterStream 0 life.streamCount } =
            { life with stage := afterStream 0 life.streamCount } :=
          congrArg (fun readers => { life with
            readers := readers
            stage := afterStream 0 life.streamCount }) (counted.ready stage).symm
        exact none ▸ streams
  | stream index =>
    have waits : life.stage ≠ .returned := by
      rw [stage]
      intro impossible
      cases impossible
    obtain ⟨plain, made, less⟩ := counted.stream index stage
    dsimp only
    split
    · exact counted.threw waits
    · rw [← made] at less ⊢
      exact counted.streams waits plain less
  | writers =>
    have waits : life.stage ≠ .returned := by
      rw [stage]
      decide
    obtain ⟨none, -, -⟩ := counted.early waits
    dsimp only
    refine ⟨counted.loops, counted.readers, ?_, ?_, ?_, ?_⟩
    · intro index impossible
      cases impossible
    · intro impossible
      cases impossible
    · rw [none, Nat.zero_add]
      split
      · exact Nat.zero_le _
      · rw [List.length_range]
        exact counted.readers
    · intro impossible
      exact absurd rfl impossible
  | returned => exact counted
  | threw => exact counted

theorem ends_counted (counted : Counted cap ended life) (member : index ∈ life.reading) :
    ended < cap ∧ Counted cap (ended + 1) { life with reading := life.reading.erase index } := by
  have some := List.length_pos_of_mem member
  have erased := List.length_erase_of_mem member
  have room := counted.room
  refine ⟨by omega, counted.loops, counted.readers, counted.stream, counted.ready, ?_, ?_⟩
  · dsimp only
    omega
  · intro waits
    have empty := (counted.early waits).2.1
    rw [empty] at member
    cases member

theorem react_counted (counted : Counted cap ended life)
    (reacts : life.react event = some (after, called)) (goesOn : ∀ index, event ≠ .ends index) :
    Counted cap ended after := by
  cases event with
  | fulfilled =>
    obtain ⟨-, same⟩ := Option.ite_none_right_eq_some.mp reacts
    cases same
    exact counted.go_on
  | rejected =>
    obtain ⟨waits, same⟩ := Option.ite_none_right_eq_some.mp reacts
    cases same
    apply counted.threw
    intro returned
    rw [returned] at waits
    cases waits
  | tick =>
    obtain ⟨due, same⟩ := Option.ite_none_right_eq_some.mp reacts
    cases same
    refine ⟨counted.loops, counted.readers, counted.stream, counted.ready, counted.room, ?_⟩
    intro waits
    cases (counted.early waits).2.2.symm.trans due
  | message index =>
    obtain ⟨-, same⟩ := Option.ite_none_right_eq_some.mp reacts
    cases same
    exact counted
  | ends index => exact absurd rfl (goesOn index)
  | settles =>
    obtain ⟨-, same⟩ := Option.ite_none_left_eq_some.mp reacts
    cases same
    exact counted.settle true
  | send =>
    cases reacts
    exact counted
  | close =>
    cases reacts
    exact counted.null true

theorem go_on_kept (life : WsLife) :
    life.goOn.settled = life.settled ∧ life.goOn.nulled = life.nulled := by
  rw [goOn]
  split
  · split
    · exact ⟨rfl, rfl⟩
    · split
      · exact ⟨rfl, rfl⟩
      · exact ⟨rfl, rfl⟩
  · split
    · exact ⟨rfl, rfl⟩
    · exact ⟨rfl, rfl⟩
  · exact ⟨rfl, rfl⟩
  · exact ⟨rfl, rfl⟩
  · exact ⟨rfl, rfl⟩

theorem settled_kept (reacts : life.react event = some (after, called)) (other : event ≠ .settles) :
    after.settled = life.settled := by
  cases event with
  | fulfilled =>
    obtain ⟨-, same⟩ := Option.ite_none_right_eq_some.mp reacts
    cases same
    exact (go_on_kept life).1
  | rejected | tick | message index | ends index =>
    obtain ⟨-, same⟩ := Option.ite_none_right_eq_some.mp reacts
    cases same
    rfl
  | settles => exact absurd rfl other
  | send | close =>
    cases reacts
    rfl

/-- A `connect` that has thrown stays so, and never calls `onopen`. -/
theorem threw_stays (threw : life.stage = .threw) (early : life.nextTick = false)
    (reacts : life.react event = some (after, called)) :
    after.stage = .threw ∧ after.nextTick = false ∧ called ≠ some .onopen := by
  cases event with
  | fulfilled | rejected =>
    obtain ⟨waits, -⟩ := Option.ite_none_right_eq_some.mp reacts
    rw [threw] at waits
    cases waits
  | tick =>
    obtain ⟨due, -⟩ := Option.ite_none_right_eq_some.mp reacts
    cases early.symm.trans due
  | message index | ends index =>
    obtain ⟨-, same⟩ := Option.ite_none_right_eq_some.mp reacts
    cases same
    exact ⟨threw, early, by decide⟩
  | settles =>
    obtain ⟨-, same⟩ := Option.ite_none_left_eq_some.mp reacts
    cases same
    exact ⟨threw, early, by decide⟩
  | send =>
    cases reacts
    refine ⟨threw, early, ?_⟩
    split
    · decide
    · decide
  | close =>
    cases reacts
    exact ⟨threw, early, by decide⟩

/-- Only `close` sets the fields to null. -/
theorem nulled_kept (reacts : life.react event = some (after, called))
    (other : event ≠ .close) : after.nulled = life.nulled := by
  cases event with
  | fulfilled =>
    obtain ⟨-, same⟩ := Option.ite_none_right_eq_some.mp reacts
    cases same
    exact (go_on_kept life).2
  | rejected | tick | message index | ends index =>
    obtain ⟨-, same⟩ := Option.ite_none_right_eq_some.mp reacts
    cases same
    rfl
  | settles =>
    obtain ⟨-, same⟩ := Option.ite_none_left_eq_some.mp reacts
    cases same
    rfl
  | send =>
    cases reacts
    rfl
  | close => exact absurd rfl other

theorem returned_stays (returned : life.stage = .returned)
    (reacts : life.react event = some (after, called)) : after.stage = .returned := by
  cases event with
  | fulfilled | rejected =>
    obtain ⟨waits, -⟩ := Option.ite_none_right_eq_some.mp reacts
    rw [returned] at waits
    cases waits
  | tick | message index | ends index =>
    obtain ⟨-, same⟩ := Option.ite_none_right_eq_some.mp reacts
    cases same
    exact returned
  | settles =>
    obtain ⟨-, same⟩ := Option.ite_none_left_eq_some.mp reacts
    cases same
    exact returned
  | send | close =>
    cases reacts
    exact returned

/-- `onopen` is called behind the return of `connect`. -/
theorem onopen_due (reacts : life.react event = some (after, some .onopen)) :
    life.nextTick = true := by
  cases event with
  | fulfilled | rejected | message index | ends index =>
    obtain ⟨-, same⟩ := Option.ite_none_right_eq_some.mp reacts
    cases same
  | tick => exact (Option.ite_none_right_eq_some.mp reacts).1
  | settles =>
    obtain ⟨-, same⟩ := Option.ite_none_left_eq_some.mp reacts
    cases same
  | send =>
    obtain ⟨-, same⟩ := Prod.mk.inj (Option.some.inj reacts)
    split at same
    · cases same
    · cases same
  | close => cases reacts

end Counting

/-- What may still be called behind `close`. -/
def Expects (life : WsLife) : Callback → Prop
  | .onopen => life.stage = .writers ∨ life.nextTick = true
  | .onmessage => life.mode = .stream ∧ life.reading ≠ []
  | .onclose => life.reading ≠ [] ∨ life.settled = false ∨ life.mode = .text

def MayCall (life : WsLife) (callback : Callback) : Prop :=
  ∃ events final log, run step (life, []) events = some (final, log) ∧ callback ∈ log

section Closed

variable {life after : WsLife} {event : Event} {called : Option Callback}

theorem mode_stream (other : ¬life.mode = .text) : life.mode = .stream := by
  cases mode : life.mode with
  | text => exact absurd mode other
  | stream => rfl

theorem go_on_nulled (nulled : life.nulled = true) : life.goOn = { life with stage := .threw } ∨
    life.goOn = life ∨ life.stage = .writers ∧
      life.goOn = { life with stage := .returned, nextTick := true, reading := [] } := by
  rw [goOn]
  cases stage : life.stage with
  | ready => exact .inl (if_pos nulled)
  | stream index => exact .inl (if_pos nulled)
  | writers =>
    rw [nulled]
    exact .inr (.inr ⟨rfl, rfl⟩)
  | returned => exact .inr (.inl rfl)
  | threw => exact .inr (.inl rfl)

/-- What becomes of a closed life: it expects nothing new, and calls what was expected. -/
structure Fades (life after : WsLife) (called : Option Callback) : Prop where
  nulled : after.nulled = true
  expects : ∀ callback, after.Expects callback → life.Expects callback
  calls : ∀ callback, called = some callback → life.Expects callback

theorem none_called (callback : Callback) (impossible : none = some callback) :
    life.Expects callback := by
  cases impossible

theorem fades_silent (nulled : after.nulled = true) (stage : after.stage = .writers → life.stage = .writers)
    (nextTick : after.nextTick = true → life.nextTick = true) (mode : after.mode = life.mode)
    (reading : after.reading ≠ [] → life.reading ≠ [])
    (settled : after.settled = false → life.settled = false)
    (calls : ∀ callback, called = some callback → life.Expects callback) :
    Fades life after called where
  nulled := nulled
  calls := calls
  expects callback expected := by
    cases callback with
    | onopen => exact expected.imp stage nextTick
    | onmessage => exact ⟨mode ▸ expected.1, reading expected.2⟩
    | onclose => exact expected.imp reading (Or.imp settled fun text => mode ▸ text)

theorem threw_writers (impossible : ConnectStage.threw = .writers) : life.stage = .writers := by
  cases impossible

theorem go_on_fades (nulled : life.nulled = true) : Fades life life.goOn none := by
  rcases go_on_nulled nulled with threw | same | ⟨writers, returned⟩
  · rw [threw]
    exact fades_silent nulled threw_writers id rfl id id none_called
  · rw [same]
    exact fades_silent nulled id id rfl id id none_called
  · rw [returned]
    refine ⟨nulled, ?_, none_called⟩
    intro callback expected
    cases callback with
    | onopen => exact .inl writers
    | onmessage => exact absurd rfl expected.2
    | onclose => exact .inr (expected.resolve_left (not_not.mpr rfl))

theorem react_fades (nulled : life.nulled = true)
    (reacts : life.react event = some (after, called)) : Fades life after called := by
  have alone {callback : Callback} (expected : life.Expects callback) :
      ∀ other, some callback = some other → life.Expects other := by
    intro other same
    rw [← Option.some.inj same]
    exact expected
  cases event with
  | fulfilled =>
    obtain ⟨-, same⟩ := Option.ite_none_right_eq_some.mp reacts
    cases same
    exact go_on_fades nulled
  | rejected =>
    obtain ⟨-, same⟩ := Option.ite_none_right_eq_some.mp reacts
    cases same
    exact fades_silent nulled threw_writers id rfl id id none_called
  | tick =>
    obtain ⟨due, same⟩ := Option.ite_none_right_eq_some.mp reacts
    cases same
    exact fades_silent nulled id (fun _ => due) rfl id id (alone (.inr due))
  | message index =>
    obtain ⟨⟨member, other⟩, same⟩ := Option.ite_none_right_eq_some.mp reacts
    cases same
    have stream := mode_stream fun text => other ⟨text, nulled⟩
    exact fades_silent nulled id id rfl id id (alone ⟨stream, List.ne_nil_of_mem member⟩)
  | ends index =>
    obtain ⟨member, same⟩ := Option.ite_none_right_eq_some.mp reacts
    cases same
    have waits := List.ne_nil_of_mem member
    exact fades_silent nulled id id rfl (fun _ => waits) id (alone (.inl waits))
  | settles =>
    obtain ⟨unsettled, same⟩ := Option.ite_none_left_eq_some.mp reacts
    cases same
    have pending := Bool.eq_false_iff.mpr unsettled
    exact fades_silent nulled id id rfl id (fun _ => pending) (alone (.inr (.inl pending)))
  | send =>
    cases reacts
    refine fades_silent nulled id id rfl id id ?_
    split
    next throws => exact alone (.inr (.inr throws.1))
    next => exact none_called
  | close =>
    cases reacts
    exact fades_silent rfl id id rfl id id none_called

structure Faded (life : WsLife) (state : WsLife × List Callback) : Prop where
  nulled : state.1.nulled = true
  expects : ∀ callback, state.1.Expects callback → life.Expects callback
  called : ∀ callback ∈ state.2, life.Expects callback

theorem step_faded {state next : WsLife × List Callback} (faded : Faded life state)
    (taken : step state event = some next) : Faded life next := by
  obtain ⟨⟨after, called⟩, reacts, same⟩ := Option.map_eq_some_iff.mp taken
  have fades := react_fades faded.nulled reacts
  rw [← same]
  refine ⟨fades.nulled, fun other later => faded.expects other (fades.expects other later), ?_⟩
  intro other member
  cases List.mem_append.mp member with
  | inl earlier => exact faded.called other earlier
  | inr new => exact faded.expects other (fades.calls other (Option.mem_toList.mp new))

theorem may_call_now {callback : Callback}
    (reacts : life.react event = some (after, some callback)) : life.MayCall callback := by
  refine ⟨[event], after, [callback], ?_, List.mem_singleton_self _⟩
  rw [run_cons, step, reacts]
  rfl

theorem may_open (writers : life.stage = .writers) : life.MayCall .onopen := by
  have goesOn : life.react .fulfilled = some (life.goOn, none) := by
    rw [react, writers]
    rfl
  have due : life.goOn.nextTick = true := by
    rw [goOn, writers]
  refine ⟨[.fulfilled, .tick], { life.goOn with nextTick := false }, [.onopen], ?_,
    List.mem_singleton_self _⟩
  rw [run_cons, step, goesOn]
  show run step (life.goOn, []) [.tick] = _
  rw [run_cons, step, reacts_tick due]
  rfl

/-- Behind `close`, exactly that: `onopen` if `connect` waits for the writers or has returned, the
messages of plain streams, and the end of every loop and of the transport. -/
theorem may_call_iff (life : WsLife) (nulled : life.nulled = true) (callback : Callback) :
    life.MayCall callback ↔ life.Expects callback := by
  constructor
  · intro may
    obtain ⟨events, final, log, ran, told⟩ := may
    have start : Faded life (life, []) := by
      refine ⟨nulled, fun _ => id, ?_⟩
      intro other impossible
      cases impossible
    have faded : Faded life (final, log) :=
      run_invariant (fun _ _ _ before taken => step_faded before taken) start ran
    exact faded.called callback told
  · intro expected
    cases callback with
    | onopen =>
      cases expected with
      | inl writers => exact may_open writers
      | inr due => exact may_call_now (reacts_tick due)
    | onmessage =>
      obtain ⟨stream, waits⟩ := expected
      obtain ⟨index, member⟩ := List.exists_mem_of_ne_nil _ waits
      have apart : ¬(life.mode = .text ∧ life.nulled = true) := by
        rw [stream]
        intro impossible
        cases impossible.1
      exact may_call_now (reacts_message member apart)
    | onclose =>
      rcases expected with waits | pending | text
      · obtain ⟨index, member⟩ := List.exists_mem_of_ne_nil _ waits
        exact may_call_now (reacts_ends member)
      · exact may_call_now (reacts_settles pending)
      · exact may_call_now (reacts_send text nulled)

/-- `close` while the writer of the only stream is awaited. -/
theorem open_may_follow_close :
    MayCall ⟨.text, false, 1, .writers, 1, false, [], false, true⟩ .onopen ↔
      Expects ⟨.text, false, 1, .writers, 1, false, [], false, true⟩ .onopen :=
  may_call_iff _ rfl _

end Closed

section Opening

variable {life : WsLife}

def Fulfils (life after : WsLife) : Prop := life.react .fulfilled = some (after, none)

theorem fulfils_go_on (waits : life.stage.waits = true) : life.Fulfils life.goOn := if_pos waits

/-- The streams that are left come one by one. -/
theorem streams_come {left : Nat} (live : life.nulled = false)
    (stage : life.stage = afterStream life.readers life.streamCount)
    (rest : life.readers + left = life.streamCount) : Relation.ReflTransGen Fulfils life
      { life with readers := life.streamCount, stage := .writers } := by
  induction left generalizing life with
  | zero =>
    rw [Nat.add_zero] at rest
    rw [afterStream, if_neg (by omega)] at stage
    have same : { life with readers := life.streamCount, stage := .writers } = life := by
      rw [← stage]
      exact congrArg (fun readers => { life with readers := readers }) rest.symm
    rw [same]
  | succ left induction =>
    rw [afterStream, if_pos (by omega)] at stage
    have first := @fulfils_go_on life (by rw [stage]; rfl)
    have comes : life.goOn = { life with
        readers := life.readers + 1
        stage := afterStream (life.readers + 1) life.streamCount } := by
      rw [goOn, stage]
      exact if_neg (Bool.eq_false_iff.mp live)
    rw [comes] at first
    exact .head first (induction live rfl (by dsimp only; omega))

/-- Without `close`, `onopen` comes to be due, and every loop runs. -/
theorem new_opens (options : WebTransportWSOptions) (useDatagrams : Bool) :
    ∃ after, Relation.ReflTransGen Fulfils (newWsLife options useDatagrams) after ∧
      after.nextTick = true ∧ after.settled = false ∧
      after.reading = List.range (newWsLife options useDatagrams).loops := by
  have writers {life : WsLife} (stage : life.stage = .writers) (live : life.nulled = false) :
      life.Fulfils { life with
        stage := .returned
        nextTick := true
        reading := List.range life.readers } := by
    have first := @fulfils_go_on life (by rw [stage]; rfl)
    have comes : life.goOn = { life with
        stage := .returned
        nextTick := true
        reading := List.range life.readers } := by
      rw [goOn, stage]
      exact congrArg (fun reading => { life with
        stage := .returned
        nextTick := true
        reading := reading }) (if_neg (Bool.eq_false_iff.mp live))
    exact comes ▸ first
  cases useDatagrams with
  | true => exact ⟨_, .tail (.single (fulfils_go_on rfl)) (writers rfl rfl), rfl, rfl, rfl⟩
  | false =>
    have streams : Relation.ReflTransGen Fulfils (newWsLife options false).goOn
        { (newWsLife options false).goOn with
          readers := (newWsLife options false).goOn.streamCount
          stage := .writers } := streams_come rfl rfl (Nat.zero_add _)
    have whole := Relation.ReflTransGen.head (@fulfils_go_on (newWsLife options false) rfl) streams
    exact ⟨_, whole.tail (writers rfl rfl), rfl, rfl, rfl⟩

end Opening

end WsLife

end WebTransportGos.Helper
