import WebTransportGos.Library.Double
import WebTransportGos.Helper.Timer
import WebTransportGos.Helper.NetString
import Mathlib.Data.Rat.Defs

/-!
bjy-common, lib/helper/Avrage.js and the pings of lib/helper/WebTransportWS.js. A ping carries
the time it was sent at; its answer or a timeout of five seconds gives a round trip time, of
which the last five are averaged. `pingStartTimestamp` finds the timeout of a ping by its
time, so that two pings of one millisecond share an entry.
-/

namespace WebTransportGos.Helper

set_option autoImplicit false

structure Avrage where
  count : Nat
  queue : List Nat
  deriving DecidableEq, Repr

namespace Avrage

def push (avrage : Avrage) (value : Nat) : Avrage :=
  let queue := avrage.queue ++ [value]
  { avrage with queue := if avrage.count < queue.length then queue.tail else queue }

def clear (avrage : Avrage) : Avrage := { avrage with queue := [] }

def isFull (avrage : Avrage) : Bool := avrage.queue.length = avrage.count

/-- The quotient before it is rounded to a double. -/
def getValue (avrage : Avrage) : ℚ :=
  if avrage.queue = [] then 0 else (avrage.queue.sum : ℚ) / avrage.queue.length

theorem push_last {avrage : Avrage} {values : List Nat}
    (last : avrage.queue = values.drop (values.length - avrage.count)) (value : Nat) :
    (avrage.push value).queue =
      (values ++ [value]).drop ((values ++ [value]).length - avrage.count) := by
  have held : (avrage.queue ++ [value]).length = min values.length avrage.count + 1 := by
    rw [last, List.length_append, List.length_drop, List.length_singleton]
    omega
  rw [push]
  dsimp only
  by_cases full : avrage.count < (avrage.queue ++ [value]).length
  · rw [if_pos full, last, List.length_append, List.length_singleton]
    have enough : avrage.count ≤ values.length := by omega
    have before : values.length - avrage.count ≤ values.length := Nat.sub_le _ _
    have next : values.length + 1 - avrage.count = values.length - avrage.count + 1 := by omega
    rw [next, ← List.drop_append_of_le_length before, List.tail_drop]
  · rw [if_neg full, last, List.length_append, List.length_singleton]
    have whole : values.length - avrage.count = 0 := by omega
    have still : values.length + 1 - avrage.count = 0 := by omega
    rw [whole, still]
    rfl

end Avrage

/-- A timeout of five seconds that has not fired, for the ping of the time `now`. -/
structure PingTimeout where
  id : Nat
  now : Nat
  deriving DecidableEq, Repr

structure Sample where
  start : Nat
  stop : Nat
  deriving DecidableEq, Repr

def Sample.rtt (sample : Sample) : Nat := sample.stop - sample.start

abbrev StartMap := List (Nat × Nat)

namespace StartMap

def get (map : StartMap) (key : Nat) : Option Nat :=
  (map.find? fun entry => entry.1 == key).map Prod.snd

def set (map : StartMap) (key value : Nat) : StartMap :=
  if (map.get key).isSome then map.map fun entry => if entry.1 = key then (key, value) else entry
  else map ++ [(key, value)]

def delete (map : StartMap) (key : Nat) : StartMap := map.filter fun entry => entry.1 ≠ key

section Laws

variable {map : StartMap} {key value : Nat} {entry : Nat × Nat}

theorem mem_of_get (found : map.get key = some value) : (key, value) ∈ map := by
  obtain ⟨⟨first, second⟩, present, rfl⟩ := Option.map_eq_some_iff.mp found
  have same : first = key := by simpa using List.find?_some present
  rw [← same]
  exact List.mem_of_find?_eq_some present

theorem get_isSome : (map.get key).isSome ↔ key ∈ map.map Prod.fst := by
  rw [get, Option.isSome_map, List.find?_isSome, List.mem_map]
  constructor
  · intro found
    obtain ⟨entry, member, same⟩ := found
    exact ⟨entry, member, by simpa using same⟩
  · intro present
    obtain ⟨entry, member, same⟩ := present
    exact ⟨entry, member, by simpa using same⟩

theorem mem_set : entry ∈ map.set key value ↔ entry = (key, value) ∨ entry ∈ map ∧ entry.1 ≠ key := by
  rw [set]
  split
  next present =>
    rw [List.mem_map]
    constructor
    · intro stored
      obtain ⟨other, member, rfl⟩ := stored
      by_cases same : other.1 = key
      · rw [if_pos same]
        exact .inl rfl
      · rw [if_neg same]
        exact .inr ⟨member, same⟩
    · intro either
      rcases either with rfl | ⟨member, apart⟩
      · obtain ⟨other, member, same⟩ := List.mem_map.mp (get_isSome.mp present)
        exact ⟨other, member, if_pos same⟩
      · exact ⟨entry, member, if_neg apart⟩
  next absent =>
    rw [List.mem_append, List.mem_singleton, or_comm]
    refine or_congr_right ⟨fun member => ⟨member, ?_⟩, And.left⟩
    intro same
    exact absent (get_isSome.mpr (same ▸ List.mem_map_of_mem member))

theorem mem_delete : entry ∈ map.delete key ↔ entry ∈ map ∧ entry.1 ≠ key := by
  rw [delete, List.mem_filter, decide_eq_true_iff]

theorem set_keys (distinct : (map.map Prod.fst).Nodup) :
    ((map.set key value).map Prod.fst).Nodup := by
  rw [set]
  split
  next present =>
    have kept : (map.map fun entry => if entry.1 = key then (key, value) else entry).map Prod.fst =
        map.map Prod.fst := by
      rw [List.map_map]
      apply List.map_congr_left
      intro entry _
      show (if entry.1 = key then (key, value) else entry).1 = entry.1
      split
      next same => exact same.symm
      next => rfl
    rw [kept]
    exact distinct
  next absent =>
    rw [List.map_append, List.map_singleton]
    refine List.nodup_append.mpr ⟨distinct, List.nodup_singleton _, ?_⟩
    intro other member new single
    rw [List.mem_singleton] at single
    intro same
    have equal : other = key := same.trans single
    rw [equal] at member
    exact absent (get_isSome.mpr member)

theorem delete_keys (distinct : (map.map Prod.fst).Nodup) :
    ((map.delete key).map Prod.fst).Nodup :=
  distinct.sublist (List.filter_sublist.map Prod.fst)

end Laws

end StartMap

/-- `writers` and `pingStartTimestamp` are null behind `close`; the timer object outlives its
field. `pings` are the times of the pings that were written, `reported` what `onPing` was
called with, and `faults` counts the errors thrown by callbacks and calls. -/
structure Pinging where
  enablePing : Bool
  onPing : Bool
  clock : Nat
  writers : Option Nat
  pingTimer : Option Timer
  pingStartTimestamp : Option StartMap
  timeouts : List PingTimeout
  nextId : Nat
  rtt : Avrage
  pings : List Nat
  samples : List Sample
  reported : List Nat
  faults : Nat

def lastTime : Nat := 8640000000000000

def newPinging (enablePing onPing : Bool) (pingInterval clock : Nat) : Pinging where
  enablePing := enablePing
  onPing := onPing
  clock := clock
  writers := some 0
  pingTimer := if enablePing then some (newTimer (some 1000) pingInterval) else none
  pingStartTimestamp := some []
  timeouts := []
  nextId := 1
  rtt := ⟨5, []⟩
  pings := []
  samples := []
  reported := []
  faults := 0

namespace Pinging

def fault (state : Pinging) : Pinging := { state with faults := state.faults + 1 }

def frame (pingCommand : Int) (now : Nat) : List UInt8 := encode (Double.bytes now) (some pingCommand)

def ping (state : Pinging) : Pinging :=
  match state.writers, state.pingStartTimestamp with
  | some 0, _ => state
  | some _, some map =>
      { state with
        pingStartTimestamp := some (map.set state.clock state.nextId)
        timeouts := state.timeouts ++ [⟨state.nextId, state.clock⟩]
        nextId := state.nextId + 1
        pings := state.pings ++ [state.clock] }
  | _, _ => state.fault

def sample (start : Nat) (state : Pinging) : Pinging :=
  { state with
    rtt := state.rtt.push (state.clock - start)
    samples := state.samples ++ [⟨start, state.clock⟩]
    reported := if state.onPing then state.reported ++ [state.clock - start] else state.reported }

def expire (timeout : PingTimeout) (state : Pinging) : Pinging :=
  let fired := { state with timeouts := state.timeouts.filter fun other => other.id ≠ timeout.id }
  match fired.pingStartTimestamp with
  | none => fired.fault
  | some map =>
      { fired with pingStartTimestamp := some (map.delete timeout.now) }.sample timeout.now

/-- The branch of `onDecodeMessage` for an answer to a ping. The buffer of the payload is read
as doubles, which throws if it does not consist of whole ones. -/
def reply (payload : List UInt8) (state : Pinging) : Pinging :=
  if payload.length % 8 ≠ 0 then state.fault
  else match Double.first payload, state.pingStartTimestamp with
    | some start, some map => match map.get start with
        | some id =>
            { state.sample start with
              timeouts := state.timeouts.filter fun other => other.id ≠ id
              pingStartTimestamp := some (map.delete start) }
        | none => state
    | _, _ => state

def close (state : Pinging) : Pinging :=
  { state with
    writers := none
    pingTimer := state.pingTimer.map Timer.destroy
    timeouts := match state.pingStartTimestamp with
      | none => state.timeouts
      | some map => state.timeouts.filter fun timeout => timeout.id ∉ map.map Prod.snd
    pingStartTimestamp := none }

inductive Event where
  | elapses (time : Nat)
  | ready (writers : Nat)
  | opens
  | timerFires (id : Nat)
  | ping
  | expires (id : Nat)
  | reply (payload : List UInt8)
  | close

def step (state : Pinging) : Event → Option Pinging
  | .elapses time =>
      if state.clock + time ≤ lastTime then some { state with clock := state.clock + time } else none
  | .ready writers => if state.writers = some 0 then some { state with writers := some writers } else none
  | .opens =>
      if state.writers.isSome then some { state with pingTimer := state.pingTimer.map Timer.start }
      else some state
  | .timerFires id => match state.pingTimer with
      | none => none
      | some timer => (timer.step (.fires id [] true)).map fun after =>
          if timer.task then { state with pingTimer := some after }.ping
          else { state with pingTimer := some after }
  | .ping => some state.ping
  | .expires id => (state.timeouts.find? fun timeout => timeout.id == id).map fun timeout =>
      state.expire timeout
  | .reply payload =>
      if state.enablePing ∧ state.writers.isSome then some (state.reply payload) else none
  | .close => some state.close

/-- A `Map` entry is the timeout of its ping, every timeout is one of a ping that has no
round trip time yet, and while the socket is open every ping has one or the other. -/
structure Sound (state : Pinging) : Prop where
  closed : state.writers = none ↔ state.pingStartTimestamp = none
  unopened : state.writers = some 0 → state.timeouts = []
  ids : (state.timeouts.map PingTimeout.id).Nodup
  fresh : ∀ timeout ∈ state.timeouts, timeout.id < state.nextId
  keys : ∀ map, state.pingStartTimestamp = some map → (map.map Prod.fst).Nodup
  entries : ∀ map, state.pingStartTimestamp = some map →
    ∀ entry ∈ map, ⟨entry.2, entry.1⟩ ∈ state.timeouts
  timer : ∀ timer, state.pingTimer = some timer → timer.Single ∧
    (state.writers ≠ none → timer.task = true) ∧ (state.writers = none → timer.scheduled = [])
  average : state.rtt.count = 5 ∧
    state.rtt.queue = (state.samples.map Sample.rtt).drop (state.samples.length - 5)
  accounted : state.writers ≠ none →
    (state.samples.map Sample.start ++ state.timeouts.map PingTimeout.now).Perm state.pings

section Timeouts

variable {timeouts : List PingTimeout} {timeout : PingTimeout}

theorem others_other {id : Nat} (absent : id ∉ timeouts.map PingTimeout.id) :
    timeouts.filter (fun other => other.id ≠ id) = timeouts := by
  apply List.filter_eq_self.mpr
  intro other member
  have apart : other.id ≠ id := by
    intro same
    exact absent (same ▸ List.mem_map_of_mem member)
  simpa using apart

/-- Without the timeout of an id all others are left. -/
theorem perm_others (distinct : (timeouts.map PingTimeout.id).Nodup) (member : timeout ∈ timeouts) :
    timeouts.Perm (timeout :: timeouts.filter fun other => other.id ≠ timeout.id) := by
  induction timeouts with
  | nil => cases member
  | cons head tail induction =>
      simp only [List.map_cons, List.nodup_cons] at distinct
      by_cases same : head = timeout
      · subst same
        rw [List.filter_cons_of_neg (by simp), others_other distinct.1]
      · have later : timeout ∈ tail := (List.mem_cons.mp member).resolve_left (Ne.symm same)
        have apart : head.id ≠ timeout.id := by
          intro equal
          exact distinct.1 (equal ▸ List.mem_map_of_mem later)
        rw [List.filter_cons_of_pos (by simpa using apart)]
        exact ((induction distinct.2 later).cons head).trans (.swap timeout head _)

theorem id_unique (distinct : (timeouts.map PingTimeout.id).Nodup) {other : PingTimeout}
    (member : timeout ∈ timeouts) (another : other ∈ timeouts) (same : timeout.id = other.id) :
    timeout = other :=
  List.inj_on_of_nodup_map distinct member another same

end Timeouts

section Operations

variable {state : Pinging}

theorem new_sound (enablePing onPing : Bool) (pingInterval clock : Nat) :
    (newPinging enablePing onPing pingInterval clock).Sound where
  closed := by simp [newPinging]
  unopened _ := rfl
  ids := List.nodup_nil
  fresh _ member := absurd member List.not_mem_nil
  keys map same := by
    cases same
    exact List.nodup_nil
  entries map same entry member := by
    cases same
    cases member
  timer timer held := by
    cases enablePing with
    | false => cases held
    | true =>
        cases held
        exact ⟨Timer.single_new _ _, fun _ => rfl, fun impossible => by cases impossible⟩
  average := ⟨rfl, rfl⟩
  accounted _ := .refl _

theorem fault_sound (sound : state.Sound) : state.fault.Sound :=
  ⟨sound.closed, sound.unopened, sound.ids, sound.fresh, sound.keys, sound.entries, sound.timer,
    sound.average, sound.accounted⟩

theorem ping_sound (sound : state.Sound) : state.ping.Sound := by
  unfold ping
  split
  · exact sound
  next count map positive opened started =>
    have some : state.writers ≠ none := by
      rw [opened]
      exact Option.some_ne_none _
    have absent : state.nextId ∉ state.timeouts.map PingTimeout.id := by
      intro member
      obtain ⟨timeout, present, same⟩ := List.mem_map.mp member
      have less := sound.fresh timeout present
      omega
    refine ⟨?_, ?_, ?_, ?_, ?_, ?_, sound.timer, sound.average, ?_⟩
    · exact iff_of_false some (Option.some_ne_none _)
    · intro none
      rw [opened] at none
      exact (positive (Option.some.inj none)).elim
    · rw [List.map_append, List.map_singleton]
      refine List.nodup_append.mpr ⟨sound.ids, List.nodup_singleton _, ?_⟩
      intro id member other single same
      rw [same, List.mem_singleton.mp single] at member
      exact absent member
    · intro timeout member
      rcases List.mem_append.mp member with old | new
      · exact (sound.fresh timeout old).trans (Nat.lt_succ_self _)
      · rw [List.mem_singleton.mp new]
        exact Nat.lt_succ_self _
    · intro other same
      cases same
      exact StartMap.set_keys (sound.keys map started)
    · intro other same entry member
      cases same
      rcases StartMap.mem_set.mp member with rfl | ⟨old, -⟩
      · exact List.mem_append_right _ List.mem_cons_self
      · exact List.mem_append_left _ (sound.entries map started entry old)
    · intro _
      have before := sound.accounted some
      dsimp only
      rw [List.map_append, ← List.append_assoc]
      exact before.append_right _
  · exact fault_sound sound

theorem sample_sound (sound : state.Sound) {map : StartMap} {timeout : PingTimeout}
    (started : state.pingStartTimestamp = some map) (member : timeout ∈ state.timeouts) :
    Sound { state.sample timeout.now with
      timeouts := state.timeouts.filter fun other => other.id ≠ timeout.id
      pingStartTimestamp := some (map.delete timeout.now) } := by
  have opened : state.writers ≠ none := by
    intro closed
    rw [sound.closed.mp closed] at started
    cases started
  refine ⟨?_, ?_, ?_, ?_, ?_, ?_, sound.timer, ?_, ?_⟩
  · exact iff_of_false opened (Option.some_ne_none _)
  · intro none
    rw [sound.unopened none] at member
    cases member
  · exact sound.ids.sublist (List.filter_sublist.map _)
  · intro other present
    exact sound.fresh other (List.mem_filter.mp present).1
  · intro other same
    cases same
    exact StartMap.delete_keys (sound.keys map started)
  · intro other same entry present
    cases same
    obtain ⟨old, apart⟩ := StartMap.mem_delete.mp present
    have waiting := sound.entries map started entry old
    refine List.mem_filter.mpr ⟨waiting, ?_⟩
    rw [decide_eq_true_iff]
    intro same
    exact apart (congrArg PingTimeout.now (id_unique sound.ids waiting member same))
  · refine ⟨sound.average.1, ?_⟩
    have last : state.rtt.queue =
        (state.samples.map Sample.rtt).drop ((state.samples.map Sample.rtt).length -
          state.rtt.count) := by
      rw [List.length_map, sound.average.1]
      exact sound.average.2
    have pushed := Avrage.push_last last (state.clock - timeout.now)
    rw [List.length_append, List.length_map, sound.average.1] at pushed
    show (state.rtt.push (state.clock - timeout.now)).queue = _
    rw [pushed, Pinging.sample, List.map_append, List.length_append]
    rfl
  · intro _
    have before := sound.accounted opened
    have split := perm_others sound.ids member
    dsimp only [Pinging.sample]
    rw [List.map_append, List.append_assoc]
    refine List.Perm.trans (List.Perm.append_left _ ?_) before
    exact (split.map PingTimeout.now).symm

theorem expire_sound (sound : state.Sound) {timeout : PingTimeout}
    (member : timeout ∈ state.timeouts) : (state.expire timeout).Sound := by
  unfold expire
  dsimp only
  split
  next ended =>
    have none : state.writers = none := sound.closed.mpr ended
    refine fault_sound ⟨sound.closed, ?_, ?_, ?_, sound.keys, ?_, sound.timer, sound.average, ?_⟩
    · intro opened
      rw [none] at opened
      cases opened
    · exact sound.ids.sublist (List.filter_sublist.map _)
    · intro other present
      exact sound.fresh other (List.mem_filter.mp present).1
    · intro map started
      rw [ended] at started
      cases started
    · exact fun opened => absurd none opened
  next map started => exact sample_sound sound started member

theorem reply_sound (sound : state.Sound) (payload : List UInt8) : (state.reply payload).Sound := by
  unfold reply
  split
  · exact fault_sound sound
  · split
    next start map _ started =>
      split
      next id found =>
        have member := sound.entries map started _ (StartMap.mem_of_get found)
        exact sample_sound sound started member
      next => exact sound
    next => exact sound

theorem close_sound (sound : state.Sound) : state.close.Sound where
  closed := by simp [close]
  unopened impossible := by cases impossible
  ids := by
    unfold close
    dsimp only
    split
    · exact sound.ids
    · exact sound.ids.sublist (List.filter_sublist.map _)
  fresh := by
    unfold close
    dsimp only
    split
    · exact sound.fresh
    · exact fun timeout member => sound.fresh timeout (List.mem_filter.mp member).1
  keys map impossible := by cases impossible
  entries map impossible := by cases impossible
  timer timer held := by
    obtain ⟨before, present, rfl⟩ := Option.map_eq_some_iff.mp held
    have single := (sound.timer before present).1
    exact ⟨Timer.stop_single (.inr single), fun opened => absurd rfl opened,
      fun _ => (Timer.stop_held (.inr single)).1⟩
  average := sound.average
  accounted opened := absurd rfl opened

theorem timer_fires (sound : state.Sound) {timer after : Timer} {id : Nat}
    (held : state.pingTimer = some timer) (taken : timer.step (.fires id [] true) = some after) :
    state.writers ≠ none ∧ timer.task = true := by
  obtain ⟨single, present, quiet⟩ := sound.timer timer held
  have opened : state.writers ≠ none := by
    intro closed
    obtain ⟨entry, found, -⟩ := Option.map_eq_some_iff.mp taken
    have member := List.mem_of_find?_eq_some found
    rw [quiet closed] at member
    cases member
  exact ⟨opened, present opened⟩

theorem with_timer_sound (sound : state.Sound) {timer : Option Timer}
    (kept : ∀ other, timer = some other → other.Single ∧
      (state.writers ≠ none → other.task = true) ∧ (state.writers = none → other.scheduled = [])) :
    Sound { state with pingTimer := timer } :=
  ⟨sound.closed, sound.unopened, sound.ids, sound.fresh, sound.keys, sound.entries, kept,
    sound.average, sound.accounted⟩

theorem ready_sound (sound : state.Sound) (early : state.writers = some 0) (writers : Nat) :
    Sound { state with writers := some writers } := by
  have opened : state.writers ≠ none := by
    rw [early]
    exact Option.some_ne_none _
  exact ⟨iff_of_false (Option.some_ne_none _) (mt sound.closed.mpr opened),
    fun _ => sound.unopened early, sound.ids, sound.fresh, sound.keys, sound.entries,
    fun timer held => ⟨(sound.timer timer held).1,
      fun _ => (sound.timer timer held).2.1 opened, fun impossible => by cases impossible⟩,
    sound.average, fun _ => sound.accounted opened⟩

theorem opens_sound (sound : state.Sound) (opened : state.writers ≠ none) :
    Sound { state with pingTimer := state.pingTimer.map Timer.start } := by
  apply with_timer_sound sound
  intro other held
  obtain ⟨before, present, rfl⟩ := Option.map_eq_some_iff.mp held
  obtain ⟨single, task, -⟩ := sound.timer before present
  exact ⟨(Timer.start_held (.inr single)).1,
    fun opened => (Timer.start_task before).trans (task opened),
    fun closed => absurd closed opened⟩

theorem timer_fires_sound {next : Pinging} {id : Nat} (sound : state.Sound)
    (taken : state.step (.timerFires id) = some next) : next.Sound := by
  rw [step] at taken
  split at taken
  next => cases taken
  next timer held =>
    obtain ⟨after, fired, rfl⟩ := Option.map_eq_some_iff.mp taken
    obtain ⟨opened, present⟩ := timer_fires sound held fired
    obtain ⟨single, task⟩ := Timer.fires_alone (sound.timer timer held).1 present fired
    rw [if_pos present]
    apply ping_sound
    apply with_timer_sound sound
    intro other same
    cases same
    exact ⟨single, fun _ => task, fun closed => absurd closed opened⟩

theorem step_sound {next : Pinging} {event : Event} (sound : state.Sound)
    (taken : state.step event = some next) : next.Sound := by
  cases event with
  | elapses time =>
      obtain ⟨-, same⟩ := Option.ite_none_right_eq_some.mp taken
      cases same
      exact ⟨sound.closed, sound.unopened, sound.ids, sound.fresh, sound.keys, sound.entries,
        sound.timer, sound.average, sound.accounted⟩
  | ready writers =>
      obtain ⟨early, same⟩ := Option.ite_none_right_eq_some.mp taken
      cases same
      exact ready_sound sound early writers
  | opens =>
      rw [step] at taken
      split at taken
      next opened =>
        cases taken
        exact opens_sound sound (Option.isSome_iff_ne_none.mp opened)
      next =>
        cases taken
        exact sound
  | timerFires id => exact timer_fires_sound sound taken
  | ping =>
      cases taken
      exact ping_sound sound
  | expires id =>
      obtain ⟨timeout, found, rfl⟩ := Option.map_eq_some_iff.mp taken
      exact expire_sound sound (List.mem_of_find?_eq_some found)
  | reply payload =>
      obtain ⟨-, same⟩ := Option.ite_none_right_eq_some.mp taken
      cases same
      exact reply_sound sound payload
  | close =>
      cases taken
      exact close_sound sound

end Operations

/-- These pings are sent. They and those before may be waited for, and while the socket is
open nothing throws. -/
structure Goes (state next : Pinging) (sent : List Nat) : Prop where
  pings : next.pings = state.pings ++ sent
  times : ∀ now ∈ sent, now = state.clock
  waits : ∀ map, next.pingStartTimestamp = some map → ∀ entry ∈ map, entry.1 ∈ sent ∨
    ∃ before, state.pingStartTimestamp = some before ∧ entry ∈ before
  writers : next.writers.isSome → state.writers.isSome
  faults : next.writers.isSome → next.faults = state.faults
  clock : state.clock ≤ lastTime → next.clock ≤ lastTime

section Goes

variable {state next : Pinging}

/-- Nothing is sent, and nothing more is waited for. -/
theorem goes_silent (pings : next.pings = state.pings)
    (waits : ∀ map, next.pingStartTimestamp = some map →
      ∃ before, state.pingStartTimestamp = some before ∧ map ⊆ before)
    (writers : next.writers.isSome → state.writers.isSome)
    (faults : next.writers.isSome → next.faults = state.faults)
    (clock : state.clock ≤ lastTime → next.clock ≤ lastTime) : Goes state next [] where
  pings := by rw [pings, List.append_nil]
  times now member := by cases member
  waits map started entry member := by
    obtain ⟨before, present, inside⟩ := waits map started
    exact .inr ⟨before, present, inside member⟩
  writers := writers
  faults := faults
  clock := clock

theorem goes_none : Goes state state [] :=
  goes_silent rfl (fun map started => ⟨map, started, List.Subset.refl _⟩) id (fun _ => rfl) id

theorem ping_goes (sound : state.Sound) : ∃ sent, Goes state state.ping sent := by
  unfold ping
  split
  · exact ⟨[], goes_none⟩
  next count map positive opened started =>
    refine ⟨[state.clock], rfl, fun now => List.mem_singleton.mp, ?_, id, fun _ => rfl, id⟩
    intro other same entry member
    cases same
    rcases StartMap.mem_set.mp member with new | ⟨old, -⟩
    · rw [new]
      exact .inl List.mem_cons_self
    · exact .inr ⟨map, started, old⟩
  next first second =>
    have closed : state.writers = none := by
      by_contra opened
      obtain ⟨count, writers⟩ := Option.ne_none_iff_exists'.mp opened
      obtain ⟨map, started⟩ := Option.ne_none_iff_exists'.mp (mt sound.closed.mpr opened)
      exact second count map writers started
    refine ⟨[], goes_silent rfl (fun map started => ⟨map, started, List.Subset.refl _⟩) id ?_ id⟩
    intro opened
    rw [fault, closed] at opened
    cases opened

theorem expire_goes (sound : state.Sound) (timeout : PingTimeout) :
    Goes state (state.expire timeout) [] := by
  unfold expire
  dsimp only
  split
  next ended =>
    have closed : state.writers = none := sound.closed.mpr ended
    refine goes_silent rfl ?_ id ?_ id
    · intro map started
      rw [fault, ended] at started
      cases started
    · intro opened
      rw [fault, closed] at opened
      cases opened
  next map started =>
    refine goes_silent rfl ?_ id (fun _ => rfl) id
    intro other same
    cases same
    exact ⟨map, started, List.filter_sublist.subset⟩

theorem step_goes {event : Event} (sound : state.Sound) (other : ∀ payload, event ≠ .reply payload)
    (taken : state.step event = some next) : ∃ sent, Goes state next sent := by
  have kept (map : StartMap) (started : state.pingStartTimestamp = some map) :
      ∃ before, state.pingStartTimestamp = some before ∧ map ⊆ before :=
    ⟨map, started, List.Subset.refl _⟩
  cases event with
  | elapses time =>
      obtain ⟨bound, same⟩ := Option.ite_none_right_eq_some.mp taken
      cases same
      exact ⟨[], goes_silent rfl kept id (fun _ => rfl) (fun _ => bound)⟩
  | ready writers =>
      obtain ⟨early, same⟩ := Option.ite_none_right_eq_some.mp taken
      cases same
      refine ⟨[], goes_silent rfl kept (fun _ => ?_) (fun _ => rfl) id⟩
      rw [early]
      rfl
  | opens =>
      rw [step] at taken
      split at taken
      all_goals
        cases taken
        exact ⟨[], goes_silent rfl kept id (fun _ => rfl) id⟩
  | timerFires id =>
      rw [step] at taken
      split at taken
      next => cases taken
      next timer held =>
        obtain ⟨after, fired, rfl⟩ := Option.map_eq_some_iff.mp taken
        obtain ⟨opened, present⟩ := timer_fires sound held fired
        obtain ⟨single, task⟩ := Timer.fires_alone (sound.timer timer held).1 present fired
        rw [if_pos present]
        have still : Sound { state with pingTimer := some after } := by
          apply with_timer_sound sound
          intro other same
          cases same
          exact ⟨single, fun _ => task, fun closed => absurd closed opened⟩
        obtain ⟨sent, goes⟩ := ping_goes still
        exact ⟨sent, goes.pings, goes.times, goes.waits, goes.writers, goes.faults, goes.clock⟩
  | ping =>
      cases taken
      exact ping_goes sound
  | expires id =>
      obtain ⟨timeout, -, rfl⟩ := Option.map_eq_some_iff.mp taken
      exact ⟨[], expire_goes sound timeout⟩
  | reply payload => exact absurd rfl (other payload)
  | close =>
      cases taken
      refine ⟨[], goes_silent rfl ?_ ?_ ?_ id⟩
      · intro map impossible
        cases impossible
      · intro impossible
        cases impossible
      · intro impossible
        cases impossible

/-- The answer to a ping takes its time out of the map, and throws nothing. -/
theorem reply_ping {start : Nat} (small : start < 2 ^ 53) :
    (state.reply (Double.bytes start)).pings = state.pings ∧
      (state.reply (Double.bytes start)).writers = state.writers ∧
      (state.reply (Double.bytes start)).faults = state.faults ∧
      (state.reply (Double.bytes start)).clock = state.clock ∧
      ∀ map, (state.reply (Double.bytes start)).pingStartTimestamp = some map →
        ∃ before, state.pingStartTimestamp = some before ∧
          ∀ entry ∈ map, entry ∈ before ∧ entry.1 ≠ start := by
  have whole : ¬(Double.bytes start).length % 8 ≠ 0 := by rw [Double.bytes_length]; decide
  rw [reply, if_neg whole, Double.first_bytes small]
  cases started : state.pingStartTimestamp with
  | none =>
      refine ⟨rfl, rfl, rfl, rfl, ?_⟩
      intro map impossible
      rw [started] at impossible
      cases impossible
  | some map =>
      dsimp only
      cases found : map.get start with
      | none =>
          refine ⟨rfl, rfl, rfl, rfl, ?_⟩
          intro other same
          cases started.symm.trans same
          refine ⟨map, rfl, ?_⟩
          intro entry member
          refine ⟨member, ?_⟩
          intro equal
          have present := StartMap.get_isSome.mpr (List.mem_map_of_mem (f := Prod.fst) member)
          rw [equal, found] at present
          cases present
      | some id =>
          refine ⟨rfl, rfl, rfl, rfl, ?_⟩
          intro other same
          cases same
          exact ⟨map, rfl, fun entry => StartMap.mem_delete.mp⟩

end Goes

def Reached (state : Pinging) : Prop :=
  ∃ enablePing onPing pingInterval clock,
    StepSystem.Reachable step (newPinging enablePing onPing pingInterval clock) state

theorem reached_sound {state : Pinging} (reached : state.Reached) : state.Sound := by
  obtain ⟨enablePing, onPing, pingInterval, clock, ran⟩ := reached
  exact StepSystem.reachable_invariant (fun _ _ _ sound taken => step_sound sound taken)
    (new_sound enablePing onPing pingInterval clock) ran

def mean (times : List Nat) : ℚ := if times = [] then 0 else (times.sum : ℚ) / times.length

/-- Whatever the peer answers, and however timeouts, pings and answers follow one another, each
ping of an open socket has one round trip time or one timeout that waits, and `getRTT` is the
mean of the last five times. -/
theorem pings_accounted {state : Pinging} (reached : state.Reached) :
    (state.writers ≠ none →
      (state.samples.map Sample.start ++ state.timeouts.map PingTimeout.now).Perm state.pings) ∧
      state.rtt.getValue =
        mean ((state.samples.map Sample.rtt).drop (state.samples.length - 5)) := by
  have sound := reached_sound reached
  refine ⟨sound.accounted, ?_⟩
  rw [Avrage.getValue, sound.average.2]
  rfl

/-- Two pings, an answer to the second and the timeout of the first. -/
theorem two_pings_accounted : ∃ state : Pinging,
    (state.samples.map Sample.start ++ state.timeouts.map PingTimeout.now).Perm [100, 1100] ∧
      state.rtt.getValue = mean [20, 5000] := by
  let events : List Event := [.ready 1, .ping, .elapses 1000, .ping, .elapses 20,
    .reply (Double.bytes 1100), .elapses 3980, .expires 1]
  have ran : (StepSystem.run step (newPinging true false 5000 100) events).map
      (fun state => (state.samples, state.writers, state.pings)) =
        some ([⟨1100, 1120⟩, ⟨100, 5100⟩], some 1, [100, 1100]) := by decide
  obtain ⟨state, ended, same⟩ := Option.map_eq_some_iff.mp ran
  obtain ⟨samples, opened, pings⟩ := (Prod.mk.injEq ..).mp same |>.imp_right (Prod.mk.injEq ..).mp
  have reached : state.Reached := ⟨true, false, 5000, 100, events, ended⟩
  have accounted := pings_accounted reached
  refine ⟨state, ?_, ?_⟩
  · rw [← pings]
    apply accounted.1
    rw [opened]
    exact Option.some_ne_none _
  · rw [accounted.2, samples]
    rfl

def LeavesNothing (state : Pinging) : Prop :=
  state.close.timeouts = [] ∧ ∀ timer, state.close.pingTimer = some timer → timer.scheduled = []

/-- No ping of this millisecond waits for its answer when another is sent. -/
def Apart (state : Pinging) : Event → Prop
  | .ping => ∀ timeout ∈ state.timeouts, timeout.now ≠ state.clock
  | .timerFires _ => ∀ timeout ∈ state.timeouts, timeout.now ≠ state.clock
  | _ => True

def Found (state : Pinging) : Prop :=
  ∀ timeout ∈ state.timeouts, ∃ map, state.pingStartTimestamp = some map ∧
    (timeout.now, timeout.id) ∈ map

section Closing

variable {state next : Pinging}

theorem leaves_nothing_iff (sound : state.Sound) : state.LeavesNothing ↔ state.Found := by
  have timer : ∀ timer, state.close.pingTimer = some timer → timer.scheduled = [] := by
    intro timer held
    exact ((close_sound sound).timer timer held).2.2 rfl
  rw [LeavesNothing, and_iff_left timer]
  unfold close Found
  dsimp only
  cases started : state.pingStartTimestamp with
  | none =>
      dsimp only
      constructor
      · intro empty timeout member
        rw [empty] at member
        cases member
      · intro found
        apply List.eq_nil_iff_forall_not_mem.mpr
        intro timeout member
        obtain ⟨map, impossible, -⟩ := found timeout member
        cases impossible
  | some map =>
      dsimp only
      rw [List.filter_eq_nil_iff]
      constructor
      · intro cleared timeout member
        have known := cleared timeout member
        rw [decide_eq_true_iff, not_not] at known
        obtain ⟨⟨key, id⟩, stored, same⟩ := List.mem_map.mp known
        have waiting := sound.entries map started _ stored
        have equal : (⟨id, key⟩ : PingTimeout) = timeout := id_unique sound.ids waiting member same
        subst equal
        exact ⟨map, rfl, stored⟩
      · intro found timeout member
        obtain ⟨other, same, stored⟩ := found timeout member
        cases same
        rw [decide_eq_true_iff, not_not]
        exact List.mem_map_of_mem (f := Prod.snd) stored

theorem new_found (enablePing onPing : Bool) (pingInterval clock : Nat) :
    (newPinging enablePing onPing pingInterval clock).Found := by
  intro timeout member
  cases member

theorem ping_found_iff (sound : state.Sound) (found : state.Found) :
    state.ping.Found ↔ ∀ timeout ∈ state.timeouts, timeout.now ≠ state.clock := by
  unfold ping
  split
  next unopened =>
    have nothing := sound.unopened unopened
    rw [nothing]
    exact iff_of_true found fun _ member => absurd member List.not_mem_nil
  next count map positive opened started =>
    constructor
    · intro after timeout member same
      obtain ⟨other, stored, present⟩ := after timeout (List.mem_append_left _ member)
      cases stored
      rcases StartMap.mem_set.mp present with new | ⟨-, apart⟩
      · have less := sound.fresh timeout member
        have equal : timeout.id = state.nextId := congrArg Prod.snd new
        omega
      · exact apart same
    · intro apart timeout member
      refine ⟨_, rfl, ?_⟩
      rcases List.mem_append.mp member with old | new
      · obtain ⟨other, stored, present⟩ := found timeout old
        cases started.symm.trans stored
        exact StartMap.mem_set.mpr (.inr ⟨present, apart timeout old⟩)
      · rw [List.mem_singleton.mp new]
        exact StartMap.mem_set.mpr (.inl rfl)
  next first second =>
    have nothing : ∀ timeout, timeout ∉ state.timeouts := by
      intro timeout member
      obtain ⟨map, started, -⟩ := found timeout member
      cases opened : state.writers with
      | none => exact absurd started (sound.closed.mp opened ▸ (Option.some_ne_none _).symm)
      | some count => exact second count map opened started
    exact iff_of_true found fun timeout member => absurd member (nothing timeout)

theorem sample_found (sound : state.Sound) (found : state.Found) {map : StartMap}
    {timeout : PingTimeout} (started : state.pingStartTimestamp = some map)
    (member : timeout ∈ state.timeouts) :
    Found { state.sample timeout.now with
      timeouts := state.timeouts.filter fun other => other.id ≠ timeout.id
      pingStartTimestamp := some (map.delete timeout.now) } := by
  intro other present
  obtain ⟨waits, apart⟩ := List.mem_filter.mp present
  obtain ⟨own, stored, first⟩ := found timeout member
  obtain ⟨_, again, second⟩ := found other waits
  cases started.symm.trans stored
  cases started.symm.trans again
  refine ⟨_, rfl, StartMap.mem_delete.mpr ⟨second, ?_⟩⟩
  intro same
  have equal := List.inj_on_of_nodup_map (sound.keys map started) second first same
  rw [decide_eq_true_iff] at apart
  exact apart (congrArg Prod.snd equal)

theorem expire_found (sound : state.Sound) (found : state.Found) {timeout : PingTimeout}
    (member : timeout ∈ state.timeouts) : (state.expire timeout).Found := by
  obtain ⟨map, started, -⟩ := found timeout member
  unfold expire
  dsimp only
  split
  next ended =>
    rw [started] at ended
    cases ended
  next other same =>
    cases started.symm.trans same
    exact sample_found sound found started member

theorem reply_found (sound : state.Sound) (found : state.Found) (payload : List UInt8) :
    (state.reply payload).Found := by
  unfold reply
  split
  · exact found
  · split
    next start map _ started =>
      split
      next id present =>
        have member := sound.entries map started _ (StartMap.mem_of_get present)
        exact sample_found sound found started member
      next => exact found
    next => exact found

theorem step_found_iff {event : Event} (sound : state.Sound) (found : state.Found)
    (taken : state.step event = some next) : next.Found ↔ state.Apart event := by
  cases event with
  | elapses time =>
      obtain ⟨-, same⟩ := Option.ite_none_right_eq_some.mp taken
      cases same
      exact iff_of_true found trivial
  | ready writers =>
      obtain ⟨-, same⟩ := Option.ite_none_right_eq_some.mp taken
      cases same
      exact iff_of_true found trivial
  | opens =>
      rw [step] at taken
      split at taken
      all_goals
        cases taken
        exact iff_of_true found trivial
  | timerFires id =>
      rw [step] at taken
      split at taken
      next => cases taken
      next timer held =>
        obtain ⟨after, fired, rfl⟩ := Option.map_eq_some_iff.mp taken
        obtain ⟨opened, present⟩ := timer_fires sound held fired
        obtain ⟨single, task⟩ := Timer.fires_alone (sound.timer timer held).1 present fired
        rw [if_pos present]
        have kept : Sound { state with pingTimer := some after } := by
          apply with_timer_sound sound
          intro other same
          cases same
          exact ⟨single, fun _ => task, fun closed => absurd closed opened⟩
        exact ping_found_iff kept found
  | ping =>
      cases taken
      exact ping_found_iff sound found
  | expires id =>
      obtain ⟨timeout, same, rfl⟩ := Option.map_eq_some_iff.mp taken
      exact iff_of_true (expire_found sound found (List.mem_of_find?_eq_some same)) trivial
  | reply payload =>
      obtain ⟨-, same⟩ := Option.ite_none_right_eq_some.mp taken
      cases same
      exact iff_of_true (reply_found sound found payload) trivial
  | close =>
      cases taken
      refine iff_of_true ?_ trivial
      intro timeout member
      rw [((leaves_nothing_iff sound).mpr found).1] at member
      cases member

end Closing

/-- From every state of a run `close` would leave no callback behind, exactly if along it no
ping is sent while another of the same millisecond waits. -/
theorem close_leaves_nothing_iff (enablePing onPing : Bool) (pingInterval clock : Nat)
    (events : List Event) :
    StepSystem.Steps step (fun _ _ next => next.LeavesNothing)
        (newPinging enablePing onPing pingInterval clock) events ↔
      StepSystem.Steps step (fun state event _ => state.Apart event)
        (newPinging enablePing onPing pingInterval clock) events := by
  refine StepSystem.steps_iff (fun state => state.Sound ∧ state.Found) ?_ ?_
    ⟨new_sound enablePing onPing pingInterval clock, new_found enablePing onPing pingInterval clock⟩
  · intro state event next inv taken
    rw [leaves_nothing_iff (step_sound inv.1 taken)]
    exact step_found_iff inv.1 inv.2 taken
  · intro state event next inv apart taken
    exact ⟨step_sound inv.1 taken, (step_found_iff inv.1 inv.2 taken).mpr apart⟩

/-- The first of two pings of one millisecond still waits when the socket has been closed, and
its callback throws. -/
example : (StepSystem.run step (newPinging true false 5000 100)
    [.ready 1, .ping, .ping, .close, .expires 1]).map (fun state => (state.timeouts, state.faults)) =
      some ([], 1) := by decide

end Pinging

end WebTransportGos.Helper
