import WebTransportGos.Library.StepSystem

/-!
bjy-common, lib/helper/Timer.js: a task that is run again and again, each run scheduled by
the one before. The scheduled timeouts are part of the state; what the task calls on its own
timer is part of the run that calls it. A timeout keeps the interval that its `start` found,
and a call of a destroyed task throws.
-/

namespace WebTransportGos.Helper

set_option autoImplicit false

/-- A timeout that has not fired: the delay it was set with, and the interval of its closure. -/
structure Scheduled where
  id : Nat
  delay : Option Nat
  interval : Option Nat
  deriving DecidableEq, Repr

/-- A field that is null is `none`, and `task` tells whether there is one. `runs` counts the
calls of the task and `faults` those of a task that is null. -/
structure Timer where
  task : Bool
  timeout : Option Nat
  interval : Option Nat
  count : Nat
  timer : Option Nat
  scheduled : List Scheduled
  nextId : Nat
  runs : Nat
  faults : Nat
  deriving DecidableEq, Repr

def newTimer (timeout : Option Nat) (interval : Nat) : Timer where
  task := true
  timeout := timeout
  interval := some interval
  count := 0
  timer := none
  scheduled := []
  nextId := 1
  runs := 0
  faults := 0

namespace Timer

def schedule (delay interval : Option Nat) (timer : Timer) : Timer :=
  { timer with
    timer := some timer.nextId
    scheduled := timer.scheduled ++ [⟨timer.nextId, delay, interval⟩]
    nextId := timer.nextId + 1 }

def clearTimeout (id : Nat) (timer : Timer) : Timer :=
  { timer with scheduled := timer.scheduled.filter fun entry => entry.id ≠ id }

def stop (timer : Timer) : Timer :=
  match timer.timer with
  | none => timer
  | some id => { timer.clearTimeout id with timer := none, count := 0 }

def start (timer : Timer) : Timer :=
  let stopped := timer.stop
  stopped.schedule (if stopped.timeout = none then stopped.interval else stopped.timeout)
    stopped.interval

def updateInterval (interval : Nat) (timer : Timer) : Timer :=
  { timer with interval := some interval }

def isStarted (timer : Timer) : Bool := timer.timer.isSome

def destroy (timer : Timer) : Timer :=
  { timer.stop with task := false, timeout := none, interval := none }

inductive Call where
  | start
  | stop
  | updateInterval (interval : Nat)
  | destroy
  deriving DecidableEq, Repr

def handleCall (timer : Timer) : Call → Timer
  | .start => timer.start
  | .stop => timer.stop
  | .updateInterval interval => timer.updateInterval interval
  | .destroy => timer.destroy

/-- `next`, called by the timeout `entry`. The task makes `calls` and returns something else
than false if it is to go `on`. -/
def next (entry : Scheduled) (calls : List Call) (on : Bool) (timer : Timer) : Timer :=
  let fired := { timer.clearTimeout entry.id with count := timer.count + 1 }
  if !fired.task then { fired with faults := fired.faults + 1 }
  else
    let after := calls.foldl handleCall { fired with runs := fired.runs + 1 }
    if on ∧ after.timer.isSome then after.schedule entry.interval entry.interval else after.stop

inductive Event where
  | call (call : Call)
  | fires (id : Nat) (calls : List Call) (on : Bool)
  deriving DecidableEq, Repr

def step (timer : Timer) : Event → Option Timer
  | .call call => some (timer.handleCall call)
  | .fires id calls on => (timer.scheduled.find? fun entry => entry.id == id).map fun entry =>
      timer.next entry calls on

/-- One timeout waits, the one that the timer holds, or none does and it holds none. -/
def Single (timer : Timer) : Prop := timer.scheduled.map Scheduled.id = timer.timer.toList

def restarted : Bool → List Call → Bool
  | flag, [] => flag
  | _, .start :: calls => restarted true calls
  | _, .stop :: calls => restarted false calls
  | flag, .updateInterval _ :: calls => restarted flag calls
  | _, .destroy :: calls => restarted false calls

/-- The task exists, and does not both start its timer again and go on. -/
def KeepsChain (timer : Timer) : Event → Prop
  | .call _ => True
  | .fires _ calls on => timer.task = true ∧ ¬(restarted false calls = true ∧ on = true)

section Calls

variable {timer : Timer}

theorem single_new (timeout : Option Nat) (interval : Nat) :
    (newTimer timeout interval).Single := rfl

def Held (timer : Timer) : Prop := timer.scheduled = [] ∨ timer.Single

theorem stop_held (held : timer.Held) : timer.stop.scheduled = [] ∧ timer.stop.timer = none := by
  unfold stop
  split
  next stopped =>
    refine ⟨?_, stopped⟩
    rcases held with empty | single
    · exact empty
    · rw [Single, stopped] at single
      exact List.map_eq_nil_iff.mp single
  next id holds =>
    refine ⟨?_, rfl⟩
    apply List.filter_eq_nil_iff.mpr
    intro entry member
    rcases held with empty | single
    · rw [empty] at member
      cases member
    · have same := List.mem_map_of_mem (f := Scheduled.id) member
      rw [single, holds, Option.toList_some, List.mem_singleton] at same
      simp [same]

theorem schedule_single (delay interval : Option Nat) (empty : timer.scheduled = []) :
    (timer.schedule delay interval).Single := by
  simp [Single, schedule, empty]

theorem start_held (held : timer.Held) : timer.start.Single ∧ timer.start.timer.isSome :=
  ⟨schedule_single _ _ (stop_held held).1, rfl⟩

theorem stop_single (held : timer.Held) : timer.stop.Single := by
  obtain ⟨empty, none⟩ := stop_held held
  rw [Single, empty, none]
  rfl

theorem start_task (timer : Timer) : timer.start.task = timer.task := by
  rw [start, schedule, stop]
  split
  · rfl
  · rfl

/-- Called from outside, no method leaves a timeout that the timer does not hold. -/
theorem handle_call_single (single : timer.Single) (call : Call) :
    (timer.handleCall call).Single := by
  cases call with
  | start => exact (start_held (.inr single)).1
  | stop => exact stop_single (.inr single)
  | updateInterval interval => exact single
  | destroy => exact stop_single (.inr single)

/-- What the calls of a task leave. The induction is on the calls; the flag says whether the
timer has been started by one of those before. -/
theorem calls_spec (calls : List Call) (flag : Bool)
    (started : flag = true → timer.Single ∧ timer.timer.isSome)
    (idle : flag = false → timer.scheduled = []) :
    (restarted flag calls = true →
      (calls.foldl handleCall timer).Single ∧ (calls.foldl handleCall timer).timer.isSome) ∧
      (restarted flag calls = false → (calls.foldl handleCall timer).scheduled = []) := by
  induction calls generalizing timer flag with
  | nil => exact ⟨started, idle⟩
  | cons call calls induction =>
      have held : timer.Held := by
        cases flag with
        | true => exact .inr (started rfl).1
        | false => exact .inl (idle rfl)
      rw [List.foldl_cons]
      cases call with
      | start =>
          apply induction true
          · exact fun _ => start_held held
          · intro impossible
            cases impossible
      | stop =>
          apply induction false
          · intro impossible
            cases impossible
          · exact fun _ => (stop_held held).1
      | updateInterval interval => exact induction flag started idle
      | destroy =>
          apply induction false
          · intro impossible
            cases impossible
          · exact fun _ => (stop_held held).1

end Calls

section Chain

variable {timer after : Timer} {event : Event}

theorem fired_alone (single : timer.Single) {id : Nat} {entry : Scheduled}
    (found : (timer.scheduled.find? fun entry => entry.id == id) = some entry) :
    (timer.clearTimeout entry.id).scheduled = [] := by
  have member := List.mem_map_of_mem (f := Scheduled.id) (List.mem_of_find?_eq_some found)
  apply List.filter_eq_nil_iff.mpr
  intro other present
  have same := List.mem_map_of_mem (f := Scheduled.id) present
  rw [single, Option.mem_toList] at member same
  have equal : other.id = entry.id := Option.some.inj (same.symm.trans member)
  simp [equal]

theorem next_single_iff (entry : Scheduled) (calls : List Call) (on : Bool)
    (alone : (timer.clearTimeout entry.id).scheduled = []) (held : timer.timer.isSome) :
    (timer.next entry calls on).Single ↔
      timer.task = true ∧ ¬(restarted false calls = true ∧ on = true) := by
  cases present : timer.task with
  | false =>
      have faulted : timer.next entry calls on =
          { timer.clearTimeout entry.id with
            count := timer.count + 1, faults := timer.faults + 1 } := by
        simp [next, clearTimeout, present]
      obtain ⟨id, holds⟩ := Option.isSome_iff_exists.mp held
      have waits : (timer.clearTimeout entry.id).timer = some id := holds
      rw [faulted, Single]
      dsimp only
      rw [alone, waits]
      simp
  | true =>
      let fired : Timer := { timer.clearTimeout entry.id with
        count := timer.count + 1, runs := timer.runs + 1 }
      have idle : fired.scheduled = [] := alone
      obtain ⟨again, quiet⟩ := @calls_spec fired calls false
        (fun impossible => by cases impossible) (fun _ => idle)
      have ran : timer.next entry calls on =
          if on = true ∧ (calls.foldl handleCall fired).timer.isSome = true then
            (calls.foldl handleCall fired).schedule entry.interval entry.interval
          else (calls.foldl handleCall fired).stop := by
        simp [next, clearTimeout, present, fired]
      rw [ran]
      cases restart : restarted false calls with
      | true =>
          obtain ⟨single, some⟩ := again restart
          cases on with
          | true =>
              rw [if_pos ⟨rfl, some⟩]
              have two : ¬((calls.foldl handleCall fired).schedule entry.interval
                  entry.interval).Single := by
                intro one
                have length := congrArg List.length one
                have before := congrArg List.length single
                obtain ⟨id, holds⟩ := Option.isSome_iff_exists.mp some
                rw [holds] at before
                simp only [schedule, List.map_append, List.length_append, List.length_map,
                  Option.toList_some, List.length_singleton, List.map_cons, List.map_nil] at length before
                omega
              simp [two]
          | false =>
              rw [if_neg (by simp)]
              simpa using stop_single (.inr single)
      | false =>
          have empty := quiet restart
          by_cases goes : on = true ∧ (calls.foldl handleCall fired).timer.isSome = true
          · rw [if_pos goes]
            simpa using schedule_single entry.interval entry.interval empty
          · rw [if_neg goes]
            simpa using stop_single (.inl empty)

theorem step_single_iff (single : timer.Single) (taken : timer.step event = some after) :
    after.Single ↔ timer.KeepsChain event := by
  cases event with
  | call call =>
      cases taken
      exact iff_of_true (handle_call_single single call) trivial
  | fires id calls on =>
      obtain ⟨entry, found, rfl⟩ := Option.map_eq_some_iff.mp taken
      have member := List.mem_map_of_mem (f := Scheduled.id) (List.mem_of_find?_eq_some found)
      rw [single, Option.mem_toList] at member
      exact next_single_iff entry calls on (fired_alone single found)
        (Option.isSome_iff_exists.mpr ⟨_, member⟩)

end Chain

theorem fires_alone {timer after : Timer} {id : Nat} (single : timer.Single)
    (present : timer.task = true) (taken : timer.step (.fires id [] true) = some after) :
    after.Single ∧ after.task = true := by
  refine ⟨(step_single_iff single taken).mpr ⟨present, by simp [restarted]⟩, ?_⟩
  obtain ⟨entry, -, rfl⟩ := Option.map_eq_some_iff.mp taken
  simp only [next, clearTimeout, present, Bool.not_true, Bool.false_eq_true, if_false,
    List.foldl_nil, true_and]
  split
  · rfl
  · rw [stop]
    split
    · rfl
    · rfl

/-- A timer has one run ahead while it says that it is started, and none when it is stopped, exactly
along the runs in which no task starts its timer again and goes on, or is called when destroyed. -/
theorem one_chain_iff (timeout : Option Nat) (interval : Nat) (events : List Event) :
    StepSystem.Steps step (fun _ _ after => after.Single) (newTimer timeout interval) events ↔
      StepSystem.Steps step (fun timer event _ => timer.KeepsChain event)
        (newTimer timeout interval) events :=
  StepSystem.steps_iff Single (fun _ _ _ single taken => step_single_iff single taken)
    (fun _ _ _ single keeps taken => (step_single_iff single taken).mpr keeps)
    (single_new timeout interval)

/-- A task that starts its own timer leaves a second chain behind. -/
example : (StepSystem.run step (newTimer none 1000) [.call .start, .fires 1 [.start] true]).map
    (fun timer => timer.scheduled.map Scheduled.id) = some [2, 3] := by decide

end Timer

end WebTransportGos.Helper
