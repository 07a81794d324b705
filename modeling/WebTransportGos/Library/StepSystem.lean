import Mathlib.Data.List.Basic

/-!
Runs of a deterministic, partial step function. An event that is not enabled has
no next state, and a run over it does not exist. `Steps` is what a run is judged
by: a law that links the state before, the event and the state after, required of
every step the run takes. Each induction over runs is done once here, for invariants,
for ranks and for laws that agree.
-/

namespace StepSystem

set_option autoImplicit false

variable {State Event : Type*}

def run (step : State → Event → Option State) : State → List Event → Option State
  | state, [] => some state
  | state, event :: events => (step state event).bind fun next => run step next events

/-- Every step taken along `events` meets `law`. -/
def Steps (step : State → Event → Option State) (law : State → Event → State → Prop) :
    State → List Event → Prop
  | _, [] => True
  | state, event :: events =>
      ∀ next, step state event = some next → law state event next ∧ Steps step law next events

/-- A run is judged by running it. -/
instance decidableSteps {step : State → Event → Option State} {law : State → Event → State → Prop}
    [∀ state event next, Decidable (law state event next)] :
    ∀ state events, Decidable (Steps step law state events)
  | _, [] => isTrue trivial
  | state, event :: events =>
      match taken : step state event with
      | none => isTrue fun next other => absurd (taken.symm.trans other) (by simp)
      | some next =>
          have : Decidable (Steps step law next events) := decidableSteps next events
          decidable_of_iff (law state event next ∧ Steps step law next events)
            ⟨fun met other same => by cases taken.symm.trans same; exact met,
              fun met => met next taken⟩

def Reachable (step : State → Event → Option State) (start state : State) : Prop :=
  ∃ events, run step start events = some state

/-- A step of a system with two phases may end the first one; else it stays where it is. -/
structure Phased (first second : State → Prop) (ends : Bool) (state next : State) : Prop where
  ending : ends = true → second next
  staying : ends = false → (first state → first next) ∧ (second state → second next)

section Phases

variable {first second : State → Prop} {ends : Bool} {state next : State}

theorem Phased.second_stays (phased : Phased first second ends state next)
    (here : second state) : second next := by
  cases ends with
  | true => exact phased.ending rfl
  | false => exact (phased.staying rfl).2 here

theorem Phased.either_stays (phased : Phased first second ends state next)
    (here : first state ∨ second state) : first next ∨ second next := by
  cases ends with
  | true => exact .inr (phased.ending rfl)
  | false => exact here.imp (phased.staying rfl).1 (phased.staying rfl).2

theorem Phased.first_before (phased : Phased first second ends state next)
    (here : first state ∨ second state) (apart : ¬second next) :
    first state ∧ ends = false := by
  cases ends with
  | true => exact absurd (phased.ending rfl) apart
  | false =>
      refine ⟨here.resolve_right ?_, rfl⟩
      intro ended
      exact apart ((phased.staying rfl).2 ended)

end Phases

section Rules

variable {step : State → Event → Option State} {start final : State} {events : List Event}

theorem run_cons (state : State) (event : Event) (events : List Event) :
    run step state (event :: events) = (step state event).bind fun next => run step next events :=
  rfl

theorem run_cons_some {state : State} {event : Event} :
    run step state (event :: events) = some final ↔
      ∃ next, step state event = some next ∧ run step next events = some final := by
  rw [run_cons, Option.bind_eq_some_iff]

theorem run_invariant {inv : State → Prop}
    (preserved : ∀ state event next, inv state → step state event = some next → inv next)
    (initial : inv start) (ran : run step start events = some final) : inv final := by
  induction events generalizing start with
  | nil =>
      cases ran
      exact initial
  | cons event events induction =>
      obtain ⟨next, taken, rest⟩ := run_cons_some.mp ran
      exact induction (preserved start event next initial taken) rest

theorem reachable_invariant {inv : State → Prop} {state : State}
    (preserved : ∀ state event next, inv state → step state event = some next → inv next)
    (initial : inv start) (reached : Reachable step start state) : inv state := by
  obtain ⟨events, ran⟩ := reached
  exact run_invariant preserved initial ran

theorem reachable_refl (state : State) : Reachable step state state := ⟨[], rfl⟩

theorem Reachable.trans {middle : State} (first : Reachable step start middle)
    (second : Reachable step middle final) : Reachable step start final := by
  obtain ⟨events, ran⟩ := first
  induction events generalizing start with
  | nil =>
      cases ran
      exact second
  | cons event events induction =>
      obtain ⟨next, taken, rest⟩ := run_cons_some.mp ran
      obtain ⟨later, reached⟩ := induction rest
      exact ⟨event :: later, run_cons_some.mpr ⟨next, taken, reached⟩⟩

theorem reachable_step {event : Event} (taken : step start event = some final) :
    Reachable step start final := ⟨[event], run_cons_some.mpr ⟨final, taken, rfl⟩⟩

/-- Stuttering simulation: every step is one of the other system, or changes nothing there. -/
theorem run_simulates {Abstract Move : Type*} {spec : Abstract → Move → Option Abstract}
    {rel : State → Abstract → Prop}
    (simulates : ∀ state event next abstract, rel state abstract → step state event = some next →
      rel next abstract ∨ ∃ move after, spec abstract move = some after ∧ rel next after)
    {abstract : Abstract} (related : rel start abstract)
    (ran : run step start events = some final) :
    ∃ moves after, run spec abstract moves = some after ∧ rel final after := by
  induction events generalizing start abstract with
  | nil =>
      cases ran
      exact ⟨[], abstract, rfl, related⟩
  | cons event events induction =>
      obtain ⟨next, taken, rest⟩ := run_cons_some.mp ran
      cases simulates start event next abstract related taken with
      | inl stutters => exact induction stutters rest
      | inr moves =>
          obtain ⟨move, after, moved, holds⟩ := moves
          obtain ⟨later, last, reached, ends⟩ := induction holds rest
          exact ⟨move :: later, last, run_cons_some.mpr ⟨after, moved, reached⟩, ends⟩

/-- The rank rule. A counted event brings the rank down and no other allowed one brings it up,
as long as the system lives: so the counted events of a run are no more than its rank at
the start. -/
theorem run_rank (inv alive : State → Prop) (counted : Event → Bool) (rank : State → Nat)
    {allowed : Event → Prop}
    (preserved : ∀ state event next, inv state → step state event = some next → inv next)
    (bounded : ∀ state event next, inv state → step state event = some next → allowed event →
      alive next → alive state ∧ rank next + (if counted event then 1 else 0) ≤ rank state)
    (initial : inv start) (all : ∀ event ∈ events, allowed event)
    (ran : run step start events = some final) (ends : alive final) :
    alive start ∧ rank final + events.countP counted ≤ rank start := by
  induction events generalizing start with
  | nil =>
      cases ran
      exact ⟨ends, Nat.le_refl _⟩
  | cons event events induction =>
      obtain ⟨next, taken, rest⟩ := run_cons_some.mp ran
      obtain ⟨lives, later⟩ := induction (preserved start event next initial taken)
        (fun other member => all other (List.mem_cons_of_mem _ member)) rest
      obtain ⟨living, less⟩ := bounded start event next initial taken
        (all event List.mem_cons_self) lives
      refine ⟨living, ?_⟩
      rw [List.countP_cons]
      omega

theorem steps_cons {law : State → Event → State → Prop} {state next : State} {event : Event}
    (taken : step state event = some next) (met : law state event next)
    (later : Steps step law next events) : Steps step law state (event :: events) := by
  intro other again
  cases taken.symm.trans again
  exact ⟨met, later⟩

/-- A law that every step from an invariant state meets holds of every run. -/
theorem steps_of_invariant (inv : State → Prop) {law : State → Event → State → Prop}
    (meets : ∀ state event next, inv state → step state event = some next →
      law state event next ∧ inv next)
    (initial : inv start) : Steps step law start events := by
  induction events generalizing start with
  | nil => exact trivial
  | cons event events induction =>
      intro next taken
      have met := meets start event next initial taken
      exact ⟨met.1, induction met.2⟩

/-- The same where the law of a step hangs on a condition. -/
theorem steps_imp (inv : State → Prop) {law condition : State → Event → State → Prop}
    (meets : ∀ state event next, inv state → condition state event next →
      step state event = some next → law state event next ∧ inv next)
    (initial : inv start) (conditions : Steps step condition start events) :
    Steps step law start events := by
  induction events generalizing start with
  | nil => exact trivial
  | cons event events induction =>
      intro next taken
      obtain ⟨condition, later⟩ := conditions next taken
      have met := meets start event next initial condition taken
      exact ⟨met.1, induction met.2 later⟩

/-- The invariant rule for a run whose steps all meet a condition. -/
theorem run_invariant_of_steps {inv : State → Prop} {condition : State → Event → State → Prop}
    (preserved : ∀ state event next, inv state → condition state event next →
      step state event = some next → inv next)
    (initial : inv start) (conditions : Steps step condition start events)
    (ran : run step start events = some final) : inv final := by
  induction events generalizing start with
  | nil =>
      cases ran
      exact initial
  | cons event events induction =>
      obtain ⟨next, taken, rest⟩ := run_cons_some.mp ran
      obtain ⟨condition, later⟩ := conditions next taken
      exact induction (preserved start event next initial condition taken) later rest

/-- Two laws that agree on every step from an invariant state agree on every run. The
second may be read under the first: agreement is asked only where the run got so far. -/
theorem steps_iff (inv : State → Prop) {law condition : State → Event → State → Prop}
    (agree : ∀ state event next, inv state → step state event = some next →
      (law state event next ↔ condition state event next))
    (preserved : ∀ state event next, inv state → condition state event next →
      step state event = some next → inv next)
    (initial : inv start) :
    Steps step law start events ↔ Steps step condition start events := by
  induction events generalizing start with
  | nil => exact Iff.rfl
  | cons event events induction =>
      refine forall_congr' fun next => imp_congr_right fun taken => ?_
      have same := agree start event next initial taken
      constructor
      · rintro ⟨met, later⟩
        have condition := same.mp met
        exact ⟨condition, (induction (preserved start event next initial condition taken)).mp later⟩
      · rintro ⟨met, later⟩
        exact ⟨same.mpr met, (induction (preserved start event next initial met taken)).mpr later⟩

end Rules

end StepSystem
