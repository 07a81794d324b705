import Mathlib.Data.List.Basic

/-!
A machine that answers every call. What it answers over a run is its trace; two machines are
compared by a relation of their states that every call keeps, under equal answers.
-/

namespace Machine

set_option autoImplicit false

variable {State Abstract Call Answer : Type*}

def trace (step : State → Call → Answer × State) : State → List Call → List Answer × State
  | state, [] => ([], state)
  | state, call :: calls =>
    let later := trace step (step state call).2 calls
    ((step state call).1 :: later.1, later.2)

def Reached (step : State → Call → Answer × State) (start state : State) : Prop :=
  ∃ calls, (trace step start calls).2 = state

section Rules

variable {step : State → Call → Answer × State} {start : State}

theorem trace_invariant {inv : State → Prop}
    (preserved : ∀ state call, inv state → inv (step state call).2) (initial : inv start)
    (calls : List Call) : inv (trace step start calls).2 := by
  induction calls generalizing start with
  | nil => exact initial
  | cons call calls induction => exact induction (preserved start call initial)

theorem reached_invariant {inv : State → Prop} {state : State}
    (preserved : ∀ state call, inv state → inv (step state call).2) (initial : inv start)
    (reached : Reached step start state) : inv state := by
  obtain ⟨calls, rfl⟩ := reached
  exact trace_invariant preserved initial calls

/-- The simulation rule. -/
theorem trace_refines {spec : Abstract → Call → Answer × Abstract} {rel : State → Abstract → Prop}
    (simulates : ∀ state abstract call, rel state abstract →
      (step state call).1 = (spec abstract call).1 ∧
        rel (step state call).2 (spec abstract call).2)
    {abstract : Abstract} (initial : rel start abstract) (calls : List Call) :
    (trace step start calls).1 = (trace spec abstract calls).1 ∧
      rel (trace step start calls).2 (trace spec abstract calls).2 := by
  induction calls generalizing start abstract with
  | nil => exact ⟨rfl, initial⟩
  | cons call calls induction =>
    have simulated := simulates start abstract call initial
    have later := induction simulated.2
    exact ⟨congrArg₂ List.cons simulated.1 later.1, later.2⟩

end Rules

end Machine
