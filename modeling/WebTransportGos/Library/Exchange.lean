import WebTransportGos.Library.StepSystem
import Mathlib.Algebra.Order.BigOperators.Group.Finset
import Mathlib.Data.Fintype.Basic

/-!
Parties that talk over one-way channels. What a party has written by now depends on what has
arrived; a step delivers a further piece of what has been written on one channel, in any
cut. If more input never takes back output, then in every run what has arrived is a beginning
of what has been written, and with bounded output every run comes to a point where all that
has been written has arrived.
-/

namespace Exchange

open StepSystem

set_option autoImplicit false

variable {Channel Item : Type*} [DecidableEq Channel]

/-- What has arrived on each channel, in the pieces it came in. -/
abbrev Arrived (Channel Item : Type*) := Channel → List (List Item)

def nothing : Arrived Channel Item := fun _ => []

def deliver (arrived : Arrived Channel Item) (channel : Channel) (piece : List Item) :
    Arrived Channel Item :=
  Function.update arrived channel (arrived channel ++ [piece])

section Delivered

variable (arrived : Arrived Channel Item) (piece : List Item)

theorem deliver_same (channel : Channel) :
    deliver arrived channel piece channel = arrived channel ++ [piece] :=
  Function.update_self _ _ _

theorem deliver_other {channel other : Channel} (different : other ≠ channel) :
    deliver arrived channel piece other = arrived other :=
  Function.update_of_ne different _ _

theorem flatten_deliver (channel : Channel) :
    (deliver arrived channel piece channel).flatten = (arrived channel).flatten ++ piece := by
  rw [deliver_same, List.flatten_append]
  simp

end Delivered

variable (written : Arrived Channel Item → Channel → List Item)

def Pending (arrived : Arrived Channel Item) (channel : Channel) (piece : List Item) : Prop :=
  piece ≠ [] ∧ (arrived channel).flatten ++ piece <+: written arrived channel

instance [DecidableEq Item] (arrived : Arrived Channel Item) (channel : Channel)
    (piece : List Item) : Decidable (Pending written arrived channel piece) :=
  inferInstanceAs (Decidable (_ ∧ _))

def step [DecidableEq Item] (arrived : Arrived Channel Item) (event : Channel × List Item) :
    Option (Arrived Channel Item) :=
  if Pending written arrived event.1 event.2 then some (deliver arrived event.1 event.2) else none

/-- Only what has been written arrives. -/
structure Sound (arrived : Arrived Channel Item) : Prop where
  written : ∀ channel, (arrived channel).flatten <+: written arrived channel
  pieces : ∀ channel, [] ∉ arrived channel

/-- A delivery never takes back what has been written. -/
def Monotone : Prop :=
  ∀ arrived channel piece, Sound written arrived → Pending written arrived channel piece →
    ∀ other, written arrived other <+: written (deliver arrived channel piece) other

def Quiet (arrived : Arrived Channel Item) : Prop :=
  ∀ channel, (arrived channel).flatten = written arrived channel

section Rules

variable [DecidableEq Item] {written} {arrived next : Arrived Channel Item}
  {event : Channel × List Item}

theorem step_some :
    step written arrived event = some next ↔
      Pending written arrived event.1 event.2 ∧ next = deliver arrived event.1 event.2 := by
  rw [step, Option.ite_none_right_eq_some, Option.some.injEq, eq_comm (a := next)]

theorem sound_step (monotone : Monotone written) (sound : Sound written arrived)
    (taken : step written arrived event = some next) : Sound written next := by
  obtain ⟨pending, rfl⟩ := step_some.mp taken
  have grown := monotone arrived event.1 event.2 sound pending
  constructor
  · intro channel
    by_cases same : channel = event.1
    · rw [same, flatten_deliver]
      exact pending.2.trans (grown event.1)
    · rw [deliver_other _ _ same]
      exact (sound.written channel).trans (grown channel)
  · intro channel
    by_cases same : channel = event.1
    · rw [same, deliver_same, List.mem_append, List.mem_singleton]
      intro member
      exact member.elim (sound.pieces event.1) pending.1.symm
    · rw [deliver_other _ _ same]
      exact sound.pieces channel

omit [DecidableEq Channel] [DecidableEq Item] in
theorem sound_nothing : Sound written nothing :=
  ⟨fun _ => List.nil_prefix, fun _ => List.not_mem_nil⟩

omit [DecidableEq Channel] [DecidableEq Item] in
theorem not_pending {channel : Channel} {piece : List Item}
    (whole : (arrived channel).flatten = written arrived channel) :
    ¬Pending written arrived channel piece := by
  intro pending
  have longer := pending.2.length_le
  have positive := List.length_pos_iff.mpr pending.1
  rw [List.length_append, whole] at longer
  omega

/-- In every run only what has been written has arrived. -/
theorem sound_of_reachable (monotone : Monotone written)
    (reached : Reachable (step written) nothing arrived) : Sound written arrived :=
  reachable_invariant (fun _ _ _ sound taken => sound_step monotone sound taken) sound_nothing
    reached

/-- What could not go on in a sound state is complete. -/
theorem quiet_iff (sound : Sound written arrived) :
    Quiet written arrived ↔ ∀ event, step written arrived event = none := by
  constructor
  · intro quiet event
    rw [step, if_neg (not_pending (quiet event.1))]
  · intro stopped channel
    obtain ⟨rest, whole⟩ := sound.written channel
    have nothingLeft : rest = [] := by
      by_contra more
      have pending : Pending written arrived channel rest := ⟨more, whole ▸ List.prefix_rfl⟩
      have blocked := stopped (channel, rest)
      rw [step, if_pos pending] at blocked
      exact Option.some_ne_none _ blocked
    rw [← whole, nothingLeft, List.append_nil]

section Bounded

variable [Fintype Channel]

def amount (arrived : Arrived Channel Item) : Nat :=
  ∑ channel, (arrived channel).flatten.length

omit [DecidableEq Item] in
theorem amount_deliver (arrived : Arrived Channel Item) (channel : Channel) (piece : List Item) :
    amount (deliver arrived channel piece) = amount arrived + piece.length := by
  have others : ∀ other ∈ Finset.univ.erase channel,
      (deliver arrived channel piece other).flatten.length =
        (arrived other).flatten.length := by
    intro other member
    rw [deliver_other _ _ (Finset.ne_of_mem_erase member)]
  unfold amount
  rw [← Finset.add_sum_erase _ _ (Finset.mem_univ channel),
    ← Finset.add_sum_erase _ (fun other => (arrived other).flatten.length)
      (Finset.mem_univ channel),
    Finset.sum_congr rfl others, flatten_deliver, List.length_append]
  omega

theorem amount_run {start final : Arrived Channel Item} {events : List (Channel × List Item)}
    (ran : run (step written) start events = some final) :
    amount start + events.length ≤ amount final := by
  induction events generalizing start with
  | nil =>
      cases ran
      exact Nat.le_refl _
  | cons event events induction =>
      obtain ⟨next, taken, rest⟩ := run_cons_some.mp ran
      obtain ⟨pending, rfl⟩ := step_some.mp taken
      have later := induction rest
      have positive := List.length_pos_iff.mpr pending.1
      rw [amount_deliver] at later
      rw [List.length_cons]
      omega

variable {limit : Nat}

def Limited (written : Arrived Channel Item → Channel → List Item) (limit : Nat) : Prop :=
  ∀ arrived, Sound written arrived → ∑ channel, (written arrived channel).length ≤ limit

omit [DecidableEq Channel] [DecidableEq Item] in
theorem amount_le (limited : Limited written limit) (sound : Sound written arrived) :
    amount arrived ≤ limit :=
  (Finset.sum_le_sum fun channel _ => (sound.written channel).length_le).trans (limited arrived sound)

/-- No run is longer than what the parties can write. -/
theorem run_bounded (monotone : Monotone written) (limited : Limited written limit)
    {events : List (Channel × List Item)}
    (ran : run (step written) nothing events = some arrived) : events.length ≤ limit := by
  have length := amount_run ran
  have sound := sound_of_reachable monotone ⟨events, ran⟩
  exact (Nat.le_add_left _ _).trans (length.trans (amount_le limited sound))

/-- From every sound state the exchange can be completed. The induction is on how much can
still be delivered. -/
theorem reaches_quiet (monotone : Monotone written) (limited : Limited written limit)
    (sound : Sound written arrived) :
    ∃ final, Reachable (step written) arrived final ∧ Quiet written final := by
  induction room : limit - amount arrived using Nat.strongRecOn generalizing arrived with
  | ind room induction =>
      by_cases quiet : Quiet written arrived
      · exact ⟨arrived, ⟨[], rfl⟩, quiet⟩
      · rw [quiet_iff sound, not_forall] at quiet
        obtain ⟨event, possible⟩ := quiet
        obtain ⟨next, taken⟩ := Option.ne_none_iff_exists'.mp possible
        have soundNext := sound_step monotone sound taken
        obtain ⟨pending, delivered⟩ := step_some.mp taken
        have positive := List.length_pos_iff.mpr pending.1
        have more : amount next = amount arrived + event.2.length := by
          rw [delivered, amount_deliver]
        have bounded := amount_le limited soundNext
        obtain ⟨final, ⟨events, ran⟩, ends⟩ := induction _ (by omega) soundNext rfl
        exact ⟨final, ⟨event :: events, run_cons_some.mpr ⟨next, taken, ran⟩⟩, ends⟩

end Bounded

end Rules

end Exchange
