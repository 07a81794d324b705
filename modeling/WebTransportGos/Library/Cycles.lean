import Mathlib.Data.List.Basic

/-!
A list gone through again and again from its beginning. What has been visited after some whole
cycles and a part of the next one is a place in it, which one more visit moves on.
-/

namespace Cycles

set_option autoImplicit false

variable {Item : Type*}

def cycles (count : Nat) (items : List Item) : List Item :=
  (List.replicate count items).flatten

/-- So many whole cycles, and so many items of the next. -/
def place (count index : Nat) (items : List Item) : List Item :=
  cycles count items ++ items.take index

section Rules

variable {items : List Item} {count total index : Nat}

theorem cycles_succ (count : Nat) (items : List Item) :
    cycles (count + 1) items = cycles count items ++ items := by
  rw [cycles, List.replicate_succ', List.flatten_append, List.flatten_singleton]
  rfl

theorem first_cycle (count : Nat) (items : List Item) :
    cycles (count + 1) items = items ++ cycles count items := by
  rw [cycles, List.replicate_succ, List.flatten_cons]
  rfl

theorem cycles_add (count more : Nat) (items : List Item) :
    cycles (count + more) items = cycles count items ++ cycles more items := by
  rw [cycles, List.replicate_add, List.flatten_append]
  rfl

theorem place_zero (count : Nat) (items : List Item) : place count 0 items = cycles count items := by
  rw [place, List.take_zero, List.append_nil]

theorem place_whole (count : Nat) (items : List Item) :
    place count items.length items = cycles (count + 1) items := by
  rw [place, List.take_length, cycles_succ]

theorem place_next {item : Item} (here : items[index]? = some item) :
    place count index items ++ [item] = place count (index + 1) items := by
  rw [place, place, List.take_add_one, here, Option.toList_some, List.append_assoc]

theorem place_prefix (items : List Item) (index : Nat) (less : count < total) :
    place count index items <+: cycles total items := by
  rcases Nat.exists_eq_add_of_lt less with ⟨more, rfl⟩
  have split : cycles (count + more + 1) items =
      cycles count items ++ (items ++ cycles more items) := by
    rw [Nat.add_assoc, cycles_add, first_cycle]
  rw [split, place, List.prefix_append_right_inj]
  exact (List.take_prefix index items).trans (List.prefix_append _ _)

end Rules

end Cycles
