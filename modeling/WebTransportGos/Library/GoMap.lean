import Mathlib.Data.List.Perm.Basic
import Mathlib.Data.List.Nodup
import Mathlib.Logic.Function.Basic

/-!
Go maps. A map is a function that gives `none` for an absent key; `Walks` says in which
orders a `range` over it may go. What one loop writes in one order and another loop
stores in whatever order it comes is the same map again.
-/

namespace GoMap

set_option autoImplicit false

variable {Key Value : Type*}

/-- `walk` is an order in which a `range` over the map may visit it. -/
structure Walks (map : Key → Option Value) (walk : List (Key × Value)) : Prop where
  distinct : (walk.map Prod.fst).Nodup
  covers : ∀ key value, map key = some value ↔ (key, value) ∈ walk

theorem Walks.perm {map : Key → Option Value} {walk other : List (Key × Value)}
    (first : Walks map walk) (second : Walks map other) : walk.Perm other := by
  apply (List.perm_ext_iff_of_nodup first.distinct.of_map second.distinct.of_map).mpr
  rintro ⟨key, value⟩
  rw [← first.covers, ← second.covers]

theorem Walks.of_perm {map : Key → Option Value} {walk other : List (Key × Value)}
    (walks : Walks map walk) (same : walk.Perm other) : Walks map other where
  distinct := (same.map Prod.fst).nodup_iff.mp walks.distinct
  covers key value := (walks.covers key value).trans same.mem_iff

theorem Walks.filter {map : Key → Option Value} {walk : List (Key × Value)}
    (walks : Walks map walk) (counts : Value → Bool) :
    Walks (fun key => (map key).filter counts) (walk.filter fun entry => counts entry.2) where
  distinct := walks.distinct.sublist (List.filter_sublist.map Prod.fst)
  covers key value := by
    rw [List.mem_filter, ← walks.covers, Option.filter_eq_some_iff]

section Insert

variable [DecidableEq Key]

def insertAll (map : Key → Option Value) (entries : List (Key × Value)) : Key → Option Value :=
  entries.foldl (fun map entry => Function.update map entry.1 (some entry.2)) map

theorem insert_all_absent (map : Key → Option Value) (entries : List (Key × Value)) {key : Key}
    (absent : key ∉ entries.map Prod.fst) : insertAll map entries key = map key := by
  induction entries generalizing map with
  | nil => rfl
  | cons entry entries induction =>
      simp only [List.map_cons, List.mem_cons, not_or] at absent
      have later := induction (Function.update map entry.1 (some entry.2)) absent.2
      rw [insertAll, List.foldl_cons]
      rw [Function.update_of_ne absent.1] at later
      exact later

theorem insert_all_present (map : Key → Option Value) {entries : List (Key × Value)} {key : Key}
    {value : Value} (distinct : (entries.map Prod.fst).Nodup) (stored : (key, value) ∈ entries) :
    insertAll map entries key = some value := by
  induction entries generalizing map with
  | nil => simp at stored
  | cons entry entries induction =>
      simp only [List.map_cons, List.nodup_cons] at distinct
      rcases List.mem_cons.mp stored with same | later
      · subst same
        have kept := insert_all_absent (Function.update map key (some value)) entries distinct.1
        rw [Function.update_self] at kept
        exact kept
      · exact induction _ distinct.2 later

/-- Storing the entries of a walk into an empty map gives the map that was walked. -/
theorem Walks.insert_all {map : Key → Option Value} {walk : List (Key × Value)}
    (walks : Walks map walk) : insertAll (fun _ => none) walk = map := by
  funext key
  rcases present : map key with _ | value
  · apply insert_all_absent
    intro member
    rcases List.mem_map.mp member with ⟨⟨_, value⟩, stored, rfl⟩
    rw [(walks.covers _ value).mpr stored] at present
    cases present
  · exact insert_all_present _ walks.distinct ((walks.covers key value).mp present)

/-- The stores of distinct keys make a map with these entries. -/
theorem walks_insert_all {entries : List (Key × Value)}
    (distinct : (entries.map Prod.fst).Nodup) :
    Walks (insertAll (fun _ => none) entries) entries where
  distinct := distinct
  covers key value := by
    refine ⟨fun present => ?_, insert_all_present _ distinct⟩
    by_cases member : key ∈ entries.map Prod.fst
    · rcases List.mem_map.mp member with ⟨⟨_, other⟩, stored, rfl⟩
      rw [insert_all_present _ distinct stored] at present
      cases present
      exact stored
    · rw [insert_all_absent _ entries member] at present
      cases present

end Insert

end GoMap
