import Mathlib.Logic.Function.Basic
import Mathlib.Data.List.Nodup

/-!
Keys that are remembered for a while after they were first seen. An admitted key goes into a
queue with the time; entries leave the queue in front, and their keys are forgotten, once
they are older than a timeout. Where the copies of a key are offered within that time of
each other, each key is admitted once.
-/

namespace SeenWindow

set_option autoImplicit false

variable {Key Item Name : Type*}

structure Entry (Key : Type*) where
  key : Key
  timestamp : Int

structure Window (Key : Type*) where
  seen : Key → Bool
  queue : List (Entry Key)

def empty : Window Key := ⟨fun _ => false, []⟩

section Operations

variable [DecidableEq Key]

/-- The clock is read once for each entry that is looked at, from `tick` on. -/
def purge (timeout : Int) (clock : Nat → Int) :
    Nat → (Key → Bool) → List (Entry Key) → Window Key
  | _, seen, [] => ⟨seen, []⟩
  | tick, seen, entry :: queue =>
      if timeout < clock tick - entry.timestamp then
        purge timeout clock (tick + 1) (Function.update seen entry.key false) queue
      else ⟨seen, entry :: queue⟩

def admitKey (timeout : Int) (clock : Nat → Int) (window : Window Key) (key : Key) : Window Key :=
  purge timeout clock 1 (Function.update window.seen key true)
    (window.queue ++ [⟨key, clock 0⟩])

def admitted (key : Item → Key) (clock : Item → Nat → Int) (timeout : Int) :
    Window Key → List Item → List Item
  | _, [] => []
  | window, item :: items =>
      if window.seen (key item) then admitted key clock timeout window items
      else item :: admitted key clock timeout
        (admitKey timeout (clock item) window (key item)) items

end Operations

/-- Time goes on from item to item, and the copies of a key are close together. -/
structure Timely (key : Item → Key) (time : Item → Int) (clock : Item → Nat → Int)
    (timeout : Int) (items : List Item) : Prop where
  readings : ∀ item ∈ items, ∀ tick, time item ≤ clock item tick
  ordered : items.Pairwise fun item later => ∀ tick, clock item tick ≤ time later
  copies : items.Pairwise fun item later =>
    key item = key later → time later - time item ≤ timeout

/-- The window behind the items of the past. A key is forgotten only after a reading that was
too late for its first copy. -/
structure Remembers (key : Item → Key) (time : Item → Int) (clock : Item → Nat → Int)
    (timeout : Int) (past : List Item) (window : Window Key) : Prop where
  seen : ∀ name, window.seen name = true → ∃ item ∈ past, key item = name
  dated : ∀ entry ∈ window.queue, ∃ item ∈ past,
    key item = entry.key ∧ time item ≤ entry.timestamp
  kept : ∀ item ∈ past, window.seen (key item) = true ∨
    ∃ first ∈ past, key first = key item ∧
      ∃ later ∈ past, ∃ tick, time first + timeout < clock later tick

section Rules

variable {key : Item → Key} {time : Item → Int} {clock : Item → Nat → Int}
  {timeout : Int} {past : List Item} {window : Window Key}

theorem Timely.front {items rest : List Item}
    (timely : Timely key time clock timeout (items ++ rest)) :
    Timely key time clock timeout items where
  readings item member := timely.readings item (List.mem_append_left _ member)
  ordered := timely.ordered.sublist (List.sublist_append_left _ _)
  copies := timely.copies.sublist (List.sublist_append_left _ _)

theorem empty_remembers : Remembers key time clock timeout [] empty where
  seen _ present := by cases present
  dated _ member := absurd member List.not_mem_nil
  kept _ member := absurd member List.not_mem_nil

/-- A key is seen exactly if a copy of it was offered before. -/
theorem seen_iff {item : Item} (remembers : Remembers key time clock timeout past window)
    (timely : Timely key time clock timeout (past ++ [item])) :
    window.seen (key item) = true ↔ ∃ other ∈ past, key other = key item := by
  constructor
  · exact remembers.seen (key item)
  · rintro ⟨other, member, same⟩
    rcases remembers.kept other member with seen | ⟨first, earlier, copy, later, between, tick, late⟩
    · rw [← same]
      exact seen
    · exfalso
      have close := (List.pairwise_append.mp timely.copies).2.2 first earlier item
        (List.mem_singleton_self _) (copy.trans same)
      have read := (List.pairwise_append.mp timely.ordered).2.2 later between item
        (List.mem_singleton_self _) tick
      omega

theorem seen_remembers {item : Item} (remembers : Remembers key time clock timeout past window)
    (seen : window.seen (key item) = true) :
    Remembers key time clock timeout (past ++ [item]) window where
  seen name present := by
    rcases remembers.seen name present with ⟨other, member, same⟩
    exact ⟨other, List.mem_append_left _ member, same⟩
  dated entry member := by
    rcases remembers.dated entry member with ⟨other, earlier, found⟩
    exact ⟨other, List.mem_append_left _ earlier, found⟩
  kept other member := by
    rcases List.mem_append.mp member with earlier | last
    · rcases remembers.kept other earlier with still | ⟨first, before, copy, later, between, late⟩
      · exact .inl still
      · exact .inr ⟨first, List.mem_append_left _ before, copy, later,
          List.mem_append_left _ between, late⟩
    · rw [List.mem_singleton.mp last]
      exact .inl seen

variable [DecidableEq Key]

theorem purge_spec (timeout : Int) (clock : Nat → Int) (tick : Nat) (seen : Key → Bool)
    (queue : List (Entry Key)) :
    (∀ entry ∈ (purge timeout clock tick seen queue).queue, entry ∈ queue) ∧
      (∀ name, (purge timeout clock tick seen queue).seen name = true → seen name = true) ∧
      ∀ name, seen name = true → (purge timeout clock tick seen queue).seen name = true ∨
        ∃ entry ∈ queue, entry.key = name ∧ ∃ tick, timeout < clock tick - entry.timestamp := by
  induction queue generalizing tick seen with
  | nil => exact ⟨fun _ member => member, fun _ same => same, fun _ same => .inl same⟩
  | cons entry queue induction =>
      rw [purge]
      split
      next old =>
        rcases induction (tick + 1) (Function.update seen entry.key false) with
          ⟨fewer, less, kept⟩
        refine ⟨fun other member => List.mem_cons_of_mem _ (fewer other member), ?_, ?_⟩
        · intro name present
          have before := less name present
          by_cases same : name = entry.key
          · rw [same, Function.update_self] at before
            cases before
          · rwa [Function.update_of_ne same] at before
        · intro name present
          by_cases same : name = entry.key
          · exact .inr ⟨entry, List.mem_cons_self, same.symm, tick, old⟩
          · have before : Function.update seen entry.key false name = true := by
              rwa [Function.update_of_ne same]
            rcases kept name before with stays | ⟨other, member, found, late⟩
            · exact .inl stays
            · exact .inr ⟨other, List.mem_cons_of_mem _ member, found, late⟩
      next => exact ⟨fun _ member => member, fun _ same => same, fun _ same => .inl same⟩

theorem admit_remembers {item : Item} (remembers : Remembers key time clock timeout past window)
    (readings : ∀ tick, time item ≤ clock item tick) :
    Remembers key time clock timeout (past ++ [item])
      (admitKey timeout (clock item) window (key item)) := by
  rcases purge_spec timeout (clock item) 1 (Function.update window.seen (key item) true)
    (window.queue ++ [⟨key item, clock item 0⟩]) with ⟨fewer, less, kept⟩
  have last : item ∈ past ++ [item] := List.mem_append_right _ (List.mem_singleton_self _)
  have dated : ∀ entry ∈ window.queue ++ [⟨key item, clock item 0⟩],
      ∃ other ∈ past ++ [item], key other = entry.key ∧ time other ≤ entry.timestamp := by
    intro entry member
    rcases List.mem_append.mp member with earlier | new
    · rcases remembers.dated entry earlier with ⟨other, present, found⟩
      exact ⟨other, List.mem_append_left _ present, found⟩
    · rw [List.mem_singleton.mp new]
      exact ⟨item, last, rfl, readings 0⟩
  constructor
  · intro name present
    have before := less name present
    by_cases same : name = key item
    · exact ⟨item, last, same.symm⟩
    · rw [Function.update_of_ne same] at before
      rcases remembers.seen name before with ⟨other, member, found⟩
      exact ⟨other, List.mem_append_left _ member, found⟩
  · intro entry member
    exact dated entry (fewer entry member)
  · intro other member
    by_cases marked : Function.update window.seen (key item) true (key other) = true
    · rcases kept (key other) marked with stays | ⟨entry, queued, found, tick, late⟩
      · exact .inl stays
      · rcases dated entry queued with ⟨first, before, copy, early⟩
        refine .inr ⟨first, before, copy.trans found, item, last, tick, ?_⟩
        omega
    · by_cases same : key other = key item
      · rw [same, Function.update_self] at marked
        exact absurd rfl marked
      · rw [Function.update_of_ne same] at marked
        rcases List.mem_append.mp member with earlier | new
        · rcases remembers.kept other earlier with still | ⟨first, before, copy, later, between, late⟩
          · exact absurd still marked
          · exact .inr ⟨first, List.mem_append_left _ before, copy, later,
              List.mem_append_left _ between, late⟩
        · exact absurd (congrArg key (List.mem_singleton.mp new)) same

theorem remove_all_append [BEq Name] [LawfulBEq Name] (names known : List Name) (name : Name) :
    names.removeAll (known ++ [name]) = (names.removeAll known).filter fun other => !other == name := by
  simp only [List.removeAll, List.filter_filter]
  apply List.filter_congr
  intro other _
  by_cases same : other = name
  · simp [same]
  · simp [same]

theorem remove_all_append_known [BEq Name] [LawfulBEq Name] {known : List Name} {name : Name}
    (member : name ∈ known) (names : List Name) :
    names.removeAll (known ++ [name]) = names.removeAll known := by
  simp only [List.removeAll]
  apply List.filter_congr
  intro other _
  by_cases same : other = name
  · simp [same, member]
  · simp [same]

/-- The induction is on the items, with those of the past known by their names. -/
theorem admitted_names [BEq Name] [LawfulBEq Name] {name : Item → Name} {items : List Item}
    (agree : ∀ item ∈ past ++ items, ∀ other ∈ past ++ items,
      key item = key other ↔ name item = name other)
    (timely : Timely key time clock timeout (past ++ items))
    (remembers : Remembers key time clock timeout past window) :
    (admitted key clock timeout window items).map name =
      ((items.map name).removeAll (past.map name)).eraseDups := by
  induction items generalizing past window with
  | nil => rfl
  | cons item items induction =>
      rw [List.append_cons] at agree timely
      have last : item ∈ past ++ [item] ++ items :=
        List.mem_append_left _ (List.mem_append_right _ (List.mem_singleton_self _))
      have known : window.seen (key item) = true ↔ name item ∈ past.map name := by
        rw [seen_iff remembers timely.front, List.mem_map]
        constructor
        · rintro ⟨other, member, same⟩
          exact ⟨other, member, (agree other (by simp [member]) item last).mp same⟩
        · rintro ⟨other, member, same⟩
          exact ⟨other, member, (agree other (by simp [member]) item last).mpr same⟩
      rw [admitted, List.map_cons, List.cons_removeAll]
      by_cases seen : window.seen (key item) = true
      · have twice : (items.map name).removeAll ((past ++ [item]).map name) =
            (items.map name).removeAll (past.map name) := by
          rw [List.map_append, List.map_singleton]
          apply remove_all_append_known
          exact known.mp seen
        rw [if_pos seen, if_neg (by simpa using known.mp seen),
          induction agree timely (seen_remembers remembers seen), twice]
      · have fresh : name item ∉ past.map name := mt known.mpr seen
        rw [if_neg seen, if_pos (by simpa using fresh), List.map_cons, List.eraseDups_cons,
          induction agree timely
            (admit_remembers remembers (timely.readings item last)), List.map_append,
          List.map_singleton, remove_all_append]

theorem admitted_first [BEq Name] [LawfulBEq Name] {name : Item → Name} {items : List Item}
    (agree : ∀ item ∈ items, ∀ other ∈ items, key item = key other ↔ name item = name other)
    (timely : Timely key time clock timeout items) :
    (admitted key clock timeout empty items).map name = (items.map name).eraseDups := by
  have agreeing : ∀ item ∈ [] ++ items, ∀ other ∈ [] ++ items,
      key item = key other ↔ name item = name other := agree
  rw [admitted_names agreeing timely empty_remembers, List.map_nil, List.removeAll_nil]

theorem admitted_sublist (window : Window Key) (items : List Item) :
    (admitted key clock timeout window items).Sublist items := by
  induction items generalizing window with
  | nil => exact .slnil
  | cons item items induction =>
      rw [admitted]
      split
      · exact (induction window).cons item
      · exact (induction _).cons_cons item

theorem nodup_erase_dups [BEq Name] [LawfulBEq Name] (names : List Name) :
    names.eraseDups.Nodup := by
  induction length : names.length using Nat.strongRecOn generalizing names with
  | ind count induction =>
      cases names with
      | nil => exact List.nodup_nil
      | cons name names =>
          rw [List.eraseDups_cons, List.nodup_cons, List.mem_eraseDups]
          have shorter : (names.filter fun other => !other == name).length < count := by
            rw [← length, List.length_cons]
            exact Nat.lt_succ_of_le (List.length_filter_le _ _)
          exact ⟨by simp, induction _ shorter _ rfl⟩

end Rules

end SeenWindow
