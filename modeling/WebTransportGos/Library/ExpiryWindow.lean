import WebTransportGos.Library.SeenWindow
import Mathlib.Data.List.Basic

/-!
A window over a log of admissions, each at one time, in the order of time. What is queued is
known from the log alone: an entry is there as long as no admission came too late for it.
-/

namespace SeenWindow

set_option autoImplicit false

variable {Key : Type*}

/-- No admission of the log came more than the timeout later. -/
def fresh (timeout : Int) (log : List (Entry Key)) (entry : Entry Key) : Bool :=
  log.all fun later => later.timestamp - entry.timestamp ≤ timeout

structure Exact (timeout : Int) (log : List (Entry Key)) (window : Window Key) : Prop where
  queue : window.queue = log.filter (fresh timeout log)
  seen : ∀ name, window.seen name = true ↔ ∃ entry ∈ window.queue, entry.key = name
  once : (window.queue.map Entry.key).Nodup
  ordered : log.Pairwise fun entry later => entry.timestamp ≤ later.timestamp

section Rules

variable {timeout time : Int} {log queue : List (Entry Key)} {window : Window Key}
  {seen : Key → Bool} {key : Key}

theorem fresh_iff {entry : Entry Key} : fresh timeout log entry = true ↔
    ∀ later ∈ log, later.timestamp - entry.timestamp ≤ timeout := by
  simp [fresh]

theorem empty_exact : Exact timeout ([] : List (Entry Key)) empty where
  queue := rfl
  seen _ := ⟨fun present => Bool.noConfusion present, fun ⟨_, member, _⟩ => nomatch member⟩
  once := List.nodup_nil
  ordered := .nil

/-- A key is seen exactly if an admission of it is still queued. -/
theorem Exact.seen_iff (exact : Exact timeout log window) (key : Key) :
    window.seen key = true ↔
      ∃ entry ∈ log, entry.key = key ∧ fresh timeout log entry = true := by
  rw [exact.seen, exact.queue]
  constructor
  · rintro ⟨entry, member, same⟩
    have parts := List.mem_filter.mp member
    exact ⟨entry, parts.1, same, parts.2⟩
  · rintro ⟨entry, member, same, kept⟩
    exact ⟨entry, List.mem_filter.mpr ⟨member, kept⟩, same⟩

theorem fresh_append (entry new : Entry Key) : fresh timeout (log ++ [new]) entry =
    (fresh timeout log entry && decide (new.timestamp - entry.timestamp ≤ timeout)) := by
  simp [fresh]

theorem filter_fresh_append (new : Entry Key)
    (last : ∀ entry ∈ log, entry.timestamp ≤ new.timestamp) :
    (log ++ [new]).filter (fresh timeout (log ++ [new])) =
      (log.filter (fresh timeout log) ++ [new]).filter
        fun entry => decide (new.timestamp - entry.timestamp ≤ timeout) := by
  have own : fresh timeout (log ++ [new]) new =
      decide (new.timestamp - new.timestamp ≤ timeout) := by
    rw [fresh_append]
    apply Bool.and_eq_right_iff_imp.mpr
    intro within
    rw [decide_eq_true_eq] at within
    apply fresh_iff.mpr
    intro later member
    have before := last later member
    omega
  have older : log.filter (fresh timeout (log ++ [new])) =
      (log.filter (fresh timeout log)).filter
        fun entry => decide (new.timestamp - entry.timestamp ≤ timeout) := by
    rw [List.filter_filter]
    apply List.filter_congr
    intro entry _
    rw [fresh_append, Bool.and_comm]
  rw [List.filter_append, List.filter_append, older]
  congr 1
  rw [List.filter_singleton, List.filter_singleton, own]

variable [DecidableEq Key]

theorem purge_at (ordered : queue.Pairwise fun entry later => entry.timestamp ≤ later.timestamp)
    (once : (queue.map Entry.key).Nodup)
    (known : ∀ name, seen name = true ↔ ∃ entry ∈ queue, entry.key = name) (tick : Nat) :
    (purge timeout (fun _ => time) tick seen queue).queue =
        queue.filter (fun entry => time - entry.timestamp ≤ timeout) ∧
      ∀ name, (purge timeout (fun _ => time) tick seen queue).seen name = true ↔
        ∃ entry ∈ (purge timeout (fun _ => time) tick seen queue).queue, entry.key = name := by
  induction queue generalizing tick seen with
  | nil => exact ⟨rfl, known⟩
  | cons entry queue induction =>
    rw [List.pairwise_cons] at ordered
    rw [List.map_cons, List.nodup_cons] at once
    rw [purge]
    split
    next old =>
      have gone : ¬time - entry.timestamp ≤ timeout := by omega
      rw [List.filter_cons_of_neg (by simpa using gone)]
      apply induction ordered.2 once.2
      intro name
      by_cases same : name = entry.key
      · rw [same, Function.update_self]
        constructor
        · intro no
          cases no
        · rintro ⟨other, member, again⟩
          exact absurd (List.mem_map.mpr ⟨other, member, again⟩) once.1
      · rw [Function.update_of_ne same, known]
        constructor
        · rintro ⟨other, member, found⟩
          rcases List.mem_cons.mp member with first | later
          · exact absurd (found.symm.trans (congrArg Entry.key first)) same
          · exact ⟨other, later, found⟩
        · rintro ⟨other, member, found⟩
          exact ⟨other, List.mem_cons_of_mem _ member, found⟩
    next recent =>
      refine ⟨?_, known⟩
      symm
      apply List.filter_eq_self.mpr
      intro other member
      rw [decide_eq_true_eq]
      rcases List.mem_cons.mp member with first | later
      · rw [first]
        omega
      · have after := ordered.1 other later
        omega

/-- The window keeps to the log when a key that was not seen is admitted. -/
theorem Exact.admitted (exact : Exact timeout log window) (new : Entry Key)
    (unseen : window.seen new.key = false)
    (last : ∀ entry ∈ log, entry.timestamp ≤ new.timestamp) :
    Exact timeout (log ++ [new]) (admitKey timeout (fun _ => new.timestamp) window new.key) := by
  have ordered : (log ++ [new]).Pairwise
      fun entry later => entry.timestamp ≤ later.timestamp := by
    rw [List.pairwise_append]
    refine ⟨exact.ordered, List.pairwise_singleton _ _, ?_⟩
    intro entry member other single
    rw [List.mem_singleton.mp single]
    exact last entry member
  have queued : (window.queue ++ [new]).Sublist (log ++ [new]) := by
    rw [exact.queue]
    exact List.filter_sublist.append_right _
  have once : ((window.queue ++ [new]).map Entry.key).Nodup := by
    rw [List.map_append, List.map_singleton, List.nodup_append]
    refine ⟨exact.once, List.nodup_singleton new.key, ?_⟩
    intro name member other single same
    rw [List.mem_singleton.mp single] at same
    rcases List.mem_map.mp member with ⟨entry, present, found⟩
    have before := (exact.seen new.key).mpr ⟨entry, present, found.trans same⟩
    rw [unseen] at before
    cases before
  have known (name : Key) : Function.update window.seen new.key true name = true ↔
      ∃ entry ∈ window.queue ++ [new], entry.key = name := by
    by_cases same : name = new.key
    · rw [same, Function.update_self]
      exact iff_of_true rfl ⟨new, List.mem_append_right _ (List.mem_singleton_self _), rfl⟩
    · rw [Function.update_of_ne same, exact.seen]
      constructor
      · rintro ⟨entry, member, found⟩
        exact ⟨entry, List.mem_append_left _ member, found⟩
      · rintro ⟨entry, member, found⟩
        rcases List.mem_append.mp member with before | single
        · exact ⟨entry, before, found⟩
        · rw [List.mem_singleton.mp single] at found
          exact absurd found.symm same
  have purged := @purge_at Key timeout new.timestamp (window.queue ++ [new])
    (Function.update window.seen new.key true) _ (ordered.sublist queued) once known 1
  constructor
  · rw [filter_fresh_append new last, ← exact.queue]
    exact purged.1
  · exact purged.2
  · have fewer := @List.filter_sublist (Entry Key)
      (fun entry => decide (new.timestamp - entry.timestamp ≤ timeout)) (window.queue ++ [new])
    rw [← purged.1] at fewer
    exact once.sublist (fewer.map Entry.key)
  · exact ordered

end Rules

end SeenWindow
