import Mathlib.Data.List.Rotate
import Mathlib.Data.Nat.ModEq

/-!
A queue in a ring of cells. The queue is a window of the ring, seen from its start, and
positions count modulo the number of cells. Writing behind the window lengthens it, and
pushes out the oldest elements where there is no room.
-/

namespace Ring

set_option autoImplicit false

variable {Element : Type*}

def overwrite (cells : List Element) (start : Nat) (chunk : List Element) : List Element :=
  cells.take start ++ (chunk ++ cells.drop (start + chunk.length))

/-- `chunk` over the cells from `start` on, past the last one and on from the first. -/
def overwriteRound (cells : List Element) (start : Nat) (chunk : List Element) : List Element :=
  if cells.length < start + chunk.length then
    overwrite (overwrite cells start (chunk.take (cells.length - start))) 0
      (chunk.drop (cells.length - start))
  else overwrite cells start chunk

def window (cells : List Element) (start count : Nat) : List Element :=
  (cells.rotate start).take count

section Overwrite

variable {cells chunk : List Element} {start : Nat}

theorem overwrite_length (fits : start + chunk.length ≤ cells.length) :
    (overwrite cells start chunk).length = cells.length := by
  simp only [overwrite, List.length_append, List.length_take, List.length_drop]
  omega

theorem overwrite_round_length (inside : start ≤ cells.length)
    (fits : chunk.length ≤ cells.length) :
    (overwriteRound cells start chunk).length = cells.length := by
  unfold overwriteRound
  split
  next past =>
    have first : start + (chunk.take (cells.length - start)).length ≤ cells.length := by
      rw [List.length_take]
      omega
    rw [overwrite_length, overwrite_length first]
    rw [overwrite_length first, List.length_drop]
    omega
  next short => exact overwrite_length (Nat.not_lt.mp short)

/-- Seen from where it begins, the chunk stands in front of the cells that are left. -/
theorem rotate_overwrite_round (inside : start ≤ cells.length)
    (fits : chunk.length ≤ cells.length) :
    (overwriteRound cells start chunk).rotate start =
      chunk ++ (cells.rotate start).drop chunk.length := by
  have length := @overwrite_round_length _ cells chunk start inside fits
  rw [List.rotate_eq_drop_append_take (length ▸ inside), List.rotate_eq_drop_append_take inside]
  unfold overwriteRound
  split
  next past =>
    have before : (cells.take start).length = start := List.length_take_of_le inside
    have first : (chunk.take (cells.length - start)).length = cells.length - start := by
      rw [List.length_take]
      omega
    have whole : overwrite cells start (chunk.take (cells.length - start)) =
        cells.take start ++ chunk.take (cells.length - start) := by
      rw [overwrite, first, List.drop_eq_nil_of_le (by omega), List.append_nil]
    have second : (chunk.drop (cells.length - start)).length ≤ start := by
      rw [List.length_drop]
      omega
    have round : overwrite (cells.take start ++ chunk.take (cells.length - start)) 0
        (chunk.drop (cells.length - start)) =
        chunk.drop (cells.length - start) ++
          ((cells.take start).drop (chunk.drop (cells.length - start)).length) ++
          chunk.take (cells.length - start) := by
      rw [overwrite, List.take_zero, List.nil_append, Nat.zero_add,
        List.drop_append_of_le_length (by omega), List.append_assoc]
    have front : (chunk.drop (cells.length - start) ++
        ((cells.take start).drop (chunk.drop (cells.length - start)).length)).length = start := by
      rw [List.length_append, List.length_drop (l := cells.take start), before]
      omega
    rw [whole, round, List.drop_left' front, List.take_left' front, List.drop_append,
      @List.drop_eq_nil_of_le _ (cells.drop start) _ (by rw [List.length_drop]; omega),
      List.nil_append, ← List.append_assoc, List.take_append_drop, List.length_drop,
      List.length_drop]
  next short =>
    have before : (cells.take start).length = start := List.length_take_of_le inside
    rw [overwrite, List.drop_left' before, List.take_left' before, List.append_assoc,
      List.drop_append_of_le_length (by rw [List.length_drop]; omega), List.drop_drop]

end Overwrite

section Window

variable {cells : List Element} {start other count : Nat}

theorem window_length (fits : count ≤ cells.length) :
    (window cells start count).length = count := by
  rw [window, List.length_take, List.length_rotate]
  exact Nat.min_eq_left fits

theorem rotate_congr (same : start ≡ other [MOD cells.length]) :
    cells.rotate start = cells.rotate other := by
  rw [← List.rotate_mod, same, List.rotate_mod]

theorem window_congr (same : start ≡ other [MOD cells.length]) :
    window cells start count = window cells other count := by
  rw [window, rotate_congr same]
  rfl

theorem window_eq (inside : start ≤ cells.length) (fits : count ≤ cells.length) :
    window cells start count =
      if cells.length < start + count then
        cells.drop start ++ cells.take (start + count - cells.length)
      else (cells.drop start).take count := by
  rw [window, List.rotate_eq_drop_append_take inside]
  split
  next past =>
    rw [List.take_append, List.length_drop, List.take_of_length_le (by rw [List.length_drop]; omega),
      List.take_take, Nat.min_eq_left (by omega)]
    congr 2
    omega
  next short => exact List.take_append_of_le_length (by rw [List.length_drop]; omega)

theorem window_take (size : Nat) :
    (window cells start count).take size = window cells start (min size count) := by
  rw [window, List.take_take]
  rfl

theorem window_drop (size : Nat) (less : size ≤ count) (fits : count ≤ cells.length) :
    (window cells start count).drop size = window cells (start + size) (count - size) := by
  have long : size ≤ (cells.rotate start).length := by
    rw [List.length_rotate]
    omega
  rw [window, window, ← List.rotate_rotate, List.rotate_eq_drop_append_take long,
    List.take_append_of_le_length (by rw [List.length_drop, List.length_rotate]; omega),
    List.drop_take]

theorem window_get {index : Nat} (inside : start ≤ cells.length) (fits : count ≤ cells.length)
    (within : index < count) :
    (window cells start count)[index]? =
      cells[if cells.length ≤ start + index then start + index - cells.length
        else start + index]? := by
  rw [window, List.getElem?_take_of_lt within, List.getElem?_rotate (by omega)]
  congr 1
  split
  next past =>
    rw [Nat.add_comm, Nat.mod_eq_sub_mod past, Nat.mod_eq_of_lt (by omega)]
  next short => rw [Nat.add_comm, Nat.mod_eq_of_lt (by omega)]

/-- A chunk written at the end of the window. What does not fit is taken off in front. -/
theorem window_write {chunk : List Element} {tail : Nat} (inside : tail ≤ cells.length)
    (fits : count ≤ cells.length) (short : chunk.length ≤ cells.length)
    (ends : tail ≡ start + count [MOD cells.length])
    (moved : other ≡ start + (count + chunk.length - cells.length) [MOD cells.length]) :
    window (overwriteRound cells tail chunk) other (min cells.length (count + chunk.length)) =
      (window cells start count ++ chunk).drop (count + chunk.length - cells.length) := by
  have length := @overwrite_round_length _ cells chunk tail inside short
  have written := @rotate_overwrite_round _ cells chunk tail inside short
  -- the ring from the start of the window on: the window, then the free cells
  have whole : cells.rotate start =
      window cells start count ++ (cells.rotate start).drop count :=
    (List.take_append_drop count (cells.rotate start)).symm
  have size := @window_length _ cells start count fits
  have free : ((cells.rotate start).drop count).length = cells.length - count := by
    rw [List.length_drop, List.length_rotate]
  have behind : cells.rotate tail =
      (cells.rotate start).drop count ++ window cells start count := by
    rw [rotate_congr ends, ← List.rotate_rotate,
      List.rotate_eq_drop_append_take (by rw [List.length_rotate]; exact fits)]
    rfl
  rw [behind] at written
  generalize window cells start count = front at *
  generalize (cells.rotate start).drop count = unused at *
  have turned (rest : Nat) (total : tail + rest ≡ other [MOD cells.length]) :
      (overwriteRound cells tail chunk).rotate other =
        (chunk ++ (unused ++ front).drop chunk.length).rotate rest := by
    rw [← written, List.rotate_rotate]
    exact (rotate_congr (length.symm ▸ total)).symm
  by_cases room : count + chunk.length ≤ cells.length
  · have total : tail + (cells.length - count) ≡ other [MOD cells.length] := by
      rw [Nat.sub_eq_zero_of_le room, Nat.add_zero] at moved
      have around : start + count + (cells.length - count) = start + cells.length := by omega
      calc tail + (cells.length - count)
          ≡ start + count + (cells.length - count) [MOD cells.length] := ends.add_right _
        _ = start + cells.length := around
        _ ≡ start [MOD cells.length] := Nat.add_modEq_right
        _ ≡ other [MOD cells.length] := moved.symm
    rw [window, turned _ total, Nat.sub_eq_zero_of_le room, List.drop_zero,
      List.drop_append_of_le_length (by omega), ← List.append_assoc]
    have left : (chunk ++ unused.drop chunk.length).length = cells.length - count := by
      rw [List.length_append, List.length_drop]
      omega
    rw [← left, List.rotate_append_length_eq, ← List.append_assoc]
    apply List.take_left'
    rw [List.length_append]
    omega
  · have total : tail + chunk.length ≡ other [MOD cells.length] := by
      have around : start + count + chunk.length =
          start + (count + chunk.length - cells.length) + cells.length := by omega
      calc tail + chunk.length
          ≡ start + count + chunk.length [MOD cells.length] := ends.add_right _
        _ = start + (count + chunk.length - cells.length) + cells.length := around
        _ ≡ start + (count + chunk.length - cells.length) [MOD cells.length] :=
            Nat.add_modEq_right
        _ ≡ other [MOD cells.length] := moved.symm
    rw [window, turned _ total, List.rotate_append_length_eq, List.drop_append,
      @List.drop_eq_nil_of_le _ unused _ (by omega), List.nil_append, free,
      List.drop_append_of_le_length (by omega), List.take_of_length_le]
    · congr 2
      omega
    · rw [List.length_append, List.length_drop]
      omega

end Window

end Ring
