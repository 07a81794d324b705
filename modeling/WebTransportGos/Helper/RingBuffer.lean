import WebTransportGos.Library.Ring

/-!
bjy-common, lib/helper/RingBuffer.js. The pointers `valid` and `tail` run from 0 to the
size inclusive, and the same cell may be meant by both ends of that range. What is read is
a window of the cells; `Consumed` is what the reading operations have in common, and what
`back` undoes.
-/

namespace WebTransportGos.Helper

open Ring

set_option autoImplicit false

/-- `pos` falls below zero where `back` goes behind the first element written. -/
structure RingBuffer (Element : Type*) where
  data : List Element
  valid : Nat
  tail : Nat
  length : Nat
  pos : Int
  size : Nat
  deriving DecidableEq, Repr

variable {Element : Type*}

def newRingBuffer (zero : Element) (size : Nat) : RingBuffer Element where
  data := List.replicate size zero
  valid := 0
  tail := 0
  length := 0
  pos := 0
  size := size

def subarray (cells : List Element) (start stop : Nat) : List Element :=
  (cells.drop start).take (stop - start)

namespace RingBuffer

/-- A chunk longer than the buffer is not written. -/
def write (buffer : RingBuffer Element) (chunk : List Element) : RingBuffer Element :=
  if buffer.size < chunk.length then buffer
  else
    let (data, tail) :=
      if buffer.size < buffer.tail + chunk.length then
        let len1 := buffer.size - buffer.tail
        let len2 := chunk.length - len1
        (overwrite (overwrite buffer.data buffer.tail (chunk.take len1)) 0 (chunk.drop len1), len2)
      else (overwrite buffer.data buffer.tail chunk, buffer.tail + chunk.length)
    let (valid, length) :=
      if buffer.size < buffer.length + chunk.length then
        let moveLen := buffer.length + chunk.length - buffer.size
        if buffer.size < buffer.valid + moveLen then
          (moveLen - (buffer.size - buffer.valid), buffer.size)
        else (buffer.valid + moveLen, buffer.size)
      else (buffer.valid, buffer.length + chunk.length)
    { buffer with data := data, tail := tail, valid := valid, length := length }

def read (buffer : RingBuffer Element) (count : Nat) :
    Option (List Element) × RingBuffer Element :=
  if buffer.length = 0 then (none, buffer)
  else
    let count := if buffer.length < count then buffer.length else count
    let (found, valid) :=
      if buffer.size < buffer.valid + count then
        let len1 := buffer.size - buffer.valid
        let len2 := count - len1
        (subarray buffer.data buffer.valid (buffer.valid + len1) ++ subarray buffer.data 0 len2,
          len2)
      else (subarray buffer.data buffer.valid (buffer.valid + count), buffer.valid + count)
    (some found, { buffer with
      valid := valid, length := buffer.length - count, pos := buffer.pos + count })

def readByRange (buffer : RingBuffer Element) (start stop : Nat) : List Element :=
  if start ≤ stop then subarray buffer.data start stop
  else buffer.data.drop start ++ subarray buffer.data 0 stop

def getCurrentPointer (buffer : RingBuffer Element) : Nat := buffer.valid

def readByte (buffer : RingBuffer Element) : Option Element × RingBuffer Element :=
  if 0 < buffer.length then
    let (found, valid) :=
      if buffer.size ≤ buffer.valid then (buffer.data[0]?, 1)
      else (buffer.data[buffer.valid]?, buffer.valid + 1)
    (found, { buffer with valid := valid, length := buffer.length - 1, pos := buffer.pos + 1 })
  else (none, buffer)

/-- A typed array has no elements at negative indices. -/
def cellAt (cells : List Element) : Int → Option Element
  | .ofNat index => cells[index]?
  | .negSucc _ => none

def getByteByIndex (buffer : RingBuffer Element) (index : Int) : Option Element :=
  if index < buffer.length then
    if buffer.size ≤ buffer.valid + index then
      cellAt buffer.data (index - (buffer.size - buffer.valid))
    else cellAt buffer.data (buffer.valid + index)
  else none

def back (buffer : RingBuffer Element) (count : Nat) : RingBuffer Element :=
  if buffer.size - buffer.length < count then
    { buffer with
      pos := buffer.pos - (buffer.size - buffer.length : Nat)
      valid := buffer.tail
      length := buffer.size }
  else
    { buffer with
      valid :=
        if buffer.valid < count then buffer.size - (count - buffer.valid) else buffer.valid - count
      length := buffer.length + count
      pos := buffer.pos - count }

def skip (buffer : RingBuffer Element) (count : Nat) : RingBuffer Element :=
  if buffer.length < count then
    { buffer with valid := 0, tail := 0, pos := buffer.pos + buffer.length, length := 0 }
  else
    { buffer with
      valid :=
        if buffer.size < buffer.valid + count then count - (buffer.size - buffer.valid)
        else buffer.valid + count
      length := buffer.length - count
      pos := buffer.pos + count }

def clear (buffer : RingBuffer Element) : RingBuffer Element :=
  { buffer with valid := 0, tail := 0, length := 0, pos := 0 }

/-- The pointers are in range, and the window between them is as long as `length` says. -/
structure Sound (buffer : RingBuffer Element) : Prop where
  cells : buffer.data.length = buffer.size
  valid : buffer.valid ≤ buffer.size
  tail : buffer.tail ≤ buffer.size
  length : buffer.length ≤ buffer.size
  aligned : buffer.tail ≡ buffer.valid + buffer.length [MOD buffer.size]

def contents (buffer : RingBuffer Element) : List Element :=
  window buffer.data buffer.valid buffer.length

theorem new_sound (zero : Element) (size : Nat) : (newRingBuffer zero size).Sound where
  cells := List.length_replicate
  valid := Nat.zero_le _
  tail := Nat.zero_le _
  length := Nat.zero_le _
  aligned := .refl _

section Queue

variable {buffer : RingBuffer Element}

theorem Sound.contents_length (sound : buffer.Sound) : buffer.contents.length = buffer.length :=
  window_length (sound.cells.symm ▸ sound.length)

theorem Sound.contents_nil_iff (sound : buffer.Sound) :
    buffer.contents = [] ↔ buffer.length = 0 := by
  rw [← List.length_eq_zero_iff, sound.contents_length]

theorem write_long {chunk : List Element} (long : buffer.size < chunk.length) :
    buffer.write chunk = buffer := if_pos long

theorem advanced {start count size : Nat} (inside : start ≤ size) :
    (if size < start + count then count - (size - start) else start + count) ≡
      start + count [MOD size] := by
  split
  next past =>
    have around : count - (size - start) + size = start + count := by omega
    exact around ▸ Nat.add_modEq_right.symm
  next => rfl

theorem write_eq {chunk : List Element} (sound : buffer.Sound)
    (short : chunk.length ≤ buffer.size) :
    buffer.write chunk =
      { buffer with
        data := overwriteRound buffer.data buffer.tail chunk
        tail := if buffer.size < buffer.tail + chunk.length then
          chunk.length - (buffer.size - buffer.tail) else buffer.tail + chunk.length
        valid :=
          if buffer.size < buffer.valid + (buffer.length + chunk.length - buffer.size) then
            buffer.length + chunk.length - buffer.size - (buffer.size - buffer.valid)
          else buffer.valid + (buffer.length + chunk.length - buffer.size)
        length := min buffer.size (buffer.length + chunk.length) } := by
  have inside := sound.valid
  rw [write, if_neg (Nat.not_lt.mpr short), overwriteRound, sound.cells]
  by_cases full : buffer.size < buffer.length + chunk.length
  · rw [if_pos full, Nat.min_eq_left (Nat.le_of_lt full)]
    dsimp only
    split <;> split <;> rfl
  · have room : buffer.length + chunk.length - buffer.size = 0 := by omega
    rw [if_neg full, room, Nat.min_eq_right (Nat.not_lt.mp full), Nat.add_zero,
      if_neg (Nat.not_lt.mpr inside)]
    dsimp only
    split <;> rfl

theorem write_sound {chunk : List Element} (sound : buffer.Sound) : (buffer.write chunk).Sound := by
  by_cases long : buffer.size < chunk.length
  · rw [write_long long]
    exact sound
  have short := Nat.not_lt.mp long
  have inside := sound.valid
  have ends := sound.tail
  rw [write_eq sound short]
  constructor
  · dsimp only
    rw [overwrite_round_length (sound.cells.symm ▸ ends) (sound.cells.symm ▸ short)]
    exact sound.cells
  · have held := sound.length
    dsimp only
    split <;> omega
  · dsimp only
    split <;> omega
  · exact Nat.min_le_left _ _
  · have left := @advanced buffer.tail chunk.length buffer.size ends
    have right := @advanced buffer.valid (buffer.length + chunk.length - buffer.size) buffer.size
      inside
    have total : buffer.tail + chunk.length ≡
        buffer.valid + (buffer.length + chunk.length - buffer.size) +
          min buffer.size (buffer.length + chunk.length) [MOD buffer.size] := by
      have sum : buffer.valid + (buffer.length + chunk.length - buffer.size) +
          min buffer.size (buffer.length + chunk.length) =
            buffer.valid + buffer.length + chunk.length := by omega
      rw [sum]
      exact sound.aligned.add_right _
    exact (left.trans total).trans (right.symm.add_right _)

/-- The newest elements remain. -/
theorem write_contents {chunk : List Element} (sound : buffer.Sound)
    (short : chunk.length ≤ buffer.size) :
    (buffer.write chunk).contents =
      (buffer.contents ++ chunk).drop (buffer.length + chunk.length - buffer.size) := by
  have moved := @advanced buffer.valid (buffer.length + chunk.length - buffer.size) buffer.size
    sound.valid
  rw [write_eq sound short, contents, contents]
  have cells := sound.cells
  rw [← cells] at short moved
  have written := @window_write _ buffer.data buffer.valid _ buffer.length chunk buffer.tail
    (cells ▸ sound.tail) (cells ▸ sound.length) short (cells ▸ sound.aligned) moved
  rw [cells] at written
  exact written

theorem write_fitting {chunk : List Element} (sound : buffer.Sound)
    (fits : buffer.length + chunk.length ≤ buffer.size) :
    (buffer.write chunk).contents = buffer.contents ++ chunk := by
  rw [write_contents sound (by omega), Nat.sub_eq_zero_of_le fits, List.drop_zero]

@[simp] theorem write_size (chunk : List Element) : (buffer.write chunk).size = buffer.size := by
  unfold write
  split <;> rfl

theorem get_byte_by_index (sound : buffer.Sound) (index : Nat) :
    buffer.getByteByIndex index = buffer.contents[index]? := by
  have cells := sound.cells
  have inside := sound.valid
  unfold getByteByIndex
  split
  next within =>
    have less : index < buffer.length := by omega
    rw [contents, window_get (cells ▸ inside) (cells ▸ sound.length) less, cells]
    split
    next past =>
      have position : (index : Int) - (buffer.size - buffer.valid) =
          Int.ofNat (buffer.valid + index - buffer.size) := by
        rw [Int.ofNat_eq_natCast]
        omega
      rw [position, if_pos (by omega)]
      rfl
    next short =>
      have position : (buffer.valid : Int) + index = Int.ofNat (buffer.valid + index) := rfl
      rw [position, if_neg (by omega)]
      rfl
  next outside =>
    rw [List.getElem?_eq_none (by rw [sound.contents_length]; omega)]

/-- `count` elements have been read, and are still in their cells. -/
structure Consumed (before : RingBuffer Element) (count : Nat) (after : RingBuffer Element) :
    Prop where
  data : after.data = before.data
  size : after.size = before.size
  tail : after.tail = before.tail
  length : after.length + count = before.length
  pos : after.pos = before.pos + count
  valid : after.valid ≤ after.size
  moved : after.valid ≡ before.valid + count [MOD before.size]

theorem Sound.consumed (sound : buffer.Sound) : Consumed buffer 0 buffer where
  data := rfl
  size := rfl
  tail := rfl
  length := rfl
  pos := by simp
  valid := sound.valid
  moved := .refl _

section Consumed

variable {after last : RingBuffer Element} {count more : Nat}

theorem Consumed.trans (first : Consumed buffer count after) (second : Consumed after more last) :
    Consumed buffer (count + more) last where
  data := second.data.trans first.data
  size := second.size.trans first.size
  tail := second.tail.trans first.tail
  length := by
    rw [← first.length, ← second.length]
    omega
  pos := by
    rw [second.pos, first.pos]
    push_cast
    omega
  valid := second.valid
  moved := by
    rw [← Nat.add_assoc]
    exact (first.size ▸ second.moved).trans (first.moved.add_right more)

theorem Consumed.sound (sound : buffer.Sound) (consumed : Consumed buffer count after) :
    after.Sound := by
  have length := consumed.length
  constructor
  · rw [consumed.data, consumed.size]
    exact sound.cells
  · exact consumed.valid
  · rw [consumed.tail, consumed.size]
    exact sound.tail
  · have held := sound.length
    rw [consumed.size]
    omega
  · have total : buffer.valid + buffer.length = buffer.valid + count + after.length := by omega
    rw [consumed.tail, consumed.size]
    calc buffer.tail
        ≡ buffer.valid + buffer.length [MOD buffer.size] := sound.aligned
      _ = buffer.valid + count + after.length := total
      _ ≡ after.valid + after.length [MOD buffer.size] := consumed.moved.symm.add_right _

theorem Consumed.contents (sound : buffer.Sound) (consumed : Consumed buffer count after) :
    after.contents = buffer.contents.drop count := by
  have length := consumed.length
  have moved := consumed.moved
  rw [← sound.cells] at moved
  rw [RingBuffer.contents, RingBuffer.contents, window_drop count (by omega)
    (sound.cells ▸ sound.length), consumed.data, window_congr moved]
  congr 1
  omega

/-- What has been consumed can be put back. -/
theorem Consumed.back (sound : buffer.Sound) (consumed : Consumed buffer count after) :
    (after.back count).Sound ∧ (after.back count).contents = buffer.contents ∧
      (after.back count).length = buffer.length ∧ (after.back count).size = buffer.size ∧
      (after.back count).pos = buffer.pos := by
  have length := consumed.length
  have held := sound.length
  have size := consumed.size
  have inside := consumed.valid
  have room : ¬after.size - after.length < count := by omega
  have returned : (if after.valid < count then after.size - (count - after.valid)
      else after.valid - count) ≡ buffer.valid [MOD buffer.size] := by
    apply Nat.ModEq.add_right_cancel' count
    refine Nat.ModEq.trans ?_ consumed.moved
    split
    next wraps =>
      have around : after.size - (count - after.valid) + count = after.valid + buffer.size := by
        omega
      rw [around]
      exact Nat.add_modEq_right
    next => rw [Nat.sub_add_cancel (by omega)]
  have total : after.length + count = buffer.length := length
  rw [RingBuffer.back, if_neg room]
  refine ⟨⟨?_, ?_, ?_, ?_, ?_⟩, ?_, total, size, ?_⟩
  · dsimp only
    rw [consumed.data, size]
    exact sound.cells
  · dsimp only
    split <;> omega
  · dsimp only
    rw [consumed.tail, size]
    exact sound.tail
  · dsimp only
    omega
  · dsimp only
    rw [consumed.tail, size, total]
    exact sound.aligned.trans (size ▸ returned.symm.add_right _)
  · rw [RingBuffer.contents, RingBuffer.contents]
    dsimp only
    rw [consumed.data, total]
    exact window_congr (sound.cells.symm ▸ returned)
  · dsimp only
    rw [consumed.pos]
    omega

theorem read_byte_consumed (sound : buffer.Sound) (more : 0 < buffer.length) :
    buffer.readByte.1 = buffer.contents[0]? ∧ Consumed buffer 1 buffer.readByte.2 := by
  have cells := sound.cells
  have inside := sound.valid
  have held := sound.length
  rw [contents, window_get (cells ▸ inside) (cells ▸ held) more, cells, Nat.add_zero]
  by_cases past : buffer.size ≤ buffer.valid
  · have ends : buffer.valid = buffer.size := by omega
    simp only [readByte, if_pos more, if_pos past]
    refine ⟨by rw [ends, Nat.sub_self], rfl, rfl, rfl, by dsimp only; omega, by simp,
      by dsimp only; omega, ?_⟩
    rw [ends, Nat.add_comm]
    exact Nat.add_modEq_right.symm
  · simp only [readByte, if_pos more, if_neg past]
    exact ⟨trivial, rfl, rfl, rfl, by dsimp only; omega, by simp, by dsimp only; omega, rfl⟩

theorem skip_consumed (sound : buffer.Sound) (enough : count ≤ buffer.length) :
    Consumed buffer count (buffer.skip count) := by
  have inside := sound.valid
  have held := sound.length
  rw [skip, if_neg (Nat.not_lt.mpr enough)]
  refine ⟨rfl, rfl, rfl, by dsimp only; omega, rfl, ?_, advanced inside⟩
  dsimp only
  split <;> omega

theorem read_consumed (sound : buffer.Sound) (more : 0 < buffer.length)
    (enough : count ≤ buffer.length) :
    (buffer.read count).1 = some (buffer.contents.take count) ∧
      Consumed buffer count (buffer.read count).2 := by
  have cells := sound.cells
  have inside := sound.valid
  have held := sound.length
  rw [contents, window_take, Nat.min_eq_left enough,
    window_eq (cells ▸ inside) (cells ▸ Nat.le_trans enough held), cells]
  have present := Nat.pos_iff_ne_zero.mp more
  have whole := Nat.not_lt.mpr enough
  by_cases past : buffer.size < buffer.valid + count
  · have moved := @advanced buffer.valid count buffer.size inside
    rw [if_pos past] at moved
    simp only [read, if_neg present, if_neg whole, if_pos past]
    refine ⟨?_, rfl, rfl, rfl, by dsimp only; omega, rfl, by dsimp only; omega, moved⟩
    have first : subarray buffer.data buffer.valid
        (buffer.valid + (buffer.size - buffer.valid)) = buffer.data.drop buffer.valid := by
      apply List.take_of_length_le
      rw [List.length_drop]
      omega
    have second : subarray buffer.data 0 (count - (buffer.size - buffer.valid)) =
        buffer.data.take (buffer.valid + count - buffer.size) := by
      rw [subarray, List.drop_zero, Nat.sub_zero]
      congr 1
      omega
    rw [first, second]
  · simp only [read, if_neg present, if_neg whole, if_neg past]
    refine ⟨?_, rfl, rfl, rfl, by dsimp only; omega, rfl, by dsimp only; omega, rfl⟩
    rw [subarray, Nat.add_sub_cancel_left]

/-- Behind the pointer stand the bytes that were consumed, as far as the array goes. -/
theorem Consumed.behind (sound : buffer.Sound) (consumed : Consumed buffer count after)
    {index : Nat} (positive : 0 < index) (within : index ≤ count) :
    after.getByteByIndex (-index) = none ∨
      after.getByteByIndex (-index) = buffer.contents[count - index]? := by
  have length := consumed.length
  have inside := consumed.valid
  have size := consumed.size
  have held := sound.length
  have first := sound.valid
  rw [getByteByIndex, if_pos (by omega), if_neg (by omega)]
  by_cases before : after.valid < index
  · have position : (after.valid : Int) + -index = Int.negSucc (index - after.valid - 1) := by
      rw [Int.negSucc_eq]
      omega
    rw [position]
    exact .inl rfl
  · have position : (after.valid : Int) + -index = Int.ofNat (after.valid - index) := by
      rw [Int.ofNat_eq_natCast]
      omega
    rw [position, RingBuffer.contents, window_get (sound.cells.symm ▸ first) (sound.cells.symm ▸ held)
      (by omega), sound.cells]
    right
    -- both positions are those of one cell
    have same : after.valid - index = if buffer.size ≤ buffer.valid + (count - index) then
        buffer.valid + (count - index) - buffer.size else buffer.valid + (count - index) := by
      apply Nat.ModEq.eq_of_lt_of_lt (m := buffer.size)
      · apply Nat.ModEq.add_right_cancel' index
        rw [Nat.sub_add_cancel (Nat.not_lt.mp before)]
        refine consumed.moved.trans ?_
        split
        next past =>
          have around : buffer.valid + count =
              buffer.valid + (count - index) - buffer.size + index + buffer.size := by omega
          rw [around]
          exact Nat.add_modEq_right
        next =>
          have around : buffer.valid + (count - index) + index = buffer.valid + count := by omega
          rw [around]
      · omega
      · split <;> omega
    rw [← same, ← consumed.data]
    rfl

end Consumed

end Queue

end RingBuffer

end WebTransportGos.Helper
