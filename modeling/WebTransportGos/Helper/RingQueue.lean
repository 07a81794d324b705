import Mathlib.Data.List.DropRight
import WebTransportGos.Helper.RingBuffer
import WebTransportGos.Library.Machine

/-!
The ring buffer as a queue of bounded length, and what `back` does behind each of the
consuming operations.
-/

namespace WebTransportGos.Helper.RingBuffer

open Machine Ring

set_option autoImplicit false

variable {Element : Type*}

inductive Operation (Element : Type*)
  | write (chunk : List Element)
  | read (count : Nat)
  | readByte
  | getByteByIndex (index : Nat)
  | skip (count : Nat)
  | clear
  deriving DecidableEq

inductive Answer (Element : Type*)
  | done
  | found (elements : Option (List Element))
  | one (element : Option Element)
  deriving DecidableEq

def apply (buffer : RingBuffer Element) :
    Operation Element → Answer Element × RingBuffer Element
  | .write chunk => (.done, buffer.write chunk)
  | .read count => (.found (buffer.read count).1, (buffer.read count).2)
  | .readByte => (.one buffer.readByte.1, buffer.readByte.2)
  | .getByteByIndex index => (.one (buffer.getByteByIndex index), buffer)
  | .skip count => (.done, buffer.skip count)
  | .clear => (.done, buffer.clear)

/-- The queue itself: a list of at most `size` elements, which gives up its oldest ones. -/
def queue (size : Nat) (held : List Element) :
    Operation Element → Answer Element × List Element
  | .write chunk => (.done, if chunk.length ≤ size then (held ++ chunk).rtake size else held)
  | .read count => (.found (if held = [] then none else some (held.take count)), held.drop count)
  | .readByte => (.one held.head?, held.tail)
  | .getByteByIndex index => (.one held[index]?, held)
  | .skip count => (.done, held.drop count)
  | .clear => (.done, [])

structure Holds (size : Nat) (buffer : RingBuffer Element) (held : List Element) : Prop where
  sound : buffer.Sound
  size : buffer.size = size
  contents : buffer.contents = held

section Operations

variable {buffer after : RingBuffer Element} {size count : Nat} {held : List Element}

theorem Holds.length (holds : Holds size buffer held) : held.length = buffer.length := by
  rw [← holds.contents, holds.sound.contents_length]

theorem contents_none (empty : buffer.length = 0) : buffer.contents = [] := by
  rw [contents, empty, window, List.take_zero]

theorem new_holds (zero : Element) (size : Nat) : Holds size (newRingBuffer zero size) [] where
  sound := new_sound zero size
  size := rfl
  contents := contents_none rfl

theorem write_holds (holds : Holds size buffer held) (chunk : List Element) :
    Holds size (buffer.write chunk)
      (if chunk.length ≤ size then (held ++ chunk).rtake size else held) where
  sound := write_sound holds.sound
  size := (write_size chunk).trans holds.size
  contents := by
    have room := holds.size
    split
    next short =>
      rw [write_contents holds.sound (room ▸ short), List.rtake, List.length_append, holds.length,
        holds.contents, room]
    next long =>
      rw [write_long (room ▸ Nat.not_le.mp long)]
      exact holds.contents

theorem Holds.consumed (holds : Holds size buffer held) (consumed : Consumed buffer count after) :
    Holds size after (held.drop count) where
  sound := consumed.sound holds.sound
  size := consumed.size.trans holds.size
  contents := by rw [consumed.contents holds.sound, holds.contents]

theorem read_clamped (more : buffer.length < count) :
    buffer.read count = buffer.read buffer.length := by
  simp only [read, if_pos more, Nat.lt_irrefl, if_false]

theorem read_empty (empty : buffer.length = 0) : buffer.read count = (none, buffer) :=
  if_pos empty

theorem read_consumed_clamped (sound : buffer.Sound) (more : 0 < buffer.length) :
    (buffer.read count).1 = some (buffer.contents.take count) ∧
      Consumed buffer (min count buffer.length) (buffer.read count).2 := by
  by_cases enough : count ≤ buffer.length
  · rw [Nat.min_eq_left enough]
    exact read_consumed sound more enough
  · have beyond := Nat.not_le.mp enough
    have whole := read_consumed sound more (Nat.le_refl _)
    have all := sound.contents_length
    rw [read_clamped beyond, Nat.min_eq_right (Nat.le_of_lt beyond),
      List.take_of_length_le (by omega)]
    rw [List.take_of_length_le (by omega)] at whole
    exact whole

theorem read_holds (holds : Holds size buffer held) (count : Nat) :
    (buffer.read count).1 = (if held = [] then none else some (held.take count)) ∧
      Holds size (buffer.read count).2 (held.drop count) := by
  have length := holds.length
  by_cases empty : buffer.length = 0
  · have nothing : held = [] := List.eq_nil_of_length_eq_zero (length.trans empty)
    rw [read_empty empty, if_pos nothing, nothing, List.drop_nil, ← nothing]
    exact ⟨rfl, holds⟩
  · have some : held ≠ [] := by
      intro nothing
      rw [nothing] at length
      exact empty length.symm
    have read := @read_consumed_clamped _ buffer count holds.sound (Nat.pos_of_ne_zero empty)
    have rest := holds.consumed read.2
    rw [← length, ← List.drop_eq_drop_min] at rest
    rw [if_neg some, read.1, holds.contents]
    exact ⟨rfl, rest⟩

theorem read_byte_empty (empty : buffer.length = 0) : buffer.readByte = (none, buffer) :=
  if_neg (Nat.not_lt.mpr (Nat.le_of_eq empty))

theorem read_byte_holds (holds : Holds size buffer held) :
    buffer.readByte.1 = held.head? ∧ Holds size buffer.readByte.2 held.tail := by
  have length := holds.length
  by_cases empty : buffer.length = 0
  · have nothing : held = [] := List.eq_nil_of_length_eq_zero (length.trans empty)
    subst nothing
    rw [read_byte_empty empty]
    exact ⟨rfl, holds⟩
  · have read := read_byte_consumed holds.sound (Nat.pos_of_ne_zero empty)
    have rest := holds.consumed read.2
    rw [List.drop_one] at rest
    rw [read.1, holds.contents, List.head?_eq_getElem?]
    exact ⟨rfl, rest⟩

theorem skip_beyond (more : buffer.length < count) :
    buffer.skip count =
      { buffer with valid := 0, tail := 0, pos := buffer.pos + buffer.length, length := 0 } :=
  if_pos more

theorem skip_holds (holds : Holds size buffer held) (count : Nat) :
    Holds size (buffer.skip count) (held.drop count) := by
  by_cases enough : count ≤ buffer.length
  · exact holds.consumed (skip_consumed holds.sound enough)
  · have beyond := Nat.not_le.mp enough
    have length := holds.length
    rw [skip_beyond beyond, List.drop_eq_nil_of_le (by omega)]
    exact ⟨⟨holds.sound.cells, Nat.zero_le _, Nat.zero_le _, Nat.zero_le _, .refl _⟩, holds.size,
      contents_none rfl⟩

theorem clear_holds (holds : Holds size buffer held) : Holds size buffer.clear [] where
  sound := ⟨holds.sound.cells, Nat.zero_le _, Nat.zero_le _, Nat.zero_le _, .refl _⟩
  size := holds.size
  contents := contents_none rfl

/-- Each operation does to the buffer what it does to the list. -/
theorem apply_holds (holds : Holds size buffer held) (operation : Operation Element) :
    (apply buffer operation).1 = (queue size held operation).1 ∧
      Holds size (apply buffer operation).2 (queue size held operation).2 := by
  cases operation with
  | write chunk => exact ⟨rfl, write_holds holds chunk⟩
  | read count =>
    have read := read_holds holds count
    exact ⟨congrArg Answer.found read.1, read.2⟩
  | readByte =>
    have read := read_byte_holds holds
    exact ⟨congrArg Answer.one read.1, read.2⟩
  | getByteByIndex index =>
    have byte := get_byte_by_index holds.sound index
    rw [holds.contents] at byte
    exact ⟨congrArg Answer.one byte, holds⟩
  | skip count => exact ⟨rfl, skip_holds holds count⟩
  | clear => exact ⟨rfl, clear_holds holds⟩

end Operations

/-- Over every run of a new buffer, its answers are those of the queue. -/
theorem ring_buffer_refines_queue (zero : Element) (size : Nat)
    (operations : List (Operation Element)) :
    (trace apply (newRingBuffer zero size) operations).1 =
        (trace (queue size) [] operations).1 ∧
      Holds size (trace apply (newRingBuffer zero size) operations).2
        (trace (queue size) [] operations).2 := by
  apply trace_refines
  · intro buffer held operation holds
    exact apply_holds holds operation
  · exact new_holds zero size

inductive Consuming
  | read (count : Nat)
  | readByte
  | skip (count : Nat)
  deriving DecidableEq

inductive Access (Element : Type*)
  | operation (operation : Operation Element)
  | back (count : Nat)
  deriving DecidableEq

def access (buffer : RingBuffer Element) : Access Element → Answer Element × RingBuffer Element
  | .operation operation => apply buffer operation
  | .back count => (.done, buffer.back count)

def consume (buffer : RingBuffer Element) : Consuming → RingBuffer Element
  | .read count => (buffer.read count).2
  | .readByte => buffer.readByte.2
  | .skip count => buffer.skip count

def Restored (buffer : RingBuffer Element) (consuming : Consuming) : Prop :=
  let after := buffer.consume consuming
  let returned := after.back (buffer.length - after.length)
  returned.contents = buffer.contents ∧ returned.length = buffer.length ∧
    returned.pos = buffer.pos

/-- A skip of more than there is moves the pointers to the first cell; behind it, counted from
the end of the array, there may be other elements than the ones skipped. -/
def Behind (buffer : RingBuffer Element) : Consuming → Prop
  | .skip count => buffer.length < count →
    buffer.contents = buffer.data.drop (buffer.size - buffer.length)
  | .read _ | .readByte => True

section Back

variable {buffer after : RingBuffer Element} {count : Nat}

theorem back_sound (sound : buffer.Sound) (count : Nat) : (buffer.back count).Sound := by
  have inside := sound.valid
  have held := sound.length
  unfold back
  split
  next past =>
    exact ⟨sound.cells, sound.tail, sound.tail, Nat.le_refl _, Nat.add_modEq_right.symm⟩
  next room =>
    refine ⟨sound.cells, ?_, sound.tail, by dsimp only; omega, ?_⟩
    · dsimp only
      split <;> omega
    · have around : (if buffer.valid < count then buffer.size - (count - buffer.valid)
          else buffer.valid - count) + (buffer.length + count) =
            buffer.valid + buffer.length + (if buffer.valid < count then buffer.size else 0) := by
        split <;> omega
      dsimp only
      rw [around]
      refine sound.aligned.trans ?_
      split
      · exact Nat.add_modEq_right.symm
      · rfl

theorem access_sound (sound : buffer.Sound) (call : Access Element) : (access buffer call).2.Sound := by
  cases call with
  | operation operation =>
    exact (@apply_holds _ buffer buffer.size _ ⟨sound, rfl, rfl⟩ operation).2.sound
  | back count => exact back_sound sound count

theorem Consumed.restored (sound : buffer.Sound) (consumed : Consumed buffer count after) :
    (after.back (buffer.length - after.length)).contents = buffer.contents ∧
      (after.back (buffer.length - after.length)).length = buffer.length ∧
      (after.back (buffer.length - after.length)).pos = buffer.pos := by
  have length := consumed.length
  have counted : buffer.length - after.length = count := by omega
  have returned := consumed.back sound
  rw [counted]
  exact ⟨returned.2.1, returned.2.2.1, returned.2.2.2.2⟩

theorem read_in_place (sound : buffer.Sound) (count : Nat) :
    ∃ taken, Consumed buffer taken (buffer.read count).2 := by
  by_cases empty : buffer.length = 0
  · rw [read_empty empty]
    exact ⟨0, sound.consumed⟩
  · exact ⟨_, (read_consumed_clamped sound (Nat.pos_of_ne_zero empty)).2⟩

theorem read_byte_in_place (sound : buffer.Sound) :
    ∃ taken, Consumed buffer taken buffer.readByte.2 := by
  by_cases empty : buffer.length = 0
  · rw [read_byte_empty empty]
    exact ⟨0, sound.consumed⟩
  · exact ⟨1, (read_byte_consumed sound (Nat.pos_of_ne_zero empty)).2⟩

/-- Back behind a skip of more than there is, the last cells are read. -/
theorem skip_beyond_back (sound : buffer.Sound) (more : buffer.length < count) :
    (buffer.skip count).back (buffer.length - (buffer.skip count).length) =
      { buffer with
        valid := if 0 < buffer.length then buffer.size - buffer.length else 0
        tail := 0 } := by
  have held := sound.length
  rw [skip_beyond more, back]
  dsimp only
  rw [Nat.sub_zero, Nat.sub_zero, Nat.sub_zero, Nat.zero_sub, Nat.zero_add,
    if_neg (Nat.not_lt.mpr held), add_sub_cancel_right]

theorem skip_beyond_contents (sound : buffer.Sound) (more : buffer.length < count) :
    ((buffer.skip count).back (buffer.length - (buffer.skip count).length)).contents =
      buffer.data.drop (buffer.size - buffer.length) := by
  have held := sound.length
  have cells := sound.cells
  rw [skip_beyond_back sound more, contents]
  dsimp only
  by_cases empty : buffer.length = 0
  · rw [empty, if_neg (Nat.lt_irrefl 0), Nat.sub_zero, ← cells, List.drop_length, window,
      List.take_zero]
  · rw [if_pos (Nat.pos_of_ne_zero empty), window_eq (by omega) (by omega), if_neg (by omega)]
    apply List.take_of_length_le
    rw [List.length_drop]
    omega

end Back

/-- Of any buffer that some calls lead to. -/
theorem back_restores_iff (zero : Element) (size : Nat) (buffer : RingBuffer Element)
    (reached : Reached access (newRingBuffer zero size) buffer) (consuming : Consuming) :
    Restored buffer consuming ↔ Behind buffer consuming := by
  have sound : buffer.Sound := by
    apply reached_invariant _ _ reached
    · intro state call sound
      exact access_sound sound call
    · exact new_sound zero size
  cases consuming with
  | read count =>
    obtain ⟨taken, consumed⟩ := read_in_place sound count
    exact iff_of_true (consumed.restored sound) trivial
  | readByte =>
    obtain ⟨taken, consumed⟩ := read_byte_in_place sound
    exact iff_of_true (consumed.restored sound) trivial
  | skip count =>
    unfold Restored Behind
    dsimp only [consume]
    by_cases enough : count ≤ buffer.length
    · have restored := (skip_consumed sound enough).restored sound
      exact iff_of_true restored (fun more => absurd more (Nat.not_lt.mpr enough))
    · have more := Nat.not_le.mp enough
      have found := skip_beyond_contents sound more
      rw [found, skip_beyond_back sound more]
      constructor
      · intro restored _
        exact restored.1.symm
      · intro same
        exact ⟨(same more).symm, rfl, rfl⟩

/-- A full buffer comes back also from a skip of more than it holds. -/
theorem back_restores_iff_full :
    @Restored Nat ((newRingBuffer 0 4).write [1, 2, 3, 4]) (.skip 9) ↔
      @Behind Nat ((newRingBuffer 0 4).write [1, 2, 3, 4]) (.skip 9) :=
  back_restores_iff 0 4 _ ⟨[.operation (.write [1, 2, 3, 4])], rfl⟩ (.skip 9)

/-- One byte of a new buffer of two, skipped by two: the byte behind it comes back. -/
theorem back_after_skip :
    ∃ buffer : RingBuffer Nat, Reached access (newRingBuffer 0 2) buffer ∧
      buffer.contents = [1] ∧
      ((buffer.skip 2).back (buffer.length - (buffer.skip 2).length)).contents = [0] ∧
      ¬Restored buffer (.skip 2) := by
  refine ⟨(newRingBuffer 0 2).write [1], ⟨[.operation (.write [1])], rfl⟩, ?_, ?_, ?_⟩
  · decide
  · decide
  · intro restored
    exact absurd restored.1 (by decide)

end WebTransportGos.Helper.RingBuffer
