import WebTransportGos.Helper.FramePasses
import WebTransportGos.Helper.WebTransportWS

/-!
What `decode` hands over as `serialized`: the cells between the pointer at the start of the
frame and the pointer behind it. A server's ping is answered with these bytes.
-/

namespace WebTransportGos.Helper

open Decimal Ring StepSystem

set_option autoImplicit false

def AnswersWith (frame : List UInt8) (decoded : Decoded) : Prop :=
  ∀ (Text : Type) (socket : WebTransportWS Text) (clock : Nat → Int) (index cmd : Nat),
    decoded.cmd = some cmd → (cmd : Int) ≠ socket.options.pingCommand →
    (cmd : Int) = socket.options.serverPingCommand → socket.options.enablePing = true →
    socket.onDecodeMessage clock index decoded =
      .ok { socket with written := socket.written ++ [(index, frame)] }

def Echoes (_ : Bool) (buffer : RingBuffer UInt8) : Pass → Prop
  | .delivers decoded after =>
    decoded.serialized = taken buffer after ∧ AnswersWith (taken buffer after) decoded
  | .waits _ | .throws _ _ => True

/-- A frame as long as the buffer begins at the first cell. -/
def FillsFromStart (enableCommand : Bool) (buffer : RingBuffer UInt8) (_ : Pass) : Prop :=
  ∀ body, Framed enableCommand buffer.contents body →
    (frameOf buffer.contents body).length = buffer.size → buffer.valid = 0

theorem answers_with {frame : List UInt8} {decoded : Decoded}
    (same : decoded.serialized = frame) : AnswersWith frame decoded := by
  intro Text socket clock index cmd command notPing serverPing enabled
  unfold WebTransportWS.onDecodeMessage
  rw [command]
  dsimp only
  rw [if_neg (fun both => notPing both.1), if_pos ⟨serverPing, enabled⟩, same]

theorem echoes_serialized {enableCommand : Bool} {buffer after : RingBuffer UInt8} {pass : Pass}
    {decoded : Decoded} (echoes : Echoes enableCommand buffer pass)
    (delivers : pass = .delivers decoded after) : decoded.serialized = taken buffer after := by
  rw [delivers] at echoes
  exact echoes.1

section Pointers

variable {enableCommand : Bool} {buffer after : RingBuffer UInt8} {decoded : Decoded}
  {startPointer count : Nat}

theorem skip_one_valid (more : 0 < buffer.length) : 1 ≤ (buffer.skip 1).valid := by
  rw [RingBuffer.skip, if_neg (by omega)]
  dsimp only
  split <;> omega

theorem read_length_left (more : count < buffer.length) :
    (buffer.read count).2.length = buffer.length - count := by
  rw [RingBuffer.read, if_neg (by omega)]
  dsimp only
  rw [if_neg (by omega)]

theorem decode_payload_pointers {cmd : Option Nat} {payloadLen : Int}
    (delivers : decodePayload startPointer cmd payloadLen buffer = .delivers decoded after) :
    decoded.serialized = after.readByRange startPointer after.valid ∧ 1 ≤ after.valid := by
  rw [decodePayload.eq_def] at delivers
  split at delivers
  · cases delivers
  next closed =>
  split at delivers
  · cases delivers
  next count =>
    have present := not_not.mp closed
    have inside : count < buffer.length := by
      by_contra outside
      have none : buffer.getByteByIndex (Int.ofNat count) = none := by
        rw [RingBuffer.getByteByIndex, if_neg]
        rw [Int.ofNat_eq_natCast]
        omega
      rw [none] at present
      cases present
    have more : 0 < (buffer.read count).2.length := by
      rw [read_length_left inside]
      omega
    injection delivers with found ended
    rw [← found, ← ended]
    exact ⟨rfl, skip_one_valid more⟩

theorem decode_body_pointers {len : Nat}
    (delivers : decodeBody enableCommand startPointer len buffer = .delivers decoded after) :
    decoded.serialized = after.readByRange startPointer after.valid ∧ 1 ≤ after.valid := by
  rw [decodeBody] at delivers
  split at delivers
  · dsimp only at delivers
    split at delivers
    · cases delivers
    · exact decode_payload_pointers delivers
  · exact decode_payload_pointers delivers

theorem decode_pass_pointers
    (delivers : decodePass enableCommand buffer = .delivers decoded after) :
    decoded.serialized = after.readByRange buffer.valid after.valid ∧ 1 ≤ after.valid := by
  rw [decodePass] at delivers
  dsimp only at delivers
  split at delivers
  · cases delivers
  split at delivers
  · cases delivers
  split at delivers
  · cases delivers
  split at delivers
  · cases delivers
  split at delivers
  · cases delivers
  split at delivers
  · cases delivers
  split at delivers
  · exact decode_body_pointers delivers
  · cases delivers

theorem same_place {size one two : Nat} (same : one ≡ two [MOD size]) (first : 1 ≤ one)
    (second : 1 ≤ two) (least : one ≤ size) (most : two ≤ size) : one = two := by
  have before : one - 1 = two - 1 := by
    apply Nat.ModEq.eq_of_lt_of_lt (m := size)
    · apply Nat.ModEq.add_right_cancel' 1
      rw [Nat.sub_add_cancel first, Nat.sub_add_cancel second]
      exact same
    · omega
    · omega
  omega

/-- Between the pointers stands what was consumed, unless they are equal and it was all. -/
theorem read_by_range_consumed (sound : buffer.Sound) (consumed : buffer.Consumed count after)
    (some : 0 < count) (behind : 1 ≤ after.valid) :
    after.readByRange buffer.valid after.valid = buffer.contents.take count ↔
      (count = buffer.size → buffer.valid = 0) := by
  have cells := sound.cells
  have first := sound.valid
  have held := sound.length
  have last := consumed.valid
  have length := consumed.length
  have moved := consumed.moved
  rw [consumed.size] at last
  have whole : buffer.contents.take count = window buffer.data buffer.valid count := by
    rw [RingBuffer.contents, window_take, Nat.min_eq_left (by omega)]
  rw [whole, RingBuffer.readByRange, consumed.data, subarray, subarray, List.drop_zero,
    Nat.sub_zero]
  by_cases around : buffer.size < buffer.valid + count
  · have wrapped : after.valid = buffer.valid + count - buffer.size := by
      refine same_place ?_ behind (by omega) last (by omega)
      refine moved.trans ?_
      have turn : buffer.valid + count = buffer.valid + count - buffer.size + buffer.size := by
        omega
      conv_lhs => rw [turn]
      exact Nat.add_modEq_right
    by_cases full : count = buffer.size
    · -- the pointers are equal, and nothing is read
      have equal : after.valid = buffer.valid := by omega
      rw [equal, if_pos (Nat.le_refl _), Nat.sub_self, List.take_zero]
      constructor
      · intro nothing
        have size := congrArg List.length nothing
        rw [window_length (by omega), List.length_nil] at size
        omega
      · intro start
        have zero := start full
        omega
    · rw [if_neg (by omega), window_eq (cells ▸ first) (by omega), cells, if_pos around, wrapped]
      exact iff_of_true rfl (fun same => absurd same full)
  · have straight : after.valid = buffer.valid + count :=
      same_place moved behind (by omega) last (by omega)
    rw [straight, if_pos (Nat.le_add_right _ _), Nat.add_sub_cancel_left,
      window_eq (cells ▸ first) (by omega), cells, if_neg around]
    exact iff_of_true rfl (by omega)

end Pointers

section Runs

variable {enableCommand : Bool} {buffer : RingBuffer UInt8}

theorem frame_of_length {bytes body : List UInt8} : 0 < (frameOf bytes body).length := by
  rw [frameOf, List.length_append, List.length_cons]
  omega

/-- A pass hands over its frame exactly if that does not fill the buffer from the middle. -/
theorem echoes_iff (sound : buffer.Sound) :
    Echoes enableCommand buffer (decodePass enableCommand buffer) ↔
      FillsFromStart enableCommand buffer (decodePass enableCommand buffer) := by
  cases pass : decodePass enableCommand buffer with
  | delivers decoded after =>
    rcases delivers_framed sound pass with ⟨body, payload, framed, took, consumed, -⟩
    have pointers := decode_pass_pointers pass
    have range := read_by_range_consumed sound consumed frame_of_length pointers.2
    have front : taken buffer after = buffer.contents.take (frameOf buffer.contents body).length := by
      rw [took]
      exact ((congrArg (List.take _) (frame_of_eq framed).1).trans List.take_left).symm
    rw [← front, ← pointers.1] at range
    unfold Echoes FillsFromStart
    dsimp only
    rw [and_iff_left_of_imp answers_with, range]
    constructor
    · intro start other again full
      rw [framed.unique again] at full
      exact start full
    · intro start full
      exact start body framed full
  | waits after =>
    refine iff_of_true trivial ?_
    intro body framed
    exact absurd framed (undelivered_unframed sound (by simp [pass]) body)
  | throws message after =>
    refine iff_of_true trivial ?_
    intro body framed
    exact absurd framed (undelivered_unframed sound (by simp [pass]) body)

end Runs

/-- Over all bytes in all chunks. -/
theorem serialized_iff (options : NetStringOptions) (chunks : List (List UInt8)) :
    Steps receive (Passes Echoes) (newReceiver options) chunks ↔
      Steps receive (Passes FillsFromStart) (newReceiver options) chunks :=
  passes_iff options (fun _ _ sound => echoes_iff sound) chunks

/-- Two frames through a buffer of four bytes. The second one fills it, and is handed over as
nothing. -/
theorem serialized_lost :
    Steps receive Fits (newReceiver ⟨4, false, 0⟩) [encode [] none, encode [7] none] ∧
      (run receive (newReceiver ⟨4, false, 0⟩) [encode [] none, encode [7] none]).map
        Receiver.delivered = some [⟨some [], encode [] none, none⟩, ⟨some [7], [], none⟩] ∧
      ¬Steps receive (Passes Echoes) (newReceiver ⟨4, false, 0⟩)
        [encode [] none, encode [7] none] := by
  refine ⟨?_, by decide +kernel, ?_⟩
  · exact steps_cons rfl (by decide +kernel) (steps_cons rfl (by decide +kernel) trivial)
  · intro steps
    have second := ((steps _ rfl).2 _ rfl).1.1
    exact absurd (echoes_serialized second rfl) (by decide +kernel)

end WebTransportGos.Helper
