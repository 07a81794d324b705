import WebTransportGos.Helper.FramePasses
import WebTransportGos.Library.NumberText

/-!
Which frames the decoder takes that the encoder would not have written. The length in front
is checked digit by digit; the command is not, and is read as a double.
-/

namespace WebTransportGos.Helper

open Decimal NumberText StepSystem

set_option autoImplicit false

def encodeNumber (payload : List UInt8) : Option Nat → List UInt8
  | some cmd =>
    print (payload.length + (numberText cmd ++ [space]).length) ++ [colon] ++ numberText cmd ++
      [space] ++ payload ++ [comma]
  | none => print payload.length ++ [colon] ++ payload ++ [comma]

/-- What is delivered was written as it was found, and with more than nine digits of length
nothing is delivered or waited for. -/
def Canonical (_ : Bool) (buffer : RingBuffer UInt8) : Pass → Prop
  | .delivers decoded after =>
    (∃ payload, decoded.payload = some payload ∧
      taken buffer after = encodeNumber payload decoded.cmd) ∧
    (lengthField buffer.contents).length ≤ 9
  | .waits _ => (lengthField buffer.contents).length ≤ 9
  | .throws _ _ => True

def CommandPlain (enableCommand : Bool) (bytes : List UInt8) : Prop :=
  ∀ body, Framed enableCommand bytes body → enableCommand = true →
    numberText (valueDouble (commandText body)) = commandText body

/-- Where the length has ten digits, the bytes are malformed elsewhere. -/
def TenMalformed (enableCommand : Bool) (bytes : List UInt8) : Prop :=
  (lengthField bytes).length = 10 → ¬Open bytes ∧ ∀ body, ¬Framed enableCommand bytes body

def PlainInput (enableCommand : Bool) (buffer : RingBuffer UInt8) (_ : Pass) : Prop :=
  CommandPlain enableCommand buffer.contents ∧ TenMalformed enableCommand buffer.contents

theorem encode_number_safe (payload : List UInt8) (cmd : Option Nat)
    (safe : ∀ number ∈ cmd, number < 2 ^ 53) :
    encodeNumber payload cmd = encode payload (cmd.map Int.ofNat) := by
  cases cmd with
  | none => rfl
  | some number =>
    rw [encodeNumber, number_text_safe (safe number rfl)]
    rfl

section Frames

variable {enableCommand : Bool} {bytes body payload : List UInt8}

theorem announces_print (field : Announces bytes) :
    print (value (lengthField bytes)) = lengthField bytes := by
  apply print_value _ field.some field.first
  intro byte member
  exact List.all_eq_true.mp List.all_takeWhile byte member

def commandWritten : Option Nat → List UInt8
  | some cmd => numberText cmd ++ [space]
  | none => []

theorem encode_number_eq (payload : List UInt8) (cmd : Option Nat) :
    encodeNumber payload cmd = print (commandWritten cmd ++ payload).length ++
      colon :: (commandWritten cmd ++ payload ++ [comma]) := by
  cases cmd with
  | none => simp [encodeNumber, commandWritten]
  | some cmd =>
    have length : payload.length + (numberText cmd ++ [space]).length =
        (numberText cmd ++ [space] ++ payload).length := by
      rw [@List.length_append _ (numberText cmd ++ [space]) payload, Nat.add_comm]
    rw [encodeNumber, commandWritten, length]
    simp

theorem colon_split {first second one two : List UInt8}
    (digits : ∀ byte ∈ first, isDigit byte = true) (others : ∀ byte ∈ second, isDigit byte = true)
    (same : first ++ colon :: one = second ++ colon :: two) : first = second ∧ one = two := by
  have left := @take_digits one first digits colon (by decide)
  have right := @take_digits two second others colon (by decide)
  rw [same] at left
  have behind := left.2.symm.trans right.2
  injection behind with _ rest
  exact ⟨left.1.symm.trans right.1, rest⟩

theorem command_part_iff : commandPart enableCommand body =
      commandWritten (commandOf enableCommand body) ↔
    (enableCommand = true → numberText (valueDouble (commandText body)) = commandText body) := by
  cases enableCommand with
  | false => exact iff_of_true rfl (fun on => Bool.noConfusion on)
  | true =>
    have both : commandPart true body = commandWritten (commandOf true body) ↔
        commandText body = numberText (valueDouble (commandText body)) :=
      List.append_left_inj [space]
    rw [both, eq_comm]
    exact ⟨fun same _ => same, fun same => same rfl⟩

theorem frame_canonical (framed : Framed enableCommand bytes body)
    (split : body.take (value (lengthField bytes)) = commandPart enableCommand body ++ payload) :
    frameOf bytes body = encodeNumber payload (commandOf enableCommand body) ↔
      (enableCommand = true → numberText (valueDouble (commandText body)) = commandText body) := by
  have field := announces_print framed.field
  have digits (byte : UInt8) (member : byte ∈ lengthField bytes) : isDigit byte = true :=
    print_digits _ byte (field.symm ▸ member)
  have arrived := framed.arrived
  have length := congrArg List.length split
  rw [List.length_take, Nat.min_eq_left (by omega)] at length
  rw [(frame_of_eq framed).2, split, encode_number_eq, ← command_part_iff]
  constructor
  · intro same
    have parts := colon_split digits (print_digits _) same
    rw [List.append_left_inj, List.append_left_inj] at parts
    exact parts.2
  · intro same
    rw [← same, ← length, field]

end Frames

section Passes

variable {enableCommand : Bool} {buffer after : RingBuffer UInt8}

theorem field_within (bytes : List UInt8) : (lengthField bytes).length ≤ bytes.length :=
  (List.takeWhile_prefix isDigit).length_le

theorem delivers_canonical {decoded : Decoded} (sound : buffer.Sound)
    (delivers : decodePass enableCommand buffer = .delivers decoded after) :
    Canonical enableCommand buffer (.delivers decoded after) ↔
      PlainInput enableCommand buffer (.delivers decoded after) := by
  rcases delivers_framed sound delivers with ⟨body, payload, framed, took, -, carried, cmd, split⟩
  have written : (∃ other, decoded.payload = some other ∧
      taken buffer after = encodeNumber other decoded.cmd) ↔
        CommandPlain enableCommand buffer.contents := by
    rw [took, cmd, carried]
    constructor
    · rintro ⟨other, same, frame⟩ again second on
      cases same
      rw [framed.unique second]
      exact (frame_canonical framed split).mp frame on
    · intro plain
      exact ⟨payload, rfl, (frame_canonical framed split).mpr (plain body framed)⟩
  have few := framed.field.few
  apply and_congr written
  constructor
  · intro less ten
    omega
  · intro malformed
    by_contra many
    exact (malformed (by omega)).2 body framed

theorem waits_canonical (sound : buffer.Sound)
    (waits : decodePass enableCommand buffer = .waits after) :
    Canonical enableCommand buffer (.waits after) ↔
      PlainInput enableCommand buffer (.waits after) := by
  have unframed := @undelivered_unframed enableCommand buffer sound (by simp [waits])
  have within := field_within buffer.contents
  constructor
  · intro less
    have few : (lengthField buffer.contents).length ≤ 9 := less
    refine ⟨fun body framed => absurd framed (unframed body), ?_⟩
    intro ten
    omega
  · intro plain
    change (lengthField buffer.contents).length ≤ 9
    by_cases short : buffer.contents.length < 3
    · omega
    · have opened := (parse_open (Nat.not_lt.mp short)).mp (waits_parsed sound waits)
      have few := opened.field.few
      by_contra many
      exact (plain.2 (by omega)).1 opened

theorem throws_canonical {message : String} (sound : buffer.Sound)
    (throws : decodePass enableCommand buffer = .throws message after) :
    PlainInput enableCommand buffer (.throws message after) := by
  have unframed := @undelivered_unframed enableCommand buffer sound (by simp [throws])
  have within := field_within buffer.contents
  refine ⟨fun body framed => absurd framed (unframed body), ?_⟩
  intro ten
  refine ⟨?_, unframed⟩
  intro opened
  have waits := (@parse_open enableCommand buffer.contents (by omega)).mpr opened
  rcases parsed_waits sound waits with ⟨other, waiting⟩
  cases throws.symm.trans waiting

/-- A pass takes what the encoder writes exactly if its input is plain. -/
theorem canonical_iff (enableCommand : Bool) (buffer : RingBuffer UInt8) (sound : buffer.Sound) :
    Canonical enableCommand buffer (decodePass enableCommand buffer) ↔
      PlainInput enableCommand buffer (decodePass enableCommand buffer) := by
  cases pass : decodePass enableCommand buffer with
  | delivers decoded after => exact delivers_canonical sound pass
  | waits after => exact waits_canonical sound pass
  | throws message after => exact iff_of_true trivial (throws_canonical sound pass)

end Passes

/-- Over all bytes in all chunks. -/
theorem decoder_canonical_iff (options : NetStringOptions) (chunks : List (List UInt8)) :
    Steps receive (Passes Canonical) (newReceiver options) chunks ↔
      Steps receive (Passes PlainInput) (newReceiver options) chunks :=
  passes_iff options canonical_iff chunks

theorem canonical_written {enableCommand : Bool} {buffer after : RingBuffer UInt8} {pass : Pass}
    {decoded : Decoded} (canonical : Canonical enableCommand buffer pass)
    (delivers : pass = .delivers decoded after) :
    taken buffer after = encodeNumber (decoded.payload.getD []) decoded.cmd := by
  rw [delivers] at canonical
  rcases canonical.1 with ⟨payload, carried, written⟩
  rw [carried]
  exact written

/-- `4:007 ,` is delivered with the command 7, of which the encoder makes `2:7 ,`. Behind ten
digits of length the decoder waits. -/
theorem leading_zeros_delivered :
    Steps receive Fits (newReceiver ⟨16, true, 0⟩) [[52, 58, 48, 48, 55, 32, 44]] ∧
      (run receive (newReceiver ⟨16, true, 0⟩) [[52, 58, 48, 48, 55, 32, 44]]).map
        Receiver.delivered = some [⟨some [], [52, 58, 48, 48, 55, 32, 44], some 7⟩] ∧
      encodeNumber [] (some 7) = [50, 58, 55, 32, 44] ∧
      ¬Steps receive (Passes Canonical) (newReceiver ⟨16, true, 0⟩)
        [[52, 58, 48, 48, 55, 32, 44]] ∧
      (run receive (newReceiver ⟨16, true, 0⟩) [print (10 ^ 9)]).map Receiver.thrown =
        some none := by
  refine ⟨?_, by decide +kernel, by decide +kernel, ?_, by decide +kernel⟩
  · exact steps_cons rfl (by decide +kernel) trivial
  · intro steps
    have first := (steps _ rfl).1.1
    exact absurd (canonical_written first rfl) (by decide +kernel)

end WebTransportGos.Helper
