import WebTransportGos.Library.Decimal
import WebTransportGos.Library.Framing
import WebTransportGos.Helper.RingBuffer

/-!
bjy-common, lib/helper/NetString.js: a frame is its length in decimal, a colon, perhaps a
command and a space, the payload and a comma. `decode` reads from a ring buffer and goes
back to where it began when the frame is not complete.

`parse` is the same on the list of readable bytes. The main result is that `decode` does
with the buffer what `parse` does with its contents.
-/

namespace WebTransportGos.Helper

open Decimal Framing

set_option autoImplicit false

def colon : UInt8 := 58

def comma : UInt8 := 44

def space : UInt8 := 32

def leadingString (length : Nat) : Option Int → List UInt8
  | some (.ofNat command) =>
      print (length + (print command ++ [space]).length) ++ [colon] ++ print command ++ [space]
  | _ => print length ++ [colon]

def encode (payload : List UInt8) (cmd : Option Int) : List UInt8 :=
  leadingString payload.length cmd ++ payload ++ [comma]

/-- `index` is for the callback. -/
structure NetStringOptions where
  bufferSize : Nat
  enableCommand : Bool
  index : Nat
  deriving DecidableEq, Repr

structure NetString where
  options : NetStringOptions
  ringBuffer : RingBuffer UInt8
  deriving DecidableEq, Repr

def newNetString (options : NetStringOptions) : NetString :=
  ⟨options, newRingBuffer 0 options.bufferSize⟩

/-- What `onDecodeText` is given. -/
structure Decoded where
  payload : Option (List UInt8)
  serialized : List UInt8
  cmd : Option Nat
  deriving DecidableEq, Repr

def startsWithDigit (buffer : RingBuffer UInt8) : Bool :=
  buffer.length ≠ 0 && (buffer.getByteByIndex 0).any isDigit

/-- The loop over the digits of the length; the fuel is the buffer's length. -/
def readLength : Nat → RingBuffer UInt8 → Nat → Nat →
    Except String (Nat × Nat) × RingBuffer UInt8
  | 0, buffer, len, i => (.ok (len, i), buffer)
  | fuel + 1, buffer, len, i =>
      if startsWithDigit buffer then
        if 9 < i then (.error "length is more than 9 digits", buffer)
        else
          let (byte, after) := buffer.readByte
          readLength fuel after (push len (byte.getD 0)) (i + 1)
      else (.ok (len, i), buffer)

def readCommand : Nat → RingBuffer UInt8 → Nat → Int → Nat × Int × RingBuffer UInt8
  | 0, buffer, cmd, payloadLen => (cmd, payloadLen, buffer)
  | fuel + 1, buffer, cmd, payloadLen =>
      if startsWithDigit buffer then
        let (byte, after) := buffer.readByte
        readCommand fuel after (pushDouble cmd (byte.getD 0)) (payloadLen - 1)
      else (cmd, payloadLen, buffer)

/-- What one pass of `decode` comes to, up to its call of itself. -/
inductive Pass where
  | waits (buffer : RingBuffer UInt8)
  | throws (message : String) (buffer : RingBuffer UInt8)
  | delivers (decoded : Decoded) (buffer : RingBuffer UInt8)
  deriving DecidableEq, Repr

/-- A negative length is not one of an array. -/
def decodePayload (startPointer : Nat) (cmd : Option Nat) (payloadLen : Int)
    (buffer : RingBuffer UInt8) : Pass :=
  if buffer.getByteByIndex payloadLen ≠ some comma then .throws "miss the comma" buffer
  else match payloadLen with
    | .negSucc _ => .throws "Invalid typed array length" buffer
    | .ofNat count =>
        let (payload, after) := buffer.read count
        let after := after.skip 1
        .delivers ⟨payload, after.readByRange startPointer after.getCurrentPointer, cmd⟩ after

def decodeBody (enableCommand : Bool) (startPointer len : Nat) (buffer : RingBuffer UInt8) :
    Pass :=
  if enableCommand then
    let (cmd, payloadLen, after) := readCommand buffer.length buffer 0 len
    let (byte, after) := after.readByte
    if byte ≠ some space then .throws "miss the space" after
    else decodePayload startPointer (some cmd) (payloadLen - 1) after
  else decodePayload startPointer none len buffer

def decodePass (enableCommand : Bool) (buffer : RingBuffer UInt8) : Pass :=
  let startPointer := buffer.getCurrentPointer
  if buffer.length < 3 then .waits buffer
  else if buffer.getByteByIndex 0 = some 0x30 ∧ (buffer.getByteByIndex 1).any isDigit then
    .throws "find leading zeros!" buffer
  else if !(buffer.getByteByIndex 0).any isDigit then
    .throws "the netstring must start with a number" buffer
  else match readLength buffer.length buffer 0 0 with
    | (.error message, after) => .throws message after
    | (.ok (len, i), after) =>
        if after.length = 0 then .waits (after.back i)
        else
          let (byte, after) := after.readByte
          if byte ≠ some colon then .throws "miss the colon" after
          else if len + 1 ≤ after.length then decodeBody enableCommand startPointer len after
          else .waits (after.back (i + 1))

structure Decoding where
  delivered : List Decoded
  thrown : Option String
  ringBuffer : RingBuffer UInt8
  deriving DecidableEq, Repr

def decodeAll (enableCommand : Bool) : Nat → RingBuffer UInt8 → Decoding
  | 0, buffer => ⟨[], none, buffer⟩
  | fuel + 1, buffer => match decodePass enableCommand buffer with
      | .waits after => ⟨[], none, after⟩
      | .throws message after => ⟨[], some message, after⟩
      | .delivers decoded after =>
          let later := decodeAll enableCommand fuel after
          { later with delivered := decoded :: later.delivered }

/-- Every pass that delivers takes bytes, so that the fuel is enough. -/
def NetString.decode (netString : NetString) (chunk : List UInt8) : Decoding :=
  let buffer := netString.ringBuffer.write chunk
  decodeAll netString.options.enableCommand (buffer.length + 1) buffer

example : ((newNetString ⟨16, true, 0⟩).decode (encode [7, 44] (some 20) ++ [0x31])).delivered =
    [⟨some [7, 44], encode [7, 44] (some 20), some 20⟩] := by decide +kernel

structure Message where
  payload : List UInt8
  cmd : Option Nat
  deriving DecidableEq, Repr

def parsePayload (cmd : Option Nat) (len : Nat) (bytes : List UInt8) :
    Parsed UInt8 Message String :=
  if bytes[len]? = some comma then .frame ⟨bytes.take len, cmd⟩ (bytes.drop (len + 1))
  else .throws "miss the comma"

def parseBody (enableCommand : Bool) (len : Nat) (bytes : List UInt8) :
    Parsed UInt8 Message String :=
  if enableCommand then
    let digits := bytes.takeWhile isDigit
    match bytes.dropWhile isDigit with
    | [] => .throws "miss the space"
    | byte :: rest =>
        if byte ≠ space then .throws "miss the space"
        else if len < digits.length + 1 then .throws "miss the comma"
        else parsePayload (some (valueDouble digits)) (len - (digits.length + 1)) rest
  else parsePayload none len bytes

def parse (enableCommand : Bool) (bytes : List UInt8) : Parsed UInt8 Message String :=
  if bytes.length < 3 then .waits
  else if bytes[0]? = some 0x30 ∧ bytes[1]?.any isDigit then .throws "find leading zeros!"
  else if !bytes[0]?.any isDigit then .throws "the netstring must start with a number"
  else
    let digits := bytes.takeWhile isDigit
    if 10 < digits.length then .throws "length is more than 9 digits"
    else match bytes.dropWhile isDigit with
      | [] => .waits
      | byte :: rest =>
          if byte ≠ colon then .throws "miss the colon"
          else if value digits + 1 ≤ rest.length then
            parseBody enableCommand (value digits) rest
          else .waits

/-- A pass over a buffer does what the parser says of the buffer's contents. -/
inductive Refines (buffer : RingBuffer UInt8) : Parsed UInt8 Message String → Pass → Prop where
  | waits {after : RingBuffer UInt8} (sound : after.Sound) (size : after.size = buffer.size)
      (contents : after.contents = buffer.contents) : Refines buffer .waits (.waits after)
  | throws (message : String) (after : RingBuffer UInt8) :
      Refines buffer (.throws message) (.throws message after)
  | frame {after : RingBuffer UInt8} {count : Nat} (payload serialized : List UInt8)
      (cmd : Option Nat) (consumed : buffer.Consumed count after) :
      Refines buffer (.frame ⟨payload, cmd⟩ (buffer.contents.drop count))
        (.delivers ⟨some payload, serialized, cmd⟩ after)

section Loops

variable {buffer after : RingBuffer UInt8} {count : Nat}

theorem first_byte (sound : buffer.Sound) : buffer.getByteByIndex 0 = buffer.contents[0]? :=
  RingBuffer.get_byte_by_index sound 0

theorem starts_with_digit (sound : buffer.Sound) :
    startsWithDigit buffer = buffer.contents[0]?.any isDigit := by
  rw [startsWithDigit, first_byte sound]
  cases contents : buffer.contents with
  | nil => simp
  | cons byte rest =>
      have present : buffer.length ≠ 0 := by
        rw [Ne, ← sound.contents_nil_iff, contents]
        exact List.cons_ne_nil byte rest
      simp [present]

theorem read_byte_cons (sound : buffer.Sound) {byte : UInt8} {rest : List UInt8}
    (contents : buffer.contents = byte :: rest) :
    ∃ after, buffer.readByte = (some byte, after) ∧ buffer.Consumed 1 after ∧ after.Sound ∧
      after.contents = rest := by
  have more : 0 < buffer.length := by
    rw [← sound.contents_length, contents]
    exact Nat.succ_pos _
  rcases RingBuffer.read_byte_consumed sound more with ⟨found, consumed⟩
  rw [contents] at found
  refine ⟨buffer.readByte.2, Prod.ext found rfl, consumed, consumed.sound sound, ?_⟩
  rw [consumed.contents sound, contents]
  rfl

theorem read_length_spec (sound : buffer.Sound) {fuel : Nat} (enough : buffer.length ≤ fuel)
    (len i : Nat) (few : i ≤ 10) :
    if 10 < i + (buffer.contents.takeWhile isDigit).length then
      ∃ after, readLength fuel buffer len i = (.error "length is more than 9 digits", after)
    else ∃ after, readLength fuel buffer len i =
        (.ok ((buffer.contents.takeWhile isDigit).foldl push len,
          i + (buffer.contents.takeWhile isDigit).length), after) ∧
      buffer.Consumed (buffer.contents.takeWhile isDigit).length after := by
  induction fuel generalizing buffer len i with
  | zero =>
      rw [sound.contents_nil_iff.mpr (Nat.le_zero.mp enough), List.takeWhile_nil,
        if_neg (by simpa using few)]
      exact ⟨buffer, rfl, sound.consumed⟩
  | succ fuel induction =>
      rw [readLength, starts_with_digit sound]
      cases contents : buffer.contents with
      | nil =>
          rw [List.takeWhile_nil, if_neg (by simpa using few)]
          exact ⟨buffer, rfl, sound.consumed⟩
      | cons byte rest =>
          cases digit : isDigit byte with
          | false =>
              rw [List.takeWhile_cons_of_neg (by simp [digit]), if_neg (by simpa using few)]
              refine ⟨buffer, ?_, sound.consumed⟩
              simp [digit]
          | true =>
              rw [List.takeWhile_cons_of_pos digit, List.getElem?_cons_zero, Option.any_some,
                if_pos digit]
              by_cases many : 9 < i
              · rw [if_pos (by simp only [List.length_cons]; omega), if_pos many]
                exact ⟨buffer, rfl⟩
              · rcases read_byte_cons sound contents with ⟨after, read, consumed, still, left⟩
                have shorter := consumed.length
                have rest_spec := induction still (by omega) (push len byte) (i + 1) (by omega)
                rw [left] at rest_spec
                rw [if_neg many, read, List.length_cons, List.foldl_cons]
                simp only [Option.getD_some]
                have total : i + ((rest.takeWhile isDigit).length + 1) =
                    i + 1 + (rest.takeWhile isDigit).length := by omega
                rw [total]
                split
                next exceeding =>
                  rw [if_pos exceeding] at rest_spec
                  exact rest_spec
                next under =>
                  rw [if_neg under] at rest_spec
                  rcases rest_spec with ⟨last, ran, later⟩
                  refine ⟨last, ran, ?_⟩
                  rw [Nat.add_comm]
                  exact consumed.trans later

theorem read_command_spec (sound : buffer.Sound) {fuel : Nat} (enough : buffer.length ≤ fuel)
    (cmd : Nat) (payloadLen : Int) :
    ∃ after, readCommand fuel buffer cmd payloadLen =
        ((buffer.contents.takeWhile isDigit).foldl pushDouble cmd,
          payloadLen - (buffer.contents.takeWhile isDigit).length, after) ∧
      buffer.Consumed (buffer.contents.takeWhile isDigit).length after := by
  induction fuel generalizing buffer cmd payloadLen with
  | zero =>
      rw [sound.contents_nil_iff.mpr (Nat.le_zero.mp enough)]
      exact ⟨buffer, by simp [readCommand], sound.consumed⟩
  | succ fuel induction =>
      rw [readCommand, starts_with_digit sound]
      cases contents : buffer.contents with
      | nil => exact ⟨buffer, by simp, sound.consumed⟩
      | cons byte rest =>
          cases digit : isDigit byte with
          | false =>
              rw [List.takeWhile_cons_of_neg (by simp [digit])]
              exact ⟨buffer, by simp [digit], sound.consumed⟩
          | true =>
              rcases read_byte_cons sound contents with ⟨after, read, consumed, still, left⟩
              have shorter := consumed.length
              rcases induction still (by omega) (pushDouble cmd byte) (payloadLen - 1) with
                ⟨last, ran, later⟩
              rw [left] at ran later
              rw [List.takeWhile_cons_of_pos digit, List.getElem?_cons_zero, Option.any_some,
                if_pos digit, read]
              refine ⟨last, ?_, ?_⟩
              · simp only [Option.getD_some, ran, List.foldl_cons, List.length_cons]
                congr 2
                push_cast
                omega
              · rw [List.length_cons, Nat.add_comm]
                exact consumed.trans later

end Loops

section Pass

variable {buffer after : RingBuffer UInt8} {count : Nat}

theorem drop_digits (bytes : List UInt8) :
    bytes.drop (bytes.takeWhile isDigit).length = bytes.dropWhile isDigit := by
  have whole := List.takeWhile_append_dropWhile (p := isDigit) (l := bytes)
  exact (congrArg (List.drop _) whole.symm).trans List.drop_left

theorem decode_payload_refines (sound : buffer.Sound) (consumed : buffer.Consumed count after)
    (startPointer : Nat) (cmd : Option Nat) (len : Nat) :
    Refines buffer (parsePayload cmd len (buffer.contents.drop count))
      (decodePayload startPointer cmd (.ofNat len) after) := by
  have still := consumed.sound sound
  have left := consumed.contents sound
  have byte : after.getByteByIndex (.ofNat len) = after.contents[len]? :=
    RingBuffer.get_byte_by_index still len
  rw [parsePayload, decodePayload.eq_def, byte, ← left]
  by_cases ends : after.contents[len]? = some comma
  · rw [if_pos ends, if_neg (not_not_intro ends)]
    have enough : len < after.length := by
      rw [← still.contents_length]
      exact (List.getElem?_eq_some_iff.mp ends).1
    rcases RingBuffer.read_consumed still (Nat.zero_lt_of_lt enough) (Nat.le_of_lt enough) with
      ⟨found, read⟩
    have remaining := read.length
    have skipped := @RingBuffer.skip_consumed _ _ 1 (read.sound still) (by omega)
    have whole := (consumed.trans read).trans skipped
    have rest : after.contents.drop (len + 1) = buffer.contents.drop (count + len + 1) := by
      rw [left, List.drop_drop]
      rfl
    dsimp only
    rw [found, rest]
    exact .frame _ _ cmd whole
  · rw [if_neg ends, if_pos ends]
    exact .throws _ after

/-- A command longer than announced: the bytes in front of the pointer are no comma. -/
theorem decode_payload_negative (sound : buffer.Sound) (consumed : buffer.Consumed count after)
    (noComma : ∀ byte ∈ buffer.contents.take count, byte ≠ comma) (startPointer : Nat)
    (cmd : Option Nat) {payloadLen : Int} (negative : payloadLen < 0)
    (within : -payloadLen ≤ count) :
    decodePayload startPointer cmd payloadLen after = .throws "miss the comma" after := by
  rcases Int.eq_ofNat_of_zero_le (Int.neg_nonneg.mpr (Int.le_of_lt negative)) with ⟨index, same⟩
  have position : payloadLen = -(index : Int) := by omega
  rw [position, decodePayload.eq_def, if_pos]
  rcases @RingBuffer.Consumed.behind _ _ _ _ sound consumed index (by omega) (by omega) with
    none | some
  · rw [none]
    exact Option.some_ne_none _ ∘ Eq.symm
  · rw [some]
    intro found
    have inside : count - index < count := by omega
    rw [← List.getElem?_take_of_lt inside] at found
    exact noComma comma (List.mem_of_getElem? found) rfl

theorem command_bytes_no_comma (bytes : List UInt8) {rest : List UInt8} :
    ∀ byte ∈ bytes.take (bytes.takeWhile isDigit).length ++ (space :: rest).take 1,
      byte ≠ comma := by
  have digits : bytes.take (bytes.takeWhile isDigit).length = bytes.takeWhile isDigit := by
    have whole := List.takeWhile_append_dropWhile (p := isDigit) (l := bytes)
    exact (congrArg (List.take _) whole.symm).trans List.take_left
  rw [digits]
  intro byte member
  rcases List.mem_append.mp member with digit | spaced
  · rintro rfl
    have isDigit_comma := List.all_eq_true.mp List.all_takeWhile comma digit
    cases isDigit_comma
  · rw [List.mem_singleton.mp spaced]
    decide

theorem decode_body_refines (sound : buffer.Sound) (consumed : buffer.Consumed count after)
    (enableCommand : Bool) (startPointer len : Nat) :
    Refines buffer (parseBody enableCommand len (buffer.contents.drop count))
      (decodeBody enableCommand startPointer len after) := by
  cases enableCommand with
  | false => exact decode_payload_refines sound consumed startPointer none len
  | true =>
      have still := consumed.sound sound
      rcases read_command_spec still (Nat.le_refl _) 0 len with ⟨between, ran, digits⟩
      have afterDigits := digits.sound still
      have left := digits.contents still
      rw [parseBody, decodeBody, if_pos rfl, if_pos rfl, ran, ← consumed.contents sound]
      dsimp only
      rw [drop_digits] at left
      cases behind : after.contents.dropWhile isDigit with
      | nil =>
          rw [behind] at left
          have empty := afterDigits.contents_nil_iff.mp left
          have read : between.readByte = (none, between) := by
            rw [RingBuffer.readByte, if_neg (by omega)]
          rw [read]
          exact .throws _ _
      | cons byte rest =>
          rw [behind] at left
          rcases read_byte_cons afterDigits left with ⟨last, read, one, lastSound, lastContents⟩
          rw [read]
          dsimp only
          by_cases spaced : byte = space
          · rw [if_neg (not_not_intro spaced), if_neg (not_not_intro (congrArg some spaced))]
            have command := digits.trans one
            by_cases short : len < (after.contents.takeWhile isDigit).length + 1
            · rw [if_pos short]
              have noComma : ∀ byte ∈ after.contents.take
                  ((after.contents.takeWhile isDigit).length + 1), byte ≠ comma := by
                rw [List.take_add, drop_digits, behind, spaced]
                exact command_bytes_no_comma after.contents
              rw [decode_payload_negative still command noComma startPointer _ (by omega) (by omega)]
              exact .throws _ last
            · rw [if_neg short]
              have whole := consumed.trans command
              have length : (len : Int) - (after.contents.takeWhile isDigit).length - 1 =
                  .ofNat (len - ((after.contents.takeWhile isDigit).length + 1)) := by
                rw [Int.ofNat_eq_natCast]
                omega
              have refined := decode_payload_refines sound whole startPointer
                (some (valueDouble (after.contents.takeWhile isDigit)))
                (len - ((after.contents.takeWhile isDigit).length + 1))
              rw [← whole.contents sound, lastContents] at refined
              rw [length]
              exact refined
          · rw [if_pos spaced, if_pos (fun same => spaced (Option.some.inj same))]
            exact .throws _ last

/-- A pass of `decode` does what the parser says of the readable bytes. -/
theorem decode_pass_refines (sound : buffer.Sound) (enableCommand : Bool) :
    Refines buffer (parse enableCommand buffer.contents) (decodePass enableCommand buffer) := by
  have length := sound.contents_length
  have second : buffer.getByteByIndex 1 = buffer.contents[1]? :=
    RingBuffer.get_byte_by_index sound 1
  rw [parse, decodePass, first_byte sound, second, length]
  split
  · exact .waits sound rfl rfl
  split
  · exact .throws _ buffer
  split
  · exact .throws _ buffer
  dsimp only
  have spec := read_length_spec sound (Nat.le_refl _) 0 0 (by decide)
  rw [Nat.zero_add] at spec
  split
  next many =>
    rw [if_pos many] at spec
    rcases spec with ⟨after, ran⟩
    rw [ran]
    exact .throws _ after
  next few =>
    rw [if_neg few] at spec
    rcases spec with ⟨after, ran, digits⟩
    have still := digits.sound sound
    have left := digits.contents sound
    rw [drop_digits] at left
    rw [ran]
    dsimp only
    cases behind : buffer.contents.dropWhile isDigit with
    | nil =>
        have empty := still.contents_nil_iff.mp (left.trans behind)
        rcases digits.back sound with ⟨returned, contents, -, size, -⟩
        rw [if_pos empty]
        exact .waits returned size contents
    | cons byte rest =>
        rw [behind] at left
        have more : after.length ≠ 0 := by
          rw [Ne, ← still.contents_nil_iff, left]
          exact List.cons_ne_nil byte rest
        rcases read_byte_cons still left with ⟨last, read, one, lastSound, lastContents⟩
        have taken := digits.trans one
        have remaining : rest.length = last.length := by
          rw [← lastContents, lastSound.contents_length]
        rw [if_neg more, read]
        dsimp only
        by_cases colons : byte = colon
        · rw [if_neg (not_not_intro colons), if_neg (not_not_intro (congrArg some colons)),
            remaining, ← value]
          by_cases arrived : value (buffer.contents.takeWhile isDigit) + 1 ≤ last.length
          · rw [if_pos arrived, if_pos arrived]
            have refined := decode_body_refines sound taken enableCommand buffer.getCurrentPointer
              (value (buffer.contents.takeWhile isDigit))
            rw [← taken.contents sound, lastContents] at refined
            exact refined
          · rw [if_neg arrived, if_neg arrived]
            rcases taken.back sound with ⟨returned, contents, -, size, -⟩
            exact .waits returned size contents
        · rw [if_pos colons, if_pos (fun same => colons (Option.some.inj same))]
          exact .throws _ last

end Pass

end WebTransportGos.Helper
