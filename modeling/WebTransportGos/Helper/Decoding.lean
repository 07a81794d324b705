import WebTransportGos.Helper.NetString
import WebTransportGos.Library.StepSystem
import Mathlib.Data.List.TakeWhile

/-!
NetString.js and the read loop of WebTransportWS.js: what a decoder delivers of the frames
that were encoded, however their bytes are cut into chunks. As long as every chunk fits in
the ring buffer behind what is still undecoded, nothing but the messages is delivered. A
chunk that does not fit is dropped, or pushes out undecoded bytes, and nothing is thrown.
-/

namespace WebTransportGos.Helper

open Decimal Framing StepSystem

set_option autoImplicit false

def Message.encode (message : Message) : List UInt8 :=
  Helper.encode message.payload (message.cmd.map Int.ofNat)

/-- With commands enabled every message has one, a safe integer, and otherwise none has. -/
structure Message.Suits (enableCommand : Bool) (message : Message) : Prop where
  enabled : message.cmd.isSome = enableCommand
  safe : ∀ cmd ∈ message.cmd, cmd ≤ 2 ^ 53 - 1

instance (enableCommand : Bool) (message : Message) :
    Decidable (message.Suits enableCommand) :=
  decidable_of_iff (message.cmd.isSome = enableCommand ∧ ∀ cmd ∈ message.cmd, cmd ≤ 2 ^ 53 - 1)
    ⟨fun both => ⟨both.1, both.2⟩, fun suits => ⟨suits.enabled, suits.safe⟩⟩

def Message.body (message : Message) : List UInt8 :=
  match message.cmd with
  | none => message.payload
  | some cmd => print cmd ++ space :: message.payload

section Frames

variable {message : Message} {enableCommand : Bool} {bytes more rest : List UInt8}

theorem encode_eq (message : Message) : message.encode =
    print message.body.length ++ colon :: (message.body ++ [comma]) := by
  rcases message with ⟨payload, cmd⟩
  cases cmd with
  | none => simp [Message.encode, encode, leadingString, Message.body]
  | some cmd =>
      have length : payload.length + (print cmd ++ [space]).length =
          (print cmd ++ space :: payload).length := by
        simp only [List.length_append, List.length_cons, List.length_nil]
        omega
      simp only [Message.encode, encode, leadingString, Message.body, Option.map_some, length]
      simp

theorem take_digits {digits : List UInt8} (all : ∀ byte ∈ digits, isDigit byte = true)
    {byte : UInt8} (other : isDigit byte = false) :
    (digits ++ byte :: rest).takeWhile isDigit = digits ∧
      (digits ++ byte :: rest).dropWhile isDigit = byte :: rest := by
  rw [List.takeWhile_append_of_pos all, List.dropWhile_append_of_pos all]
  simp [other]

theorem parse_payload_written (payload : List UInt8) (cmd : Option Nat) :
    parsePayload cmd payload.length (payload ++ comma :: rest) = .frame ⟨payload, cmd⟩ rest := by
  have ends : (payload ++ comma :: rest)[payload.length]? = some comma := by simp
  rw [parsePayload, if_pos ends, List.take_left]
  congr 1
  rw [← List.drop_drop, List.drop_left]
  rfl

theorem parse_body_written (suits : message.Suits enableCommand) :
    parseBody enableCommand message.body.length (message.body ++ comma :: rest) =
      .frame message rest := by
  rcases message with ⟨payload, cmd⟩
  rcases suits with ⟨enabled, safe⟩
  cases cmd with
  | none =>
      cases enabled
      exact parse_payload_written payload none
  | some cmd =>
      cases enabled
      have text : (print cmd ++ space :: payload) ++ comma :: rest =
          print cmd ++ space :: (payload ++ comma :: rest) := by simp
      have command := @take_digits (payload ++ comma :: rest) (print cmd) (print_digits cmd)
        space (by decide)
      have length : (print cmd ++ space :: payload).length =
          payload.length + ((print cmd).length + 1) := by
        simp only [List.length_append, List.length_cons]
        omega
      have exact : valueDouble (print cmd) = cmd := by
        have small : cmd < 2 ^ 53 := Nat.lt_of_le_pred (by decide) (safe cmd rfl)
        rw [value_double_exact (by rw [value_print]; exact small), value_print]
      simp only [Message.body]
      rw [text, length, parseBody, if_pos Option.isSome_some, command.1, command.2]
      dsimp only
      rw [if_neg (not_not_intro rfl), if_neg (by omega), exact, Nat.add_sub_cancel]
      exact parse_payload_written payload (some cmd)

theorem parse_digits {number : Nat} (inside : bytes <+: print number) :
    parse enableCommand bytes =
      if 10 < bytes.length then .throws "length is more than 9 digits" else .waits := by
  have all : ∀ byte ∈ bytes, isDigit byte = true := by
    intro byte member
    exact print_digits number byte (inside.subset member)
  have whole : bytes.takeWhile isDigit = bytes := List.takeWhile_eq_self_iff.mpr all
  have nothing : bytes.dropWhile isDigit = [] := List.dropWhile_eq_nil_iff.mpr all
  rw [parse]
  split
  next short => rw [if_neg (by omega)]
  next long =>
    rcases bytes with _ | ⟨first, _ | ⟨second, others⟩⟩
    · simp at long
    · simp at long
    · have firstDigit := all first List.mem_cons_self
      have noZero : first ≠ 0x30 := by
        rintro rfl
        rcases inside with ⟨behind, printed⟩
        exact List.cons_ne_nil _ _ (print_zero_first printed.symm)
      rw [if_neg (by simp [noZero]), if_neg (by simp [firstDigit]), whole, nothing]

theorem parse_header {number : Nat} (enough : 3 ≤ (print number ++ colon :: bytes).length) :
    parse enableCommand (print number ++ colon :: bytes) =
      if 10 < (print number).length then .throws "length is more than 9 digits"
      else if number + 1 ≤ bytes.length then parseBody enableCommand number bytes else .waits := by
  have digits := @take_digits bytes (print number) (print_digits number) colon (by decide)
  have leading : ¬((print number ++ colon :: bytes)[0]? = some 0x30 ∧
      (print number ++ colon :: bytes)[1]?.any isDigit = true) := by
    rintro ⟨zero, digit⟩
    rcases printed : print number with _ | ⟨first, others⟩
    · exact print_ne_nil number printed
    · rw [printed] at zero digit
      cases zero
      rw [print_zero_first printed] at digit
      cases digit
  have first : (print number ++ colon :: bytes)[0]?.any isDigit = true := by
    rcases printed : print number with _ | ⟨first, others⟩
    · exact absurd printed (print_ne_nil number)
    · exact print_digits number first (printed ▸ List.mem_cons_self)
  rw [parse, if_neg (by omega), if_neg leading, first, if_neg (by decide), digits.1, digits.2]
  dsimp only
  rw [if_neg (not_not_intro rfl), value_print]

/-- Whatever part of a written frame has arrived, with anything behind it: the length has too
many digits, the frame is not complete, or it is found. -/
theorem parse_written (suits : message.Suits enableCommand)
    (inside : bytes <+: message.encode ++ more) :
    (10 < (print message.body.length).length ∧
        ∀ found rest, parse enableCommand bytes ≠ .frame found rest) ∨
      (¬message.encode <+: bytes ∧ parse enableCommand bytes = .waits) ∨
      ∃ rest, bytes = message.encode ++ rest ∧ parse enableCommand bytes = .frame message rest := by
  have size : message.encode.length =
      (print message.body.length).length + (message.body.length + 2) := by
    rw [encode_eq]
    simp
  have absent (short : bytes.length < message.encode.length) : ¬message.encode <+: bytes :=
    fun whole => absurd whole.length_le (Nat.not_le.mpr short)
  have digits (partly : bytes <+: print message.body.length) :
      (10 < (print message.body.length).length ∧
          ∀ found rest, parse enableCommand bytes ≠ .frame found rest) ∨
        (¬message.encode <+: bytes ∧ parse enableCommand bytes = .waits) := by
    have short := partly.length_le
    rw [parse_digits partly]
    split
    next many => exact .inl ⟨by omega, by simp⟩
    next => exact .inr ⟨absent (by omega), rfl⟩
  rcases inside with ⟨unread, split⟩
  rw [encode_eq, List.append_assoc] at split
  rcases List.append_eq_append_iff.mp split with ⟨behind, whole, -⟩ | ⟨tail, same, header⟩
  · exact (digits ⟨behind, whole.symm⟩).imp_right .inl
  rcases tail with _ | ⟨byte, tail⟩
  · rw [List.append_nil] at same
    exact (digits (same ▸ List.prefix_rfl)).imp_right .inl
  rw [List.cons_append, List.cons_append] at header
  rcases List.cons.inj header with ⟨rfl, arrived⟩
  have length : bytes.length = (print message.body.length).length + (tail.length + 1) := by
    rw [same]
    simp
  by_cases few : bytes.length < 3
  · have printed := List.length_pos_iff.mpr (print_ne_nil message.body.length)
    have waits : parse enableCommand bytes = .waits := by rw [parse, if_pos few]
    exact .inr (.inl ⟨absent (by omega), waits⟩)
  · have parsed := @parse_header enableCommand tail message.body.length (by rw [← same]; omega)
    rw [← same] at parsed
    rw [parsed]
    split
    next many => exact .inl ⟨many, by simp⟩
    split
    next enough =>
      have bodyLength : (message.body ++ [comma]).length ≤ tail.length := by simpa using enough
      rcases List.prefix_of_prefix_length_le ⟨more, arrived⟩ (List.prefix_append tail unread)
        bodyLength with ⟨rest, body⟩
      rw [List.append_assoc, List.singleton_append] at body
      refine .inr (.inr ⟨rest, ?_, ?_⟩)
      · rw [same, encode_eq, ← body]
        simp
      · rw [← body]
        exact parse_body_written suits
    next missing => exact .inr (.inl ⟨absent (by omega), rfl⟩)

theorem parse_exact (enableCommand : Bool) :
    Exact (parse enableCommand) Message.encode (Message.Suits enableCommand) where
  empty := by simp [parse]
  exact message more bytes found rest suits inside parsed := by
    rcases parse_written suits inside with ⟨-, other⟩ | ⟨-, waits⟩ | ⟨behind, whole, frame⟩
    · exact absurd parsed (other found rest)
    · rw [waits] at parsed
      cases parsed
    · rw [frame] at parsed
      cases parsed
      exact ⟨rfl, whole⟩

def Message.Short (message : Message) : Prop := message.body.length < 10 ^ 10

instance (message : Message) : Decidable message.Short := Nat.decLt _ _

theorem encode_ne_nil (message : Message) : message.encode ≠ [] := by
  rw [encode_eq]
  exact List.append_ne_nil_of_left_ne_nil (print_ne_nil _) _

theorem parse_complete (enableCommand : Bool) :
    Complete (parse enableCommand) Message.encode
      fun message => message.Suits enableCommand ∧ message.Short where
  empty := by simp [parse]
  nonempty message _ := encode_ne_nil message
  complete message rest valid := by
    have few := (print_length message.body.length (by decide)).mpr valid.2
    rcases parse_written valid.1 (List.prefix_refl (message.encode ++ rest)) with
      ⟨many, -⟩ | ⟨absent, -⟩ | ⟨behind, whole, frame⟩
    · omega
    · exact absurd (List.prefix_append _ _) absent
    · rw [frame, List.append_cancel_left whole]
  patient message bytes valid inside proper := by
    have few := (print_length message.body.length (by decide)).mpr valid.2
    rcases @parse_written message enableCommand bytes [] valid.1 (by rwa [List.append_nil]) with
      ⟨many, -⟩ | ⟨-, waits⟩ | ⟨behind, whole, -⟩
    · omega
    · exact waits
    · have longer := inside.length_le
      rw [whole, List.length_append] at longer
      have nothing : behind = [] := List.length_eq_zero_iff.mp (by omega)
      rw [nothing, List.append_nil] at whole
      exact absurd whole proper

end Frames

def Decoded.carried (decoded : Decoded) : Option (List UInt8) × Option Nat :=
  (decoded.payload, decoded.cmd)

def Message.carried (message : Message) : Option (List UInt8) × Option Nat :=
  (some message.payload, message.cmd)

/-- A decoding over a buffer of this size has come to the same as a parser's over a list. -/
structure Matches (size : Nat) (decoding : Decoding)
    (drained : List Message × Except String (List UInt8)) : Prop where
  delivered : decoding.delivered.map Decoded.carried = drained.1.map Message.carried
  thrown : ∀ message, drained.2 = .error message → decoding.thrown = some message
  kept : ∀ bytes, drained.2 = .ok bytes → decoding.thrown = none ∧ decoding.ringBuffer.Sound ∧
    decoding.ringBuffer.size = size ∧ decoding.ringBuffer.contents = bytes

theorem decode_all_matches {buffer : RingBuffer UInt8} (sound : buffer.Sound)
    (enableCommand : Bool) (fuel : Nat) :
    Matches buffer.size (decodeAll enableCommand fuel buffer)
      (drain (parse enableCommand) fuel buffer.contents) := by
  induction fuel generalizing buffer with
  | zero =>
      refine ⟨rfl, by simp [drain], ?_⟩
      rintro bytes ⟨⟩
      exact ⟨rfl, sound, rfl, rfl⟩
  | succ fuel induction =>
      have refined := decode_pass_refines sound enableCommand
      rw [decodeAll, drain]
      generalize parse enableCommand buffer.contents = parsed at *
      generalize decodePass enableCommand buffer = pass at *
      cases refined with
      | waits still size contents =>
          refine ⟨rfl, by simp, ?_⟩
          rintro bytes ⟨⟩
          exact ⟨rfl, still, size, contents⟩
      | throws message after =>
          refine ⟨rfl, ?_, by simp⟩
          rintro other ⟨⟩
          rfl
      | frame payload serialized cmd consumed =>
          have later := induction (consumed.sound sound)
          rw [consumed.contents sound, consumed.size] at later
          refine ⟨?_, later.thrown, later.kept⟩
          dsimp only
          rw [List.map_cons, List.map_cons, later.delivered]
          rfl

/-- The read loop of a stream: its decoder, what that has delivered, and what it has thrown. -/
structure Receiver where
  netString : NetString
  delivered : List Decoded
  thrown : Option String
  deriving DecidableEq, Repr

def newReceiver (options : NetStringOptions) : Receiver := ⟨newNetString options, [], none⟩

/-- One chunk. The loop ends with the first error. -/
def receive (receiver : Receiver) (chunk : List UInt8) : Option Receiver :=
  if receiver.thrown.isSome then none
  else
    let decoding := receiver.netString.decode chunk
    some ⟨{ receiver.netString with ringBuffer := decoding.ringBuffer },
      receiver.delivered ++ decoding.delivered, decoding.thrown⟩

def Fits (receiver : Receiver) (chunk : List UInt8) (_ : Receiver) : Prop :=
  receiver.netString.ringBuffer.length + chunk.length ≤ receiver.netString.options.bufferSize

instance (receiver next : Receiver) (chunk : List UInt8) : Decidable (Fits receiver chunk next) :=
  Nat.decLe _ _

structure Intact (receiver : Receiver) : Prop where
  sound : receiver.netString.ringBuffer.Sound
  size : receiver.netString.ringBuffer.size = receiver.netString.options.bufferSize

section Receiving

variable {receiver next : Receiver} {chunk : List UInt8} {chunks : List (List UInt8)}
  {messages : List Message} {unread : List UInt8} {options : NetStringOptions}

theorem receive_some (taken : receive receiver chunk = some next) :
    receiver.thrown = none ∧
      next = ⟨{ receiver.netString with
          ringBuffer := (receiver.netString.decode chunk).ringBuffer },
        receiver.delivered ++ (receiver.netString.decode chunk).delivered,
        (receiver.netString.decode chunk).thrown⟩ := by
  unfold receive at taken
  split at taken
  · cases taken
  next reading =>
    rw [Bool.not_eq_true, Option.isSome_eq_false_iff, Option.isNone_iff_eq_none] at reading
    exact ⟨reading, (Option.some.inj taken).symm⟩

theorem decode_matches (intact : Intact receiver) (fits : Fits receiver chunk next) :
    ∃ fuel, (receiver.netString.ringBuffer.contents ++ chunk).length < fuel ∧
      Matches receiver.netString.options.bufferSize (receiver.netString.decode chunk)
        (drain (parse receiver.netString.options.enableCommand) fuel
          (receiver.netString.ringBuffer.contents ++ chunk)) := by
  have sound := intact.sound
  have room : receiver.netString.ringBuffer.length + chunk.length ≤
      receiver.netString.ringBuffer.size := by
    rw [intact.size]
    exact fits
  have written := RingBuffer.write_fitting sound room
  have still : (receiver.netString.ringBuffer.write chunk).Sound := RingBuffer.write_sound sound
  have matched := decode_all_matches still receiver.netString.options.enableCommand
    ((receiver.netString.ringBuffer.write chunk).length + 1)
  rw [written, RingBuffer.write_size, intact.size] at matched
  refine ⟨_, ?_, matched⟩
  rw [← written, still.contents_length]
  exact Nat.lt_succ_self _

/-- The messages delivered are the first of those sent, and the bytes undecoded and unread are
the frames of the others. -/
structure Midway (messages : List Message) (unread : List UInt8) (receiver : Receiver) : Prop where
  intact : receiver.thrown = none → Intact receiver
  split : ∃ left : List Message, receiver.delivered.map Decoded.carried ++ left.map Message.carried =
      messages.map Message.carried ∧
    (∀ message ∈ left, message.Suits receiver.netString.options.enableCommand) ∧
    (receiver.thrown = none →
      receiver.netString.ringBuffer.contents ++ unread = left.flatMap Message.encode)

theorem new_midway (suits : ∀ message ∈ messages, message.Suits options.enableCommand)
    (cut : unread = messages.flatMap Message.encode) :
    Midway messages unread (newReceiver options) where
  intact _ := ⟨RingBuffer.new_sound _ _, rfl⟩
  split := ⟨messages, rfl, suits, fun _ => cut⟩

theorem receive_midway (midway : Midway messages (chunk ++ unread) receiver)
    (fits : Fits receiver chunk next) (taken : receive receiver chunk = some next) :
    Midway messages unread next := by
  rcases receive_some taken with ⟨reading, rfl⟩
  have intact := midway.intact reading
  rcases midway.split with ⟨left, all, suits, split⟩
  rcases decode_matches intact fits with ⟨fuel, -, matched⟩
  have stream := split reading
  rw [← List.append_assoc] at stream
  rcases drain_exact (parse_exact receiver.netString.options.enableCommand) suits stream fuel with
    ⟨remaining, found, kept⟩
  constructor
  · intro unthrown
    dsimp only at unthrown
    cases ended : (drain (parse receiver.netString.options.enableCommand) fuel
        (receiver.netString.ringBuffer.contents ++ chunk)).2 with
    | error message => simp [matched.thrown message ended] at unthrown
    | ok bytes =>
        rcases matched.kept bytes ended with ⟨-, sound, size, -⟩
        exact ⟨sound, size⟩
  · refine ⟨remaining, ?_, ?_, ?_⟩
    · rw [← all, found, List.map_append, matched.delivered, List.map_append, List.append_assoc]
    · intro message member
      apply suits message
      rw [found]
      exact List.mem_append_right _ member
    · intro unthrown
      dsimp only at unthrown ⊢
      cases ended : (drain (parse receiver.netString.options.enableCommand) fuel
          (receiver.netString.ringBuffer.contents ++ chunk)).2 with
      | error message => simp [matched.thrown message ended] at unthrown
      | ok bytes =>
          rw [(matched.kept bytes ended).2.2.2]
          exact kept bytes ended

/-- Nothing but the messages, in their order, is delivered before the first error. -/
theorem decoder_delivers_prefix (suits : ∀ message ∈ messages, message.Suits options.enableCommand)
    (cut : chunks.flatten = messages.flatMap Message.encode)
    (fits : Steps receive Fits (newReceiver options) chunks) :
    Steps receive (fun _ _ next =>
        next.delivered.map Decoded.carried <+: messages.map Message.carried)
      (newReceiver options) chunks := by
  have midway := new_midway suits cut
  generalize newReceiver options = receiver at *
  clear cut
  induction chunks generalizing receiver with
  | nil => exact trivial
  | cons chunk chunks induction =>
      intro next taken
      rcases fits next taken with ⟨fit, later⟩
      have after := receive_midway midway fit taken
      refine ⟨?_, induction next later after⟩
      rcases after.split with ⟨left, all, -⟩
      exact ⟨_, all⟩

/-- One message, cut behind its colon, in a buffer of its size. -/
theorem cut_message_prefix : Steps receive (fun _ _ next =>
    next.delivered.map Decoded.carried <+: [(some [8], none)])
    (newReceiver ⟨4, false, 0⟩) [[0x31, 0x3a], [8, 0x2c]] :=
  @ decoder_delivers_prefix [[0x31, 0x3a], [8, 0x2c]] [⟨[8], none⟩] ⟨4, false, 0⟩ (by decide)
    (by decide +kernel)
    (steps_cons rfl (by decide +kernel) (steps_cons rfl (by decide +kernel) trivial))

theorem receive_reading (reading : receiver.thrown = none) :
    ∃ next, receive receiver chunk = some next := by
  rw [receive, reading]
  exact ⟨_, rfl⟩

structure Whole (messages : List Message) (unread : List UInt8) (receiver : Receiver) : Prop where
  reading : receiver.thrown = none
  intact : Intact receiver
  split : ∃ left : List Message, receiver.delivered.map Decoded.carried ++
      left.map Message.carried = messages.map Message.carried ∧
    (∀ message ∈ left,
      message.Suits receiver.netString.options.enableCommand ∧ message.Short) ∧
    receiver.netString.ringBuffer.contents ++ unread = left.flatMap Message.encode ∧
    (unread = [] → left = [])

theorem new_whole
    (valid : ∀ message ∈ messages, message.Suits options.enableCommand ∧ message.Short)
    (cut : unread = messages.flatMap Message.encode) :
    Whole messages unread (newReceiver options) where
  reading := rfl
  intact := ⟨RingBuffer.new_sound _ _, rfl⟩
  split := by
    refine ⟨messages, rfl, valid, cut, ?_⟩
    intro nothing
    rw [nothing] at cut
    cases messages with
    | nil => rfl
    | cons message messages =>
        rw [List.flatMap_cons] at cut
        exact absurd (List.append_eq_nil_iff.mp cut.symm).1 (encode_ne_nil message)

theorem receive_whole (whole : Whole messages (chunk ++ unread) receiver)
    (fits : Fits receiver chunk next) (taken : receive receiver chunk = some next) :
    Whole messages unread next := by
  rcases receive_some taken with ⟨-, rfl⟩
  rcases whole.split with ⟨left, all, valid, stream, -⟩
  rcases decode_matches whole.intact fits with ⟨fuel, enough, matched⟩
  rw [← List.append_assoc] at stream
  rcases drain_complete (parse_complete receiver.netString.options.enableCommand) valid stream
    enough with ⟨remaining, kept, found, ended, behind, done⟩
  rcases matched.kept kept ended with ⟨unthrown, sound, size, contents⟩
  refine ⟨unthrown, ⟨sound, size⟩, remaining, ?_, ?_, ?_, done⟩
  · rw [← all, found, List.map_append, matched.delivered, List.map_append, List.append_assoc]
  · intro message member
    apply valid message
    rw [found]
    exact List.mem_append_right _ member
  · rw [contents]
    exact behind

theorem run_whole {receiver : Receiver} (whole : Whole messages (chunks.flatten ++ unread) receiver)
    (fits : Steps receive Fits receiver chunks) :
    ∃ final, run receive receiver chunks = some final ∧ Whole messages unread final := by
  induction chunks generalizing receiver with
  | nil => exact ⟨receiver, rfl, whole⟩
  | cons chunk chunks induction =>
      rw [List.flatten_cons, List.append_assoc] at whole
      rcases @receive_reading receiver chunk whole.reading with ⟨next, taken⟩
      rcases fits next taken with ⟨fit, later⟩
      rcases induction (receive_whole whole fit taken) later with ⟨final, ran, ends⟩
      refine ⟨final, ?_, ends⟩
      rw [run_cons, taken]
      exact ran

/-- Every message is delivered once, in order and without an error, however its bytes are cut. -/
theorem decoder_delivers_all
    (valid : ∀ message ∈ messages, message.Suits options.enableCommand ∧ message.Short)
    (cut : chunks.flatten = messages.flatMap Message.encode)
    (fits : Steps receive Fits (newReceiver options) chunks) :
    ∃ final, run receive (newReceiver options) chunks = some final ∧ final.thrown = none ∧
      final.delivered.map Decoded.carried = messages.map Message.carried := by
  have whole : Whole messages (chunks.flatten ++ []) (newReceiver options) := by
    rw [List.append_nil]
    exact new_whole valid cut
  rcases run_whole whole fits with ⟨final, ran, ends⟩
  rcases ends.split with ⟨left, all, -, -, done⟩
  rw [done rfl, List.map_nil, List.append_nil] at all
  exact ⟨final, ran, ends.reading, all⟩

end Receiving

/-- Two messages with commands, cut inside the digits and in front of a space, with an empty
chunk in between. The second goes round the ring. -/
theorem cut_commands_delivered : ∃ final,
    run receive (newReceiver ⟨9, true, 0⟩) [[0x35], [0x3a, 0x32, 0x30], [],
      [0x20, 0xff, 0x2c, 0x2c, 0x32], [0x3a, 0x37, 0x20, 0x2c]] = some final ∧
      final.thrown = none ∧
      final.delivered.map Decoded.carried = [(some [0xff, 0x2c], some 20), (some [], some 7)] :=
  @decoder_delivers_all _ [⟨[0xff, 0x2c], some 20⟩, ⟨[], some 7⟩] ⟨9, true, 0⟩ (by decide)
    (by decide +kernel) (steps_cons rfl (by decide +kernel) (steps_cons rfl (by decide +kernel)
      (steps_cons rfl (by decide +kernel) (steps_cons rfl (by decide +kernel)
        (steps_cons rfl (by decide +kernel) trivial)))))

def readBody (enableCommand : Bool) (body : List UInt8) : Option Message :=
  if enableCommand then
    match body.dropWhile isDigit with
    | [] => none
    | byte :: rest =>
        if byte = space then some ⟨rest, some (valueDouble (body.takeWhile isDigit))⟩ else none
  else some ⟨body, none⟩

theorem parse_body_alone (enableCommand : Bool) (body : List UInt8) :
    parseBody enableCommand body.length (body ++ [comma]) =
      (readBody enableCommand body).elim (.throws "miss the space") fun found =>
        .frame found [] := by
  cases enableCommand with
  | false => exact parse_payload_written body none
  | true =>
      have split := List.takeWhile_append_dropWhile (p := isDigit) (l := body)
      have digits : ∀ byte ∈ body.takeWhile isDigit, isDigit byte = true :=
        fun byte member => List.mem_takeWhile_imp member
      rcases tail : body.dropWhile isDigit with _ | ⟨byte, rest⟩
      · have all : body.takeWhile isDigit = body := by simpa [tail] using split
        rw [all] at digits
        have taken := @take_digits [] body digits comma (by decide)
        rw [parseBody, if_pos rfl, taken.1, taken.2, readBody, if_pos rfl, tail]
        rfl
      · have other : isDigit byte = false := by
          have first := List.head_dropWhile_not isDigit (l := body) (by simp [tail])
          simpa [tail] using first
        have whole : body ++ [comma] = body.takeWhile isDigit ++ byte :: (rest ++ [comma]) := by
          nth_rewrite 1 [← split]
          rw [tail, List.append_assoc, List.cons_append]
        have length : body.length = rest.length + ((body.takeWhile isDigit).length + 1) := by
          have sum := congrArg List.length split
          rw [tail, List.length_append, List.length_cons] at sum
          omega
        have taken := @take_digits (rest ++ [comma]) _ digits byte other
        rw [← whole] at taken
        rw [parseBody, if_pos rfl, taken.1, taken.2, readBody, if_pos rfl, tail]
        dsimp only
        by_cases spaced : byte = space
        · rw [if_neg (not_not_intro spaced), if_neg (by omega), if_pos spaced, length,
            Nat.add_sub_cancel]
          exact parse_payload_written rest _
        · rw [if_pos spaced, if_neg spaced]
          rfl

theorem parse_alone (enableCommand : Bool) (message : Message) :
    parse enableCommand message.encode =
      if message.Short then
        (readBody enableCommand message.body).elim (.throws "miss the space") fun found =>
          .frame found []
      else .throws "length is more than 9 digits" := by
  have digits := List.length_pos_iff.mpr (print_ne_nil message.body.length)
  have few := @print_length message.body.length 10 (by decide)
  rw [encode_eq, parse_header]
  · by_cases short : message.Short
    · have enough : message.body.length + 1 ≤ (message.body ++ [comma]).length := by simp
      rw [if_neg (Nat.not_lt.mpr (few.mpr short)), if_pos enough, if_pos short]
      exact parse_body_alone enableCommand message.body
    · rw [if_pos (Nat.lt_of_not_le fun le => short (few.mp le)), if_neg short]
  · simp only [List.length_append, List.length_cons, List.length_nil]
    omega

structure Between (netString : NetString) : Prop where
  sound : netString.ringBuffer.Sound
  size : netString.ringBuffer.size = netString.options.bufferSize
  contents : netString.ringBuffer.contents = []

theorem new_between (options : NetStringOptions) : Between (newNetString options) :=
  ⟨RingBuffer.new_sound _ _, rfl, rfl⟩

def NetString.behind (netString : NetString) (chunk : List UInt8) : NetString :=
  { netString with ringBuffer := (netString.decode chunk).ringBuffer }

section Alone

variable {netString : NetString} {message : Message} {chunk : List UInt8}

/-- A frame that does not fit into the buffer is not written to it. -/
theorem decode_too_long (between : Between netString)
    (long : netString.options.bufferSize < chunk.length) :
    (netString.decode chunk).delivered = [] ∧ (netString.decode chunk).thrown = none ∧
      Between (netString.behind chunk) := by
  have room : netString.ringBuffer.size < chunk.length := by
    rwa [between.size]
  have unread := between.sound.contents_nil_iff.mp between.contents
  have waits : netString.decode chunk = ⟨[], none, netString.ringBuffer⟩ := by
    rw [NetString.decode, RingBuffer.write_long room, decodeAll, decodePass, if_pos (by omega)]
  rw [NetString.behind, waits]
  exact ⟨rfl, rfl, between⟩

theorem decode_drains (between : Between netString)
    (fits : chunk.length ≤ netString.options.bufferSize) :
    ∃ fuel, chunk.length < fuel ∧
      Matches netString.options.bufferSize (netString.decode chunk)
        (drain (parse netString.options.enableCommand) fuel chunk) := by
  have unread := between.sound.contents_nil_iff.mp between.contents
  have enough : Fits ⟨netString, [], none⟩ chunk ⟨netString, [], none⟩ := by
    rw [Fits, unread, Nat.zero_add]
    exact fits
  have matched := @decode_matches ⟨netString, [], none⟩ _ _ ⟨between.sound, between.size⟩ enough
  rwa [between.contents, List.nil_append] at matched

theorem decode_refused (between : Between netString)
    (fits : message.encode.length ≤ netString.options.bufferSize)
    (refused : ¬message.Short ∨ readBody netString.options.enableCommand message.body = none) :
    (netString.decode message.encode).delivered = [] ∧
      (netString.decode message.encode).thrown =
        some (if message.Short then "miss the space" else "length is more than 9 digits") := by
  have parsed : parse netString.options.enableCommand message.encode =
      .throws (if message.Short then "miss the space" else "length is more than 9 digits") := by
    rw [parse_alone]
    by_cases short : message.Short
    · rw [if_pos short, if_pos short, refused.resolve_left (not_not_intro short)]
      rfl
    · rw [if_neg short, if_neg short]
  rcases decode_drains between fits with ⟨_ | fuel, enough, matched⟩
  · omega
  · rw [drain, parsed] at matched
    exact ⟨List.map_eq_nil_iff.mp matched.delivered, matched.thrown _ rfl⟩

theorem decode_found {found : Message} (between : Between netString)
    (fits : message.encode.length ≤ netString.options.bufferSize) (short : message.Short)
    (read : readBody netString.options.enableCommand message.body = some found) :
    (netString.decode message.encode).delivered.map Decoded.carried = [found.carried] ∧
      (netString.decode message.encode).thrown = none ∧
      Between (netString.behind message.encode) := by
  have parsed : parse netString.options.enableCommand message.encode = .frame found [] := by
    rw [parse_alone, if_pos short, read]
    rfl
  have nonempty := List.length_pos_iff.mpr (encode_ne_nil message)
  rcases decode_drains between fits with ⟨_ | _ | fuel, enough, matched⟩
  · omega
  · omega
  · have nothing : drain (parse netString.options.enableCommand) (fuel + 1) [] = ([], .ok []) := by
      rw [drain, (parse_complete _).empty]
    rw [drain, parsed] at matched
    simp only [nothing] at matched
    rcases matched.kept [] rfl with ⟨unthrown, sound, size, contents⟩
    exact ⟨matched.delivered, unthrown, sound, size, contents⟩

theorem read_body_written {enableCommand : Bool} (suits : message.Suits enableCommand) :
    readBody enableCommand message.body = some message := by
  have found := parse_body_alone enableCommand message.body
  rw [parse_body_written suits] at found
  cases read : readBody enableCommand message.body with
  | none =>
      rw [read] at found
      cases found
  | some other =>
      rw [read] at found
      injection found with same
      rw [same]

end Alone

theorem long_length_throws {message : Message} (long : ¬message.Short) {options : NetStringOptions}
    (room : message.encode.length ≤ options.bufferSize) :
    ((newNetString options).decode message.encode).delivered = [] ∧
      ((newNetString options).decode message.encode).thrown =
        some "length is more than 9 digits" := by
  have refused := decode_refused (new_between options) room (.inl long)
  rwa [if_neg long] at refused

theorem long_message_not_delivered : ¬∀ (options : NetStringOptions) (messages : List Message)
    (chunks : List (List UInt8)),
    (∀ message ∈ messages, message.Suits options.enableCommand) →
    chunks.flatten = messages.flatMap Message.encode →
    Steps receive Fits (newReceiver options) chunks →
    ∃ final, run receive (newReceiver options) chunks = some final ∧ final.thrown = none ∧
      final.delivered.map Decoded.carried = messages.map Message.carried := by
  intro delivers
  have huge : ∃ payload : List UInt8, payload.length = 10 ^ 10 :=
    ⟨List.replicate (10 ^ 10) 0, List.length_replicate⟩
  rcases huge with ⟨payload, length⟩
  let message : Message := ⟨payload, none⟩
  have long : ¬message.Short := Nat.not_lt.mpr (Nat.le_of_eq length.symm)
  have suits : message.Suits false := ⟨rfl, by simp [message]⟩
  rcases @receive_reading (newReceiver ⟨message.encode.length, false, 0⟩) message.encode rfl with
    ⟨next, taken⟩
  have fits : Fits (newReceiver ⟨message.encode.length, false, 0⟩) message.encode next :=
    Nat.le_of_eq (Nat.zero_add _)
  rcases delivers ⟨message.encode.length, false, 0⟩ [message] [message.encode]
    (by simpa using suits) (by simp) (steps_cons taken fits trivial) with
    ⟨final, ran, unthrown, -⟩
  rw [run_cons, taken] at ran
  cases ran
  rcases receive_some taken with ⟨-, rfl⟩
  cases (long_length_throws long (Nat.le_refl _)).2.symm.trans unthrown

/-- The first frame is longer than the buffer and dropped; the second is delivered. -/
theorem long_chunk_dropped : ¬∀ (options : NetStringOptions) (messages : List Message)
    (chunks : List (List UInt8)),
    (∀ message ∈ messages, message.Suits options.enableCommand) →
    chunks.flatten = messages.flatMap Message.encode →
    Steps receive (fun _ _ next =>
        next.delivered.map Decoded.carried <+: messages.map Message.carried)
      (newReceiver options) chunks := by
  intro delivers
  let first : Message := ⟨[1, 2, 3, 4, 5, 6, 7], none⟩
  let second : Message := ⟨[8], none⟩
  have steps := delivers ⟨8, false, 0⟩ [first, second] [first.encode, second.encode]
    (by decide) (by decide +kernel)
  have last := ((steps _ rfl).2 _ rfl).1
  exact absurd last (by decide +kernel)

end WebTransportGos.Helper
