import WebTransportGos.Helper.Delivery
import Mathlib.Data.Finset.Max

/-!
Binary data from one WebTransportWS to another. The sender has one command for all of it. The
receiver reads commands only where they are enabled, and with several streams it takes a
command that it has seen for another copy of the same message.
-/

namespace WebTransportGos.Helper

open Decimal SeenWindow

set_option autoImplicit false

variable {Text : Type*} {options : WebTransportWSOptions} {payloads : List (List UInt8)}
  {payload : List UInt8} {socket : WebTransportWS Text}

def sendBinaries (payloads : List (List UInt8)) (socket : WebTransportWS Text) :
    WebTransportWS Text :=
  payloads.foldl (fun socket payload => socket.sendBinary payload) socket

def binaryMessage (options : WebTransportWSOptions) (payload : List UInt8) : Message :=
  ⟨payload, if 0 ≤ options.binaryCommand then some options.binaryCommand.toNat else none⟩

theorem binary_message_encode (options : WebTransportWSOptions) (payload : List UInt8) :
    (binaryMessage options payload).encode = encode payload (some options.binaryCommand) := by
  rw [binaryMessage]
  cases options.binaryCommand with
  | ofNat command =>
      rw [if_pos (show 0 ≤ Int.ofNat command from Int.natCast_nonneg command)]
      rfl
  | negSucc command =>
      rw [if_neg (Int.not_le.mpr (Int.negSucc_lt_zero command))]
      rfl

theorem send_binaries_written (mode : socket.options.mode = .text)
    (payloads : List (List UInt8)) :
    (sendBinaries payloads socket).written = socket.written ++
      payloads.flatMap fun payload => (List.range socket.options.streamCount).map fun stream =>
        (stream, (binaryMessage socket.options payload).encode) := by
  induction payloads generalizing socket with
  | nil => exact (List.append_nil _).symm
  | cons payload payloads induction =>
      rw [sendBinaries, List.foldl_cons]
      apply (@induction (socket.sendBinary payload) mode).trans
      rw [List.flatMap_cons, ← List.append_assoc, binary_message_encode socket.options payload]
      simp only [WebTransportWS.sendBinary, if_pos mode]

def BinaryFits (options : WebTransportWSOptions) (payload : List UInt8) : Prop :=
  (binaryMessage options payload).encode.length ≤ options.bufferSize ∧
    (binaryMessage options payload).Short

instance (options : WebTransportWSOptions) (payload : List UInt8) :
    Decidable (BinaryFits options payload) := inferInstanceAs (Decidable (_ ∧ _))

/-- What a receiver makes of the frame of a payload, if it does not drop or refuse it. -/
def readBinary (options : WebTransportWSOptions) (payload : List UInt8) : Option Message :=
  if BinaryFits options payload then
    readBody options.enableCommand (binaryMessage options payload).body
  else none

def eventOf (options : WebTransportWSOptions) (textDecoder : Option (List UInt8 → Text))
    (found : Message) : MessageEvent Text :=
  match textDecoder with
  | none => ⟨.bytes found.payload, true⟩
  | some decode =>
      if found.cmd.map Int.ofNat = some options.binaryCommand then ⟨.bytes found.payload, true⟩
      else ⟨.text (decode found.payload), false⟩

def NoPing (options : WebTransportWSOptions) (cmd : Option Nat) : Prop :=
  options.enablePing = true → ∀ number ∈ cmd,
    (number : Int) ≠ options.pingCommand ∧ (number : Int) ≠ options.serverPingCommand

/-- A receiver in mode `text`; the streams that have not ended are between two frames. -/
structure Hearing (options : WebTransportWSOptions) (textDecoder : Option (List UInt8 → Text))
    (socket : WebTransportWS Text) : Prop where
  configured : socket.options = options
  mode : options.mode = .text
  onmessage : socket.onmessage = true
  textDecoder : socket.textDecoder = textDecoder
  commands : ∀ stream, (socket.netStrings stream).options.enableCommand = options.enableCommand
  capacity : ∀ stream, (socket.netStrings stream).options.bufferSize = options.bufferSize
  between : ∀ stream, socket.ended stream = false → Between (socket.netStrings stream)

section Receiver

variable {textDecoder : Option (List UInt8 → Text)} {next : WebTransportWS Text}
  {found : Message} {serialized : List UInt8} {clock : Nat → Int} {stream : Nat}

theorem new_hearing (mode : options.mode = .text) :
    Hearing options.adjusted textDecoder (newWebTransportWS options textDecoder true) where
  configured := rfl
  mode := mode
  onmessage := rfl
  textDecoder := rfl
  commands _ := rfl
  capacity _ := rfl
  between _ _ := new_between _

theorem deliver_event (onmessage : socket.onmessage = true) :
    socket.deliver ⟨some found.payload, serialized, found.cmd⟩ = { socket with
      messages := socket.messages ++ [eventOf socket.options socket.textDecoder found] } := by
  rw [WebTransportWS.deliver, if_pos onmessage]
  unfold eventOf
  cases socket.textDecoder with
  | none => rfl
  | some decode => rfl

structure Undisturbed (socket next : WebTransportWS Text) : Prop where
  options : next.options = socket.options
  onmessage : next.onmessage = socket.onmessage
  textDecoder : next.textDecoder = socket.textDecoder
  netStrings : next.netStrings = socket.netStrings
  ended : next.ended = socket.ended

theorem Undisturbed.refl (socket : WebTransportWS Text) : Undisturbed socket socket :=
  ⟨rfl, rfl, rfl, rfl, rfl⟩

theorem Hearing.undisturbed (hearing : Hearing options textDecoder socket)
    (undisturbed : Undisturbed socket next) : Hearing options textDecoder next where
  configured := undisturbed.options.trans hearing.configured
  mode := hearing.mode
  onmessage := undisturbed.onmessage.trans hearing.onmessage
  textDecoder := undisturbed.textDecoder.trans hearing.textDecoder
  commands := by
    rw [undisturbed.netStrings]
    exact hearing.commands
  capacity := by
    rw [undisturbed.netStrings]
    exact hearing.capacity
  between := by
    rw [undisturbed.netStrings, undisturbed.ended]
    exact hearing.between

theorem on_decode_called (onmessage : socket.onmessage = true)
    (called : socket.onDecodeMessage clock stream ⟨some found.payload, serialized, found.cmd⟩ =
      .ok next) :
    Undisturbed socket next ∧ (next.messages = socket.messages ∨ NoPing socket.options found.cmd ∧
      next.messages = socket.messages ++ [eventOf socket.options socket.textDecoder found]) := by
  have delivered := @deliver_event Text socket found serialized onmessage
  cases command : found.cmd with
  | none =>
      rw [command] at called delivered
      rw [WebTransportWS.onDecodeMessage, delivered] at called
      cases called
      exact ⟨⟨rfl, rfl, rfl, rfl, rfl⟩,
        .inr ⟨fun _ number member => absurd member (Option.not_mem_none number), rfl⟩⟩
  | some cmd =>
      rw [command] at called delivered
      simp only [WebTransportWS.onDecodeMessage, delivered] at called
      split at called
      · split at called
        · cases called
          exact ⟨Undisturbed.refl _, .inl rfl⟩
        · cases called
      next noPing =>
        split at called
        · cases called
          exact ⟨⟨rfl, rfl, rfl, rfl, rfl⟩, .inl rfl⟩
        next noServerPing =>
          have ordinary : NoPing socket.options (some cmd) := by
            intro pings number member
            cases member
            exact ⟨fun same => noPing ⟨same, pings⟩, fun same => noServerPing ⟨same, pings⟩⟩
          split at called
          · split at called
            · split at called
              · cases called
                exact ⟨Undisturbed.refl _, .inl rfl⟩
              · cases called
                exact ⟨⟨rfl, rfl, rfl, rfl, rfl⟩, .inr ⟨ordinary, rfl⟩⟩
            · cases called
              exact ⟨⟨rfl, rfl, rfl, rfl, rfl⟩, .inr ⟨ordinary, rfl⟩⟩
          · cases called
            exact ⟨Undisturbed.refl _, .inl rfl⟩

theorem on_decode_binary (onmessage : socket.onmessage = true) {cmd : Nat}
    (binary : (cmd : Int) = socket.options.binaryCommand)
    (noPing : NoPing socket.options (some cmd)) :
    socket.onDecodeMessage clock stream ⟨some payload, serialized, some cmd⟩ = .ok
      (if 1 < socket.options.streamCount then
        if socket.commands.seen cmd then socket
        else { socket with
          messages := socket.messages ++ [⟨.bytes payload, true⟩]
          commands := admitKey socket.options.commandTimeout clock socket.commands cmd }
      else { socket with messages := socket.messages ++ [⟨.bytes payload, true⟩] }) := by
  have event : eventOf socket.options socket.textDecoder ⟨payload, some cmd⟩ =
      ⟨.bytes payload, true⟩ := by
    unfold eventOf
    cases socket.textDecoder with
    | none => rfl
    | some decode => exact if_pos (congrArg some binary)
  have delivered := @deliver_event Text socket ⟨payload, some cmd⟩ serialized onmessage
  rw [event] at delivered
  have noPing₁ : ¬((cmd : Int) = socket.options.pingCommand ∧ socket.options.enablePing = true) :=
    fun ping => (noPing ping.2 cmd rfl).1 ping.1
  have noPing₂ :
      ¬((cmd : Int) = socket.options.serverPingCommand ∧ socket.options.enablePing = true) :=
    fun ping => (noPing ping.2 cmd rfl).2 ping.1
  have known : WebTransportWS.isMessageCommand socket.options cmd = true := by
    simp [WebTransportWS.isMessageCommand, binary]
  simp only [WebTransportWS.onDecodeMessage, if_neg noPing₁, if_neg noPing₂, if_pos known, delivered]
  split
  · split
    · rfl
    · rfl
  · rfl

theorem decode_binary_none (hearing : Hearing options textDecoder socket)
    (going : socket.ended stream = false) (nothing : readBinary options payload = none) :
    let frame := (binaryMessage options payload).encode
    ((socket.netStrings stream).decode frame).delivered = [] ∧
      (((socket.netStrings stream).decode frame).thrown = none →
        Between ((socket.netStrings stream).behind frame)) := by
  intro frame
  have between := hearing.between stream going
  have capacity := hearing.capacity stream
  by_cases fits : frame.length ≤ options.bufferSize
  · have refused : ¬(binaryMessage options payload).Short ∨
        readBody (socket.netStrings stream).options.enableCommand
          (binaryMessage options payload).body = none := by
      rw [hearing.commands stream]
      rw [readBinary] at nothing
      by_cases short : (binaryMessage options payload).Short
      · exact .inr (by rwa [if_pos ⟨fits, short⟩] at nothing)
      · exact .inl short
    rw [← capacity] at fits
    rcases decode_refused between fits refused with ⟨delivered, thrown⟩
    exact ⟨delivered, fun unthrown => by cases thrown.symm.trans unthrown⟩
  · rw [← capacity] at fits
    rcases decode_too_long between (Nat.lt_of_not_le fits) with ⟨delivered, -, after⟩
    exact ⟨delivered, fun _ => after⟩

theorem decode_binary_some (hearing : Hearing options textDecoder socket)
    (going : socket.ended stream = false) (read : readBinary options payload = some found) :
    let frame := (binaryMessage options payload).encode
    ((socket.netStrings stream).decode frame).delivered.map Decoded.carried = [found.carried] ∧
      ((socket.netStrings stream).decode frame).thrown = none ∧
      Between ((socket.netStrings stream).behind frame) := by
  intro frame
  have between := hearing.between stream going
  rw [readBinary] at read
  split at read
  next good =>
    rw [← hearing.commands stream] at read
    apply decode_found between
    · rw [hearing.capacity stream]
      exact good.1
    · exact good.2
    · exact read
  next => cases read

/-- The decoder of the stream is between two frames again, or the stream ends. -/
theorem hearing_behind (hearing : Hearing options textDecoder socket) {chunk : List UInt8}
    (after : next.ended stream = false → Between ((socket.netStrings stream).behind chunk))
    (others : ∀ other, other ≠ stream → next.ended other = socket.ended other)
    (netStrings : next.netStrings =
      Function.update socket.netStrings stream ((socket.netStrings stream).behind chunk))
    (configured : next.options = socket.options) (onmessage : next.onmessage = socket.onmessage)
    (decoder : next.textDecoder = socket.textDecoder) : Hearing options textDecoder next where
  configured := configured.trans hearing.configured
  mode := hearing.mode
  onmessage := onmessage.trans hearing.onmessage
  textDecoder := decoder.trans hearing.textDecoder
  commands other := by
    rw [netStrings]
    by_cases here : other = stream
    · rw [here, Function.update_self]
      exact hearing.commands stream
    · rw [Function.update_of_ne here]
      exact hearing.commands other
  capacity other := by
    rw [netStrings]
    by_cases here : other = stream
    · rw [here, Function.update_self]
      exact hearing.capacity stream
    · rw [Function.update_of_ne here]
      exact hearing.capacity other
  between other := by
    rw [netStrings]
    by_cases here : other = stream
    · rw [here, Function.update_self]
      exact after
    · rw [Function.update_of_ne here, others other here]
      exact hearing.between other

theorem hearing_decoded (hearing : Hearing options textDecoder socket) {chunk : List UInt8}
    (between : Between ((socket.netStrings stream).behind chunk)) :
    Hearing options textDecoder (decodedOn socket stream chunk) :=
  hearing_behind hearing (fun _ => between) (fun _ _ => rfl) rfl rfl rfl rfl

theorem hearing_stopped (hearing : Hearing options textDecoder socket) (chunk : List UInt8) :
    Hearing options textDecoder { decodedOn socket stream chunk with
      ended := Function.update socket.ended stream true } := by
  have stopped : Function.update socket.ended stream true stream = false →
      Between ((socket.netStrings stream).behind chunk) := by
    rw [Function.update_self]
    exact fun going => absurd going (by decide)
  apply @hearing_behind Text options socket textDecoder _ stream hearing chunk stopped
  · exact fun other different => Function.update_of_ne different _ _
  all_goals rfl

theorem read_chunk_going (going : socket.ended stream = false) (mode : socket.options.mode = .text)
    {chunk : List UInt8} {thrown : Option String}
    (called : WebTransportWS.onDecodeMessages (fun _ => clock) stream 0
      ((socket.netStrings stream).decode chunk).delivered (decodedOn socket stream chunk) =
        (thrown, next)) :
    socket.readChunk (fun _ => clock) stream chunk =
      if (thrown.isSome || ((socket.netStrings stream).decode chunk).thrown.isSome) = true then
        { next with ended := Function.update next.ended stream true }
      else next := by
  rw [decodedOn] at called
  rw [WebTransportWS.readChunk, if_neg (by simp [going]), if_pos mode]
  dsimp only at called ⊢
  rw [called]

structure Silent (options : WebTransportWSOptions) (textDecoder : Option (List UInt8 → Text))
    (socket next : WebTransportWS Text) : Prop where
  hearing : Hearing options textDecoder next
  messages : next.messages = socket.messages
  commands : next.commands = socket.commands

theorem read_binary_nothing (hearing : Hearing options textDecoder socket)
    (nothing : socket.ended stream = true ∨ readBinary options payload = none) :
    Silent options textDecoder socket (socket.readChunk (fun _ => clock) stream
      (binaryMessage options payload).encode) := by
  cases going : socket.ended stream with
  | true =>
      rw [WebTransportWS.readChunk, if_pos going]
      exact ⟨hearing, rfl, rfl⟩
  | false =>
      rw [going] at nothing
      have mode := hearing.mode
      rw [← hearing.configured] at mode
      have empty : readBinary options payload = none := by simpa using nothing
      rcases decode_binary_none hearing going empty with ⟨delivered, between⟩
      generalize (binaryMessage options payload).encode = chunk at delivered between ⊢
      have called : WebTransportWS.onDecodeMessages (fun _ => clock) stream 0
          ((socket.netStrings stream).decode chunk).delivered (decodedOn socket stream chunk) =
            (none, decodedOn socket stream chunk) := by
        rw [delivered, WebTransportWS.onDecodeMessages]
      rw [read_chunk_going going mode called]
      split
      next stopped =>
        exact ⟨hearing_stopped hearing chunk, rfl, rfl⟩
      next unthrown =>
        exact ⟨hearing_decoded hearing (between (by simpa using unthrown)), rfl, rfl⟩

theorem read_binary_found (hearing : Hearing options textDecoder socket)
    (going : socket.ended stream = false) (read : readBinary options payload = some found) :
    let frame := (binaryMessage options payload).encode
    let next := socket.readChunk (fun _ => clock) stream frame
    Hearing options textDecoder (decodedOn socket stream frame) ∧ ∃ serialized,
      match (decodedOn socket stream frame).onDecodeMessage clock stream
          ⟨some found.payload, serialized, found.cmd⟩ with
      | .ok after => next = after
      | .error _ => Silent options textDecoder socket next := by
  intro frame next
  have mode := hearing.mode
  rw [← hearing.configured] at mode
  rcases decode_binary_some hearing going read with ⟨carried, unthrown, between⟩
  rcases List.map_eq_singleton_iff.mp carried with ⟨⟨payload, serialized, cmd⟩, delivered, same⟩
  cases same
  refine ⟨hearing_decoded hearing between, serialized, ?_⟩
  cases result : (decodedOn socket stream frame).onDecodeMessage clock stream
      ⟨some found.payload, serialized, found.cmd⟩ with
  | ok after =>
      have called : WebTransportWS.onDecodeMessages (fun _ => clock) stream 0
          ((socket.netStrings stream).decode frame).delivered (decodedOn socket stream frame) =
            (none, after) := by
        rw [delivered, WebTransportWS.onDecodeMessages, result]
        rfl
      have ran := read_chunk_going going mode called
      rw [unthrown] at ran
      exact ran
  | error message =>
      have called : WebTransportWS.onDecodeMessages (fun _ => clock) stream 0
          ((socket.netStrings stream).decode frame).delivered (decodedOn socket stream frame) =
            (some message, decodedOn socket stream frame) := by
        rw [delivered, WebTransportWS.onDecodeMessages, result]
      have ran := read_chunk_going going mode called
      rw [Option.isSome_some, Bool.true_or, if_pos rfl] at ran
      show Silent options textDecoder socket next
      rw [show next = _ from ran]
      exact ⟨hearing_stopped hearing frame, rfl, rfl⟩

/-- A frame brings one event or none. -/
theorem read_binary_hears (hearing : Hearing options textDecoder socket) (payload : List UInt8)
    (stream : Nat) (clock : Nat → Int) :
    let next := socket.readChunk (fun _ => clock) stream (binaryMessage options payload).encode
    Hearing options textDecoder next ∧ (next.messages = socket.messages ∨
      ∃ found, readBinary options payload = some found ∧ NoPing options found.cmd ∧
        next.messages = socket.messages ++ [eventOf options textDecoder found]) := by
  intro next
  by_cases nothing : socket.ended stream = true ∨ readBinary options payload = none
  · have silent := @read_binary_nothing Text _ payload socket _ clock stream hearing nothing
    exact ⟨silent.hearing, .inl silent.messages⟩
  rw [not_or, Bool.not_eq_true] at nothing
  rcases Option.ne_none_iff_exists'.mp nothing.2 with ⟨found, read⟩
  rcases @read_binary_found Text _ payload socket _ found clock stream hearing nothing.1 read with
    ⟨behind, serialized, result⟩
  cases called : (decodedOn socket stream (binaryMessage options payload).encode).onDecodeMessage
      clock stream ⟨some found.payload, serialized, found.cmd⟩ with
  | ok after =>
      rw [called] at result
      have same : next = after := result
      rcases on_decode_called behind.onmessage called with ⟨undisturbed, silent | ⟨noPing, heard⟩⟩
      · rw [same]
        exact ⟨behind.undisturbed undisturbed, .inl silent⟩
      · rw [behind.configured] at noPing heard
        rw [behind.textDecoder] at heard
        rw [same]
        exact ⟨behind.undisturbed undisturbed, .inr ⟨found, read, noPing, heard⟩⟩
  | error message =>
      rw [called] at result
      exact ⟨result.hearing, .inl result.messages⟩

end Receiver

/-- The receiver reads the binary command; or it reads none, none is written, and it has no
decoder for texts. -/
def BinaryConfigured (options : WebTransportWSOptions)
    (textDecoder : Option (List UInt8 → Text)) : Prop :=
  options.enableCommand = true ∧ 0 ≤ options.binaryCommand ∧
      NoPing options (some options.binaryCommand.toNat) ∨
    options.enableCommand = false ∧ options.binaryCommand < 0 ∧ textDecoder = none

section Configuration

variable {textDecoder : Option (List UInt8 → Text)} {found : Message}

theorem binary_body_negative (negative : options.binaryCommand < 0) :
    (binaryMessage options payload).body = payload := by
  rw [binaryMessage, if_neg (Int.not_le.mpr negative)]
  rfl

theorem binary_body_command (command : 0 ≤ options.binaryCommand) :
    (binaryMessage options payload).body =
      print options.binaryCommand.toNat ++ space :: payload := by
  rw [binaryMessage, if_pos command]
  rfl

theorem read_binary_body (read : readBinary options payload = some found) :
    readBody options.enableCommand (binaryMessage options payload).body = some found := by
  rw [readBinary] at read
  split at read
  · exact read
  · cases read

theorem read_binary_own (enabled : options.enableCommand = true)
    (command : 0 ≤ options.binaryCommand) (safe : options.binaryCommand ≤ 2 ^ 53 - 1)
    (read : readBinary options payload = some found) :
    found = ⟨payload, some options.binaryCommand.toNat⟩ := by
  have suits : (binaryMessage options payload).Suits true := by
    rw [binaryMessage, if_pos command]
    refine ⟨rfl, ?_⟩
    intro cmd member
    cases member
    omega
  have written := read_binary_body read
  rw [enabled, read_body_written suits] at written
  rw [← Option.some.inj written, binaryMessage, if_pos command]

/-- Digits and a space of the data are taken for a command. -/
theorem read_binary_stolen (enabled : options.enableCommand = true)
    (negative : options.binaryCommand < 0) (read : readBinary options payload = some found) :
    (∃ cmd, found.cmd = some cmd) ∧ found.payload.length < payload.length := by
  have stolen := read_binary_body read
  rw [enabled, binary_body_negative negative, readBody, if_pos rfl] at stolen
  have behind := (List.dropWhile_suffix isDigit : payload.dropWhile isDigit <:+ payload).length_le
  split at stolen
  · cases stolen
  next byte rest tail =>
    rw [tail, List.length_cons] at behind
    split at stolen
    · cases stolen
      exact ⟨⟨_, rfl⟩, behind⟩
    · cases stolen

theorem read_binary_disabled (disabled : options.enableCommand = false)
    (read : readBinary options payload = some found) :
    found = ⟨(binaryMessage options payload).body, none⟩ := by
  have whole := read_binary_body read
  rw [disabled, readBody, if_neg Bool.false_ne_true] at whole
  exact (Option.some.inj whole).symm

theorem event_without_decoder : eventOf options (none : Option (List UInt8 → Text)) found =
    ⟨.bytes found.payload, true⟩ := rfl

theorem event_of_text (decode : List UInt8 → Text)
    (other : found.cmd.map Int.ofNat ≠ some options.binaryCommand) :
    eventOf options (some decode) found = ⟨.text (decode found.payload), false⟩ :=
  if_neg other

theorem extreme_payload (present : payloads ≠ []) (measure : List UInt8 → Int) :
    ∃ extreme ∈ payloads, ∀ payload ∈ payloads, measure payload ≤ measure extreme := by
  have nonempty : payloads.toFinset.Nonempty := List.toFinset_nonempty_iff payloads |>.mpr present
  rcases Finset.exists_max_image payloads.toFinset measure nonempty with ⟨extreme, member, greatest⟩
  refine ⟨extreme, List.mem_toFinset.mp member, ?_⟩
  intro payload other
  exact greatest payload (List.mem_toFinset.mpr other)

/-- Without the configuration some payload is not delivered as it is. -/
theorem payload_lost (safe : options.binaryCommand ≤ 2 ^ 53 - 1) (present : payloads ≠ [])
    (wrong : ¬BinaryConfigured options textDecoder) :
    ∃ lost ∈ payloads, ∀ payload ∈ payloads, ∀ found, readBinary options payload = some found →
      NoPing options found.cmd → eventOf options textDecoder found ≠ ⟨.bytes lost, true⟩ := by
  cases enabled : options.enableCommand with
  | true =>
      by_cases command : 0 ≤ options.binaryCommand
      · rcases List.exists_mem_of_ne_nil _ present with ⟨lost, member⟩
        refine ⟨lost, member, ?_⟩
        intro payload _ found read noPing
        rw [read_binary_own enabled command safe read] at noPing
        exact absurd (.inl ⟨enabled, command, noPing⟩) wrong
      · rcases extreme_payload present fun payload => payload.length with ⟨lost, member, longest⟩
        refine ⟨lost, member, ?_⟩
        intro payload other found read _ same
        rcases read_binary_stolen enabled (Int.not_le.mp command) read with ⟨⟨cmd, found⟩, shorter⟩
        have length := longest payload other
        cases textDecoder with
        | none =>
            rw [event_without_decoder] at same
            injection same with bytes
            injection bytes with equal
            rw [equal] at shorter
            omega
        | some decode =>
            rw [event_of_text] at same
            · cases same
            · rw [found]
              intro negative
              have equal := Option.some.inj negative
              exact command (equal ▸ Int.natCast_nonneg cmd)
  | false =>
      rcases extreme_payload present fun payload => -payload.length with ⟨lost, member, shortest⟩
      refine ⟨lost, member, ?_⟩
      intro payload other found read _ same
      have length := shortest payload other
      rw [read_binary_disabled enabled read] at same
      cases textDecoder with
      | none =>
          have command : 0 ≤ options.binaryCommand := by
            apply Int.not_lt.mp
            exact fun negative => wrong (.inr ⟨enabled, negative, rfl⟩)
          rw [event_without_decoder] at same
          injection same with bytes
          injection bytes with equal
          have longer := congrArg List.length equal
          rw [binary_body_command command, List.length_append, List.length_cons] at longer
          omega
      | some decode =>
          rw [event_of_text decode (by simp)] at same
          cases same

theorem binary_frame_injective (options : WebTransportWSOptions) :
    Function.Injective fun payload => (binaryMessage options payload).encode := by
  intro payload other same
  have bodies : (binaryMessage options payload).body = (binaryMessage options other).body := by
    have behind (message : Message) :
        message.encode.dropWhile isDigit = colon :: (message.body ++ [comma]) := by
      rw [encode_eq]
      exact (@take_digits (message.body ++ [comma]) _ (print_digits _) colon (by decide)).2
    have tails := congrArg (List.dropWhile isDigit) same
    simp only [behind] at tails
    exact List.append_cancel_right (List.cons.inj tails).2
  by_cases command : 0 ≤ options.binaryCommand
  · rw [binary_body_command command, binary_body_command command] at bodies
    exact (List.cons.inj (List.append_cancel_left bodies)).2
  · rwa [binary_body_negative (Int.not_le.mp command),
      binary_body_negative (Int.not_le.mp command)] at bodies

theorem read_binary_configured (safe : options.binaryCommand ≤ 2 ^ 53 - 1)
    (configured : BinaryConfigured options textDecoder) (fits : BinaryFits options payload) :
    readBinary options payload = some (binaryMessage options payload) := by
  rw [readBinary, if_pos fits]
  rcases configured with ⟨enabled, command, -⟩ | ⟨disabled, negative, -⟩
  · rw [enabled]
    apply read_body_written
    rw [binaryMessage, if_pos command]
    refine ⟨rfl, ?_⟩
    intro cmd member
    cases member
    omega
  · rw [disabled]
    apply read_body_written
    rw [binaryMessage, if_neg (Int.not_le.mpr negative)]
    exact ⟨rfl, fun cmd member => absurd member (Option.not_mem_none cmd)⟩

end Configuration

section Runs

variable {textDecoder : Option (List UInt8 → Text)} {arrivals : List Arrival}
  {payloadOf : Arrival → List UInt8}

def Carrying (options : WebTransportWSOptions) (payloadOf : Arrival → List UInt8)
    (arrivals : List Arrival) : Prop :=
  ∀ arrival ∈ arrivals, arrival.frame = (binaryMessage options (payloadOf arrival)).encode

theorem receive_cons (arrival : Arrival) (arrivals : List Arrival) :
    receiveAll (arrival :: arrivals) socket = receiveAll arrivals
      (socket.readChunk (fun _ => arrival.clock) arrival.stream arrival.frame) := rfl

theorem receive_lost {lost : MessageEvent Text} (hearing : Hearing options textDecoder socket)
    (carrying : Carrying options payloadOf arrivals)
    (never : ∀ arrival ∈ arrivals, ∀ found, readBinary options (payloadOf arrival) = some found →
      NoPing options found.cmd → eventOf options textDecoder found ≠ lost)
    (absent : lost ∉ socket.messages) : lost ∉ (receiveAll arrivals socket).messages := by
  induction arrivals generalizing socket with
  | nil => exact absent
  | cons arrival arrivals induction =>
      rw [Carrying, List.forall_mem_cons] at carrying
      rw [List.forall_mem_cons] at never
      rw [receive_cons, carrying.1]
      rcases read_binary_hears hearing (payloadOf arrival) arrival.stream arrival.clock with
        ⟨after, silent | ⟨found, read, noPing, heard⟩⟩
      · apply induction after carrying.2 never.2
        rwa [silent]
      · apply induction after carrying.2 never.2
        rw [heard, List.mem_append, List.mem_singleton, not_or]
        exact ⟨absent, (never.1 found read noPing).symm⟩

theorem receive_count (hearing : Hearing options textDecoder socket)
    (carrying : Carrying options payloadOf arrivals) :
    (receiveAll arrivals socket).messages.length ≤ socket.messages.length +
      arrivals.countP fun arrival => (readBinary options (payloadOf arrival)).isSome := by
  induction arrivals generalizing socket with
  | nil => exact Nat.le_refl _
  | cons arrival arrivals induction =>
      rw [Carrying, List.forall_mem_cons] at carrying
      rw [receive_cons, carrying.1, List.countP_cons]
      rcases read_binary_hears hearing (payloadOf arrival) arrival.stream arrival.clock with
        ⟨after, silent | ⟨found, read, -, heard⟩⟩
      · have later := induction after carrying.2
        rw [silent] at later
        omega
      · have later := induction after carrying.2
        rw [heard, List.length_append, List.length_singleton] at later
        rw [read, Option.isSome_some, if_pos rfl]
        omega

theorem on_decode_single (hearing : Hearing options textDecoder socket)
    (configured : BinaryConfigured options textDecoder) (single : ¬1 < options.streamCount)
    (clock : Nat → Int) (stream : Nat) (serialized : List UInt8) :
    socket.onDecodeMessage clock stream
        ⟨some payload, serialized, (binaryMessage options payload).cmd⟩ =
      .ok { socket with messages := socket.messages ++ [⟨.bytes payload, true⟩] } := by
  rcases configured with ⟨-, command, noPing⟩ | ⟨-, negative, noDecoder⟩
  · have binary : (options.binaryCommand.toNat : Int) = socket.options.binaryCommand := by
      rw [hearing.configured]
      exact Int.toNat_of_nonneg command
    have ordinary : NoPing socket.options (some options.binaryCommand.toNat) := by
      rwa [hearing.configured]
    rw [binaryMessage, if_pos command]
    rw [on_decode_binary hearing.onmessage binary ordinary, hearing.configured, if_neg single]
  · have event : eventOf socket.options socket.textDecoder ⟨payload, none⟩ =
        ⟨.bytes payload, true⟩ := by
      rw [hearing.textDecoder, noDecoder]
      rfl
    have delivered := @deliver_event Text socket ⟨payload, none⟩ serialized hearing.onmessage
    rw [event] at delivered
    rw [binaryMessage, if_neg (Int.not_le.mpr negative)]
    exact congrArg Except.ok delivered

theorem read_binary_called (hearing : Hearing options textDecoder socket)
    (safe : options.binaryCommand ≤ 2 ^ 53 - 1)
    (configured : BinaryConfigured options textDecoder) {stream : Nat}
    (going : socket.ended stream = false) (fits : BinaryFits options payload)
    {clock : Nat → Int} {after : WebTransportWS Text} :
    let frame := (binaryMessage options payload).encode
    (Hearing options textDecoder (decodedOn socket stream frame) → ∀ serialized,
      (decodedOn socket stream frame).onDecodeMessage clock stream
        ⟨some payload, serialized, (binaryMessage options payload).cmd⟩ = .ok after) →
    Hearing options textDecoder (decodedOn socket stream frame) ∧
      socket.readChunk (fun _ => clock) stream frame = after := by
  intro frame called
  have read := read_binary_configured safe configured fits
  rcases @read_binary_found Text _ _ socket _ _ clock _ hearing going read with
    ⟨behind, serialized, result⟩
  rw [show (binaryMessage options payload).payload = payload from rfl,
    called behind serialized] at result
  exact ⟨behind, result⟩

theorem read_binary_single (hearing : Hearing options textDecoder socket)
    (safe : options.binaryCommand ≤ 2 ^ 53 - 1)
    (configured : BinaryConfigured options textDecoder) (single : ¬1 < options.streamCount)
    {stream : Nat} (going : socket.ended stream = false) (fits : BinaryFits options payload)
    (clock : Nat → Int) :
    let next := socket.readChunk (fun _ => clock) stream (binaryMessage options payload).encode
    Hearing options textDecoder next ∧ next.ended = socket.ended ∧
      next.messages = socket.messages ++ [⟨.bytes payload, true⟩] := by
  intro next
  have called := read_binary_called hearing safe configured going fits
    fun behind => on_decode_single behind configured single clock stream
  rw [show next = _ from called.2]
  exact ⟨called.1.undisturbed ⟨rfl, rfl, rfl, rfl, rfl⟩, rfl, rfl⟩

theorem receive_single (hearing : Hearing options textDecoder socket)
    (safe : options.binaryCommand ≤ 2 ^ 53 - 1)
    (configured : BinaryConfigured options textDecoder) (single : ¬1 < options.streamCount)
    (going : ∀ stream, socket.ended stream = false)
    (carrying : Carrying options payloadOf arrivals)
    (fits : ∀ arrival ∈ arrivals, BinaryFits options (payloadOf arrival)) :
    (receiveAll arrivals socket).messages = socket.messages ++
      arrivals.map fun arrival => ⟨.bytes (payloadOf arrival), true⟩ := by
  induction arrivals generalizing socket with
  | nil => exact (List.append_nil _).symm
  | cons arrival arrivals induction =>
      rw [Carrying, List.forall_mem_cons] at carrying
      rw [List.forall_mem_cons] at fits
      rcases read_binary_single hearing safe configured single (going arrival.stream) fits.1
        arrival.clock with ⟨after, ended, heard⟩
      rw [receive_cons, carrying.1, induction after _ carrying.2 fits.2, heard, List.map_cons,
        List.append_assoc]
      · rfl
      · rwa [ended]

structure Several (options : WebTransportWSOptions) : Prop where
  many : 1 < options.streamCount
  enabled : options.enableCommand = true
  command : 0 ≤ options.binaryCommand
  noPing : NoPing options (some options.binaryCommand.toNat)

theorem Several.configured (several : Several options)
    (textDecoder : Option (List UInt8 → Text)) : BinaryConfigured options textDecoder :=
  .inl ⟨several.enabled, several.command, several.noPing⟩

theorem on_decode_several (hearing : Hearing options textDecoder socket)
    (several : Several options) (clock : Nat → Int) (stream : Nat) (serialized : List UInt8) :
    socket.onDecodeMessage clock stream
        ⟨some payload, serialized, (binaryMessage options payload).cmd⟩ = .ok
      (if socket.commands.seen options.binaryCommand.toNat then socket
      else { socket with
        messages := socket.messages ++ [⟨.bytes payload, true⟩]
        commands := admitKey options.commandTimeout clock socket.commands
          options.binaryCommand.toNat }) := by
  have binary : (options.binaryCommand.toNat : Int) = socket.options.binaryCommand := by
    rw [hearing.configured]
    exact Int.toNat_of_nonneg several.command
  have ordinary : NoPing socket.options (some options.binaryCommand.toNat) := by
    rw [hearing.configured]
    exact several.noPing
  rw [binaryMessage, if_pos several.command]
  rw [on_decode_binary hearing.onmessage binary ordinary, hearing.configured, if_pos several.many]

/-- The command is the same for every payload, and only the first is delivered. -/
theorem read_binary_seen (hearing : Hearing options textDecoder socket)
    (safe : options.binaryCommand ≤ 2 ^ 53 - 1) (several : Several options)
    (seen : socket.commands.seen options.binaryCommand.toNat = true) (payload : List UInt8)
    (stream : Nat) (clock : Nat → Int) :
    Silent options textDecoder socket (socket.readChunk (fun _ => clock) stream
      (binaryMessage options payload).encode) := by
  by_cases nothing : socket.ended stream = true ∨ ¬BinaryFits options payload
  · apply read_binary_nothing hearing
    exact nothing.imp_right fun unfit => if_neg unfit
  · rw [not_or, Bool.not_eq_true, not_not] at nothing
    have called := read_binary_called hearing safe (several.configured textDecoder) nothing.1
      nothing.2 fun behind => on_decode_several behind several clock stream
    rw [called.2, if_pos (show (decodedOn socket stream _).commands.seen _ = true from seen)]
    exact ⟨called.1, rfl, rfl⟩

theorem receive_seen (hearing : Hearing options textDecoder socket)
    (safe : options.binaryCommand ≤ 2 ^ 53 - 1) (several : Several options)
    (seen : socket.commands.seen options.binaryCommand.toNat = true)
    (carrying : Carrying options payloadOf arrivals) :
    (receiveAll arrivals socket).messages = socket.messages := by
  induction arrivals generalizing socket with
  | nil => rfl
  | cons arrival arrivals induction =>
      rw [Carrying, List.forall_mem_cons] at carrying
      have silent := read_binary_seen hearing safe several seen (payloadOf arrival) arrival.stream
        arrival.clock
      rw [receive_cons, carrying.1, induction silent.hearing _ carrying.2, silent.messages]
      rwa [silent.commands]

/-- The handler reads its clock twice within the time for which commands are kept. -/
def Prompt (options : WebTransportWSOptions) (arrivals : List Arrival) : Prop :=
  ∀ arrival ∈ arrivals, arrival.clock 1 - arrival.clock 0 ≤ options.commandTimeout

instance (options : WebTransportWSOptions) (arrivals : List Arrival) :
    Decidable (Prompt options arrivals) := List.decidableBAll _ _

theorem admit_first {timeout : Int} {clock : Nat → Int} (prompt : clock 1 - clock 0 ≤ timeout)
    (key : Nat) : (admitKey timeout clock empty key).seen key = true := by
  rw [admitKey, empty, List.nil_append, purge, if_neg (Int.not_lt.mpr prompt)]
  exact Function.update_self key _ _

theorem read_binary_first (hearing : Hearing options textDecoder socket)
    (safe : options.binaryCommand ≤ 2 ^ 53 - 1) (several : Several options)
    (fresh : socket.commands = empty) {stream : Nat} (going : socket.ended stream = false)
    (fits : BinaryFits options payload) {clock : Nat → Int}
    (prompt : clock 1 - clock 0 ≤ options.commandTimeout) :
    let next := socket.readChunk (fun _ => clock) stream (binaryMessage options payload).encode
    Hearing options textDecoder next ∧
      next.commands.seen options.binaryCommand.toNat = true ∧
      next.messages = socket.messages ++ [⟨.bytes payload, true⟩] := by
  intro next
  have called := read_binary_called hearing safe (several.configured textDecoder) going fits
    fun behind => on_decode_several behind several clock stream
  have unseen : (decodedOn socket stream (binaryMessage options payload).encode).commands = empty :=
    fresh
  rw [unseen, if_neg (show ¬empty.seen _ = true from Bool.false_ne_true)] at called
  rw [show next = _ from called.2]
  exact ⟨called.1.undisturbed ⟨rfl, rfl, rfl, rfl, rfl⟩, admit_first prompt _, rfl⟩

theorem receive_several (hearing : Hearing options textDecoder socket)
    (safe : options.binaryCommand ≤ 2 ^ 53 - 1) (several : Several options)
    (fresh : socket.commands = empty) (prompt : Prompt options arrivals)
    (carrying : Carrying options payloadOf arrivals) :
    (receiveAll arrivals socket).messages.length ≤ socket.messages.length + 1 := by
  induction arrivals generalizing socket with
  | nil => exact Nat.le_succ _
  | cons arrival arrivals induction =>
      rw [Carrying, List.forall_mem_cons] at carrying
      rw [Prompt, List.forall_mem_cons] at prompt
      rw [receive_cons, carrying.1]
      by_cases nothing : socket.ended arrival.stream = true ∨ ¬BinaryFits options (payloadOf arrival)
      · have silent := @read_binary_nothing Text _ (payloadOf arrival) socket _ arrival.clock
          arrival.stream hearing (nothing.imp_right fun unfit => if_neg unfit)
        have later := induction silent.hearing (silent.commands.trans fresh) prompt.2 carrying.2
        rwa [silent.messages] at later
      · rw [not_or, Bool.not_eq_true, not_not] at nothing
        rcases read_binary_first hearing safe several fresh nothing.1 nothing.2 prompt.1 with
          ⟨after, seen, heard⟩
        rw [receive_seen after safe several seen carrying.2, heard, List.length_append]
        exact Nat.le_refl _

end Runs

section Once

variable {textDecoder : Option (List UInt8 → Text)} {senderOnmessage : Bool}
  {arrivals : List Arrival} {payloadOf : Arrival → List UInt8}

def binaryWrites (options : WebTransportWSOptions) (payloads : List (List UInt8)) :
    List (Nat × List UInt8) :=
  payloads.flatMap fun payload => (List.range options.streamCount).map fun stream =>
    (stream, (binaryMessage options payload).encode)

theorem adjusted_streams (mode : options.mode = .text) :
    options.adjusted.streamCount = options.streamCount := by
  rw [WebTransportWSOptions.adjusted]
  exact if_neg (by rw [mode]; decide)

theorem binary_written (mode : options.mode = .text) (payloads : List (List UInt8)) :
    (sendBinaries payloads (newWebTransportWS options textDecoder senderOnmessage)).written =
      binaryWrites options payloads := by
  have written := @send_binaries_written Text
    (newWebTransportWS options textDecoder senderOnmessage) mode payloads
  rw [written, binaryWrites, ← adjusted_streams mode]
  rfl

theorem binary_write_iff {stream : Nat} {frame : List UInt8} :
    (stream, frame) ∈ binaryWrites options payloads ↔ stream < options.streamCount ∧
      ∃ payload ∈ payloads, frame = (binaryMessage options payload).encode := by
  simp only [binaryWrites, List.mem_flatMap, List.mem_map, List.mem_range, Prod.mk.injEq]
  constructor
  · rintro ⟨payload, member, other, inside, rfl, rfl⟩
    exact ⟨inside, payload, member, rfl⟩
  · rintro ⟨inside, payload, member, rfl⟩
    exact ⟨payload, member, stream, inside, rfl, rfl⟩

theorem arrival_payload (interleaves : Interleaves (binaryWrites options payloads) arrivals) :
    ∀ arrival ∈ arrivals, arrival.stream < options.streamCount ∧
      ∃ payload ∈ payloads, arrival.frame = (binaryMessage options payload).encode := by
  intro arrival member
  apply binary_write_iff.mp
  exact (interleaves.arrived_iff _ _).mp ⟨arrival, member, rfl, rfl⟩

theorem payload_arrives (streams : 1 ≤ options.streamCount)
    (interleaves : Interleaves (binaryWrites options payloads) arrivals)
    (member : payload ∈ payloads) :
    ∃ arrival ∈ arrivals, arrival.frame = (binaryMessage options payload).encode := by
  have write : (0, (binaryMessage options payload).encode) ∈ binaryWrites options payloads :=
    binary_write_iff.mpr ⟨streams, payload, member, rfl⟩
  rcases (interleaves.arrived_iff _ _).mpr write with ⟨arrival, arrived, -, frame⟩
  exact ⟨arrival, arrived, frame⟩

theorem single_frames (single : options.streamCount = 1)
    (interleaves : Interleaves (binaryWrites options payloads) arrivals) :
    arrivals.map Arrival.frame =
      payloads.map fun payload => (binaryMessage options payload).encode := by
  have first : ∀ arrival ∈ arrivals, decide (arrival.stream = 0) = true := by
    intro arrival member
    have inside := (arrival_payload interleaves arrival member).1
    rw [single] at inside
    exact decide_eq_true (Nat.lt_one_iff.mp inside)
  have order := interleaves 0
  rw [List.filter_eq_self.mpr first] at order
  rw [order, binaryWrites, single]
  simp [List.filter_eq_self.mpr, Function.comp_def, ← List.map_eq_flatMap]

structure Brings (options : WebTransportWSOptions) (payloads : List (List UInt8))
    (payloadOf : Arrival → List UInt8) (arrivals : List Arrival) : Prop where
  carrying : Carrying options.adjusted payloadOf arrivals
  member : ∀ arrival ∈ arrivals, payloadOf arrival ∈ payloads

theorem arrivals_bring (interleaves : Interleaves (binaryWrites options payloads) arrivals) :
    ∃ payloadOf, Brings options payloads payloadOf arrivals := by
  have brought := fun arrival member => (arrival_payload interleaves arrival member).2
  choose! payloadOf member frame using brought
  exact ⟨payloadOf, frame, member⟩

theorem single_payloads (single : options.streamCount = 1)
    (interleaves : Interleaves (binaryWrites options payloads) arrivals)
    (brings : Brings options payloads payloadOf arrivals) :
    arrivals.map payloadOf = payloads := by
  apply List.map_injective_iff.mpr (binary_frame_injective options)
  rw [← single_frames single interleaves, List.map_map]
  apply List.map_congr_left
  exact fun arrival member => (brings.carrying arrival member).symm

variable (textDecoder) in
/-- The receiver calls `onmessage` once for each payload, with the bytes as they were sent. -/
def BinaryOnce (options : WebTransportWSOptions) (payloads : List (List UInt8))
    (arrivals : List Arrival) : Prop :=
  (receiveAll arrivals (newWebTransportWS options textDecoder true)).messages.Perm
    (payloads.map fun payload => ⟨.bytes payload, true⟩)

theorem once_configured (mode : options.mode = .text)
    (safe : options.binaryCommand ≤ 2 ^ 53 - 1) (present : payloads ≠ [])
    (brings : Brings options payloads payloadOf arrivals)
    (once : BinaryOnce textDecoder options payloads arrivals) :
    BinaryConfigured options.adjusted textDecoder := by
  by_contra wrong
  obtain ⟨lost, member, never⟩ :=
    @payload_lost Text options.adjusted payloads textDecoder safe present wrong
  have expected : (⟨.bytes lost, true⟩ : MessageEvent Text) ∈
      payloads.map fun payload => ⟨.bytes payload, true⟩ :=
    List.mem_map_of_mem member
  apply receive_lost (new_hearing mode) brings.carrying _ List.not_mem_nil (once.mem_iff.mpr expected)
  exact fun arrival here => never (payloadOf arrival) (brings.member arrival here)

theorem configured_several (mode : options.mode = .text) (many : 1 < options.streamCount)
    (configured : BinaryConfigured options.adjusted textDecoder) : Several options.adjusted := by
  have enabled := (adjusted_text mode many).1
  rcases configured with ⟨-, command, noPing⟩ | ⟨disabled, -, -⟩
  · rw [← adjusted_streams mode] at many
    exact ⟨many, enabled, command, noPing⟩
  · cases enabled.symm.trans disabled

theorem once_few (mode : options.mode = .text) (many : 1 < options.streamCount)
    (safe : options.binaryCommand ≤ 2 ^ 53 - 1) (prompt : Prompt options arrivals)
    (configured : BinaryConfigured options.adjusted textDecoder)
    (brings : Brings options payloads payloadOf arrivals)
    (once : BinaryOnce textDecoder options payloads arrivals) : payloads.length ≤ 1 := by
  have several := configured_several mode many configured
  have few := receive_several (@new_hearing Text options textDecoder mode) safe several rfl prompt
    brings.carrying
  have length := once.length_eq
  rw [List.length_map] at length
  rw [length] at few
  exact few

theorem once_fits (mode : options.mode = .text) (streams : 1 ≤ options.streamCount)
    (few : options.streamCount = 1 ∨ payloads.length = 1)
    (interleaves : Interleaves (binaryWrites options payloads) arrivals)
    (brings : Brings options payloads payloadOf arrivals)
    (once : BinaryOnce textDecoder options payloads arrivals) :
    ∀ payload ∈ payloads, BinaryFits options payload := by
  intro payload member
  by_contra unfit
  have missing : readBinary options.adjusted payload = none := if_neg unfit
  rcases payload_arrives streams interleaves member with ⟨arrival, arrived, frame⟩
  have same : payloadOf arrival = payload :=
    binary_frame_injective options ((brings.carrying arrival arrived).symm.trans frame)
  have count := receive_count (@new_hearing Text options textDecoder mode) brings.carrying
  have length := once.length_eq
  rw [List.length_map] at length
  rw [length, show (newWebTransportWS options textDecoder true).messages = [] from rfl,
    List.length_nil, Nat.zero_add] at count
  rcases few with single | one
  · have all : arrivals.length = payloads.length := by
      rw [← single_payloads single interleaves brings, List.length_map]
    have some := List.countP_lt_length_iff (p := fun arrival =>
      (readBinary options.adjusted (payloadOf arrival)).isSome) (l := arrivals)
    have fewer := some.mpr ⟨arrival, arrived, by rw [same, missing]; rfl⟩
    omega
  · have none : ∀ other ∈ arrivals,
        ¬(readBinary options.adjusted (payloadOf other)).isSome = true := by
      intro other here
      rcases List.length_eq_one_iff.mp one with ⟨only, rfl⟩
      rw [List.mem_singleton.mp (brings.member other here), ← List.mem_singleton.mp member, missing]
      decide
    rw [List.countP_eq_zero.mpr none] at count
    omega

theorem once_single (mode : options.mode = .text) (single : options.streamCount = 1)
    (safe : options.binaryCommand ≤ 2 ^ 53 - 1)
    (configured : BinaryConfigured options.adjusted textDecoder)
    (fits : ∀ payload ∈ payloads, BinaryFits options payload)
    (interleaves : Interleaves (binaryWrites options payloads) arrivals)
    (brings : Brings options payloads payloadOf arrivals) :
    BinaryOnce textDecoder options payloads arrivals := by
  have one : ¬1 < options.adjusted.streamCount := by
    rw [adjusted_streams mode, single]
    decide
  have messages := receive_single (new_hearing mode) safe configured one (fun _ => rfl)
    brings.carrying fun arrival here => fits _ (brings.member arrival here)
  rw [BinaryOnce, messages, ← single_payloads single interleaves brings, List.map_map]
  exact List.Perm.refl _

theorem once_several (mode : options.mode = .text) (many : 1 < options.streamCount)
    (safe : options.binaryCommand ≤ 2 ^ 53 - 1) (prompt : Prompt options arrivals)
    (configured : BinaryConfigured options.adjusted textDecoder)
    (fits : BinaryFits options payload)
    (interleaves : Interleaves (binaryWrites options [payload]) arrivals)
    (brings : Brings options [payload] payloadOf arrivals) :
    BinaryOnce textDecoder options [payload] arrivals := by
  have several := configured_several mode many configured
  rcases payload_arrives (Nat.le_of_lt many) interleaves (List.mem_singleton_self payload) with
    ⟨some, arrived, -⟩
  rcases arrivals with _ | ⟨arrival, later⟩
  · exact absurd arrived List.not_mem_nil
  · have carrying := brings.carrying
    rw [Carrying, List.forall_mem_cons] at carrying
    have same := List.mem_singleton.mp (brings.member arrival List.mem_cons_self)
    rw [same] at carrying
    have going : (newWebTransportWS options textDecoder true).ended arrival.stream = false := rfl
    rcases read_binary_first (@new_hearing Text options textDecoder mode) safe several rfl going fits
      (prompt arrival List.mem_cons_self) with ⟨after, seen, heard⟩
    rw [BinaryOnce, receive_cons, carrying.1, receive_seen after safe several seen carrying.2, heard]
    exact List.Perm.refl _

/-- Exactly when binary data is delivered once per call. -/
theorem binary_once_iff (mode : options.mode = .text) (streams : 1 ≤ options.streamCount)
    (safe : options.binaryCommand ≤ 2 ^ 53 - 1)
    (interleaves : Interleaves (sendBinaries payloads
      (newWebTransportWS options textDecoder senderOnmessage)).written arrivals)
    (prompt : 1 < options.streamCount → Prompt options arrivals) :
    BinaryOnce textDecoder options payloads arrivals ↔ payloads = [] ∨
      BinaryConfigured options.adjusted textDecoder ∧
        (∀ payload ∈ payloads, BinaryFits options payload) ∧
        (options.streamCount = 1 ∨ payloads.length = 1) := by
  rw [binary_written mode] at interleaves
  rcases arrivals_bring interleaves with ⟨payloadOf, brings⟩
  constructor
  · intro once
    by_cases present : payloads = []
    · exact .inl present
    have configured := once_configured mode safe present brings once
    have few : options.streamCount = 1 ∨ payloads.length = 1 := by
      have some := List.length_pos_iff.mpr present
      rcases Nat.eq_or_lt_of_le streams with single | many
      · exact .inl single.symm
      · have few := once_few mode many safe (prompt many) configured brings once
        exact .inr (by omega)
    exact .inr ⟨configured, once_fits mode streams few interleaves brings once, few⟩
  · rintro (rfl | ⟨configured, fits, few⟩)
    · rcases arrivals with _ | ⟨arrival, later⟩
      · exact List.Perm.refl _
      · exact absurd (brings.member arrival List.mem_cons_self) List.not_mem_nil
    · rcases Nat.eq_or_lt_of_le streams with single | many
      · exact once_single mode single.symm safe configured fits interleaves brings
      · rcases List.length_eq_one_iff.mp (few.resolve_left (by omega)) with ⟨only, rfl⟩
        exact once_several mode many safe (prompt many) configured
          (fits only (List.mem_singleton_self only)) interleaves brings

end Once

/-- One payload on two streams. -/
theorem one_payload_once :
    BinaryOnce (some decodeUtf8) (twoStreams 16) [[0xff, 0x2c]]
      [⟨1, encode [0xff, 0x2c] (some 19), 3, fun _ => 3⟩,
        ⟨0, encode [0xff, 0x2c] (some 19), 40000, fun _ => 40000⟩] := by
  apply (@binary_once_iff String (twoStreams 16) [[0xff, 0x2c]] (some decodeUtf8) true
    [⟨1, encode [0xff, 0x2c] (some 19), 3, fun _ => 3⟩,
      ⟨0, encode [0xff, 0x2c] (some 19), 40000, fun _ => 40000⟩]
    rfl (by decide) (by decide) _ _).mpr
  · refine .inr ⟨.inl ⟨rfl, by decide, ?_⟩, ?_, .inr rfl⟩
    · exact fun pings => absurd pings Bool.false_ne_true
    · simp only [List.mem_singleton, forall_eq]
      decide
  · rintro (_ | _ | stream)
    · rfl
    · rfl
    · rw [binary_written rfl]
      simp [binaryWrites, twoStreams, defaultOptions]
      omega
  · exact fun _ => by decide

def oneStream (bufferSize : Nat) : WebTransportWSOptions :=
  { twoStreams bufferSize with streamCount := 1 }

def AlwaysOnce (options : WebTransportWSOptions) : Prop :=
  ∀ payloads arrivals, Interleaves (sendBinaries payloads
      (newWebTransportWS options (some decodeUtf8) true)).written arrivals →
    Prompt options arrivals → BinaryOnce (some decodeUtf8) options payloads arrivals

/-- By default the receiver takes the data for a text; on two streams it takes the second
payload for a copy of the first. -/
theorem binary_not_always_once : ¬AlwaysOnce (oneStream 16) ∧ ¬AlwaysOnce (twoStreams 16) := by
  constructor
  · intro always
    have once := always [[1]] [⟨0, encode [1] (some 19), 0, fun _ => 0⟩]
      (by rintro (_ | stream) <;> rfl) (by decide)
    have heard : (receiveAll [⟨0, encode [1] (some 19), 0, fun _ => 0⟩]
        (newWebTransportWS (oneStream 16) (some decodeUtf8) true)).messages.map
          MessageEvent.binary = [false] := by decide +kernel
    have flags := once.map MessageEvent.binary
    rw [heard] at flags
    exact absurd (flags.mem_iff.mp (List.mem_singleton_self false)) (by decide)
  · intro always
    have once := always [[1], [2]]
      [⟨0, encode [1] (some 19), 0, fun _ => 0⟩, ⟨0, encode [2] (some 19), 0, fun _ => 0⟩,
        ⟨1, encode [1] (some 19), 0, fun _ => 0⟩, ⟨1, encode [2] (some 19), 0, fun _ => 0⟩]
      (by rintro (_ | _ | stream) <;> rfl) (by decide)
    have few : (receiveAll
        [⟨0, encode [1] (some 19), 0, fun _ => 0⟩, ⟨0, encode [2] (some 19), 0, fun _ => 0⟩,
          ⟨1, encode [1] (some 19), 0, fun _ => 0⟩, ⟨1, encode [2] (some 19), 0, fun _ => 0⟩]
        (newWebTransportWS (twoStreams 16) (some decodeUtf8) true)).messages.length = 1 := by
      decide +kernel
    exact absurd (few.symm.trans once.length_eq) (by decide)

end WebTransportGos.Helper
