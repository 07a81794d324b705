import WebTransportGos.Helper.WebTransportWS

/-!
Texts from one WebTransportWS to another, each on several streams: from the command numbers
of the sender over the frames of the streams to the window of commands that the receiver has
seen. A frame arrives in one piece, and the frames of different streams in any order.
-/

namespace WebTransportGos.Helper

open Decimal Framing SeenWindow

set_option autoImplicit false

variable {Text : Type*}

structure Sending (Text : Type*) where
  text : Text
  writers : List Nat

structure Sent (Text : Type*) where
  message : Message
  text : Text

def sendAll (textEncoder : Text → List UInt8) (sendings : List (Sending Text))
    (socket : WebTransportWS Text) : WebTransportWS Text :=
  sendings.foldl (fun socket sending => socket.sendTo textEncoder sending.writers sending.text)
    socket

def sentMessages (textEncoder : Text → List UInt8) :
    List (Sending Text) → WebTransportWS Text → List (Sent Text)
  | [], _ => []
  | sending :: later, socket =>
      ⟨⟨textEncoder sending.text, some socket.getTextCommand.1.toNat⟩, sending.text⟩ ::
        sentMessages textEncoder later
          (socket.sendTo textEncoder sending.writers sending.text)

section Sender

variable {textEncoder : Text → List UInt8} {socket : WebTransportWS Text}

/-- A sender of texts with commands. -/
structure Numbering (socket : WebTransportWS Text) : Prop where
  mode : socket.options.mode = .text
  enabled : socket.options.enableCommand = true

theorem send_to_eq (numbering : Numbering socket) (writers : List Nat) (text : Text) :
    socket.sendTo textEncoder writers text = { socket with
      textCommandPointer := socket.getTextCommand.2.textCommandPointer
      written := socket.written ++ writers.map fun stream =>
        (stream, Message.encode ⟨textEncoder text, some socket.textCommandPointer⟩) } := by
  rw [WebTransportWS.sendTo, if_neg (by simp [numbering.mode]), WebTransportWS.getTextCommand,
    if_neg (by simp [numbering.enabled])]
  rfl

theorem text_command_eq (numbering : Numbering socket) :
    socket.getTextCommand.1.toNat = socket.textCommandPointer := by
  rw [WebTransportWS.getTextCommand, if_neg (by simp [numbering.enabled])]
  rfl

/-- Up to the end of the range every message gets the next number. -/
theorem sent_messages_numbered (numbering : Numbering socket) (sendings : List (Sending Text))
    (few : socket.textCommandPointer + sendings.length ≤ socket.options.textCommandEnd + 1) :
    (sentMessages textEncoder sendings socket).map (fun sent => sent.message.cmd) =
      (List.range' socket.textCommandPointer sendings.length).map some := by
  induction sendings generalizing socket with
  | nil => rfl
  | cons sending later induction =>
      rw [List.length_cons] at few
      rw [sentMessages, List.map_cons, List.length_cons, List.range'_succ, List.map_cons,
        text_command_eq numbering]
      congr 1
      rw [send_to_eq numbering]
      cases later with
      | nil => rfl
      | cons next later =>
          rw [List.length_cons] at few
          have pointer : socket.getTextCommand.2.textCommandPointer =
              socket.textCommandPointer + 1 := by
            rw [WebTransportWS.getTextCommand, if_neg (by simp [numbering.enabled])]
            exact if_neg (by omega)
          rw [pointer]
          apply induction
          · exact ⟨numbering.mode, numbering.enabled⟩
          · dsimp only
            rw [List.length_cons]
            omega

theorem sent_messages_encoded (sendings : List (Sending Text)) :
    ∀ sent ∈ sentMessages textEncoder sendings socket,
      sent.message.payload = textEncoder sent.text := by
  induction sendings generalizing socket with
  | nil => exact fun sent member => absurd member List.not_mem_nil
  | cons sending later induction =>
      rw [sentMessages, List.forall_mem_cons]
      exact ⟨rfl, induction⟩

variable (textEncoder) in
theorem send_to_numbering (numbering : Numbering socket) (writers : List Nat) (text : Text) :
    Numbering (socket.sendTo textEncoder writers text) := by
  rw [send_to_eq numbering]
  exact ⟨numbering.mode, numbering.enabled⟩

theorem send_all_keeps (numbering : Numbering socket) (sendings : List (Sending Text)) :
    socket.written ⊆ (sendAll textEncoder sendings socket).written := by
  induction sendings generalizing socket with
  | nil => exact List.Subset.refl _
  | cons sending later induction =>
      have after := induction (send_to_numbering textEncoder numbering sending.writers sending.text)
      apply List.Subset.trans _ after
      rw [send_to_eq numbering]
      exact List.subset_append_left _ _

theorem send_all_only (numbering : Numbering socket) (sendings : List (Sending Text)) :
    ∀ write ∈ (sendAll textEncoder sendings socket).written, write ∈ socket.written ∨
      ∃ sent ∈ sentMessages textEncoder sendings socket, write.2 = sent.message.encode := by
  induction sendings generalizing socket with
  | nil => exact fun write member => .inl member
  | cons sending later induction =>
      intro write member
      rw [sentMessages, text_command_eq numbering]
      rcases induction (send_to_numbering textEncoder numbering sending.writers sending.text) write
        member with before | ⟨sent, present, same⟩
      · rw [send_to_eq numbering] at before
        rcases List.mem_append.mp before with earlier | now
        · exact .inl earlier
        · rcases List.mem_map.mp now with ⟨stream, -, rfl⟩
          exact .inr ⟨_, List.mem_cons_self, rfl⟩
      · exact .inr ⟨sent, List.mem_cons_of_mem _ present, same⟩

theorem send_all_reaches (numbering : Numbering socket) (sendings : List (Sending Text))
    (targets : ∀ sending ∈ sendings, sending.writers ≠ []) :
    ∀ sent ∈ sentMessages textEncoder sendings socket, ∃ stream,
      (stream, sent.message.encode) ∈ (sendAll textEncoder sendings socket).written := by
  induction sendings generalizing socket with
  | nil => exact fun sent member => absurd member List.not_mem_nil
  | cons sending later induction =>
      simp only [List.mem_cons, forall_eq_or_imp] at targets
      have still := send_to_numbering textEncoder numbering sending.writers sending.text
      intro sent member
      rw [sentMessages, text_command_eq numbering] at member
      rcases List.mem_cons.mp member with rfl | further
      · rcases List.exists_mem_of_ne_nil _ targets.1 with ⟨stream, target⟩
        refine ⟨stream, send_all_keeps still later ?_⟩
        rw [send_to_eq numbering]
        exact List.mem_append_right _ (List.mem_map_of_mem target)
      · exact induction still targets.2 sent further

end Sender

/-- A frame on a stream, and the clock from then on. -/
structure Arrival where
  stream : Nat
  frame : List UInt8
  time : Int
  clock : Nat → Int

def receiveAll (arrivals : List Arrival) (socket : WebTransportWS Text) : WebTransportWS Text :=
  arrivals.foldl (fun socket arrival =>
    socket.readChunk (fun _ => arrival.clock) arrival.stream arrival.frame) socket

structure Ready (room : Nat) (netString : NetString) : Prop where
  enabled : netString.options.enableCommand = true
  capacity : netString.options.bufferSize = room
  sound : netString.ringBuffer.Sound
  size : netString.ringBuffer.size = room
  contents : netString.ringBuffer.contents = []

/-- A whole frame is delivered and leaves the decoder between two frames again. -/
theorem decode_frame {room : Nat} {netString : NetString} (ready : Ready room netString)
    {message : Message} (suits : message.Suits true) (short : message.Short)
    (fits : message.encode.length ≤ room) :
    (netString.decode message.encode).delivered.map Decoded.carried = [message.carried] ∧
      (netString.decode message.encode).thrown = none ∧
      Ready room
        { netString with ringBuffer := (netString.decode message.encode).ringBuffer } := by
  have between : Between netString :=
    ⟨ready.sound, ready.size.trans ready.capacity.symm, ready.contents⟩
  have room : message.encode.length ≤ netString.options.bufferSize := by
    rwa [ready.capacity]
  have read : readBody netString.options.enableCommand message.body = some message := by
    rw [ready.enabled]
    exact read_body_written suits
  rcases decode_found between room short read with ⟨one, unthrown, after⟩
  exact ⟨one, unthrown, ready.enabled, ready.capacity, after.sound,
    after.size.trans ready.capacity, after.contents⟩

section Receiver

variable {socket : WebTransportWS Text} {textDecoder : List UInt8 → Text}

/-- A receiver of texts on several streams, between two frames on each. -/
structure Listening (textDecoder : List UInt8 → Text) (socket : WebTransportWS Text) : Prop where
  mode : socket.options.mode = .text
  many : 1 < socket.options.streamCount
  onmessage : socket.onmessage = true
  textDecoder : socket.textDecoder = some textDecoder
  going : ∀ stream, socket.ended stream = false
  ready : ∀ stream, Ready socket.options.bufferSize (socket.netStrings stream)

structure TextCommand (options : WebTransportWSOptions) (cmd : Nat) : Prop where
  low : options.textCommandStart ≤ cmd
  high : cmd ≤ options.textCommandEnd
  binary : (cmd : Int) ≠ options.binaryCommand
  ping : (cmd : Int) ≠ options.pingCommand
  serverPing : (cmd : Int) ≠ options.serverPingCommand

theorem on_decode_text (listening : Listening textDecoder socket) {payload serialized : List UInt8}
    {cmd : Nat} (textual : TextCommand socket.options cmd) (clock : Nat → Int) (index : Nat) :
    socket.onDecodeMessage clock index ⟨some payload, serialized, some cmd⟩ =
      .ok (if socket.commands.seen cmd then socket
        else { socket with
          messages := socket.messages ++ [⟨.text (textDecoder payload), false⟩]
          commands := admitKey socket.options.commandTimeout clock socket.commands cmd }) := by
  have inRange : WebTransportWS.isMessageCommand socket.options cmd = true := by
    simp [WebTransportWS.isMessageCommand, textual.low, textual.high]
  have delivered : socket.deliver ⟨some payload, serialized, some cmd⟩ =
      { socket with messages := socket.messages ++ [⟨.text (textDecoder payload), false⟩] } := by
    have notBinary : ¬(some cmd).map Int.ofNat = some socket.options.binaryCommand := by
      intro same
      exact textual.binary (Option.some.inj same)
    simp only [WebTransportWS.deliver, listening.onmessage, listening.textDecoder, if_true,
      if_neg notBinary, Option.getD_some]
  simp only [WebTransportWS.onDecodeMessage, textual.ping, textual.serverPing, false_and, if_false,
    inRange, if_true, listening.many]
  rw [delivered]
  cases socket.commands.seen cmd with
  | true => rfl
  | false => rfl

def decodedOn (socket : WebTransportWS Text) (index : Nat) (value : List UInt8) :
    WebTransportWS Text :=
  let ringBuffer := ((socket.netStrings index).decode value).ringBuffer
  let netString : NetString := { socket.netStrings index with ringBuffer := ringBuffer }
  { socket with netStrings := Function.update socket.netStrings index netString }

theorem decoded_on_listening {index : Nat} {value : List UInt8}
    (listening : Listening textDecoder socket)
    (ready : Ready socket.options.bufferSize { socket.netStrings index with
      ringBuffer := ((socket.netStrings index).decode value).ringBuffer }) :
    Listening textDecoder (decodedOn socket index value) where
  mode := listening.mode
  many := listening.many
  onmessage := listening.onmessage
  textDecoder := listening.textDecoder
  going := listening.going
  ready stream := by
    rw [decodedOn]
    dsimp only
    by_cases here : stream = index
    · rw [here, Function.update_self]
      exact ready
    · rw [Function.update_of_ne here]
      exact listening.ready stream

theorem read_chunk_eq {after : WebTransportWS Text} {clock : Nat → Int} {index : Nat}
    {value : List UInt8} {decoded : Decoded} (listening : Listening textDecoder socket)
    (delivered : ((socket.netStrings index).decode value).delivered = [decoded])
    (unthrown : ((socket.netStrings index).decode value).thrown = none)
    (called : (decodedOn socket index value).onDecodeMessage clock index decoded = .ok after) :
    socket.readChunk (fun _ => clock) index value = after := by
  have taken : WebTransportWS.onDecodeMessages (fun _ => clock) index 0
      ((socket.netStrings index).decode value).delivered (decodedOn socket index value) =
        (none, after) := by
    rw [delivered, WebTransportWS.onDecodeMessages, called]
    rfl
  rw [decodedOn] at taken
  rw [WebTransportWS.readChunk, if_neg (by simp [listening.going]), if_pos listening.mode]
  dsimp only at taken ⊢
  rw [taken, unthrown]
  rfl

structure Carries (options : WebTransportWSOptions) (message : Message) (cmd : Nat)
    (bytes : List UInt8) : Prop where
  frame : bytes = message.encode
  command : message.cmd = some cmd
  textual : TextCommand options cmd
  short : message.Short
  fits : bytes.length ≤ options.bufferSize

structure Took (textDecoder : List UInt8 → Text) (clock : Nat → Int) (payload : List UInt8)
    (cmd : Nat) (socket next : WebTransportWS Text) : Prop where
  listening : Listening textDecoder next
  options : next.options = socket.options
  messages : next.messages = if socket.commands.seen cmd then socket.messages
    else socket.messages ++ [⟨.text (textDecoder payload), false⟩]
  commands : next.commands = if socket.commands.seen cmd then socket.commands
    else admitKey socket.options.commandTimeout clock socket.commands cmd

theorem read_frame (listening : Listening textDecoder socket) {message : Message} {cmd : Nat}
    {frame : List UInt8} (carries : Carries socket.options message cmd frame)
    (clock : Nat → Int) (stream : Nat) :
    Took textDecoder clock message.payload cmd socket
      (socket.readChunk (fun _ => clock) stream frame) := by
  rcases carries with ⟨rfl, command, textual, short, fits⟩
  have suits : message.Suits true := by
    refine ⟨by rw [command]; rfl, ?_⟩
    intro other present
    rw [command] at present
    cases present
    exact textual.high.trans socket.options.safe
  rcases decode_frame (listening.ready stream) suits short fits with ⟨one, unthrown, ready⟩
  rcases List.map_eq_singleton_iff.mp one with ⟨⟨payload, serialized, found⟩, delivered, same⟩
  rw [Message.carried, command] at same
  cases same
  have still := decoded_on_listening listening ready
  have called := @on_decode_text Text _ textDecoder still message.payload serialized cmd textual
    clock stream
  rw [read_chunk_eq listening delivered unthrown called]
  have same : (decodedOn socket stream message.encode).commands = socket.commands := rfl
  rw [same]
  cases seen : socket.commands.seen cmd with
  | true => exact ⟨still, rfl, by rw [seen]; rfl, by rw [seen]; rfl⟩
  | false =>
      refine ⟨?_, rfl, by rw [seen]; rfl, by rw [seen]; rfl⟩
      exact ⟨still.mode, still.many, still.onmessage, still.textDecoder, still.going, still.ready⟩

/-- Behind every frame the messages are those of the commands admitted. -/
theorem receive_all_messages (listening : Listening textDecoder socket) {arrivals : List Arrival}
    {message : Arrival → Message} {cmd : Arrival → Nat}
    (carries : ∀ arrival ∈ arrivals,
      Carries socket.options (message arrival) (cmd arrival) arrival.frame) :
    (receiveAll arrivals socket).messages = socket.messages ++
      (admitted cmd Arrival.clock socket.options.commandTimeout socket.commands arrivals).map
        fun arrival => ⟨.text (textDecoder (message arrival).payload), false⟩ := by
  induction arrivals generalizing socket with
  | nil => exact (List.append_nil _).symm
  | cons arrival arrivals induction =>
      rw [List.forall_mem_cons] at carries
      have took := read_frame listening carries.1 arrival.clock arrival.stream
      have later := carries.2
      rw [← took.options] at later
      rw [receiveAll, List.foldl_cons]
      apply (induction took.listening later).trans
      rw [took.options, took.messages, took.commands, admitted]
      cases socket.commands.seen (cmd arrival) with
      | true => rfl
      | false => exact List.append_assoc _ _ _

end Receiver

/-- The frames that arrive on each stream are those written to it, in their order. -/
def Interleaves (written : List (Nat × List UInt8)) (arrivals : List Arrival) : Prop :=
  ∀ stream, (arrivals.filter fun arrival => arrival.stream = stream).map Arrival.frame =
    (written.filter fun write => write.1 = stream).map Prod.snd

theorem Interleaves.arrived_iff {written : List (Nat × List UInt8)} {arrivals : List Arrival}
    (interleaves : Interleaves written arrivals) (stream : Nat) (frame : List UInt8) :
    (∃ arrival ∈ arrivals, arrival.stream = stream ∧ arrival.frame = frame) ↔
      (stream, frame) ∈ written := by
  have both : frame ∈ (arrivals.filter fun arrival => arrival.stream = stream).map Arrival.frame ↔
      frame ∈ (written.filter fun write => write.1 = stream).map Prod.snd := by
    rw [interleaves stream]
  simp only [List.mem_map, List.mem_filter, decide_eq_true_eq, Prod.exists,
    exists_eq_right] at both
  simpa [and_assoc] using both

section Ends

variable {options : WebTransportWSOptions} {senderDecoder : Option (List UInt8 → Text)}
  {senderOnmessage : Bool} {textEncoder : Text → List UInt8} {textDecoder : List UInt8 → Text}
  {sendings : List (Sending Text)} {arrivals : List Arrival}

theorem adjusted_text (mode : options.mode = .text) (many : 1 < options.streamCount) :
    options.adjusted.enableCommand = true ∧ options.adjusted.streamCount = options.streamCount := by
  have several : ¬options.mode = .stream := by
    rw [mode]
    decide
  rw [WebTransportWSOptions.adjusted]
  dsimp only
  rw [if_neg several, if_pos many]
  exact ⟨rfl, rfl⟩

variable (senderDecoder senderOnmessage) in
theorem new_numbering (mode : options.mode = .text) (many : 1 < options.streamCount) :
    Numbering (newWebTransportWS options senderDecoder senderOnmessage) where
  mode := mode
  enabled := (adjusted_text mode many).1

theorem new_listening (mode : options.mode = .text) (many : 1 < options.streamCount) :
    Listening textDecoder (newWebTransportWS options (some textDecoder) true) where
  mode := mode
  many := by
    rw [← (adjusted_text mode many).2] at many
    exact many
  onmessage := rfl
  textDecoder := rfl
  going _ := rfl
  ready _ := ⟨(adjusted_text mode many).1, rfl, RingBuffer.new_sound _ _, rfl, rfl⟩

def Apart (options : WebTransportWSOptions) : Prop :=
  ∀ cmd : Nat, options.textCommandStart ≤ cmd → cmd ≤ options.textCommandEnd →
    (cmd : Int) ≠ options.binaryCommand ∧ (cmd : Int) ≠ options.pingCommand ∧
      (cmd : Int) ≠ options.serverPingCommand

/-- The messages of so many calls have different commands of texts. -/
theorem sent_commands (mode : options.mode = .text) (many : 1 < options.streamCount)
    (apart : Apart options)
    (few : options.textCommandStart + sendings.length ≤ options.textCommandEnd + 1) :
    ((sentMessages textEncoder sendings
        (newWebTransportWS options senderDecoder senderOnmessage)).map
          fun sent => sent.message.cmd).Nodup ∧
      ∀ sent ∈ sentMessages textEncoder sendings
          (newWebTransportWS options senderDecoder senderOnmessage),
        ∃ cmd, sent.message.cmd = some cmd ∧ TextCommand options.adjusted cmd := by
  have numbered := @sent_messages_numbered Text textEncoder _
    (new_numbering senderDecoder senderOnmessage mode many) sendings few
  constructor
  · rw [numbered]
    exact List.Nodup.map (Option.some_injective _) List.nodup_range'
  · intro sent member
    have command := List.mem_map_of_mem (f := fun sent => sent.message.cmd) member
    rw [numbered] at command
    rcases List.mem_map.mp command with ⟨cmd, inside, same⟩
    rw [List.mem_range'_1] at inside
    have low : options.textCommandStart ≤ cmd := inside.1
    have high : cmd < options.textCommandStart + sendings.length := inside.2
    rcases apart cmd low (by omega) with ⟨binary, ping, serverPing⟩
    exact ⟨cmd, same.symm, low, by dsimp only [WebTransportWSOptions.adjusted]; omega, binary, ping,
      serverPing⟩

theorem sent_carries (mode : options.mode = .text) (many : 1 < options.streamCount)
    (apart : Apart options)
    (few : options.textCommandStart + sendings.length ≤ options.textCommandEnd + 1)
    {sent : Sent Text} (member : sent ∈ sentMessages textEncoder sendings
      (newWebTransportWS options senderDecoder senderOnmessage))
    (short : sent.message.Short) {bytes : List UInt8} (frame : bytes = sent.message.encode)
    (fits : bytes.length ≤ options.bufferSize) :
    ∃ cmd, Carries options.adjusted sent.message cmd bytes := by
  rcases (sent_commands mode many apart few).2 sent member with ⟨cmd, command, textual⟩
  exact ⟨cmd, frame, command, textual, short, fits⟩

theorem arrival_sent (mode : options.mode = .text) (many : 1 < options.streamCount)
    (interleaves : Interleaves (sendAll textEncoder sendings
      (newWebTransportWS options senderDecoder senderOnmessage)).written arrivals) :
    ∀ arrival ∈ arrivals, ∃ sent ∈ sentMessages textEncoder sendings
      (newWebTransportWS options senderDecoder senderOnmessage),
        arrival.frame = sent.message.encode := by
  intro arrival member
  have write := (interleaves.arrived_iff arrival.stream arrival.frame).mp
    ⟨arrival, member, rfl, rfl⟩
  rcases send_all_only (new_numbering senderDecoder senderOnmessage mode many) sendings _ write
    with before | found
  · exact absurd before List.not_mem_nil
  · exact found

theorem sent_arrives (mode : options.mode = .text) (many : 1 < options.streamCount)
    (targets : ∀ sending ∈ sendings, sending.writers ≠ [])
    (interleaves : Interleaves (sendAll textEncoder sendings
      (newWebTransportWS options senderDecoder senderOnmessage)).written arrivals) :
    ∀ sent ∈ sentMessages textEncoder sendings
      (newWebTransportWS options senderDecoder senderOnmessage),
        ∃ arrival ∈ arrivals, arrival.frame = sent.message.encode := by
  intro sent member
  rcases send_all_reaches (new_numbering senderDecoder senderOnmessage mode many) sendings targets
    sent member with ⟨stream, write⟩
  rcases (interleaves.arrived_iff stream _).mpr write with ⟨arrival, arrived, -, frame⟩
  exact ⟨arrival, arrived, frame⟩

theorem carries_suits {message : Message} {cmd : Nat} {bytes : List UInt8}
    (carries : Carries options message cmd bytes) : message.Suits true where
  enabled := by
    rw [carries.command]
    rfl
  safe other present := by
    rw [carries.command] at present
    cases present
    exact carries.textual.high.trans options.safe

/-- A command, a frame and a message sent are known by each other. -/
theorem carries_iff {all : List (Sent Text)}
    (distinct : (all.map fun sent => sent.message.cmd).Nodup) {sent other : Sent Text}
    (member : sent ∈ all) (member' : other ∈ all) {cmd cmd' : Nat} {bytes bytes' : List UInt8}
    (carries : Carries options sent.message cmd bytes)
    (carries' : Carries options other.message cmd' bytes') :
    (cmd = cmd' ↔ bytes = bytes') ∧ (bytes = bytes' → sent = other) := by
  have one (same : sent.message.cmd = other.message.cmd) : sent = other :=
    List.inj_on_of_nodup_map distinct member member' same
  have commands (same : bytes = bytes') : sent.message.cmd = other.message.cmd := by
    rw [carries.frame, carries'.frame] at same
    rw [(parse_complete true).unique ⟨carries_suits carries, carries.short⟩
      ⟨carries_suits carries', carries'.short⟩ same]
  refine ⟨⟨?_, ?_⟩, fun same => one (commands same)⟩
  · intro same
    rw [carries.frame, carries'.frame, one]
    rw [carries.command, carries'.command, same]
  · intro same
    have equal := commands same
    rw [carries.command, carries'.command] at equal
    exact Option.some.inj equal

theorem arrivals_carry (mode : options.mode = .text) (many : 1 < options.streamCount)
    (apart : Apart options)
    (few : options.textCommandStart + sendings.length ≤ options.textCommandEnd + 1)
    (short : ∀ sent ∈ sentMessages textEncoder sendings
      (newWebTransportWS options senderDecoder senderOnmessage), sent.message.Short)
    (fits : ∀ arrival ∈ arrivals, arrival.frame.length ≤ options.bufferSize)
    (inverse : ∀ text, textDecoder (textEncoder text) = text)
    (known : ∀ arrival ∈ arrivals, ∃ sent ∈ sentMessages textEncoder sendings
      (newWebTransportWS options senderDecoder senderOnmessage),
        arrival.frame = sent.message.encode) :
    ∀ arrival ∈ arrivals, ∃ message cmd, Carries options.adjusted message cmd arrival.frame ∧
      ⟨message, textDecoder message.payload⟩ ∈ sentMessages textEncoder sendings
        (newWebTransportWS options senderDecoder senderOnmessage) := by
  intro arrival here
  obtain ⟨sent, member, frame⟩ := known arrival here
  obtain ⟨cmd, carries⟩ :=
    sent_carries mode many apart few member (short sent member) frame (fits arrival here)
  refine ⟨sent.message, cmd, carries, ?_⟩
  rw [sent_messages_encoded sendings sent member, inverse]
  exact member

/-- The texts of which a copy arrives are delivered once each, in the order of the first ones. -/
theorem arrived_delivered (mode : options.mode = .text) (many : 1 < options.streamCount)
    (apart : Apart options)
    (few : options.textCommandStart + sendings.length ≤ options.textCommandEnd + 1)
    (short : ∀ sent ∈ sentMessages textEncoder sendings
      (newWebTransportWS options senderDecoder senderOnmessage), sent.message.Short)
    (fits : ∀ arrival ∈ arrivals, arrival.frame.length ≤ options.bufferSize)
    (inverse : ∀ text, textDecoder (textEncoder text) = text)
    (known : ∀ arrival ∈ arrivals, ∃ sent ∈ sentMessages textEncoder sendings
      (newWebTransportWS options senderDecoder senderOnmessage),
        arrival.frame = sent.message.encode)
    (timely : Timely Arrival.frame Arrival.time Arrival.clock options.commandTimeout arrivals) :
    ∃ order : List (Sent Text), order.Nodup ∧
      (∀ sent, sent ∈ order ↔ sent ∈ sentMessages textEncoder sendings
        (newWebTransportWS options senderDecoder senderOnmessage) ∧
        ∃ arrival ∈ arrivals, arrival.frame = sent.message.encode) ∧
      order.map (fun sent => sent.message.encode) = (arrivals.map Arrival.frame).eraseDups ∧
      (receiveAll arrivals (newWebTransportWS options (some textDecoder) true)).messages =
        order.map fun sent => ⟨.text sent.text, false⟩ := by
  have nonempty : Nonempty Message := ⟨⟨[], none⟩⟩
  have brought := arrivals_carry mode many apart few short fits inverse known
  choose! message cmd carries present using brought
  have distinct := (@sent_commands Text options senderDecoder senderOnmessage textEncoder sendings
    mode many apart few).1
  have agree : ∀ item ∈ arrivals, ∀ other ∈ arrivals,
      cmd item = cmd other ↔ item.frame = other.frame := by
    intro item here other there
    exact (carries_iff distinct (present item here) (present other there) (carries item here)
      (carries other there)).1
  have timed : Timely cmd Arrival.time Arrival.clock options.commandTimeout arrivals := by
    refine ⟨timely.readings, timely.ordered, ?_⟩
    apply timely.copies.imp_of_mem
    intro item later here there close same
    exact close ((agree item here later there).mp same)
  -- what the window admits are the first copies, and they are delivered in that order
  let firsts := admitted cmd Arrival.clock options.commandTimeout empty arrivals
  have inside : firsts ⊆ arrivals := (admitted_sublist empty arrivals).subset
  have names : firsts.map Arrival.frame = (arrivals.map Arrival.frame).eraseDups :=
    admitted_first agree timed
  let sentOf (arrival : Arrival) : Sent Text :=
    ⟨message arrival, textDecoder (message arrival).payload⟩
  have frames : (firsts.map sentOf).map (fun sent => sent.message.encode) =
      (arrivals.map Arrival.frame).eraseDups := by
    rw [← names, List.map_map]
    apply List.map_congr_left
    intro arrival member
    exact (carries arrival (inside member)).frame.symm
  refine ⟨firsts.map sentOf, ?_, ?_, frames, ?_⟩
  · apply List.Nodup.of_map fun sent => sent.message.encode
    rw [frames]
    exact nodup_erase_dups _
  · intro sent
    constructor
    · intro delivered
      obtain ⟨arrival, member, same⟩ := List.mem_map.mp delivered
      rw [← same]
      exact ⟨present arrival (inside member), arrival, inside member,
        (carries arrival (inside member)).frame⟩
    · intro arrived
      obtain ⟨member, arrival, here, frame⟩ := arrived
      have reached : arrival.frame ∈ firsts.map Arrival.frame := by
        rw [names, List.mem_eraseDups]
        exact List.mem_map_of_mem here
      obtain ⟨first, found, same⟩ := List.mem_map.mp reached
      obtain ⟨command, carried⟩ :=
        sent_carries mode many apart few member (short sent member) frame (fits arrival here)
      have equal : sentOf first = sent := (carries_iff distinct (present first (inside found))
        member (carries first (inside found)) carried).2 same
      rw [← equal]
      exact List.mem_map_of_mem found
  · have listening := @new_listening Text options textDecoder mode many
    rw [receive_all_messages listening carries, List.map_map]
    rfl

/-- Every text is given to `onmessage` once, in the order of the first arrivals. -/
theorem texts_delivered_once (mode : options.mode = .text) (many : 1 < options.streamCount)
    (apart : Apart options)
    (few : options.textCommandStart + sendings.length ≤ options.textCommandEnd + 1)
    (targets : ∀ sending ∈ sendings, sending.writers ≠ [])
    (short : ∀ sent ∈ sentMessages textEncoder sendings
      (newWebTransportWS options senderDecoder senderOnmessage), sent.message.Short)
    (fits : ∀ arrival ∈ arrivals, arrival.frame.length ≤ options.bufferSize)
    (inverse : ∀ text, textDecoder (textEncoder text) = text)
    (interleaves : Interleaves (sendAll textEncoder sendings
      (newWebTransportWS options senderDecoder senderOnmessage)).written arrivals)
    (timely : Timely Arrival.frame Arrival.time Arrival.clock options.commandTimeout arrivals) :
    ∃ order : List (Sent Text),
      order.Perm (sentMessages textEncoder sendings
        (newWebTransportWS options senderDecoder senderOnmessage)) ∧
      order.map (fun sent => sent.message.encode) = (arrivals.map Arrival.frame).eraseDups ∧
      (receiveAll arrivals (newWebTransportWS options (some textDecoder) true)).messages =
        order.map fun sent => ⟨.text sent.text, false⟩ := by
  obtain ⟨order, once, delivered, frames, messages⟩ := arrived_delivered mode many apart few short
    fits inverse (arrival_sent mode many interleaves) timely
  have distinct := (@sent_commands Text options senderDecoder senderOnmessage textEncoder sendings
    mode many apart few).1
  refine ⟨order, ?_, frames, messages⟩
  apply (List.perm_ext_iff_of_nodup once (List.Nodup.of_map _ distinct)).mpr
  intro sent
  rw [delivered]
  constructor
  · intro both
    exact both.1
  · intro member
    exact ⟨member, sent_arrives mode many targets interleaves sent member⟩

end Ends

/-- TextEncoder on a well-formed text. -/
def encodeUtf8 (text : String) : List UInt8 := text.toByteArray.data.toList

/-- TextDecoder on the UTF-8 of a text without a byte order mark. -/
def decodeUtf8 (bytes : List UInt8) : String := (String.fromUTF8? ⟨bytes.toArray⟩).getD ""

theorem decode_encode_utf8 (text : String) : decodeUtf8 (encodeUtf8 text) = text := by
  rw [decodeUtf8, encodeUtf8, Array.toArray_toList, String.fromUTF8?]
  rw [dif_pos text.isValidUTF8]
  rfl

def twoStreams (bufferSize : Nat) : WebTransportWSOptions :=
  { defaultOptions with streamCount := 2, bufferSize := bufferSize }

theorem two_streams_apart (bufferSize : Nat) : Apart (twoStreams bufferSize) := by
  intro cmd low _
  simp only [twoStreams, defaultOptions] at low ⊢
  omega

/-- The second text arrives first, on the stream that the first text does not use. -/
theorem two_texts_delivered :
    let arrivals : List Arrival :=
      [⟨1, Message.encode ⟨[0x62], some 21⟩, 5, fun _ => 5⟩,
        ⟨0, Message.encode ⟨[0x61], some 20⟩, 7, fun _ => 7⟩,
        ⟨0, Message.encode ⟨[0x62], some 21⟩, 30005, fun _ => 30005⟩]
    ∃ order : List (Sent String),
      order.Perm [⟨⟨[0x61], some 20⟩, "a"⟩, ⟨⟨[0x62], some 21⟩, "b"⟩] ∧
      order.map (fun sent => sent.message.encode) = (arrivals.map Arrival.frame).eraseDups ∧
      (receiveAll arrivals
          (newWebTransportWS (twoStreams 8) (some decodeUtf8) true)).messages =
        order.map fun sent => ⟨.text sent.text, false⟩ := by
  intro arrivals
  have bytes : encodeUtf8 "a" = [0x61] ∧ encodeUtf8 "b" = [0x62] := by decide +kernel
  have sent : sentMessages encodeUtf8 [⟨"a", [0]⟩, ⟨"b", [0, 1]⟩]
      (newWebTransportWS (twoStreams 8) none false) =
        [⟨⟨[0x61], some 20⟩, "a"⟩, ⟨⟨[0x62], some 21⟩, "b"⟩] := by
    rw [← bytes.1, ← bytes.2]
    rfl
  have written : (sendAll encodeUtf8 [⟨"a", [0]⟩, ⟨"b", [0, 1]⟩]
      (newWebTransportWS (twoStreams 8) none false)).written =
        [(0, Message.encode ⟨[0x61], some 20⟩), (0, Message.encode ⟨[0x62], some 21⟩),
          (1, Message.encode ⟨[0x62], some 21⟩)] := by
    rw [← bytes.1, ← bytes.2]
    rfl
  rw [← sent]
  apply texts_delivered_once
  · rfl
  · decide
  · exact two_streams_apart 8
  · decide
  · decide
  · rw [sent]
    decide
  · decide +kernel
  · exact decode_encode_utf8
  · rw [written]
    rintro (_ | _ | stream)
    · rfl
    · rfl
    · simp [arrivals]
  · constructor
    · simp [arrivals]
    · simp [arrivals]
    · simp [arrivals, twoStreams, defaultOptions]

theorem long_text_exists (count : Nat) : ∃ text, (encodeUtf8 text).length = count := by
  refine ⟨String.ofList (List.replicate count 'a'), ?_⟩
  have one : 'a'.utf8Size = 1 := by decide
  rw [encodeUtf8, String.toByteArray_ofList, List.utf8Encode, List.toList_data_toByteArray,
    List.length_flatMap, List.map_replicate, List.sum_replicate, String.length_utf8EncodeChar, one]
  exact Nat.mul_one count

theorem long_frame_lost {message : Message} (long : ¬message.Short) (time : Int)
    (clock : Nat → Int) :
    (receiveAll [⟨0, message.encode, time, clock⟩] (newWebTransportWS
      (twoStreams message.encode.length) (some decodeUtf8) true)).messages = [] := by
  have refused := @long_length_throws message long ⟨message.encode.length, true, 0⟩ (Nat.le_refl _)
  generalize started : newWebTransportWS (twoStreams message.encode.length) (some decodeUtf8) true =
    socket
  have delivered : ((socket.netStrings 0).decode message.encode).delivered = [] := by
    rw [← started]
    exact refused.1
  have thrown : ((socket.netStrings 0).decode message.encode).thrown =
      some "length is more than 9 digits" := by
    rw [← started]
    exact refused.2
  have going : socket.ended 0 = false := by rw [← started]; rfl
  have mode : socket.options.mode = .text := by rw [← started]; rfl
  have nothing : socket.messages = [] := by rw [← started]; rfl
  rw [receiveAll, List.foldl_cons, List.foldl_nil, WebTransportWS.readChunk, going, mode]
  dsimp only
  rw [delivered, thrown]
  exact nothing

theorem alone_interleaves (text : String) (bufferSize : Nat) (time : Int) (clock : Nat → Int) :
    Interleaves (sendAll encodeUtf8 [⟨text, [0]⟩]
      (newWebTransportWS (twoStreams bufferSize) (some decodeUtf8) true)).written
      [⟨0, Message.encode ⟨encodeUtf8 text, some 20⟩, time, clock⟩] := by
  rintro (_ | stream)
  · rfl
  · rfl

theorem alone_timely (arrival : Arrival) (timeout : Int)
    (reading : ∀ tick, arrival.time ≤ arrival.clock tick) :
    Timely Arrival.frame Arrival.time Arrival.clock timeout [arrival] where
  readings item member := by
    rw [List.mem_singleton.mp member]
    exact reading
  ordered := List.pairwise_singleton _ _
  copies := List.pairwise_singleton _ _

/-- A text of 10^10 bytes is sent, and the receiver refuses its length. -/
theorem long_text_not_delivered : ¬∀ (options : WebTransportWSOptions)
    (textEncoder : String → List UInt8) (textDecoder : List UInt8 → String)
    (sendings : List (Sending String)) (arrivals : List Arrival),
    options.mode = .text → 1 < options.streamCount → Apart options →
    options.textCommandStart + sendings.length ≤ options.textCommandEnd + 1 →
    (∀ sending ∈ sendings, sending.writers ≠ []) →
    (∀ arrival ∈ arrivals, arrival.frame.length ≤ options.bufferSize) →
    (∀ text, textDecoder (textEncoder text) = text) →
    Interleaves (sendAll textEncoder sendings
      (newWebTransportWS options (some textDecoder) true)).written arrivals →
    Timely Arrival.frame Arrival.time Arrival.clock options.commandTimeout arrivals →
    ∃ order : List (Sent String),
      order.Perm (sentMessages textEncoder sendings
        (newWebTransportWS options (some textDecoder) true)) ∧
      order.map (fun sent => sent.message.encode) = (arrivals.map Arrival.frame).eraseDups ∧
      (receiveAll arrivals (newWebTransportWS options (some textDecoder) true)).messages =
        order.map fun sent => ⟨.text sent.text, false⟩ := by
  intro delivers
  rcases long_text_exists (10 ^ 10) with ⟨text, length⟩
  have long : ¬Message.Short ⟨encodeUtf8 text, some 20⟩ := by
    simp only [Message.Short, Message.body, List.length_append, List.length_cons, length]
    omega
  rcases delivers (twoStreams _) encodeUtf8 decodeUtf8 [⟨text, [0]⟩] _ rfl (Nat.lt_succ_self 1)
    (two_streams_apart _) (show 20 + 1 ≤ 2 ^ 31 - 1 + 1 by decide) (by simp)
    (List.forall_mem_singleton.mpr (Nat.le_refl _)) decode_encode_utf8
    (alone_interleaves text _ 0 fun _ => 0) (alone_timely _ _ fun _ => Int.le_refl _) with
    ⟨order, all, -, messages⟩
  rw [long_frame_lost long] at messages
  rw [List.map_eq_nil_iff.mp messages.symm] at all
  exact absurd all.length_eq Nat.zero_ne_one

end WebTransportGos.Helper
