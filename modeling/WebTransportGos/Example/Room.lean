import WebTransportGos.Helper.Ping
import WebTransportGos.Helper.Delivery
import Mathlib.Algebra.Group.Nat.Defs

/-!
example/server/server.go, path `/room`, and a WebTransportWS that talks to it over one stream.
The server's goroutine reads netstrings with a package and writes each back as it came, so that
the client gets its own messages, and its pings as answers to them. When `ReadNext` fails it
leaves its loop and closes the stream: the client then reads `done` behind the last byte.

A step of the server is a `Read` behind which `ReadNext` has been called as often as it returned;
the bytes on their way are those written and not yet read. The connection does not break: no write
fails, and no read of the client.
-/

namespace WebTransportGos.Room

open Framing Helper

set_option autoImplicit false

/-- `ReadNext` on the bytes at hand; of a message it finds the echo needs `Serialized`. -/
abbrev ReadNext := List UInt8 → Parsed UInt8 (List UInt8) String

def Netstring (bytes : List UInt8) : Prop :=
  ∃ message : Message, message.Suits true ∧ message.Short ∧ message.cmd ≠ some 0 ∧
    bytes = message.encode

/-- As documented: a netstring is returned once it is there, and before that the call blocks. -/
abbrev Documented (readNext : ReadNext) : Prop := Complete readNext id Netstring

/-- `oncloseRuns` counts how often the read loop has called `onclose`. -/
structure Client (Text : Type*) where
  socket : WebTransportWS Text
  pinging : Pinging
  oncloseRuns : Nat

def newClient {Text : Type*} (options : WebTransportWSOptions) (textDecoder : List UInt8 → Text)
    (onPing : Bool) (pingInterval clock : Nat) : Client Text where
  socket := newWebTransportWS options (some textDecoder) true
  pinging := { newPinging options.enablePing onPing pingInterval clock with writers := some 1 }
  oncloseRuns := 0

namespace Client

variable {Text : Type*}

def isOpen (client : Client Text) : Bool := client.pinging.writers.isSome

/-- The frame of every ping that is new goes to the first writer. -/
def pinged (client : Client Text) (after : Pinging) : Client Text where
  socket := { client.socket with
    written := client.socket.written ++ (after.pings.drop client.pinging.pings.length).map
      fun now => (0, Pinging.frame client.socket.options.pingCommand now) }
  pinging := after
  oncloseRuns := client.oncloseRuns

def answerAll (options : WebTransportWSOptions) : List Decoded → Pinging → Pinging
  | [], pinging => pinging
  | decoded :: later, pinging =>
      if decoded.cmd.map Int.ofNat = some options.pingCommand ∧ options.enablePing then
        let after := pinging.reply (decoded.payload.getD [])
        if (decoded.payload.getD []).length % 8 = 0 then answerAll options later after else after
      else answerAll options later pinging

def leave (client : Client Text) : Client Text where
  socket := { client.socket with ended := Function.update client.socket.ended 0 true }
  pinging := client.pinging
  oncloseRuns := client.oncloseRuns + 1

/-- One chunk in the read loop. Behind `close` there is no decoder, which throws. -/
def read (value : List UInt8) (client : Client Text) : Client Text :=
  if client.socket.ended 0 then client
  else if !client.isOpen then client.leave
  else
    let decoding := (client.socket.netStrings 0).decode value
    let socket := client.socket.readChunk (fun _ _ => client.pinging.clock) 0 value
    { socket := socket
      pinging := answerAll client.socket.options decoding.delivered client.pinging
      oncloseRuns := if socket.ended 0 then client.oncloseRuns + 1 else client.oncloseRuns }

def done (client : Client Text) : Client Text :=
  if client.socket.ended 0 then client else client.leave

end Client

/-- `kept` is what `ReadNext` has read of the next message, none when the server has closed the
stream; `returned` is what the server has written, and `sent` what the application has sent. -/
structure State (Text : Type*) where
  client : Client Text
  read : Nat
  kept : Option (List UInt8)
  returned : List UInt8
  arrived : Nat
  sent : List (MessageEvent Text)

inductive Event (Text : Type*) where
  | own (event : Pinging.Event)
  | send (text : Text)
  | sendBinary (payload : List UInt8)
  | echo (count : Nat)
  /-- A `Read` of the server fails. -/
  | stops
  | chunk (count : Nat)
  | done

variable {Text : Type*}

def State.uplink (state : State Text) : List UInt8 :=
  state.client.socket.written.flatMap Prod.snd

def newRoom (client : Client Text) : State Text where
  client := client
  read := 0
  kept := some []
  returned := []
  arrived := 0
  sent := []

def echo (readNext : ReadNext) (bytes : List UInt8) (state : State Text) : State Text :=
  match state.kept with
  | none => state
  | some kept =>
      let (found, rest) := drain readNext ((kept ++ bytes).length + 1) (kept ++ bytes)
      { state with
        kept := rest.toOption
        returned := state.returned ++ found.flatMap id }

/-- Behind `close` a call of `send` logs an error, and writes nothing. -/
def step (readNext : ReadNext) (textEncoder : Text → List UInt8) (state : State Text) :
    Event Text → Option (State Text)
  | .own (.ready _) => none
  | .own (.reply _) => none
  | .own event => (state.client.pinging.step event).map fun after =>
      { state with client := state.client.pinged after }
  | .send text =>
      if state.client.isOpen then some { state with
        client := { state.client with socket := state.client.socket.send textEncoder text }
        sent := state.sent ++ [⟨.text text, false⟩] }
      else some state
  | .sendBinary payload =>
      if state.client.isOpen then some { state with
        client := { state.client with socket := state.client.socket.sendBinary payload }
        sent := state.sent ++ [⟨.bytes payload, true⟩] }
      else some state
  | .echo count =>
      if state.read + count ≤ state.uplink.length then
        some { echo readNext ((state.uplink.drop state.read).take count) state with
          read := state.read + count }
      else none
  | .stops => some { state with kept := none }
  | .chunk count =>
      if state.arrived + count ≤ state.returned.length then some { state with
        client := state.client.read ((state.returned.drop state.arrived).take count)
        arrived := state.arrived + count }
      else none
  | .done =>
      if state.kept = none ∧ state.arrived = state.returned.length then
        some { state with client := state.client.done }
      else none

/-- Text mode over one stream with commands, which are apart from each other and not 0. -/
structure Suited (options : WebTransportWSOptions) : Prop where
  mode : options.mode = .text
  single : options.streamCount = 1
  commands : options.enableCommand = true
  texts : 0 < options.textCommandStart ∧ options.textCommandStart ≤ options.textCommandEnd
  binary : 0 < options.binaryCommand ∧ options.binaryCommand ≤ 2 ^ 53 - 1
  binaryApart : ∀ cmd : Nat, options.textCommandStart ≤ cmd → cmd ≤ options.textCommandEnd →
    (cmd : Int) ≠ options.binaryCommand
  ping : 0 < options.pingCommand ∧ options.pingCommand ≤ 2 ^ 53 - 1
  pingApart : ∀ cmd : Nat, (cmd : Int) = options.pingCommand ∨ (cmd : Int) = options.serverPingCommand →
    WebTransportWS.isMessageCommand options cmd = false
  pings : options.pingCommand ≠ options.serverPingCommand
  bufferSize : options.bufferSize ≤ 10 ^ 10

def Fitting (state : State Text) (event : Event Text) (next : State Text) : Prop :=
  (∀ write ∈ next.client.socket.written,
    write.2.length ≤ next.client.socket.options.bufferSize) ∧
    ∀ count, event = .chunk count →
      (state.client.socket.netStrings 0).ringBuffer.length + count ≤
        state.client.socket.options.bufferSize

instance (state : State Text) (event : Event Text) (next : State Text) :
    Decidable (Fitting state event next) :=
  have (count : Nat) : Decidable ((state.client.socket.netStrings 0).ringBuffer.length + count ≤
      state.client.socket.options.bufferSize) := Nat.decLe _ _
  have : Decidable (∀ count, event = .chunk count →
      (state.client.socket.netStrings 0).ringBuffer.length + count ≤
        state.client.socket.options.bufferSize) :=
    match event with
    | .chunk count => decidable_of_iff _
        ⟨fun fits other same => by cases same; exact fits, fun fits => fits count rfl⟩
    | .own _ | .send _ | .sendBinary _ | .echo _ | .stops | .done =>
        isTrue fun count impossible => by cases impossible
  inferInstanceAs (Decidable (_ ∧ _))

def pingMessage (options : WebTransportWSOptions) (now : Nat) : Message :=
  ⟨Double.bytes now, some options.pingCommand.toNat⟩

inductive Sendable (options : WebTransportWSOptions) : Message → Prop where
  | ping (now : Nat) (small : now < 2 ^ 53) : Sendable options (pingMessage options now)
  | message (payload : List UInt8) (cmd : Nat)
      (known : WebTransportWS.isMessageCommand options cmd = true) :
      Sendable options ⟨payload, some cmd⟩

def event (options : WebTransportWSOptions) (textDecoder : List UInt8 → Text) (payload : List UInt8)
    (cmd : Nat) : MessageEvent Text :=
  if (cmd : Int) = options.binaryCommand then ⟨.bytes payload, true⟩
  else ⟨.text (textDecoder payload), false⟩

def shownOf (options : WebTransportWSOptions) (textDecoder : List UInt8 → Text) (message : Message) :
    Option (MessageEvent Text) :=
  message.cmd.bind fun cmd =>
    if WebTransportWS.isMessageCommand options cmd then some (event options textDecoder message.payload cmd)
    else none

section Frames

variable {options : WebTransportWSOptions} {message : Message}

theorem Suited.ping_cast (suited : Suited options) :
    (options.pingCommand.toNat : Int) = options.pingCommand :=
  Int.toNat_of_nonneg (Int.le_of_lt suited.ping.1)

theorem frame_ping (suited : Suited options) (now : Nat) :
    Pinging.frame options.pingCommand now = (pingMessage options now).encode := by
  have same : some options.pingCommand = (some options.pingCommand.toNat).map Int.ofNat := by
    rw [Option.map_some, Int.ofNat_eq_natCast, suited.ping_cast]
  rw [Pinging.frame, Message.encode, pingMessage, ← same]

theorem message_command_range (suited : Suited options) {cmd : Nat}
    (known : WebTransportWS.isMessageCommand options cmd = true) : 0 < cmd ∧ cmd ≤ 2 ^ 53 - 1 := by
  have texts := suited.texts
  have binary := suited.binary
  have safe := options.safe
  simp only [WebTransportWS.isMessageCommand, decide_eq_true_eq] at known
  omega

theorem Sendable.command (suited : Suited options) (sendable : Sendable options message) :
    ∃ cmd, message.cmd = some cmd ∧ 0 < cmd ∧ cmd ≤ 2 ^ 53 - 1 := by
  cases sendable with
  | ping now small =>
      have ping := suited.ping
      have cast := suited.ping_cast
      exact ⟨_, rfl, by omega, by omega⟩
  | message payload cmd known => exact ⟨cmd, rfl, message_command_range suited known⟩

theorem Sendable.suits (suited : Suited options) (sendable : Sendable options message) :
    message.Suits true := by
  obtain ⟨cmd, same, -, safe⟩ := sendable.command suited
  constructor
  · rw [same]
    rfl
  · intro other present
    rw [same] at present
    cases present
    exact safe

theorem short_of_length (fits : message.encode.length ≤ 10 ^ 10) : message.Short := by
  rw [encode_eq, List.length_append, List.length_cons, List.length_append] at fits
  rw [Message.Short]
  omega

theorem Sendable.netstring (suited : Suited options) (sendable : Sendable options message)
    (fits : message.encode.length ≤ options.bufferSize) : Netstring message.encode := by
  obtain ⟨cmd, same, positive, -⟩ := sendable.command suited
  refine ⟨message, sendable.suits suited, short_of_length (fits.trans suited.bufferSize), ?_, rfl⟩
  rw [same]
  intro zero
  cases zero
  exact Nat.lt_irrefl 0 positive

theorem shown_ping (suited : Suited options) (textDecoder : List UInt8 → Text) (now : Nat) :
    shownOf options textDecoder (pingMessage options now) = none := by
  have other := suited.pingApart options.pingCommand.toNat (.inl suited.ping_cast)
  simp [shownOf, pingMessage, other]

theorem shown_message (textDecoder : List UInt8 → Text) {payload : List UInt8} {cmd : Nat}
    (known : WebTransportWS.isMessageCommand options cmd = true) :
    shownOf options textDecoder ⟨payload, some cmd⟩ = some (event options textDecoder payload cmd) := by
  simp [shownOf, known]

theorem shown_cons (textDecoder : List UInt8 → Text) (messages : List Message) :
    (message :: messages).filterMap (shownOf options textDecoder) =
      (shownOf options textDecoder message).toList ++
        messages.filterMap (shownOf options textDecoder) := by
  cases shown : shownOf options textDecoder message with
  | none =>
      rw [List.filterMap_cons_none shown]
      rfl
  | some _ =>
      rw [List.filterMap_cons_some shown]
      rfl

end Frames

section Chunk

variable {socket : WebTransportWS Text} {textDecoder : List UInt8 → Text} {pinging : Pinging}
  {decodeds : List Decoded} {messages : List Message}

theorem on_decode_sendable (suited : Suited socket.options)
    (decoder : socket.textDecoder = some textDecoder) (listens : socket.onmessage = true)
    {decoded : Decoded} {message : Message} (sendable : Sendable socket.options message)
    (same : decoded.carried = message.carried) (clock : Nat → Int) :
    socket.onDecodeMessage clock 0 decoded = .ok { socket with
      messages := socket.messages ++ (shownOf socket.options textDecoder message).toList } := by
  obtain ⟨payload, serialized, cmd⟩ := decoded
  cases same
  cases sendable with
  | ping now small =>
      have other := suited.pingApart _ (.inl suited.ping_cast)
      have whole : (Double.bytes now).length % 8 = 0 := by rw [Double.bytes_length]
      rw [shown_ping suited]
      simp only [pingMessage, WebTransportWS.onDecodeMessage, suited.ping_cast, true_and,
        Option.getD_some, Option.toList_none, List.append_nil, suited.pings, false_and, if_false]
      split
      · exact if_pos whole
      · rw [if_neg (by rw [other]; decide)]
  | message payload cmd known =>
      have noPing : (cmd : Int) ≠ socket.options.pingCommand := by
        intro ping
        rw [suited.pingApart cmd (.inl ping)] at known
        cases known
      have noServerPing : (cmd : Int) ≠ socket.options.serverPingCommand := by
        intro ping
        rw [suited.pingApart cmd (.inr ping)] at known
        cases known
      have alone : ¬1 < socket.options.streamCount := by
        rw [suited.single]
        decide
      rw [shown_message textDecoder known]
      simp only [WebTransportWS.onDecodeMessage, noPing, noServerPing, false_and, if_false, known,
        if_true, alone]
      rw [WebTransportWS.deliver, if_pos listens, decoder]
      simp only [event, Option.map_some, Option.getD_some, Int.ofNat_eq_natCast, Option.some.injEq,
        Option.toList_some]

theorem on_decode_all (suited : Suited socket.options)
    (decoder : socket.textDecoder = some textDecoder) (listens : socket.onmessage = true)
    (sendable : ∀ message ∈ messages, Sendable socket.options message)
    (same : decodeds.map Decoded.carried = messages.map Message.carried)
    (clocks : Nat → Nat → Int) (call : Nat) :
    WebTransportWS.onDecodeMessages clocks 0 call decodeds socket =
      (none, { socket with
        messages := socket.messages ++ messages.filterMap (shownOf socket.options textDecoder) }) := by
  induction decodeds generalizing messages socket call with
  | nil =>
      rw [List.map_nil] at same
      rw [List.map_eq_nil_iff.mp same.symm, WebTransportWS.onDecodeMessages, List.filterMap_nil,
        List.append_nil]
  | cons decoded later induction =>
      cases messages with
      | nil => cases same
      | cons message messages =>
          rw [List.map_cons, List.map_cons] at same
          obtain ⟨first, others⟩ := List.cons.inj same
          rw [List.forall_mem_cons] at sendable
          have taken := on_decode_sendable suited decoder listens sendable.1 first (clocks call)
          rw [WebTransportWS.onDecodeMessages, taken]
          dsimp only
          rw [@induction { socket with
              messages := socket.messages ++ (shownOf socket.options textDecoder message).toList }
            messages suited decoder listens sendable.2 others, List.append_assoc, shown_cons]

theorem read_chunk_shows (suited : Suited socket.options)
    (decoder : socket.textDecoder = some textDecoder) (listens : socket.onmessage = true)
    (going : socket.ended 0 = false) {bytes : List UInt8}
    (unthrown : ((socket.netStrings 0).decode bytes).thrown = none)
    (sendable : ∀ message ∈ messages, Sendable socket.options message)
    (same : ((socket.netStrings 0).decode bytes).delivered.map Decoded.carried =
      messages.map Message.carried)
    (clocks : Nat → Nat → Int) :
    socket.readChunk clocks 0 bytes = { socket with
      netStrings := Function.update socket.netStrings 0 { socket.netStrings 0 with
        ringBuffer := ((socket.netStrings 0).decode bytes).ringBuffer }
      messages := socket.messages ++ messages.filterMap (shownOf socket.options textDecoder) } := by
  have shows := @on_decode_all Text { socket with
      netStrings := Function.update socket.netStrings 0 { socket.netStrings 0 with
        ringBuffer := ((socket.netStrings 0).decode bytes).ringBuffer } }
    textDecoder _ messages suited decoder listens sendable same clocks 0
  rw [WebTransportWS.readChunk, if_neg (by simp [going]), if_pos suited.mode]
  dsimp only at shows ⊢
  rw [shows, unthrown]
  rfl

theorem answer_ping {options : WebTransportWSOptions} (suited : Suited options) (now : Nat)
    (serialized : List UInt8) : Client.answerAll options
        (⟨some (Double.bytes now), serialized, some options.pingCommand.toNat⟩ :: decodeds) pinging =
      Client.answerAll options decodeds
        (if options.enablePing then pinging.reply (Double.bytes now) else pinging) := by
  have whole : (Double.bytes now).length % 8 = 0 := by rw [Double.bytes_length]
  have isPing : (some options.pingCommand.toNat).map Int.ofNat = some options.pingCommand := by
    rw [Option.map_some, Int.ofNat_eq_natCast, suited.ping_cast]
  rw [Client.answerAll]
  simp only [isPing, true_and, Option.getD_some, whole, if_true]
  split
  · rfl
  · rfl

theorem answer_message {options : WebTransportWSOptions} (suited : Suited options)
    {payload serialized : List UInt8} {cmd : Nat}
    (known : WebTransportWS.isMessageCommand options cmd = true) :
    Client.answerAll options (⟨some payload, serialized, some cmd⟩ :: decodeds) pinging =
      Client.answerAll options decodeds pinging := by
  rw [Client.answerAll, if_neg]
  intro both
  rw [suited.pingApart cmd (.inl (Option.some.inj both.1))] at known
  cases known

/-- What the answers to pings leave: every ping among these messages is waited for no more. -/
structure Answered (options : WebTransportWSOptions) (messages : List Message)
    (pinging after : Pinging) : Prop where
  sound : after.Sound
  pings : after.pings = pinging.pings
  writers : after.writers = pinging.writers
  faults : after.faults = pinging.faults
  clock : after.clock = pinging.clock
  waits : ∀ map, after.pingStartTimestamp = some map →
    ∃ before, pinging.pingStartTimestamp = some before ∧ ∀ entry ∈ map, entry ∈ before ∧
      (options.enablePing = true → ∀ now < 2 ^ 53, pingMessage options now ∈ messages → entry.1 ≠ now)

theorem answered_none (options : WebTransportWSOptions) (sound : pinging.Sound) :
    Answered options [] pinging pinging := by
  refine ⟨sound, rfl, rfl, rfl, rfl, ?_⟩
  intro map started
  refine ⟨map, started, ?_⟩
  intro entry member
  exact ⟨member, fun _ now small impossible => absurd impossible List.not_mem_nil⟩

theorem Answered.ping {options : WebTransportWSOptions} {after : Pinging} {now : Nat}
    (small : now < 2 ^ 53)
    (rest : Answered options messages
      (if options.enablePing then pinging.reply (Double.bytes now) else pinging) after) :
    Answered options (pingMessage options now :: messages) pinging after := by
  have same (other : Nat) (bound : other < 2 ^ 53)
      (equal : pingMessage options other = pingMessage options now) : other = now := by
    have bytes : Double.bytes other = Double.bytes now := congrArg Message.payload equal
    have found := Double.first_bytes bound
    rw [bytes, Double.first_bytes small] at found
    exact (Option.some.inj found).symm
  cases enabled : options.enablePing with
  | false =>
      rw [if_neg (by simp [enabled])] at rest
      refine ⟨rest.sound, rest.pings, rest.writers, rest.faults, rest.clock, ?_⟩
      intro map started
      obtain ⟨before, present, inside⟩ := rest.waits map started
      refine ⟨before, present, ?_⟩
      intro entry member
      refine ⟨(inside entry member).1, ?_⟩
      intro impossible
      rw [enabled] at impossible
      cases impossible
  | true =>
      obtain ⟨pings, writers, faults, clock, taken⟩ := @Pinging.reply_ping pinging now small
      rw [if_pos enabled] at rest
      refine ⟨rest.sound, rest.pings.trans pings, rest.writers.trans writers,
        rest.faults.trans faults, rest.clock.trans clock, ?_⟩
      intro map started
      obtain ⟨middle, present, inside⟩ := rest.waits map started
      obtain ⟨before, known, removed⟩ := taken middle present
      refine ⟨before, known, ?_⟩
      intro entry member
      obtain ⟨kept, absent⟩ := inside entry member
      obtain ⟨old, apart⟩ := removed entry kept
      refine ⟨old, ?_⟩
      intro _ other bound among
      rcases List.mem_cons.mp among with equal | later
      · rw [same other bound equal]
        exact apart
      · exact absent enabled other bound later

theorem Answered.message {options : WebTransportWSOptions} (suited : Suited options) {after : Pinging}
    {payload : List UInt8} {cmd : Nat}
    (known : WebTransportWS.isMessageCommand options cmd = true)
    (rest : Answered options messages pinging after) :
    Answered options (⟨payload, some cmd⟩ :: messages) pinging after := by
  refine ⟨rest.sound, rest.pings, rest.writers, rest.faults, rest.clock, ?_⟩
  intro map started
  obtain ⟨before, present, inside⟩ := rest.waits map started
  refine ⟨before, present, ?_⟩
  intro entry member
  obtain ⟨old, absent⟩ := inside entry member
  refine ⟨old, ?_⟩
  intro enabled now small among
  rcases List.mem_cons.mp among with equal | later
  · have command : some options.pingCommand.toNat = some cmd := congrArg Message.cmd equal
    cases command
    rw [suited.pingApart _ (.inl suited.ping_cast)] at known
    cases known
  · exact absent enabled now small later

theorem answer_all {options : WebTransportWSOptions} (suited : Suited options)
    (sound : pinging.Sound) (sendable : ∀ message ∈ messages, Sendable options message)
    (same : decodeds.map Decoded.carried = messages.map Message.carried) :
    Answered options messages pinging (Client.answerAll options decodeds pinging) := by
  induction decodeds generalizing messages pinging with
  | nil =>
      rw [List.map_nil] at same
      rw [List.map_eq_nil_iff.mp same.symm]
      exact answered_none options sound
  | cons decoded later induction =>
      cases messages with
      | nil => cases same
      | cons message messages =>
          rw [List.map_cons, List.map_cons] at same
          obtain ⟨first, others⟩ := List.cons.inj same
          rw [List.forall_mem_cons] at sendable
          obtain ⟨payload, serialized, cmd⟩ := decoded
          cases first
          cases sendable.1 with
          | ping now small =>
              have answered : (if options.enablePing then pinging.reply (Double.bytes now)
                  else pinging).Sound := by
                split
                · exact Pinging.reply_sound sound _
                · exact sound
              rw [pingMessage, answer_ping suited]
              exact (induction answered sendable.2 others).ping small
          | message payload cmd known =>
              rw [answer_message suited known]
              exact (induction sound sendable.2 others).message suited known

end Chunk

def State.receiver (state : State Text) : Receiver := ⟨state.client.socket.netStrings 0, [], none⟩

/-- Of the messages written some have been echoed, and of these some shown; the bytes on their
way belong to the others. A ping that is waited for has not been shown. -/
structure Sound (textDecoder : List UInt8 → Text) (written echoed shown : List Message)
    (state : State Text) : Prop where
  suited : Suited state.client.socket.options
  single : state.client.socket.options.autoStream = false
  decoder : state.client.socket.textDecoder = some textDecoder
  listens : state.client.socket.onmessage = true
  pointer : state.client.socket.options.textCommandStart ≤ state.client.socket.textCommandPointer ∧
    state.client.socket.textCommandPointer ≤ state.client.socket.options.textCommandEnd
  pinging : state.client.pinging.Sound
  clock : state.client.pinging.clock ≤ lastTime
  uplink : state.client.socket.written = written.map fun message => (0, message.encode)
  sendable : ∀ message ∈ written, Sendable state.client.socket.options message
  fitting : ∀ message ∈ written, message.encode.length ≤ state.client.socket.options.bufferSize
  sent : state.sent = written.filterMap (shownOf state.client.socket.options textDecoder)
  read : state.read ≤ state.uplink.length
  echoes : ∀ kept, state.kept = some kept →
    Conveys id (written.map Message.encode) (echoed.map Message.encode) kept
      (state.uplink.drop state.read)
  begins : echoed <+: written
  returned : state.returned = echoed.flatMap Message.encode
  arrived : state.arrived ≤ state.returned.length
  before : shown <+: echoed
  messages : state.client.socket.messages =
    shown.filterMap (shownOf state.client.socket.options textDecoder)
  reads : state.client.isOpen = true → state.client.socket.ended 0 = false →
    Intact state.receiver ∧
      (state.client.socket.netStrings 0).options =
        ⟨state.client.socket.options.bufferSize, true, 0⟩ ∧
      Conveys Message.encode echoed shown (state.client.socket.netStrings 0).ringBuffer.contents
        (state.returned.drop state.arrived)
  ends : state.client.isOpen = true → state.client.socket.ended 0 = true →
    state.kept = none ∧ state.arrived = state.returned.length
  left : state.client.oncloseRuns = if state.client.socket.ended 0 then 1 else 0
  faults : state.client.isOpen = true → state.client.pinging.faults = 0
  waits : state.client.socket.options.enablePing = true →
    ∀ map, state.client.pinging.pingStartTimestamp = some map → ∀ entry ∈ map,
      entry.1 < 2 ^ 53 ∧
        pingMessage state.client.socket.options entry.1 ∈ written.drop shown.length

section Steps

variable {textDecoder : List UInt8 → Text} {textEncoder : Text → List UInt8} {readNext : ReadNext}
  {written echoed shown : List Message} {state : State Text}

theorem uplink_eq (sound : Sound textDecoder written echoed shown state) :
    state.uplink = written.flatMap Message.encode := by
  rw [State.uplink, sound.uplink, List.flatMap_map]

theorem echo_stopped (stopped : state.kept = none) (bytes : List UInt8) :
    echo readNext bytes state = state := by
  rw [echo, stopped]

/-- The messages found are those of the client, and the bytes kept begin the next. -/
theorem echo_spec (documented : Documented readNext)
    (sound : Sound textDecoder written echoed shown state) {kept bytes unread : List UInt8}
    (reading : state.kept = some kept) (split : state.uplink.drop state.read = bytes ++ unread) :
    ∃ more rest, echo readNext bytes state = { state with
        kept := some rest, returned := state.returned ++ more.flatMap Message.encode } ∧
      echoed ++ more <+: written ∧
      Conveys id (written.map Message.encode) ((echoed ++ more).map Message.encode) rest unread := by
  have conveys := sound.echoes kept reading
  rw [split] at conveys
  have valid : ∀ bytes ∈ written.map Message.encode, Netstring bytes := by
    intro bytes member
    obtain ⟨message, sent, rfl⟩ := List.mem_map.mp member
    exact (sound.sendable message sent).netstring sound.suited (sound.fitting message sent)
  obtain ⟨rest, ended, after⟩ := conveys.read documented valid (Nat.lt_succ_self _)
  obtain ⟨others, behind⟩ := sound.begins
  obtain ⟨left, all, -⟩ := after.split
  generalize found : (drain readNext ((kept ++ bytes).length + 1) (kept ++ bytes)) = drained at *
  rw [← behind, List.map_append, List.append_assoc] at all
  obtain ⟨more, later, same, first, -⟩ :=
    List.map_eq_append_iff.mp (List.append_cancel_left all)
  refine ⟨more, rest, ?_, ?_, ?_⟩
  · rw [echo, reading]
    dsimp only
    rw [found, ended, ← first, List.flatMap_map]
    rfl
  · rw [← behind, same, ← List.append_assoc]
    exact List.prefix_append _ _
  · rw [List.map_append, first]
    exact after

theorem echo_sound (documented : Documented readNext)
    (sound : Sound textDecoder written echoed shown state) {count : Nat}
    (within : state.read + count ≤ state.uplink.length) :
    ∃ more, Sound textDecoder written more shown
      { echo readNext ((state.uplink.drop state.read).take count) state with
        read := state.read + count } := by
  cases reading : state.kept with
  | none =>
      rw [echo_stopped reading]
      refine ⟨echoed, { sound with read := within, echoes := ?_ }⟩
      intro kept impossible
      rw [reading] at impossible
      cases impossible
  | some kept =>
      have split : state.uplink.drop state.read = (state.uplink.drop state.read).take count ++
          state.uplink.drop (state.read + count) := by
        rw [← List.drop_drop, List.take_append_drop]
      obtain ⟨more, rest, taken, begins, conveys⟩ := echo_spec documented sound reading split
      rw [taken]
      refine ⟨echoed ++ more, { sound with
        read := within, echoes := ?_, begins := begins, returned := ?_, arrived := ?_
        before := sound.before.trans (List.prefix_append _ _), reads := ?_, ends := ?_ }⟩
      · intro other same
        cases same
        exact conveys
      · dsimp only
        rw [sound.returned, List.flatMap_append]
      · exact sound.arrived.trans (by rw [List.length_append]; exact Nat.le_add_right _ _)
      · intro opened going
        obtain ⟨intact, same, arriving⟩ := sound.reads opened going
        refine ⟨intact, same, ?_⟩
        dsimp only
        rw [List.drop_append_of_le_length sound.arrived]
        exact arriving.write fun message _ => encode_ne_nil message
      · intro opened ended
        cases reading.symm.trans (sound.ends opened ended).1

theorem stop_sound (sound : Sound textDecoder written echoed shown state) :
    Sound textDecoder written echoed shown { state with kept := none } :=
  { sound with
    echoes := fun kept impossible => by cases impossible
    ends := fun opened ended => ⟨rfl, (sound.ends opened ended).2⟩ }

/-- The read loop ends behind `close`, or when there is nothing more to come. -/
theorem leave_sound (sound : Sound textDecoder written echoed shown state)
    (going : state.client.socket.ended 0 = false)
    (last : state.client.isOpen = true →
      state.kept = none ∧ state.arrived = state.returned.length) :
    Sound textDecoder written echoed shown { state with client := state.client.leave } :=
  { sound with
    reads := fun _ impossible => by cases impossible
    ends := fun opened _ => last opened
    left := by
      have once := sound.left
      rw [going] at once
      exact congrArg (· + 1) once }

theorem done_sound (sound : Sound textDecoder written echoed shown state)
    (last : state.kept = none ∧ state.arrived = state.returned.length) :
    Sound textDecoder written echoed shown { state with client := state.client.done } := by
  rw [Client.done]
  split
  · exact sound
  next going => exact leave_sound sound (Bool.eq_false_iff.mpr going) fun _ => last

theorem read_spec (sound : Sound textDecoder written echoed shown state)
    (opened : state.client.isOpen = true) (going : state.client.socket.ended 0 = false)
    {bytes unread : List UInt8}
    (split : state.returned.drop state.arrived = bytes ++ unread)
    (fits : (state.client.socket.netStrings 0).ringBuffer.length + bytes.length ≤
      state.client.socket.options.bufferSize) :
    ∃ more netString after, state.client.read bytes = ⟨{ state.client.socket with
        netStrings := Function.update state.client.socket.netStrings 0 netString
        messages := state.client.socket.messages ++
          more.filterMap (shownOf state.client.socket.options textDecoder) }, after,
        state.client.oncloseRuns⟩ ∧
      shown ++ more <+: echoed ∧
      Answered state.client.socket.options more state.client.pinging after ∧
      Intact ⟨netString, [], none⟩ ∧
      netString.options = (state.client.socket.netStrings 0).options ∧
      Conveys Message.encode echoed (shown ++ more) netString.ringBuffer.contents unread := by
  obtain ⟨intact, same, conveys⟩ := sound.reads opened going
  have room : Fits state.receiver bytes state.receiver := by
    rw [Fits, State.receiver, same]
    exact fits
  obtain ⟨fuel, enough, matched⟩ := decode_matches intact room
  have valid : ∀ message ∈ echoed, message.Suits true ∧ message.Short := by
    intro message member
    have sent := sound.begins.subset member
    exact ⟨(sound.sendable message sent).suits sound.suited,
      short_of_length ((sound.fitting message sent).trans sound.suited.bufferSize)⟩
  rw [split] at conveys
  obtain ⟨rest, ended, after⟩ := conveys.read (parse_complete true) valid enough
  have enabled : state.receiver.netString.options.enableCommand = true := by
    rw [State.receiver, same]
  rw [enabled] at matched
  obtain ⟨unthrown, still, size, contents⟩ := matched.kept rest ended
  let decoding := (state.client.socket.netStrings 0).decode bytes
  let netString : NetString :=
    { state.client.socket.netStrings 0 with ringBuffer := decoding.ringBuffer }
  obtain ⟨more, found⟩ : ∃ more, (drain (parse true) fuel
      ((state.client.socket.netStrings 0).ringBuffer.contents ++ bytes)).1 = more := ⟨_, rfl⟩
  rw [found] at after
  have inside : ∀ message ∈ more, Sendable state.client.socket.options message := by
    intro message member
    apply sound.sendable message
    exact sound.begins.subset (after.found_prefix.subset (List.mem_append_right _ member))
  have delivered : decoding.delivered.map Decoded.carried = more.map Message.carried := by
    rw [← found]
    exact matched.delivered
  refine ⟨more, netString, Client.answerAll state.client.socket.options decoding.delivered
    state.client.pinging, ?_, after.found_prefix,
    answer_all sound.suited sound.pinging inside delivered, ⟨still, size⟩, rfl, ?_⟩
  · have shows := read_chunk_shows sound.suited sound.decoder sound.listens going unthrown inside
      delivered fun _ _ => state.client.pinging.clock
    rw [Client.read, if_neg (by simp [going]), if_neg (by simp [opened])]
    dsimp only
    rw [shows]
    dsimp only
    rw [going]
    rfl
  · rw [← contents] at after
    exact after

theorem chunk_read_sound (sound : Sound textDecoder written echoed shown state)
    (opened : state.client.isOpen = true) (going : state.client.socket.ended 0 = false)
    {count : Nat} (within : state.arrived + count ≤ state.returned.length)
    (fits : (state.client.socket.netStrings 0).ringBuffer.length + count ≤
      state.client.socket.options.bufferSize) :
    ∃ more, Sound textDecoder written echoed more { state with
      client := state.client.read ((state.returned.drop state.arrived).take count)
      arrived := state.arrived + count } := by
  have split : state.returned.drop state.arrived =
      (state.returned.drop state.arrived).take count ++
        state.returned.drop (state.arrived + count) := by
    rw [← List.drop_drop, List.take_append_drop]
  have length : ((state.returned.drop state.arrived).take count).length = count := by
    rw [List.length_take, List.length_drop]
    omega
  rw [← length] at fits
  obtain ⟨more, netString, after, taken, before, answered, intact, same, conveys⟩ :=
    read_spec sound opened going split fits
  obtain ⟨-, options, -⟩ := sound.reads opened going
  rw [taken]
  have writers : after.writers.isSome = true := by
    rw [answered.writers]
    exact opened
  refine ⟨shown ++ more, { sound with
    pinging := answered.sound, clock := ?_, arrived := within, before := before
    messages := ?_, reads := ?_, ends := ?_, faults := ?_, waits := ?_ }⟩
  · dsimp only
    rw [answered.clock]
    exact sound.clock
  · dsimp only
    rw [sound.messages, List.filterMap_append]
  · intro _ _
    dsimp only [State.receiver]
    rw [Function.update_self]
    exact ⟨intact, same.trans options, conveys⟩
  · intro _ ended
    cases going.symm.trans ended
  · intro _
    dsimp only
    rw [answered.faults]
    exact sound.faults opened
  · intro enabled map started entry member
    obtain ⟨earlier, present, inside⟩ := answered.waits map started
    obtain ⟨old, absent⟩ := inside entry member
    obtain ⟨small, behind⟩ := sound.waits enabled earlier present entry old
    refine ⟨small, ?_⟩
    obtain ⟨left, whole⟩ := before.trans sound.begins
    dsimp only
    rw [← whole, List.drop_left]
    rw [← whole, List.append_assoc, List.drop_left] at behind
    rcases List.mem_append.mp behind with among | later
    · exact absurd rfl (absent enabled entry.1 small among)
    · exact later

theorem chunk_sound (sound : Sound textDecoder written echoed shown state) {count : Nat}
    (within : state.arrived + count ≤ state.returned.length)
    (fits : (state.client.socket.netStrings 0).ringBuffer.length + count ≤
      state.client.socket.options.bufferSize) :
    ∃ more, Sound textDecoder written echoed more { state with
      client := state.client.read ((state.returned.drop state.arrived).take count)
      arrived := state.arrived + count } := by
  have moved (halted : state.client.isOpen = true → state.client.socket.ended 0 = true) :
      Sound textDecoder written echoed shown { state with arrived := state.arrived + count } := by
    refine { sound with arrived := within, reads := ?_, ends := ?_ }
    · intro opened going
      cases going.symm.trans (halted opened)
    · intro opened ended
      obtain ⟨closed, all⟩ := sound.ends opened ended
      refine ⟨closed, ?_⟩
      dsimp only
      omega
  cases going : state.client.socket.ended 0 with
  | true =>
      rw [Client.read, if_pos going]
      exact ⟨shown, moved fun _ => going⟩
  | false =>
      cases opened : state.client.isOpen with
      | false =>
          have never : state.client.isOpen ≠ true := by simp [opened]
          rw [Client.read, if_neg (by simp [going]), if_pos (by simp [opened])]
          exact ⟨shown, leave_sound (moved fun impossible => absurd impossible never) going
            fun impossible => absurd impossible never⟩
      | true => exact chunk_read_sound sound opened going within fits

structure Writes (more : List Message) (pointer : Nat) (client next : Client Text) : Prop where
  socket : next.socket = { client.socket with
    written := client.socket.written ++ more.map fun message => (0, message.encode)
    textCommandPointer := pointer }
  pointer : client.socket.options.textCommandStart ≤ pointer ∧
    pointer ≤ client.socket.options.textCommandEnd
  sendable : ∀ message ∈ more, Sendable client.socket.options message
  pinging : next.pinging.Sound
  clock : next.pinging.clock ≤ lastTime
  opens : next.isOpen = true → client.isOpen = true
  faults : next.isOpen = true → next.pinging.faults = client.pinging.faults
  oncloseRuns : next.oncloseRuns = client.oncloseRuns
  waits : ∀ map, next.pinging.pingStartTimestamp = some map → ∀ entry ∈ map,
    entry.1 < 2 ^ 53 ∧ pingMessage client.socket.options entry.1 ∈ more ∨
      ∃ before, client.pinging.pingStartTimestamp = some before ∧ entry ∈ before

theorem writes_sound (sound : Sound textDecoder written echoed shown state) {more : List Message}
    {pointer : Nat} {next : Client Text} (writes : Writes more pointer state.client next)
    (fits : ∀ write ∈ next.socket.written, write.2.length ≤ next.socket.options.bufferSize)
    {sent : List (MessageEvent Text)}
    (sends : sent = more.filterMap (shownOf state.client.socket.options textDecoder)) :
    Sound textDecoder (written ++ more) echoed shown
      { state with client := next, sent := state.sent ++ sent } := by
  obtain ⟨after, pings, runs⟩ := next
  obtain ⟨socket, range, sendable, pinging, clock, opens, faults, same, waits⟩ := writes
  dsimp only at socket pinging clock same waits fits
  subst socket same
  have all : state.client.socket.written ++ more.map (fun message => (0, message.encode)) =
      (written ++ more).map fun message => (0, message.encode) := by
    rw [sound.uplink, List.map_append]
  rw [all] at fits ⊢
  have longer : ((written ++ more).map fun message => (0, message.encode)).flatMap Prod.snd =
      state.uplink ++ more.flatMap Message.encode := by
    rw [uplink_eq sound, List.flatMap_map, List.flatMap_append]
  refine { sound with
    pointer := range, pinging := pinging, clock := clock, uplink := rfl, sendable := ?_
    fitting := ?_, sent := ?_, read := ?_, echoes := ?_
    begins := sound.begins.trans (List.prefix_append _ _), reads := ?_, ends := ?_, faults := ?_
    waits := ?_ }
  · intro message member
    rcases List.mem_append.mp member with old | new
    · exact sound.sendable message old
    · exact sendable message new
  · intro message member
    exact fits (0, message.encode) (List.mem_map_of_mem member)
  · dsimp only
    rw [sound.sent, sends, List.filterMap_append]
  · rw [State.uplink, longer, List.length_append]
    exact sound.read.trans (Nat.le_add_right _ _)
  · intro kept reading
    have nonempty : ∀ bytes ∈ more.map Message.encode, id bytes ≠ [] := by
      intro bytes member
      obtain ⟨message, -, rfl⟩ := List.mem_map.mp member
      exact encode_ne_nil message
    have conveys := (sound.echoes kept reading).write nonempty
    rw [List.flatMap_map] at conveys
    rw [State.uplink, longer, List.drop_append_of_le_length sound.read, List.map_append]
    exact conveys
  · intro opened
    exact sound.reads (opens opened)
  · intro opened
    exact sound.ends (opens opened)
  · intro opened
    exact (faults opened).trans (sound.faults (opens opened))
  · intro enabled map started entry member
    obtain ⟨left, whole⟩ := sound.before.trans sound.begins
    have within : shown.length ≤ written.length := by
      rw [← whole, List.length_append]
      exact Nat.le_add_right _ _
    rw [List.drop_append_of_le_length within]
    rcases waits map started entry member with ⟨small, new⟩ | ⟨before, present, old⟩
    · exact ⟨small, List.mem_append_right _ new⟩
    · obtain ⟨small, behind⟩ := sound.waits enabled before present entry old
      exact ⟨small, List.mem_append_left _ behind⟩

theorem send_writes (sound : Sound textDecoder written echoed shown state) (text : Text) :
    ∃ pointer cmd, WebTransportWS.isMessageCommand state.client.socket.options cmd = true ∧
      (cmd : Int) ≠ state.client.socket.options.binaryCommand ∧
      Writes [⟨textEncoder text, some cmd⟩] pointer state.client
        { state.client with socket := state.client.socket.send textEncoder text } := by
  obtain ⟨low, high⟩ := sound.pointer
  have texts := sound.suited.texts
  let cmd := state.client.socket.textCommandPointer
  let pointer := if state.client.socket.options.textCommandEnd < cmd + 1 then
    state.client.socket.options.textCommandStart else cmd + 1
  have known : WebTransportWS.isMessageCommand state.client.socket.options cmd = true := by
    simp [WebTransportWS.isMessageCommand, low, high, cmd]
  refine ⟨pointer, cmd, known, sound.suited.binaryApart cmd low high, ?_⟩
  have noStream : state.client.socket.options.mode ≠ .stream := by
    rw [sound.suited.mode]
    decide
  have written : state.client.socket.send textEncoder text = { state.client.socket with
      written := state.client.socket.written ++
        [(⟨textEncoder text, some cmd⟩ : Message)].map fun message => (0, message.encode)
      textCommandPointer := pointer } := by
    rw [WebTransportWS.send, WebTransportWS.sendTo, if_neg noStream, WebTransportWS.textWriters,
      sound.single, sound.suited.single, WebTransportWS.getTextCommand, sound.suited.commands]
    rfl
  refine ⟨written, ?_, ?_, sound.pinging, sound.clock, id, fun _ => rfl, rfl, ?_⟩
  · dsimp only [pointer]
    split
    · exact ⟨Nat.le_refl _, texts.2⟩
    · exact ⟨by omega, by omega⟩
  · intro message member
    rw [List.mem_singleton.mp member]
    exact .message _ _ known
  · intro map started entry member
    exact .inr ⟨map, started, member⟩

theorem send_binary_writes (sound : Sound textDecoder written echoed shown state)
    (payload : List UInt8) :
    ∃ cmd : Nat, WebTransportWS.isMessageCommand state.client.socket.options cmd = true ∧
      (cmd : Int) = state.client.socket.options.binaryCommand ∧
      Writes [⟨payload, some cmd⟩] state.client.socket.textCommandPointer state.client
        { state.client with socket := state.client.socket.sendBinary payload } := by
  have cast : (state.client.socket.options.binaryCommand.toNat : Int) =
      state.client.socket.options.binaryCommand :=
    Int.toNat_of_nonneg (Int.le_of_lt sound.suited.binary.1)
  have known : WebTransportWS.isMessageCommand state.client.socket.options
      state.client.socket.options.binaryCommand.toNat = true := by
    simp [WebTransportWS.isMessageCommand, cast]
  refine ⟨_, known, cast, ?_⟩
  have written : state.client.socket.sendBinary payload = { state.client.socket with
      written := state.client.socket.written ++
        [(⟨payload, some state.client.socket.options.binaryCommand.toNat⟩ : Message)].map
          fun message => (0, message.encode) } := by
    have frame : encode payload (some state.client.socket.options.binaryCommand) =
        Message.encode ⟨payload, some state.client.socket.options.binaryCommand.toNat⟩ := by
      rw [Message.encode, Option.map_some, Int.ofNat_eq_natCast, cast]
    rw [WebTransportWS.sendBinary, if_pos sound.suited.mode, sound.suited.single, frame]
    rfl
  refine ⟨written, sound.pointer, ?_, sound.pinging, sound.clock, id, fun _ => rfl, rfl, ?_⟩
  · intro message member
    rw [List.mem_singleton.mp member]
    exact .message _ _ known
  · intro map started entry member
    exact .inr ⟨map, started, member⟩

theorem own_writes (sound : Sound textDecoder written echoed shown state) {event : Pinging.Event}
    {after : Pinging} (other : ∀ payload, event ≠ .reply payload)
    (taken : state.client.pinging.step event = some after) :
    ∃ sent : List Nat,
      Writes (sent.map (pingMessage state.client.socket.options))
        state.client.socket.textCommandPointer state.client (state.client.pinged after) := by
  obtain ⟨sent, goes⟩ := Pinging.step_goes sound.pinging other taken
  have small : ∀ now ∈ sent, now < 2 ^ 53 := by
    intro now member
    rw [goes.times now member]
    exact Nat.lt_of_le_of_lt sound.clock (by decide)
  refine ⟨sent, ?_, sound.pointer, ?_, Pinging.step_sound sound.pinging taken,
    goes.clock sound.clock, goes.writers, goes.faults, rfl, ?_⟩
  · have frames : (sent.map fun now =>
        (0, Pinging.frame state.client.socket.options.pingCommand now)) =
          (sent.map (pingMessage state.client.socket.options)).map
            fun message => (0, message.encode) := by
      rw [List.map_map]
      apply List.map_congr_left
      intro now _
      rw [frame_ping sound.suited]
      rfl
    rw [Client.pinged, goes.pings, List.drop_left, frames]
  · intro message member
    obtain ⟨now, present, rfl⟩ := List.mem_map.mp member
    exact .ping now (small now present)
  · intro map started entry member
    rcases goes.waits map started entry member with new | old
    · exact .inl ⟨small _ new, List.mem_map_of_mem new⟩
    · exact .inr old

theorem own_step {event : Pinging.Event} {next : State Text}
    (taken : step readNext textEncoder state (.own event) = some next) :
    (∀ payload, event ≠ .reply payload) ∧ ∃ after, state.client.pinging.step event = some after ∧
      next = { state with client := state.client.pinged after } := by
  have ran : (state.client.pinging.step event).map
      (fun after => { state with client := state.client.pinged after }) = some next := by
    cases event with
    | ready writers => cases taken
    | reply payload => cases taken
    | _ => exact taken
  obtain ⟨after, found, same⟩ := Option.map_eq_some_iff.mp ran
  refine ⟨?_, after, found, same.symm⟩
  intro payload reply
  rw [reply] at taken
  cases taken

theorem own_sound (sound : Sound textDecoder written echoed shown state) {event : Pinging.Event}
    {next : State Text}
    (fits : ∀ write ∈ next.client.socket.written,
      write.2.length ≤ next.client.socket.options.bufferSize)
    (taken : step readNext textEncoder state (.own event) = some next) :
    ∃ sent, Sound textDecoder (written ++ sent) echoed shown next := by
  obtain ⟨other, after, ran, same⟩ := own_step taken
  subst same
  obtain ⟨sent, writes⟩ := own_writes sound other ran
  have nothing : [] = (sent.map (pingMessage state.client.socket.options)).filterMap
      (shownOf state.client.socket.options textDecoder) := by
    symm
    rw [List.filterMap_eq_nil_iff]
    intro message member
    obtain ⟨now, -, rfl⟩ := List.mem_map.mp member
    exact shown_ping sound.suited textDecoder now
  have moved := writes_sound sound writes fits nothing
  rw [List.append_nil] at moved
  exact ⟨_, moved⟩

theorem send_sound (inverse : ∀ text, textDecoder (textEncoder text) = text)
    (sound : Sound textDecoder written echoed shown state) (text : Text)
    (fits : ∀ write ∈ (state.client.socket.send textEncoder text).written,
      write.2.length ≤ (state.client.socket.send textEncoder text).options.bufferSize) :
    ∃ sent, Sound textDecoder (written ++ [sent]) echoed shown { state with
      client := { state.client with socket := state.client.socket.send textEncoder text }
      sent := state.sent ++ [⟨.text text, false⟩] } := by
  obtain ⟨pointer, cmd, known, apart, writes⟩ := send_writes sound text
  refine ⟨_, writes_sound sound writes fits ?_⟩
  rw [shown_cons, shown_message textDecoder known, event, if_neg apart, inverse]
  rfl

theorem send_binary_sound (sound : Sound textDecoder written echoed shown state)
    (payload : List UInt8)
    (fits : ∀ write ∈ (state.client.socket.sendBinary payload).written,
      write.2.length ≤ (state.client.socket.sendBinary payload).options.bufferSize) :
    ∃ sent, Sound textDecoder (written ++ [sent]) echoed shown { state with
      client := { state.client with socket := state.client.socket.sendBinary payload }
      sent := state.sent ++ [⟨.bytes payload, true⟩] } := by
  obtain ⟨cmd, known, same, writes⟩ := send_binary_writes sound payload
  refine ⟨_, writes_sound sound writes fits ?_⟩
  rw [shown_cons, shown_message textDecoder known, event, if_pos same]
  rfl

theorem step_sound (documented : Documented readNext)
    (inverse : ∀ text, textDecoder (textEncoder text) = text)
    (sound : Sound textDecoder written echoed shown state) {event : Event Text} {next : State Text}
    (fits : Fitting state event next) (taken : step readNext textEncoder state event = some next) :
    ∃ written echoed shown, Sound textDecoder written echoed shown next := by
  cases event with
  | own event =>
      obtain ⟨sent, after⟩ := own_sound sound fits.1 taken
      exact ⟨_, _, _, after⟩
  | send text =>
      rw [step] at taken
      split at taken
      next opened =>
        cases taken
        obtain ⟨sent, after⟩ := send_sound inverse sound text fits.1
        exact ⟨_, _, _, after⟩
      next =>
        cases taken
        exact ⟨_, _, _, sound⟩
  | sendBinary payload =>
      rw [step] at taken
      split at taken
      next opened =>
        cases taken
        obtain ⟨sent, after⟩ := send_binary_sound sound payload fits.1
        exact ⟨_, _, _, after⟩
      next =>
        cases taken
        exact ⟨_, _, _, sound⟩
  | echo count =>
      obtain ⟨within, same⟩ := Option.ite_none_right_eq_some.mp taken
      cases same
      obtain ⟨more, after⟩ := echo_sound documented sound within
      exact ⟨_, _, _, after⟩
  | stops =>
      cases taken
      exact ⟨_, _, _, stop_sound sound⟩
  | chunk count =>
      obtain ⟨within, same⟩ := Option.ite_none_right_eq_some.mp taken
      cases same
      obtain ⟨more, after⟩ := chunk_sound sound within (fits.2 count rfl)
      exact ⟨_, _, _, after⟩
  | done =>
      obtain ⟨last, same⟩ := Option.ite_none_right_eq_some.mp taken
      cases same
      exact ⟨_, _, _, done_sound sound last⟩

end Steps

section Runs

variable {options : WebTransportWSOptions} {textDecoder : List UInt8 → Text}
  {textEncoder : Text → List UInt8} {readNext : ReadNext}

theorem suited_adjusted (suited : Suited options) :
    Suited options.adjusted ∧ options.adjusted.autoStream = false := by
  have several : ¬options.mode = .stream := by
    rw [suited.mode]
    decide
  have alone : ¬1 < options.streamCount := by
    rw [suited.single]
    decide
  have same : options.adjusted = { options with autoStream := false } := by
    rw [WebTransportWSOptions.adjusted, if_neg several, if_neg alone,
      if_pos (Nat.le_of_not_lt alone)]
  rw [same]
  exact ⟨{ suited with }, rfl⟩

theorem new_sound (suited : Suited options) (onPing : Bool) (pingInterval : Nat) {clock : Nat}
    (timely : clock ≤ lastTime) :
    Sound textDecoder [] [] [] (newRoom (newClient options textDecoder onPing pingInterval clock)) where
  suited := (suited_adjusted suited).1
  single := (suited_adjusted suited).2
  decoder := rfl
  listens := rfl
  pointer := ⟨Nat.le_refl _, (suited_adjusted suited).1.texts.2⟩
  pinging :=
    have ready : Pinging.step _ (.ready 1) = some _ := rfl
    Pinging.step_sound (Pinging.new_sound options.enablePing onPing pingInterval clock) ready
  clock := timely
  uplink := rfl
  sendable message impossible := by cases impossible
  fitting message impossible := by cases impossible
  sent := rfl
  read := Nat.le_refl _
  echoes kept reading := by
    cases reading
    exact conveys_nothing
  begins := List.prefix_rfl
  returned := rfl
  arrived := Nat.le_refl _
  before := List.prefix_rfl
  messages := rfl
  reads _ _ := by
    have enabled : options.adjusted.enableCommand = true := (suited_adjusted suited).1.commands
    refine ⟨⟨RingBuffer.new_sound _ _, rfl⟩, ?_, ?_⟩
    · exact congrArg (fun flag => (⟨options.adjusted.bufferSize, flag, 0⟩ : NetStringOptions)) enabled
    · have empty := (new_between
        ⟨options.adjusted.bufferSize, options.adjusted.enableCommand, 0⟩).contents
      refine ⟨[], rfl, ?_, fun frame impossible => by cases impossible⟩
      exact (List.append_nil _).trans empty
  ends _ impossible := by cases impossible
  left := rfl
  faults _ := rfl
  waits _ map started entry member := by
    cases started
    cases member

theorem run_sound (documented : Documented readNext) (suited : Suited options)
    (inverse : ∀ text, textDecoder (textEncoder text) = text) {onPing : Bool}
    {pingInterval clock : Nat} (timely : clock ≤ lastTime) {events : List (Event Text)}
    {state : State Text}
    (ran : StepSystem.run (step readNext textEncoder)
      (newRoom (newClient options textDecoder onPing pingInterval clock)) events = some state)
    (fits : StepSystem.Steps (step readNext textEncoder) Fitting
      (newRoom (newClient options textDecoder onPing pingInterval clock)) events) :
    ∃ written echoed shown, Sound textDecoder written echoed shown state := by
  apply StepSystem.run_invariant_of_steps _ _ fits ran
  · intro state event next sound fits taken
    obtain ⟨written, echoed, shown, sound⟩ := sound
    exact step_sound documented inverse sound fits taken
  · exact ⟨[], [], [], new_sound suited onPing pingInterval timely⟩

def Idle (state : State Text) : Prop :=
  state.read = state.uplink.length ∧ state.arrived = state.returned.length

instance (state : State Text) : Decidable (Idle state) := inferInstanceAs (Decidable (_ ∧ _))

theorem going_of_running {written echoed shown : List Message} {state : State Text}
    (sound : Sound textDecoder written echoed shown state) (opened : state.client.isOpen = true)
    (running : state.kept ≠ none) : state.client.socket.ended 0 = false :=
  Bool.eq_false_iff.mpr fun ended => running (sound.ends opened ended).1

theorem idle_shown {written echoed shown : List Message} {state : State Text}
    (sound : Sound textDecoder written echoed shown state) (opened : state.client.isOpen = true)
    (running : state.kept ≠ none) (idle : Idle state) : shown = written := by
  obtain ⟨kept, reading⟩ := Option.ne_none_iff_exists'.mp running
  have up := sound.echoes kept reading
  rw [idle.1, List.drop_length] at up
  obtain ⟨-, -, down⟩ := sound.reads opened (going_of_running sound opened running)
  rw [idle.2, List.drop_length] at down
  have lengths := congrArg List.length up.all_found
  rw [List.length_map, List.length_map] at lengths
  rw [down.all_found]
  exact sound.begins.eq_of_length lengths

/-- Nothing but what the application has sent comes back, in that order, and while the socket
is open nothing throws. Its read loop ends only behind the last byte of a server that has closed
the stream. When nothing is on its way everything has come back, and no ping is waited for. -/
theorem room_returns (documented : Documented readNext) (suited : Suited options)
    (inverse : ∀ text, textDecoder (textEncoder text) = text) {onPing : Bool}
    {pingInterval clock : Nat} (timely : clock ≤ lastTime) {events : List (Event Text)}
    {state : State Text}
    (ran : StepSystem.run (step readNext textEncoder)
      (newRoom (newClient options textDecoder onPing pingInterval clock)) events = some state)
    (fits : StepSystem.Steps (step readNext textEncoder) Fitting
      (newRoom (newClient options textDecoder onPing pingInterval clock)) events) :
    state.client.socket.messages <+: state.sent ∧
      state.client.oncloseRuns = (if state.client.socket.ended 0 then 1 else 0) ∧
      (state.client.isOpen = true →
        state.client.pinging.faults = 0 ∧
          (state.client.socket.ended 0 = true →
            state.kept = none ∧ state.arrived = state.returned.length) ∧
          (state.kept ≠ none → Idle state →
            state.client.socket.messages = state.sent ∧
              (state.client.socket.options.enablePing = true →
                state.client.pinging.pingStartTimestamp = some []))) := by
  obtain ⟨written, echoed, shown, sound⟩ := run_sound documented suited inverse timely ran fits
  rw [sound.messages, sound.sent]
  refine ⟨(sound.before.trans sound.begins).filterMap _, sound.left, ?_⟩
  intro opened
  refine ⟨sound.faults opened, sound.ends opened, ?_⟩
  intro running idle
  have all := idle_shown sound opened running idle
  refine ⟨by rw [all], ?_⟩
  intro enabled
  have present : state.client.pinging.pingStartTimestamp ≠ none := by
    intro absent
    have closed := sound.pinging.closed.mpr absent
    rw [Client.isOpen, closed] at opened
    cases opened
  obtain ⟨map, started⟩ := Option.ne_none_iff_exists'.mp present
  rw [started]
  apply congrArg some
  apply List.eq_nil_iff_forall_not_mem.mpr
  intro entry member
  have behind := (sound.waits enabled map started entry member).2
  rw [all, List.drop_length] at behind
  cases behind

def readNetstring : ReadNext := fun bytes =>
  match parse true bytes with
  | .waits => .waits
  | .throws message => .throws message
  | .frame message rest => .frame message.encode rest

theorem netstring_documented : Documented readNetstring where
  empty := by rw [readNetstring, (parse_complete true).empty]
  nonempty bytes netstring := by
    obtain ⟨message, -, -, -, rfl⟩ := netstring
    exact encode_ne_nil message
  complete bytes rest netstring := by
    obtain ⟨message, suits, short, -, rfl⟩ := netstring
    rw [readNetstring, id, (parse_complete true).complete message rest ⟨suits, short⟩]
  patient bytes part netstring inside proper := by
    obtain ⟨message, suits, short, -, rfl⟩ := netstring
    rw [readNetstring, (parse_complete true).patient message part ⟨suits, short⟩ inside proper]

def roomOptions : WebTransportWSOptions :=
  { defaultOptions with enableCommand := true, bufferSize := 64, enablePing := true }

theorem room_options_suited : Suited roomOptions where
  mode := rfl
  single := rfl
  commands := rfl
  texts := by decide
  binary := by decide
  binaryApart cmd low _ := by
    simp only [roomOptions, defaultOptions] at low ⊢
    omega
  ping := by decide
  pingApart cmd either := by
    by_contra known
    rw [Bool.not_eq_false, WebTransportWS.isMessageCommand, decide_eq_true_eq] at known
    simp only [roomOptions, defaultOptions] at either known
    omega
  pings := by decide
  bufferSize := by decide

def room : State String := newRoom (newClient roomOptions decodeUtf8 false 5000 1645147141407)

/-- A ping and a text in two chunks that are cut inside the text. -/
theorem ping_and_text_return : ∃ state : State String,
    state.client.socket.messages = [⟨.text "a", false⟩] ∧
      state.client.pinging.pingStartTimestamp = some [] := by
  let events : List (Event String) := [.own .ping, .send "a", .echo 21, .chunk 16, .chunk 5]
  have settled : (StepSystem.run (step readNetstring encodeUtf8) room events).any (fun state =>
      state.client.isOpen && state.kept.isSome && state.client.socket.options.enablePing &&
        decide (Idle state)) = true := by decide +kernel
  have sends : (StepSystem.run (step readNetstring encodeUtf8) room events).map State.sent =
      some [⟨.text "a", false⟩] := by rfl
  obtain ⟨state, ran, sent⟩ := Option.map_eq_some_iff.mp sends
  rw [ran, Option.any_some] at settled
  simp only [Bool.and_eq_true, decide_eq_true_eq] at settled
  obtain ⟨⟨⟨opened, running⟩, enabled⟩, idle⟩ := settled
  have returned := room_returns netstring_documented room_options_suited decode_encode_utf8
    (by decide) ran (by decide +kernel)
  obtain ⟨messages, waits⟩ := (returned.2.2 opened).2.2 (Option.isSome_iff_ne_none.mp running) idle
  exact ⟨state, messages.trans sent, waits enabled⟩

structure Keeps (state next : State Text) : Prop where
  opened : next.client.isOpen = state.client.isOpen
  ended : next.client.socket.ended = state.client.socket.ended
  written : next.client.socket.written = state.client.socket.written
  kept : next.kept ≠ none ↔ state.kept ≠ none
  sent : next.sent = state.sent

theorem Keeps.trans {state middle next : State Text} (first : Keeps state middle)
    (second : Keeps middle next) : Keeps state next where
  opened := second.opened.trans first.opened
  ended := second.ended.trans first.ended
  written := second.written.trans first.written
  kept := second.kept.trans first.kept
  sent := second.sent.trans first.sent

theorem sound_fits {written echoed shown : List Message} {state : State Text}
    (sound : Sound textDecoder written echoed shown state) :
    ∀ write ∈ state.client.socket.written,
      write.2.length ≤ state.client.socket.options.bufferSize := by
  intro write member
  rw [sound.uplink] at member
  obtain ⟨message, present, rfl⟩ := List.mem_map.mp member
  exact sound.fitting message present

theorem echo_rest (documented : Documented readNext) {written echoed shown : List Message}
    {state : State Text} (sound : Sound textDecoder written echoed shown state)
    (running : state.kept ≠ none) :
    ∃ next, step readNext textEncoder state (.echo (state.uplink.length - state.read)) = some next ∧
      Fitting state (.echo (state.uplink.length - state.read)) next ∧ Keeps state next ∧
      next.read = next.uplink.length := by
  obtain ⟨kept, reading⟩ := Option.ne_none_iff_exists'.mp running
  have whole : state.read + (state.uplink.length - state.read) = state.uplink.length :=
    Nat.add_sub_cancel' sound.read
  have split : state.uplink.drop state.read =
      (state.uplink.drop state.read).take (state.uplink.length - state.read) ++ [] := by
    rw [List.append_nil, List.take_of_length_le]
    rw [List.length_drop]
  obtain ⟨more, rest, taken, -⟩ := echo_spec documented sound reading split
  have fitted := sound_fits sound
  refine ⟨_, if_pos (Nat.le_of_eq whole), ?_⟩
  rw [taken]
  refine ⟨⟨fitted, fun count impossible => by cases impossible⟩, ?_, whole⟩
  refine ⟨rfl, rfl, rfl, ?_, rfl⟩
  exact iff_of_true (Option.some_ne_none _) running

theorem chunk_once {written echoed shown : List Message} {state : State Text}
    (sound : Sound textDecoder written echoed shown state) (opened : state.client.isOpen = true)
    (going : state.client.socket.ended 0 = false)
    (more : state.arrived < state.returned.length) :
    ∃ next, step readNext textEncoder state (.chunk 1) = some next ∧
      Fitting state (.chunk 1) next ∧ Keeps state next ∧ next.read = state.read ∧
      next.returned = state.returned ∧ next.arrived = state.arrived + 1 := by
  obtain ⟨intact, same, conveys⟩ := sound.reads opened going
  have unread : state.returned.drop state.arrived ≠ [] := by
    intro nothing
    have short := List.drop_eq_nil_iff.mp nothing
    omega
  obtain ⟨message, member, less⟩ := conveys.room unread
  have held : (state.client.socket.netStrings 0).ringBuffer.contents.length =
      (state.client.socket.netStrings 0).ringBuffer.length := intact.sound.contents_length
  rw [held] at less
  have room : (state.client.socket.netStrings 0).ringBuffer.length + 1 ≤
      state.client.socket.options.bufferSize :=
    Nat.le_trans less (sound.fitting message (sound.begins.subset member))
  have split : state.returned.drop state.arrived =
      (state.returned.drop state.arrived).take 1 ++ state.returned.drop (state.arrived + 1) := by
    rw [← List.drop_drop, List.take_append_drop]
  have length : ((state.returned.drop state.arrived).take 1).length = 1 := by
    rw [List.length_take, List.length_drop]
    omega
  obtain ⟨found, netString, after, taken, -, answered, -⟩ :=
    read_spec sound opened going split (by rw [length]; exact room)
  have fitted := sound_fits sound
  refine ⟨_, if_pos more, ?_⟩
  rw [taken]
  refine ⟨⟨fitted, ?_⟩, ⟨?_, rfl, rfl, Iff.rfl, rfl⟩, rfl, rfl, rfl⟩
  · intro count one
    cases one
    exact room
  · rw [Client.isOpen, Client.isOpen, answered.writers]

/-- The client can read all that is there. The induction is on how much that is. -/
theorem chunk_rest (documented : Documented readNext)
    (inverse : ∀ text, textDecoder (textEncoder text) = text) (amount : Nat) {state : State Text}
    {written echoed shown : List Message}
    (sound : Sound textDecoder written echoed shown state) (opened : state.client.isOpen = true)
    (going : state.client.socket.ended 0 = false)
    (left : state.arrived + amount = state.returned.length) :
    ∃ final, StepSystem.run (step readNext textEncoder) state (List.replicate amount (.chunk 1)) =
        some final ∧
      StepSystem.Steps (step readNext textEncoder) Fitting state
        (List.replicate amount (.chunk 1)) ∧
      Keeps state final ∧ final.read = state.read ∧ final.returned = state.returned ∧
      final.arrived = final.returned.length ∧
      ∃ written echoed shown, Sound textDecoder written echoed shown final := by
  induction amount generalizing state written echoed shown with
  | zero =>
      exact ⟨state, rfl, trivial, ⟨rfl, rfl, rfl, Iff.rfl, rfl⟩, rfl, rfl, left, written, echoed,
        shown, sound⟩
  | succ amount induction =>
      have more : state.arrived < state.returned.length := by omega
      obtain ⟨next, taken, fits, keeps, read, returned, arrived⟩ :=
        @chunk_once _ textDecoder textEncoder readNext _ _ _ state sound opened going more
      obtain ⟨written, echoed, shown, after⟩ := step_sound documented inverse sound fits taken
      obtain ⟨final, ran, steps, kept, same, all, idle, ends⟩ := induction after
        (keeps.opened.trans opened) ((congrFun keeps.ended 0).trans going)
        (by rw [arrived, returned]; omega)
      refine ⟨final, ?_, ?_, keeps.trans kept, same.trans read, all.trans returned, idle, ends⟩
      · rw [List.replicate_succ]
        exact StepSystem.run_cons_some.mpr ⟨next, taken, ran⟩
      · rw [List.replicate_succ]
        exact StepSystem.steps_cons taken fits steps

/-- From every state with an open socket and a server that reads, deliveries alone can bring
back everything that has been sent. -/
theorem room_settles (documented : Documented readNext) (suited : Suited options)
    (inverse : ∀ text, textDecoder (textEncoder text) = text) {onPing : Bool}
    {pingInterval clock : Nat} (timely : clock ≤ lastTime) {events : List (Event Text)}
    {state : State Text}
    (ran : StepSystem.run (step readNext textEncoder)
      (newRoom (newClient options textDecoder onPing pingInterval clock)) events = some state)
    (fits : StepSystem.Steps (step readNext textEncoder) Fitting
      (newRoom (newClient options textDecoder onPing pingInterval clock)) events)
    (opened : state.client.isOpen = true) (running : state.kept ≠ none) :
    ∃ up down final, StepSystem.run (step readNext textEncoder) state
        (.echo up :: List.replicate down (.chunk 1)) = some final ∧
      StepSystem.Steps (step readNext textEncoder) Fitting state
        (.echo up :: List.replicate down (.chunk 1)) ∧
      final.client.isOpen = true ∧ final.sent = state.sent ∧
      final.client.socket.messages = state.sent := by
  obtain ⟨written, echoed, shown, sound⟩ := run_sound documented suited inverse timely ran fits
  obtain ⟨middle, taken, fit, keeps, read⟩ :=
    @echo_rest _ textDecoder textEncoder readNext documented _ _ _ state sound running
  obtain ⟨written, echoed, shown, after⟩ := step_sound documented inverse sound fit taken
  have still : middle.client.isOpen = true := keeps.opened.trans opened
  have reads : middle.client.socket.ended 0 = false :=
    going_of_running after still (keeps.kept.mpr running)
  obtain ⟨final, later, steps, kept, same, -, idle, written, echoed, shown, ends⟩ :=
    chunk_rest documented inverse (middle.returned.length - middle.arrived) after still reads
      (Nat.add_sub_cancel' after.arrived)
  have uplink : final.uplink = middle.uplink := by rw [State.uplink, State.uplink, kept.written]
  have all := idle_shown ends (kept.opened.trans still) ((keeps.trans kept).kept.mpr running)
    ⟨by rw [same, read, uplink], idle⟩
  refine ⟨_, _, final, StepSystem.run_cons_some.mpr ⟨middle, taken, later⟩,
    StepSystem.steps_cons taken fit steps, kept.opened.trans still, (keeps.trans kept).sent, ?_⟩
  rw [ends.messages, all, ← ends.sent, (keeps.trans kept).sent]

/-- From every state with an open socket and a server that has closed the stream, the client can
read what the server has written back and then the end, where its read loop calls `onclose`. -/
theorem room_ends (documented : Documented readNext) (suited : Suited options)
    (inverse : ∀ text, textDecoder (textEncoder text) = text) {onPing : Bool}
    {pingInterval clock : Nat} (timely : clock ≤ lastTime) {events : List (Event Text)}
    {state : State Text}
    (ran : StepSystem.run (step readNext textEncoder)
      (newRoom (newClient options textDecoder onPing pingInterval clock)) events = some state)
    (fits : StepSystem.Steps (step readNext textEncoder) Fitting
      (newRoom (newClient options textDecoder onPing pingInterval clock)) events)
    (opened : state.client.isOpen = true) (stopped : state.kept = none)
    (going : state.client.socket.ended 0 = false) :
    ∃ down middle final, StepSystem.run (step readNext textEncoder) state
        (List.replicate down (.chunk 1)) = some middle ∧
      StepSystem.Steps (step readNext textEncoder) Fitting state
        (List.replicate down (.chunk 1)) ∧
      step readNext textEncoder middle .done = some final ∧
      final.client.socket.ended 0 = true ∧ final.client.oncloseRuns = 1 ∧
      ∃ echoed : List Message, state.returned = echoed.flatMap Message.encode ∧
        final.client.socket.messages =
          echoed.filterMap (shownOf final.client.socket.options textDecoder) := by
  obtain ⟨written, echoed, shown, sound⟩ := run_sound documented suited inverse timely ran fits
  obtain ⟨middle, later, steps, kept, -, same, idle, written, echoed, shown, after⟩ :=
    chunk_rest documented inverse (state.returned.length - state.arrived) sound opened going
      (Nat.add_sub_cancel' sound.arrived)
  have still : middle.client.socket.ended 0 = false := (congrFun kept.ended 0).trans going
  have closed : middle.kept = none := not_ne_iff.mp fun running => kept.kept.mp running stopped
  have leaves : middle.client.done = middle.client.leave := if_neg (by simp [still])
  have left := leave_sound after still fun _ => ⟨closed, idle⟩
  obtain ⟨-, -, down⟩ := after.reads (kept.opened.trans opened) still
  rw [idle, List.drop_length] at down
  refine ⟨_, middle, _, later, steps, if_pos ⟨closed, idle⟩, ?_⟩
  rw [leaves]
  refine ⟨rfl, left.left, echoed, ?_, ?_⟩
  · rw [← same, after.returned]
  · rw [left.messages, down.all_found]

/-- The text of a client whose server has read nothing yet. -/
theorem text_settles : ∃ final : State String,
    final.client.socket.messages = [⟨.text "a", false⟩] := by
  let events : List (Event String) := [.own .ping, .send "a"]
  have waiting : (StepSystem.run (step readNetstring encodeUtf8) room events).any (fun state =>
      state.client.isOpen && state.kept.isSome) = true := by decide +kernel
  have sends : (StepSystem.run (step readNetstring encodeUtf8) room events).map State.sent =
      some [⟨.text "a", false⟩] := by rfl
  obtain ⟨state, ran, sent⟩ := Option.map_eq_some_iff.mp sends
  rw [ran, Option.any_some, Bool.and_eq_true] at waiting
  obtain ⟨up, down, final, -, -, -, -, messages⟩ := room_settles netstring_documented
    room_options_suited decode_encode_utf8 (by decide) ran (by decide +kernel) waiting.1
    (Option.isSome_iff_ne_none.mp waiting.2)
  exact ⟨final, messages.trans sent⟩

end Runs

end WebTransportGos.Room
