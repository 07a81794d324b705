import WebTransportGos.Library.SeenWindow
import WebTransportGos.Helper.Decoding

/-!
bjy-common, lib/helper/WebTransportWS.js: messages over several streams of one connection.
A text gets a command number and its frame goes out on more than one stream; the other side
delivers the first copy and remembers the number for `commandTimeout`.

Left out are the transport itself, the timers, and what a returned ping does to the round
trip time. `onmessage` and the encoders do not throw.
-/

namespace WebTransportGos.Helper

open SeenWindow

set_option autoImplicit false

inductive Mode where
  | text
  | stream
  deriving DecidableEq, Repr

/-- Text commands are safe integers, so that counting them is exact. -/
structure WebTransportWSOptions where
  mode : Mode
  enableCommand : Bool
  binaryCommand : Int
  pingCommand : Int
  serverPingCommand : Int
  streamCount : Nat
  textCommandStart : Nat
  textCommandEnd : Nat
  commandTimeout : Int
  bufferSize : Nat
  autoStream : Bool
  enablePing : Bool
  safe : textCommandEnd ≤ 2 ^ 53 - 1

def defaultOptions : WebTransportWSOptions where
  mode := .text
  enableCommand := false
  binaryCommand := 19
  pingCommand := 1
  serverPingCommand := 2
  streamCount := 1
  textCommandStart := 20
  textCommandEnd := 2147483647
  commandTimeout := 30 * 1000
  bufferSize := 1 * 1024 * 1024
  autoStream := false
  enablePing := false
  safe := Nat.le_of_ble_eq_true rfl

/-- What the constructor makes of the options it is given. -/
def WebTransportWSOptions.adjusted (options : WebTransportWSOptions) : WebTransportWSOptions :=
  let streamCount := if options.mode = .stream then 1 else options.streamCount
  { options with
    streamCount := streamCount
    enableCommand := if 1 < streamCount then true else options.enableCommand
    autoStream := if streamCount ≤ 1 then false else options.autoStream }

inductive MessageData (Text : Type*) where
  | text (text : Text)
  | bytes (bytes : List UInt8)

structure MessageEvent (Text : Type*) where
  data : MessageData Text
  binary : Bool

/-- `commands` holds the `commandMap` and the `commandQueue`. A stream has ended when its read
loop has. `written` and `messages` are what writers and `onmessage` were given. -/
structure WebTransportWS (Text : Type*) where
  options : WebTransportWSOptions
  textDecoder : Option (List UInt8 → Text)
  onmessage : Bool
  textCommandPointer : Nat
  currentWriteStreams : Nat
  commands : Window Nat
  netStrings : Nat → NetString
  ended : Nat → Bool
  written : List (Nat × List UInt8)
  messages : List (MessageEvent Text)

def newWebTransportWS {Text : Type*} (given : WebTransportWSOptions)
    (textDecoder : Option (List UInt8 → Text)) (onmessage : Bool) : WebTransportWS Text where
  options := given.adjusted
  textDecoder := textDecoder
  onmessage := onmessage
  textCommandPointer := given.adjusted.textCommandStart
  currentWriteStreams := 1
  commands := empty
  netStrings index :=
    newNetString ⟨given.adjusted.bufferSize, given.adjusted.enableCommand, index⟩
  ended _ := false
  written := []
  messages := []

namespace WebTransportWS

variable {Text : Type*}

def getTextCommand (socket : WebTransportWS Text) : Int × WebTransportWS Text :=
  if !socket.options.enableCommand then (-1, socket)
  else
    let command := socket.textCommandPointer
    let pointer := command + 1
    (command, { socket with
      textCommandPointer :=
        if socket.options.textCommandEnd < pointer then socket.options.textCommandStart
        else pointer })

def textWriters (socket : WebTransportWS Text) : List Nat :=
  if socket.options.autoStream then
    (List.range socket.options.streamCount).take socket.currentWriteStreams
  else List.range socket.options.streamCount

def sendTo (textEncoder : Text → List UInt8) (writers : List Nat) (text : Text)
    (socket : WebTransportWS Text) : WebTransportWS Text :=
  if socket.options.mode = .stream then socket
  else
    let (command, after) := socket.getTextCommand
    let buffer := encode (textEncoder text) (some command)
    { after with written := after.written ++ writers.map fun stream => (stream, buffer) }

def send (textEncoder : Text → List UInt8) (text : Text) (socket : WebTransportWS Text) :
    WebTransportWS Text := socket.sendTo textEncoder socket.textWriters text

/-- All writers are given the same; only in mode `text` it is a frame. -/
def sendBinary (payload : List UInt8) (socket : WebTransportWS Text) : WebTransportWS Text :=
  let buffer := if socket.options.mode = .text
    then encode payload (some socket.options.binaryCommand) else payload
  { socket with
    written := socket.written ++
      (List.range socket.options.streamCount).map fun stream => (stream, buffer) }

def deliver (socket : WebTransportWS Text) (decoded : Decoded) : WebTransportWS Text :=
  if socket.onmessage then
    let payload := decoded.payload.getD []
    let isBinary := decoded.cmd.map Int.ofNat = some socket.options.binaryCommand
    let event : MessageEvent Text := match socket.textDecoder with
      | none => ⟨.bytes payload, true⟩
      | some decode => if isBinary then ⟨.bytes payload, true⟩ else ⟨.text (decode payload), false⟩
    { socket with messages := socket.messages ++ [event] }
  else socket

def isMessageCommand (options : WebTransportWSOptions) (cmd : Nat) : Bool :=
  options.textCommandStart ≤ cmd ∧ cmd ≤ options.textCommandEnd ∨ (cmd : Int) = options.binaryCommand

/-- The callback of the decoder of the stream `index`. A ping's payload is read as doubles,
which throws if it does not consist of whole ones. -/
def onDecodeMessage (clock : Nat → Int) (index : Nat) (decoded : Decoded)
    (socket : WebTransportWS Text) : Except String (WebTransportWS Text) :=
  match decoded.cmd with
  | none => .ok (socket.deliver decoded)
  | some cmd =>
      if (cmd : Int) = socket.options.pingCommand ∧ socket.options.enablePing then
        if (decoded.payload.getD []).length % 8 = 0 then .ok socket
        else .error "byte length of Float64Array should be a multiple of 8"
      else if (cmd : Int) = socket.options.serverPingCommand ∧ socket.options.enablePing then
        .ok { socket with written := socket.written ++ [(index, decoded.serialized)] }
      else if isMessageCommand socket.options cmd then
        if 1 < socket.options.streamCount then
          if socket.commands.seen cmd then .ok socket
          else
            let after := socket.deliver decoded
            .ok { after with
              commands := admitKey socket.options.commandTimeout clock socket.commands cmd }
        else .ok (socket.deliver decoded)
      else .ok socket

/-- The calls of one pass through `decode`; the clock goes on between them. -/
def onDecodeMessages (clocks : Nat → Nat → Int) (index : Nat) :
    Nat → List Decoded → WebTransportWS Text → Option String × WebTransportWS Text
  | _, [], socket => (none, socket)
  | call, decoded :: later, socket =>
      match socket.onDecodeMessage (clocks call) index decoded with
      | .error message => (some message, socket)
      | .ok after => onDecodeMessages clocks index (call + 1) later after

/-- One chunk in the read loop of a stream, which ends with the first error. -/
def readChunk (clocks : Nat → Nat → Int) (index : Nat) (value : List UInt8)
    (socket : WebTransportWS Text) : WebTransportWS Text :=
  if socket.ended index then socket
  else if socket.options.mode = .text then
    let decoding := (socket.netStrings index).decode value
    let netString := { socket.netStrings index with ringBuffer := decoding.ringBuffer }
    let (thrown, after) := onDecodeMessages clocks index 0 decoding.delivered
      { socket with netStrings := Function.update socket.netStrings index netString }
    if thrown.isSome || decoding.thrown.isSome then
      { after with ended := Function.update after.ended index true }
    else after
  else if socket.onmessage then
    { socket with messages := socket.messages ++ [⟨.bytes value, true⟩] }
  else socket

end WebTransportWS

end WebTransportGos.Helper
