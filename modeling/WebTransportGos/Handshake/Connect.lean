import WebTransportGos.Handshake.HeaderBlock
import WebTransportGos.H3.RequestWriter
import WebTransportGos.Session.ClientSession

/-!
webtransport_client.go: `Connect`, from the dialled QUIC session to the connected client.
The byte in front of the SETTINGS frame, which is the type of the server's stream, is read
and not looked at, and a `Read` that returns nothing makes `Connect` return the nil error
it came with. The main result says on which peers a nil error still means a validated
handshake.
-/

namespace WebTransportGos.Client

open GoReader GoText NetUrl H3

set_option autoImplicit false

/-- What `DialAddr` and the session's blocking calls return, what the peer sends on its first
unidirectional stream and on the request stream, and what writing the request returns. -/
structure Peer where
  dial : Except Error SessionRef
  acceptUniStream : Except Error (StreamId × Source)
  openUniStream : Except Error StreamId
  openStream : Except Error (StreamId × Source)
  written : Option Error
  walks : SettingsWalks

/-- The client, and what it has written: SETTINGS on its own stream and the request. -/
structure Connecting where
  client : WebTransportClient
  settings : Option (List UInt8)
  request : Option (List UInt8)

def supportsWebTransport (settings : SettingsFrame) : Bool :=
  settings.value h3Datagram05 = 1 ∧ settings.value enableWebTransport = 1 ∧
    settings.value enableConnectProtocol = 1

def connectRequest (client : WebTransportClient) : Request where
  method := lit "CONNECT"
  proto := lit "webtransport"
  url := { path := client.path, scheme := lit "https" }
  host := client.remoteAddr

def readSettings (varint : Quicvarint) : Reading Source SettingsFrame := do
  match ← parseNextFrame varint with
  | .settings frame => pure frame
  | _ => .stop (.fail (.text "server stream got not SettingsFrame"))

variable (packages : Packages)

def decodeResponse (block : List UInt8) : Outcome Response :=
  match packages.qpack.decodeFull block with
  | .error err => .fail err
  | .ok fields => match responseFromHeaders fields with
      | .error err => .fail err
      | .ok response => .ok response

def readResponse : Reading Source Response := do
  let length ← headersLength packages.varint (.text "server stream got not HeadersFrame")
  let (block, err) ← readFull length
  match err with
  | some err => .stop (.fail err)
  | none => .stop (decodeResponse packages block)

/-- From the server's SETTINGS to the written request; the result is what the peer sends on
the request stream. -/
def sendRequest (peer : Peer) (settings : SettingsFrame) (connecting : Connecting) :
    Except Error Source × Connecting :=
  if !supportsWebTransport settings then
    (.error (.text "server not support webtransport"), connecting)
  else match peer.openUniStream with
    | .error err => (.error err, connecting)
    | .ok _ =>
        let connecting := { connecting with
          settings := some (controlStreamBytes packages.varint peer.walks) }
        match peer.openStream with
        | .error err => (.error err, connecting)
        | .ok (requestStream, response) =>
            let client := { connecting.client with connectStream := some requestStream }
            match writeRequest packages newRequestWriter (connectRequest client) peer.written with
            | (sent, some err, _) =>
                (.error err, { connecting with client := client, request := sent })
            | (sent, none, _) =>
                (.ok response, { connecting with client := client, request := sent })

/-- From what the request stream gave to the end. -/
def finish (connecting : Connecting) : Outcome Response → Outcome (Option Error) × Connecting
  | .ok response =>
      if response.statusCode ≠ 200 then (.ok (some (.text "request connect failed")), connecting)
      else (.ok none, { connecting with client := { connecting.client with connected := true } })
  | .fail err => (.ok (some err), connecting)
  | .hang => (.hang, connecting)
  | .panic reason => (.panic reason, connecting)

def negotiate (peer : Peer) (settingsStream : StreamId) (control : Source)
    (connecting : Connecting) : Outcome (Option Error) × Connecting :=
  match ((readSettings packages.varint).run control).1 with
  | .ok settings =>
      let client := { connecting.client with settingsStream := some settingsStream }
      match sendRequest packages peer settings { connecting with client := client } with
      | (.error err, after) => (.ok (some err), after)
      | (.ok response, after) => finish after ((readResponse packages).run response).1
  | .fail err => (.ok (some err), connecting)
  | .hang => (.hang, connecting)
  | .panic reason => (.panic reason, connecting)

/-- What `Connect` returns, if it does, and what it leaves. The first `Read` returns its
error also when there is none and nothing was read. -/
def connect (client : WebTransportClient) (peer : Peer) : Outcome (Option Error) × Connecting :=
  match peer.dial with
  | .error err => (.ok (some err), ⟨client, none, none⟩)
  | .ok session =>
      let connecting : Connecting := ⟨{ client with session := some session }, none, none⟩
      match peer.acceptUniStream with
      | .error err => (.ok (some err), connecting)
      | .ok (settingsStream, source) => match read 1 source with
          | none => (.hang, connecting)
          | some (result, control) =>
              if result.err ≠ none ∨ result.data = [] then (.ok result.err, connecting)
              else negotiate packages peer settingsStream control connecting

def SettingsReceived (varint : Quicvarint) (bytes : List UInt8) (settings : SettingsFrame) :
    Prop :=
  ∃ length payload rest, NextFrame varint bytes 0x4 length (payload ++ rest) ∧
    payload.length = length ∧ length ≤ 8 * 2 ^ 10 ∧
    parseSettings varint false emptySettings payload = .ok settings

def ResponseReceived (bytes : List UInt8) (response : Response) : Prop :=
  ∃ length block rest fields, NextFrame packages.varint bytes 0x1 length (block ++ rest) ∧
    block.length = length ∧ length ≤ maxAlloc ∧
    packages.qpack.decodeFull block = .ok fields ∧ responseFromHeaders fields = .ok response

section Frames

variable {packages} {varint : Quicvarint} {source : Source}

theorem read_settings_ok {settings : SettingsFrame} :
    ((readSettings varint).run source).1 = .ok settings ↔
      SettingsReceived varint (view source).bytes settings := by
  constructor
  · intro returned
    obtain ⟨frame, between, parsed, returned⟩ := Reading.bind_eq_ok.mp
      (Prod.ext returned rfl : (readSettings varint).run source = (.ok settings, _))
    obtain ⟨arrived, -⟩ := parse_next_frame_ok parsed
    cases frame with
    | data length => cases returned
    | headers length => cases returned
    | settings frame =>
        cases returned
        obtain ⟨length, payload, next, whole, small, accepted⟩ := arrived
        exact ⟨length, payload, _, next, whole, small, accepted⟩
  · rintro ⟨length, payload, rest, next, whole, small, accepted⟩
    obtain ⟨left, parsed, -⟩ := parse_next_frame_settings next whole small accepted
    rw [readSettings, Reading.bind_ok parsed]
    rfl

theorem read_settings_no_panic (reason : String) :
    ((readSettings varint).run source).1 ≠ .panic reason := by
  rcases @parse_next_frame_cases varint source with
    ⟨frame, left, parsed⟩ | ⟨err, left, failed⟩ | ⟨-, left, blocked⟩
  · rw [readSettings, Reading.bind_ok parsed]
    cases frame <;> simp
  · rw [readSettings, Reading.bind_fail failed]
    nofun
  · rw [readSettings, Reading.bind_hang blocked]
    nofun

theorem decode_response_ok {block : List UInt8} {response : Response} :
    decodeResponse packages block = .ok response ↔
      ∃ fields, packages.qpack.decodeFull block = .ok fields ∧
        responseFromHeaders fields = .ok response := by
  unfold decodeResponse
  cases decoded : packages.qpack.decodeFull block with
  | error err => simp
  | ok fields =>
      simp only [Except.ok.injEq, exists_eq_left']
      cases responseFromHeaders fields <;> simp

theorem read_response_received {response : Response} {length : Nat} {block rest : List UInt8}
    {fields : List HeaderField}
    (next : NextFrame packages.varint (view source).bytes 0x1 length (block ++ rest))
    (whole : block.length = length) (small : length ≤ maxAlloc)
    (decoded : packages.qpack.decodeFull block = .ok fields)
    (accepted : responseFromHeaders fields = .ok response) :
    ∃ left, (readResponse packages).run source = (.ok response, left) ∧
      view left = ⟨rest, (view source).ending⟩ := by
  obtain ⟨between, sized, seen⟩ := headers_length_small
    (.text "server stream got not HeadersFrame") next small
  have enough : length ≤ (block ++ rest).length := by
    rw [List.length_append, whole]
    exact Nat.le_add_right _ _
  have full := @Stream.read_full_enough _ _ (view source).ending enough
  rw [← seen, List.take_left' whole, List.drop_left' whole] at full
  obtain ⟨left, filled, remaining⟩ := (read_full_refines length).apply full
  refine ⟨left, ?_, remaining⟩
  rw [readResponse, Reading.bind_ok sized, Reading.bind_ok filled]
  exact Prod.ext (decode_response_ok.mpr ⟨fields, decoded, accepted⟩) rfl

theorem read_response_ok {response : Response} :
    ((readResponse packages).run source).1 = .ok response ↔
      ResponseReceived packages (view source).bytes response := by
  constructor
  · intro returned
    obtain ⟨length, between, sized, returned⟩ := Reading.bind_eq_ok.mp
      (Prod.ext returned rfl : (readResponse packages).run source = (.ok response, _))
    obtain ⟨rest, next, small, seen⟩ := headers_length_ok _ sized
    obtain ⟨⟨block, err⟩, after, filled, returned⟩ := Reading.bind_eq_ok.mp returned
    cases err with
    | some err => cases returned
    | none =>
        obtain ⟨enough, rfl⟩ := read_full_ok filled
        rw [seen] at enough returned
        obtain ⟨fields, decoded, accepted⟩ :=
          decode_response_ok.mp (congrArg Prod.fst returned)
        refine ⟨length, rest.take length, rest.drop length, fields, ?_,
          List.length_take_of_le enough, small, decoded, accepted⟩
        rw [List.take_append_drop]
        exact next
  · rintro ⟨length, block, rest, fields, next, whole, small, decoded, accepted⟩
    obtain ⟨left, received, -⟩ := read_response_received next whole small decoded accepted
    exact congrArg Prod.fst received

end Frames

/-- The settings in these bytes support WebTransport, both streams were opened and the
CONNECT request was written without error; `response` is what the peer then sends. -/
def Requested (client : WebTransportClient) (peer : Peer) (control : List UInt8)
    (response : Source) : Prop :=
  (∃ settings, SettingsReceived packages.varint control settings ∧
    supportsWebTransport settings = true) ∧
  (∃ settingsStream, peer.openUniStream = .ok settingsStream) ∧
  (∃ requestStream, peer.openStream = .ok (requestStream, response)) ∧
  (writeRequest packages newRequestWriter (connectRequest client) peer.written).2.1 = none

/-- The exchange behind the type byte ended with a response of status 200. -/
def Negotiated (client : WebTransportClient) (peer : Peer) (control : List UInt8) : Prop :=
  ∃ response answer, Requested packages client peer control response ∧
    ResponseReceived packages (view response).bytes answer ∧ answer.statusCode = 200

section Exchange

variable {packages} {peer : Peer} {connecting : Connecting} {settingsStream : StreamId}
  {settings : SettingsFrame} {control response : Source}

theorem finish_nil {outcome : Outcome Response} :
    (finish connecting outcome).1 = .ok none ↔
      ∃ answer, outcome = .ok answer ∧ answer.statusCode = 200 := by
  cases outcome with
  | ok answer =>
      simp only [finish]
      split
      next refused => simp [refused]
      next accepted => simpa using accepted
  | fail err => simp [finish]
  | hang => simp [finish]
  | panic reason => simp [finish]

theorem finish_connected {outcome : Outcome Response}
    (returned : (finish connecting outcome).1 = .ok none) :
    (finish connecting outcome).2 =
      { connecting with client := { connecting.client with connected := true } } := by
  obtain ⟨answer, rfl, accepted⟩ := finish_nil.mp returned
  simp [finish, accepted]

theorem finish_panic {outcome : Outcome Response} {reason : String} :
    (finish connecting outcome).1 = .panic reason ↔ outcome = .panic reason := by
  cases outcome with
  | ok answer =>
      simp only [finish]
      split <;> simp
  | fail err => simp [finish]
  | hang => simp [finish]
  | panic other => simp [finish]

theorem send_request_ok :
    (sendRequest packages peer settings connecting).1 = .ok response ↔
      supportsWebTransport settings = true ∧
      (∃ settingsStream, peer.openUniStream = .ok settingsStream) ∧
      (∃ requestStream, peer.openStream = .ok (requestStream, response)) ∧
      (writeRequest packages newRequestWriter (connectRequest connecting.client)
        peer.written).2.1 = none := by
  unfold sendRequest
  cases supports : supportsWebTransport settings with
  | false => simp
  | true =>
      cases openedUni : peer.openUniStream with
      | error err => simp
      | ok own =>
          cases opened : peer.openStream with
          | error err => simp
          | ok stream =>
              obtain ⟨requestStream, source⟩ := stream
              have same : connectRequest
                  { connecting.client with connectStream := some requestStream } =
                    connectRequest connecting.client := rfl
              simp only [same, Bool.not_true, Bool.false_eq_true, if_false]
              rcases writeRequest packages newRequestWriter (connectRequest connecting.client)
                peer.written with ⟨sent, err, writer⟩
              cases err <;> simp

theorem send_request_result {after : Connecting}
    (sent : sendRequest packages peer settings connecting = (.ok response, after)) :
    ∃ requestStream bytes, peer.openStream = .ok (requestStream, response) ∧
      after = ⟨{ connecting.client with connectStream := some requestStream },
        some (controlStreamBytes packages.varint peer.walks), some bytes⟩ := by
  obtain ⟨supports, ⟨own, openedUni⟩, ⟨requestStream, opened⟩, succeeded⟩ :=
    send_request_ok.mp (congrArg Prod.fst sent)
  obtain ⟨bytes, handed⟩ := write_request_sent packages succeeded
  have same : connectRequest { connecting.client with connectStream := some requestStream } =
      connectRequest connecting.client := rfl
  refine ⟨requestStream, bytes, opened, ?_⟩
  rw [sendRequest, if_neg (by simp [supports]), openedUni] at sent
  simp only [opened, same] at sent
  split at sent
  · cases sent
  next message writer written =>
    rw [written] at handed
    cases sent
    rw [← handed]

end Exchange

section Outcome

variable {packages} {client : WebTransportClient} {peer : Peer} {connecting : Connecting}
  {session : SessionRef} {settingsStream : StreamId} {control response : Source}

/-- `Connect` behind the type byte, once it has the settings it asks for. -/
theorem negotiate_requested
    (requested : Requested packages connecting.client peer (view control).bytes response) :
    ∃ requestStream bytes, peer.openStream = .ok (requestStream, response) ∧
      negotiate packages peer settingsStream control connecting = finish
        ⟨{ connecting.client with
            settingsStream := some settingsStream, connectStream := some requestStream },
          some (controlStreamBytes packages.varint peer.walks), some bytes⟩
        ((readResponse packages).run response).1 := by
  obtain ⟨⟨settings, received, supports⟩, openedUni, opened, written⟩ := requested
  let client := { connecting.client with settingsStream := some settingsStream }
  have sent : (sendRequest packages peer settings { connecting with client := client }).1 =
      .ok response := send_request_ok.mpr ⟨supports, openedUni, opened, written⟩
  obtain ⟨requestStream, bytes, stream, after⟩ := send_request_result (Prod.ext sent rfl)
  refine ⟨requestStream, bytes, stream, ?_⟩
  have read := read_settings_ok.mpr received
  simp only [negotiate, read]
  split
  next err failed =>
    rw [failed] at sent
    cases sent
  next other result returned =>
    rw [returned] at sent after
    cases sent
    dsimp only at after
    rw [after]

/-- Otherwise it returns an error or waits. -/
theorem negotiate_unrequested
    (unrequested : ∀ response,
      ¬Requested packages connecting.client peer (view control).bytes response) :
    (∃ err, (negotiate packages peer settingsStream control connecting).1 = .ok (some err)) ∨
      (negotiate packages peer settingsStream control connecting).1 = .hang := by
  unfold negotiate
  cases read : ((readSettings packages.varint).run control).1 with
  | fail err => exact .inl ⟨err, rfl⟩
  | hang => exact .inr rfl
  | panic reason => exact absurd read (read_settings_no_panic reason)
  | ok settings =>
      dsimp only
      split
      next err after failed => exact .inl ⟨err, rfl⟩
      next response after sent =>
        obtain ⟨supports, others⟩ := send_request_ok.mp (congrArg Prod.fst sent)
        exact absurd ⟨⟨settings, read_settings_ok.mp read, supports⟩, others⟩
          (unrequested response)

variable (client peer) in
def FirstRead (session : SessionRef) (settingsStream : StreamId) (data : List UInt8)
    (control : Source) : Prop :=
  peer.dial = .ok session ∧ ∃ source, peer.acceptUniStream = .ok (settingsStream, source) ∧
    read 1 source = some (⟨data, none⟩, control)

variable (packages client) in
theorem connect_first_read {data : List UInt8}
    (first : FirstRead peer session settingsStream data control) :
    connect packages client peer =
      if data = [] then (.ok none, ⟨{ client with session := some session }, none, none⟩)
      else negotiate packages peer settingsStream control
        ⟨{ client with session := some session }, none, none⟩ := by
  obtain ⟨dialled, source, accepted, returned⟩ := first
  simp only [connect, dialled, accepted, returned]
  by_cases empty : data = [] <;> simp [empty]

variable (packages client) in
/-- Without a first `Read` that succeeds, `Connect` returns an error or waits. -/
theorem connect_no_first_read
    (absent : ∀ session settingsStream data control,
      ¬FirstRead peer session settingsStream data control) :
    (∃ err, (connect packages client peer).1 = .ok (some err)) ∨
      (connect packages client peer).1 = .hang := by
  unfold connect
  cases dialled : peer.dial with
  | error err => exact .inl ⟨err, rfl⟩
  | ok session =>
      cases accepted : peer.acceptUniStream with
      | error err => exact .inl ⟨err, rfl⟩
      | ok stream =>
          obtain ⟨settingsStream, source⟩ := stream
          dsimp only
          cases returned : read 1 source with
          | none => exact .inr rfl
          | some result =>
              obtain ⟨⟨data, err⟩, control⟩ := result
              cases err with
              | none =>
                  exact absurd ⟨dialled, source, accepted, returned⟩
                    (absent session settingsStream data control)
              | some err => exact .inl ⟨err, by simp⟩

end Outcome

/-- How far `Connect` got, whatever it returned: the fields that are assigned by then and what
has been written. -/
inductive Reached (client : WebTransportClient) (peer : Peer) : Connecting → Prop where
  | undialled {err : Error} (failed : peer.dial = .error err) :
      Reached client peer ⟨client, none, none⟩
  | dialled {session : SessionRef} (dial : peer.dial = .ok session) :
      Reached client peer ⟨{ client with session := some session }, none, none⟩
  | settled {session : SessionRef} (dial : peer.dial = .ok session) (settingsStream : StreamId)
      (settings : Option (List UInt8)) :
      Reached client peer
        ⟨{ client with session := some session, settingsStream := some settingsStream },
          settings, none⟩
  | requested {session : SessionRef} (dial : peer.dial = .ok session)
      (settingsStream requestStream : StreamId) (settings : Option (List UInt8)) :
      Reached client peer
        ⟨{ client with
            session := some session
            settingsStream := some settingsStream
            connectStream := some requestStream }, settings,
          (writeRequest packages newRequestWriter (connectRequest client) peer.written).1⟩
  | connected {session : SessionRef} (dial : peer.dial = .ok session)
      (settingsStream requestStream : StreamId) (settings : Option (List UInt8)) :
      Reached client peer ⟨connectedClient client session requestStream settingsStream, settings,
        (writeRequest packages newRequestWriter (connectRequest client) peer.written).1⟩

section Exits

variable {packages} {client : WebTransportClient} {peer : Peer} {session : SessionRef}

theorem send_request_reached (dial : peer.dial = .ok session) (settingsStream : StreamId)
    (settings : SettingsFrame) :
    Reached packages client peer (sendRequest packages peer settings
      ⟨{ client with session := some session, settingsStream := some settingsStream },
        none, none⟩).2 ∧
      ∀ response after, sendRequest packages peer settings
          ⟨{ client with session := some session, settingsStream := some settingsStream },
            none, none⟩ = (.ok response, after) →
        ∃ requestStream settings, after = ⟨{ client with
            session := some session
            settingsStream := some settingsStream
            connectStream := some requestStream }, settings,
          (writeRequest packages newRequestWriter (connectRequest client) peer.written).1⟩ := by
  unfold sendRequest
  split
  · exact ⟨.settled dial settingsStream none, by simp⟩
  split
  · exact ⟨.settled dial settingsStream none, by simp⟩
  dsimp only
  split
  · exact ⟨.settled dial settingsStream _, by simp⟩
  next requestStream source opened =>
    -- the request depends on path and address only
    have same : connectRequest { client with
        session := some session, settingsStream := some settingsStream,
        connectStream := some requestStream } = connectRequest client := rfl
    rw [same]
    split
    next sent err writer wrote =>
      have handed := congrArg Prod.fst wrote
      dsimp only at handed
      rw [← handed]
      exact ⟨.requested dial settingsStream requestStream _, by simp⟩
    next sent writer wrote =>
      have handed := congrArg Prod.fst wrote
      dsimp only at handed
      rw [← handed]
      refine ⟨.requested dial settingsStream requestStream _, ?_⟩
      rintro response after ⟨⟩
      exact ⟨requestStream, _, rfl⟩

theorem finish_reached (dial : peer.dial = .ok session) (settingsStream requestStream : StreamId)
    (settings : Option (List UInt8)) (outcome : Outcome Response) :
    Reached packages client peer (finish ⟨{ client with
        session := some session
        settingsStream := some settingsStream
        connectStream := some requestStream }, settings,
      (writeRequest packages newRequestWriter (connectRequest client) peer.written).1⟩
      outcome).2 := by
  cases outcome with
  | ok answer =>
      simp only [finish]
      split
      · exact .requested dial settingsStream requestStream settings
      · exact .connected dial settingsStream requestStream settings
  | fail err => exact .requested dial settingsStream requestStream settings
  | hang => exact .requested dial settingsStream requestStream settings
  | panic reason => exact .requested dial settingsStream requestStream settings

theorem negotiate_reached (dial : peer.dial = .ok session) (settingsStream : StreamId)
    (control : Source) : Reached packages client peer (negotiate packages peer settingsStream
      control ⟨{ client with session := some session }, none, none⟩).2 := by
  unfold negotiate
  split
  next settings read =>
    rcases @send_request_reached packages client peer session dial settingsStream settings with
      ⟨reached, went⟩
    dsimp only at reached went ⊢
    split
    next err after failed =>
      rw [failed] at reached
      exact reached
    next response after sent =>
      rcases went response after sent with ⟨requestStream, settings, rfl⟩
      exact finish_reached dial settingsStream requestStream settings _
  · exact .dialled dial
  · exact .dialled dial
  · exact .dialled dial

variable (packages client peer) in
theorem connect_reached : Reached packages client peer (connect packages client peer).2 := by
  unfold connect
  cases dial : peer.dial with
  | error err => exact .undialled dial
  | ok session =>
      dsimp only
      split
      · exact .dialled dial
      next settingsStream source accepted =>
        split
        · exact .dialled dial
        next result control returned =>
          split
          · exact .dialled dial
          · exact negotiate_reached dial settingsStream control

variable (packages client peer) in
theorem connect_request :
    (connect packages client peer).2.request = none ∨
      (connect packages client peer).2.request =
        (writeRequest packages newRequestWriter (connectRequest client) peer.written).1 := by
  generalize reaches : (connect packages client peer).2 = left
  have reached := connect_reached packages client peer
  rw [reaches] at reached
  cases reached with
  | undialled failed => exact .inl rfl
  | dialled dial => exact .inl rfl
  | settled dial settingsStream settings => exact .inl rfl
  | requested dial settingsStream requestStream settings => exact .inr rfl
  | connected dial settingsStream requestStream settings => exact .inr rfl

end Exits

/-- The server's stream began with the control stream type, and the exchange behind it was
completed by the client. -/
structure Validated (client : WebTransportClient) (peer : Peer) : Prop where
  negotiated : ∃ settingsStream source control,
    peer.acceptUniStream = .ok (settingsStream, source) ∧
    (view source).bytes = 0x00 :: control ∧ Negotiated packages client peer control
  written : (connect packages client peer).2.request ≠ none
  connected : (connect packages client peer).2.client.connected = true

/-- The first `Read` returns something, and a byte other than the control stream type is not
followed by a handshake that passes. -/
def TypeByteHonest (client : WebTransportClient) (peer : Peer) : Prop :=
  ∀ session settingsStream data control,
    FirstRead peer session settingsStream data control →
    data ≠ [] ∧ (data ≠ [0x00] → ¬Negotiated packages client peer (view control).bytes)

section Nil

variable {packages} {client : WebTransportClient} {peer : Peer} {session : SessionRef}
  {settingsStream : StreamId} {control : Source}

theorem negotiate_nil :
    (negotiate packages peer settingsStream control
        ⟨{ client with session := some session }, none, none⟩).1 = .ok none ↔
      Negotiated packages client peer (view control).bytes := by
  constructor
  · intro returned
    by_cases requested : ∃ response,
        Requested packages client peer (view control).bytes response
    · obtain ⟨response, requested⟩ := requested
      obtain ⟨requestStream, bytes, -, ran⟩ := @negotiate_requested packages peer
        ⟨{ client with session := some session }, none, none⟩ settingsStream control response
        requested
      rw [ran] at returned
      obtain ⟨answer, read, accepted⟩ := finish_nil.mp returned
      exact ⟨response, answer, requested, read_response_ok.mp read, accepted⟩
    · rw [not_exists] at requested
      rcases @negotiate_unrequested packages peer
        ⟨{ client with session := some session }, none, none⟩ settingsStream control requested
        with ⟨err, failed⟩ | blocked
      · rw [failed] at returned
        cases returned
      · rw [blocked] at returned
        cases returned
  · rintro ⟨response, answer, requested, received, accepted⟩
    obtain ⟨requestStream, bytes, -, ran⟩ := @negotiate_requested packages peer
      ⟨{ client with session := some session }, none, none⟩ settingsStream control response
      requested
    rw [ran]
    exact finish_nil.mpr ⟨answer, read_response_ok.mpr received, accepted⟩

/-- The client behind a completed exchange is the one its loops start from. -/
theorem negotiate_connected
    (negotiated : Negotiated packages client peer (view control).bytes) :
    ∃ requestStream response bytes, peer.openStream = .ok (requestStream, response) ∧
      negotiate packages peer settingsStream control
          ⟨{ client with session := some session }, none, none⟩ =
        (.ok none, ⟨connectedClient client session requestStream settingsStream,
          some (controlStreamBytes packages.varint peer.walks), some bytes⟩) := by
  have returned := (@negotiate_nil packages client peer session settingsStream control).mpr
    negotiated
  obtain ⟨response, answer, requested, -, -⟩ := negotiated
  obtain ⟨requestStream, bytes, opened, ran⟩ := @negotiate_requested packages peer
    ⟨{ client with session := some session }, none, none⟩ settingsStream control response
    requested
  refine ⟨requestStream, response, bytes, opened, ?_⟩
  rw [ran] at returned ⊢
  exact Prod.ext returned (finish_connected returned)

theorem first_read_bytes {data : List UInt8} {source : Source}
    (returned : read 1 source = some (⟨data, none⟩, control)) :
    data.length ≤ 1 ∧ (view source).bytes = data ++ (view control).bytes := by
  obtain ⟨short, seen, -, -⟩ := read_some returned
  exact ⟨short, congrArg Stream.bytes seen⟩

theorem validated_of_negotiated {data : List UInt8}
    (first : FirstRead peer session settingsStream data control) (zero : data = [0x00])
    (negotiated : Negotiated packages client peer (view control).bytes) :
    Validated packages client peer := by
  obtain ⟨requestStream, response, bytes, opened, ran⟩ :=
    @negotiate_connected packages client peer session settingsStream control negotiated
  have result := connect_first_read packages client first
  rw [if_neg (by simp [zero]), ran] at result
  obtain ⟨-, source, accepted, returned⟩ := first
  refine ⟨⟨settingsStream, source, (view control).bytes, accepted, ?_, negotiated⟩, ?_, ?_⟩
  · rw [(first_read_bytes returned).2, zero]
    rfl
  · simp [result]
  · simp [result, connectedClient]

end Nil

/-- A nil error means a validated handshake exactly if the peer's first `Read` and its type
byte are honest. -/
theorem nil_validated_iff (client : WebTransportClient) (peer : Peer) :
    ((connect packages client peer).1 = .ok none → Validated packages client peer) ↔
      TypeByteHonest packages client peer := by
  constructor
  · intro validated session settingsStream data control first
    have result := connect_first_read packages client first
    have present : data ≠ [] := by
      intro empty
      rw [if_pos empty] at result
      have written := (validated (congrArg Prod.fst result)).written
      simp [result] at written
    refine ⟨present, fun other negotiated => other ?_⟩
    rw [if_neg present] at result
    have returned := (@negotiate_nil packages client peer session settingsStream control).mpr
      negotiated
    obtain ⟨_, source, after, accepted, zero, -⟩ :=
      (validated (result ▸ returned)).negotiated
    obtain ⟨-, other, otherAccepted, read⟩ := first
    rw [accepted] at otherAccepted
    cases otherAccepted
    obtain ⟨short, seen⟩ := first_read_bytes read
    rw [zero] at seen
    match data, present, short, seen with
    | [byte], _, _, seen => exact congrArg (fun byte => [byte]) (List.cons.inj seen).1.symm
  · intro honest returned
    by_cases present : ∃ session settingsStream data control,
        FirstRead peer session settingsStream data control
    · obtain ⟨session, settingsStream, data, control, first⟩ := present
      obtain ⟨read, typed⟩ := honest session settingsStream data control first
      rw [connect_first_read packages client first, if_neg read, negotiate_nil] at returned
      refine validated_of_negotiated first ?_ returned
      by_contra other
      exact typed other returned
    · simp only [not_exists] at present
      rcases connect_no_first_read packages client present with ⟨err, failed⟩ | blocked
      · rw [failed] at returned
        cases returned
      · rw [blocked] at returned
        cases returned

def emptyFirstRead : Peer where
  dial := .ok 1
  acceptUniStream := .ok (3, [⟨[], none⟩])
  openUniStream := .ok 2
  openStream := .ok (0, [])
  written := none
  walks := .same

/-- `Connect` returns nil with nothing validated and nothing written. -/
theorem nil_without_handshake :
    ¬((connect .reference (createWebTransportClient (lit "localhost:4433") (lit "/echo"))
        emptyFirstRead).1 = .ok none →
      Validated .reference (createWebTransportClient (lit "localhost:4433") (lit "/echo"))
        emptyFirstRead) := by
  intro validated
  exact absurd (validated rfl).connected (by decide)

end WebTransportGos.Client
