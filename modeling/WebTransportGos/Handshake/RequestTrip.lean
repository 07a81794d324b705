import WebTransportGos.Library.UrlTrip
import WebTransportGos.Handshake.HandleSession
import WebTransportGos.Handshake.Connect

/-!
The CONNECT request from the client's request writer to the server's test for it. The
client puts its address into `:authority` as it was configured; the server makes a URL of
it and of the escaped path, and compares the path of that URL with its own.
-/

namespace WebTransportGos

open GoReader GoText NetUrl H3 Client Server

set_option autoImplicit false

variable (packages : Packages)

def effectivePath (path : GoString) : GoString := if path = [] then lit "/" else path

def Rooted (path : GoString) : Prop := path = [] ∨ ∃ rest, path = ch '/' :: rest

def connectFields (remoteAddr path : GoString) : List HeaderField :=
  requestFields (connectRequest (createWebTransportClient remoteAddr path)) remoteAddr
    (escape (effectivePath path) .path)

def connectBlock (remoteAddr path : GoString) : List UInt8 :=
  packages.qpack.blockPrefix ++
    (connectFields remoteAddr path).flatMap packages.qpack.encodeField

def connectBytes (remoteAddr path : GoString) : List UInt8 :=
  headersFrameWrite packages.varint (connectBlock packages remoteAddr path).length ++
    connectBlock packages remoteAddr path

section Writer

variable {packages} {remoteAddr path : GoString}

theorem Rooted.effective (rooted : Rooted path) :
    ∃ rest, effectivePath path = ch '/' :: rest := by
  rcases rooted with rfl | ⟨rest, rfl⟩
  · exact ⟨[], rfl⟩
  · exact ⟨rest, if_neg (List.cons_ne_nil _ _)⟩

theorem request_uri_eq (rooted : Rooted path) :
    (connectRequest (createWebTransportClient remoteAddr path)).url.requestURI =
      escape (effectivePath path) .path := by
  rcases rooted with rfl | ⟨rest, rfl⟩
  · rfl
  · have other : ch '/' :: rest ≠ lit "*" := by
      intro same
      cases (List.cons.inj same).1
    have effective : effectivePath (ch '/' :: rest) = ch '/' :: rest :=
      if_neg (List.cons_ne_nil _ _)
    have escaped : (connectRequest
        (createWebTransportClient remoteAddr (ch '/' :: rest))).url.escapedPath =
          escape (ch '/' :: rest) .path := by
      rw [URL.escapedPath, if_neg (by simp [connectRequest])]
      exact if_neg other
    simp only [URL.requestURI, escaped, effective]
    rw [escape_rooted]
    simp [connectRequest]

theorem request_path_eq (rooted : Rooted path) (host : GoString) :
    requestPath (connectRequest (createWebTransportClient remoteAddr path)) host =
      .ok (escape (effectivePath path) .path) := by
  have valid : validPseudoPath (escape (effectivePath path) .path) = true := by
    rcases rooted.effective with ⟨rest, same⟩
    rw [same, escape_rooted]
    rfl
  rw [requestPath, request_uri_eq rooted, valid]
  rfl

theorem write_fields (writer : RequestWriter) (wrote : writer.wrotePrefix = true)
    (fields : List HeaderField) :
    fields.foldl (RequestWriter.writeField packages) writer =
      ⟨true, writer.headerBuf ++ fields.flatMap packages.qpack.encodeField⟩ := by
  induction fields generalizing writer with
  | nil =>
      rcases writer with ⟨wrotePrefix, headerBuf⟩
      simp only at wrote
      simp [wrote]
  | cons field fields induction =>
      rw [List.foldl_cons, induction _ rfl]
      simp [RequestWriter.writeField, wrote]

theorem request_written (ascii : ∀ byte ∈ remoteAddr, byte < 0x80) (rooted : Rooted path)
    (written : Option Error) :
    writeRequest packages newRequestWriter
        (connectRequest (createWebTransportClient remoteAddr path)) written =
      (some (connectBytes packages remoteAddr path), written, newRequestWriter) := by
  have host : (if (connectRequest (createWebTransportClient remoteAddr path)).host = [] then
      (connectRequest (createWebTransportClient remoteAddr path)).url.host
      else (connectRequest (createWebTransportClient remoteAddr path)).host) = remoteAddr := by
    split
    next empty => exact empty.symm
    next => rfl
  have encoded : encodeHeaders packages newRequestWriter
      (connectRequest (createWebTransportClient remoteAddr path)) =
        .ok ⟨true, connectBlock packages remoteAddr path⟩ := by
    rw [encodeHeaders, host, packages.punycode_ascii remoteAddr ascii]
    dsimp only [bind, Except.bind]
    rw [request_path_eq rooted]
    show Except.ok ((connectFields remoteAddr path).foldl (RequestWriter.writeField packages)
      newRequestWriter) = _
    rw [connectFields, requestFields, List.foldl_cons, write_fields _ rfl]
    simp [RequestWriter.writeField, newRequestWriter, connectBlock, connectFields, requestFields]
  rw [writeRequest, writeHeaders, encoded]
  rfl

/-- What `Connect` has written on the request stream when it got that far. -/
theorem connect_sent (ascii : ∀ byte ∈ remoteAddr, byte < 0x80) (rooted : Rooted path)
    {peer : Peer} {sent : List UInt8}
    (wrote : (connect packages (createWebTransportClient remoteAddr path) peer).2.request =
      some sent) : sent = connectBytes packages remoteAddr path := by
  rcases connect_request packages (createWebTransportClient remoteAddr path) peer with
    nothing | handed
  · rw [nothing] at wrote
    cases wrote
  · rw [handed, request_written ascii rooted] at wrote
    exact (Option.some.inj wrote).symm

end Writer

section Reader

variable {packages} {remoteAddr path : GoString}

def receivedRequest (remoteAddr path : GoString) (url : URL) : Request where
  method := lit "CONNECT"
  url := url
  proto := lit "webtransport"
  host := remoteAddr
  requestURI := escape (effectivePath path) .path

theorem request_from_connect_fields (remoteAddr path : GoString) :
    requestFromHeaders (connectFields remoteAddr path) =
      (parseRequestURI (httpsPrefix ++ remoteAddr ++ escape (effectivePath path) .path)).map
        (receivedRequest remoteAddr path) := by
  have fields : (connectFields remoteAddr path).foldl requestField {} =
      { path := escape (effectivePath path) .path, authority := remoteAddr,
        method := lit "CONNECT", protocol := lit "webtransport" } := rfl
  rw [requestFromHeaders, fields]
  dsimp only
  rw [if_neg (by simp), if_pos (by simp)]
  show (parseRequestURI (httpsPrefix ++ remoteAddr ++ escape (effectivePath path) .path) >>= _) = _
  cases parseRequestURI (httpsPrefix ++ remoteAddr ++ escape (effectivePath path) .path) with
  | error err => rfl
  | ok url => rfl

theorem request_read {source : Source} {rest : List UInt8}
    (allocated : (connectBlock packages remoteAddr path).length ≤ maxAlloc)
    (seen : (view source).bytes = connectBytes packages remoteAddr path ++ rest) :
    ∃ left, (readRequest packages).run source =
        (decodeRequest packages (connectBlock packages remoteAddr path), left) ∧
      view left = ⟨rest, (view source).ending⟩ := by
  have next : NextFrame packages.varint (view source).bytes 0x1
      (connectBlock packages remoteAddr path).length
      (connectBlock packages remoteAddr path ++ rest) := by
    rw [seen, connectBytes, List.append_assoc]
    exact next_frame_headers (Nat.lt_of_le_of_lt allocated (by decide)) _
  have whole := read_request_whole next allocated (by simp)
  rw [List.take_left, List.drop_left] at whole
  exact whole

theorem decode_connect_block (remoteAddr path : GoString) :
    decodeRequest packages (connectBlock packages remoteAddr path) =
      match requestFromHeaders (connectFields remoteAddr path) with
      | .error err => .fail err
      | .ok req => .ok (connectBlock packages remoteAddr path, req) := by
  have decoded : packages.qpack.decodeFull (connectBlock packages remoteAddr path) =
      .ok (connectFields remoteAddr path) :=
    packages.qpack.decode_encode _ (List.cons_ne_nil _ _)
  cases parsed : requestFromHeaders (connectFields remoteAddr path) with
  | error err =>
      rw [decodeRequest, decoded]
      dsimp only
      rw [parsed]
  | ok req =>
      rw [decodeRequest, decoded]
      dsimp only
      rw [parsed]

/-- A request for WebTransport is answered 200 on the configured path, and 404 elsewhere. -/
theorem respond_status (server : WebTransportServer) (incoming : Incoming)
    (control block : List UInt8) (settingsStream requestStream : StreamId) {req : Request}
    (method : req.method = lit "CONNECT") (proto : req.proto = lit "webtransport") :
    (respond packages server incoming control settingsStream requestStream
        (.ok (block, req))).response =
      answer packages
        (if server.path = [] ∨ server.path = req.url.path then 200 else 404) := by
  have accepts : server.accepts { req with remoteAddr := incoming.remoteAddr } = true ↔
      server.path = [] ∨ server.path = req.url.path := by
    simp only [WebTransportServer.accepts, method, proto, true_and, decide_eq_true_eq]
    rw [or_comm, eq_comm (a := req.url.path)]
  simp only [respond]
  split
  next accepted => rw [if_pos (accepts.mp accepted)]
  next refused => rw [if_neg (mt accepts.mpr refused)]

end Reader

/-- These bytes are what `Connect` writes, and on every request stream that begins with them
the server reads the request that was meant and answers it by its path. -/
structure RequestAgrees (remoteAddr path : GoString) (bytes : List UInt8) : Prop where
  written : ∀ written, writeRequest packages newRequestWriter
    (connectRequest (createWebTransportClient remoteAddr path)) written =
      (some bytes, written, newRequestWriter)
  connects : ∀ peer sent,
    (connect packages (createWebTransportClient remoteAddr path) peer).2.request = some sent →
      sent = bytes
  received : ∀ source rest, (view source).bytes = bytes ++ rest →
    ∃ block req left, (readRequest packages).run source = (.ok (block, req), left) ∧
      req.method = lit "CONNECT" ∧ req.proto = lit "webtransport" ∧ req.host = remoteAddr ∧
      req.url.path = effectivePath path ∧ view left = ⟨rest, (view source).ending⟩
  answered : ∀ server incoming settingsStream requestStream source rest,
    incoming.requestStream = some (settingsStream, requestStream, source) →
    (view source).bytes = bytes ++ rest →
    (handleSession packages server incoming).response = answer packages
      (if server.path = [] ∨ server.path = effectivePath path then 200 else 404)

/-- Client and server agree on every authority that net/url accepts. The writer has the block
in a buffer, and no slice is longer than `maxAlloc`. -/
theorem request_agrees {remoteAddr path : GoString} (ascii : ∀ byte ∈ remoteAddr, byte < 0x80)
    (rooted : Rooted path) (accepted : isAuthority remoteAddr = true)
    (allocated : (connectBlock packages remoteAddr path).length ≤ maxAlloc) :
    ∃ bytes, RequestAgrees packages remoteAddr path bytes := by
  rcases rooted.effective with ⟨behind, effective⟩
  rcases parse_escaped accepted behind with ⟨url, parsed, urlPath⟩
  rw [← effective] at parsed urlPath
  have decoded : decodeRequest packages (connectBlock packages remoteAddr path) =
      .ok (connectBlock packages remoteAddr path, receivedRequest remoteAddr path url) := by
    rw [decode_connect_block, request_from_connect_fields, parsed]
    rfl
  refine ⟨connectBytes packages remoteAddr path, request_written ascii rooted,
    fun peer sent => connect_sent ascii rooted, ?_, ?_⟩
  · intro source rest seen
    rcases request_read allocated seen with ⟨left, ran, remaining⟩
    rw [decoded] at ran
    exact ⟨_, _, left, ran, rfl, rfl, rfl, urlPath, remaining⟩
  · intro server incoming settingsStream requestStream source rest reached seen
    rcases request_read allocated seen with ⟨left, ran, -⟩
    rw [handle_session_reached packages server reached, ran, decoded,
      respond_status server incoming _ _ _ _ rfl rfl, ← urlPath]
    rfl

/-- A host name and a port, and a path that has to be escaped. -/
theorem localhost_request_agrees : ∃ bytes,
    RequestAgrees .reference (lit "localhost:4433") (lit "/a?b c") bytes :=
  request_agrees .reference (by decide +kernel) (.inr ⟨_, rfl⟩)
    (@host_port_authority (lit "localhost") (lit "4433") (by decide) (by decide))
    (by decide +kernel)

section Refused

variable {packages} {remoteAddr path : GoString}

theorem RequestAgrees.accepted {bytes : List UInt8}
    (agreed : RequestAgrees packages remoteAddr path bytes)
    (ascii : ∀ byte ∈ remoteAddr, byte < 0x80) (rooted : Rooted path)
    (allocated : (connectBlock packages remoteAddr path).length ≤ maxAlloc) :
    ∃ url, parseRequestURI (httpsPrefix ++ remoteAddr ++ escape (effectivePath path) .path) =
      .ok url ∧ url.path = effectivePath path := by
  have same : bytes = connectBytes packages remoteAddr path := by
    have wrote := agreed.written none
    rw [request_written ascii rooted] at wrote
    exact (Option.some.inj (congrArg Prod.fst wrote)).symm
  have seen : (view [⟨bytes, some .eof⟩]).bytes = bytes ++ [] := by simp
  rcases agreed.received _ _ seen with ⟨block, req, left, ran, -, -, -, urlPath, -⟩
  rw [same] at ran seen
  rcases request_read allocated seen with ⟨after, read, -⟩
  have decoded := congrArg Prod.fst (read.symm.trans ran)
  rw [decode_connect_block, request_from_connect_fields] at decoded
  cases parsed : parseRequestURI
      (httpsPrefix ++ remoteAddr ++ escape (effectivePath path) .path) with
  | error err =>
      rw [parsed] at decoded
      cases decoded
  | ok url =>
      rw [parsed] at decoded
      cases decoded
      exact ⟨url, rfl, urlPath⟩

/-- No other authority will do, not even for the paths `/` and `/a`. -/
theorem authority_of_request_agrees (ascii : ∀ byte ∈ remoteAddr, byte < 0x80)
    (allocated : ∀ rest : GoString, rest = [] ∨ rest = [ch 'a'] →
      (connectBlock packages remoteAddr (ch '/' :: rest)).length ≤ maxAlloc)
    (agrees : ∀ rest : GoString, rest = [] ∨ rest = [ch 'a'] →
      ∃ bytes, RequestAgrees packages remoteAddr (ch '/' :: rest) bytes) :
    isAuthority remoteAddr = true := by
  apply authority_of_parsed
  intro rest either
  rcases agrees rest either with ⟨bytes, agreed⟩
  have accepted := agreed.accepted ascii (.inr ⟨rest, rfl⟩) (allocated rest either)
  have effective : effectivePath (ch '/' :: rest) = ch '/' :: rest :=
    if_neg (List.cons_ne_nil _ _)
  have kept : escape (ch '/' :: rest) .path = ch '/' :: rest := by
    rcases either with rfl | rfl <;> rfl
  rw [effective, kept, List.append_assoc] at accepted
  exact accepted

end Refused

def HostPort (addr : GoString) : Prop :=
  ∃ host port, addr = host ++ ch ':' :: port ∧ host ≠ [] ∧ port ≠ [] ∧ port.all isDigit = true

/-- An IPv6 address with a zone can be dialled, but the server makes no URL of it. -/
theorem zone_request_disagrees : ¬∀ remoteAddr path : GoString,
    (∀ byte ∈ remoteAddr, byte < 0x80) → HostPort remoteAddr → Rooted path →
    (connectBlock .reference remoteAddr path).length ≤ maxAlloc →
    ∃ bytes, RequestAgrees .reference remoteAddr path bytes := by
  intro agree
  have hostPort : HostPort (lit "[fe80::1%eth0]:4433") :=
    ⟨lit "[fe80::1%eth0]", lit "4433", rfl, by decide, by decide, by decide⟩
  have allocated : (connectBlock .reference (lit "[fe80::1%eth0]:4433")
      (lit "/echo")).length ≤ maxAlloc := by decide +kernel
  rcases agree (lit "[fe80::1%eth0]:4433") (lit "/echo") (by decide +kernel) hostPort (.inr ⟨_, rfl⟩)
    allocated with ⟨bytes, agreed⟩
  rcases agreed.accepted (by decide +kernel) (.inr ⟨_, rfl⟩) allocated with ⟨url, parsed, -⟩
  have refused : parseRequestURI (httpsPrefix ++ lit "[fe80::1%eth0]:4433" ++
      escape (effectivePath (lit "/echo")) .path) = .error escapeError := by decide +kernel
  rw [refused] at parsed
  cases parsed

end WebTransportGos
