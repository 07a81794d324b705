import WebTransportGos.Handshake.HeaderBlock
import WebTransportGos.H3.ResponseWriter
import WebTransportGos.Session.ServerTransport

/-!
webtransport_server.go: `handleSession`, from the accepted QUIC session to the response
and the `WebTransport` for the application. A failed read of the header block is logged
and not acted on: the decoder then gets the buffer with zeros behind what was read. The
main result says on which request streams this shows.
-/

namespace WebTransportGos.Server

open GoReader GoText H3

set_option autoImplicit false

/-- Of the configuration `handleSession` reads the path only. -/
structure WebTransportServer where
  path : GoString

/-- An accepted QUIC session: what its blocking calls return, and what the peer sends on
the stream that is taken for the request stream. -/
structure Incoming where
  session : SessionRef
  remoteAddr : GoString
  walks : SettingsWalks
  openUniStream : Except Error StreamId
  acceptUniStream : Except Error StreamId
  acceptStream : Except Error (StreamId × Source)

/-- What `handleSession` has done when it returns, waits for good or panics. `block` is the
header block of a request that was answered. -/
structure Handled where
  outcome : Outcome Unit
  control : Option (List UInt8)
  response : List UInt8
  block : Option (List UInt8)
  transport : Option State

def Handled.silent (outcome : Outcome Unit) (control : Option (List UInt8)) : Handled :=
  ⟨outcome, control, [], none, none⟩

def Handled.acted (handled : Handled) : Prop := handled.response ≠ [] ∨ handled.transport.isSome

variable (packages : Packages)

/-- `io.ReadFull` into the allocated buffer; its error is only logged. -/
def requestBlock : Reading Source (List UInt8) := do
  let length ← headersLength packages.varint (.text "request stream got not HeadersFrame")
  let (got, _) ← readFull length
  pure (zeroPadded length got)

def decodeRequest (block : List UInt8) : Outcome (List UInt8 × Request) :=
  match packages.qpack.decodeFull block with
  | .error err => .fail err
  | .ok fields => match requestFromHeaders fields with
      | .error err => .fail err
      | .ok req => .ok (block, req)

def readRequest : Reading Source (List UInt8 × Request) := do
  let block ← requestBlock packages
  .stop (decodeRequest packages block)

def draftHeader : GoString := lit "sec-webtransport-http3-draft"

def answer (status : Int) : List UInt8 :=
  ((newResponseWriter.addHeader draftHeader (lit "draft02")).writeHeader packages status
    [(canonicalKey draftHeader, [lit "draft02"])]).flush.stream.written

def WebTransportServer.accepts (server : WebTransportServer) (req : Request) : Bool :=
  req.method = lit "CONNECT" ∧ req.proto = lit "webtransport" ∧
    (req.url.path = server.path ∨ server.path = [])

/-- `handleSession` from what the request stream gave. -/
def respond (server : WebTransportServer) (incoming : Incoming) (control : List UInt8)
    (settingsStream requestStream : StreamId) : Outcome (List UInt8 × Request) → Handled
  | .ok (block, req) =>
      let req := { req with remoteAddr := incoming.remoteAddr }
      if server.accepts req then
        { outcome := .ok ()
          control := some control
          response := answer packages 200
          block := some block
          transport :=
            some (createWebTransport incoming.session req requestStream settingsStream) }
      else
        { outcome := .ok ()
          control := some control
          response := answer packages 404
          block := some block
          transport := none }
  | .fail _ => .silent (.ok ()) (some control)
  | .hang => .silent .hang (some control)
  | .panic reason => .silent (.panic reason) (some control)

def handleSession (server : WebTransportServer) (incoming : Incoming) : Handled :=
  match incoming.openUniStream with
  | .error _ => .silent (.ok ()) none
  | .ok _ =>
      let control := controlStreamBytes packages.varint incoming.walks
      match incoming.acceptUniStream with
      | .error _ => .silent (.ok ()) (some control)
      | .ok settingsStream => match incoming.acceptStream with
          | .error _ => .silent (.ok ()) (some control)
          | .ok (requestStream, source) =>
              respond packages server incoming control settingsStream requestStream
                ((readRequest packages).run source).1

/-- The streams of a session that gets as far as the request, and what the peer sends there. -/
def Incoming.requestStream (incoming : Incoming) : Option (StreamId × StreamId × Source) :=
  match incoming.openUniStream, incoming.acceptUniStream, incoming.acceptStream with
  | .ok _, .ok settingsStream, .ok (requestStream, source) =>
      some (settingsStream, requestStream, source)
  | _, _, _ => none

section Reading

variable {packages} {source : Source} {rest : List UInt8} {length : Nat} {err : Error}

theorem read_request_large (next : NextFrame packages.varint (view source).bytes 0x1 length rest)
    (large : maxAlloc < length) : ((readRequest packages).run source).1 = .panic outOfRange := by
  obtain ⟨left, panicked⟩ := headers_length_large
    (.text "request stream got not HeadersFrame") next large
  have block : (requestBlock packages).run source = (.panic outOfRange, left) :=
    Reading.bind_panic panicked
  rw [readRequest, Reading.bind_panic block]

theorem read_request_whole
    (next : NextFrame packages.varint (view source).bytes 0x1 length rest)
    (small : length ≤ maxAlloc) (complete : length ≤ rest.length) :
    ∃ left, (readRequest packages).run source =
        (decodeRequest packages (rest.take length), left) ∧
      view left = ⟨rest.drop length, (view source).ending⟩ := by
  obtain ⟨between, sized, seen⟩ := headers_length_small
    (.text "request stream got not HeadersFrame") next small
  have full := @Stream.read_full_enough _ _ (view source).ending complete
  rw [← seen] at full
  obtain ⟨left, filled, remaining⟩ := (read_full_refines length).apply full
  have block : (requestBlock packages).run source = (.ok (rest.take length), left) := by
    rw [requestBlock, Reading.bind_ok sized, Reading.bind_ok filled, Reading.pure_run,
      zero_padded_full (List.length_take_of_le complete)]
  refine ⟨left, ?_, remaining⟩
  rw [readRequest, Reading.bind_ok block, Reading.stop_run]

theorem read_request_complete
    (next : NextFrame packages.varint (view source).bytes 0x1 length rest)
    (small : length ≤ maxAlloc) (complete : length ≤ rest.length) :
    ((readRequest packages).run source).1 = decodeRequest packages (rest.take length) := by
  obtain ⟨left, ran, -⟩ := read_request_whole next small complete
  exact congrArg Prod.fst ran

theorem read_request_short
    (next : NextFrame packages.varint (view source).bytes 0x1 length rest)
    (small : length ≤ maxAlloc) (short : rest.length < length)
    (ended : (view source).ending = .fail err) :
    ((readRequest packages).run source).1 = decodeRequest packages (zeroPadded length rest) := by
  obtain ⟨left, sized, seen⟩ := headers_length_small
    (.text "request stream got not HeadersFrame") next small
  have partly := @Stream.read_full_fail _ _ err (Nat.not_le.mpr short)
  rw [← ended, ← seen] at partly
  obtain ⟨after, filled, -⟩ := (read_full_refines length).apply partly
  have block : (requestBlock packages).run source = (.ok (zeroPadded length rest), after) := by
    rw [requestBlock, Reading.bind_ok sized, Reading.bind_ok filled, Reading.pure_run]
  rw [readRequest, Reading.bind_ok block, Reading.stop_run]

theorem read_request_waits
    (next : NextFrame packages.varint (view source).bytes 0x1 length rest)
    (small : length ≤ maxAlloc) (short : rest.length < length)
    (waits : (view source).ending = .hang) :
    ((readRequest packages).run source).1 = .hang := by
  obtain ⟨left, sized, seen⟩ := headers_length_small
    (.text "request stream got not HeadersFrame") next small
  have blocked := Stream.read_full_hang (Nat.not_le.mpr short)
  rw [← waits, ← seen] at blocked
  obtain ⟨after, filled, -⟩ := (read_full_refines length).apply blocked
  have block : (requestBlock packages).run source = (.hang, after) := by
    rw [requestBlock, Reading.bind_ok sized, Reading.bind_hang filled]
  rw [readRequest, Reading.bind_hang block]

theorem read_request_absent
    (absent : ∀ length rest, ¬NextFrame packages.varint (view source).bytes 0x1 length rest) :
    (∃ err, ((readRequest packages).run source).1 = .fail err) ∨
      ((view source).ending = .hang ∧ ((readRequest packages).run source).1 = .hang) := by
  rcases headers_length_absent (.text "request stream got not HeadersFrame") absent with
    ⟨err, left, failed⟩ | ⟨waits, left, blocked⟩
  · have block : (requestBlock packages).run source = (.fail err, left) :=
      Reading.bind_fail failed
    refine .inl ⟨err, ?_⟩
    rw [readRequest, Reading.bind_fail block]
  · have block : (requestBlock packages).run source = (.hang, left) :=
      Reading.bind_hang blocked
    refine .inr ⟨waits, ?_⟩
    rw [readRequest, Reading.bind_hang block]

end Reading

def answerBlock (status : Int) : List UInt8 :=
  ResponseWriter.headerBlock packages status [(canonicalKey draftHeader, [lit "draft02"])]

theorem answer_eq {status : Int} (final : status < 100 ∨ 200 ≤ status) :
    answer packages status =
      headersFrameWrite packages.varint (answerBlock packages status).length ++
        answerBlock packages status := by
  have empty : (⟨[], []⟩ : BufferedStream).all = [] := rfl
  simp only [answer, ResponseWriter.flush, BufferedStream.written_flush]
  rw [ResponseWriter.writeHeader, if_neg (by simp [ResponseWriter.addHeader, newResponseWriter])]
  simp [final, ResponseWriter.addHeader, newResponseWriter, empty, answerBlock]

theorem answer_ne_nil {status : Int} (final : status < 100 ∨ 200 ≤ status) :
    answer packages status ≠ [] := by
  have small : 0x1 < packages.varint.format.limit := by
    rw [packages.varint.limit_eq]
    decide
  have frameType : packages.varint.write 0x1 ≠ [] := VarintFormat.Format.write_ne_nil small
  rw [answer_eq packages final]
  simp [headersFrameWrite, frameType]

section Acting

variable {packages} {server : WebTransportServer} {incoming : Incoming} {control : List UInt8}
  {settingsStream requestStream : StreamId}

theorem silent_not_acted (outcome : Outcome Unit) (control : Option (List UInt8)) :
    ¬(Handled.silent outcome control).acted := by
  simp [Handled.silent, Handled.acted]

variable (packages server incoming control settingsStream requestStream) in
theorem respond_ok (block : List UInt8) (req : Request) :
    (respond packages server incoming control settingsStream requestStream
        (.ok (block, req))).acted ∧
      (respond packages server incoming control settingsStream requestStream
        (.ok (block, req))).block = some block ∧
      (respond packages server incoming control settingsStream requestStream
        (.ok (block, req))).outcome = .ok () := by
  simp only [respond]
  split
  · exact ⟨.inl (answer_ne_nil packages (by decide)), rfl, rfl⟩
  · exact ⟨.inl (answer_ne_nil packages (by decide)), rfl, rfl⟩

variable (packages server) in
theorem handle_session_reached {source : Source}
    (reached : incoming.requestStream = some (settingsStream, requestStream, source)) :
    handleSession packages server incoming =
      respond packages server incoming (controlStreamBytes packages.varint incoming.walks)
        settingsStream requestStream ((readRequest packages).run source).1 := by
  unfold Incoming.requestStream at reached
  split at reached
  next settings request accepted opened acceptedUni acceptedStream =>
    cases reached
    simp only [handleSession, opened, acceptedUni, acceptedStream]
  next => cases reached

variable (packages server) in
theorem handle_session_unreached (unreached : incoming.requestStream = none) :
    ∃ control, handleSession packages server incoming = .silent (.ok ()) control := by
  unfold Incoming.requestStream at unreached
  unfold handleSession
  cases opened : incoming.openUniStream with
  | error err => exact ⟨none, rfl⟩
  | ok control =>
      cases acceptedUni : incoming.acceptUniStream with
      | error err => exact ⟨_, rfl⟩
      | ok settings =>
          cases accepted : incoming.acceptStream with
          | error err => exact ⟨_, rfl⟩
          | ok stream =>
              rw [opened, acceptedUni, accepted] at unreached
              cases unreached

theorem respond_acted {outcome : Outcome (List UInt8 × Request)}
    (acted : (respond packages server incoming control settingsStream requestStream
      outcome).acted) : ∃ block req, outcome = .ok (block, req) := by
  cases outcome with
  | ok accepted => exact ⟨accepted.1, accepted.2, rfl⟩
  | fail err => exact absurd acted (silent_not_acted _ _)
  | hang => exact absurd acted (silent_not_acted _ _)
  | panic reason => exact absurd acted (silent_not_acted _ _)

end Acting

def decodes (block : List UInt8) : Bool :=
  match packages.qpack.decodeFull block with
  | .error _ => false
  | .ok fields => match requestFromHeaders fields with
      | .error _ => false
      | .ok _ => true

/-- The session acts only on the whole announced payload, decoded as it was received, and
else returns once the request stream has ended. -/
structure ActsOnComplete (server : WebTransportServer) (incoming : Incoming) : Prop where
  complete : (handleSession packages server incoming).acted →
    ∃ settingsStream requestStream source length rest,
      incoming.requestStream = some (settingsStream, requestStream, source) ∧
      NextFrame packages.varint (view source).bytes 0x1 length rest ∧
      length ≤ rest.length ∧
      (handleSession packages server incoming).block = some (rest.take length)
  returns : (∀ settingsStream requestStream source,
      incoming.requestStream = some (settingsStream, requestStream, source) →
      (view source).ending ≠ .hang) →
    ¬(handleSession packages server incoming).acted →
    (handleSession packages server incoming).outcome = .ok ()

/-- On a stream that ends, the announced length can be allocated, and a payload that is cut
off does not decode with zeros in the place of what is missing. -/
def RefusesCutOff (incoming : Incoming) : Prop :=
  ∀ settingsStream requestStream source err length rest,
    incoming.requestStream = some (settingsStream, requestStream, source) →
    (view source).ending = .fail err →
    NextFrame packages.varint (view source).bytes 0x1 length rest →
    length ≤ maxAlloc ∧
      (rest.length < length → decodes packages (zeroPadded length rest) = false)

section ShortReads

variable {packages} {server : WebTransportServer} {incoming : Incoming}
  {settingsStream requestStream : StreamId} {source : Source} {rest block : List UInt8}
  {length : Nat} {err : Error}

variable (packages) in
theorem decode_request_cases (block : List UInt8) :
    (∃ req, decodeRequest packages block = .ok (block, req) ∧ decodes packages block = true) ∨
      (∃ err, decodeRequest packages block = .fail err) ∧ decodes packages block = false := by
  unfold decodeRequest decodes
  cases packages.qpack.decodeFull block with
  | error err => exact .inr ⟨⟨err, rfl⟩, rfl⟩
  | ok fields =>
      dsimp only
      cases requestFromHeaders fields with
      | error err => exact .inr ⟨⟨err, rfl⟩, rfl⟩
      | ok req => exact .inl ⟨req, rfl, rfl⟩

theorem decode_request_ok (decoded : decodes packages block = true) :
    ∃ req, decodeRequest packages block = .ok (block, req) := by
  rcases decode_request_cases packages block with ⟨req, accepted, -⟩ | ⟨-, refused⟩
  · exact ⟨req, accepted⟩
  · rw [refused] at decoded
    cases decoded

/-- Where cut off payloads are refused, a request is read from a complete payload or there
is an error, unless the stream does not end. -/
theorem read_request_refusing
    (refuses : ∀ err length rest, (view source).ending = .fail err →
      NextFrame packages.varint (view source).bytes 0x1 length rest →
      length ≤ maxAlloc ∧
        (rest.length < length → decodes packages (zeroPadded length rest) = false)) :
    (∃ length rest req, NextFrame packages.varint (view source).bytes 0x1 length rest ∧
      length ≤ rest.length ∧
      ((readRequest packages).run source).1 = .ok (rest.take length, req)) ∨
    (∃ err, ((readRequest packages).run source).1 = .fail err) ∨
    ((view source).ending = .hang ∧
      ∀ accepted, ((readRequest packages).run source).1 ≠ .ok accepted) := by
  by_cases present : ∃ length rest,
      NextFrame packages.varint (view source).bytes 0x1 length rest
  · obtain ⟨length, rest, next⟩ := present
    by_cases small : length ≤ maxAlloc
    · by_cases complete : length ≤ rest.length
      · rw [read_request_complete next small complete]
        rcases decode_request_cases packages (rest.take length) with
          ⟨req, accepted, -⟩ | ⟨failed, -⟩
        · exact .inl ⟨length, rest, req, next, complete, accepted⟩
        · exact .inr (.inl failed)
      · have short := Nat.not_le.mp complete
        cases ending : (view source).ending with
        | hang =>
            rw [read_request_waits next small short ending]
            exact .inr (.inr ⟨rfl, fun _ => nofun⟩)
        | fail err =>
            rw [read_request_short next small short ending]
            rcases decode_request_cases packages (zeroPadded length rest) with
              ⟨req, -, decoded⟩ | ⟨failed, -⟩
            · simp [(refuses err length rest ending next).2 short] at decoded
            · exact .inr (.inl failed)
    · rw [read_request_large next (Nat.not_le.mp small)]
      cases ending : (view source).ending with
      | hang => exact .inr (.inr ⟨rfl, fun _ => nofun⟩)
      | fail err => exact absurd (refuses err length rest ending next).1 small
  · simp only [not_exists] at present
    rcases read_request_absent present with failed | ⟨waits, blocked⟩
    · exact .inr (.inl failed)
    · rw [blocked]
      exact .inr (.inr ⟨waits, fun _ => nofun⟩)

theorem acts_on_complete_of_refusing (refuses : RefusesCutOff packages incoming)
    (reached : incoming.requestStream = some (settingsStream, requestStream, source)) :
    ActsOnComplete packages server incoming := by
  have session := handle_session_reached packages server reached
  rcases read_request_refusing fun err length rest =>
      refuses settingsStream requestStream source err length rest reached with
    ⟨length, rest, req, next, complete, accepted⟩ | ⟨err, failed⟩ | ⟨waits, refused⟩
  · rw [accepted] at session
    have answered := respond_ok packages server incoming
      (controlStreamBytes packages.varint incoming.walks) settingsStream requestStream
      (rest.take length) req
    refine ⟨fun _ => ?_, fun _ _ => session ▸ answered.2.2⟩
    exact ⟨settingsStream, requestStream, source, length, rest, reached, next, complete,
      session ▸ answered.2.1⟩
  · rw [failed] at session
    refine ⟨fun acted => absurd acted (session ▸ silent_not_acted _ _), fun _ _ => ?_⟩
    rw [session]
    rfl
  · refine ⟨fun acted => ?_, fun ended => absurd waits (ended _ _ source reached)⟩
    rw [session] at acted
    obtain ⟨block, req, accepted⟩ := respond_acted acted
    exact absurd accepted (refused (block, req))

/-- A request that decodes although its payload was cut off is acted on all the same. -/
theorem not_acts_on_complete_of_cut_off
    (reached : incoming.requestStream = some (settingsStream, requestStream, source))
    (next : NextFrame packages.varint (view source).bytes 0x1 length rest)
    (small : length ≤ maxAlloc) (short : rest.length < length)
    (ended : (view source).ending = .fail err)
    (decoded : decodes packages (zeroPadded length rest) = true) :
    ¬ActsOnComplete packages server incoming := by
  intro onComplete
  obtain ⟨req, accepted⟩ := decode_request_ok decoded
  have ran := (read_request_short next small short ended).trans accepted
  have acted : (handleSession packages server incoming).acted := by
    rw [handle_session_reached packages server reached, ran]
    exact (respond_ok _ _ _ _ _ _ _ req).1
  obtain ⟨_, _, other, otherLength, otherRest, otherReached, otherNext, enough, -⟩ :=
    onComplete.complete acted
  rw [reached] at otherReached
  cases otherReached
  obtain ⟨-, rfl, rfl⟩ := next_frame_unique next otherNext
  omega

theorem not_acts_on_complete_of_large
    (reached : incoming.requestStream = some (settingsStream, requestStream, source))
    (next : NextFrame packages.varint (view source).bytes 0x1 length rest)
    (large : maxAlloc < length) (ended : (view source).ending = .fail err) :
    ¬ActsOnComplete packages server incoming := by
  intro onComplete
  have panicked : handleSession packages server incoming = .silent (.panic outOfRange)
      (some (controlStreamBytes packages.varint incoming.walks)) := by
    rw [handle_session_reached packages server reached, read_request_large next large]
    rfl
  have outcome := onComplete.returns
    (by
      intro _ _ other otherReached
      rw [reached] at otherReached
      cases otherReached
      simp [ended])
    (panicked ▸ silent_not_acted _ _)
  rw [panicked] at outcome
  cases outcome

end ShortReads

/-- The server acts on complete requests only, exactly if it refuses the cut off ones. -/
theorem acts_on_complete_iff (server : WebTransportServer) (incoming : Incoming) :
    ActsOnComplete packages server incoming ↔ RefusesCutOff packages incoming := by
  constructor
  · intro onComplete settingsStream requestStream source err length rest reached ended next
    have small : length ≤ maxAlloc := by
      by_contra large
      exact not_acts_on_complete_of_large reached next (Nat.not_le.mp large) ended onComplete
    refine ⟨small, fun short => ?_⟩
    by_contra decoded
    rw [Bool.not_eq_false] at decoded
    exact not_acts_on_complete_of_cut_off reached next small short ended decoded onComplete
  · intro refuses
    cases reached : incoming.requestStream with
    | none =>
        obtain ⟨control, silent⟩ := handle_session_unreached packages server reached
        refine ⟨fun acted => absurd acted (silent ▸ silent_not_acted _ _), fun _ _ => ?_⟩
        rw [silent]
        rfl
    | some streams =>
        obtain ⟨settingsStream, requestStream, source⟩ := streams
        exact acts_on_complete_of_refusing refuses reached

def tokenBlock : List UInt8 :=
  [0, 0] ++ [⟨lit ":method", lit "CONNECT"⟩, ⟨lit ":protocol", lit "webtransport"⟩,
    ⟨lit ":authority", lit "localhost:4433"⟩, ⟨lit ":path", lit "/echo"⟩,
    ⟨lit "x-token", lit "abc"⟩].flatMap literalLine

/-- The request stream ends two bytes before the end of the block. -/
def cutOffRequest : Incoming where
  session := 1
  remoteAddr := lit "192.0.2.1:50000"
  walks := .same
  openUniStream := .ok 3
  acceptUniStream := .ok 2
  acceptStream := .ok (0, [
    ⟨headersFrameWrite .reference tokenBlock.length ++ tokenBlock.dropLast.dropLast, none⟩,
    ⟨[], some .eof⟩])

/-- The server answers it, with zeros in the place of the last two bytes. -/
theorem cut_off_request_answered :
    ¬ActsOnComplete .reference ⟨lit "/echo"⟩ cutOffRequest := by
  have next : NextFrame .reference (headersFrameWrite .reference tokenBlock.length ++
      tokenBlock.dropLast.dropLast ++ []) 0x1 tokenBlock.length tokenBlock.dropLast.dropLast := by
    rw [List.append_nil]
    exact next_frame_headers (by decide +kernel) _
  exact not_acts_on_complete_of_cut_off rfl next (by decide +kernel) (by decide +kernel) rfl
    (by decide +kernel)

end WebTransportGos.Server
