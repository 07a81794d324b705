import WebTransportGos.H3.Frame
import WebTransportGos.H3.Packages
import WebTransportGos.H3.Request

/-!
Package h3, request_writer.go: one HEADERS frame from a request. The writer keeps its
encoder and its header buffer between calls.
-/

namespace WebTransportGos.H3

open GoReader GoText NetUrl

set_option autoImplicit false

/-- `wrotePrefix` is the encoder's; `Close` clears it. -/
structure RequestWriter where
  wrotePrefix : Bool
  headerBuf : List UInt8
  deriving DecidableEq, Repr

def newRequestWriter : RequestWriter := ⟨false, []⟩

variable (packages : Packages)

def RequestWriter.writeField (writer : RequestWriter) (field : HeaderField) : RequestWriter :=
  { wrotePrefix := true
    headerBuf := writer.headerBuf ++
      (if writer.wrotePrefix then [] else packages.qpack.blockPrefix) ++
      packages.qpack.encodeField field }

def validPseudoPath (path : GoString) : Bool := path.head? = some (ch '/') ∨ path = lit "*"

/-- `%q` on printable ASCII text. -/
def quoted (text : GoString) : String :=
  "\"" ++ String.ofList (text.map fun byte => Char.ofNat byte.toNat) ++ "\""

def requestPath (req : Request) (host : GoString) : Except Error GoString :=
  let path := req.url.requestURI
  if validPseudoPath path then .ok path
  else
    let trimmed := trimPrefix path (req.url.scheme ++ lit "://" ++ host)
    if validPseudoPath trimmed then .ok trimmed
    else if req.url.opaqueText ≠ [] then
      .error (.text ("invalid request :path " ++ quoted path ++ " from URL.Opaque = " ++
        quoted req.url.opaqueText))
    else .error (.text ("invalid request :path " ++ quoted path))

/-- `enumerateHeaders`: the fields in the order they are written. -/
def requestFields (req : Request) (host path : GoString) : List HeaderField :=
  [⟨lit ":authority", host⟩, ⟨lit ":method", req.method⟩, ⟨lit ":path", path⟩,
    ⟨lit ":scheme", req.url.scheme⟩, ⟨lit ":protocol", req.proto⟩]

def encodeHeaders (writer : RequestWriter) (req : Request) : Except Error RequestWriter := do
  let host ← packages.punycodeHostPort (if req.host = [] then req.url.host else req.host)
  let path ← requestPath req host
  return (requestFields req host path).foldl (fun writer field =>
    writer.writeField packages { field with name := toLower field.name }) writer

/-- `writeHeaders` into a buffer, which accepts everything. The deferred `Close` of the
encoder runs on every path, the `Reset` of the buffer on success only. -/
def writeHeaders (writer : RequestWriter) (req : Request) :
    Except Error (List UInt8) × RequestWriter :=
  match encodeHeaders packages writer req with
  | .error err => (.error err, { writer with wrotePrefix := false })
  | .ok written =>
      (.ok (headersFrameWrite packages.varint written.headerBuf.length ++ written.headerBuf),
        ⟨false, []⟩)

/-- What a call of `WriteRequest` hands to the stream, if anything, and what it returns;
`written` is the result of the stream's `Write`. -/
def writeRequest (writer : RequestWriter) (req : Request) (written : Option Error) :
    Option (List UInt8) × Option Error × RequestWriter :=
  match writeHeaders packages writer req with
  | (.error err, after) => (none, some err, after)
  | (.ok bytes, after) => (some bytes, written, after)

theorem write_request_sent {writer : RequestWriter} {req : Request} {written : Option Error}
    (succeeded : (writeRequest packages writer req written).2.1 = none) :
    ∃ bytes, (writeRequest packages writer req written).1 = some bytes := by
  unfold writeRequest at succeeded ⊢
  split
  next failed => simp [failed] at succeeded
  next bytes after _ => exact ⟨bytes, rfl⟩

/-- What every call finds and leaves behind: nothing buffered, the block prefix still to come. -/
def RequestWriter.Clean (writer : RequestWriter) : Prop :=
  writer.wrotePrefix = false ∧ writer.headerBuf = []

theorem new_request_writer_clean : newRequestWriter.Clean := ⟨rfl, rfl⟩

theorem RequestWriter.Clean.eq_new {writer : RequestWriter} (clean : writer.Clean) :
    writer = newRequestWriter := by
  cases writer
  rcases clean with ⟨wrote, buffered⟩
  simp only at wrote buffered
  rw [wrote, buffered, newRequestWriter]

/-- A rejected request has written no field, so the missing `Reset` leaves nothing behind. -/
theorem write_headers_clean {writer : RequestWriter} (clean : writer.Clean) (req : Request) :
    (writeHeaders packages writer req).2.Clean := by
  unfold writeHeaders
  split
  next => exact ⟨rfl, clean.2⟩
  next => exact ⟨rfl, rfl⟩

theorem write_request_clean {writer : RequestWriter} (clean : writer.Clean) (req : Request)
    (written : Option Error) : (writeRequest packages writer req written).2.2.Clean := by
  have headers := write_headers_clean packages clean req
  unfold writeRequest
  split
  next failed => simpa only [failed] using headers
  next wrote => simpa only [wrote] using headers

structure RequestCall where
  req : Request
  written : Option Error

def RequestCall.result (call : RequestCall) (writer : RequestWriter) :
    Option (List UInt8) × Option Error :=
  let (bytes, err, _) := writeRequest packages writer call.req call.written
  (bytes, err)

def writeRequests : RequestWriter → List RequestCall → List (Option (List UInt8) × Option Error)
  | _, [] => []
  | writer, call :: calls =>
      call.result packages writer ::
        writeRequests (writeRequest packages writer call.req call.written).2.2 calls

theorem write_requests_clean {writer : RequestWriter} (clean : writer.Clean)
    (calls : List RequestCall) :
    writeRequests packages writer calls =
      calls.map fun call => call.result packages newRequestWriter := by
  induction calls generalizing writer with
  | nil => rfl
  | cons call calls ih =>
      have after := write_request_clean packages clean call.req call.written
      rw [writeRequests, List.map_cons, ih after, clean.eq_new]

/-- Every call of a sequence does what it would do on a writer of its own. -/
theorem requests_independent (calls : List RequestCall) :
    writeRequests packages newRequestWriter calls =
      calls.map fun call => call.result packages newRequestWriter :=
  write_requests_clean packages new_request_writer_clean calls

end WebTransportGos.H3
