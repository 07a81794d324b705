import WebTransportGos.Library.NetUrl
import WebTransportGos.H3.Qpack

/-!
Package h3, request.go: an HTTP request or response from decoded header fields.
-/

namespace WebTransportGos.H3

open GoReader GoText NetUrl

set_option autoImplicit false

/-- The fields of `http.Request` the repository sets or reads; the body is always nil. -/
structure Request where
  method : GoString
  url : URL
  proto : GoString
  protoMajor : Nat := 3
  protoMinor : Nat := 0
  header : Header := Header.empty
  contentLength : Int := 0
  host : GoString
  requestURI : GoString := []
  remoteAddr : GoString := []

structure Response where
  proto : GoString
  statusCode : Int
  header : Header

/-- The local variables of the loop of `RequestFromHeaders`. -/
structure RequestFields where
  path : GoString := []
  authority : GoString := []
  method : GoString := []
  contentLengthStr : GoString := []
  protocol : GoString := []
  httpHeaders : Header := Header.empty

def requestField (fields : RequestFields) (field : HeaderField) : RequestFields :=
  if field.name = lit ":path" then { fields with path := field.value }
  else if field.name = lit ":method" then { fields with method := field.value }
  else if field.name = lit ":protocol" then { fields with protocol := field.value }
  else if field.name = lit ":authority" then { fields with authority := field.value }
  else if field.name = lit "content-length" then { fields with contentLengthStr := field.value }
  else if field.isPseudo then fields
  else { fields with httpHeaders := fields.httpHeaders.add field.name field.value }

/-- The cookie values become one, joined as RFC 6265 asks. -/
def joinCookies (header : Header) : Header :=
  match header.values (lit "Cookie") with
  | [] => header
  | cookies => header.set (lit "Cookie") (List.intercalate (lit "; ") cookies)

def requestFromHeaders (headers : List HeaderField) : Except Error Request :=
  let fields := headers.foldl requestField {}
  let isConnect : Bool := fields.method = lit "CONNECT"
  if !isConnect ∧ (fields.path = [] ∨ fields.authority = [] ∨ fields.method = []) then
    .error (.text ":path, :authority and :method must not be empty")
  else do
    let url ← parseRequestURI
      (if isConnect then lit "https://" ++ fields.authority ++ fields.path else fields.path)
    let contentLength ←
      if fields.contentLengthStr = [] then .ok 0 else parseInt fields.contentLengthStr
    return {
      method := fields.method
      url := url
      proto := fields.protocol
      header := joinCookies fields.httpHeaders
      contentLength := contentLength
      host := fields.authority
      requestURI := fields.path }

def responseField (response : Response) (field : HeaderField) : Except Error Response :=
  if field.name = lit ":status" then
    match parseInt field.value with
    | .error _ => .error (.text "malformed non-numeric status pseudo header")
    | .ok status => .ok { response with statusCode := status }
  else .ok { response with header := response.header.add field.name field.value }

def responseFromHeaders (headers : List HeaderField) : Except Error Response :=
  headers.foldlM responseField ⟨lit "webtransport", 0, Header.empty⟩

end WebTransportGos.H3
