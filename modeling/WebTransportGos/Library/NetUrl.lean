import WebTransportGos.Library.GoText

/-!
The part of Go's net/url that turns a request target into a URL and back:
`ParseRequestURI`, `URL.EscapedPath` and `URL.RequestURI`.
-/

namespace NetUrl

open GoReader GoText

set_option autoImplicit false

inductive Encoding where
  | path
  | host
  | zone
  | userPassword
  deriving DecidableEq, Repr

structure Userinfo where
  username : GoString
  password : Option GoString
  deriving DecidableEq, Repr

structure URL where
  scheme : GoString := []
  opaqueText : GoString := []
  user : Option Userinfo := none
  host : GoString := []
  path : GoString := []
  rawPath : GoString := []
  forceQuery : Bool := false
  rawQuery : GoString := []
  deriving DecidableEq, Repr

def subDelims : GoString := lit "!$&'()*+,;="

def shouldEscape (byte : UInt8) (mode : Encoding) : Bool :=
  if isAlphanumeric byte then false
  else if (mode = .host ∨ mode = .zone) ∧
      (subDelims ++ lit ":[]<>\"").contains byte then false
  else if (lit "-_.~").contains byte then false
  else if (lit "$&+,/:;=?@").contains byte then
    match mode with
    | .path => byte = ch '?'
    | .userPassword => (lit "@/?:").contains byte
    | .host => true
    | .zone => true
  else true

def upperHex (digit : Nat) : UInt8 :=
  UInt8.ofNat (if digit < 10 then 48 + digit else 55 + digit)

def isHex (byte : UInt8) : Bool :=
  isDigit byte || (ch 'a' ≤ byte && byte ≤ ch 'f') || (ch 'A' ≤ byte && byte ≤ ch 'F')

def unhex (byte : UInt8) : Nat :=
  if isDigit byte then byte.toNat - 48
  else if isLower byte then byte.toNat - 87
  else byte.toNat - 55

def escape (text : GoString) (mode : Encoding) : GoString :=
  text.flatMap fun byte =>
    if shouldEscape byte mode then
      [ch '%', upperHex (byte.toNat / 16), upperHex (byte.toNat % 16)]
    else [byte]

def escapeError : Error := .text "invalid URL escape"

def hostError : Error := .text "invalid character in host name"

/-- What `unescape` refuses in a well-formed escape: in a host it stands for a non-ASCII
byte or for a percent sign, in a zone also for a byte a host may hold. -/
def escapeRefused (mode : Encoding) (high low : UInt8) : Bool :=
  let byte := UInt8.ofNat (unhex high * 16 + unhex low)
  match mode with
  | .host => unhex high < 8 ∧ byte ≠ ch '%'
  | .zone => byte ≠ ch '%' ∧ byte ≠ ch ' ' ∧ shouldEscape byte .host
  | .path => false
  | .userPassword => false

def unescape (mode : Encoding) : GoString → Except Error GoString
  | [] => .ok []
  | byte :: rest =>
      if byte = ch '%' then
        match rest with
        | high :: low :: after =>
            if !isHex high || !isHex low || escapeRefused mode high low then .error escapeError
            else (unescape mode after).map (UInt8.ofNat (unhex high * 16 + unhex low) :: ·)
        | _ => .error escapeError
      else if (mode = .host ∨ mode = .zone) ∧ byte < 0x80 ∧ shouldEscape byte mode then
        .error hostError
      else (unescape mode rest).map (byte :: ·)

def containsControl (text : GoString) : Bool := text.any fun byte => byte < 0x20 || byte == 0x7f

/-- `getScheme`: `seen` holds the bytes already passed, all legal in a scheme. -/
def getSchemeFrom (whole seen : GoString) : GoString → Except Error (GoString × GoString)
  | [] => .ok ([], whole)
  | byte :: rest =>
      if isLower byte || isUpper byte then getSchemeFrom whole (seen ++ [byte]) rest
      else if isDigit byte || (lit "+-.").contains byte then
        if seen = [] then .ok ([], whole) else getSchemeFrom whole (seen ++ [byte]) rest
      else if byte = ch ':' then
        if seen = [] then .error (.text "missing protocol scheme") else .ok (seen, rest)
      else .ok ([], whole)

def getScheme (rawURL : GoString) : Except Error (GoString × GoString) :=
  getSchemeFrom rawURL [] rawURL

def validOptionalPort : GoString → Bool
  | [] => true
  | colon :: digits => colon == ch ':' && digits.all isDigit

def validUserinfo (text : GoString) : Bool :=
  text.all fun byte => isAlphanumeric byte || (subDelims ++ lit "-._:~%@").contains byte

def parseBracketHost (host : GoString) : Except Error GoString :=
  match cutLast (ch ']') host with
  | none => .error (.text "missing ']' in host")
  | some (inside, colonPort) =>
      if !validOptionalPort colonPort then .error (.text "invalid port after host")
      else
        let zoneAt := (List.range inside.length).find? fun index =>
          (lit "%25").isPrefixOf (inside.drop index)
        match zoneAt with
        | none => unescape .host host
        | some zone => do
            let host1 ← unescape .host (inside.take zone)
            let host2 ← unescape .zone (inside.drop zone)
            let host3 ← unescape .host (ch ']' :: colonPort)
            return host1 ++ host2 ++ host3

def parseHost (host : GoString) : Except Error GoString :=
  if (lit "[").isPrefixOf host then parseBracketHost host
  else match cutLast (ch ':') host with
    | some (_, port) =>
        if validOptionalPort (ch ':' :: port) then unescape .host host
        else .error (.text "invalid port after host")
    | none => unescape .host host

def parseUserinfo (userinfo : GoString) : Except Error Userinfo :=
  if !validUserinfo userinfo then .error (.text "net/url: invalid userinfo")
  else match cutAt (ch ':') userinfo with
    | (username, []) => do
        let username ← unescape .userPassword username
        return ⟨username, none⟩
    | (username, _ :: password) => do
        let username ← unescape .userPassword username
        let password ← unescape .userPassword password
        return ⟨username, some password⟩

def parseAuthority (authority : GoString) : Except Error (Option Userinfo × GoString) :=
  match cutLast (ch '@') authority with
  | none => do
      let host ← parseHost authority
      return (none, host)
  | some (userinfo, host) => do
      let host ← parseHost host
      let user ← parseUserinfo userinfo
      return (some user, host)

def setPath (url : URL) (text : GoString) : Except Error URL := do
  let path ← unescape .path text
  return { url with path := path, rawPath := if text = escape path .path then [] else text }

def parseHierarchy (url : URL) (rest : GoString) : Except Error URL :=
  if !(lit "/").isPrefixOf rest then
    if url.scheme ≠ [] then .ok { url with opaqueText := rest }
    else .error (.text "invalid URI for request")
  else if url.scheme ≠ [] ∧ (lit "//").isPrefixOf rest then
    match cutAt (ch '/') (rest.drop 2) with
    | (authority, pathText) => do
        let (user, host) ← parseAuthority authority
        setPath { url with user := user, host := host } pathText
  else setPath url rest

/-- `url.ParseRequestURI`, which does not treat a fragment apart. -/
def parseRequestURI (rawURL : GoString) : Except Error URL :=
  if containsControl rawURL then
    .error (.text "net/url: invalid control character in URL")
  else if rawURL = [] then .error (.text "empty url")
  else if rawURL = lit "*" then .ok { path := lit "*" }
  else do
    let (scheme, rest) ← getScheme rawURL
    let url : URL := { scheme := toLower scheme }
    match cutAt (ch '?') rest with
    | (before, []) => parseHierarchy url before
    | (before, _ :: query) =>
        if query = [] then parseHierarchy { url with forceQuery := true } before
        else parseHierarchy { url with rawQuery := query } before

def validEncoded (text : GoString) : Bool :=
  text.all fun byte =>
    (subDelims ++ lit ":@[]%").contains byte || !shouldEscape byte .path

def URL.escapedPath (url : URL) : GoString :=
  if url.rawPath ≠ [] ∧ validEncoded url.rawPath ∧
      unescape .path url.rawPath = .ok url.path then url.rawPath
  else if url.path = lit "*" then lit "*"
  else escape url.path .path

def URL.requestURI (url : URL) : GoString :=
  let target :=
    if url.opaqueText = [] then
      if url.escapedPath = [] then lit "/" else url.escapedPath
    else if (lit "//").isPrefixOf url.opaqueText then url.scheme ++ lit ":" ++ url.opaqueText
    else url.opaqueText
  if url.forceQuery || url.rawQuery ≠ [] then target ++ lit "?" ++ url.rawQuery else target

example : (parseRequestURI (lit "https://u@a.example:4433/x%20y?z=1")).toOption =
    some { scheme := lit "https", user := some ⟨lit "u", none⟩, host := lit "a.example:4433",
           path := lit "/x y", rawQuery := lit "z=1" } := by decide +kernel

end NetUrl
