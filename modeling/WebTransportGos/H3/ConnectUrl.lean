import WebTransportGos.H3.RequestFields
import WebTransportGos.Library.UrlParts

/-!
The URL of a CONNECT request. `RequestFromHeaders` writes `:authority` and `:path` one behind
the other and has the whole parsed, so that where the one ends and the other begins is found
again from the bytes. The URL of any other request is parsed from `:path` alone.
-/

namespace WebTransportGos.H3

open GoReader GoText NetUrl

set_option autoImplicit false

/-- The URL has `authority` as its host, names no user, and its path and query are `path`. -/
structure Reflects (authority path : GoString) (url : URL) : Prop where
  host : url.host = authority
  user : url.user = none
  target : url.pathText ++ url.queryText = path
  decoded : unescape .path (cutAt (ch '?') path).1 = .ok url.path

/-- Nothing in `authority` has a meaning of its own in a URL, and `path` is one, or a query,
or nothing. -/
structure Unmixed (authority path : GoString) : Prop where
  slash : ch '/' ∉ authority
  query : ch '?' ∉ authority
  user : ch '@' ∉ authority
  percent : ch '%' ∉ authority
  ends : Ends path

section Connect

variable {headers : List HeaderField} {req : Request}

theorem connect_target (connects : lastValue headers (lit ":method") = lit "CONNECT") :
    requestTarget headers =
      httpsPrefix ++ (lastValue headers (lit ":authority") ++ lastValue headers (lit ":path")) := by
  rw [requestTarget, if_pos connects, List.append_assoc, httpsPrefix]

theorem reflects_iff {authority path : GoString} {url : URL}
    (accepted : parseRequestURI (httpsPrefix ++ (authority ++ path)) = .ok url) :
    Reflects authority path url ↔ Unmixed authority path := by
  obtain ⟨hosted, decoded, pathText, queryText⟩ := parse_parts accepted
  have whole := parts_whole (authority ++ path)
  rw [← pathText, ← queryText] at whole
  constructor
  · intro reflects
    rw [reflects.target] at whole
    have first := List.append_cancel_right whole
    have apart := (authority_part_append authority path).mp first
    rw [first] at hosted
    have plain := (authority_plain_iff hosted).mp ⟨reflects.user, reflects.host⟩
    exact ⟨apart.1.1, apart.1.2, plain.1, plain.2, apart.2⟩
  · intro unmixed
    have first := (authority_part_append authority path).mpr
      ⟨⟨unmixed.slash, unmixed.query⟩, unmixed.ends⟩
    rw [first] at hosted whole
    have plain := (authority_plain_iff hosted).mpr ⟨unmixed.user, unmixed.percent⟩
    rw [path_part_append authority path first] at decoded
    exact ⟨plain.2, plain.1, List.append_cancel_left whole, decoded⟩

/-- The URL of an accepted CONNECT request shows `:authority` and `:path` as they are exactly if
they do not mix. -/
theorem connect_url_reflects_iff (accepted : requestFromHeaders headers = .ok req)
    (connects : lastValue headers (lit ":method") = lit "CONNECT") :
    Reflects (lastValue headers (lit ":authority")) (lastValue headers (lit ":path")) req.url ↔
      Unmixed (lastValue headers (lit ":authority")) (lastValue headers (lit ":path")) := by
  have parsed := (request_keeps accepted).url
  rw [connect_target connects] at parsed
  exact reflects_iff parsed

end Connect

def connectTo (authority path : GoString) : List HeaderField :=
  [⟨lit ":method", lit "CONNECT"⟩, ⟨lit ":protocol", lit "webtransport"⟩,
    ⟨lit ":authority", authority⟩, ⟨lit ":path", path⟩]

theorem echo_url_reflects : ∃ req, requestFromHeaders (connectTo (lit "a:443") (lit "/echo?x")) =
    .ok req ∧ Reflects (lit "a:443") (lit "/echo?x") req.url := by
  obtain ⟨req, accepted⟩ : ∃ req,
      requestFromHeaders (connectTo (lit "a:443") (lit "/echo?x")) = .ok req :=
    exists_ok (by decide +kernel)
  have unmixed : Unmixed (lit "a:443") (lit "/echo?x") :=
    ⟨by decide, by decide, by decide, by decide, .inr ⟨_, .inl rfl⟩⟩
  exact ⟨req, accepted, (connect_url_reflects_iff accepted rfl).mpr unmixed⟩

/-- The text `x/echo` as `:path`: what stands in front of its slash goes to the host, and the
path of the URL is `/echo`, which a server that is configured for it accepts. -/
theorem path_into_host : ¬ ∀ headers req, requestFromHeaders headers = .ok req →
    lastValue headers (lit ":method") = lit "CONNECT" →
    Reflects (lastValue headers (lit ":authority")) (lastValue headers (lit ":path")) req.url := by
  intro reflects
  obtain ⟨req, accepted⟩ : ∃ req,
      requestFromHeaders (connectTo (lit "a.") (lit "x/echo")) = .ok req :=
    exists_ok (by decide +kernel)
  have parsed : (parseRequestURI (requestTarget (connectTo (lit "a.") (lit "x/echo")))).toOption =
      some { scheme := lit "https", host := lit "a.x", path := lit "/echo" } := by decide +kernel
  rw [(request_keeps accepted).url] at parsed
  have host := (reflects _ req accepted rfl).host
  rw [Option.some.inj parsed] at host
  cases host

end WebTransportGos.H3
