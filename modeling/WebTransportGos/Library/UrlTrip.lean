import WebTransportGos.Library.NetUrl
import Mathlib.Data.List.TakeDrop
import Mathlib.Data.List.TakeWhile

/-!
net/url, there and back: a path that was escaped and put behind a scheme and an authority
is the path of the URL that is parsed from them. `isAuthority` says for which authorities.
-/

namespace NetUrl

open GoReader GoText

set_option autoImplicit false

def escapedByte (byte : UInt8) : GoString :=
  if shouldEscape byte .path then
    [ch '%', upperHex (byte.toNat / 16), upperHex (byte.toNat % 16)]
  else [byte]

theorem escape_eq (text : GoString) : escape text .path = text.flatMap escapedByte := rfl

theorem unescape_kept {mode : Encoding} {byte : UInt8} (other : byte ≠ ch '%')
    (allowed : ¬((mode = .host ∨ mode = .zone) ∧ byte < 0x80 ∧ shouldEscape byte mode = true))
    (rest : GoString) : unescape mode (byte :: rest) = (unescape mode rest).map (byte :: ·) := by
  match rest with
  | [] => simp only [unescape, if_neg other, if_neg allowed]
  | [_] => simp only [unescape, if_neg other, if_neg allowed]
  | _ :: _ :: _ => rw [unescape, if_neg other, if_neg allowed]

theorem unescape_plain {byte : UInt8} (other : byte ≠ ch '%') (rest : GoString) :
    unescape .path (byte :: rest) = (unescape .path rest).map (byte :: ·) :=
  unescape_kept other (by simp) rest

theorem unescape_escaped_byte (byte : UInt8) (rest : GoString) :
    unescape .path (escapedByte byte ++ rest) = (unescape .path rest).map (byte :: ·) := by
  have plain := every_byte (fun byte => shouldEscape byte .path = false →
    byte ≠ ch '%') (by decide +kernel)
  have hex := every_byte (fun byte =>
    isHex (upperHex (byte.toNat / 16)) = true ∧ isHex (upperHex (byte.toNat % 16)) = true ∧
    UInt8.ofNat (unhex (upperHex (byte.toNat / 16)) * 16 + unhex (upperHex (byte.toNat % 16))) =
      byte) (by decide +kernel)
  rw [escapedByte]
  split
  · rcases hex byte with ⟨high, low, same⟩
    simp only [List.cons_append, List.nil_append, unescape, if_true, high, low, same,
      escapeRefused, Bool.not_true, Bool.or_self, Bool.false_eq_true, if_false]
  next kept =>
    exact unescape_plain (plain byte (Bool.eq_false_iff.mpr kept)) rest

theorem unescape_escape (text : GoString) : unescape .path (escape text .path) = .ok text := by
  rw [escape_eq]
  induction text with
  | nil => rfl
  | cons byte text induction =>
      rw [List.flatMap_cons, unescape_escaped_byte, induction]
      rfl

theorem escape_clean (text : GoString) :
    containsControl (escape text .path) = false ∧ ch '?' ∉ escape text .path := by
  -- As a Boolean: `∀ out ∈` would be decided by a look at all pairs of bytes.
  have clean := every_byte (fun byte => (escapedByte byte).all (fun out =>
    !(out < 0x20 || out == 0x7f) && out != ch '?') = true) (by decide +kernel)
  have each {byte out : UInt8} (piece : out ∈ escapedByte byte) :
      (out < 0x20 || out == 0x7f) = false ∧ out ≠ ch '?' := by
    have kept := List.all_eq_true.mp (clean byte) out piece
    rw [Bool.and_eq_true, Bool.not_eq_true', bne_iff_ne] at kept
    exact kept
  rw [escape_eq]
  constructor
  · rw [containsControl, List.any_eq_false]
    intro out member
    rcases List.mem_flatMap.mp member with ⟨byte, -, piece⟩
    rw [(each piece).1]
    exact Bool.false_ne_true
  · intro member
    rcases List.mem_flatMap.mp member with ⟨byte, -, piece⟩
    exact (each piece).2 rfl

theorem escape_rooted (rest : GoString) :
    escape (ch '/' :: rest) .path = ch '/' :: escape rest .path := rfl

theorem unescape_present {first : UInt8} {rest text : GoString}
    (unescaped : unescape .path (first :: rest) = .ok text) : text ≠ [] := by
  rintro rfl
  by_cases percent : first = ch '%'
  · match rest with
    | [] => simp [unescape, percent] at unescaped
    | [_] => simp [unescape, percent] at unescaped
    | high :: low :: after =>
        simp only [unescape, if_pos percent] at unescaped
        split at unescaped
        · cases unescaped
        · cases later : unescape .path after <;> simp [later, Except.map] at unescaped
  · rw [unescape_plain percent] at unescaped
    cases later : unescape .path rest <;> simp [later, Except.map] at unescaped

theorem cut_at_absent {sep : UInt8} {text : GoString} (absent : sep ∉ text) :
    cutAt sep text = (text, []) := by
  have passed : ∀ byte ∈ text, (byte != sep) = true := by
    intro byte member
    exact bne_iff_ne.mpr fun same => absent (same ▸ member)
  rw [cutAt, List.span_eq_takeWhile_dropWhile, List.takeWhile_eq_self_iff.mpr passed,
    List.dropWhile_eq_nil_iff.mpr passed]

theorem cut_at_first {sep : UInt8} {before : GoString} (absent : sep ∉ before)
    (after : GoString) : cutAt sep (before ++ sep :: after) = (before, sep :: after) := by
  have passed : ∀ byte ∈ before, (byte != sep) = true := by
    intro byte member
    exact bne_iff_ne.mpr fun same => absent (same ▸ member)
  rw [cutAt, List.span_eq_takeWhile_dropWhile, List.takeWhile_append_of_pos passed,
    List.dropWhile_append_of_pos passed]
  simp

theorem cut_at_mark {sep mark : UInt8} {text after : GoString}
    (cut : (cutAt sep text).2 = mark :: after) : mark = sep := by
  rw [cutAt, List.span_eq_takeWhile_dropWhile] at cut
  dsimp only at cut
  have present : text.dropWhile (fun byte => byte != sep) ≠ [] := by
    rw [cut]
    exact List.cons_ne_nil mark after
  have fails := List.head_dropWhile_not (fun byte => byte != sep) present
  simp only [cut, List.head_cons, bne_eq_false_iff_eq] at fails
  exact fails

def httpsPrefix : GoString := lit "https://"

theorem get_scheme_https (rest : GoString) :
    getScheme (httpsPrefix ++ rest) = .ok (lit "https", lit "//" ++ rest) := rfl

theorem contains_control_append (first second : GoString) :
    containsControl (first ++ second) = (containsControl first || containsControl second) := by
  rw [containsControl, List.any_append]
  rfl

/-- The text can stand as the authority of a URL: it does not end the authority itself, and
userinfo, host and port are accepted. -/
def isAuthority (text : GoString) : Bool :=
  !containsControl text && !text.contains (ch '/') && !text.contains (ch '?') &&
    match parseAuthority text with
    | .ok _ => true
    | .error _ => false

theorem is_authority_iff {text : GoString} : isAuthority text = true ↔
    containsControl text = false ∧ ch '/' ∉ text ∧ ch '?' ∉ text ∧
      ∃ user host, parseAuthority text = .ok (user, host) := by
  rw [isAuthority]
  cases parseAuthority text with
  | error err => simp
  | ok parsed =>
      rcases parsed with ⟨user, host⟩
      simp [and_assoc]

/-- Behind scheme and authority the path of the URL is the one that was escaped. -/
theorem parse_escaped {authority : GoString} (accepted : isAuthority authority = true)
    (rest : GoString) :
    ∃ url, parseRequestURI (httpsPrefix ++ authority ++ escape (ch '/' :: rest) .path) = .ok url ∧
      url.path = ch '/' :: rest := by
  rcases is_authority_iff.mp accepted with ⟨quiet, slash, query, user, host, parsed⟩
  have clean := escape_clean (ch '/' :: rest)
  have control : containsControl
      (httpsPrefix ++ authority ++ escape (ch '/' :: rest) .path) = false := by
    rw [contains_control_append, contains_control_append, quiet, clean.1]
    rfl
  have noQuery : ch '?' ∉ lit "//" ++ (authority ++ escape (ch '/' :: rest) .path) := by
    simp only [List.mem_append, not_or]
    exact ⟨by decide, query, clean.2⟩
  have pathRead : setPath { scheme := lit "https", user := user, host := host }
      (escape (ch '/' :: rest) .path) =
      .ok { scheme := lit "https", user := user, host := host, path := ch '/' :: rest } := by
    rw [setPath, unescape_escape]
    simp [bind, Except.bind, pure, Except.pure]
  have cut : cutAt (ch '/') (authority ++ escape (ch '/' :: rest) .path) =
      (authority, escape (ch '/' :: rest) .path) := by
    rw [escape_rooted]
    exact cut_at_first slash _
  have hierarchy : parseHierarchy { scheme := lit "https" }
      (lit "//" ++ (authority ++ escape (ch '/' :: rest) .path)) =
      .ok { scheme := lit "https", user := user, host := host, path := ch '/' :: rest } := by
    have behind : (lit "//" ++ (authority ++ escape (ch '/' :: rest) .path)).drop 2 =
        authority ++ escape (ch '/' :: rest) .path := rfl
    have rooted : (!(lit "/").isPrefixOf
        (lit "//" ++ (authority ++ escape (ch '/' :: rest) .path))) = false := rfl
    rw [parseHierarchy, rooted, if_neg Bool.false_ne_true, if_pos ⟨by decide, rfl⟩, behind, cut]
    dsimp only
    rw [parsed]
    exact pathRead
  refine ⟨{ scheme := lit "https", user := user, host := host, path := ch '/' :: rest }, ?_, rfl⟩
  rw [parseRequestURI, control, if_neg Bool.false_ne_true, if_neg (by simp [httpsPrefix, lit]),
    if_neg (by simp [httpsPrefix, lit]), List.append_assoc, get_scheme_https]
  dsimp only [bind, Except.bind]
  rw [cut_at_absent noQuery]
  exact hierarchy

def URL.pathText (url : URL) : GoString :=
  if url.rawPath = [] then escape url.path .path else url.rawPath

def URL.queryText (url : URL) : GoString :=
  if url.forceQuery || url.rawQuery ≠ [] then ch '?' :: url.rawQuery else []

theorem set_path_accepted {url parsed : URL} {text : GoString}
    (accepted : setPath url text = .ok parsed) :
    unescape .path text = .ok parsed.path ∧ parsed.pathText = text ∧
      parsed.user = url.user ∧ parsed.host = url.host ∧ parsed.queryText = url.queryText := by
  rw [setPath] at accepted
  obtain ⟨path, read, accepted⟩ := except_bind_ok accepted
  cases accepted
  refine ⟨read, ?_, rfl, rfl, rfl⟩
  rw [URL.pathText]
  by_cases printed : text = escape path .path
  · rw [if_pos (if_pos printed), printed]
  · have kept : text ≠ [] := by
      intro empty
      rw [empty] at read printed
      cases read
      exact printed rfl
    rw [if_neg printed, if_neg kept]

theorem hierarchy_accepted {url parsed : URL} {text : GoString} (schemed : url.scheme ≠ [])
    (accepted : parseHierarchy url (lit "//" ++ text) = .ok parsed) :
    parseAuthority (cutAt (ch '/') text).1 = .ok (parsed.user, parsed.host) ∧
      unescape .path (cutAt (ch '/') text).2 = .ok parsed.path ∧
      parsed.pathText = (cutAt (ch '/') text).2 ∧ parsed.queryText = url.queryText := by
  have behind : (lit "//" ++ text).drop 2 = text := rfl
  have rooted : (!(lit "/").isPrefixOf (lit "//" ++ text)) = false := rfl
  rw [parseHierarchy, rooted, if_neg Bool.false_ne_true, if_pos ⟨schemed, rfl⟩, behind] at accepted
  obtain ⟨named, hosted, accepted⟩ := except_bind_ok accepted
  obtain ⟨path, pathText, user, host, queryText⟩ := set_path_accepted accepted
  rw [user, host]
  exact ⟨hosted, path, pathText, queryText⟩

theorem parse_accepted {text : GoString} {parsed : URL}
    (accepted : parseRequestURI (httpsPrefix ++ text) = .ok parsed) :
    containsControl text = false ∧
      ∃ url : URL, url.scheme ≠ [] ∧ url.queryText = (cutAt (ch '?') text).2 ∧
        parseHierarchy url (lit "//" ++ (cutAt (ch '?') text).1) = .ok parsed := by
  rw [parseRequestURI] at accepted
  split at accepted
  · cases accepted
  next quiet =>
    rw [Bool.not_eq_true, contains_control_append, Bool.or_eq_false_iff] at quiet
    rw [if_neg (by simp [httpsPrefix, lit]), if_neg (by simp [httpsPrefix, lit]),
      get_scheme_https] at accepted
    refine ⟨quiet.2, ?_⟩
    have https_scheme : toLower (lit "https") ≠ [] := by decide
    dsimp only [bind, Except.bind] at accepted
    have cut : cutAt (ch '?') (lit "//" ++ text) =
        (lit "//" ++ (cutAt (ch '?') text).1, (cutAt (ch '?') text).2) := by
      simp only [cutAt, List.span_eq_takeWhile_dropWhile]
      rfl
    rw [cut] at accepted
    split at accepted
    next before same =>
      cases (Prod.mk.inj same).1
      refine ⟨_, https_scheme, ?_, accepted⟩
      exact (Prod.mk.inj same).2.symm
    next before mark query same =>
      cases (Prod.mk.inj same).1
      have marked : mark = ch '?' := cut_at_mark (Prod.mk.inj same).2
      rw [marked] at same
      split at accepted
      next bare =>
        rw [bare] at same
        refine ⟨_, https_scheme, ?_, accepted⟩
        exact (Prod.mk.inj same).2.symm
      next written =>
        refine ⟨_, https_scheme, ?_, accepted⟩
        rw [(Prod.mk.inj same).2, URL.queryText, if_pos (by simp [written])]

/-- The condition on the authority is exact: it is needed already for the paths `/` and `/a`. -/
theorem authority_of_parsed {authority : GoString}
    (parsed : ∀ rest : GoString, rest = [] ∨ rest = [ch 'a'] → ∃ url,
      parseRequestURI (httpsPrefix ++ (authority ++ ch '/' :: rest)) = .ok url ∧
        url.path = ch '/' :: rest) : isAuthority authority = true := by
  rcases parsed [] (.inl rfl) with ⟨url, accepted, path⟩
  rcases parse_accepted accepted with ⟨quiet, before, schemed, -, hierarchy⟩
  rw [contains_control_append, Bool.or_eq_false_iff] at quiet
  have noQuery : ch '?' ∉ authority := by
    intro query
    rcases List.eq_append_cons_of_mem query with ⟨first, later, same, absent⟩
    rcases parsed [ch 'a'] (.inr rfl) with ⟨other, otherAccepted, otherPath⟩
    rcases parse_accepted otherAccepted with ⟨-, otherBefore, otherSchemed, -, otherHierarchy⟩
    rw [same, List.append_assoc, List.cons_append, cut_at_first absent] at hierarchy otherHierarchy
    have read := (hierarchy_accepted schemed hierarchy).2.1
    have otherRead := (hierarchy_accepted otherSchemed otherHierarchy).2.1
    rw [read, path, otherPath] at otherRead
    cases otherRead
  have whole : cutAt (ch '?') (authority ++ [ch '/']) = (authority ++ [ch '/'], []) := by
    apply cut_at_absent
    simp only [List.mem_append, List.mem_singleton, not_or]
    exact ⟨noQuery, by decide⟩
  rw [whole] at hierarchy
  rcases hierarchy_accepted schemed hierarchy with ⟨hosted, read, -⟩
  have noSlash : ch '/' ∉ authority := by
    intro slash
    rcases List.eq_append_cons_of_mem slash with ⟨first, later, same, absent⟩
    rw [same, List.append_assoc, List.cons_append, cut_at_first absent, path,
      unescape_plain (by decide)] at read
    cases rest : unescape .path (later ++ [ch '/']) with
    | error err => simp [rest, Except.map] at read
    | ok text =>
        rcases present : later ++ [ch '/'] with _ | ⟨byte, behind⟩
        · simp at present
        · rw [present] at rest
          have nonempty := unescape_present rest
          rw [present, rest] at read
          simp only [Except.map, Except.ok.injEq, List.cons.injEq, true_and] at read
          exact nonempty read
  rw [cut_at_first noSlash] at hosted
  exact is_authority_iff.mpr ⟨quiet.1, noSlash, noQuery, _, _, hosted⟩

theorem cut_last_eq {sep : UInt8} {after : GoString} (absent : sep ∉ after) (before : GoString) :
    cutLast sep (before ++ sep :: after) = some (before, after) := by
  have reversed : (before ++ sep :: after).reverse = after.reverse ++ sep :: before.reverse := by
    simp
  have cut := cut_at_first (mt List.mem_reverse.mp absent) before.reverse
  rw [cutAt] at cut
  rw [cutLast, if_pos (by simp), reversed, cut]
  simp

def plainInHost (byte : UInt8) : Bool :=
  byte ≠ ch '%' && !(byte < 0x80 && shouldEscape byte .host)

theorem unescape_host {text : GoString} (plain : text.all plainInHost = true) :
    unescape .host text = .ok text := by
  induction text with
  | nil => rfl
  | cons byte text induction =>
      rw [List.all_cons, Bool.and_eq_true] at plain
      have kept : byte ≠ ch '%' ∧ ¬(byte < 0x80 ∧ shouldEscape byte .host = true) := by
        have here := plain.1
        simp only [plainInHost, Bool.and_eq_true, decide_eq_true_eq, Bool.not_eq_true',
          Bool.and_eq_false_iff, decide_eq_false_iff_not] at here
        refine ⟨here.1, fun escaped => ?_⟩
        rcases here.2 with high | allowed
        · exact high escaped.1
        · rw [allowed] at escaped
          cases escaped.2
      rw [unescape_kept kept.1 (fun refused => kept.2 refused.2), induction plain.2]
      rfl

def isHostNameByte (byte : UInt8) : Bool := isAlphanumeric byte || (lit "-._~").contains byte

theorem valid_port {digits : GoString} (all : digits.all isDigit = true) :
    validOptionalPort (ch ':' :: digits) = true := by
  rw [validOptionalPort, all]
  rfl

theorem not_mem_of_all {property : UInt8 → Bool} {byte : UInt8} {text : GoString}
    (all : text.all property = true) (fails : property byte = false) : byte ∉ text := by
  intro member
  rw [List.all_eq_true.mp all byte member] at fails
  cases fails

theorem host_port_authority {host port : GoString} (named : host.all isHostNameByte = true)
    (digits : port.all isDigit = true) : isAuthority (host ++ ch ':' :: port) = true := by
  have plain : (host ++ ch ':' :: port).all plainInHost = true := by
    have name := every_byte (fun byte => isHostNameByte byte = true →
      plainInHost byte = true) (by decide +kernel)
    have digit := every_byte (fun byte => isDigit byte = true →
      plainInHost byte = true) (by decide +kernel)
    rw [List.all_append, List.all_cons, Bool.and_eq_true, Bool.and_eq_true]
    refine ⟨?_, by decide, ?_⟩
    · exact List.all_eq_true.mpr fun byte member => name byte (List.all_eq_true.mp named byte member)
    · exact List.all_eq_true.mpr fun byte member =>
        digit byte (List.all_eq_true.mp digits byte member)
  have absent (byte : UInt8) (first : isHostNameByte byte = false) (second : isDigit byte = false)
      (colon : byte ≠ ch ':') : byte ∉ host ++ ch ':' :: port := by
    simp only [List.mem_append, List.mem_cons, not_or]
    exact ⟨not_mem_of_all named first, colon, not_mem_of_all digits second⟩
  have hosted : parseHost (host ++ ch ':' :: port) = .ok (host ++ ch ':' :: port) := by
    have noBracket : ¬(lit "[").isPrefixOf (host ++ ch ':' :: port) = true := by
      intro bracket
      rcases List.isPrefixOf_iff_prefix.mp bracket with ⟨behind, same⟩
      apply absent (ch '[') (by decide) (by decide) (by decide)
      rw [← same]
      exact List.mem_cons_self
    rw [parseHost, if_neg noBracket, cut_last_eq (not_mem_of_all digits (by decide))]
    simp only [valid_port digits, if_true]
    exact unescape_host plain
  have noUser : cutLast (ch '@') (host ++ ch ':' :: port) = none := by
    rw [cutLast, if_neg (absent (ch '@') (by decide) (by decide) (by decide))]
  apply is_authority_iff.mpr
  refine ⟨?_, absent (ch '/') (by decide) (by decide) (by decide),
    absent (ch '?') (by decide) (by decide) (by decide), none, host ++ ch ':' :: port, ?_⟩
  · have quiet := every_byte (fun byte => plainInHost byte = true →
      ¬(byte < 0x20 || byte == 0x7f) = true) (by decide +kernel)
    rw [containsControl, List.any_eq_false]
    intro byte member
    exact quiet byte (List.all_eq_true.mp plain byte member)
  · rw [parseAuthority, noUser]
    dsimp only
    rw [hosted]
    rfl

/-- An IPv6 zone is not accepted in the form in which addresses hold it. -/
example : isAuthority (lit "[fe80::1]:4433") = true ∧
    isAuthority (lit "[fe80::1%eth0]:4433") = false := by decide +kernel

end NetUrl
