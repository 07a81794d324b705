import WebTransportGos.Library.UrlTrip

/-!
The parts of an `https` URL as texts: what has been accepted falls into authority, path and
query, and these put together are the text again. A host is the text it was read from
exactly if no percent sign stands in it.
-/

namespace NetUrl

open GoReader GoText

set_option autoImplicit false

/-- Nothing but percent signs makes `read` differ from `text`, and each makes it shorter. -/
def Shrinks (text read : GoString) : Prop :=
  (ch '%' ∉ text ∧ read = text) ∨ (ch '%' ∈ text ∧ read.length < text.length)

section Shrinks

variable {text read : GoString}

theorem Shrinks.same_iff (shrinks : Shrinks text read) : read = text ↔ ch '%' ∉ text := by
  rcases shrinks with ⟨absent, same⟩ | ⟨present, shorter⟩
  · exact iff_of_true same absent
  · refine iff_of_false ?_ (fun absent => absent present)
    intro same
    rw [same] at shorter
    exact Nat.lt_irrefl _ shorter

theorem Shrinks.length_le (shrinks : Shrinks text read) : read.length ≤ text.length := by
  rcases shrinks with ⟨_, same⟩ | ⟨_, shorter⟩
  · exact same ▸ Nat.le_refl _
  · exact Nat.le_of_lt shorter

theorem Shrinks.cons (shrinks : Shrinks text read) {byte : UInt8} (other : byte ≠ ch '%') :
    Shrinks (byte :: text) (byte :: read) := by
  rcases shrinks with ⟨absent, same⟩ | ⟨present, shorter⟩
  · left
    rw [same, List.mem_cons, not_or]
    exact ⟨⟨other.symm, absent⟩, rfl⟩
  · right
    exact ⟨List.mem_cons_of_mem _ present, Nat.succ_lt_succ shorter⟩

theorem Shrinks.append (shrinks : Shrinks text read) {more after : GoString}
    (later : Shrinks more after) : Shrinks (text ++ more) (read ++ after) := by
  have bound := shrinks.length_le
  have laterBound := later.length_le
  rcases shrinks with ⟨absent, same⟩ | ⟨present, shorter⟩
  · rcases later with ⟨laterAbsent, laterSame⟩ | ⟨laterPresent, laterShorter⟩
    · left
      rw [same, laterSame, List.mem_append, not_or]
      exact ⟨⟨absent, laterAbsent⟩, rfl⟩
    · right
      rw [List.length_append, List.length_append]
      exact ⟨List.mem_append_right _ laterPresent, by omega⟩
  · right
    rw [List.length_append, List.length_append]
    exact ⟨List.mem_append_left _ present, by omega⟩

theorem map_cons_ok {result : Except Error GoString} {byte : UInt8}
    (mapped : result.map (byte :: ·) = .ok read) :
    ∃ rest, result = .ok rest ∧ read = byte :: rest := by
  cases result with
  | error err => cases mapped
  | ok rest =>
      cases mapped
      exact ⟨rest, rfl, rfl⟩

theorem unescape_shrinks {mode : Encoding} (unescaped : unescape mode text = .ok read) :
    Shrinks text read := by
  fun_induction unescape mode text generalizing read with
  | case1 =>
      cases unescaped
      exact .inl ⟨List.not_mem_nil, rfl⟩
  | case2 high low after refused => cases unescaped
  | case3 high low after accepted induction =>
      obtain ⟨rest, later, rfl⟩ := map_cons_ok unescaped
      have bound := (induction later).length_le
      right
      simp only [List.length_cons]
      exact ⟨List.mem_cons_self, by omega⟩
  | case4 rest truncated => cases unescaped
  | case5 byte rest other refused => cases unescaped
  | case6 byte rest other allowed induction =>
      obtain ⟨kept, later, rfl⟩ := map_cons_ok unescaped
      exact (induction later).cons other

end Shrinks

section Hosts

variable {text : GoString}

theorem cut_last_none {sep : UInt8} : cutLast sep text = none ↔ sep ∉ text := by
  rw [cutLast]
  split
  next present => exact iff_of_false (Option.some_ne_none _) fun absent => absent present
  next absent => exact iff_of_true rfl absent

theorem cut_last_parts {sep : UInt8} {before after : GoString}
    (cut : cutLast sep text = some (before, after)) : text = before ++ sep :: after := by
  have present : sep ∈ text := by
    by_contra absent
    rw [cut_last_none.mpr absent] at cut
    cases cut
  obtain ⟨last, first, whole, absent⟩ :=
    List.eq_append_cons_of_mem (List.mem_reverse.mpr present)
  have parts : text = first.reverse ++ sep :: last.reverse := by
    rw [← List.reverse_reverse text, whole]
    simp
  rw [parts, cut_last_eq (mt List.mem_reverse.mp absent)] at cut
  cases cut
  exact parts

theorem zone_host_shrinks {host inside behind : GoString} {zone : Nat}
    (parsed : (do
      let host1 ← unescape .host (inside.take zone)
      let host2 ← unescape .zone (inside.drop zone)
      let host3 ← unescape .host behind
      return host1 ++ host2 ++ host3 : Except Error GoString) = .ok host) :
    Shrinks (inside ++ behind) host := by
  obtain ⟨host1, first, parsed⟩ := except_bind_ok parsed
  obtain ⟨host2, second, parsed⟩ := except_bind_ok parsed
  obtain ⟨host3, third, parsed⟩ := except_bind_ok parsed
  cases parsed
  have whole := ((unescape_shrinks first).append (unescape_shrinks second)).append
    (unescape_shrinks third)
  rw [List.take_append_drop] at whole
  exact whole

theorem bracket_host_shrinks {host : GoString} (parsed : parseBracketHost text = .ok host) :
    Shrinks text host := by
  rw [parseBracketHost] at parsed
  split at parsed
  · cases parsed
  next inside colonPort cut =>
    split at parsed
    · cases parsed
    dsimp only at parsed
    split at parsed
    · exact unescape_shrinks parsed
    · rw [cut_last_parts cut]
      exact zone_host_shrinks parsed

theorem parse_host_shrinks {host : GoString} (parsed : parseHost text = .ok host) :
    Shrinks text host := by
  rw [parseHost] at parsed
  split at parsed
  · exact bracket_host_shrinks parsed
  split at parsed
  · split at parsed
    · exact unescape_shrinks parsed
    · cases parsed
  · exact unescape_shrinks parsed

/-- An accepted authority is a host alone, as it is written, if it holds neither `@` nor `%`. -/
theorem authority_plain_iff {user : Option Userinfo} {host : GoString}
    (parsed : parseAuthority text = .ok (user, host)) :
    user = none ∧ host = text ↔ ch '@' ∉ text ∧ ch '%' ∉ text := by
  rw [parseAuthority] at parsed
  cases cut : cutLast (ch '@') text with
  | none =>
      rw [cut] at parsed
      obtain ⟨name, hosted, parsed⟩ := except_bind_ok parsed
      cases parsed
      rw [(parse_host_shrinks hosted).same_iff, eq_self, true_and,
        and_iff_right (cut_last_none.mp cut)]
  | some parts =>
      have present : ¬ch '@' ∉ text := by
        intro absent
        rw [cut_last_none.mpr absent] at cut
        cases cut
      rw [cut] at parsed
      obtain ⟨name, hosted, parsed⟩ := except_bind_ok parsed
      obtain ⟨info, named, parsed⟩ := except_bind_ok parsed
      cases parsed
      exact iff_of_false (fun both => Option.some_ne_none _ both.1) fun both => present both.1

end Hosts

def authorityPart (text : GoString) : GoString := (cutAt (ch '/') (cutAt (ch '?') text).1).1

def pathPart (text : GoString) : GoString := (cutAt (ch '/') (cutAt (ch '?') text).1).2

def queryPart (text : GoString) : GoString := (cutAt (ch '?') text).2

theorem cut_at_whole (sep : UInt8) (text : GoString) :
    (cutAt sep text).1 ++ (cutAt sep text).2 = text := by
  rw [cutAt, List.span_eq_takeWhile_dropWhile]
  exact List.takeWhile_append_dropWhile

theorem parts_whole (text : GoString) :
    authorityPart text ++ (pathPart text ++ queryPart text) = text := by
  rw [← List.append_assoc, authorityPart, pathPart, cut_at_whole, queryPart, cut_at_whole]

/-- An accepted URL shows the parts of its text. -/
theorem parse_parts {text : GoString} {url : URL}
    (accepted : parseRequestURI (httpsPrefix ++ text) = .ok url) :
    parseAuthority (authorityPart text) = .ok (url.user, url.host) ∧
      unescape .path (pathPart text) = .ok url.path ∧ url.pathText = pathPart text ∧
      url.queryText = queryPart text := by
  obtain ⟨_, front, schemed, query, hierarchy⟩ := parse_accepted accepted
  obtain ⟨hosted, path, pathText, queryText⟩ := hierarchy_accepted schemed hierarchy
  exact ⟨hosted, path, pathText, queryText.trans query⟩

section Joined

variable (authority path : GoString)

def goesOn (byte : UInt8) : Bool := byte != ch '/' && byte != ch '?'

theorem authority_part_eq (text : GoString) : authorityPart text = text.takeWhile goesOn := by
  rw [authorityPart, cutAt, cutAt, List.span_eq_takeWhile_dropWhile,
    List.span_eq_takeWhile_dropWhile]
  dsimp only
  rw [List.takeWhile_takeWhile]
  apply congrArg (List.takeWhile · text)
  funext byte
  rw [goesOn, Bool.decide_and, Bool.decide_coe, Bool.decide_coe]

theorem all_goes_on : (∀ byte ∈ authority, goesOn byte = true) ↔
    ch '/' ∉ authority ∧ ch '?' ∉ authority := by
  simp only [goesOn, Bool.and_eq_true, bne_iff_ne]
  constructor
  · intro all
    exact ⟨fun member => (all _ member).1 rfl, fun member => (all _ member).2 rfl⟩
  · intro ⟨slash, query⟩ byte member
    exact ⟨fun same => slash (same ▸ member), fun same => query (same ▸ member)⟩

def Ends : Prop := path = [] ∨ ∃ rest, path = ch '/' :: rest ∨ path = ch '?' :: rest

theorem ends_iff : path.takeWhile goesOn = [] ↔ Ends path := by
  cases path with
  | nil => exact iff_of_true rfl (.inl rfl)
  | cons byte rest =>
      rw [List.takeWhile_cons, Ends, goesOn]
      by_cases slash : byte = ch '/'
      · simp [slash]
      · by_cases query : byte = ch '?'
        · simp [query]
        · simp [slash, query]

theorem authority_part_append : authorityPart (authority ++ path) = authority ↔
    (ch '/' ∉ authority ∧ ch '?' ∉ authority) ∧ Ends path := by
  rw [authority_part_eq, ← all_goes_on, ← ends_iff]
  constructor
  · intro whole
    have all : ∀ byte ∈ authority, goesOn byte = true := by
      intro byte member
      rw [← whole] at member
      exact List.mem_takeWhile_imp member
    rw [List.takeWhile_append_of_pos all, List.append_right_eq_self] at whole
    exact ⟨all, whole⟩
  · intro ⟨all, ends⟩
    rw [List.takeWhile_append_of_pos all, ends, List.append_nil]

theorem path_part_append (whole : authorityPart (authority ++ path) = authority) :
    pathPart (authority ++ path) = (cutAt (ch '?') path).1 := by
  have absent := ((authority_part_append authority path).mp whole).1.2
  have passed : ∀ byte ∈ authority, (byte != ch '?') = true := by
    intro byte member
    exact bne_iff_ne.mpr fun same => absent (same ▸ member)
  have front : authorityPart (authority ++ path) ++ pathPart (authority ++ path) =
      authority ++ (cutAt (ch '?') path).1 := by
    rw [authorityPart, pathPart, cut_at_whole, cutAt, cutAt, List.span_eq_takeWhile_dropWhile,
      List.span_eq_takeWhile_dropWhile]
    exact List.takeWhile_append_of_pos passed
  rw [whole] at front
  exact List.append_cancel_left front

end Joined

end NetUrl
