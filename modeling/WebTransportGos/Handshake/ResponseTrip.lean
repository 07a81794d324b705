import WebTransportGos.H3.WriterCalls
import WebTransportGos.Handshake.Connect

/-!
The response headers from the server's response writer to the client's `Connect`: names
go lower-cased onto the wire and come back canonical, and every order in which the writer
walks its map gives the same header.
-/

namespace WebTransportGos

open GoReader GoText GoMap H3 H3.ResponseWriter

set_option autoImplicit false

variable (packages : Packages)

/-- What a fresh response writer with this header map emits for `WriteHeader` and `Flush`. -/
def responseBytes (header : Header) (status : Int) (walk : List (GoString × List GoString)) :
    List UInt8 :=
  ({ newResponseWriter with header := header }.writeHeader packages status walk).flush.stream.written

theorem response_bytes_eq (header : Header) (status : Int)
    (walk : List (GoString × List GoString)) :
    responseBytes packages header status walk =
      headersFrameWrite packages.varint (headerBlock packages status walk).length ++
        headerBlock packages status walk :=
  (@write_header_open packages { newResponseWriter with header := header } walk rfl status).1

section Fields

variable {header : Header} {walk : List (GoString × List GoString)}

def entryFields (entry : GoString × List GoString) : List HeaderField :=
  entry.2.map fun value => ⟨toLower entry.1, value⟩

def addField (header : Header) (field : HeaderField) : Header := header.add field.name field.value

theorem status_not_token {key : GoString} (token : key.all isTokenByte = true) :
    toLower key ≠ lit ":status" := by
  intro same
  have lowered := token_to_lower token
  rw [same] at lowered
  cases lowered

theorem response_fields (fields : List HeaderField) (response : Response)
    (ordinary : ∀ field ∈ fields, field.name ≠ lit ":status") :
    fields.foldlM responseField response =
      .ok { response with header := fields.foldl addField response.header } := by
  induction fields generalizing response with
  | nil => rfl
  | cons field fields induction =>
      simp only [List.mem_cons, forall_eq_or_imp] at ordinary
      rw [List.foldlM_cons, responseField, if_neg ordinary.1]
      exact induction _ ordinary.2

/-- Entries with keys of their own are stored whole. The invariant of the induction is that
nothing is stored yet under the keys still to come. -/
theorem add_entries (start : Header) (canonical : ∀ entry ∈ walk, CanonicalToken entry.1)
    (distinct : (walk.map Prod.fst).Nodup) (fresh : ∀ entry ∈ walk, start entry.1 = none) :
    (walk.flatMap entryFields).foldl addField start =
      insertAll start (walk.filter fun entry => entry.2 ≠ []) := by
  induction walk generalizing start with
  | nil => rfl
  | cons entry walk induction =>
      simp only [List.map_cons, List.nodup_cons] at distinct
      simp only [List.mem_cons, forall_eq_or_imp] at canonical fresh
      have stored : (entryFields entry).foldl addField start =
          if entry.2 = [] then start else Function.update start entry.1 (some entry.2) := by
        rw [entryFields, List.foldl_map]
        have added := Header.add_all start canonical.1.to_lower entry.2
        rw [Header.values, fresh.1] at added
        exact added
      rw [List.flatMap_cons, List.foldl_append, stored]
      by_cases empty : entry.2 = []
      · rw [if_pos empty, List.filter_cons_of_neg (by simp [empty])]
        exact induction start canonical.2 distinct.2 fresh.2
      · rw [if_neg empty, List.filter_cons_of_pos (by simp [empty])]
        apply induction _ canonical.2 distinct.2
        intro other member
        have apart : other.1 ≠ entry.1 := by
          intro same
          exact distinct.1 (same ▸ List.mem_map_of_mem member)
        rw [Function.update_of_ne apart]
        exact fresh.2 other member

/-- The client makes of the fields what the server had in its map. -/
theorem response_from_header_fields {status : Int} (low : -2 ^ 63 ≤ status)
    (high : status < 2 ^ 63) (walks : header.Walks walk)
    (canonical : ∀ key values, header key = some values → CanonicalToken key) :
    responseFromHeaders (headerFields status walk) =
      .ok ⟨lit "webtransport", status, header.nonempty⟩ := by
  have tokens : ∀ entry ∈ walk, CanonicalToken entry.1 := by
    rintro ⟨key, values⟩ member
    exact canonical key values ((walks.covers key values).mpr member)
  have ordinary : ∀ field ∈ walk.flatMap entryFields, field.name ≠ lit ":status" := by
    intro field member
    rcases List.mem_flatMap.mp member with ⟨entry, present, line⟩
    rcases List.mem_map.mp line with ⟨value, -, rfl⟩
    exact status_not_token (tokens entry present).1
  have first : responseField ⟨lit "webtransport", 0, Header.empty⟩ ⟨lit ":status", itoa status⟩ =
      .ok ⟨lit "webtransport", status, Header.empty⟩ := by
    simp only [responseField, if_true, parse_int_itoa low high]
  rw [responseFromHeaders, headerFields, List.foldlM_cons, first]
  apply (response_fields _ _ ordinary).trans
  rw [add_entries Header.empty tokens walks.distinct (fun _ _ => rfl)]
  congr 2
  exact (walks.filter fun values => decide (values ≠ [])).insert_all

end Fields

/-- A response's status and headers reach the client as the server set them. -/
theorem response_survives {header : Header} {status : Int}
    {walk : List (GoString × List GoString)} (low : -2 ^ 63 ≤ status) (high : status < 2 ^ 63)
    (walks : header.Walks walk)
    (canonical : ∀ key values, header key = some values → CanonicalToken key)
    (allocated : (headerBlock packages status walk).length ≤ maxAlloc)
    (source : Source) (rest : List UInt8)
    (seen : (view source).bytes = responseBytes packages header status walk ++ rest) :
    ∃ response left, (Client.readResponse packages).run source = (.ok response, left) ∧
      response.statusCode = status ∧ response.header = header.nonempty ∧
      view left = ⟨rest, (view source).ending⟩ := by
  have next : NextFrame packages.varint (view source).bytes 0x1
      (headerBlock packages status walk).length (headerBlock packages status walk ++ rest) := by
    rw [seen, response_bytes_eq, List.append_assoc]
    exact next_frame_headers (Nat.lt_of_le_of_lt allocated (by decide)) _
  have decoded : packages.qpack.decodeFull (headerBlock packages status walk) =
      .ok (headerFields status walk) := packages.qpack.decode_encode _ (List.cons_ne_nil _ _)
  rcases Client.read_response_received next rfl allocated decoded
    (response_from_header_fields low high walks canonical) with ⟨left, received, remaining⟩
  exact ⟨_, left, received, rfl, rfl, remaining⟩

def twoCookies : List (GoString × List GoString) :=
  [(lit "Set-Cookie", [lit "a=1", lit "b=2"]), (lit "Server", [])]

theorem two_cookies_survive : ∃ response left,
    (Client.readResponse .reference).run [⟨responseBytes .reference
      (insertAll Header.empty twoCookies) 404 twoCookies ++ [0xff], some .eof⟩] =
        (.ok response, left) ∧
      response.statusCode = 404 ∧
      response.header = Header.nonempty (insertAll Header.empty twoCookies) ∧
      view left = ⟨[0xff], .fail .eof⟩ := by
  have walks : Header.Walks (insertAll Header.empty twoCookies) twoCookies :=
    walks_insert_all (by decide)
  apply response_survives .reference (by decide) (by decide) walks
  · intro key values present
    have member := (walks.covers key values).mp present
    simp only [twoCookies, List.mem_cons, List.not_mem_nil, or_false, Prod.mk.injEq] at member
    rcases member with ⟨rfl, -⟩ | ⟨rfl, -⟩
    · exact ⟨by decide, by decide⟩
    · exact ⟨by decide, by decide⟩
  · decide +kernel
  · rfl

end WebTransportGos
