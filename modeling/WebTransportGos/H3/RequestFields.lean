import WebTransportGos.H3.Request

/-!
What `RequestFromHeaders` keeps of a list of header fields. The loop over the fields is
read back as one summary: for each pseudo-header its last value, for each canonical key the
values of the regular fields in list order. The summary looks at the fields of one canonical
name at a time, so the order between different names does not matter.
-/

namespace WebTransportGos.H3

open GoReader GoText NetUrl

set_option autoImplicit false

/-- The value of the last field with exactly this name; empty when there is none. -/
def lastValue (headers : List HeaderField) (name : GoString) : GoString :=
  ((headers.filter fun field => field.name = name).getLast?.map HeaderField.value).getD []

def HeaderField.isRegular (field : HeaderField) : Bool :=
  !field.isPseudo && field.name ≠ lit "content-length"

def fieldsOf (headers : List HeaderField) (key : GoString) : List HeaderField :=
  headers.filter fun field => canonicalKey field.name = key

def regularValues (headers : List HeaderField) (key : GoString) : List GoString :=
  ((fieldsOf headers key).filter HeaderField.isRegular).map HeaderField.value

/-- A key without values is absent. -/
def regularHeader (headers : List HeaderField) : Header := fun key =>
  if regularValues headers key = [] then none else some (regularValues headers key)

def gathered (headers : List HeaderField) : RequestFields where
  path := lastValue headers (lit ":path")
  authority := lastValue headers (lit ":authority")
  method := lastValue headers (lit ":method")
  contentLengthStr := lastValue headers (lit "content-length")
  protocol := lastValue headers (lit ":protocol")
  httpHeaders := regularHeader headers

section Gathered

variable (headers : List HeaderField) (field : HeaderField)

theorem last_value_append (name : GoString) :
    lastValue (headers ++ [field]) name =
      if field.name = name then field.value else lastValue headers name := by
  rw [lastValue, List.filter_append]
  by_cases same : field.name = name
  · simp [same]
  · simp [same, lastValue]

theorem regular_values_append (key : GoString) :
    regularValues (headers ++ [field]) key = regularValues headers key ++
      if canonicalKey field.name = key ∧ field.isRegular = true then [field.value] else [] := by
  simp only [regularValues, fieldsOf, List.filter_append, List.map_append]
  congr 1
  by_cases same : canonicalKey field.name = key <;> by_cases regular : field.isRegular = true <;>
    simp [same, regular]

theorem regular_header_values (key : GoString) :
    (regularHeader headers).values key = regularValues headers key := by
  rw [Header.values, regularHeader]
  split
  next none => rw [none, Option.getD_none]
  next some => rw [Option.getD_some]

theorem regular_header_append : regularHeader (headers ++ [field]) =
    if field.isRegular then (regularHeader headers).add field.name field.value
    else regularHeader headers := by
  funext key
  by_cases regular : field.isRegular = true
  · rw [if_pos regular, Header.add, regular_header_values, Function.update_apply]
    by_cases same : key = canonicalKey field.name
    · simp [regularHeader, regular_values_append, regular, same]
    · have other : ¬(canonicalKey field.name = key ∧ field.isRegular = true) :=
        fun both => same both.1.symm
      rw [if_neg same, regularHeader, regular_values_append, if_neg other, List.append_nil]
      rfl
  · have other : ¬(canonicalKey field.name = key ∧ field.isRegular = true) :=
      fun both => regular both.2
    rw [if_neg regular, regularHeader, regular_values_append, if_neg other, List.append_nil]
    rfl

/-- One more field in the loop is one more field in the summary. -/
theorem request_field_gathered :
    requestField (gathered headers) field = gathered (headers ++ [field]) := by
  rcases field with ⟨name, value⟩
  simp only [gathered, last_value_append, regular_header_append]
  by_cases path : name = lit ":path"
  · subst path
    rfl
  by_cases method : name = lit ":method"
  · subst method
    rfl
  by_cases protocol : name = lit ":protocol"
  · subst protocol
    rfl
  by_cases authority : name = lit ":authority"
  · subst authority
    rfl
  by_cases contentLength : name = lit "content-length"
  · subst contentLength
    rfl
  simp only [requestField, if_neg path, if_neg method, if_neg protocol, if_neg authority,
    if_neg contentLength]
  cases pseudo : (⟨name, value⟩ : HeaderField).isPseudo <;>
    simp [HeaderField.isRegular, pseudo, contentLength]

theorem fields_gathered : headers.foldl requestField {} = gathered headers := by
  induction headers using List.reverseRecOn with
  | nil => rfl
  | append_singleton headers field induction =>
      rw [List.foldl_append, induction]
      exact request_field_gathered headers field

end Gathered

def keptHeader (headers : List HeaderField) : Header := fun key =>
  if regularValues headers key = [] then none
  else if key = lit "Cookie" then
    some [List.intercalate (lit "; ") (regularValues headers key)]
  else some (regularValues headers key)

theorem join_cookies_eq (header : Header) : joinCookies header =
    if header.values (lit "Cookie") = [] then header
    else header.set (lit "Cookie")
      (List.intercalate (lit "; ") (header.values (lit "Cookie"))) := by
  rw [joinCookies]
  cases header.values (lit "Cookie") with
  | nil => rfl
  | cons cookie cookies => rfl

theorem join_cookies_regular (headers : List HeaderField) :
    joinCookies (regularHeader headers) = keptHeader headers := by
  have cookie : canonicalKey (lit "Cookie") = lit "Cookie" := by decide
  rw [join_cookies_eq, regular_header_values]
  funext key
  rw [keptHeader]
  by_cases same : key = lit "Cookie"
  · subst same
    split
    next absent => rw [regularHeader, if_pos absent]
    next present => rw [Header.set, cookie, Function.update_self, if_pos rfl]
  · rw [if_neg same]
    split
    · rfl
    · rw [Header.set, cookie, Function.update_of_ne same]
      rfl

def requestTarget (headers : List HeaderField) : GoString :=
  if lastValue headers (lit ":method") = lit "CONNECT" then
    lit "https://" ++ lastValue headers (lit ":authority") ++ lastValue headers (lit ":path")
  else lastValue headers (lit ":path")

def contentLengthOf (text : GoString) : Except Error Int :=
  if text = [] then .ok 0 else parseInt text

/-- A request holds what the fields it was made from say. -/
structure Keeps (headers : List HeaderField) (req : Request) : Prop where
  header : req.header = keptHeader headers
  method : req.method = lastValue headers (lit ":method")
  host : req.host = lastValue headers (lit ":authority")
  proto : req.proto = lastValue headers (lit ":protocol")
  requestURI : req.requestURI = lastValue headers (lit ":path")
  contentLength :
    contentLengthOf (lastValue headers (lit "content-length")) = .ok req.contentLength
  url : parseRequestURI (requestTarget headers) = .ok req.url

theorem content_length_bind {result : Int → Except Error Request} (text : GoString) :
    (if text = [] then (do let length ← Except.ok 0; result length)
      else do let length ← parseInt text; result length) =
      (contentLengthOf text).bind result := by
  rw [contentLengthOf]
  split <;> rfl

theorem request_target_eq (headers : List HeaderField) :
    (if decide ((gathered headers).method = lit "CONNECT") = true then
      lit "https://" ++ (gathered headers).authority ++ (gathered headers).path
      else (gathered headers).path) = requestTarget headers := by
  rw [requestTarget]
  by_cases connects : lastValue headers (lit ":method") = lit "CONNECT"
  · simp [gathered, connects]
  · simp [gathered, connects]

theorem request_keeps {headers : List HeaderField} {req : Request}
    (accepted : requestFromHeaders headers = .ok req) : Keeps headers req := by
  rw [requestFromHeaders, fields_gathered] at accepted
  dsimp only at accepted
  split at accepted
  · cases accepted
  simp only [request_target_eq, content_length_bind] at accepted
  obtain ⟨url, parsed, accepted⟩ := except_bind_ok accepted
  obtain ⟨contentLength, length, accepted⟩ := except_bind_ok accepted
  cases accepted
  exact ⟨join_cookies_regular headers, rfl, rfl, rfl, rfl, length, parsed⟩

theorem last_value_of_fields (headers : List HeaderField) (name : GoString) :
    lastValue headers name = lastValue (fieldsOf headers (canonicalKey name)) name := by
  rw [lastValue, lastValue, fieldsOf, List.filter_filter]
  congr 4
  funext field
  by_cases same : field.name = name
  · simp [same]
  · simp [same]

theorem gathered_same {headers others : List HeaderField}
    (same : ∀ key, fieldsOf headers key = fieldsOf others key) :
    gathered headers = gathered others := by
  have last (name : GoString) : lastValue headers name = lastValue others name := by
    rw [last_value_of_fields headers, same, ← last_value_of_fields]
  have regular : regularHeader headers = regularHeader others := by
    funext key
    rw [regularHeader, regularHeader, regularValues, regularValues, same]
  rw [gathered, gathered, last, last, last, last, last, regular]

/-- `RequestFromHeaders` keeps exactly the regular fields and the last values of the special
ones, and does not see the order between fields of different names. -/
theorem request_from_headers_keeps :
    (∀ headers req, requestFromHeaders headers = .ok req → Keeps headers req) ∧
      ∀ headers others : List HeaderField,
        (∀ key, fieldsOf headers key = fieldsOf others key) →
        requestFromHeaders headers = requestFromHeaders others := by
  constructor
  · intro headers req accepted
    exact request_keeps accepted
  · intro headers others same
    rw [requestFromHeaders, requestFromHeaders, fields_gathered, fields_gathered,
      gathered_same same]

theorem exists_ok {α : Type} {result : Except Error α} (succeeds : result.toOption.isSome = true) :
    ∃ value, result = .ok value := by
  cases result with
  | error err => cases succeeds
  | ok value => exact ⟨value, rfl⟩

/-- Two cookie fields, spelled differently, in front of the pseudo-headers and behind them. -/
theorem cookies_kept_in_any_order :
    let pseudo : List HeaderField := [⟨lit ":method", lit "CONNECT"⟩, ⟨lit ":authority", lit "a"⟩,
      ⟨lit ":path", lit "/echo"⟩]
    let cookies : List HeaderField := [⟨lit "cookie", lit "x=1"⟩, ⟨lit "Cookie", lit "y=2"⟩]
    ∃ req, requestFromHeaders (pseudo ++ cookies) = .ok req ∧
      requestFromHeaders (cookies ++ pseudo) = .ok req ∧
      req.header (lit "Cookie") = some [lit "x=1; y=2"] := by
  intro pseudo cookies
  obtain ⟨req, accepted⟩ : ∃ req, requestFromHeaders (pseudo ++ cookies) = .ok req :=
    exists_ok (by decide +kernel)
  refine ⟨req, accepted, ?_, ?_⟩
  · rw [request_from_headers_keeps.2 (cookies ++ pseudo) (pseudo ++ cookies), accepted]
    intro key
    by_cases cookie : key = lit "Cookie"
    · rw [cookie]
      decide
    · have spelled : ∀ field ∈ cookies, canonicalKey field.name = lit "Cookie" := by decide
      have absent : fieldsOf cookies key = [] := by
        apply List.filter_eq_nil_iff.mpr
        intro field member
        rw [spelled field member, decide_eq_true_eq]
        exact fun same => cookie same.symm
      rw [fieldsOf] at absent
      rw [fieldsOf, fieldsOf, List.filter_append, List.filter_append, absent, List.append_nil,
        List.nil_append]
  · rw [(request_from_headers_keeps.1 _ _ accepted).header]
    decide

end WebTransportGos.H3
