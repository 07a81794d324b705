import WebTransportGos.Handshake.Dialogue

/-!
The two ends of a handshake agree. Whatever order and cut the pieces of the four streams come
in, `Connect` returns nil exactly on the connections for which `handleSession` makes a
`WebTransport`, both ends then start from one `Handshake`, and no order leaves them waiting
for each other.
-/

namespace WebTransportGos

open GoReader GoText GoMap H3 Client Server

set_option autoImplicit false

namespace Dial

variable {packages : Packages} (dial : Dial packages)

def clientSettings : List UInt8 := controlStreamBytes packages.varint dial.clientWalks

def requestBytes : List UInt8 := connectBytes packages dial.remoteAddr dial.path

def responseBytes : List UInt8 := answer packages dial.status

def Heard (arrived : Exchange.Arrived Wire UInt8) : Prop :=
  (arrived .serverControl).flatten = dial.serverSettings

def Asked (arrived : Exchange.Arrived Wire UInt8) : Prop :=
  arrived .clientControl ≠ [] ∧ (arrived .request).flatten = dial.requestBytes

def Answered (arrived : Exchange.Arrived Wire UInt8) : Prop :=
  (arrived .response).flatten = dial.responseBytes

section Frames

variable {varint : Quicvarint}

theorem settings_entries_small {walk : List (Nat × Nat)} (walked : walk.Perm settingsEntries) :
    ∀ entry ∈ walk, SmallEntry entry := by
  intro entry member
  have known := walked.mem_iff.mp member
  simp only [settingsEntries, List.mem_cons, List.not_mem_nil, or_false] at known
  rcases known with rfl | rfl | rfl <;> exact ⟨by decide, by decide⟩

theorem setting_bytes_short (short : ∀ number, number < 2 ^ 62 → varint.len number ≤ 8)
    {entry : Nat × Nat} (small : SmallEntry entry) : (settingBytes varint entry).length ≤ 16 := by
  have first := short entry.1 small.1
  have second := short entry.2 small.2
  have total := @setting_bytes_length varint entry small
  omega

theorem settings_payload_short (short : ∀ number, number < 2 ^ 62 → varint.len number ≤ 8)
    {walk : List (Nat × Nat)} (walked : walk.Perm settingsEntries) :
    (settingsPayload varint true walk).length ≤ 8 * 2 ^ 10 := by
  have flag := @setting_bytes_short varint short (settingDatagram, 1) ⟨by decide, by decide⟩
  have first := @setting_bytes_short varint short (h3Datagram05, 1) ⟨by decide, by decide⟩
  have second := @setting_bytes_short varint short (enableConnectProtocol, 1)
    ⟨by decide, by decide⟩
  have third := @setting_bytes_short varint short (enableWebTransport, 1) ⟨by decide, by decide⟩
  have total := (walked.map fun entry => (settingBytes varint entry).length).sum_nat
  simp only [settingsEntries, List.map_cons, List.map_nil, List.sum_cons, List.sum_nil] at total
  rw [settingsPayload, if_pos rfl, List.length_append, List.length_flatMap, total]
  omega

def offered : SettingsFrame := ⟨true, insertAll (fun _ => none) settingsEntries⟩

theorem offered_supports : supportsWebTransport offered = true := by decide

theorem settings_parsed (walks : SettingsWalks) :
    parseSettings varint false emptySettings (settingsPayload varint true walks.write) =
      .ok offered := by
  have stored : Walks offered.other settingsEntries := walks_insert_all (by decide)
  exact parse_settings_payload (stored.of_perm walks.write_perm.symm)
    (settings_entries_small walks.write_perm) (by decide)

theorem settings_next (short : ∀ number, number < 2 ^ 62 → varint.len number ≤ 8)
    (walks : SettingsWalks) :
    NextFrame varint (settingsFrameWrite varint true walks.length walks.write) 0x4
      (settingsPayload varint true walks.write).length
      (settingsPayload varint true walks.write) := by
  have bounded := settings_payload_short short walks.write_perm
  rw [settings_frame_write_eq true (walks.length_perm.trans walks.write_perm.symm)
    (settings_entries_small walks.write_perm), List.append_assoc]
  exact .here (varint.decode_write (by decide) _) (varint.decode_write (by omega) _) rfl

theorem control_stream_cons (zero : varint.len 0 = 1) (walks : SettingsWalks) :
    ∃ first, controlStreamBytes varint walks =
      first :: settingsFrameWrite varint true walks.length walks.write := by
  rw [varint.len_eq 0 (by decide)] at zero
  obtain ⟨first, single⟩ := List.length_eq_one_iff.mp zero
  refine ⟨first, ?_⟩
  rw [controlStreamBytes]
  exact congrArg (· ++ _) single

end Frames

theorem request_next : NextFrame packages.varint dial.requestBytes 0x1
    (connectBlock packages dial.remoteAddr dial.path).length
    (connectBlock packages dial.remoteAddr dial.path) :=
  next_frame_headers (Nat.lt_of_le_of_lt dial.allocated (by decide)) _

theorem status_cases : dial.status = 200 ∨ dial.status = 404 := by
  rw [status]
  split
  · exact .inl rfl
  · exact .inr rfl

theorem status_final : dial.status < 100 ∨ 200 ≤ dial.status := by
  rcases dial.status_cases with same | same <;> rw [same] <;> decide

theorem response_next : NextFrame packages.varint dial.responseBytes 0x1
    (answerBlock packages dial.status).length (answerBlock packages dial.status) := by
  have small := dial.answered dial.status dial.status_cases
  rw [responseBytes, answer_eq packages dial.status_final]
  exact next_frame_headers (Nat.lt_of_le_of_lt small (by decide)) _

theorem request_bytes_ne_nil : dial.requestBytes ≠ [] := by
  intro empty
  have next := dial.request_next
  rw [empty] at next
  exact no_frame_in_nothing next

theorem response_bytes_ne_nil : dial.responseBytes ≠ [] :=
  answer_ne_nil packages dial.status_final

theorem response_read {source : Source}
    (seen : (view source).bytes = dial.responseBytes) :
    ∃ response, ((readResponse packages).run source).1 = .ok response ∧
      response.statusCode = dial.status := by
  let header : Header := insertAll Header.empty [(canonicalKey draftHeader, [lit "draft02"])]
  have walks : header.Walks [(canonicalKey draftHeader, [lit "draft02"])] :=
    walks_insert_all (by simp)
  have canonical : ∀ key values, header key = some values → CanonicalToken key := by
    intro key values present
    have member := (walks.covers key values).mp present
    rw [List.mem_singleton] at member
    cases member
    exact ⟨by decide, by decide⟩
  have low : -2 ^ 63 ≤ dial.status := by
    rcases dial.status_cases with same | same <;> rw [same] <;> decide
  have high : dial.status < 2 ^ 63 := by
    rcases dial.status_cases with same | same <;> rw [same] <;> decide
  have next : NextFrame packages.varint (view source).bytes 0x1
      (answerBlock packages dial.status).length (answerBlock packages dial.status ++ []) := by
    rw [seen, List.append_nil]
    exact dial.response_next
  obtain ⟨left, received, -⟩ := read_response_received next rfl
    (dial.answered dial.status dial.status_cases)
    (packages.qpack.decode_encode _ (List.cons_ne_nil _ _))
    (response_from_header_fields low high walks canonical)
  exact ⟨_, congrArg Prod.fst received, rfl⟩

section Server

variable {dial} {arrived : Exchange.Arrived Wire UInt8}

theorem cut_of_prefix {bytes whole : List UInt8} (begins : bytes <+: whole)
    (part : bytes ≠ whole) : ∃ more, bytes ++ more = whole ∧ more ≠ [] := by
  obtain ⟨more, same⟩ := begins
  refine ⟨more, same, ?_⟩
  intro nothing
  rw [nothing, List.append_nil] at same
  exact part same

theorem handled_waits (begins : (arrived .request).flatten <+: dial.requestBytes)
    (waits : ¬dial.Asked arrived) :
    dial.handled arrived = .silent .hang (some dial.serverSettings) := by
  unfold handled
  split
  next => rfl
  next came =>
    rw [not_or] at came
    have part : (arrived .request).flatten ≠ dial.requestBytes := fun whole => waits ⟨came.1, whole⟩
    obtain ⟨more, whole, missing⟩ := cut_of_prefix begins part
    have next := dial.request_next
    rw [← whole] at next
    have blocked := read_request_cut next rfl missing dial.allocated
      (Pair.view_unfinished (arrived .request))
    have reached : (dial.incoming arrived).requestStream =
        some (dial.clientControl, dial.connectStream, Pair.unfinished (arrived .request)) := rfl
    rw [handle_session_reached packages dial.server reached, blocked]
    rfl

def requestOf (dial : Dial packages) (url : NetUrl.URL) : Request :=
  { receivedRequest dial.remoteAddr dial.path url with remoteAddr := dial.clientAddr }

theorem handled_control (dial : Dial packages) (arrived : Exchange.Arrived Wire UInt8) :
    (dial.handled arrived).control = some dial.serverSettings := by
  unfold handled
  split
  · rfl
  · have reached : (dial.incoming arrived).requestStream =
        some (dial.clientControl, dial.connectStream, Pair.unfinished (arrived .request)) := rfl
    rw [handle_session_reached packages dial.server reached]
    cases ((readRequest packages).run (Pair.unfinished (arrived .request))).1 with
    | ok accepted =>
        simp only [respond]
        split
        · rfl
        · rfl
    | fail err => rfl
    | hang => rfl
    | panic reason => rfl

theorem handled_asked (asked : dial.Asked arrived) :
    ∃ url : NetUrl.URL, url.path = effectivePath dial.path ∧
      dial.handled arrived =
        { outcome := .ok ()
          control := some dial.serverSettings
          response := dial.responseBytes
          block := some (connectBlock packages dial.remoteAddr dial.path)
          transport := if dial.accepted then
            some (createWebTransport dial.serverSession (dial.requestOf url) dial.connectStream
              dial.clientControl) else none } := by
  obtain ⟨behind, effective⟩ := dial.rooted.effective
  obtain ⟨url, parsed, urlPath⟩ := NetUrl.parse_escaped dial.authority behind
  rw [← effective] at parsed urlPath
  have came : ¬(arrived .clientControl = [] ∨ arrived .request = []) := by
    rw [not_or]
    refine ⟨asked.1, fun empty => dial.request_bytes_ne_nil ?_⟩
    rw [← asked.2, empty]
    rfl
  have decoded : decodeRequest packages (connectBlock packages dial.remoteAddr dial.path) =
      .ok (connectBlock packages dial.remoteAddr dial.path,
        receivedRequest dial.remoteAddr dial.path url) := by
    rw [decode_connect_block, request_from_connect_fields, parsed]
    rfl
  have seen : (view (Pair.unfinished (arrived .request))).bytes =
      connectBytes packages dial.remoteAddr dial.path ++ [] := by
    rw [Pair.view_unfinished, List.append_nil]
    exact asked.2
  obtain ⟨left, ran, -⟩ := request_read dial.allocated seen
  have reached : (dial.incoming arrived).requestStream =
      some (dial.clientControl, dial.connectStream, Pair.unfinished (arrived .request)) := rfl
  have accepts : dial.server.accepts (dial.requestOf url) = true ↔ dial.accepted := by
    have path : (dial.requestOf url).url.path = effectivePath dial.path := urlPath
    have method : (dial.requestOf url).method = lit "CONNECT" := rfl
    have proto : (dial.requestOf url).proto = lit "webtransport" := rfl
    rw [WebTransportServer.accepts, decide_eq_true_iff, path, accepted]
    constructor
    · intro fits
      exact fits.2.2.symm.imp_right Eq.symm
    · intro fits
      exact ⟨method, proto, fits.symm.imp_left Eq.symm⟩
  refine ⟨url, urlPath, ?_⟩
  rw [handled, if_neg came, handle_session_reached packages dial.server reached, ran, decoded]
  show (if dial.server.accepts (dial.requestOf url) = true then _ else _) = _
  by_cases fits : dial.accepted
  · rw [if_pos (accepts.mpr fits)]
    simp only [responseBytes, status, if_pos fits]
    rfl
  · rw [if_neg (mt accepts.mp fits)]
    simp only [responseBytes, status, if_neg fits]
    rfl

end Server

section Client

variable {dial} {arrived : Exchange.Arrived Wire UInt8}

def dialled (dial : Dial packages) : WebTransportClient :=
  { createWebTransportClient dial.remoteAddr dial.path with session := some dial.clientSession }

def asking (dial : Dial packages) : WebTransportClient :=
  { dial.dialled with
    settingsStream := some dial.serverControl
    connectStream := some dial.connectStream }

theorem first_read (pieces : [] ∉ arrived .serverControl) {first : UInt8} {behind : List UInt8}
    (seen : (arrived .serverControl).flatten = first :: behind) :
    ∃ control, FirstRead (dial.peer arrived) dial.clientSession dial.serverControl [first] control ∧
      view control = ⟨behind, .hang⟩ := by
  have returned : ∃ control, GoReader.read 1 (Pair.unfinished (arrived .serverControl)) =
      some (⟨[first], none⟩, control) ∧ view control = ⟨behind, .hang⟩ := by
    cases came : arrived .serverControl with
    | nil =>
        rw [came] at seen
        cases seen
    | cons piece later =>
        rw [came] at seen pieces
        cases piece with
        | nil => exact absurd List.mem_cons_self pieces
        | cons byte tail =>
            rw [List.flatten_cons, List.cons_append] at seen
            obtain ⟨rfl, rfl⟩ := List.cons.inj seen
            by_cases single : tail = []
            · subst single
              exact ⟨Pair.unfinished later, rfl, Pair.view_unfinished later⟩
            · have long : 1 < (byte :: tail).length := by
                have positive := List.length_pos_iff.mpr single
                rw [List.length_cons]
                omega
              refine ⟨⟨tail, none⟩ :: Pair.unfinished later, ?_, ?_⟩
              · show (if 1 < (byte :: tail).length then _ else _) = _
                rw [if_pos long]
                rfl
              · rw [view_data, Pair.view_unfinished]
  obtain ⟨control, ran, after⟩ := returned
  exact ⟨control, ⟨rfl, _, rfl, ran⟩, after⟩

theorem connecting_waits (pieces : [] ∉ arrived .serverControl)
    (begins : (arrived .serverControl).flatten <+: dial.serverSettings)
    (waits : ¬dial.Heard arrived) :
    dial.connecting arrived = (.hang, ⟨dial.dialled, none, none⟩) := by
  obtain ⟨more, whole, missing⟩ := cut_of_prefix begins waits
  obtain ⟨type, control⟩ := control_stream_cons dial.zero dial.serverWalks
  rw [serverSettings, control] at whole
  cases came : (arrived .serverControl).flatten with
  | nil =>
      have nothing : arrived .serverControl = [] := by
        cases same : arrived .serverControl with
        | nil => rfl
        | cons piece later =>
            rw [same] at came pieces
            rw [List.flatten_cons, List.append_eq_nil_iff] at came
            exact absurd (came.1 ▸ List.mem_cons_self) pieces
      have source : (dial.peer arrived).acceptUniStream = .ok (dial.serverControl, []) := by
        show Except.ok (dial.serverControl, Pair.unfinished (arrived .serverControl)) = _
        rw [nothing]
        rfl
      have session : (dial.peer arrived).dial = .ok dial.clientSession := rfl
      simp only [connecting, connect, session, source]
      rfl
  | cons first behind =>
      obtain ⟨rest, returned, after⟩ := first_read pieces came
      rw [came] at whole
      have next := settings_next dial.short dial.serverWalks
      rw [← (List.cons.inj whole).2] at next
      have blocked := read_settings_cut next rfl missing
        (settings_payload_short dial.short dial.serverWalks.write_perm) after
      rw [connecting, connect_first_read _ _ returned, if_neg (List.cons_ne_nil _ _), negotiate,
        blocked]
      rfl

theorem finish_written (connecting : Connecting) (outcome : Outcome Response) :
    (finish connecting outcome).2.request = connecting.request ∧
      (finish connecting outcome).2.settings = connecting.settings := by
  unfold finish
  split
  · split
    · exact ⟨rfl, rfl⟩
    · exact ⟨rfl, rfl⟩
  all_goals exact ⟨rfl, rfl⟩

theorem connecting_heard (pieces : [] ∉ arrived .serverControl) (heard : dial.Heard arrived) :
    dial.connecting arrived = finish ⟨dial.asking, some dial.clientSettings, some dial.requestBytes⟩
      ((readResponse packages).run (Pair.unfinished (arrived .response))).1 := by
  obtain ⟨type, control⟩ := control_stream_cons dial.zero dial.serverWalks
  have came := heard
  rw [Heard, serverSettings, control] at came
  obtain ⟨rest, returned, after⟩ := first_read pieces came
  have received : SettingsReceived packages.varint (view rest).bytes offered := by
    rw [after]
    refine ⟨_, _, [], ?_, rfl, settings_payload_short dial.short dial.serverWalks.write_perm,
      settings_parsed dial.serverWalks⟩
    rw [List.append_nil]
    exact settings_next dial.short dial.serverWalks
  have sent := @request_written packages _ _ dial.ascii dial.rooted none
  have requested : Requested packages dial.dialled (dial.peer arrived) (view rest).bytes
      (Pair.unfinished (arrived .response)) :=
    ⟨⟨offered, received, offered_supports⟩, ⟨_, rfl⟩, ⟨_, rfl⟩, congrArg (·.2.1) sent⟩
  obtain ⟨requestStream, bytes, opened, ran⟩ := @negotiate_requested packages (dial.peer arrived)
    ⟨dial.dialled, none, none⟩ dial.serverControl rest _ requested
  cases opened
  have result : dial.connecting arrived = finish ⟨dial.asking, some dial.clientSettings, some bytes⟩
      ((readResponse packages).run (Pair.unfinished (arrived .response))).1 := by
    rw [connecting, connect_first_read _ _ returned, if_neg (List.cons_ne_nil _ _)]
    exact ran
  have wrote : (dial.connecting arrived).2.request = some bytes := by
    rw [result]
    exact (finish_written _ _).1
  rw [result, connect_sent dial.ascii dial.rooted wrote]
  rfl

end Client

section Written

variable {dial} {arrived next : Exchange.Arrived Wire UInt8}

instance (dial : Dial packages) (arrived : Exchange.Arrived Wire UInt8) :
    Decidable (dial.Heard arrived) := inferInstanceAs (Decidable (_ = _))

instance (dial : Dial packages) (arrived : Exchange.Arrived Wire UInt8) :
    Decidable (dial.Asked arrived) := inferInstanceAs (Decidable (_ ∧ _))

/-- What has arrived are beginnings of what the two ends have to say. -/
structure Sensible (dial : Dial packages) (arrived : Exchange.Arrived Wire UInt8) : Prop where
  settings : (arrived .serverControl).flatten <+: dial.serverSettings
  request : (arrived .request).flatten <+: dial.requestBytes
  pieces : [] ∉ arrived .serverControl

theorem server_written (begins : (arrived .request).flatten <+: dial.requestBytes) :
    dial.written arrived .response = if dial.Asked arrived then dial.responseBytes else [] := by
  by_cases asked : dial.Asked arrived
  · obtain ⟨url, -, same⟩ := handled_asked asked
    rw [if_pos asked, written, same]
  · rw [if_neg asked, written, handled_waits begins asked]
    rfl

theorem client_written (begins : (arrived .serverControl).flatten <+: dial.serverSettings)
    (pieces : [] ∉ arrived .serverControl) :
    dial.written arrived .clientControl = (if dial.Heard arrived then dial.clientSettings else []) ∧
      dial.written arrived .request = if dial.Heard arrived then dial.requestBytes else [] := by
  by_cases heard : dial.Heard arrived
  · rw [if_pos heard, if_pos heard, written, written, connecting_heard pieces heard,
      (finish_written _ _).1, (finish_written _ _).2]
    exact ⟨rfl, rfl⟩
  · rw [if_neg heard, if_neg heard, written, written, connecting_waits pieces begins heard]
    exact ⟨rfl, rfl⟩

theorem settings_written (dial : Dial packages) (arrived : Exchange.Arrived Wire UInt8) :
    dial.written arrived .serverControl = dial.serverSettings := by
  rw [written, handled_control]
  rfl

/-- Neither end ever writes anything but its frames. -/
theorem sensible_of_sound (sound : Exchange.Sound dial.written arrived) :
    dial.Sensible arrived := by
  have settings := sound.written .serverControl
  rw [settings_written] at settings
  have request := sound.written .request
  rw [(client_written settings (sound.pieces _)).2] at request
  refine ⟨settings, ?_, sound.pieces _⟩
  split at request
  · exact request
  · exact request.trans List.nil_prefix

variable {wire : Wire} {piece : List UInt8}

theorem heard_deliver (heard : dial.Heard arrived)
    (pending : Exchange.Pending dial.written arrived wire piece) :
    dial.Heard (Exchange.deliver arrived wire piece) := by
  have other : Wire.serverControl ≠ wire := by
    intro same
    subst same
    exact Exchange.not_pending (heard.trans (settings_written dial arrived).symm) pending
  rw [Heard, Exchange.deliver_other _ _ other]
  exact heard

theorem heard_of_asked (sound : Exchange.Sound dial.written arrived) (asked : dial.Asked arrived) :
    dial.Heard arrived := by
  have sensible := sensible_of_sound sound
  by_contra waits
  have begins := sound.written .request
  rw [(client_written sensible.settings sensible.pieces).2, if_neg waits,
    List.prefix_nil, asked.2] at begins
  exact dial.request_bytes_ne_nil begins

theorem asked_deliver (sound : Exchange.Sound dial.written arrived) (asked : dial.Asked arrived)
    (pending : Exchange.Pending dial.written arrived wire piece) :
    dial.Asked (Exchange.deliver arrived wire piece) := by
  have sensible := sensible_of_sound sound
  have heard := heard_of_asked sound asked
  have whole : dial.written arrived .request = dial.requestBytes := by
    rw [(client_written sensible.settings sensible.pieces).2, if_pos heard]
  have other : Wire.request ≠ wire := by
    intro same
    subst same
    exact Exchange.not_pending (asked.2.trans whole.symm) pending
  rw [Asked, Exchange.deliver_other _ _ other]
  refine ⟨?_, asked.2⟩
  by_cases same : Wire.clientControl = wire
  · rw [same, Exchange.deliver_same]
    simp
  · rw [Exchange.deliver_other _ _ same]
    exact asked.1

theorem sensible_deliver (sound : Exchange.Sound dial.written arrived)
    (pending : Exchange.Pending dial.written arrived wire piece) :
    dial.Sensible (Exchange.deliver arrived wire piece) := by
  have sensible := sensible_of_sound sound
  constructor
  · by_cases same : Wire.serverControl = wire
    · subst same
      rw [Exchange.flatten_deliver, ← settings_written dial arrived]
      exact pending.2
    · rw [Exchange.deliver_other _ _ same]
      exact sensible.settings
  · by_cases same : Wire.request = wire
    · subst same
      have begins := pending.2
      rw [(client_written sensible.settings sensible.pieces).2] at begins
      rw [Exchange.flatten_deliver]
      split at begins
      · exact begins
      · exact begins.trans List.nil_prefix
    · rw [Exchange.deliver_other _ _ same]
      exact sensible.request
  · by_cases same : Wire.serverControl = wire
    · rw [same, Exchange.deliver_same, ← same, List.mem_append, List.mem_singleton]
      intro member
      exact member.elim sensible.pieces pending.1.symm
    · rw [Exchange.deliver_other _ _ same]
      exact sensible.pieces

theorem ite_prefix {condition other : Prop} [Decidable condition] [Decidable other]
    (bytes : List UInt8) (later : condition → other) :
    (if condition then bytes else []) <+: if other then bytes else [] := by
  by_cases holds : condition
  · rw [if_pos holds, if_pos (later holds)]
  · rw [if_neg holds]
    exact List.nil_prefix

variable (dial) in
theorem written_monotone : Exchange.Monotone dial.written := by
  intro arrived wire piece sound pending other
  have before := sensible_of_sound sound
  have after := sensible_deliver sound pending
  have heard : dial.Heard arrived → dial.Heard (Exchange.deliver arrived wire piece) :=
    fun heard => heard_deliver heard pending
  have asked : dial.Asked arrived → dial.Asked (Exchange.deliver arrived wire piece) :=
    fun asked => asked_deliver sound asked pending
  cases other with
  | serverControl => rw [settings_written, settings_written]
  | clientControl =>
      rw [(client_written before.settings before.pieces).1,
        (client_written after.settings after.pieces).1]
      exact ite_prefix _ heard
  | request =>
      rw [(client_written before.settings before.pieces).2,
        (client_written after.settings after.pieces).2]
      exact ite_prefix _ heard
  | response =>
      rw [server_written before.request, server_written after.request]
      exact ite_prefix _ asked

def limit (dial : Dial packages) : Nat :=
  dial.serverSettings.length + dial.clientSettings.length + dial.requestBytes.length +
    dial.responseBytes.length

theorem ite_length (condition : Prop) [Decidable condition] (bytes : List UInt8) :
    (if condition then bytes else []).length ≤ bytes.length := by
  split
  · exact Nat.le_refl _
  · exact Nat.zero_le _

variable (dial) in
theorem written_limited : Exchange.Limited dial.written dial.limit := by
  intro arrived sound
  have sensible := sensible_of_sound sound
  rw [sum_wires, settings_written, (client_written sensible.settings sensible.pieces).1,
    (client_written sensible.settings sensible.pieces).2, server_written sensible.request, limit]
  have settings := ite_length (dial.Heard arrived) dial.clientSettings
  have request := ite_length (dial.Heard arrived) dial.requestBytes
  have response := ite_length (dial.Asked arrived) dial.responseBytes
  omega

end Written

def verdict : Option Error :=
  if dial.accepted then none else some (.text "request connect failed")

/-- What the two start from, `url` being what net/url makes of address and path. -/
def handshake (url : NetUrl.URL) : Handshake where
  remoteAddr := dial.remoteAddr
  path := dial.path
  req := dial.requestOf url
  clientSession := dial.clientSession
  serverSession := dial.serverSession
  connectStream := dial.connectStream
  clientControl := dial.clientControl
  serverControl := dial.serverControl

/-- A nil error from `Connect` means one handshake at both ends, and an error one that the
server has turned down. -/
structure Agree (arrived : Exchange.Arrived Wire UInt8) : Prop where
  returns : (dial.connecting arrived).1 = .hang ∨ (dial.connecting arrived).1 = .ok dial.verdict
  handles : (dial.handled arrived).outcome = .hang ∨ (dial.handled arrived).outcome = .ok ()
  connected : (dial.connecting arrived).1 = .ok none → dial.accepted ∧
    ∃ url : NetUrl.URL, url.path = effectivePath dial.path ∧
      handleStream (dial.connecting arrived).2.client = (dial.handshake url).pair.client ∧
      (dial.handled arrived).transport = some (dial.handshake url).pair.server
  refused : ∀ err, (dial.connecting arrived).1 = .ok (some err) →
    ¬dial.accepted ∧ (dial.handled arrived).outcome = .ok () ∧
      (dial.handled arrived).transport = none

section Results

variable {dial} {arrived : Exchange.Arrived Wire UInt8}

theorem connecting_open (sound : Exchange.Sound dial.written arrived)
    (waits : ¬dial.Answered arrived) : (dial.connecting arrived).1 = .hang := by
  have sensible := sensible_of_sound sound
  by_cases heard : dial.Heard arrived
  · have begins := sound.written .response
    rw [server_written sensible.request] at begins
    have response : (arrived .response).flatten <+: dial.responseBytes := by
      split at begins
      · exact begins
      · exact begins.trans List.nil_prefix
    obtain ⟨more, whole, missing⟩ := cut_of_prefix response waits
    have next := dial.response_next
    rw [← whole] at next
    have blocked := read_response_cut next rfl missing
      (dial.answered dial.status dial.status_cases) (Pair.view_unfinished (arrived .response))
    rw [connecting_heard sensible.pieces heard, blocked]
    rfl
  · rw [connecting_waits sensible.pieces sensible.settings heard]

theorem asked_of_answered (sound : Exchange.Sound dial.written arrived)
    (answered : dial.Answered arrived) : dial.Asked arrived := by
  by_contra waits
  have begins := sound.written .response
  rw [server_written (sensible_of_sound sound).request, if_neg waits, List.prefix_nil,
    answered] at begins
  exact dial.response_bytes_ne_nil begins

theorem connecting_answered (sound : Exchange.Sound dial.written arrived)
    (answered : dial.Answered arrived) :
    (dial.connecting arrived).1 = .ok dial.verdict ∧
      (dial.accepted → (dial.connecting arrived).2.client =
        connectedClient (createWebTransportClient dial.remoteAddr dial.path) dial.clientSession
          dial.connectStream dial.serverControl) := by
  have heard := heard_of_asked sound (asked_of_answered sound answered)
  have seen : (view (Pair.unfinished (arrived .response))).bytes = dial.responseBytes := by
    rw [Pair.view_unfinished]
    exact answered
  obtain ⟨response, read, code⟩ := dial.response_read seen
  rw [connecting_heard (sensible_of_sound sound).pieces heard, read]
  by_cases accepted : dial.accepted
  · have accepting : ¬response.statusCode ≠ 200 := by
      rw [code, status, if_pos accepted]
      decide
    rw [finish, if_neg accepting, verdict, if_pos accepted]
    exact ⟨rfl, fun _ => rfl⟩
  · have refusing : response.statusCode ≠ 200 := by
      rw [code, status, if_neg accepted]
      decide
    rw [finish, if_pos refusing, verdict, if_neg accepted]
    exact ⟨rfl, fun other => absurd other accepted⟩

theorem handled_cases (sound : Exchange.Sound dial.written arrived) :
    (dial.handled arrived).outcome = .hang ∨ (dial.handled arrived).outcome = .ok () := by
  by_cases asked : dial.Asked arrived
  · obtain ⟨url, -, same⟩ := handled_asked asked
    rw [same]
    exact .inr rfl
  · rw [handled_waits (sensible_of_sound sound).request asked]
    exact .inl rfl

theorem agree_of_sound (sound : Exchange.Sound dial.written arrived) : dial.Agree arrived := by
  by_cases answered : dial.Answered arrived
  · obtain ⟨returned, client⟩ := connecting_answered sound answered
    obtain ⟨url, urlPath, same⟩ := handled_asked (asked_of_answered sound answered)
    refine ⟨.inr returned, handled_cases sound, ?_, ?_⟩
    · intro nil
      have accepted : dial.accepted := by
        by_contra turned
        rw [returned, verdict, if_neg turned] at nil
        cases nil
      refine ⟨accepted, url, urlPath, ?_, ?_⟩
      · rw [client accepted]
        rfl
      · rw [same]
        exact if_pos accepted
    · intro err failed
      have turned : ¬dial.accepted := by
        intro accepted
        rw [returned, verdict, if_pos accepted] at failed
        cases failed
      rw [same]
      exact ⟨turned, rfl, if_neg turned⟩
  · have waiting := connecting_open sound answered
    refine ⟨.inl waiting, handled_cases sound, ?_, ?_⟩
    · intro nil
      rw [waiting] at nil
      cases nil
    · intro err failed
      rw [waiting] at failed
      cases failed

/-- When nothing is on its way any more, each end has been told all the other has to say. -/
theorem answered_of_quiet (sound : Exchange.Sound dial.written arrived)
    (quiet : Exchange.Quiet dial.written arrived) : dial.Asked arrived ∧ dial.Answered arrived := by
  have sensible := sensible_of_sound sound
  have heard : dial.Heard arrived := (quiet .serverControl).trans (settings_written dial arrived)
  have control := quiet .clientControl
  have request := quiet .request
  have response := quiet .response
  rw [(client_written sensible.settings sensible.pieces).1, if_pos heard] at control
  rw [(client_written sensible.settings sensible.pieces).2, if_pos heard] at request
  have asked : dial.Asked arrived := by
    refine ⟨fun empty => ?_, request⟩
    obtain ⟨type, settings⟩ := control_stream_cons dial.zero dial.clientWalks
    rw [empty, clientSettings, settings] at control
    cases control
  rw [server_written sensible.request, if_pos asked] at response
  exact ⟨asked, response⟩

end Results

/-- In every state that any order and cut of the pieces leads to, the two ends agree. -/
theorem ends_agree {arrived : Exchange.Arrived Wire UInt8}
    (reached : StepSystem.Reachable (Exchange.step dial.written) Exchange.nothing arrived) :
    dial.Agree arrived :=
  agree_of_sound (Exchange.sound_of_reachable dial.written_monotone reached)

def localhost : Dial .reference where
  remoteAddr := lit "localhost:4433"
  path := lit "/a?b c"
  server := ⟨[]⟩
  clientAddr := lit "127.0.0.1:50000"
  clientSession := 1
  serverSession := 2
  clientWalks := .same
  serverWalks := .same
  connectStream := 0
  clientControl := 2
  serverControl := 3
  ascii := by decide +kernel
  rooted := .inr ⟨_, rfl⟩
  authority := @NetUrl.host_port_authority (lit "localhost") (lit "4433") (by decide) (by decide)
  allocated := by decide +kernel
  answered := by
    intro status either
    rcases either with rfl | rfl
    · decide +kernel
    · decide +kernel
  zero := rfl
  short := by
    intro number _
    show (VarintFormat.quic.write number).length ≤ 8
    rw [VarintFormat.quic_write_length]
    split_ifs <;> decide

/-- All the pieces of this handshake can arrive, and both ends are then connected. -/
theorem localhost_ends_agree : ∃ arrived,
    localhost.Agree arrived ∧ (localhost.connecting arrived).1 = .ok none := by
  obtain ⟨arrived, reached, quiet⟩ := Exchange.reaches_quiet localhost.written_monotone
    localhost.written_limited Exchange.sound_nothing
  have sound := Exchange.sound_of_reachable localhost.written_monotone reached
  have returned := (connecting_answered sound (answered_of_quiet sound quiet).2).1
  exact ⟨arrived, localhost.ends_agree reached, returned⟩

/-- The handshake cannot go on for ever, and it never stops before `Connect` and
`handleSession` have returned. -/
theorem dialogue_completes :
    (∀ events arrived,
      StepSystem.run (Exchange.step dial.written) Exchange.nothing events = some arrived →
        events.length ≤ dial.limit) ∧
    ∀ arrived, StepSystem.Reachable (Exchange.step dial.written) Exchange.nothing arrived →
      (∃ final, StepSystem.Reachable (Exchange.step dial.written) arrived final ∧
        ∀ event, Exchange.step dial.written final event = none) ∧
      ((∀ event, Exchange.step dial.written arrived event = none) →
        (dial.connecting arrived).1 = .ok dial.verdict ∧
          (dial.handled arrived).outcome = .ok () ∧
          (dial.handled arrived).response = answer packages dial.status ∧
          ((dial.handled arrived).transport.isSome ↔ dial.accepted)) := by
  refine ⟨fun events arrived ran =>
    Exchange.run_bounded dial.written_monotone dial.written_limited ran, fun arrived reached => ?_⟩
  have sound := Exchange.sound_of_reachable dial.written_monotone reached
  constructor
  · obtain ⟨final, ends, quiet⟩ :=
      Exchange.reaches_quiet dial.written_monotone dial.written_limited sound
    have later : Exchange.Sound dial.written final :=
      StepSystem.reachable_invariant
        (fun _ _ _ sound taken => Exchange.sound_step dial.written_monotone sound taken) sound ends
    exact ⟨final, ends, (Exchange.quiet_iff later).mp quiet⟩
  · intro stopped
    obtain ⟨asked, answered⟩ := answered_of_quiet sound ((Exchange.quiet_iff sound).mpr stopped)
    obtain ⟨url, -, same⟩ := handled_asked asked
    refine ⟨(connecting_answered sound answered).1, ?_, ?_, ?_⟩
    · rw [same]
    · rw [same]
      rfl
    · rw [same]
      by_cases accepted : dial.accepted
      · simp [accepted]
      · simp [accepted]

theorem localhost_completes : ∃ final,
    StepSystem.Reachable (Exchange.step localhost.written) Exchange.nothing final ∧
      (localhost.connecting final).1 = .ok none ∧
      (localhost.handled final).outcome = .ok () ∧
      (localhost.handled final).transport.isSome = true := by
  have completes := localhost.dialogue_completes.2
  obtain ⟨final, reached, quiet⟩ := (completes _ (StepSystem.reachable_refl _)).1
  obtain ⟨returned, handled, -, accepts⟩ := (completes final reached).2 quiet
  exact ⟨final, reached, returned, handled, accepts.mpr (.inl rfl)⟩

end Dial

end WebTransportGos
