import WebTransportGos.Library.Exchange
import WebTransportGos.H3.Settings
import WebTransportGos.Handshake.RequestTrip
import WebTransportGos.Handshake.ResponseTrip
import WebTransportGos.Session.PairLifetime

/-!
`Connect` and `handleSession` on the two ends of one QUIC connection. Four streams take part,
and each end is run over what has arrived by now, cut in any way: the server's SETTINGS, the
client's SETTINGS, which the server accepts and never reads, the request and the response.
An end that has read a frame in part waits for the rest of it.
-/

namespace WebTransportGos

open GoReader GoText GoMap NetUrl H3 Client Server

set_option autoImplicit false

inductive Wire where
  | serverControl
  | clientControl
  | request
  | response
  deriving DecidableEq, Repr

instance : Fintype Wire :=
  ⟨{.serverControl, .clientControl, .request, .response}, fun wire => by
    cases wire <;> decide⟩

theorem sum_wires (count : Wire → Nat) :
    ∑ wire, count wire = count .serverControl + count .clientControl + count .request +
      count .response := by
  show ∑ wire ∈ {Wire.serverControl, .clientControl, .request, .response}, count wire = _
  rw [Finset.sum_insert (by decide), Finset.sum_insert (by decide),
    Finset.sum_insert (by decide), Finset.sum_singleton]
  omega

/-- One dialled connection: the configurations of both ends and what the QUIC layer makes of
it. The address is one that net/url takes, every block can be allocated, and a varint takes
at most eight bytes and 0 takes one. -/
structure Dial (packages : Packages) where
  remoteAddr : GoString
  path : GoString
  server : WebTransportServer
  clientAddr : GoString
  clientSession : SessionRef
  serverSession : SessionRef
  clientWalks : SettingsWalks
  serverWalks : SettingsWalks
  connectStream : StreamId
  clientControl : StreamId
  serverControl : StreamId
  ascii : ∀ byte ∈ remoteAddr, byte < 0x80
  rooted : Rooted path
  authority : isAuthority remoteAddr = true
  allocated : (connectBlock packages remoteAddr path).length ≤ maxAlloc
  answered : ∀ status, status = 200 ∨ status = 404 →
    (answerBlock packages status).length ≤ maxAlloc
  zero : packages.varint.len 0 = 1
  short : ∀ number, number < 2 ^ 62 → packages.varint.len number ≤ 8

namespace Dial

variable {packages : Packages} (dial : Dial packages) (arrived : Exchange.Arrived Wire UInt8)

def peer : Peer where
  dial := .ok dial.clientSession
  acceptUniStream := .ok (dial.serverControl, Pair.unfinished (arrived .serverControl))
  openUniStream := .ok dial.clientControl
  openStream := .ok (dial.connectStream, Pair.unfinished (arrived .response))
  written := none
  walks := dial.clientWalks

def incoming : Incoming where
  session := dial.serverSession
  remoteAddr := dial.clientAddr
  walks := dial.serverWalks
  openUniStream := .ok dial.serverControl
  acceptUniStream := .ok dial.clientControl
  acceptStream := .ok (dial.connectStream, Pair.unfinished (arrived .request))

def connecting : Outcome (Option Error) × Connecting :=
  connect packages (createWebTransportClient dial.remoteAddr dial.path) (dial.peer arrived)

def serverSettings : List UInt8 := controlStreamBytes packages.varint dial.serverWalks

/-- `handleSession` over what has come from the client. An accept returns when something has
come on the stream. -/
def handled : Handled :=
  if arrived .clientControl = [] ∨ arrived .request = [] then
    .silent .hang (some dial.serverSettings)
  else handleSession packages dial.server (dial.incoming arrived)

/-- What each stream has been given by now. -/
def written : Wire → List UInt8
  | .serverControl => (dial.handled arrived).control.getD []
  | .clientControl => (dial.connecting arrived).2.settings.getD []
  | .request => (dial.connecting arrived).2.request.getD []
  | .response => (dial.handled arrived).response

def accepted : Prop := dial.server.path = [] ∨ dial.server.path = effectivePath dial.path

instance : Decidable dial.accepted := inferInstanceAs (Decidable (_ ∨ _))

def status : Int := if dial.accepted then 200 else 404

end Dial

section Cut

variable {packages : Packages} {varint : Quicvarint} {source : Source}
  {frameType length : Nat} {bytes rest payload more : List UInt8}

/-- What stands behind a frame's announcement does not matter to it. -/
theorem next_frame_append (next : NextFrame varint bytes frameType length rest)
    (suffix : List UInt8) :
    NextFrame varint (bytes ++ suffix) frameType length (rest ++ suffix) := by
  induction next with
  | here typed sized recognised =>
      exact .here (VarintFormat.Format.decode_append typed suffix)
        (VarintFormat.Format.decode_append sized suffix) recognised
  | @skip bytes afterType skipped rest frameType length nextType nextLength typed sized unknown
      complete _ induction =>
      have longer : length ≤ (skipped ++ suffix).length := by
        rw [List.length_append]
        exact complete.trans (Nat.le_add_right _ _)
      refine .skip (VarintFormat.Format.decode_append typed suffix)
        (VarintFormat.Format.decode_append sized suffix) unknown longer ?_
      rw [List.drop_append_of_le_length complete]
      exact induction

/-- A frame that has come in part has not been announced, or its payload is cut short. -/
theorem next_frame_cut (whole : NextFrame varint (bytes ++ more) frameType length payload)
    (fits : payload.length = length) (missing : more ≠ []) :
    (∀ otherType other rest, ¬NextFrame varint bytes otherType other rest) ∨
      ∃ rest, NextFrame varint bytes frameType length rest ∧ rest.length < length := by
  by_cases present : ∃ otherType other rest, NextFrame varint bytes otherType other rest
  · obtain ⟨otherType, other, rest, next⟩ := present
    obtain ⟨sameType, sameLength, behind⟩ :=
      next_frame_unique (next_frame_append next more) whole
    have positive := List.length_pos_iff.mpr missing
    have total := congrArg List.length behind
    rw [List.length_append] at total
    subst sameType sameLength
    exact .inr ⟨rest, next, by omega⟩
  · simp only [not_exists] at present
    exact .inl present

theorem headers_cut (mismatch : Error)
    (whole : NextFrame varint (bytes ++ more) 0x1 length payload)
    (fits : payload.length = length) (missing : more ≠ []) (small : length ≤ maxAlloc)
    (seen : view source = ⟨bytes, .hang⟩) :
    (∃ left, (headersLength varint mismatch).run source = (.hang, left)) ∨
      ∃ between left, (headersLength varint mismatch).run source = (.ok length, between) ∧
        (readFull length).run between = (.hang, left) := by
  rcases next_frame_cut whole fits missing with absent | ⟨rest, next, short⟩
  · have nothing : ∀ otherType other rest,
        ¬NextFrame varint (view source).bytes otherType other rest := by
      rw [seen]
      exact absent
    obtain ⟨left, ran, -⟩ := parse_next_frame_none nothing
    rw [seen] at ran
    exact .inl ⟨left, Reading.bind_hang ran⟩
  · have announced : NextFrame varint (view source).bytes 0x1 length rest := by
      rw [seen]
      exact next
    obtain ⟨between, sized, after⟩ := headers_length_small mismatch announced small
    have blocked := Stream.read_full_hang (Nat.not_le.mpr short)
    rw [seen] at after
    rw [← after] at blocked
    obtain ⟨left, filled, -⟩ := (read_full_refines length).apply blocked
    exact .inr ⟨between, left, sized, filled⟩

theorem read_request_cut (whole : NextFrame packages.varint (bytes ++ more) 0x1 length payload)
    (fits : payload.length = length) (missing : more ≠ []) (small : length ≤ maxAlloc)
    (seen : view source = ⟨bytes, .hang⟩) : ((readRequest packages).run source).1 = .hang := by
  have block : ∃ left, (requestBlock packages).run source = (.hang, left) := by
    rcases headers_cut (.text "request stream got not HeadersFrame") whole fits missing small seen
      with ⟨left, blocked⟩ | ⟨between, left, sized, blocked⟩
    · exact ⟨left, Reading.bind_hang blocked⟩
    · exact ⟨left, by rw [requestBlock, Reading.bind_ok sized, Reading.bind_hang blocked]⟩
  obtain ⟨left, blocked⟩ := block
  rw [readRequest, Reading.bind_hang blocked]

theorem read_response_cut (whole : NextFrame packages.varint (bytes ++ more) 0x1 length payload)
    (fits : payload.length = length) (missing : more ≠ []) (small : length ≤ maxAlloc)
    (seen : view source = ⟨bytes, .hang⟩) : ((readResponse packages).run source).1 = .hang := by
  rcases headers_cut (.text "server stream got not HeadersFrame") whole fits missing small seen
    with ⟨left, blocked⟩ | ⟨between, left, sized, blocked⟩
  · rw [readResponse, Reading.bind_hang blocked]
  · rw [readResponse, Reading.bind_ok sized, Reading.bind_hang blocked]

theorem read_settings_cut (whole : NextFrame varint (bytes ++ more) 0x4 length payload)
    (fits : payload.length = length) (missing : more ≠ []) (small : length ≤ 8 * 2 ^ 10)
    (seen : view source = ⟨bytes, .hang⟩) : ((readSettings varint).run source).1 = .hang := by
  have parsed : ∃ left, (parseNextFrame varint).run source = (.hang, left) := by
    rcases next_frame_cut whole fits missing with absent | ⟨rest, next, short⟩
    · have nothing : ∀ otherType other rest,
          ¬NextFrame varint (view source).bytes otherType other rest := by
        rw [seen]
        exact absent
      obtain ⟨left, ran, -⟩ := parse_next_frame_none nothing
      rw [seen] at ran
      exact ⟨left, ran⟩
    · have announced : NextFrame varint (view source).bytes 0x4 length rest := by
        rw [seen]
        exact next
      obtain ⟨left, ran, -⟩ := parse_next_frame_some announced
      have body : (parseBody varint streamDevice 0x4 length).run ⟨rest, (view source).ending⟩ =
          (.hang, ⟨[], .hang⟩) := by
        have blocked := Stream.read_full_hang (Nat.not_le.mpr short)
        have frame : (parseSettingsFrame varint streamDevice length).run ⟨rest, .hang⟩ =
            (.hang, ⟨[], .hang⟩) := by
          rw [parseSettingsFrame, if_neg (Nat.not_lt.mpr small), stream_device_read_full,
            Reading.bind_hang blocked]
        rw [parseBody, if_neg (by decide), if_neg (by decide), seen, Reading.bind_hang frame]
      rw [body] at ran
      exact ⟨left, ran⟩
  obtain ⟨left, ran⟩ := parsed
  rw [readSettings, Reading.bind_hang ran]

end Cut

end WebTransportGos
