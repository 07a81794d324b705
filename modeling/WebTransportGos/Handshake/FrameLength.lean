import WebTransportGos.Handshake.HandleSession
import WebTransportGos.Handshake.Connect

/-!
The announced length of a HEADERS frame, on both sides of the handshake. It goes straight
into an allocation, where the SETTINGS path of the same parser checks a bound first.
-/

namespace WebTransportGos

open GoReader H3

set_option autoImplicit false

variable (packages : Packages)

namespace Server

/-- The session does not panic, and returns once its request stream has ended. -/
structure HeadersEnd (server : WebTransportServer) (incoming : Incoming) : Prop where
  noPanic : ∀ reason, (handleSession packages server incoming).outcome ≠ .panic reason
  returns : ∀ settingsStream requestStream source,
    incoming.requestStream = some (settingsStream, requestStream, source) →
    (view source).ending ≠ .hang → (handleSession packages server incoming).outcome = .ok ()

/-- A HEADERS frame that comes next on the request stream announces at most `maxAlloc`. -/
def LengthFits (incoming : Incoming) : Prop :=
  ∀ settingsStream requestStream source length rest,
    incoming.requestStream = some (settingsStream, requestStream, source) →
    NextFrame packages.varint (view source).bytes 0x1 length rest → length ≤ maxAlloc

section

variable {packages} {source : Source}

theorem read_request_fitting
    (fits : ∀ length rest, NextFrame packages.varint (view source).bytes 0x1 length rest →
      length ≤ maxAlloc) :
    (∃ accepted, ((readRequest packages).run source).1 = .ok accepted) ∨
    (∃ err, ((readRequest packages).run source).1 = .fail err) ∨
    ((view source).ending = .hang ∧ ((readRequest packages).run source).1 = .hang) := by
  have decided (block : List UInt8) : (∃ accepted, decodeRequest packages block = .ok accepted) ∨
      ∃ err, decodeRequest packages block = .fail err := by
    rcases decode_request_cases packages block with ⟨req, accepted, -⟩ | ⟨failed, -⟩
    · exact .inl ⟨_, accepted⟩
    · exact .inr failed
  by_cases present : ∃ length rest,
      NextFrame packages.varint (view source).bytes 0x1 length rest
  · obtain ⟨length, rest, next⟩ := present
    have small := fits length rest next
    by_cases complete : length ≤ rest.length
    · rw [read_request_complete next small complete]
      exact (decided _).imp id .inl
    · have short := Nat.not_le.mp complete
      cases ended : (view source).ending with
      | hang => exact .inr (.inr ⟨rfl, read_request_waits next small short ended⟩)
      | fail err =>
          rw [read_request_short next small short ended]
          exact (decided _).imp id .inl
  · simp only [not_exists] at present
    exact .inr (read_request_absent present)

end

theorem headers_end_iff (server : WebTransportServer) (incoming : Incoming) :
    HeadersEnd packages server incoming ↔ LengthFits packages incoming := by
  constructor
  · intro ends settingsStream requestStream source length rest reached next
    by_contra large
    apply ends.noPanic outOfRange
    rw [handle_session_reached packages server reached,
      read_request_large next (Nat.not_le.mp large)]
    rfl
  · intro fits
    cases reached : incoming.requestStream with
    | none =>
        obtain ⟨control, silent⟩ := handle_session_unreached packages server reached
        refine ⟨fun reason => ?_, fun _ _ _ other => ?_⟩
        · rw [silent]
          nofun
        · cases reached.symm.trans other
    | some streams =>
        obtain ⟨settingsStream, requestStream, source⟩ := streams
        have session := handle_session_reached packages server reached
        have outcomes := read_request_fitting fun length rest =>
          fits settingsStream requestStream source length rest reached
        rcases outcomes with ⟨⟨block, req⟩, accepted⟩ | ⟨err, failed⟩ | ⟨waits, blocked⟩
        · rw [accepted] at session
          have returned : (handleSession packages server incoming).outcome = .ok () := by
            rw [session]
            exact (respond_ok packages server incoming _ settingsStream requestStream block req).2.2
          exact ⟨fun reason => by simp [returned], fun _ _ _ _ _ => returned⟩
        · rw [failed] at session
          have returned : (handleSession packages server incoming).outcome = .ok () := by
            rw [session]
            rfl
          exact ⟨fun reason => by simp [returned], fun _ _ _ _ _ => returned⟩
        · rw [blocked] at session
          refine ⟨fun reason => ?_, fun _ _ other otherReached ended => ?_⟩
          · rw [session]
            nofun
          · cases reached.symm.trans otherReached
            exact absurd waits ended

end Server

namespace Client

def ReachesResponse (client : WebTransportClient) (peer : Peer) (response : Source) : Prop :=
  ∃ session settingsStream data control, FirstRead peer session settingsStream data control ∧
    data ≠ [] ∧ Requested packages client peer (view control).bytes response

structure HeadersEnd (client : WebTransportClient) (peer : Peer) : Prop where
  noPanic : ∀ reason, (connect packages client peer).1 ≠ .panic reason
  returns : ∀ response, ReachesResponse packages client peer response →
    (view response).ending ≠ .hang → ∃ err, (connect packages client peer).1 = .ok err

def LengthFits (client : WebTransportClient) (peer : Peer) : Prop :=
  ∀ response length rest, ReachesResponse packages client peer response →
    NextFrame packages.varint (view response).bytes 0x1 length rest → length ≤ maxAlloc

section

variable {packages} {client : WebTransportClient} {peer : Peer} {source response : Source}
  {rest : List UInt8} {length : Nat}

theorem read_response_large
    (next : NextFrame packages.varint (view source).bytes 0x1 length rest)
    (large : maxAlloc < length) : ((readResponse packages).run source).1 = .panic outOfRange := by
  obtain ⟨left, panicked⟩ := headers_length_large
    (.text "server stream got not HeadersFrame") next large
  rw [readResponse, Reading.bind_panic panicked]

theorem decode_response_cases (block : List UInt8) :
    (∃ answer, decodeResponse packages block = .ok answer) ∨
      ∃ err, decodeResponse packages block = .fail err := by
  unfold decodeResponse
  cases packages.qpack.decodeFull block with
  | error err => exact .inr ⟨err, rfl⟩
  | ok fields =>
      dsimp only
      cases responseFromHeaders fields with
      | error err => exact .inr ⟨err, rfl⟩
      | ok answer => exact .inl ⟨answer, rfl⟩

theorem read_response_fitting
    (fits : ∀ length rest, NextFrame packages.varint (view source).bytes 0x1 length rest →
      length ≤ maxAlloc) :
    (∃ answer, ((readResponse packages).run source).1 = .ok answer) ∨
    (∃ err, ((readResponse packages).run source).1 = .fail err) ∨
    ((view source).ending = .hang ∧ ((readResponse packages).run source).1 = .hang) := by
  by_cases present : ∃ length rest,
      NextFrame packages.varint (view source).bytes 0x1 length rest
  · obtain ⟨length, rest, next⟩ := present
    obtain ⟨left, sized, seen⟩ := headers_length_small
      (.text "server stream got not HeadersFrame") next (fits length rest next)
    by_cases complete : length ≤ rest.length
    · have full := @Stream.read_full_enough _ _ (view source).ending complete
      rw [← seen] at full
      obtain ⟨after, filled, -⟩ := (read_full_refines length).apply full
      rw [readResponse, Reading.bind_ok sized, Reading.bind_ok filled]
      exact (decode_response_cases _).imp id .inl
    · cases ended : (view source).ending with
      | hang =>
          have blocked := Stream.read_full_hang complete
          rw [← ended, ← seen] at blocked
          obtain ⟨after, waited, -⟩ := (read_full_refines length).apply blocked
          rw [readResponse, Reading.bind_ok sized, Reading.bind_hang waited]
          exact .inr (.inr ⟨rfl, rfl⟩)
      | fail err =>
          have partly := @Stream.read_full_fail _ _ err complete
          rw [← ended, ← seen] at partly
          obtain ⟨after, filled, -⟩ := (read_full_refines length).apply partly
          rw [readResponse, Reading.bind_ok sized, Reading.bind_ok filled]
          exact .inr (.inl ⟨_, rfl⟩)
  · simp only [not_exists] at present
    rcases headers_length_absent (.text "server stream got not HeadersFrame") present with
      ⟨err, left, failed⟩ | ⟨waits, left, blocked⟩
    · rw [readResponse, Reading.bind_fail failed]
      exact .inr (.inl ⟨err, rfl⟩)
    · rw [readResponse, Reading.bind_hang blocked]
      exact .inr (.inr ⟨waits, rfl⟩)

theorem connect_reaches (reaches : ReachesResponse packages client peer response) :
    ∃ connecting, connect packages client peer =
      finish connecting ((readResponse packages).run response).1 := by
  obtain ⟨session, settingsStream, data, control, first, present, requested⟩ := reaches
  obtain ⟨requestStream, bytes, -, ran⟩ := @negotiate_requested packages peer
    ⟨{ client with session := some session }, none, none⟩ settingsStream control response requested
  exact ⟨_, by rw [connect_first_read packages client first, if_neg present, ran]⟩

theorem connect_unreached_no_panic
    (unreached : ∀ response, ¬ReachesResponse packages client peer response) (reason : String) :
    (connect packages client peer).1 ≠ .panic reason := by
  by_cases present : ∃ session settingsStream data control,
      FirstRead peer session settingsStream data control
  · obtain ⟨session, settingsStream, data, control, first⟩ := present
    rw [connect_first_read packages client first]
    by_cases empty : data = []
    · rw [if_pos empty]
      nofun
    · rw [if_neg empty]
      rcases @negotiate_unrequested packages peer
        ⟨{ client with session := some session }, none, none⟩ settingsStream control
        (fun response requested => unreached response
          ⟨session, settingsStream, data, control, first, empty, requested⟩)
        with ⟨err, failed⟩ | blocked
      · rw [failed]
        nofun
      · rw [blocked]
        nofun
  · simp only [not_exists] at present
    rcases connect_no_first_read packages client present with ⟨err, failed⟩ | blocked
    · rw [failed]
      nofun
    · rw [blocked]
      nofun

end

theorem headers_end_iff (client : WebTransportClient) (peer : Peer) :
    HeadersEnd packages client peer ↔ LengthFits packages client peer := by
  constructor
  · intro ends response length rest reaches next
    by_contra large
    obtain ⟨connecting, ran⟩ := connect_reaches reaches
    apply ends.noPanic outOfRange
    rw [ran, read_response_large next (Nat.not_le.mp large)]
    rfl
  · intro fits
    refine ⟨fun reason => ?_, fun response reaches ended => ?_⟩
    · by_cases reached : ∃ response, ReachesResponse packages client peer response
      · obtain ⟨response, reaches⟩ := reached
        obtain ⟨connecting, ran⟩ := connect_reaches reaches
        rw [ran, Ne, finish_panic]
        rcases read_response_fitting fun length rest => fits response length rest reaches with
          ⟨answer, read⟩ | ⟨err, failed⟩ | ⟨-, blocked⟩
        · rw [read]
          nofun
        · rw [failed]
          nofun
        · rw [blocked]
          nofun
      · exact connect_unreached_no_panic (not_exists.mp reached) reason
    · obtain ⟨connecting, ran⟩ := connect_reaches reaches
      rw [ran]
      rcases read_response_fitting fun length rest => fits response length rest reaches with
        ⟨answer, read⟩ | ⟨err, failed⟩ | ⟨waits, -⟩
      · rw [read]
        simp only [finish]
        split
        · exact ⟨_, rfl⟩
        · exact ⟨_, rfl⟩
      · rw [failed]
        exact ⟨some err, rfl⟩
      · exact absurd waits ended

end Client

/-- Neither side panics on the HEADERS frame it waits for, exactly if what that frame
announces can be allocated. -/
theorem headers_end_iff_length_fits :
    (∀ server incoming, Server.HeadersEnd packages server incoming ↔
      Server.LengthFits packages incoming) ∧
    ∀ client peer, Client.HeadersEnd packages client peer ↔
      Client.LengthFits packages client peer :=
  ⟨Server.headers_end_iff packages, Client.headers_end_iff packages⟩

def hugeRequest : Server.Incoming where
  session := 1
  remoteAddr := []
  walks := .same
  openUniStream := .ok 3
  acceptUniStream := .ok 2
  acceptStream := .ok (0, [⟨headersFrameWrite .reference (2 ^ 62 - 1), none⟩, ⟨[], some .eof⟩])

theorem huge_request_panics :
    ¬ ∀ server incoming, Server.HeadersEnd .reference server incoming := by
  intro ends
  have next : NextFrame .reference (headersFrameWrite .reference (2 ^ 62 - 1) ++ []) 0x1
      (2 ^ 62 - 1) [] := next_frame_headers (by decide) []
  apply (ends ⟨[]⟩ hugeRequest).noPanic outOfRange
  rw [Server.handle_session_reached _ _ rfl, Server.read_request_large next (by decide)]
  rfl

end WebTransportGos
