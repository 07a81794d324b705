import WebTransportGos.Session.StreamHandlers
import Mathlib.Data.List.Nodup

/-!
One direction of a session: the streams that come in at one end and the handlers that
read their headers. `Routed` ties the two together, stream by stream, and every event of
the direction keeps it.
-/

namespace WebTransportGos

open GoReader VarintFormat

set_option autoImplicit false

section Header

variable {varint : Quicvarint} {bytes rest got : List UInt8} {byte : UInt8}
  {streamType sessionId : Nat}

/-- What a header consists of is decided by its own bytes, whatever is behind them. -/
theorem split_header_some
    (split : splitHeader varint bytes = some (streamType, sessionId, rest)) :
    ∃ header, bytes = header ++ rest ∧
      ∀ suffix, splitHeader varint (header ++ suffix) = some (streamType, sessionId, suffix) := by
  unfold splitHeader at split
  cases typed : varint.decode bytes with
  | none => simp [typed] at split
  | some first =>
      obtain ⟨announced, afterType⟩ := first
      simp only [typed] at split
      cases identified : varint.decode afterType with
      | none => simp [identified] at split
      | some second =>
          obtain ⟨id, behind⟩ := second
          simp only [identified, Option.some.injEq, Prod.mk.injEq] at split
          obtain ⟨rfl, rfl, rfl⟩ := split
          obtain ⟨first, tail, rfl, width, rfl⟩ := Format.decode_some typed
          obtain ⟨second, others, rfl, otherWidth, rfl⟩ := Format.decode_some identified
          refine ⟨first :: tail ++ second :: others, by simp, fun suffix => ?_⟩
          have typedAgain := Format.decode_of_width width (second :: others ++ suffix)
          have identifiedAgain := Format.decode_of_width otherWidth suffix
          rw [List.append_assoc]
          simp only [splitHeader, Quicvarint.decode, typedAgain, identifiedAgain]

theorem split_header_append (suffix : List UInt8)
    (split : splitHeader varint bytes = some (streamType, sessionId, rest)) :
    splitHeader varint (bytes ++ suffix) = some (streamType, sessionId, rest ++ suffix) := by
  obtain ⟨header, rfl, again⟩ := split_header_some split
  rw [List.append_assoc]
  exact again (rest ++ suffix)

/-- The byte that completes a header is its last one: nothing behind it has been read. -/
theorem split_header_last (incomplete : splitHeader varint got = none)
    (split : splitHeader varint (got ++ [byte]) = some (streamType, sessionId, rest)) :
    rest = [] := by
  obtain ⟨header, whole, again⟩ := split_header_some split
  rcases List.eq_nil_or_concat rest with empty | ⟨before, last, rfl⟩
  · exact empty
  · rw [List.concat_eq_append, ← List.append_assoc] at whole
    rw [(List.append_inj' whole rfl).1, again before] at incomplete
    cases incomplete

theorem split_stream_header (kind : StreamKind) (small : sessionId < 2 ^ 62)
    (payload : List UInt8) :
    splitHeader varint (streamHeader varint kind sessionId ++ payload) =
      some (kind.streamType, sessionId, payload) := by
  have typeSmall : kind.streamType < 2 ^ 62 := by cases kind <;> decide
  rw [streamHeader, List.append_assoc]
  simp only [splitHeader, varint.decode_write typeSmall, varint.decode_write small]

end Header

def Productive (source : Source) : Prop :=
  ∀ result ∈ source, result.err = none → result.data ≠ []

theorem productive_cons {result : ReadResult} {source : Source} :
    Productive (result :: source) ↔
      (result.err = none → result.data ≠ []) ∧ Productive source :=
  List.forall_mem_cons

theorem read_one_productive {source rest : Source} {result : ReadResult}
    (productive : Productive source) (returned : read 1 source = some (result, rest)) :
    Productive rest ∧ (result.err = none → ∃ byte, result.data = [byte]) := by
  cases read_step returned with
  | @part data err tail long =>
      rw [productive_cons] at productive ⊢
      constructor
      · refine ⟨fun _ empty => ?_, productive.2⟩
        have short := List.drop_eq_nil_iff.mp empty
        exact absurd long (Nat.not_lt.mpr short)
      · intro _
        cases data with
        | nil => cases long
        | cons byte others => exact ⟨byte, rfl⟩
  | whole fits =>
      rw [productive_cons] at productive
      refine ⟨productive.2, fun _ => List.length_eq_one_iff.mp ?_⟩
      have positive := List.length_pos_of_ne_nil (productive.1 rfl)
      exact Nat.le_antisymm fits positive
  | last fits =>
      rw [productive_cons] at productive ⊢
      constructor
      · exact ⟨nofun, productive.2⟩
      · intro unfailed
        cases unfailed

/-- The bytes that one-byte reads return with a nil error. A last byte that comes together
with the error is not among them. -/
def cleanBytes : Source → List UInt8
  | [] => []
  | ⟨data, none⟩ :: rest => data ++ cleanBytes rest
  | ⟨data, some _⟩ :: _ => data.dropLast

theorem clean_bytes_read {source rest : Source} {result : ReadResult}
    (returned : read 1 source = some (result, rest)) (unfailed : result.err = none) :
    cleanBytes source = result.data ++ cleanBytes rest := by
  cases read_step returned with
  | @part data err tail long =>
      rcases data with _ | ⟨first, _ | ⟨second, others⟩⟩
      · cases long
      · exact absurd long (Nat.lt_irrefl 1)
      · cases err <;> rfl
  | whole fits => rfl
  | last fits => cases unfailed

namespace Pool

variable {pool : Pool} {stream other : StreamId}

theorem find_some {handler : Handler} (found : pool.find stream = some handler) :
    handler ∈ pool.handlers ∧ handler.stream = stream :=
  ⟨List.mem_of_find?_eq_some found, by simpa using List.find?_some found⟩

theorem find_none_of_not_accepted (fresh : pool.accepted stream = false) :
    pool.find stream = none := by
  simpa [find, accepted] using fresh

theorem find_map (change : Handler → Handler)
    (kept : ∀ handler, (change handler).stream = handler.stream) :
    ({ pool with handlers := pool.handlers.map change } : Pool).find stream =
      (pool.find stream).map change := by
  have same : (fun handler : Handler => handler.stream == stream) ∘ change =
      fun handler => handler.stream == stream := by
    funext handler
    simp [kept]
  simp only [find, List.find?_map, same]

theorem find_set_phase (phase : Phase) :
    (pool.setPhase stream phase).find other =
      if other = stream then (pool.find other).map fun handler => { handler with phase := phase }
      else pool.find other := by
  rw [setPhase, find_map _ fun handler => by split <;> rfl]
  cases found : pool.find other with
  | none => simp
  | some handler =>
      obtain ⟨-, rfl⟩ := find_some found
      rw [Option.map_some]
      split <;> rfl

theorem find_accept (kind : StreamKind) :
    (pool.accept kind stream).find other =
      (pool.find other).or
        (if stream = other then some ⟨stream, kind, .reading [], false⟩ else none) := by
  simp only [find, accept, List.find?_append, List.find?_singleton]
  by_cases same : stream = other <;> simp [same]

theorem find_timer :
    (pool.timer stream).find other =
      (pool.find other).map fun handler =>
        if handler.stream = stream then { handler with timedOut := true } else handler := by
  rw [timer, find_map _ fun handler => by split <;> rfl]

end Pool

/-- A stream that comes in: what there was to read on it and what is left. `payload` is what
the other application wrote behind the header of `CreateStream` or `CreateUniStream`; a
stream that was opened in another way has none. -/
structure Inbound where
  stream : StreamId
  kind : StreamKind
  payload : Option (List UInt8)
  original : Source
  unread : Source

structure Link where
  pool : Pool
  inbound : List Inbound

def setUnread (stream : StreamId) (rest : Source) (inbound : List Inbound) : List Inbound :=
  inbound.map fun entry => if entry.stream = stream then { entry with unread := rest } else entry

section Link

variable (varint : Quicvarint)

/-- Nothing has been read of a stream that has just arrived. One that was opened through the
API begins with the header of its kind, goes on with its payload, and is not finished. -/
structure Arrived (entry : Inbound) : Prop where
  unread : entry.unread = entry.original
  productive : Productive entry.original
  opened : ∀ payload, entry.payload = some payload → ∃ sessionId, sessionId < 2 ^ 62 ∧
    view entry.original = ⟨streamHeader varint entry.kind sessionId ++ payload, .hang⟩

def openFields : StreamKind → Option StreamKind := some

inductive Link.Action where
  | arrival
  | progress
  | idle
  deriving DecidableEq, Repr

/-- What can happen to one direction while the receiving end is open. -/
inductive Link.Step (link : Link) : Link.Action → Link → Prop where
  | arrives {entry : Inbound} (fresh : entry.stream ∉ link.inbound.map Inbound.stream)
      (arrived : Arrived varint entry) :
      Link.Step link .arrival { link with inbound := link.inbound ++ [entry] }
  | accepts {entry : Inbound} {pool : Pool} (member : entry ∈ link.inbound)
      (taken : link.pool.step varint openFields (.accept entry.kind entry.stream) = some pool) :
      Link.Step link .progress { link with pool := pool }
  | feeds {entry : Inbound} {result : ReadResult} {rest : Source} {pool : Pool}
      (member : entry ∈ link.inbound)
      (returned : GoReader.read 1 entry.unread = some (result, rest))
      (taken : link.pool.step varint openFields (.header entry.stream result) = some pool) :
      Link.Step link .progress ⟨pool, setUnread entry.stream rest link.inbound⟩
  | times {stream : StreamId} :
      Link.Step link .idle { link with pool := link.pool.timer stream }
  | receives {stream : StreamId} {pool : Pool} (received : link.pool.receive stream = some pool) :
      Link.Step link .progress { link with pool := pool }
  | awaits {kind : StreamKind} {pool : Pool}
      (awaited : link.pool.await (openFields kind) = some pool) :
      Link.Step link .idle { link with pool := pool }

def Fits (entry : Inbound) : Prop :=
  ∃ sessionId behind, splitHeader varint (cleanBytes entry.original) =
    some (entry.kind.streamType, sessionId, behind)

structure HeaderRead (entry : Inbound) : Prop where
  fits : Fits varint entry
  consumed : ∃ sessionId, splitHeader varint (view entry.original).bytes =
    some (entry.kind.streamType, sessionId, (view entry.unread).bytes)
  ending : (view entry.unread).ending = (view entry.original).ending

def PhaseFits (delivered : List (StreamKind × StreamId)) (entry : Inbound) : Phase → Prop
  | .reading got => splitHeader varint got = none ∧
      view entry.original = ⟨got ++ (view entry.unread).bytes, (view entry.unread).ending⟩ ∧
      cleanBytes entry.original = got ++ cleanBytes entry.unread
  | .sending address => address = entry.kind ∧ HeaderRead varint entry
  | .delivered => (entry.kind, entry.stream) ∈ delivered ∧ HeaderRead varint entry
  | .returned => entry.payload = none
  | .stuck => False
  | .panicked => False

/-- A stream without a handler is untouched, and a handler is as far as the stream. -/
def Status (pool : Pool) (entry : Inbound) : Prop :=
  match pool.find entry.stream with
  | none => entry.unread = entry.original
  | some handler =>
      handler.kind = entry.kind ∧ PhaseFits varint pool.delivered entry handler.phase

structure Routed (link : Link) : Prop where
  distinct : (link.inbound.map Inbound.stream).Nodup
  status : ∀ entry ∈ link.inbound, Status varint link.pool entry
  known : ∀ stream handler, link.pool.find stream = some handler →
    stream ∈ link.inbound.map Inbound.stream
  logged : ∀ kind stream, (kind, stream) ∈ link.pool.delivered →
    ∃ handler, link.pool.find stream = some handler ∧ handler.phase = .delivered ∧
      handler.kind = kind
  once : link.pool.delivered.Nodup
  unclosed : ∀ kind, (link.pool.channels kind).closes = 0
  productive : ∀ entry ∈ link.inbound, Productive entry.unread
  opened : ∀ entry ∈ link.inbound, ∀ payload, entry.payload = some payload →
    ∃ sessionId, sessionId < 2 ^ 62 ∧
      view entry.original = ⟨streamHeader varint entry.kind sessionId ++ payload, .hang⟩

end Link

section Preservation

variable {varint : Quicvarint} {link next : Link} {entry other : Inbound} {handler : Handler}
  {phase : Phase} {rest : Source} {pool : Pool}

theorem set_unread_streams (stream : StreamId) (rest : Source) (inbound : List Inbound) :
    (setUnread stream rest inbound).map Inbound.stream = inbound.map Inbound.stream := by
  rw [setUnread, List.map_map]
  apply List.map_congr_left
  intro entry _
  simp only [Function.comp_apply]
  split <;> rfl

theorem Routed.same_entry (routed : Routed varint link) (member : entry ∈ link.inbound)
    (otherMember : other ∈ link.inbound) (same : other.stream = entry.stream) : other = entry :=
  List.inj_on_of_nodup_map routed.distinct otherMember member same

theorem Routed.set_unread_self (routed : Routed varint link) (member : entry ∈ link.inbound) :
    setUnread entry.stream entry.unread link.inbound = link.inbound := by
  rw [setUnread]
  conv_rhs => rw [← List.map_id link.inbound]
  apply List.map_congr_left
  intro other otherMember
  split
  next same => rw [routed.same_entry member otherMember same, id]
  next => rfl

theorem Routed.status_found (routed : Routed varint link) (member : entry ∈ link.inbound)
    (found : link.pool.find entry.stream = some handler) :
    handler.kind = entry.kind ∧ PhaseFits varint link.pool.delivered entry handler.phase := by
  have status := routed.status entry member
  simp only [Status, found] at status
  exact status

theorem phase_fits_mono {delivered : List (StreamKind × StreamId)}
    (more : List (StreamKind × StreamId)) (fits : PhaseFits varint delivered entry phase) :
    PhaseFits varint (delivered ++ more) entry phase := by
  cases phase with
  | delivered => exact ⟨List.mem_append_left _ fits.1, fits.2⟩
  | _ => exact fits

theorem routed_empty : Routed varint ⟨.empty, []⟩ where
  distinct := List.nodup_nil
  status := nofun
  known := nofun
  logged := nofun
  once := List.nodup_nil
  unclosed _ := rfl
  productive := nofun
  opened := nofun

theorem Routed.not_delivered (routed : Routed varint link) {stream : StreamId}
    (found : link.pool.find stream = some handler) (pending : handler.phase ≠ .delivered)
    (kind : StreamKind) : (kind, stream) ∉ link.pool.delivered := by
  intro entered
  obtain ⟨other, present, delivered, -⟩ := routed.logged kind stream entered
  cases found.symm.trans present
  exact pending delivered

/-- One handler goes on: its stream has been read up to `rest`, everything else is as it
was. The log grows exactly when the handler gets its stream delivered. -/
theorem routed_advance (routed : Routed varint link) (member : entry ∈ link.inbound)
    (found : link.pool.find entry.stream = some handler) (pending : handler.phase ≠ .delivered)
    (finds : ∀ stream, pool.find stream =
      if stream = entry.stream then some { handler with phase := phase }
      else link.pool.find stream)
    (logs : pool.delivered = link.pool.delivered ++
      if phase = .delivered then [(entry.kind, entry.stream)] else [])
    (unclosed : ∀ kind, (pool.channels kind).closes = 0)
    (fits : PhaseFits varint pool.delivered { entry with unread := rest } phase)
    (productive : Productive rest) :
    Routed varint ⟨pool, setUnread entry.stream rest link.inbound⟩ where
  distinct := by
    rw [set_unread_streams]
    exact routed.distinct
  status changed changedMember := by
    obtain ⟨before, beforeMember, rfl⟩ := List.mem_map.mp changedMember
    split
    next same =>
      rw [routed.same_entry member beforeMember same] at *
      simp only [Status, finds, if_pos]
      exact ⟨(routed.status_found member found).1, fits⟩
    next different =>
      have status := routed.status before beforeMember
      simp only [Status, finds, if_neg different] at status ⊢
      cases unchanged : link.pool.find before.stream with
      | none =>
          rw [unchanged] at status
          exact status
      | some other =>
          rw [unchanged] at status
          rw [logs]
          exact ⟨status.1, phase_fits_mono _ status.2⟩
  known stream other present := by
    rw [set_unread_streams]
    rw [finds] at present
    split at present
    next same => exact same ▸ List.mem_map_of_mem member
    next => exact routed.known stream other present
  logged kind stream entered := by
    rw [logs] at entered
    cases List.mem_append.mp entered with
    | inl earlier =>
        obtain ⟨other, present, delivered, sameKind⟩ := routed.logged kind stream earlier
        have different : stream ≠ entry.stream := by
          rintro rfl
          exact routed.not_delivered found pending kind earlier
        exact ⟨other, by rw [finds, if_neg different, present], delivered, sameKind⟩
    | inr now =>
        split at now
        next delivered =>
          cases List.mem_singleton.mp now
          exact ⟨{ handler with phase := phase }, by rw [finds, if_pos rfl], delivered,
            (routed.status_found member found).1⟩
        next => cases now
  once := by
    rw [logs]
    split
    next delivered =>
      refine List.Nodup.append routed.once (List.nodup_singleton _) ?_
      rw [List.disjoint_singleton]
      exact routed.not_delivered found pending entry.kind
    next => simpa using routed.once
  unclosed := unclosed
  productive changed changedMember := by
    obtain ⟨before, beforeMember, rfl⟩ := List.mem_map.mp changedMember
    split
    · exact productive
    · exact routed.productive before beforeMember
  opened changed changedMember payload written := by
    obtain ⟨before, beforeMember, rfl⟩ := List.mem_map.mp changedMember
    have origin := routed.opened before beforeMember payload
    by_cases same : before.stream = entry.stream
    · rw [if_pos same] at written ⊢
      exact origin written
    · rw [if_neg same] at written ⊢
      exact origin written

theorem find_advanced (found : link.pool.find entry.stream = some handler) (stream : StreamId) :
    (link.pool.setPhase entry.stream phase).find stream =
      if stream = entry.stream then some { handler with phase := phase }
      else link.pool.find stream := by
  rw [Pool.find_set_phase]
  split
  next same => rw [same, found, Option.map_some]
  next => rfl

theorem routed_set_phase (routed : Routed varint link) (member : entry ∈ link.inbound)
    (found : link.pool.find entry.stream = some handler) (pending : handler.phase ≠ .delivered)
    (undelivered : phase ≠ .delivered)
    (fits : PhaseFits varint link.pool.delivered { entry with unread := rest } phase)
    (productive : Productive rest) :
    Routed varint ⟨link.pool.setPhase entry.stream phase,
      setUnread entry.stream rest link.inbound⟩ := by
  apply routed_advance routed member found pending (find_advanced found) _ routed.unclosed fits
    productive
  rw [if_neg undelivered, List.append_nil]
  rfl

theorem routed_deliver (routed : Routed varint link) (member : entry ∈ link.inbound)
    (found : link.pool.find entry.stream = some handler) (pending : handler.phase ≠ .delivered)
    (read : HeaderRead varint { entry with unread := rest }) (productive : Productive rest)
    (channels : StreamKind → Channel) (unclosed : ∀ kind, (channels kind).closes = 0) :
    Routed varint ⟨{ link.pool.deliver entry.kind entry.stream with channels := channels },
      setUnread entry.stream rest link.inbound⟩ := by
  have logged : (entry.kind, entry.stream) ∈
      link.pool.delivered ++ [(entry.kind, entry.stream)] :=
    List.mem_append_right _ (List.mem_singleton.mpr rfl)
  exact routed_advance routed member found pending (find_advanced found) (by simp [Pool.deliver])
    unclosed ⟨logged, read⟩ productive

theorem routed_send (routed : Routed varint link) (member : entry ∈ link.inbound)
    (found : link.pool.find entry.stream = some handler) (pending : handler.phase ≠ .delivered)
    (read : HeaderRead varint { entry with unread := rest }) (productive : Productive rest) :
    Routed varint ⟨link.pool.send (some entry.kind) entry.stream,
      setUnread entry.stream rest link.inbound⟩ := by
  have unclosed := routed.unclosed entry.kind
  simp only [Pool.send, unclosed, Nat.lt_irrefl, if_false]
  split
  · apply routed_deliver routed member found pending read productive
    intro kind
    exact (Pool.closes_set_channel _ kind unclosed.symm).trans (routed.unclosed kind)
  · exact routed_set_phase routed member found pending (by simp) ⟨rfl, read⟩ productive

/-- A header that has just been completed is the stream's own: its type and session id are
those the stream begins with, and the rest is what has not been read. -/
theorem header_of_completed {got : List UInt8} {byte : UInt8} {streamType sessionId : Nat}
    {behind : List UInt8} (incomplete : splitHeader varint got = none)
    (origin : view entry.original = ⟨got ++ byte :: (view rest).bytes, (view rest).ending⟩)
    (split : splitHeader varint (got ++ [byte]) = some (streamType, sessionId, behind)) :
    splitHeader varint (view entry.original).bytes =
      some (streamType, sessionId, (view rest).bytes) := by
  have nothing := split_header_last incomplete split
  have whole := split_header_append (view rest).bytes split
  rw [nothing, List.nil_append, List.append_assoc] at whole
  rw [origin]
  exact whole

theorem Routed.type_of_payload (routed : Routed varint link) (member : entry ∈ link.inbound)
    {payload behind : List UInt8} {streamType sessionId : Nat}
    (written : entry.payload = some payload)
    (split : splitHeader varint (view entry.original).bytes =
      some (streamType, sessionId, behind)) :
    streamType = entry.kind.streamType ∧ behind = payload := by
  obtain ⟨own, small, origin⟩ := routed.opened entry member payload written
  rw [origin, split_stream_header entry.kind small] at split
  cases split
  exact ⟨rfl, rfl⟩

theorem Routed.no_payload_of_type (routed : Routed varint link) (member : entry ∈ link.inbound)
    {behind : List UInt8} {streamType sessionId : Nat}
    (mismatch : streamType ≠ entry.kind.streamType)
    (split : splitHeader varint (view entry.original).bytes =
      some (streamType, sessionId, behind)) : entry.payload = none := by
  cases written : entry.payload with
  | none => rfl
  | some payload =>
      exact absurd (routed.type_of_payload member written split).1 mismatch

theorem Routed.no_payload_of_failed (routed : Routed varint link) (member : entry ∈ link.inbound)
    {err : Error} (failed : (view entry.original).ending = .fail err) : entry.payload = none := by
  cases written : entry.payload with
  | none => rfl
  | some payload =>
      obtain ⟨_, -, unfinished⟩ := routed.opened entry member payload written
      rw [unfinished] at failed
      cases failed

theorem header_step_cases {kind : StreamKind} {got : List UInt8} {result : ReadResult}
    (single : result.err = none → ∃ byte, result.data = [byte]) :
    (∃ err, result.err = some err ∧ headerStep varint kind got result = .quit) ∨
    ∃ byte, result.err = none ∧ result.data = [byte] ∧
      ((splitHeader varint (got ++ [byte]) = none ∧
        headerStep varint kind got result = .more (got ++ [byte])) ∨
      ∃ streamType sessionId behind,
        splitHeader varint (got ++ [byte]) = some (streamType, sessionId, behind) ∧
        headerStep varint kind got result =
          if streamType = kind.streamType then .header sessionId else .quit) := by
  cases failed : result.err with
  | some err => exact .inl ⟨err, rfl, by simp [headerStep, byteReaderImplReadByte, failed]⟩
  | none =>
      obtain ⟨byte, data⟩ := single failed
      have read : byteReaderImplReadByte result = .ok byte := by
        simp [byteReaderImplReadByte, failed, data]
      refine .inr ⟨byte, rfl, data, ?_⟩
      simp only [headerStep, read]
      cases split : splitHeader varint (got ++ [byte]) with
      | none => exact .inl ⟨rfl, rfl⟩
      | some header => exact .inr ⟨header.1, header.2.1, header.2.2, rfl, rfl⟩

/-- A handler's read: it goes on, gives up for a stream that is not the API's, or sends. -/
theorem routed_read (routed : Routed varint link) {result : ReadResult} {got : List UInt8}
    (member : entry ∈ link.inbound)
    (returned : GoReader.read 1 entry.unread = some (result, rest))
    (found : link.pool.find entry.stream = some handler) (reading : handler.phase = .reading got)
    (taken : link.pool.readHeader varint openFields entry.stream result = some pool) :
    Routed varint ⟨pool, setUnread entry.stream rest link.inbound⟩ := by
  obtain ⟨kind, fits⟩ := routed.status_found member found
  rw [reading] at fits
  obtain ⟨incomplete, origin, clean⟩ := fits
  have pending : handler.phase ≠ .delivered := by simp [reading]
  obtain ⟨productive, single⟩ := read_one_productive (routed.productive entry member) returned
  obtain ⟨-, seen, failed, -⟩ := read_some returned
  rw [seen] at origin
  simp only [Pool.readHeader, found, reading] at taken
  rcases @header_step_cases varint handler.kind got result single with
    ⟨err, failing, quits⟩ | ⟨byte, unfailed, data, advanced⟩
  · rw [quits] at taken
    cases taken
    have ending : (view entry.original).ending = .fail err := by rw [origin, failed err failing]
    have foreign := routed.no_payload_of_failed member ending
    exact routed_set_phase routed member found pending (by simp) foreign productive
  rcases advanced with ⟨split, reads⟩ | ⟨streamType, sessionId, behind, split, ends⟩
  · rw [reads] at taken
    cases taken
    refine routed_set_phase routed member found pending (by simp) ⟨split, ?_, ?_⟩ productive
    · rw [origin, data]
      simp
    · rw [clean, clean_bytes_read returned unfailed, data]
      simp
  · rw [data] at origin
    have whole := header_of_completed incomplete origin split
    rw [ends] at taken
    by_cases same : streamType = handler.kind.streamType
    · rw [if_pos same] at taken
      cases taken
      rw [openFields, kind]
      apply routed_send routed member found pending _ productive
      refine ⟨⟨sessionId, behind ++ cleanBytes rest, ?_⟩, ⟨sessionId, ?_⟩, ?_⟩
      · have cleanly := split_header_append (cleanBytes rest) split
        rw [List.append_assoc] at cleanly
        rw [clean, clean_bytes_read returned unfailed, data, ← kind, ← same]
        exact cleanly
      · rw [← kind, ← same]
        exact whole
      · rw [origin]
    · rw [if_neg same] at taken
      cases taken
      have foreign := routed.no_payload_of_type member (kind ▸ same) whole
      exact routed_set_phase routed member found pending (by simp) foreign productive

theorem routed_feed (routed : Routed varint link) {result : ReadResult}
    (member : entry ∈ link.inbound) (returned : GoReader.read 1 entry.unread = some (result, rest))
    (taken : link.pool.readHeader varint openFields entry.stream result = some pool) :
    Routed varint ⟨pool, setUnread entry.stream rest link.inbound⟩ := by
  cases found : link.pool.find entry.stream with
  | none => simp [Pool.readHeader, found] at taken
  | some handler =>
      cases reading : handler.phase with
      | reading got => exact routed_read routed member returned found reading taken
      | _ => simp [Pool.readHeader, found, reading] at taken

theorem routed_arrives (routed : Routed varint link)
    (fresh : entry.stream ∉ link.inbound.map Inbound.stream) (arrived : Arrived varint entry) :
    Routed varint { link with inbound := link.inbound ++ [entry] } where
  distinct := by
    rw [List.map_append]
    exact List.Nodup.append routed.distinct (List.nodup_singleton _)
      (List.disjoint_singleton.mpr fresh)
  status other member := by
    cases List.mem_append.mp member with
    | inl earlier => exact routed.status other earlier
    | inr new =>
        cases List.mem_singleton.mp new
        have absent : link.pool.find entry.stream = none := by
          cases found : link.pool.find entry.stream with
          | none => rfl
          | some handler => exact absurd (routed.known _ handler found) fresh
        simp only [Status, absent]
        exact arrived.unread
  known stream handler found := by
    rw [List.map_append]
    exact List.mem_append_left _ (routed.known stream handler found)
  logged := routed.logged
  once := routed.once
  unclosed := routed.unclosed
  productive other member := by
    cases List.mem_append.mp member with
    | inl earlier => exact routed.productive other earlier
    | inr new =>
        cases List.mem_singleton.mp new
        rw [arrived.unread]
        exact arrived.productive
  opened other member := by
    cases List.mem_append.mp member with
    | inl earlier => exact routed.opened other earlier
    | inr new =>
        cases List.mem_singleton.mp new
        exact arrived.opened

theorem routed_same_phases (routed : Routed varint link)
    (finds : ∀ stream, (pool.find stream).map (fun handler => (handler.kind, handler.phase)) =
      (link.pool.find stream).map fun handler => (handler.kind, handler.phase))
    (logs : pool.delivered = link.pool.delivered)
    (unclosed : ∀ kind, (pool.channels kind).closes = 0) :
    Routed varint { link with pool := pool } := by
  have same (stream : StreamId) : pool.find stream = none ∧ link.pool.find stream = none ∨
      ∃ handler before, pool.find stream = some handler ∧
        link.pool.find stream = some before ∧ handler.kind = before.kind ∧
        handler.phase = before.phase := by
    have finds := finds stream
    cases now : pool.find stream <;> cases old : link.pool.find stream <;>
      simp [now, old] at finds ⊢
    exact finds
  refine ⟨routed.distinct, fun entry member => ?_, fun stream handler found => ?_,
    fun kind stream entered => ?_, logs ▸ routed.once, unclosed, routed.productive,
    routed.opened⟩
  · have status := routed.status entry member
    rcases same entry.stream with ⟨now, old⟩ | ⟨handler, before, now, old, kind, phase⟩
    · simp only [Status, now, old] at status ⊢
      exact status
    · simp only [Status, now, old, kind, phase, logs] at status ⊢
      exact status
  · rcases same stream with ⟨now, -⟩ | ⟨_, before, -, old, -, -⟩
    · cases now.symm.trans found
    · exact routed.known stream before old
  · rw [logs] at entered
    obtain ⟨before, found, delivered, kept⟩ := routed.logged kind stream entered
    rcases same stream with ⟨-, old⟩ | ⟨handler, other, now, old, kind, phase⟩
    · cases old.symm.trans found
    · cases old.symm.trans found
      exact ⟨handler, now, phase.trans delivered, kind.trans kept⟩

theorem routed_accepts (routed : Routed varint link) (member : entry ∈ link.inbound)
    (fresh : link.pool.accepted entry.stream = false) :
    Routed varint { link with pool := link.pool.accept entry.kind entry.stream } := by
  have absent := Pool.find_none_of_not_accepted fresh
  have finds (stream : StreamId) : (link.pool.accept entry.kind entry.stream).find stream =
      if stream = entry.stream then some ⟨entry.stream, entry.kind, .reading [], false⟩
      else link.pool.find stream := by
    rw [Pool.find_accept]
    by_cases same : stream = entry.stream
    · subst same
      simp [absent]
    · simp [same, Ne.symm same]
  refine ⟨routed.distinct, fun other otherMember => ?_, fun stream handler found => ?_,
    fun kind stream entered => ?_, routed.once, routed.unclosed, routed.productive, routed.opened⟩
  · have status := routed.status other otherMember
    by_cases same : other.stream = entry.stream
    · rw [routed.same_entry member otherMember same] at status ⊢
      simp only [Status, absent] at status
      simp only [Status, finds, if_pos]
      refine ⟨trivial, rfl, ?_, ?_⟩
      · rw [status]
        rfl
      · rw [status]
        rfl
    · simp only [Status, finds, if_neg same] at status ⊢
      exact status
  · by_cases same : stream = entry.stream
    · rw [same]
      exact List.mem_map_of_mem member
    · rw [finds, if_neg same] at found
      exact routed.known stream handler found
  · obtain ⟨handler, found, delivered, kept⟩ := routed.logged kind stream entered
    have other : stream ≠ entry.stream := by
      rintro rfl
      cases absent.symm.trans found
    exact ⟨handler, by rw [finds, if_neg other, found], delivered, kept⟩

theorem routed_receives (routed : Routed varint link) {stream : StreamId}
    (received : link.pool.receive stream = some pool) :
    Routed varint { link with pool := pool } := by
  obtain ⟨handler, address, found, sending, rfl⟩ := Pool.receive_some received
  obtain ⟨entry, member, rfl⟩ := List.mem_map.mp (routed.known stream handler found)
  obtain ⟨-, fits⟩ := routed.status_found member found
  rw [sending] at fits
  obtain ⟨rfl, read⟩ := fits
  have delivered := @routed_deliver varint link entry handler entry.unread routed member
    found (by simp [sending]) read (routed.productive entry member) link.pool.channels
    routed.unclosed
  rw [routed.set_unread_self member] at delivered
  exact delivered

/-- Whatever happens to the direction, its streams and handlers stay in step. -/
theorem routed_step {action : Link.Action} (routed : Routed varint link)
    (stepped : link.Step varint action next) : Routed varint next := by
  cases stepped with
  | arrives fresh arrived => exact routed_arrives routed fresh arrived
  | @accepts entry pool member taken =>
      simp only [Pool.step] at taken
      split at taken
      · cases taken
      next fresh =>
        cases taken
        exact routed_accepts routed member (by simpa using fresh)
  | feeds member returned taken => exact routed_feed routed member returned taken
  | times =>
      refine routed_same_phases routed (fun other => ?_) rfl routed.unclosed
      rw [Pool.find_timer, Option.map_map]
      congr 1
      funext handler
      simp only [Function.comp_apply]
      split <;> rfl
  | receives received => exact routed_receives routed received
  | @awaits kind pool awaited =>
      have unclosed := routed.unclosed kind
      simp only [Pool.await, openFields, unclosed, Nat.lt_irrefl, if_false] at awaited
      split at awaited <;> cases awaited
      refine routed_same_phases routed (fun _ => rfl) rfl fun other => ?_
      exact (Pool.closes_set_channel _ other unclosed.symm).trans (routed.unclosed other)

end Preservation

end WebTransportGos
