import WebTransportGos.Session.Routing
import Mathlib.Algebra.Order.BigOperators.Group.List

/-!
What the application gets of the streams that come in. A stream opened through the API
goes on until it is delivered, with its payload unread; how far there is to go is
`Link.work`, which every step with a stream makes smaller.
-/

namespace WebTransportGos

open GoReader VarintFormat

set_option autoImplicit false

section Delivery

variable {varint : Quicvarint} {link : Link} {entry : Inbound} {payload : List UInt8}

theorem Routed.of_delivered (routed : Routed varint link) (member : entry ∈ link.inbound)
    {kind : StreamKind} (entered : (kind, entry.stream) ∈ link.pool.delivered) :
    kind = entry.kind ∧ HeaderRead varint entry := by
  obtain ⟨handler, found, delivered, same⟩ := routed.logged kind entry.stream entered
  obtain ⟨own, fits⟩ := routed.status_found member found
  rw [delivered] at fits
  exact ⟨same.symm.trans own, fits.2⟩

/-- What is left to read of an API stream behind its header is the payload, unfinished. -/
theorem Routed.payload_of_header (routed : Routed varint link) (member : entry ∈ link.inbound)
    (written : entry.payload = some payload) (read : HeaderRead varint entry) :
    view entry.unread = ⟨payload, .hang⟩ := by
  obtain ⟨-, ⟨sessionId, split⟩, ending⟩ := read
  obtain ⟨_, -, origin⟩ := routed.opened entry member payload written
  have bytes := (routed.type_of_payload member written split).2
  rw [origin] at ending
  cases left : view entry.unread with
  | mk unread unfinished =>
      rw [left] at bytes ending
      exact congrArg₂ Stream.mk bytes ending

theorem Routed.unread_of_reading (routed : Routed varint link) (member : entry ∈ link.inbound)
    (written : entry.payload = some payload) {handler : Handler} {got : List UInt8}
    (found : link.pool.find entry.stream = some handler) (reading : handler.phase = .reading got) :
    ∃ result rest, GoReader.read 1 entry.unread = some (result, rest) := by
  obtain ⟨-, fits⟩ := routed.status_found member found
  rw [reading] at fits
  obtain ⟨incomplete, origin, -⟩ := fits
  cases returned : GoReader.read 1 entry.unread with
  | some pair => exact ⟨pair.1, pair.2, rfl⟩
  | none =>
      obtain ⟨sessionId, small, opened⟩ := routed.opened entry member payload written
      rw [read_none returned] at origin
      rw [origin] at opened
      have whole : got = streamHeader varint entry.kind sessionId ++ payload := by
        simpa using (Stream.mk.inj opened).1
      rw [whole, split_stream_header entry.kind small] at incomplete
      cases incomplete

/-- As long as an API stream is not delivered its accept loop, its handler or the receiving
application can go on with it. -/
theorem Routed.progress (routed : Routed varint link) (member : entry ∈ link.inbound)
    (written : entry.payload = some payload) :
    link.pool.accepted entry.stream = false ∨
    (∃ result rest pool, GoReader.read 1 entry.unread = some (result, rest) ∧
      link.pool.readHeader varint openFields entry.stream result = some pool) ∨
    (∃ pool, link.pool.receive entry.stream = some pool) ∨
    (entry.kind, entry.stream) ∈ link.pool.delivered := by
  cases accepted : link.pool.accepted entry.stream with
  | false => exact .inl rfl
  | true =>
      right
      cases found : link.pool.find entry.stream with
      | none =>
          obtain ⟨handler, present, same⟩ := List.any_eq_true.mp accepted
          exact absurd same (List.find?_eq_none.mp found handler present)
      | some handler =>
          obtain ⟨-, fits⟩ := routed.status_found member found
          cases phase : handler.phase with
          | reading got =>
              obtain ⟨result, rest, returned⟩ := routed.unread_of_reading member written found phase
              refine .inl ⟨result, rest, ?_⟩
              simp only [Pool.readHeader, found, phase]
              cases headerStep varint handler.kind got result with
              | more got => exact ⟨_, returned, rfl⟩
              | quit => exact ⟨_, returned, rfl⟩
              | header sessionId => exact ⟨_, returned, rfl⟩
          | sending address =>
              refine .inr (.inl ?_)
              simp only [Pool.receive, found, phase]
              exact ⟨_, rfl⟩
          | delivered =>
              rw [phase] at fits
              exact .inr (.inr fits.1)
          | returned =>
              rw [phase] at fits
              cases fits.symm.trans written
          | stuck =>
              rw [phase] at fits
              exact fits.elim
          | panicked =>
              rw [phase] at fits
              exact fits.elim

end Delivery

/-- The steps a handler can still make, at most, and the application with its stream. -/
def phaseWork (unread : Source) : Phase → Nat
  | .reading _ => weight unread + 2
  | .sending _ => 1
  | _ => 0

def entryWork (pool : Pool) (entry : Inbound) : Nat :=
  match pool.find entry.stream with
  | none => weight entry.unread + 3
  | some handler => phaseWork entry.unread handler.phase

def Link.work (link : Link) : Nat := (link.inbound.map (entryWork link.pool)).sum

section Work

variable {varint : Quicvarint} {link next : Link} {entry : Inbound} {handler : Handler}
  {pool : Pool} {rest : Source} {phase : Phase}

/-- One stream has less work left and the others are as they were. -/
theorem work_lt (routed : Routed varint link) (member : entry ∈ link.inbound)
    (finds : ∀ stream, stream ≠ entry.stream → pool.find stream = link.pool.find stream)
    (less : entryWork pool { entry with unread := rest } < entryWork link.pool entry) :
    Link.work ⟨pool, setUnread entry.stream rest link.inbound⟩ < link.work := by
  unfold Link.work setUnread
  rw [List.map_map]
  have changed : (entryWork pool ∘ fun other =>
      if other.stream = entry.stream then { other with unread := rest } else other) entry <
        entryWork link.pool entry := by
    simpa using less
  have unchanged (other : Inbound) (otherMember : other ∈ link.inbound)
      (different : other ≠ entry) :
      (entryWork pool ∘ fun other =>
        if other.stream = entry.stream then { other with unread := rest } else other) other =
          entryWork link.pool other := by
    have streams : other.stream ≠ entry.stream :=
      fun same => different (routed.same_entry member otherMember same)
    simp only [Function.comp_apply, if_neg streams, entryWork, finds other.stream streams]
  apply List.sum_lt_sum
  · intro other otherMember
    by_cases same : other = entry
    · rw [same]
      exact Nat.le_of_lt changed
    · exact Nat.le_of_eq (unchanged other otherMember same)
  · exact ⟨entry, member, changed⟩

theorem work_advance (routed : Routed varint link) (member : entry ∈ link.inbound)
    (finds : ∀ stream, pool.find stream =
      if stream = entry.stream then some { handler with phase := phase }
      else link.pool.find stream)
    (less : phaseWork rest phase < entryWork link.pool entry) :
    Link.work ⟨pool, setUnread entry.stream rest link.inbound⟩ < link.work := by
  apply work_lt routed member
  · intro stream other
    rw [finds, if_neg other]
  · rw [entryWork, finds, if_pos rfl]
    exact less

theorem work_accepts (routed : Routed varint link) (member : entry ∈ link.inbound)
    (fresh : link.pool.accepted entry.stream = false) :
    Link.work { link with pool := link.pool.accept entry.kind entry.stream } < link.work := by
  have absent := Pool.find_none_of_not_accepted fresh
  have less := @work_lt varint link entry (link.pool.accept entry.kind entry.stream) entry.unread
    routed member
  rw [routed.set_unread_self member] at less
  apply less
  · intro stream other
    rw [Pool.find_accept, if_neg (Ne.symm other), Option.or_none]
  · simp [entryWork, phaseWork, Pool.find_accept, absent]

theorem find_send (found : link.pool.find entry.stream = some handler)
    (unclosed : (link.pool.channels entry.kind).closes = 0) :
    ∃ phase, (phase = .delivered ∨ phase = .sending entry.kind) ∧
      ∀ stream, (link.pool.send (some entry.kind) entry.stream).find stream =
        if stream = entry.stream then some { handler with phase := phase }
        else link.pool.find stream := by
  simp only [Pool.send, unclosed, Nat.lt_irrefl, if_false]
  split
  · exact ⟨.delivered, .inl rfl, find_advanced found⟩
  · exact ⟨.sending entry.kind, .inr rfl, find_advanced found⟩

theorem work_of_reading {got : List UInt8} (found : link.pool.find entry.stream = some handler)
    (reading : handler.phase = .reading got) :
    entryWork link.pool entry = weight entry.unread + 2 := by
  simp [entryWork, phaseWork, found, reading]

theorem work_feeds (routed : Routed varint link) {result : ReadResult}
    (member : entry ∈ link.inbound) (returned : GoReader.read 1 entry.unread = some (result, rest))
    (taken : link.pool.readHeader varint openFields entry.stream result = some pool) :
    Link.work ⟨pool, setUnread entry.stream rest link.inbound⟩ < link.work := by
  cases Pool.read_header_some taken with
  | more found reading stepped =>
      have unfailed : result.err = none := by
        cases failed : result.err with
        | none => rfl
        | some err => simp [headerStep, byteReaderImplReadByte, failed] at stepped
      have lighter := (read_some returned).2.2.2 unfailed Nat.one_pos
      apply work_advance routed member (find_advanced found)
      rw [work_of_reading found reading]
      exact Nat.add_lt_add_right lighter 2
  | quit found reading stepped =>
      apply work_advance routed member (find_advanced found)
      rw [work_of_reading found reading]
      exact Nat.succ_pos _
  | header found reading stepped =>
      have kind := (routed.status_found member found).1
      rw [openFields, kind]
      obtain ⟨phase, sent, finds⟩ := find_send found (routed.unclosed entry.kind)
      apply work_advance routed member finds
      rw [work_of_reading found reading]
      cases sent with
      | inl delivered =>
          rw [delivered]
          exact Nat.succ_pos _
      | inr sending =>
          rw [sending]
          exact Nat.lt_add_left _ Nat.one_lt_two

theorem work_receives (routed : Routed varint link) {stream : StreamId}
    (received : link.pool.receive stream = some pool) :
    Link.work { link with pool := pool } < link.work := by
  obtain ⟨handler, address, found, sending, rfl⟩ := Pool.receive_some received
  obtain ⟨entry, member, rfl⟩ := List.mem_map.mp (routed.known stream handler found)
  have less := @work_advance varint link entry handler
    (link.pool.deliver address entry.stream) entry.unread .delivered routed member
    (find_advanced found)
  rw [routed.set_unread_self member] at less
  apply less
  simp [entryWork, phaseWork, found, sending]

theorem work_same_phases
    (finds : ∀ stream, (pool.find stream).map Handler.phase =
      (link.pool.find stream).map Handler.phase) :
    Link.work { link with pool := pool } = link.work := by
  have each (entry : Inbound) : entryWork pool entry = entryWork link.pool entry := by
    have byPhase (pool : Pool) : entryWork pool entry =
        ((pool.find entry.stream).map Handler.phase).elim (weight entry.unread + 3)
          (phaseWork entry.unread) := by
      unfold entryWork
      cases pool.find entry.stream <;> rfl
    rw [byPhase, byPhase, finds]
  simp only [Link.work, funext each]

theorem work_progress (routed : Routed varint link) (stepped : link.Step varint .progress next) :
    next.work < link.work := by
  cases stepped with
  | @accepts entry pool member taken =>
      simp only [Pool.step] at taken
      split at taken
      · cases taken
      next fresh =>
        cases taken
        exact work_accepts routed member (by simpa using fresh)
  | feeds member returned taken => exact work_feeds routed member returned taken
  | receives received => exact work_receives routed received

theorem work_idle (stepped : link.Step varint .idle next) : next.work = link.work := by
  cases stepped with
  | times =>
      apply work_same_phases
      intro stream
      rw [Pool.find_timer, Option.map_map]
      congr 1
      funext handler
      simp only [Function.comp_apply]
      split <;> rfl
  | @awaits kind pool awaited =>
      apply work_same_phases
      intro stream
      simp only [Pool.await, openFields] at awaited
      split_ifs at awaited <;> cases awaited
      · rfl
      · rfl

end Work

end WebTransportGos
