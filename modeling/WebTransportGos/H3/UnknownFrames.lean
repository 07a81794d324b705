import WebTransportGos.H3.Frame

/-!
Package h3, frame.go: frames of other types leave no trace. `ParseNextFrame` calls itself
on its own byte reader behind each frame it skips; what it returns, and where it leaves
the reader, depend only on the bytes behind the skipped frames, for every cutting of the
input into read results.
-/

namespace WebTransportGos.H3

open GoReader VarintFormat

set_option autoImplicit false

variable (varint : Quicvarint)

/-- A whole frame, its two numbers in whatever width, of a type that is skipped. -/
def UnknownFrame (bytes : List UInt8) : Prop :=
  ∃ frameType afterType length payload, varint.decode bytes = some (frameType, afterType) ∧
    varint.decode afterType = some (length, payload) ∧ known frameType = false ∧
    payload.length = length

def FrameNumbers (bytes : List UInt8) (frameType length : Nat) : Prop :=
  ∃ afterType, varint.decode bytes = some (frameType, afterType) ∧
    varint.decode afterType = some (length, [])

/-- Go's `int64(number)` of a `uint64`. -/
def int64 (number : Nat) : Int := (BitVec.ofNat 64 number).toInt

section Skipping

variable {varint} {bytes part missing rest suffix : List UInt8} {frames : List (List UInt8)}
  {frameType length : Nat}

theorem next_frame_behind (unknown : UnknownFrame varint bytes) :
    NextFrame varint (bytes ++ suffix) frameType length rest ↔
      NextFrame varint suffix frameType length rest := by
  rcases unknown with ⟨skippedType, afterType, skipped, payload, typed, sized, other, whole⟩
  have typedHere := Format.decode_append typed suffix
  have sizedHere := Format.decode_append sized suffix
  constructor
  · intro next
    cases next with
    | here nextTyped _ recognised =>
        cases typedHere.symm.trans nextTyped
        rw [other] at recognised
        cases recognised
    | skip nextTyped nextSized _ _ later =>
        cases typedHere.symm.trans nextTyped
        cases sizedHere.symm.trans nextSized
        rw [List.drop_left' whole] at later
        exact later
  · intro next
    apply NextFrame.skip typedHere sizedHere other
    · rw [List.length_append, whole]
      exact Nat.le_add_right _ _
    · rw [List.drop_left' whole]
      exact next

theorem next_frame_behind_all (unknown : ∀ frame ∈ frames, UnknownFrame varint frame) :
    NextFrame varint (frames.flatten ++ suffix) frameType length rest ↔
      NextFrame varint suffix frameType length rest := by
  induction frames with
  | nil => rfl
  | cons frame frames induction =>
      rw [List.flatten_cons, List.append_assoc, next_frame_behind (unknown frame (by simp))]
      apply induction
      intro other member
      exact unknown other (List.mem_cons_of_mem frame member)

theorem no_frame_in_part (unknown : UnknownFrame varint (part ++ missing))
    (cut : missing ≠ []) : ¬NextFrame varint part frameType length rest := by
  rcases unknown with ⟨skippedType, afterType, skipped, payload, typed, sized, other, whole⟩
  intro next
  cases next with
  | here nextTyped _ recognised =>
      cases typed.symm.trans (Format.decode_append nextTyped missing)
      rw [other] at recognised
      cases recognised
  | skip nextTyped nextSized _ complete _ =>
      cases typed.symm.trans (Format.decode_append nextTyped missing)
      cases sized.symm.trans (Format.decode_append nextSized missing)
      apply cut
      apply List.eq_nil_of_length_eq_zero
      rw [List.length_append] at whole
      omega

/-- In front of the next frame stand skipped frames and its own two numbers. -/
theorem next_frame_split (next : NextFrame varint bytes frameType length rest) :
    ∃ (frames : List (List UInt8)) (numbers : List UInt8),
      (∀ frame ∈ frames, UnknownFrame varint frame) ∧ FrameNumbers varint numbers frameType length ∧
        bytes = frames.flatten ++ (numbers ++ rest) := by
  induction next with
  | here typed sized _ =>
      rcases Format.decode_split typed with ⟨typeBytes, rfl, typedAlone⟩
      rcases Format.decode_split sized with ⟨lengthBytes, rfl, sizedAlone⟩
      refine ⟨[], typeBytes ++ lengthBytes, by simp, ⟨lengthBytes, ?_, sizedAlone⟩, by simp⟩
      exact Format.decode_append typedAlone lengthBytes
  | @skip _ afterType payload _ skippedType skipped _ _ typed sized other complete later
      induction =>
      rcases induction with ⟨frames, numbers, unknown, announced, same⟩
      rcases Format.decode_split typed with ⟨typeBytes, rfl, typedAlone⟩
      rcases Format.decode_split sized with ⟨lengthBytes, rfl, sizedAlone⟩
      refine ⟨(typeBytes ++ (lengthBytes ++ payload.take skipped)) :: frames, numbers, ?_,
        announced, ?_⟩
      · intro frame member
        rcases List.mem_cons.mp member with here | behind
        · subst here
          refine ⟨skippedType, lengthBytes ++ payload.take skipped, skipped,
            payload.take skipped, ?_, ?_, other, List.length_take_of_le complete⟩
          · exact Format.decode_append typedAlone _
          · exact Format.decode_append sizedAlone _
        · exact unknown frame behind
      · rw [List.flatten_cons, List.append_assoc, List.append_assoc, List.append_assoc, ← same,
          List.take_append_drop]

end Skipping

section Bound

variable {varint} {bytes : List UInt8}

/-- Two bounds that are large enough give the same result. -/
theorem parse_frames_bound (ending : Ending) {fuel other : Nat} (enough : bytes.length < fuel)
    (alsoEnough : bytes.length < other) :
    (parseFrames varint streamDevice fuel).run ⟨bytes, ending⟩ =
      (parseFrames varint streamDevice other).run ⟨bytes, ending⟩ := by
  by_cases present : ∃ frameType length rest, NextFrame varint bytes frameType length rest
  · rcases present with ⟨frameType, length, rest, next⟩
    rw [parse_frames_some ending next fuel enough, parse_frames_some ending next other alsoEnough]
  · simp only [not_exists] at present
    rw [parse_frames_none ending fuel enough present,
      parse_frames_none ending other alsoEnough present]

end Bound

theorem int64_decoded {bytes rest : List UInt8} {length : Nat}
    (decoded : varint.decode bytes = some (length, rest)) : int64 length = length := by
  have small := varint.decode_lt decoded
  rw [int64, BitVec.toInt_eq_toNat_of_lt, BitVec.toNat_ofNat, Nat.mod_eq_of_lt (by omega)]
  rw [BitVec.toNat_ofNat, Nat.mod_eq_of_lt (by omega)]
  omega

def Consumed (bytes left : List UInt8) (frame : Frame) : Prop :=
  ∃ (frames : List (List UInt8)) (numbers payload : List UInt8),
    (∀ skipped ∈ frames, UnknownFrame varint skipped) ∧
    bytes = frames.flatten ++ (numbers ++ (payload ++ left)) ∧
    match frame with
    | .data length => FrameNumbers varint numbers 0x0 length ∧ payload = []
    | .headers length => FrameNumbers varint numbers 0x1 length ∧ payload = []
    | .settings _ => FrameNumbers varint numbers 0x4 payload.length

/-- Frames of other types are passed over without a trace. -/
structure Transparent : Prop where
  skips : ∀ (frames : List (List UInt8)) rest ending skipping alone,
    (∀ frame ∈ frames, UnknownFrame varint frame) →
    view skipping = ⟨frames.flatten ++ rest, ending⟩ → view alone = ⟨rest, ending⟩ →
    ((parseNextFrame varint).run skipping).1 = ((parseNextFrame varint).run alone).1 ∧
      view ((parseNextFrame varint).run skipping).2 = view ((parseNextFrame varint).run alone).2
  consumes : ∀ source frame left, (parseNextFrame varint).run source = (.ok frame, left) →
    Consumed varint (view source).bytes (view left).bytes frame
  cutOff : ∀ (frames : List (List UInt8)) part missing err source,
    (∀ frame ∈ frames, UnknownFrame varint frame) → UnknownFrame varint (part ++ missing) →
    missing ≠ [] → view source = ⟨frames.flatten ++ part, .fail err⟩ →
    ((parseNextFrame varint).run source).1 = .fail err
  converts : ∀ bytes length rest, varint.decode bytes = some (length, rest) →
    int64 length = length ∧ 0 ≤ int64 length
  /-- No bound on the recursion above the number of bytes makes a difference. -/
  bounded : ∀ source fuel, (view source).bytes.length < fuel →
    ((parseFrames varint (sourceDevice varint.newReader) fuel).run source).1 =
        ((parseNextFrame varint).run source).1 ∧
      view ((parseFrames varint (sourceDevice varint.newReader) fuel).run source).2 =
        view ((parseNextFrame varint).run source).2
  ends : ∀ source err, (view source).ending = .fail err →
    (∃ frame, ((parseNextFrame varint).run source).1 = .ok frame) ∨
      ∃ failure, ((parseNextFrame varint).run source).1 = .fail failure

section Transparency

variable {varint} {frames : List (List UInt8)} {rest : List UInt8} {ending : Ending}
  {skipping alone : Source}

theorem skipped_frames_leave_no_trace (unknown : ∀ frame ∈ frames, UnknownFrame varint frame)
    (seen : view skipping = ⟨frames.flatten ++ rest, ending⟩) (same : view alone = ⟨rest, ending⟩) :
    ((parseNextFrame varint).run skipping).1 = ((parseNextFrame varint).run alone).1 ∧
      view ((parseNextFrame varint).run skipping).2 =
        view ((parseNextFrame varint).run alone).2 := by
  by_cases present : ∃ frameType length behind, NextFrame varint rest frameType length behind
  · rcases present with ⟨frameType, length, behind, next⟩
    have nextAlone : NextFrame varint (view alone).bytes frameType length behind := by
      rw [same]
      exact next
    have nextSkipping : NextFrame varint (view skipping).bytes frameType length behind := by
      rw [seen]
      exact (next_frame_behind_all unknown).mpr next
    rcases parse_next_frame_some nextAlone with ⟨leftAlone, ranAlone, restAlone⟩
    rcases parse_next_frame_some nextSkipping with ⟨left, ran, restSkipping⟩
    rw [ranAlone, ran, restAlone, restSkipping, seen, same]
    exact ⟨rfl, rfl⟩
  · simp only [not_exists] at present
    have absentAlone : ∀ frameType length behind,
        ¬NextFrame varint (view alone).bytes frameType length behind := by
      rw [same]
      exact present
    have absentSkipping : ∀ frameType length behind,
        ¬NextFrame varint (view skipping).bytes frameType length behind := by
      intro frameType length behind next
      rw [seen] at next
      exact present frameType length behind ((next_frame_behind_all unknown).mp next)
    rcases parse_next_frame_none absentAlone with ⟨leftAlone, ranAlone, restAlone⟩
    rcases parse_next_frame_none absentSkipping with ⟨left, ran, restSkipping⟩
    rw [ranAlone, ran, restAlone, restSkipping, seen, same]
    exact ⟨rfl, rfl⟩

theorem parsed_consumed {source left : Source} {frame : Frame}
    (parsed : (parseNextFrame varint).run source = (.ok frame, left)) :
    Consumed varint (view source).bytes (view left).bytes frame := by
  have arrived := (parse_next_frame_ok parsed).1
  cases frame with
  | data length =>
      rcases next_frame_split arrived with ⟨frames, numbers, unknown, announced, same⟩
      exact ⟨frames, numbers, [], unknown, same, announced, rfl⟩
  | headers length =>
      rcases next_frame_split arrived with ⟨frames, numbers, unknown, announced, same⟩
      exact ⟨frames, numbers, [], unknown, same, announced, rfl⟩
  | settings settings =>
      rcases arrived with ⟨length, payload, next, whole, -, -⟩
      rcases next_frame_split next with ⟨frames, numbers, unknown, announced, same⟩
      rw [← whole] at announced
      exact ⟨frames, numbers, payload, unknown, same, announced⟩

end Transparency

/-- `ParseNextFrame` sees nothing of the frames it does not know. -/
theorem unknown_frames_transparent : Transparent varint where
  skips frames rest ending skipping alone unknown seen same :=
    skipped_frames_leave_no_trace unknown seen same
  consumes source frame left parsed := parsed_consumed parsed
  cutOff frames part missing err source unknown cutFrame cut seen := by
    have absent : ∀ frameType length rest,
        ¬NextFrame varint (view source).bytes frameType length rest := by
      intro frameType length rest next
      rw [seen] at next
      exact no_frame_in_part cutFrame cut ((next_frame_behind_all unknown).mp next)
    rcases parse_next_frame_none absent with ⟨left, ran, -⟩
    rw [ran, seen]
    rfl
  converts bytes length rest decoded := by
    have same := int64_decoded varint decoded
    exact ⟨same, same ▸ Int.natCast_nonneg length⟩
  bounded source fuel enough := by
    have spec := @parse_frames_bound varint _ (view source).ending _ _ enough
      (Nat.lt_succ_self _)
    have first := parse_frames_refines varint fuel source
    have second := parse_frames_refines varint ((view source).bytes.length + 1) source
    rw [first.1, first.2, parseNextFrame, second.1, second.2]
    exact ⟨congrArg Prod.fst spec, congrArg Prod.snd spec⟩
  ends source err ended := by
    rcases @parse_next_frame_cases varint source with
      ⟨frame, left, parsed⟩ | ⟨failure, left, failed⟩ | ⟨waits, -⟩
    · exact .inl ⟨frame, congrArg Prod.fst parsed⟩
    · exact .inr ⟨failure, congrArg Prod.fst failed⟩
    · rw [ended] at waits
      cases waits

end WebTransportGos.H3
