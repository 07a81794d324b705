import WebTransportGos.Quicvarint
import Mathlib.Logic.Function.Basic

/-!
Package h3, frame.go: the HTTP/3 frames the handshake uses, `ParseNextFrame` with
its skipping of every other frame, and the SETTINGS payload.

`parseFrames` follows the code over any reader. `NextFrame` says on bytes alone
which frame comes next; the two are linked by `parse_next_frame_some` and
`parse_next_frame_none`, for every cutting of the bytes into read results.
-/

namespace WebTransportGos.H3

open GoReader VarintFormat

set_option autoImplicit false

def settingDatagram : Nat := 0x276

/-- `Other` is a Go map: `none` for an absent key. -/
structure SettingsFrame where
  datagram : Bool
  other : Nat → Option Nat

def SettingsFrame.value (frame : SettingsFrame) (id : Nat) : Nat := (frame.other id).getD 0

def emptySettings : SettingsFrame := ⟨false, fun _ => none⟩

inductive Frame where
  | data (length : Nat)
  | headers (length : Nat)
  | settings (frame : SettingsFrame)

variable (varint : Quicvarint)

def dataFrameWrite (length : Nat) : List UInt8 := varint.write 0x0 ++ varint.write length

def headersFrameWrite (length : Nat) : List UInt8 := varint.write 0x1 ++ varint.write length

/-- `SettingsFrame.Write`. The two walks are the orders in which the two `range` loops
visit the map; Go lets them differ. -/
def settingsFrameWrite (datagram : Bool) (lengthWalk writeWalk : List (Nat × Nat)) : List UInt8 :=
  let counted := (lengthWalk.map fun entry => varint.len entry.1 + varint.len entry.2).sum
  let length := if datagram then counted + (varint.len settingDatagram + varint.len 1) else counted
  varint.write 0x4 ++ varint.write length ++
    (if datagram then varint.write settingDatagram ++ varint.write 1 else []) ++
    writeWalk.flatMap fun entry => varint.write entry.1 ++ varint.write entry.2

def parseSettings (readDatagram : Bool) (frame : SettingsFrame) (payload : List UInt8) :
    Except Error SettingsFrame :=
  if payload = [] then .ok frame
  else match _id : varint.decode payload with
    | none => .error .eof
    | some (id, afterId) => match _val : varint.decode afterId with
      | none => .error .eof
      | some (val, rest) =>
          if id = settingDatagram then
            if readDatagram then .error (.text s!"duplicate setting: {id}")
            else if val ≠ 0 ∧ val ≠ 1 then
              .error (.text s!"invalid value for H3_DATAGRAM: {val}")
            else parseSettings true { frame with datagram := val == 1 } rest
          else match frame.other id with
            | some _ => .error (.text s!"duplicate setting: {id}")
            | none => parseSettings readDatagram
                { frame with other := Function.update frame.other id (some val) } rest
termination_by payload.length
decreasing_by
  all_goals
    have first := Format.decode_shorter _id
    have second := Format.decode_shorter _val
    omega

section Parsing

variable {Input : Type} (device : Device Input)

def parseSettingsFrame (length : Nat) : Reading Input SettingsFrame :=
  if length > 8 * 2 ^ 10 then
    .stop (.fail (.text s!"unexpected size for SETTINGS frame: {length}"))
  else do
    let (payload, err) ← device.readFull length
    match err with
    | some .unexpectedEOF => .stop (.fail .eof)
    | some err => .stop (.fail err)
    | none => match parseSettings varint false emptySettings payload with
      | .ok frame => pure frame
      | .error err => .stop (.fail err)

def parseBody (frameType length : Nat) : Reading Input Frame :=
  if frameType = 0x0 then pure (.data length)
  else if frameType = 0x1 then pure (.headers length)
  else do
    let frame ← parseSettingsFrame varint device length
    pure (.settings frame)

def known (frameType : Nat) : Bool := frameType = 0x0 ∨ frameType = 0x1 ∨ frameType = 0x4

/-- `ParseNextFrame` with a bound on the frames it looks at. CANCEL_PUSH, PUSH_PROMISE,
GOAWAY, MAX_PUSH_ID and DUPLICATE_PUSH fall through to the skip of unknown frames. -/
def parseFrames : Nat → Reading Input Frame
  | 0 => .stop .hang
  | fuel + 1 => do
      let frameType ← readNumber varint.format device.readByte
      let length ← readNumber varint.format device.readByte
      if known frameType then parseBody varint device frameType length
      else do
        device.discard length
        parseFrames fuel

end Parsing

/-- `ParseNextFrame`. Every frame takes two bytes at least, so the bound is never
reached: `parse_next_frame_some` and `parse_next_frame_none` leave no other case. -/
def parseNextFrame : Reading Source Frame := ⟨fun source =>
  (parseFrames varint (sourceDevice varint.newReader) ((view source).bytes.length + 1)).run source⟩

/-- The first known frame of the bytes, behind complete frames of other types: its type,
its announced length and the bytes behind the two numbers. -/
inductive NextFrame : List UInt8 → Nat → Nat → List UInt8 → Prop where
  | here {bytes afterType rest : List UInt8} {frameType length : Nat}
      (typed : varint.decode bytes = some (frameType, afterType))
      (sized : varint.decode afterType = some (length, rest))
      (recognised : known frameType = true) :
      NextFrame bytes frameType length rest
  | skip {bytes afterType payload rest : List UInt8} {frameType length nextType nextLength : Nat}
      (typed : varint.decode bytes = some (frameType, afterType))
      (sized : varint.decode afterType = some (length, payload))
      (unknown : known frameType = false)
      (complete : length ≤ payload.length)
      (later : NextFrame (payload.drop length) nextType nextLength rest) :
      NextFrame bytes nextType nextLength rest

section Spec

variable {varint} {bytes rest otherRest : List UInt8}
  {frameType length otherType otherLength : Nat}

theorem next_frame_known (next : NextFrame varint bytes frameType length rest) :
    known frameType = true := by
  induction next with
  | here _ _ recognised => exact recognised
  | skip _ _ _ _ _ induction => exact induction

theorem next_frame_headers (small : length < 2 ^ 62) (suffix : List UInt8) :
    NextFrame varint (headersFrameWrite varint length ++ suffix) 0x1 length suffix := by
  rw [headersFrameWrite, List.append_assoc]
  exact .here (varint.decode_write (by decide) _) (varint.decode_write small suffix) rfl

theorem next_frame_unique (next : NextFrame varint bytes frameType length rest)
    (other : NextFrame varint bytes otherType otherLength otherRest) :
    otherType = frameType ∧ otherLength = length ∧ otherRest = rest := by
  induction next with
  | here typed sized recognised =>
      cases other with
      | here otherTyped otherSized =>
          rw [typed] at otherTyped
          cases otherTyped
          rw [sized] at otherSized
          cases otherSized
          exact ⟨rfl, rfl, rfl⟩
      | skip otherTyped _ unknown =>
          rw [typed] at otherTyped
          cases otherTyped
          simp [recognised] at unknown
  | skip typed sized unknown _ _ induction =>
      cases other with
      | here otherTyped _ recognised =>
          rw [typed] at otherTyped
          cases otherTyped
          simp [unknown] at recognised
      | skip otherTyped otherSized _ _ later =>
          rw [typed] at otherTyped
          cases otherTyped
          rw [sized] at otherSized
          cases otherSized
          exact induction later

theorem parse_frames_some (ending : Ending) (next : NextFrame varint bytes frameType length rest)
    (fuel : Nat) (enough : bytes.length < fuel) :
    (parseFrames varint streamDevice fuel).run ⟨bytes, ending⟩ =
      (parseBody varint streamDevice frameType length).run ⟨rest, ending⟩ := by
  induction next generalizing fuel with
  | here typed sized recognised =>
      obtain ⟨fuel, rfl⟩ : ∃ less, fuel = less + 1 := ⟨fuel - 1, by omega⟩
      have firstRead := read_number_some varint.format ending typed
      have secondRead := read_number_some varint.format ending sized
      rw [parseFrames, stream_device_read_byte, Reading.bind_ok firstRead,
        Reading.bind_ok secondRead, if_pos recognised]
  | skip typed sized unknown complete _ induction =>
      obtain ⟨fuel, rfl⟩ : ∃ less, fuel = less + 1 := ⟨fuel - 1, by omega⟩
      have firstRead := read_number_some varint.format ending typed
      have secondRead := read_number_some varint.format ending sized
      have skipped := @Stream.discard_enough _ _ ending complete
      have typeShorter := Format.decode_shorter typed
      have sizeShorter := Format.decode_shorter sized
      rw [parseFrames, stream_device_read_byte, Reading.bind_ok firstRead,
        Reading.bind_ok secondRead, if_neg (by simp [unknown]), stream_device_discard,
        Reading.bind_ok skipped]
      apply induction
      simp only [List.length_drop]
      omega

/-- Bytes that stop before a known frame is announced give the reader's own end. The
induction follows the skipped frames, each shorter than what it was read from. -/
theorem parse_frames_none (ending : Ending) (fuel : Nat) (enough : bytes.length < fuel)
    (absent : ∀ frameType length rest, ¬NextFrame varint bytes frameType length rest) :
    (parseFrames varint streamDevice fuel).run ⟨bytes, ending⟩ =
      (ending.outcome, ⟨[], ending⟩) := by
  induction fuel generalizing bytes with
  | zero => omega
  | succ fuel induction =>
      rw [parseFrames, stream_device_read_byte]
      rcases typed : varint.decode bytes with _ | ⟨frameType, afterType⟩
      · exact Stream.bind_ending (read_number_none varint.format ending typed)
      rw [Reading.bind_ok (read_number_some varint.format ending typed)]
      rcases sized : varint.decode afterType with _ | ⟨length, payload⟩
      · exact Stream.bind_ending (read_number_none varint.format ending sized)
      rw [Reading.bind_ok (read_number_some varint.format ending sized)]
      cases recognised : known frameType with
      | true => exact absurd (.here typed sized recognised) (absent frameType length payload)
      | false =>
          rw [if_neg (by simp), stream_device_discard]
          by_cases complete : length ≤ payload.length
          · have typeShorter := Format.decode_shorter typed
            have sizeShorter := Format.decode_shorter sized
            rw [Reading.bind_ok (Stream.discard_enough complete)]
            apply induction
            · simp only [List.length_drop]
              omega
            · intro laterType laterLength rest later
              exact absent laterType laterLength rest
                (.skip typed sized recognised complete later)
          · exact Stream.bind_ending (Stream.discard_short complete)

end Spec

section Refinement

theorem parse_settings_frame_refines (length : Nat) :
    Refines (parseSettingsFrame varint (sourceDevice varint.newReader) length)
      (parseSettingsFrame varint streamDevice length) := by
  unfold parseSettingsFrame
  split
  · exact refines_stop _
  · refine (read_full_refines length).bind ?_
    rintro ⟨payload, err⟩
    dsimp only
    split
    · exact refines_stop _
    · exact refines_stop _
    · split
      · exact refines_pure _
      · exact refines_stop _

theorem parse_body_refines (frameType length : Nat) :
    Refines (parseBody varint (sourceDevice varint.newReader) frameType length)
      (parseBody varint streamDevice frameType length) := by
  unfold parseBody
  split
  · exact refines_pure _
  · split
    · exact refines_pure _
    · exact (parse_settings_frame_refines varint length).bind fun frame =>
        refines_pure (Frame.settings frame)

theorem parse_frames_refines (fuel : Nat) :
    Refines (parseFrames varint (sourceDevice varint.newReader) fuel)
      (parseFrames varint streamDevice fuel) := by
  induction fuel with
  | zero => exact refines_stop .hang
  | succ fuel induction =>
      have number := read_number_refines varint.format varint.new_reader_refines
      refine number.bind fun frameType => number.bind fun length => ?_
      split
      · exact parse_body_refines varint frameType length
      · exact (discard_refines length).bind fun _ => induction

variable {varint} {source : Source} {rest : List UInt8} {frameType length : Nat}

theorem parse_next_frame_some
    (next : NextFrame varint (view source).bytes frameType length rest) :
    ∃ left, (parseNextFrame varint).run source =
        (((parseBody varint streamDevice frameType length).run ⟨rest, (view source).ending⟩).1,
          left) ∧
      view left =
        ((parseBody varint streamDevice frameType length).run ⟨rest, (view source).ending⟩).2 := by
  have spec := parse_frames_some (view source).ending next _ (Nat.lt_succ_self _)
  exact (parse_frames_refines varint _).apply spec

theorem parse_next_frame_none
    (absent : ∀ frameType length rest,
      ¬NextFrame varint (view source).bytes frameType length rest) :
    ∃ left, (parseNextFrame varint).run source = ((view source).ending.outcome, left) ∧
      view left = ⟨[], (view source).ending⟩ := by
  have spec := parse_frames_none (view source).ending _ (Nat.lt_succ_self _) absent
  exact (parse_frames_refines varint _).apply spec

theorem parse_headers (next : NextFrame varint (view source).bytes 0x1 length rest) :
    ∃ left, (parseNextFrame varint).run source = (.ok (.headers length), left) ∧
      view left = ⟨rest, (view source).ending⟩ :=
  parse_next_frame_some next

theorem parse_data (next : NextFrame varint (view source).bytes 0x0 length rest) :
    ∃ left, (parseNextFrame varint).run source = (.ok (.data length), left) ∧
      view left = ⟨rest, (view source).ending⟩ :=
  parse_next_frame_some next

variable (varint) in
theorem parse_settings_frame_cases (length : Nat) (bytes : List UInt8) (ending : Ending) :
    (∃ frame, length ≤ 8 * 2 ^ 10 ∧ length ≤ bytes.length ∧
      parseSettings varint false emptySettings (bytes.take length) = .ok frame ∧
      (parseSettingsFrame varint streamDevice length).run ⟨bytes, ending⟩ =
        (.ok frame, ⟨bytes.drop length, ending⟩)) ∨
    (∃ err left, (parseSettingsFrame varint streamDevice length).run ⟨bytes, ending⟩ =
      (.fail err, left)) ∨
    (ending = .hang ∧ ∃ left,
      (parseSettingsFrame varint streamDevice length).run ⟨bytes, ending⟩ = (.hang, left)) := by
  unfold parseSettingsFrame
  split
  next => exact .inr (.inl ⟨_, _, rfl⟩)
  next small =>
    rw [stream_device_read_full]
    by_cases enough : length ≤ bytes.length
    · rw [Reading.bind_ok (Stream.read_full_enough enough)]
      rcases parsed : parseSettings varint false emptySettings (bytes.take length) with err | frame
      · exact .inr (.inl ⟨err, _, by simp [parsed]; rfl⟩)
      · exact .inl ⟨frame, Nat.le_of_not_lt small, enough, rfl, by simp [parsed]⟩
    · cases ending with
      | hang => exact .inr (.inr ⟨rfl, _, Reading.bind_hang (Stream.read_full_hang enough)⟩)
      | fail err =>
          rw [Reading.bind_ok (Stream.read_full_fail enough)]
          refine .inr (.inl ?_)
          dsimp only
          split
          · exact ⟨_, _, rfl⟩
          · exact ⟨_, _, rfl⟩
          next absent => cases absent

variable (varint) in
def FrameFrom (bytes : List UInt8) : Frame → List UInt8 → Prop
  | .data length, rest => NextFrame varint bytes 0x0 length rest
  | .headers length, rest => NextFrame varint bytes 0x1 length rest
  | .settings frame, rest => ∃ length payload, NextFrame varint bytes 0x4 length (payload ++ rest) ∧
      payload.length = length ∧ length ≤ 8 * 2 ^ 10 ∧
      parseSettings varint false emptySettings payload = .ok frame

theorem parse_next_frame_ok {frame : Frame} {left : Source}
    (parsed : (parseNextFrame varint).run source = (.ok frame, left)) :
    FrameFrom varint (view source).bytes frame (view left).bytes ∧
      (view left).ending = (view source).ending := by
  by_cases present : ∃ frameType length rest,
      NextFrame varint (view source).bytes frameType length rest
  · obtain ⟨frameType, length, rest, next⟩ := present
    obtain ⟨other, ran, seen⟩ := parse_next_frame_some next
    rw [parsed] at ran
    obtain ⟨outcome, rfl⟩ := Prod.mk.inj ran
    have recognised := next_frame_known next
    simp only [parseBody] at outcome seen
    split_ifs at outcome seen with isData isHeaders
    · cases outcome
      subst isData
      rw [seen]
      exact ⟨next, rfl⟩
    · cases outcome
      subst isHeaders
      rw [seen]
      exact ⟨next, rfl⟩
    · have isSettings : frameType = 0x4 := by
        simp only [known, decide_eq_true_eq] at recognised
        omega
      subst isSettings
      rcases parse_settings_frame_cases varint length rest (view source).ending with
        ⟨settings, small, enough, accepted, ran⟩ | ⟨err, stopped, ran⟩ | ⟨-, stopped, ran⟩
      · rw [Reading.bind_ok ran] at outcome seen
        cases outcome
        rw [seen]
        refine ⟨⟨length, rest.take length, ?_, List.length_take_of_le enough, small, accepted⟩, rfl⟩
        rw [Reading.pure_run, List.take_append_drop]
        exact next
      · rw [Reading.bind_fail ran] at outcome
        cases outcome
      · rw [Reading.bind_hang ran] at outcome
        cases outcome
  · simp only [not_exists] at present
    obtain ⟨other, ran, -⟩ := parse_next_frame_none present
    rw [parsed] at ran
    cases ended : (view source).ending <;> simp [ended, Ending.outcome] at ran

/-- A SETTINGS frame with an accepted payload is parsed, and nothing behind it is read. -/
theorem parse_next_frame_settings {frame : SettingsFrame} {payload : List UInt8}
    (next : NextFrame varint (view source).bytes 0x4 length (payload ++ rest))
    (whole : payload.length = length) (small : length ≤ 8 * 2 ^ 10)
    (accepted : parseSettings varint false emptySettings payload = .ok frame) :
    ∃ left, (parseNextFrame varint).run source = (.ok (.settings frame), left) ∧
      view left = ⟨rest, (view source).ending⟩ := by
  obtain ⟨left, ran, seen⟩ := parse_next_frame_some next
  have enough : length ≤ (payload ++ rest).length := by
    rw [List.length_append, whole]
    exact Nat.le_add_right _ _
  have parsed : (parseSettingsFrame varint streamDevice length).run
      ⟨payload ++ rest, (view source).ending⟩ = (.ok frame, ⟨rest, (view source).ending⟩) := by
    rw [parseSettingsFrame, if_neg (Nat.not_lt.mpr small), stream_device_read_full,
      Reading.bind_ok (Stream.read_full_enough enough), List.take_left' whole,
      List.drop_left' whole]
    simp only [accepted]
    rfl
  have body : (parseBody varint streamDevice 0x4 length).run
      ⟨payload ++ rest, (view source).ending⟩ =
        (.ok (.settings frame), ⟨rest, (view source).ending⟩) := by
    rw [parseBody, if_neg (by decide), if_neg (by decide), Reading.bind_ok parsed]
    rfl
  rw [body] at ran seen
  exact ⟨left, ran, seen⟩

/-- Without a HEADERS frame to come, the parser returns another frame or an error, or waits
on a stream that does not end. -/
theorem parse_next_frame_other
    (absent : ∀ length rest, ¬NextFrame varint (view source).bytes 0x1 length rest) :
    (∃ frame left, (parseNextFrame varint).run source = (.ok frame, left) ∧
      ∀ length, frame ≠ .headers length) ∨
    (∃ err left, (parseNextFrame varint).run source = (.fail err, left)) ∨
    ((view source).ending = .hang ∧
      ∃ left, (parseNextFrame varint).run source = (.hang, left)) := by
  by_cases present : ∃ frameType length rest,
      NextFrame varint (view source).bytes frameType length rest
  · obtain ⟨frameType, length, rest, next⟩ := present
    obtain ⟨left, ran, -⟩ := parse_next_frame_some next
    have recognised := next_frame_known next
    simp only [parseBody] at ran
    split_ifs at ran with isData isHeaders
    · exact .inl ⟨_, left, ran, by simp⟩
    · exact absurd (isHeaders ▸ next) (absent length rest)
    · rcases parse_settings_frame_cases varint length rest (view source).ending with
        ⟨settings, -, -, -, parsed⟩ | ⟨err, stopped, failed⟩ | ⟨waits, stopped, blocked⟩
      · rw [Reading.bind_ok parsed] at ran
        exact .inl ⟨_, left, ran, by simp⟩
      · rw [Reading.bind_fail failed] at ran
        exact .inr (.inl ⟨err, left, ran⟩)
      · rw [Reading.bind_hang blocked] at ran
        exact .inr (.inr ⟨waits, left, ran⟩)
  · simp only [not_exists] at present
    obtain ⟨left, ran, -⟩ := parse_next_frame_none present
    cases ended : (view source).ending with
    | hang =>
        rw [ended] at ran
        exact .inr (.inr ⟨rfl, left, ran⟩)
    | fail err =>
        rw [ended] at ran
        exact .inr (.inl ⟨err, left, ran⟩)

theorem parse_next_frame_cases (source : Source) :
    (∃ frame left, (parseNextFrame varint).run source = (.ok frame, left)) ∨
    (∃ err left, (parseNextFrame varint).run source = (.fail err, left)) ∨
    ((view source).ending = .hang ∧
      ∃ left, (parseNextFrame varint).run source = (.hang, left)) := by
  by_cases headers : ∃ length rest, NextFrame varint (view source).bytes 0x1 length rest
  · obtain ⟨length, rest, next⟩ := headers
    obtain ⟨left, parsed, -⟩ := parse_headers next
    exact .inl ⟨_, left, parsed⟩
  · simp only [not_exists] at headers
    rcases parse_next_frame_other headers with ⟨frame, left, parsed, -⟩ | failed | blocked
    · exact .inl ⟨frame, left, parsed⟩
    · exact .inr (.inl failed)
    · exact .inr (.inr blocked)

end Refinement

end WebTransportGos.H3
