import WebTransportGos.H3.ResponseWriter

/-!
Package h3, response_writer.go: what a whole sequence of calls on a response writer leaves
on the stream. Statuses below 200 are sent at once and leave the header open, the first
other status closes it, and a `Write` in front of it sends 200 on its own.
-/

namespace WebTransportGos.H3

open GoReader GoText VarintFormat

set_option autoImplicit false

/-- A call, with the order in which the header map is walked if it writes a header.
`setHeader` stands for whatever the application does to the map between two calls. -/
inductive WriterCall where
  | setHeader (header : Header)
  | writeHeader (status : Int) (walk : List (GoString × List GoString))
  | write (body : List UInt8) (walk : List (GoString × List GoString))
  | flush

inductive SentFrame where
  | headers (block : List UInt8)
  | data (body : List UInt8)
  deriving DecidableEq, Repr

variable (packages : Packages)

def errBodyNotAllowed : Error :=
  .text "http: request method or response status code does not allow body"

namespace ResponseWriter

def call (writer : ResponseWriter) : WriterCall → Option Error × ResponseWriter
  | .setHeader header => (none, { writer with header := header })
  | .writeHeader status walk => (none, writer.writeHeader packages status walk)
  | .write body walk => writer.write packages body walk
  | .flush => (none, writer.flush)

def calls (writer : ResponseWriter) : List WriterCall → List (Option Error) × ResponseWriter
  | [] => ([], writer)
  | call :: rest =>
      let (err, after) := writer.call packages call
      let (errs, last) := after.calls rest
      (err :: errs, last)

/-- The walk is one of the header map, and what goes into a frame is short enough for its
length to be written; a slice of a Go program is. -/
def CallPossible (writer : ResponseWriter) : WriterCall → Prop
  | .setHeader _ => True
  | .writeHeader status walk =>
      writer.header.Walks walk ∧ (headerBlock packages status walk).length < 2 ^ 62
  | .write body walk => writer.header.Walks walk ∧
      (headerBlock packages 200 walk).length < 2 ^ 62 ∧ body.length < 2 ^ 62
  | .flush => True

def Possible (writer : ResponseWriter) : List WriterCall → Prop
  | [] => True
  | call :: rest => writer.CallPossible packages call ∧
      (writer.call packages call).2.Possible rest

end ResponseWriter

open ResponseWriter

def interimStatus (status : Int) : Bool := 100 ≤ status ∧ status < 200

def interimBlocks : List WriterCall → List (List UInt8)
  | [] => []
  | .writeHeader status walk :: rest =>
      if interimStatus status then headerBlock packages status walk :: interimBlocks rest else []
  | .write _ _ :: _ => []
  | .setHeader _ :: rest => interimBlocks rest
  | .flush :: rest => interimBlocks rest

/-- The final status with its block: the first one outside 1xx, or 200 for the first `Write`. -/
def finalHeader : List WriterCall → Option (Int × List UInt8)
  | [] => none
  | .writeHeader status walk :: rest =>
      if interimStatus status then finalHeader rest
      else some (status, headerBlock packages status walk)
  | .write _ walk :: _ => some (200, headerBlock packages 200 walk)
  | .setHeader _ :: rest => finalHeader rest
  | .flush :: rest => finalHeader rest

def acceptedBodies : List WriterCall → List (Option Error) → List (List UInt8)
  | .write body _ :: rest, none :: errs => body :: acceptedBodies rest errs
  | _ :: rest, _ :: errs => acceptedBodies rest errs
  | _, _ => []

def messageFrames (interim : List (List UInt8)) (final : Option (Int × List UInt8))
    (bodies : List (List UInt8)) : List SentFrame :=
  interim.map .headers ++ (final.toList.map fun header => .headers header.2) ++ bodies.map .data

section Frames

variable (varint : Quicvarint)

def SentFrame.payload : SentFrame → List UInt8
  | .headers block => block
  | .data body => body

def SentFrame.bytes : SentFrame → List UInt8
  | .headers block => headersFrameWrite varint block.length ++ block
  | .data body => dataFrameWrite varint body.length ++ body

/-- The frames found with `ParseNextFrame` and a read of each announced length, up to the
end of the input. -/
inductive Splits : Source → List SentFrame → Prop where
  | done {source left : Source} {err : Error} (empty : (view source).bytes = [])
      (failed : (parseNextFrame varint).run source = (.fail err, left)) : Splits source []
  | headers {source behind left : Source} {length : Nat} {block : List UInt8}
      {frames : List SentFrame}
      (parsed : (parseNextFrame varint).run source = (.ok (.headers length), behind))
      (filled : (readFull length).run behind = (.ok (block, none), left))
      (later : Splits left frames) : Splits source (.headers block :: frames)
  | data {source behind left : Source} {length : Nat} {body : List UInt8}
      {frames : List SentFrame}
      (parsed : (parseNextFrame varint).run source = (.ok (.data length), behind))
      (filled : (readFull length).run behind = (.ok (body, none), left))
      (later : Splits left frames) : Splits source (.data body :: frames)

end Frames

section Splitting

variable {varint : Quicvarint} {source behind : Source} {payload rest : List UInt8} {err : Error}

theorem next_frame_data {length : Nat} (small : length < 2 ^ 62) (suffix : List UInt8) :
    NextFrame varint (dataFrameWrite varint length ++ suffix) 0x0 length suffix := by
  rw [dataFrameWrite, List.append_assoc]
  exact .here (varint.decode_write (by decide) _) (varint.decode_write small suffix) rfl

theorem payload_filled {ending : Ending} (seen : view behind = ⟨payload ++ rest, ending⟩) :
    ∃ left, (readFull payload.length).run behind = (.ok (payload, none), left) ∧
      view left = ⟨rest, ending⟩ := by
  have enough : payload.length ≤ (payload ++ rest).length := by simp
  have full := @Stream.read_full_enough _ _ ending enough
  rw [List.take_left, List.drop_left, ← seen] at full
  exact (read_full_refines payload.length).apply full

theorem no_frame_in_nothing {frameType length : Nat} :
    ¬NextFrame varint [] frameType length rest := by
  intro next
  cases next with
  | here typed => cases Format.decode_shorter typed
  | skip typed => cases Format.decode_shorter typed

/-- Written frames are found again, one after the other. -/
theorem splits_frames (frames : List SentFrame)
    (small : ∀ frame ∈ frames, frame.payload.length < 2 ^ 62)
    (seen : view source = ⟨frames.flatMap (SentFrame.bytes varint), .fail err⟩) :
    Splits varint source frames := by
  induction frames generalizing source with
  | nil =>
      have absent : ∀ frameType length rest,
          ¬NextFrame varint (view source).bytes frameType length rest := by
        intro frameType length rest
        rw [seen]
        exact no_frame_in_nothing
      rcases parse_next_frame_none absent with ⟨left, failed, -⟩
      apply Splits.done (congrArg Stream.bytes seen)
      rw [failed, seen]
      rfl
  | cons frame frames induction =>
      simp only [List.mem_cons, forall_eq_or_imp] at small
      rw [List.flatMap_cons] at seen
      cases frame with
      | headers block =>
          have next : NextFrame varint (view source).bytes 0x1 block.length
              (block ++ frames.flatMap (SentFrame.bytes varint)) := by
            rw [seen, SentFrame.bytes, List.append_assoc]
            exact next_frame_headers small.1 _
          rcases parse_headers next with ⟨behind, parsed, afterHeader⟩
          rw [seen] at afterHeader
          rcases payload_filled afterHeader with ⟨left, filled, remaining⟩
          exact .headers parsed filled (induction small.2 remaining)
      | data body =>
          have next : NextFrame varint (view source).bytes 0x0 body.length
              (body ++ frames.flatMap (SentFrame.bytes varint)) := by
            rw [seen, SentFrame.bytes, List.append_assoc]
            exact next_frame_data small.1 _
          rcases parse_data next with ⟨behind, parsed, afterHeader⟩
          rw [seen] at afterHeader
          rcases payload_filled afterHeader with ⟨left, filled, remaining⟩
          exact .data parsed filled (induction small.2 remaining)

end Splitting

section Calls

variable {packages} {writer : ResponseWriter} {walk : List (GoString × List GoString)}

theorem write_header_written (closed : writer.headerWritten = true) (status : Int) :
    writer.writeHeader packages status walk = writer := by
  rw [writeHeader, if_pos closed]

theorem write_header_open (opened : writer.headerWritten = false) (status : Int) :
    (writer.writeHeader packages status walk).stream.all = writer.stream.all ++
        SentFrame.bytes packages.varint (.headers (headerBlock packages status walk)) ∧
      (writer.writeHeader packages status walk).headerWritten = !interimStatus status ∧
      (writer.writeHeader packages status walk).status = status := by
  have same : decide (status < 100 ∨ 200 ≤ status) = !interimStatus status := by
    rw [interimStatus, ← decide_not, decide_eq_decide]
    omega
  rw [writeHeader, if_neg (by simp [opened])]
  simp only [same]
  cases interimStatus status <;> simp [SentFrame.bytes, flush]

theorem write_open (opened : writer.headerWritten = false) (body : List UInt8) :
    writer.write packages body walk =
      (writer.writeHeader packages 200 walk).write packages body walk := by
  have closed : (writer.writeHeader packages 200 walk).headerWritten = true :=
    (write_header_open opened 200).2.1
  simp only [write, closed, opened, if_true, Bool.false_eq_true, if_false]

theorem write_allowed (closed : writer.headerWritten = true)
    (allowed : bodyAllowedForStatus writer.status = true) (body : List UInt8) :
    writer.write packages body walk = (none, { writer with
      stream := (writer.stream.write (dataFrameWrite packages.varint body.length)).write body }) := by
  simp only [write, if_pos closed, allowed]
  rfl

theorem write_refused (closed : writer.headerWritten = true)
    (refused : bodyAllowedForStatus writer.status = false) (body : List UInt8) :
    writer.write packages body walk = (some errBodyNotAllowed, writer) := by
  simp only [write, if_pos closed, refused]
  rfl

variable (packages) in
/-- Behind the final header only `Write` puts anything on the stream, and only if its
status allows a body. The induction is on the calls; nothing reopens the header. -/
theorem calls_closed (closed : writer.headerWritten = true) (list : List WriterCall) :
    (writer.calls packages list).2.stream.all = writer.stream.all ++
        ((acceptedBodies list (writer.calls packages list).1).map SentFrame.data).flatMap
          (SentFrame.bytes packages.varint) ∧
      (writer.calls packages list).2.headerWritten = true ∧
      (writer.calls packages list).2.status = writer.status := by
  induction list generalizing writer with
  | nil => simp [calls, acceptedBodies, closed]
  | cons call rest induction =>
      cases call with
      | setHeader header => exact @induction { writer with header := header } closed
      | flush =>
          have later := @induction writer.flush closed
          rw [show writer.flush.stream.all = writer.stream.all by simp [flush]] at later
          exact later
      | writeHeader status walk =>
          have later := induction closed
          simp only [calls, ResponseWriter.call, write_header_written closed]
          exact later
      | write body walk =>
          simp only [calls, ResponseWriter.call]
          cases allowed : bodyAllowedForStatus writer.status with
          | true =>
              rw [write_allowed closed allowed]
              have later := @induction { writer with
                stream := (writer.stream.write (dataFrameWrite packages.varint body.length)).write
                  body } closed
              simp only [BufferedStream.all_write, List.append_assoc] at later
              simp only [acceptedBodies, List.map_cons, List.flatMap_cons, SentFrame.bytes,
                List.append_assoc]
              exact later
          | false =>
              rw [write_refused closed allowed]
              exact induction closed

variable (packages) in
theorem calls_open (opened : writer.headerWritten = false) (list : List WriterCall) :
    (writer.calls packages list).2.stream.all = writer.stream.all ++
      (messageFrames (interimBlocks packages list) (finalHeader packages list)
        (acceptedBodies list (writer.calls packages list).1)).flatMap
          (SentFrame.bytes packages.varint) ∧
      ∀ status block, finalHeader packages list = some (status, block) →
        (writer.calls packages list).2.headerWritten = true ∧
          (writer.calls packages list).2.status = status := by
  induction list generalizing writer with
  | nil => simp [calls, interimBlocks, finalHeader, acceptedBodies, messageFrames]
  | cons call rest induction =>
      cases call with
      | setHeader header => exact @induction { writer with header := header } opened
      | flush =>
          have later := @induction writer.flush opened
          rw [show writer.flush.stream.all = writer.stream.all by simp [flush]] at later
          exact later
      | writeHeader status walk =>
          have written := @write_header_open packages writer walk opened status
          cases interim : interimStatus status with
          | true =>
              rw [interim] at written
              have later := induction written.2.1
              rw [written.1] at later
              simpa [calls, ResponseWriter.call, interimBlocks, finalHeader, interim,
                acceptedBodies, messageFrames] using later
          | false =>
              rw [interim] at written
              have later := calls_closed packages written.2.1 rest
              rw [written.1, written.2.2] at later
              simpa [calls, ResponseWriter.call, interimBlocks, finalHeader, interim,
                acceptedBodies, messageFrames] using later
      | write body walk =>
          -- The header is written first; the call is then one behind a final 200.
          have written := @write_header_open packages writer walk opened 200
          have later := calls_closed packages written.2.1 (.write body walk :: rest)
          simp only [calls, ResponseWriter.call, ← write_open opened] at later ⊢
          rw [written.1, written.2.2] at later
          simpa [interimBlocks, finalHeader, messageFrames] using later

end Calls

section Message

variable {packages} {writer : ResponseWriter}

theorem interim_blocks_small (list : List WriterCall) (possible : writer.Possible packages list) :
    ∀ block ∈ interimBlocks packages list, block.length < 2 ^ 62 := by
  induction list generalizing writer with
  | nil => simp [interimBlocks]
  | cons call rest induction =>
      have later := induction possible.2
      cases call with
      | setHeader header => exact later
      | flush => exact later
      | write body walk => simp [interimBlocks]
      | writeHeader status walk =>
          intro block member
          rw [interimBlocks] at member
          split at member
          · rcases List.mem_cons.mp member with here | behind
            · rw [here]
              exact possible.1.2
            · exact later block behind
          · simp at member

theorem final_header_small (list : List WriterCall) (possible : writer.Possible packages list)
    {status : Int} {block : List UInt8}
    (final : finalHeader packages list = some (status, block)) : block.length < 2 ^ 62 := by
  induction list generalizing writer with
  | nil => cases final
  | cons call rest induction =>
      cases call with
      | setHeader header => exact induction possible.2 final
      | flush => exact induction possible.2 final
      | write body walk =>
          cases final
          exact possible.1.2.1
      | writeHeader other walk =>
          rw [finalHeader] at final
          split at final
          · exact induction possible.2 final
          · cases final
            exact possible.1.2

theorem accepted_bodies_small (list : List WriterCall) (possible : writer.Possible packages list)
    (errs : List (Option Error)) : ∀ body ∈ acceptedBodies list errs, body.length < 2 ^ 62 := by
  induction list generalizing writer errs with
  | nil => simp [acceptedBodies]
  | cons call rest induction =>
      cases errs with
      | nil => simp [acceptedBodies]
      | cons err errs =>
          have later := induction possible.2 errs
          cases call with
          | setHeader header => exact later
          | flush => exact later
          | writeHeader status walk => exact later
          | write body walk =>
              cases err with
              | some err => exact later
              | none =>
                  intro other member
                  rcases List.mem_cons.mp member with here | behind
                  · rw [here]
                    exact possible.1.2.2
                  · exact later other behind

theorem message_frames_small (list : List WriterCall) (possible : writer.Possible packages list)
    (errs : List (Option Error)) :
    ∀ frame ∈ messageFrames (interimBlocks packages list) (finalHeader packages list)
      (acceptedBodies list errs), frame.payload.length < 2 ^ 62 := by
  intro frame member
  simp only [messageFrames, List.mem_append, List.mem_map, Option.mem_toList] at member
  rcases member with (⟨block, interim, rfl⟩ | ⟨⟨status, block⟩, final, rfl⟩) | ⟨body, accepted, rfl⟩
  · exact interim_blocks_small list possible block interim
  · exact final_header_small list possible final
  · exact accepted_bodies_small list possible errs body accepted

variable (packages) in
theorem accepted_without_final (list : List WriterCall)
    (headerless : finalHeader packages list = none) (errs : List (Option Error)) :
    acceptedBodies list errs = [] := by
  induction list generalizing errs with
  | nil => simp [acceptedBodies]
  | cons call rest induction =>
      cases errs with
      | nil => simp [acceptedBodies]
      | cons err errs =>
          cases call with
          | setHeader header => exact induction headerless errs
          | flush => exact induction headerless errs
          | write body walk => cases headerless
          | writeHeader status walk =>
              rw [finalHeader] at headerless
              split at headerless
              · exact induction headerless errs
              · cases headerless

end Message

/-- What a fresh response writer has put on the stream behind these calls and a `Flush`. -/
structure WellFormed (list : List WriterCall) : Prop where
  splits : ∀ source err, view source =
      ⟨(newResponseWriter.calls packages list).2.flush.stream.written, .fail err⟩ →
    Splits packages.varint source (messageFrames (interimBlocks packages list)
      (finalHeader packages list)
      (acceptedBodies list (newResponseWriter.calls packages list).1))
  noBodyBefore : finalHeader packages list = none →
    acceptedBodies list (newResponseWriter.calls packages list).1 = []
  refused : ∀ before body walk after status block, list = before ++ .write body walk :: after →
    finalHeader packages before = some (status, block) → status = 204 ∨ status = 304 →
    (newResponseWriter.calls packages before).2.call packages (.write body walk) =
      (some errBodyNotAllowed, (newResponseWriter.calls packages before).2)

theorem calls_well_formed (list : List WriterCall)
    (possible : newResponseWriter.Possible packages list) : WellFormed packages list where
  splits source err seen := by
    have written := (@calls_open packages newResponseWriter rfl list).1
    have fresh : newResponseWriter.stream.all = [] := rfl
    rw [fresh, List.nil_append] at written
    rw [flush, BufferedStream.written_flush, written] at seen
    exact splits_frames _ (message_frames_small list possible _) seen
  noBodyBefore headerless := accepted_without_final packages list headerless _
  refused before body walk after status block _ final bodyless := by
    have behind := (@calls_open packages newResponseWriter rfl before).2 status block
      final
    have refused : bodyAllowedForStatus (newResponseWriter.calls packages before).2.status =
        false := by
      rw [behind.2]
      rcases bodyless with rfl | rfl
      · rfl
      · rfl
    exact write_refused behind.1 refused body

/-- Early hints, a body without a status, an empty body, and a status that comes too late. -/
def earlyHints : List WriterCall :=
  [.writeHeader 103 [], .write [1, 2] [], .write [] [], .writeHeader 404 []]

theorem early_hints_well_formed : WellFormed .reference earlyHints := by
  have walks : Header.Walks Header.empty [] :=
    ⟨List.nodup_nil, fun key values => by simp [Header.empty]⟩
  apply calls_well_formed .reference
  exact ⟨⟨walks, by decide +kernel⟩, ⟨walks, by decide +kernel, by decide⟩,
    ⟨walks, by decide +kernel, by decide⟩, ⟨walks, by decide +kernel⟩, trivial⟩

end WebTransportGos.H3
