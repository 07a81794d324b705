import WebTransportGos.Helper.Decoding

/-!
The passes of `decode`, each over what is then readable. A pass delivers where a whole frame
stands in front, and takes that frame off the buffer.
-/

namespace WebTransportGos.Helper

open Decimal Framing StepSystem

set_option autoImplicit false

def EveryPass (law : Bool → RingBuffer UInt8 → Pass → Prop) (enableCommand : Bool) :
    Nat → RingBuffer UInt8 → Prop
  | 0, _ => True
  | fuel + 1, buffer =>
    law enableCommand buffer (decodePass enableCommand buffer) ∧
      ∀ decoded after, decodePass enableCommand buffer = .delivers decoded after →
        EveryPass law enableCommand fuel after

def Passes (law : Bool → RingBuffer UInt8 → Pass → Prop) (receiver : Receiver)
    (chunk : List UInt8) (_ : Receiver) : Prop :=
  let buffer := receiver.netString.ringBuffer.write chunk
  EveryPass law receiver.netString.options.enableCommand (buffer.length + 1) buffer

def taken (buffer after : RingBuffer UInt8) : List UInt8 :=
  buffer.contents.take (buffer.length - after.length)

section Passes

variable {law condition : Bool → RingBuffer UInt8 → Pass → Prop} {enableCommand : Bool}
  {buffer after : RingBuffer UInt8} {decoded : Decoded} {receiver : Receiver}

theorem delivers_parsed (sound : buffer.Sound)
    (delivers : decodePass enableCommand buffer = .delivers decoded after) :
    ∃ payload count, parse enableCommand buffer.contents =
        .frame ⟨payload, decoded.cmd⟩ (buffer.contents.drop count) ∧
      decoded.payload = some payload ∧ buffer.Consumed count after := by
  have refined := decode_pass_refines sound enableCommand
  rw [delivers] at refined
  generalize parse enableCommand buffer.contents = parsed at *
  cases refined with
  | frame payload serialized cmd consumed => exact ⟨payload, _, rfl, rfl, consumed⟩

theorem waits_parsed (sound : buffer.Sound)
    (waits : decodePass enableCommand buffer = .waits after) :
    parse enableCommand buffer.contents = .waits := by
  have refined := decode_pass_refines sound enableCommand
  rw [waits] at refined
  generalize parse enableCommand buffer.contents = parsed at *
  cases refined with
  | waits => rfl

theorem parsed_delivers (sound : buffer.Sound) {message : Message} {rest : List UInt8}
    (parsed : parse enableCommand buffer.contents = .frame message rest) :
    ∃ decoded after, decodePass enableCommand buffer = .delivers decoded after := by
  have refined := decode_pass_refines sound enableCommand
  rw [parsed] at refined
  generalize decodePass enableCommand buffer = pass at *
  cases refined with
  | frame payload serialized cmd consumed => exact ⟨_, _, rfl⟩

theorem parsed_waits (sound : buffer.Sound)
    (parsed : parse enableCommand buffer.contents = .waits) :
    ∃ after, decodePass enableCommand buffer = .waits after := by
  have refined := decode_pass_refines sound enableCommand
  rw [parsed] at refined
  generalize decodePass enableCommand buffer = pass at *
  cases refined with
  | waits => exact ⟨_, rfl⟩

theorem delivers_sound (sound : buffer.Sound)
    (delivers : decodePass enableCommand buffer = .delivers decoded after) : after.Sound := by
  rcases delivers_parsed sound delivers with ⟨payload, count, -, -, consumed⟩
  exact consumed.sound sound

theorem every_pass_iff
    (agree : ∀ buffer : RingBuffer UInt8, buffer.Sound →
      (law enableCommand buffer (decodePass enableCommand buffer) ↔
        condition enableCommand buffer (decodePass enableCommand buffer)))
    (sound : buffer.Sound) (fuel : Nat) :
    EveryPass law enableCommand fuel buffer ↔ EveryPass condition enableCommand fuel buffer := by
  induction fuel generalizing buffer with
  | zero => exact Iff.rfl
  | succ fuel induction =>
    apply and_congr (agree buffer sound)
    apply forall_congr'
    intro decoded
    apply forall_congr'
    intro after
    apply imp_congr_right
    intro delivers
    exact induction (delivers_sound sound delivers)

theorem decode_all_sound (sound : buffer.Sound) (fuel : Nat)
    (unthrown : (decodeAll enableCommand fuel buffer).thrown = none) :
    (decodeAll enableCommand fuel buffer).ringBuffer.Sound := by
  have matched := decode_all_matches sound enableCommand fuel
  cases ended : (drain (parse enableCommand) fuel buffer.contents).2 with
  | error message =>
    rw [matched.thrown message ended] at unthrown
    cases unthrown
  | ok bytes => exact (matched.kept bytes ended).2.1

/-- Two laws of a pass that agree on every sound buffer agree on every run. -/
theorem passes_iff (options : NetStringOptions)
    (agree : ∀ (enableCommand : Bool) (buffer : RingBuffer UInt8), buffer.Sound →
      (law enableCommand buffer (decodePass enableCommand buffer) ↔
        condition enableCommand buffer (decodePass enableCommand buffer)))
    (chunks : List (List UInt8)) :
    Steps receive (Passes law) (newReceiver options) chunks ↔
      Steps receive (Passes condition) (newReceiver options) chunks := by
  apply steps_iff fun receiver => receiver.thrown = none → receiver.netString.ringBuffer.Sound
  · intro receiver chunk next still taken
    have sound := still (receive_some taken).1
    exact every_pass_iff (agree _) (RingBuffer.write_sound sound) _
  · intro receiver chunk next still _ taken
    rcases receive_some taken with ⟨reading, rfl⟩
    intro unthrown
    exact decode_all_sound (RingBuffer.write_sound (still reading)) _ unthrown
  · intro _
    exact RingBuffer.new_sound _ _

end Passes

def lengthField (bytes : List UInt8) : List UInt8 := bytes.takeWhile isDigit

def commandText (body : List UInt8) : List UInt8 := body.takeWhile isDigit

/-- A length field that is read: there are digits, no leading zero, and no more than ten. -/
structure Announces (bytes : List UInt8) : Prop where
  some : lengthField bytes ≠ []
  first : ∀ rest, lengthField bytes = 48 :: rest → rest = []
  few : (lengthField bytes).length ≤ 10

/-- The bytes begin with a frame of this body, and something may stand behind it. Where commands
are used, the digits of one and a space begin the body. -/
structure Framed (enableCommand : Bool) (bytes body : List UInt8) : Prop where
  field : Announces bytes
  behind : bytes.dropWhile isDigit = colon :: body
  closed : body[value (lengthField bytes)]? = some comma
  command : enableCommand = true → (commandText body).length < value (lengthField bytes) ∧
    body[(commandText body).length]? = some space

def frameOf (bytes body : List UInt8) : List UInt8 :=
  lengthField bytes ++ colon :: body.take (value (lengthField bytes) + 1)

def commandPart (enableCommand : Bool) (body : List UInt8) : List UInt8 :=
  if enableCommand then commandText body ++ [space] else []

def commandOf (enableCommand : Bool) (body : List UInt8) : Option Nat :=
  if enableCommand then some (valueDouble (commandText body)) else none

section Frames

variable {enableCommand : Bool} {bytes body : List UInt8} {len : Nat}

theorem behind_digits (body : List UInt8) :
    body[(commandText body).length]? = (body.dropWhile isDigit)[0]? := by
  rw [← drop_digits, List.getElem?_drop]
  rfl

theorem command_split (spaced : body[(commandText body).length]? = some space) :
    ∃ rest, body.dropWhile isDigit = space :: rest ∧ body = commandText body ++ space :: rest := by
  have whole : body = commandText body ++ body.dropWhile isDigit :=
    List.takeWhile_append_dropWhile.symm
  rw [behind_digits] at spaced
  cases behind : body.dropWhile isDigit with
  | nil =>
    rw [behind] at spaced
    cases spaced
  | cons byte rest =>
    rw [behind] at spaced whole
    cases spaced
    exact ⟨rest, rfl, whole⟩

theorem behind_command {text rest : List UInt8} (more : text.length < len) :
    (text ++ space :: rest)[len]? = rest[len - (text.length + 1)]? ∧
      (text ++ space :: rest).take len =
        text ++ [space] ++ rest.take (len - (text.length + 1)) ∧
      (text ++ space :: rest).drop (len + 1) = rest.drop (len - (text.length + 1) + 1) := by
  rcases Nat.exists_eq_add_of_lt more with ⟨count, rfl⟩
  have left : text.length + count + 1 - (text.length + 1) = count := by omega
  have place : text.length + count + 1 = (text ++ [space]).length + count := by
    rw [List.length_append, List.length_singleton]
    omega
  have text_space : text ++ space :: rest = (text ++ [space]) ++ rest := by simp
  rw [left, place, text_space, List.getElem?_append_right (Nat.le_add_right _ _),
    Nat.add_sub_cancel_left, List.take_length_add_append, Nat.add_assoc,
    List.drop_length_add_append]
  exact ⟨rfl, rfl, rfl⟩

theorem parse_payload_frame {cmd : Option Nat} (closed : body[len]? = some comma) :
    parsePayload cmd len body = .frame ⟨body.take len, cmd⟩ (body.drop (len + 1)) := if_pos closed

theorem parse_body_frame (closed : body[len]? = some comma)
    (command : enableCommand = true → (commandText body).length < len ∧
      body[(commandText body).length]? = some space) :
    ∃ payload, parseBody enableCommand len body =
        .frame ⟨payload, commandOf enableCommand body⟩ (body.drop (len + 1)) ∧
      body.take len = commandPart enableCommand body ++ payload := by
  cases enableCommand with
  | false => exact ⟨body.take len, parse_payload_frame closed, rfl⟩
  | true =>
    rcases command rfl with ⟨inside, spaced⟩
    rcases command_split spaced with ⟨rest, behind, whole⟩
    have parts := @behind_command len (commandText body) rest inside
    rw [← whole] at parts
    rw [parts.1] at closed
    refine ⟨rest.take (len - ((commandText body).length + 1)), ?_, parts.2.1⟩
    have enough : ¬len < (body.takeWhile isDigit).length + 1 := Nat.not_lt.mpr inside
    rw [parseBody, if_pos rfl, behind]
    dsimp only
    rw [if_neg (not_not_intro rfl), if_neg enough, parts.2.2]
    exact parse_payload_frame closed

theorem parse_payload_found {cmd : Option Nat} {message : Message} {rest : List UInt8}
    (parsed : parsePayload cmd len body = .frame message rest) : body[len]? = some comma := by
  rw [parsePayload] at parsed
  split at parsed
  next closed => exact closed
  · cases parsed

theorem parse_body_found {message : Message} {rest : List UInt8}
    (parsed : parseBody enableCommand len body = .frame message rest) :
    body[len]? = some comma ∧
      (enableCommand = true → (commandText body).length < len ∧
        body[(commandText body).length]? = some space) := by
  cases enableCommand with
  | false => exact ⟨parse_payload_found parsed, fun on => Bool.noConfusion on⟩
  | true =>
    have whole : body = commandText body ++ body.dropWhile isDigit :=
      List.takeWhile_append_dropWhile.symm
    rw [parseBody, if_pos rfl] at parsed
    cases behind : body.dropWhile isDigit with
    | nil =>
      rw [behind] at parsed
      cases parsed
    | cons byte others =>
      rw [behind] at parsed whole
      dsimp only at parsed
      split at parsed
      · cases parsed
      next spaced =>
      split at parsed
      · cases parsed
      next inside =>
        have same := not_not.mp spaced
        rw [same] at whole
        have more : (commandText body).length < len := Nat.not_lt.mp inside
        have parts := @behind_command len (commandText body) others more
        have closed := parse_payload_found parsed
        rw [← whole] at parts
        refine ⟨parts.1.trans closed, fun _ => ⟨more, ?_⟩⟩
        rw [behind_digits, behind, same]
        rfl

theorem parse_body_not_waits : parseBody enableCommand len body ≠ .waits := by
  have payload {cmd : Option Nat} {len : Nat} {body : List UInt8} :
      parsePayload cmd len body ≠ .waits := by
    rw [parsePayload]
    split <;> exact (fun same => by cases same)
  rw [parseBody]
  split
  · dsimp only
    split
    · exact (fun same => by cases same)
    · split
      · exact (fun same => by cases same)
      split
      · exact (fun same => by cases same)
      · exact payload
  · exact payload

theorem announces_iff (bytes : List UInt8) :
    Announces bytes ↔ ¬(bytes[0]? = some 0x30 ∧ bytes[1]?.any isDigit = true) ∧
      bytes[0]?.any isDigit = true ∧ (bytes.takeWhile isDigit).length ≤ 10 := by
  have parts : Announces bytes ↔ lengthField bytes ≠ [] ∧
      (∀ rest, lengthField bytes = 48 :: rest → rest = []) ∧ (lengthField bytes).length ≤ 10 :=
    ⟨fun field => ⟨field.some, field.first, field.few⟩, fun all => ⟨all.1, all.2.1, all.2.2⟩⟩
  rw [parts, lengthField]
  rcases bytes with _ | ⟨first, _ | ⟨second, rest⟩⟩
  · simp
  · by_cases digit : isDigit first = true <;> simp [digit]
  · by_cases digit : isDigit first = true
    · by_cases other : isDigit second = true
      · simp [digit, other]
      · simp [digit, other]
    · simp [digit]

theorem parse_start (field : Announces bytes) (long : 3 ≤ bytes.length)
    (behind : bytes.dropWhile isDigit = []) : parse enableCommand bytes = .waits := by
  rcases (announces_iff bytes).mp field with ⟨plain, digit, few⟩
  rw [parse, if_neg (Nat.not_lt.mpr long), if_neg plain, digit, if_neg (by decide)]
  dsimp only
  rw [if_neg (Nat.not_lt.mpr few), behind]

theorem parse_colon (field : Announces bytes) (long : 3 ≤ bytes.length)
    (behind : bytes.dropWhile isDigit = colon :: body) :
    parse enableCommand bytes =
      if value (lengthField bytes) + 1 ≤ body.length then
        parseBody enableCommand (value (lengthField bytes)) body
      else .waits := by
  rcases (announces_iff bytes).mp field with ⟨plain, digit, few⟩
  rw [parse, if_neg (Nat.not_lt.mpr long), if_neg plain, digit, if_neg (by decide)]
  dsimp only
  rw [if_neg (Nat.not_lt.mpr few), behind]
  dsimp only
  rw [if_neg (not_not_intro rfl)]
  rfl

/-- With what does not throw, the length field is one that is read, and what is behind it has
not arrived or is a colon and a body. -/
theorem parse_cases (unthrown : ∀ message, parse enableCommand bytes ≠ .throws message) :
    parse enableCommand bytes = .waits ∧ bytes.length < 3 ∨
      Announces bytes ∧ 3 ≤ bytes.length ∧ (bytes.dropWhile isDigit = [] ∨
        ∃ body, bytes.dropWhile isDigit = colon :: body) := by
  rw [parse] at unthrown ⊢
  split at unthrown
  next short => exact .inl ⟨if_pos short, short⟩
  next long =>
  split at unthrown
  · exact absurd rfl (unthrown _)
  next plain =>
  split at unthrown
  · exact absurd rfl (unthrown _)
  next digit =>
  dsimp only at unthrown
  split at unthrown
  · exact absurd rfl (unthrown _)
  next few =>
  have first : bytes[0]?.any isDigit = true := by simpa using digit
  have field := (announces_iff bytes).mpr ⟨plain, first, Nat.not_lt.mp few⟩
  refine .inr ⟨field, Nat.not_lt.mp long, ?_⟩
  cases behind : bytes.dropWhile isDigit with
  | nil => exact .inl rfl
  | cons byte rest =>
    rw [behind] at unthrown
    dsimp only at unthrown
    split at unthrown
    · exact absurd rfl (unthrown _)
    next colons => exact .inr ⟨rest, by rw [not_not.mp colons]⟩

theorem Framed.whole (framed : Framed enableCommand bytes body) :
    bytes = lengthField bytes ++ colon :: body := by
  rw [← framed.behind]
  exact List.takeWhile_append_dropWhile.symm

theorem Framed.unique {other : List UInt8} (framed : Framed enableCommand bytes body)
    (again : Framed enableCommand bytes other) : other = body := by
  have same := again.behind.symm.trans framed.behind
  injection same

theorem Framed.arrived (framed : Framed enableCommand bytes body) :
    value (lengthField bytes) + 1 ≤ body.length :=
  (List.getElem?_eq_some_iff.mp framed.closed).1

theorem Framed.long (framed : Framed enableCommand bytes body) : 3 ≤ bytes.length := by
  have digits := List.length_pos_iff.mpr framed.field.some
  have arrived := framed.arrived
  rw [framed.whole, List.length_append, List.length_cons]
  omega

theorem parse_framed (framed : Framed enableCommand bytes body) :
    ∃ payload, parse enableCommand bytes = .frame ⟨payload, commandOf enableCommand body⟩
        (body.drop (value (lengthField bytes) + 1)) ∧
      body.take (value (lengthField bytes)) = commandPart enableCommand body ++ payload := by
  rw [parse_colon framed.field framed.long framed.behind, if_pos framed.arrived]
  exact parse_body_frame framed.closed framed.command

theorem parse_found {message : Message} {rest : List UInt8}
    (parsed : parse enableCommand bytes = .frame message rest) :
    ∃ body, Framed enableCommand bytes body := by
  have unthrown (error : String) : parse enableCommand bytes ≠ .throws error := by
    rw [parsed]
    exact (fun same => by cases same)
  rcases parse_cases unthrown with ⟨waits, -⟩ | ⟨field, long, behind | ⟨body, behind⟩⟩
  · rw [waits] at parsed
    cases parsed
  · rw [parse_start field long behind] at parsed
    cases parsed
  · rw [parse_colon field long behind] at parsed
    split at parsed
    · have found := parse_body_found parsed
      exact ⟨body, field, behind, found.1, found.2⟩
    · cases parsed

structure Open (bytes : List UInt8) : Prop where
  field : Announces bytes
  behind : bytes.dropWhile isDigit = [] ∨ ∃ body, bytes.dropWhile isDigit = colon :: body ∧
    body.length ≤ value (lengthField bytes)

theorem parse_open (long : 3 ≤ bytes.length) :
    parse enableCommand bytes = .waits ↔ Open bytes := by
  constructor
  · intro waits
    have unthrown (error : String) : parse enableCommand bytes ≠ .throws error := by
      rw [waits]
      exact (fun same => by cases same)
    rcases parse_cases unthrown with ⟨-, short⟩ | ⟨field, -, behind | ⟨body, behind⟩⟩
    · omega
    · exact ⟨field, .inl behind⟩
    · rw [parse_colon field long behind] at waits
      split at waits
      · exact absurd waits parse_body_not_waits
      next missing => exact ⟨field, .inr ⟨body, behind, by omega⟩⟩
  · rintro ⟨field, behind | ⟨body, behind, missing⟩⟩
    · exact parse_start field long behind
    · rw [parse_colon field long behind, if_neg (by omega)]

end Frames

section Delivering

variable {enableCommand : Bool} {buffer after : RingBuffer UInt8} {decoded : Decoded}

theorem frame_of_eq {bytes body : List UInt8} (framed : Framed enableCommand bytes body) :
    bytes = frameOf bytes body ++ body.drop (value (lengthField bytes) + 1) ∧
      frameOf bytes body = lengthField bytes ++
        colon :: (body.take (value (lengthField bytes)) ++ [comma]) := by
  constructor
  · rw [frameOf, List.append_assoc, List.cons_append, List.take_append_drop]
    exact framed.whole
  · rw [frameOf, List.take_add_one, framed.closed]
    rfl

/-- A pass that delivers has a whole frame in front of it, and takes it off. -/
theorem delivers_framed (sound : buffer.Sound)
    (delivers : decodePass enableCommand buffer = .delivers decoded after) :
    ∃ body payload, Framed enableCommand buffer.contents body ∧
      taken buffer after = frameOf buffer.contents body ∧
      buffer.Consumed (frameOf buffer.contents body).length after ∧
      decoded.payload = some payload ∧ decoded.cmd = commandOf enableCommand body ∧
      body.take (value (lengthField buffer.contents)) =
        commandPart enableCommand body ++ payload := by
  rcases delivers_parsed sound delivers with ⟨payload, count, parsed, carried, consumed⟩
  rcases parse_found parsed with ⟨body, framed⟩
  rcases parse_framed framed with ⟨found, again, split⟩
  have parts := frame_of_eq framed
  rw [parsed] at again
  injection again with message rest
  injection message with same cmd
  have length := consumed.length
  have total := sound.contents_length
  have sizes := congrArg List.length parts.1
  have left := congrArg List.length rest
  rw [List.length_append] at sizes
  rw [List.length_drop] at left
  have size : (frameOf buffer.contents body).length = count := by omega
  have count_eq : buffer.length - after.length = (frameOf buffer.contents body).length := by omega
  refine ⟨body, payload, framed, ?_, size.symm ▸ consumed, carried, cmd, same.symm ▸ split⟩
  rw [taken, count_eq]
  exact (congrArg (List.take _) parts.1).trans List.take_left

theorem framed_delivers (sound : buffer.Sound) {body : List UInt8}
    (framed : Framed enableCommand buffer.contents body) :
    ∃ decoded after, decodePass enableCommand buffer = .delivers decoded after := by
  rcases parse_framed framed with ⟨payload, parsed, -⟩
  exact parsed_delivers sound parsed

theorem undelivered_unframed (sound : buffer.Sound)
    (undelivered : ∀ decoded after, decodePass enableCommand buffer ≠ .delivers decoded after)
    (body : List UInt8) : ¬Framed enableCommand buffer.contents body := by
  intro framed
  rcases framed_delivers sound framed with ⟨decoded, after, delivers⟩
  exact undelivered decoded after delivers

end Delivering

end WebTransportGos.Helper
