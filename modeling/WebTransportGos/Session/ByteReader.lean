import WebTransportGos.Library.StepSystem
import WebTransportGos.Session.StreamHandlers

/-!
webtransport.go, `byteReaderImpl`: single bytes from a reader, one `Read` each. An error wins
over the byte that came with it, and a `Read` that returns nothing gives a zero.
-/

namespace WebTransportGos

open GoReader StepSystem VarintFormat

set_option autoImplicit false

def byteReaderImpl : Reading Source UInt8 := ⟨fun source =>
  match read 1 source with
  | none => (.hang, source)
  | some (result, rest) => match byteReaderImplReadByte result with
    | .ok byte => (.ok byte, rest)
    | .error err => (.fail err, rest)⟩

def quicvarintRead (varint : Quicvarint) : Reading Source Nat :=
  readNumber varint.format byteReaderImpl

/-- What the next reads of one byte return, if none of them fails, and the source behind. -/
def quietReads : Nat → Source → Option (List (List UInt8) × Source)
  | 0, source => some ([], source)
  | count + 1, source => match read 1 source with
    | none => none
    | some (⟨_, some _⟩, _) => none
    | some (⟨data, none⟩, rest) =>
      (quietReads count rest).map fun later => (data :: later.1, later.2)

section Reads

variable {source rest left : Source} {data : List UInt8} {err : Error} {count : Nat}
  {datas : List (List UInt8)}

theorem quiet_blocked (blocked : read 1 source = none) : quietReads (count + 1) source = none := by
  rw [quietReads, blocked]

theorem quiet_failed (failed : read 1 source = some (⟨data, some err⟩, rest)) :
    quietReads (count + 1) source = none := by
  rw [quietReads, failed]

theorem quiet_next (returned : read 1 source = some (⟨data, none⟩, rest)) :
    quietReads (count + 1) source =
      (quietReads count rest).map fun later => (data :: later.1, later.2) := by
  rw [quietReads, returned]

theorem impl_blocked (blocked : read 1 source = none) :
    byteReaderImpl.run source = (.hang, source) := by
  dsimp only [byteReaderImpl]
  rw [blocked]

theorem impl_failed (failed : read 1 source = some (⟨data, some err⟩, rest)) :
    byteReaderImpl.run source = (.fail err, rest) := by
  dsimp only [byteReaderImpl]
  rw [failed]
  rfl

theorem impl_next (returned : read 1 source = some (⟨data, none⟩, rest)) :
    byteReaderImpl.run source = (.ok (data.headD 0), rest) := by
  dsimp only [byteReaderImpl]
  rw [returned]
  rfl

/-- The three things a read can do. -/
theorem read_one_cases (source : Source) :
    read 1 source = none ∨
      (∃ data err rest, read 1 source = some (⟨data, some err⟩, rest)) ∨
      ∃ data rest, read 1 source = some (⟨data, none⟩, rest) := by
  rcases returned : read 1 source with _ | ⟨⟨data, _ | err⟩, rest⟩
  · exact .inl rfl
  · exact .inr (.inr ⟨data, rest, rfl⟩)
  · exact .inr (.inl ⟨data, err, rest, rfl⟩)

theorem read_bytes_quiet (quiet : quietReads count source = some (datas, left)) :
    (readBytes byteReaderImpl count).run source =
      (.ok (datas.map fun data => data.headD 0), left) := by
  induction count generalizing source datas with
  | zero =>
    cases quiet
    rfl
  | succ count induction =>
    rw [readBytes]
    rcases read_one_cases source with blocked | ⟨data, err, rest, failed⟩ | ⟨data, rest, returned⟩
    · rw [quiet_blocked blocked] at quiet
      cases quiet
    · rw [quiet_failed failed] at quiet
      cases quiet
    · rw [quiet_next returned, Option.map_eq_some_iff] at quiet
      rcases quiet with ⟨⟨later, last⟩, remaining, same⟩
      cases same
      rw [Reading.bind_ok (impl_next returned), Reading.bind_ok (induction remaining)]
      rfl

theorem read_bytes_failing (failing : quietReads count source = none) (bytes : List UInt8) :
    ((readBytes byteReaderImpl count).run source).1 ≠ .ok bytes := by
  induction count generalizing source bytes with
  | zero => cases failing
  | succ count induction =>
    intro returned
    rcases ran : (readBytes byteReaderImpl (count + 1)).run source with ⟨outcome, left⟩
    rw [ran] at returned
    dsimp only at returned
    rw [returned, readBytes, Reading.bind_eq_ok] at ran
    rcases ran with ⟨byte, rest, first, later⟩
    rcases read_one_cases source with blocked | ⟨data, err, other, failed⟩ | ⟨data, other, quiet⟩
    · rw [impl_blocked blocked] at first
      cases first
    · rw [impl_failed failed] at first
      cases first
    · rw [impl_next quiet] at first
      cases first
      rw [quiet_next quiet, Option.map_eq_none_iff] at failing
      rcases Reading.bind_eq_ok.mp later with ⟨bytes, between, read, -⟩
      exact induction failing bytes (congrArg Prod.fst read)

theorem quiet_view (quiet : quietReads count source = some (datas, left)) :
    datas.length = count ∧ (∀ data ∈ datas, data.length ≤ 1) ∧
      (view source).bytes = datas.flatten ++ (view left).bytes := by
  induction count generalizing source datas with
  | zero =>
    cases quiet
    exact ⟨rfl, List.forall_mem_nil _, rfl⟩
  | succ count induction =>
    rcases read_one_cases source with blocked | ⟨data, err, rest, failed⟩ | ⟨data, rest, returned⟩
    · rw [quiet_blocked blocked] at quiet
      cases quiet
    · rw [quiet_failed failed] at quiet
      cases quiet
    · rw [quiet_next returned, Option.map_eq_some_iff] at quiet
      rcases quiet with ⟨⟨later, last⟩, remaining, same⟩
      cases same
      rcases induction remaining with ⟨number, few, split⟩
      rcases read_some returned with ⟨short, seen, -⟩
      refine ⟨congrArg (· + 1) number, List.forall_mem_cons.mpr ⟨short, few⟩, ?_⟩
      rw [seen, List.flatten_cons, List.append_assoc, ← split]

/-- Of single bytes, as many are there as results are not empty. -/
theorem flatten_length (few : ∀ data ∈ datas, data.length ≤ 1) :
    datas.flatten.length ≤ datas.length ∧
      (datas.flatten.length = datas.length ↔ ∀ data ∈ datas, data ≠ []) := by
  induction datas with
  | nil => simp
  | cons data datas induction =>
    rw [List.forall_mem_cons] at few
    rcases induction few.2 with ⟨less, full⟩
    rw [List.flatten_cons, List.length_append, List.length_cons, List.forall_mem_cons, ← full,
      ← List.length_pos_iff]
    have short := few.1
    omega

theorem heads_flatten (few : ∀ data ∈ datas, data.length ≤ 1) (all : ∀ data ∈ datas, data ≠ []) :
    datas.map (fun data => data.headD 0) = datas.flatten := by
  induction datas with
  | nil => rfl
  | cons data datas induction =>
    rw [List.forall_mem_cons] at few all
    rw [List.map_cons, List.flatten_cons, induction few.2 all.2]
    rcases data with _ | ⟨byte, _ | ⟨next, more⟩⟩
    · exact absurd rfl all.1
    · rfl
    · simp at few

theorem quiet_head (quiet : quietReads count source = some (data :: datas, left))
    (some : data ≠ []) : ∃ byte, data = [byte] ∧ (view source).bytes.head? = .some byte := by
  rcases quiet_view quiet with ⟨-, few, split⟩
  rw [List.forall_mem_cons] at few
  rcases data with _ | ⟨byte, _ | ⟨next, more⟩⟩
  · exact absurd rfl some
  · exact ⟨byte, rfl, by rw [split]; rfl⟩
  · simp at few

theorem quiet_first (quiet : quietReads count source = some (data :: datas, left)) :
    ∃ between, quietReads 1 source = some ([data], between) := by
  cases count with
  | zero => cases quiet
  | succ count =>
    rcases read_one_cases source with blocked | ⟨other, err, rest, failed⟩ | ⟨other, rest, returned⟩
    · rw [quiet_blocked blocked] at quiet
      cases quiet
    · rw [quiet_failed failed] at quiet
      cases quiet
    · rw [quiet_next returned, Option.map_eq_some_iff] at quiet
      rcases quiet with ⟨later, -, same⟩
      cases same
      exact ⟨rest, by rw [quiet_next returned]; rfl⟩

end Reads

def call (varint : Quicvarint) (source : Source) (_ : Unit) : Option Source :=
  some ((quicvarintRead varint).run source).2

/-- The call returns the number that the string begins with, and leaves what is behind it; it
returns none where there is none in full. -/
structure Faithful (varint : Quicvarint) (source : Source) (_ : Unit) (left : Source) : Prop where
  whole : ∀ number rest, varint.decode (view source).bytes = some (number, rest) →
    ((quicvarintRead varint).run source).1 = .ok number ∧ (view left).bytes = rest
  part : varint.decode (view source).bytes = none →
    ∀ number, ((quicvarintRead varint).run source).1 ≠ .ok number

/-- The bytes of a number that is there in full come one by one, each without an error. Where
it is not, the first read is not empty, and one of those that the first byte announces fails. -/
structure OneByOne (varint : Quicvarint) (source : Source) (_ : Unit) (_ : Source) : Prop where
  whole : ∀ number rest, varint.decode (view source).bytes = some (number, rest) →
    ∃ datas left, quietReads ((view source).bytes.length - rest.length) source =
      some (datas, left) ∧ ∀ data ∈ datas, data ≠ []
  part : varint.decode (view source).bytes = none →
    (∀ left, quietReads 1 source ≠ some ([[]], left)) ∧
      ∀ first, (view source).bytes.head? = some first →
        quietReads (varint.format.width first) source = none

section Numbers

variable {varint : Quicvarint} {source rest left : Source} {data : List UInt8}
  {datas : List (List UInt8)} {number : Nat}

theorem quicvarint_quiet
    (quiet : quietReads (varint.format.width (data.headD 0)) source = some (data :: datas, left)) :
    (quicvarintRead varint).run source =
      (.ok (varint.format.value (data.headD 0 :: datas.map fun data => data.headD 0)), left) := by
  have positive := varint.format.width_pos (data.headD 0)
  have count : varint.format.width (data.headD 0) =
      varint.format.width (data.headD 0) - 1 + 1 := by omega
  rw [count] at quiet
  rcases read_one_cases source with blocked | ⟨other, err, rest, failed⟩ | ⟨other, rest, returned⟩
  · rw [quiet_blocked blocked] at quiet
    cases quiet
  · rw [quiet_failed failed] at quiet
    cases quiet
  · rw [quiet_next returned, Option.map_eq_some_iff] at quiet
    rcases quiet with ⟨⟨later, last⟩, remaining, same⟩
    cases same
    rw [quicvarintRead, readNumber, Reading.bind_ok (impl_next returned),
      Reading.bind_ok (read_bytes_quiet remaining)]
    rfl

theorem quicvarint_ok (returned : (quicvarintRead varint).run source = (.ok number, left)) :
    ∃ data datas,
      quietReads (varint.format.width (data.headD 0)) source = some (data :: datas, left) := by
  rw [quicvarintRead, readNumber, Reading.bind_eq_ok] at returned
  rcases returned with ⟨byte, rest, first, later⟩
  rcases Reading.bind_eq_ok.mp later with ⟨bytes, between, read, ended⟩
  rcases read_one_cases source with blocked | ⟨data, err, other, failed⟩ | ⟨data, other, quiet⟩
  · rw [impl_blocked blocked] at first
    cases first
  · rw [impl_failed failed] at first
    cases first
  · rw [impl_next quiet] at first
    cases first
    cases remaining : quietReads (varint.format.width (data.headD 0) - 1) rest with
    | none => exact absurd (congrArg Prod.fst read) (read_bytes_failing remaining bytes)
    | some found =>
      rcases found with ⟨datas, last⟩
      have positive := varint.format.width_pos (data.headD 0)
      have count : varint.format.width (data.headD 0) =
          varint.format.width (data.headD 0) - 1 + 1 := by omega
      rw [read_bytes_quiet remaining] at read
      cases read
      cases ended
      refine ⟨data, datas, ?_⟩
      rw [count, quiet_next quiet, remaining]
      rfl

theorem whole_iff (single : varint.format.width 0 = 1) {bytes : List UInt8}
    (decoded : varint.decode (view source).bytes = some (number, bytes))
    (called : ((quicvarintRead varint).run source).2 = left) :
    ((quicvarintRead varint).run source).1 = .ok number ∧ (view left).bytes = bytes ↔
      ∃ datas last, quietReads ((view source).bytes.length - bytes.length) source =
        some (datas, last) ∧ ∀ data ∈ datas, data ≠ [] := by
  rcases Format.decode_some decoded with ⟨first, tail, split, announced, valued⟩
  have width : (view source).bytes.length - bytes.length = varint.format.width first := by
    rw [split, List.length_append, Nat.add_sub_cancel, announced]
    rfl
  rw [width]
  constructor
  · rintro ⟨outcome, behind⟩
    rcases quicvarint_ok (Prod.ext outcome called) with ⟨data, datas, quiet⟩
    rcases quiet_view quiet with ⟨number, few, read⟩
    rw [split, behind, List.append_left_inj] at read
    have size := congrArg List.length read
    have filled := flatten_length few
    have some : data ≠ [] := by
      rintro rfl
      change (datas.length + 1 = varint.format.width 0) at number
      rw [single] at number
      have none : datas = [] := List.eq_nil_of_length_eq_zero (by omega)
      rw [none] at read
      cases read
    rcases quiet_head quiet some with ⟨byte, rfl, head⟩
    have same : byte = first := by
      rw [split] at head
      exact (Option.some.inj head).symm
    subst same
    refine ⟨_, _, quiet, filled.2.mp ?_⟩
    rw [← size, number]
    exact announced.symm
  · rintro ⟨datas, last, quiet, all⟩
    rcases quiet_view quiet with ⟨count, few, read⟩
    have full := (flatten_length few).2.mpr all
    rw [split] at read
    have prefixes := List.append_inj read (by rw [full, count, announced]; rfl)
    rcases datas with _ | ⟨data, datas⟩
    · cases prefixes.1
    have some := all data List.mem_cons_self
    rcases quiet_head quiet some with ⟨byte, rfl, head⟩
    have same : byte = first := by
      rw [split] at head
      exact (Option.some.inj head).symm
    subst same
    have ran := @quicvarint_quiet varint source last [byte] datas quiet
    have heads := heads_flatten few all
    rw [List.map_cons, ← prefixes.1] at heads
    rw [heads, valued] at ran
    rw [← called, ran]
    exact ⟨rfl, prefixes.2.symm⟩

theorem part_iff (single : varint.format.width 0 = 1) :
    (∀ number, ((quicvarintRead varint).run source).1 ≠ .ok number) ↔
      (∀ left, quietReads 1 source ≠ some ([[]], left)) ∧
        ∀ first, (view source).bytes.head? = some first →
          quietReads (varint.format.width first) source = none := by
  constructor
  · intro never
    have nonempty (left : Source) : quietReads 1 source ≠ some ([[]], left) := by
      intro quiet
      rw [← single] at quiet
      have ran := @quicvarint_quiet varint source left [] [] quiet
      exact never _ (congrArg Prod.fst ran)
    refine ⟨nonempty, ?_⟩
    intro first head
    by_contra quiet
    rcases Option.ne_none_iff_exists'.mp quiet with ⟨⟨datas, left⟩, found⟩
    have positive := varint.format.width_pos first
    rcases quiet_view found with ⟨count, -, -⟩
    rcases datas with _ | ⟨data, datas⟩
    · rw [List.length_nil] at count
      omega
    · by_cases some : data = []
      · rcases quiet_first found with ⟨between, one⟩
        rw [some] at one
        exact nonempty between one
      · rcases quiet_head found some with ⟨byte, rfl, again⟩
        cases head.symm.trans again
        exact never _ (congrArg Prod.fst (@quicvarint_quiet varint source left [first] datas found))
  · rintro ⟨nonempty, failing⟩ number outcome
    rcases quicvarint_ok (Prod.ext outcome rfl) with ⟨data, datas, quiet⟩
    by_cases some : data = []
    · rcases quiet_first quiet with ⟨between, one⟩
      rw [some] at one
      exact nonempty between one
    · rcases quiet_head quiet some with ⟨byte, rfl, head⟩
      have none := failing byte head
      cases none.symm.trans quiet

theorem faithful_iff (single : varint.format.width 0 = 1) (source left : Source)
    (called : call varint source () = some left) :
    Faithful varint source () left ↔ OneByOne varint source () left := by
  have ended : ((quicvarintRead varint).run source).2 = left := Option.some.inj called
  constructor
  · intro faithful
    constructor
    · intro number rest decoded
      exact (whole_iff single decoded ended).mp (faithful.whole number rest decoded)
    · intro missing
      exact (part_iff single).mp (faithful.part missing)
  · intro plain
    constructor
    · intro number rest decoded
      exact (whole_iff single decoded ended).mpr (plain.whole number rest decoded)
    · intro missing
      exact (part_iff single).mpr (plain.part missing)

end Numbers

/-- Over all readers, and however often a number is read. -/
theorem successive_reads_iff (varint : Quicvarint) (single : varint.format.width 0 = 1)
    (source : Source) (calls : List Unit) :
    Steps (call varint) (Faithful varint) source calls ↔
      Steps (call varint) (OneByOne varint) source calls := by
  apply steps_iff fun _ => True
  · intro source _ left _ called
    exact faithful_iff single source left called
  · intro _ _ _ _ _ _
    exact trivial
  · exact trivial

theorem two_bytes_iff :
    Steps (call Quicvarint.reference) (Faithful Quicvarint.reference) [⟨[4, 5], none⟩] [(), ()] ↔
      Steps (call Quicvarint.reference) (OneByOne Quicvarint.reference) [⟨[4, 5], none⟩] [(), ()] :=
  successive_reads_iff Quicvarint.reference rfl [⟨[4, 5], none⟩] [(), ()]

/-- The header of a stream whose last byte comes with the end, and one with nothing read in
front of it. Both headers are there in full, and neither stream is recognised. -/
theorem header_with_end_refused :
    splitHeader Quicvarint.reference [0x40, 0x41, 4] = some (0x41, 4, []) ∧
      headerStep Quicvarint.reference .bidi [0x40, 0x41] ⟨[4], some .eof⟩ = .quit ∧
      ¬Steps (call Quicvarint.reference) (Faithful Quicvarint.reference)
        [⟨[0x40, 0x41, 4], some .eof⟩] [(), ()] ∧
      ¬Steps (call Quicvarint.reference) (Faithful Quicvarint.reference)
        [⟨[], none⟩, ⟨[0x40, 0x41, 4], some .eof⟩] [()] := by
  refine ⟨by decide, by decide, ?_, ?_⟩
  · intro steps
    have second := ((steps _ rfl).2 _ rfl).1
    exact absurd (second.whole 4 [] (by decide)).1 (by decide)
  · intro steps
    have first := (steps _ rfl).1
    exact absurd (first.whole 0x41 [4] (by decide)).1 (by decide)

end WebTransportGos
