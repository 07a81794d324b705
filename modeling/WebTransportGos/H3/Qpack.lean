import WebTransportGos.Library.GoText

/-!
Package qpack as the code uses it: an encoder without a dynamic table, which writes
its block prefix before the first field, and `DecodeFull`. The package is not part
of the repository; the development is over any implementation of this behaviour.

`literalQpack` is one that writes every field as a literal line with a literal name
and no Huffman coding, and reads back exactly such lines.
-/

namespace WebTransportGos.H3

open GoReader GoText

set_option autoImplicit false

structure HeaderField where
  name : GoString
  value : GoString
  deriving DecidableEq, Repr

def HeaderField.isPseudo (field : HeaderField) : Bool := field.name.head? = some (ch ':')

/-- The bytes of an integer behind those low bits of its first byte that are all set. -/
def writeContinuation (number : Nat) : List UInt8 :=
  if number < 128 then [UInt8.ofNat number]
  else UInt8.ofNat (number % 128 + 128) :: writeContinuation (number / 128)
termination_by number
decreasing_by omega

def writeInteger (bits flags number : Nat) : List UInt8 :=
  if number < 2 ^ bits - 1 then [UInt8.ofNat (flags + number)]
  else UInt8.ofNat (flags + (2 ^ bits - 1)) :: writeContinuation (number - (2 ^ bits - 1))

def readContinuation : List UInt8 → Option (Nat × List UInt8)
  | [] => none
  | byte :: rest =>
      if byte.toNat < 128 then some (byte.toNat, rest)
      else match readContinuation rest with
        | none => none
        | some (number, after) => some (byte.toNat - 128 + 128 * number, after)

def readInteger (bits : Nat) : List UInt8 → Option (Nat × List UInt8)
  | [] => none
  | byte :: rest =>
      let low := byte.toNat % 2 ^ bits
      if low < 2 ^ bits - 1 then some (low, rest)
      else (readContinuation rest).map fun (number, after) => (2 ^ bits - 1 + number, after)

def literalLine (field : HeaderField) : List UInt8 :=
  writeInteger 3 32 field.name.length ++ field.name ++
    (writeInteger 7 0 field.value.length ++ field.value)

structure Qpack where
  blockPrefix : List UInt8
  encodeField : HeaderField → List UInt8
  decodeFull : List UInt8 → Except Error (List HeaderField)
  decode_encode : ∀ fields, fields ≠ [] →
    decodeFull (blockPrefix ++ fields.flatMap encodeField) = .ok fields
  /-- Required insert count and base zero, then raw literal lines. -/
  decode_literal : ∀ fields, fields ≠ [] →
    decodeFull ([0, 0] ++ fields.flatMap literalLine) = .ok fields

theorem read_write_continuation (number : Nat) (rest : List UInt8) :
    readContinuation (writeContinuation number ++ rest) = some (number, rest) := by
  induction number using Nat.strongRecOn with
  | ind number induction =>
      rw [writeContinuation]
      split
      next small =>
        have byte : (UInt8.ofNat number).toNat = number := by
          simp [UInt8.toNat_ofNat', Nat.mod_eq_of_lt (show number < 256 by omega)]
        simp [readContinuation, byte, small]
      next large =>
        have byte : (UInt8.ofNat (number % 128 + 128)).toNat = number % 128 + 128 := by
          simp [UInt8.toNat_ofNat',
            Nat.mod_eq_of_lt (show number % 128 + 128 < 256 by omega)]
        have later := induction (number / 128) (by omega)
        simp only [List.cons_append, readContinuation, byte, later]
        rw [if_neg (by omega)]
        simp only [Option.some.injEq, Prod.mk.injEq, and_true]
        omega

theorem read_write_integer (bits flags number : Nat) (rest : List UInt8)
    (aligned : flags % 2 ^ bits = 0) (fits : flags + 2 ^ bits ≤ 256) :
    readInteger bits (writeInteger bits flags number ++ rest) = some (number, rest) := by
  have positive := Nat.two_pow_pos bits
  have low (part : Nat) (small : part < 2 ^ bits) :
      (UInt8.ofNat (flags + part)).toNat % 2 ^ bits = part := by
    have byte : (UInt8.ofNat (flags + part)).toNat = flags + part := by
      simp [UInt8.toNat_ofNat', Nat.mod_eq_of_lt (show flags + part < 256 by omega)]
    rw [byte, Nat.add_mod, aligned, Nat.zero_add, Nat.mod_mod, Nat.mod_eq_of_lt small]
  rw [writeInteger]
  split
  next small =>
    simp only [List.cons_append, List.nil_append, readInteger, low number (by omega), small,
      if_true]
  next large =>
    simp only [List.cons_append, readInteger, low (2 ^ bits - 1) (by omega),
      Nat.lt_irrefl, if_false, read_write_continuation, Option.map_some]
    simp only [Option.some.injEq, Prod.mk.injEq, and_true]
    omega

def readLiteralLine (block : List UInt8) : Option (HeaderField × List UInt8) :=
  match block with
  | [] => none
  | first :: _ =>
      if first.toNat / 8 ≠ 4 then none
      else do
        let (nameLength, afterName) ← readInteger 3 block
        if afterName.length < nameLength then none
        else
          let value := afterName.drop nameLength
          match value with
          | [] => none
          | flag :: _ =>
              if flag.toNat / 128 ≠ 0 then none
              else do
                let (valueLength, rest) ← readInteger 7 value
                if rest.length < valueLength then none
                else some (⟨afterName.take nameLength, rest.take valueLength⟩,
                  rest.drop valueLength)

def readLiteralLines : Nat → List UInt8 → Option (List HeaderField)
  | 0, _ => none
  | fuel + 1, block =>
      if block = [] then some []
      else do
        let (field, rest) ← readLiteralLine block
        let fields ← readLiteralLines fuel rest
        some (field :: fields)

def decodeLiterals : List UInt8 → Except Error (List HeaderField)
  | 0 :: 0 :: block => match readLiteralLines (block.length + 1) block with
      | some fields => .ok fields
      | none => .error (.text "decoding error")
  | _ => .error (.text "expected Required Insert Count to be zero")

theorem write_integer_first (bits flags number : Nat) (positive : 0 < bits)
    (fits : flags + 2 ^ bits ≤ 256) :
    ∃ first rest, writeInteger bits flags number = first :: rest ∧ flags ≤ first.toNat ∧
      first.toNat < flags + 2 ^ bits := by
  have power : 2 ≤ 2 ^ bits := Nat.le_self_pow (by omega) 2
  have byte (part : Nat) (small : part < 2 ^ bits) :
      (UInt8.ofNat (flags + part)).toNat = flags + part := by
    simp [UInt8.toNat_ofNat', Nat.mod_eq_of_lt (show flags + part < 256 by omega)]
  rw [writeInteger]
  split
  next small =>
    refine ⟨_, _, rfl, ?_⟩
    rw [byte number (by omega)]
    omega
  next large =>
    refine ⟨_, _, rfl, ?_⟩
    rw [byte (2 ^ bits - 1) (by omega)]
    omega

theorem read_literal_line_append (field : HeaderField) (rest : List UInt8) :
    readLiteralLine (literalLine field ++ rest) = some (field, rest) := by
  have nameRead := read_write_integer 3 32 field.name.length
    (field.name ++ (writeInteger 7 0 field.value.length ++ field.value) ++ rest)
    (by decide) (by decide)
  have valueRead := read_write_integer 7 0 field.value.length (field.value ++ rest)
    (by decide) (by decide)
  obtain ⟨first, more, nameBytes, firstLow, firstHigh⟩ :=
    write_integer_first 3 32 field.name.length (by decide) (by decide)
  obtain ⟨flag, others, valueBytes, -, flagHigh⟩ :=
    write_integer_first 7 0 field.value.length (by decide) (by decide)
  have block : literalLine field ++ rest = writeInteger 3 32 field.name.length ++
      (field.name ++ (writeInteger 7 0 field.value.length ++ field.value) ++ rest) := by
    simp [literalLine]
  rw [← block] at nameRead
  have shape : literalLine field ++ rest = first :: (more ++
      (field.name ++ (writeInteger 7 0 field.value.length ++ field.value) ++ rest)) := by
    rw [block, nameBytes, List.cons_append]
  have valueShape : writeInteger 7 0 field.value.length ++ (field.value ++ rest) =
      flag :: (others ++ (field.value ++ rest)) := by
    rw [valueBytes, List.cons_append]
  have behindName : (field.name ++ (writeInteger 7 0 field.value.length ++ field.value) ++
      rest).drop field.name.length = flag :: (others ++ (field.value ++ rest)) := by
    rw [← valueShape]
    simp
  rw [valueShape] at valueRead
  rw [shape] at nameRead ⊢
  rw [readLiteralLine]
  simp only [nameRead, Option.bind_eq_bind, Option.bind_some, behindName, valueRead]
  rw [if_neg (by omega), if_neg (by simp), if_neg (by omega), if_neg (by simp)]
  simp

theorem read_literal_lines_flat_map (fields : List HeaderField) (fuel : Nat)
    (enough : fields.length < fuel) :
    readLiteralLines fuel (fields.flatMap literalLine) = some fields := by
  induction fields generalizing fuel with
  | nil =>
      obtain ⟨fuel, rfl⟩ : ∃ less, fuel = less + 1 := ⟨fuel - 1, by omega⟩
      simp [readLiteralLines]
  | cons field fields induction =>
      obtain ⟨fuel, rfl⟩ : ∃ less, fuel = less + 1 := ⟨fuel - 1, by omega⟩
      have later := induction fuel (by simpa using enough)
      have nonempty : literalLine field ++ fields.flatMap literalLine ≠ [] := by
        obtain ⟨first, more, nameBytes, -, -⟩ :=
          write_integer_first 3 32 field.name.length (by decide) (by decide)
        simp [literalLine, nameBytes]
      rw [List.flatMap_cons, readLiteralLines, if_neg nonempty]
      simp only [read_literal_line_append, Option.bind_eq_bind, Option.bind_some, later]

theorem length_le_literal_lines (fields : List HeaderField) :
    fields.length ≤ (fields.flatMap literalLine).length := by
  induction fields with
  | nil => simp
  | cons field fields induction =>
      obtain ⟨first, more, nameBytes, -, -⟩ :=
        write_integer_first 3 32 field.name.length (by decide) (by decide)
      simp only [List.flatMap_cons, List.length_append, List.length_cons, literalLine, nameBytes]
      omega

theorem decode_literals_lines (fields : List HeaderField) :
    decodeLiterals ([0, 0] ++ fields.flatMap literalLine) = .ok fields := by
  have parsed := read_literal_lines_flat_map fields ((fields.flatMap literalLine).length + 1)
    (Nat.lt_succ_of_le (length_le_literal_lines fields))
  simp only [List.cons_append, List.nil_append, decodeLiterals, parsed]

def literalQpack : Qpack where
  blockPrefix := [0, 0]
  encodeField := literalLine
  decodeFull := decodeLiterals
  decode_encode fields _ := decode_literals_lines fields
  decode_literal fields _ := decode_literals_lines fields

end WebTransportGos.H3
