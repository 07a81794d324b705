import WebTransportGos.Library.GoReader
import Mathlib.Tactic.IntervalCases

/-!
Integer formats of variable length whose first byte announces how many bytes the
number takes. `decode` works on a byte list; `readNumber` asks a byte reader for
one byte at a time and never for a byte that does not belong to the number. On a
stream the two agree, so a number is read exactly when its bytes are all there.

`quic` is the format of QUIC: one, two, four or eight bytes, the two top bits of
the first byte giving the width, the rest big-endian.
-/

namespace VarintFormat

open GoReader

set_option autoImplicit false

structure Format where
  limit : Nat
  width : UInt8 → Nat
  value : List UInt8 → Nat
  write : Nat → List UInt8
  width_pos : ∀ first, 0 < width first
  value_lt : ∀ first rest, width first = rest.length + 1 → value (first :: rest) < limit
  write_spec : ∀ number, number < limit → ∃ first rest, write number = first :: rest ∧
    width first = rest.length + 1 ∧ value (first :: rest) = number

namespace Format

variable (format : Format)

/-- The number the bytes begin with and the bytes behind it. -/
def decode : List UInt8 → Option (Nat × List UInt8)
  | [] => none
  | first :: rest =>
      let more := format.width first - 1
      if more ≤ rest.length then
        some (format.value (first :: rest.take more), rest.drop more)
      else none

variable {format} {number : Nat} {bytes rest : List UInt8}

theorem decode_some (decoded : format.decode bytes = some (number, rest)) :
    ∃ first tail, bytes = first :: tail ++ rest ∧ format.width first = tail.length + 1 ∧
      format.value (first :: tail) = number := by
  cases bytes with
  | nil => cases decoded
  | cons first after =>
      simp only [decode] at decoded
      split at decoded
      next enough =>
        have positive := format.width_pos first
        simp only [Option.some.injEq, Prod.mk.injEq] at decoded
        refine ⟨first, after.take (format.width first - 1), ?_, ?_, decoded.1⟩
        · rw [← decoded.2, List.cons_append, List.take_append_drop]
        · rw [List.length_take_of_le enough]
          omega
      next => cases decoded

theorem decode_of_width {first : UInt8} {tail : List UInt8}
    (announced : format.width first = tail.length + 1) (rest : List UInt8) :
    format.decode (first :: tail ++ rest) = some (format.value (first :: tail), rest) := by
  simp [decode, announced]

/-- What stands behind a number does not matter to it. -/
theorem decode_append (decoded : format.decode bytes = some (number, rest))
    (suffix : List UInt8) :
    format.decode (bytes ++ suffix) = some (number, rest ++ suffix) := by
  obtain ⟨first, tail, rfl, announced, rfl⟩ := decode_some decoded
  rw [List.append_assoc]
  exact decode_of_width announced (rest ++ suffix)

theorem decode_split (decoded : format.decode bytes = some (number, rest)) :
    ∃ before, bytes = before ++ rest ∧ format.decode before = some (number, []) := by
  obtain ⟨first, tail, rfl, announced, rfl⟩ := decode_some decoded
  refine ⟨first :: tail, rfl, ?_⟩
  have alone := decode_of_width announced []
  rw [List.append_nil] at alone
  exact alone

theorem decode_write (small : number < format.limit) (suffix : List UInt8) :
    format.decode (format.write number ++ suffix) = some (number, suffix) := by
  obtain ⟨first, tail, written, announced, same⟩ := format.write_spec number small
  rw [written, decode_of_width announced, same]

theorem decode_lt (decoded : format.decode bytes = some (number, rest)) :
    number < format.limit := by
  obtain ⟨first, tail, -, announced, rfl⟩ := decode_some decoded
  exact format.value_lt first tail announced

theorem decode_shorter (decoded : format.decode bytes = some (number, rest)) :
    rest.length < bytes.length := by
  obtain ⟨first, tail, rfl, -, -⟩ := decode_some decoded
  simp only [List.cons_append, List.length_cons, List.length_append]
  omega

theorem write_ne_nil (small : number < format.limit) : format.write number ≠ [] := by
  obtain ⟨first, tail, written, -, -⟩ := format.write_spec number small
  simp [written]

end Format

section Reading

variable {Input : Type}

def readBytes (readByte : Reading Input UInt8) : Nat → Reading Input (List UInt8)
  | 0 => pure []
  | count + 1 => do
      let byte ← readByte
      let bytes ← readBytes readByte count
      pure (byte :: bytes)

def readNumber (format : Format) (readByte : Reading Input UInt8) : Reading Input Nat := do
  let first ← readByte
  let rest ← readBytes readByte (format.width first - 1)
  pure (format.value (first :: rest))

theorem read_bytes_refines {readByte : Reading Source UInt8} {spec : Reading Stream UInt8}
    (refines : Refines readByte spec) (count : Nat) :
    Refines (readBytes readByte count) (readBytes spec count) := by
  induction count with
  | zero => exact refines_pure []
  | succ count induction =>
      exact refines.bind fun byte => induction.bind fun bytes => refines_pure (byte :: bytes)

theorem read_number_refines (format : Format) {readByte : Reading Source UInt8}
    {spec : Reading Stream UInt8} (refines : Refines readByte spec) :
    Refines (readNumber format readByte) (readNumber format spec) :=
  refines.bind fun first => (read_bytes_refines refines (format.width first - 1)).bind
    fun rest => refines_pure (format.value (first :: rest))

theorem read_byte_cons (byte : UInt8) (bytes : List UInt8) (ending : Ending) :
    Stream.readByte.run ⟨byte :: bytes, ending⟩ = (.ok byte, ⟨bytes, ending⟩) := rfl

theorem read_bytes_enough (count : Nat) (bytes : List UInt8) (ending : Ending)
    (enough : count ≤ bytes.length) :
    (readBytes Stream.readByte count).run ⟨bytes, ending⟩ =
      (.ok (bytes.take count), ⟨bytes.drop count, ending⟩) := by
  induction count generalizing bytes with
  | zero => simp [readBytes]
  | succ count induction =>
      cases bytes with
      | nil => simp at enough
      | cons byte bytes =>
          have rest := induction bytes (by simpa using enough)
          rw [readBytes, Reading.bind_ok (read_byte_cons byte bytes ending), Reading.bind_ok rest]
          rfl

theorem read_bytes_short (count : Nat) (bytes : List UInt8) (ending : Ending)
    (short : bytes.length < count) :
    (readBytes Stream.readByte count).run ⟨bytes, ending⟩ = (ending.outcome, ⟨[], ending⟩) := by
  induction count generalizing bytes with
  | zero => simp at short
  | succ count induction =>
      cases bytes with
      | nil =>
          rw [readBytes]
          cases ending with
          | hang => exact Reading.bind_hang rfl
          | fail err => exact Reading.bind_fail rfl
      | cons byte bytes =>
          have rest := induction bytes (by simpa using short)
          rw [readBytes, Reading.bind_ok (read_byte_cons byte bytes ending)]
          cases ending with
          | hang => exact Reading.bind_hang rest
          | fail err => exact Reading.bind_fail rest

theorem read_number_some (format : Format) {bytes rest : List UInt8} {number : Nat}
    (ending : Ending) (decoded : format.decode bytes = some (number, rest)) :
    (readNumber format Stream.readByte).run ⟨bytes, ending⟩ = (.ok number, ⟨rest, ending⟩) := by
  obtain ⟨first, tail, rfl, announced, rfl⟩ := Format.decode_some decoded
  have count : format.width first - 1 = tail.length := by omega
  have tailRead := read_bytes_enough tail.length (tail ++ rest) ending (by simp)
  rw [List.take_left, List.drop_left] at tailRead
  rw [readNumber, List.cons_append, Reading.bind_ok (read_byte_cons first (tail ++ rest) ending),
    count, Reading.bind_ok tailRead]
  rfl

theorem read_number_none (format : Format) {bytes : List UInt8} (ending : Ending)
    (truncated : format.decode bytes = none) :
    (readNumber format Stream.readByte).run ⟨bytes, ending⟩ = (ending.outcome, ⟨[], ending⟩) := by
  cases bytes with
  | nil =>
      cases ending with
      | hang => exact Reading.bind_hang rfl
      | fail err => exact Reading.bind_fail rfl
  | cons first tail =>
      have short : tail.length < format.width first - 1 := by
        simp only [Format.decode] at truncated
        split at truncated
        · cases truncated
        · omega
      have tailRead := read_bytes_short _ tail ending short
      rw [readNumber, Reading.bind_ok (read_byte_cons first tail ending)]
      cases ending with
      | hang => exact Reading.bind_hang tailRead
      | fail err => exact Reading.bind_fail tailRead

end Reading

def bigEndian (bytes : List UInt8) : Nat :=
  bytes.foldl (fun number byte => number * 256 + byte.toNat) 0

def quicWidth (first : UInt8) : Nat := 2 ^ (first.toNat / 64)

def quicWrite (number : Nat) : List UInt8 :=
  if number < 2 ^ 6 then [UInt8.ofNat number]
  else if number < 2 ^ 14 then [UInt8.ofNat (64 + number / 2 ^ 8), UInt8.ofNat (number % 2 ^ 8)]
  else if number < 2 ^ 30 then
    [UInt8.ofNat (128 + number / 2 ^ 24), UInt8.ofNat (number / 2 ^ 16 % 2 ^ 8),
      UInt8.ofNat (number / 2 ^ 8 % 2 ^ 8), UInt8.ofNat (number % 2 ^ 8)]
  else
    [UInt8.ofNat (192 + number / 2 ^ 56), UInt8.ofNat (number / 2 ^ 48 % 2 ^ 8),
      UInt8.ofNat (number / 2 ^ 40 % 2 ^ 8), UInt8.ofNat (number / 2 ^ 32 % 2 ^ 8),
      UInt8.ofNat (number / 2 ^ 24 % 2 ^ 8), UInt8.ofNat (number / 2 ^ 16 % 2 ^ 8),
      UInt8.ofNat (number / 2 ^ 8 % 2 ^ 8), UInt8.ofNat (number % 2 ^ 8)]

theorem quic_width_le (first : UInt8) : quicWidth first ≤ 8 := by
  have bound : first.toNat < 256 := first.toNat_lt
  calc quicWidth first ≤ 2 ^ 3 := Nat.pow_le_pow_right (by decide) (by omega)
    _ = 8 := by decide

private theorem to_nat_of_nat {number : Nat} (small : number < 256) :
    (UInt8.ofNat number).toNat = number := by
  simp [UInt8.toNat_ofNat', Nat.mod_eq_of_lt small]

theorem quic_write_spec (number : Nat) (small : number < 2 ^ 62) :
    ∃ first rest, quicWrite number = first :: rest ∧ quicWidth first = rest.length + 1 ∧
      bigEndian (first :: rest) % 2 ^ (8 * (rest.length + 1) - 2) = number := by
  have byte (shift : Nat) := Nat.mod_lt (number / shift) (show 0 < 2 ^ 8 by decide)
  have last := Nat.mod_lt number (show 0 < 2 ^ 8 by decide)
  simp only [quicWrite]
  split_ifs with one two four
  · refine ⟨_, _, rfl, ?_, ?_⟩
    · rw [quicWidth, to_nat_of_nat (by omega), show number / 64 = 0 by omega]
      rfl
    · simp only [bigEndian, List.foldl_cons, List.foldl_nil, List.length_nil]
      rw [to_nat_of_nat (by omega)]
      omega
  · refine ⟨_, _, rfl, ?_, ?_⟩
    · rw [quicWidth, to_nat_of_nat (by omega), show (64 + number / 2 ^ 8) / 64 = 1 by omega]
      rfl
    · simp only [bigEndian, List.foldl_cons, List.foldl_nil, List.length_cons, List.length_nil]
      rw [to_nat_of_nat (by omega), to_nat_of_nat (by omega)]
      omega
  · refine ⟨_, _, rfl, ?_, ?_⟩
    · rw [quicWidth, to_nat_of_nat (by omega), show (128 + number / 2 ^ 24) / 64 = 2 by omega]
      rfl
    · simp only [bigEndian, List.foldl_cons, List.foldl_nil, List.length_cons, List.length_nil]
      rw [to_nat_of_nat (by omega), to_nat_of_nat (byte _), to_nat_of_nat (byte _),
        to_nat_of_nat last]
      omega
  · refine ⟨_, _, rfl, ?_, ?_⟩
    · rw [quicWidth, to_nat_of_nat (by omega), show (192 + number / 2 ^ 56) / 64 = 3 by omega]
      rfl
    · simp only [bigEndian, List.foldl_cons, List.foldl_nil, List.length_cons, List.length_nil]
      rw [to_nat_of_nat (by omega), to_nat_of_nat (byte _), to_nat_of_nat (byte _),
        to_nat_of_nat (byte _), to_nat_of_nat (byte _), to_nat_of_nat (byte _),
        to_nat_of_nat (byte _), to_nat_of_nat last]
      omega

def quic : Format where
  limit := 2 ^ 62
  width := quicWidth
  value bytes := bigEndian bytes % 2 ^ (8 * bytes.length - 2)
  write := quicWrite
  width_pos first := Nat.two_pow_pos _
  value_lt first rest announced := by
    have bound := quic_width_le first
    calc bigEndian (first :: rest) % 2 ^ (8 * (first :: rest).length - 2)
        < 2 ^ (8 * (first :: rest).length - 2) := Nat.mod_lt _ (Nat.two_pow_pos _)
      _ ≤ 2 ^ 62 := Nat.pow_le_pow_right (by decide) (by
          simp only [List.length_cons]
          omega)
  write_spec := quic_write_spec

theorem quic_write_length (number : Nat) :
    (quic.write number).length =
      if number < 2 ^ 6 then 1 else if number < 2 ^ 14 then 2
      else if number < 2 ^ 30 then 4 else 8 := by
  simp only [quic, quicWrite]
  split_ifs <;> rfl

end VarintFormat
