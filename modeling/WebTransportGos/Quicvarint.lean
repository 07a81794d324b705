import WebTransportGos.Library.VarintFormat

/-!
Package quicvarint as the code uses it: `Read`, `Write`, `Len` and the byte reader
that `NewReader` puts around a reader. The package is not part of the repository,
so the development is over any implementation of its documented behaviour; the
format of QUIC is one.
-/

namespace WebTransportGos

open GoReader VarintFormat

set_option autoImplicit false

structure Quicvarint where
  format : Format
  len : Nat → Nat
  /-- `ReadByte` of `quicvarint.NewReader(r)`. -/
  newReader : Reading Source UInt8
  limit_eq : format.limit = 2 ^ 62
  len_eq : ∀ number, number < 2 ^ 62 → len number = (format.write number).length
  len_two : ∀ number, 2 ^ 6 ≤ number → number < 2 ^ 14 → len number = 2
  new_reader_refines : Refines newReader Stream.readByte

namespace Quicvarint

variable (varint : Quicvarint)

abbrev write (number : Nat) : List UInt8 := varint.format.write number

abbrev decode (bytes : List UInt8) : Option (Nat × List UInt8) := varint.format.decode bytes

theorem decode_write {number : Nat} (small : number < 2 ^ 62) (suffix : List UInt8) :
    varint.decode (varint.write number ++ suffix) = some (number, suffix) :=
  Format.decode_write (varint.limit_eq ▸ small) suffix

theorem decode_lt {bytes rest : List UInt8} {number : Nat}
    (decoded : varint.decode bytes = some (number, rest)) : number < 2 ^ 62 :=
  varint.limit_eq ▸ Format.decode_lt decoded

def reference : Quicvarint where
  format := quic
  len number := (quicWrite number).length
  newReader := nextByte
  limit_eq := rfl
  len_eq _ _ := rfl
  len_two number large small := by
    have length := quic_write_length number
    rw [if_neg (Nat.not_lt.mpr large), if_pos small] at length
    exact length
  new_reader_refines := next_byte_refines

end Quicvarint

end WebTransportGos
