import Mathlib.Algebra.Group.Nat.Defs
import Mathlib.Data.Nat.Log

/-!
Natural numbers below `2 ^ 53` as doubles (IEEE 754 binary64), and their eight bytes in
little-endian order. Such a number is kept exactly: the exponent is that of its highest bit,
and the bits behind it fill the fraction from above.
-/

namespace Double

set_option autoImplicit false

def bits (number : Nat) : Nat :=
  if number = 0 then 0
  else (1023 + number.log2) * 2 ^ 52 + (number * 2 ^ (52 - number.log2) - 2 ^ 52)

/-- The value of the word, if it is a natural number below `2 ^ 53`; both zeros are. -/
def natural (word : Nat) : Option Nat :=
  if word = 0 ∨ word = 2 ^ 63 then some 0
  else
    let shift := 1075 - word / 2 ^ 52
    let significand := 2 ^ 52 + word % 2 ^ 52
    if 1023 ≤ word / 2 ^ 52 ∧ word / 2 ^ 52 ≤ 1075 ∧ significand % 2 ^ shift = 0 then
      some (significand / 2 ^ shift)
    else none

section Value

variable {number : Nat}

theorem significand_range (positive : number ≠ 0) (small : number < 2 ^ 53) :
    number.log2 ≤ 52 ∧ 2 ^ 52 ≤ number * 2 ^ (52 - number.log2) ∧
      number * 2 ^ (52 - number.log2) < 2 ^ 53 := by
  have low := Nat.log2_self_le positive
  have high := @Nat.lt_log2_self number
  have exponent : number.log2 < 53 := (Nat.log2_lt positive).mpr small
  have whole : number.log2 + (52 - number.log2) = 52 := by omega
  have next : number.log2 + 1 + (52 - number.log2) = 53 := by omega
  refine ⟨by omega, ?_, ?_⟩
  · calc 2 ^ 52 = 2 ^ number.log2 * 2 ^ (52 - number.log2) := by rw [← Nat.pow_add, whole]
      _ ≤ number * 2 ^ (52 - number.log2) := Nat.mul_le_mul_right _ low
  · calc number * 2 ^ (52 - number.log2)
        < 2 ^ (number.log2 + 1) * 2 ^ (52 - number.log2) :=
          Nat.mul_lt_mul_of_pos_right high (Nat.two_pow_pos _)
      _ = 2 ^ 53 := by rw [← Nat.pow_add, next]

theorem bits_lt (small : number < 2 ^ 53) : bits number < 2 ^ 63 := by
  rw [bits]
  split
  · exact Nat.two_pow_pos _
  next positive =>
    obtain ⟨exponent, low, high⟩ := significand_range positive small
    omega

theorem natural_bits (small : number < 2 ^ 53) : natural (bits number) = some number := by
  by_cases zero : number = 0
  · subst zero
    rfl
  · obtain ⟨exponent, low, high⟩ := significand_range zero small
    let significand := number * 2 ^ (52 - number.log2)
    have fraction : significand - 2 ^ 52 < 2 ^ 52 := by
      dsimp only [significand]
      omega
    have word : bits number = (significand - 2 ^ 52) + 2 ^ 52 * (1023 + number.log2) := by
      rw [bits, if_neg zero, Nat.add_comm, Nat.mul_comm (1023 + number.log2)]
    have quotient : bits number / 2 ^ 52 = 1023 + number.log2 := by
      rw [word, Nat.add_mul_div_left _ _ (Nat.two_pow_pos _), Nat.div_eq_of_lt fraction,
        Nat.zero_add]
    have remainder : bits number % 2 ^ 52 = significand - 2 ^ 52 := by
      rw [word, Nat.add_mul_mod_self_left, Nat.mod_eq_of_lt fraction]
    have whole : 2 ^ 52 + (significand - 2 ^ 52) = significand := by
      dsimp only [significand]
      omega
    have shift : 1075 - (1023 + number.log2) = 52 - number.log2 := by omega
    have other : ¬(bits number = 0 ∨ bits number = 2 ^ 63) := by
      have less := bits_lt small
      rw [word] at less ⊢
      omega
    rw [natural, if_neg other, quotient, remainder, whole, shift]
    dsimp only [significand]
    rw [Nat.mul_mod_left, Nat.mul_div_left _ (Nat.two_pow_pos _), if_pos]
    exact ⟨Nat.le_add_right _ _, by omega, rfl⟩

end Value

def littleEndian : Nat → Nat → List UInt8
  | 0, _ => []
  | width + 1, number => UInt8.ofNat (number % 256) :: littleEndian width (number / 256)

def fromLittleEndian : List UInt8 → Nat
  | [] => 0
  | byte :: rest => byte.toNat + 256 * fromLittleEndian rest

theorem little_endian_length (width number : Nat) : (littleEndian width number).length = width := by
  induction width generalizing number with
  | zero => rfl
  | succ width induction => rw [littleEndian, List.length_cons, induction]

theorem from_little_endian {width number : Nat} (small : number < 256 ^ width) :
    fromLittleEndian (littleEndian width number) = number := by
  induction width generalizing number with
  | zero =>
      rw [Nat.pow_zero] at small
      rw [littleEndian, fromLittleEndian]
      omega
  | succ width induction =>
      have less : number / 256 < 256 ^ width :=
        Nat.div_lt_of_lt_mul (by rwa [Nat.mul_comm, ← Nat.pow_succ])
      have byte : (UInt8.ofNat (number % 256)).toNat = number % 256 := by
        rw [UInt8.toNat_ofNat']
        omega
      rw [littleEndian, fromLittleEndian, induction less, byte]
      omega

def bytes (number : Nat) : List UInt8 := littleEndian 8 (bits number)

def first (buffer : List UInt8) : Option Nat :=
  if buffer.length < 8 then none else natural (fromLittleEndian (buffer.take 8))

theorem bytes_length (number : Nat) : (bytes number).length = 8 := little_endian_length 8 _

theorem first_bytes {number : Nat} (small : number < 2 ^ 53) : first (bytes number) = some number := by
  have less : bits number < 256 ^ 8 := (bits_lt small).trans (by decide)
  have whole : (bytes number).take 8 = bytes number :=
    List.take_of_length_le (bytes_length number).le
  rw [first, if_neg (by rw [bytes_length]; omega), whole, bytes, from_little_endian less,
    natural_bits small]

example : bytes 1645147141407 = [0, 240, 81, 147, 166, 240, 119, 66] := by decide

end Double
