import Mathlib.Data.Nat.Digits.Lemmas

/-!
Decimal numbers in ASCII: the digits of a number without leading zeros, and the value of
digits read from the left, as a parser accumulates it, exactly or in double precision.
-/

namespace Decimal

set_option autoImplicit false

def isDigit (byte : UInt8) : Bool := 48 ≤ byte ∧ byte ≤ 57

def print (number : Nat) : List UInt8 :=
  if number = 0 then [48]
  else (Nat.digits 10 number).reverse.map fun digit => UInt8.ofNat (48 + digit)

def push (number : Nat) (byte : UInt8) : Nat := number * 10 + (byte.toNat - 48)

def value (bytes : List UInt8) : Nat := bytes.foldl push 0

theorem to_nat_digit {digit : Nat} (small : digit < 10) :
    (UInt8.ofNat (48 + digit)).toNat = 48 + digit := by
  rw [UInt8.toNat_ofNat']
  exact Nat.mod_eq_of_lt (by omega)

theorem print_ne_nil (number : Nat) : print number ≠ [] := by
  rw [print]
  split
  · simp
  next positive => simpa using Nat.digits_ne_nil_iff_ne_zero.mpr positive

theorem print_digits (number : Nat) : ∀ byte ∈ print number, isDigit byte = true := by
  intro byte member
  rw [print] at member
  split at member
  · rw [List.mem_singleton.mp member]
    rfl
  · rcases List.mem_map.mp member with ⟨digit, present, rfl⟩
    have small : digit < 10 := Nat.digits_lt_base (by decide) (List.mem_reverse.mp present)
    have read := to_nat_digit small
    simp only [isDigit, UInt8.le_iff_toNat_le, read, Bool.decide_and, Bool.and_eq_true,
      decide_eq_true_eq]
    constructor
    · exact Nat.le_add_right 48 digit
    · change 48 + digit ≤ 57
      omega

theorem value_eq_of_digits (bytes : List UInt8) :
    value bytes = Nat.ofDigits 10 (bytes.reverse.map fun byte => byte.toNat - 48) := by
  induction bytes using List.reverseRecOn with
  | nil => rfl
  | append_singleton bytes byte induction =>
      rw [value] at induction ⊢
      rw [List.foldl_append, induction, List.reverse_append, List.map_append,
        List.reverse_singleton, List.map_singleton, List.singleton_append, Nat.ofDigits_cons,
        Nat.add_comm, Nat.mul_comm]
      rfl

theorem value_print (number : Nat) : value (print number) = number := by
  rw [value_eq_of_digits, print]
  split
  next zero =>
    rw [zero]
    rfl
  · have digits : (Nat.digits 10 number).map (fun digit => (UInt8.ofNat (48 + digit)).toNat - 48) =
        Nat.digits 10 number := by
      conv_rhs => rw [← List.map_id (Nat.digits 10 number)]
      apply List.map_congr_left
      intro digit member
      rw [to_nat_digit (Nat.digits_lt_base (by decide) member)]
      exact Nat.add_sub_cancel_left 48 digit
    rw [← List.map_reverse, List.reverse_reverse, List.map_map]
    exact (congrArg (Nat.ofDigits 10) digits).trans (Nat.ofDigits_digits 10 number)

theorem print_length (number : Nat) {count : Nat} (positive : 0 < count) :
    (print number).length ≤ count ↔ number < 10 ^ count := by
  rw [print]
  split
  next zero =>
    rw [zero, List.length_singleton]
    exact iff_of_true positive (Nat.pow_pos (by decide))
  · rw [List.length_map, List.length_reverse]
    exact Nat.digits_length_le_iff (by decide) number

/-- Only zero begins with the digit zero, and it has no other digit. -/
theorem print_zero_first {number : Nat} {rest : List UInt8} (first : print number = 48 :: rest) :
    rest = [] := by
  rw [print] at first
  split at first
  · cases first
    rfl
  next positive =>
    exfalso
    have nonempty : Nat.digits 10 number ≠ [] := Nat.digits_ne_nil_iff_ne_zero.mpr positive
    have last : (Nat.digits 10 number).getLast nonempty ≠ 0 :=
      Nat.getLast_digit_ne_zero 10 positive
    have head : ((Nat.digits 10 number).reverse.map fun digit => UInt8.ofNat (48 + digit)).head? =
        some (UInt8.ofNat (48 + (Nat.digits 10 number).getLast nonempty)) := by
      rw [List.head?_map, List.head?_reverse, List.getLast?_eq_some_getLast nonempty]
      rfl
    rw [first, List.head?_cons, Option.some.injEq] at head
    have small : (Nat.digits 10 number).getLast nonempty < 10 :=
      Nat.digits_lt_base (by decide) (List.getLast_mem nonempty)
    have read := congrArg UInt8.toNat head
    rw [to_nat_digit small] at read
    change 48 = 48 + (Nat.digits 10 number).getLast nonempty at read
    omega

/-- Digits without a leading zero are those of their value. -/
theorem print_value {bytes : List UInt8} (digits : ∀ byte ∈ bytes, isDigit byte = true)
    (some : bytes ≠ []) (first : ∀ rest, bytes = 48 :: rest → rest = []) :
    print (value bytes) = bytes := by
  have bounds (byte : UInt8) (member : byte ∈ bytes) : 48 ≤ byte.toNat ∧ byte.toNat ≤ 57 := by
    have digit := digits byte member
    rw [isDigit, decide_eq_true_eq] at digit
    exact digit
  have last (nonempty : (bytes.reverse.map fun byte => byte.toNat - 48) ≠ [])
      (long : ∀ rest, bytes ≠ 48 :: rest) :
      (bytes.reverse.map fun byte => byte.toNat - 48).getLast nonempty ≠ 0 := by
    rcases bytes with _ | ⟨byte, rest⟩
    · exact absurd rfl some
    · have bound := bounds byte List.mem_cons_self
      rw [List.getLast_map, List.getLast_reverse]
      intro zero
      have same : byte = 48 := by
        apply UInt8.toNat_inj.mp
        change byte.toNat = 48
        dsimp only [List.head_cons] at zero
        omega
      exact long rest (by rw [same])
  by_cases zero : ∃ rest, bytes = 48 :: rest
  · rcases zero with ⟨rest, rfl⟩
    rw [first rest rfl]
    rfl
  · have nonzero (rest : List UInt8) : bytes ≠ 48 :: rest := fun same => zero ⟨rest, same⟩
    have read : Nat.digits 10 (value bytes) = bytes.reverse.map fun byte => byte.toNat - 48 := by
      rw [value_eq_of_digits]
      apply Nat.digits_ofDigits 10 (by decide)
      · intro digit member
        rcases List.mem_map.mp member with ⟨byte, present, rfl⟩
        have bound := bounds byte (List.mem_reverse.mp present)
        omega
      · intro nonempty
        exact last nonempty nonzero
    have positive : value bytes ≠ 0 := by
      intro none
      rw [none, Nat.digits_zero] at read
      exact some (List.reverse_eq_nil_iff.mp (List.map_eq_nil_iff.mp read.symm))
    rw [print, if_neg positive, read, ← List.map_reverse, List.reverse_reverse, List.map_map]
    conv_rhs => rw [← List.map_id bytes]
    apply List.map_congr_left
    intro byte member
    have bound := bounds byte member
    have same : 48 + (byte.toNat - 48) = byte.toNat := by omega
    simp only [Function.comp_apply, same, UInt8.ofNat_toNat, id_eq]

theorem print_shift {number : Nat} (positive : 0 < number) (count : Nat) :
    print (number * 10 ^ count) = print number ++ List.replicate count 48 := by
  have whole : number * 10 ^ count ≠ 0 := Nat.mul_ne_zero (Nat.pos_iff_ne_zero.mp positive)
    (Nat.pow_pos (by decide)).ne'
  rw [print, print, if_neg whole, if_neg (Nat.pos_iff_ne_zero.mp positive), Nat.mul_comm,
    Nat.digits_base_pow_mul (by decide) positive, List.reverse_append, List.map_append,
    List.reverse_replicate, List.map_replicate]
  rfl

/-- The double that is nearest to the number, the even one of two. Overflow, from `2 ^ 1024`
on, is left out. -/
def nearestDouble (number : Nat) : Nat :=
  if number < 2 ^ 53 then number
  else
    let unit := 2 ^ (Nat.log2 number - 52)
    let below := number / unit
    let rest := number % unit
    if 2 * rest < unit ∨ 2 * rest = unit ∧ below % 2 = 0 then below * unit
    else (below + 1) * unit

def pushDouble (number : Nat) (byte : UInt8) : Nat :=
  nearestDouble (nearestDouble (number * 10) + (byte.toNat - 48))

def valueDouble (bytes : List UInt8) : Nat := bytes.foldl pushDouble 0

theorem nearest_double_exact {number : Nat} (safe : number < 2 ^ 53) :
    nearestDouble number = number := if_pos safe

theorem value_double_exact {bytes : List UInt8} (safe : value bytes < 2 ^ 53) :
    valueDouble bytes = value bytes := by
  induction bytes using List.reverseRecOn with
  | nil => rfl
  | append_singleton bytes byte induction =>
      rw [value, List.foldl_append, List.foldl_cons, List.foldl_nil, push] at safe ⊢
      have before : bytes.foldl push 0 * 10 < 2 ^ 53 := by omega
      have exact : bytes.foldl pushDouble 0 = bytes.foldl push 0 := by
        apply induction
        rw [value]
        omega
      rw [valueDouble, List.foldl_append, List.foldl_cons, List.foldl_nil, pushDouble, exact,
        nearest_double_exact before]
      exact nearest_double_exact safe

example : valueDouble (print (2 ^ 53 + 1)) = 2 ^ 53 := by decide +kernel

end Decimal
