import WebTransportGos.Library.Decimal

/-!
The text of a number in JavaScript, for whole numbers that are not negative. A double is
written with as few digits as it takes to tell it from the others, and with an exponent from
`10 ^ 21` on.
-/

namespace NumberText

open Decimal

set_option autoImplicit false

/-- The multiple of `unit` that is read as the double, the nearer one of two. -/
def multiple (double unit : Nat) : Option Nat :=
  let below := double / unit
  let first := nearestDouble (below * unit) = double
  let second := nearestDouble ((below + 1) * unit) = double
  let nearer := double - below * unit ≤ (below + 1) * unit - double
  if first ∧ (nearer ∨ ¬second) then some below
  else if second then some (below + 1)
  else none

/-- The digits, as a number, and how many places stand behind them. -/
def shortest (double : Nat) : Nat → Nat × Nat
  | 0 => (double, 0)
  | places + 1 => match multiple double (10 ^ (places + 1)) with
    | some digits => (digits, places + 1)
    | none => shortest double places

def point : UInt8 := 46

def exponent : List UInt8 := [101, 43]

def withExponent (digits : List UInt8) (power : Nat) : List UInt8 :=
  match digits with
  | [] => []
  | [digit] => digit :: exponent ++ print power
  | digit :: more => digit :: point :: more ++ exponent ++ print power

def numberText (double : Nat) : List UInt8 :=
  if double = 0 then [48]
  else
    let (digits, places) := shortest double (print double).length
    let length := (print digits).length + places
    if length ≤ 21 then print digits ++ List.replicate places 48
    else withExponent (print digits) (length - 1)

example : numberText (10 ^ 21) = [49, 101, 43, 50, 49] := by decide +kernel

section Rules

theorem nearest_double_safe {number double : Nat} (safe : double < 2 ^ 53)
    (read : nearestDouble number = double) : number = double := by
  by_cases small : number < 2 ^ 53
  · rwa [nearest_double_exact small] at read
  · exfalso
    have large := Nat.not_lt.mp small
    have nonzero : number ≠ 0 := by omega
    have bits : 53 ≤ Nat.log2 number := (Nat.le_log2 nonzero).mpr large
    have highest : 2 ^ (Nat.log2 number - 52) * 2 ^ 52 ≤ number := by
      rw [← Nat.pow_add, Nat.sub_add_cancel (by omega)]
      exact Nat.log2_self_le nonzero
    have two : 2 ≤ 2 ^ (Nat.log2 number - 52) :=
      Nat.le_self_pow (by omega) 2
    rw [nearestDouble, if_neg small] at read
    dsimp only at read
    generalize 2 ^ (Nat.log2 number - 52) = unit at *
    have below : 2 ^ 52 ≤ number / unit := by
      rw [Nat.le_div_iff_mul_le (by omega), Nat.mul_comm]
      exact highest
    have least : 2 ^ 52 * 2 ≤ number / unit * unit := Nat.mul_le_mul below two
    have more : number / unit * unit ≤ (number / unit + 1) * unit :=
      Nat.mul_le_mul_right unit (Nat.le_succ _)
    split at read <;> omega

theorem multiple_safe {double unit digits : Nat} (safe : double < 2 ^ 53)
    (found : multiple double unit = some digits) : digits * unit = double := by
  unfold multiple at found
  dsimp only at found
  split at found
  next first =>
    cases found
    exact nearest_double_safe safe first.1
  split at found
  next second =>
    cases found
    exact nearest_double_safe safe second
  · cases found

theorem shortest_safe {double : Nat} (safe : double < 2 ^ 53) (most : Nat) :
    (shortest double most).1 * 10 ^ (shortest double most).2 = double := by
  induction most with
  | zero => simp [shortest]
  | succ places induction =>
    rw [shortest]
    split
    next digits found => exact multiple_safe safe found
    · exact induction

theorem number_text_safe {double : Nat} (safe : double < 2 ^ 53) :
    numberText double = print double := by
  rw [numberText]
  split
  next zero =>
    rw [zero]
    rfl
  next positive =>
    have whole := shortest_safe safe (print double).length
    generalize shortest double (print double).length = found at whole
    rcases found with ⟨digits, places⟩
    dsimp only at whole ⊢
    have some : 0 < digits := by
      apply Nat.pos_of_ne_zero
      rintro rfl
      rw [Nat.zero_mul] at whole
      exact positive whole.symm
    have text := print_shift some places
    rw [whole] at text
    have short : (print double).length ≤ 21 :=
      (print_length double (by decide)).mpr (Nat.lt_of_lt_of_le safe (by decide))
    rw [text, List.length_append, List.length_replicate] at short
    rw [if_pos short, text]

end Rules

end NumberText
