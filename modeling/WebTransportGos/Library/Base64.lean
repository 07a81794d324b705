import Mathlib.Data.List.Basic
import Mathlib.Data.List.GetD

/-!
The standard base64 text of bytes. A text is a list of UTF-16 code units, as a JavaScript
string is.
-/

namespace Base64

set_option autoImplicit false

abbrev Text := List UInt16

def unit (char : Char) : UInt16 := UInt16.ofNat char.toNat

def units (text : String) : Text := text.toList.map unit

def alphabet : Text := units "ABCDEFGHIJKLMNOPQRSTUVWXYZabcdefghijklmnopqrstuvwxyz0123456789+/"

def padding : UInt16 := unit '='

def digit (value : Nat) : UInt16 := alphabet.getD value padding

def encode : List UInt8 → Text
  | first :: second :: third :: rest =>
    digit (first.toNat / 4) :: digit (first.toNat % 4 * 16 + second.toNat / 16) ::
      digit (second.toNat % 16 * 4 + third.toNat / 64) :: digit (third.toNat % 64) :: encode rest
  | [first, second] =>
    [digit (first.toNat / 4), digit (first.toNat % 4 * 16 + second.toNat / 16),
      digit (second.toNat % 16 * 4), padding]
  | [first] => [digit (first.toNat / 4), digit (first.toNat % 4 * 16), padding, padding]
  | [] => []

def unpadded (bytes : List UInt8) : Text := (encode bytes).filter fun char => char != padding

/-- The first text is the second with characters put in that base64 does not use. -/
inductive Interspersed : Text → Text → Prop
  | nil : Interspersed [] []
  | used (char : UInt16) {text clean : Text} (rest : Interspersed text clean) :
    Interspersed (char :: text) (char :: clean)
  | other {char : UInt16} {text clean : Text} (outside : char ∉ alphabet ∧ char ≠ padding)
    (rest : Interspersed text clean) : Interspersed (char :: text) clean

def missing (bytes : List UInt8) : Nat := (3 - bytes.length % 3) % 3

section Rules

theorem alphabet_nodup : alphabet.Nodup := by decide

theorem alphabet_length : alphabet.length = 64 := rfl

theorem interspersed_self (text : Text) : Interspersed text text := by
  induction text with
  | nil => exact .nil
  | cons char text induction => exact .used char induction

theorem digit_mem {value : Nat} (less : value < 64) : digit value ∈ alphabet := by
  rw [digit, List.getD_eq_getElem _ _ (alphabet_length ▸ less)]
  apply List.getElem_mem

theorem padding_outside : padding ∉ alphabet := by decide

theorem digit_ne_padding {value : Nat} (less : value < 64) : digit value ≠ padding := by
  intro same
  exact padding_outside (same ▸ digit_mem less)

theorem digit_index {value : Nat} (less : value < 64) : alphabet.idxOf (digit value) = value := by
  rw [digit, List.getD_eq_getElem _ _ (alphabet_length ▸ less)]
  exact alphabet_nodup.idxOf_getElem _ _

theorem first_sextet (first : UInt8) : first.toNat / 4 < 64 := by
  have less := first.toNat_lt
  omega

theorem second_sextet (first second : UInt8) :
    first.toNat % 4 * 16 + second.toNat / 16 < 64 := by
  have less := second.toNat_lt
  omega

theorem third_sextet (second third : UInt8) :
    second.toNat % 16 * 4 + third.toNat / 64 < 64 := by
  have less := third.toNat_lt
  omega

theorem fourth_sextet (third : UInt8) : third.toNat % 64 < 64 := Nat.mod_lt _ (by decide)

theorem encode_length (bytes : List UInt8) :
    (encode bytes).length = 4 * ((bytes.length + 2) / 3) := by
  induction bytes using encode.induct with
  | case1 first second third rest induction =>
    simp only [encode, List.length_cons, induction]
    omega
  | case2 first second => simp [encode]
  | case3 first => simp [encode]
  | case4 => simp [encode]

theorem encode_mem (bytes : List UInt8) :
    ∀ char ∈ encode bytes, char ∈ alphabet ∨ char = padding := by
  induction bytes using encode.induct with
  | case1 first second third rest induction =>
    simp only [encode, List.forall_mem_cons]
    exact ⟨.inl (digit_mem (first_sextet first)), .inl (digit_mem (second_sextet first second)),
      .inl (digit_mem (third_sextet second third)), .inl (digit_mem (fourth_sextet third)),
      induction⟩
  | case2 first second =>
    have last : second.toNat % 16 * 4 < 64 := by omega
    simp only [encode, List.forall_mem_cons]
    exact ⟨.inl (digit_mem (first_sextet first)), .inl (digit_mem (second_sextet first second)),
      .inl (digit_mem last), .inr trivial, List.forall_mem_nil _⟩
  | case3 first =>
    have last : first.toNat % 4 * 16 < 64 := by omega
    simp only [encode, List.forall_mem_cons]
    exact ⟨.inl (digit_mem (first_sextet first)), .inl (digit_mem last), .inr trivial, .inr trivial,
      List.forall_mem_nil _⟩
  | case4 => exact List.forall_mem_nil _

theorem unpadded_digit {value : Nat} {rest : Text} (less : value < 64) :
    (digit value :: rest).filter (fun char => char != padding) =
      digit value :: rest.filter fun char => char != padding :=
  List.filter_cons_of_pos (bne_iff_ne.mpr (digit_ne_padding less))

theorem encode_unpadded (bytes : List UInt8) :
    encode bytes = unpadded bytes ++ List.replicate (missing bytes) padding := by
  induction bytes using encode.induct with
  | case1 first second third rest induction =>
    have same : missing (first :: second :: third :: rest) = missing rest := by
      simp only [missing, List.length_cons]
      omega
    rw [unpadded] at induction
    rw [unpadded, encode, unpadded_digit (first_sextet first),
      unpadded_digit (second_sextet first second), unpadded_digit (third_sextet second third),
      unpadded_digit (fourth_sextet third), same]
    simp only [List.cons_append]
    rw [← induction]
  | case2 first second =>
    have last : second.toNat % 16 * 4 < 64 := by omega
    rw [unpadded, encode, unpadded_digit (first_sextet first),
      unpadded_digit (second_sextet first second), unpadded_digit last]
    rfl
  | case3 first =>
    have last : first.toNat % 4 * 16 < 64 := by omega
    rw [unpadded, encode, unpadded_digit (first_sextet first), unpadded_digit last]
    rfl
  | case4 =>
    rw [unpadded, encode]
    rfl

theorem unpadded_length (bytes : List UInt8) :
    (unpadded bytes).length + missing bytes = 4 * ((bytes.length + 2) / 3) := by
  rw [← encode_length, encode_unpadded bytes, List.length_append, List.length_replicate]

end Rules

end Base64
