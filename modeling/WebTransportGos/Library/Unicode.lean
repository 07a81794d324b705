import Mathlib.Data.List.Basic
import Mathlib.Algebra.Group.Nat.Defs

/-!
The two encodings of a text: UTF-8, in bytes, and UTF-16, in the code units of a JavaScript
string.
-/

namespace Unicode

set_option autoImplicit false

def utf8 (chars : List Char) : List UInt8 := chars.flatMap String.utf8EncodeChar

/-- From the second plane on, a character takes a pair of surrogates. -/
def utf16Char (char : Char) : List UInt16 :=
  if char.toNat < 0x10000 then [UInt16.ofNat char.toNat]
  else
    [UInt16.ofNat (0xD800 + (char.toNat - 0x10000) / 0x400),
      UInt16.ofNat (0xDC00 + (char.toNat - 0x10000) % 0x400)]

def utf16 (chars : List Char) : List UInt16 := chars.flatMap utf16Char

section Rules

variable {char : Char}

theorem scalar_lt (char : Char) : char.toNat < 0x110000 := by
  have valid := char.valid
  rw [UInt32.isValidChar, Nat.isValidChar] at valid
  show char.val.toNat < 0x110000
  omega

theorem utf16_cons (char : Char) (chars : List Char) :
    utf16 (char :: chars) = utf16Char char ++ utf16 chars := rfl

theorem utf16_unit (small : char.toNat < 0x10000) :
    utf16Char char = [UInt16.ofNat char.toNat] := if_pos small

theorem encode_one (small : char.toNat < 0x80) :
    String.utf8EncodeChar char = [UInt8.ofNat char.toNat] :=
  if_pos (Nat.le_of_lt_succ small)

theorem encode_two (above : 0x80 ≤ char.toNat) (small : char.toNat < 0x800) :
    String.utf8EncodeChar char =
      [UInt8.ofNat (0xC0 + char.toNat / 64), UInt8.ofNat (0x80 + char.toNat % 64)] := by
  have first : char.toNat / 64 % 32 + 0xC0 = 0xC0 + char.toNat / 64 := by omega
  rw [← first, Nat.add_comm 0x80]
  exact (if_neg (Nat.not_le.mpr above)).trans (if_pos (Nat.le_of_lt_succ small))

theorem encode_three (above : 0x800 ≤ char.toNat) (small : char.toNat < 0x10000) :
    String.utf8EncodeChar char =
      [UInt8.ofNat (0xE0 + char.toNat / 4096), UInt8.ofNat (0x80 + char.toNat / 64 % 64),
        UInt8.ofNat (0x80 + char.toNat % 64)] := by
  have first : char.toNat / 4096 % 16 + 0xE0 = 0xE0 + char.toNat / 4096 := by omega
  have more : 0x80 ≤ char.toNat := by omega
  rw [← first, Nat.add_comm 0x80, Nat.add_comm 0x80]
  exact (if_neg (Nat.not_le.mpr more)).trans
    ((if_neg (Nat.not_le.mpr above)).trans (if_pos (Nat.le_of_lt_succ small)))

theorem encode_four (above : 0x10000 ≤ char.toNat) :
    String.utf8EncodeChar char =
      [UInt8.ofNat (0xF0 + char.toNat / 262144), UInt8.ofNat (0x80 + char.toNat / 4096 % 64),
        UInt8.ofNat (0x80 + char.toNat / 64 % 64), UInt8.ofNat (0x80 + char.toNat % 64)] := by
  have less := scalar_lt char
  have first : char.toNat / 262144 % 8 + 0xF0 = 0xF0 + char.toNat / 262144 := by omega
  have more : 0x800 ≤ char.toNat := by omega
  have most : 0x80 ≤ char.toNat := by omega
  rw [← first, Nat.add_comm 0x80, Nat.add_comm 0x80, Nat.add_comm 0x80]
  exact (if_neg (Nat.not_le.mpr most)).trans
    ((if_neg (Nat.not_le.mpr more)).trans (if_neg (Nat.not_le.mpr above)))

/-- No byte of a longer encoding is a character of its own. -/
theorem encode_high (large : 0x80 ≤ char.toNat) :
    ∀ byte ∈ String.utf8EncodeChar char, 0x80 ≤ byte.toNat := by
  have lead {high value : Nat} (above : 0x80 ≤ high) (fits : high + value < 256) :
      0x80 ≤ (UInt8.ofNat (high + value)).toNat := by
    rw [UInt8.toNat_ofNat', Nat.mod_eq_of_lt fits]
    exact Nat.le_add_right_of_le above
  have next (value : Nat) : 0x80 ≤ (UInt8.ofNat (0x80 + value % 64)).toNat :=
    lead (Nat.le_refl _) (by omega)
  have less := scalar_lt char
  by_cases two : char.toNat < 0x800
  · rw [encode_two large two]
    simp only [List.forall_mem_cons]
    exact ⟨lead (by decide) (by omega), next _, List.forall_mem_nil _⟩
  by_cases three : char.toNat < 0x10000
  · rw [encode_three (Nat.not_lt.mp two) three]
    simp only [List.forall_mem_cons]
    exact ⟨lead (by decide) (by omega), next _, next _, List.forall_mem_nil _⟩
  · rw [encode_four (Nat.not_lt.mp three)]
    simp only [List.forall_mem_cons]
    exact ⟨lead (by decide) (by omega), next _, next _, next _, List.forall_mem_nil _⟩

end Rules

end Unicode
