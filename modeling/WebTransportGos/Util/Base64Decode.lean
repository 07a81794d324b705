import WebTransportGos.Library.Unicode
import WebTransportGos.Util.Base64

/-!
bjy-common, lib/util/base64.js: base64 text to the text whose UTF-8 it is. The decoder knows the
characters of one, two and three bytes.
-/

namespace WebTransportGos.Util

open Base64 Unicode

set_option autoImplicit false

/-- The loop, `i` being where the text stands. Behind its end `charCodeAt` is NaN, which an
operation on bits takes for zero. -/
def utf8Decode : Text → Text
  | [] => []
  | c :: text =>
    if c.toNat < 128 then UInt16.ofNat c.toNat :: utf8Decode text
    else if 191 < c.toNat ∧ c.toNat < 224 then
      let c2 := (text.getD 0 0).toNat
      UInt16.ofNat ((c.toNat &&& 31) <<< 6 ||| (c2 &&& 63)) :: utf8Decode (text.drop 1)
    else
      let c2 := (text.getD 0 0).toNat
      let c3 := (text.getD 1 0).toNat
      UInt16.ofNat ((c.toNat &&& 15) <<< 12 ||| (c2 &&& 63) <<< 6 ||| (c3 &&& 63)) ::
        utf8Decode (text.drop 2)
termination_by text => text.length
decreasing_by
  · exact Nat.lt_succ_self _
  · rw [List.length_drop, List.length_cons]
    omega
  · rw [List.length_drop, List.length_cons]
    omega

def decodeGroups : Text → Text → Text
  | char1 :: char2 :: char3 :: char4 :: text, output =>
    let enc1 := base64.idxOf char1
    let enc2 := base64.idxOf char2
    let enc3 := base64.idxOf char3
    let enc4 := base64.idxOf char4
    let chr1 := enc1 <<< 2 ||| enc2 >>> 4
    let chr2 := (enc2 &&& 15) <<< 4 ||| enc3 >>> 2
    let chr3 := (enc3 &&& 3) <<< 6 ||| enc4
    let output := output ++ [UInt16.ofNat chr1]
    let output := if enc3 ≠ 64 then output ++ [UInt16.ofNat chr2] else output
    let output := if enc4 ≠ 64 then output ++ [UInt16.ofNat chr3] else output
    decodeGroups text output
  | _, output => output

def base64Decode (text : Text) : Text := utf8Decode (decodeGroups (pad (text.filter kept)) [])

section Characters

variable {c c2 c3 : UInt16} {value : Nat} (text : Text)

theorem decode_one (small : c.toNat < 128) :
    utf8Decode (c :: text) = UInt16.ofNat c.toNat :: utf8Decode text := by
  rw [utf8Decode, if_pos small]

theorem decode_two (lead : c.toNat = 0xC0 + value / 64) (last : c2.toNat = 0x80 + value % 64)
    (small : value < 0x800) :
    utf8Decode (c :: c2 :: text) = UInt16.ofNat value :: utf8Decode text := by
  have wide : ¬c.toNat < 128 := by omega
  have two : 191 < c.toNat ∧ c.toNat < 224 := by omega
  have high : c.toNat &&& 31 = value / 64 := by
    rw [Nat.and_two_pow_sub_one_eq_mod _ 5]
    omega
  have low : c2.toNat &&& 63 = value % 64 := by
    rw [Nat.and_two_pow_sub_one_eq_mod _ 6]
    omega
  have whole : value / 64 * 2 ^ 6 + value % 64 = value := by omega
  rw [utf8Decode, if_neg wide, if_pos two]
  dsimp only
  rw [List.getD_cons_zero, high, low, joined (by omega), whole]
  rfl

/-- The four high bits are all that is taken of the first byte. -/
theorem decode_three (lead : 0xE0 ≤ c.toNat) (first : c.toNat % 16 = value / 4096)
    (second : c2.toNat = 0x80 + value / 64 % 64) (last : c3.toNat = 0x80 + value % 64) :
    utf8Decode (c :: c2 :: c3 :: text) = UInt16.ofNat value :: utf8Decode text := by
  have wide : ¬c.toNat < 128 := by omega
  have three : ¬(191 < c.toNat ∧ c.toNat < 224) := by omega
  have high : c.toNat &&& 15 = value / 4096 := by
    rw [Nat.and_two_pow_sub_one_eq_mod _ 4]
    exact first
  have middle : c2.toNat &&& 63 = value / 64 % 64 := by
    rw [Nat.and_two_pow_sub_one_eq_mod _ 6]
    omega
  have low : c3.toNat &&& 63 = value % 64 := by
    rw [Nat.and_two_pow_sub_one_eq_mod _ 6]
    omega
  have rest : (value / 64 % 64) <<< 6 ||| value % 64 = value % 4096 := by
    rw [joined (by omega)]
    omega
  have whole : value / 4096 * 2 ^ 12 + value % 4096 = value := by omega
  rw [utf8Decode, if_neg wide, if_neg three]
  dsimp only
  rw [List.getD_cons_zero, List.getD_cons_succ, List.getD_cons_zero, high, middle, low,
    Nat.or_assoc, rest, joined (by omega), whole]
  rfl

end Characters

def bytesText (bytes : List UInt8) : Text := bytes.map UInt8.toUInt16

theorem byte_toNat {value : Nat} (small : value < 256) :
    (UInt8.ofNat value).toUInt16.toNat = value := by
  rw [UInt8.toNat_toUInt16, UInt8.toNat_ofNat']
  exact Nat.mod_eq_of_lt small

theorem decode_char {char : Char} (small : char.toNat < 0x10000) (text : Text) :
    utf8Decode (bytesText (String.utf8EncodeChar char) ++ text) =
      UInt16.ofNat char.toNat :: utf8Decode text := by
  by_cases one : char.toNat < 0x80
  · have unit := byte_toNat (Nat.lt_trans one (by decide))
    rw [encode_one one]
    have decoded := decode_one text (unit.symm ▸ one)
    rw [unit] at decoded
    exact decoded
  by_cases two : char.toNat < 0x800
  · rw [encode_two (Nat.not_lt.mp one) two]
    exact decode_two text (byte_toNat (by omega)) (byte_toNat (by omega)) two
  · have lead : 0xE0 + char.toNat / 4096 < 256 := by omega
    rw [encode_three (Nat.not_lt.mp two) small]
    apply decode_three text
    · rw [byte_toNat lead]
      exact Nat.le_add_right _ _
    · rw [byte_toNat lead]
      omega
    · exact byte_toNat (by omega)
    · exact byte_toNat (by omega)

theorem decode_astral {char : Char} (large : 0x10000 ≤ char.toNat) (text : Text) :
    ∃ rest, utf8Decode (bytesText (String.utf8EncodeChar char) ++ text) =
      UInt16.ofNat (char.toNat / 64) :: rest := by
  have less := scalar_lt char
  have lead : 0xF0 + char.toNat / 262144 < 256 := by omega
  rw [encode_four large]
  refine ⟨_, decode_three _ ?_ ?_ ?_ ?_⟩
  · rw [byte_toNat lead]
    omega
  · rw [byte_toNat lead]
    omega
  · rw [byte_toNat (by omega)]
    omega
  · exact byte_toNat (by omega)

theorem astral_differs {char : Char} (large : 0x10000 ≤ char.toNat) (text chars : Text) :
    utf8Decode (bytesText (String.utf8EncodeChar char) ++ text) ≠ utf16Char char ++ chars := by
  have less := scalar_lt char
  obtain ⟨rest, decoded⟩ := decode_astral large text
  rw [decoded, utf16Char, if_neg (Nat.not_lt.mpr large)]
  intro same
  have head := congrArg UInt16.toNat (List.cons.inj same).1
  have read : char.toNat / 64 < 2 ^ 16 := by omega
  have surrogate : 0xD800 + (char.toNat - 0x10000) / 0x400 < 2 ^ 16 := by omega
  rw [UInt16.toNat_ofNat', UInt16.toNat_ofNat', Nat.mod_eq_of_lt read,
    Nat.mod_eq_of_lt surrogate] at head
  omega

theorem utf8Decode_iff (chars : List Char) :
    utf8Decode (bytesText (utf8 chars)) = utf16 chars ↔ ∀ char ∈ chars, char.toNat < 0x10000 := by
  induction chars with
  | nil =>
    refine iff_of_true ?_ (List.forall_mem_nil _)
    rw [utf8, utf16, bytesText, List.flatMap_nil, List.flatMap_nil, List.map_nil, utf8Decode]
  | cons char chars induction =>
    have split : bytesText (utf8 (char :: chars)) =
        bytesText (String.utf8EncodeChar char) ++ bytesText (utf8 chars) := List.map_append
    rw [List.forall_mem_cons, split, utf16_cons]
    by_cases small : char.toNat < 0x10000
    · rw [decode_char small, utf16_unit small, List.singleton_append, List.cons_inj_right, induction]
      exact (and_iff_right small).symm
    · have differs := astral_differs (Nat.not_lt.mp small) (bytesText (utf8 chars)) (utf16 chars)
      exact iff_of_false differs fun all => small all.1

theorem value_unit {value : Nat} {byte : UInt8} (small : value < 2 ^ 8)
    (same : UInt8.ofNat value = byte) : UInt16.ofNat value = byte.toUInt16 := by
  apply UInt16.toNat_inj.mp
  rw [← same, byte_toNat small, UInt16.toNat_ofNat']
  omega

section Groups

variable (first second third : UInt8) (output : Text)

theorem first_unit :
    UInt16.ofNat ((first.toNat / 4) <<< 2 ||| (first.toNat % 4 * 16 + second.toNat / 16) >>> 4) =
      first.toUInt16 := by
  have less := first.toNat_lt
  have other := second.toNat_lt
  apply value_unit _ (first_byte first second)
  apply Nat.or_lt_two_pow
  · rw [Nat.shiftLeft_eq]
    omega
  · rw [Nat.shiftRight_eq_div_pow]
    omega

theorem second_unit :
    UInt16.ofNat (((first.toNat % 4 * 16 + second.toNat / 16) &&& 15) <<< 4 |||
      (second.toNat % 16 * 4 + third.toNat / 64) >>> 2) = second.toUInt16 := by
  have less := second.toNat_lt
  have other := third.toNat_lt
  apply value_unit _ (second_byte first second third)
  apply Nat.or_lt_two_pow
  · rw [Nat.shiftLeft_eq, Nat.and_two_pow_sub_one_eq_mod _ 4]
    omega
  · rw [Nat.shiftRight_eq_div_pow]
    omega

theorem third_unit :
    UInt16.ofNat (((second.toNat % 16 * 4 + third.toNat / 64) &&& 3) <<< 6 ||| third.toNat % 64) =
      third.toUInt16 := by
  have less := third.toNat_lt
  apply value_unit _ (third_byte second third)
  apply Nat.or_lt_two_pow
  · rw [Nat.shiftLeft_eq, Nat.and_two_pow_sub_one_eq_mod _ 2]
    omega
  · omega

theorem groups_three (text : Text) :
    decodeGroups (digit (first.toNat / 4) :: digit (first.toNat % 4 * 16 + second.toNat / 16) ::
      digit (second.toNat % 16 * 4 + third.toNat / 64) :: digit (third.toNat % 64) :: text)
      output = decodeGroups text (output ++ bytesText [first, second, third]) := by
  rw [decodeGroups, index_digit (first_sextet first), index_digit (second_sextet first second),
    index_digit (third_sextet second third), index_digit (fourth_sextet third),
    if_pos (sextet_ne (third_sextet second third)), if_pos (sextet_ne (fourth_sextet third)),
    first_unit, second_unit, third_unit, List.append_assoc, List.append_assoc]
  rfl

theorem groups_two :
    decodeGroups [digit (first.toNat / 4), digit (first.toNat % 4 * 16 + second.toNat / 16),
      digit (second.toNat % 16 * 4), padding] output = output ++ bytesText [first, second] := by
  have last : second.toNat % 16 * 4 < 64 := by omega
  -- no third byte
  have second_last := second_unit first second 0
  rw [decodeGroups, index_digit (first_sextet first), index_digit (second_sextet first second),
    index_digit last, index_padding, if_pos (sextet_ne last), if_neg (not_not.mpr rfl), first_unit,
    decodeGroups]
  · refine (congrArg (fun unit => output ++ [first.toUInt16] ++ [unit]) second_last).trans ?_
    exact List.append_assoc _ _ _
  · intro _ _ _ _ _ some
    cases some

theorem groups_one :
    decodeGroups [digit (first.toNat / 4), digit (first.toNat % 4 * 16), padding, padding] output =
      output ++ bytesText [first] := by
  have last : first.toNat % 4 * 16 < 64 := by omega
  have first_last := first_unit first 0
  rw [decodeGroups, index_digit (first_sextet first), index_digit last, index_padding,
    if_neg (not_not.mpr rfl), decodeGroups]
  · exact congrArg (fun unit => output ++ [unit]) first_last
  · intro _ _ _ _ _ some
    cases some

end Groups

theorem groups_encode (bytes : List UInt8) (output : Text) :
    decodeGroups (encode bytes) output = output ++ bytesText bytes := by
  induction bytes using encode.induct generalizing output with
  | case1 first second third rest induction =>
    rw [encode, groups_three, induction, List.append_assoc]
    rfl
  | case2 first second => rw [encode, groups_two]
  | case3 first => rw [encode, groups_one]
  | case4 => simp [encode, decodeGroups, bytesText]

/-- The loop runs over the same text, whether it came with its padding or without. -/
theorem cleaned {text : Text} {bytes : List UInt8}
    (spelled : Interspersed text (encode bytes) ∨ Interspersed text (unpadded bytes)) :
    pad (text.filter kept) = encode bytes := by
  cases spelled with
  | inl whole =>
    rw [filter_interspersed whole, filter_encode]
    exact (pad_encode bytes).1
  | inr part =>
    rw [filter_interspersed part, filter_unpadded]
    exact (pad_encode bytes).2

/-- Of the base64 of a text's UTF-8, with or without padding, and with other characters in it. -/
theorem base64Decode_iff (text : Text) (chars : List Char)
    (spelled : Interspersed text (encode (utf8 chars)) ∨
      Interspersed text (unpadded (utf8 chars))) :
    base64Decode text = utf16 chars ↔ ∀ char ∈ chars, char.toNat < 0x10000 := by
  rw [base64Decode, cleaned spelled, groups_encode]
  exact utf8Decode_iff chars

theorem base64Decode_accent :
    base64Decode (units "w6k=") = utf16 ['é'] ↔ ∀ char ∈ ['é'], char.toNat < 0x10000 := by
  apply base64Decode_iff
  have text : units "w6k=" = encode (utf8 ['é']) := by decide
  rw [text]
  exact .inl (interspersed_self _)

end WebTransportGos.Util
