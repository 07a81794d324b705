import WebTransportGos.Library.Base64
import Mathlib.Algebra.Group.Nat.Defs

/-!
bjy-common, lib/util/base64.js: base64 text to bytes, as the hashes of certificates are given.
-/

namespace WebTransportGos.Util

open Base64

set_option autoImplicit false

def base64 : Text := units "ABCDEFGHIJKLMNOPQRSTUVWXYZabcdefghijklmnopqrstuvwxyz0123456789+/="

def between (low high : Char) (char : UInt16) : Bool := unit low ≤ char ∧ char ≤ unit high

/-- The characters that the replacement of `[^A-Za-z0-9\+\/\=]` leaves. -/
def kept (char : UInt16) : Bool :=
  between 'A' 'Z' char || between 'a' 'z' char || between '0' '9' char || char == unit '+' ||
    char == unit '/' || char == unit '='

def pad (text : Text) : Text :=
  if text.length % 4 = 0 then text else pad (text ++ [unit '='])
termination_by (4 - text.length % 4) % 4
decreasing_by
  rw [List.length_append, List.length_singleton]
  omega

/-- The loop, `i` being where the text stands. Every character in it has an index, and a write
behind the last byte of the array does nothing. -/
def convert : Text → Nat → List UInt8 → List UInt8
  | char1 :: char2 :: char3 :: char4 :: text, p, buffer =>
    let enc1 := base64.idxOf char1
    let enc2 := base64.idxOf char2
    let enc3 := base64.idxOf char3
    let enc4 := base64.idxOf char4
    let chr1 := enc1 <<< 2 ||| enc2 >>> 4
    let chr2 := (enc2 &&& 15) <<< 4 ||| enc3 >>> 2
    let chr3 := (enc3 &&& 3) <<< 6 ||| enc4
    let (p, buffer) := (p + 1, buffer.set p (UInt8.ofNat chr1))
    let (p, buffer) := if enc3 ≠ 64 then (p + 1, buffer.set p (UInt8.ofNat chr2)) else (p, buffer)
    let (p, buffer) := if enc4 ≠ 64 then (p + 1, buffer.set p (UInt8.ofNat chr3)) else (p, buffer)
    convert text p buffer
  | _, _, buffer => buffer

/-- A new `Uint8Array` has only zeros. -/
def base642Uint8Array (text : Text) : List UInt8 :=
  let text := pad (text.filter kept)
  convert text 0 (List.replicate (text.length * 3 / 4) 0)

section Characters

theorem base64_eq : base64 = alphabet ++ [padding] := by decide

theorem base64_ranges : base64 =
    (List.range' 65 26 ++ List.range' 97 26 ++ List.range' 48 10).map UInt16.ofNat ++
      [unit '+', unit '/', unit '='] := by decide

theorem between_iff {low high : Char} {char : UInt16} :
    between low high char = true ↔
      (unit low).toNat ≤ char.toNat ∧ char.toNat ≤ (unit high).toNat := by
  rw [between, decide_eq_true_iff]
  rfl

theorem mem_range {start count : Nat} {char : UInt16} (first : start ≤ char.toNat)
    (last : char.toNat < start + count) : char ∈ (List.range' start count).map UInt16.ofNat :=
  List.mem_map.mpr ⟨char.toNat, List.mem_range'_1.mpr ⟨first, last⟩, UInt16.ofNat_toNat⟩

/-- The expression leaves no character that has no index. -/
theorem kept_mem {char : UInt16} (left : kept char = true) : char ∈ base64 := by
  rw [base64_ranges, List.map_append, List.map_append]
  simp only [kept, Bool.or_eq_true, beq_iff_eq, between_iff] at left
  simp only [List.mem_append]
  rcases left with ((((upper | lower) | number) | plus) | slash) | equals
  · exact .inl (.inl (.inl (mem_range upper.1 (Nat.lt_succ_of_le upper.2))))
  · exact .inl (.inl (.inr (mem_range lower.1 (Nat.lt_succ_of_le lower.2))))
  · exact .inl (.inr (mem_range number.1 (Nat.lt_succ_of_le number.2)))
  · exact .inr (by rw [plus]; decide)
  · exact .inr (by rw [slash]; decide)
  · exact .inr (by rw [equals]; decide)

theorem base64_kept : ∀ char ∈ base64, kept char = true := by
  have all : base64.all kept = true := by decide
  exact List.all_eq_true.mp all

theorem index_digit {value : Nat} (less : value < 64) : base64.idxOf (digit value) = value := by
  rw [base64_eq, List.idxOf_append_of_mem (digit_mem less), digit_index less]

theorem index_padding : base64.idxOf padding = 64 := by decide

end Characters

theorem pad_eq (text : Text) :
    pad text = text ++ List.replicate ((4 - text.length % 4) % 4) padding := by
  induction text using pad.induct with
  | case1 text whole =>
    rw [pad, if_pos whole, whole]
    exact (List.append_nil text).symm
  | case2 text part induction =>
    have count : (4 - text.length % 4) % 4 = (4 - (text.length + 1) % 4) % 4 + 1 := by omega
    rw [pad, if_neg part, induction, List.length_append, List.length_singleton, count,
      List.append_assoc, List.replicate_succ]
    rfl

theorem filter_kept {text : Text} (all : ∀ char ∈ text, char ∈ base64) :
    text.filter kept = text :=
  List.filter_eq_self.mpr fun char member => base64_kept char (all char member)

theorem filter_interspersed {text clean : Text} (mixed : Interspersed text clean) :
    text.filter kept = clean.filter kept := by
  induction mixed with
  | nil => rfl
  | used char rest induction => rw [List.filter_cons, List.filter_cons, induction]
  | @other char text clean outside rest induction =>
    have dropped : ¬kept char = true := by
      intro left
      have member := kept_mem left
      rw [base64_eq, List.mem_append, List.mem_singleton] at member
      exact member.elim outside.1 outside.2
    rw [List.filter_cons_of_neg dropped, induction]

theorem encode_base64 (bytes : List UInt8) : ∀ char ∈ encode bytes, char ∈ base64 := by
  intro char member
  rw [base64_eq, List.mem_append, List.mem_singleton]
  exact encode_mem bytes char member

theorem filter_encode (bytes : List UInt8) : (encode bytes).filter kept = encode bytes :=
  filter_kept (encode_base64 bytes)

theorem filter_unpadded (bytes : List UInt8) :
    (unpadded bytes).filter kept = unpadded bytes := by
  apply filter_kept
  intro char member
  exact encode_base64 bytes char (List.mem_of_mem_filter member)

theorem pad_encode (bytes : List UInt8) :
    pad (encode bytes) = encode bytes ∧ pad (unpadded bytes) = encode bytes := by
  have whole := encode_length bytes
  have part := unpadded_length bytes
  have lacks : (4 - (unpadded bytes).length % 4) % 4 = missing bytes := by
    rw [missing] at part ⊢
    omega
  constructor
  · rw [pad_eq, whole, Nat.mul_mod_right]
    exact List.append_nil _
  · rw [pad_eq, lacks, ← encode_unpadded]

theorem joined {high low bits : Nat} (small : low < 2 ^ bits) :
    high <<< bits ||| low = high * 2 ^ bits + low := by
  rw [← Nat.shiftLeft_add_eq_or_of_lt small, Nat.shiftLeft_eq]

theorem first_byte (first second : UInt8) :
    UInt8.ofNat ((first.toNat / 4) <<< 2 ||| (first.toNat % 4 * 16 + second.toNat / 16) >>> 4) =
      first := by
  have less := first.toNat_lt
  have other := second.toNat_lt
  have rest : (first.toNat % 4 * 16 + second.toNat / 16) >>> 4 = first.toNat % 4 := by
    rw [Nat.shiftRight_eq_div_pow]
    omega
  have whole : first.toNat / 4 * 2 ^ 2 + first.toNat % 4 = first.toNat := by omega
  rw [rest, joined (by omega), whole, UInt8.ofNat_toNat]

theorem second_byte (first second third : UInt8) :
    UInt8.ofNat (((first.toNat % 4 * 16 + second.toNat / 16) &&& 15) <<< 4 |||
      (second.toNat % 16 * 4 + third.toNat / 64) >>> 2) = second := by
  have less := second.toNat_lt
  have other := third.toNat_lt
  have high : (first.toNat % 4 * 16 + second.toNat / 16) &&& 15 = second.toNat / 16 := by
    rw [Nat.and_two_pow_sub_one_eq_mod _ 4]
    omega
  have rest : (second.toNat % 16 * 4 + third.toNat / 64) >>> 2 = second.toNat % 16 := by
    rw [Nat.shiftRight_eq_div_pow]
    omega
  have whole : second.toNat / 16 * 2 ^ 4 + second.toNat % 16 = second.toNat := by omega
  rw [high, rest, joined (by omega), whole, UInt8.ofNat_toNat]

theorem third_byte (second third : UInt8) :
    UInt8.ofNat (((second.toNat % 16 * 4 + third.toNat / 64) &&& 3) <<< 6 ||| third.toNat % 64) =
      third := by
  have less := third.toNat_lt
  have high : (second.toNat % 16 * 4 + third.toNat / 64) &&& 3 = third.toNat / 64 := by
    rw [Nat.and_two_pow_sub_one_eq_mod _ 2]
    omega
  have whole : third.toNat / 64 * 2 ^ 6 + third.toNat % 64 = third.toNat := by omega
  rw [high, joined (by omega), whole, UInt8.ofNat_toNat]

theorem set_next (done : List UInt8) (old new : UInt8) (rest : List UInt8) :
    (done ++ old :: rest).set done.length new = done ++ [new] ++ rest := by
  rw [List.set_append_right _ _ (Nat.le_refl _), Nat.sub_self, List.set_cons_zero,
    List.append_assoc]
  rfl

theorem set_two (done rest : List UInt8) (first second : UInt8) :
    ((done ++ 0 :: 0 :: rest).set done.length first).set (done.length + 1) second =
      done ++ [first, second] ++ rest := by
  have next := set_next (done ++ [first]) 0 second rest
  rw [List.length_append, List.length_singleton] at next
  rw [set_next, next, List.append_assoc done]
  rfl

theorem set_three (done rest : List UInt8) (first second third : UInt8) :
    (((done ++ 0 :: 0 :: 0 :: rest).set done.length first).set (done.length + 1) second).set
      (done.length + 2) third = done ++ [first, second, third] ++ rest := by
  have next := set_next (done ++ [first, second]) 0 third rest
  have length : (done ++ [first, second]).length = done.length + 2 := List.length_append
  rw [length] at next
  rw [set_two, next, List.append_assoc done]
  rfl

theorem sextet_ne {value : Nat} (less : value < 64) : value ≠ 64 := Nat.ne_of_lt less

section Groups

variable (first second third : UInt8) (p : Nat) (buffer : List UInt8)

theorem convert_three (text : Text) :
    convert (digit (first.toNat / 4) :: digit (first.toNat % 4 * 16 + second.toNat / 16) ::
      digit (second.toNat % 16 * 4 + third.toNat / 64) :: digit (third.toNat % 64) :: text)
      p buffer =
      convert text (p + 3) (((buffer.set p first).set (p + 1) second).set (p + 2) third) := by
  rw [convert, index_digit (first_sextet first), index_digit (second_sextet first second),
    index_digit (third_sextet second third), index_digit (fourth_sextet third), first_byte,
    second_byte, third_byte, if_pos (sextet_ne (third_sextet second third))]
  dsimp only
  rw [if_pos (sextet_ne (fourth_sextet third))]

theorem convert_two :
    convert [digit (first.toNat / 4), digit (first.toNat % 4 * 16 + second.toNat / 16),
      digit (second.toNat % 16 * 4), padding] p buffer =
      (buffer.set p first).set (p + 1) second := by
  have last : second.toNat % 16 * 4 < 64 := by omega
  -- no third byte
  have second_last := second_byte first second 0
  rw [convert, index_digit (first_sextet first), index_digit (second_sextet first second),
    index_digit last, index_padding, first_byte, if_pos (sextet_ne last)]
  dsimp only
  rw [if_neg (not_not.mpr rfl)]
  dsimp only
  rw [convert]
  · exact congrArg _ second_last
  · intro _ _ _ _ _ some
    cases some

theorem convert_one :
    convert [digit (first.toNat / 4), digit (first.toNat % 4 * 16), padding, padding] p buffer =
      buffer.set p first := by
  have last : first.toNat % 4 * 16 < 64 := by omega
  have first_last := first_byte first 0
  rw [convert, index_digit (first_sextet first), index_digit last, index_padding,
    if_neg (not_not.mpr rfl)]
  dsimp only
  rw [if_neg (not_not.mpr rfl)]
  dsimp only
  rw [convert]
  · exact congrArg _ first_last
  · intro _ _ _ _ _ some
    cases some

end Groups

/-- Into an array with room for them, the loop writes the bytes of the text behind what is
there. -/
theorem convert_encode (bytes done : List UInt8) (room : Nat) :
    convert (encode bytes) done.length (done ++ List.replicate (bytes.length + room) 0) =
      done ++ bytes ++ List.replicate room 0 := by
  induction bytes using encode.induct generalizing done with
  | case1 first second third rest induction =>
    have count : (first :: second :: third :: rest).length + room =
        rest.length + room + 1 + 1 + 1 := by
      simp only [List.length_cons]
      omega
    have later := induction (done ++ [first, second, third])
    rw [List.length_append] at later
    rw [encode, convert_three, count, List.replicate_succ, List.replicate_succ,
      List.replicate_succ, set_three]
    refine later.trans ?_
    rw [List.append_assoc done]
    rfl
  | case2 first second =>
    have count : [first, second].length + room = room + 1 + 1 := Nat.add_comm 2 room
    rw [encode, convert_two, count, List.replicate_succ, List.replicate_succ, set_two]
  | case3 first =>
    have count : [first].length + room = room + 1 := Nat.add_comm 1 room
    rw [encode, convert_one, count, List.replicate_succ, set_next]
  | case4 => simp [encode, convert]

/-- The array is as long as the padded text makes it: behind the bytes stand the zeros of the
padding. -/
theorem base64_bytes {text : Text} {bytes : List UInt8}
    (spelled : Interspersed text (encode bytes) ∨ Interspersed text (unpadded bytes)) :
    base642Uint8Array text = bytes ++ List.replicate (missing bytes) 0 := by
  have cleaned : pad (text.filter kept) = encode bytes := by
    rcases spelled with whole | part
    · rw [filter_interspersed whole, filter_encode]
      exact (pad_encode bytes).1
    · rw [filter_interspersed part, filter_unpadded]
      exact (pad_encode bytes).2
  have size : (encode bytes).length * 3 / 4 = bytes.length + missing bytes := by
    rw [encode_length, missing]
    omega
  have written := convert_encode bytes [] (missing bytes)
  rw [base642Uint8Array, cleaned, size]
  exact written

/-- Of texts of base64, with or without padding, and with other characters in them. -/
theorem base642Uint8Array_iff (text : Text) (bytes : List UInt8)
    (spelled : Interspersed text (encode bytes) ∨ Interspersed text (unpadded bytes)) :
    base642Uint8Array text = bytes ↔ bytes.length % 3 = 0 := by
  have none : missing bytes = 0 ↔ bytes.length % 3 = 0 := by
    rw [missing]
    omega
  rw [base64_bytes spelled, ← none]
  constructor
  · intro same
    have length := congrArg List.length same
    rw [List.length_append, List.length_replicate] at length
    omega
  · intro whole
    rw [whole]
    exact List.append_nil _

theorem base642Uint8Array_iff_spaced :
    base642Uint8Array (units "TW Fu") = [77, 97, 110] ↔ [77, 97, 110].length % 3 = 0 := by
  apply base642Uint8Array_iff
  have text : units "TW Fu" = digit 19 :: digit 22 :: unit ' ' :: digit 5 :: [digit 46] := by
    decide
  have clean : encode [77, 97, 110] = digit 19 :: digit 22 :: digit 5 :: [digit 46] := by decide
  rw [text, clean]
  left
  exact .used _ (.used _ (.other (by decide) (interspersed_self _)))

/-- The hash of a certificate has 32 bytes, and gets a zero behind them. -/
theorem base642Uint8Array_hash :
    Interspersed (encode (List.replicate 32 7)) (encode (List.replicate 32 7)) ∧
      base642Uint8Array (encode (List.replicate 32 7)) = List.replicate 32 7 ++ [0] ∧
      base642Uint8Array (encode (List.replicate 32 7)) ≠ List.replicate 32 7 := by
  have spelled := interspersed_self (encode (List.replicate 32 7))
  have result := base64_bytes (.inl spelled)
  have zero : missing (List.replicate 32 7) = 1 := by decide
  rw [zero] at result
  refine ⟨spelled, result, ?_⟩
  rw [result]
  decide

end WebTransportGos.Util
