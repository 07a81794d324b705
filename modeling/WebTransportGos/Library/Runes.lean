import WebTransportGos.Library.Unicode

/-!
Bytes as Go reads them as text: the characters whose encodings stand in them, and
U+FFFD for every other byte. `mapRunes` is `strings.Map` of a function that drops nothing.
-/

namespace Runes

open Unicode

set_option autoImplicit false

def replacement : Char := '\uFFFD'

/-- The character whose encoding the bytes start with. -/
def decodeRune (bytes : List UInt8) : Option Char :=
  ByteArray.utf8DecodeChar? bytes.toByteArray 0

def mapRunes (mapping : Char → Char) : List UInt8 → List UInt8
  | [] => []
  | byte :: bytes => match decodeRune (byte :: bytes) with
    | none => String.utf8EncodeChar (mapping replacement) ++ mapRunes mapping bytes
    | some char =>
        String.utf8EncodeChar (mapping char) ++ mapRunes mapping (bytes.drop (char.utf8Size - 1))
termination_by bytes => bytes.length
decreasing_by
  · exact Nat.lt_succ_self _
  · rw [List.length_drop, List.length_cons]
    omega

def Plain (bytes : List UInt8) : Prop :=
  ∀ char : Char, 0x80 ≤ char.toNat → ¬String.utf8EncodeChar char <:+: bytes

section Decoding

variable {bytes : List UInt8} {byte : UInt8} {char : Char}

theorem decode_rune_iff :
    decodeRune bytes = some char ↔ String.utf8EncodeChar char <+: bytes := by
  constructor
  · intro decoded
    obtain ⟨rest, split⟩ := ByteArray.exists_of_utf8DecodeChar?_eq_some decoded
    have lists := congrArg (fun array => array.data.toList) split
    rw [ByteArray.data_append, Array.toList_append, List.toList_data_toByteArray,
      List.toList_data_toByteArray] at lists
    exact ⟨rest.data.toList, lists.symm⟩
  · intro starts
    obtain ⟨rest, split⟩ := starts
    rw [decodeRune, ← split, List.toByteArray_append]
    exact ByteArray.utf8DecodeChar?_utf8EncodeChar_append

theorem size_one_iff : char.utf8Size = 1 ↔ char.toNat < 0x80 := by
  rw [Char.utf8Size_eq_one_iff, UInt32.le_iff_toNat_le]
  exact Nat.lt_succ_iff.symm

theorem encode_small (small : char.toNat < 0x80) (starts : String.utf8EncodeChar char <+: byte :: bytes) :
    String.utf8EncodeChar char = [byte] := by
  have length := String.length_utf8EncodeChar char
  rw [size_one_iff.mpr small] at length
  obtain ⟨first, single⟩ := List.length_eq_one_iff.mp length
  rw [single] at starts ⊢
  rw [(List.cons_prefix_cons.mp starts).1]

theorem Plain.within {part : List UInt8} (plain : Plain bytes) (inside : part <:+: bytes) :
    Plain part :=
  fun char large found => plain char large (found.trans inside)

/-- What the bytes start with. -/
inductive Head (bytes : List UInt8) : Prop where
  | invalid (nothing : decodeRune bytes = none)
  | small (char : Char) (less : char.toNat < 0x80) (starts : decodeRune bytes = some char)
  | large (char : Char) (above : 0x80 ≤ char.toNat) (starts : decodeRune bytes = some char)

theorem head (bytes : List UInt8) : Head bytes := by
  cases decoded : decodeRune bytes with
  | none => exact .invalid decoded
  | some char =>
    by_cases less : char.toNat < 0x80
    · exact .small char less decoded
    · exact .large char (Nat.not_lt.mp less) decoded

end Decoding

section Mapping

variable {mapping : Char → Char} {bytes : List UInt8} {byte : UInt8} {char : Char}

theorem map_invalid (nothing : decodeRune (byte :: bytes) = none) :
    mapRunes mapping (byte :: bytes) =
      String.utf8EncodeChar (mapping replacement) ++ mapRunes mapping bytes := by
  rw [mapRunes, nothing]

theorem map_some (starts : decodeRune (byte :: bytes) = some char) :
    mapRunes mapping (byte :: bytes) =
      String.utf8EncodeChar (mapping char) ++
        mapRunes mapping (bytes.drop (char.utf8Size - 1)) := by
  rw [mapRunes, starts]

theorem map_small (starts : decodeRune (byte :: bytes) = some char) (less : char.toNat < 0x80) :
    mapRunes mapping (byte :: bytes) =
      String.utf8EncodeChar (mapping char) ++ mapRunes mapping bytes := by
  rw [map_some starts, size_one_iff.mpr less]
  rfl

/-- A byte that is not the first of a character is the same alone. -/
theorem alone_invalid (nothing : decodeRune (byte :: bytes) = none) :
    decodeRune [byte] = none := by
  by_contra found
  obtain ⟨char, decoded⟩ := Option.ne_none_iff_exists'.mp found
  have longer : [byte] <+: byte :: bytes := ⟨bytes, rfl⟩
  rw [decode_rune_iff.mpr ((decode_rune_iff.mp decoded).trans longer)] at nothing
  cases nothing

theorem alone_small (starts : decodeRune (byte :: bytes) = some char) (less : char.toNat < 0x80) :
    decodeRune [byte] = some char := by
  have single := encode_small less (decode_rune_iff.mp starts)
  exact decode_rune_iff.mpr (single ▸ List.prefix_refl _)

def mapAlone (mapping : Char → Char) (bytes : List UInt8) : List UInt8 :=
  bytes.flatMap fun byte => mapRunes mapping [byte]

theorem alone_cons (byte : UInt8) (bytes : List UInt8) :
    mapAlone mapping (byte :: bytes) = mapRunes mapping [byte] ++ mapAlone mapping bytes := rfl

theorem alone_append (first second : List UInt8) :
    mapAlone mapping (first ++ second) = mapAlone mapping first ++ mapAlone mapping second :=
  List.flatMap_append

theorem single_invalid (nothing : decodeRune [byte] = none) :
    mapRunes mapping [byte] = String.utf8EncodeChar (mapping replacement) := by
  rw [map_invalid nothing, mapRunes, List.append_nil]

theorem single_small (starts : decodeRune [byte] = some char) (less : char.toNat < 0x80) :
    mapRunes mapping [byte] = String.utf8EncodeChar (mapping char) := by
  rw [map_small starts less, mapRunes, List.append_nil]

theorem map_first (short : ∀ char : Char, 0x80 ≤ char.toNat →
    ¬String.utf8EncodeChar char <+: byte :: bytes) :
    mapRunes mapping (byte :: bytes) = mapRunes mapping [byte] ++ mapRunes mapping bytes := by
  cases head (byte :: bytes) with
  | invalid nothing => rw [map_invalid nothing, single_invalid (alone_invalid nothing)]
  | small char less starts =>
    rw [map_small starts less, single_small (alone_small starts less) less]
  | large char above starts => exact absurd (decode_rune_iff.mp starts) (short char above)

theorem map_plain (plain : Plain bytes) : mapRunes mapping bytes = mapAlone mapping bytes := by
  induction bytes with
  | nil =>
    rw [mapRunes]
    rfl
  | cons byte bytes induction =>
    have later := induction (plain.within (List.suffix_cons byte bytes).isInfix)
    rw [map_first fun char above starts => plain char above starts.isInfix, later, alone_cons]

theorem map_append {first second : List UInt8} (plain : Plain (first ++ second)) :
    mapRunes mapping (first ++ second) = mapRunes mapping first ++ mapRunes mapping second := by
  rw [map_plain plain, alone_append, map_plain (plain.within (List.prefix_append _ _).isInfix),
    map_plain (plain.within (List.suffix_append _ _).isInfix)]

theorem map_flatten {pieces : List (List UInt8)} (plain : Plain pieces.flatten) :
    (pieces.map (mapRunes mapping)).flatten = mapRunes mapping pieces.flatten := by
  induction pieces with
  | nil =>
    rw [List.map_nil, List.flatten_nil, mapRunes]
  | cons piece pieces induction =>
    rw [List.flatten_cons] at plain
    have later := induction (plain.within (List.suffix_append _ _).isInfix)
    rw [List.map_cons, List.flatten_cons, List.flatten_cons, map_append plain, later]

theorem alone_high (high : ∀ byte ∈ bytes, 0x80 ≤ byte.toNat)
    (fixes : mapping replacement = replacement) :
    (mapAlone mapping bytes).length = 3 * bytes.length := by
  induction bytes with
  | nil => rfl
  | cons byte bytes induction =>
    obtain ⟨first, later⟩ := List.forall_mem_cons.mp high
    have nothing : decodeRune [byte] = none := by
      by_contra found
      obtain ⟨char, decoded⟩ := Option.ne_none_iff_exists'.mp found
      have starts := decode_rune_iff.mp decoded
      have small : char.toNat < 0x80 := by
        have length := starts.length_le
        have positive := char.utf8Size_pos
        rw [String.length_utf8EncodeChar, List.length_singleton] at length
        exact size_one_iff.mp (Nat.le_antisymm length positive)
      have same := encode_small small starts
      rw [encode_one small] at same
      rw [← (List.cons.inj same).1, UInt8.toNat_ofNat'] at first
      omega
    have three : (String.utf8EncodeChar replacement).length = 3 := by decide
    rw [alone_cons, List.length_append, induction later, single_invalid nothing, fixes, three,
      List.length_cons]
    omega

theorem map_character {rest : List UInt8} :
    mapRunes mapping (String.utf8EncodeChar char ++ rest) =
      String.utf8EncodeChar (mapping char) ++ mapRunes mapping rest := by
  have starts : decodeRune (String.utf8EncodeChar char ++ rest) = some char :=
    decode_rune_iff.mpr (List.prefix_append _ _)
  have width := String.length_utf8EncodeChar char
  cases encoded : String.utf8EncodeChar char with
  | nil => exact absurd encoded String.utf8EncodeChar_ne_nil
  | cons byte bytes =>
    rw [encoded, List.cons_append] at starts
    rw [encoded] at width
    have behind : char.utf8Size - 1 = bytes.length := by
      rw [← width]
      rfl
    rw [List.cons_append, map_some starts, behind, List.drop_left]

theorem map_wide {rest : List UInt8} (above : 0x80 ≤ char.toNat)
    (fixes : mapping replacement = replacement)
    (bound : (mapRunes mapping rest).length ≤ (mapAlone mapping rest).length) :
    (mapRunes mapping (String.utf8EncodeChar char ++ rest)).length <
      (mapAlone mapping (String.utf8EncodeChar char ++ rest)).length := by
  have several : 2 ≤ char.utf8Size := by
    have positive := char.utf8Size_pos
    have more := mt size_one_iff.mp (Nat.not_lt.mpr above)
    omega
  have most := (mapping char).utf8Size_le_four
  rw [map_character, alone_append, List.length_append, List.length_append,
    alone_high (encode_high above) fixes, String.length_utf8EncodeChar,
    String.length_utf8EncodeChar]
  omega

theorem map_length (fixes : mapping replacement = replacement) (bytes : List UInt8) :
    (mapRunes mapping bytes).length ≤ (mapAlone mapping bytes).length ∧
      (¬Plain bytes → (mapRunes mapping bytes).length < (mapAlone mapping bytes).length) := by
  induction size : bytes.length using Nat.strongRecOn generalizing bytes with
  | ind count induction =>
    cases bytes with
    | nil =>
      refine ⟨by rw [mapRunes]; exact Nat.zero_le _, fun wide => ?_⟩
      refine absurd ?_ wide
      intro char _ inside
      exact String.utf8EncodeChar_ne_nil (List.infix_nil.mp inside)
    | cons byte bytes =>
      by_cases starts : ∃ char : Char, 0x80 ≤ char.toNat ∧ String.utf8EncodeChar char <+: byte :: bytes
      · obtain ⟨char, above, rest, split⟩ := starts
        have shorter : rest.length < count := by
          have length := congrArg List.length split
          have positive := char.utf8Size_pos
          rw [List.length_append, String.length_utf8EncodeChar, size] at length
          omega
        have strict := map_wide above fixes (induction rest.length shorter rest rfl).1
        rw [split] at strict
        exact ⟨Nat.le_of_lt strict, fun _ => strict⟩
      · have short (char : Char) (above : 0x80 ≤ char.toNat) :
            ¬String.utf8EncodeChar char <+: byte :: bytes :=
          fun first => starts ⟨char, above, first⟩
        have later := induction bytes.length (by rw [← size]; exact Nat.lt_succ_self _) bytes rfl
        rw [map_first short, alone_cons, List.length_append, List.length_append]
        refine ⟨Nat.add_le_add_left later.1 _, fun wide => Nat.add_lt_add_left (later.2 ?_) _⟩
        intro plain
        apply wide
        intro char above inside
        cases List.infix_cons_iff.mp inside with
        | inl first => exact short char above first
        | inr behind => exact plain char above behind

theorem alone_iff (fixes : mapping replacement = replacement) :
    mapRunes mapping bytes = mapAlone mapping bytes ↔ Plain bytes := by
  constructor
  · intro same
    by_contra wide
    have shorter := (map_length fixes bytes).2 wide
    rw [same] at shorter
    exact Nat.lt_irrefl _ shorter
  · exact map_plain

end Mapping

end Runes
