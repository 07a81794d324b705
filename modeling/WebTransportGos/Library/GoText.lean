import WebTransportGos.Library.Decimal
import WebTransportGos.Library.GoMap
import WebTransportGos.Library.GoReader
import Mathlib.Logic.Function.Basic

/-!
Go strings, the decimal conversions of package strconv, and the header map of
net/http. A Go string is a list of bytes. `lit` writes a constant of the source.
-/

namespace GoText

open GoReader

set_option autoImplicit false

abbrev GoString := List UInt8

def ch (char : Char) : UInt8 := UInt8.ofNat char.toNat

def lit (text : String) : GoString := text.toList.map ch

def isDigit (byte : UInt8) : Bool := ch '0' ≤ byte ∧ byte ≤ ch '9'

def isLower (byte : UInt8) : Bool := ch 'a' ≤ byte ∧ byte ≤ ch 'z'

def isUpper (byte : UInt8) : Bool := ch 'A' ≤ byte ∧ byte ≤ ch 'Z'

def isAlphanumeric (byte : UInt8) : Bool := isLower byte || isUpper byte || isDigit byte

/-- `strings.ToLower` on ASCII text; header names are ASCII tokens. -/
def toLower (text : GoString) : GoString :=
  text.map fun byte => if isUpper byte then byte + 32 else byte

def cutAt (sep : UInt8) (text : GoString) : GoString × GoString :=
  text.span fun byte => byte != sep

/-- The bytes before and behind the last `sep`; `none` when there is none. -/
def cutLast (sep : UInt8) (text : GoString) : Option (GoString × GoString) :=
  if sep ∈ text then
    let (after, before) := text.reverse.span fun byte => byte != sep
    some ((before.drop 1).reverse, after.reverse)
  else none

def trimPrefix (text before : GoString) : GoString :=
  if before.isPrefixOf text then text.drop before.length else text

def decimal (number : Nat) : GoString :=
  if number = 0 then [ch '0']
  else (Nat.digits 10 number).reverse.map fun digit => UInt8.ofNat (48 + digit)

def itoa (number : Int) : GoString :=
  if number < 0 then ch '-' :: decimal number.natAbs else decimal number.natAbs

def parseDigits (text : GoString) : Option Nat :=
  if text ≠ [] ∧ text.all isDigit then
    some (Nat.ofDigits 10 (text.reverse.map fun byte => byte.toNat - 48))
  else none

/-- `strconv.ParseInt(text, 10, 64)`, which is also `strconv.Atoi` on 64 bits. -/
def parseInt (text : GoString) : Except Error Int :=
  let (negative, digits) : Bool × GoString := match text with
    | [] => (false, [])
    | sign :: rest =>
        if sign = ch '-' then (true, rest)
        else if sign = ch '+' then (false, rest)
        else (false, text)
  match parseDigits digits with
  | none => .error (.text "invalid syntax")
  | some number =>
      if negative then
        if number ≤ 2 ^ 63 then .ok (-number) else .error (.text "value out of range")
      else if number < 2 ^ 63 then .ok number else .error (.text "value out of range")

theorem decimal_eq (number : Nat) : decimal number = Decimal.print number := rfl

theorem parse_digits_decimal (number : Nat) : parseDigits (decimal number) = some number := by
  have digits : (decimal number).all isDigit = true :=
    List.all_eq_true.mpr (Decimal.print_digits number)
  rw [parseDigits, if_pos ⟨Decimal.print_ne_nil number, digits⟩, decimal_eq,
    ← Decimal.value_eq_of_digits, Decimal.value_print]

theorem decimal_unsigned (number : Nat) :
    ∃ first rest, decimal number = first :: rest ∧ first ≠ ch '-' ∧ first ≠ ch '+' := by
  rcases present : decimal number with _ | ⟨first, rest⟩
  · exact absurd present (Decimal.print_ne_nil number)
  · have digit := Decimal.print_digits number first (by
      rw [← decimal_eq, present]
      exact List.mem_cons_self)
    refine ⟨first, rest, rfl, ?_, ?_⟩
    · rintro rfl
      cases digit
    · rintro rfl
      cases digit

/-- `strconv.Atoi` undoes `strconv.Itoa` on 64 bits. -/
theorem parse_int_itoa {number : Int} (low : -2 ^ 63 ≤ number) (high : number < 2 ^ 63) :
    parseInt (itoa number) = .ok number := by
  rw [itoa]
  split
  next negative =>
    have fits : number.natAbs ≤ 2 ^ 63 := by omega
    have sign : -(number.natAbs : Int) = number := by omega
    simp only [parseInt, parse_digits_decimal, if_true, if_pos fits, sign]
  next positive =>
    have fits : number.natAbs < 2 ^ 63 := by omega
    have sign : (number.natAbs : Int) = number := by omega
    rcases decimal_unsigned number.natAbs with ⟨first, rest, same, minus, plus⟩
    have parsed := parse_digits_decimal number.natAbs
    rw [same] at parsed ⊢
    simp only [parseInt, if_neg minus, if_neg plus, parsed, if_pos fits, sign]
    rfl

example : itoa 404 = lit "404" ∧ parseInt (lit "+200") = .ok 200 := by decide

def isTokenByte (byte : UInt8) : Bool :=
  isAlphanumeric byte || (lit "!#$%&'*+-.^_|~").contains byte || byte == 0x60

def canonicalBytes : Bool → GoString → GoString
  | _, [] => []
  | upper, byte :: rest =>
      let letter :=
        if upper && isLower byte then byte - 32
        else if !upper && isUpper byte then byte + 32
        else byte
      letter :: canonicalBytes (letter == ch '-') rest

/-- `textproto.CanonicalMIMEHeaderKey`: a key that is not a token stays as it is. -/
def canonicalKey (key : GoString) : GoString :=
  if key.all isTokenByte then canonicalBytes true key else key

theorem every_byte (Property : UInt8 → Prop) (all : ∀ byte : Fin 256, Property (UInt8.ofFin byte))
    (byte : UInt8) : Property byte := UInt8.ofFin_toFin byte ▸ all byte.toFin

theorem token_to_lower {key : GoString} (token : key.all isTokenByte = true) :
    (toLower key).all isTokenByte = true := by
  have letter := every_byte (fun byte => isTokenByte byte = true →
    isTokenByte (if isUpper byte then byte + 32 else byte) = true) (by decide +kernel)
  rw [List.all_eq_true] at token ⊢
  intro byte member
  rcases List.mem_map.mp member with ⟨before, present, rfl⟩
  exact letter before (token before present)

/-- The canonical form does not depend on the case of the letters. -/
theorem canonical_bytes_to_lower (upper : Bool) (key : GoString) :
    canonicalBytes upper (toLower key) = canonicalBytes upper key := by
  have letter (upper : Bool) := every_byte (fun byte =>
    let lowered := if isUpper byte then byte + 32 else byte
    (if upper && isLower lowered then lowered - 32
      else if !upper && isUpper lowered then lowered + 32 else lowered) =
    if upper && isLower byte then byte - 32
      else if !upper && isUpper byte then byte + 32 else byte) (by
        cases upper <;> decide +kernel)
  induction key generalizing upper with
  | nil => rfl
  | cons byte key induction =>
      rw [toLower] at induction ⊢
      rw [List.map_cons, canonicalBytes, canonicalBytes, letter upper byte, induction]

def CanonicalToken (key : GoString) : Prop := key.all isTokenByte = true ∧ canonicalKey key = key

theorem CanonicalToken.to_lower {key : GoString} (canonical : CanonicalToken key) :
    canonicalKey (toLower key) = key := by
  have same := canonical.2
  rw [canonicalKey, if_pos canonical.1] at same
  rw [canonicalKey, if_pos (token_to_lower canonical.1), canonical_bytes_to_lower, same]

/-- A Go map from keys to values: `none` for an absent key. -/
abbrev Header := GoString → Option (List GoString)

namespace Header

def empty : Header := fun _ => none

def values (header : Header) (key : GoString) : List GoString := (header key).getD []

def add (header : Header) (key value : GoString) : Header :=
  Function.update header (canonicalKey key)
    (some (header.values (canonicalKey key) ++ [value]))

def set (header : Header) (key value : GoString) : Header :=
  Function.update header (canonicalKey key) (some [value])

/-- `walk` is an order in which a `range` over the map may visit it. -/
abbrev Walks (header : Header) (walk : List (GoString × List GoString)) : Prop :=
  GoMap.Walks header walk

/-- Values added one by one under a canonical key stand behind those that were there. -/
theorem add_all (header : Header) {key name : GoString} (names : canonicalKey name = key)
    (added : List GoString) :
    added.foldl (fun header value => header.add name value) header =
      if added = [] then header
      else Function.update header key (some (header.values key ++ added)) := by
  induction added generalizing header with
  | nil => rfl
  | cons value added induction =>
      rw [List.foldl_cons, induction, if_neg (List.cons_ne_nil _ _), add, names]
      split
      next last => rw [last]
      next more =>
        rw [Function.update_idem, values, Function.update_self, Option.getD_some,
          List.append_assoc]
        rfl

def nonempty (header : Header) : Header := fun key => (header key).filter (· ≠ [])

end Header

end GoText
