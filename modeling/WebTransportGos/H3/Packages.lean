import WebTransportGos.Quicvarint
import WebTransportGos.H3.Qpack

/-!
The third-party packages behind package h3, taken together.
-/

namespace WebTransportGos.H3

open GoReader GoText

set_option autoImplicit false

structure Packages where
  varint : Quicvarint
  qpack : Qpack
  /-- `httpguts.PunycodeHostPort`. -/
  punycodeHostPort : GoString → Except Error GoString
  punycode_ascii : ∀ host : GoString, (∀ byte ∈ host, byte < 0x80) →
    punycodeHostPort host = .ok host

/-- Raw literal field lines, ASCII hosts only. -/
def Packages.reference : Packages where
  varint := .reference
  qpack := literalQpack
  punycodeHostPort host :=
    if host.all (· < 0x80) then .ok host else .error (.text "idna: invalid label")
  punycode_ascii host ascii := if_pos (List.all_eq_true.mpr fun byte member => by
    simpa using ascii byte member)

end WebTransportGos.H3
