import WebTransportGos.H3.Frame
import WebTransportGos.H3.Packages

/-!
What the two sides of the handshake do alike: the SETTINGS they send on a stream of
their own, and the way to a HEADERS frame's payload, which is parsing the next frame,
asking for its type and allocating its announced length.
-/

namespace WebTransportGos

open GoReader H3

set_option autoImplicit false

def h3Datagram05 : Nat := 0xffd277

def enableConnectProtocol : Nat := 0x08

def enableWebTransport : Nat := 0x2b603742

def settingsEntries : List (Nat × Nat) :=
  [(h3Datagram05, 1), (enableConnectProtocol, 1), (enableWebTransport, 1)]

/-- The orders in which the two loops of `SettingsFrame.Write` visit that map. -/
structure SettingsWalks where
  length : List (Nat × Nat)
  write : List (Nat × Nat)
  length_perm : length.Perm settingsEntries
  write_perm : write.Perm settingsEntries

def SettingsWalks.same : SettingsWalks := ⟨settingsEntries, settingsEntries, .rfl, .rfl⟩

def controlStreamBytes (varint : Quicvarint) (walks : SettingsWalks) : List UInt8 :=
  varint.write 0 ++ settingsFrameWrite varint true walks.length walks.write

/-- The runtime's `maxAlloc` on 64-bit systems. -/
def maxAlloc : Nat := 2 ^ 48

def outOfRange : String := "runtime error: makeslice: len out of range"

def makeBytes (length : Nat) : Reading Source Unit :=
  if maxAlloc < length then .stop (.panic outOfRange) else pure ()

theorem make_bytes_small {length : Nat} (small : length ≤ maxAlloc) (source : Source) :
    (makeBytes length).run source = (.ok (), source) := by
  rw [makeBytes, if_neg (Nat.not_lt.mpr small)]
  rfl

theorem make_bytes_large {length : Nat} (large : maxAlloc < length) (source : Source) :
    (makeBytes length).run source = (.panic outOfRange, source) := by
  rw [makeBytes, if_pos large]
  rfl

/-- The next frame's announced length, if it is a HEADERS frame, with a buffer of that size
allocated. -/
def headersLength (varint : Quicvarint) (mismatch : Error) : Reading Source Nat := do
  match ← parseNextFrame varint with
  | .headers length => do
      makeBytes length
      pure length
  | _ => .stop (.fail mismatch)

def zeroPadded (length : Nat) (got : List UInt8) : List UInt8 :=
  got ++ List.replicate (length - got.length) 0

theorem zero_padded_full {length : Nat} {got : List UInt8} (full : got.length = length) :
    zeroPadded length got = got := by
  simp [zeroPadded, full]

section Spec

variable {varint : Quicvarint} {source : Source} {rest : List UInt8} {length : Nat}
  (mismatch : Error)

theorem headers_length_small (next : NextFrame varint (view source).bytes 0x1 length rest)
    (small : length ≤ maxAlloc) :
    ∃ left, (headersLength varint mismatch).run source = (.ok length, left) ∧
      view left = ⟨rest, (view source).ending⟩ := by
  obtain ⟨left, parsed, seen⟩ := parse_headers next
  refine ⟨left, ?_, seen⟩
  rw [headersLength, Reading.bind_ok parsed]
  exact Reading.bind_ok (make_bytes_small small left)

theorem headers_length_large (next : NextFrame varint (view source).bytes 0x1 length rest)
    (large : maxAlloc < length) :
    ∃ left, (headersLength varint mismatch).run source = (.panic outOfRange, left) := by
  obtain ⟨left, parsed, -⟩ := parse_headers next
  refine ⟨left, ?_⟩
  rw [headersLength, Reading.bind_ok parsed]
  exact Reading.bind_panic (make_bytes_large large left)

theorem headers_length_ok {left : Source}
    (returned : (headersLength varint mismatch).run source = (.ok length, left)) :
    ∃ rest, NextFrame varint (view source).bytes 0x1 length rest ∧ length ≤ maxAlloc ∧
      view left = ⟨rest, (view source).ending⟩ := by
  rw [headersLength, Reading.bind_eq_ok] at returned
  obtain ⟨frame, between, parsed, returned⟩ := returned
  obtain ⟨arrived, sameEnding⟩ := parse_next_frame_ok parsed
  cases frame with
  | data length => cases returned
  | settings frame => cases returned
  | headers announced =>
      by_cases small : announced ≤ maxAlloc
      · have sized : (makeBytes announced >>= fun _ => pure announced).run between =
            (.ok announced, between) := Reading.bind_ok (make_bytes_small small between)
        cases sized.symm.trans returned
        exact ⟨_, arrived, small, by rw [← sameEnding]⟩
      · have panicked : (makeBytes announced >>= fun _ => pure announced).run between =
            (.panic outOfRange, between) :=
          Reading.bind_panic (make_bytes_large (Nat.not_le.mp small) between)
        cases panicked.symm.trans returned

theorem headers_length_absent
    (absent : ∀ length rest, ¬NextFrame varint (view source).bytes 0x1 length rest) :
    (∃ err left, (headersLength varint mismatch).run source = (.fail err, left)) ∨
      ((view source).ending = .hang ∧
        ∃ left, (headersLength varint mismatch).run source = (.hang, left)) := by
  rcases parse_next_frame_other absent with
    ⟨frame, left, parsed, other⟩ | ⟨err, left, failed⟩ | ⟨waits, left, blocked⟩
  · refine .inl ⟨mismatch, left, ?_⟩
    rw [headersLength, Reading.bind_ok parsed]
    cases frame with
    | headers length => exact absurd rfl (other length)
    | data length => rfl
    | settings frame => rfl
  · exact .inl ⟨err, left, Reading.bind_fail failed⟩
  · exact .inr ⟨waits, left, Reading.bind_hang blocked⟩

end Spec

end WebTransportGos
