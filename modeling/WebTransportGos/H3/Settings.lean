import WebTransportGos.H3.Frame
import WebTransportGos.Library.GoMap

/-!
Package h3, frame.go: a written SETTINGS frame is parsed to the settings it was written
from. `Write` walks the map twice, to add up the length and to write the entries, in
orders of its own; the parser stores the entries in the order they come.
-/

namespace WebTransportGos.H3

open GoReader GoMap VarintFormat

set_option autoImplicit false

variable (varint : Quicvarint)

/-- What the two map walks of `Write` put on the wire for one entry. -/
def settingBytes (entry : Nat × Nat) : List UInt8 := varint.write entry.1 ++ varint.write entry.2

def settingsPayload (datagram : Bool) (walk : List (Nat × Nat)) : List UInt8 :=
  (if datagram then settingBytes varint (settingDatagram, 1) else []) ++
    walk.flatMap (settingBytes varint)

def SmallEntry (entry : Nat × Nat) : Prop := entry.1 < 2 ^ 62 ∧ entry.2 < 2 ^ 62

section Writing

variable {varint}

theorem setting_bytes_length {entry : Nat × Nat} (small : SmallEntry entry) :
    varint.len entry.1 + varint.len entry.2 = (settingBytes varint entry).length := by
  rw [settingBytes, List.length_append, varint.len_eq _ small.1, varint.len_eq _ small.2]

theorem counted_length {walk : List (Nat × Nat)} (small : ∀ entry ∈ walk, SmallEntry entry) :
    (walk.map fun entry => varint.len entry.1 + varint.len entry.2).sum =
      (walk.flatMap (settingBytes varint)).length := by
  rw [List.length_flatMap]
  congr 1
  apply List.map_congr_left
  intro entry member
  exact setting_bytes_length (small entry member)

/-- The length summed in one order is that of the payload written in another. -/
theorem settings_frame_write_eq (datagram : Bool) {lengthWalk writeWalk : List (Nat × Nat)}
    (same : lengthWalk.Perm writeWalk) (small : ∀ entry ∈ writeWalk, SmallEntry entry) :
    settingsFrameWrite varint datagram lengthWalk writeWalk =
      varint.write 0x4 ++ varint.write (settingsPayload varint datagram writeWalk).length ++
        settingsPayload varint datagram writeWalk := by
  have counted : (lengthWalk.map fun entry => varint.len entry.1 + varint.len entry.2).sum =
      (writeWalk.flatMap (settingBytes varint)).length := by
    rw [← counted_length small]
    exact (same.map _).sum_nat
  have special : varint.len settingDatagram + varint.len 1 =
      (settingBytes varint (settingDatagram, 1)).length :=
    @setting_bytes_length varint (settingDatagram, 1) ⟨by decide, by decide⟩
  have entries : (writeWalk.flatMap fun entry => varint.write entry.1 ++ varint.write entry.2) =
      writeWalk.flatMap (settingBytes varint) := rfl
  cases datagram with
  | false => simp [settingsFrameWrite, settingsPayload, counted, entries]
  | true =>
      simp only [settingsFrameWrite, settingsPayload, if_true, counted, special, entries,
        List.length_append]
      rw [Nat.add_comm]
      simp [settingBytes]

end Writing

section Parsing

variable {varint}

theorem parse_settings_entry {readDatagram : Bool} {frame : SettingsFrame} {entry : Nat × Nat}
    (small : SmallEntry entry) (ordinary : entry.1 ≠ settingDatagram)
    (fresh : frame.other entry.1 = none) (rest : List UInt8) :
    parseSettings varint readDatagram frame (settingBytes varint entry ++ rest) =
      parseSettings varint readDatagram
        { frame with other := Function.update frame.other entry.1 (some entry.2) } rest := by
  have first := varint.decode_write small.1 (varint.write entry.2 ++ rest)
  have second := varint.decode_write small.2 rest
  have present : settingBytes varint entry ++ rest ≠ [] := by
    have written : varint.write entry.1 ≠ [] :=
      Format.write_ne_nil (varint.limit_eq ▸ small.1)
    simp [settingBytes, written]
  rw [settingBytes, List.append_assoc] at present ⊢
  rw [parseSettings, if_neg present]
  split
  next absent => cases first.symm.trans absent
  next id afterId decodedId =>
    cases first.symm.trans decodedId
    split
    next absent => cases second.symm.trans absent
    next val after decodedVal =>
      cases second.symm.trans decodedVal
      rw [if_neg ordinary]
      simp only [fresh]

theorem parse_settings_datagram (frame : SettingsFrame) (rest : List UInt8) :
    parseSettings varint false frame (settingBytes varint (settingDatagram, 1) ++ rest) =
      parseSettings varint true { frame with datagram := true } rest := by
  have first := varint.decode_write (show settingDatagram < 2 ^ 62 by decide)
    (varint.write 1 ++ rest)
  have second := varint.decode_write (show 1 < 2 ^ 62 by decide) rest
  have present : settingBytes varint (settingDatagram, 1) ++ rest ≠ [] := by
    have written : varint.write settingDatagram ≠ [] :=
      Format.write_ne_nil (varint.limit_eq ▸ (by decide))
    simp [settingBytes, written]
  rw [settingBytes, List.append_assoc] at present ⊢
  rw [parseSettings, if_neg present]
  split
  next absent => cases first.symm.trans absent
  next id afterId decodedId =>
    cases first.symm.trans decodedId
    split
    next absent => cases second.symm.trans absent
    next val after decodedVal =>
      cases second.symm.trans decodedVal
      simp

/-- Entries with keys of their own are all stored. The induction is on the entries still to
come; the invariant is that none of their keys has been stored yet. -/
theorem parse_settings_entries (readDatagram : Bool) (frame : SettingsFrame)
    (entries : List (Nat × Nat)) (small : ∀ entry ∈ entries, SmallEntry entry)
    (ordinary : ∀ entry ∈ entries, entry.1 ≠ settingDatagram)
    (distinct : (entries.map Prod.fst).Nodup)
    (fresh : ∀ entry ∈ entries, frame.other entry.1 = none) :
    parseSettings varint readDatagram frame (entries.flatMap (settingBytes varint)) =
      .ok { frame with other := insertAll frame.other entries } := by
  induction entries generalizing frame with
  | nil =>
      rw [List.flatMap_nil, parseSettings, if_pos rfl]
      rfl
  | cons entry entries induction =>
      simp only [List.map_cons, List.nodup_cons] at distinct
      simp only [List.mem_cons, forall_eq_or_imp] at small ordinary fresh
      rw [List.flatMap_cons, parse_settings_entry small.1 ordinary.1 fresh.1]
      apply induction _ small.2 ordinary.2 distinct.2
      intro other member
      have apart : other.1 ≠ entry.1 := by
        intro same
        exact distinct.1 (same ▸ List.mem_map_of_mem member)
      exact (Function.update_of_ne apart _ _).trans (fresh.2 other member)

theorem parse_settings_payload {frame : SettingsFrame} {walk : List (Nat × Nat)}
    (walks : Walks frame.other walk) (small : ∀ entry ∈ walk, SmallEntry entry)
    (apart : frame.other settingDatagram = none) :
    parseSettings varint false emptySettings (settingsPayload varint frame.datagram walk) =
      .ok frame := by
  have ordinary : ∀ entry ∈ walk, entry.1 ≠ settingDatagram := by
    rintro ⟨key, value⟩ member rfl
    rw [(walks.covers _ value).mpr member] at apart
    cases apart
  have stored (readDatagram datagram : Bool) :
      parseSettings varint readDatagram ⟨datagram, fun _ => none⟩
        (walk.flatMap (settingBytes varint)) = .ok ⟨datagram, frame.other⟩ := by
    rw [parse_settings_entries _ _ walk small ordinary walks.distinct (fun _ _ => rfl),
      walks.insert_all]
  rcases frame with ⟨datagram, other⟩
  cases datagram with
  | false => exact stored false false
  | true =>
      rw [settingsPayload, if_pos rfl, parse_settings_datagram]
      exact stored true true

end Parsing

/-- What `Write` wrote is parsed to the same settings, and nothing behind it is read. -/
theorem settings_survive (frame : SettingsFrame) {lengthWalk writeWalk : List (Nat × Nat)}
    (lengthWalks : Walks frame.other lengthWalk) (writeWalks : Walks frame.other writeWalk)
    (small : ∀ id val, frame.other id = some val → id < 2 ^ 62 ∧ val < 2 ^ 62)
    (apart : frame.other settingDatagram = none)
    (bounded : (settingsPayload varint frame.datagram writeWalk).length ≤ 8192)
    (source : Source) (rest : List UInt8)
    (seen : (view source).bytes =
      settingsFrameWrite varint frame.datagram lengthWalk writeWalk ++ rest) :
    ∃ left, (parseNextFrame varint).run source = (.ok (.settings frame), left) ∧
      view left = ⟨rest, (view source).ending⟩ := by
  have entries : ∀ entry ∈ writeWalk, SmallEntry entry := by
    rintro ⟨id, val⟩ member
    exact small id val ((writeWalks.covers id val).mpr member)
  have next : NextFrame varint (view source).bytes 0x4
      (settingsPayload varint frame.datagram writeWalk).length
      (settingsPayload varint frame.datagram writeWalk ++ rest) := by
    rw [seen, settings_frame_write_eq frame.datagram (lengthWalks.perm writeWalks) entries,
      List.append_assoc, List.append_assoc]
    exact .here (varint.decode_write (by decide) _) (varint.decode_write (by omega) _) rfl
  exact parse_next_frame_settings next rfl bounded
    (parse_settings_payload writeWalks entries apart)

def threeSettings : List (Nat × Nat) := [(0xffd277, 1), (0x08, 1), (0x2b603742, 1)]

theorem three_settings_survive : ∃ left, (parseNextFrame .reference).run
      [⟨settingsFrameWrite .reference true threeSettings threeSettings.reverse ++ [0xff],
        some .eof⟩] =
    (.ok (.settings ⟨true, insertAll (fun _ => none) threeSettings⟩), left) ∧
      view left = ⟨[0xff], .fail .eof⟩ := by
  have walks : Walks (insertAll (fun _ => none) threeSettings) threeSettings :=
    walks_insert_all (by decide)
  apply settings_survive .reference ⟨true, insertAll (fun _ => none) threeSettings⟩ walks
    (walks.of_perm threeSettings.reverse_perm.symm)
  · intro id val present
    have member := (walks.covers id val).mp present
    simp [threeSettings] at member
    omega
  · decide
  · decide
  · rfl

end WebTransportGos.H3
