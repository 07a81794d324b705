import WebTransportGos.H3.Frame
import WebTransportGos.Library.GoMap

/-!
Package h3, frame.go: the payloads that `parseSettingsFrame` accepts, and the settings it
makes of them. A payload is a sequence of pairs of varints. The loop keeps the duplicates of
H3_DATAGRAM in a flag and those of all other identifiers in the map itself.
-/

namespace WebTransportGos.H3

open GoReader GoMap VarintFormat

set_option autoImplicit false

variable (varint : Quicvarint)

/-- The bytes are these pairs of identifiers and values, and nothing else. -/
inductive Pairs : List UInt8 → List (Nat × Nat) → Prop where
  | nil : Pairs [] []
  | cons {bytes afterId rest : List UInt8} {id val : Nat} {entries : List (Nat × Nat)}
      (identified : varint.decode bytes = some (id, afterId))
      (valued : varint.decode afterId = some (val, rest))
      (later : Pairs rest entries) : Pairs bytes ((id, val) :: entries)

structure SettingsGrammar (payload : List UInt8) (entries : List (Nat × Nat)) : Prop where
  pairs : Pairs varint payload entries
  distinct : (entries.map Prod.fst).Nodup
  flag : ∀ val, (settingDatagram, val) ∈ entries → val = 0 ∨ val = 1

structure SettingsOf (entries : List (Nat × Nat)) (frame : SettingsFrame) : Prop where
  datagram : frame.datagram = true ↔ (settingDatagram, 1) ∈ entries
  other : ∀ id val, frame.other id = some val ↔ id ≠ settingDatagram ∧ (id, val) ∈ entries

section Storing

variable {entries : List (Nat × Nat)} {frame : SettingsFrame} {readDatagram : Bool}

def storeSetting (frame : SettingsFrame) (entry : Nat × Nat) : SettingsFrame :=
  if entry.1 = settingDatagram then { frame with datagram := entry.2 == 1 }
  else { frame with other := Function.update frame.other entry.1 (some entry.2) }

/-- The pairs that the loop still accepts where it stands. -/
structure Storable (readDatagram : Bool) (frame : SettingsFrame) (entries : List (Nat × Nat)) :
    Prop where
  distinct : (entries.map Prod.fst).Nodup
  unread : readDatagram = true → settingDatagram ∉ entries.map Prod.fst
  fresh : ∀ entry ∈ entries, entry.1 ≠ settingDatagram → frame.other entry.1 = none
  flag : ∀ val, (settingDatagram, val) ∈ entries → val = 0 ∨ val = 1

theorem storable_datagram {val : Nat} :
    Storable readDatagram frame ((settingDatagram, val) :: entries) ↔
      readDatagram = false ∧ (val = 0 ∨ val = 1) ∧
        Storable true { frame with datagram := val == 1 } entries := by
  constructor
  · intro storable
    have apart := List.nodup_cons.mp storable.distinct
    refine ⟨?_, storable.flag val List.mem_cons_self, apart.2, fun _ => apart.1, ?_, ?_⟩
    · rw [← Bool.not_eq_true]
      intro read
      exact storable.unread read List.mem_cons_self
    · intro entry member
      exact storable.fresh entry (List.mem_cons_of_mem _ member)
    · intro other member
      exact storable.flag other (List.mem_cons_of_mem _ member)
  · rintro ⟨unread, valid, storable⟩
    refine ⟨List.nodup_cons.mpr ⟨storable.unread rfl, storable.distinct⟩, ?_, ?_, ?_⟩
    · intro read
      rw [read] at unread
      cases unread
    · intro entry member ordinary
      rcases List.mem_cons.mp member with here | later
      · exact absurd (congrArg Prod.fst here) ordinary
      · exact storable.fresh entry later ordinary
    · intro other member
      rcases List.mem_cons.mp member with here | later
      · cases here
        exact valid
      · exact storable.flag other later

theorem storable_other {id val : Nat} (ordinary : id ≠ settingDatagram) :
    Storable readDatagram frame ((id, val) :: entries) ↔
      frame.other id = none ∧ Storable readDatagram
        { frame with other := Function.update frame.other id (some val) } entries := by
  constructor
  · intro storable
    have apart := List.nodup_cons.mp storable.distinct
    refine ⟨storable.fresh _ List.mem_cons_self ordinary, apart.2, ?_, ?_, ?_⟩
    · intro read member
      exact storable.unread read (List.mem_cons_of_mem _ member)
    · intro entry member other
      have different : entry.1 ≠ id := by
        intro same
        exact apart.1 (List.mem_map.mpr ⟨entry, member, same⟩)
      exact (Function.update_of_ne different _ _).trans
        (storable.fresh entry (List.mem_cons_of_mem _ member) other)
    · intro other member
      exact storable.flag other (List.mem_cons_of_mem _ member)
  · rintro ⟨absent, storable⟩
    -- an identifier that comes again would be found in the map
    have once : ∀ entry ∈ entries, entry.1 ≠ id := by
      intro entry member same
      have stored := storable.fresh entry member (same ▸ ordinary)
      dsimp only at stored
      rw [same, Function.update_self] at stored
      cases stored
    refine ⟨List.nodup_cons.mpr ⟨?_, storable.distinct⟩, ?_, ?_, ?_⟩
    · intro member
      rcases List.mem_map.mp member with ⟨entry, present, same⟩
      exact once entry present same
    · intro read member
      rcases List.mem_cons.mp member with here | later
      · exact ordinary here.symm
      · exact storable.unread read later
    · intro entry member other
      rcases List.mem_cons.mp member with here | later
      · rw [here]
        exact absent
      · rw [← storable.fresh entry later other]
        exact (Function.update_of_ne (once entry later) _ _).symm
    · intro other member
      rcases List.mem_cons.mp member with here | later
      · exact absurd (congrArg Prod.fst here).symm ordinary
      · exact storable.flag other later

theorem store_all_other (frame : SettingsFrame) (entries : List (Nat × Nat)) :
    (entries.foldl storeSetting frame).other =
      insertAll frame.other (entries.filter fun entry => entry.1 ≠ settingDatagram) := by
  induction entries generalizing frame with
  | nil => rfl
  | cons entry entries induction =>
      rw [List.foldl_cons, induction, List.filter_cons, storeSetting]
      by_cases special : entry.1 = settingDatagram
      · rw [if_pos special, if_neg (by simpa using special)]
      · rw [if_neg special, if_pos (by simpa using special)]
        rfl

theorem store_all_datagram (frame : SettingsFrame) (distinct : (entries.map Prod.fst).Nodup) :
    (entries.foldl storeSetting frame).datagram = true ↔
      (settingDatagram, 1) ∈ entries ∨
        settingDatagram ∉ entries.map Prod.fst ∧ frame.datagram = true := by
  induction entries generalizing frame with
  | nil => simp
  | cons entry entries induction =>
      rcases entry with ⟨id, val⟩
      rw [List.map_cons, List.nodup_cons] at distinct
      rw [List.foldl_cons, induction _ distinct.2, storeSetting]
      by_cases special : id = settingDatagram
      · subst special
        have absent : (settingDatagram, 1) ∉ entries := by
          intro member
          exact distinct.1 (List.mem_map.mpr ⟨_, member, rfl⟩)
        rw [if_pos rfl]
        simp only [List.mem_cons, List.map_cons, Prod.mk.injEq, absent, distinct.1, true_and,
          not_true, false_and, or_false, false_or, not_false_iff, beq_iff_eq]
        exact eq_comm
      · rw [if_neg special]
        simp [Ne.symm special]

theorem settings_of_stored (distinct : (entries.map Prod.fst).Nodup) :
    SettingsOf entries (entries.foldl storeSetting emptySettings) where
  datagram := by
    rw [store_all_datagram _ distinct]
    simp [emptySettings]
  other id val := by
    have kept : ((entries.filter fun entry => entry.1 ≠ settingDatagram).map Prod.fst).Nodup :=
      distinct.sublist (List.filter_sublist.map Prod.fst)
    rw [store_all_other, emptySettings, (walks_insert_all kept).covers, List.mem_filter, and_comm]
    simp

end Storing

section Loop

variable {varint} {payload : List UInt8} {entries : List (Nat × Nat)} {readDatagram : Bool}
  {frame result : SettingsFrame}

theorem pairs_nil : Pairs varint [] entries ↔ entries = [] := by
  constructor
  · intro pairs
    cases pairs with
    | nil => rfl
    | cons identified => cases Format.decode_shorter identified
  · rintro rfl
    exact .nil

theorem pairs_cons {bytes afterId rest : List UInt8} {id val : Nat}
    (identified : varint.decode bytes = some (id, afterId))
    (valued : varint.decode afterId = some (val, rest)) :
    Pairs varint bytes entries ↔ ∃ later, entries = (id, val) :: later ∧ Pairs varint rest later := by
  constructor
  · intro pairs
    cases pairs with
    | nil => cases Format.decode_shorter identified
    | cons otherIdentified otherValued later =>
        cases identified.symm.trans otherIdentified
        cases valued.symm.trans otherValued
        exact ⟨_, rfl, later⟩
  · rintro ⟨later, rfl, pairs⟩
    exact .cons identified valued pairs

variable (varint) in
def Stored (readDatagram : Bool) (frame : SettingsFrame) (payload : List UInt8)
    (result : SettingsFrame) : Prop :=
  ∃ entries, Pairs varint payload entries ∧ Storable readDatagram frame entries ∧
    result = entries.foldl storeSetting frame

theorem stored_cons {bytes afterId rest : List UInt8} {id val : Nat}
    (identified : varint.decode bytes = some (id, afterId))
    (valued : varint.decode afterId = some (val, rest)) :
    Stored varint readDatagram frame bytes result ↔
      ∃ later, Pairs varint rest later ∧ Storable readDatagram frame ((id, val) :: later) ∧
        result = later.foldl storeSetting (storeSetting frame (id, val)) := by
  constructor
  · rintro ⟨entries, pairs, storable, same⟩
    rcases (pairs_cons identified valued).mp pairs with ⟨later, rfl, rest⟩
    exact ⟨later, rest, storable, same⟩
  · rintro ⟨later, rest, storable, same⟩
    exact ⟨_, (pairs_cons identified valued).mpr ⟨later, rfl, rest⟩, storable, same⟩

theorem no_pairs_stored {bytes : List UInt8} (present : bytes ≠ [])
    (broken : ∀ id afterId val rest, varint.decode bytes = some (id, afterId) →
      varint.decode afterId ≠ some (val, rest)) :
    ¬Stored varint readDatagram frame bytes result := by
  rintro ⟨entries, pairs, -⟩
  cases pairs with
  | nil => exact present rfl
  | cons identified valued => exact broken _ _ _ _ identified valued

/-- The loop accepts the pairs it can store. The induction follows the loop. -/
theorem parse_settings_ok_iff (readDatagram : Bool) (frame : SettingsFrame)
    (payload : List UInt8) :
    parseSettings varint readDatagram frame payload = .ok result ↔
      Stored varint readDatagram frame payload result := by
  fun_induction parseSettings varint readDatagram frame payload with
  | case1 readDatagram frame =>
      constructor
      · intro parsed
        cases parsed
        exact ⟨[], .nil, ⟨List.nodup_nil, by simp, by simp, by simp⟩, rfl⟩
      · rintro ⟨entries, pairs, -, same⟩
        cases pairs_nil.mp pairs
        rw [same]
        rfl
  | case2 readDatagram frame payload present absent =>
      refine iff_of_false (by simp) (no_pairs_stored present ?_)
      intro id afterId val rest identified
      cases absent.symm.trans identified
  | case3 readDatagram frame payload present id afterId identified absent =>
      refine iff_of_false (by simp) (no_pairs_stored present ?_)
      intro other otherAfter val rest again valued
      cases identified.symm.trans again
      cases absent.symm.trans valued
  | case4 frame payload present afterId val rest valued identified =>
      rw [stored_cons identified valued]
      refine iff_of_false (by simp) ?_
      rintro ⟨later, -, storable, -⟩
      cases (storable_datagram.mp storable).1
  | case5 readDatagram frame payload present afterId val rest valued unread invalid identified =>
      rw [stored_cons identified valued]
      refine iff_of_false (by simp) ?_
      rintro ⟨later, -, storable, -⟩
      have valid := (storable_datagram.mp storable).2.1
      omega
  | case6 readDatagram frame payload present afterId val rest valued unread valid identified
      induction =>
      have flag : val = 0 ∨ val = 1 := by omega
      rw [induction, stored_cons identified valued, Stored]
      simp only [storable_datagram, Bool.not_eq_true _ ▸ unread, flag, true_and]
      rfl
  | case7 readDatagram frame payload present id afterId identified val rest valued ordinary
      other stored =>
      rw [stored_cons identified valued]
      refine iff_of_false (by simp) ?_
      rintro ⟨later, -, storable, -⟩
      cases stored.symm.trans ((storable_other ordinary).mp storable).1
  | case8 readDatagram frame payload present id afterId identified val rest valued ordinary
      absent induction =>
      rw [induction, stored_cons identified valued, Stored, storeSetting, if_neg ordinary]
      simp only [storable_other ordinary, absent, true_and]

theorem parse_settings_grammar (payload : List UInt8) :
    parseSettings varint false emptySettings payload = .ok result ↔
      ∃ entries, SettingsGrammar varint payload entries ∧
        result = entries.foldl storeSetting emptySettings := by
  rw [parse_settings_ok_iff]
  constructor
  · rintro ⟨entries, pairs, storable, same⟩
    exact ⟨entries, ⟨pairs, storable.distinct, storable.flag⟩, same⟩
  · rintro ⟨entries, grammar, same⟩
    refine ⟨entries, grammar.pairs, ⟨grammar.distinct, ?_, fun _ _ _ => rfl, grammar.flag⟩, same⟩
    intro read
    cases read

end Loop

/-- What `parseSettingsFrame` does with a payload of the announced length. -/
structure SettingsExact (length : Nat) : Prop where
  accepts : ∀ source payload rest ending, view source = ⟨payload ++ rest, ending⟩ →
    payload.length = length →
    ((∃ frame left, (parseSettingsFrame varint (sourceDevice varint.newReader) length).run source =
        (.ok frame, left)) ↔
      length ≤ 8192 ∧ ∃ entries, SettingsGrammar varint payload entries)
  reads : ∀ source frame left,
    (parseSettingsFrame varint (sourceDevice varint.newReader) length).run source =
      (.ok frame, left) →
    ∃ payload entries, view source = ⟨payload ++ (view left).bytes, (view left).ending⟩ ∧
      payload.length = length ∧ SettingsGrammar varint payload entries ∧ SettingsOf entries frame
  refuses : ∀ source payload rest ending, view source = ⟨payload ++ rest, ending⟩ →
    payload.length = length → (∀ entries, ¬SettingsGrammar varint payload entries) →
    ∃ err, ((parseSettingsFrame varint (sourceDevice varint.newReader) length).run source).1 =
      .fail err
  large : 8192 < length → ∀ source, ∃ err,
    (parseSettingsFrame varint (sourceDevice varint.newReader) length).run source =
      (.fail err, source)
  short : ∀ source err, (view source).ending = .fail err → (view source).bytes.length < length →
    ∃ failure, ((parseSettingsFrame varint (sourceDevice varint.newReader) length).run source).1 =
      .fail failure

section Exactness

variable {varint} {length : Nat} {source left : Source} {frame : SettingsFrame}
  {payload rest : List UInt8} {ending : Ending}

theorem settings_frame_ok
    (parsed : (parseSettingsFrame varint (sourceDevice varint.newReader) length).run source =
      (.ok frame, left)) :
    length ≤ 8192 ∧ length ≤ (view source).bytes.length ∧
      parseSettings varint false emptySettings ((view source).bytes.take length) = .ok frame ∧
      view left = ⟨(view source).bytes.drop length, (view source).ending⟩ := by
  have refined := parse_settings_frame_refines varint length source
  rw [parsed] at refined
  rcases parse_settings_frame_cases varint length (view source).bytes (view source).ending with
    ⟨other, small, enough, accepted, ran⟩ | ⟨err, stopped, ran⟩ | ⟨-, stopped, ran⟩
  · rw [ran] at refined
    cases refined.1
    exact ⟨small, enough, accepted, refined.2⟩
  · rw [ran] at refined
    cases refined.1
  · rw [ran] at refined
    cases refined.1

def parsedOutcome : Except Error SettingsFrame → Outcome SettingsFrame
  | .ok frame => .ok frame
  | .error err => .fail err

variable (varint) in
theorem settings_stream_enough {bytes : List UInt8} (small : length ≤ 8192)
    (enough : length ≤ bytes.length) (ending : Ending) :
    (parseSettingsFrame varint streamDevice length).run ⟨bytes, ending⟩ =
      (parsedOutcome (parseSettings varint false emptySettings (bytes.take length)),
        ⟨bytes.drop length, ending⟩) := by
  have bound : ¬length > 8 * 2 ^ 10 := Nat.not_lt.mpr small
  rw [parseSettingsFrame, if_neg bound, stream_device_read_full,
    Reading.bind_ok (Stream.read_full_enough enough)]
  cases parsed : parseSettings varint false emptySettings (bytes.take length) with
  | ok frame =>
      simp only [parsed]
      rfl
  | error err =>
      simp only [parsed]
      rfl

variable (varint) in
theorem settings_stream_short {bytes : List UInt8} {err : Error} (short : bytes.length < length) :
    ∃ failure, ((parseSettingsFrame varint streamDevice length).run ⟨bytes, .fail err⟩).1 =
      .fail failure := by
  rcases parse_settings_frame_cases varint length bytes (.fail err) with
    ⟨frame, -, enough, -⟩ | ⟨failure, left, ran⟩ | ⟨waits, -⟩
  · omega
  · exact ⟨failure, congrArg Prod.fst ran⟩
  · cases waits

theorem settings_payload_parsed (seen : view source = ⟨payload ++ rest, ending⟩)
    (whole : payload.length = length) (small : length ≤ 8192) :
    ((parseSettingsFrame varint (sourceDevice varint.newReader) length).run source).1 =
      parsedOutcome (parseSettings varint false emptySettings payload) := by
  have enough : length ≤ (payload ++ rest).length := by
    rw [List.length_append, whole]
    exact Nat.le_add_right _ _
  rw [(parse_settings_frame_refines varint length source).1, seen,
    settings_stream_enough varint small enough, List.take_left' whole]

theorem settings_large (large : 8192 < length) (source : Source) :
    ∃ err, (parseSettingsFrame varint (sourceDevice varint.newReader) length).run source =
      (.fail err, source) := by
  have bound : length > 8 * 2 ^ 10 := large
  rw [parseSettingsFrame, if_pos bound]
  exact ⟨_, rfl⟩

end Exactness

/-- Acceptance, the settings and the bytes read are those of the grammar. -/
theorem settings_exact (length : Nat) : SettingsExact varint length where
  accepts source payload rest ending seen whole := by
    constructor
    · rintro ⟨frame, left, parsed⟩
      rcases settings_frame_ok parsed with ⟨small, -, accepted, -⟩
      rw [seen, List.take_left' whole] at accepted
      rcases (parse_settings_grammar payload).mp accepted with ⟨entries, grammar, -⟩
      exact ⟨small, entries, grammar⟩
    · rintro ⟨small, entries, grammar⟩
      have accepted := (parse_settings_grammar payload).mpr ⟨entries, grammar, rfl⟩
      have parsed := @settings_payload_parsed varint _ _ _ _ _ seen whole small
      rw [accepted] at parsed
      exact ⟨_, _, Prod.ext parsed rfl⟩
  reads source frame left parsed := by
    rcases settings_frame_ok parsed with ⟨-, enough, accepted, remaining⟩
    rcases (parse_settings_grammar _).mp accepted with ⟨entries, grammar, same⟩
    refine ⟨(view source).bytes.take length, entries, ?_, List.length_take_of_le enough, grammar, ?_⟩
    · rw [remaining, List.take_append_drop]
    · rw [same]
      exact settings_of_stored grammar.distinct
  refuses source payload rest ending seen whole broken := by
    by_cases small : length ≤ 8192
    · rw [settings_payload_parsed seen whole small]
      cases parsed : parseSettings varint false emptySettings payload with
      | error err => exact ⟨err, rfl⟩
      | ok frame =>
          rcases (parse_settings_grammar payload).mp parsed with ⟨entries, grammar, -⟩
          exact absurd grammar (broken entries)
    · rcases @settings_large varint length (Nat.lt_of_not_le small) source with ⟨err, ran⟩
      exact ⟨err, congrArg Prod.fst ran⟩
  large large source := settings_large large source
  short source err ended missing := by
    rcases settings_stream_short varint missing with ⟨failure, ran⟩
    refine ⟨failure, ?_⟩
    rw [(parse_settings_frame_refines varint length source).1, ← ran, ← ended]

/-- An identifier longer than it need be: H3_DATAGRAM in four bytes. -/
example : Pairs .reference [0x80, 0, 0x02, 0x76, 1] [(settingDatagram, 1)] :=
  .cons rfl rfl .nil

end WebTransportGos.H3
