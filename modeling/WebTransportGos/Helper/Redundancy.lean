import WebTransportGos.Helper.Delivery

/-!
Texts on several streams of which any may break: WebTransportWS.js writes a text to the first
streams, and `setCurrentWriteStreams` may be called at any time, also before there is a stream.
`close` is not called, and the numbers are whole.
-/

namespace WebTransportGos.Helper

open Decimal Framing SeenWindow

set_option autoImplicit false

variable {Text : Type*}

/-- lib/function/restrain.js -/
def restrain (value min max : Int) : Int :=
  if value < min then min
  else if max < value then max
  else value

structure Opening (Text : Type*) where
  socket : WebTransportWS Text
  writers : Nat

inductive Usage (Text : Type*) where
  | stream
  | setCurrentWriteStreams (value : Int)
  | send (text : Text)

namespace Opening

def targets (opening : Opening Text) : List Nat :=
  if opening.socket.options.autoStream then
    (List.range opening.writers).take opening.socket.currentWriteStreams
  else List.range opening.writers

def step (textEncoder : Text → List UInt8) (opening : Opening Text) : Usage Text → Opening Text
  | .stream =>
      if opening.writers < opening.socket.options.streamCount then
        { opening with writers := opening.writers + 1 }
      else opening
  | .setCurrentWriteStreams value => { opening with
      socket := { opening.socket with
        currentWriteStreams := (restrain value 1 opening.writers).toNat } }
  | .send text => { opening with
      socket := opening.socket.sendTo textEncoder opening.targets text }

def useAll (textEncoder : Text → List UInt8) (usages : List (Usage Text))
    (opening : Opening Text) : Opening Text := usages.foldl (step textEncoder) opening

def sendings (textEncoder : Text → List UInt8) : List (Usage Text) → Opening Text →
    List (Sending Text)
  | [], _ => []
  | .send text :: later, opening =>
      ⟨text, opening.targets⟩ :: sendings textEncoder later (opening.step textEncoder (.send text))
  | usage :: later, opening => sendings textEncoder later (opening.step textEncoder usage)

end Opening

section Written

variable {textEncoder : Text → List UInt8} {socket : WebTransportWS Text}

theorem send_to_current (writers : List Nat) (text : Text) (current : Nat) :
    { socket with currentWriteStreams := current }.sendTo textEncoder writers text =
      { socket.sendTo textEncoder writers text with currentWriteStreams := current } := by
  unfold WebTransportWS.sendTo
  split
  · rfl
  · unfold WebTransportWS.getTextCommand
    dsimp only
    split
    · rfl
    · rfl

theorem send_all_current (sendings : List (Sending Text)) (current : Nat) :
    sendAll textEncoder sendings { socket with currentWriteStreams := current } =
      { sendAll textEncoder sendings socket with currentWriteStreams := current } := by
  induction sendings generalizing socket with
  | nil => rfl
  | cons sending later induction =>
    rw [sendAll, List.foldl_cons, send_to_current]
    exact induction

/-- To the streams it is as if nothing but `send` had been called. -/
theorem use_all_written (usages : List (Usage Text)) (opening : Opening Text) :
    (opening.useAll textEncoder usages).socket.written =
      (sendAll textEncoder (opening.sendings textEncoder usages) opening.socket).written := by
  induction usages generalizing opening with
  | nil => rfl
  | cons usage later induction =>
    rw [Opening.useAll, List.foldl_cons]
    refine (induction (opening.step textEncoder usage)).trans ?_
    cases usage with
    | stream =>
      have same : (opening.step textEncoder .stream).socket = opening.socket := by
        rw [Opening.step]
        split
        · rfl
        · rfl
      rw [same]
      rfl
    | setCurrentWriteStreams value =>
      rw [Opening.step, send_all_current]
      rfl
    | send text => rfl

/-- A frame on a stream is that of a call that had this stream. -/
theorem send_all_written (numbering : Numbering socket) (sendings : List (Sending Text))
    (write : Nat × List UInt8) :
    write ∈ (sendAll textEncoder sendings socket).written ↔ write ∈ socket.written ∨
      ∃ sending sent, (sending, sent) ∈ sendings.zip (sentMessages textEncoder sendings socket) ∧
        write.1 ∈ sending.writers ∧ write.2 = sent.message.encode := by
  induction sendings generalizing socket with
  | nil => simp [sendAll, sentMessages]
  | cons sending later induction =>
    have still := send_to_numbering textEncoder numbering sending.writers sending.text
    rw [sendAll, List.foldl_cons, ← sendAll, induction still, sentMessages, List.zip_cons_cons,
      send_to_eq numbering, List.mem_append, text_command_eq numbering, or_assoc]
    apply or_congr_right
    constructor
    · intro either
      cases either with
      | inl now =>
        obtain ⟨stream, member, same⟩ := List.mem_map.mp now
        rw [← same]
        exact ⟨sending, _, List.mem_cons_self, member, rfl⟩
      | inr further =>
        obtain ⟨other, sent, member, target, frame⟩ := further
        exact ⟨other, sent, List.mem_cons_of_mem _ member, target, frame⟩
    · intro written
      obtain ⟨other, sent, member, target, frame⟩ := written
      cases List.mem_cons.mp member with
      | inl now =>
        cases now
        exact .inl (List.mem_map.mpr ⟨write.1, target, Prod.ext rfl frame.symm⟩)
      | inr further => exact .inr ⟨other, sent, further, target, frame⟩

theorem sent_messages_length (sendings : List (Sending Text)) :
    (sentMessages textEncoder sendings socket).length = sendings.length := by
  induction sendings generalizing socket with
  | nil => rfl
  | cons sending later induction =>
    rw [sentMessages, List.length_cons, induction, List.length_cons]

end Written

/-- Of every stream arrives what was written to it first; the rest is lost. -/
def Survives (written : List (Nat × List UInt8)) (arrivals : List Arrival) : Prop :=
  ∀ stream, (arrivals.filter fun arrival => arrival.stream = stream).map Arrival.frame <+:
    (written.filter fun write => write.1 = stream).map Prod.snd

def Unbroken (written : List (Nat × List UInt8)) (arrivals : List Arrival) (stream : Nat) : Prop :=
  (arrivals.filter fun arrival => arrival.stream = stream).map Arrival.frame =
    (written.filter fun write => write.1 = stream).map Prod.snd

section Arrived

variable {written : List (Nat × List UInt8)} {arrivals : List Arrival}

theorem Survives.was_written (survives : Survives written arrivals) {arrival : Arrival}
    (member : arrival ∈ arrivals) : (arrival.stream, arrival.frame) ∈ written := by
  have own : arrival ∈ arrivals.filter fun other => other.stream = arrival.stream :=
    List.mem_filter.mpr ⟨member, decide_eq_true rfl⟩
  have found := (survives arrival.stream).subset (List.mem_map_of_mem own)
  obtain ⟨write, here, same⟩ := List.mem_map.mp found
  obtain ⟨inside, stream⟩ := List.mem_filter.mp here
  rw [← same, ← of_decide_eq_true stream]
  exact inside

theorem Unbroken.arrives {stream : Nat} (unbroken : Unbroken written arrivals stream) {frame : List UInt8}
    (write : (stream, frame) ∈ written) : ∃ arrival ∈ arrivals, arrival.frame = frame := by
  have own : (stream, frame) ∈ written.filter fun write => write.1 = stream :=
    List.mem_filter.mpr ⟨write, decide_eq_true rfl⟩
  have found := List.mem_map_of_mem (f := Prod.snd) own
  rw [← unbroken] at found
  obtain ⟨arrival, here, same⟩ := List.mem_map.mp found
  exact ⟨arrival, (List.mem_filter.mp here).1, same⟩

end Arrived

section Delivered

variable {options : WebTransportWSOptions} {senderDecoder : Option (List UInt8 → Text)}
  {senderOnmessage : Bool} {textEncoder : Text → List UInt8} {sendings : List (Sending Text)}
  {arrivals : List Arrival}

/-- If a sending has a writer, the first one is among them, and brings its frames. -/
theorem all_delivered_iff (mode : options.mode = .text) (many : 1 < options.streamCount)
    (apart : Apart options)
    (few : options.textCommandStart + sendings.length ≤ options.textCommandEnd + 1)
    (short : ∀ sent ∈ sentMessages textEncoder sendings
      (newWebTransportWS options senderDecoder senderOnmessage), sent.message.Short)
    (fits : ∀ arrival ∈ arrivals, arrival.frame.length ≤ options.bufferSize)
    (first : ∀ sending ∈ sendings, sending.writers ≠ [] → 0 ∈ sending.writers)
    (survives : Survives (sendAll textEncoder sendings
      (newWebTransportWS options senderDecoder senderOnmessage)).written arrivals)
    (unbroken : Unbroken (sendAll textEncoder sendings
      (newWebTransportWS options senderDecoder senderOnmessage)).written arrivals 0)
    {order : List (Sent Text)} (once : order.Nodup)
    (exact_order : ∀ sent, sent ∈ order ↔ sent ∈ sentMessages textEncoder sendings
      (newWebTransportWS options senderDecoder senderOnmessage) ∧
        ∃ arrival ∈ arrivals, arrival.frame = sent.message.encode) :
    order.Perm (sentMessages textEncoder sendings
        (newWebTransportWS options senderDecoder senderOnmessage)) ↔
      ∀ sending ∈ sendings, sending.writers ≠ [] := by
  have distinct := (@sent_commands Text options senderDecoder senderOnmessage textEncoder sendings
    mode many apart few).1
  have different := List.Nodup.of_map _ distinct
  have length := @sent_messages_length Text textEncoder
    (newWebTransportWS options senderDecoder senderOnmessage) sendings
  have writes := @send_all_written Text textEncoder _
    (new_numbering senderDecoder senderOnmessage mode many) sendings
  have calls := List.map_fst_zip length.ge
  have messages := List.map_snd_zip length.le
  constructor
  · intro perm sending member
    rw [← calls] at member
    obtain ⟨⟨same, sent⟩, paired, equal⟩ := List.mem_map.mp member
    cases equal
    have inside := (List.of_mem_zip paired).2
    obtain ⟨-, arrival, here, frame⟩ := (exact_order sent).mp (perm.mem_iff.mpr inside)
    cases (writes _).mp (survives.was_written here) with
    | inl before => exact absurd before List.not_mem_nil
    | inr found =>
      obtain ⟨other, message, zipped, target, encoded⟩ := found
      have inside' := (List.of_mem_zip zipped).2
      obtain ⟨cmd, carries⟩ :=
        sent_carries mode many apart few inside (short sent inside) frame (fits arrival here)
      obtain ⟨cmd', carries'⟩ := sent_carries mode many apart few inside' (short message inside')
        encoded (fits arrival here)
      have equal := (carries_iff distinct inside inside' carries carries').2 rfl
      have pairs := List.inj_on_of_nodup_map (messages ▸ different) paired zipped equal
      cases pairs
      exact List.ne_nil_of_mem target
  · intro reach
    apply (List.perm_ext_iff_of_nodup once different).mpr
    intro sent
    rw [exact_order]
    constructor
    · intro both
      exact both.1
    · intro member
      have paired := member
      rw [← messages] at paired
      obtain ⟨⟨sending, same⟩, zipped, equal⟩ := List.mem_map.mp paired
      dsimp only at equal
      rw [equal] at zipped
      have inside := (List.of_mem_zip zipped).1
      have written := (writes (0, sent.message.encode)).mpr
        (.inr ⟨sending, sent, zipped, first sending inside (reach sending inside), rfl⟩)
      exact ⟨member, unbroken.arrives written⟩

end Delivered

def newOpening (options : WebTransportWSOptions) (textDecoder : Option (List UInt8 → Text))
    (onmessage : Bool) : Opening Text :=
  ⟨newWebTransportWS options textDecoder onmessage, 0⟩

/-- The last choice of a number of streams was made before there was one, and not below 1. -/
def Silenced (earlier : List (Usage Text)) : Prop :=
  ∃ before value behind, earlier = before ++ .setCurrentWriteStreams value :: behind ∧
    (∀ other, .setCurrentWriteStreams other ∉ behind) ∧ 1 ≤ value ∧ .stream ∉ before

structure Audible (options : WebTransportWSOptions) (earlier : List (Usage Text)) : Prop where
  stream : .stream ∈ earlier
  choice : options.autoStream = true → ¬Silenced earlier

section Targets

variable {textEncoder : Text → List UInt8} {options : WebTransportWSOptions}
  {senderDecoder : Option (List UInt8 → Text)} {senderOnmessage : Bool}
  {earlier usages : List (Usage Text)} {usage : Usage Text} {opening : Opening Text}

theorem use_all_snoc : opening.useAll textEncoder (earlier ++ [usage]) =
    (opening.useAll textEncoder earlier).step textEncoder usage := by
  rw [Opening.useAll, List.foldl_append]
  rfl

theorem send_to_options (socket : WebTransportWS Text) (writers : List Nat) (text : Text) :
    (socket.sendTo textEncoder writers text).options = socket.options ∧
      (socket.sendTo textEncoder writers text).currentWriteStreams =
        socket.currentWriteStreams := by
  unfold WebTransportWS.sendTo
  split
  · exact ⟨rfl, rfl⟩
  · unfold WebTransportWS.getTextCommand
    dsimp only
    split
    · exact ⟨rfl, rfl⟩
    · exact ⟨rfl, rfl⟩

theorem step_options : (opening.step textEncoder usage).socket.options = opening.socket.options := by
  cases usage with
  | stream =>
    rw [Opening.step]
    split
    · rfl
    · rfl
  | setCurrentWriteStreams value => rfl
  | send text => exact (send_to_options _ _ _).1

theorem use_all_options :
    (opening.useAll textEncoder usages).socket.options = opening.socket.options := by
  induction usages generalizing opening with
  | nil => rfl
  | cons usage later induction =>
    rw [Opening.useAll, List.foldl_cons]
    exact induction.trans step_options

theorem restrain_zero (value : Int) (writers : Nat) :
    (restrain value 1 writers).toNat = 0 ↔ 1 ≤ value ∧ writers = 0 := by
  unfold restrain
  split
  · omega
  · split
    · omega
    · omega

theorem silenced_set (value : Int) :
    Silenced (earlier ++ [.setCurrentWriteStreams value]) ↔ 1 ≤ value ∧ .stream ∉ earlier := by
  constructor
  · intro silenced
    obtain ⟨before, last, behind, same, none, positive, early⟩ := silenced
    rcases List.eq_nil_or_concat' behind with empty | ⟨middle, item, whole⟩
    · rw [empty] at same
      obtain ⟨here, final⟩ := List.append_inj' same rfl
      cases final
      rw [here]
      exact ⟨positive, early⟩
    · rw [whole, ← List.cons_append, ← List.append_assoc] at same
      obtain ⟨-, final⟩ := List.append_inj' same rfl
      cases final
      exact absurd (whole ▸ List.mem_append_right _ (List.mem_singleton_self _)) (none value)
  · intro chosen
    exact ⟨earlier, value, [], rfl, fun _ => List.not_mem_nil, chosen⟩

theorem silenced_other (other : ∀ value, usage ≠ .setCurrentWriteStreams value) :
    Silenced (earlier ++ [usage]) ↔ Silenced earlier := by
  constructor
  · intro silenced
    obtain ⟨before, last, behind, same, none, chosen⟩ := silenced
    rcases List.eq_nil_or_concat' behind with empty | ⟨middle, item, whole⟩
    · rw [empty] at same
      obtain ⟨-, final⟩ := List.append_inj' same rfl
      cases final
      exact absurd rfl (other last)
    · rw [whole, ← List.cons_append, ← List.append_assoc] at same
      obtain ⟨here, -⟩ := List.append_inj' same rfl
      refine ⟨before, last, middle, here, ?_, chosen⟩
      intro value member
      exact none value (whole ▸ List.mem_append_left _ member)
  · intro silenced
    obtain ⟨before, last, behind, same, none, chosen⟩ := silenced
    refine ⟨before, last, behind ++ [usage], ?_, ?_, chosen⟩
    · rw [same, List.append_assoc]
      rfl
    · intro value member
      rcases List.mem_append.mp member with inside | final
      · exact none value inside
      · exact other value (List.mem_singleton.mp final).symm

theorem use_all_spec (some : 0 < options.adjusted.streamCount) (earlier : List (Usage Text)) :
    (0 < ((newOpening options senderDecoder senderOnmessage).useAll textEncoder earlier).writers ↔
      .stream ∈ earlier) ∧
    (((newOpening options senderDecoder senderOnmessage).useAll textEncoder
      earlier).socket.currentWriteStreams = 0 ↔ Silenced earlier) := by
  induction earlier using List.reverseRecOn with
  | nil =>
    have none : ¬Silenced ([] : List (Usage Text)) := by
      intro silenced
      obtain ⟨before, value, behind, same, -⟩ := silenced
      cases before with
      | nil => cases same
      | cons first rest => cases same
    exact ⟨iff_of_false (Nat.lt_irrefl 0) List.not_mem_nil, iff_of_false Nat.one_ne_zero none⟩
  | append_singleton earlier usage induction =>
    obtain ⟨streams, chosen⟩ := induction
    have same : ((newOpening options senderDecoder senderOnmessage).useAll textEncoder
        earlier).socket.options = options.adjusted := use_all_options
    rw [use_all_snoc]
    cases usage with
    | stream =>
      have other : ∀ value, (Usage.stream : Usage Text) ≠ .setCurrentWriteStreams value := by
        intro value impossible
        cases impossible
      rw [Opening.step, same, silenced_other other]
      refine ⟨iff_of_true ?_ (List.mem_append_right _ (List.mem_singleton_self _)), ?_⟩
      · split
        · exact Nat.succ_pos _
        · omega
      · split
        · exact chosen
        · exact chosen
    | setCurrentWriteStreams value =>
      rw [Opening.step, silenced_set]
      dsimp only
      rw [restrain_zero, streams]
      have empty : ((newOpening options senderDecoder senderOnmessage).useAll textEncoder
          earlier).writers = 0 ↔ .stream ∉ earlier := by
        rw [← streams]
        omega
      exact ⟨by simp, and_congr_right fun _ => empty⟩
    | send text =>
      have other : ∀ value, Usage.send text ≠ .setCurrentWriteStreams value := by
        intro value impossible
        cases impossible
      rw [Opening.step, silenced_other other]
      dsimp only
      rw [(send_to_options _ _ _).2, streams]
      exact ⟨by simp, chosen⟩

theorem targets_iff (some : 0 < options.adjusted.streamCount) (earlier : List (Usage Text)) :
    ((newOpening options senderDecoder senderOnmessage).useAll textEncoder earlier).targets ≠ [] ↔
      Audible options.adjusted earlier := by
  obtain ⟨streams, chosen⟩ := @use_all_spec Text textEncoder options senderDecoder senderOnmessage
    some earlier
  have same : ((newOpening options senderDecoder senderOnmessage).useAll textEncoder
      earlier).socket.options = options.adjusted := use_all_options
  have present : ¬((newOpening options senderDecoder senderOnmessage).useAll textEncoder
      earlier).writers = 0 ↔ .stream ∈ earlier := Nat.pos_iff_ne_zero.symm.trans streams
  rw [Opening.targets, same]
  cases auto : options.adjusted.autoStream with
  | false =>
    rw [if_neg Bool.false_ne_true, Ne, List.range_eq_nil, present]
    constructor
    · intro stream
      exact ⟨stream, fun impossible => absurd (auto.symm.trans impossible) Bool.false_ne_true⟩
    · intro audible
      exact audible.stream
  | true =>
    rw [if_pos rfl, Ne, List.take_eq_nil_iff, List.range_eq_nil, not_or, chosen, present]
    constructor
    · intro both
      exact ⟨both.2, fun _ => both.1⟩
    · intro audible
      exact ⟨audible.choice auto, audible.stream⟩

theorem targets_first (some : opening.targets ≠ []) : 0 ∈ opening.targets := by
  have range : opening.targets <+: List.range opening.writers := by
    unfold Opening.targets
    split
    · exact List.take_prefix _ _
    · exact List.prefix_rfl
  cases target : opening.targets with
  | nil => exact absurd target some
  | cons item rest =>
    rw [target] at range
    have zero := range.getElem (Nat.zero_lt_succ rest.length)
    rw [List.getElem_cons_zero, List.getElem_range] at zero
    rw [zero]
    exact List.mem_cons_self

theorem sending_iff (sending : Sending Text) : sending ∈ opening.sendings textEncoder usages ↔
    ∃ earlier text later, usages = earlier ++ .send text :: later ∧
      sending = ⟨text, (opening.useAll textEncoder earlier).targets⟩ := by
  induction usages generalizing opening with
  | nil => simp [Opening.sendings]
  | cons usage rest induction =>
    have split : sending ∈ opening.sendings textEncoder (usage :: rest) ↔
        (∃ text, usage = .send text ∧ sending = ⟨text, opening.targets⟩) ∨
          sending ∈ (opening.step textEncoder usage).sendings textEncoder rest := by
      cases usage with
      | stream => simp [Opening.sendings]
      | setCurrentWriteStreams value => simp [Opening.sendings]
      | send text => simp [Opening.sendings]
    rw [split, induction]
    constructor
    · intro either
      cases either with
      | inl now =>
        obtain ⟨text, same, here⟩ := now
        exact ⟨[], text, rest, congrArg (· :: rest) same, here⟩
      | inr further =>
        obtain ⟨earlier, text, later, same, there⟩ := further
        exact ⟨usage :: earlier, text, later, congrArg (usage :: ·) same, there⟩
    · intro found
      obtain ⟨earlier, text, later, same, there⟩ := found
      cases earlier with
      | nil =>
        obtain ⟨here, -⟩ := List.cons.inj same
        exact .inl ⟨text, here, there⟩
      | cons first earlier =>
        obtain ⟨here, rest⟩ := List.cons.inj same
        rw [here]
        exact .inr ⟨earlier, text, later, rest, there⟩

end Targets

section Redundant

/-- The options that the constructor adjusts leave several streams of text as they are. -/
theorem audible_adjusted {options : WebTransportWSOptions} (mode : options.mode = .text)
    (many : 1 < options.streamCount) (earlier : List (Usage Text)) :
    Audible options earlier ↔ Audible options.adjusted earlier := by
  have several : ¬options.mode = .stream := by
    rw [mode]
    decide
  have auto : options.adjusted.autoStream = options.autoStream := by
    rw [WebTransportWSOptions.adjusted]
    dsimp only
    rw [if_neg several, if_neg (Nat.not_le.mpr many)]
  constructor
  · intro heard
    exact ⟨heard.stream, fun chosen => heard.choice (auto ▸ chosen)⟩
  · intro heard
    exact ⟨heard.stream, fun chosen => heard.choice (auto ▸ chosen)⟩

variable {options : WebTransportWSOptions} {textEncoder : Text → List UInt8}
  {textDecoder : List UInt8 → Text} {usages : List (Usage Text)} {arrivals : List Arrival}

/-- Whatever streams break, a text of which a copy arrives is delivered, once; and the first stream
alone brings all texts, exactly if none was sent before there was a stream, or when the last
choice of a number of streams had been made before that. -/
theorem redundant_texts_delivered (mode : options.mode = .text) (many : 1 < options.streamCount)
    (apart : Apart options)
    (few : options.textCommandStart + ((newOpening options (some textDecoder) true).sendings
      textEncoder usages).length ≤ options.textCommandEnd + 1)
    (short : ∀ sent ∈ sentMessages textEncoder
      ((newOpening options (some textDecoder) true).sendings textEncoder usages)
      (newWebTransportWS options (some textDecoder) true), sent.message.Short)
    (fits : ∀ arrival ∈ arrivals, arrival.frame.length ≤ options.bufferSize)
    (inverse : ∀ text, textDecoder (textEncoder text) = text)
    (survives : Survives ((newOpening options (some textDecoder) true).useAll textEncoder
      usages).socket.written arrivals)
    (timely : Timely Arrival.frame Arrival.time Arrival.clock options.commandTimeout arrivals) :
    ∃ order : List (Sent Text), order.Nodup ∧
      order ⊆ sentMessages textEncoder
        ((newOpening options (some textDecoder) true).sendings textEncoder usages)
        (newWebTransportWS options (some textDecoder) true) ∧
      order.map (fun sent => sent.message.encode) = (arrivals.map Arrival.frame).eraseDups ∧
      (receiveAll arrivals (newWebTransportWS options (some textDecoder) true)).messages =
        order.map (fun sent => ⟨.text sent.text, false⟩) ∧
      (Unbroken ((newOpening options (some textDecoder) true).useAll textEncoder
          usages).socket.written arrivals 0 →
        (order.Perm (sentMessages textEncoder
            ((newOpening options (some textDecoder) true).sendings textEncoder usages)
            (newWebTransportWS options (some textDecoder) true)) ↔
          ∀ earlier text later, usages = earlier ++ .send text :: later →
            Audible options earlier)) := by
  have adjusted := (adjusted_text mode many).2
  have written := @use_all_written Text textEncoder usages
    (newOpening options (some textDecoder) true)
  have opened : (newOpening options (some textDecoder) true).socket =
    newWebTransportWS options (some textDecoder) true := rfl
  rw [opened] at written
  rw [written] at survives ⊢
  have known : ∀ arrival ∈ arrivals, ∃ sent ∈ sentMessages textEncoder
      ((newOpening options (some textDecoder) true).sendings textEncoder usages)
      (newWebTransportWS options (some textDecoder) true),
        arrival.frame = sent.message.encode := by
    intro arrival here
    cases send_all_only (new_numbering (some textDecoder) true mode many) _ _
      (survives.was_written here) with
    | inl before => exact absurd before List.not_mem_nil
    | inr found => exact found
  obtain ⟨order, once, delivered, frames, messages⟩ :=
    arrived_delivered mode many apart few short fits inverse known timely
  refine ⟨order, once, fun sent member => ((delivered sent).mp member).1, frames, messages, ?_⟩
  intro unbroken
  have first : ∀ sending ∈ (newOpening options (some textDecoder) true).sendings textEncoder usages,
      sending.writers ≠ [] → 0 ∈ sending.writers := by
    intro sending member
    obtain ⟨earlier, text, later, -, same⟩ := (sending_iff sending).mp member
    rw [same]
    exact targets_first
  rw [all_delivered_iff mode many apart few short fits first survives unbroken once delivered]
  have positive : 0 < options.adjusted.streamCount := by
    rw [adjusted]
    exact Nat.zero_lt_of_lt many
  have audible (earlier : List (Usage Text)) := audible_adjusted mode many earlier
  constructor
  · intro reach earlier text later same
    have member : ⟨text, ((newOpening options (some textDecoder) true).useAll textEncoder
        earlier).targets⟩ ∈ (newOpening options (some textDecoder) true).sendings textEncoder
        usages := (sending_iff _).mpr ⟨earlier, text, later, same, rfl⟩
    exact (audible earlier).mpr ((targets_iff positive earlier).mp (reach _ member))
  · intro all sending member
    obtain ⟨earlier, text, later, same, there⟩ := (sending_iff sending).mp member
    rw [there]
    exact (targets_iff positive earlier).mpr ((audible earlier).mp (all earlier text later same))

end Redundant

def chosenStreams : WebTransportWSOptions := { twoStreams 8 with autoStream := true }

/-- The second stream breaks. -/
theorem second_stream_breaks :
    let opening : Opening String := newOpening chosenStreams (some decodeUtf8) true
    let socket : WebTransportWS String := newWebTransportWS chosenStreams (some decodeUtf8) true
    let usages : List (Usage String) :=
      [.stream, .send "a", .stream, .setCurrentWriteStreams 2, .send "b"]
    let sents := sentMessages encodeUtf8 (opening.sendings encodeUtf8 usages) socket
    let arrivals : List Arrival :=
      [⟨0, Message.encode ⟨[0x61], some 20⟩, 5, fun _ => 5⟩,
        ⟨0, Message.encode ⟨[0x62], some 21⟩, 7, fun _ => 7⟩]
    ∃ order : List (Sent String), order.Nodup ∧ order ⊆ sents ∧
      order.map (fun sent => sent.message.encode) = (arrivals.map Arrival.frame).eraseDups ∧
      (receiveAll arrivals socket).messages = order.map (fun sent => ⟨.text sent.text, false⟩) ∧
      (Unbroken (opening.useAll encodeUtf8 usages).socket.written arrivals 0 →
        (order.Perm sents ↔
          ∀ earlier text later, usages = earlier ++ .send text :: later →
            Audible chosenStreams earlier)) := by
  intro opening socket usages sents arrivals
  have bytes : encodeUtf8 "a" = [0x61] ∧ encodeUtf8 "b" = [0x62] := by decide +kernel
  have sent : sents = [⟨⟨[0x61], some 20⟩, "a"⟩, ⟨⟨[0x62], some 21⟩, "b"⟩] := by
    rw [← bytes.1, ← bytes.2]
    rfl
  have written : (opening.useAll encodeUtf8 usages).socket.written =
      [(0, Message.encode ⟨[0x61], some 20⟩), (0, Message.encode ⟨[0x62], some 21⟩),
        (1, Message.encode ⟨[0x62], some 21⟩)] := by
    rw [← bytes.1, ← bytes.2]
    rfl
  apply redundant_texts_delivered
  · rfl
  · decide
  · exact two_streams_apart 8
  · exact Nat.le_of_ble_eq_true rfl
  · show ∀ one ∈ sents, one.message.Short
    rw [sent]
    decide
  · decide +kernel
  · exact decode_encode_utf8
  · show Survives (opening.useAll encodeUtf8 usages).socket.written arrivals
    rw [written]
    rintro (_ | _ | stream)
    · exact List.prefix_rfl
    · exact List.nil_prefix
    · exact List.nil_prefix
  · constructor
    · simp [arrivals]
    · simp [arrivals]
    · simp [arrivals, chosenStreams, twoStreams, defaultOptions]

end WebTransportGos.Helper
