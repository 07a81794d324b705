import WebTransportGos.Library.ExpiryWindow
import WebTransportGos.Helper.BinaryDelivery

/-!
How long a command counts as a duplicate. The handler looks a command up before it forgets
the ones that are too old, and it forgets only where it delivers.
-/

namespace WebTransportGos.Helper

open SeenWindow StepSystem

set_option autoImplicit false

variable {Text : Type*}

structure TimedFrame where
  index : Nat
  cmd : Nat
  payload : List UInt8
  serialized : List UInt8
  time : Int
  deriving DecidableEq

def TimedFrame.decoded (frame : TimedFrame) : Decoded :=
  ⟨some frame.payload, frame.serialized, some frame.cmd⟩

/-- The object, and the commands it has delivered with their times. -/
structure History (Text : Type*) where
  socket : WebTransportWS Text
  delivered : List (Entry Nat)
  now : Int

def newHistory (given : WebTransportWSOptions) (textDecoder : Option (List UInt8 → Text))
    (onmessage : Bool) (start : Int) : History Text where
  socket := newWebTransportWS given textDecoder onmessage
  delivered := []
  now := start

/-- The callback on a frame with a command of the range for texts. Time does not go back, and
stands still while the callback runs. A frame is delivered if `onmessage` is called. -/
def arrive (history : History Text) (frame : TimedFrame) : Option (History Text) :=
  if history.now ≤ frame.time ∧ history.socket.options.textCommandStart ≤ frame.cmd ∧
      frame.cmd ≤ history.socket.options.textCommandEnd then
    match history.socket.onDecodeMessage (fun _ => frame.time) frame.index frame.decoded with
    | .ok after => some
        { socket := after
          delivered :=
            if after.messages.length = history.socket.messages.length then history.delivered
            else history.delivered ++ [⟨frame.cmd, frame.time⟩]
          now := frame.time }
    | .error _ => none
  else none

/-- The frame is suppressed exactly if its command was delivered within the timeout. -/
def ExactlyWithin (history : History Text) (frame : TimedFrame) (next : History Text) : Prop :=
  next.socket.messages = history.socket.messages ↔
    ∃ entry ∈ history.delivered, entry.key = frame.cmd ∧
      frame.time - entry.timestamp ≤ history.socket.options.commandTimeout

/-- Of the deliveries of this command that lie further back than the timeout, each was followed,
by more than the timeout too, by some delivery, or the command was delivered again since. -/
def Lapsed (history : History Text) (frame : TimedFrame) : Prop :=
  ∀ entry ∈ history.delivered, entry.key = frame.cmd →
    history.socket.options.commandTimeout < frame.time - entry.timestamp →
    (∃ later ∈ history.delivered,
      history.socket.options.commandTimeout < later.timestamp - entry.timestamp) ∨
    ∃ again ∈ history.delivered, again.key = frame.cmd ∧
      frame.time - again.timestamp ≤ history.socket.options.commandTimeout

/-- Besides, there is an `onmessage`, and the command is not that of a ping. -/
def Forgotten (history : History Text) (frame : TimedFrame) (_ : History Text) : Prop :=
  history.socket.onmessage = true ∧ NoPing history.socket.options (some frame.cmd) ∧
    Lapsed history frame

structure Tracks (history : History Text) : Prop where
  several : 1 < history.socket.options.streamCount
  window : history.socket.onmessage = true →
    Exact history.socket.options.commandTimeout history.delivered history.socket.commands
  silent : history.socket.onmessage = false → history.delivered = []
  ordinary : ∀ entry ∈ history.delivered, NoPing history.socket.options (some entry.key)
  past : ∀ entry ∈ history.delivered, entry.timestamp ≤ history.now

section Window

variable {history next : History Text} {frame : TimedFrame}

theorem new_tracks (given : WebTransportWSOptions) (textDecoder : Option (List UInt8 → Text))
    (onmessage : Bool) (start : Int) (several : 1 < given.adjusted.streamCount) :
    Tracks (newHistory given textDecoder onmessage start) where
  several := several
  window _ := empty_exact
  silent _ := rfl
  ordinary _ member := absurd member List.not_mem_nil
  past _ member := absurd member List.not_mem_nil

structure Delivers (socket next : WebTransportWS Text) (frame : TimedFrame) : Prop where
  onmessage : socket.onmessage = true
  ordinary : NoPing socket.options (some frame.cmd)
  unseen : socket.commands.seen frame.cmd = false
  messages : next.messages.length = socket.messages.length + 1
  commands : next.commands = admitKey socket.options.commandTimeout (fun _ => frame.time)
    socket.commands frame.cmd

structure Drops (socket next : WebTransportWS Text) (frame : TimedFrame) : Prop where
  messages : next.messages = socket.messages
  commands : socket.onmessage = true → next.commands = socket.commands
  seen : socket.onmessage = true → NoPing socket.options (some frame.cmd) →
    socket.commands.seen frame.cmd = true

theorem on_decode_cases {socket after : WebTransportWS Text}
    (several : 1 < socket.options.streamCount)
    (text : socket.options.textCommandStart ≤ frame.cmd ∧
      frame.cmd ≤ socket.options.textCommandEnd)
    (called : socket.onDecodeMessage (fun _ => frame.time) frame.index
      ⟨some frame.payload, frame.serialized, some frame.cmd⟩ = .ok after) :
    after.options = socket.options ∧ after.onmessage = socket.onmessage ∧
      (Drops socket after frame ∨ Delivers socket after frame) := by
  -- the checks of the range and of the number of streams are settled by what is at hand
  have message : WebTransportWS.isMessageCommand socket.options frame.cmd = true :=
    decide_eq_true (.inl text)
  simp only [WebTransportWS.onDecodeMessage] at called
  split at called
  next ping =>
    split at called
    · cases called
      refine ⟨rfl, rfl, .inl ⟨rfl, fun _ => rfl, ?_⟩⟩
      intro _ ordinary
      exact absurd ping.1 (ordinary ping.2 frame.cmd rfl).1
    · cases called
  next noPing =>
  split at called
  next ping =>
    cases called
    refine ⟨rfl, rfl, .inl ⟨rfl, fun _ => rfl, ?_⟩⟩
    intro _ ordinary
    exact absurd ping.1 (ordinary ping.2 frame.cmd rfl).2
  next noServerPing =>
  have ordinary : NoPing socket.options (some frame.cmd) := by
    intro pings number member
    cases member
    exact ⟨fun same => noPing ⟨same, pings⟩, fun same => noServerPing ⟨same, pings⟩⟩
  split at called
  next seen =>
    cases called
    exact ⟨rfl, rfl, .inl ⟨rfl, fun _ => rfl, fun _ _ => seen⟩⟩
  next unseen =>
    have not_seen := Bool.eq_false_of_not_eq_true unseen
    cases called
    cases heard : socket.onmessage with
    | true =>
      rw [WebTransportWS.deliver, if_pos heard]
      refine ⟨rfl, heard, .inr ⟨heard, ordinary, not_seen, ?_, rfl⟩⟩
      exact List.length_append
    | false =>
      have same : socket.deliver ⟨some frame.payload, frame.serialized, some frame.cmd⟩ = socket := by
        rw [WebTransportWS.deliver, heard]
        rfl
      rw [same]
      refine ⟨rfl, heard, .inl ⟨rfl, ?_, ?_⟩⟩
      · intro on
        rw [heard] at on
        cases on
      · intro on
        rw [heard] at on
        cases on

theorem arrive_cases (several : 1 < history.socket.options.streamCount)
    (taken : arrive history frame = some next) :
    history.now ≤ frame.time ∧ next.now = frame.time ∧
      next.socket.options = history.socket.options ∧
      next.socket.onmessage = history.socket.onmessage ∧
      (Drops history.socket next.socket frame ∧ next.delivered = history.delivered ∨
        Delivers history.socket next.socket frame ∧
          next.delivered = history.delivered ++ [⟨frame.cmd, frame.time⟩]) := by
  rw [arrive] at taken
  split at taken
  next enabled =>
    split at taken
    next after called =>
      cases taken
      rcases on_decode_cases several enabled.2 called with ⟨options, onmessage, drops | delivers⟩
      · refine ⟨enabled.1, rfl, options, onmessage, .inl ⟨drops, ?_⟩⟩
        exact if_pos (congrArg List.length drops.messages)
      · refine ⟨enabled.1, rfl, options, onmessage, .inr ⟨delivers, ?_⟩⟩
        have longer := delivers.messages
        exact if_neg (by omega)
    · cases taken
  · cases taken

theorem arrive_tracks (tracks : Tracks history) (taken : arrive history frame = some next) :
    Tracks next := by
  have past := tracks.past
  rcases arrive_cases tracks.several taken with
    ⟨ordered, now, options, onmessage, ⟨drops, log⟩ | ⟨delivers, log⟩⟩
  · constructor
    · rw [options]
      exact tracks.several
    · intro heard
      rw [onmessage] at heard
      rw [options, log, drops.commands heard]
      exact tracks.window heard
    · rw [onmessage, log]
      exact tracks.silent
    · rw [options, log]
      exact tracks.ordinary
    · rw [log, now]
      intro entry member
      exact Int.le_trans (past entry member) ordered
  · have exact := tracks.window delivers.onmessage
    constructor
    · rw [options]
      exact tracks.several
    · intro heard
      rw [options, log, delivers.commands]
      apply @Exact.admitted _ _ _ _ _ exact ⟨frame.cmd, frame.time⟩ delivers.unseen
      intro entry member
      exact Int.le_trans (past entry member) ordered
    · intro silent
      rw [onmessage, delivers.onmessage] at silent
      cases silent
    · rw [options, log, List.forall_mem_append, List.forall_mem_singleton]
      exact ⟨tracks.ordinary, delivers.ordinary⟩
    · rw [log, now, List.forall_mem_append, List.forall_mem_singleton]
      exact ⟨fun entry member => Int.le_trans (past entry member) ordered, Int.le_refl _⟩

/-- What is recent is still remembered, as no delivery is later than the frame. -/
theorem recent_seen (tracks : Tracks history) (heard : history.socket.onmessage = true)
    (ordered : history.now ≤ frame.time)
    (recent : ∃ entry ∈ history.delivered, entry.key = frame.cmd ∧
      frame.time - entry.timestamp ≤ history.socket.options.commandTimeout) :
    history.socket.commands.seen frame.cmd = true := by
  rcases recent with ⟨entry, member, same, within⟩
  rw [(tracks.window heard).seen_iff]
  refine ⟨entry, member, same, fresh_iff.mpr ?_⟩
  intro later present
  have before := tracks.past later present
  omega

/-- Of a command that is looked up, being remembered comes to being recent exactly if what is
not recent was forgotten. -/
theorem seen_recent_iff (tracks : Tracks history) (heard : history.socket.onmessage = true) :
    (history.socket.commands.seen frame.cmd = true →
        ∃ entry ∈ history.delivered, entry.key = frame.cmd ∧
          frame.time - entry.timestamp ≤ history.socket.options.commandTimeout) ↔
      Lapsed history frame := by
  have known := (tracks.window heard).seen_iff frame.cmd
  constructor
  · intro recent entry member same old
    by_cases kept : fresh history.socket.options.commandTimeout history.delivered entry = true
    · exact .inr (recent (known.mpr ⟨entry, member, same, kept⟩))
    · rw [fresh_iff] at kept
      simp only [not_forall, Int.not_le] at kept
      rcases kept with ⟨later, present, late⟩
      exact .inl ⟨later, present, late⟩
  · intro lapsed seen
    rcases known.mp seen with ⟨entry, member, same, kept⟩
    by_cases within : frame.time - entry.timestamp ≤ history.socket.options.commandTimeout
    · exact ⟨entry, member, same, within⟩
    · rcases lapsed entry member same (Int.not_le.mp within) with ⟨later, present, late⟩ | again
      · have close := fresh_iff.mp kept later present
        omega
      · exact again

theorem window_iff (tracks : Tracks history) (taken : arrive history frame = some next) :
    ExactlyWithin history frame next ↔ Forgotten history frame next := by
  unfold ExactlyWithin Forgotten
  rcases arrive_cases tracks.several taken with
    ⟨ordered, now, options, onmessage, ⟨drops, log⟩ | ⟨delivers, log⟩⟩
  · rw [iff_true_left drops.messages]
    constructor
    · intro recent
      have heard : history.socket.onmessage = true := by
        by_contra silent
        rcases recent with ⟨entry, member, -⟩
        rw [tracks.silent (Bool.eq_false_of_not_eq_true silent)] at member
        cases member
      have ordinary : NoPing history.socket.options (some frame.cmd) := by
        rcases recent with ⟨entry, member, same, -⟩
        exact same ▸ tracks.ordinary entry member
      exact ⟨heard, ordinary, (seen_recent_iff tracks heard).mp fun _ => recent⟩
    · rintro ⟨heard, ordinary, lapsed⟩
      exact (seen_recent_iff tracks heard).mpr lapsed (drops.seen heard ordinary)
  · have called : next.socket.messages ≠ history.socket.messages := by
      intro same
      have longer := delivers.messages
      rw [same] at longer
      omega
    have heard := delivers.onmessage
    rw [iff_false_left called]
    constructor
    · intro _
      refine ⟨heard, delivers.ordinary, (seen_recent_iff tracks heard).mp ?_⟩
      intro seen
      rw [delivers.unseen] at seen
      cases seen
    · intro _ recent
      have seen := recent_seen tracks heard ordered recent
      rw [delivers.unseen] at seen
      cases seen

end Window

/-- Over every sequence of frames with commands for texts. -/
theorem duplicate_window_iff (given : WebTransportWSOptions)
    (textDecoder : Option (List UInt8 → Text)) (onmessage : Bool) (start : Int)
    (several : 1 < given.adjusted.streamCount) (frames : List TimedFrame) :
    Steps arrive ExactlyWithin (newHistory given textDecoder onmessage start) frames ↔
      Steps arrive Forgotten (newHistory given textDecoder onmessage start) frames := by
  apply steps_iff Tracks
  · intro history frame next tracks taken
    exact window_iff tracks taken
  · intro history frame next tracks _ taken
    exact arrive_tracks tracks taken
  · exact new_tracks given textDecoder onmessage start several

theorem two_frames_window_iff :
    Steps arrive ExactlyWithin (@newHistory Unit (twoStreams 16) none true 0)
        [⟨0, 20, [7], [], 5⟩, ⟨1, 20, [7], [], 6⟩] ↔
      Steps arrive Forgotten (@newHistory Unit (twoStreams 16) none true 0)
        [⟨0, 20, [7], [], 5⟩, ⟨1, 20, [7], [], 6⟩] :=
  duplicate_window_iff (twoStreams 16) none true 0 (by decide) _

/-- A command that is used again when its timeout is over, with nothing delivered meanwhile. -/
theorem reused_command_suppressed :
    (run arrive (@newHistory Unit (twoStreams 16) none true 0)
        [⟨0, 20, [7], [], 0⟩, ⟨0, 20, [8], [], 30 * 1000 + 1⟩]).map
      (fun history => history.socket.messages.length) = some 1 ∧
      ¬Steps arrive ExactlyWithin (@newHistory Unit (twoStreams 16) none true 0)
        [⟨0, 20, [7], [], 0⟩, ⟨0, 20, [8], [], 30 * 1000 + 1⟩] := by
  refine ⟨rfl, ?_⟩
  intro steps
  have second := ((steps _ rfl).2 _ rfl).1
  rcases second.mp rfl with ⟨entry, member, -, within⟩
  rw [List.mem_singleton.mp member] at within
  exact absurd within (by decide)

end WebTransportGos.Helper
