import Mathlib.Data.List.Infix

/-!
Frames on a stream of bytes that arrives in pieces. A parser is asked for the frame that the
bytes at hand begin with; it may wait for more of them, or throw. `Exact` says that it finds
no frame but the one that was written, `Complete` that it finds that one as soon as it is
there, and waits till then.
-/

namespace Framing

set_option autoImplicit false

variable {Byte Frame Error : Type*}

inductive Parsed (Byte Frame Error : Type*) where
  | waits
  | throws (error : Error)
  | frame (frame : Frame) (rest : List Byte)

/-- Frame after frame, until the parser waits or throws. -/
def drain (parse : List Byte → Parsed Byte Frame Error) :
    Nat → List Byte → List Frame × Except Error (List Byte)
  | 0, bytes => ([], .ok bytes)
  | fuel + 1, bytes => match parse bytes with
      | .waits => ([], .ok bytes)
      | .throws error => ([], .error error)
      | .frame frame rest => (frame :: (drain parse fuel rest).1, (drain parse fuel rest).2)

/-- On the way through a written frame and anything behind it, only that frame is found. -/
structure Exact (parse : List Byte → Parsed Byte Frame Error) (encode : Frame → List Byte)
    (valid : Frame → Prop) : Prop where
  empty : ∀ found rest, parse [] ≠ .frame found rest
  exact : ∀ frame more bytes found rest, valid frame → bytes <+: encode frame ++ more →
    parse bytes = .frame found rest → found = frame ∧ bytes = encode frame ++ rest

structure Complete (parse : List Byte → Parsed Byte Frame Error) (encode : Frame → List Byte)
    (valid : Frame → Prop) : Prop where
  empty : parse [] = .waits
  nonempty : ∀ frame, valid frame → encode frame ≠ []
  complete : ∀ frame rest, valid frame → parse (encode frame ++ rest) = .frame frame rest
  patient : ∀ frame bytes, valid frame → bytes <+: encode frame → bytes ≠ encode frame →
    parse bytes = .waits

section Rules

variable {parse : List Byte → Parsed Byte Frame Error} {encode : Frame → List Byte}
  {valid : Frame → Prop} {frames : List Frame} {bytes unread : List Byte}

theorem Complete.unique (laws : Complete parse encode valid) {frame other : Frame}
    (one : valid frame) (two : valid other) (same : encode frame = encode other) :
    frame = other := by
  have first := laws.complete frame [] one
  rw [same, laws.complete other [] two] at first
  injection first with found
  exact found.symm

/-- The frames found are the first of those written, and the bytes kept begin the next. -/
theorem drain_exact (laws : Exact parse encode valid) (all : ∀ frame ∈ frames, valid frame)
    (split : bytes ++ unread = frames.flatMap encode) (fuel : Nat) :
    ∃ left, frames = (drain parse fuel bytes).1 ++ left ∧
      ∀ kept, (drain parse fuel bytes).2 = .ok kept → kept ++ unread = left.flatMap encode := by
  induction fuel generalizing frames bytes with
  | zero =>
      refine ⟨frames, rfl, ?_⟩
      rintro kept ⟨⟩
      exact split
  | succ fuel induction =>
      rw [drain]
      cases parsed : parse bytes with
      | waits =>
          refine ⟨frames, rfl, ?_⟩
          rintro kept ⟨⟩
          exact split
      | throws error =>
          refine ⟨frames, rfl, ?_⟩
          rintro kept ⟨⟩
      | frame found rest =>
          cases frames with
          | nil =>
              rw [(List.append_eq_nil_iff.mp split).1] at parsed
              exact absurd parsed (laws.empty found rest)
          | cons frame frames =>
              simp only [List.mem_cons, forall_eq_or_imp] at all
              have inside : bytes <+: encode frame ++ frames.flatMap encode := by
                rw [← List.flatMap_cons, ← split]
                exact List.prefix_append bytes unread
              rcases laws.exact frame _ bytes found rest all.1 inside parsed with ⟨rfl, rfl⟩
              rw [List.flatMap_cons, List.append_assoc, List.append_cancel_left_eq] at split
              rcases induction all.2 split with ⟨left, same, kept⟩
              refine ⟨left, ?_, kept⟩
              rw [List.cons_append, ← same]

/-- With a complete parser no frame that has arrived stays behind. -/
theorem drain_complete (laws : Complete parse encode valid) (all : ∀ frame ∈ frames, valid frame)
    (split : bytes ++ unread = frames.flatMap encode) {fuel : Nat} (enough : bytes.length < fuel) :
    ∃ left kept, frames = (drain parse fuel bytes).1 ++ left ∧
      (drain parse fuel bytes).2 = .ok kept ∧ kept ++ unread = left.flatMap encode ∧
      (unread = [] → left = []) := by
  induction fuel generalizing frames bytes with
  | zero => omega
  | succ fuel induction =>
      rw [drain]
      cases frames with
      | nil =>
          rcases List.append_eq_nil_iff.mp split with ⟨rfl, rfl⟩
          rw [laws.empty]
          exact ⟨[], [], rfl, rfl, rfl, fun _ => rfl⟩
      | cons frame frames =>
          simp only [List.mem_cons, forall_eq_or_imp] at all
          rw [List.flatMap_cons] at split
          rcases List.append_eq_append_iff.mp split with ⟨behind, whole, more⟩ | ⟨rest, whole, more⟩
          · by_cases ends : behind = []
            · rw [ends, List.append_nil] at whole
              rw [ends, List.nil_append] at more
              have parsed := laws.complete frame [] all.1
              rw [List.append_nil, whole] at parsed
              have shorter : ([] : List Byte).length < fuel := by
                have present := List.length_pos_iff.mpr (laws.nonempty frame all.1)
                rw [whole] at present
                simp only [List.length_nil]
                omega
              rcases @induction frames [] all.2 more shorter with
                ⟨left, kept, same, ended, splits, done⟩
              rw [parsed]
              refine ⟨left, kept, ?_, ended, splits, done⟩
              rw [List.cons_append, ← same]
            · have inside : bytes <+: encode frame := ⟨behind, whole.symm⟩
              have proper : bytes ≠ encode frame := by
                intro same
                rw [same] at whole
                exact ends (List.append_right_eq_self.mp whole.symm)
              rw [laws.patient frame bytes all.1 inside proper]
              refine ⟨frame :: frames, bytes, rfl, rfl, ?_, ?_⟩
              · rw [List.flatMap_cons]
                exact split
              · intro nothing
                rw [nothing] at more
                exact absurd (List.append_eq_nil_iff.mp more.symm).1 ends
          · rw [whole, laws.complete frame rest all.1]
            have shorter : rest.length < fuel := by
              have present := List.length_pos_iff.mpr (laws.nonempty frame all.1)
              rw [whole, List.length_append] at enough
              omega
            rcases induction all.2 more.symm shorter with
              ⟨left, kept, same, ended, splits, done⟩
            refine ⟨left, kept, ?_, ended, splits, done⟩
            rw [List.cons_append, ← same]

end Rules

section Waiting

variable {parse : List Byte → Parsed Byte Frame Error} {encode : Frame → List Byte}
  {valid : Frame → Prop} {frames : List Frame} {bytes unread kept : List Byte}

/-- With a complete parser what is kept holds no frame. -/
theorem drain_waits (laws : Complete parse encode valid) (all : ∀ frame ∈ frames, valid frame)
    (split : bytes ++ unread = frames.flatMap encode) {fuel : Nat} (enough : bytes.length < fuel)
    (ended : (drain parse fuel bytes).2 = .ok kept) : parse kept = .waits := by
  induction fuel generalizing frames bytes with
  | zero => omega
  | succ fuel induction =>
      rw [drain] at ended
      cases frames with
      | nil =>
          have nothing : bytes = [] := (List.append_eq_nil_iff.mp split).1
          rw [nothing, laws.empty] at ended
          cases ended
          exact laws.empty
      | cons frame frames =>
          simp only [List.mem_cons, forall_eq_or_imp] at all
          by_cases whole : encode frame <+: bytes
          · obtain ⟨rest, rfl⟩ := whole
            rw [laws.complete frame rest all.1] at ended
            have present := List.length_pos_iff.mpr (laws.nonempty frame all.1)
            rw [List.flatMap_cons, List.append_assoc] at split
            rw [List.length_append] at enough
            exact induction all.2 (List.append_cancel_left split) (by omega) ended
          · have inside : bytes <+: encode frame := by
              rw [List.flatMap_cons] at split
              have either := List.prefix_or_prefix_of_prefix (split ▸ List.prefix_append bytes unread)
                (List.prefix_append (encode frame) _)
              exact either.resolve_right whole
            have proper : bytes ≠ encode frame := by
              intro same
              exact whole (same ▸ List.prefix_rfl)
            have waits := laws.patient frame bytes all.1 inside proper
            rw [waits] at ended
            cases ended
            exact waits

end Waiting

/-- The frames found are the first of those written, and the bytes kept and unread are those
of the others; what is kept is less than a frame. -/
structure Conveys (encode : Frame → List Byte) (written found : List Frame)
    (kept unread : List Byte) : Prop where
  split : ∃ left, written = found ++ left ∧ kept ++ unread = left.flatMap encode ∧
    ∀ frame ∈ left.head?, kept.length < (encode frame).length

section Conveying

variable {encode : Frame → List Byte} {written found : List Frame} {kept unread : List Byte}

theorem conveys_nothing : Conveys encode [] [] [] [] :=
  ⟨[], rfl, rfl, fun frame impossible => by cases impossible⟩

theorem Conveys.found_prefix (conveys : Conveys encode written found kept unread) :
    found <+: written := by
  obtain ⟨left, same, -⟩ := conveys.split
  exact ⟨left, same.symm⟩

/-- While something is unread, there is a frame that what is kept is less than. -/
theorem Conveys.room (conveys : Conveys encode written found kept unread) (more : unread ≠ []) :
    ∃ frame ∈ written, kept.length < (encode frame).length := by
  obtain ⟨left, same, bytes, short⟩ := conveys.split
  cases left with
  | nil => exact absurd (List.append_eq_nil_iff.mp bytes).2 more
  | cons frame others =>
      refine ⟨frame, ?_, short frame rfl⟩
      rw [same]
      exact List.mem_append_right _ List.mem_cons_self

theorem Conveys.all_found (conveys : Conveys encode written found kept []) : found = written := by
  obtain ⟨left, same, bytes, short⟩ := conveys.split
  cases left with
  | nil => rw [same, List.append_nil]
  | cons frame others =>
      have less := short frame rfl
      rw [List.append_nil] at bytes
      rw [bytes, List.flatMap_cons, List.length_append] at less
      omega

theorem Conveys.write (conveys : Conveys encode written found kept unread) {more : List Frame}
    (nonempty : ∀ frame ∈ more, encode frame ≠ []) :
    Conveys encode (written ++ more) found kept (unread ++ more.flatMap encode) := by
  obtain ⟨left, same, bytes, short⟩ := conveys.split
  refine ⟨left ++ more, ?_, ?_, ?_⟩
  · rw [same, List.append_assoc]
  · rw [← List.append_assoc, bytes, List.flatMap_append]
  · intro frame first
    cases left with
    | nil =>
        have nothing : kept = [] := (List.append_eq_nil_iff.mp bytes).1
        rw [nothing]
        exact List.length_pos_iff.mpr (nonempty frame (List.mem_of_mem_head? first))
    | cons other others => exact short frame first

/-- A piece of what is unread is drained without an error. -/
theorem Conveys.read {parse : List Byte → Parsed Byte Frame Error} {valid : Frame → Prop}
    (laws : Complete parse encode valid) (all : ∀ frame ∈ written, valid frame)
    {piece : List Byte} (conveys : Conveys encode written found kept (piece ++ unread))
    {fuel : Nat} (enough : (kept ++ piece).length < fuel) :
    ∃ rest, (drain parse fuel (kept ++ piece)).2 = .ok rest ∧
      Conveys encode written (found ++ (drain parse fuel (kept ++ piece)).1) rest unread := by
  obtain ⟨left, same, bytes, -⟩ := conveys.split
  rw [← List.append_assoc] at bytes
  have valid : ∀ frame ∈ left, valid frame := by
    intro frame member
    apply all frame
    rw [same]
    exact List.mem_append_right _ member
  obtain ⟨others, rest, drained, ended, behind, -⟩ := drain_complete laws valid bytes enough
  refine ⟨rest, ended, others, ?_, behind, ?_⟩
  · rw [List.append_assoc, ← drained, same]
  · intro frame first
    have waits := drain_waits laws valid bytes enough ended
    have member : frame ∈ left := by
      rw [drained]
      exact List.mem_append_right _ (List.mem_of_mem_head? first)
    obtain ⟨later, rfl⟩ := List.head?_eq_some_iff.mp first
    by_contra long
    have whole : encode frame <+: rest := by
      rw [List.flatMap_cons] at behind
      exact List.prefix_of_prefix_length_le (List.prefix_append _ _)
        (behind ▸ List.prefix_append rest unread) (Nat.le_of_not_lt long)
    obtain ⟨more, rfl⟩ := whole
    rw [laws.complete frame more (valid frame member)] at waits
    cases waits

end Conveying

end Framing
