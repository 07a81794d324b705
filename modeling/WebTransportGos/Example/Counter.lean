import WebTransportGos.Library.GoReader
import WebTransportGos.Library.Runes

/-!
example/server/server.go, path `/counter`: the goroutine that answers a bidirectional stream
with the upper case of what it reads. Every `Read` is answered for itself, and a character may
come in two of them.
-/

namespace WebTransportGos.Counter

open GoReader Runes

set_option autoImplicit false

def toUpper (upper : Char → Char) (text : List UInt8) : List UInt8 := mapRunes upper text

/-- What the calls of `Write` were given. Behind its loop the goroutine closes the stream. -/
structure Answer where
  written : List (List UInt8)
  closed : Bool
  deriving DecidableEq, Repr

def Answer.behind (answer : Answer) (text : List UInt8) : Answer :=
  { answer with written := text :: answer.written }

theorem read_weight {limit : Nat} {source rest : Source} {result : ReadResult}
    (returned : read limit source = some (result, rest)) (positive : 0 < limit)
    (goesOn : result.data = [] → result.err = none) : weight rest < weight source := by
  cases read_step returned with
  | part long =>
    simp only [weight, List.length_drop]
    omega
  | whole fits =>
    simp only [weight]
    omega
  | @last data err tail fits =>
    cases data with
    | nil => cases goesOn rfl
    | cons byte data =>
      simp only [weight, List.length_cons, List.length_nil]
      omega

/-- The loop. The error of `Write` takes the place of that of `Read`. -/
def answer (upper : Char → Char) (writeErr : Nat → Option Error) (call : Nat)
    (source : Source) : Answer :=
  match _returned : read 4096 source with
  | none => ⟨[], false⟩
  | some (result, rest) =>
      if _some : result.data ≠ [] then
        let s := toUpper upper result.data
        match writeErr call with
        | none => (answer upper writeErr (call + 1) rest).behind s
        | some _ => ⟨[s], true⟩
      else match _ended : result.err with
        | none => answer upper writeErr call rest
        | some _ => ⟨[], true⟩
termination_by weight source
decreasing_by
  · exact read_weight _returned (by decide) fun none => absurd none _some
  · exact read_weight _returned (by decide) fun _ => _ended

def answered (upper : Char → Char) (source : Source) : Answer := answer upper (fun _ => none) 0 source

section Loop

variable {upper : Char → Char} {writeErr : Nat → Option Error} {call : Nat} {source rest : Source}
  {result : ReadResult}

theorem answer_blocked (blocked : read 4096 source = none) :
    answer upper writeErr call source = ⟨[], false⟩ := by
  rw [answer]
  split
  next => rfl
  next other => cases blocked.symm.trans other

theorem answer_text (returned : read 4096 source = some (result, rest)) (some : result.data ≠ [])
    (written : writeErr call = none) : answer upper writeErr call source =
      (answer upper writeErr (call + 1) rest).behind (toUpper upper result.data) := by
  rw [answer]
  split
  next other => cases returned.symm.trans other
  next same =>
    cases returned.symm.trans same
    rw [dif_pos some]
    dsimp only
    rw [written]

theorem answer_empty (returned : read 4096 source = some (result, rest)) (empty : result.data = [])
    (goesOn : result.err = none) :
    answer upper writeErr call source = answer upper writeErr call rest := by
  rw [answer]
  split
  next other => cases returned.symm.trans other
  next same =>
    cases returned.symm.trans same
    rw [dif_neg (not_not.mpr empty)]
    split
    next => rfl
    next other => cases goesOn.symm.trans other

theorem answer_ended {err : Error} (returned : read 4096 source = some (result, rest))
    (empty : result.data = []) (ended : result.err = some err) :
    answer upper writeErr call source = ⟨[], true⟩ := by
  rw [answer]
  split
  next other => cases returned.symm.trans other
  next same =>
    cases returned.symm.trans same
    rw [dif_neg (not_not.mpr empty)]
    split
    next other => cases ended.symm.trans other
    next => rfl

theorem answer_pieces (call : Nat) (source : Source) : ∃ pieces : List (List UInt8),
    pieces.flatten = (view source).bytes ∧
      answer upper (fun _ => none) call source =
        ⟨pieces.map (toUpper upper), (view source).ending ≠ .hang⟩ := by
  induction call, source using answer.induct upper (fun _ => none) with
  | case1 call source blocked =>
    rw [answer_blocked blocked, read_none blocked]
    exact ⟨[], rfl, rfl⟩
  | case2 call source result rest returned some written induction =>
    obtain ⟨-, sees, -⟩ := read_some returned
    obtain ⟨pieces, joined, answers⟩ := induction
    refine ⟨result.data :: pieces, ?_, ?_⟩
    · rw [sees, List.flatten_cons, joined]
    · rw [answer_text returned some written, answers, sees]
      rfl
  | case3 call source result rest returned some err fails => cases fails
  | case4 call source result rest returned empty goesOn induction =>
    have none := not_not.mp empty
    obtain ⟨-, sees, -⟩ := read_some returned
    obtain ⟨pieces, joined, answers⟩ := induction
    refine ⟨pieces, ?_, ?_⟩
    · rw [sees, none]
      exact joined
    · rw [answer_empty returned none goesOn, answers, sees]
  | case5 call source result rest returned empty err ended =>
    have none := not_not.mp empty
    obtain ⟨-, sees, fails, -⟩ := read_some returned
    refine ⟨[], ?_, ?_⟩
    · rw [sees, none, fails err ended]
      rfl
    · rw [answer_ended returned none ended, sees, fails err ended]
      exact congrArg (Answer.mk []) (by simp)

def singly (stream : Stream) : Source :=
  (stream.bytes.map fun byte => ⟨[byte], none⟩) ++ match stream.ending with
    | .hang => []
    | .fail err => [⟨[], some err⟩]

theorem view_singly (stream : Stream) : view (singly stream) = stream := by
  obtain ⟨bytes, ending⟩ := stream
  induction bytes with
  | nil =>
    cases ending with
    | hang => rfl
    | fail err => rfl
  | cons byte bytes induction =>
    have later : view (singly ⟨byte :: bytes, ending⟩) =
        ⟨byte :: (view (singly ⟨bytes, ending⟩)).bytes,
          (view (singly ⟨bytes, ending⟩)).ending⟩ := rfl
    rw [later, induction]

theorem answer_singly (stream : Stream) (call : Nat) :
    (answer upper (fun _ => none) call (singly stream)).written.flatten =
      mapAlone upper stream.bytes := by
  obtain ⟨bytes, ending⟩ := stream
  induction bytes generalizing call with
  | nil =>
    cases ending with
    | hang =>
      have blocked : read 4096 (singly ⟨[], .hang⟩) = none := rfl
      rw [answer_blocked blocked]
      rfl
    | fail err =>
      have returned : read 4096 (singly ⟨[], .fail err⟩) =
          some (⟨[], some err⟩, [⟨[], some err⟩]) := rfl
      rw [answer_ended returned rfl rfl]
      rfl
  | cons byte bytes induction =>
    have returned : read 4096 (singly ⟨byte :: bytes, ending⟩) =
        some (⟨[byte], none⟩, singly ⟨bytes, ending⟩) := rfl
    rw [answer_text returned (List.cons_ne_nil _ _) rfl, Answer.behind, List.flatten_cons,
      induction, alone_cons]
    rfl

end Loop

/-- However the bytes come in, if no character of them can be cut. -/
theorem counter_answers_iff (upper : Char → Char) (fixes : upper replacement = replacement)
    (stream : Stream) :
    (∀ source, view source = stream →
      (answered upper source).written.flatten = toUpper upper stream.bytes ∧
        ((answered upper source).closed ↔ stream.ending ≠ .hang)) ↔ Plain stream.bytes := by
  constructor
  · intro same
    have whole := (same (singly stream) (view_singly stream)).1
    rw [answered, answer_singly] at whole
    exact (alone_iff fixes).mp whole.symm
  · intro plain source sees
    obtain ⟨pieces, joined, answers⟩ := answer_pieces 0 source
    rw [sees] at joined answers
    rw [answered, answers, ← joined]
    refine ⟨map_flatten (joined.symm ▸ plain), ?_⟩
    exact decide_eq_true_iff

theorem counter_answers_letters :
    (∀ source, view source = ⟨[97, 98], .fail .eof⟩ →
      (answered Char.toUpper source).written.flatten = toUpper Char.toUpper [97, 98] ∧
        ((answered Char.toUpper source).closed ↔ Ending.fail .eof ≠ .hang)) ↔ Plain [97, 98] :=
  counter_answers_iff Char.toUpper (by decide) ⟨[97, 98], .fail .eof⟩

end WebTransportGos.Counter
