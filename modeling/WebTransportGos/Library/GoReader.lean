import Mathlib.Data.List.Basic
import Mathlib.Tactic.Common

/-!
Go's `io.Reader`, as its contract describes it. A `Source` is the list of results
its next `Read` calls will give: any cutting of the bytes into results, empty
results included, an error alone or together with the last bytes. A `Read` with a
smaller buffer takes the first part of a result. An error stays: it is returned
again by every later call. When the list is used up, `Read` never returns.

`Stream` is what a caller can know of a source in the end: its bytes and how they
end. `ReadFull`, `CopyN` into `Discard` and a conforming `ReadByte` depend on
nothing else, which is what `Refines` says of them.
-/

namespace GoReader

set_option autoImplicit false

/-- The two errors callers compare with, and every other one by its text. -/
inductive Error where
  | eof
  | unexpectedEOF
  | text (message : String)
  deriving DecidableEq, Repr

theorem except_bind_ok {α β : Type} {result : Except Error α} {next : α → Except Error β}
    {value : β} (succeeded : result >>= next = .ok value) :
    ∃ first, result = .ok first ∧ next first = .ok value := by
  cases result with
  | error err => cases succeeded
  | ok first => exact ⟨first, rfl, succeeded⟩

inductive Outcome (α : Type) where
  | ok (value : α)
  | fail (err : Error)
  | hang
  | panic (reason : String)
  deriving DecidableEq, Repr

structure Reading (Input α : Type) where
  run : Input → Outcome α × Input

namespace Reading

variable {Input α β : Type}

instance : Monad (Reading Input) where
  pure value := ⟨fun input => (.ok value, input)⟩
  bind reading next := ⟨fun input => match reading.run input with
    | (.ok value, rest) => (next value).run rest
    | (.fail err, rest) => (.fail err, rest)
    | (.hang, rest) => (.hang, rest)
    | (.panic reason, rest) => (.panic reason, rest)⟩

def stop (outcome : Outcome α) : Reading Input α := ⟨fun input => (outcome, input)⟩

@[simp] theorem pure_run (value : α) (input : Input) :
    (pure value : Reading Input α).run input = (.ok value, input) := rfl

@[simp] theorem stop_run (outcome : Outcome α) (input : Input) :
    (stop outcome : Reading Input α).run input = (outcome, input) := rfl

section Bind

variable {reading : Reading Input α} {next : α → Reading Input β} {input rest : Input}

theorem bind_run : (reading >>= next).run input = match reading.run input with
    | (.ok value, rest) => (next value).run rest
    | (.fail err, rest) => (.fail err, rest)
    | (.hang, rest) => (.hang, rest)
    | (.panic reason, rest) => (.panic reason, rest) := rfl

theorem bind_ok {value : α} (returned : reading.run input = (.ok value, rest)) :
    (reading >>= next).run input = (next value).run rest := by
  rw [bind_run, returned]

theorem bind_fail {err : Error} (failed : reading.run input = (.fail err, rest)) :
    (reading >>= next).run input = (.fail err, rest) := by
  rw [bind_run, failed]

theorem bind_hang (blocked : reading.run input = (.hang, rest)) :
    (reading >>= next).run input = (.hang, rest) := by
  rw [bind_run, blocked]

theorem bind_panic {reason : String} (panicked : reading.run input = (.panic reason, rest)) :
    (reading >>= next).run input = (.panic reason, rest) := by
  rw [bind_run, panicked]

theorem bind_eq_ok {value : β} :
    (reading >>= next).run input = (.ok value, rest) ↔
      ∃ first between, reading.run input = (.ok first, between) ∧
        (next first).run between = (.ok value, rest) := by
  constructor
  · intro returned
    rw [bind_run] at returned
    split at returned
    next first between ran => exact ⟨first, between, ran, returned⟩
    all_goals cases returned
  · rintro ⟨first, between, ran, returned⟩
    rw [bind_ok ran, returned]

end Bind

end Reading

structure ReadResult where
  data : List UInt8
  err : Option Error
  deriving DecidableEq, Repr

abbrev Source := List ReadResult

/-- One `Read` into a buffer of `limit` bytes; `none` when it never returns. -/
def read (limit : Nat) : Source → Option (ReadResult × Source)
  | [] => none
  | result :: rest =>
      if limit < result.data.length then
        some (⟨result.data.take limit, none⟩, ⟨result.data.drop limit, result.err⟩ :: rest)
      else match result.err with
        | none => some (result, rest)
        | some err => some (result, ⟨[], some err⟩ :: rest)

inductive Ending where
  | hang
  | fail (err : Error)
  deriving DecidableEq, Repr

def Ending.outcome {α : Type} : Ending → Outcome α
  | .hang => .hang
  | .fail err => .fail err

structure Stream where
  bytes : List UInt8
  ending : Ending
  deriving DecidableEq, Repr

def view : Source → Stream
  | [] => ⟨[], .hang⟩
  | ⟨data, none⟩ :: rest => ⟨data ++ (view rest).bytes, (view rest).ending⟩
  | ⟨data, some err⟩ :: _ => ⟨data, .fail err⟩

@[simp] theorem view_nil : view [] = ⟨[], .hang⟩ := rfl

@[simp] theorem view_data (data : List UInt8) (rest : Source) :
    view (⟨data, none⟩ :: rest) = ⟨data ++ (view rest).bytes, (view rest).ending⟩ := rfl

@[simp] theorem view_error (data : List UInt8) (err : Error) (rest : Source) :
    view (⟨data, some err⟩ :: rest) = ⟨data, .fail err⟩ := rfl

/-- What a `Read` can still return before an error, counting empty results. -/
def weight : Source → Nat
  | [] => 0
  | result :: rest => result.data.length + 1 + weight rest

theorem read_none {limit : Nat} {source : Source} (blocked : read limit source = none) :
    source = [] := by
  cases source with
  | nil => rfl
  | cons result rest =>
      rcases result with ⟨data, err⟩
      simp only [read] at blocked
      split at blocked
      · cases blocked
      · cases err <;> cases blocked

inductive ReadStep (limit : Nat) : Source → ReadResult → Source → Prop where
  | part {data : List UInt8} {err : Option Error} {tail : Source} (long : limit < data.length) :
      ReadStep limit (⟨data, err⟩ :: tail) ⟨data.take limit, none⟩ (⟨data.drop limit, err⟩ :: tail)
  | whole {data : List UInt8} {tail : Source} (fits : data.length ≤ limit) :
      ReadStep limit (⟨data, none⟩ :: tail) ⟨data, none⟩ tail
  | last {data : List UInt8} {err : Error} {tail : Source} (fits : data.length ≤ limit) :
      ReadStep limit (⟨data, some err⟩ :: tail) ⟨data, some err⟩ (⟨[], some err⟩ :: tail)

theorem read_step {limit : Nat} {source rest : Source} {result : ReadResult}
    (returned : read limit source = some (result, rest)) : ReadStep limit source result rest := by
  cases source with
  | nil => cases returned
  | cons head tail =>
      rcases head with ⟨data, err⟩
      simp only [read] at returned
      split at returned
      next long =>
        cases returned
        exact .part long
      next short =>
        have fits := Nat.le_of_not_lt short
        cases err with
        | none =>
            cases returned
            exact .whole fits
        | some err =>
            cases returned
            exact .last fits

theorem read_some {limit : Nat} {source rest : Source} {result : ReadResult}
    (returned : read limit source = some (result, rest)) :
    result.data.length ≤ limit ∧
      view source = ⟨result.data ++ (view rest).bytes, (view rest).ending⟩ ∧
      (∀ err, result.err = some err → view rest = ⟨[], .fail err⟩) ∧
      (result.err = none → 0 < limit → weight rest < weight source) := by
  cases read_step returned with
  | @part data err tail long =>
      refine ⟨List.length_take_le _ _, ?_, by simp, ?_⟩
      · cases err with
        | none => simp [← List.append_assoc]
        | some err => simp
      · intro _ positive
        simp only [weight, List.length_drop]
        omega
  | whole fits =>
      refine ⟨fits, rfl, by simp, ?_⟩
      intro _ _
      simp only [weight]
      omega
  | last fits =>
      refine ⟨fits, by simp, ?_, by simp⟩
      intro other same
      cases same
      rfl

/-- `io.ReadFull` compares with `io.EOF` after it has read something. -/
def shortReadError (got : List UInt8) (err : Error) : Error :=
  if got ≠ [] ∧ err = .eof then .unexpectedEOF else err

/-- The loop of `io.ReadAtLeast` with a buffer of exactly `size` bytes, `got` of them
filled. The bytes come back with the error, as the caller's buffer keeps them. -/
def readFullFrom (size : Nat) (got : List UInt8) (source : Source) :
    Outcome (List UInt8 × Option Error) × Source :=
  if size ≤ got.length then (.ok (got, none), source)
  else match _returned : read (size - got.length) source with
    | none => (.hang, source)
    | some (⟨data, none⟩, rest) => readFullFrom size (got ++ data) rest
    | some (⟨data, some err⟩, rest) =>
        if size ≤ (got ++ data).length then (.ok (got ++ data, none), rest)
        else (.ok (got ++ data, some (shortReadError (got ++ data) err)), rest)
termination_by weight source
decreasing_by exact (read_some _returned).2.2.2 rfl (by omega)

def readFull (size : Nat) : Reading Source (List UInt8 × Option Error) :=
  ⟨readFullFrom size []⟩

/-- The loop of `io.CopyN(io.Discard, r, remaining)`: reads of at most 8192 bytes under
a `LimitReader`. -/
def discardFrom (remaining : Nat) (source : Source) : Outcome Unit × Source :=
  if remaining = 0 then (.ok (), source)
  else match _returned : read (min 8192 remaining) source with
    | none => (.hang, source)
    | some (⟨data, none⟩, rest) => discardFrom (remaining - data.length) rest
    | some (⟨data, some err⟩, rest) =>
        if remaining ≤ data.length then (.ok (), rest) else (.fail err, rest)
termination_by weight source
decreasing_by exact (read_some _returned).2.2.2 rfl (by omega)

section Unfolding

variable {size count : Nat} {got data : List UInt8} {source rest : Source} {err : Error}

theorem read_full_from_full (full : size ≤ got.length) :
    readFullFrom size got source = (.ok (got, none), source) := by
  rw [readFullFrom, if_pos full]

theorem read_full_from_blocked (partly : ¬size ≤ got.length)
    (blocked : read (size - got.length) source = none) :
    readFullFrom size got source = (.hang, source) := by
  rw [readFullFrom, if_neg partly]
  split
  next => rfl
  next other => cases blocked.symm.trans other
  next other => cases blocked.symm.trans other

theorem read_full_from_data (partly : ¬size ≤ got.length)
    (returned : read (size - got.length) source = some (⟨data, none⟩, rest)) :
    readFullFrom size got source = readFullFrom size (got ++ data) rest := by
  rw [readFullFrom, if_neg partly]
  split
  next other => cases returned.symm.trans other
  next same =>
      cases returned.symm.trans same
      rfl
  next other => cases returned.symm.trans other

theorem read_full_from_error (partly : ¬size ≤ got.length)
    (returned : read (size - got.length) source = some (⟨data, some err⟩, rest)) :
    readFullFrom size got source =
      if size ≤ (got ++ data).length then (.ok (got ++ data, none), rest)
      else (.ok (got ++ data, some (shortReadError (got ++ data) err)), rest) := by
  rw [readFullFrom, if_neg partly]
  split
  next other => cases returned.symm.trans other
  next other => cases returned.symm.trans other
  next same =>
      cases returned.symm.trans same
      rfl

theorem discard_zero : discardFrom 0 source = (.ok (), source) := by
  rw [discardFrom, if_pos rfl]

theorem discard_blocked (positive : count ≠ 0) (blocked : read (min 8192 count) source = none) :
    discardFrom count source = (.hang, source) := by
  rw [discardFrom, if_neg positive]
  split
  next => rfl
  next other => cases blocked.symm.trans other
  next other => cases blocked.symm.trans other

theorem discard_data (positive : count ≠ 0)
    (returned : read (min 8192 count) source = some (⟨data, none⟩, rest)) :
    discardFrom count source = discardFrom (count - data.length) rest := by
  rw [discardFrom, if_neg positive]
  split
  next other => cases returned.symm.trans other
  next same =>
      cases returned.symm.trans same
      rfl
  next other => cases returned.symm.trans other

theorem discard_error (positive : count ≠ 0)
    (returned : read (min 8192 count) source = some (⟨data, some err⟩, rest)) :
    discardFrom count source =
      if count ≤ data.length then (.ok (), rest) else (.fail err, rest) := by
  rw [discardFrom, if_neg positive]
  split
  next other => cases returned.symm.trans other
  next other => cases returned.symm.trans other
  next same =>
      cases returned.symm.trans same
      rfl

end Unfolding

def discard (count : Nat) : Reading Source Unit := ⟨discardFrom count⟩

def nextByteFrom : Source → Outcome UInt8 × Source
  | [] => (.hang, [])
  | ⟨[], none⟩ :: rest => nextByteFrom rest
  | ⟨[], some err⟩ :: rest => (.fail err, ⟨[], some err⟩ :: rest)
  | ⟨byte :: data, err⟩ :: rest => (.ok byte, ⟨data, err⟩ :: rest)

/-- A conforming `io.ByteReader`: it returns the last byte also when the error came
with it, and waits through empty results. -/
def nextByte : Reading Source UInt8 := ⟨nextByteFrom⟩

namespace Stream

def readByte : Reading Stream UInt8 := ⟨fun stream => match stream.bytes with
  | [] => (stream.ending.outcome, stream)
  | byte :: bytes => (.ok byte, ⟨bytes, stream.ending⟩)⟩

def readFull (size : Nat) : Reading Stream (List UInt8 × Option Error) := ⟨fun stream =>
  if size ≤ stream.bytes.length then
    (.ok (stream.bytes.take size, none), ⟨stream.bytes.drop size, stream.ending⟩)
  else match stream.ending with
    | .hang => (.hang, ⟨[], stream.ending⟩)
    | .fail err =>
        (.ok (stream.bytes, some (shortReadError stream.bytes err)), ⟨[], stream.ending⟩)⟩

def discard (count : Nat) : Reading Stream Unit := ⟨fun stream =>
  if count ≤ stream.bytes.length then (.ok (), ⟨stream.bytes.drop count, stream.ending⟩)
  else (stream.ending.outcome, ⟨[], stream.ending⟩)⟩

section Cases

variable {count : Nat} {bytes : List UInt8} {ending : Ending}

theorem read_full_enough (enough : count ≤ bytes.length) :
    (readFull count).run ⟨bytes, ending⟩ =
      (.ok (bytes.take count, none), ⟨bytes.drop count, ending⟩) := if_pos enough

theorem read_full_fail {err : Error} (short : ¬count ≤ bytes.length) :
    (readFull count).run ⟨bytes, .fail err⟩ =
      (.ok (bytes, some (shortReadError bytes err)), ⟨[], .fail err⟩) := if_neg short

theorem read_full_hang (short : ¬count ≤ bytes.length) :
    (readFull count).run ⟨bytes, .hang⟩ = (.hang, ⟨[], .hang⟩) := if_neg short

theorem discard_enough (enough : count ≤ bytes.length) :
    (discard count).run ⟨bytes, ending⟩ = (.ok (), ⟨bytes.drop count, ending⟩) := if_pos enough

theorem discard_short (short : ¬count ≤ bytes.length) :
    (discard count).run ⟨bytes, ending⟩ = (ending.outcome, ⟨[], ending⟩) := if_neg short

end Cases

/-- A first step that meets the end of the stream ends the whole computation. -/
theorem bind_ending {α β : Type} {reading : Reading Stream α} {next : α → Reading Stream β}
    {stream left : Stream} {ending : Ending}
    (stopped : reading.run stream = (ending.outcome, left)) :
    (reading >>= next).run stream = (ending.outcome, left) := by
  cases ending with
  | hang => exact Reading.bind_hang stopped
  | fail err => exact Reading.bind_fail stopped

end Stream

/-- A reading of the source gives the outcome that the abstract one gives on its view,
and leaves a source with the view that the abstract one leaves. -/
def Refines {α : Type} (reading : Reading Source α) (spec : Reading Stream α) : Prop :=
  ∀ source, (reading.run source).1 = (spec.run (view source)).1 ∧
    view (reading.run source).2 = (spec.run (view source)).2

section Refinement

variable {α β : Type}

theorem Refines.apply {reading : Reading Source α} {spec : Reading Stream α}
    (refines : Refines reading spec) {source : Source} {outcome : Outcome α} {left : Stream}
    (result : spec.run (view source) = (outcome, left)) :
    ∃ rest, reading.run source = (outcome, rest) ∧ view rest = left := by
  obtain ⟨first, second⟩ := refines source
  rw [result] at first second
  exact ⟨(reading.run source).2, Prod.ext first rfl, second⟩

theorem refines_pure (value : α) : Refines (pure value) (pure value) :=
  fun _ => ⟨rfl, rfl⟩

theorem refines_stop (outcome : Outcome α) :
    Refines (Reading.stop outcome) (Reading.stop outcome) :=
  fun _ => ⟨rfl, rfl⟩

theorem Refines.bind {reading : Reading Source α} {spec : Reading Stream α}
    {next : α → Reading Source β} {specNext : α → Reading Stream β}
    (first : Refines reading spec) (second : ∀ value, Refines (next value) (specNext value)) :
    Refines (reading >>= next) (spec >>= specNext) := by
  intro source
  rcases result : spec.run (view source) with ⟨outcome, left⟩
  obtain ⟨rest, returned, seen⟩ := first.apply result
  cases outcome with
  | ok value =>
      rw [Reading.bind_ok returned, Reading.bind_ok result, ← seen]
      exact second value rest
  | fail err =>
      rw [Reading.bind_fail returned, Reading.bind_fail result]
      exact ⟨rfl, seen⟩
  | hang =>
      rw [Reading.bind_hang returned, Reading.bind_hang result]
      exact ⟨rfl, seen⟩
  | panic reason =>
      rw [Reading.bind_panic returned, Reading.bind_panic result]
      exact ⟨rfl, seen⟩

theorem next_byte_refines : Refines nextByte Stream.readByte := by
  intro source
  induction source with
  | nil => exact ⟨rfl, rfl⟩
  | cons result rest induction =>
      rcases result with ⟨data, err⟩
      cases data with
      | cons byte data => cases err <;> exact ⟨rfl, rfl⟩
      | nil =>
          cases err with
          | some err => exact ⟨rfl, rfl⟩
          | none => simpa [nextByte, nextByteFrom] using induction

private theorem read_full_from_view (size : Nat) (got : List UInt8) (source : Source)
    (short : got.length ≤ size) :
    (readFullFrom size got source).1 = ((Stream.readFull size).run
        ⟨got ++ (view source).bytes, (view source).ending⟩).1 ∧
      view (readFullFrom size got source).2 = ((Stream.readFull size).run
        ⟨got ++ (view source).bytes, (view source).ending⟩).2 := by
  induction bound : weight source using Nat.strongRecOn generalizing got source with
  | ind total induction =>
      subst bound
      by_cases full : size ≤ got.length
      · have same : size = got.length := by omega
        subst same
        rw [read_full_from_full (Nat.le_refl _)]
        simp [Stream.readFull]
      · rcases returned : read (size - got.length) source with _ | ⟨⟨data, err⟩, rest⟩
        · rw [read_full_from_blocked full returned, read_none returned]
          simp [Stream.readFull, full]
        · obtain ⟨bounded, seen, closed, smaller⟩ := read_some returned
          have fits : (got ++ data).length ≤ size := by
            simp only [List.length_append]
            simp only at bounded
            omega
          cases err with
          | none =>
              rw [read_full_from_data full returned, seen]
              simpa only [List.append_assoc] using
                induction (weight rest) (smaller rfl (by omega)) (got ++ data) rest fits rfl
          | some err =>
              have after := closed err rfl
              rw [read_full_from_error full returned, seen, after]
              simp only [List.append_nil, Stream.readFull]
              by_cases enough : size ≤ (got ++ data).length
              · have same : (got ++ data).length = size := by omega
                rw [if_pos enough, if_pos enough, ← same, List.take_length, List.drop_length]
                exact ⟨rfl, after⟩
              · rw [if_neg enough, if_neg enough]
                exact ⟨rfl, after⟩

theorem read_full_refines (size : Nat) : Refines (readFull size) (Stream.readFull size) := by
  intro source
  simpa [readFull] using read_full_from_view size [] source (Nat.zero_le _)

theorem discard_refines (count : Nat) : Refines (discard count) (Stream.discard count) := by
  intro source
  simp only [discard]
  induction bound : weight source using Nat.strongRecOn generalizing count source with
  | ind total induction =>
      subst bound
      by_cases done : count = 0
      · subst done
        rw [discard_zero]
        simp [Stream.discard]
      · rcases returned : read (min 8192 count) source with _ | ⟨⟨data, err⟩, rest⟩
        · rw [discard_blocked done returned, read_none returned]
          simp [Stream.discard, done, Ending.outcome]
        · obtain ⟨bounded, seen, closed, smaller⟩ := read_some returned
          have fits : data.length ≤ count := by
            simp only at bounded
            omega
          cases err with
          | none =>
              obtain ⟨outcome, left⟩ := induction (weight rest) (smaller rfl (by omega))
                (count - data.length) rest rfl
              rw [discard_data done returned, outcome, left, seen]
              simp only [Stream.discard, List.length_append]
              by_cases enough : count - data.length ≤ (view rest).bytes.length
              · rw [if_pos enough, if_pos (by omega), List.drop_append,
                  List.drop_eq_nil_of_le fits]
                exact ⟨rfl, rfl⟩
              · rw [if_neg enough, if_neg (by omega)]
                exact ⟨rfl, rfl⟩
          | some err =>
              have after := closed err rfl
              rw [discard_error done returned, seen, after]
              simp only [List.append_nil, Stream.discard]
              by_cases enough : count ≤ data.length
              · rw [if_pos enough, if_pos enough, List.drop_eq_nil_of_le fits]
                exact ⟨rfl, after⟩
              · rw [if_neg enough, if_neg enough]
                exact ⟨rfl, after⟩

theorem read_full_ok {size : Nat} {source left : Source} {got : List UInt8}
    (returned : (readFull size).run source = (.ok (got, none), left)) :
    size ≤ (view source).bytes.length ∧ got = (view source).bytes.take size := by
  have outcome := (read_full_refines size source).1
  rw [returned] at outcome
  by_cases enough : size ≤ (view source).bytes.length
  · rw [Stream.read_full_enough enough] at outcome
    exact ⟨enough, (Prod.mk.inj (Outcome.ok.inj outcome)).1⟩
  · cases ended : (view source).ending with
    | hang =>
        have blocked : (Stream.readFull size).run (view source) = (.hang, ⟨[], .hang⟩) := by
          rw [← Stream.read_full_hang enough, ← ended]
        rw [blocked] at outcome
        cases outcome
    | fail err =>
        have partly : (Stream.readFull size).run (view source) =
            (.ok ((view source).bytes, some (shortReadError (view source).bytes err)),
              ⟨[], .fail err⟩) := by
          rw [← Stream.read_full_fail enough, ← ended]
        rw [partly] at outcome
        cases outcome

end Refinement

/-- What generic code asks of a reader: single bytes, a full buffer, bytes to throw away. -/
structure Device (Input : Type) where
  readByte : Reading Input UInt8
  readFull : Nat → Reading Input (List UInt8 × Option Error)
  discard : Nat → Reading Input Unit

def sourceDevice (readByte : Reading Source UInt8) : Device Source where
  readByte := readByte
  readFull := readFull
  discard := discard

def streamDevice : Device Stream where
  readByte := Stream.readByte
  readFull := Stream.readFull
  discard := Stream.discard

@[simp] theorem stream_device_read_byte : streamDevice.readByte = Stream.readByte := rfl

@[simp] theorem stream_device_read_full : streamDevice.readFull = Stream.readFull := rfl

@[simp] theorem stream_device_discard : streamDevice.discard = Stream.discard := rfl

end GoReader
