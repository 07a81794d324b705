import WebTransportGos.Library.Cycles
import WebTransportGos.Helper.TransportAttempts

/-!
The servers that a call of `connect` tries: round after round the preferred one and the proxies,
until one opens or all rounds are made, and what is then reported.
-/

namespace WebTransportGos.Helper.Transport

open StepSystem Cycles

set_option autoImplicit false

variable {Server Data : Type*} {options : TransportOptions}
  {transport next : Transport Server Data} {event : Event Server Data}

def parts (transport : Transport Server Data) : List (Nat × Server) :=
  transport.sockets.map fun native => (native.round, native.server)

def attempts (transport : Transport Server Data) (round : Nat) : List Server :=
  (transport.parts.filter fun part => part.1 = round).map Prod.snd

def fullRounds (options : TransportOptions) (closure : Round Server) (preferred : Server) :
    List Server :=
  cycles (max 1 options.retryCount) (preferred :: closure.proxys)

/-- Each call of `connect` tries its servers in their order. -/
def OrderKept (options : TransportOptions) (transport : Transport Server Data) : Prop :=
  ∀ (round : Nat) (closure : Round Server) (preferred : Server),
    transport.rounds[round]? = some closure → closure.preferred = some preferred →
    transport.attempts round <+: fullRounds options closure preferred

def Fails (event : Event Server Data) (socket : Nat) (result : TransportStatus) : Prop :=
  match event with
  | .errored other => other = socket ∧ result = .error
  | .timeout other => other = socket ∧ result = .timeout
  | _ => False

structure FailsAttempt (transport : Transport Server Data) (event : Event Server Data)
    (socket : Nat) (native : NativeSocket Server) (result : TransportStatus) : Prop where
  fails : Fails event socket result
  known : transport.sockets[socket]? = some native
  awaited : native.awaited = true
  connecting : transport.status = .connecting

/-- The order of attempts is kept, and the call that connects goes on. An attempt that fails is
the last one exactly if all rounds are made, and then it is reported once; nothing else is. -/
structure FollowsList (options : TransportOptions) (transport : Transport Server Data)
    (event : Event Server Data) (next : Transport Server Data) : Prop where
  order : OrderKept options next
  goesOn : next.status = .connecting → ∀ round closure, round + 1 = next.rounds.length →
    next.rounds[round]? = some closure → closure.preferred ≠ none → next.pending round = 1
  last : ∀ socket native result closure preferred,
    FailsAttempt transport event socket native result →
    transport.rounds[native.round]? = some closure → closure.preferred = some preferred →
    transport.attempts native.round = fullRounds options closure preferred →
    next.status = result ∧ next.log.reports = transport.log.reports ++
      if reportSet options result then [(result, native.server)] else []
  onward : ∀ socket native result closure preferred,
    FailsAttempt transport event socket native result →
    transport.rounds[native.round]? = some closure → closure.preferred = some preferred →
    transport.attempts native.round ≠ fullRounds options closure preferred →
    next.status = .connecting ∧ next.log.reports = transport.log.reports
  silent : (∀ socket native result, ¬FailsAttempt transport event socket native result) →
    next.log.reports = transport.log.reports ∧
      (next.status = .error ∨ next.status = .timeout → next.status = transport.status)

/-- Retries begin to count anew, or do not matter. -/
def CountsAnew (options : TransportOptions) (transport : Transport Server Data) : Prop :=
  transport.retryIndex = 0 ∨ options.retryCount ≤ 1

def Preferred (transport : Transport Server Data) (socket : Nat) : Prop :=
  ∀ (native : NativeSocket Server) (closure : Round Server),
    transport.sockets[socket]? = some native → transport.rounds[native.round]? = some closure →
    closure.preferred = some native.server

def roundsMade (options : TransportOptions) (transport : Transport Server Data) : Nat :=
  if 1 < options.retryCount then transport.retryIndex else 0

structure AtPlace (options : TransportOptions) (transport : Transport Server Data) (round : Nat)
    (closure : Round Server) (preferred : Server) : Prop where
  index : closure.serverIndex ≤ (preferred :: closure.proxys).length
  made : roundsMade options transport < max 1 options.retryCount
  attempts : transport.attempts round =
    place (roundsMade options transport) closure.serverIndex (preferred :: closure.proxys)

/-- The last call of `connect` is at its place, with an attempt awaited or scheduled. -/
structure Going (options : TransportOptions) (transport : Transport Server Data) (round : Nat)
    (closure : Round Server) (preferred : Server) : Prop where
  atPlace : AtPlace options transport round closure preferred
  single : transport.pending round = 1
  scheduled : round ∈ transport.nextStarts →
    closure.serverIndex < (preferred :: closure.proxys).length

structure Rounding (options : TransportOptions) (transport : Transport Server Data) : Prop where
  attempted : Attempted transport
  order : OrderKept options transport
  asked : transport.server = transport.preferred
  named : ∀ closure ∈ transport.rounds, closure.server = closure.preferred
  going : transport.status = .connecting → ∀ round closure preferred,
    round + 1 = transport.rounds.length → transport.rounds[round]? = some closure →
    closure.preferred = some preferred → Going options transport round closure preferred

theorem attempts_of_parts (parts : next.parts = transport.parts) (round : Nat) :
    next.attempts round = transport.attempts round := by
  rw [attempts, attempts, parts]

theorem parts_touch (socket : Nat) {change : NativeSocket Server → NativeSocket Server}
    (round : ∀ native, (change native).round = native.round)
    (server : ∀ native, (change native).server = native.server) :
    (transport.touch socket change).parts = transport.parts := by
  apply modify_map_same
  intro native
  rw [round, server]

structure Still (transport next : Transport Server Data) : Prop where
  parts : next.parts = transport.parts
  rounds : next.rounds = transport.rounds
  server : next.server = transport.server
  preferred : next.preferred = transport.preferred
  reports : next.log.reports = transport.log.reports
  connecting : next.status = .connecting → transport.status = .connecting ∧
    next.standing = transport.standing ∧ next.nextStarts = transport.nextStarts ∧
    next.retryIndex = transport.retryIndex
  final : next.status = .error ∨ next.status = .timeout → next.status = transport.status

def course (transport : Transport Server Data) :
    List (Round Server) × Option Server × Option Server × List (TransportStatus × Server) ×
      TransportStatus × List Nat × Nat :=
  (transport.rounds, transport.server, transport.preferred, transport.log.reports,
    transport.status, transport.nextStarts, transport.retryIndex)

theorem still_same (parts : next.parts = transport.parts)
    (standing : next.standing = transport.standing) (same : next.course = transport.course) :
    Still transport next := by
  simp only [course, Prod.mk.injEq] at same
  rcases same with ⟨rounds, server, preferred, reports, status, nextStarts, retryIndex⟩
  refine ⟨parts, rounds, server, preferred, reports, fun connecting => ?_, fun _ => status⟩
  exact ⟨status.symm.trans connecting, standing, nextStarts, retryIndex⟩

theorem Still.refl (transport : Transport Server Data) : Still transport transport :=
  still_same rfl rfl rfl

theorem still_touch (socket : Nat) {change : NativeSocket Server → NativeSocket Server}
    (round : ∀ native, (change native).round = native.round)
    (server : ∀ native, (change native).server = native.server)
    (awaited : ∀ native, (change native).awaited = native.awaited) :
    Still transport (transport.touch socket change) :=
  still_same (parts_touch socket round server) (standing_touch socket awaited round) rfl

theorem Still.order (still : Still transport next) (order : OrderKept options transport) :
    OrderKept options next := by
  intro round closure preferred began asked
  rw [still.rounds] at began
  rw [attempts_of_parts still.parts]
  exact order round closure preferred began asked

theorem Rounding.still (rounding : Rounding options transport) (still : Still transport next)
    (attempted : Attempted next) : Rounding options next := by
  refine ⟨attempted, still.order rounding.order, ?_, ?_, ?_⟩
  · rw [still.server, still.preferred]
    exact rounding.asked
  · rw [still.rounds]
    exact rounding.named
  · intro connecting round closure preferred current began asked
    rcases still.connecting connecting with ⟨before, standing, nextStarts, retryIndex⟩
    rw [still.rounds] at current began
    have going := rounding.going before round closure preferred current began asked
    refine ⟨⟨going.atPlace.index, ?_, ?_⟩, ?_, ?_⟩
    · rw [roundsMade, retryIndex]
      exact going.atPlace.made
    · rw [attempts_of_parts still.parts, roundsMade, retryIndex]
      exact going.atPlace.attempts
    · rw [pending, standing, nextStarts]
      exact going.single
    · rw [nextStarts]
      exact going.scheduled

structure Between (options : TransportOptions) (transport : Transport Server Data)
    (round : Nat) : Prop where
  attempted : Attempted transport
  order : OrderKept options transport
  asked : transport.server = transport.preferred
  named : ∀ closure ∈ transport.rounds, closure.server = closure.preferred
  connecting : transport.status = .connecting
  current : round + 1 = transport.rounds.length
  free : transport.pending round = 0
  atPlace : ∀ closure preferred, transport.rounds[round]? = some closure →
    closure.preferred = some preferred → AtPlace options transport round closure preferred

structure Ready (options : TransportOptions) (transport : Transport Server Data) (round : Nat) : Prop
    extends Between options transport round where
  inside : ∀ closure preferred, transport.rounds[round]? = some closure →
    closure.preferred = some preferred →
    closure.serverIndex < (preferred :: closure.proxys).length

theorem attempts_append {round : Nat} {server : Server}
    (sockets : next.sockets = transport.sockets ++ [newSocket round server]) (other : Nat) :
    next.attempts other =
      transport.attempts other ++ if round = other then [server] else [] := by
  have more : next.parts = transport.parts ++ [(round, server)] := by
    rw [parts, sockets, List.map_append]
    rfl
  rw [attempts, more, List.filter_append, List.map_append, attempts]
  split
  next same => simp [same]
  next different => simp [different]

/-- The server at the place of a call comes next. -/
theorem next_server {round : Nat} {closure : Round Server} {preferred server : Server}
    (began : transport.rounds[round]? = some closure) (named : closure.server = some preferred)
    (here : (preferred :: closure.proxys)[closure.serverIndex]? = some server) :
    nextServer transport round = some server := by
  have list : closure.servers = (preferred :: closure.proxys).map some := by
    rw [Round.servers, named, List.map_cons]
  rw [nextServer, began, Option.bind_some, list, List.getElem?_map, here]
  rfl

theorem named_modify {round : Nat} {change : Round Server → Round Server}
    (named : ∀ closure ∈ transport.rounds, closure.server = closure.preferred)
    (server : ∀ closure, (change closure).server = closure.server)
    (preferred : ∀ closure, (change closure).preferred = closure.preferred) :
    ∀ closure ∈ transport.rounds.modify round change, closure.server = closure.preferred := by
  apply forall_modify named
  intro closure began
  rw [server, preferred]
  exact named closure (List.mem_of_getElem? began)

theorem order_of_modify {round : Nat} {change : Round Server → Round Server}
    (order : OrderKept options transport)
    (rounds : next.rounds = transport.rounds.modify round change)
    (proxys : ∀ closure, (change closure).proxys = closure.proxys)
    (preferred : ∀ closure, (change closure).preferred = closure.preferred)
    (others : ∀ other, other ≠ round → next.attempts other = transport.attempts other)
    (own : ∀ closure asked, transport.rounds[round]? = some closure →
      closure.preferred = some asked →
      next.attempts round <+: fullRounds options closure asked) : OrderKept options next := by
  intro other closure asked began named
  rw [rounds] at began
  by_cases same : round = other
  · subst same
    rw [List.getElem?_modify_eq] at began
    rcases Option.map_eq_some_iff.mp began with ⟨before, present, rfl⟩
    rw [preferred] at named
    rw [fullRounds, proxys]
    exact own before asked present named
  · rw [List.getElem?_modify_ne _ _ same] at began
    rw [others other (Ne.symm same)]
    exact order other closure asked began named

theorem pending_begun {round : Nat} {server : Server}
    (sockets : next.sockets = transport.sockets ++ [newSocket round server]) :
    0 < next.pending round := by
  have member : (true, round) ∈ next.standing := by
    rw [standing, sockets, List.map_append]
    exact List.mem_append_right _ List.mem_cons_self
  have positive := List.count_pos_iff.mpr member
  rw [pending]
  omega

theorem Ready.unscheduled {round : Nat} (ready : Ready options transport round) :
    round ∉ transport.nextStarts := by
  have free := ready.free
  rw [pending, Nat.add_eq_zero_iff] at free
  exact List.count_eq_zero.mp free.2

/-- With a preferred server the next attempt is at the server at the place of the call. -/
theorem Ready.tries {round : Nat} (ready : Ready options transport round)
    {closure : Round Server} {preferred : Server}
    (began : transport.rounds[round]? = some closure)
    (asked : closure.preferred = some preferred) : ∃ server,
    nextServer transport round = some server ∧
      (nextStart round transport).attempts round = place (roundsMade options transport)
        (closure.serverIndex + 1) (preferred :: closure.proxys) := by
  have here := List.getElem?_eq_getElem (ready.inside closure preferred began asked)
  have named := (ready.named closure (List.mem_of_getElem? began)).trans asked
  have server := next_server began named here
  refine ⟨_, server, ?_⟩
  have sockets := next_start_sockets round ready.connecting
  rw [server] at sockets
  rw [attempts_append sockets, if_pos rfl,
    (ready.atPlace closure preferred began asked).attempts, place_next here]

theorem Ready.next_start {round : Nat} (ready : Ready options transport round) :
    Rounding options (nextStart round transport) := by
  have started := next_start_eq round ready.connecting
  have begun := next_start_begun round transport
  have inside := Nat.lt_of_succ_le (Nat.le_of_eq ready.current)
  have rounds : (nextStart round transport).rounds = transport.rounds.modify round fun closure =>
      { closure with serverIndex := closure.serverIndex + 1 } := by
    rw [started]
  have attempted := ready.attempted.begun begun inside ready.free
  refine ⟨attempted, ?_, ?_, ?_, ?_⟩
  · apply order_of_modify ready.order rounds (by intro _; rfl) (by intro _; rfl)
    · intro other different
      rw [attempts, attempts, parts, parts, next_start_sockets round ready.connecting]
      cases nextServer transport round with
      | none => simp
      | some server => simp [newSocket, different.symm]
    · intro closure preferred began asked
      rcases ready.tries began asked with ⟨server, -, made⟩
      rw [made]
      exact place_prefix _ _ (ready.atPlace closure preferred began asked).made
  · rw [started]
    exact ready.asked
  · rw [rounds]
    exact named_modify ready.named (by intro _; rfl) (by intro _; rfl)
  · intro _ other closure preferred current began asked
    rw [begun.same_rounds, ← ready.current] at current
    cases Nat.succ.inj current
    rw [rounds, List.getElem?_modify_eq] at began
    rcases Option.map_eq_some_iff.mp began with ⟨before, present, rfl⟩
    rcases ready.tries present asked with ⟨server, next, made⟩
    have retries : roundsMade options (nextStart round transport) =
        roundsMade options transport := by
      rw [roundsMade, (next_start_attempting round transport).retryIndex, roundsMade]
    refine ⟨⟨ready.inside before preferred present asked, ?_, ?_⟩, ?_, ?_⟩
    · rw [retries]
      exact (ready.atPlace before preferred present asked).made
    · rw [retries]
      exact made
    · have single := attempted.single round
      have sockets := next_start_sockets round ready.connecting
      rw [next] at sockets
      have waits := pending_begun sockets
      omega
    · intro scheduled
      rw [started] at scheduled
      exact absurd scheduled ready.unscheduled

theorem Ready.next_end {round : Nat} (ready : Ready options transport round) :
    Rounding options (nextEnd options round transport) := by
  have begun := @next_end_begun Server Data options round transport
  have attempted := ready.attempted.begun begun
    (Nat.lt_of_succ_le (Nat.le_of_eq ready.current)) ready.free
  unfold nextEnd at attempted ⊢
  split
  next delayed =>
    rw [if_pos delayed] at attempted
    refine ⟨attempted, ready.order, ready.asked, ready.named, ?_⟩
    intro _ other closure preferred current began asked
    cases Nat.succ.inj (current.trans ready.current.symm)
    have atPlace := ready.atPlace closure preferred began asked
    refine ⟨⟨atPlace.index, atPlace.made, atPlace.attempts⟩, ?_,
      fun _ => ready.inside closure preferred began asked⟩
    have single := attempted.single round
    have member : round ∈ transport.nextStarts ++ [round] :=
      List.mem_append_right _ List.mem_cons_self
    have positive := List.count_pos_iff.mpr member
    change _ + (transport.nextStarts ++ [round]).count round ≤ 1 at single
    change _ + (transport.nextStarts ++ [round]).count round = 1
    omega
  next => exact ready.next_start

theorem attempts_fresh (attempted : Attempted transport) :
    transport.attempts transport.rounds.length = [] := by
  rw [attempts, List.map_eq_nil_iff, List.filter_eq_nil_iff]
  intro part member
  rcases List.mem_map.mp member with ⟨native, own, rfl⟩
  have inside := attempted.known (native.awaited, native.round) (List.mem_map_of_mem own)
  rw [decide_eq_true_iff]
  exact Nat.ne_of_lt inside

theorem calling_ready (rounding : Rounding options transport) {server : Option Server}
    (proxys : List Server) {preferred : Option Server} (same : server = preferred)
    (anew : CountsAnew options transport) :
    Ready options (calling server proxys preferred transport) transport.rounds.length := by
  have rounds : (calling server proxys preferred transport).rounds =
      transport.rounds ++ [⟨server, proxys, 0, preferred⟩] := rfl
  refine ⟨⟨calling_attempted rounding.attempted server proxys preferred, ?_, same, ?_, rfl,
    (calling_rounds server proxys preferred transport).symm, rounding.attempted.fresh_round, ?_⟩,
    ?_⟩
  · intro round closure asked began named
    rw [rounds] at began
    rcases Nat.lt_or_ge round transport.rounds.length with before | after
    · rw [List.getElem?_append_left before] at began
      exact rounding.order round closure asked began named
    · have last := (List.getElem?_eq_some_iff.mp began).1
      rw [List.length_append, List.length_singleton] at last
      have here : round = transport.rounds.length := by omega
      have fresh := attempts_fresh rounding.attempted
      rw [← here] at fresh
      change transport.attempts round <+: _
      rw [fresh]
      exact List.nil_prefix
  · intro closure member
    rcases List.mem_append.mp member with before | new
    · exact rounding.named closure before
    · rw [List.mem_singleton.mp new]
      exact same
  · intro closure asked began named
    rw [rounds, List.getElem?_concat_length] at began
    cases began
    have zero : roundsMade options (calling server proxys preferred transport) = 0 := by
      rw [roundsMade]
      split
      next retries =>
        rcases anew with same | few
        · exact same
        · exact absurd retries (Nat.not_lt_of_le few)
      next => rfl
    refine ⟨Nat.zero_le _, ?_, ?_⟩
    · rw [zero]
      exact Nat.lt_of_lt_of_le Nat.one_pos (Nat.le_max_left _ _)
    · rw [zero]
      exact attempts_fresh rounding.attempted
  · intro closure asked began named
    rw [rounds, List.getElem?_concat_length] at began
    cases began
    exact Nat.succ_pos _

theorem rounding_connect (rounding : Rounding options transport) {server : Option Server}
    (proxys : List Server) {preferred : Option Server} (same : server = preferred)
    (anew : transport.status.busy = false → CountsAnew options transport) :
    Rounding options (connect server proxys preferred transport) := by
  have attempted := connect_attempted rounding.attempted server proxys preferred
  cases free : transport.status.busy with
  | true =>
      rw [connect_busy server proxys preferred free] at attempted ⊢
      refine ⟨attempted, rounding.order, same, rounding.named, ?_⟩
      intro connecting round closure asked current began given
      have going := rounding.going connecting round closure asked current began given
      exact ⟨⟨going.atPlace.index, going.atPlace.made, going.atPlace.attempts⟩, going.single,
        going.scheduled⟩
  | false =>
      rw [connect_free server proxys preferred free]
      exact (calling_ready rounding proxys same (anew free)).next_start

theorem rounding_connect_again (rounding : Rounding options transport) (socket : Nat)
    (own : Preferred transport socket)
    (anew : transport.status.busy = false → CountsAnew options transport) :
    Rounding options (connectAgain options socket transport) := by
  rcases connect_again_cases options socket transport with
    same | ⟨native, closure, known, began, again⟩
  · rw [same]
    exact rounding
  · rw [again]
    refine rounding_connect ?_ _ (own native closure known began).symm anew
    have parts : (cleared options socket transport).parts = transport.parts :=
      cleared_map options _ (by intro _; rfl) socket transport
    have standing : (cleared options socket transport).standing = transport.standing :=
      cleared_map options _ (by intro _; rfl) socket transport
    apply rounding.still (still_same parts standing rfl)
    exact rounding.attempted.of_same standing rfl (List.Sublist.refl _)

theorem servers_length (closure : Round Server) (preferred : Server) :
    closure.servers.length = (preferred :: closure.proxys).length := by
  rw [Round.servers, List.length_cons, List.length_map, List.length_cons]

theorem made_retrying (round : Nat) (retries : Retries options transport) :
    roundsMade options (retrying transport round) = roundsMade options transport + 1 ∧
      roundsMade options transport + 1 < max 1 options.retryCount := by
  rcases retries with ⟨positive, more⟩
  have many : 1 < options.retryCount := by omega
  rw [roundsMade, roundsMade, if_pos many, if_pos many, Nat.max_eq_right (Nat.le_of_lt many)]
  exact ⟨rfl, by omega⟩

section Failing

variable {round : Nat} {server : Server} {status : TransportStatus}

/-- At the end of its list a call that retries is at the beginning again. -/
theorem Between.retries (between : Between options transport round)
    (retries : Retries options transport) {closure : Round Server}
    (began : transport.rounds[round]? = some closure)
    (last : closure.serverIndex = closure.servers.length) :
    Ready options (retrying transport round) round := by
  have rounds : (retrying transport round).rounds = transport.rounds.modify round fun closure =>
      { closure with serverIndex := 0 } := rfl
  have first {after : Round Server}
      (present : (retrying transport round).rounds[round]? = some after) :
      after = { closure with serverIndex := 0 } := by
    rw [rounds, List.getElem?_modify_eq, began] at present
    exact (Option.some.inj present).symm
  refine ⟨⟨?_, ?_, between.asked, ?_, between.connecting, ?_, between.free, ?_⟩, ?_⟩
  · exact between.attempted.of_same rfl (List.length_modify _ _ _) (List.Sublist.refl _)
  · apply order_of_modify between.order rounds (by intro _; rfl) (by intro _; rfl)
    · exact fun _ _ => rfl
    · exact fun closure asked present named => between.order round closure asked present named
  · rw [rounds]
    exact named_modify between.named (by intro _; rfl) (by intro _; rfl)
  · rw [rounds, List.length_modify]
    exact between.current
  · intro after preferred present asked
    cases first present
    have atPlace := between.atPlace closure preferred began asked
    rcases made_retrying round retries with ⟨more, less⟩
    refine ⟨Nat.zero_le _, ?_, ?_⟩
    · rw [more]
      exact less
    · have whole := atPlace.attempts
      rw [last, servers_length closure preferred, place_whole] at whole
      rw [more, place_zero]
      exact whole
  · intro after preferred present _
    cases first present
    exact Nat.succ_pos _

/-- Whatever follows, the calls keep their order. -/
theorem Between.failed (between : Between options transport round)
    (final : status ≠ .connecting) :
    Rounding options (attemptFailed options round server status transport) := by
  have inside := Nat.lt_of_succ_le (Nat.le_of_eq between.current)
  have began := List.getElem?_eq_getElem inside
  by_cases last : transport.rounds[round].serverIndex = transport.rounds[round].servers.length
  · by_cases retries : Retries options transport
    · rw [attempt_failed_retries options server status began last retries]
      exact (between.retries retries began last).next_end
    · rw [attempt_failed_last options server status began last retries]
      refine ⟨between.attempted.of_same rfl rfl (List.Sublist.refl _), between.order,
        between.asked, between.named, fun connecting => absurd connecting final⟩
  · rw [attempt_failed_onward options server status began last]
    apply Ready.next_end
    refine ⟨between, ?_⟩
    intro closure preferred present asked
    cases began.symm.trans present
    apply Nat.lt_of_le_of_ne (between.atPlace _ preferred began asked).index
    rw [← servers_length]
    exact last

end Failing

theorem Rounding.between (rounding : Rounding options transport) {socket : Nat}
    {native : NativeSocket Server} (known : transport.sockets[socket]? = some native)
    (awaited : native.awaited = true) (connecting : transport.status = .connecting)
    (current : native.round + 1 = transport.rounds.length) :
    Between options (transport.touch socket fun native => { native with awaited := false })
      native.round := by
  rcases rounding.attempted.completed known awaited with ⟨attempted, free⟩
  have parts := @parts_touch Server Data transport socket
    (fun native => { native with awaited := false }) (by intro _; rfl) (by intro _; rfl)
  refine ⟨attempted, ?_, rounding.asked, rounding.named, connecting, current, free, ?_⟩
  · intro round closure preferred began asked
    rw [attempts_of_parts parts]
    exact rounding.order round closure preferred began asked
  · intro closure preferred began asked
    have going := rounding.going connecting native.round closure preferred current began asked
    refine ⟨going.atPlace.index, going.atPlace.made, ?_⟩
    rw [attempts_of_parts parts]
    exact going.atPlace.attempts

theorem follows_silent (rounding : Rounding options next)
    (none : ∀ socket native result, ¬FailsAttempt transport event socket native result)
    (reports : next.log.reports = transport.log.reports)
    (final : next.status = .error ∨ next.status = .timeout → next.status = transport.status) :
    FollowsList options transport event next := by
  refine ⟨rounding.order, ?_, ?_, ?_, fun _ => ⟨reports, final⟩⟩
  · intro connecting round closure current began asked
    rcases Option.ne_none_iff_exists'.mp asked with ⟨preferred, named⟩
    exact (rounding.going connecting round closure preferred current began named).single
  · intro socket native result closure preferred fails
    exact absurd fails (none socket native result)
  · intro socket native result closure preferred fails
    exact absurd fails (none socket native result)

theorem step_connects (after : Rounding options next)
    (reports : next.log.reports = transport.log.reports)
    (status : next.status = .connecting ∨ next.status = .none ∨ next.status = transport.status)
    (none : ∀ socket native result, ¬FailsAttempt transport event socket native result) :
    Rounding options next ∧ FollowsList options transport event next := by
  refine ⟨after, follows_silent after none reports ?_⟩
  rcases status with connecting | left | same
  · rw [connecting]
    rintro (error | timeout)
    · cases error
    · cases timeout
  · rw [left]
    rintro (error | timeout)
    · cases error
    · cases timeout
  · exact fun _ => same

def Settled (status : TransportStatus) : Prop :=
  status ≠ .connecting ∧ status ≠ .error ∧ status ≠ .timeout

theorem still_settled (settled : Settled next.status) (parts : next.parts = transport.parts)
    (rounds : next.rounds = transport.rounds) (server : next.server = transport.server)
    (preferred : next.preferred = transport.preferred)
    (reports : next.log.reports = transport.log.reports) : Still transport next := by
  refine ⟨parts, rounds, server, preferred, reports, ?_, ?_⟩
  · exact fun connecting => absurd connecting settled.1
  · rintro (error | timeout)
    · exact absurd error settled.2.1
    · exact absurd timeout settled.2.2

theorem connect_reports (server : Option Server) (proxys : List Server)
    (preferred : Option Server) (transport : Transport Server Data) :
    (connect server proxys preferred transport).log.reports = transport.log.reports := by
  rw [(connect_attempting server proxys preferred transport).log]

theorem connect_again_reports (socket : Nat) (transport : Transport Server Data) :
    (connectAgain options socket transport).log.reports = transport.log.reports := by
  rcases connect_again_cases options socket transport with same | ⟨native, closure, -, -, again⟩
  · rw [same]
  · rw [again]
    exact connect_reports _ _ _ _

theorem rounding_onclose (rounding : Rounding options transport) (socket : Nat)
    (again : transport.status = .opened → options.connectOnClose = true →
      options.onReconnecting = false → Preferred transport socket ∧ CountsAnew options transport) :
    Rounding options (onclose options socket transport) ∧
      (onclose options socket transport).log.reports = transport.log.reports ∧
      ((onclose options socket transport).status = .connecting ∨
        (onclose options socket transport).status = .none ∨
        (onclose options socket transport).status = transport.status) := by
  have left (phase : Phase) :
      Rounding options { leaving socket transport with phase := phase } := by
    refine rounding.still (still_settled (by simp [Settled, leaving]) rfl rfl rfl rfl rfl) ?_
    exact rounding.attempted.of_same rfl rfl (List.Sublist.refl _)
  rcases onclose_cases options socket transport with
    ⟨opened, connects, never, after⟩ | ⟨-, -, -, after⟩ | ⟨-, onCloses, after⟩
  · rw [after]
    rcases again opened connects never with ⟨own, anew⟩
    refine ⟨rounding_connect_again (left transport.phase) socket own fun _ => anew,
      connect_again_reports socket _, ?_⟩
    rcases connect_again_status options socket (leaving socket transport) with connecting | none
    · exact .inl connecting
    · exact .inr (.inl none)
  · rw [after]
    exact ⟨left _, rfl, .inr (.inl rfl)⟩
  · rw [after]
    refine ⟨rounding.still (still_same rfl rfl rfl) ?_, rfl, .inr (.inr rfl)⟩
    exact rounding.attempted.of_same rfl rfl (List.Sublist.refl _)

/-- What an event has done to a socket first does not matter. -/
theorem FollowsList.of_touch {socket : Nat} {change : NativeSocket Server → NativeSocket Server}
    (round : ∀ native, (change native).round = native.round)
    (server : ∀ native, (change native).server = native.server)
    (awaited : ∀ native, (change native).awaited = native.awaited)
    (follows : FollowsList options (transport.touch socket change) event next) :
    FollowsList options transport event next := by
  have parts := @parts_touch Server Data transport socket change round server
  have through {other : Nat} {native : NativeSocket Server} {result : TransportStatus}
      (fails : FailsAttempt transport event other native result) :
      ∃ after, FailsAttempt (transport.touch socket change) event other after result ∧
        after.round = native.round ∧ after.server = native.server := by
    by_cases same : socket = other
    · subst same
      exact ⟨_, ⟨fails.fails, touch_self fails.known, (awaited native).trans fails.awaited,
        fails.connecting⟩, round native, server native⟩
    · exact ⟨native, ⟨fails.fails, (touch_other same).trans fails.known, fails.awaited,
        fails.connecting⟩, rfl, rfl⟩
  refine ⟨follows.order, follows.goesOn, ?_, ?_, ?_⟩
  · intro other native result closure preferred fails began asked full
    rcases through fails with ⟨after, still, sameRound, sameServer⟩
    rw [← sameRound] at began full
    rw [← sameServer]
    exact follows.last other after result closure preferred still began asked
      ((attempts_of_parts parts _).trans full)
  · intro other native result closure preferred fails began asked more
    rcases through fails with ⟨after, still, sameRound, -⟩
    rw [← sameRound] at began more
    exact follows.onward other after result closure preferred still began asked
      fun full => more ((attempts_of_parts parts _).symm.trans full)
  · intro none
    apply follows.silent
    intro other after result fails
    have known := fails.known
    rw [touch_get, Option.map_eq_some_iff] at known
    rcases known with ⟨native, present, rfl⟩
    apply none other native result
    refine ⟨fails.fails, present, ?_, fails.connecting⟩
    have waits := fails.awaited
    split at waits
    · exact (awaited native).symm.trans waits
    · exact waits

/-- A call behind the end of a socket follows the list of the call that made it. -/
theorem step_closed (rounding : Rounding options transport) {socket : Nat}
    {native : NativeSocket Server} (known : transport.sockets[socket]? = some native)
    (kept : transport.status = .opened → options.connectOnClose = true →
      options.onReconnecting = false → Preferred transport socket ∧
        CountsAnew options transport) :
    Rounding options (onclose options socket
        (transport.touch socket fun native => { native with ended := true, lost := true })) ∧
      FollowsList options transport (.closed socket) (onclose options socket
        (transport.touch socket fun native => { native with ended := true, lost := true })) := by
  have still := @still_touch Server Data transport socket
    (fun native => { native with ended := true, lost := true }) (by intro _; rfl) (by intro _; rfl)
    (by intro _; rfl)
  have standing := @standing_touch Server Data transport socket
    (fun native => { native with ended := true, lost := true }) (by intro _; rfl) (by intro _; rfl)
  have before := rounding.still still
    (rounding.attempted.of_same standing rfl (List.Sublist.refl _))
  have again : transport.status = .opened → options.connectOnClose = true →
      options.onReconnecting = false → Preferred (transport.touch socket fun native =>
        { native with ended := true, lost := true }) socket ∧ CountsAnew options transport := by
    intro opened connects never
    rcases kept opened connects never with ⟨own, anew⟩
    refine ⟨?_, anew⟩
    intro other closure present began
    cases (touch_self known).symm.trans present
    exact own native closure known began
  rcases rounding_onclose before socket again with ⟨after, reports, status⟩
  exact @step_connects Server Data options transport _ (.closed socket) after reports status
    fun _ _ _ fails => fails.fails

end WebTransportGos.Helper.Transport
