import WebTransportGos.Library.StepSystem

/-!
bjy-common, lib/helper/Transport.js: one connection at a time to the first server of a list
that answers, with retries, a queue for what is sent meanwhile, and reconnects. The closures
of `connect` outlive the call, so every attempt, timer and handler carries the number of the
call it belongs to.

A state is what the object, its timers and its native sockets hold between two pieces of code
that run to completion. Where a callback of the application runs in the middle of a handler
the state has a phase: the calls that the callback makes come as events, and `resume` goes on
behind it. Callbacks that end a handler need none.

Left out are logging, `url`, `isReconnect`, what becomes of received data, and exceptions of
native sockets and callbacks. What is handed to a native socket is the data from which the
payload is made. Timers fire in any order.
-/

namespace WebTransportGos.Helper

open StepSystem

set_option autoImplicit false

inductive TransportStatus where
  | none
  | opened
  | error
  | close
  | closing
  | timeout
  | connecting
  deriving DecidableEq, Repr

def TransportStatus.busy (status : TransportStatus) : Bool :=
  status = .opened ∨ status = .connecting ∨ status = .closing

/-- A number that is absent or not positive is 0. Of the callbacks it matters which are set;
`clears` is whether the native socket has a method `clear`. -/
structure TransportOptions where
  timeout : Nat := 0
  interval : Nat := 0
  retryCount : Nat := 0
  queueMax : Nat := 0
  refreshQueueOnClose : Bool := false
  connectOnClose : Bool := false
  onOpen : Bool := false
  onError : Bool := false
  onTimeout : Bool := false
  onReconnecting : Bool := false
  onClose : Bool := false
  onSend : Bool := false
  clears : Bool := false
  deriving DecidableEq, Repr

/-- A socket of a connection attempt. While it is awaited its `onopen` and `onerror` are set,
while it is listening its `onmessage` and `onclose` are. It has ended when it has reported an
error or a close, and it is lost when its `onclose` has run. -/
structure NativeSocket (Server : Type*) where
  round : Nat
  server : Server
  awaited : Bool
  listening : Bool
  closed : Bool
  ended : Bool
  lost : Bool
  deriving DecidableEq, Repr

def newSocket {Server : Type*} (round : Nat) (server : Server) : NativeSocket Server :=
  ⟨round, server, true, false, false, false, false⟩

/-- What the closures of a call of `connect` share. `serverIndex` is one more than in the
source; `preferred` is the server that the application has asked for. -/
structure Round (Server : Type*) where
  server : Option Server
  proxys : List Server
  serverIndex : Nat
  preferred : Option Server
  deriving DecidableEq, Repr

def Round.servers {Server : Type*} (round : Round Server) : List (Option Server) :=
  round.server :: round.proxys.map some

inductive Phase where
  | idle
  | onOpen (socket : Nat)
  | onReconnecting (socket : Nat)
  | onSend (socket : Nat)
  deriving DecidableEq, Repr

/-- What the application and the native sockets have seen: the data given to `send`, the calls
of native `send` and of `onSend`, the data dropped from the queue, the sockets whose end made
the transport connect again or call `onClose`, and the calls of `onError` and `onTimeout`. -/
structure TransportLog (Server Data : Type*) where
  sends : List Data
  handed : List (Nat × Data)
  onSends : List Data
  dropped : List Data
  reconnects : List Nat
  onCloses : List Nat
  reports : List (TransportStatus × Server)
  lastOpened : Option Nat
  deriving DecidableEq, Repr

/-- `nextStarts`, `lazyCloses` and `reconnects` are the timers that are set. -/
structure Transport (Server Data : Type*) where
  status : TransportStatus
  queue : List Data
  retryIndex : Nat
  server : Option Server
  proxys : List Server
  preferred : Option Server
  socket : Option Nat
  nextStartTimer : Option Nat
  rounds : List (Round Server)
  sockets : List (NativeSocket Server)
  nextStarts : List Nat
  lazyCloses : List Nat
  reconnects : Nat
  phase : Phase
  log : TransportLog Server Data
  deriving DecidableEq, Repr

def newTransport (Server Data : Type*) : Transport Server Data where
  status := .none
  queue := []
  retryIndex := 0
  server := none
  proxys := []
  preferred := none
  socket := none
  nextStartTimer := none
  rounds := []
  sockets := []
  nextStarts := []
  lazyCloses := []
  reconnects := 0
  phase := .idle
  log := ⟨[], [], [], [], [], [], [], none⟩

namespace Transport

variable {Server Data : Type*}

def touch (transport : Transport Server Data) (socket : Nat)
    (change : NativeSocket Server → NativeSocket Server) : Transport Server Data :=
  { transport with sockets := transport.sockets.modify socket change }

def noteSend (data : Data) (transport : Transport Server Data) : Transport Server Data :=
  { transport with log := { transport.log with sends := transport.log.sends ++ [data] } }

def noteOpened (socket : Nat) (transport : Transport Server Data) : Transport Server Data :=
  { transport with log := { transport.log with lastOpened := some socket } }

/-- Without a server the attempt throws when it reads the server's url. -/
def nextStart (round : Nat) (transport : Transport Server Data) : Transport Server Data :=
  if transport.status ≠ .connecting then
    { transport with
      nextStartTimer := none
      status := if transport.status = .closing then .close else transport.status }
  else
    let server := transport.rounds[round]?.bind fun closure =>
      closure.servers[closure.serverIndex]?.join
    { transport with
      nextStartTimer := none
      rounds := transport.rounds.modify round fun closure =>
        { closure with serverIndex := closure.serverIndex + 1 }
      sockets := transport.sockets ++ (server.map (newSocket round)).toList }

def connect (server : Option Server) (proxys : List Server) (preferred : Option Server)
    (transport : Transport Server Data) : Transport Server Data :=
  let transport :=
    { transport with server := server, proxys := proxys, preferred := preferred }
  if transport.status.busy then transport
  else
    nextStart transport.rounds.length { transport with
      rounds := transport.rounds ++ [⟨server, proxys, 0, preferred⟩]
      status := .connecting }

variable (options : TransportOptions)

def nextEnd (round : Nat) (transport : Transport Server Data) : Transport Server Data :=
  if 0 < options.interval then
    { transport with
      nextStartTimer := some round
      nextStarts := transport.nextStarts ++ [round] }
  else nextStart round transport

def send (data : Data) (transport : Transport Server Data) : Transport Server Data :=
  if transport.status ≠ .opened then
    let full := 0 < options.queueMax ∧ transport.queue.length = options.queueMax
    { transport with
      queue := (if full then transport.queue.tail else transport.queue) ++ [data]
      log := { transport.log with
        dropped := transport.log.dropped ++ if full then transport.queue.take 1 else [] } }
  else match transport.socket with
    | none => transport
    | some socket => { transport with
        log := { transport.log with
          handed := transport.log.handed ++ [(socket, data)]
          onSends := transport.log.onSends ++ if options.onSend then [data] else [] } }

def flushQueue (socket : Nat) (transport : Transport Server Data) : Transport Server Data :=
  { transport with
    queue := []
    phase := .idle
    log := { transport.log with
      handed := transport.log.handed ++ transport.queue.map fun data => (socket, data) } }

/-- The flush on a socket that opens while the transport is closing, up to the first call of
`onSend`, if that is set. -/
def flushClosing (socket : Nat) (transport : Transport Server Data) : Transport Server Data :=
  if options.onSend then
    match transport.queue with
    | [] => { transport with lazyCloses := transport.lazyCloses ++ [socket], phase := .idle }
    | data :: queue => { transport with
        queue := queue
        phase := .onSend socket
        log := { transport.log with
          handed := transport.log.handed ++ [(socket, data)]
          onSends := transport.log.onSends ++ [data] } }
  else
    { flushQueue socket transport with lazyCloses := transport.lazyCloses ++ [socket] }

def established (socket : Nat) (transport : Transport Server Data) : Transport Server Data :=
  let transport := { transport.touch socket fun native => { native with listening := true } with
    socket := some socket
    status := .opened
    retryIndex := if 0 < options.retryCount then 0 else transport.retryIndex }
  if options.onOpen then { transport with phase := .onOpen socket }
  else flushQueue socket transport

def reportSet (status : TransportStatus) : Bool :=
  match status with
  | .error => options.onError
  | .timeout => options.onTimeout
  | _ => false

def attemptFailed (round : Nat) (server : Server) (status : TransportStatus)
    (transport : Transport Server Data) : Transport Server Data :=
  match transport.rounds[round]? with
  | none => transport
  | some closure =>
      if closure.serverIndex = closure.servers.length then
        if 0 < options.retryCount ∧ transport.retryIndex < options.retryCount - 1 then
          nextEnd options round { transport with
            retryIndex := transport.retryIndex + 1
            rounds := transport.rounds.modify round fun closure =>
              { closure with serverIndex := 0 } }
        else { transport with
          retryIndex :=
            if 0 < options.retryCount then transport.retryIndex + 1 else transport.retryIndex
          status := status
          log := { transport.log with
            reports := transport.log.reports ++
              if reportSet options status then [(status, server)] else [] } }
      else nextEnd options round transport

/-- `connectComplete` and the callback of the attempt. -/
def connectComplete (socket : Nat) (native : NativeSocket Server) (status : TransportStatus)
    (transport : Transport Server Data) : Transport Server Data :=
  let transport := transport.touch socket fun native => { native with awaited := false }
  match transport.status with
  | .connecting =>
      if status = .opened then established options socket transport
      else attemptFailed options native.round native.server status transport
  | .closing =>
      if status = .opened ∧ options.refreshQueueOnClose ∧ transport.queue ≠ [] then
        flushClosing options socket transport
      else
        { transport.touch socket fun native => { native with closed := true } with
          status := .close }
  | _ => transport

/-- `onclose` behind `onReconnecting`: the new list begins with the server of this socket. -/
def connectAgain (socket : Nat) (transport : Transport Server Data) : Transport Server Data :=
  match transport.sockets[socket]? with
  | none => transport
  | some native => match transport.rounds[native.round]? with
    | none => transport
    | some closure =>
        let transport := if options.clears then
          transport.touch socket fun native => { native with closed := true }
          else transport
        connect (some native.server) closure.proxys closure.preferred
          { transport with phase := .idle }

def onclose (socket : Nat) (transport : Transport Server Data) : Transport Server Data :=
  if transport.status = .opened then
    if options.connectOnClose then
      let transport := { transport with
        status := .none
        log := { transport.log with reconnects := transport.log.reconnects ++ [socket] } }
      if options.onReconnecting then { transport with phase := .onReconnecting socket }
      else connectAgain options socket transport
    else { transport with
      log := { transport.log with
        onCloses := transport.log.onCloses ++ if options.onClose then [socket] else [] } }
  else transport

/-- The loop of `close` over the queue; each pass takes one unit of fuel. -/
def drainQueue : Nat → Transport Server Data → Option (Transport Server Data)
  | 0, _ => none
  | fuel + 1, transport => match transport.queue with
      | [] => some transport
      | data :: queue => drainQueue fuel (send options data { transport with queue := queue })

/-- The end of `close`: the timer of the next attempt is cleared. -/
def clearNextStart (transport : Transport Server Data) : Transport Server Data :=
  match transport.nextStartTimer with
  | none => transport
  | some round => { transport with
      nextStartTimer := none
      nextStarts := transport.nextStarts.erase round }

def closeWith (fuel : Nat) (transport : Transport Server Data) :
    Option (Transport Server Data) :=
  let closing := { transport with socket := none, status := .closing }
  match transport.socket with
  | none => some (clearNextStart closing)
  | some socket =>
      if options.refreshQueueOnClose ∧ transport.queue ≠ [] then
        (drainQueue options fuel closing).map fun drained =>
          clearNextStart { drained.touch socket fun native => { native with listening := false } with
            lazyCloses := drained.lazyCloses ++ [socket] }
      else
        some (clearNextStart { closing.touch socket fun native =>
          { native with listening := false, closed := true } with status := .close })

/-- A loop over a queue that becomes shorter in every pass would end with this fuel. -/
def close (transport : Transport Server Data) : Option (Transport Server Data) :=
  closeWith options (transport.queue.length + 1) transport

def reconnect (transport : Transport Server Data) : Option (Transport Server Data) :=
  if transport.status ≠ .connecting then
    (close options transport).map fun closed =>
      if closed.status = .closing then { closed with reconnects := closed.reconnects + 1 }
      else connect closed.server closed.proxys closed.preferred closed
  else some transport

inductive Call (Server Data : Type*) where
  | connect (server : Server) (proxys : List Server)
  | send (data : Data)
  | close
  | reconnect

inductive Event (Server Data : Type*) where
  | call (call : Call Server Data)
  | resume
  | opened (socket : Nat)
  | errored (socket : Nat)
  | message (socket : Nat)
  | closed (socket : Nat)
  | timeout (socket : Nat)
  | nextStart (round : Nat)
  | lazyClose (socket : Nat)
  | reconnect

/-- A call that does not return has no next state. -/
def handleCall (transport : Transport Server Data) :
    Call Server Data → Option (Transport Server Data)
  | .connect server proxys => some (connect (some server) proxys (some server) transport)
  | .send data => some (send options data (noteSend data transport))
  | .close => close options transport
  | .reconnect => reconnect options transport

def resume (transport : Transport Server Data) : Option (Transport Server Data) :=
  match transport.phase with
  | .idle => none
  | .onOpen socket => some (flushQueue socket transport)
  | .onReconnecting socket => some (connectAgain options socket transport)
  | .onSend socket => some (flushClosing options socket transport)

def handleNative (transport : Transport Server Data) (socket : Nat)
    (handler : NativeSocket Server → Transport Server Data → Transport Server Data) :
    Option (Transport Server Data) :=
  transport.sockets[socket]?.map fun native => handler native transport

def onopenEvent (socket : Nat) (native : NativeSocket Server)
    (transport : Transport Server Data) : Transport Server Data :=
  let transport := noteOpened socket transport
  if native.awaited then connectComplete options socket native .opened transport else transport

def onerrorEvent (socket : Nat) (native : NativeSocket Server)
    (transport : Transport Server Data) : Transport Server Data :=
  let transport := transport.touch socket fun native => { native with ended := true }
  if native.awaited then connectComplete options socket native .error transport else transport

def oncloseEvent (socket : Nat) (native : NativeSocket Server)
    (transport : Transport Server Data) : Transport Server Data :=
  if native.listening then
    onclose options socket
      (transport.touch socket fun native => { native with ended := true, lost := true })
  else transport.touch socket fun native => { native with ended := true }

/-- Native sockets and timers report between handlers only. -/
def react (transport : Transport Server Data) :
    Event Server Data → Option (Transport Server Data)
  | .call _ => none
  | .resume => none
  | .opened socket => handleNative transport socket (onopenEvent options socket)
  | .errored socket => handleNative transport socket (onerrorEvent options socket)
  | .message socket => handleNative transport socket fun _ transport => transport
  | .closed socket => handleNative transport socket (oncloseEvent options socket)
  | .timeout socket =>
      match transport.sockets[socket]? with
      | none => none
      | some native =>
          if 0 < options.timeout ∧ native.awaited then
            some (connectComplete options socket native .timeout transport)
          else none
  | .nextStart round =>
      if round ∈ transport.nextStarts then
        some (nextStart round { transport with nextStarts := transport.nextStarts.erase round })
      else none
  | .lazyClose socket =>
      if socket ∈ transport.lazyCloses then
        some { transport.touch socket fun native => { native with closed := true } with
          lazyCloses := transport.lazyCloses.erase socket
          status := .close }
      else none
  | .reconnect =>
      if 0 < transport.reconnects then
        some (connect transport.server transport.proxys transport.preferred { transport with
          reconnects := transport.reconnects - 1
          status := .close })
      else none

def step (transport : Transport Server Data) (event : Event Server Data) :
    Option (Transport Server Data) :=
  match event with
  | .call call => handleCall options transport call
  | .resume => resume options transport
  | _ => if transport.phase = .idle then react options transport event else none

end Transport

end WebTransportGos.Helper
