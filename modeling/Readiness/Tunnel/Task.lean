import Readiness.Text.Quoted
import Readiness.Tunnel.Relay

/-!
# Tasks — what workers, connections and callers do

* `Relay.runWorker`, `Relay.accept` and `Relay.runConnection` are the steps of the tasks of a relay;
* `Relay.collect` and `Relay.join` are the steps in which a waiting caller learns a result;
* `Action` lists these steps and everything that callers and clients do, and `Relay.step` performs
  one of them. A step that is not possible changes nothing.
-/

namespace Readiness

namespace Relay

variable {σ : Type}

/-! ## Workers -/

/-- The event of a worker that ends by itself. -/
def finishedEvent (tunnel : Tunnel) (state : TunnelState) : Event :=
  ⟨.debug, .tunnel, "Tunnel worker finished",
    [("tunnel", .text tunnel.target), ("state", .text state.render)]⟩

def publish (relay : Relay σ) (index : Nat) (state : TunnelState) : Relay σ :=
  relay.updateTunnel index fun tunnel => { tunnel with history := state :: tunnel.history }

def finish (relay : Relay σ) (index : Nat) (tunnel : Tunnel) (state : TunnelState) : Relay σ :=
  (relay.note [finishedEvent tunnel state]).publish index state

/-- Ends a worker that does not hold its port any more. -/
def retire (relay : Relay σ) (index : Nat) (how : WorkerEnd) : Relay σ :=
  relay.updateTunnel index fun tunnel => { tunnel with phase := .ended how }

/-- Ends a worker that gives up its port. -/
def leave (relay : Relay σ) (index : Nat) (tunnel : Tunnel) (how : WorkerEnd) : Relay σ :=
  (relay.giveUp tunnel.grant).retire index how

/-- A worker that is stopped before it forwards. -/
def withdraw (relay : Relay σ) (index : Nat) (tunnel : Tunnel) : Relay σ :=
  (relay.finish index tunnel .closed).leave index tunnel .finished

def startProbe (relay : Relay σ) (surroundings : Surroundings σ) (index : Nat) (tunnel : Tunnel) :
    Relay σ :=
  let (dialing, relay) :=
    relay.dial surroundings.transport (.worker index) tunnel.endpoint tunnel.remotePort
  let (offset, verdict) :=
    Probe.verdict tunnel.options.probeSettle tunnel.options.readyTimeout dialing
  relay.updateTunnel index fun tunnel =>
    { tunnel with
      phase := .probing (relay.now + offset) verdict (Probe.eventsUntil offset dialing) }

/-- The first step of a worker: it says where it forwards, and probes unless it was stopped. -/
def greet (relay : Relay σ) (surroundings : Surroundings σ) (index : Nat) (tunnel : Tunnel) :
    Relay σ :=
  let line := tunnel.forwardingLine
  let written := relay.write (.worker index) line
  match relay.refusal? surroundings.sink line with
  | some reason => written.leave index tunnel (.panicked reason)
  | none =>
      if tunnel.stopped then written.withdraw index tunnel
      else written.startProbe surroundings index tunnel

/-- A worker whose probe failed: the port is given up before the caller is told. -/
def fail (relay : Relay σ) (sink : Sink) (index : Nat) (tunnel : Tunnel) (reason : String) :
    Relay σ :=
  let line := Tunnel.errorLine reason
  let written := relay.write (.worker index) line
  match relay.refusal? sink line with
  | some panic => written.leave index tunnel (.panicked panic)
  | none =>
      ((written.finish index tunnel (.failed reason)).leave index tunnel .finished).updateTunnel
        index fun tunnel => { tunnel with word := some (.error (tunnel.error reason)) }

/-- A worker whose probe reached the remote side. When nobody waits for it any more it stops. -/
def becomeReady (relay : Relay σ) (index : Nat) (tunnel : Tunnel) : Relay σ :=
  let relay := relay.publish index .ready
  if tunnel.owner = .opening then
    relay.updateTunnel index fun tunnel =>
      { tunnel with word := some (.ok ()), phase := .forwarding }
  else relay.withdraw index tunnel

/-- The step of a worker whose probe has ended. -/
def conclude (relay : Relay σ) (sink : Sink) (index : Nat) (tunnel : Tunnel) : ProbeEnd → Relay σ
  | .ready => relay.becomeReady index tunnel
  | .failed reason => relay.fail sink index tunnel reason
  | .panicked reason => relay.leave index tunnel (.panicked reason)

/-- The last step of a forwarding worker: it gives up its port before it writes how it ended. -/
def halt (relay : Relay σ) (sink : Sink) (index : Nat) (tunnel : Tunnel) (line : String)
    (state : TunnelState) (how : WorkerEnd) : Relay σ :=
  let written := (relay.giveUp tunnel.grant).write (.worker index) line
  match relay.refusal? sink line with
  | some reason => written.retire index (.panicked reason)
  | none => (written.finish index tunnel state).retire index how

/-- The last step of a forwarding worker that was stopped. -/
def stop (relay : Relay σ) (sink : Sink) (index : Nat) (tunnel : Tunnel) : Relay σ :=
  relay.halt sink index tunnel Tunnel.stoppedLine .closed .finished

def acceptError (tunnel : Tunnel) (reason : String) : Error :=
  tunnel.error ("accept failed: " ++ reason)

/-- The last step of a forwarding worker that cannot accept connections any more. -/
def breakOff (relay : Relay σ) (sink : Sink) (index : Nat) (tunnel : Tunnel) (error : Error) :
    Relay σ :=
  relay.halt sink index tunnel (Tunnel.errorLine error.message) (.failed error.message)
    (.failed error)

/-- Accepting connections fails, for a reason that the host gives. -/
def failAccept (relay : Relay σ) (surroundings : Surroundings σ) (index : Nat) (reason : String) :
    Relay σ :=
  match relay.tunnels[index]? with
  | none => relay
  | some tunnel =>
      if tunnel.phase = .forwarding then
        relay.breakOff surroundings.sink index tunnel (acceptError tunnel reason)
      else relay

def runWorker (relay : Relay σ) (surroundings : Surroundings σ) (index : Nat) : Relay σ :=
  match relay.tunnels[index]? with
  | none => relay
  | some tunnel =>
      match tunnel.phase with
      | .spawned => relay.greet surroundings index tunnel
      | .probing ends verdict events =>
          if tunnel.stopped then relay.withdraw index tunnel
          else if relay.now < ends then relay
          else
            (relay.note events).updateTunnel index fun tunnel =>
              { tunnel with phase := .decided verdict }
      | .decided verdict => relay.conclude surroundings.sink index tunnel verdict
      | .forwarding => if tunnel.stopped then relay.stop surroundings.sink index tunnel else relay
      | .ended _ => relay

/-! ## Connections

The end of a tunnel reaches its connections on their own. A connection that has something else to do
may do that first, so whether it has noticed the end is an argument of its step. -/

def awaits (tunnel : Nat) (connection : Connection) : Bool :=
  connection.tunnel = tunnel && connection.phase = .waiting

def acceptedEvent (tunnel : Tunnel) (index : Nat) : Event :=
  ⟨.trace, .tunnel, "Accepted connection",
    [("tunnel", .text tunnel.target), ("peer", .number index)]⟩

/-- A forwarding worker accepts the first connection that waits for it. -/
def accept (relay : Relay σ) (index : Nat) : Relay σ :=
  match relay.tunnels[index]?, relay.connections.findIdx? (awaits index) with
  | some tunnel, some connection =>
      if tunnel.phase = .forwarding then
        (relay.note [acceptedEvent tunnel connection]).updateConnection connection
          fun connection => { connection with phase := .accepted }
      else relay
  | _, _ => relay

def closeConnection (relay : Relay σ) (index : Nat) : Relay σ :=
  relay.updateConnection index Connection.close

/-- The first step of an accepted connection: it says so, and opens a stream unless it noticed that
the tunnel has ended. -/
def openStream (relay : Relay σ) (surroundings : Surroundings σ) (index : Nat) (tunnel : Tunnel)
    (noticed : Bool) : Relay σ :=
  let line := tunnel.handlingLine
  let written := relay.write (.connection index) line
  match relay.refusal? surroundings.sink line with
  | some _ => written.closeConnection index
  | none =>
      if noticed then written.closeConnection index
      else
        let (dialing, dialed) :=
          written.dial surroundings.transport (.connection index) tunnel.endpoint tunnel.remotePort
        dialed.updateConnection index fun connection =>
          { connection with phase := .dialing relay.now dialing }

/-- The step of a connection whose attempt to open a stream has ended. -/
def streamOpened (relay : Relay σ) (index : Nat) (tunnel : Tunnel) : DialEnd → Relay σ
  | .connected remote =>
      relay.updateConnection index fun connection =>
        { connection with phase := .copying (Link.opened remote relay.now) }
  | .refused error =>
      (relay.write (.connection index) (tunnel.streamErrorLine error.message)).closeConnection index
  | .panicked _ => relay.closeConnection index

/-- The last step of a connection with a stream: it tells what the failure report has brought. -/
def endStream (relay : Relay σ) (index : Nat) (tunnel : Tunnel) (link : Link) : Relay σ :=
  match link.reported? relay.now with
  | some message =>
      (relay.write (.connection index) (tunnel.streamErrorLine message)).closeConnection index
  | none => relay.closeConnection index

def copyStream (relay : Relay σ) (sink : Sink) (index : Nat) (tunnel : Tunnel) (client : Client)
    (link : Link) (noticed : Bool) : Relay σ :=
  if noticed then relay.endStream index tunnel link
  else
    let (client, link, copied) := link.copy relay.now client
    let moved := relay.updateConnection index fun connection =>
      { connection with client := client, phase := .copying link }
    match copied with
    | .goesOn => moved
    | .done => moved.endStream index tunnel link
    | .broken reason =>
        let line := tunnel.copyErrorLine reason
        let written := moved.write (.connection index) line
        match moved.refusal? sink line with
        | some _ => written.closeConnection index
        | none => written.endStream index tunnel link

/-- The step of a connection. One that waits to be accepted is closed by the host, together with the
port of the tunnel. -/
def goOn (relay : Relay σ) (surroundings : Surroundings σ) (index : Nat) (connection : Connection)
    (tunnel : Tunnel) (noticed : Bool) : Relay σ :=
  match connection.phase with
  | .waiting => if noticed then relay.closeConnection index else relay
  | .accepted => relay.openStream surroundings index tunnel noticed
  | .dialing since dialing =>
      if noticed then relay.closeConnection index
      else
        match dialing with
        | .never => relay
        | .after delay outcome _ =>
            if relay.now < since + delay then relay else relay.streamOpened index tunnel outcome
  | .copying link =>
      relay.copyStream surroundings.sink index tunnel connection.client link noticed
  | .ended => relay

/-- The connection with an index and its tunnel. -/
def connection? (relay : Relay σ) (index : Nat) : Option (Connection × Tunnel) :=
  (relay.connections[index]?).bind fun connection =>
    (relay.tunnels[connection.tunnel]?).map fun tunnel => (connection, tunnel)

/-- The step of a connection that notices when its tunnel has ended. -/
def runConnection (relay : Relay σ) (surroundings : Surroundings σ) (index : Nat) : Relay σ :=
  match relay.connection? index with
  | some (connection, tunnel) => relay.goOn surroundings index connection tunnel tunnel.isOver
  | none => relay

/-- The step of a connection that has not noticed whether its tunnel has ended. -/
def overlookEnd (relay : Relay σ) (surroundings : Surroundings σ) (index : Nat) : Relay σ :=
  match relay.connection? index with
  | some (connection, tunnel) => relay.goOn surroundings index connection tunnel false
  | none => relay

/-! ## Callers -/

/-- What a port is bound for. -/
inductive Purpose where
  | tunnel (options : TunnelOptions) (endpoint : Endpoint) (remotePort : Nat)
  -- The lease is wanted for its own sake.
  | lease
deriving DecidableEq, Repr

/-- Takes what a bind returned: a tunnel asks for the address of its listener and starts its worker,
and a lease is kept. -/
def afterBind (relay : Relay σ) (requested : Option Nat) (unnamed : Option String)
    (bound : Except Error Grant × Ports) : Purpose → Relay σ
  | .tunnel options endpoint remotePort =>
      let (granted, ports) := Ports.located unnamed bound
      let relay := { relay with ports := ports }.note
        (Ports.bindEvents requested bound.1 ++ Ports.locatedEvents unnamed bound.1)
      match granted with
      | .ok grant =>
          { relay with
            tunnels := relay.tunnels ++ [.fresh endpoint remotePort options grant relay.now] }
      | .error _ => relay
  | .lease =>
      let relay := { relay with ports := bound.2 }.note (Ports.bindEvents requested bound.1)
      match bound.1 with
      | .ok grant => { relay with bound := grant :: relay.bound }
      | .error _ => relay

/-- Opens a tunnel: binds its port and starts its worker. The result is its number. -/
def start (relay : Relay σ) (options : TunnelOptions) (endpoint : Endpoint) (remotePort : Nat)
    (host : Ports.Host) : Except Error Nat × Relay σ :=
  ((relay.ports.listen options.localPort host).1.map fun _ => relay.tunnels.length,
    relay.afterBind options.localPort host.unnamed (relay.ports.bind options.localPort host)
      (.tunnel options endpoint remotePort))

/-- The error of a worker that ended before it told whether it is ready. -/
def silentEnd : WorkerEnd → String
  | .panicked _ => "tunnel worker panicked"
  | .finished | .failed _ => "tunnel worker exited before reporting readiness"

/-- The result of opening as far as the caller can know it. A failure is only known once the worker
has ended. -/
def openingResult? (tunnel : Tunnel) : Option (Except Error Unit) :=
  match tunnel.word, tunnel.phase with
  | some (.ok ()), _ => some (.ok ())
  | some (.error error), .ended _ => some (.error error)
  | none, .ended how => some (.error (tunnel.error (silentEnd how)))
  | _, _ => none

/-- The event of a tunnel that was opened, or not. A worker that never told anything has none. -/
def openingEvents (tunnel : Tunnel) : Except Error Unit → List Event
  | .ok () =>
      [⟨.info, .tunnel, "Tunnel ready",
        [("tunnel", .text tunnel.target), ("local", .text tunnel.address)]⟩]
  | .error error =>
      if tunnel.word.isSome then
        [⟨.warn, .tunnel, "Tunnel failed to become ready",
          [("tunnel", .text tunnel.target), ("error", .text error.message)]⟩]
      else []

/-- The caller who waits for a tunnel to open learns the result. -/
def collect (relay : Relay σ) (index : Nat) : Relay σ :=
  match relay.tunnels[index]? with
  | none => relay
  | some tunnel =>
      match tunnel.owner, openingResult? tunnel with
      | .opening, some result =>
          let owner := match result with
            | .ok () => Owner.holding
            | .error _ => Owner.gone
          (relay.note (openingEvents tunnel result)).updateTunnel index fun tunnel =>
            { tunnel with owner := owner, opened := some (relay.now, result) }
      | _, _ => relay

def abandon (relay : Relay σ) (index : Nat) : Relay σ :=
  relay.updateTunnel index fun tunnel =>
    if tunnel.owner = .opening then { tunnel with owner := .gone, stopped := true } else tunnel

def closingEvent (tunnel : Tunnel) : Event :=
  ⟨.debug, .tunnel, "Closing tunnel", [("tunnel", .text tunnel.target)]⟩

def close (relay : Relay σ) (index : Nat) : Relay σ :=
  match relay.tunnels[index]? with
  | none => relay
  | some tunnel =>
      if tunnel.owner = .holding then
        (relay.note [closingEvent tunnel]).updateTunnel index fun tunnel =>
          { tunnel with owner := .closing, stopped := true }
      else relay

def closingResult (index : Nat) (tunnel : Tunnel) : WorkerEnd → Except Error Unit
  | .finished => .ok ()
  | .failed error => .error error
  | .panicked reason =>
      .error (tunnel.error
        ("tunnel worker panicked: task " ++ toString index ++ " panicked with message " ++
          Text.quoted reason))

/-- The caller who waits for a tunnel to close learns the result. -/
def join (relay : Relay σ) (index : Nat) : Relay σ :=
  relay.updateTunnel index fun tunnel =>
    match tunnel.owner, tunnel.phase with
    | .closing, .ended how =>
        { tunnel with owner := .finished, closed := some (closingResult index tunnel how) }
    | _, _ => tunnel

/-- The caller stops waiting for a tunnel to close, and keeps its handle. -/
def leaveClosing (relay : Relay σ) (index : Nat) : Relay σ :=
  relay.updateTunnel index fun tunnel =>
    if tunnel.owner = .closing then { tunnel with owner := .finished } else tunnel

def drop (relay : Relay σ) (index : Nat) : Relay σ :=
  relay.updateTunnel index fun tunnel =>
    match tunnel.owner with
    | .holding => { tunnel with owner := .gone, stopped := true }
    | .finished => { tunnel with owner := .gone }
    | _ => tunnel

/-- Binds a port for its own sake. -/
def bind (relay : Relay σ) (requested : Option Nat) (host : Ports.Host) :
    Except Error Grant × Relay σ :=
  let bound := relay.ports.bind requested host
  (bound.1, relay.afterBind requested host.unnamed bound .lease)

def dropListener (relay : Relay σ) (ticket : Nat) : Relay σ :=
  if relay.tunnels.any (·.grant.ticket = ticket) then relay
  else { relay with ports := relay.ports.dropListener ticket }

def dropLease (relay : Relay σ) (ticket : Nat) : Relay σ :=
  match relay.bound.find? (·.ticket = ticket) with
  | some grant =>
      { relay with
        ports := relay.ports.dropLease ticket
        bound := relay.bound.filter (·.ticket != ticket) }.note [Ports.released grant.port]
  | none => relay

/-! ## Clients -/

/-- The tunnel that listens on a port. -/
def listening? (relay : Relay σ) (port : Nat) : Option Nat :=
  relay.tunnels.findIdx? fun tunnel =>
    tunnel.grant.port = port && relay.ports.listeners.contains tunnel.grant

/-- A client connects to a port. A port that no tunnel listens on refuses it. -/
def connect (relay : Relay σ) (port : Nat) : Relay σ :=
  match relay.listening? port with
  | some tunnel =>
      if relay.reachable then
        { relay with connections := relay.connections ++ [.fresh tunnel] }
      else relay
  | none => relay

def updateClient (relay : Relay σ) (index : Nat) (f : Client → Client) : Relay σ :=
  relay.updateConnection index fun connection => { connection with client := f connection.client }

end Relay

/-! ## Actions -/

/-- What can happen next. The host has its say where a port is bound. -/
inductive Action where
  | start (options : TunnelOptions) (endpoint : Endpoint) (remotePort : Nat) (host : Ports.Host)
  | abandon (tunnel : Nat)
  | close (tunnel : Nat)
  | drop (tunnel : Nat)
  | bind (requested : Option Nat) (host : Ports.Host)
  | dropListener (ticket : Nat)
  | dropLease (ticket : Nat)
  | connect (port : Nat)
  | send (connection : Nat) (bytes : Bytes)
  | finish (connection : Nat)
  | take (connection count : Nat)
  | worker (tunnel : Nat)
  | accept (tunnel : Nat)
  | connection (index : Nat)
  | collect (tunnel : Nat)
  | join (tunnel : Nat)
deriving DecidableEq, Repr

namespace Relay

variable {σ : Type}

def step (surroundings : Surroundings σ) (action : Action) (relay : Relay σ) : Relay σ :=
  match action with
  | .start options endpoint remotePort host => (relay.start options endpoint remotePort host).2
  | .abandon tunnel => relay.abandon tunnel
  | .close tunnel => relay.close tunnel
  | .drop tunnel => relay.drop tunnel
  | .bind requested host => (relay.bind requested host).2
  | .dropListener ticket => relay.dropListener ticket
  | .dropLease ticket => relay.dropLease ticket
  | .connect port => relay.connect port
  | .send connection bytes => relay.updateClient connection (·.send bytes)
  | .finish connection => relay.updateClient connection Client.finish
  | .take connection count => relay.updateClient connection fun client => (client.take count).2
  | .worker tunnel => relay.runWorker surroundings tunnel
  | .accept tunnel => relay.accept tunnel
  | .connection index => relay.runConnection surroundings index
  | .collect tunnel => relay.collect tunnel
  | .join tunnel => relay.join tunnel

/-! ### No step takes time -/

theorem now_runWorker (relay : Relay σ) (surroundings : Surroundings σ) (index : Nat) :
    (relay.runWorker surroundings index).now = relay.now := by
  unfold runWorker greet startProbe withdraw conclude becomeReady fail stop halt leave finish publish
    retire
  dsimp only
  repeat' split
  all_goals rfl

theorem now_accept (relay : Relay σ) (index : Nat) : (relay.accept index).now = relay.now := by
  unfold accept
  repeat' split
  all_goals rfl

theorem now_runConnection (relay : Relay σ) (surroundings : Surroundings σ) (index : Nat) :
    (relay.runConnection surroundings index).now = relay.now := by
  unfold runConnection goOn openStream streamOpened copyStream endStream closeConnection
  dsimp only
  repeat' split
  all_goals rfl

theorem now_step (surroundings : Surroundings σ) (action : Action) (relay : Relay σ) :
    (relay.step surroundings action).now = relay.now := by
  cases action with
  | worker tunnel => exact now_runWorker relay surroundings tunnel
  | accept tunnel => exact now_accept relay tunnel
  | connection index => exact now_runConnection relay surroundings index
  | _ =>
      simp only [step, start, abandon, close, drop, bind, afterBind, dropListener, dropLease, connect,
        updateClient, collect, join]
      repeat' split
      all_goals rfl

end Relay

end Readiness
