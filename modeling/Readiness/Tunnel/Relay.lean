import Readiness.Ports
import Readiness.Tunnel.Connection
import Readiness.Tunnel.Probe
import Readiness.Tunnel.State

/-!
# Relays — the tunnels of one machine

A tunnel is a worker that listens on a local port and forwards each connection to a remote port. Its
caller owns it through a handle.

* `Phase` is how far a worker is, and `Owner` what its caller has done;
* `Tunnel` is one worker with everything that it and its caller told each other;
* `Relay` holds all tunnels and connections of one machine, its ports, the state of the transport,
  and the lines, attempts and events so far;
* `Sink` takes the lines; it can break down on any of them.
-/

namespace Readiness

/-- Who writes lines and opens streams. -/
inductive Actor where
  | worker (tunnel : Nat)
  | connection (index : Nat)
  | caller
deriving DecidableEq, Repr, Inhabited

/-- Takes lines. Given the lines so far and a new one, which it keeps, it says why it breaks down on
it, if it does. -/
structure Sink where
  refusal : List String → String → Option String

def Sink.reliable : Sink := ⟨fun _ _ => none⟩

/-- What a relay works with. -/
structure Surroundings (σ : Type) where
  transport : Transport σ
  sink : Sink

/-- How a worker ended. -/
inductive WorkerEnd where
  | finished
  -- It could not go on, and says why to whoever closes its tunnel.
  | failed (error : Error)
  | panicked (reason : String)
deriving DecidableEq, Repr, Inhabited

inductive Phase where
  -- It has not run yet.
  | spawned
  -- Its probe ends at an instant with a verdict.
  | probing (ends : Nat) (verdict : ProbeEnd) (events : List Event)
  -- Its probe has ended, and nobody was told.
  | decided (verdict : ProbeEnd)
  -- It accepts connections.
  | forwarding
  | ended (how : WorkerEnd)
deriving DecidableEq, Repr, Inhabited

/-- What the caller of a tunnel has done. -/
inductive Owner where
  -- It waits for the tunnel to open.
  | opening
  -- It holds the handle of an open tunnel.
  | holding
  -- It waits for the tunnel to close.
  | closing
  -- The tunnel was closed.
  | finished
  -- The handle was dropped, or there never was one.
  | gone
deriving DecidableEq, Repr, Inhabited

/-- A worker and its caller. -/
structure Tunnel where
  endpoint : Endpoint
  remotePort : Nat
  options : TunnelOptions
  -- The local port and the ticket of its bind.
  grant : Grant
  -- The instant at which opening began.
  startedAt : Nat
  phase : Phase
  -- The states that the worker has shown, the last one first.
  history : List TunnelState
  owner : Owner
  -- The caller wants the worker to stop.
  stopped : Bool
  -- What the worker told the caller who waits for the tunnel to open.
  word : Option (Except Error Unit)
  -- The instant and the result of opening.
  opened : Option (Nat × Except Error Unit)
  -- The result of the first closing.
  closed : Option (Except Error Unit)

namespace Tunnel

def fresh (endpoint : Endpoint) (remotePort : Nat) (options : TunnelOptions) (grant : Grant)
    (now : Nat) : Tunnel :=
  ⟨endpoint, remotePort, options, grant, now, .spawned, [.starting], .opening, false, none, none,
    none⟩

def target (tunnel : Tunnel) : String :=
  tunnel.endpoint.render ++ ":" ++ toString tunnel.remotePort

def address (tunnel : Tunnel) : String := Ports.address tunnel.grant.port

def state (tunnel : Tunnel) : TunnelState := tunnel.history.headD .starting

def isOver (tunnel : Tunnel) : Bool :=
  match tunnel.phase with
  | .ended _ => true
  | _ => false

def error (tunnel : Tunnel) (reason : String) : Error := .tunnel tunnel.target reason

/-! ### Lines -/

def forwardingLine (tunnel : Tunnel) : String :=
  "Forwarding from " ++ tunnel.address ++ " -> " ++ tunnel.target

def errorLine (reason : String) : String := "error: " ++ reason

def stoppedLine : String := "Stopped forwarding"

def handlingLine (tunnel : Tunnel) : String :=
  "Handling connection for " ++ toString tunnel.remotePort

def streamErrorLine (tunnel : Tunnel) (reason : String) : String :=
  "error forwarding port " ++ toString tunnel.remotePort ++ ": " ++ reason

def copyErrorLine (tunnel : Tunnel) (reason : String) : String :=
  "error copying port " ++ toString tunnel.remotePort ++ ": " ++ reason

end Tunnel

/-- The tunnels of one machine. -/
structure Relay (σ : Type) where
  now : Nat
  -- Whether clients reach the local ports.
  reachable : Bool
  ports : Ports
  -- Leases that were bound for their own sake, with their listeners or without.
  bound : List Grant
  -- The state of the transport.
  remote : σ
  lines : List (Actor × String)
  -- Attempts to open a stream, with the instant, the endpoint and the port.
  dials : List (Nat × Actor × Endpoint × Nat)
  tunnels : List Tunnel
  connections : List Connection
  events : List Event

namespace Relay

variable {σ : Type}

def idle (reachable : Bool) (remote : σ) : Relay σ :=
  ⟨0, reachable, .empty, [], remote, [], [], [], [], []⟩

def lineTexts (relay : Relay σ) : List String := relay.lines.map (·.2)

def updateTunnel (relay : Relay σ) (index : Nat) (f : Tunnel → Tunnel) : Relay σ :=
  { relay with tunnels := relay.tunnels.modify index f }

def updateConnection (relay : Relay σ) (index : Nat) (f : Connection → Connection) : Relay σ :=
  { relay with connections := relay.connections.modify index f }

def note (relay : Relay σ) (events : List Event) : Relay σ :=
  { relay with events := relay.events ++ events }

/-- Why the sink would break down on a line, if it would. -/
def refusal? (relay : Relay σ) (sink : Sink) (line : String) : Option String :=
  sink.refusal relay.lineTexts line

/-- Writes a line. The sink keeps it, also one that it breaks down on. -/
def write (relay : Relay σ) (actor : Actor) (line : String) : Relay σ :=
  { relay with lines := relay.lines ++ [(actor, line)] }

def dial (relay : Relay σ) (transport : Transport σ) (actor : Actor) (endpoint : Endpoint)
    (port : Nat) : Dialing × Relay σ :=
  let (dialing, remote) := transport.dial relay.now endpoint port relay.remote
  (dialing,
    { relay with
      remote := remote
      dials := relay.dials ++ [(relay.now, actor, endpoint, port)] })

def giveUp (relay : Relay σ) (grant : Grant) : Relay σ :=
  { relay with ports := relay.ports.dropBoth grant.ticket }.note [Ports.released grant.port]

end Relay

end Readiness
