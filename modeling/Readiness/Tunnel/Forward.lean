import Readiness.Tunnel.Clock

/-!
# Forwarding — a tunnel to a selected endpoint

* `Relay.resume` lets a relay go on after its caller was busy with the remote side;
* `Relay.forward` selects an endpoint, opens a tunnel to it and tells the reader that it is ready.

Without an endpoint nothing is dialed, bound or written.
-/

namespace Readiness

namespace Relay

variable {σ : Type}

/-- Goes on at a later instant with another remote state, after events. -/
def resume (surroundings : Surroundings σ) (instant : Nat) (remote : σ) (events : List Event)
    (relay : Relay σ) : Relay σ :=
  ({ relay with remote := remote }.note events).advance surroundings instant

def readyLine : String := "Port forwarding is ready to get traffic."

/-- The caller writes a line. There is no result when the sink breaks down on it. -/
def announce (sink : Sink) (line : String) (relay : Relay σ) : Option (Relay σ) :=
  match relay.refusal? sink line with
  | some _ => none
  | none => some (relay.write .caller line)

def forwardTo (surroundings : Surroundings σ) (options : TunnelOptions) (remotePort : Nat)
    (host : Ports.Host) (endpoint : Endpoint) (relay : Relay σ) :
    Option (Except Error Nat × Relay σ) :=
  match relay.openTunnel surroundings options endpoint remotePort host none with
  | (.done (.ok index), opened) =>
      (opened.announce surroundings.sink readyLine).map fun relay => (.ok index, relay)
  | (.done (.error error), relay) => some (.error error, relay)
  | (.abandoned, _) => none

/-- Selects an endpoint, opens a tunnel to it and announces it. There is no result when the selection
never ends or the sink breaks down. -/
def forward (surroundings : Surroundings σ) (source : Source σ) (options : TunnelOptions) (ns : String)
    (query : LabelQuery) (remotePort : Nat) (host : Ports.Host) (relay : Relay σ) :
    Option (Except Error Nat × Relay σ) :=
  match select source .pod ns query relay.now relay.remote with
  | (.never, _) => none
  | (.after delay selected events, remote) =>
      let relay := relay.resume surroundings (relay.now + delay) remote events
      match selected with
      | .ok endpoint => relay.forwardTo surroundings options remotePort host endpoint
      | .error error => some (.error error, relay)

end Relay

end Readiness
