import Readiness.Tunnel.Clock

/-!
# Runs — everything that can happen to a relay

Tasks, callers and clients act in any order. The host decides which binds it grants and when, time
passes, and a connection may do one thing more before it notices that its tunnel has ended.

* `Relay.Move` lists all of this, and `Relay.perform` makes a move. A move that is not possible
  changes nothing;
* `Relay.run` makes moves one after the other.
-/

namespace Readiness

namespace Relay

/-- What can happen next. -/
inductive Move where
  -- A task, a caller or a client acts.
  | act (action : Action)
  -- Time passes until an instant.
  | wait (instant : Nat)
  -- A connection goes on and has not noticed that its tunnel has ended.
  | overlookEnd (connection : Nat)
  -- A worker cannot accept connections any more.
  | failAccept (tunnel : Nat) (reason : String)
  -- A caller does not wait any more for a tunnel to close.
  | leaveClosing (tunnel : Nat)
  -- A bind begins. It claims a fixed port at once.
  | begin (requested : Option Nat)
  -- The host answers the bind of a fixed port that has a ticket.
  | answerFixed (ticket : Nat) (host : Ports.Host) (purpose : Purpose)
  -- The host answers a bind that leaves the choice to it.
  | answerFree (host : Ports.Host) (purpose : Purpose)
  -- The bind of a fixed port is given up before the answer.
  | cancel (ticket : Nat)
  | occupy (port : Nat)
  | vacate (port : Nat)
deriving Repr

variable {σ : Type}

/-! ## The host

It never grants a port that something listens on. -/

def answerFixed (relay : Relay σ) (ticket : Nat) (host : Ports.Host) (purpose : Purpose) : Relay σ :=
  match Ports.grant? relay.ports.pending ticket with
  | none => relay
  | some grant =>
      let (answer, ports) :=
        relay.ports.answerFixed ticket (host.grants && !relay.ports.isBound grant.port)
      relay.afterBind (some grant.port) host.unnamed (answer.map fun _ => grant, ports) purpose

def answerFree (relay : Relay σ) (host : Ports.Host) (purpose : Purpose) : Relay σ :=
  relay.afterBind none host.unnamed
    (relay.ports.answerFree (relay.ports.possible host.choice)) purpose

def cancel (relay : Relay σ) (ticket : Nat) : Relay σ :=
  match Ports.grant? relay.ports.pending ticket with
  | none => relay
  | some grant =>
      { relay with ports := relay.ports.cancel ticket }.note [Ports.released grant.port]

/-! ## Moves -/

def perform (surroundings : Surroundings σ) (relay : Relay σ) : Move → Relay σ
  | .act action => relay.step surroundings action
  | .wait instant => if relay.now ≤ instant then relay.goTo instant else relay
  | .overlookEnd connection => relay.overlookEnd surroundings connection
  | .failAccept tunnel reason => relay.failAccept surroundings tunnel reason
  | .leaveClosing tunnel => relay.leaveClosing tunnel
  | .begin requested => { relay with ports := (relay.ports.begin requested).2 }
  | .answerFixed ticket host purpose => relay.answerFixed ticket host purpose
  | .answerFree host purpose => relay.answerFree host purpose
  | .cancel ticket => relay.cancel ticket
  | .occupy port => { relay with ports := (relay.ports.occupy port).getD relay.ports }
  | .vacate port => { relay with ports := (relay.ports.vacate port).getD relay.ports }

def run (surroundings : Surroundings σ) (relay : Relay σ) (moves : List Move) : Relay σ :=
  moves.foldl (perform surroundings) relay

end Relay

end Readiness
