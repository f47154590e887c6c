import Readiness.Proofs.Ports.Listeners
import Readiness.Tunnel.Run

/-!
# Turns — what can happen to a relay at once

A move concerns the ports, one tunnel or one connection. This file lists what it can do to them, and
everything that holds in all runs of a relay is derived from this list.

* `Relay.Core` is a relay without its lines, its events and the state of the transport;
* `Relay.Turn` has one rule for each step of a tunnel that goes on, `Relay.Ending` one for each way in
  which its worker ends, and `Relay.ConnectionTurn` one for each step of a connection;
* `Relay.Hosting` has one rule for each step of the ports;
* `Relay.TunnelChange`, `Relay.ConnectionChange` and `Relay.Change` put these together;
* `Relay.LocalChange` is a change of at most one tunnel or one connection.
-/

namespace Readiness

namespace Relay

variable {σ : Type}

/-! ## Cores -/

/-- What the laws of tunnels are about. -/
structure Core where
  now : Nat
  ports : Ports
  bound : List Grant
  dials : List (Nat × Actor × Endpoint × Nat)
  tunnels : List Tunnel
  connections : List Connection

def core (relay : Relay σ) : Core :=
  ⟨relay.now, relay.ports, relay.bound, relay.dials, relay.tunnels, relay.connections⟩

namespace Core

def withTunnel (core : Core) (index : Nat) (tunnel : Tunnel) : Core :=
  { core with tunnels := core.tunnels.set index tunnel }

def withConnection (core : Core) (index : Nat) (connection : Connection) : Core :=
  { core with connections := core.connections.set index connection }

/-- Without the lease and the listener of a grant. -/
def without (core : Core) (grant : Grant) : Core :=
  { core with ports := core.ports.dropBoth grant.ticket }

def withDial (core : Core) (actor : Actor) (tunnel : Tunnel) : Core :=
  { core with dials := core.dials ++ [(core.now, actor, tunnel.endpoint, tunnel.remotePort)] }

end Core

/-! ## Tunnels -/

/-- The tunnel that a move is made by or for. -/
def Move.tunnel? (relay : Relay σ) : Move → Option Nat
  | .act (.worker tunnel) | .act (.accept tunnel) | .act (.collect tunnel) | .act (.join tunnel)
  | .act (.abandon tunnel) | .act (.close tunnel) | .act (.drop tunnel)
  | .failAccept tunnel _ | .leaveClosing tunnel => some tunnel
  | .act (.connection connection) | .act (.send connection _) | .act (.finish connection)
  | .act (.take connection _) | .overlookEnd connection =>
      relay.connections[connection]?.map (·.tunnel)
  | _ => none

/-- What the caller is after it learned the result of opening. -/
def ownerAfter : Except Error Unit → Owner
  | .ok () => .holding
  | .error _ => .gone

/-- A move by which a tunnel goes on. Its worker does not end. -/
inductive Turn (now index : Nat) (tunnel : Tunnel) : Move → Tunnel → Prop
  | decided {ends : Nat} {verdict : ProbeEnd} {events : List Event}
      (phase : tunnel.phase = .probing ends verdict events) (due : ends ≤ now) :
      Turn now index tunnel (.act (.worker index)) { tunnel with phase := .decided verdict }
  | ready (phase : tunnel.phase = .decided .ready) (owner : tunnel.owner = .opening) :
      Turn now index tunnel (.act (.worker index))
        { tunnel with
          history := .ready :: tunnel.history, word := some (.ok ()), phase := .forwarding }
  | collected {result : Except Error Unit} (owner : tunnel.owner = .opening)
      (known : openingResult? tunnel = some result) :
      Turn now index tunnel (.act (.collect index))
        { tunnel with owner := ownerAfter result, opened := some (now, result) }
  | abandoned (owner : tunnel.owner = .opening) :
      Turn now index tunnel (.act (.abandon index)) { tunnel with owner := .gone, stopped := true }
  | closing (owner : tunnel.owner = .holding) :
      Turn now index tunnel (.act (.close index)) { tunnel with owner := .closing, stopped := true }
  | dropped (owner : tunnel.owner = .holding) :
      Turn now index tunnel (.act (.drop index)) { tunnel with owner := .gone, stopped := true }
  | discarded (owner : tunnel.owner = .finished) :
      Turn now index tunnel (.act (.drop index)) { tunnel with owner := .gone }
  | joined {how : WorkerEnd} (owner : tunnel.owner = .closing) (phase : tunnel.phase = .ended how) :
      Turn now index tunnel (.act (.join index))
        { tunnel with owner := .finished, closed := some (closingResult index tunnel how) }
  | left (owner : tunnel.owner = .closing) :
      Turn now index tunnel (.leaveClosing index) { tunnel with owner := .finished }

/-- A move by which the worker of a tunnel ends: the states that it shows at its end, the last one
first, what it has told its caller by then, and how it ended. -/
inductive Ending (index : Nat) (tunnel : Tunnel) :
    Move → List TunnelState → Option (Except Error Unit) → WorkerEnd → Prop
  | greeting (phase : tunnel.phase = .spawned) (reason : String) :
      Ending index tunnel (.act (.worker index)) [] tunnel.word (.panicked reason)
  | early (phase : tunnel.phase = .spawned) (stopped : tunnel.stopped = true) :
      Ending index tunnel (.act (.worker index)) [.closed] tunnel.word .finished
  | withdrawn {ends : Nat} {verdict : ProbeEnd} {events : List Event}
      (phase : tunnel.phase = .probing ends verdict events) (stopped : tunnel.stopped = true) :
      Ending index tunnel (.act (.worker index)) [.closed] tunnel.word .finished
  | unwanted (phase : tunnel.phase = .decided .ready) (owner : tunnel.owner ≠ .opening) :
      Ending index tunnel (.act (.worker index)) [.closed, .ready] tunnel.word .finished
  | failed {reason : String} (phase : tunnel.phase = .decided (.failed reason)) :
      Ending index tunnel (.act (.worker index)) [.failed reason]
        (some (.error (tunnel.error reason))) .finished
  | silenced {reason : String} (phase : tunnel.phase = .decided (.failed reason)) (panic : String) :
      Ending index tunnel (.act (.worker index)) [] tunnel.word (.panicked panic)
  | panicked {reason : String} (phase : tunnel.phase = .decided (.panicked reason)) :
      Ending index tunnel (.act (.worker index)) [] tunnel.word (.panicked reason)
  | stopped (phase : tunnel.phase = .forwarding) (stopped : tunnel.stopped = true) :
      Ending index tunnel (.act (.worker index)) [.closed] tunnel.word .finished
  | stoppedSilently (phase : tunnel.phase = .forwarding) (stopped : tunnel.stopped = true)
      (reason : String) :
      Ending index tunnel (.act (.worker index)) [] tunnel.word (.panicked reason)
  | cutOff (phase : tunnel.phase = .forwarding) (reason : String) :
      Ending index tunnel (.failAccept index reason)
        [.failed (acceptError tunnel reason).message] tunnel.word
        (.failed (acceptError tunnel reason))
  | cutOffSilently (phase : tunnel.phase = .forwarding) (reason panic : String) :
      Ending index tunnel (.failAccept index reason) [] tunnel.word (.panicked panic)

/-- A tunnel after the end of its worker. -/
def ended (tunnel : Tunnel) (states : List TunnelState) (word : Option (Except Error Unit))
    (how : WorkerEnd) : Tunnel :=
  { tunnel with phase := .ended how, history := states ++ tunnel.history, word := word }

/-! ## Connections -/

/-- A move of a client. -/
def Move.isByClient : Move → Bool
  | .act (.send _ _) | .act (.finish _) | .act (.take _ _) => true
  | _ => false

/-- A move by which a connection goes on or ends, apart from its attempt to open a stream. -/
inductive ConnectionTurn (now : Nat) (connection : Connection) (tunnel : Tunnel) (move : Move) :
    Connection → Prop
  | accepted (waiting : connection.phase = .waiting) (forwarding : tunnel.phase = .forwarding) :
      ConnectionTurn now connection tunnel move { connection with phase := .accepted }
  | opened {since delay : Nat} {remote : RemoteEnd} {events : List (Nat × Event)}
      (dialing : connection.phase = .dialing since (.after delay (.connected remote) events))
      (due : since + delay ≤ now) :
      ConnectionTurn now connection tunnel move
        { connection with phase := .copying (.opened remote now) }
  | copied {link after : Link} {client : Client} (copying : connection.phase = .copying link)
      (due : copyIsDue now connection.client link = true)
      (copy : link.copy now connection.client = (client, after, .goesOn)) :
      ConnectionTurn now connection tunnel move
        { connection with client := client, phase := .copying after }
  | closed (client : Client) (going : connection.phase ≠ .ended)
      (refused : connection.phase = .waiting → tunnel.isOver = true) :
      ConnectionTurn now connection tunnel move
        { connection with client := client.hear, phase := .ended }
  | used (client : Client) (byClient : move.isByClient = true)
      (heard : client.ended = connection.client.ended) :
      ConnectionTurn now connection tunnel move { connection with client := client }

/-! ## Ports -/

/-- A move that concerns the ports and the leases that are held for their own sake. -/
inductive Hosting (ports : Ports) (bound : List Grant) (tunnels : List Tunnel) :
    Ports → List Grant → Prop
  | begun (requested : Option Nat) :
      Hosting ports bound tunnels (ports.begin requested).2 bound
  | cancelled (ticket : Nat) : Hosting ports bound tunnels (ports.cancel ticket) bound
  | leased {grant : Grant} {after : Ports} (takes : ports.Takes grant after) :
      Hosting ports bound tunnels after (grant :: bound)
  -- A bind succeeds, but the host does not tell the address of the listener.
  | lost {grant : Grant} {after : Ports} (takes : ports.Takes grant after) :
      Hosting ports bound tunnels (after.dropBoth grant.ticket) bound
  | released {grant : Grant} (held : grant ∈ bound) :
      Hosting ports bound tunnels (ports.dropLease grant.ticket)
        (bound.filter (·.ticket != grant.ticket))
  | hungUp {ticket : Nat} (free : ∀ tunnel ∈ tunnels, tunnel.grant.ticket ≠ ticket) :
      Hosting ports bound tunnels (ports.dropListener ticket) bound
  | occupied {port : Nat} {after : Ports} (occupy : ports.occupy port = some after) :
      Hosting ports bound tunnels after bound
  | vacated {port : Nat} {after : Ports} (vacate : ports.vacate port = some after) :
      Hosting ports bound tunnels after bound

/-! ## Changes -/

/-- What a move does to a tunnel at once. -/
inductive TunnelChange (surroundings : Surroundings σ) (move : Move) (before after : Relay σ)
    (index : Nat) (tunnel : Tunnel) : Prop
  | probed (phase : tunnel.phase = .spawned) (own : move = .act (.worker index))
      (dialing : Dialing)
      (dialed : (surroundings.transport.dial before.now tunnel.endpoint tunnel.remotePort
        before.remote).1 = dialing)
      (offset : Nat) (verdict : ProbeEnd) (events : List Event)
      (outcome : Probe.verdict tunnel.options.probeSettle tunnel.options.readyTimeout dialing =
        (offset, verdict))
      (core : after.core =
        (before.core.withDial (.worker index) tunnel).withTunnel index
          { tunnel with phase := .probing (before.now + offset) verdict events })
  | turned (next : Tunnel) (turn : Turn before.now index tunnel move next)
      (core : after.core = before.core.withTunnel index next)
  | ended (states : List TunnelState) (word : Option (Except Error Unit)) (how : WorkerEnd)
      (ending : Ending index tunnel move states word how)
      (core : after.core =
        (before.core.without tunnel.grant).withTunnel index (ended tunnel states word how))

/-- What a move does to a connection of a tunnel at once. -/
inductive ConnectionChange (surroundings : Surroundings σ) (move : Move) (before after : Relay σ)
    (index : Nat) (connection : Connection) (tunnel : Tunnel) : Prop
  | dialed (phase : connection.phase = .accepted) (dialing : Dialing)
      (dialed : (surroundings.transport.dial before.now tunnel.endpoint tunnel.remotePort
        before.remote).1 = dialing)
      (core : after.core =
        (before.core.withDial (.connection index) tunnel).withConnection index
          { connection with phase := .dialing before.now dialing })
  | advanced (next : Connection) (turn : ConnectionTurn before.now connection tunnel move next)
      (core : after.core = before.core.withConnection index next)

/-- A move that no tunnel makes and that is made for none. -/
def IsFree (σ : Type) (move : Move) : Prop := ∀ relay : Relay σ, move.tunnel? relay = none

/-- What a move does to a relay at once. -/
inductive Change (surroundings : Surroundings σ) (move : Move) (before after : Relay σ) : Prop
  | still (core : after.core = before.core)
  | waited (free : IsFree σ move) (now : before.now ≤ after.now)
      (core : after.core = { before.core with now := after.now })
  | hosted (ports : Ports) (bound : List Grant)
      (hosting : Hosting before.ports before.bound before.tunnels ports bound)
      (core : after.core = { before.core with ports := ports, bound := bound })
  | opened (options : TunnelOptions) (endpoint : Endpoint) (remotePort : Nat) (grant : Grant)
      (ports : Ports) (free : IsFree σ move) (takes : before.ports.Takes grant ports)
      (core : after.core =
        { before.core with
          ports := ports
          tunnels := before.tunnels ++ [.fresh endpoint remotePort options grant before.now] })
  | tunnel (index : Nat) (tunnel : Tunnel) (found : before.tunnels[index]? = some tunnel)
      (change : TunnelChange surroundings move before after index tunnel)
  | connected (index : Nat) (tunnel : Tunnel) (found : before.tunnels[index]? = some tunnel)
      (listens : tunnel.grant ∈ before.ports.listeners) (free : IsFree σ move)
      (core : after.core =
        { before.core with connections := before.connections ++ [.fresh index] })
  | connection (index : Nat) (connection : Connection) (tunnel : Tunnel)
      (found : before.connections[index]? = some connection)
      (owner : before.tunnels[connection.tunnel]? = some tunnel)
      (own : move.tunnel? before = some connection.tunnel)
      (change : ConnectionChange surroundings move before after index connection tunnel)

/-- What a move that concerns at most one tunnel or one connection does to a relay at once. -/
inductive LocalChange (surroundings : Surroundings σ) (move : Move) (before after : Relay σ) : Prop
  | still (same : after = before)
  | tunnel (index : Nat) (tunnel : Tunnel) (found : before.tunnels[index]? = some tunnel)
      (change : TunnelChange surroundings move before after index tunnel)
  | connection (index : Nat) (connection : Connection) (tunnel : Tunnel)
      (found : before.connections[index]? = some connection)
      (owner : before.tunnels[connection.tunnel]? = some tunnel)
      (own : move.tunnel? before = some connection.tunnel)
      (change : ConnectionChange surroundings move before after index connection tunnel)

theorem LocalChange.change {surroundings : Surroundings σ} {move : Move} {before after : Relay σ}
    (change : LocalChange surroundings move before after) :
    Change surroundings move before after := by
  cases change with
  | still same => exact .still (congrArg core same)
  | tunnel index tunnel found change => exact .tunnel index tunnel found change
  | connection index connection tunnel found owner own change =>
      exact .connection index connection tunnel found owner own change

/-! ## Wellformed relays -/

/-- Listeners are apart, and every connection belongs to a tunnel. -/
structure Wellformed (relay : Relay σ) : Prop where
  apart : relay.ports.Apart
  attached : ∀ connection ∈ relay.connections, connection.tunnel < relay.tunnels.length

end Relay

end Readiness
