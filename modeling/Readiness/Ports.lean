import Readiness.Error
import Readiness.Event

/-!
# Ports — local ports and who holds them

Every port that is listened on is claimed in a registry until its lease is given up. A fixed port is
claimed before the host is asked for it, and a port that the host chooses is claimed afterwards.

* `Ports` is the registry with the leases and listeners that are alive, and the ports that listeners
  outside the registry occupy;
* `Ports.startFixed`, `Ports.answerFixed` and `Ports.cancel` are the steps of binding a fixed port, and
  `Ports.answerFree` ends a bind that leaves the choice to the host;
* `Ports.Host` is what the host answers to one bind, and `Ports.bind` is the whole operation without a
  pause;
* `Ports.dropLease` and `Ports.dropListener` give up what a bind returned, and `Ports.listen` does so
  when the host does not tell the address of the listener;
* `Ports.Move` lists what can happen next while binds are under way, and `Ports.perform` does it.
-/

namespace Readiness

/-- What a bind returned: a number of its own and the port. -/
structure Grant where
  ticket : Nat
  port : Nat
deriving DecidableEq, Repr, Inhabited

/-- The local ports of one host and the claims on them. -/
structure Ports where
  -- The registry: each claimed port once.
  claimed : List Nat
  -- Fixed ports that are claimed and for which the host was not asked yet.
  pending : List Grant
  leases : List Grant
  listeners : List Grant
  -- Ports with a listener that the registry knows nothing of.
  occupied : List Nat
  -- The ticket of the next bind.
  nextTicket : Nat
deriving Repr, Inhabited

namespace Ports

def empty : Ports := ⟨[], [], [], [], [], 0⟩

def isClaimed (ports : Ports) (port : Nat) : Bool := ports.claimed.contains port

def size (ports : Ports) : Nat := ports.claimed.length

def isEmpty (ports : Ports) : Bool := ports.claimed.isEmpty

def isBound (ports : Ports) (port : Nat) : Bool :=
  ports.occupied.contains port || ports.listeners.any (·.port = port)

def claim (ports : Ports) (port : Nat) : Ports :=
  { ports with claimed := port :: ports.claimed }

def release (ports : Ports) (port : Nat) : Ports :=
  { ports with claimed := ports.claimed.filter (· != port) }

def grant? (grants : List Grant) (ticket : Nat) : Option Grant := grants.find? (·.ticket = ticket)

def without (grants : List Grant) (ticket : Nat) : List Grant := grants.filter (·.ticket != ticket)

/-! ## Binding -/

def address (port : Nat) : String := "127.0.0.1:" ++ toString port

/-- The registry refuses a fixed port that it holds. -/
def heldElsewhere (port : Nat) : Error :=
  .tunnel (address port) "local port already held by another tunnel"

def bindFailed (port : Nat) : Error := .tunnel (address port) "bind failed"

def choiceFailed : Error := .tunnel Error.unknownEndpoint "bind failed"

/-- The host chose a port that the registry holds. -/
def chosenTwice (port : Nat) : Error :=
  .tunnel (address port) "OS-assigned port is already claimed in-process"

/-- Claims a fixed port; the host is asked for it later. -/
def startFixed (ports : Ports) (port : Nat) : Except Error (Grant × Ports) :=
  if ports.isClaimed port then .error (heldElsewhere port)
  else
    let grant : Grant := ⟨ports.nextTicket, port⟩
    .ok (grant,
      { ports.claim port with
        pending := grant :: ports.pending, nextTicket := ports.nextTicket + 1 })

/-- Gives up a bind for which the host was not asked yet. -/
def cancel (ports : Ports) (ticket : Nat) : Ports :=
  match grant? ports.pending ticket with
  | some grant => { ports.release grant.port with pending := without ports.pending ticket }
  | none => ports

/-- The host answers the bind of a claimed fixed port. A refusal gives the claim up. -/
def answerFixed (ports : Ports) (ticket : Nat) (granted : Bool) : Except Error Unit × Ports :=
  match grant? ports.pending ticket with
  | none => (.ok (), ports)
  | some grant =>
      if granted then
        (.ok (),
          { ports with
            pending := without ports.pending ticket
            leases := grant :: ports.leases
            listeners := grant :: ports.listeners })
      else (.error (bindFailed grant.port), ports.cancel ticket)

/-- The answer of the host to a bind that leaves the choice to it. -/
inductive Choice where
  | refused
  -- It binds a port and then does not say which one.
  | unnamed (reason : String)
  | port (port : Nat)
deriving DecidableEq, Repr, Inhabited

/-- The host answers a bind that leaves the choice to it, and the port that it chose is claimed. A
port that the registry holds is refused, and its claim stays with its holder. -/
def answerFree (ports : Ports) : Choice → Except Error Grant × Ports
  | .refused => (.error choiceFailed, ports)
  | .unnamed reason => (.error (.io reason), ports)
  | .port port =>
      if ports.isClaimed port then (.error (chosenTwice port), ports)
      else
        let grant : Grant := ⟨ports.nextTicket, port⟩
        (.ok grant,
          { ports.claim port with
            leases := grant :: ports.leases
            listeners := grant :: ports.listeners
            nextTicket := ports.nextTicket + 1 })

/-- The answers of the host to one bind, whatever it asks for. -/
structure Host where
  -- Whether it grants a fixed port that nothing listens on.
  grants : Bool
  choice : Choice
  -- Why it does not tell the address of the listener afterwards, when it does not.
  unnamed : Option String
deriving DecidableEq, Repr, Inhabited

/-- A host that refuses nothing and has a port to choose. -/
def Host.choosing (port : Nat) : Host := ⟨true, .port port, none⟩

/-- No host chooses a port that something listens on. -/
def possible (ports : Ports) : Choice → Choice
  | .port port => if ports.isBound port then .refused else .port port
  | choice => choice

/-- The port that a request names; zero leaves the choice to the host. -/
def fixed? (request : Option Nat) : Option Nat := request.filter (· != 0)

/-- Binds a fixed port, which no host grants when something listens on it, or one that the host
chooses. -/
def bind (ports : Ports) (request : Option Nat) (host : Host) : Except Error Grant × Ports :=
  match fixed? request with
  | none => ports.answerFree (ports.possible host.choice)
  | some port =>
      match ports.startFixed port with
      | .error error => (.error error, ports)
      | .ok (grant, ports) =>
          match ports.answerFixed grant.ticket (host.grants && !ports.isBound port) with
          | (.ok (), ports) => (.ok grant, ports)
          | (.error error, ports) => (.error error, ports)

/-! ## Giving up -/

def dropLease (ports : Ports) (ticket : Nat) : Ports :=
  match grant? ports.leases ticket with
  | some grant => { ports.release grant.port with leases := without ports.leases ticket }
  | none => ports

def dropListener (ports : Ports) (ticket : Nat) : Ports :=
  { ports with listeners := without ports.listeners ticket }

def dropBoth (ports : Ports) (ticket : Nat) : Ports := (ports.dropListener ticket).dropLease ticket

/-- Asks the host for the address of a listener. One without an address is given up with its lease. -/
def located (unnamed : Option String) : Except Error Grant × Ports → Except Error Grant × Ports
  | (.ok grant, ports) =>
      match unnamed with
      | none => (.ok grant, ports)
      | some reason => (.error (.io reason), ports.dropBoth grant.ticket)
  | (.error error, ports) => (.error error, ports)

/-- Binds a port and asks for the address of the listener. -/
def listen (ports : Ports) (request : Option Nat) (host : Host) : Except Error Grant × Ports :=
  located host.unnamed (ports.bind request host)

/-! ## Listeners outside the registry -/

/-- Occupies a port from outside, unless something listens on it. -/
def occupy (ports : Ports) (port : Nat) : Option Ports :=
  if ports.isBound port then none
  else some { ports with occupied := port :: ports.occupied }

def vacate (ports : Ports) (port : Nat) : Option Ports :=
  if ports.occupied.contains port then
    some { ports with occupied := ports.occupied.filter (· != port) }
  else none

/-! ## Events -/

def released (port : Nat) : Event := ⟨.trace, .ports, "Released local port", [("port", .number port)]⟩

def bindEvents (request : Option Nat) (result : Except Error Grant) : List Event :=
  match fixed? request, result with
  | some port, .ok _ => [⟨.debug, .ports, "Claimed fixed local port", [("port", .number port)]⟩]
  | some port, .error error => if error = bindFailed port then [released port] else []
  | none, .ok grant =>
      [⟨.trace, .ports, "Claimed ephemeral local port", [("port", .number grant.port)]⟩]
  | none, .error _ => []

/-- The lease of a listener without an address is given up. -/
def locatedEvents (unnamed : Option String) (result : Except Error Grant) : List Event :=
  match unnamed, result with
  | some _, .ok grant => [released grant.port]
  | _, _ => []

/-! ## Moves -/

/-- What can happen next. A bind is under way from its beginning to the answer of the host, and any
other moves may come between. -/
inductive Move where
  -- A bind begins. It claims a fixed port at once and no other port before the host chose it.
  | begin (request : Option Nat)
  -- The host answers the bind of a fixed port that has a ticket.
  | answerFixed (ticket : Nat) (granted : Bool)
  -- The host answers a bind that leaves the choice to it.
  | answerFree (choice : Choice)
  -- The bind of a fixed port is given up before the answer.
  | cancel (ticket : Nat)
  | dropLease (ticket : Nat)
  | dropListener (ticket : Nat)
  | occupy (port : Nat)
  | vacate (port : Nat)
deriving Repr

def begin (ports : Ports) (request : Option Nat) : Except Error Unit × Ports :=
  match fixed? request with
  | none => (.ok (), ports)
  | some port =>
      match ports.startFixed port with
      | .ok (_, ports) => (.ok (), ports)
      | .error error => (.error error, ports)

/-- Makes a move. The result is an error when a bind failed by it. -/
def perform (ports : Ports) : Move → Except Error Unit × Ports
  | .begin request => ports.begin request
  | .answerFixed ticket granted => ports.answerFixed ticket granted
  | .answerFree choice =>
      let (result, ports) := ports.answerFree choice
      (result.map fun _ => (), ports)
  | .cancel ticket => (.ok (), ports.cancel ticket)
  | .dropLease ticket => (.ok (), ports.dropLease ticket)
  | .dropListener ticket => (.ok (), ports.dropListener ticket)
  | .occupy port => (.ok (), (ports.occupy port).getD ports)
  | .vacate port => (.ok (), (ports.vacate port).getD ports)

end Ports

end Readiness
