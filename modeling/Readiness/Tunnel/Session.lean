import Readiness.LogSink
import Readiness.Tunnel.Clock

/-!
# Sessions — a relay whose tunnels, ports and clients have names

A session runs commands one after the other. After each command everything that can happen has
happened.

* `Session` is a relay with names; a fixed port gets a number when its name is first used, and a
  port that the host chose is known under the name of what was bound to it;
* `Command` is what can be asked of a session, `Reply` what is answered, and `Session.run` performs
  a command;
* `Session.host` is the host of a session: it grants every port that nothing listens on, and chooses
  one after another.
-/

namespace Readiness

inductive PortRef where
  | named (name : String)
  | number (port : Nat)
deriving DecidableEq, Repr

inductive Command where
  | openTunnel (name : String) (port : Option PortRef) (endpoint : Endpoint) (remotePort : Nat)
      (patience : Option Nat)
  | state (name : String)
  | close (name : String)
  | drop (name : String)
  | connect (name client : String)
  | send (client : String) (bytes : Bytes)
  | finish (client : String)
  | receive (client : String) (wanted : Option Nat)
  | hangUp (client : String)
  | advance (millis : Nat)
  | occupy (port : Option PortRef)
  | vacate (port : Option PortRef)
  | bind (name : String) (port : Option PortRef)
  | dropListener (name : String)
  | dropLease (name : String)
  | registry
  | distinct
  | contains (text : String)
deriving DecidableEq, Repr

inductive ReadEnd where
  | full
  | closed
  -- Nothing came for a while.
  | silent
deriving DecidableEq, Repr, Inhabited

inductive Reply where
  -- A name that stands for nothing.
  | unknown
  | flag (b : Bool)
  | opened (result : Except Error Tunnel)
  | abandoned
  | state (state : TunnelState)
  | closed (result : Except Error Unit)
  | connected (b : Bool)
  | received (bytes : Bytes) (reason : ReadEnd)
  | busy
  | bound (requested : Option Nat) (result : Except Error Grant)
  | registry (size : Nat) (claims : List (String × Bool))
  | held (ports : List Nat)

/-- A relay whose tunnels, ports and clients have names. -/
structure Session (σ : Type) where
  relay : Relay σ
  options : TunnelOptions
  surroundings : Surroundings σ
  -- Names of fixed ports in the order of their first use.
  fixed : List String
  -- Every port that was named so far.
  ports : Dict Nat
  tunnels : Dict Nat
  tickets : Dict Nat
  clients : Dict Nat

namespace Session

variable {σ : Type}

def begin (relay : Relay σ) (options : TunnelOptions) (surroundings : Surroundings σ) : Session σ :=
  ⟨relay, options, surroundings, [], [], [], [], []⟩

/-! ## Names -/

def firstFixed : Nat := 20000

/-- The number of a named port, which is known from then on. -/
def portOf (session : Session σ) : Option PortRef → Option Nat × Session σ
  | none => (none, session)
  | some (.number port) => (some port, session)
  | some (.named name) =>
      match session.fixed.findIdx? (· = name) with
      | some index => (some (firstFixed + index), session)
      | none =>
          let port := firstFixed + session.fixed.length
          (some port,
            { session with
              fixed := session.fixed ++ [name]
              ports := Dict.insert name port session.ports })

def settled (session : Session σ) : Session σ :=
  { session with relay := session.relay.settle session.surroundings }

def tunnel? (session : Session σ) (name : String) : Option (Nat × Tunnel) :=
  (Dict.find? name session.tunnels).bind fun index =>
    session.relay.tunnels[index]?.map fun tunnel => (index, tunnel)

def forget (session : Session σ) (name : String) : Session σ :=
  match session.tunnel? name with
  | some (index, _) =>
      { session with
        relay := session.relay.dropTunnel session.surroundings index
        tunnels := session.tunnels.filter (·.1 != name) }
  | none => session

/-- Names the port of a name, unless the port has one. -/
def namePort (session : Session σ) (name : String) (port : Nat) : Session σ :=
  if session.ports.any (·.2 = port) then session
  else { session with ports := Dict.insert name port session.ports }

/-! ## The host -/

/-- The last port before those that the host chooses from. -/
def lastFixed : Nat := 49151

def lastPort : Nat := 65535

/-- The ports in use, those of earlier tunnels and those with a name. -/
def knownPorts (session : Session σ) : List Nat :=
  let ports := session.relay.ports
  ports.claimed ++ ports.listeners.map (·.port) ++ ports.occupied ++
    session.relay.tunnels.map (·.grant.port) ++ session.ports.map (·.2)

/-- Chooses the port after all that are known, as long as there is one. -/
def host (session : Session σ) : Ports.Host :=
  let port := session.knownPorts.foldl max lastFixed + 1
  ⟨true, if port ≤ lastPort then .port port else .refused, none⟩

/-! ## Tunnels -/

/-- Keeps an open tunnel under a name; one that had the name before is dropped. -/
def keep (session : Session σ) (name : String) : Except Error Nat → Reply × Session σ
  | .error error => (.opened (.error error), session)
  | .ok index =>
      match session.relay.tunnels[index]? with
      | none => (.unknown, session)
      | some tunnel =>
          let session := (session.forget name).namePort name tunnel.grant.port
          (.opened (.ok tunnel), { session with tunnels := Dict.insert name index session.tunnels })

def openTunnel (session : Session σ) (name : String) (port : Option PortRef) (endpoint : Endpoint)
    (remotePort : Nat) (patience : Option Nat) : Reply × Session σ :=
  let (localPort, session) := session.portOf port
  let (opening, relay) :=
    session.relay.openTunnel session.surroundings { session.options with localPort := localPort }
      endpoint remotePort session.host patience
  match opening with
  | .abandoned => (.abandoned, { session with relay := relay })
  | .done result => { session with relay := relay }.keep name result

def closeTunnel (session : Session σ) (name : String) : Reply × Session σ :=
  match session.tunnel? name with
  | some (index, _) =>
      let (result, relay) := session.relay.closeTunnel session.surroundings index
      (.closed result, { session with relay := relay })
  | none => (.unknown, session)

/-! ## Clients -/

/-- Connects a client to a tunnel or a named port. -/
def connect (session : Session σ) (name client : String) : Reply × Session σ :=
  let port := match session.tunnel? name with
    | some (_, tunnel) => tunnel.grant.port
    | none => ((session.portOf (some (.named name))).1).getD 0
  let relay := (session.relay.connect port).settle session.surroundings
  let count := session.relay.connections.length
  if relay.connections.length = count then (.connected false, session)
  else
    (.connected true,
      { session with relay := relay, clients := Dict.insert client count session.clients })

def act (session : Session σ) (client : String) (action : Nat → Action) : Reply × Session σ :=
  match Dict.find? client session.clients with
  | some index =>
      (.flag true,
        { session with
          relay := (session.relay.step session.surroundings (action index)).settle
            session.surroundings })
  | none => (.unknown, session)

def clientAt (index : Nat) (relay : Relay σ) : Client :=
  (relay.connections[index]?.map (·.client)).getD .fresh

/-- How long a reader waits for more. -/
def patience : Nat := 50

def isFull (wanted : Option Nat) (client : Client) : Bool :=
  match wanted with
  | some count => count ≤ client.inbox.length
  | none => false

/-- Waits until a client has enough, its stream ends or nothing comes for a while; `fuel` bounds the
parts that come. -/
def awaitBytes (session : Session σ) (index : Nat) (wanted : Option Nat) :
    Nat → ReadEnd × Session σ
  | 0 => (.silent, session)
  | fuel + 1 =>
      let before := (clientAt index session.relay).inbox.length
      let isDone (client : Client) : Bool :=
        isFull wanted client || client.ended || before < client.inbox.length
      let relay := session.relay.waitUntil session.surroundings (fun r => isDone (clientAt index r))
        (session.relay.now + patience)
      let client := clientAt index relay
      let session := { session with relay := relay }
      if isFull wanted client then (.full, session)
      else if client.ended then (.closed, session)
      else if before < client.inbox.length then session.awaitBytes index wanted fuel
      else (.silent, session)

/-- The number of parts after which a reader stops. -/
def partLimit : Nat := 10000

def receive (session : Session σ) (client : String) (wanted : Option Nat) : Reply × Session σ :=
  match Dict.find? client session.clients with
  | some index =>
      let (reason, session) := session.awaitBytes index wanted partLimit
      let inbox := (clientAt index session.relay).inbox
      let count := wanted.getD inbox.length
      (.received (inbox.take count) reason,
        { session with relay := session.relay.step session.surroundings (.take index count) })
  | none => (.unknown, session)

def hangUp (session : Session σ) (client : String) : Reply × Session σ :=
  match session.act client .finish with
  | (.flag _, session) =>
      (.flag true, { session with clients := session.clients.filter (·.1 != client) })
  | (_, session) => (.flag false, session)

/-! ## Ports -/

/-- Binds a port; what had the name before is given up. -/
def bind (session : Session σ) (name : String) (port : Option PortRef) : Reply × Session σ :=
  let (number, session) := session.portOf port
  let requested := Ports.fixed? number
  match session.relay.bind number session.host with
  | (.error error, relay) => (.bound requested (.error error), { session with relay := relay })
  | (.ok grant, relay) =>
      let relay := match Dict.find? name session.tickets with
        | some ticket => (relay.dropListener ticket).dropLease ticket
        | none => relay
      (.bound requested (.ok grant),
        { session with
          relay := relay
          tickets := Dict.insert name grant.ticket session.tickets }.namePort name grant.port)

/-- Gives up what a bind returned, if it is still there. -/
def giveUp (session : Session σ) (name : String) (grants : List Grant)
    (f : Nat → Relay σ) : Reply × Session σ :=
  match Dict.find? name session.tickets with
  | some ticket =>
      (.flag (grants.any (·.ticket = ticket)), { session with relay := f ticket })
  | none => (.flag false, session)

def occupy (session : Session σ) (port : Option PortRef) : Reply × Session σ :=
  let (number, session) := session.portOf port
  match session.relay.ports.occupy (number.getD 0) with
  | some ports => (.flag true, { session with relay := { session.relay with ports := ports } })
  | none => (.busy, session)

def vacate (session : Session σ) (port : Option PortRef) : Reply × Session σ :=
  match session.relay.ports.vacate (((session.portOf port).1).getD 0) with
  | some ports => (.flag true, { session with relay := { session.relay with ports := ports } })
  | none => (.flag false, session)

/-! ## Commands -/

def run (session : Session σ) : Command → Reply × Session σ
  | .openTunnel name port endpoint remotePort patience =>
      session.openTunnel name port endpoint remotePort patience
  | .state name =>
      match session.tunnel? name with
      | some (_, tunnel) => (.state tunnel.state, session)
      | none => (.unknown, session)
  | .close name => session.closeTunnel name
  | .drop name => (.flag (session.tunnel? name).isSome, session.forget name)
  | .connect name client => session.connect name client
  | .send client bytes => session.act client fun index => .send index bytes
  | .finish client => session.act client .finish
  | .receive client wanted => session.receive client wanted
  | .hangUp client => session.hangUp client
  | .advance millis =>
      (.unknown,
        { session with
          relay := session.relay.advance session.surroundings (session.relay.now + millis) })
  | .occupy port => session.occupy port
  | .vacate port => session.vacate port
  | .bind name port => session.bind name port
  | .dropListener name =>
      session.giveUp name session.relay.ports.listeners session.relay.dropListener
  | .dropLease name => session.giveUp name session.relay.bound session.relay.dropLease
  | .registry =>
      (.registry session.relay.ports.size
        (session.ports.map fun (name, port) => (name, session.relay.ports.isClaimed port)), session)
  | .distinct => (.held session.relay.heldPorts, session)
  | .contains text => (.flag (Lines.contains session.relay.lineTexts text), session)

end Session

end Readiness
