import Readiness.Tunnel.Task

/-!
# Clocks — running a relay over time

Time stands still while a task can do something, and otherwise goes on to the next instant at which
one can.

* `Relay.nextTask?` is a step that is possible now, and `Relay.settle` performs such steps until
  there are none;
* `Relay.nextDue?` is the next instant at which something happens by itself;
* `Relay.waitUntil` lets time pass until a condition holds or an instant is reached;
* `Relay.openTunnel`, `Relay.closeTunnel`, `Relay.dropTunnel` and `Relay.advance` are the whole
  operations of a caller.
-/

namespace Readiness

namespace Relay

variable {σ : Type}

/-! ## What can happen now -/

def workerIsDue (now : Nat) (tunnel : Tunnel) : Bool :=
  match tunnel.phase with
  | .spawned | .decided _ => true
  | .probing ends _ _ => tunnel.stopped || ends ≤ now
  | .forwarding => tunnel.stopped
  | .ended _ => false

def callerIsDue (tunnel : Tunnel) : Bool :=
  match tunnel.owner with
  | .opening => (openingResult? tunnel).isSome
  | .closing => tunnel.isOver
  | _ => false

def callerStep (index : Nat) (tunnel : Tunnel) : Action :=
  if tunnel.owner = .opening then .collect index else .join index

/-- Whether copying would move anything at an instant. -/
def copyIsDue (now : Nat) (client : Client) (link : Link) : Bool :=
  link.copy now client != (client, link, .goesOn)

def connectionIsDue (now : Nat) (isOver : Bool) (connection : Connection) : Bool :=
  match connection.phase with
  | .waiting => isOver
  | .accepted => true
  | .dialing since (.after delay _ _) => isOver || since + delay ≤ now
  | .dialing _ .never => isOver
  | .copying link => isOver || copyIsDue now connection.client link
  | .ended => false

/-- The possible step of a tunnel, its worker first. -/
def tunnelStep? (relay : Relay σ) (index : Nat) (tunnel : Tunnel) : Option Action :=
  if workerIsDue relay.now tunnel then some (.worker index)
  else if callerIsDue tunnel then some (callerStep index tunnel)
  else if tunnel.phase = .forwarding && relay.connections.any (awaits index) then
    some (.accept index)
  else none

def connectionStep? (relay : Relay σ) (index : Nat) (connection : Connection) : Option Action :=
  match relay.tunnels[connection.tunnel]? with
  | some tunnel =>
      if connectionIsDue relay.now tunnel.isOver connection then some (.connection index) else none
  | none => none

/-- The first step that is possible in a list, with the positions counted from `index`. -/
def firstStep? {α : Type} (step? : Nat → α → Option Action) (index : Nat) :
    List α → Option Action
  | [] => none
  | item :: rest =>
      match step? index item with
      | some action => some action
      | none => firstStep? step? (index + 1) rest

def nextTask? (relay : Relay σ) : Option Action :=
  match firstStep? relay.tunnelStep? 0 relay.tunnels with
  | some action => some action
  | none => firstStep? relay.connectionStep? 0 relay.connections

/-- No tunnel and no connection takes more steps than this without time passing. -/
def stepsAtOnce : Nat := 8

def settleIn (surroundings : Surroundings σ) : Nat → Relay σ → Relay σ
  | 0, relay => relay
  | fuel + 1, relay =>
      match relay.nextTask? with
      | some action => settleIn surroundings fuel (relay.step surroundings action)
      | none => relay

/-- Performs possible steps until there are none. -/
def settle (surroundings : Surroundings σ) (relay : Relay σ) : Relay σ :=
  settleIn surroundings (stepsAtOnce * (relay.tunnels.length + relay.connections.length)) relay

theorem now_settleIn (surroundings : Surroundings σ) (fuel : Nat) (relay : Relay σ) :
    (settleIn surroundings fuel relay).now = relay.now := by
  induction fuel generalizing relay with
  | zero => rfl
  | succ fuel ih =>
      simp only [settleIn]
      split
      · rw [ih, now_step]
      · rfl

theorem now_settle (surroundings : Surroundings σ) (relay : Relay σ) :
    (relay.settle surroundings).now = relay.now := now_settleIn surroundings _ relay

/-! ## Time -/

/-- The instant at which the worker of a tunnel goes on by itself. -/
def workerDue? (tunnel : Tunnel) : Option Nat :=
  match tunnel.phase with
  | .probing ends _ _ => some ends
  | _ => none

def connectionDue? (now : Nat) (connection : Connection) : Option Nat :=
  match connection.phase with
  | .dialing since (.after delay _ _) => some (since + delay)
  | .copying link => link.nextDue now
  | _ => none

/-- The next instant at which something happens by itself. -/
def nextDue? (relay : Relay σ) : Option Nat :=
  ((relay.tunnels.filterMap workerDue? ++
      relay.connections.filterMap (connectionDue? relay.now)).filter (relay.now < ·)).min?

def nextInstant (relay : Relay σ) (limit : Nat) : Nat := min limit ((relay.nextDue?).getD limit)

theorem lt_of_mem_filter_lt {now due : Nat} {dues : List Nat}
    (h : (dues.filter (now < ·)).min? = some due) : now < due := by
  have := List.min?_mem h
  simpa using (List.mem_filter.1 this).2

/-- Time always goes forward. -/
theorem now_lt_nextInstant (relay : Relay σ) {limit : Nat} (h : relay.now < limit) :
    relay.now < relay.nextInstant limit := by
  simp only [nextInstant]
  cases due : relay.nextDue? with
  | none => simpa using h
  | some instant =>
      have := lt_of_mem_filter_lt due
      simp only [Option.getD_some]
      omega

def goTo (relay : Relay σ) (instant : Nat) : Relay σ := { relay with now := instant }

/-- Lets time pass until a condition holds or an instant is reached; everything that can happen on
the way does. -/
def waitUntil (surroundings : Surroundings σ) (isDone : Relay σ → Bool) (limit : Nat)
    (relay : Relay σ) : Relay σ :=
  let settled := relay.settle surroundings
  if isDone settled then settled
  else if settled.now < limit then
    waitUntil surroundings isDone limit (settled.goTo (settled.nextInstant limit))
  else settled
termination_by limit - relay.now
decreasing_by
  rename_i before
  have before : (relay.settle surroundings).now < limit := before
  have forward := now_lt_nextInstant _ before
  have same := now_settle surroundings relay
  simp only [goTo]
  omega

def advance (surroundings : Surroundings σ) (limit : Nat) (relay : Relay σ) : Relay σ :=
  relay.waitUntil surroundings (fun _ => false) limit

/-! ## Whole operations -/

/-- How a caller's wait for a tunnel to open ends. -/
inductive Opening where
  | done (result : Except Error Nat)
  -- The caller stopped waiting.
  | abandoned

def openedResult? (relay : Relay σ) (index : Nat) : Option (Except Error Unit) :=
  (relay.tunnels[index]?.bind (·.opened)).map (·.2)

/-- The instant by which opening a tunnel has a result. -/
def openingLimit (relay : Relay σ) (options : TunnelOptions) : Nat :=
  relay.now + options.readyTimeout.timerMillis

/-- Waits for a tunnel to open. A caller without any patience leaves before the worker has run. -/
def awaitOpening (surroundings : Surroundings σ) (index limit : Nat) (patience : Option Nat)
    (relay : Relay σ) : Opening × Relay σ :=
  let leave (relay : Relay σ) := (Opening.abandoned, (relay.abandon index).settle surroundings)
  if patience = some 0 then leave relay
  else
    let limit := match patience with
      | some patience => min limit (relay.now + patience)
      | none => limit
    let waited := relay.waitUntil surroundings (fun r => (r.openedResult? index).isSome) limit
    match waited.openedResult? index with
    | some result => (.done (result.map fun _ => index), waited)
    | none => leave waited

/-- Opens a tunnel and waits for the result; the number of an open tunnel stands for its handle. -/
def openTunnel (surroundings : Surroundings σ) (options : TunnelOptions) (endpoint : Endpoint)
    (remotePort : Nat) (host : Ports.Host) (patience : Option Nat) (relay : Relay σ) :
    Opening × Relay σ :=
  match relay.start options endpoint remotePort host with
  | (.error error, started) => (.done (.error error), started)
  | (.ok index, started) =>
      started.awaitOpening surroundings index (relay.openingLimit options) patience

/-- Closes a tunnel and waits for its worker. Closing it again does nothing. -/
def closeTunnel (surroundings : Surroundings σ) (index : Nat) (relay : Relay σ) :
    Except Error Unit × Relay σ :=
  match relay.tunnels[index]? with
  | some tunnel =>
      if tunnel.owner = .holding then
        let closed := (relay.close index).settle surroundings
        (((closed.tunnels[index]?).bind (·.closed)).getD (.ok ()), closed)
      else (.ok (), relay)
  | none => (.ok (), relay)

def dropTunnel (surroundings : Surroundings σ) (index : Nat) (relay : Relay σ) : Relay σ :=
  (relay.drop index).settle surroundings

/-- The ports of the tunnels and the leases that callers hold. -/
def heldPorts (relay : Relay σ) : List Nat :=
  (relay.tunnels.filter (·.owner = .holding)).map (·.grant.port) ++ relay.bound.map (·.port)

end Relay

end Readiness
