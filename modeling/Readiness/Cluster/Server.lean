import Readiness.Apply
import Readiness.Cluster.Answer
import Readiness.Cluster.Request

/-!
# Servers — observing, applying and forwarding through one server

* `Server` answers requests, in a state of its own;
* `Server.source` observes resources through it, `Server.applier` creates objects, and
  `Server.transport` opens streams to pods.

Each of these sends one request, or none when the request cannot be sent at all.
-/

namespace Readiness.Cluster

/-- Answers a request at an instant, after a delay. -/
structure Server (σ : Type) where
  answer : Nat → Request → σ → Nat × Answer × σ

namespace Server

variable {σ : Type}

/-- Sends a request and reads what comes back. -/
def ask {α : Type} (server : Server σ) (request : Request) (read : Answer → Except CallError α)
    (now : Nat) (s : σ) : Nat × Except CallError α × σ :=
  if request.isSendable then
    let (delay, answer, s) := server.answer now request s
    (delay, read answer, s)
  else (0, .error .unsendable, s)

/-- Sends a request about one resource, which needs a name. -/
def askNamed {α : Type} (server : Server σ) (name : String) (request : Request)
    (read : Answer → Except CallError α) (now : Nat) (s : σ) : Nat × Except CallError α × σ :=
  if name.isEmpty then (0, .error .unnamed, s) else server.ask request read now s

/-! ## Observing -/

def fetchedEvent (target : Target) (found : Bool) : Event :=
  ⟨.trace, .observer, "Fetched resource",
    [("resource", .text target.render), ("found", .flag found)]⟩

def listedEvent (kind : Kind) (ns : String) (count : Nat) : Event :=
  ⟨.trace, .observer, "Listed resources",
    [("kind", .text kind.name), ("namespace", .text ns), ("count", .number count)]⟩

def fetched (target : Target) (delay : Nat) :
    Except CallError (Option Snapshot) → Observation (Option Snapshot)
  | .ok found => .after delay (.ok found) [fetchedEvent target found.isSome]
  | .error error => .after delay (.error (.observation target.render error.message)) []

def listed (kind : Kind) (ns : String) (delay : Nat) :
    Except CallError (List Snapshot) → Observation (List Snapshot)
  | .ok snapshots => .after delay (.ok snapshots) [listedEvent kind ns snapshots.length]
  | .error error => .after delay (.error (.observation (kind.name ++ " " ++ ns) error.message)) []

def source (server : Server σ) : Source σ where
  get now target s :=
    let (delay, found, s) :=
      server.askNamed target.name (.get target) (Answer.object? target.kind) now s
    (fetched target delay found, s)
  list now kind ns selector s :=
    let (delay, found, s) := server.ask (.list kind ns selector) (Answer.listing kind) now s
    (listed kind ns delay found, s)

/-! ## Applying -/

def shownObject (manifest : Manifest) : String := manifest.kind.name ++ " " ++ manifest.name

/-- The error of an object that was not applied. A refusal is the manifest's fault, anything else
the server's. -/
def applyError (manifest : Manifest) : CallError → Error
  | .refused refusal =>
      .manifest manifest.path
        ("failed to apply " ++ shownObject manifest ++ ": " ++ (CallError.refused refusal).message)
  | error => .observation (shownObject manifest) error.message

def appliedEvent (manifest : Manifest) : Event :=
  ⟨.debug, .manifest, "Applied manifest",
    [("kind", .text manifest.kind.name), ("name", .text manifest.name)]⟩

def applier (server : Server σ) : Applier σ where
  apply now manifest s :=
    match server.askNamed manifest.name (.apply manifest) Answer.accepted now s with
    | (delay, .ok (), s) => (.after delay (.ok ()) [appliedEvent manifest], s)
    | (delay, .error error, s) => (.after delay (.error (applyError manifest error)) [], s)

/-! ## Forwarding -/

def shownStream (endpoint : Endpoint) (port : Nat) : String :=
  endpoint.render ++ ":" ++ toString port

def establishedEvent (endpoint : Endpoint) (port : Nat) : Event :=
  ⟨.debug, .transport, "Portforward stream established",
    [("tunnel", .text (shownStream endpoint port))]⟩

def reportedEvent (endpoint : Endpoint) (port : Nat) (message : String) : Event :=
  ⟨.warn, .transport, "Pod reported port-forward error",
    [("tunnel", .text (shownStream endpoint port)), ("error", .text message)]⟩

/-- The events of an open stream, at offsets from its opening. -/
def streamEvents (endpoint : Endpoint) (port : Nat) (remote : RemoteEnd) : List (Nat × Event) :=
  (0, establishedEvent endpoint port) ::
    match remote.report with
    | some (.message offset text) => [(offset, reportedEvent endpoint port text)]
    | _ => []

/-- What becomes of an attempt to open a stream. -/
def dialed (endpoint : Endpoint) (port delay : Nat) : Except String RemoteEnd → Dialing
  | .ok remote =>
      .after delay (.connected remote)
        ((streamEvents endpoint port remote).map fun (offset, event) => (delay + offset, event))
  | .error reason =>
      .after delay
        (.refused (.tunnel (shownStream endpoint port) ("portforward failed: " ++ reason))) []

def transport (server : Server σ) : Transport σ where
  dial now endpoint port s :=
    let request := Request.portforward endpoint port
    if request.isSendable then
      let (delay, answer, s) := server.answer now request s
      (dialed endpoint port delay (answer.stream port), s)
    else (dialed endpoint port 0 (.error CallError.unsendable.message), s)

end Server

end Readiness.Cluster
