import Readiness.Apply
import Readiness.Settings
import Readiness.Tunnel.Conversation
import Readiness.Tunnel.Forward
import Readiness.Tunnel.Session
import Readiness.Wait

/-!
# Benches — named operations against one cluster

A bench ties settings, a source, an applier and tunnels together. Each of its operations goes on
until its condition holds or the timeout of the settings passes.

* `Bench.make` builds a bench, unless the settings have no valid pacing;
* `Bench.Operation` is an operation: it changes the bench, and has a result unless it never ends;
* `waitForDeployment`, `waitForPod`, `waitForResource` and `waitForCredential` are the waits;
* `applyDir`, `deploy` and `deployReplicas` create objects, the last two with a wait behind;
* `selectPod` and `forward` lead to a pod; `get`, `list`, `apply` and `converse` are single requests;
* `Bench.Step` is an operation as its caller sees it, who learns nothing of one that never ends.
-/

namespace Readiness

/-! ## Components -/

def nameLabel : String := "app.kubernetes.io/name"

def componentLabel : String := "app.kubernetes.io/component"

def versionLabel : String := "app.kubernetes.io/version"

/-- The query for one component of an application at a version. -/
def LabelQuery.ofComponent (app component version : String) : LabelQuery :=
  ((LabelQuery.empty.requireEq nameLabel app).requireEq componentLabel component).requireEq
    versionLabel version

/-- What operations against one cluster work with. -/
structure Bench (σ : Type) where
  settings : Settings
  pacing : Pacing
  files : FileTree
  source : Source σ
  -- Absent when manifests cannot be applied.
  applier : Option (Applier σ)
  session : Session σ

namespace Bench

variable {σ α β : Type}

/-- A bench over a relay. The settings must have a valid pacing. -/
def make (settings : Settings) (files : FileTree) (source : Source σ)
    (applier : Option (Applier σ)) (surroundings : Surroundings σ) (relay : Relay σ) :
    Except Error (Bench σ) := do
  let pacing ← settings.pacing
  .ok ⟨settings, pacing, files, source, applier,
    .begin relay settings.tunnelOptions surroundings⟩

def relay (bench : Bench σ) : Relay σ := bench.session.relay

def now (bench : Bench σ) : Nat := bench.relay.now

def remote (bench : Bench σ) : σ := bench.relay.remote

def withRelay (bench : Bench σ) (relay : Relay σ) : Bench σ :=
  { bench with session := { bench.session with relay := relay } }

def note (bench : Bench σ) (events : List Event) : Bench σ :=
  bench.withRelay (bench.relay.note events)

/-- Goes on at a later instant with another remote state, after events. -/
def resume (bench : Bench σ) (instant : Nat) (remote : σ) (events : List Event) : Bench σ :=
  bench.withRelay (bench.relay.resume bench.session.surroundings instant remote events)

/-! ## Operations -/

/-- What came of an operation, and the bench as it left it. There is no result when the operation never
ends or when the program breaks down in it. -/
structure Attempt (σ α : Type) where
  result : Option (Except Error α)
  bench : Bench σ

abbrev Operation (σ α : Type) := Bench σ → Attempt σ α

namespace Operation

def andThen (first : Operation σ α) (next : α → Operation σ β) : Operation σ β := fun bench =>
  match first bench with
  | ⟨some (.ok a), bench⟩ => next a bench
  | ⟨some (.error error), bench⟩ => ⟨some (.error error), bench⟩
  | ⟨none, bench⟩ => ⟨none, bench⟩

/-- An operation whose success is noted. -/
def noting (operation : Operation σ α) (event : α → Event) : Operation σ α :=
  operation.andThen fun a bench => ⟨some (.ok a), bench.note [event a]⟩

def map (f : α → β) (operation : Operation σ α) : Operation σ β :=
  operation.andThen fun a bench => ⟨some (.ok (f a)), bench⟩

def request (ask : Bench σ → Observation α × σ) : Operation σ α := fun bench =>
  match ask bench with
  | (.never, remote) => ⟨none, bench.resume bench.now remote []⟩
  | (.after delay result events, remote) =>
      ⟨some result, bench.resume (bench.now + delay) remote events⟩

def activity (run : Bench σ → Option (Ended σ α)) : Operation σ α := fun bench =>
  match run bench with
  | some ended => ⟨some ended.result, bench.resume ended.finished ended.source ended.events⟩
  | none => ⟨none, bench⟩

/-! ## Waits -/

def waitFor (target : Target) (condition : Condition Snapshot) : Operation σ Snapshot :=
  .activity fun bench =>
    Wait.forResource bench.source bench.pacing target condition bench.now bench.remote

/-- Waits until a resource of a kind is listed under a name. -/
def waitListed (kind : Kind) (ns name : String) : Operation σ (List Snapshot) :=
  .activity fun bench =>
    Wait.forListing bench.source bench.pacing kind ns none (.resourcesFound [name]) bench.now
      bench.remote

def resourceEvent (message : String) (target : Target)
    (further : List (String × FieldValue)) : Event :=
  ⟨.info, .bench, message, ("resource", .text target.render) :: further⟩

/-- Waits until a deployment is listed and then until it is available. -/
def waitForDeployment (ns name : String) : Operation σ Snapshot :=
  let target : Target := ⟨.deployment, some ns, name⟩
  (waitListed .deployment ns name).andThen fun _ =>
    (waitFor target (.statusTrue Condition.available)).noting fun _ =>
      resourceEvent "Deployment available" target []

def waitForPod (ns name : String) : Operation σ Snapshot :=
  let target : Target := ⟨.pod, some ns, name⟩
  (waitFor target (.statusTrue Condition.ready)).noting fun _ => resourceEvent "Pod ready" target []

def waitForResource (kind : Kind) (ns name : String) : Operation σ Snapshot :=
  let target : Target := ⟨kind, some ns, name⟩
  (waitFor target (.statusTrue Condition.ready)).noting fun _ =>
    resourceEvent "Resource ready" target []

def credentialPath : String := "secretRef.name"

def credentialOf (snapshot : Snapshot) : String :=
  ((snapshot.field credentialPath).bind Json.Value.asString?).getD ""

/-- Waits until a credential was issued for a resource; the result is the name of the secret. -/
def waitForCredential (kind : Kind) (ns name : String) : Operation σ String :=
  let target : Target := ⟨kind, some ns, name⟩
  ((waitFor target (.fieldSet credentialPath)).map credentialOf).noting fun secret =>
    resourceEvent "Credential issued" target [("secret", .text secret)]

/-! ## Creating objects -/

def noApplier : Error :=
  .config "harness" "manifest operations need a kube client or applier"

def applyDir (dir ns : String) : Operation σ Nat := fun bench =>
  match bench.applier with
  | none => ⟨some (.error noApplier), bench⟩
  | some applier =>
      let delivery := deliverDir applier bench.files dir ns bench.now bench.remote
      ⟨delivery.outcome, bench.resume delivery.finished delivery.state delivery.events⟩

/-- Creates the objects of a dependency, which has a directory of its own. -/
def applyDependency (name ns : String) : Operation σ Nat := fun bench =>
  applyDir (bench.settings.manifestDir name) ns bench

/-- Creates the objects of a dependency and waits for the deployment of its name. -/
def deploy (name ns : String) : Operation σ Snapshot :=
  (applyDependency name ns).andThen fun _ => waitForDeployment ns name

def firstReplica (name : String) : String := name ++ "-0"

/-- Creates the objects of a stateful dependency and waits for its first replica. -/
def deployReplicas (name ns : String) : Operation σ Snapshot :=
  (applyDependency name ns).andThen fun _ => waitForPod ns (firstReplica name)

/-! ## Pods -/

def selectPod (ns : String) (query : LabelQuery) : Operation σ Endpoint :=
  .request fun bench => select bench.source .pod ns query bench.now bench.remote

/-! ## Single requests -/

def get (target : Target) : Operation σ (Option Snapshot) :=
  .request fun bench => bench.source.get bench.now target bench.remote

def list (kind : Kind) (ns : String) (selector : Option String) : Operation σ (List Snapshot) :=
  .request fun bench => bench.source.list bench.now kind ns selector bench.remote

def apply (manifest : Manifest) : Operation σ Unit := fun bench =>
  match bench.applier with
  | none => ⟨some (.error noApplier), bench⟩
  | some applier => request (fun bench => applier.apply bench.now manifest bench.remote) bench

def converse (endpoint : Endpoint) (port : Nat) (written : Bytes) (ends : Bool) :
    Operation σ Conversation := fun bench =>
  let (dialing, remote) :=
    bench.session.surroundings.transport.dial bench.now endpoint port bench.remote
  match Conversation.run dialing written ends with
  | some (result, elapsed, events) =>
      ⟨some result, bench.resume (bench.now + elapsed) remote events⟩
  | none => ⟨none, bench.resume bench.now remote []⟩

end Operation

/-! ## Steps -/

/-- An operation as its caller sees it. There is nothing to see of one without a result. -/
abbrev Step (σ α : Type) := Bench σ → Option (Except Error α × Bench σ)

def Operation.step (operation : Operation σ α) : Step σ α := fun bench =>
  let attempt := operation bench
  attempt.result.map fun result => (result, attempt.bench)

def waitForDeployment (ns name : String) : Step σ Snapshot :=
  (Operation.waitForDeployment ns name).step

def waitForPod (ns name : String) : Step σ Snapshot := (Operation.waitForPod ns name).step

def waitForResource (kind : Kind) (ns name : String) : Step σ Snapshot :=
  (Operation.waitForResource kind ns name).step

def waitForCredential (kind : Kind) (ns name : String) : Step σ String :=
  (Operation.waitForCredential kind ns name).step

def applyDir (dir ns : String) : Step σ Nat := (Operation.applyDir dir ns).step

def deploy (name ns : String) : Step σ Snapshot := (Operation.deploy name ns).step

def deployReplicas (name ns : String) : Step σ Snapshot := (Operation.deployReplicas name ns).step

def selectPod (ns : String) (query : LabelQuery) : Step σ Endpoint :=
  (Operation.selectPod ns query).step

def get (target : Target) : Step σ (Option Snapshot) := (Operation.get target).step

def list (kind : Kind) (ns : String) (selector : Option String) : Step σ (List Snapshot) :=
  (Operation.list kind ns selector).step

def apply (manifest : Manifest) : Step σ Unit := (Operation.apply manifest).step

def converse (endpoint : Endpoint) (port : Nat) (written : Bytes) (ends : Bool) :
    Step σ Conversation :=
  (Operation.converse endpoint port written ends).step

/-- Forwards a local port to a port of a selected pod, and keeps the tunnel under a name. -/
def forward (name ns : String) (query : LabelQuery) (remotePort : Nat) (bench : Bench σ) :
    Option (Reply × Bench σ) :=
  (bench.relay.forward bench.session.surroundings bench.source bench.session.options ns query
    remotePort bench.session.host).map fun (result, relay) =>
      let (reply, session) := { bench.session with relay := relay }.keep name result
      (reply, { bench with session := session })

/-- Performs a command on the tunnels and ports. -/
def run (bench : Bench σ) (command : Command) : Reply × Bench σ :=
  let (reply, session) := bench.session.run command
  (reply, { bench with session := session })

end Bench

end Readiness
