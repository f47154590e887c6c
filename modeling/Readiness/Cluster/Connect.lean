import Readiness.Cluster.Kubeconfig
import Readiness.Cluster.Server
import Readiness.Settings

/-!
# Connecting — finding a cluster and asking whether it is there

* `Site` is where a program looks for a kubeconfig that its settings do not name;
* `Site.address` is the address of the cluster that settings choose;
* `connect` asks that cluster for its version, once.
-/

namespace Readiness.Cluster

open Json (Value)

/-- Where a program runs. -/
structure Site where
  files : FileTree
  -- The path of the kubeconfig in the environment.
  fromEnvironment : Option String
  -- The home directory.
  home : String

namespace Site

def context : String := "create_client"

/-- The path of the kubeconfig that nobody named. -/
def standardPath (site : Site) : String :=
  (site.fromEnvironment.filter fun path => !path.isEmpty).getD (Path.join site.home ".kube/config")

/-- The address of a cluster in the kubeconfig that nobody named. -/
def standardServer? (site : Site) (chosen : Option String) : Option String :=
  (Kubeconfig.ofFile? site.files site.standardPath).bind (·.server? chosen)

def orFail (reason : String) : Option String → Except Error String
  | some address => .ok address
  | none => .error (.config context reason)

/-- The address of the cluster that settings choose. -/
def address (site : Site) (settings : Settings) : Except Error String :=
  match settings.kubeconfig with
  | some path =>
      match Kubeconfig.ofFile? site.files path with
      | none => .error (.config path "failed to read kubeconfig")
      | some config => orFail "failed to load kubeconfig" (config.server? settings.context)
  | none =>
      if settings.context.isSome then
        orFail "failed to load kubeconfig" (site.standardServer? settings.context)
      else orFail "failed to infer config" (site.standardServer? none)

end Site

structure Version where
  major : String
  minor : String
  platform : String
deriving DecidableEq, Repr, Inhabited

namespace Version

def shape : Shape :=
  .loose
    [("buildDate", .text), ("compiler", .text), ("gitCommit", .text), ("gitTreeState", .text),
      ("gitVersion", .text), ("goVersion", .text), ("major", .text), ("minor", .text),
      ("platform", .text)]

def part (v : Value) (key : String) : String := (v.getString? key).getD ""

def ofAnswer (answer : Answer) : Except CallError Version :=
  match answer.data with
  | .ok v =>
      if shape v then .ok ⟨part v "major", part v "minor", part v "platform"⟩
      else .error .unreadable
  | .error error => .error error

end Version

def creatingEvent (address : String) : Event :=
  ⟨.debug, .client, "Creating kube client", [("cluster_url", .text (Address.withPath address))]⟩

def connectedEvent (version : Version) : Event :=
  ⟨.info, .client, "Connected to API server",
    [("version", .text (version.major ++ "." ++ version.minor)),
      ("platform", .text version.platform)]⟩

/-- Asks the server at an address for its version. -/
def checkVersion {σ : Type} (server : Server σ) (now : Nat) (s : σ) :
    Except Error Version × σ :=
  match server.ask .version Version.ofAnswer now s with
  | (_, .ok version, s) => (.ok version, s)
  | (_, .error error, s) => (.error (.observation "apiserver" error.message), s)

/-- Finds the cluster that settings choose and asks it for its version. The settings must also have
a valid pacing, which is looked at last. -/
def connect {σ : Type} (server : String → Server σ) (site : Site) (settings : Settings) (now : Nat)
    (s : σ) : Except Error Version × List Event × σ :=
  match site.address settings with
  | .error error => (.error error, [], s)
  | .ok address =>
      match checkVersion (server address) now s with
      | (.error error, s) => (.error error, [creatingEvent address], s)
      | (.ok version, s) =>
          (settings.pacing.map fun _ => version,
            [creatingEvent address, connectedEvent version], s)

end Readiness.Cluster
