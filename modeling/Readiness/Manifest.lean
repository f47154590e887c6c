import Readiness.Error
import Readiness.Files
import Readiness.Snapshot
import Readiness.Yaml.Content

/-!
# Manifests — objects to create in a cluster

* `Manifest.ofValue` checks a document and points it at a namespace;
* `Manifest.rank` orders kinds so that what others refer to comes first;
* `Manifest.loadDir` reads every document of a directory in that order.
-/

namespace Readiness

open Json (Value)

/-- An object that is ready to be created. -/
structure Manifest where
  -- The file it came from.
  path : String
  kind : Kind
  name : String
  -- Absent for a kind that belongs to the whole cluster.
  namespaceName : Option String
  -- The whole object, with its namespace in place.
  value : Value
deriving Repr, Inhabited

namespace Manifest

/-! ## Kinds -/

def clusterKinds : List String :=
  ["Namespace", "CustomResourceDefinition", "ClusterRole", "ClusterRoleBinding",
    "PersistentVolume", "StorageClass", "PriorityClass", "ClusterIssuer",
    "MutatingWebhookConfiguration", "ValidatingWebhookConfiguration"]

def isNamespaced (kind : String) : Bool := !clusterKinds.contains kind

/-- The place of a kind in the order of creation; lower ranks come first. -/
def rank (kind : String) : Nat :=
  match kind with
  | "Namespace" => 0
  | "CustomResourceDefinition" => 1
  | "ServiceAccount" => 2
  | "ClusterRole" | "Role" => 3
  | "ClusterRoleBinding" | "RoleBinding" => 4
  | "ConfigMap" | "Secret" => 5
  | "PersistentVolumeClaim" => 6
  | "Service" => 7
  | "Deployment" | "StatefulSet" | "DaemonSet" => 8
  | _ => 10

/-! ## Documents -/

def requireText (path : String) (value : Value) (keys : List String) : Except Error String :=
  match (value.lookup keys).bind Value.asString? with
  | some text => .ok text
  | none => .error (.manifest path ("document missing " ++ Text.joined "." keys))

def setNamespace (ns : String) : Value → Value
  | .obj entries =>
      match Dict.find? "metadata" entries with
      | some (.obj metadata) =>
          .obj (Dict.insert "metadata" (.obj (Dict.insert "namespace" (.str ns) metadata)) entries)
      | _ => .obj entries
  | value => value

/-- Checks a document and points it at a namespace. An object of a kind that belongs to the whole
cluster stays as it is. -/
def ofValue (path : String) (value : Value) (ns : String) : Except Error Manifest := do
  let apiVersion ← requireText path value ["apiVersion"]
  let kind ← requireText path value ["kind"]
  let name ← requireText path value ["metadata", "name"]
  if isNamespaced kind then
    .ok ⟨path, .ofName apiVersion kind, name, some ns, setNamespace ns value⟩
  else .ok ⟨path, .ofName apiVersion kind, name, none, value⟩

/-! ## Directories -/

def extensions : List String := ["yaml", "yml", "json"]

def isManifestFile (entry : String × FileTree) : Bool :=
  match entry with
  | (name, .file _) | (name, .unreadable _) => (Path.extension? name).any extensions.contains
  | (_, .directory _) => false

/-- Puts an element in front of the first one that is not smaller. -/
def insertBy {α β : Type} [LE β] [DecidableLE β] (key : α → β) (x : α) : List α → List α
  | [] => [x]
  | y :: rest => if key x ≤ key y then x :: y :: rest else y :: insertBy key x rest

/-- Elements in ascending order of a key; those of one key keep their order. -/
def sortBy {α β : Type} [LE β] [DecidableLE β] (key : α → β) (xs : List α) : List α :=
  xs.foldr (insertBy key) []

def filesIn (entries : List (String × FileTree)) : List (String × FileTree) :=
  sortBy (·.1) (entries.filter isManifestFile)

def listDir (files : FileTree) (dir : String) : Except Error (List String) :=
  match files.find? dir with
  | some (.directory entries) => .ok ((filesIn entries).map fun (name, _) => Path.join dir name)
  | _ => .error (.manifest dir "cannot read directory")

/-- The text of a file, or why it cannot be read. -/
def fileText (tree : FileTree) : Except Error String :=
  match tree with
  | .file bytes =>
      match FileTree.decode? bytes with
      | some text => .ok text
      | none => .error (.io "stream did not contain valid UTF-8")
  | .unreadable reason => .error (.io reason)
  | .directory _ => .error (.io "is a directory")

def ofText (path text ns : String) : Except Error (List Manifest) :=
  match Yaml.readDocuments text with
  | .ok documents => documents.mapM fun value => ofValue path value ns
  | .error e => .error (.manifest path e.message)

def ofFile (dir ns : String) (entry : String × FileTree) : Except Error (List Manifest) := do
  let text ← fileText entry.2
  ofText (Path.join dir entry.1) text ns

def ofFiles (dir ns : String) : List (String × FileTree) → Except Error (List Manifest)
  | [] => .ok []
  | entry :: rest => do
      let manifests ← ofFile dir ns entry
      let further ← ofFiles dir ns rest
      .ok (manifests ++ further)

/-- The manifests of the entries of a directory in the order of creation; there must be one. -/
def loadEntries (dir ns : String) (entries : List (String × FileTree)) :
    Except Error (List Manifest) := do
  let manifests ← ofFiles dir ns (filesIn entries)
  if manifests.isEmpty then .error (.manifest dir "no manifests found")
  else .ok (sortBy (fun manifest => rank manifest.kind.name) manifests)

def loadDir (files : FileTree) (dir ns : String) : Except Error (List Manifest) :=
  match files.find? dir with
  | some (.directory entries) => loadEntries dir ns entries
  | _ => .error (.manifest dir "cannot read directory")

end Manifest

end Readiness
