import Readiness.Manifest
import Readiness.Selection

/-!
# Requests — what is asked of a server

* `Request` is what goes over the wire;
* `Request.get`, `list`, `apply` and `portforward` are the requests of this library, and
  `Request.version` asks for the version of a server;
* `Request.collection` is the path of all resources of a kind, in one namespace or in the whole
  cluster.
-/

namespace Readiness.Cluster

open Json (Value)

structure Request where
  method : String
  path : String
  -- The parameters behind the path.
  query : List (String × String)
  contentType : Option String
  -- The data that are sent along.
  body : Option Value
deriving Repr

namespace Request

def reading (path : String) (query : List (String × String)) : Request :=
  ⟨"GET", path, query, none, none⟩

/-- The start of every path of an API: the core group has one of its own. -/
def base (kind : Kind) : String :=
  (if kind.group.isEmpty then "/api/" else "/apis/") ++ kind.apiVersion ++ "/"

def collection (kind : Kind) (namespaceName : Option String) : String :=
  match namespaceName with
  | some ns => base kind ++ "namespaces/" ++ ns ++ "/" ++ kind.plural
  | none => base kind ++ kind.plural

def resource (target : Target) : String :=
  collection target.kind target.namespaceName ++ "/" ++ target.name

def get (target : Target) : Request := reading (resource target) []

def list (kind : Kind) (ns : String) (selector : Option String) : Request :=
  reading (collection kind (some ns))
    (match selector with
    | some text => [("labelSelector", text)]
    | none => [])

/-- Who says that the fields of an applied object are theirs. -/
def fieldManager : String := "vigil"

/-- Creates or updates an object; fields that others manage are taken over. -/
def apply (manifest : Manifest) : Request :=
  ⟨"PATCH", resource ⟨manifest.kind, manifest.namespaceName, manifest.name⟩,
    [("force", "true"), ("fieldManager", fieldManager)], some "application/apply-patch+yaml",
    some manifest.value⟩

def portforward (endpoint : Endpoint) (port : Nat) : Request :=
  reading (resource ⟨.pod, some endpoint.namespaceName, endpoint.name⟩ ++ "/portforward")
    [("ports", toString port)]

def version : Request := reading "/version" []

/-- Whether a character may stand in a path. Characters beyond ASCII may. -/
def isPathChar (c : Char) : Bool := '!' ≤ c && !(['<', '>', '\x60'].contains c)

def isSendable (request : Request) : Bool := request.path.toList.all isPathChar

end Request

end Readiness.Cluster
