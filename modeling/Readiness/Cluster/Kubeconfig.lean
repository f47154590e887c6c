import Readiness.Cluster.Shape
import Readiness.Files
import Readiness.Text.Split
import Readiness.Yaml.Content

/-!
# Kubeconfigs — where clusters are and how to reach them

A kubeconfig names clusters, users, and contexts that put one of each together.

* `Kubeconfig.ofText?` reads all documents of a text, and `Kubeconfig.merge?` puts two kubeconfigs
  together, where the first one wins;
* `Kubeconfig.server?` is the address of the cluster of a context;
* `Address.isValid` says which texts are addresses.
-/

namespace Readiness.Cluster

open Json (Value)

/-! ## Addresses -/

namespace Address

def isSchemeChar (c : Char) : Bool := c.isAlphanum || ['+', '-', '.'].contains c

def isHostChar (c : Char) : Bool :=
  c.isAlphanum ||
    ['!', '$', '%', '&', '\x27', '(', ')', '*', '+', ',', '-', '.', ':', ';', '=', '@', '[', ']', '_',
      '~'].contains c

def isTailChar (c : Char) : Bool := '!' ≤ c && !(['<', '>', '\x60'].contains c)

def endsHost (c : Char) : Bool := c = '/' || c = '?' || c = '#'

def splitScheme? : List Char → Option (List Char × List Char)
  | ':' :: '/' :: '/' :: rest => some ([], rest)
  | c :: rest => (splitScheme? rest).map fun (scheme, tail) => (c :: scheme, tail)
  | [] => none

def isHost (cs : List Char) : Bool := !cs.isEmpty && cs.all isHostChar

/-- Whether a text is an address: a host behind a scheme and perhaps in front of a path, a host
alone, or a path alone. -/
def isValid (text : String) : Bool :=
  match splitScheme? text.toList with
  | some (scheme, rest) =>
      !scheme.isEmpty && scheme.all isSchemeChar && isHost (rest.takeWhile fun c => !endsHost c) &&
        (rest.dropWhile fun c => !endsHost c).all isTailChar
  | none =>
      match text.toList with
      | '/' :: rest => rest.all isTailChar
      | cs => isHost cs

/-- An address with at least the shortest path. -/
def withPath (text : String) : String :=
  let rest := ((splitScheme? text.toList).map (·.2)).getD text.toList
  if rest.any endsHost then text else text ++ "/"

end Address

/-! ## Kubeconfigs -/

structure ContextEntry where
  cluster : String
  user : Option String
deriving DecidableEq, Repr, Inhabited

/-- Where clusters are and how to reach them. Entries may lack everything but their names. -/
structure Kubeconfig where
  kind : Option String
  apiVersion : Option String
  -- Clusters with their addresses.
  clusters : List (String × Option (Option String))
  -- Users, and whether anything is known about them.
  users : List (String × Option Unit)
  contexts : List (String × Option ContextEntry)
  current : Option String
deriving DecidableEq, Repr, Inhabited

namespace Kubeconfig

def empty : Kubeconfig := ⟨none, none, [], [], [], none⟩

/-! ### Shapes -/

def extensionsShape : Shape := .list (.record [("name", .text)])

def clusterShape : Shape :=
  .loose
    [("server", .text), ("insecure-skip-tls-verify", .flag), ("certificate-authority", .text),
      ("certificate-authority-data", .text), ("proxy-url", .text), ("disable-compression", .flag),
      ("tls-server-name", .text), ("extensions", extensionsShape)]

def userShape : Shape :=
  .loose
    [("username", .text), ("password", .text), ("token", .text), ("tokenFile", .text),
      ("client-certificate", .text), ("client-certificate-data", .text), ("client-key", .text),
      ("client-key-data", .text), ("as", .text), ("as-groups", .list .text),
      ("auth-provider", .table .any), ("exec", .table .any)]

def contextShape : Shape := fun v =>
  Shape.hasKey "cluster" .text v &&
    Shape.loose [("user", .text), ("namespace", .text), ("extensions", extensionsShape)] v

def namedShape (key : String) (shape : Shape) : Shape := fun v =>
  Shape.hasKey "name" .text v && Shape.loose [(key, shape)] v

def shape : Shape :=
  .loose
    [("preferences", .loose [("colors", .flag), ("extensions", extensionsShape)]),
      ("clusters", .list (namedShape "cluster" clusterShape)),
      ("users", .list (namedShape "user" userShape)),
      ("contexts", .list (namedShape "context" contextShape)), ("current-context", .text),
      ("extensions", extensionsShape), ("kind", .text), ("apiVersion", .text)]

/-! ### Reading -/

def itemsOf (v : Value) (key : String) : List Value :=
  ((v.get? key).bind Value.asArray?).getD []

/-- What stands under a key, unless it is null. -/
def present? (v : Value) (key : String) : Option Value :=
  (v.get? key).filter fun part => !part.isNull

def named {α : Type} (v : Value) (key part : String) (read : Value → α) : List (String × Option α) :=
  (itemsOf v key).map fun item =>
    ((item.getString? "name").getD "", (present? item part).map read)

def ofValue? (v : Value) : Option Kubeconfig :=
  if shape v then
    some
      { kind := v.getString? "kind"
        apiVersion := v.getString? "apiVersion"
        clusters := named v "clusters" "cluster" fun part => part.getString? "server"
        users := named v "users" "user" fun _ => ()
        contexts := named v "contexts" "context" fun part =>
          ⟨(part.getString? "cluster").getD "", part.getString? "user"⟩
        current := v.getString? "current-context" }
  else none

/-- Whether two texts, as far as they are there, are the same. -/
def agree (a b : Option String) : Bool :=
  match a, b with
  | some a, some b => a = b
  | _, _ => true

/-- Entries followed by those of others whose names are new. -/
def extend {α : Type} (entries others : List (String × α)) : List (String × α) :=
  entries ++ others.filter fun other => !entries.any (·.1 = other.1)

/-- Two kubeconfigs put together, where the first one wins. They must be of one kind and version. -/
def merge? (first second : Kubeconfig) : Option Kubeconfig :=
  if agree first.kind second.kind && agree first.apiVersion second.apiVersion then
    some
      { kind := first.kind <|> second.kind
        apiVersion := first.apiVersion <|> second.apiVersion
        clusters := extend first.clusters second.clusters
        users := extend first.users second.users
        contexts := extend first.contexts second.contexts
        current := first.current <|> second.current }
  else none

def documents? (text : String) : Option (List Value) :=
  (Yaml.readNodes? text).bind fun nodes => (Yaml.Node.itemValues nodes).toOption

def ofText? (text : String) : Option Kubeconfig := do
  let configs ← (← documents? text).mapM ofValue?
  configs.foldlM merge? empty

def ofFile? (files : FileTree) (path : String) : Option Kubeconfig :=
  (files.readText? path).bind ofText?

/-! ### Use -/

/-- The entry under a name. Only the first one of a name counts. -/
def known? {α : Type} (name : String) (entries : List (String × Option α)) : Option α :=
  (entries.lookup name).join

def knowsUser (config : Kubeconfig) (context : ContextEntry) : Bool :=
  match context.user with
  | some user => (known? user config.users).isSome
  | none => true

/-- The address of the cluster of a context, or of the current one. -/
def server? (config : Kubeconfig) (context : Option String) : Option String := do
  let name ← context <|> config.current
  let chosen ← known? name config.contexts
  let address ← known? chosen.cluster config.clusters
  let server ← address
  if config.knowsUser chosen && Address.isValid server then some server else none

end Kubeconfig

end Readiness.Cluster
