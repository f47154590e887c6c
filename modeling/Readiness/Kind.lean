import Readiness.Text.Lowercase
import Readiness.Text.Split

/-!
# Kinds — types of resources and references to single resources

* `Kind` names a type of resource by its API version, its name and its plural;
* `Kind.pluralOf` derives the plural from the name by the rules of English spelling and a table of
  exceptions;
* `Target` refers to one resource.
-/

namespace Readiness

structure Kind where
  -- The API version with its group, such as `apps/v1`.
  apiVersion : String
  -- The name of the type, such as `Deployment`.
  name : String
  -- The lower-case plural that stands in request paths.
  plural : String
deriving DecidableEq, Repr, Inhabited

namespace Kind

/-- Plurals that do not follow the rules of spelling. -/
def irregularPlurals : List (String × String) :=
  [("endpoints", "endpoints"), ("podmetrics", "pods"), ("nodemetrics", "nodes")]

/-- Endings after which a plural takes `es`. -/
def hissing : List String := ["s", "ch", "sh", "x"]

def endsIn (ending name : String) : Bool := ending.toList.isSuffixOf name.toList

/-- The plural of a lower-case name that is not in the table. -/
def regularPlural (name : String) : String :=
  if hissing.any (endsIn · name) then name ++ "es"
  else if endsIn "y" name && !endsIn "ay" name && !endsIn "ey" name then
    String.ofList name.toList.dropLast ++ "ies"
  else name ++ "s"

/-- The lower-case plural of a type's name. -/
def pluralOf (name : String) : String :=
  let lower := Text.lowercase name
  match irregularPlurals.lookup lower with
  | some plural => plural
  | none => regularPlural lower

def ofName (apiVersion name : String) : Kind := ⟨apiVersion, name, pluralOf name⟩

def deployment : Kind := ofName "apps/v1" "Deployment"

def pod : Kind := ofName "v1" "Pod"

def secret : Kind := ofName "v1" "Secret"

/-- The group in front of the first slash of the API version, empty for the core group. -/
def group (kind : Kind) : String :=
  match Text.splitFirst? '/' kind.apiVersion with
  | some (group, _) => group
  | none => ""

def version (kind : Kind) : String :=
  match Text.splitFirst? '/' kind.apiVersion with
  | some (_, version) => version
  | none => kind.apiVersion

end Kind

structure Target where
  kind : Kind
  -- Absent for a resource that belongs to the whole cluster.
  namespaceName : Option String
  name : String
deriving DecidableEq, Repr, Inhabited

namespace Target

/-- The written form: the kind's name, then the namespace and the name. -/
def render (target : Target) : String :=
  match target.namespaceName with
  | some ns => target.kind.name ++ " " ++ ns ++ "/" ++ target.name
  | none => target.kind.name ++ " " ++ target.name

end Target

end Readiness
