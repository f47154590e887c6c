import Readiness.Json.Value
import Readiness.Kind

/-!
# Snapshots — what was observed of a resource

* `StatusEntry` is one typed entry of a status, and `StatusEntry.read?` reads it from an object or
  from an array in the order type, status, reason;
* `Snapshot` is the observed part of a resource: its identity, its labels and its status;
* `Snapshot.entries` are the readable entries under `conditions`, and `Snapshot.hasCondition` asks
  for a type with status `True`;
* `Snapshot.field` follows a dotted path below the status;
* `Summary` is the class of observations that a message can describe in one line.
-/

namespace Readiness

open Json (Value)

/-- One entry of the list of conditions in a status. -/
structure StatusEntry where
  type : String
  status : String
  reason : Option String
deriving DecidableEq, Repr, Inhabited

namespace StatusEntry

/-- A reason is a text, or null. -/
def readReason? : Value → Option (Option String)
  | .null => some none
  | .str s => some (some s)
  | _ => none

/-- Reads an entry. An object needs the texts `type` and `status` and may have more keys; an array
lists type, status and possibly the reason. -/
def read? : Value → Option StatusEntry
  | .obj fields => do
      let type ← (Dict.find? "type" fields).bind Value.asString?
      let status ← (Dict.find? "status" fields).bind Value.asString?
      let reason ← readReason? ((Dict.find? "reason" fields).getD .null)
      some ⟨type, status, reason⟩
  | .arr [.str type, .str status] => some ⟨type, status, none⟩
  | .arr [.str type, .str status, reason] => do
      let reason ← readReason? reason
      some ⟨type, status, reason⟩
  | _ => none

def holds (entry : StatusEntry) (type : String) : Bool :=
  entry.type = type && entry.status = "True"

def render (entry : StatusEntry) : String :=
  match entry.reason with
  | some reason => entry.type ++ "=" ++ entry.status ++ " (" ++ reason ++ ")"
  | none => entry.type ++ "=" ++ entry.status

end StatusEntry

/-- What was observed of a resource at one moment. -/
structure Snapshot where
  kind : Kind
  namespaceName : Option String
  name : String
  labels : Dict String
  -- The status, null when none was written yet.
  status : Value
deriving Repr, Inhabited

namespace Snapshot

/-- The readable entries under `conditions`, in order. -/
def entries (snapshot : Snapshot) : List StatusEntry :=
  match (snapshot.status.get? "conditions").bind Value.asArray? with
  | some items => items.filterMap StatusEntry.read?
  | none => []

def hasCondition (snapshot : Snapshot) (type : String) : Bool :=
  snapshot.entries.any (·.holds type)

/-- The value at the end of a dotted path below the status; empty segments count for nothing. -/
def field (snapshot : Snapshot) (path : String) : Option Value :=
  snapshot.status.lookup (Text.segments '.' path)

def target (snapshot : Snapshot) : Target := ⟨snapshot.kind, snapshot.namespaceName, snapshot.name⟩

def summary (snapshot : Snapshot) : String :=
  match snapshot.entries with
  | [] => snapshot.target.render ++ " (no conditions)"
  | entries =>
      snapshot.target.render ++ " conditions=[" ++
        Text.joined ", " (entries.map StatusEntry.render) ++ "]"

end Snapshot

/-- Observations that a message describes in one line. -/
class Summary (α : Type) where
  summary : α → String

instance : Summary Snapshot := ⟨Snapshot.summary⟩

instance : Summary (Option Snapshot) where
  summary
    | some snapshot => snapshot.summary
    | none => "absent"

instance : Summary (List Snapshot) where
  summary listing :=
    toString listing.length ++ " resources [" ++
      Text.joined ", " (listing.map (·.name)) ++ "]"

end Readiness
