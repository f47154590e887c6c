import Readiness.LabelQuery
import Readiness.Source

/-!
# Selection — one endpoint out of a listing

* `Endpoint` is the resource that a tunnel leads to;
* `choose` takes the accepted candidate with the smallest name, and the first listed of several;
* `select` asks a source for the candidates; it does not ask when the query accepts no labels.
-/

namespace Readiness

/-- The resource that a tunnel leads to. -/
structure Endpoint where
  kind : Kind
  namespaceName : String
  name : String
  labels : Dict String
deriving DecidableEq, Repr, Inhabited

namespace Endpoint

/-- A pod of which only the name is known. -/
def pod (namespaceName name : String) : Endpoint := ⟨.pod, namespaceName, name, []⟩

/-- The endpoint of a snapshot, in its own namespace or else in the one that was asked for. -/
def ofSnapshot (fallback : String) (snapshot : Snapshot) : Endpoint :=
  ⟨snapshot.kind, snapshot.namespaceName.getD fallback, snapshot.name, snapshot.labels⟩

def render (endpoint : Endpoint) : String := endpoint.namespaceName ++ "/" ++ endpoint.name

end Endpoint

/-- The first of the snapshots with the smallest name. -/
def smallestName : List Snapshot → Option Snapshot
  | [] => none
  | snapshot :: rest =>
      match smallestName rest with
      | none => some snapshot
      | some other => if other.name < snapshot.name then some other else some snapshot

def choose (query : LabelQuery) (candidates : List Snapshot) : Option Snapshot :=
  smallestName (candidates.filter fun snapshot => query.accepts snapshot.labels)

/-- The selector text in an error about a listing that had no accepted candidate. -/
def shownSelector (query : LabelQuery) : String := query.selector?.getD "<everything>"

def selectFrom (kind : Kind) (ns : String) (query : LabelQuery) (candidates : List Snapshot) :
    Except Error Endpoint :=
  match choose query candidates with
  | some snapshot => .ok (.ofSnapshot ns snapshot)
  | none => .error (.notFound kind.name ns (shownSelector query))

def selectionEvents (kind : Kind) (ns : String) (query : LabelQuery) (candidates : List Snapshot) :
    List Event :=
  match choose query candidates with
  | some snapshot =>
      [⟨.debug, .selector, "Selected endpoint",
        [("kind", .text kind.name), ("namespace", .text ns), ("selected", .text snapshot.name),
          ("candidates", .number candidates.length)]⟩]
  | none => []

/-- Picks one resource of a kind in a namespace. A query that accepts no labels fails without asking
the source, as its selector text would not be valid. -/
def select {σ : Type} (source : Source σ) (kind : Kind) (ns : String) (query : LabelQuery)
    (now : Nat) (s : σ) : Observation Endpoint × σ :=
  if query.isUnsatisfiable then (.now (.error (.notFound kind.name ns query.render)), s)
  else
    match source.list now kind ns query.selector? s with
    | (.never, s) => (.never, s)
    | (.after delay (.error error) events, s) => (.after delay (.error error) events, s)
    | (.after delay (.ok candidates) events, s) =>
        (.after delay (selectFrom kind ns query candidates)
          (events ++ selectionEvents kind ns query candidates), s)

end Readiness
