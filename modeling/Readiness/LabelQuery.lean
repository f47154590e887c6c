import Readiness.Dict
import Readiness.Text.Split

/-!
# Label queries — required labels and their selector text

A query lists, for each required label key, the values it accepts.

* `Requirement` is one demand on a key, and `LabelQuery.ofRequirements` unites demands: those on
  one key accept the values of either;
* `LabelQuery.accepts` tests the labels of a resource;
* `LabelQuery.selector?` is the text that a server filters by, which lists keys and values in
  ascending order.
-/

namespace Readiness

/-- A set of texts as a list in strictly ascending order. -/
abbrev TextSet := List String

namespace TextSet

def insert (s : String) : TextSet → TextSet
  | [] => [s]
  | t :: rest =>
      if t = s then t :: rest
      else if s < t then s :: t :: rest
      else t :: insert s rest

def insertAll (texts : List String) (set : TextSet) : TextSet :=
  texts.foldl (fun set s => insert s set) set

def Ascending (set : TextSet) : Prop := set.Pairwise (· < ·)

end TextSet

/-- A demand that a label has one of some values. -/
structure Requirement where
  key : String
  values : List String
deriving DecidableEq, Repr, Inhabited

/-- Required label keys with the values each accepts. -/
structure LabelQuery where
  required : Dict TextSet
deriving DecidableEq, Repr, Inhabited

namespace LabelQuery

def empty : LabelQuery := ⟨[]⟩

/-- Demands that `key` has one of `values`, or one that was accepted for it before. -/
def require (query : LabelQuery) (key : String) (values : List String) : LabelQuery :=
  let accepted := (Dict.find? key query.required).getD []
  ⟨Dict.insert key (TextSet.insertAll values accepted) query.required⟩

def requireEq (query : LabelQuery) (key value : String) : LabelQuery := query.require key [value]

def ofRequirements (requirements : List Requirement) : LabelQuery :=
  requirements.foldl (fun query r => query.require r.key r.values) empty

def isEmpty (query : LabelQuery) : Bool := query.required.isEmpty

/-- Some key accepts no value, so that no labels are accepted. -/
def isUnsatisfiable (query : LabelQuery) : Bool := query.required.any (·.2.isEmpty)

/-- Every required key is among the labels, with an accepted value. -/
def accepts (query : LabelQuery) (labels : Dict String) : Bool :=
  query.required.all fun (key, accepted) =>
    match Dict.find? key labels with
    | some value => accepted.contains value
    | none => false

def renderClause (clause : String × TextSet) : String :=
  clause.1 ++ " in (" ++ Text.joined "," clause.2 ++ ")"

/-- The demands in ascending order of their keys. -/
def render (query : LabelQuery) : String :=
  Text.joined "," (query.required.map renderClause)

/-- The text that a server filters by; there is none for the query that demands nothing. -/
def selector? (query : LabelQuery) : Option String :=
  if query.isEmpty then none else some query.render

end LabelQuery

end Readiness
