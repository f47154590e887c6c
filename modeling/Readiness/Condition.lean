import Readiness.Snapshot
import Readiness.Text.Quoted

/-!
# Conditions — described predicates over observations

A condition is a description for messages together with a predicate.

* `Condition.and`, `or`, `negate` combine conditions over one kind of observation;
* `Condition.whenPresent` lifts a condition to resources that may be absent, and an absent one
  satisfies no lifted condition;
* `resourcesFound`, `statusTrue` and `fieldSet` are the conditions that named waits use.
-/

namespace Readiness

open Json (Value)

/-- A predicate with a description for messages. -/
structure Condition (α : Type) where
  description : String
  holds : α → Bool
deriving Inhabited

namespace Condition

variable {α : Type}

def and (a b : Condition α) : Condition α :=
  ⟨a.description ++ " and " ++ b.description, fun x => a.holds x && b.holds x⟩

def or (a b : Condition α) : Condition α :=
  ⟨a.description ++ " or " ++ b.description, fun x => a.holds x || b.holds x⟩

def negate (a : Condition α) : Condition α :=
  ⟨"not (" ++ a.description ++ ")", fun x => !a.holds x⟩

/-- The resource is present and the condition holds of it. -/
def whenPresent (a : Condition α) : Condition (Option α) :=
  ⟨a.description, fun x => x.any a.holds⟩

def described (a : Condition α) (description : String) : Condition α := ⟨description, a.holds⟩

/-- The form shown for diagnosis, which leaves the predicate out. -/
def shown (a : Condition α) : String :=
  "Condition \x7b description: " ++ Text.quoted a.description ++ ", .. \x7d"

/-! ## Conditions of named waits -/

def available : String := "Available"

def ready : String := "Ready"

/-- Every name occurs in the listing. -/
def resourcesFound (names : List String) : Condition (List Snapshot) :=
  ⟨"resources [" ++ Text.joined ", " names ++ "] to exist",
    fun listing => names.all fun name => listing.any fun snapshot => snapshot.name = name⟩

/-- The status has an entry of this type with status `True`. -/
def statusTrue (type : String) : Condition Snapshot :=
  ⟨"condition " ++ type ++ "=True", fun snapshot => snapshot.hasCondition type⟩

def isSetText : Option Value → Bool
  | some (.str s) => s != ""
  | _ => false

/-- The dotted path below the status leads to a text that is not empty. -/
def fieldSet (path : String) : Condition Snapshot :=
  ⟨"status." ++ path ++ " to be set", fun snapshot => isSetText (snapshot.field path)⟩

end Condition

end Readiness
