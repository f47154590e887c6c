import Readiness.Binary64
import Readiness.Dict

/-!
# Values — trees of plain data

Status trees, manifests and settings are values: null, truth values, numbers, texts, arrays and
objects. An object is a dictionary, so its keys are in ascending order and each occurs once.

* `Value.get?` looks a key up in an object and finds nothing in any other value;
* `Value.lookup` follows a path of keys;
* the `as…?` functions view a value as one of the kinds;
* `get?_eq_some_iff` and `asString?_eq_some_iff` say which values have a key, and which are a text.
-/

namespace Readiness.Json

/-- An integer or a double. -/
inductive Number where
  | int (i : Int)
  | float (x : Binary64)
deriving DecidableEq, Repr, Inhabited

/-- Whether an integer fits 64 bits with a sign. -/
def Number.isSigned (i : Int) : Bool := -0x8000000000000000 ≤ i && i < 0x8000000000000000

inductive Value where
  | null
  | bool (b : Bool)
  | num (n : Number)
  | str (s : String)
  | arr (items : List Value)
  | obj (entries : List (String × Value))
deriving Repr, Inhabited, BEq

namespace Value

/-- The value under a key of an object; no other value holds keys. -/
def get? (v : Value) (key : String) : Option Value :=
  match v with
  | .obj entries => Dict.find? key entries
  | _ => none

/-- The value at the end of a path of keys. -/
def lookup (v : Value) : List String → Option Value
  | [] => some v
  | key :: rest => (v.get? key).bind fun w => w.lookup rest

def asString? : Value → Option String
  | .str s => some s
  | _ => none

def asArray? : Value → Option (List Value)
  | .arr items => some items
  | _ => none

def asObject? : Value → Option (Dict Value)
  | .obj entries => some entries
  | _ => none

def asNat? : Value → Option Nat
  | .num (.int i) => if 0 ≤ i then some i.toNat else none
  | _ => none

def asBool? : Value → Option Bool
  | .bool b => some b
  | _ => none

def isNull : Value → Bool
  | .null => true
  | _ => false

def getString? (v : Value) (key : String) : Option String := (v.get? key).bind asString?

theorem get?_eq_some_iff {v found : Value} {key : String} : v.get? key = some found ↔
    ∃ fields, v = .obj fields ∧ Dict.find? key fields = some found := by
  cases v <;> simp [get?]

theorem asString?_eq_some_iff {v : Value} {text : String} :
    v.asString? = some text ↔ v = .str text := by
  cases v <;> simp [asString?]

theorem bind_asString?_eq_some_iff {found : Option Value} {text : String} :
    found.bind asString? = some text ↔ found = some (.str text) := by
  cases found with
  | none => simp
  | some v => simp [asString?_eq_some_iff]

@[simp] theorem lookup_nil (v : Value) : v.lookup [] = some v := by
  cases v <;> rfl

theorem lookup_cons (v : Value) (key : String) (path : List String) :
    v.lookup (key :: path) = (v.get? key).bind fun w => w.lookup path := by
  cases v <;> rfl

theorem lookup_append (v : Value) (p q : List String) :
    v.lookup (p ++ q) = (v.lookup p).bind fun w => w.lookup q := by
  induction p generalizing v with
  | nil => simp
  | cons key rest ih =>
      simp only [List.cons_append, lookup_cons]
      cases v.get? key with
      | none => rfl
      | some w => simpa using ih w

end Value

end Readiness.Json
