import Mathlib.Data.List.Basic
import Readiness.Json.Value
import Readiness.Proofs.Dict.Lookup

/-!
# Positions — the values inside a value

* `Json.Step` leads to the value under a key of an object or at a place of an array, and
  `Value.at?` follows a path of such steps;
* `Value.lookup_eq_at?`: a path of keys is one of these paths;
* `Value.at?_insert_self` and `Value.at?_insert_of_away` say what a path meets in an object after an
  insertion: below the key it meets the new value, and away from it nothing has changed;
* `Value.Leads` is the way along a path of keys, through objects only, and `Value.lookup_eq_some_iff`:
  a lookup goes this way;
* `Value.HoldsEach`: every key stands in the object that the keys before it lead to, and
  `Value.exists_leads_iff`: this is when a path leads anywhere.
-/

namespace Readiness.Json

/-- A step from a value to one inside it. -/
inductive Step where
  | key (name : String)
  | place (index : Nat)
deriving DecidableEq, Repr

namespace Value

/-- The value that a step leads to. -/
def child? (v : Value) : Step → Option Value
  | .key name => v.get? name
  | .place index => v.asArray?.bind fun items => items[index]?

/-- The value at the end of a path. -/
def at? (v : Value) : List Step → Option Value
  | [] => some v
  | step :: rest => (v.child? step).bind fun w => w.at? rest

variable {entries : List (String × Value)} {key : String} {path : List Step} {new : Value}

@[simp] theorem at?_nil (v : Value) : v.at? [] = some v := by
  cases v <;> rfl

theorem at?_cons (v : Value) (step : Step) (path : List Step) :
    v.at? (step :: path) = (v.child? step).bind fun w => w.at? path := by
  cases v <;> rfl

theorem lookup_eq_at? (v : Value) (keys : List String) :
    v.lookup keys = v.at? (keys.map Step.key) := by
  induction keys generalizing v with
  | nil => simp
  | cons key rest ih =>
      calc
        v.lookup (key :: rest) = (v.get? key).bind fun w => w.lookup rest := lookup_cons v key rest
        _ = (v.get? key).bind fun w => w.at? (rest.map Step.key) := by simp only [ih]
        _ = v.at? ((key :: rest).map Step.key) := (at?_cons v (.key key) (rest.map Step.key)).symm

/-- Under an inserted key a path goes on in the new value. -/
theorem at?_insert_self :
    (obj (Dict.insert key new entries)).at? (.key key :: path) = new.at? path := by
  simp [at?_cons, child?, get?, Dict.find?_insert_self]

/-- A path to something inside an object, which does not begin with the inserted key, meets what it
met before. -/
theorem at?_insert_of_away (inside : path ≠ []) (away : ¬ [Step.key key] <+: path) :
    (obj (Dict.insert key new entries)).at? path = (obj entries).at? path := by
  cases path with
  | nil => exact absurd rfl inside
  | cons step rest =>
      have same : (obj (Dict.insert key new entries)).child? step = (obj entries).child? step := by
        cases step with
        | place index => rfl
        | key name =>
            have hne : name ≠ key := by
              rintro rfl
              exact away ⟨rest, rfl⟩
            exact Dict.find?_insert_of_ne hne new entries
      rw [at?_cons, at?_cons, same]

/-! ## The way along the keys -/

/-- Key after key the path leads from a value to one inside it. Each key stands in the object that the
keys before it have led to. -/
inductive Leads : Value → List String → Value → Prop
  | here (value : Value) : Leads value [] value
  | enter {fields : Dict Value} {key : String} {next found : Value} {keys : List String}
      (holds : Dict.find? key fields = some next) (onward : Leads next keys found) :
      Leads (.obj fields) (key :: keys) found

/-- At each key the keys before it lead to an object that holds it. -/
def HoldsEach (value : Value) (keys : List String) : Prop :=
  ∀ before key after, keys = before ++ key :: after →
    ∃ fields, Leads value before (.obj fields) ∧ key ∈ Dict.keys fields

variable {value found : Value} {keys : List String}

theorem leads_of_lookup (h : value.lookup keys = some found) : Leads value keys found := by
  induction keys generalizing value with
  | nil =>
      have same : value = found := by simpa using h
      exact same ▸ .here value
  | cons key rest ih =>
      rw [lookup_cons] at h
      rcases Option.bind_eq_some_iff.1 h with ⟨next, entered, onward⟩
      rcases get?_eq_some_iff.1 entered with ⟨fields, rfl, holds⟩
      exact .enter holds (ih onward)

theorem Leads.lookup (h : Leads value keys found) : value.lookup keys = some found := by
  induction h with
  | here value => exact lookup_nil value
  | @enter fields key next found keys holds onward ih =>
      calc
        (obj fields).lookup (key :: keys) = (Dict.find? key fields).bind fun w => w.lookup keys :=
          lookup_cons (.obj fields) key keys
        _ = some found := by simp [holds, ih]

/-- A lookup goes the way of its keys. -/
theorem lookup_eq_some_iff : value.lookup keys = some found ↔ Leads value keys found :=
  ⟨leads_of_lookup, Leads.lookup⟩

theorem Leads.holdsEach (h : Leads value keys found) : HoldsEach value keys := by
  rintro before key after rfl
  have passed : (value.lookup before).bind (fun met => met.lookup (key :: after)) = some found := by
    simpa [lookup_append] using h.lookup
  rcases Option.bind_eq_some_iff.1 passed with ⟨met, reached, onward⟩
  rw [lookup_cons] at onward
  rcases Option.bind_eq_some_iff.1 onward with ⟨next, entered, -⟩
  rcases get?_eq_some_iff.1 entered with ⟨fields, rfl, holds⟩
  exact ⟨fields, leads_of_lookup reached, Dict.mem_keys_iff.2 ⟨next, holds⟩⟩

/-- Behind the first key the other keys are held one after the other, too. -/
theorem HoldsEach.tail {fields : Dict Value} {next : Value} (h : HoldsEach (.obj fields) (key :: keys))
    (holds : Dict.find? key fields = some next) : HoldsEach next keys := by
  intro before other after split
  rcases h (key :: before) other after (by simp [split]) with ⟨inner, reached, mem⟩
  cases reached with
  | enter entered onward =>
      cases holds.symm.trans entered
      exact ⟨inner, onward, mem⟩

theorem HoldsEach.exists_leads (h : HoldsEach value keys) : ∃ found, Leads value keys found := by
  induction keys generalizing value with
  | nil => exact ⟨value, .here value⟩
  | cons key rest ih =>
      rcases h [] key rest rfl with ⟨fields, reached, mem⟩
      cases reached
      rcases Dict.mem_keys_iff.1 mem with ⟨next, holds⟩
      rcases ih (h.tail holds) with ⟨found, onward⟩
      exact ⟨found, .enter holds onward⟩

/-- A path leads somewhere exactly when each of its keys is held. -/
theorem exists_leads_iff : (∃ found, Leads value keys found) ↔ HoldsEach value keys :=
  ⟨fun ⟨_, leads⟩ => leads.holdsEach, HoldsEach.exists_leads⟩

/-- Nothing lies below a value that is no object. -/
theorem lookup_of_not_obj (differs : ∀ fields, value ≠ .obj fields) (below : keys ≠ []) :
    value.lookup keys = none := by
  cases keys with
  | nil => exact absurd rfl below
  | cons key rest =>
      rw [lookup_cons]
      cases value with
      | obj fields => exact absurd rfl (differs fields)
      | _ => rfl

end Value

end Readiness.Json
