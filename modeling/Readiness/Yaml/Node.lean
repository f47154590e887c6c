import Readiness.Binary64
import Readiness.Json.Value
import Readiness.Text.Quoted
import Readiness.Text.Split
import Readiness.Yaml.Tag

/-!
# Nodes — the trees of YAML documents

* `Node` is a tree: a scalar of one of five kinds, a sequence, a mapping, an alias without a node, or
  a scalar that contradicts its tag;
* `Node.same` compares trees, and decides whether they are equal;
* `Node.ofPlain` decides the kind of a scalar without quotes, and `Node.ofTagged` that of one with
  a tag;
* `Node.readFloat?` reads the text of a real number.
-/

namespace Readiness.Yaml

/-- A tree of a document. -/
inductive Node where
  | null
  | bool (b : Bool)
  | int (i : Int)
  -- A real number by its text.
  | real (text : String)
  | str (s : String)
  | seq (items : List Node)
  | map (entries : List (Node × Node))
  -- An alias for which no node is known.
  | reference (id : Nat)
  -- A scalar that contradicts its tag.
  | bad
deriving Repr, Inhabited

namespace Node

/-! ## Equality -/

mutual

/-- Whether two trees are the same: of one kind, with the same texts and the same parts in order. -/
def same : Node → Node → Bool
  | null, null => true
  | bool a, bool b => a = b
  | int a, int b => a = b
  | real a, real b => a = b
  | str a, str b => a = b
  | seq items, seq items' => sameItems items items'
  | map entries, map entries' => sameEntries entries entries'
  | reference id, reference id' => id = id'
  | bad, bad => true
  | _, _ => false

def sameItems : List Node → List Node → Bool
  | [], [] => true
  | item :: rest, item' :: rest' => same item item' && sameItems rest rest'
  | _, _ => false

def sameEntries : List (Node × Node) → List (Node × Node) → Bool
  | [], [] => true
  | (key, value) :: rest, (key', value') :: rest' =>
      same key key' && same value value' && sameEntries rest rest'
  | _, _ => false

end

mutual

theorem same_iff (node other : Node) : same node other = true ↔ node = other := by
  cases node with
  | seq items => cases other <;> simp [same, sameItems_iff items]
  | map entries => cases other <;> simp [same, sameEntries_iff entries]
  | _ => cases other <;> simp [same]

theorem sameItems_iff (items others : List Node) :
    sameItems items others = true ↔ items = others := by
  cases items with
  | nil => cases others <;> simp [sameItems]
  | cons item rest => cases others <;> simp [sameItems, same_iff item, sameItems_iff rest]

theorem sameEntries_iff (entries others : List (Node × Node)) :
    sameEntries entries others = true ↔ entries = others := by
  cases entries with
  | nil => cases others <;> simp [sameEntries]
  | cons entry rest =>
      obtain ⟨key, value⟩ := entry
      cases others <;>
        simp [sameEntries, Prod.ext_iff, same_iff key, same_iff value, sameEntries_iff rest]

end

instance : DecidableEq Node := fun node other => decidable_of_iff _ (same_iff node other)

/-! ## Integers -/

/-- The value of a digit in a base up to ten or in base sixteen. -/
def digit? (base : Nat) (c : Char) : Option Nat :=
  match Json.hexValue? c with
  | some n => if n < base then some n else none
  | none => none

def natOf? (base : Nat) (digits : List Char) : Option Nat :=
  if digits.isEmpty then none
  else digits.foldl (fun acc c => do
    let n ← acc
    let d ← digit? base c
    some (n * base + d)) (some 0)

def intOf? (base : Nat) (text : List Char) : Option Int := do
  let i : Int ←
    match text with
    | '-' :: digits => (natOf? base digits).map fun n => -(n : Int)
    | '+' :: digits => (natOf? base digits).map fun n => (n : Int)
    | digits => (natOf? base digits).map fun n => (n : Int)
  if Json.Number.isSigned i then some i else none

/-- An integer in base sixteen, eight or ten; a plus sign may stand in front of a signed integer. -/
def readInt? (text : List Char) : Option Int :=
  let prefixed :=
    match text with
    | '0' :: 'x' :: digits => intOf? 16 digits
    | '0' :: 'o' :: digits => intOf? 8 digits
    | '+' :: rest => intOf? 10 rest
    | _ => none
  prefixed <|> intOf? 10 text

/-! ## Real numbers -/

/-- The decimal exponent behind its letter; nothing when the text is no exponent. -/
def exponentOf? : List Char → Option Int
  | [] => some 0
  | c :: rest =>
      if c = 'e' || c = 'E' then
        match rest with
        | '-' :: digits => (natOf? 10 digits).map fun n => -(n : Int)
        | '+' :: digits => (natOf? 10 digits).map fun n => (n : Int)
        | digits => (natOf? 10 digits).map fun n => (n : Int)
      else none

/-- An unsigned decimal number: digits with an optional point among them, and an optional exponent. -/
def decimalOf? (negative : Bool) (text : List Char) : Option Binary64 :=
  let whole := text.takeWhile Char.isDigit
  let behind := text.dropWhile Char.isDigit
  let (fraction, behind) :=
    match behind with
    | '.' :: rest => (rest.takeWhile Char.isDigit, rest.dropWhile Char.isDigit)
    | rest => ([], rest)
  do
    let digits ← natOf? 10 (whole ++ fraction)
    let exponent ← exponentOf? behind
    some (Binary64.ofDecimal negative digits (exponent - fraction.length))

/-- An unsigned real number: a decimal number, an infinity or not a number. -/
def unsignedOf? (negative : Bool) (text : List Char) : Option Binary64 :=
  let word := String.ofList (text.map Char.toLower)
  if word = "inf" || word = "infinity" then some (.infinity negative)
  else if word = "nan" then some .nan
  else decimalOf? negative text

def readFloat? (text : String) : Option Binary64 :=
  match text.toList with
  | '-' :: rest => unsignedOf? true rest
  | '+' :: rest => unsignedOf? false rest
  | rest => unsignedOf? false rest

/-- The written forms of infinities and of no number that start with a point. -/
def pointForms : List String :=
  [".inf", ".Inf", ".INF", "+.inf", "+.Inf", "+.INF", "-.inf", "-.Inf", "-.INF", ".nan", ".NaN",
    ".NAN"]

def isReal (text : String) : Bool := pointForms.contains text || (readFloat? text).isSome

/-! ## Scalars -/

/-- The node of a scalar without quotes and without a tag. -/
def ofPlain (text : String) : Node :=
  match readInt? text.toList with
  | some i => .int i
  | none =>
      if text = "~" || text = "null" then .null
      else if text = "true" then .bool true
      else if text = "false" then .bool false
      else if isReal text then .real text
      else .str text

/-- The handle of the tags of the core schema. -/
def coreHandle : String := "tag:yaml.org,2002:"

/-- The node of a scalar without quotes under a tag. A tag of the core schema asks for its kind, and
every other one for a text. -/
def ofTagged (tag : Tag) (text : String) : Node :=
  if tag.handle = coreHandle then
    match tag.suffix with
    | "bool" =>
        if text = "true" then .bool true else if text = "false" then .bool false else .bad
    | "int" => match intOf? 10 text.toList with
        | some i => .int i
        | none => .bad
    | "float" => if isReal text then .real text else .bad
    | "null" => if text = "~" || text = "null" then .null else .bad
    | _ => .str text
  else .str text

def isBad : Node → Bool
  | bad => true
  | _ => false

/-! ## The form shown for diagnosis -/

mutual

def shown : Node → String
  | null => "Null"
  | bool b => "Boolean(" ++ (if b then "true" else "false") ++ ")"
  | int i => "Integer(" ++ toString i ++ ")"
  | real text => "Real(" ++ Text.quoted text ++ ")"
  | str s => "String(" ++ Text.quoted s ++ ")"
  | seq items => "Array([" ++ Text.joined ", " (shownItems items) ++ "])"
  | map entries => "Hash(\x7b" ++ Text.joined ", " (shownEntries entries) ++ "\x7d)"
  | reference id => "Alias(" ++ toString id ++ ")"
  | bad => "BadValue"

def shownItems : List Node → List String
  | [] => []
  | item :: rest => shown item :: shownItems rest

def shownEntries : List (Node × Node) → List String
  | [] => []
  | (key, value) :: rest => (shown key ++ ": " ++ shown value) :: shownEntries rest

end

end Node

end Readiness.Yaml
