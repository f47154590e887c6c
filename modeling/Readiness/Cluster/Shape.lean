import Readiness.Json.Value

/-!
# Shapes — which data a reader accepts

A shape accepts or refuses a value. Readers of data from a server or a file know the shapes of the
keys that they use, and skip all other keys.

* `Shape.text`, `flag`, `whole` and `instant` are the shapes of single values;
* `Shape.optional`, `list` and `table` build shapes of null, arrays and objects with free keys;
* `Shape.record` is an object whose known keys have shapes of their own.
-/

namespace Readiness.Cluster

open Json (Value)

/-- What a reader accepts. -/
abbrev Shape := Value → Bool

namespace Shape

def any : Shape := fun _ => true

def text : Shape
  | .str _ => true
  | _ => false

def flag : Shape
  | .bool _ => true
  | _ => false

/-- An integer of 64 bits with a sign. -/
def whole : Shape
  | .num (.int i) => Json.Number.isSigned i
  | _ => false

/-! ## Instants -/

def areDigits (cs : List Char) : Bool := cs.all Char.isDigit

def digitsValue (cs : List Char) : Nat :=
  cs.foldl (fun n c => n * 10 + (c.toNat - '0'.toNat)) 0

def daysIn (year month : Nat) : Nat :=
  if month = 2 then
    if year % 4 = 0 && (year % 100 != 0 || year % 400 = 0) then 29 else 28
  else if month = 4 || month = 6 || month = 9 || month = 11 then 30
  else 31

/-- A day: year, month and day with hyphens between them. -/
def isDay : List Char → Bool
  | [a, b, c, d, '-', e, f, '-', g, h] =>
      let year := digitsValue [a, b, c, d]
      let month := digitsValue [e, f]
      let day := digitsValue [g, h]
      areDigits [a, b, c, d, e, f, g, h] && 1 ≤ month && month ≤ 12 && 1 ≤ day &&
        day ≤ daysIn year month
  | _ => false

/-- A time of day: hour, minute and second, where a leap second counts as the 60th one. -/
def isTime : List Char → Bool
  | [a, b, ':', c, d, ':', e, f] =>
      areDigits [a, b, c, d, e, f] && digitsValue [a, b] < 24 && digitsValue [c, d] < 60 &&
        digitsValue [e, f] ≤ 60
  | _ => false

def isOffset : List Char → Bool
  | ['Z'] | ['z'] => true
  | [sign, a, b, ':', c, d] =>
      (sign = '+' || sign = '-') && areDigits [a, b, c, d] && digitsValue [a, b] < 24 &&
        digitsValue [c, d] < 60
  | _ => false

/-- What follows a fraction of a second; a point without digits behind it is kept. -/
def dropFraction : List Char → List Char
  | '.' :: c :: rest => if c.isDigit then rest.dropWhile Char.isDigit else '.' :: c :: rest
  | cs => cs

def isInstant (cs : List Char) : Bool :=
  match cs.drop 10 with
  | separator :: rest =>
      (separator = 'T' || separator = 't' || separator = ' ') && isDay (cs.take 10) &&
        isTime (rest.take 8) && isOffset (dropFraction (rest.drop 8))
  | [] => false

def instant : Shape
  | .str s => isInstant s.toList
  | _ => false

/-! ## Parts -/

def optional (shape : Shape) : Shape := fun v => v.isNull || shape v

def list (shape : Shape) : Shape
  | .arr items => items.all shape
  | _ => false

/-- An object with free keys whose values have a shape. -/
def table (shape : Shape) : Shape
  | .obj entries => entries.all fun entry => shape entry.2
  | _ => false

/-- An object in which the known keys, as far as they are there, have their shapes. -/
def record (fields : List (String × Shape)) : Shape
  | .obj entries =>
      fields.all fun (key, shape) =>
        match Dict.find? key entries with
        | some v => shape v
        | none => true
  | _ => false

/-- An object in which every known key may be null. -/
def loose (fields : List (String × Shape)) : Shape :=
  record (fields.map fun (key, shape) => (key, optional shape))

/-- An object with a key whose value has a shape. -/
def hasKey (key : String) (shape : Shape) : Shape := fun v => (v.get? key).any shape

end Shape

end Readiness.Cluster
