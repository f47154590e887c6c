import Readiness.Json.Value
import Readiness.Shortest
import Readiness.Text.Split

/-!
# Writing — values as text

A value is written without blanks, an object in the order of its keys.

* `Value.render` is the text of a value;
* `renderText` puts a text between quotes, where only quotes, backslashes and controls are escaped;
* `renderDouble` writes the shortest decimal, with a point or an exponent in it.
-/

namespace Readiness.Json

def escapeChar (c : Char) : List Char :=
  if c = '"' then ['\\', '"']
  else if c = '\\' then ['\\', '\\']
  else if c = '\n' then ['\\', 'n']
  else if c = '\r' then ['\\', 'r']
  else if c = '\t' then ['\\', 't']
  else if c.toNat = 8 then ['\\', 'b']
  else if c.toNat = 12 then ['\\', 'f']
  else if c.toNat < 32 then
    let digits := Nat.toDigits 16 c.toNat
    ['\\', 'u'] ++ List.replicate (4 - digits.length) '0' ++ digits
  else [c]

def renderText (s : String) : String :=
  String.ofList (['"'] ++ s.toList.flatMap escapeChar ++ ['"'])

/-- The greatest number of digits in front of the point of a number without an exponent. -/
def pointLimit : Int := 16

/-- The greatest number of zeros behind the point of a number without an exponent. -/
def zeroLimit : Int := 4

def placePoint (digits : List Char) (exponent : Int) : List Char :=
  let point : Int := digits.length + exponent
  if 0 ≤ exponent && point ≤ pointLimit then
    digits ++ List.replicate exponent.toNat '0' ++ ['.', '0']
  else if 0 < point && point ≤ pointLimit then
    digits.take point.toNat ++ ['.'] ++ digits.drop point.toNat
  else if -zeroLimit ≤ point && point ≤ 0 then
    ['0', '.'] ++ List.replicate (-point).toNat '0' ++ digits
  else
    let tail := if digits.length = 1 then [] else '.' :: digits.drop 1
    digits.take 1 ++ tail ++ ['e'] ++ (toString (point - 1)).toList

/-- The shortest decimal of a finite double. -/
def renderDouble (x : Binary64) : String :=
  let (digits, exponent) := x.shortest
  String.ofList
    ((if x.isNegative then ['-'] else []) ++ placePoint (Nat.toDigits 10 digits) exponent)

def Number.render : Number → String
  | .int i => toString i
  | .float x => renderDouble x

namespace Value

mutual

def render : Value → String
  | .null => "null"
  | .bool true => "true"
  | .bool false => "false"
  | .num n => n.render
  | .str s => renderText s
  | .arr items => "[" ++ Text.joined "," (renderItems items) ++ "]"
  | .obj entries => "\x7b" ++ Text.joined "," (renderEntries entries) ++ "\x7d"

def renderItems : List Value → List String
  | [] => []
  | item :: rest => item.render :: renderItems rest

def renderEntries : List (String × Value) → List String
  | [] => []
  | (key, v) :: rest => (renderText key ++ ":" ++ v.render) :: renderEntries rest

end

end Value

end Readiness.Json
