import Readiness.Json.Value

/-!
# Reader — values from their JSON text

`Json.read?` reads a whole text as one value and finds nothing when the text is malformed:

* blanks are the space, the tab and the two line breaks; nothing but blanks may follow the value;
* a text holds no bare control character, and its escaped surrogates come in pairs;
* the last entry of a key wins;
* arrays and objects nest at most 127 deep;
* an integer outside the 64-bit range, and the integer `-0`, is a double;
* a double is the leading digits that fit 64 bits, scaled by a power of ten in one rounded step;
  one too large to be finite is malformed.
-/

namespace Readiness.Json

def isBlank (c : Char) : Bool := c = ' ' || c = '\t' || c = '\n' || c = '\r'

def skipBlanks (cs : List Char) : List Char := cs.dropWhile isBlank

def digitValue (c : Char) : Nat := c.toNat - '0'.toNat

def hexValue? (c : Char) : Option Nat :=
  if '0' ≤ c && c ≤ '9' then some (c.toNat - '0'.toNat)
  else if 'a' ≤ c && c ≤ 'f' then some (c.toNat - 'a'.toNat + 10)
  else if 'A' ≤ c && c ≤ 'F' then some (c.toNat - 'A'.toNat + 10)
  else none

/-! ## Numbers -/

def significandLimit : Nat := 0xFFFFFFFFFFFFFFFF

/-- Reads digits into a significand until one more would exceed the limit. Gives the significand,
the count of digits read, and what follows; digits beyond the limit stand at its head. -/
def readSignificand (significand count : Nat) : List Char → Nat × Nat × List Char
  | [] => (significand, count, [])
  | c :: rest =>
      if c.isDigit then
        let next := significand * 10 + digitValue c
        if next ≤ significandLimit then readSignificand next (count + 1) rest
        else (significand, count, c :: rest)
      else (significand, count, c :: rest)

/-- Scales a significand by a power of ten with double arithmetic. Powers below `-308` are divided
out in steps of `308`; a number above the greatest double has no value. -/
def scaleByTen (fuel : Nat) (x : Binary64) (exponent : Int) : Option Binary64 :=
  match fuel with
  | 0 => some x
  | fuel + 1 =>
      if exponent.natAbs ≤ 308 then
        let power := Binary64.ofDecimal false 1 exponent.natAbs
        if 0 ≤ exponent then
          let product := x.mul power
          if product.isFinite then some product else none
        else some (x.div power)
      else if x.isZero then some x
      else if 0 ≤ exponent then none
      else scaleByTen fuel (x.div (Binary64.ofDecimal false 1 308)) (exponent + 308)

/-- The double of a significand and a power of ten. Four steps of `308` reach zero from any
significand, so eight are enough. -/
def decimalDouble (negative : Bool) (significand : Nat) (exponent : Int) : Option Number :=
  (scaleByTen 8 (Binary64.ofNat significand) exponent).map fun x =>
    .float (if negative then x.neg else x)

/-- The limit of an exponent; a longer one is infinite or zero. -/
def exponentLimit : Nat := 0x7FFFFFFF

def readExponent (negative : Bool) (significand : Nat) (start : Int) (cs : List Char) :
    Option (Number × List Char) :=
  let (down, cs) := match cs with
    | '+' :: rest => (false, rest)
    | '-' :: rest => (true, rest)
    | _ => (false, cs)
  let digits := cs.takeWhile Char.isDigit
  let rest := cs.dropWhile Char.isDigit
  if digits.isEmpty then none
  else
    let size := digits.foldl (fun n c => n * 10 + digitValue c) 0
    if size > exponentLimit then
      if significand ≠ 0 && !down then none
      else some (.float (Binary64.withSign negative 0), rest)
    else
      let exponent : Int := if down then start - size else start + size
      (decimalDouble negative significand exponent).map fun n => (n, rest)

def readScale (negative : Bool) (significand : Nat) (exponent : Int) (cs : List Char) :
    Option (Number × List Char) :=
  match cs with
  | c :: rest =>
      if c = 'e' || c = 'E' then readExponent negative significand exponent rest
      else (decimalDouble negative significand exponent).map fun n => (n, cs)
  | [] => (decimalDouble negative significand exponent).map fun n => (n, [])

/-- The number after its point, which at least one digit follows. -/
def readFraction (negative : Bool) (significand : Nat) (start : Int) (cs : List Char) :
    Option (Number × List Char) :=
  let (significand, count, rest) := readSignificand significand 0 cs
  match rest with
  | c :: _ =>
      if c.isDigit then
        readScale negative significand (start - count) (rest.dropWhile Char.isDigit)
      else if count = 0 then none
      else readScale negative significand (start - count) rest
  | [] => if count = 0 then none else readScale negative significand (start - count) rest

/-- An integer whose digits fit: itself within the signed and unsigned 64-bit range, else a
double. -/
def wholeNumber (negative : Bool) (significand : Nat) : Number :=
  if negative then
    if significand = 0 || significand > 0x8000000000000000 then .float (Binary64.ofNat significand).neg
    else .int (-(significand : Int))
  else .int significand

def readDigits (negative : Bool) (cs : List Char) : Option (Number × List Char) :=
  match cs with
  | '0' :: '.' :: rest => readFraction negative 0 0 rest
  | '0' :: rest =>
      match rest with
      | c :: after =>
          if c.isDigit then none
          else if c = 'e' || c = 'E' then readExponent negative 0 0 after
          else some (wholeNumber negative 0, rest)
      | [] => some (wholeNumber negative 0, [])
  | _ =>
      let (significand, count, rest) := readSignificand 0 0 cs
      if count = 0 then none
      else
        let dropped := (rest.takeWhile Char.isDigit).length
        match rest.dropWhile Char.isDigit with
        | '.' :: after => readFraction negative significand dropped after
        | c :: after =>
            if c = 'e' || c = 'E' then readExponent negative significand dropped after
            else if dropped = 0 then some (wholeNumber negative significand, c :: after)
            else (decimalDouble negative significand dropped).map fun n => (n, c :: after)
        | [] =>
            if dropped = 0 then some (wholeNumber negative significand, [])
            else (decimalDouble negative significand dropped).map fun n => (n, [])

def readNumber (cs : List Char) : Option (Number × List Char) :=
  match cs with
  | '-' :: rest => readDigits true rest
  | _ => readDigits false cs

/-! ## Texts -/

def readHex4 : List Char → Option (Nat × List Char)
  | a :: b :: c :: d :: rest => do
      let a ← hexValue? a
      let b ← hexValue? b
      let c ← hexValue? c
      let d ← hexValue? d
      some (((a * 16 + b) * 16 + c) * 16 + d, rest)
  | _ => none

/-- The escaped code point after its mark: one unit, or two that form a surrogate pair. -/
def readCodePoint (cs : List Char) : Option (Char × List Char) := do
  let (high, rest) ← readHex4 cs
  if 0xDC00 ≤ high && high ≤ 0xDFFF then none
  else if 0xD800 ≤ high && high ≤ 0xDBFF then
    match rest with
    | '\\' :: 'u' :: rest => do
        let (low, rest) ← readHex4 rest
        if 0xDC00 ≤ low && low ≤ 0xDFFF then
          some (Char.ofNat ((high - 0xD800) * 0x400 + (low - 0xDC00) + 0x10000), rest)
        else none
    | _ => none
  else some (Char.ofNat high, rest)

def simpleEscape? : Char → Option Char
  | '"' => some '"'
  | '\\' => some '\\'
  | '/' => some '/'
  | 'b' => some '\x08'
  | 'f' => some '\x0c'
  | 'n' => some '\n'
  | 'r' => some '\r'
  | 't' => some '\t'
  | _ => none

/-- The rest of a text after its opening quote. -/
def readText (fuel : Nat) (read : List Char) (cs : List Char) : Option (String × List Char) :=
  match fuel with
  | 0 => none
  | fuel + 1 =>
      match cs with
      | [] => none
      | '"' :: rest => some (String.ofList read.reverse, rest)
      | '\\' :: 'u' :: rest => do
          let (c, rest) ← readCodePoint rest
          readText fuel (c :: read) rest
      | '\\' :: c :: rest => do
          let c ← simpleEscape? c
          readText fuel (c :: read) rest
      | c :: rest => if c.toNat < 0x20 || c = '\\' then none else readText fuel (c :: read) rest

/-! ## Trees -/

def readWord (word : String) (v : Value) (cs : List Char) : Option (Value × List Char) :=
  if word.toList.isPrefixOf cs then some (v, cs.drop word.length) else none

mutual

/-- A value at the head of a text, with `depth` levels of nesting left. -/
def readValue (fuel depth : Nat) (cs : List Char) : Option (Value × List Char) :=
  match fuel with
  | 0 => none
  | fuel + 1 =>
      match skipBlanks cs with
      | [] => none
      | c :: rest =>
          if c = 'n' then readWord "null" .null (c :: rest)
          else if c = 't' then readWord "true" (.bool true) (c :: rest)
          else if c = 'f' then readWord "false" (.bool false) (c :: rest)
          else if c = '"' then
            (readText (rest.length + 1) [] rest).map fun (s, after) => (.str s, after)
          else if c = '[' then
            if depth = 0 then none
            else
              match skipBlanks rest with
              | ']' :: after => some (.arr [], after)
              | after => readItems fuel (depth - 1) [] after
          else if c = '{' then
            if depth = 0 then none
            else
              match skipBlanks rest with
              | '}' :: after => some (.obj [], after)
              | after => readEntries fuel (depth - 1) [] after
          else if c = '-' || c.isDigit then
            (readNumber (c :: rest)).map fun (n, after) => (.num n, after)
          else none

/-- The items of an array up to its closing bracket, the ones already read in reverse. -/
def readItems (fuel depth : Nat) (read : List Value) (cs : List Char) :
    Option (Value × List Char) :=
  match fuel with
  | 0 => none
  | fuel + 1 => do
      let (v, after) ← readValue fuel depth cs
      match skipBlanks after with
      | ']' :: rest => some (.arr (v :: read).reverse, rest)
      | ',' :: rest => readItems fuel depth (v :: read) rest
      | _ => none

/-- The entries of an object up to its closing brace. -/
def readEntries (fuel depth : Nat) (read : Dict Value) (cs : List Char) :
    Option (Value × List Char) :=
  match fuel with
  | 0 => none
  | fuel + 1 =>
      match skipBlanks cs with
      | '"' :: rest => do
          let (key, after) ← readText (rest.length + 1) [] rest
          match skipBlanks after with
          | ':' :: after => do
              let (v, after) ← readValue fuel depth after
              match skipBlanks after with
              | '}' :: rest => some (.obj (Dict.insert key v read), rest)
              | ',' :: rest => readEntries fuel depth (Dict.insert key v read) rest
              | _ => none
          | _ => none
      | _ => none

end

/-- The greatest depth of nested arrays and objects. -/
def depthLimit : Nat := 127

/-- Reads a whole text as one value. Each step consumes a character, so the length of the text is
enough fuel. -/
def read? (text : String) : Option Value :=
  let cs := text.toList
  match readValue (2 * cs.length + 2) depthLimit cs with
  | some (v, rest) => if (skipBlanks rest).isEmpty then some v else none
  | none => none

end Readiness.Json
