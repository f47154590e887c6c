import Readiness.Json.Reader
import Readiness.Yaml.Cursor

/-!
# Tags — handles, suffixes and directives

* `Tag` is a tag as written, a handle and a suffix;
* `scanTag` reads one, `scanAnchor` the name behind an anchor or an alias;
* `scanDirective` reads a line that starts with a percent sign.
-/

namespace Readiness.Yaml

/-- A handle and what follows it. -/
structure Tag where
  handle : String
  suffix : String
deriving DecidableEq, Repr, Inhabited

/-! ## Characters in hexadecimal form -/

/-- The size in bytes of a character whose first byte this is. -/
def leadWidth? (byte : Nat) : Option Nat :=
  if byte < 0x80 then some 1
  else if 0xC0 ≤ byte && byte < 0xE0 then some 2
  else if 0xE0 ≤ byte && byte < 0xF0 then some 3
  else if 0xF0 ≤ byte && byte < 0xF8 then some 4
  else none

/-- One byte behind a percent sign. -/
def scanByte (c : Cursor) : Option (Nat × Cursor) :=
  if c.peek = '%' then do
    let high ← Json.hexValue? (c.peekAt 1)
    let low ← Json.hexValue? (c.peekAt 2)
    some (high * 16 + low, c.skip 3)
  else none

/-- Further bytes of a character, joined to those before them. -/
def scanMoreBytes : Nat → Nat → Cursor → Option (Nat × Cursor)
  | 0, code, c => some (code, c)
  | n + 1, code, c => do
      let (byte, c) ← scanByte c
      if 0x80 ≤ byte && byte < 0xC0 then scanMoreBytes n (code * 256 + byte) c else none

def charOf? (code : Nat) : Option Char :=
  if code.isValidChar then some (Char.ofNat code) else none

/-- A character given by bytes behind percent signs. -/
def scanEscapedChar (c : Cursor) : Option (Char × Cursor) := do
  let (byte, c) ← scanByte c
  let width ← leadWidth? byte
  let (code, c) ← scanMoreBytes (width - 1) byte c
  let ch ← charOf? code
  some (ch, c)

/-- The characters of a class, with those behind percent signs. -/
def scanTagText (p : Char → Bool) : Nat → List Char → Cursor → Option (List Char × Cursor)
  | 0, read, c => some (read.reverse, c)
  | fuel + 1, read, c =>
      if p c.peek then
        if c.peek = '%' then do
          let (ch, c) ← scanEscapedChar c
          scanTagText p fuel (ch :: read) c
        else scanTagText p fuel (c.peek :: read) (c.skip 1)
      else some (read.reverse, c)

/-! ## Tags -/

/-- An exclamation mark, a word and possibly another exclamation mark. -/
def scanHandle (directive : Bool) (c : Cursor) : Option (List Char × Cursor) :=
  if c.peek = '!' then
    let (word, after) := (c.skip 1).take isWord
    if after.peek = '!' then some ('!' :: word ++ ['!'], after.skip 1)
    else if directive && !word.isEmpty then none
    else some ('!' :: word, after)
  else none

/-- Whether a handle has an exclamation mark at both ends. -/
def isNamedHandle (handle : List Char) : Bool :=
  2 ≤ handle.length && handle.head? = some '!' && handle.getLast? = some '!'

def scanVerbatim (c : Cursor) : Option (Tag × Cursor) := do
  let (text, c) ← scanTagText isUriChar (c.rest.length + 1) [] (c.skip 2)
  if c.peek = '>' then some (⟨"", String.ofList text⟩, c.skip 1) else none

def scanShorthand (c : Cursor) : Option (Tag × Cursor) := do
  let (handle, c) ← scanHandle false c
  let (text, c) ← scanTagText isTagChar (c.rest.length + 1) [] c
  if isNamedHandle handle then
    if text.isEmpty then none else some (⟨String.ofList handle, String.ofList text⟩, c)
  else
    let suffix := handle.drop 1 ++ text
    if suffix.isEmpty then some (⟨"", "!"⟩, c) else some (⟨"!", String.ofList suffix⟩, c)

/-- A tag, which must be set off from what follows it. -/
def scanTag (inFlow : Bool) (c : Cursor) : Option (Tag × Cursor) := do
  let (tag, c) ← if c.peekAt 1 = '<' then scanVerbatim c else scanShorthand c
  if isGap c.peek || (inFlow && isFlow c.peek) then some (tag, c) else none

/-- The name behind the sign of an anchor or an alias. -/
def scanAnchor (c : Cursor) : Option (String × Cursor) :=
  let (name, c) := (c.skip 1).take isAnchorChar
  if name.isEmpty then none else some (String.ofList name, c)

/-! ## Directives -/

/-- A line that starts with a percent sign. -/
inductive Directive where
  | version
  -- The meaning of a handle; unknown directives count as an empty one.
  | tag (handle tagPrefix : String)
deriving DecidableEq, Repr

def scanVersionNumber (c : Cursor) : Option Cursor :=
  let (digits, c) := c.take Char.isDigit
  if digits.isEmpty || 9 < digits.length then none else some c

def skipDirectiveBlanks (c : Cursor) : Cursor := c.skipBlanks (c.rest.takeWhile isBlank).length

def scanVersion (c : Cursor) : Option Cursor := do
  let c ← scanVersionNumber (skipDirectiveBlanks c)
  if c.peek = '.' then scanVersionNumber (c.skip 1) else none

def scanTagPrefix (c : Cursor) : Option (List Char × Cursor) :=
  if c.peek = '!' then scanTagText isUriChar (c.rest.length + 1) ['!'] (c.skip 1)
  else if isTagChar c.peek then scanTagText isUriChar (c.rest.length + 1) [] c
  else none

def scanHandleMeaning (c : Cursor) : Option (Directive × Cursor) := do
  let (handle, c) ← scanHandle true (skipDirectiveBlanks c)
  let (meaning, c) ← scanTagPrefix (skipDirectiveBlanks c)
  if isGap c.peek then some (.tag (String.ofList handle) (String.ofList meaning), c) else none

def scanDirective (c : Cursor) : Option (Directive × Cursor) := do
  let (name, c) := (c.skip 1).take isWord
  if name.isEmpty || !isGap c.peek then none
  else
    let (directive, c) ←
      match String.ofList name with
      | "YAML" => (scanVersion c).map fun c => (Directive.version, c)
      | "TAG" => scanHandleMeaning c
      | _ => some (.tag "" "", (c.take fun ch => !isBreakOrEnd ch).2)
    let c ← c.skipToLineEnd
    some (directive, if isBreak c.peek then c.skipBreak else c)

end Readiness.Yaml
