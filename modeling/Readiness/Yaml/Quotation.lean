import Readiness.Json.Reader
import Readiness.Yaml.Tag

/-!
# Quotation — scalars between quotes

`scanQuotation` reads a scalar between single or double quotes. Line breaks fold to spaces, and an
empty line stays a line break. Between double quotes a backslash starts an escape.
-/

namespace Readiness.Yaml

def simpleEscape? (c : Char) : Option Char :=
  match c with
  | '0' => some (Char.ofNat 0)
  | 'a' => some (Char.ofNat 7)
  | 'b' => some (Char.ofNat 8)
  | 't' | '\t' => some '\t'
  | 'n' => some '\n'
  | 'v' => some (Char.ofNat 0x0B)
  | 'f' => some (Char.ofNat 0x0C)
  | 'r' => some '\r'
  | 'e' => some (Char.ofNat 0x1B)
  | ' ' => some ' '
  | '"' => some '"'
  | '/' => some '/'
  | '\\' => some '\\'
  | 'N' => some (Char.ofNat 0x85)
  | '_' => some (Char.ofNat 0xA0)
  | 'L' => some (Char.ofNat 0x2028)
  | 'P' => some (Char.ofNat 0x2029)
  | _ => none

/-- The count of hexadecimal digits behind the letter of an escape. -/
def escapeDigits? (c : Char) : Option Nat :=
  match c with
  | 'x' => some 2
  | 'u' => some 4
  | 'U' => some 8
  | _ => none

def hexNumber? (digits : List Char) (count : Nat) : Option Nat :=
  if digits.length = count then
    digits.foldl (fun acc ch => do
      let n ← acc
      let d ← Json.hexValue? ch
      some (n * 16 + d)) (some 0)
  else none

/-- An escape that starts with the backslash at this place. -/
def scanEscape (c : Cursor) : Option (Char × Cursor) :=
  match simpleEscape? (c.peekAt 1) with
  | some ch => some (ch, c.skip 2)
  | none => do
      let count ← escapeDigits? (c.peekAt 1)
      let after := c.skip 2
      let code ← hexNumber? (after.rest.take count) count
      let ch ← charOf? code
      some (ch, after.skip count)

/-- Content up to the next gap or the closing quote, in reverse in front of `read`; also whether the
content ended with an escaped line break. -/
def scanQuotedWord (single : Bool) : Nat → List Char → Cursor → Option (List Char × Bool × Cursor)
  | 0, read, c => some (read, false, c)
  | fuel + 1, read, c =>
      if isGap c.peek then some (read, false, c)
      else if single then
        if c.peek = '\x27' then
          if c.peekAt 1 = '\x27' then scanQuotedWord single fuel ('\x27' :: read) (c.skip 2)
          else some (read, false, c)
        else scanQuotedWord single fuel (c.peek :: read) (c.skip 1)
      else if c.peek = '"' then some (read, false, c)
      else if c.peek = '\\' then
        if isBreak (c.peekAt 1) then some (read, true, (c.skip 1).skipBreak)
        else do
          let (ch, c) ← scanEscape c
          scanQuotedWord single fuel (ch :: read) c
      else scanQuotedWord single fuel (c.peek :: read) (c.skip 1)

/-- The gap between two words of a scalar. -/
structure Fold where
  -- Blanks in front of the first line break, in reverse.
  blanks : List Char
  -- A line break was passed; without `firstBreak` it was an escaped one.
  broken : Bool
  firstBreak : Bool
  -- The count of further line breaks.
  moreBreaks : Nat
deriving Repr

namespace Fold

def empty (broken : Bool) : Fold := ⟨[], broken, false, 0⟩

/-- One more blank, which counts only in front of the first line break. -/
def blank (fold : Fold) (ch : Char) : Fold :=
  if fold.broken then fold else { fold with blanks := ch :: fold.blanks }

def lineBreak (fold : Fold) : Fold :=
  if fold.broken then { fold with moreBreaks := fold.moreBreaks + 1 }
  else ⟨[], true, true, 0⟩

/-- What the gap contributes to the scalar, in reverse: one line break becomes a space, of several
the first one is dropped. -/
def content (fold : Fold) : List Char :=
  if !fold.broken then fold.blanks
  else if fold.moreBreaks = 0 then (if fold.firstBreak then [' '] else [])
  else List.replicate fold.moreBreaks '\n'

end Fold

def scanQuotedGap (indent : Int) : Nat → Fold → Cursor → Option (Fold × Cursor)
  | 0, fold, c => some (fold, c)
  | fuel + 1, fold, c =>
      if isBlank c.peek then
        if fold.broken && c.peek = '\t' && (c.column : Int) < indent then none
        else scanQuotedGap indent fuel (fold.blank c.peek) (c.skipBlanks 1)
      else if isBreak c.peek then scanQuotedGap indent fuel fold.lineBreak c.skipBreak
      else some (fold, c)

def scanQuotedContent (single : Bool) (indent : Int) :
    Nat → List Char → Cursor → Option (List Char × Cursor)
  | 0, _, _ => none
  | fuel + 1, read, c =>
      if c.isDocumentMarker || isEnd c.peek || (c.column : Int) < indent then none
      else do
        let (read, escaped, c) ← scanQuotedWord single (c.rest.length + 1) read c
        if c.peek = (if single then '\x27' else '"') && !isGap c.peek then some (read, c)
        else
          let (fold, c) ← scanQuotedGap indent (c.rest.length + 1) (.empty escaped) c
          scanQuotedContent single indent fuel (fold.content ++ read) c

/-- A scalar between quotes, and what may follow it: the end of the line, a colon on the same line,
and in a flow collection its indicators. -/
def scanQuotation (single : Bool) (indent : Int) (inFlow : Bool) (c : Cursor) :
    Option (String × Cursor) := do
  let line := c.line
  let (read, c) ← scanQuotedContent single indent (c.rest.length + 2) [] (c.skip 1)
  let (_, c) ← (c.skip 1).skipGap true
  let next := c.peek
  if isBreakOrEnd next || (next = ':' && (inFlow || line = c.line))
      || (inFlow && (next = ',' || next = '\x7d' || next = ']')) then
    some (String.ofList read.reverse, c)
  else none

end Readiness.Yaml
