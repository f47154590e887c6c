import Readiness.Yaml.Cursor

/-!
# Block — scalars as indented lines

`scanBlock` reads a scalar whose lines stand below its header. A literal scalar keeps its line
breaks; a folded one joins lines that do not start with a blank.

* `Chomping` says which line breaks at the end are kept;
* the indentation is given in the header or taken from the first line with content.
-/

namespace Readiness.Yaml

/-- What becomes of the line breaks at the end of a scalar. -/
inductive Chomping where
  -- All are dropped.
  | strip
  -- The first one is kept.
  | clip
  -- All are kept.
  | keep
deriving DecidableEq, Repr

def chompingOf? (sign : Char) : Option Chomping :=
  if sign = '+' then some .keep else if sign = '-' then some .strip else none

/-- An indentation between one and nine; zero when none is given. -/
def scanIncrement (c : Cursor) : Option (Nat × Cursor) :=
  if c.peek.isDigit then
    if c.peek = '0' then none else some (c.peek.toNat - '0'.toNat, c.skip 1)
  else some (0, c)

def scanBlockHeader (c : Cursor) : Option (Chomping × Nat × Cursor) :=
  match chompingOf? c.peek with
  | some chomping => do
      let (increment, c) ← scanIncrement (c.skip 1)
      some (chomping, increment, c)
  | none => do
      let (increment, c) ← scanIncrement c
      match chompingOf? c.peek with
      | some chomping => some (chomping, increment, c.skip 1)
      | none => some (.clip, increment, c)

/-- Passes empty lines and the indentation of the next line; counts the line breaks. -/
def skipIndentation (indent : Nat) : Nat → Nat → Cursor → Nat × Cursor
  | 0, breaks, c => (breaks, c)
  | fuel + 1, breaks, c =>
      let spaces := (c.rest.take (indent - c.column)).takeWhile (· = ' ')
      let c := c.skipBlanks spaces.length
      if isBreak c.peek then skipIndentation indent fuel (breaks + 1) c.skipBreak
      else (breaks, c)

/-- Passes empty lines and all spaces of the next line; counts the line breaks and gives the
greatest column that was reached. -/
def skipFirstIndentation : Nat → Nat → Nat → Cursor → Nat × Nat × Cursor
  | 0, breaks, greatest, c => (breaks, greatest, c)
  | fuel + 1, breaks, greatest, c =>
      let c := c.skipBlanks (c.rest.takeWhile (· = ' ')).length
      let greatest := max greatest c.column
      if isBreak c.peek then skipFirstIndentation fuel (breaks + 1) greatest c.skipBreak
      else (breaks, greatest, c)

/-- The lines read so far. -/
structure BlockText where
  -- The text in reverse.
  read : List Char
  -- A line break ended the last line.
  hasBreak : Bool
  -- The count of empty lines behind it.
  emptyLines : Nat
  -- The last line started with a blank.
  wasBlank : Bool
deriving Repr

/-- What stands between the lines read so far and the next one, in reverse: a folded scalar joins two
lines without blanks at their start. -/
def BlockText.joint (text : BlockText) (literal startsBlank : Bool) : List Char :=
  if !literal && text.hasBreak && !text.wasBlank && !startsBlank then
    if text.emptyLines = 0 then [' '] else List.replicate text.emptyLines '\n'
  else List.replicate (text.emptyLines + if text.hasBreak then 1 else 0) '\n'

def scanBlockLines (literal : Bool) (indent : Nat) : Nat → BlockText → Cursor → BlockText × Cursor
  | 0, text, c => (text, c)
  | fuel + 1, text, c =>
      if c.column != indent || isEnd c.peek || (indent = 0 && c.isMarker '.') then (text, c)
      else
        let startsBlank := isBlank c.peek
        let (line, after) := c.take fun ch => !isBreakOrEnd ch
        let read := line.reverse ++ (text.joint literal startsBlank ++ text.read)
        if isEnd after.peek then (⟨read, false, 0, startsBlank⟩, after)
        else
          let (breaks, after) := skipIndentation indent (after.rest.length + 1) 0 after.skipBreak
          scanBlockLines literal indent fuel ⟨read, true, breaks, startsBlank⟩ after

/-- The line breaks at the end of a scalar. A last line that ends with the text counts as ended when
it is indented as deep as the surroundings. -/
def blockTail (chomping : Chomping) (text : BlockText) (outer : Int) (c : Cursor) : List Char :=
  let ended :=
    List.replicate (if text.hasBreak then 1 else 0) '\n' ++
      (if isEnd c.peek && max outer 1 ≤ (c.column : Int) then ['\n'] else [])
  match chomping with
  | .strip => []
  | .clip => ended
  | .keep => ended ++ List.replicate text.emptyLines '\n'

/-- A scalar without content at the end of the text. -/
def emptyBlock (chomping : Chomping) (sameLine : Bool) (headerBreak emptyLines : Nat) : List Char :=
  match chomping with
  | .strip => []
  | .clip => if sameLine then [] else List.replicate headerBreak '\n'
  | .keep =>
      if sameLine then []
      else List.replicate (if emptyLines = 0 then headerBreak else emptyLines) '\n'

/-- A block scalar behind its indicator; `outer` is the indentation of the surroundings. -/
def scanBlock (literal : Bool) (outer : Int) (c : Cursor) : Option (String × Cursor) := do
  let line := c.line
  let (chomping, increment, c) ← scanBlockHeader (c.skip 1)
  let c ← c.skipToLineEnd
  let headerBreak := if isBreak c.peek then 1 else 0
  let c := if isBreak c.peek then c.skipBreak else c
  if c.peek = '\t' then none
  else
    let given : Nat := if increment = 0 then 0 else if 0 ≤ outer then outer.toNat + increment
      else increment
    let (breaks, indent, c) :=
      if given = 0 then
        let (breaks, greatest, c) := skipFirstIndentation (c.rest.length + 1) 0 0 c
        (breaks, max (max greatest (outer + 1).toNat) (if 0 < outer then 1 else 0), c)
      else
        let (breaks, c) := skipIndentation given (c.rest.length + 1) 0 c
        (breaks, given, c)
    if isEnd c.peek then
      some (String.ofList (emptyBlock chomping (c.line = line) headerBreak breaks), c)
    else if c.column < indent && outer < (c.column : Int) then none
    else
      let (text, c) :=
        scanBlockLines literal indent (c.rest.length + 1) ⟨[], false, breaks, false⟩ c
      some (String.ofList (text.read.reverse ++ blockTail chomping text outer c), c)

end Readiness.Yaml
