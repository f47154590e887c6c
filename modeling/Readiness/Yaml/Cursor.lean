/-!
# Cursor — a place in a YAML text

* the classes of characters that the grammar distinguishes; the end of a text counts as the NUL
  character, and a NUL in a text ends it;
* `Cursor` is a place with its index, its column and its line;
* `Cursor.skipGap` passes blanks and a comment up to the end of a line.
-/

namespace Readiness.Yaml

/-! ## Classes of characters -/

/-- The character that stands for the end of a text. -/
def endMark : Char := Char.ofNat 0

def isEnd (c : Char) : Bool := c.toNat = 0

def isBreak (c : Char) : Bool := c = '\n' || c = '\r'

def isBlank (c : Char) : Bool := c = ' ' || c = '\t'

def isBreakOrEnd (c : Char) : Bool := isBreak c || isEnd c

def isGap (c : Char) : Bool := isBlank c || isBreakOrEnd c

def isFlow (c : Char) : Bool := c = ',' || c = '[' || c = ']' || c = '\x7b' || c = '\x7d'

/-- The characters of directive names and tag handles. -/
def isWord (c : Char) : Bool := c.isAlphanum || c = '_' || c = '-'

def isAnchorChar (c : Char) : Bool := !isGap c && !isFlow c && c.toNat != 0xFEFF

/-- The characters of tags that are given as a whole. -/
def isUriChar (c : Char) : Bool :=
  isWord c || ['#', ';', '/', '?', ':', '@', '&', '=', '+', '$', ',', '.', '!', '~', '*', '\x27',
    '(', ')', '[', ']', '%'].contains c

/-- The characters of tags behind a handle. -/
def isTagChar (c : Char) : Bool := isUriChar c && !isFlow c && c != '!'

/-! ## Places -/

/-- A place in a text. -/
structure Cursor where
  -- The text from this place on.
  rest : List Char
  index : Nat
  line : Nat
  column : Nat
  -- Only blanks stand between the start of the line and this place.
  lineStart : Bool
deriving Repr, Inhabited

namespace Cursor

def start (text : String) : Cursor := ⟨text.toList, 0, 0, 0, true⟩

def peek (c : Cursor) : Char := c.rest.headD endMark

def peekAt (c : Cursor) (n : Nat) : Char := (c.rest.drop n).headD endMark

def skipBlanks (c : Cursor) (n : Nat) : Cursor :=
  { c with rest := c.rest.drop n, index := c.index + n, column := c.column + n }

def skip (c : Cursor) (n : Nat) : Cursor :=
  { c.skipBlanks n with lineStart := c.lineStart && n = 0 }

/-- Passes one line break; a carriage return and a line feed are one. -/
def skipBreak (c : Cursor) : Cursor :=
  match c.rest with
  | '\r' :: '\n' :: rest => ⟨rest, c.index + 2, c.line + 1, 0, true⟩
  | _ :: rest => ⟨rest, c.index + 1, c.line + 1, 0, true⟩
  | [] => c

def take (p : Char → Bool) (c : Cursor) : List Char × Cursor :=
  let taken := c.rest.takeWhile p
  (taken, c.skip taken.length)

/-- Whether three times the same character stands here and nothing joins it. -/
def isMarker (c : Cursor) (sign : Char) : Bool :=
  c.peek = sign && c.peekAt 1 = sign && c.peekAt 2 = sign && isGap (c.peekAt 3)

def isDocumentMarker (c : Cursor) : Bool := c.column = 0 && (c.isMarker '-' || c.isMarker '.')

/-- The rest of a line that holds no content. -/
structure Gap where
  hasTab : Bool
  hasSpace : Bool
deriving DecidableEq, Repr

/-- Passes blanks and a comment, which must be set off by a blank. -/
def skipGap (tabs : Bool) (c : Cursor) : Option (Gap × Cursor) :=
  let blanks := c.rest.takeWhile fun ch => ch = ' ' || (tabs && ch = '\t')
  let after := c.skipBlanks blanks.length
  let gap : Gap := ⟨blanks.contains '\t', blanks.contains ' '⟩
  if after.peek = '#' then
    if blanks.isEmpty then none
    else some (gap, (after.take fun ch => !isBreakOrEnd ch).2)
  else some (gap, after)

/-- Passes blanks and a comment and asks for the end of the line. -/
def skipToLineEnd (c : Cursor) : Option Cursor := do
  let (_, c) ← c.skipGap true
  if isBreakOrEnd c.peek then some c else none

end Cursor

end Readiness.Yaml
