import Readiness.Yaml.Quotation

/-!
# Plain — scalars without quotes

`scanPlain` reads a scalar that stands without quotes. It may go on over lines that are indented
further than its surroundings; line breaks fold as between quotes.
-/

namespace Readiness.Yaml

/-- Whether the character at this place may belong to a plain scalar. -/
def isPlainHere (inFlow : Bool) (c : Cursor) : Bool :=
  if c.peek = ':' && (isGap (c.peekAt 1) || (inFlow && isFlow (c.peekAt 1))) then false
  else !(inFlow && isFlow c.peek)

/-- Content up to the next gap or indicator, in reverse in front of `read`. -/
def scanPlainWord (inFlow : Bool) : Nat → List Char → Cursor → List Char × Cursor
  | 0, read, c => (read, c)
  | fuel + 1, read, c =>
      if isGap c.peek || !isPlainHere inFlow c then (read, c)
      else scanPlainWord inFlow fuel (c.peek :: read) (c.skip 1)

/-- Passes the gap between two words. A tab in the place of indentation is allowed only on a line
without content; if that line holds a comment, its line break does not count. -/
def scanPlainGap (indent : Int) : Nat → Fold → Cursor → Option (Fold × Cursor)
  | 0, fold, c => some (fold, c)
  | fuel + 1, fold, c =>
      if isBlank c.peek then
        if fold.broken && (c.column : Int) < indent && c.peek = '\t' then do
          let c ← c.skipToLineEnd
          let c := if !c.lineStart && isBreak c.peek then c.skipBreak else c
          scanPlainGap indent fuel fold c
        else scanPlainGap indent fuel (fold.blank c.peek) (c.skipBlanks 1)
      else if isBreak c.peek then scanPlainGap indent fuel fold.lineBreak c.skipBreak
      else some (fold, c)

/-- Words and gaps of a plain scalar, in reverse; `fold` is the gap in front of the next word. -/
def scanPlainContent (inFlow : Bool) (indent : Int) :
    Nat → List Char → Fold → Cursor → Option (List Char × Fold × Cursor)
  | 0, read, fold, c => some (read, fold, c)
  | fuel + 1, read, fold, c =>
      if c.isDocumentMarker || c.peek = '#' then some (read, fold, c)
      else if inFlow && c.peek = '-' && isFlow (c.peekAt 1) then none
      else
        let word := scanPlainWord inFlow (c.rest.length + 1) [] c
        let (read, fold, c) : List Char × Fold × Cursor :=
          if word.1.isEmpty then (read, fold, c)
          else (word.1 ++ (fold.content ++ read), .empty false, word.2)
        if !(isBlank c.peek || isBreak c.peek) then some (read, fold, c)
        else do
          let (fold, c) ← scanPlainGap indent (c.rest.length + 1) fold c
          if !inFlow && (c.column : Int) < indent then some (read, fold, c)
          else scanPlainContent inFlow indent fuel read fold c

/-- A scalar without quotes; also whether it ended after a line break. -/
def scanPlain (inFlow : Bool) (indent : Int) (c : Cursor) : Option (String × Bool × Cursor) := do
  if inFlow && (c.column : Int) < indent then none
  else
    let (read, fold, c) ←
      scanPlainContent inFlow indent (c.rest.length + 2) [] (.empty false) c
    some (String.ofList read.reverse, fold.broken, c)

end Readiness.Yaml
