import Readiness.Yaml.Block
import Readiness.Yaml.Plain

/-!
# Tokens — the words of a YAML text

* `Token` is one word: a marker, the start or the end of a collection, an indicator, a property of a
  node or a scalar;
* `Lexer` is the state while a text is read. Block collections are found by indentation, and a
  mapping key is recognised only when its colon is reached, so that its token is put in front of
  tokens that were read before;
* `Token.scan` lists the tokens of a whole text, or nothing when the text is malformed.
-/

namespace Readiness.Yaml

/-- One word of a text. -/
inductive Token where
  | streamEnd
  | directive (directive : Directive)
  | documentStart
  | documentEnd
  | blockSequenceStart
  | blockMappingStart
  | blockEnd
  | flowSequenceStart
  | flowSequenceEnd
  | flowMappingStart
  | flowMappingEnd
  | blockEntry
  | flowEntry
  | key
  | value
  | reference (name : String)
  | anchor (name : String)
  | tag (tag : Tag)
  | scalar (plain : Bool) (text : String)
deriving DecidableEq, Repr, Inhabited

/-- A place at which a mapping key may have started. -/
structure KeyCandidate where
  possible : Bool
  required : Bool
  -- The number of the token at which the key starts.
  position : Nat
  index : Nat
  line : Nat
  column : Nat
deriving Repr, Inhabited

namespace KeyCandidate

def impossible : KeyCandidate := ⟨false, false, 0, 0, 0, 0⟩

end KeyCandidate

/-- An outer indentation, and whether the inner one belongs to a block collection. -/
structure Indent where
  outer : Int
  isBlock : Bool
deriving Repr, Inhabited

/-- The state while a text is read. -/
structure Lexer where
  cursor : Cursor
  -- The tokens so far, each with the column at which it starts.
  tokens : Array (Token × Nat)
  -- The innermost candidate for a key.
  candidate : KeyCandidate
  -- The candidates of the surrounding flow levels.
  outerCandidates : List KeyCandidate
  -- A key may start here.
  keyAllowed : Bool
  indent : Int
  indents : List Indent
  -- The place at which a value may follow its key without a blank.
  adjacentValue : Nat
  -- A flow mapping was opened, so that no mapping of a single pair starts.
  inMapping : Bool
  -- For each open flow sequence, whether a mapping of a single pair is open in it.
  singlePairs : List Bool
deriving Inhabited

namespace Lexer

def start (text : String) : Lexer :=
  ⟨.start text, #[], .impossible, [], true, -1, [], 0, false, []⟩

def flowLevel (s : Lexer) : Nat := s.outerCandidates.length

def inFlow (s : Lexer) : Bool := !s.outerCandidates.isEmpty

def push (s : Lexer) (token : Token) : Lexer :=
  { s with tokens := s.tokens.push (token, s.cursor.column) }

/-- Puts a token in front of the one with a number. -/
def insertAt (s : Lexer) (position : Nat) (token : Token) : Lexer :=
  { s with tokens := s.tokens.insertIdxIfInBounds position (token, s.cursor.column) }

/-! ## Indentation -/

/-- Leaves indentations deeper than a column; each block collection among them ends. -/
def unroll (column : Int) : List Indent → Lexer → Lexer
  | [], s => s
  | top :: rest, s =>
      if column < s.indent then
        let s := { s with indent := top.outer, indents := rest }
        unroll column rest (if top.isBlock then s.push .blockEnd else s)
      else s

/-- Leaves indentations deeper than a column; a flow collection knows no indentation. -/
def unrollTo (s : Lexer) (column : Int) : Lexer :=
  if s.inFlow then s else unroll column s.indents s

/-- Leaves the indentations that belong to no block collection. -/
def leaveSoftIndents : List Indent → Lexer → Lexer
  | [], s => s
  | top :: rest, s =>
      if top.isBlock then s
      else leaveSoftIndents rest { s with indent := top.outer, indents := rest }

/-- Enters an indentation one column deeper than that of a block collection. -/
def enterSoftIndent (s : Lexer) : Lexer :=
  match s.indents with
  | top :: _ =>
      if !s.inFlow && top.isBlock then
        { s with indent := s.indent + 1, indents := ⟨s.indent, false⟩ :: s.indents }
      else s
  | [] => s

/-- Enters the block collection at a column, unless it is open already. Its token is put in front of
the one with a number. -/
def enterBlock (s : Lexer) (column : Nat) (position : Nat) (token : Token) : Lexer :=
  if s.inFlow then s
  else
    let s :=
      match s.indents with
      | top :: rest =>
          if s.indent ≤ (column : Int) && !top.isBlock then
            { s with indent := top.outer, indents := rest }
          else s
      | [] => s
    if s.indent < (column : Int) then
      ({ s with indent := column, indents := ⟨s.indent, true⟩ :: s.indents } : Lexer).insertAt
        position token
    else s

/-! ## Candidates for keys -/

/-- The greatest length of a key that is not marked as one. -/
def keyLimit : Nat := 1024

/-- A candidate ends with its line or when it grows too long; a required one must not. -/
def ageCandidate (s : Lexer) : Option Lexer :=
  let k := s.candidate
  if k.possible && !s.inFlow
      && (k.line < s.cursor.line || k.index + keyLimit < s.cursor.index) then
    if k.required then none else some { s with candidate := { k with possible := false } }
  else some s

/-- Gives the candidate up; a required one must not be. -/
def dropCandidate (s : Lexer) : Option Lexer :=
  if s.candidate.possible && s.candidate.required then none
  else some { s with candidate := { s.candidate with possible := false } }

def atBlockIndent (s : Lexer) : Bool :=
  match s.indents with
  | top :: _ => top.isBlock
  | [] => false

/-- A key may start with the next token. -/
def saveCandidate (s : Lexer) : Lexer :=
  if s.keyAllowed then
    let required := !s.inFlow && s.indent = (s.cursor.column : Int) && s.atBlockIndent
    { s with
      candidate :=
        ⟨true, required, s.tokens.size, s.cursor.index, s.cursor.line, s.cursor.column⟩ }
  else s

def allowKey (s : Lexer) : Lexer := { s with keyAllowed := true }

def forbidKey (s : Lexer) : Lexer := { s with keyAllowed := false }

/-! ## Gaps -/

/-- Passes blanks, comments and line breaks in front of a token. In the place of indentation a tab
is allowed only on a line without content. -/
def skipGaps : Nat → Lexer → Option Lexer
  | 0, s => some s
  | fuel + 1, s =>
      let c := s.cursor
      if c.peek = '\t' && !s.indents.isEmpty && c.lineStart && (c.column : Int) < s.indent then do
        let c ← c.skipToLineEnd
        skipGaps fuel { s with cursor := c }
      else if isBlank c.peek then skipGaps fuel { s with cursor := c.skipBlanks 1 }
      else if isBreak c.peek then
        skipGaps fuel
          { s with cursor := c.skipBreak, keyAllowed := s.keyAllowed || !s.inFlow }
      else if c.peek = '#' then
        skipGaps fuel { s with cursor := (c.take fun ch => !isBreakOrEnd ch).2 }
      else some s

def skipToToken (s : Lexer) : Option Lexer := skipGaps (s.cursor.rest.length + 1) s

/-- Passes what stands between the sign of an explicit key and the key; tabs are not passed. -/
def skipKeyGaps : Nat → Bool → Lexer → Option Lexer
  | 0, passed, s => if passed then some s else none
  | fuel + 1, passed, s =>
      let c := s.cursor
      if c.peek = ' ' then skipKeyGaps fuel true { s with cursor := c.skipBlanks 1 }
      else if isBreak c.peek then
        skipKeyGaps fuel true
          { s with cursor := c.skipBreak, keyAllowed := s.keyAllowed || !s.inFlow }
      else if c.peek = '#' then
        skipKeyGaps fuel passed { s with cursor := (c.take fun ch => !isBreakOrEnd ch).2 }
      else if passed then some s else none

/-- Passes characters of content and the gap behind them on the same line. -/
def passSign (s : Lexer) (n : Nat) : Option Lexer := do
  let (_, c) ← (s.cursor.skip n).skipGap true
  some { s with cursor := c }

/-! ## One token -/

/-- The end of the text ends every block collection. -/
def readEnd (s : Lexer) : Option Lexer := do
  if s.candidate.possible && s.candidate.required then none
  else
    let s := { s with candidate := .impossible, cursor := { s.cursor with column := 0 } }
    some ((s.unrollTo (-1)).forbidKey.push .streamEnd)

/-- Leaves every block collection in front of a marker at the start of a line. -/
def leaveDocument (s : Lexer) : Option Lexer := (s.unrollTo (-1)).forbidKey.dropCandidate

def readDirective (s : Lexer) : Option Lexer := do
  let s ← s.leaveDocument
  let (directive, c) ← scanDirective s.cursor
  some ({ s with cursor := c }.push (.directive directive))

def readMarker (s : Lexer) (token : Token) : Option Lexer := do
  let s ← s.leaveDocument
  let s := s.push token
  some { s with cursor := s.cursor.skip 3 }

def readDocumentEnd (s : Lexer) : Option Lexer := do
  let s ← s.readMarker .documentEnd
  let c ← s.cursor.skipToLineEnd
  some { s with cursor := c }

def flowLimit : Nat := 255

/-- The start of a flow collection, which may start a key. -/
def readFlowStart (s : Lexer) (token : Token) : Option Lexer := do
  let s := s.saveCandidate.enterSoftIndent
  if flowLimit ≤ s.flowLevel then none
  else
    let isMapping : Bool := token = .flowMappingStart
    let s := (s.push token).allowKey
    { s with
      outerCandidates := s.candidate :: s.outerCandidates
      candidate := .impossible
      inMapping := s.inMapping || isMapping
      singlePairs := if isMapping then s.singlePairs else false :: s.singlePairs }.passSign 1

/-- Ends the mapping of a single pair in the innermost flow sequence, if one is open. -/
def endSinglePair (s : Lexer) : Lexer :=
  match s.singlePairs with
  | true :: rest => { s with inMapping := false, singlePairs := false :: rest }.push .flowMappingEnd
  | _ => s

def readFlowEnd (s : Lexer) (token : Token) : Option Lexer := do
  let s ← s.dropCandidate
  let s :=
    match s.outerCandidates with
    | candidate :: rest => { s with candidate := candidate, outerCandidates := rest }
    | [] => s
  let s := s.forbidKey
  let s :=
    if token = .flowSequenceEnd then
      let s := s.endSinglePair
      { s with singlePairs := s.singlePairs.drop 1 }
    else s
  let s ← (s.push token).passSign 1
  some (if s.inFlow then { s with adjacentValue := s.cursor.index } else s)

def readFlowEntry (s : Lexer) : Option Lexer := do
  let s ← s.dropCandidate
  (s.allowKey.endSinglePair.push .flowEntry).passSign 1

/-- Whether the last token is an anchor or a tag at the start of a line. -/
def followsProperty (s : Lexer) : Bool :=
  match s.tokens.back? with
  | some (.anchor _, 0) => true
  | some (.tag _, 0) => true
  | _ => false

def readBlockEntry (s : Lexer) : Option Lexer := do
  if s.inFlow || !s.keyAllowed then none
  else if s.cursor.column = 0 && s.followsProperty && -1 < s.indent then none
  else
    let column := s.cursor.column
    let s := s.enterBlock column s.tokens.size .blockSequenceStart
    let (gap, c) ← (s.cursor.skip 1).skipGap true
    if gap.hasTab && c.peek = '-' && isGap (c.peekAt 1) then none
    else
      let s := { s with cursor := c }
      let s := if isBreak c.peek || isFlow c.peek then s.enterSoftIndent else s
      let s ← s.dropCandidate
      some (s.allowKey.push .blockEntry)

def readKey (s : Lexer) : Option Lexer := do
  if !s.inFlow && !s.keyAllowed then none
  else
    let s :=
      if s.inFlow then { s with inMapping := true }
      else s.enterBlock s.cursor.column s.tokens.size .blockMappingStart
    let s ← s.dropCandidate
    let s := if s.inFlow then s.forbidKey else s.allowKey
    let s ← skipKeyGaps (s.cursor.rest.length + 1) false { s with cursor := s.cursor.skip 1 }
    if s.cursor.peek = '\t' then none else some (s.push .key)

/-- The colon in front of a value. If a candidate for a key stands on the same line, the tokens of
the key and of the mapping are put in front of it. -/
def readValue (s : Lexer) : Option Lexer := do
  let k := s.candidate
  let line := s.cursor.line
  let column := s.cursor.column
  let singlePair := !s.singlePairs.isEmpty && !s.inMapping
  let s := if singlePair then { s with singlePairs := true :: s.singlePairs.drop 1 } else s
  let s := { s with cursor := s.cursor.skip 1 }
  let s ←
    if s.cursor.peek = '\t' then do
      let (gap, c) ← s.cursor.skipGap true
      if !gap.hasSpace && isWord c.peek then none else some { s with cursor := c }
    else some s
  if k.possible then
    let s := s.insertAt k.position .key
    if singlePair && k.line < line then none
    else
      let s := if singlePair then s.insertAt k.position .flowMappingStart else s
      let s := (s.enterBlock k.column k.position .blockMappingStart).enterSoftIndent
      some (({ s with candidate := { k with possible := false } }.forbidKey).push .value)
  else
    let s := if singlePair then s.push .flowMappingStart else s
    if s.inFlow then some ((s.enterSoftIndent.forbidKey).push .value)
    else if !s.keyAllowed then none
    else
      let s := s.enterBlock column s.tokens.size .blockMappingStart
      some ((s.enterSoftIndent.allowKey).push .value)

/-- An anchor or an alias, which may start a key. -/
def readAnchor (s : Lexer) (token : String → Token) : Option Lexer := do
  let s := s.saveCandidate.forbidKey
  let (name, c) ← scanAnchor s.cursor
  some { s.push (token name) with cursor := c }

def readTag (s : Lexer) : Option Lexer := do
  let s := s.saveCandidate.forbidKey
  let (tag, c) ← scanTag s.inFlow s.cursor
  some { s.push (.tag tag) with cursor := c }

def readBlock (s : Lexer) (literal : Bool) : Option Lexer := do
  let s := s.saveCandidate.allowKey
  let s := leaveSoftIndents s.indents s
  let (text, c) ← scanBlock literal s.indent s.cursor
  some { s.push (.scalar false text) with cursor := c }

def readQuotation (s : Lexer) (single : Bool) : Option Lexer := do
  let s := s.saveCandidate.forbidKey
  let (text, c) ← scanQuotation single s.indent s.inFlow s.cursor
  let s ← { s.push (.scalar false text) with cursor := c }.skipToToken
  some { s with adjacentValue := s.cursor.index }

def readPlain (s : Lexer) : Option Lexer := do
  let s := s.saveCandidate.forbidKey
  let s := leaveSoftIndents s.indents s
  let (text, afterBreak, c) ← scanPlain s.inFlow (s.indent + 1) s.cursor
  let s := s.push (.scalar true text)
  some { s with cursor := c, keyAllowed := s.keyAllowed || afterBreak }

/-- Whether the colon at this place stands in front of a value. -/
def isValueSign (s : Lexer) : Bool :=
  let next := s.cursor.peekAt 1
  isGap next || (s.inFlow && (isFlow next || s.cursor.index = s.adjacentValue))

def readToken (s : Lexer) : Option Lexer :=
  let c := s.cursor
  let next := c.peekAt 1
  match c.peek with
  | '[' => s.readFlowStart .flowSequenceStart
  | '\x7b' => s.readFlowStart .flowMappingStart
  | ']' => s.readFlowEnd .flowSequenceEnd
  | '\x7d' => s.readFlowEnd .flowMappingEnd
  | ',' => s.readFlowEntry
  | '-' => if isGap next then s.readBlockEntry else s.readPlain
  | '?' => if isGap next then s.readKey else s.readPlain
  | ':' => if s.isValueSign then s.readValue else s.readPlain
  | '*' => s.readAnchor .reference
  | '&' => s.readAnchor .anchor
  | '!' => s.readTag
  | '|' => if s.inFlow then s.readPlain else s.readBlock true
  | '>' => if s.inFlow then s.readPlain else s.readBlock false
  | '\x27' => s.readQuotation true
  | '"' => s.readQuotation false
  | '%' => none
  | '@' => none
  | '\x60' => none
  | _ => s.readPlain

def advance (s : Lexer) : Option Lexer := do
  let s ← s.skipToToken
  let s ← s.ageCandidate
  let s := s.unrollTo s.cursor.column
  let c := s.cursor
  if isEnd c.peek then s.readEnd
  else if c.column = 0 && c.peek = '%' then s.readDirective
  else if c.column = 0 && c.isMarker '-' then s.readMarker .documentStart
  else if c.column = 0 && c.isMarker '.' then s.readDocumentEnd
  else if (c.column : Int) < s.indent then none
  else s.readToken

def isDone (s : Lexer) : Bool :=
  match s.tokens.back? with
  | some (.streamEnd, _) => true
  | _ => false

def readAll : Nat → Lexer → Option Lexer
  | 0, s => some s
  | fuel + 1, s => if s.isDone then some s else do readAll fuel (← s.advance)

end Lexer

/-- The tokens of a text. Every token but the last one consumes a character, so the length of the
text is enough fuel. -/
def Token.scan (text : String) : Option (List Token) := do
  let s ← Lexer.readAll (text.length + 2) (.start text)
  some (s.tokens.toList.map (·.1))

end Readiness.Yaml
