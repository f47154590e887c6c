import Readiness.Yaml.Node
import Readiness.Yaml.Token

/-!
# Documents — nodes out of tokens

`Document.ofTokens?` reads the documents of a list of tokens as nodes, and finds nothing when the
tokens are in no valid order, when a mapping has a key twice, or when an alias names no anchor.

* an anchor is known as soon as it was passed, but an alias inside its own node has no node yet;
* a node that is left out counts as null;
* a key that contradicts its tag is dropped, and what follows it takes its place.
-/

namespace Readiness.Yaml

/-- What is known of anchors and handles while documents are read. -/
structure Scope where
  -- The latest anchor of each name in this document.
  anchors : List (String × Nat)
  -- The nodes of anchors that are complete.
  nodes : List (Nat × Node)
  nextAnchor : Nat
  -- The handle with a meaning of its own, if there is one.
  handle : Option (String × String)
deriving Inhabited

namespace Scope

def empty : Scope := ⟨[], [], 1, none⟩

def declare (scope : Scope) (name : String) : Nat × Scope :=
  (scope.nextAnchor,
    { scope with
      anchors := (name, scope.nextAnchor) :: scope.anchors
      nextAnchor := scope.nextAnchor + 1 })

def complete (scope : Scope) (anchor : Option Nat) (node : Node) : Scope :=
  match anchor with
  | some id => { scope with nodes := (id, node) :: scope.nodes }
  | none => scope

/-- The node of an alias; nothing when no anchor of that name was passed. -/
def resolve? (scope : Scope) (name : String) : Option Node := do
  let id ← scope.anchors.lookup name
  some ((scope.nodes.lookup id).getD .bad)

/-- The tag that a written one stands for; nothing when its handle has no meaning. -/
def meaning? (scope : Scope) (tag : Tag) : Option Tag :=
  let declared : Option String :=
    match scope.handle with
    | some (handle, meaning) => if handle = tag.handle then some meaning else none
    | none => none
  match declared with
  | some meaning => some ⟨meaning, tag.suffix⟩
  | none =>
      if tag.handle = "!!" then some ⟨Node.coreHandle, tag.suffix⟩
      else if isNamedHandle tag.handle.toList then none
      else some tag

end Scope

/-- The anchor and the tag in front of a node. -/
structure Properties where
  anchor : Option Nat
  tag : Option Tag

namespace Properties

def none : Properties := ⟨.none, .none⟩

def isSome (p : Properties) : Bool := p.anchor.isSome || p.tag.isSome

end Properties

namespace Document

def properties (scope : Scope) : List Token → Option (Properties × Scope × List Token)
  | .anchor name :: .tag tag :: rest => do
      let (id, scope) := scope.declare name
      let tag ← scope.meaning? tag
      some (⟨some id, some tag⟩, scope, rest)
  | .anchor name :: rest =>
      let (id, scope) := scope.declare name
      some (⟨some id, none⟩, scope, rest)
  | .tag tag :: .anchor name :: rest => do
      let tag ← scope.meaning? tag
      let (id, scope) := scope.declare name
      some (⟨some id, some tag⟩, scope, rest)
  | .tag tag :: rest => do
      let tag ← scope.meaning? tag
      some (⟨none, some tag⟩, scope, rest)
  | rest => some (.none, scope, rest)

/-- The node of a scalar under its tag; quotes make it a text. -/
def scalarNode (tag : Option Tag) (plain : Bool) (text : String) : Node :=
  if plain then
    match tag with
    | some tag => .ofTagged tag text
    | none => .ofPlain text
  else .str text

/-- The entries of a mapping out of its keys and values in turn; nothing when a key occurs twice. A
key that contradicts its tag is dropped. -/
def entriesOf? (read : List (Node × Node)) : List Node → Option (List (Node × Node))
  | [] => some read.reverse
  | [_] => some read.reverse
  | key :: value :: rest =>
      if key.isBad then entriesOf? read (value :: rest)
      else if read.any fun entry => entry.1 == key then none
      else entriesOf? ((key, value) :: read) rest
termination_by nodes => nodes.length

/-- Whether a block mapping leaves a node out in front of this token. -/
def endsMappingNode : Token → Bool
  | .key | .value | .blockEnd => true
  | _ => false

/-- What was read: a node or the nodes of a collection, and what follows. -/
abbrev Parsed (α : Type) := α × Scope × List Token

/-- A node with properties alone is an empty scalar. -/
def leftOut (props : Properties) (scope : Scope) (tokens : List Token) : Option (Parsed Node) :=
  if props.isSome then some (scalarNode props.tag true "", scope, tokens) else none

mutual

/-- A node. Block collections are possible where `block` holds, and a sequence at the indentation of
its mapping where `indentless` holds. -/
def node (fuel : Nat) (block indentless : Bool) (scope : Scope) (tokens : List Token) :
    Option (Parsed Node) :=
  match fuel with
  | 0 => none
  | fuel + 1 =>
      match tokens with
      | .reference name :: rest => (scope.resolve? name).map fun node => (node, scope, rest)
      | _ => do
          let (props, scope, tokens) ← properties scope tokens
          let (node, scope, rest) ←
            match tokens with
            | .scalar plain text :: rest => some (scalarNode props.tag plain text, scope, rest)
            | .flowSequenceStart :: rest => do
                let (items, scope, rest) ← flowItems fuel true [] scope rest
                some (Node.seq items, scope, rest)
            | .flowMappingStart :: rest => do
                let (nodes, scope, rest) ← flowPairs fuel true [] scope rest
                let entries ← entriesOf? [] nodes
                some (Node.map entries, scope, rest)
            | .blockSequenceStart :: rest =>
                if block then do
                  let (items, scope, rest) ← blockItems fuel [] scope rest
                  some (Node.seq items, scope, rest)
                else leftOut props scope tokens
            | .blockMappingStart :: rest =>
                if block then do
                  let (nodes, scope, rest) ← blockPairs fuel [] scope rest
                  let entries ← entriesOf? [] nodes
                  some (Node.map entries, scope, rest)
                else leftOut props scope tokens
            | .blockEntry :: _ =>
                if indentless then do
                  let (items, scope, rest) ← indentlessItems fuel [] scope tokens
                  some (Node.seq items, scope, rest)
                else leftOut props scope tokens
            | _ => leftOut props scope tokens
          some (node, scope.complete props.anchor node, rest)

def blockItems (fuel : Nat) (read : List Node) (scope : Scope) (tokens : List Token) :
    Option (Parsed (List Node)) :=
  match fuel with
  | 0 => none
  | fuel + 1 =>
      match tokens with
      | .blockEnd :: rest => some (read.reverse, scope, rest)
      | .blockEntry :: rest =>
          match rest with
          | .blockEntry :: _ => blockItems fuel (.null :: read) scope rest
          | .blockEnd :: _ => blockItems fuel (.null :: read) scope rest
          | _ => do
              let (item, scope, rest) ← node fuel true false scope rest
              blockItems fuel (item :: read) scope rest
      | _ => none

/-- The entries of a sequence at the indentation of its mapping. -/
def indentlessItems (fuel : Nat) (read : List Node) (scope : Scope) (tokens : List Token) :
    Option (Parsed (List Node)) :=
  match fuel with
  | 0 => none
  | fuel + 1 =>
      match tokens with
      | .blockEntry :: rest =>
          match rest with
          | .blockEntry :: _ => indentlessItems fuel (.null :: read) scope rest
          | next :: _ =>
              if endsMappingNode next then indentlessItems fuel (.null :: read) scope rest
              else do
                let (item, scope, rest) ← node fuel true false scope rest
                indentlessItems fuel (item :: read) scope rest
          | [] => none
      | _ => some (read.reverse, scope, tokens)

/-- The keys and values of a block mapping in turn. -/
def blockPairs (fuel : Nat) (read : List Node) (scope : Scope) (tokens : List Token) :
    Option (Parsed (List Node)) :=
  match fuel with
  | 0 => none
  | fuel + 1 =>
      match tokens with
      | .blockEnd :: rest => some (read.reverse, scope, rest)
      | .value :: _ => blockValue fuel (.null :: read) scope tokens
      | .key :: rest =>
          match rest with
          | next :: _ =>
              if endsMappingNode next then blockValue fuel (.null :: read) scope rest
              else do
                let (key, scope, rest) ← node fuel true true scope rest
                blockValue fuel (key :: read) scope rest
          | [] => none
      | _ => none

def blockValue (fuel : Nat) (read : List Node) (scope : Scope) (tokens : List Token) :
    Option (Parsed (List Node)) :=
  match fuel with
  | 0 => none
  | fuel + 1 =>
      match tokens with
      | .value :: rest =>
          match rest with
          | next :: _ =>
              if endsMappingNode next then blockPairs fuel (.null :: read) scope rest
              else do
                let (value, scope, rest) ← node fuel true true scope rest
                blockPairs fuel (value :: read) scope rest
          | [] => none
      | _ => blockPairs fuel (.null :: read) scope tokens

/-- The entries of a flow sequence; a key among them starts a mapping of a single pair. -/
def flowItems (fuel : Nat) (first : Bool) (read : List Node) (scope : Scope)
    (tokens : List Token) : Option (Parsed (List Node)) :=
  match fuel with
  | 0 => none
  | fuel + 1 =>
      match tokens with
      | .flowSequenceEnd :: rest => some (read.reverse, scope, rest)
      | .flowEntry :: rest => if first then none else flowItem fuel read scope rest
      | _ => if first then flowItem fuel read scope tokens else none

def flowItem (fuel : Nat) (read : List Node) (scope : Scope) (tokens : List Token) :
    Option (Parsed (List Node)) :=
  match fuel with
  | 0 => none
  | fuel + 1 =>
      match tokens with
      | .flowSequenceEnd :: rest => some (read.reverse, scope, rest)
      | .key :: rest => do
          let (item, scope, rest) ← singlePair fuel scope rest
          flowItems fuel false (item :: read) scope rest
      | _ => do
          let (item, scope, rest) ← node fuel false false scope tokens
          flowItems fuel false (item :: read) scope rest

/-- A mapping of a single pair. An indicator in the place of the key is passed with it. -/
def singlePair (fuel : Nat) (scope : Scope) (tokens : List Token) : Option (Parsed Node) :=
  match fuel with
  | 0 => none
  | fuel + 1 => do
      let (key, scope, rest) ←
        match tokens with
        | .value :: rest => some (Node.null, scope, rest)
        | .flowEntry :: rest => some (Node.null, scope, rest)
        | .flowSequenceEnd :: rest => some (Node.null, scope, rest)
        | _ => node fuel false false scope tokens
      let (value, scope, rest) ←
        match rest with
        | .value :: .flowEntry :: _ => some (Node.null, scope, rest.drop 1)
        | .value :: .flowSequenceEnd :: _ => some (Node.null, scope, rest.drop 1)
        | .value :: rest => node fuel false false scope rest
        | _ => some (Node.null, scope, rest)
      let entries ← entriesOf? [] [key, value]
      some (.map entries, scope, rest)

def flowPairs (fuel : Nat) (first : Bool) (read : List Node) (scope : Scope)
    (tokens : List Token) : Option (Parsed (List Node)) :=
  match fuel with
  | 0 => none
  | fuel + 1 =>
      match tokens with
      | .flowMappingEnd :: rest => some (read.reverse, scope, rest)
      | .flowEntry :: rest => if first then none else flowPair fuel read scope rest
      | _ => if first then flowPair fuel read scope tokens else none

def flowPair (fuel : Nat) (read : List Node) (scope : Scope) (tokens : List Token) :
    Option (Parsed (List Node)) :=
  match fuel with
  | 0 => none
  | fuel + 1 =>
      match tokens with
      | .flowMappingEnd :: rest => some (read.reverse, scope, rest)
      | .value :: _ => flowValue fuel (.null :: read) scope tokens
      | .key :: rest =>
          match rest with
          | .value :: _ => flowValue fuel (.null :: read) scope rest
          | .flowEntry :: _ => flowValue fuel (.null :: read) scope rest
          | .flowMappingEnd :: _ => flowValue fuel (.null :: read) scope rest
          | _ => do
              let (key, scope, rest) ← node fuel false false scope rest
              flowValue fuel (key :: read) scope rest
      | _ => do
          let (key, scope, rest) ← node fuel false false scope tokens
          flowPairs fuel false (.null :: key :: read) scope rest

def flowValue (fuel : Nat) (read : List Node) (scope : Scope) (tokens : List Token) :
    Option (Parsed (List Node)) :=
  match fuel with
  | 0 => none
  | fuel + 1 =>
      match tokens with
      | .value :: rest =>
          match rest with
          | .flowEntry :: _ => flowPairs fuel false (.null :: read) scope rest
          | .flowMappingEnd :: _ => flowPairs fuel false (.null :: read) scope rest
          | _ => do
              let (value, scope, rest) ← node fuel false false scope rest
              flowPairs fuel false (value :: read) scope rest
      | _ => flowPairs fuel false (.null :: read) scope tokens

end

/-! ## Documents -/

/-- The directives in front of a document. Only the last one counts; a second version is refused. -/
def directives (versioned : Bool) (scope : Scope) : List Token → Option (Scope × List Token)
  | .directive .version :: rest =>
      if versioned then none else directives true { scope with handle := none } rest
  | .directive (.tag handle meaning) :: rest =>
      directives versioned { scope with handle := some (handle, meaning) } rest
  | rest => some (scope, rest)

/-- Whether a document without content ends in front of this token. -/
def endsDocument : Token → Bool
  | .directive _ | .documentStart | .documentEnd | .streamEnd => true
  | _ => false

def content (fuel : Nat) (scope : Scope) (tokens : List Token) : Option (Parsed Node) :=
  match tokens with
  | next :: _ =>
      if endsDocument next then some (.null, scope, tokens) else node fuel true false scope tokens
  | [] => none

/-- The documents from one token on. Without a marker of its end a document is followed by the
marker of a start; `bare` says that a document may start without one. -/
def documents (fuel : Nat) (bare : Bool) (read : List Node) (scope : Scope) (tokens : List Token) :
    Option (List Node) :=
  match fuel with
  | 0 => none
  | fuel + 1 => do
      let tokens := tokens.dropWhile (· = .documentEnd)
      match tokens with
      | [] => none
      | .streamEnd :: _ => some read.reverse
      | next :: _ =>
          let explicit : Bool := !bare || (match next with
            | .directive _ | .documentStart => true
            | _ => false)
          let scope := { scope with anchors := [] }
          let (doc, scope, rest) ←
            if explicit then do
              let (scope, rest) ← directives false scope tokens
              match rest with
              | .documentStart :: rest => content (4 * rest.length + 8) scope rest
              | _ => none
            else node (4 * tokens.length + 8) true false scope tokens
          let scope := { scope with handle := none }
          match rest with
          | .documentEnd :: rest => documents fuel true (doc :: read) scope rest
          | .directive _ :: _ => none
          | _ => documents fuel false (doc :: read) scope rest

/-- The documents of a list of tokens. Each document takes at least one token, so their number is
enough fuel. -/
def ofTokens? (tokens : List Token) : Option (List Node) :=
  documents (tokens.length + 1) true [] .empty tokens

end Document

end Readiness.Yaml
