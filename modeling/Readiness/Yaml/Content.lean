import Readiness.Json.Reader
import Readiness.Text.Blank
import Readiness.Yaml.Document

/-!
# Content — plain data out of YAML texts

* `Node.toValue` turns a node into plain data. It fails at an alias without a node, at a scalar that
  contradicts its tag, at a real whose text denotes no number and at a key that is no scalar;
* `readDocuments` reads a text: one that starts with a brace is JSON, every other one is YAML, of
  which the documents that are null are left out.
-/

namespace Readiness.Yaml

open Json (Value)

/-- Why a text has no content. -/
inductive ContentError where
  | invalidJson
  | malformed
  | invalidFloat (text : String)
  | unresolved
  | unsupportedKey (key : Node)
deriving Repr, Inhabited

namespace ContentError

def message : ContentError → String
  | invalidJson => "invalid JSON"
  | malformed => "yaml syntax error"
  | invalidFloat text => "invalid float " ++ Text.quoted text
  | unresolved => "unresolved YAML value"
  | unsupportedKey key => "unsupported mapping key " ++ key.shown

end ContentError

namespace Node

/-- The number of a real; infinities and no number are null. -/
def realValue (text : String) : Except ContentError Value :=
  match readFloat? text with
  | some x => .ok (if x.isFinite then .num (.float x) else .null)
  | none => .error (.invalidFloat text)

def keyText : Node → Except ContentError String
  | str s => .ok s
  | real text => .ok text
  | int i => .ok (toString i)
  | bool b => .ok (if b then "true" else "false")
  | key => .error (.unsupportedKey key)

mutual

def toValue : Node → Except ContentError Value
  | null => .ok .null
  | bool b => .ok (.bool b)
  | int i => .ok (.num (.int i))
  | real text => realValue text
  | str s => .ok (.str s)
  | seq items => (itemValues items).map .arr
  | map entries => (entryValues [] entries).map .obj
  | reference _ => .error .unresolved
  | bad => .error .unresolved

def itemValues : List Node → Except ContentError (List Value)
  | [] => .ok []
  | item :: rest => do
      let value ← toValue item
      let values ← itemValues rest
      .ok (value :: values)

/-- Adds the plain data of entries in order; of entries with one key text the last one stays. -/
def entryValues (read : Dict Value) : List (Node × Node) → Except ContentError (Dict Value)
  | [] => .ok read
  | (key, value) :: rest => do
      let name ← keyText key
      let value ← toValue value
      entryValues (Dict.insert name value read) rest

end

def isNull : Node → Bool
  | null => true
  | _ => false

end Node

def readNodes? (text : String) : Option (List Node) := do
  let tokens ← Token.scan text
  Document.ofTokens? tokens

/-- Whether the first character that is not blank is a brace. -/
def looksLikeJson (text : String) : Bool :=
  (text.toList.dropWhile Text.isWhite).head? = some '\x7b'

/-- The documents of a text as plain data. -/
def readDocuments (text : String) : Except ContentError (List Value) :=
  if looksLikeJson text then
    match Json.read? text with
    | some value => .ok [value]
    | none => .error .invalidJson
  else
    match readNodes? text with
    | none => .error .malformed
    | some nodes => Node.itemValues (nodes.filter fun node => !node.isNull)

end Readiness.Yaml
