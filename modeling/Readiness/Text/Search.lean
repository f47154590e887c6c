/-!
# Search — texts within texts

* `occursIn` asks whether a text occurs in another one, and `startsWith` whether it stands at the
  front of it;
* `upTo?` is what stands up to the end of the first occurrence of a text.
-/

namespace Readiness.Text

def occurs (needle : List Char) : List Char → Bool
  | [] => needle.isEmpty
  | c :: rest => needle.isPrefixOf (c :: rest) || occurs needle rest

def occursIn (needle text : String) : Bool := occurs needle.toList text.toList

def startsWith (start text : String) : Bool := start.toList.isPrefixOf text.toList

/-- What stands up to the end of the first occurrence of `needle`. -/
def upToChars? (needle : List Char) : List Char → Option (List Char)
  | [] => if needle.isEmpty then some [] else none
  | c :: rest =>
      if needle.isPrefixOf (c :: rest) then some needle
      else (upToChars? needle rest).map (c :: ·)

def upTo? (needle text : String) : Option String :=
  (upToChars? needle.toList text.toList).map String.ofList

end Readiness.Text
