import Readiness.Text.LetterCase

/-!
# Lowercase — small letters of a word

* `lowerChar` is the small form of one character, itself when there is none;
* `lowercase` is the small form of a word. A capital sigma becomes the final sigma when a cased
  letter stands before it and none after it, with ignorable characters passed over.
-/

namespace Readiness.Text

/-! ## Case properties -/

def isCased (c : Char) : Bool :=
  if c.toNat < 0x80 then c.isAlpha else inRanges LetterCase.casedRanges c.toNat

/-- Characters that are passed over when the case of a word is read. -/
def isCaseIgnorable (c : Char) : Bool :=
  if c.toNat < 0x80 then c = '\'' || c = '.' || c = ':' || c = '^' || c = '\x60'
  else inRanges LetterCase.ignorableRanges c.toNat

def findRun (n : Nat) : Option CaseRun :=
  LetterCase.lowerRuns.find? fun run =>
    run.first ≤ n && n ≤ run.last && (n - run.first) % run.step = 0

/-! ## Small forms -/

/-- The small form of a character, which for the dotted capital I is two characters. -/
def lowerChar (c : Char) : List Char :=
  if c.toNat < 0x80 then [c.toLower]
  else if c.toNat = 0x130 then ['i', Char.ofNat 0x307]
  else match findRun c.toNat with
    | some run => [Char.ofNat ((c.toNat : Int) + run.distance).toNat]
    | none => [c]

/-- Whether the first character that is not passed over is cased. -/
def startsCased (cs : List Char) : Bool :=
  match cs.dropWhile isCaseIgnorable with
  | [] => false
  | c :: _ => isCased c

/-- Small forms of `cs`, where `before` holds what stands in front of it, nearest first. -/
def lowerFrom (before : List Char) : List Char → List Char
  | [] => []
  | c :: rest =>
      let small :=
        if c = 'Σ' then
          if startsCased before && !startsCased rest then ['ς'] else ['σ']
        else lowerChar c
      small ++ lowerFrom (c :: before) rest

def lowercase (s : String) : String := String.ofList (lowerFrom [] s.toList)

end Readiness.Text
