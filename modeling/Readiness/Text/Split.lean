/-!
# Split — texts cut at a character

* `splitAt` cuts a list of characters at every occurrence of one of them;
* `segments` are the parts of a text that are not empty, and `segments_append` says that the
  segments of two texts joined by the cutting character are those of the first and then those of
  the second;
* `splitFirst?` cuts a text at the first occurrence only;
* `joined` writes texts one after the other with a separator between them.
-/

namespace Readiness.Text

/-- The parts of a list between the occurrences of `sep`; there is one more part than occurrences. -/
def splitAt (sep : Char) : List Char → List (List Char)
  | [] => [[]]
  | c :: rest =>
      if c = sep then [] :: splitAt sep rest
      else
        match splitAt sep rest with
        | [] => [[c]]
        | part :: parts => (c :: part) :: parts

/-- The parts of a text that are not empty. -/
def segments (sep : Char) (s : String) : List String :=
  ((splitAt sep s.toList).filter fun part => !part.isEmpty).map String.ofList

def splitFirst? (sep : Char) (s : String) : Option (String × String) :=
  match s.toList.dropWhile (· != sep) with
  | [] => none
  | _ :: after => some (String.ofList (s.toList.takeWhile (· != sep)), String.ofList after)

def joined (separator : String) : List String → String
  | [] => ""
  | [s] => s
  | s :: rest => s ++ separator ++ joined separator rest

theorem splitAt_ne_nil (sep : Char) (cs : List Char) : splitAt sep cs ≠ [] := by
  cases cs with
  | nil => simp [splitAt]
  | cons c rest =>
      simp only [splitAt]
      split
      · simp
      · split <;> simp

theorem splitAt_append (sep : Char) (p q : List Char) :
    splitAt sep (p ++ sep :: q) = splitAt sep p ++ splitAt sep q := by
  induction p with
  | nil => simp [splitAt]
  | cons c rest ih =>
      simp only [List.cons_append, splitAt]
      split
      · simp [ih]
      · rw [ih]
        cases h : splitAt sep rest with
        | nil => exact absurd h (splitAt_ne_nil sep rest)
        | cons part parts => simp

/-- The segments of two texts around the cutting character. -/
theorem segments_append (sep : Char) (p q : String) :
    segments sep (p ++ String.ofList [sep] ++ q) = segments sep p ++ segments sep q := by
  simp [segments, String.toList_append, splitAt_append]

end Readiness.Text
