import Readiness.Text.Split

/-!
# Files — trees of directories and paths through them

* `FileTree` is a file with its bytes, a file that cannot be read, or a directory with named entries;
* `Path.join` puts two paths together, and `Path.extension?` is the ending of a file name behind its
  last point;
* `FileTree.find?` follows a path from a directory, and `FileTree.readText?` reads a file as text.
-/

namespace Readiness

inductive FileTree where
  | file (bytes : ByteArray)
  -- A file that the system does not let be read, and why.
  | unreadable (reason : String)
  | directory (entries : List (String × FileTree))
deriving Inhabited

namespace Path

def isAbsolute (path : String) : Bool := path.toList.head? = some '/'

/-- The second path inside the first one; an absolute path stands for itself. -/
def join (base path : String) : String :=
  if isAbsolute path then path
  else if base.isEmpty || base.toList.getLast? = some '/' then base ++ path
  else base ++ "/" ++ path

/-- The ending of a file name behind its last point. A name without a point in it has none, nor has
one whose only point is the first character. -/
def extension? (name : String) : Option String :=
  let reversed := name.toList.reverse
  match reversed.dropWhile (· != '.') with
  | [] => none
  | [_] => none
  | _ :: _ => some (String.ofList (reversed.takeWhile (· != '.')).reverse)

/-- The steps of a path, without those that stay in place. -/
def steps (path : String) : List String := (Text.segments '/' path).filter (· != ".")

end Path

namespace FileTree

def child? (name : String) : List (String × FileTree) → Option FileTree
  | [] => none
  | (n, tree) :: rest => if n = name then some tree else child? name rest

/-- Follows steps from a tree; `above` holds the directories that a step up leads to. -/
def follow? (above : List FileTree) (tree : FileTree) : List String → Option FileTree
  | [] => some tree
  | step :: rest =>
      match tree with
      | file _ | unreadable _ => none
      | directory entries =>
          if step = ".." then
            match above with
            | parent :: further => follow? further parent rest
            | [] => none
          else
            match child? step entries with
            | some next => follow? (tree :: above) next rest
            | none => none

/-- What stands at a path below a tree. Paths that start at the root lead nowhere in it. -/
def find? (tree : FileTree) (path : String) : Option FileTree :=
  if Path.isAbsolute path then none else follow? [] tree (Path.steps path)

/-- The text of a file; bytes that form no text have none. -/
def decode? (bytes : ByteArray) : Option String := String.fromUTF8? bytes

theorem decode?_toUTF8 (text : String) : decode? text.toUTF8 = some text := by
  simp only [decode?, String.fromUTF8?, Option.dite_none_right_eq_some]
  exact ⟨text.isValidUTF8, rfl⟩

def readText? (tree : FileTree) (path : String) : Option String :=
  match tree.find? path with
  | some (file bytes) => decode? bytes
  | _ => none

/-- Adds a tree at the end of steps, with the directories on the way. -/
def insertAt (tree : FileTree) : List String → List (String × FileTree) → List (String × FileTree)
  | [], entries => entries
  | [name], entries => entries ++ [(name, tree)]
  | name :: rest, entries =>
      match child? name entries with
      | some (directory inner) =>
          entries.map fun (n, t) =>
            if n = name then (n, directory (insertAt tree rest inner)) else (n, t)
      | _ => entries ++ [(name, directory (insertAt tree rest []))]

end FileTree

end Readiness
