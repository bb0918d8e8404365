import ProviderHub.Config.Files
import ProviderHub.Text.Split

/-!
File trees in memory.

* `FileTree.look`: what is found at a path;
* `FileTree.makeDirectory`, `FileTree.write`, `FileTree.remove`: changes that may fail.
-/

namespace ProviderHub

/-- The names on the way to a file. -/
abbrev PathParts := List String

/-- A tree of files, by the parts of their paths. -/
structure FileTree where
  entries : List (PathParts × FileState) := [([], .directory)]
deriving Repr, Inhabited

namespace FileTree

/-- One more part of a path. An empty part and a dot mean nothing, two dots lead up. -/
def extend (parts : PathParts) (part : String) : PathParts :=
  if part = "" ∨ part = "." then parts
  else if part = ".." then parts.dropLast
  else parts ++ [part]

/-- The parts of a path. -/
def partsOf (path : String) : PathParts :=
  ((Text.splitOn '/' path.toList).map String.ofList).foldl extend []

/-- What is found at the end of some parts. -/
def stateAt (t : FileTree) (parts : PathParts) : FileState := (t.entries.lookup parts).getD .absent

/-- What is found at a path. -/
def look (t : FileTree) (path : String) : FileState := t.stateAt (partsOf path)

/-- Whether there is something at a path. -/
def pathExists (t : FileTree) (path : String) : Bool := (t.look path).isThere

/-- The tree with something else at a place. -/
def set (t : FileTree) (parts : PathParts) (f : FileState) : FileTree :=
  ⟨(parts, f) :: t.entries.filter (·.1 != parts)⟩

/-- Makes a directory and those above it, unless there is a file in the way. -/
def makeDirectory (t : FileTree) (path : String) : Bool × FileTree :=
  let parts := partsOf path
  let way := (List.range (parts.length + 1)).map parts.take
  if way.all fun parts => t.stateAt parts = .absent ∨ t.stateAt parts = .directory then
    (true, way.foldl (fun t parts => t.set parts .directory) t)
  else (false, t)

/-- Writes a file in a directory that is there. -/
def write (t : FileTree) (path text : String) : Bool × FileTree :=
  let parts := partsOf path
  if t.stateAt parts.dropLast = .directory ∧ t.stateAt parts ≠ .directory then
    (true, t.set parts (.text text))
  else (false, t)

/-- Removes a directory with all that is in it. -/
def remove (t : FileTree) (path : String) : Bool × FileTree :=
  let parts := partsOf path
  if t.stateAt parts = .directory then
    (true, ⟨t.entries.filter fun (p, _) => !parts.isPrefixOf p⟩)
  else (false, t)

end FileTree

end ProviderHub
