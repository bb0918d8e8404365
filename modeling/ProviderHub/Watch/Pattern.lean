import ProviderHub.Lsp.FileEvent
import ProviderHub.Text.Split

/-!
Which files a watch sees.

* `WatchPattern.covers`: whether one pattern sees all that another one sees;
* `WatchPattern.observes`: whether a pattern sees a file;
* `Url.isWithin`: whether one path is another one or lies below it.
-/

namespace ProviderHub

namespace Url

/-- Whether two URLs have one scheme and one host. -/
def sameHost (u v : Url) : Bool := u.scheme == v.scheme && u.host? == v.host?

/-- Whether a path is another one or lies below it. -/
def pathWithin (child parent : List Char) : Bool :=
  match Text.dropPrefix? parent child with
  | none => false
  | some [] => true
  | some (c :: _) => parent.getLast? == some '/' || c == '/'

/-- Whether a URL is another one or lies below it. -/
def isWithin (child parent : Url) : Bool :=
  child.sameHost parent && pathWithin child.path.toList parent.path.toList

/-- The path above a path; the topmost one is above itself. -/
def parentPath (path : List Char) : List Char :=
  match ((Text.trimEnd '/' path).reverse.dropWhile (· != '/')).drop 1 with
  | [] => ['/']
  | above => above.reverse

/-- A URL as the base of a watch: without slashes at the end, query and fragment. -/
def watchBase (u : Url) : Url :=
  let trimmed := Text.trimEnd '/' u.path.toList
  let path :=
    if u.isOpaque then
      if trimmed.isEmpty then "%2F" else String.ofList (Text.trimEnd ' ' trimmed)
    else if trimmed.isEmpty then "/"
    else String.ofList trimmed
  { u with path, query := none, fragment := none }

/-- Whether what a URL names is on disk. Only files can be missing. -/
def isOnDisk (pathExists : String → Bool) (u : Url) : Bool :=
  if u.scheme = "file" then
    match u.filePath? with
    | some path => pathExists path
    | none => false
  else true

end Url

/-- A directory to watch, with all that is below it or only with its own entries. -/
structure WatchPattern where
  base : Url
  recursive : Bool
deriving DecidableEq, Repr, Inhabited

namespace WatchPattern

/-- Whether a pattern sees all that another one sees. -/
def covers (p q : WatchPattern) : Bool :=
  if p.recursive then q.base.isWithin p.base else !q.recursive && q.base == p.base

/-- Whether a pattern sees a file. -/
def observes (p : WatchPattern) (uri : Url) : Bool :=
  if p.recursive then uri.isWithin p.base
  else
    uri.sameHost p.base &&
      (uri.path == p.base.path || Url.parentPath uri.path.toList == p.base.path.toList)

/-- The pattern with its base in the form of watches. -/
def normalized (p : WatchPattern) : WatchPattern := { p with base := p.base.watchBase }

/-- The glob of a pattern. -/
def glob (p : WatchPattern) : String := if p.recursive then "**/*" else "*"

/-- What a client is asked to watch for a pattern. -/
def toWatcher (p : WatchPattern) (kind : WatchKind) : FileSystemWatcher :=
  { globPattern := ⟨p.base, p.glob⟩, kind := some kind }

end WatchPattern

end ProviderHub
