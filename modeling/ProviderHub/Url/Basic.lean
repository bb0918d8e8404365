import ProviderHub.Text.Split
import ProviderHub.Url.Percent

/-!
URLs.

A URL is kept in its normalized parts. Two URLs are equal exactly when their parts are.

* `Url.toString`: the text of a URL;
* `Url.host?`: the host, if there is one that is not empty;
* `Url.segments`: the path between its slashes;
* `Url.filePath?`: the local path that a `file` URL names.
-/

namespace ProviderHub

/-- What stands between `//` and the path. An empty host is no host. -/
structure Authority where
  username : String := ""
  password : String := ""
  host : String := ""
  port : Option Nat := none
deriving DecidableEq, Repr, Inhabited

/-- A URL in normalized parts. A path that does not start with a slash and follows no authority is
opaque: it has no segments. -/
structure Url where
  scheme : String
  authority : Option Authority := none
  path : String := ""
  query : Option String := none
  fragment : Option String := none
deriving DecidableEq, Repr, Inhabited

namespace Url

/-- User name and password, with the sign that ends them. -/
def userinfo (a : Authority) : String :=
  if a.username = "" ∧ a.password = "" then ""
  else if a.password = "" then a.username ++ "@"
  else a.username ++ ":" ++ a.password ++ "@"

/-- The text of an authority. -/
def authorityText (a : Authority) : String :=
  "//" ++ userinfo a ++ a.host ++
    (match a.port with | some p => ":" ++ toString p | none => "")

/-- The text of a URL. A path that starts with two slashes is kept apart from an authority by a
dot segment. -/
def toString (u : Url) : String :=
  u.scheme ++ ":" ++
  (match u.authority with
    | some a => authorityText a
    | none => if u.path.toList.take 2 = ['/', '/'] then "/." else "") ++
  u.path ++
  (match u.query with | some q => "?" ++ q | none => "") ++
  (match u.fragment with | some f => "#" ++ f | none => "")

/-- The host, if there is one that is not empty. -/
def host? (u : Url) : Option String :=
  match u.authority with
  | some a => if a.host = "" then none else some a.host
  | none => none

/-- Whether the path is opaque text. -/
def isOpaque (u : Url) : Bool :=
  u.authority.isNone && u.path.toList.head? != some '/'

/-- The parts of the path between its slashes; a path that starts with a slash has an empty first
part. -/
def segments (u : Url) : List (List Char) := Text.splitOn '/' u.path.toList

/-- The local path that a `file` URL without a foreign host names, with its escapes undone. -/
def filePath? (u : Url) : Option String :=
  if u.scheme = "file" ∧ (u.host? = none ∨ u.host? = some "localhost") then
    match u.path.toList with
    | '/' :: rest => (Utf8.decode? (Percent.decode ('/' :: rest))).map String.ofList
    | _ => none
  else none

end Url

end ProviderHub
