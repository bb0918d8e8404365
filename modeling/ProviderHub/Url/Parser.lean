import ProviderHub.Url.Basic
import ProviderHub.Url.Host

/-!
Reading URLs by the rules of the web's URL standard, without a base.

* `Url.parse?`: the URL of a text, normalized: the scheme in lower case, the host of a special
  scheme in lower case and ASCII, a default port dropped, dot segments removed, reserved characters
  percent-encoded;
* `Url.pathText`: the normal form of a path.
-/

namespace ProviderHub.Url

/-! ### Schemes -/

/-- The kinds of schemes, which differ in how authority and path are read. -/
inductive SchemeKind where
  | file
  /-- A scheme of the web, whose authority is required and whose separators may lean either way. -/
  | special
  | other
deriving Repr, DecidableEq

/-- The kind of a scheme. -/
def schemeKind (scheme : String) : SchemeKind :=
  if scheme = "file" then .file
  else if ["http", "https", "ws", "wss", "ftp"].contains scheme then .special
  else .other

/-- The port that a scheme implies. -/
def defaultPort? (scheme : String) : Option Nat :=
  if scheme = "http" ∨ scheme = "ws" then some 80
  else if scheme = "https" ∨ scheme = "wss" then some 443
  else if scheme = "ftp" then some 21
  else none

/-- Whether a character may follow the first letter of a scheme. -/
def isSchemeChar (c : Char) : Bool := c.isAlphanum || c = '+' || c = '-' || c = '.'

/-- The scheme in lower case, and what follows its colon. -/
def scheme? (cs : List Char) : Option (String × List Char) :=
  match cs with
  | c :: _ =>
    if c.isAlpha then
      match cs.dropWhile isSchemeChar with
      | ':' :: rest => some (String.ofList ((cs.takeWhile isSchemeChar).map Char.toLower), rest)
      | _ => none
    else none
  | [] => none

/-- Whether a character separates segments under a scheme. -/
def isSlash (kind : SchemeKind) (c : Char) : Bool := c = '/' || (c = '\\' && kind != .other)

/-- Whether a character ends an authority under a scheme. -/
def endsAuthority (kind : SchemeKind) (c : Char) : Bool :=
  isSlash kind c || c = '?' || c = '#'

/-! ### Paths -/

/-- Whether a text is a letter and a colon or bar. -/
def isDriveLetter (cs : List Char) : Bool :=
  match cs with
  | [c, d] => c.isAlpha && (d = ':' || d = '|')
  | _ => false

/-- Whether a text is a letter and a colon. -/
def isNormalDriveLetter (cs : List Char) : Bool :=
  match cs with
  | [c, ':'] => c.isAlpha
  | _ => false

/-- A segment with its dots unescaped, for recognizing dot segments. -/
def plainDots : List Char → List Char
  | '%' :: '2' :: 'e' :: rest => '.' :: plainDots rest
  | '%' :: '2' :: 'E' :: rest => '.' :: plainDots rest
  | c :: rest => c :: plainDots rest
  | [] => []

/-- The path without its last segment; the drive of a `file` path stays. Segments are kept newest
first. -/
def shorten (kind : SchemeKind) : List (List Char) → List (List Char)
  | [] => []
  | [drive] => if kind = .file ∧ isNormalDriveLetter drive then [drive] else []
  | _ :: rest => rest

/-- The path after one more segment, which `last` tells to end the path. The drive of a `file` path
is a segment of its own. -/
def addSegment (kind : SchemeKind) (last : Bool) (path : List (List Char)) (segment : List Char) :
    List (List Char) :=
  let dots := plainDots segment
  if dots = ['.', '.'] then
    let path := shorten kind path
    if last then [] :: path else path
  else if dots = ['.'] then
    if last then [] :: path else path
  else if kind = .file ∧ path.isEmpty ∧ isDriveLetter segment then
    [segment.take 1 ++ [':']] ++ path
  else if kind = .file ∧ path.isEmpty ∧ isNormalDriveLetter (segment.take 2) then
    [segment.drop 2, segment.take 2]
  else segment :: path

/-- The path after all its segments, newest first. -/
def addSegments (kind : SchemeKind) : List (List Char) → List (List Char) → List (List Char)
  | path, [] => path
  | path, [segment] => addSegment kind true path segment
  | path, segment :: rest => addSegments kind (addSegment kind false path segment) rest

/-- The segments without empty ones at the start, of which one stays if there is nothing else. -/
def dropEmptyFront : List (List Char) → List (List Char)
  | [] :: segment :: rest => dropEmptyFront (segment :: rest)
  | segments => segments

/-- The text of a path from its segments, after its first slash. -/
def pathText (kind : SchemeKind) (cs : List Char) : String :=
  let raw := Text.splitOn '/' (cs.map fun c => if isSlash kind c then '/' else c)
  let path := (addSegments kind [] (raw.map (Percent.encode .path))).reverse
  let path := if kind = .file then dropEmptyFront path else path
  String.ofList ('/' :: Text.joinWith '/' path)

/-- The path up to the query or fragment, and what follows it. -/
def cutPath (cs : List Char) : List Char × List Char :=
  let inPath (c : Char) : Bool := c != '?' && c != '#'
  (cs.takeWhile inPath, cs.dropWhile inPath)

/-- Query and fragment from what follows the path. -/
def queryFragment (kind : SchemeKind) (cs : List Char) : Option String × Option String :=
  let part : Percent.Part := if kind = .other then .query else .specialQuery
  let encoded (part : Percent.Part) (cs : List Char) : String :=
    String.ofList (Percent.encode part cs)
  match cs with
  | '?' :: rest =>
    let query := rest.takeWhile (· != '#')
    match rest.dropWhile (· != '#') with
    | '#' :: fragment => (some (encoded part query), some (encoded .fragment fragment))
    | _ => (some (encoded part query), none)
  | '#' :: fragment => (none, some (encoded .fragment fragment))
  | _ => (none, none)

/-- The URL from scheme, authority, and the text from the path on. -/
def finish (scheme : String) (authority : Option Authority) (cs : List Char) : Url :=
  let kind := schemeKind scheme
  let (path, rest) := cutPath cs
  let (query, fragment) := queryFragment kind rest
  let text :=
    match path with
    | [] => if kind = .other then "" else "/"
    | c :: tail => if isSlash kind c then pathText kind tail else pathText kind path
  { scheme, authority, path := text, query, fragment }

/-! ### Authorities -/

/-- Splits at the last `@`; `none` where there is no `@`. -/
def cutUserinfo (cs : List Char) : Option (List Char × List Char) :=
  if cs.contains '@' then
    let back := cs.reverse
    let host := back.takeWhile (· != '@')
    some ((back.drop (host.length + 1)).reverse, host.reverse)
  else none

/-- User name and password, in escaped form. -/
def credentials (cs : List Char) : String × String :=
  let user := cs.takeWhile (· != ':')
  let password := (cs.dropWhile (· != ':')).drop 1
  (String.ofList (Percent.encode .userinfo user), String.ofList (Percent.encode .userinfo password))

/-- The host of an authority up to the colon before its port; a colon between brackets is part of
the host. The flag tells whether a bracket is open. -/
def cutHost : Bool → List Char → List Char × List Char
  | _, [] => ([], [])
  | inside, c :: rest =>
    if c = ':' && !inside then ([], c :: rest)
    else
      let inside := if c = '[' then true else if c = ']' then false else inside
      let (host, rest) := cutHost inside rest
      (c :: host, rest)

/-- The port after its colon; a default port and an empty one are none. -/
def port? (scheme : String) (cs : List Char) : Option (Option Nat) :=
  if cs.all Char.isDigit then
    let n := cs.foldl (fun n c => 10 * n + (c.toNat - '0'.toNat)) 0
    if 65535 < n then none
    else if cs.isEmpty ∨ some n = defaultPort? scheme then some none
    else some (some n)
  else none

/-- An authority, from the text between the double slash and the path. -/
def authority? (scheme : String) (cs : List Char) : Option Authority := do
  let kind := schemeKind scheme
  let (userinfo, hostport) :=
    match cutUserinfo cs with
    | some (userinfo, hostport) => (some userinfo, hostport)
    | none => (none, cs)
  let (host, rest) := cutHost false hostport
  if host.isEmpty ∧ (kind = .special ∨ rest.head? = some ':' ∨ userinfo.isSome) then none
  else
    let host ← if kind = .special then Host.domain? host else Host.plain? host
    let port ← match rest with
      | ':' :: digits => port? scheme digits
      | _ => some none
    let (username, password) := credentials (userinfo.getD [])
    some { username, password, host := String.ofList host, port }

/-- A URL whose authority starts here. -/
def afterSlashes? (scheme : String) (cs : List Char) : Option Url :=
  let inside (c : Char) : Bool := !endsAuthority (schemeKind scheme) c
  (authority? scheme (cs.takeWhile inside)).map fun a =>
    finish scheme (some a) (cs.dropWhile inside)

/-! ### `file` URLs -/

/-- Whether a path starts with a drive, which takes the place of the host. -/
def startsWithDrive (url : Url) : Bool :=
  match url.path.toList with
  | '/' :: c :: ':' :: rest => c.isAlpha && (rest.isEmpty || rest.head? == some '/')
  | _ => false

/-- A `file` URL whose host starts here. `localhost` is no host, and neither is a drive letter. -/
def fileHost? (cs : List Char) : Option Url :=
  let inside (c : Char) : Bool := !endsAuthority .file c
  let host := cs.takeWhile inside
  if isDriveLetter host then some (finish "file" (some {}) cs)
  else if host.isEmpty then some (finish "file" (some {}) (cs.dropWhile inside))
  else do
    let host ← Host.domain? host
    let host := String.ofList host
    let url := finish "file" (some {}) (cs.dropWhile inside)
    if host = "localhost" ∨ startsWithDrive url then some url
    else some { url with authority := some { host } }

/-- A `file` URL after its scheme. -/
def file? (cs : List Char) : Option Url :=
  match cs with
  | a :: b :: rest =>
    if isSlash .file a && isSlash .file b then fileHost? rest else some (finish "file" (some {}) cs)
  | _ => some (finish "file" (some {}) cs)

/-! ### URLs -/

/-- A URL of a scheme that is not special, after its scheme. -/
def other? (scheme : String) (cs : List Char) : Option Url :=
  match cs with
  | '/' :: '/' :: rest => afterSlashes? scheme rest
  | '/' :: _ => some (finish scheme none cs)
  | _ =>
    let (path, rest) := cutPath cs
    let (query, fragment) := queryFragment .other rest
    some { scheme, path := String.ofList (Percent.encode .plain path), query, fragment }

/-- Characters that do not count at the ends of a URL. -/
def isPadding (c : Char) : Bool := c.toNat ≤ 0x20

/-- The text that is read: without padding at its ends, and without tabs and line breaks. -/
def clean (cs : List Char) : List Char :=
  let cs := (cs.dropWhile isPadding).reverse.dropWhile isPadding
  cs.reverse.filter fun c => c != '\t' && c != '\n' && c != '\r'

/-- The URL that a text writes. -/
def parse? (text : String) : Option Url := do
  let (scheme, rest) ← scheme? (clean text.toList)
  match schemeKind scheme with
  | .file => file? rest
  | .special => afterSlashes? scheme (rest.dropWhile (isSlash .special))
  | .other => other? scheme rest

end ProviderHub.Url
