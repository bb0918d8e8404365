import ProviderHub.Lsp.Basic

/-!
Changes to files, and what a client is asked to watch.
-/

namespace ProviderHub

/-- What happened to a file. -/
inductive FileChange where
  | created
  | changed
  | deleted
deriving DecidableEq, Repr, Inhabited

/-- All changes by number. -/
def FileChange.byNumber : List (Nat × FileChange) :=
  [(1, .created), (2, .changed), (3, .deleted)]

/-- The number of a change on the wire. -/
def FileChange.number : FileChange → Nat
  | .created => 1
  | .changed => 2
  | .deleted => 3

instance : Wire FileChange where
  encode c := .int c.number
  decode? v := numbered? FileChange.byNumber v

/-- A set of changes, as a bit mask. -/
structure WatchKind where
  bits : UInt8
deriving DecidableEq, Repr, Inhabited

namespace WatchKind

/-- All three changes. -/
def all : WatchKind := ⟨7⟩

/-- The set of one change. -/
def single : FileChange → WatchKind
  | .created => ⟨1⟩
  | .changed => ⟨2⟩
  | .deleted => ⟨4⟩

/-- The changes of either set. -/
def union (k l : WatchKind) : WatchKind := ⟨k.bits ||| l.bits⟩

/-- Whether a set has a change. -/
def accepts (k : WatchKind) (change : FileChange) : Bool :=
  k.bits &&& (single change).bits != 0

end WatchKind

instance : Wire WatchKind where
  encode k := encode k.bits
  decode? v := (decode? v).map WatchKind.mk

/-- A change to a file. -/
structure FileEvent where
  uri : Url
  change : FileChange
deriving DecidableEq, Repr, Inhabited

instance : Wire FileEvent where
  encode e := fields [field "uri" e.uri, field "type" e.change]
  decode? v := do
    let r ← Record.ofJson? 2 v
    let uri ← r.required 0 "uri"
    let change ← r.required 1 "type"
    some { uri, change }

/-- A glob pattern below a base. -/
structure RelativePattern where
  baseUri : Url
  pattern : String
deriving DecidableEq, Repr, Inhabited

instance : Wire RelativePattern where
  encode p := fields [field "baseUri" p.baseUri, field "pattern" p.pattern]
  decode? v := do
    let r ← Record.ofJson? 2 v
    let baseUri ← r.required 0 "baseUri"
    let pattern ← r.required 1 "pattern"
    some { baseUri, pattern }

/-- What a client is asked to watch. -/
structure FileSystemWatcher where
  globPattern : RelativePattern
  kind : Option WatchKind := none
deriving DecidableEq, Repr, Inhabited

instance : Wire FileSystemWatcher where
  encode w := fields [field "globPattern" w.globPattern, fieldIfSome "kind" w.kind]
  decode? v := do
    let r ← Record.ofJson? 2 v
    let globPattern ← r.required 0 "globPattern"
    let kind ← r.optional 1 "kind"
    some { globPattern, kind }

end ProviderHub
