import ProviderHub.Json.Wire

/-!
Places in documents and edits to them.
-/

namespace ProviderHub

/-- A place in a document: line and UTF-16 column, both from zero. -/
structure Position where
  line : UInt32
  character : UInt32
deriving DecidableEq, Repr, Inhabited

instance : Wire Position where
  encode p := fields [field "line" p.line, field "character" p.character]
  decode? v := do
    let r ← Record.ofJson? 2 v
    let line ← r.required 0 "line"
    let character ← r.required 1 "character"
    some { line, character }

/-- The text between two places. -/
structure Range where
  start : Position
  stop : Position
deriving DecidableEq, Repr, Inhabited

instance : Wire Range where
  encode r := fields [field "start" r.start, field "end" r.stop]
  decode? v := do
    let r ← Record.ofJson? 2 v
    let start ← r.required 0 "start"
    let stop ← r.required 1 "end"
    some { start, stop }

namespace Range

/-- The empty range at a place. -/
def point (p : Position) : Range := ⟨p, p⟩

/-- Whether a range lies on one line. -/
def isSingleLine (r : Range) : Bool := r.start.line == r.stop.line

end Range

/-- A range of a document. -/
structure Location where
  uri : Url
  range : Range
deriving DecidableEq, Repr, Inhabited

instance : Wire Location where
  encode l := fields [field "uri" l.uri, field "range" l.range]
  decode? v := do
    let r ← Record.ofJson? 2 v
    let uri ← r.required 0 "uri"
    let range ← r.required 1 "range"
    some { uri, range }

/-- The replacement of a range by a text. -/
structure TextEdit where
  range : Range
  newText : String
deriving DecidableEq, Repr, Inhabited

instance : Wire TextEdit where
  encode e := fields [field "range" e.range, field "newText" e.newText]
  decode? v := do
    let r ← Record.ofJson? 2 v
    let range ← r.required 0 "range"
    let newText ← r.required 1 "newText"
    some { range, newText }

/-- Edits to several documents, each document once, in increasing order of the texts of their URLs,
so that equal edits are equal values. -/
abbrev DocumentEdits := List (Url × List TextEdit)

namespace DocumentEdits

/-- Sets the edits of a document, in place of earlier ones. -/
def insert (uri : Url) (textEdits : List TextEdit) : DocumentEdits → DocumentEdits
  | [] => [(uri, textEdits)]
  | (u, es) :: rest =>
    if uri.toString < u.toString then (uri, textEdits) :: (u, es) :: rest
    else if uri.toString = u.toString then (uri, textEdits) :: rest
    else (u, es) :: insert uri textEdits rest

/-- Reads the edits from the fields of an object, whose keys are URLs. -/
def ofFields? : List (String × Json) → DocumentEdits → Option DocumentEdits
  | [], edits => some edits
  | (key, v) :: rest, edits => do
    let uri ← Url.parse? key
    let textEdits ← decode? v
    ofFields? rest (insert uri textEdits edits)

end DocumentEdits

instance : Wire DocumentEdits where
  encode edits := Json.object (edits.map fun (uri, es) => (uri.toString, encode es))
  decode?
    | .obj fields => DocumentEdits.ofFields? fields []
    | _ => none

/-- An edit to a workspace. Changes to documents beside text edits are passed on as they are. -/
structure WorkspaceEdit where
  changes : Option DocumentEdits := none
  documentChanges : Option Json := none
deriving DecidableEq, Repr, Inhabited

instance : Wire WorkspaceEdit where
  encode e := fields
    [fieldIfSome "changes" e.changes, fieldIfSome "documentChanges" e.documentChanges]
  decode? v := do
    let r ← Record.ofJson? 2 v
    let changes ← r.nullable 0 "changes"
    let documentChanges ← r.nullable 1 "documentChanges"
    some { changes, documentChanges }

end ProviderHub
