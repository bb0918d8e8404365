import ProviderHub.Lsp.Command

/-!
Code actions, code lenses, document links and formatting options.
-/

namespace ProviderHub

/-- How code actions were asked for. Diagnostics are passed on as they are. -/
structure CodeActionContext where
  diagnostics : List Json := []
  only : Option (List String) := none
deriving DecidableEq, Repr, Inhabited

instance : Wire CodeActionContext where
  encode c := fields [field "diagnostics" c.diagnostics, fieldIfSome "only" c.only]
  decode? v := do
    let r ← Record.ofJson? 2 v
    let diagnostics ← r.defaulted 0 "diagnostics" []
    let only ← r.optional 1 "only"
    some { diagnostics, only }

/-- A change that a client can apply. -/
structure CodeAction where
  title : String
  kind : Option String := none
  diagnostics : List Json := []
  isPreferred : Option Bool := none
  edit : Option WorkspaceEdit := none
  command : Option Command := none
  data : Option Json := none
  state : Option Attachment := none
deriving DecidableEq, Repr, Inhabited

instance : Wire CodeAction where
  encode a := fields
    [field "title" a.title, fieldIfSome "kind" a.kind, fieldIfAny "diagnostics" a.diagnostics,
      fieldIfSome "isPreferred" a.isPreferred, fieldIfSome "edit" a.edit,
      fieldIfSome "command" a.command, fieldIfSome "data" a.data]
  decode? v := do
    let r ← Record.ofJson? 7 v
    let title ← r.required 0 "title"
    let kind ← r.optional 1 "kind"
    let diagnostics ← r.defaulted 2 "diagnostics" []
    let isPreferred ← r.optional 3 "isPreferred"
    let edit ← r.optional 4 "edit"
    let command ← r.optional 5 "command"
    let data ← r.optional 6 "data"
    some { title, kind, diagnostics, isPreferred, edit, command, data }

/-- A command that is shown over a range. -/
structure CodeLens where
  range : Range
  command : Option Command := none
  data : Option Json := none
  state : Option Attachment := none
deriving DecidableEq, Repr, Inhabited

instance : Wire CodeLens where
  encode l := fields
    [field "range" l.range, fieldIfSome "command" l.command, fieldIfSome "data" l.data]
  decode? v := do
    let r ← Record.ofJson? 3 v
    let range ← r.required 0 "range"
    let command ← r.optional 1 "command"
    let data ← r.optional 2 "data"
    some { range, command, data }

/-- A range that leads elsewhere. -/
structure DocumentLink where
  range : Range
  target : Option Url := none
  tooltip : Option String := none
deriving DecidableEq, Repr, Inhabited

instance : Wire DocumentLink where
  encode l := fields
    [field "range" l.range, fieldIfSome "target" l.target, fieldIfSome "tooltip" l.tooltip]
  decode? v := do
    let r ← Record.ofJson? 3 v
    let range ← r.required 0 "range"
    let target ← r.optional 1 "target"
    let tooltip ← r.optional 2 "tooltip"
    some { range, target, tooltip }

/-- Options of a formatter. Those that are not known are kept as further properties. -/
structure FormattingOptions where
  tabSize : UInt32
  insertSpaces : Bool
  properties : List (String × Json) := []
deriving DecidableEq, Repr, Inhabited

instance : Wire FormattingOptions where
  encode o := fields
    [field "tabSize" o.tabSize, field "insertSpaces" o.insertSpaces, o.properties]
  decode?
    | .obj fields => do
      let tabSize ← (fields.lookup "tabSize").bind decode?
      let insertSpaces ← (fields.lookup "insertSpaces").bind decode?
      let properties := fields.filter fun (k, _) => k != "tabSize" && k != "insertSpaces"
      some { tabSize, insertSpaces, properties }
    | _ => none

end ProviderHub
