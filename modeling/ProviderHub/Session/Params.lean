import ProviderHub.Lsp.Action
import ProviderHub.Lsp.CallHierarchy
import ProviderHub.Lsp.Completion
import ProviderHub.Lsp.FileEvent
import ProviderHub.Lsp.Signature
import ProviderHub.Lsp.TextDocument
import ProviderHub.Rpc.Message

/-!
The parameters of requests and notifications.

* `readParams`: parameters of a type; missing parameters are read as `null`;
* `InitializeParams.dynamicWatchers`, `InitializeParams.dynamicFeatures`: what a client lets the
  server register later.
-/

namespace ProviderHub

/-- A type of parameters. -/
class Params (α : Type) where
  /-- The parameters that a JSON value stands for. -/
  ofJson? : Json → Option α

/-- Reads parameters. -/
def readParams (α : Type) [Params α] (params : Option Json) : Except RpcError α :=
  match Params.ofJson? (params.getD .null) with
  | some p => .ok p
  | none => .error .invalidParams

/-! ### Lifecycle -/

/-- What a client says at first. -/
structure InitializeParams where
  processId : Option UInt32
  rootUri : Option Url
  capabilities : Json
  initializationOptions : Option Json
deriving DecidableEq, Repr

instance : Params InitializeParams where
  ofJson? v := do
    let r ← Record.ofJson? 4 v
    let processId ← r.optional 0 "processId"
    let rootUri ← r.optional 1 "rootUri"
    let capabilities ← r.defaulted 2 "capabilities" Json.null
    let initializationOptions ← r.optional 3 "initializationOptions"
    some { processId, rootUri, capabilities, initializationOptions }

namespace InitializeParams

/-- Whether a client lets a capability be registered later. -/
def allowsDynamic (p : InitializeParams) (path : List String) : Bool :=
  p.capabilities.at? (path ++ ["dynamicRegistration"]) == some (.bool true)

/-- Whether watchers may be registered later. -/
def dynamicWatchers (p : InitializeParams) : Bool :=
  p.allowsDynamic ["workspace", "didChangeWatchedFiles"]

/-- Whether completion, signatures and commands may be registered later. -/
def dynamicFeatures (p : InitializeParams) : Bool :=
  p.allowsDynamic ["textDocument", "completion"] &&
    p.allowsDynamic ["textDocument", "signatureHelp"] &&
    p.allowsDynamic ["workspace", "executeCommand"]

end InitializeParams

/-- Which request to cancel. -/
structure CancelParams where
  id : RequestId
deriving DecidableEq, Repr

instance : Params CancelParams where
  ofJson? v := do
    let r ← Record.ofJson? 1 v
    let id ← r.required 0 "id"
    some { id }

/-! ### Documents and files -/

/-- A document that was opened. -/
structure DidOpenParams where
  textDocument : TextDocument
deriving DecidableEq, Repr

instance : Params DidOpenParams where
  ofJson? v := do
    let r ← Record.ofJson? 1 v
    let textDocument ← r.required 0 "textDocument"
    some { textDocument }

/-- A version of a document. -/
structure DocumentVersion where
  uri : Url
  version : Int32
deriving DecidableEq, Repr

/-- The version that a JSON value names. -/
def DocumentVersion.ofJson? (v : Json) : Option DocumentVersion := do
  let r ← Record.ofJson? 2 v
  let uri ← r.required 0 "uri"
  let version ← r.required 1 "version"
  some { uri, version }

/-- A change to a document's text. -/
structure ContentChange where
  range : Option Range
  text : String
deriving DecidableEq, Repr

/-- The change that a JSON value describes. -/
def ContentChange.ofJson? (v : Json) : Option ContentChange := do
  let r ← Record.ofJson? 2 v
  let range ← r.optional 0 "range"
  let text ← r.required 1 "text"
  some { range, text }

/-- Changes to a document. -/
structure DidChangeParams where
  textDocument : DocumentVersion
  contentChanges : List ContentChange
deriving DecidableEq, Repr

instance : Params DidChangeParams where
  ofJson? v := do
    let r ← Record.ofJson? 2 v
    let textDocument ← (r.required 0 "textDocument").bind DocumentVersion.ofJson?
    let changes : List Json ← r.required 1 "contentChanges"
    let contentChanges ← changes.mapM ContentChange.ofJson?
    some { textDocument, contentChanges }

/-- Changes to files. -/
structure DidChangeWatchedFilesParams where
  changes : List FileEvent
deriving DecidableEq, Repr

instance : Params DidChangeWatchedFilesParams where
  ofJson? v := do
    let r ← Record.ofJson? 1 v
    let changes ← r.required 0 "changes"
    some { changes }

/-! ### Features -/

/-- A document. -/
structure DocumentParams where
  textDocument : TextDocumentIdentifier
deriving DecidableEq, Repr

instance : Params DocumentParams where
  ofJson? v := do
    let r ← Record.ofJson? 1 v
    let textDocument ← r.required 0 "textDocument"
    some { textDocument }

/-- A place in a document. -/
structure PositionParams where
  textDocument : TextDocumentIdentifier
  position : Position
deriving DecidableEq, Repr

instance : Params PositionParams where
  ofJson? v := do
    let r ← Record.ofJson? 2 v
    let textDocument ← r.required 0 "textDocument"
    let position ← r.required 1 "position"
    some { textDocument, position }

/-- A place to complete at. -/
structure CompletionParams where
  textDocument : TextDocumentIdentifier
  position : Position
  context : Option CompletionContext
deriving DecidableEq, Repr

instance : Params CompletionParams where
  ofJson? v := do
    let r ← Record.ofJson? 3 v
    let textDocument ← r.required 0 "textDocument"
    let position ← r.required 1 "position"
    let context ← r.optional 2 "context"
    some { textDocument, position, context }

/-- A place in a call. -/
structure SignatureHelpParams where
  textDocument : TextDocumentIdentifier
  position : Position
  context : Option SignatureHelpContext
deriving DecidableEq, Repr

instance : Params SignatureHelpParams where
  ofJson? v := do
    let r ← Record.ofJson? 3 v
    let textDocument ← r.required 0 "textDocument"
    let position ← r.required 1 "position"
    let context ← r.optional 2 "context"
    some { textDocument, position, context }

/-- Whether the declaration counts as a reference. -/
def readIncludeDeclaration (v : Json) : Option Bool := do
  let r ← Record.ofJson? 1 v
  r.required 0 "includeDeclaration"

/-- A name whose references are looked for. -/
structure ReferenceParams where
  textDocument : TextDocumentIdentifier
  position : Position
  includeDeclaration : Bool
deriving DecidableEq, Repr

instance : Params ReferenceParams where
  ofJson? v := do
    let r ← Record.ofJson? 3 v
    let textDocument ← r.required 0 "textDocument"
    let position ← r.required 1 "position"
    let includeDeclaration ← match r.slot 2 "context" with
      | .present context => readIncludeDeclaration context
      | _ => some false
    some { textDocument, position, includeDeclaration }

/-- A name that is to change. -/
structure RenameParams where
  textDocument : TextDocumentIdentifier
  position : Position
  newName : String
deriving DecidableEq, Repr

instance : Params RenameParams where
  ofJson? v := do
    let r ← Record.ofJson? 3 v
    let textDocument ← r.required 0 "textDocument"
    let position ← r.required 1 "position"
    let newName ← r.required 2 "newName"
    some { textDocument, position, newName }

/-- A document to format. -/
structure FormattingParams where
  textDocument : TextDocumentIdentifier
  options : FormattingOptions
deriving DecidableEq, Repr

instance : Params FormattingParams where
  ofJson? v := do
    let r ← Record.ofJson? 2 v
    let textDocument ← r.required 0 "textDocument"
    let options ← r.required 1 "options"
    some { textDocument, options }

/-- A range to act on. -/
structure CodeActionParams where
  textDocument : TextDocumentIdentifier
  range : Range
  context : CodeActionContext
deriving DecidableEq, Repr

instance : Params CodeActionParams where
  ofJson? v := do
    let r ← Record.ofJson? 3 v
    let textDocument ← r.required 0 "textDocument"
    let range ← r.required 1 "range"
    let context ← r.defaulted 2 "context" {}
    some { textDocument, range, context }

/-- An item whose calls are looked for. -/
structure CallsParams where
  item : CallHierarchyItem
deriving DecidableEq, Repr

instance : Params CallsParams where
  ofJson? v := do
    let r ← Record.ofJson? 1 v
    let item ← r.required 0 "item"
    some { item }

/-- A command to run. -/
structure ExecuteCommandParams where
  command : String
  arguments : List Json
deriving DecidableEq, Repr

instance : Params ExecuteCommandParams where
  ofJson? v := do
    let r ← Record.ofJson? 2 v
    let command ← r.required 0 "command"
    let arguments ← r.defaulted 1 "arguments" []
    some { command, arguments }

instance : Params CompletionItem where
  ofJson? := decode?

instance : Params CodeAction where
  ofJson? := decode?

instance : Params CodeLens where
  ofJson? := decode?

end ProviderHub
