import ProviderHub.Lsp.CallHierarchy
import ProviderHub.Lsp.TextDocument
import ProviderHub.Provider.Feature
import ProviderHub.Provider.Metadata

/-!
What providers are asked, and what they reply.

* `DocumentQuery`: a question about a document, without the document;
* `Question`: what a provider or a command's handler is asked;
* `Reply`: what it may reply.
-/

namespace ProviderHub

/-- A question about a document. -/
inductive DocumentQuery where
  | completion (position : Position) (context : CompletionContext)
  | hover (position : Position)
  | definition (position : Position)
  | references (position : Position) (includeDeclaration : Bool)
  | signatureHelp (position : Position) (context : SignatureHelpContext)
  | rename (position : Position) (newName : String)
  | formatting (options : FormattingOptions)
  | codeAction (range : Range) (context : CodeActionContext)
  | codeLens
  | documentLink
  | prepareCalls (position : Position)
deriving DecidableEq, Repr

/-- What a provider declares when it is registered. -/
inductive Metadata where
  | nothing
  | completion (m : CompletionMetadata)
  | signature (m : SignatureMetadata)
  | action (m : CodeActionMetadata)
deriving DecidableEq, Repr, Inhabited

namespace DocumentQuery

/-- The feature that a question belongs to. -/
def feature : DocumentQuery → Feature
  | .completion _ _ => .completion
  | .hover _ => .hover
  | .definition _ => .definition
  | .references _ _ => .references
  | .signatureHelp _ _ => .signatureHelp
  | .rename _ _ => .rename
  | .formatting _ => .formatting
  | .codeAction _ _ => .codeAction
  | .codeLens => .codeLens
  | .documentLink => .documentLink
  | .prepareCalls _ => .callHierarchy

/-- Whether a question reaches a provider that declares this. -/
def reaches : DocumentQuery → Metadata → Bool
  | .completion _ context, .completion m => m.accepts context
  | .signatureHelp _ context, .signature m => m.accepts context
  | .codeAction _ context, .action m => m.accepts context
  | _, _ => true

end DocumentQuery

/-- What a provider or the handler of a command is asked. -/
inductive Question where
  | document (document : TextDocument) (query : DocumentQuery)
  | resolveCompletion (item : CompletionItem)
  | resolveAction (action : CodeAction)
  | resolveLens (lens : CodeLens)
  | incomingCalls (item : CallHierarchyItem)
  | outgoingCalls (item : CallHierarchyItem)
  | execute (command : Command)
deriving DecidableEq, Repr

/-- What a provider or the handler of a command may reply. -/
inductive Reply where
  | completions (list : CompletionList)
  | hover (hover : Hover)
  | locations (locations : List Location)
  | signatures (help : SignatureHelp)
  | workspaceEdit (edit : WorkspaceEdit)
  | edits (edits : List TextEdit)
  | actions (actions : List CodeAction)
  | lenses (lenses : List CodeLens)
  | links (links : List DocumentLink)
  | callItems (items : List CallHierarchyItem)
  | incoming (calls : List IncomingCall)
  | outgoing (calls : List OutgoingCall)
  | completion (item : CompletionItem)
  | action (action : CodeAction)
  | lens (lens : CodeLens)
  | value (value : Json)
deriving DecidableEq, Repr

namespace Reply

def completions? : Reply → Option CompletionList
  | .completions l => some l
  | _ => none

def hover? : Reply → Option Hover
  | .hover h => some h
  | _ => none

def locations? : Reply → Option (List Location)
  | .locations ls => some ls
  | _ => none

def signatures? : Reply → Option SignatureHelp
  | .signatures h => some h
  | _ => none

def workspaceEdit? : Reply → Option WorkspaceEdit
  | .workspaceEdit e => some e
  | _ => none

def edits? : Reply → Option (List TextEdit)
  | .edits es => some es
  | _ => none

def actions? : Reply → Option (List CodeAction)
  | .actions as => some as
  | _ => none

def lenses? : Reply → Option (List CodeLens)
  | .lenses ls => some ls
  | _ => none

def links? : Reply → Option (List DocumentLink)
  | .links ls => some ls
  | _ => none

def callItems? : Reply → Option (List CallHierarchyItem)
  | .callItems is => some is
  | _ => none

def incoming? : Reply → Option (List IncomingCall)
  | .incoming cs => some cs
  | _ => none

def outgoing? : Reply → Option (List OutgoingCall)
  | .outgoing cs => some cs
  | _ => none

def completion? : Reply → Option CompletionItem
  | .completion i => some i
  | _ => none

def action? : Reply → Option CodeAction
  | .action a => some a
  | _ => none

def lens? : Reply → Option CodeLens
  | .lens l => some l
  | _ => none

def value? : Reply → Option Json
  | .value v => some v
  | _ => none

end Reply

end ProviderHub
