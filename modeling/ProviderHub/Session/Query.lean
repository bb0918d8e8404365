import ProviderHub.Provider.Question
import ProviderHub.Session.Method
import ProviderHub.Session.Params

/-!
What a client asks for.

* `Query`: a question about a document, about an item that a provider made, or a command;
* `Query.read`: the query that a method and its parameters stand for.
-/

namespace ProviderHub

/-- What a client asks for. -/
inductive Query where
  | document (uri : Url) (query : DocumentQuery)
  | resolveCompletion (item : CompletionItem)
  | resolveAction (action : CodeAction)
  | resolveLens (lens : CodeLens)
  | incomingCalls (item : CallHierarchyItem)
  | outgoingCalls (item : CallHierarchyItem)
  | execute (command : Command)
deriving DecidableEq, Repr

namespace Query

/-- The query of a method, from its parameters. -/
def read (method : String) (params : Option Json) : Except RpcError Query :=
  if method = Method.completion then do
    let p ← readParams CompletionParams params
    .ok (.document p.textDocument.uri (.completion p.position (p.context.getD {})))
  else if method = Method.completionResolve then
    (readParams CompletionItem params).map .resolveCompletion
  else if method = Method.hover then do
    let p ← readParams PositionParams params
    .ok (.document p.textDocument.uri (.hover p.position))
  else if method = Method.definition then do
    let p ← readParams PositionParams params
    .ok (.document p.textDocument.uri (.definition p.position))
  else if method = Method.references then do
    let p ← readParams ReferenceParams params
    .ok (.document p.textDocument.uri (.references p.position p.includeDeclaration))
  else if method = Method.signatureHelp then do
    let p ← readParams SignatureHelpParams params
    .ok (.document p.textDocument.uri (.signatureHelp p.position (p.context.getD {})))
  else if method = Method.rename then do
    let p ← readParams RenameParams params
    .ok (.document p.textDocument.uri (.rename p.position p.newName))
  else if method = Method.formatting then do
    let p ← readParams FormattingParams params
    .ok (.document p.textDocument.uri (.formatting p.options))
  else if method = Method.codeAction then do
    let p ← readParams CodeActionParams params
    .ok (.document p.textDocument.uri (.codeAction p.range p.context))
  else if method = Method.codeActionResolve then
    (readParams CodeAction params).map .resolveAction
  else if method = Method.codeLens then do
    let p ← readParams DocumentParams params
    .ok (.document p.textDocument.uri .codeLens)
  else if method = Method.codeLensResolve then
    (readParams CodeLens params).map .resolveLens
  else if method = Method.documentLink then do
    let p ← readParams DocumentParams params
    .ok (.document p.textDocument.uri .documentLink)
  else if method = Method.prepareCallHierarchy then do
    let p ← readParams PositionParams params
    .ok (.document p.textDocument.uri (.prepareCalls p.position))
  else if method = Method.incomingCalls then
    (readParams CallsParams params).map fun p => .incomingCalls p.item
  else if method = Method.outgoingCalls then
    (readParams CallsParams params).map fun p => .outgoingCalls p.item
  else if method = Method.executeCommand then do
    let p ← readParams ExecuteCommandParams params
    .ok (.execute { title := "", command := p.command, arguments := p.arguments })
  else .error (.methodNotFound method)

end Query

end ProviderHub
