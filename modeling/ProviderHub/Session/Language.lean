import ProviderHub.Config.Settings
import ProviderHub.Document
import ProviderHub.Provider.Commands
import ProviderHub.Provider.Inquiry
import ProviderHub.Provider.Providers
import ProviderHub.Resolution.Binder
import ProviderHub.Session.Query
import ProviderHub.Startup

/-!
Language features on top of providers.

A query is answered in three moves. `Language.start` says whom to ask what, unless the query has to
wait for the gates or can be answered at once. The providers answer. `Language.finish` makes the
result out of their replies, and caches what the client may come back to.

* `Language.start`, `Language.finish`: the first and the last move;
* `Language.close`: closes a document and deletes the batches that belong to it.
-/

namespace ProviderHub

/-- The state behind all language features. -/
structure Language (π : Type) where
  startup : Startup := {}
  providers : Providers π := {}
  commands : Commands π := {}
  documents : Documents := {}
  completions : Binder CompletionItem
  actions : Binder CodeAction
  lenses : Binder CodeLens
  callItems : Binder CallHierarchyItem
  limits : CompletionLimits

/-- What to do with a query. -/
inductive Start (π : Type) where
  /-- The gates are closed. -/
  | waiting
  /-- Nobody has to be asked. -/
  | done (outcome : Except RouteError Json)
  /-- Some are to be asked, about an item with this token if it is about one. -/
  | ask (question : Question) (origin : Option Token) (asked : List (Asked π))

namespace Language

variable {π : Type}

/-- The state at the beginning. -/
def ofSettings (s : Settings) : Language π where
  completions := .empty .completion s.cache.completionCapacity true
  actions := .empty .codeAction s.cache.codeActionCapacity true
  lenses := .empty .codeLens s.cache.codeLensCapacity true
  callItems := .empty .callHierarchy s.cache.callHierarchyCapacity true
  limits := s.completion

/-! ### The first move -/

/-- Whom to ask about a document. -/
def startDocument (l : Language π) (uri : Url) (query : DocumentQuery) : Start π :=
  if !l.startup.isReady then .waiting
  else
    match l.documents.get? uri with
    | none => .done (.error (.documentNotOpen uri))
    | some d =>
      match l.providers.route query d with
      | .error e => .done (.error e)
      | .ok entries =>
        .ask (.document d query) none (entries.map fun e => ⟨e.id, e.provider⟩)

/-- Whom to ask about an item that came back from the client. One that leads nowhere has the given
answer. -/
def startItem {α : Type} [Bindable α] (l : Language π) (b : Binder α) (item : α)
    (question : α → Question) (otherwise : Json) : Start π :=
  match b.resolveItem? (l.providers.registry b.feature) item with
  | some r => .ask (question r.item) (some r.token) [⟨r.entry.id, r.entry.provider⟩]
  | none => .done (.ok otherwise)

/-- The command of the cached item that a token leads to. -/
def commandBehind? {α : Type} [Bindable α] (l : Language π) (b : Binder α) (token : Token) :
    Option Command :=
  (b.resolve? (l.providers.registry b.feature) token).bind fun r => Bindable.command? r.item

/-- The command that a stand-in stands for. -/
def cachedCommand? (l : Language π) (c : CachedCommand) : Option Command :=
  match c.feature with
  | .completion => l.commandBehind? l.completions c.token
  | .codeAction => l.commandBehind? l.actions c.token
  | .codeLens => l.commandBehind? l.lenses c.token
  | _ => none

/-- Whom to ask to run a command. -/
def startHandler (l : Language π) (command : Command) : Start π :=
  match l.commands.get? command.command with
  | some handler => .ask (.execute command) none [⟨0, handler⟩]
  | none => .done (.error (.unknownCommand command.command))

/-- Whom to ask to run a command that came from the client. A stand-in is run as the command that
it stands for, and not at all when that is gone. -/
def startCommand (l : Language π) (command : Command) : Start π :=
  if command.command = cachedCommandId then
    match (command.arguments.head?.bind decode?).bind l.cachedCommand? with
    | some meant => l.startHandler meant
    | none => .done (.ok .null)
  else l.startHandler command

/-- What to do with a query. -/
def start (l : Language π) : Query → Start π
  | .document uri query => l.startDocument uri query
  | .resolveCompletion item =>
    l.startItem l.completions item .resolveCompletion (encode item)
  | .resolveAction action => l.startItem l.actions action .resolveAction (encode action)
  | .resolveLens lens => l.startItem l.lenses lens .resolveLens (encode lens)
  | .incomingCalls item => l.startItem l.callItems item .incomingCalls (.arr [])
  | .outgoingCalls item => l.startItem l.callItems item .outgoingCalls (.arr [])
  | .execute command => l.startCommand command

/-! ### The last move -/

/-- The replies of one form, with their providers. -/
def select {β : Type} (form : Reply → Option β) (results : List (ProviderId × Reply)) :
    List (ProviderId × β) :=
  results.filterMap fun (id, reply) => (form reply).map (id, ·)

/-- The only reply of a form, or `null`. -/
def single {β : Type} [Wire β] (form : Reply → Option β) (results : List (ProviderId × Reply)) :
    Json :=
  match (select form results).head? with
  | some (_, value) => encode value
  | none => .null

/-- All replies of a form, one after another. -/
def joined {β : Type} [Wire β] (form : Reply → Option (List β))
    (results : List (ProviderId × Reply)) : Json :=
  encode ((select form results).flatMap Prod.snd)

/-- The completion list of all providers, within the limits as long as the document is open. -/
def finishCompletion (l : Language π) (uri : Url) (position : Position)
    (results : List (ProviderId × Reply)) : CompletionList × Language π :=
  let lists := select Reply.completions? results
  let (items, completions) :=
    l.completions.bindAll uri (lists.map fun (id, list) => (id, list.items))
  let merged : CompletionList := { isIncomplete := lists.any (·.2.isIncomplete), items }
  (match l.documents.get? uri with
    | some d => Trim.apply l.limits d position merged
    | none => merged,
    { l with completions })

/-- What becomes of a query about a document. -/
def finishDocument (l : Language π) (uri : Url) (results : List (ProviderId × Reply)) :
    DocumentQuery → Json × Language π
  | .completion position _ =>
    let (list, l) := l.finishCompletion uri position results
    (encode list, l)
  | .hover _ => (single Reply.hover? results, l)
  | .definition _ => (joined Reply.locations? results, l)
  | .references _ _ => (joined Reply.locations? results, l)
  | .signatureHelp _ _ => (single Reply.signatures? results, l)
  | .rename _ _ => (single Reply.workspaceEdit? results, l)
  | .formatting _ => (joined Reply.edits? results, l)
  | .codeAction _ _ =>
    let (copies, actions) := l.actions.bindAll uri (select Reply.actions? results)
    (encode copies, { l with actions })
  | .codeLens =>
    let (copies, lenses) := l.lenses.bindAll uri (select Reply.lenses? results)
    (encode copies, { l with lenses })
  | .documentLink => (joined Reply.links? results, l)
  | .prepareCalls _ =>
    let (copies, callItems) := l.callItems.bindAll uri (select Reply.callItems? results)
    (encode copies, { l with callItems })

/-- What becomes of an item that was to be completed by its provider. Without a reply it stays as
it came. -/
def finishItem {α : Type} [Wire α] [Bindable α] (b : Binder α) (origin : Option Token) (item : α)
    (reply : Option α) : Json × Binder α :=
  match origin, reply with
  | some token, some out =>
    let (copy, b) := b.rebind token out
    (encode copy, b)
  | _, _ => (encode item, b)

/-- Items that a provider gave for another one become items of the same document. -/
def finishCalls {γ : Type} [Wire γ] (b : Binder CallHierarchyItem) (origin : Option Token)
    (calls : List γ) (item : γ → CallHierarchyItem) (withItem : γ → CallHierarchyItem → γ) :
    Json × Binder CallHierarchyItem :=
  match origin with
  | some token =>
    let (copies, b) := b.bindAlongside token (calls.map item)
    (encode ((calls.zip copies).map fun (c, copy) => withItem c copy), b)
  | none => (.arr [], b)

/-- The first reply of a form. -/
def first? {β : Type} (form : Reply → Option β) (results : List (ProviderId × Reply)) : Option β :=
  (select form results).head?.map Prod.snd

/-- What becomes of a query when all have answered. -/
def finish (l : Language π) (query : Query) (origin : Option Token)
    (results : List (ProviderId × Reply)) : Json × Language π :=
  match query with
  | .document uri q => l.finishDocument uri results q
  | .resolveCompletion item =>
    let (v, completions) := finishItem l.completions origin item (first? Reply.completion? results)
    (v, { l with completions })
  | .resolveAction action =>
    let (v, actions) := finishItem l.actions origin action (first? Reply.action? results)
    (v, { l with actions })
  | .resolveLens lens =>
    let (v, lenses) := finishItem l.lenses origin lens (first? Reply.lens? results)
    (v, { l with lenses })
  | .incomingCalls _ =>
    let (v, callItems) := finishCalls l.callItems origin ((first? Reply.incoming? results).getD [])
      IncomingCall.source fun c source => { c with source }
    (v, { l with callItems })
  | .outgoingCalls _ =>
    let (v, callItems) := finishCalls l.callItems origin ((first? Reply.outgoing? results).getD [])
      OutgoingCall.target fun c target => { c with target }
    (v, { l with callItems })
  | .execute _ => (single Reply.value? results, l)

/-! ### Documents and caches -/

/-- Closes a document, deletes its batches, and counts them. -/
def close (l : Language π) (uri : Url) : Nat × Language π :=
  let (a, completions) := l.completions.release uri
  let (b, actions) := l.actions.release uri
  let (c, lenses) := l.lenses.release uri
  let (d, callItems) := l.callItems.release uri
  (a + b + c + d,
    { l with documents := l.documents.erase uri, completions, actions, lenses, callItems })

/-- The features whose caches are due for a sweep. -/
def sweepsDue (l : Language π) : List Feature :=
  (if l.completions.cache.sweepDue then [.completion] else []) ++
  (if l.actions.cache.sweepDue then [.codeAction] else []) ++
  (if l.lenses.cache.sweepDue then [.codeLens] else []) ++
  (if l.callItems.cache.sweepDue then [.callHierarchy] else [])

/-- Sweeps the cache of a feature. -/
def sweep (l : Language π) : Feature → Language π
  | .completion => { l with completions := l.completions.sweep }
  | .codeAction => { l with actions := l.actions.sweep }
  | .codeLens => { l with lenses := l.lenses.sweep }
  | .callHierarchy => { l with callItems := l.callItems.sweep }
  | _ => l

/-- Ends all sweeping. -/
def shutdown (l : Language π) : Language π :=
  { l with
    completions := l.completions.shutdown
    actions := l.actions.shutdown
    lenses := l.lenses.shutdown
    callItems := l.callItems.shutdown }

end Language

end ProviderHub
