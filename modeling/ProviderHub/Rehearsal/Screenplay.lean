import ProviderHub.Rehearsal.Script
import ProviderHub.Rehearsal.Stated

/-!
Scripts and calls in JSON.

A script is an object with a delay and one of `hang`, `fail` and `result`; the script for the second
phase may have fields to merge into the item instead of a result.

* `Performer.ofJson`: a provider with scripts for both phases;
* `Metadata.ofJson?`: what it declares;
* `Performer.handler`: a handler of commands, which echoes without a script;
* `Question.toLog`: a question as it stands in a log.
-/

namespace ProviderHub

/-! ### Replies -/

/-- The reply of a feature's provider that a value stands for. -/
def Reply.ofResult? (feature : Feature) (v : Json) : Option Reply :=
  match feature with
  | .completion => do
    let list : CompletionList ← decode? v
    let items ← (v.get? "items").bind (Stated.readAll? CompletionItem)
    some (.completions { list with items })
  | .hover => (decode? v).map .hover
  | .definition | .references => (decode? v).map .locations
  | .signatureHelp => (decode? v).map .signatures
  | .rename => (decode? v).map .workspaceEdit
  | .formatting => (decode? v).map .edits
  | .codeAction => (Stated.readAll? CodeAction v).map .actions
  | .codeLens => (Stated.readAll? CodeLens v).map .lenses
  | .documentLink => (decode? v).map .links
  | .callHierarchy => (Stated.readAll? CallHierarchyItem v).map .callItems

/-- The calls that a list of pairs of an item and its ranges stands for. -/
def callsOfPairs? {γ : Type} (make : CallHierarchyItem → List Range → γ) (v : Json) :
    Option (List γ) := do
  let pairs : List Json ← decode? v
  pairs.mapM fun
    | .arr [item, ranges] => do some (make (← Stated.read? _ item) (← decode? ranges))
    | _ => none

/-- What a script makes of an item: its result, or the item with some fields replaced. -/
def remade? (script item : Json) : Option Json :=
  match script.get? "merge" with
  | some (.obj fields) => some (fields.foldl (fun v (k, x) => Stated.withField v k x) item)
  | some _ => some item
  | none => script.get? "result"

/-- The reply to a question of the second phase. -/
def Reply.ofSecond? (script : Json) : Question → Option Reply
  | .resolveCompletion i =>
    ((remade? script (Stated.write i)).bind (Stated.read? _)).map .completion
  | .resolveAction a => ((remade? script (Stated.write a)).bind (Stated.read? _)).map .action
  | .resolveLens l => ((remade? script (Stated.write l)).bind (Stated.read? _)).map .lens
  | .incomingCalls _ =>
    ((script.get? "result").bind (callsOfPairs? IncomingCall.mk)).map .incoming
  | .outgoingCalls _ =>
    ((script.get? "result").bind (callsOfPairs? OutgoingCall.mk)).map .outgoing
  | _ => none

/-! ### Scripts -/

/-- The script that a value stands for, where `answer` says what its result means. -/
def Script.ofJson (v : Json) (answer : Question → Option Reply) : Script where
  delay := ((v.get? "delay").bind nat64?).getD 0
  answer :=
    if v.get? "hang" = some (.bool true) then none
    else if v.hasKey "fail" then some fun _ => none
    else some answer

/-- The keys of the scripts for the second phase. -/
def secondPhase : List String := ["resolve", "incoming", "outgoing"]

/-- Where the script for a question stands. -/
def Question.scriptKey : Question → String
  | .document _ _ | .execute _ => "provide"
  | .incomingCalls _ => "incoming"
  | .outgoingCalls _ => "outgoing"
  | .resolveCompletion _ | .resolveAction _ | .resolveLens _ => "resolve"

/-- A provider with the scripts that a value holds. With none for the second phase it has no part
in it. -/
def Performer.ofJson (name : String) (feature : Feature) (v : Json) : Performer where
  name
  script? q :=
    let script := Json.orNull (v.get? q.scriptKey)
    match q with
    | .document _ _ =>
      some (.ofJson script fun _ => (script.get? "result").bind (Reply.ofResult? feature))
    | _ =>
      if secondPhase.any fun key => Json.orNull (v.get? key) ≠ .null then
        some (.ofJson script (Reply.ofSecond? script))
      else none

/-- A command as it stands in a log. -/
def Command.toLog (c : Command) : Json :=
  Json.object
    [("title", .str c.title), ("command", .str c.command), ("arguments", .arr c.arguments),
      ("state", Json.orNull (c.state.map fun a => .int a.value))]

/-- A handler of commands with the script that a value holds. -/
def Performer.handler (name : String) (v : Json) : Performer where
  name
  script? q := some <|
    match v.get? "provide", q with
    | none, .execute c => { answer := some fun _ => some (.value c.toLog) }
    | none, _ => {}
    | some script, _ => .ofJson script fun _ => (script.get? "result").map .value

/-- What a provider of a feature declares. -/
def Metadata.ofJson? (feature : Feature) (v : Json) : Option Metadata := do
  let texts (key : String) : Option (List String) :=
    match Json.orNull (v.get? key) with
    | .null => some []
    | list => decode? list
  match feature with
  | .completion => some (.completion ⟨← texts "triggers"⟩)
  | .signatureHelp => some (.signature ⟨← texts "triggers", ← texts "retriggers"⟩)
  | .codeAction =>
    match Json.orNull (v.get? "kinds") with
    | .null => some (.action {})
    | kinds => some (.action ⟨some (← decode? kinds)⟩)
  | _ => some .nothing

/-! ### Logs -/

/-- The name and the details of a question about a document. -/
def DocumentQuery.toLog : DocumentQuery → String × List (String × Json)
  | .completion p c => ("completion", [("position", encode p), ("context", encode c)])
  | .hover p => ("hover", [("position", encode p)])
  | .definition p => ("definition", [("position", encode p)])
  | .references p b => ("references", [("position", encode p), ("includeDeclaration", .bool b)])
  | .signatureHelp p c => ("signatureHelp", [("position", encode p), ("context", encode c)])
  | .rename p name => ("rename", [("position", encode p), ("newName", .str name)])
  | .formatting o => ("formatting", [("options", encode o)])
  | .codeAction r c => ("codeAction", [("range", encode r), ("context", encode c)])
  | .codeLens => ("codeLens", [])
  | .documentLink => ("documentLink", [])
  | .prepareCalls p => ("prepare", [("position", encode p)])

/-- A question as it stands in a log: its name and its arguments. -/
def Question.toLog : Question → String × Json
  | .document d q =>
    let (name, details) := q.toLog
    (name, Json.object (("document", encode d) :: details))
  | .resolveCompletion i => ("resolve", Json.object [("item", Stated.write i)])
  | .resolveAction a => ("resolve", Json.object [("item", Stated.write a)])
  | .resolveLens l => ("resolve", Json.object [("item", Stated.write l)])
  | .incomingCalls i => ("incoming", Json.object [("item", Stated.write i)])
  | .outgoingCalls i => ("outgoing", Json.object [("item", Stated.write i)])
  | .execute c => ("execute", c.toLog)

/-- The log of the questions that performers have a script for. -/
def Performer.logOf (asked : List (Performer × Question)) : List Json :=
  (asked.filter fun (p, q) => (p.script? q).isSome).map fun (p, q) =>
    let (method, args) := q.toLog
    Json.object [("provider", .str p.name), ("method", .str method), ("args", args)]

end ProviderHub
