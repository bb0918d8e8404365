import ProviderHub.Lsp.Command
import ProviderHub.Lsp.Markup

/-!
Completion items, lists and requests.
-/

namespace ProviderHub

/-- The kind of a completion item, by its number from 1 to 25. -/
structure CompletionItemKind where
  number : Nat
  one_le : 1 ≤ number := by omega
  le_last : number ≤ 25 := by omega
deriving DecidableEq, Repr

instance : Wire CompletionItemKind where
  encode k := .int k.number
  decode? v := (natBelow? 26 v).bind fun n =>
    if h : 1 ≤ n ∧ n ≤ 25 then some ⟨n, h.1, h.2⟩ else none

/-- What made a client ask for completion. -/
inductive CompletionTrigger where
  | invoked
  | character
  | incomplete
deriving DecidableEq, Repr, Inhabited

/-- All triggers by number. -/
def CompletionTrigger.byNumber : List (Nat × CompletionTrigger) :=
  [(1, .invoked), (2, .character), (3, .incomplete)]

/-- The number of a trigger on the wire. -/
def CompletionTrigger.number : CompletionTrigger → Nat
  | .invoked => 1
  | .character => 2
  | .incomplete => 3

instance : Wire CompletionTrigger where
  encode t := .int t.number
  decode? v := numbered? CompletionTrigger.byNumber v

/-- How completion was asked for. -/
structure CompletionContext where
  triggerKind : CompletionTrigger := .invoked
  triggerCharacter : Option String := none
deriving DecidableEq, Repr, Inhabited

instance : Wire CompletionContext where
  encode c := fields
    [field "triggerKind" c.triggerKind, fieldIfSome "triggerCharacter" c.triggerCharacter]
  decode? v := do
    let r ← Record.ofJson? 2 v
    let triggerKind ← r.required 0 "triggerKind"
    let triggerCharacter ← r.optional 1 "triggerCharacter"
    some { triggerKind, triggerCharacter }

/-- One proposal for completion. -/
structure CompletionItem where
  label : String
  kind : Option CompletionItemKind := none
  detail : Option String := none
  documentation : Option MarkupContent := none
  sortText? : Option String := none
  filterText? : Option String := none
  insertText : Option String := none
  textEdit : Option TextEdit := none
  additionalTextEdits : List TextEdit := []
  preselect : Option Bool := none
  command : Option Command := none
  data : Option Json := none
  state : Option Attachment := none
deriving DecidableEq, Repr, Inhabited

namespace CompletionItem

/-- The text that is matched with what was typed. -/
def filterText (item : CompletionItem) : String := item.filterText?.getD item.label

/-- The text that orders items without a match. -/
def sortText (item : CompletionItem) : String := item.sortText?.getD item.label

end CompletionItem

instance : Wire CompletionItem where
  encode i := fields
    [field "label" i.label, fieldIfSome "kind" i.kind, fieldIfSome "detail" i.detail,
      fieldIfSome "documentation" i.documentation, fieldIfSome "sortText" i.sortText?,
      fieldIfSome "filterText" i.filterText?, fieldIfSome "insertText" i.insertText,
      fieldIfSome "textEdit" i.textEdit, fieldIfAny "additionalTextEdits" i.additionalTextEdits,
      fieldIfSome "preselect" i.preselect, fieldIfSome "command" i.command,
      fieldIfSome "data" i.data]
  decode? v := do
    let r ← Record.ofJson? 12 v
    let label ← r.required 0 "label"
    let kind ← r.optional 1 "kind"
    let detail ← r.optional 2 "detail"
    let documentation ← r.optional 3 "documentation"
    let sortText? ← r.optional 4 "sortText"
    let filterText? ← r.optional 5 "filterText"
    let insertText ← r.optional 6 "insertText"
    let textEdit ← r.optional 7 "textEdit"
    let additionalTextEdits ← r.defaulted 8 "additionalTextEdits" []
    let preselect ← r.optional 9 "preselect"
    let command ← r.optional 10 "command"
    let data ← r.optional 11 "data"
    some { label, kind, detail, documentation, sortText?, filterText?, insertText, textEdit,
           additionalTextEdits, preselect, command, data }

/-- A list of proposals, and whether more typing may bring others. -/
structure CompletionList where
  isIncomplete : Bool := false
  items : List CompletionItem := []
deriving DecidableEq, Repr, Inhabited

instance : Wire CompletionList where
  encode l := fields [field "isIncomplete" l.isIncomplete, field "items" l.items]
  decode? v := do
    let r ← Record.ofJson? 2 v
    let isIncomplete ← r.required 0 "isIncomplete"
    let items ← r.required 1 "items"
    some { isIncomplete, items }

end ProviderHub
