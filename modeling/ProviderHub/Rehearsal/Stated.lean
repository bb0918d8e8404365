import ProviderHub.Resolution.Token

/-!
Items written with what is attached to them.

On the wire an attachment is lost. In scripts and logs it is written as a number under a key of its
own, beside the other fields of the item or of its command.

* `Stated.read?`, `Stated.write`: an item with its attachments;
* `Command.readStated?`: a command with its attachment.
-/

namespace ProviderHub

/-- Items that can have an attachment. -/
class Stated (α : Type) extends Wire α, Bindable α where
  state : α → Option Attachment
  withState : α → Option Attachment → α

instance : Stated CompletionItem where
  state i := i.state
  withState i state := { i with state }

instance : Stated CodeAction where
  state a := a.state
  withState a state := { a with state }

instance : Stated CodeLens where
  state l := l.state
  withState l state := { l with state }

instance : Stated CallHierarchyItem where
  state i := i.state
  withState i state := { i with state }

namespace Stated

/-- The key of attachments. -/
def key : String := "$state"

/-- The object with one more field. -/
def withField (v : Json) (key : String) (value : Json) : Json :=
  match v with
  | .obj fields => .obj (Json.insertField key value fields)
  | _ => v

/-- The attachment that a value is written with. -/
def attachment? (v : Json) : Option Attachment :=
  ((v.get? key).bind (intBetween? Int64.minValue.toInt (-Int64.minValue.toInt))).map (Attachment.mk 0)

/-- A value with its attachment. -/
def withAttachment (v : Json) : Option Attachment → Json
  | some a => withField v key (.int a.value)
  | none => v

/-- The item that a value with attachments stands for. -/
def read? (α : Type) [Stated α] (v : Json) : Option α := do
  let item : α ← decode? v
  let item : α := withState item (attachment? v)
  match Bindable.command? item, v.get? "command" with
  | some c, some written =>
    some (Bindable.withCommand item { c with state := attachment? written })
  | _, _ => some item

/-- The items that a list of values stands for. -/
def readAll? (α : Type) [Stated α] : Json → Option (List α)
  | .arr vs => vs.mapM (read? α)
  | _ => none

/-- An item with its attachments. -/
def write {α : Type} [Stated α] (item : α) : Json :=
  let v := encode item
  let v := match Bindable.command? item, v.get? "command" with
    | some c, some written => withField v "command" (withAttachment written c.state)
    | _, _ => v
  withAttachment v (state item)

end Stated

/-- The command that a value with an attachment stands for. -/
def Command.readStated? (v : Json) : Option Command :=
  (decode? v).map fun (c : Command) => { c with state := Stated.attachment? v }

end ProviderHub
