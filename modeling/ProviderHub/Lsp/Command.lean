import ProviderHub.Lsp.Basic

/-!
Commands, and the state that stays in the process.

A provider may attach a value of its own to an item or a command. Such an attachment is never
written: it exists only while the item is held in the process.
-/

namespace ProviderHub

/-- A value that stays in the process. Copies share one serial number; two attachments made apart
differ even if they hold the same value. -/
structure Attachment where
  serial : Nat
  value : Int
deriving DecidableEq, Repr, Inhabited

/-- How an attachment is shown in diagnostic texts: not at all. -/
def Attachment.describe (_ : Attachment) : String := "ProviderData(..)"

/-- A command that a client can ask to run. -/
structure Command where
  title : String
  command : String
  arguments : List Json := []
  /-- Arguments that stay in the process. -/
  state : Option Attachment := none
deriving DecidableEq, Repr, Inhabited

/-- Whether a command loses nothing when it is written. -/
def Command.isWireSafe (c : Command) : Bool := c.state.isNone

instance : Wire Command where
  encode c := fields
    [field "title" c.title, field "command" c.command, fieldIfAny "arguments" c.arguments]
  decode? v := do
    let r ← Record.ofJson? 3 v
    let title ← r.required 0 "title"
    let command ← r.required 1 "command"
    let arguments ← r.defaulted 2 "arguments" []
    some { title, command, arguments }

end ProviderHub
