import ProviderHub.Lsp.Action
import ProviderHub.Lsp.Completion
import ProviderHub.Lsp.Signature

/-!
What providers declare when they are registered, and which requests therefore reach them.

* `CompletionMetadata.accepts`, `SignatureMetadata.accepts`: a request that was made by typing a
  character reaches only the providers that declare it;
* `CodeActionMetadata.accepts`: a request for certain kinds of actions reaches the providers of an
  overlapping kind;
* `kindsOverlap`: kinds are dotted hierarchies, and two overlap if one lies in the other.
-/

namespace ProviderHub

/-- What a completion provider declares. -/
structure CompletionMetadata where
  triggers : List String := []
deriving DecidableEq, Repr, Inhabited

/-- Whether a request reaches a provider that declares this. -/
def CompletionMetadata.accepts (m : CompletionMetadata) (c : CompletionContext) : Bool :=
  match c.triggerKind, c.triggerCharacter with
  | .character, some ch => m.triggers.contains ch
  | _, _ => true

/-- What a signature provider declares. -/
structure SignatureMetadata where
  triggers : List String := []
  retriggers : List String := []
deriving DecidableEq, Repr, Inhabited

/-- Whether a request reaches a provider that declares this. -/
def SignatureMetadata.accepts (m : SignatureMetadata) (c : SignatureHelpContext) : Bool :=
  match c.triggerKind, c.triggerCharacter with
  | .character, some ch =>
    m.triggers.contains ch || (c.isRetrigger && m.retriggers.contains ch)
  | _, _ => true

/-- Whether a kind is another one or lies in it: the other is followed by a dot. -/
def kindWithin (child parent : List Char) : Bool :=
  match Text.dropPrefix? parent child with
  | some [] => true
  | some (c :: _) => c = '.'
  | none => false

/-- Whether two kinds overlap. -/
def kindsOverlap (a b : String) : Bool :=
  kindWithin b.toList a.toList || kindWithin a.toList b.toList

/-- What a code action provider declares; no declaration means any kind. -/
structure CodeActionMetadata where
  kinds : Option (List String) := none
deriving DecidableEq, Repr, Inhabited

/-- Whether a request reaches a provider that declares this. -/
def CodeActionMetadata.accepts (m : CodeActionMetadata) (c : CodeActionContext) : Bool :=
  match c.only, m.kinds with
  | some only, some kinds => kinds.any fun kind => only.any (kindsOverlap kind)
  | _, _ => true

/-- The texts in increasing order, each once. -/
def sortedUnique (texts : List String) : List String :=
  (texts.mergeSort fun a b => a ≤ b).eraseDups

end ProviderHub
