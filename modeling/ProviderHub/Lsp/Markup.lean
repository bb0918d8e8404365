import ProviderHub.Lsp.Basic

/-!
Formatted text and hovers.
-/

namespace ProviderHub

/-- How a text is formatted. -/
inductive MarkupKind where
  | plaintext
  | markdown
deriving DecidableEq, Repr, Inhabited

namespace MarkupKind

/-- The name of a kind on the wire. -/
def name : MarkupKind → String
  | .plaintext => "plaintext"
  | .markdown => "markdown"

/-- All kinds by name. -/
def byName : List (String × MarkupKind) :=
  [("plaintext", .plaintext), ("markdown", .markdown)]

end MarkupKind

instance : Wire MarkupKind where
  encode k := .str k.name
  decode? v := named? MarkupKind.byName v

/-- A formatted text. -/
structure MarkupContent where
  kind : MarkupKind
  value : String
deriving DecidableEq, Repr, Inhabited

instance : Wire MarkupContent where
  encode c := fields [field "kind" c.kind, field "value" c.value]
  decode? v := do
    let r ← Record.ofJson? 2 v
    let kind ← r.required 0 "kind"
    let value ← r.required 1 "value"
    some { kind, value }

/-- What is shown over a place. -/
structure Hover where
  contents : MarkupContent
  range : Option Range := none
deriving DecidableEq, Repr, Inhabited

instance : Wire Hover where
  encode h := fields [field "contents" h.contents, fieldIfSome "range" h.range]
  decode? v := do
    let r ← Record.ofJson? 2 v
    let contents ← r.required 0 "contents"
    let range ← r.nullable 1 "range"
    some { contents, range }

end ProviderHub
