import ProviderHub.Json.Wire

/-!
The features that providers serve.
-/

namespace ProviderHub

/-- A feature of an editor. -/
inductive Feature where
  | completion
  | hover
  | definition
  | references
  | signatureHelp
  | rename
  | formatting
  | codeAction
  | codeLens
  | documentLink
  | callHierarchy
deriving DecidableEq, Repr, Inhabited

namespace Feature

/-- All features. -/
def all : List Feature :=
  [.completion, .hover, .definition, .references, .signatureHelp, .rename, .formatting,
    .codeAction, .codeLens, .documentLink, .callHierarchy]

/-- The name of a feature. -/
def name : Feature → String
  | .completion => "completion"
  | .hover => "hover"
  | .definition => "definition"
  | .references => "references"
  | .signatureHelp => "signatureHelp"
  | .rename => "rename"
  | .formatting => "formatting"
  | .codeAction => "codeAction"
  | .codeLens => "codeLens"
  | .documentLink => "documentLink"
  | .callHierarchy => "callHierarchy"

/-- All features by name. -/
def byName : List (String × Feature) := all.map fun f => (f.name, f)

/-- Whether the results of all matching providers are merged. -/
def isMultiResult : Feature → Bool
  | .completion | .references | .codeAction | .codeLens | .documentLink => true
  | _ => false

end Feature

instance : Wire Feature where
  encode f := .str f.name
  decode? v := named? Feature.byName v

end ProviderHub
