import ProviderHub.Lsp.Markup

/-!
Signatures of calls.
-/

namespace ProviderHub

/-- A parameter of a signature. -/
structure ParameterInformation where
  label : String
  documentation : Option MarkupContent := none
deriving DecidableEq, Repr, Inhabited

instance : Wire ParameterInformation where
  encode p := fields [field "label" p.label, fieldIfSome "documentation" p.documentation]
  decode? v := do
    let r ← Record.ofJson? 2 v
    let label ← r.required 0 "label"
    let documentation ← r.optional 1 "documentation"
    some { label, documentation }

/-- One signature. -/
structure SignatureInformation where
  label : String
  documentation : Option MarkupContent := none
  parameters : List ParameterInformation := []
  activeParameter : Option UInt32 := none
deriving DecidableEq, Repr, Inhabited

instance : Wire SignatureInformation where
  encode s := fields
    [field "label" s.label, fieldIfSome "documentation" s.documentation,
      field "parameters" s.parameters, fieldIfSome "activeParameter" s.activeParameter]
  decode? v := do
    let r ← Record.ofJson? 4 v
    let label ← r.required 0 "label"
    let documentation ← r.optional 1 "documentation"
    let parameters ← r.defaulted 2 "parameters" []
    let activeParameter ← r.optional 3 "activeParameter"
    some { label, documentation, parameters, activeParameter }

/-- The signatures at a place. -/
structure SignatureHelp where
  signatures : List SignatureInformation
  activeSignature : Option UInt32 := none
  activeParameter : Option UInt32 := none
deriving DecidableEq, Repr, Inhabited

instance : Wire SignatureHelp where
  encode h := fields
    [field "signatures" h.signatures, fieldIfSome "activeSignature" h.activeSignature,
      fieldIfSome "activeParameter" h.activeParameter]
  decode? v := do
    let r ← Record.ofJson? 3 v
    let signatures ← r.required 0 "signatures"
    let activeSignature ← r.optional 1 "activeSignature"
    let activeParameter ← r.optional 2 "activeParameter"
    some { signatures, activeSignature, activeParameter }

/-- What made a client ask for signatures. -/
inductive SignatureTrigger where
  | invoked
  | character
  | contentChange
deriving DecidableEq, Repr, Inhabited

/-- All triggers by number. -/
def SignatureTrigger.byNumber : List (Nat × SignatureTrigger) :=
  [(1, .invoked), (2, .character), (3, .contentChange)]

/-- The number of a trigger on the wire. -/
def SignatureTrigger.number : SignatureTrigger → Nat
  | .invoked => 1
  | .character => 2
  | .contentChange => 3

instance : Wire SignatureTrigger where
  encode t := .int t.number
  decode? v := numbered? SignatureTrigger.byNumber v

/-- How signatures were asked for. -/
structure SignatureHelpContext where
  triggerKind : SignatureTrigger := .invoked
  triggerCharacter : Option String := none
  isRetrigger : Bool := false
deriving DecidableEq, Repr, Inhabited

instance : Wire SignatureHelpContext where
  encode c := fields
    [field "triggerKind" c.triggerKind, fieldIfSome "triggerCharacter" c.triggerCharacter,
      field "isRetrigger" c.isRetrigger]
  decode? v := do
    let r ← Record.ofJson? 3 v
    let triggerKind ← r.required 0 "triggerKind"
    let triggerCharacter ← r.optional 1 "triggerCharacter"
    let isRetrigger ← r.defaulted 2 "isRetrigger" false
    some { triggerKind, triggerCharacter, isRetrigger }

end ProviderHub
