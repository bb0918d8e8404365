import ProviderHub.Provider.Question
import ProviderHub.Provider.Registry
import ProviderHub.Provider.Route

/-!
The providers of all features.

* `Providers.route`: the providers that a question about a document goes to: all that match, or the
  one that matches best;
* `Providers.completionTriggers`, `Providers.signatureTriggers`: the characters that are announced
  to the client.
-/

namespace ProviderHub

/-- A registry for each feature. -/
structure Providers (π : Type) where
  registry : Feature → Registry π Metadata := fun _ => {}

namespace Providers

variable {π : Type}

instance : Inhabited (Providers π) := ⟨{}⟩

/-- The registries with another one for a feature. -/
def set (p : Providers π) (feature : Feature) (r : Registry π Metadata) : Providers π :=
  ⟨fun f => if f = feature then r else p.registry f⟩

/-- Registers a provider of a feature. -/
def register (p : Providers π) (feature : Feature) (selector : Selector) (provider : π)
    (metadata : Metadata) : ProviderId × Providers π :=
  let (id, r) := (p.registry feature).register selector provider metadata
  (id, p.set feature r)

/-- Removes a provider of a feature, and tells whether it was there. -/
def unregister (p : Providers π) (feature : Feature) (id : ProviderId) : Bool × Providers π :=
  let (found, r) := (p.registry feature).unregister id
  (found, p.set feature r)

/-- The providers that match a document and that a question reaches, in order. -/
def matching (p : Providers π) (query : DocumentQuery) (d : TextDocument) :
    List (ScoredEntry π Metadata) :=
  (p.registry query.feature).matching d query.reaches

/-- The providers that a question goes to. A feature whose results are merged asks all that match;
any other asks the one that matches best, and fails if there is none. -/
def route (p : Providers π) (query : DocumentQuery) (d : TextDocument) :
    Except RouteError (List (Entry π Metadata)) :=
  let found := p.matching query d
  if query.feature.isMultiResult then .ok (found.map ScoredEntry.entry)
  else
    match Registry.best? found with
    | some m => .ok [m.entry]
    | none => .error (.noProvider query.feature d.uri)

/-- The characters that a completion provider declares. -/
def completionTriggersOf : Metadata → List String
  | .completion m => m.triggers
  | _ => []

/-- The characters that a signature provider declares. -/
def signatureTriggersOf : Metadata → List String
  | .signature m => m.triggers
  | _ => []

/-- The characters that completion providers declare. -/
def completionTriggers (p : Providers π) : List String :=
  sortedUnique ((p.registry .completion).entries.flatMap fun e => completionTriggersOf e.metadata)

/-- The characters that signature providers declare. -/
def signatureTriggers (p : Providers π) : List String :=
  sortedUnique ((p.registry .signatureHelp).entries.flatMap fun e => signatureTriggersOf e.metadata)

end Providers

end ProviderHub
