import ProviderHub.Provider.Selector

/-!
Registered providers.

Providers are numbered from one in the order of their registration, and no number is used twice.

* `Registry.matching`: the providers that match a document, in the order of their numbers;
* `Registry.best?`: the one that matches best, the earliest of equals.
-/

namespace ProviderHub

/-- The number of a provider. -/
abbrev ProviderId := Nat

/-- A registered provider. -/
structure Entry (π μ : Type) where
  id : ProviderId
  selector : Selector
  provider : π
  metadata : μ
deriving Repr

/-- A provider that matches a document, and how well. -/
structure ScoredEntry (π μ : Type) where
  score : MatchScore
  entry : Entry π μ
deriving Repr

/-- The registered providers of a feature, in increasing order of their numbers. -/
structure Registry (π μ : Type) where
  nextId : ProviderId := 1
  entries : List (Entry π μ) := []
deriving Repr

namespace Registry

variable {π μ : Type}

instance : Inhabited (Registry π μ) := ⟨{}⟩

/-- Registers a provider, under a new number. -/
def register (r : Registry π μ) (selector : Selector) (provider : π) (metadata : μ) :
    ProviderId × Registry π μ :=
  (r.nextId,
    { nextId := r.nextId + 1
      entries := r.entries ++ [⟨r.nextId, selector, provider, metadata⟩] })

/-- The provider of a number. -/
def get? (r : Registry π μ) (id : ProviderId) : Option (Entry π μ) :=
  r.entries.find? (·.id == id)

/-- Removes a provider, and tells whether it was there. -/
def unregister (r : Registry π μ) (id : ProviderId) : Bool × Registry π μ :=
  ((r.get? id).isSome, { r with entries := r.entries.filter (·.id != id) })

/-- The entries that match a document and are accepted, in order. -/
def matching (r : Registry π μ) (d : TextDocument) (accept : μ → Bool) :
    List (ScoredEntry π μ) :=
  (r.entries.filter fun e => accept e.metadata).filterMap fun e =>
    let score := e.selector.score d
    if score = .none then none else some ⟨score, e⟩

/-- The better of two matches: the higher score, then the lower number. -/
def better (a b : ScoredEntry π μ) : ScoredEntry π μ :=
  if a.score.number < b.score.number ∨
      (a.score.number = b.score.number ∧ b.entry.id < a.entry.id) then b
  else a

/-- The best of the matches. -/
def best? : List (ScoredEntry π μ) → Option (ScoredEntry π μ)
  | [] => none
  | m :: rest => some (rest.foldl better m)

end Registry

end ProviderHub
