import ProviderHub.Provider.Question
import ProviderHub.Provider.Registry

/-!
Questions that are put to several providers at once.

* `Inquiry.start`: asks the providers; some may answer at once;
* `Inquiry.answer`: one more has answered, in whatever order;
* `Inquiry.results`: what they replied, in the order in which they were asked.
-/

namespace ProviderHub

/-- The number of a call to a provider. -/
abbrev CallId := Nat

/-- A provider that is asked. The handler of a command has no number of its own and goes by zero. -/
structure Asked (π : Type) where
  provider : ProviderId
  handle : π
deriving Repr

/-- One call of an inquiry, and its answer once there is one. A provider that fails or that has
nothing to say answers with nothing. -/
structure Call (π : Type) where
  id : CallId
  asked : Asked π
  answer : Option (Option Reply) := none
deriving Repr

/-- A question that is put to providers, in the order of their numbers. -/
structure Inquiry (π : Type) where
  question : Question
  calls : List (Call π)
deriving Repr

namespace Inquiry

variable {π : Type}

/-- Puts a question to providers. The calls are numbered on from `first`; `atOnce` gives the
answers that need no waiting. -/
def start (atOnce : π → Question → Option (Option Reply)) (first : CallId) (question : Question)
    (asked : List (Asked π)) : Inquiry π :=
  { question
    calls := asked.zipIdx.map fun (a, i) => ⟨first + i, a, atOnce a.handle question⟩ }

/-- Notes the answer to a call. The first answer counts. -/
def answer (i : Inquiry π) (call : CallId) (reply : Option Reply) : Inquiry π :=
  { i with calls := i.calls.map fun c =>
      if c.id = call ∧ c.answer.isNone then { c with answer := some reply } else c }

/-- The calls that have not been answered. -/
def outstanding (i : Inquiry π) : List (Call π) := i.calls.filter (·.answer.isNone)

/-- Whether all have answered. -/
def isDone (i : Inquiry π) : Bool := i.calls.all (·.answer.isSome)

/-- What the providers replied, less those that had nothing to say. -/
def results (i : Inquiry π) : List (ProviderId × Reply) :=
  i.calls.filterMap fun c => c.answer.join.map (c.asked.provider, ·)

end Inquiry

end ProviderHub
