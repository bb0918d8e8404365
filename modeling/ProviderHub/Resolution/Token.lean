import ProviderHub.Lsp.Action
import ProviderHub.Lsp.CallHierarchy
import ProviderHub.Lsp.Completion
import ProviderHub.Provider.Feature
import ProviderHub.Provider.Registry
import ProviderHub.Resolution.Cache

/-!
Tokens that lead from an item at the client back to its origin.

* `Token`: provider, batch, and place in the batch;
* `CachedCommand`: the argument that stands for a command with state;
* `Bindable`: items that carry a token.
-/

namespace ProviderHub

/-- Where an item came from. -/
structure Token where
  providerId : ProviderId
  index : Nat
  cacheId : CacheId
deriving DecidableEq, Repr, Inhabited

instance : Wire Token where
  encode t := fields
    [[("providerId", .int t.providerId)], [("index", .int t.index)], [("cacheId", .int t.cacheId)]]
  decode? v := do
    let r ← Record.ofJson? 3 v
    let providerId ← (r.required 0 "providerId").bind nat64?
    let index ← (r.required 1 "index").bind nat64?
    let cacheId ← (r.required 2 "cacheId").bind nat64?
    some { providerId, index, cacheId }

/-- The token in an item's data. -/
def Token.ofData? (data : Option Json) : Option Token := data.bind decode?

/-- The command that stands for commands with state. -/
def cachedCommandId : String := "switchboard.executeCachedCommand"

/-- The argument of the command that stands for one with state. -/
structure CachedCommand where
  feature : Feature
  token : Token
deriving DecidableEq, Repr, Inhabited

instance : Wire CachedCommand where
  encode c := fields [field "feature" c.feature, field "token" c.token]
  decode? v := do
    let r ← Record.ofJson? 2 v
    let feature ← r.required 0 "feature"
    let token ← r.required 1 "token"
    some { feature, token }

/-- Items that carry a token in their data, and maybe a command. -/
class Bindable (α : Type) where
  /-- The data of an item. -/
  data : α → Option Json
  /-- The item with other data. -/
  withData : α → Json → α
  /-- The command of an item. -/
  command? : α → Option Command
  /-- The item with another command, if its kind has one. -/
  withCommand : α → Command → α

instance : Bindable CompletionItem where
  data i := i.data
  withData i v := { i with data := some v }
  command? i := i.command
  withCommand i c := { i with command := some c }

instance : Bindable CodeAction where
  data i := i.data
  withData i v := { i with data := some v }
  command? i := i.command
  withCommand i c := { i with command := some c }

instance : Bindable CodeLens where
  data i := i.data
  withData i v := { i with data := some v }
  command? i := i.command
  withCommand i c := { i with command := some c }

instance : Bindable CallHierarchyItem where
  data i := i.data
  withData i v := { i with data := some v }
  command? _ := none
  withCommand i _ := i

end ProviderHub
