import ProviderHub.Resolution.Token

/-!
Two-phase resolution.

What a provider returns is cached as one batch, and the client gets copies whose data is a token.
A token that comes back leads to the cached item and its provider.

* `Binder.bind`, `Binder.bindAll`: cache batches for a document, and give the copies;
* `Binder.resolve?`: the item and provider behind a token;
* `Binder.rebind`, `Binder.bindAlongside`: what a provider makes of an item belongs to the same
  document;
* `Binder.release`: deletes the batches of a document.
-/

namespace ProviderHub

/-- The batches of a feature, and the documents they belong to. -/
structure Binder (α : Type) where
  feature : Feature
  cache : Cache α
  /-- The batches of each document, oldest first. -/
  owned : List (Url × List CacheId) := []
deriving Repr

/-- An item that was recovered, with its provider. -/
structure Resolved (π μ α : Type) where
  token : Token
  entry : Entry π μ
  item : α
deriving Repr

namespace Binder

variable {α π μ : Type} [Bindable α]

/-- A binder with an empty cache. -/
def empty (feature : Feature) (capacity : Nat) (timed : Bool) : Binder α :=
  { feature, cache := { capacity, timed } }

/-- The command that stands for one with state. -/
def standIn (feature : Feature) (token : Token) (command : Command) : Command :=
  { title := command.title
    command := cachedCommandId
    arguments := [encode (CachedCommand.mk feature token)] }

/-- The copy of an item that the client gets: the token is its data, and a command with state is
replaced by one that leads back here. -/
def toWire (feature : Feature) (token : Token) (item : α) : α :=
  let copy := Bindable.withData item (encode token)
  match Bindable.command? item with
  | some command =>
    if command.isWireSafe then copy else Bindable.withCommand copy (standIn feature token command)
  | none => copy

/-- The documents without the batches that are gone, and without documents left with none. -/
def prune (cache : Cache α) (owned : List (Url × List CacheId)) : List (Url × List CacheId) :=
  (owned.map fun (uri, ids) => (uri, ids.filter cache.contains)).filter fun (_, ids) =>
    !ids.isEmpty

/-- Records one more batch of a document. -/
def record (uri : Url) (id : CacheId) (owned : List (Url × List CacheId)) :
    List (Url × List CacheId) :=
  if owned.any (·.1 == uri) then
    owned.map fun (u, ids) => if u = uri then (u, ids ++ [id]) else (u, ids)
  else owned ++ [(uri, [id])]

/-- Caches a batch, which may belong to a document, and gives the copies for the client. An empty
batch is not cached. -/
def bindFor (b : Binder α) (provider : ProviderId) (owner : Option Url) (items : List α) :
    List α × Binder α :=
  if items.isEmpty then ([], b)
  else
    let (id, cache) := b.cache.store items
    let owned := match owner with
      | some uri => record uri id (prune cache b.owned)
      | none => b.owned
    (items.zipIdx.map fun (item, index) => toWire b.feature ⟨provider, index, id⟩ item,
      { b with cache, owned })

/-- Caches a batch of a document, and gives the copies for the client. -/
def bind (b : Binder α) (provider : ProviderId) (uri : Url) (items : List α) :
    List α × Binder α :=
  b.bindFor provider (some uri) items

/-- Caches the batches of several providers for one document, and gives the copies in order. -/
def bindAll (b : Binder α) (uri : Url) : List (ProviderId × List α) → List α × Binder α
  | [] => ([], b)
  | (provider, items) :: rest =>
    let (copies, b) := b.bind provider uri items
    let (more, b) := b.bindAll uri rest
    (copies ++ more, b)

/-- The item behind a token, if its batch is cached and its provider registered. -/
def resolve? (b : Binder α) (r : Registry π μ) (token : Token) : Option (Resolved π μ α) := do
  let batch ← b.cache.get? token.cacheId
  let item ← batch[token.index]?
  let entry ← r.get? token.providerId
  some { token, entry, item }

/-- The origin of an item that a client sent back. -/
def resolveItem? (b : Binder α) (r : Registry π μ) (item : α) : Option (Resolved π μ α) :=
  (Token.ofData? (Bindable.data item)).bind (b.resolve? r)

/-- The document that a batch belongs to. -/
def ownerOf? (b : Binder α) (id : CacheId) : Option Url :=
  (b.owned.find? fun (_, ids) => ids.contains id).map Prod.fst

/-- Caches items that were made from the one behind a token. -/
def bindAlongside (b : Binder α) (token : Token) (items : List α) : List α × Binder α :=
  b.bindFor token.providerId (b.ownerOf? token.cacheId) items

/-- The copy for the client of what a provider made of an item. It keeps the token, unless it
carries a command with state: then it is a batch of its own. -/
def rebind (b : Binder α) (token : Token) (item : α) : α × Binder α :=
  match Bindable.command? item with
  | some command =>
    if command.isWireSafe then (Bindable.withData item (encode token), b)
    else
      let (copies, b) := b.bindAlongside token [item]
      (copies.getLastD item, b)
  | none => (Bindable.withData item (encode token), b)

/-- Deletes batches, and counts those that were there. -/
def deleteAll (cache : Cache α) : List CacheId → Nat × Cache α
  | [] => (0, cache)
  | id :: rest =>
    let (deleted, cache) := cache.delete id
    let (count, cache) := deleteAll cache rest
    (count + deleted.toNat, cache)

/-- Deletes the batches of a document, and counts them. -/
def release (b : Binder α) (uri : Url) : Nat × Binder α :=
  let ids := (b.owned.lookup uri).getD []
  let owned := prune b.cache (b.owned.filter (·.1 != uri))
  let (count, cache) := deleteAll b.cache ids
  (count, { b with cache, owned })

/-- A sweep of the cache that was due. -/
def sweep (b : Binder α) : Binder α := { b with cache := b.cache.sweep }

/-- Ends all sweeping. -/
def shutdown (b : Binder α) : Binder α := { b with cache := b.cache.shutdown }

end Binder

end ProviderHub
