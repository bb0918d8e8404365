import Mathlib.Tactic
import ProviderHub.Proofs.Lsp.Reading
import ProviderHub.Proofs.Resolution.Numbers
import ProviderHub.Resolution.Binder

/-!
Copies that lead back to their originals.

* `Binder.Follows`: whatever a binder does, its cache only goes through actions of caches;
* `Binder.Leads`: a copy whose token leads to a batch with its original;
* `Binder.leads_of_mem_bindFor`, `Binder.leads_of_mem_bindAll`: all copies do;
* `Binder.resolve?_eq`, `Binder.resolveItem?_eq`: what is found behind a token, at any later time.
-/

namespace ProviderHub

/-- Data that has been set is there, and is kept when a command is set. -/
class LawfulBindable (α : Type) [Bindable α] : Prop where
  data_withData : ∀ (item : α) (v : Json), Bindable.data (Bindable.withData item v) = some v
  data_withCommand : ∀ (item : α) (command : Command),
    Bindable.data (Bindable.withCommand item command) = Bindable.data item

instance : LawfulBindable CompletionItem := ⟨fun _ _ => rfl, fun _ _ => rfl⟩

instance : LawfulBindable CodeAction := ⟨fun _ _ => rfl, fun _ _ => rfl⟩

instance : LawfulBindable CodeLens := ⟨fun _ _ => rfl, fun _ _ => rfl⟩

instance : LawfulBindable CallHierarchyItem := ⟨fun _ _ => rfl, fun _ _ => rfl⟩

namespace Binder

/-! ### What happens to the cache -/

section cache

variable {α : Type} {b b' b'' : Binder α}

/-- A binder has gone on to another one: its cache has gone through actions of caches. -/
structure Follows (b b' : Binder α) : Prop where
  feature_eq : b'.feature = b.feature
  cache_eq : ∃ actions : List (CacheAction α), b'.cache = actions.foldl Cache.step b.cache

@[refl] lemma Follows.refl (b : Binder α) : b.Follows b := ⟨rfl, [], rfl⟩

lemma Follows.trans (h : b.Follows b') (h' : b'.Follows b'') : b.Follows b'' := by
  obtain ⟨hfeature, actions, hcache⟩ := h
  obtain ⟨hfeature', actions', hcache'⟩ := h'
  refine ⟨hfeature'.trans hfeature, actions ++ actions', ?_⟩
  rw [hcache', hcache, List.foldl_append]

lemma deleteAll_eq (cache : Cache α) (ids : List CacheId) :
    (deleteAll cache ids).2 = (ids.map CacheAction.delete).foldl Cache.step cache := by
  induction ids generalizing cache with
  | nil => rfl
  | cons id ids ih => exact ih _

lemma release_follows (b : Binder α) (uri : Url) : b.Follows (b.release uri).2 :=
  ⟨rfl, _, deleteAll_eq b.cache _⟩

lemma sweep_follows (b : Binder α) : b.Follows b.sweep := ⟨rfl, [.sweep], rfl⟩

lemma shutdown_follows (b : Binder α) : b.Follows b.shutdown := ⟨rfl, [.shutdown], rfl⟩

/-- A binder whose cache is in order and on a clock. -/
structure Ready (b : Binder α) : Prop where
  regular : b.cache.Regular
  timed : b.cache.timed = true

lemma ready_empty (feature : Feature) (capacity : Nat) :
    (empty feature capacity true : Binder α).Ready :=
  ⟨Cache.regular_run capacity true [], rfl⟩

lemma foldl_step_later {c : Cache α} (h : c.Regular) (actions : List (CacheAction α)) :
    (actions.foldl Cache.step c).Regular ∧ (actions.foldl Cache.step c).timed = c.timed ∧
      c.numbering.Later (actions.foldl Cache.step c).numbering := by
  induction actions generalizing c with
  | nil => exact ⟨h, rfl, .refl _⟩
  | cons action actions ih =>
      obtain ⟨hregular, htimed, hlater⟩ := ih (h.step action)
      exact ⟨hregular, htimed.trans (h.step_limits action).2, (h.later_step action).trans hlater⟩

lemma Follows.ready (h : b.Follows b') (hb : b.Ready) : b'.Ready := by
  obtain ⟨-, actions, hcache⟩ := h
  obtain ⟨hregular, htimed, -⟩ := foldl_step_later hb.regular actions
  exact ⟨hcache ▸ hregular, hcache ▸ htimed.trans hb.timed⟩

lemma Follows.later (h : b.Follows b') (hb : b.Ready) :
    b.cache.numbering.Later b'.cache.numbering := by
  obtain ⟨-, actions, hcache⟩ := h
  rw [hcache]
  exact (foldl_step_later hb.regular actions).2.2

end cache

variable {α π μ : Type} [Bindable α] {b : Binder α}

lemma bindFor_follows (b : Binder α) (provider : ProviderId) (owner : Option Url)
    (items : List α) : b.Follows (b.bindFor provider owner items).2 := by
  rw [bindFor]
  split
  · rfl
  · exact ⟨rfl, [.store items], rfl⟩

lemma bindAll_cons (b : Binder α) (uri : Url) (provider : ProviderId) (items : List α)
    (batches : List (ProviderId × List α)) :
    b.bindAll uri ((provider, items) :: batches) =
      ((b.bind provider uri items).1 ++ ((b.bind provider uri items).2.bindAll uri batches).1,
        ((b.bind provider uri items).2.bindAll uri batches).2) :=
  rfl

lemma bindAll_follows (b : Binder α) (uri : Url) (batches : List (ProviderId × List α)) :
    b.Follows (b.bindAll uri batches).2 := by
  induction batches generalizing b with
  | nil => rfl
  | cons batch batches ih =>
      rw [bindAll_cons]
      exact (b.bindFor_follows batch.1 (some uri) batch.2).trans (ih _)

lemma rebind_follows (b : Binder α) (token : Token) (item : α) :
    b.Follows (b.rebind token item).2 := by
  rw [rebind]
  split
  · split
    · rfl
    · exact b.bindFor_follows token.providerId (b.ownerOf? token.cacheId) [item]
  · rfl

/-! ### Copies -/

/-- The data of a copy is its token. -/
lemma data_toWire [LawfulBindable α] (feature : Feature) (token : Token) (item : α) :
    Bindable.data (toWire feature token item) = some (encode token) := by
  rw [toWire]
  split
  · split
    · exact LawfulBindable.data_withData item _
    · rw [LawfulBindable.data_withCommand]
      exact LawfulBindable.data_withData item _
  · exact LawfulBindable.data_withData item _

/-- A copy of an item that a provider gave: its token leads to that item of a batch. -/
def Leads (b : Binder α) (provider : ProviderId) (items : List α) (copy : α) : Prop :=
  ∃ (index : Nat) (id : CacheId) (original : α), items[index]? = some original ∧
    copy = toWire b.feature ⟨provider, index, id⟩ original ∧ b.cache.get? id = some items

lemma leads_of_mem_bindFor (hb : b.Ready) {provider : ProviderId} {owner : Option Url}
    {items : List α} {copy : α} (hcopy : copy ∈ (b.bindFor provider owner items).1) :
    (b.bindFor provider owner items).2.Leads provider items copy := by
  rw [bindFor] at hcopy ⊢
  split
  · rename_i hempty
    rw [if_pos hempty] at hcopy
    cases hcopy
  · rename_i hempty
    rw [if_neg hempty] at hcopy
    obtain ⟨⟨original, index⟩, hmem, rfl⟩ := List.mem_map.mp hcopy
    refine ⟨index, b.cache.nextId, original, List.mem_zipIdx_iff_getElem?.mp hmem, rfl, ?_⟩
    refine (hb.regular.store items).get?_eq ?_
    rw [Cache.store_entries (.inl hb.timed)]
    exact List.mem_append_right _ (List.mem_singleton_self _)

/-- Nothing that is bound makes a batch disappear. -/
lemma bindFor_get? (hb : b.Ready) (provider : ProviderId) (owner : Option Url) (items : List α)
    {id : CacheId} {batch : List α} (hget : b.cache.get? id = some batch) :
    (b.bindFor provider owner items).2.cache.get? id = some batch := by
  rw [bindFor]
  split
  · exact hget
  · refine (hb.regular.store items).get?_eq ?_
    rw [Cache.store_entries (.inl hb.timed)]
    exact List.mem_append_left _ (Cache.mem_of_get? hget)

lemma bindAll_get? (hb : b.Ready) (uri : Url) (batches : List (ProviderId × List α))
    {id : CacheId} {batch : List α} (hget : b.cache.get? id = some batch) :
    (b.bindAll uri batches).2.cache.get? id = some batch := by
  induction batches generalizing b with
  | nil => exact hget
  | cons first batches ih =>
      obtain ⟨provider, items⟩ := first
      rw [bindAll_cons]
      exact ih ((b.bindFor_follows provider (some uri) items).ready hb)
        (bindFor_get? hb provider (some uri) items hget)

/-- Each copy leads to the batch of the provider that gave it. -/
lemma leads_of_mem_bindAll (hb : b.Ready) {uri : Url} {batches : List (ProviderId × List α)}
    {copy : α} (hcopy : copy ∈ (b.bindAll uri batches).1) :
    ∃ batch ∈ batches, (b.bindAll uri batches).2.Leads batch.1 batch.2 copy := by
  induction batches generalizing b with
  | nil => cases hcopy
  | cons first batches ih =>
      obtain ⟨provider, items⟩ := first
      have hready := (b.bindFor_follows provider (some uri) items).ready hb
      rw [bindAll_cons] at hcopy ⊢
      rcases List.mem_append.mp hcopy with hnew | hmore
      · obtain ⟨index, id, original, hitem, hwire, hget⟩ := leads_of_mem_bindFor hb hnew
        refine ⟨(provider, items), List.mem_cons_self .., index, id, original, hitem, ?_, ?_⟩
        · rw [hwire, (bindAll_follows _ uri batches).feature_eq]
          rfl
        · exact bindAll_get? hready uri batches hget
      · obtain ⟨batch, hbatch, hleads⟩ := ih hready hmore
        exact ⟨batch, List.mem_cons_of_mem _ hbatch, hleads⟩

omit [Bindable α] in
/-- **What is found behind a token**: if its numbers were given to the batch and to the provider,
the original with its provider while both are there, and otherwise nothing. -/
lemma resolve?_eq {r : Registry π μ} {original : α} {token : Token} {items : List α}
    {entry : Entry π μ} (hbatch : b.cache.numbering.Given token.cacheId items)
    (hitem : items[token.index]? = some original)
    (hentry : r.numbering.Given token.providerId entry) :
    b.resolve? r token =
      if b.cache.contains token.cacheId ∧ (r.get? token.providerId).isSome then
        some ⟨token, entry, original⟩
      else none := by
  rw [Cache.contains_eq, resolve?]
  cases hfound : b.cache.get? token.cacheId with
  | none => rfl
  | some batch =>
      cases hregistered : r.get? token.providerId with
      | none => simp [hbatch.eq_of_some batch hfound]
      | some other =>
          simp [hbatch.eq_of_some batch hfound, hentry.eq_of_some other hregistered, hitem]

/-- The same behind an item whose data is the token. -/
lemma resolveItem?_eq {r : Registry π μ} {item original : α} {token : Token} {items : List α}
    {entry : Entry π μ} (hdata : Bindable.data item = some (encode token))
    (hread : Reads token token) (hbatch : b.cache.numbering.Given token.cacheId items)
    (hitem : items[token.index]? = some original)
    (hentry : r.numbering.Given token.providerId entry) :
    b.resolveItem? r item =
      if b.cache.contains token.cacheId ∧ (r.get? token.providerId).isSome then
        some ⟨token, entry, original⟩
      else none := by
  rw [resolveItem?, hdata, Token.ofData?, Option.bind_some, hread.decode, Option.bind_some,
    resolve?_eq hbatch hitem hentry]

end Binder

end ProviderHub
