import Mathlib.Tactic
import ProviderHub.Proofs.Resolution.Release
import ProviderHub.Proofs.Session.Tasks

/-!
What queries do to binders.

* `Binder.Adds`: what caching more batches of one owner changes;
* `ItemKind.batches`: the batches of items in the replies to a query about a document;
* `Query.bindings`: what a query does to the binder of a kind when its providers have answered, and
  `Query.bindings_cases`: one of four things;
* `Language.binder_finish`: the last move of a query does that, and nothing else;
* `Language.binder_after`: all else only closes documents, sweeps and shuts down.
-/

namespace ProviderHub

/-! ### More batches -/

namespace Cache

variable {α : Type}

lemma contains_iff {c : Cache α} {id : CacheId} :
    c.contains id = true ↔ ∃ batch, (id, batch) ∈ c.entries := by
  rw [contains, List.contains_iff_mem, ids, List.mem_map]
  constructor
  · rintro ⟨entry, hentry, rfl⟩
    exact ⟨entry.2, hentry⟩
  · rintro ⟨batch, hentry⟩
    exact ⟨_, hentry, rfl⟩

lemma evict_nextId (steps : Nat) (c : Cache α) : (evict steps c).nextId = c.nextId := by
  induction steps generalizing c with
  | zero => rfl
  | succ steps ih =>
      rw [evict]
      split
      · exact ih _
      · rfl

lemma evict_subset (steps : Nat) (c : Cache α) : (evict steps c).entries ⊆ c.entries := by
  induction steps generalizing c with
  | zero => exact List.Subset.refl _
  | succ steps ih =>
      rw [evict]
      split
      · exact List.Subset.trans (ih _) List.filter_sublist.subset
      · exact List.Subset.refl _

end Cache

namespace Binder

variable {α : Type}

lemma deleteAll_nextId (cache : Cache α) (ids : List CacheId) :
    (deleteAll cache ids).2.nextId = cache.nextId := by
  induction ids generalizing cache with
  | nil => rfl
  | cons id ids ih => exact ih _

/-- A binder has more batches, all of one owner: they are cached under the next numbers in order,
and recorded under the owner if there is one. What was cached before is as it was. -/
structure Adds (b b' : Binder α) (owner : Option Url) (batches : List (List α)) : Prop where
  entries_eq : b'.cache.entries =
    b.cache.entries ++ (batches.zipIdx b.cache.nextId).map Prod.swap
  nextId_eq : b'.cache.nextId = b.cache.nextId + batches.length
  recorded_new : ∀ uri, owner = some uri → ∀ id, b.cache.nextId ≤ id → id < b'.cache.nextId →
    Recorded b'.owned uri id
  recorded_old : ∀ uri id, b.cache.contains id = true → Recorded b.owned uri id →
    Recorded b'.owned uri id
  recorded_of : ∀ uri id, Recorded b'.owned uri id →
    Recorded b.owned uri id ∨ owner = some uri ∧ b.cache.nextId ≤ id ∧ id < b'.cache.nextId

namespace Adds

variable {b b' b'' : Binder α} {owner : Option Url} {batches more : List (List α)} {id : CacheId}

lemma refl (b : Binder α) (owner : Option Url) : b.Adds b owner [] where
  entries_eq := (List.append_nil _).symm
  nextId_eq := rfl
  recorded_new _ _ _ hle hlt := absurd (lt_of_le_of_lt hle hlt) (lt_irrefl _)
  recorded_old _ _ _ hrecorded := hrecorded
  recorded_of _ _ := .inl

lemma nextId_le (h : b.Adds b' owner batches) : b.cache.nextId ≤ b'.cache.nextId :=
  Nat.le.intro h.nextId_eq.symm

/-- What is cached was cached before, or is new. -/
lemma contains_iff (h : b.Adds b' owner batches) :
    b'.cache.contains id = true ↔
      b.cache.contains id = true ∨ b.cache.nextId ≤ id ∧ id < b'.cache.nextId := by
  rw [Cache.contains_iff, h.entries_eq, Cache.contains_iff, h.nextId_eq]
  constructor
  · rintro ⟨batch, hentry⟩
    refine (List.mem_append.mp hentry).imp (fun hold => ⟨batch, hold⟩) fun hnew => ?_
    obtain ⟨⟨items, n⟩, hmem, heq⟩ := List.mem_map.mp hnew
    cases heq
    obtain ⟨hle, hget⟩ := List.mk_mem_zipIdx_iff_le_and_getElem?_sub.mp hmem
    have hindex := (List.getElem?_eq_some_iff.mp hget).1
    exact ⟨hle, (Nat.sub_lt_iff_lt_add' hle).mp hindex⟩
  · rintro (⟨batch, hentry⟩ | ⟨hle, hlt⟩)
    · exact ⟨batch, List.mem_append_left _ hentry⟩
    · have hindex : id - b.cache.nextId < batches.length := Nat.sub_lt_left_of_lt_add hle hlt
      refine ⟨batches[id - b.cache.nextId], List.mem_append_right _ (List.mem_map.mpr ?_)⟩
      refine ⟨(batches[id - b.cache.nextId], id), ?_, rfl⟩
      exact List.mk_mem_zipIdx_iff_le_and_getElem?_sub.mpr ⟨hle, List.getElem?_eq_getElem hindex⟩

lemma trans (h : b.Adds b' owner batches) (h' : b'.Adds b'' owner more) :
    b.Adds b'' owner (batches ++ more) where
  entries_eq := by
    rw [h'.entries_eq, h.entries_eq, h.nextId_eq, List.zipIdx_append, List.map_append,
      List.append_assoc]
  nextId_eq := by rw [h'.nextId_eq, h.nextId_eq, List.length_append, Nat.add_assoc]
  recorded_new uri howner id hle hlt := by
    by_cases hid : id < b'.cache.nextId
    · exact h'.recorded_old uri id (h.contains_iff.mpr (.inr ⟨hle, hid⟩))
        (h.recorded_new uri howner id hle hid)
    · exact h'.recorded_new uri howner id (not_lt.mp hid) hlt
  recorded_old uri id hcached hrecorded :=
    h'.recorded_old uri id (h.contains_iff.mpr (.inl hcached))
      (h.recorded_old uri id hcached hrecorded)
  recorded_of uri id hrecorded := by
    rcases h'.recorded_of uri id hrecorded with hrecorded | ⟨howner, hge, hlt⟩
    · rcases h.recorded_of uri id hrecorded with hold | ⟨howner, hge, hlt⟩
      · exact .inl hold
      · exact .inr ⟨howner, hge, hlt.trans_le h'.nextId_le⟩
    · exact .inr ⟨howner, h.nextId_le.trans hge, hlt⟩

end Adds

variable [Bindable α] {b : Binder α}

lemma bindFor_adds (hb : b.Ready) (provider : ProviderId) (owner : Option Url) {items : List α}
    (hitems : items ≠ []) : b.Adds (b.bindFor provider owner items).2 owner [items] := by
  have hnext : (b.bindFor provider owner items).2.cache.nextId = b.cache.nextId + 1 :=
    bindFor_nextId hb.regular provider owner hitems
  have hentries : (b.bindFor provider owner items).2.cache.entries =
      b.cache.entries ++ [(b.cache.nextId, items)] := by
    rw [bindFor, if_neg (by simpa using hitems)]
    exact Cache.store_entries (.inl hb.timed) items
  refine ⟨hentries, hnext, fun uri howner id hle hlt => ?_, fun uri id hcached hrecorded => ?_,
    fun uri id hrecorded => ?_⟩
  · rw [hnext] at hlt
    rw [← Nat.le_antisymm hle (Nat.le_of_lt_succ hlt), howner]
    exact recorded_bindFor_nextId b provider uri hitems
  · refine recorded_bindFor hrecorded (Cache.contains_iff.mpr ?_)
    obtain ⟨batch, hentry⟩ := Cache.contains_iff.mp hcached
    exact ⟨batch, hentries ▸ List.mem_append_left _ hentry⟩
  · rcases recorded_of_bindFor hrecorded with hold | ⟨howner, rfl⟩
    · exact .inl hold
    · exact .inr ⟨howner, le_refl _, hnext ▸ Nat.lt_succ_self _⟩

lemma bindAll_adds (hb : b.Ready) (uri : Url) {batches : List (ProviderId × List α)}
    (hitems : ∀ batch ∈ batches, batch.2 ≠ []) :
    b.Adds (b.bindAll uri batches).2 (some uri) (batches.map Prod.snd) := by
  induction batches generalizing b with
  | nil => exact .refl b (some uri)
  | cons batch batches ih =>
      obtain ⟨hfirst, hrest⟩ := List.forall_mem_cons.mp hitems
      rw [bindAll_cons]
      exact (bindFor_adds hb batch.1 (some uri) hfirst).trans
        (ih ((b.bindFor_follows batch.1 (some uri) batch.2).ready hb) hrest)

end Binder

/-! ### Replies -/

namespace ItemKind

/-- The items of a kind in a reply to a question about a document. -/
def listed : (kind : ItemKind) → Reply → List kind.Item
  | .completion, reply => (reply.completions?.map CompletionList.items).getD []
  | .action, reply => reply.actions?.getD []
  | .lens, reply => reply.lenses?.getD []
  | .callItem, reply => reply.callItems?.getD []

/-- The items of all providers that replied with any, in order. -/
def batches (kind : ItemKind) (results : List (ProviderId × Reply)) :
    List (ProviderId × List kind.Item) :=
  (results.map fun (id, reply) => (id, kind.listed reply)).filter fun (_, items) => !items.isEmpty

lemma ne_nil_of_mem_batches {kind : ItemKind} {results : List (ProviderId × Reply)}
    {batch : ProviderId × List kind.Item} (hbatch : batch ∈ kind.batches results) :
    batch.2 ≠ [] :=
  List.isEmpty_eq_false_iff.mp (Bool.not_eq_true' _ ▸ (List.mem_filter.mp hbatch).2)

end ItemKind

namespace Query

open ProviderHub.Language (first?)

/-- An item that a provider has completed is bound again. -/
def rebinding {α : Type} (origin : Option Token) (reply : Option α) :
    List (BinderAction α Unit Unit) :=
  match origin, reply with
  | some token, some item => [.rebind token item]
  | _, _ => []

/-- Items that a provider gave for another one are bound for the same document. -/
def alongside {α : Type} (origin : Option Token) (items : List α) :
    List (BinderAction α Unit Unit) :=
  match origin with
  | some token => [.bindAlongside token items]
  | none => []

/-- What a query does to the binder of a kind when its providers have answered. -/
def bindings (origin : Option Token) (results : List (ProviderId × Reply)) :
    (kind : ItemKind) → Query → List (BinderAction kind.Item Unit Unit)
  | kind, .document uri query =>
    if (Query.document uri query).kind? = some kind then
      (kind.batches results).map fun (id, items) => .bind id uri items
    else []
  | .completion, .resolveCompletion _ => rebinding origin (first? Reply.completion? results)
  | .action, .resolveAction _ => rebinding origin (first? Reply.action? results)
  | .lens, .resolveLens _ => rebinding origin (first? Reply.lens? results)
  | .callItem, .incomingCalls _ =>
    alongside origin (((first? Reply.incoming? results).getD []).map IncomingCall.source)
  | .callItem, .outgoingCalls _ =>
    alongside origin (((first? Reply.outgoing? results).getD []).map OutgoingCall.target)
  | _, _ => []

/-- A query does nothing to a binder, or binds batches of a document, or binds an item again, or
binds items for the document of another one. -/
lemma bindings_cases (origin : Option Token) (results : List (ProviderId × Reply))
    (kind : ItemKind) (query : Query) :
    bindings origin results kind query = [] ∨
    (∃ uri q, query = .document uri q ∧ bindings origin results kind query =
      (kind.batches results).map fun (id, items) => .bind id uri items) ∨
    (∃ reply, bindings origin results kind query = rebinding origin reply) ∨
    ∃ items, bindings origin results kind query = alongside origin items := by
  cases query with
  | document uri q =>
      have heq : bindings origin results kind (.document uri q) =
          if (Query.document uri q).kind? = some kind then
            (kind.batches results).map fun (id, items) => .bind id uri items else [] := by
        cases kind <;> rfl
      rw [heq]
      split
      · exact .inr (.inl ⟨uri, q, rfl, rfl⟩)
      · exact .inl rfl
  | resolveCompletion item =>
      cases kind with
      | completion => exact .inr (.inr (.inl ⟨_, rfl⟩))
      | _ => exact .inl rfl
  | resolveAction action =>
      cases kind with
      | action => exact .inr (.inr (.inl ⟨_, rfl⟩))
      | _ => exact .inl rfl
  | resolveLens lens =>
      cases kind with
      | lens => exact .inr (.inr (.inl ⟨_, rfl⟩))
      | _ => exact .inl rfl
  | incomingCalls item =>
      cases kind with
      | callItem => exact .inr (.inr (.inr ⟨_, rfl⟩))
      | _ => exact .inl rfl
  | outgoingCalls item =>
      cases kind with
      | callItem => exact .inr (.inr (.inr ⟨_, rfl⟩))
      | _ => exact .inl rfl
  | execute command => exact .inl (by cases kind <;> rfl)

end Query

namespace Binder

variable {α : Type} [Bindable α]

/-- A binder after some actions. -/
def doAll (b : Binder α) (actions : List (BinderAction α Unit Unit)) : Binder α :=
  (BinderHistory.run { binder := b } actions).binder

lemma bindAll_eq_doAll (b : Binder α) (uri : Url) (batches : List (ProviderId × List α)) :
    (b.bindAll uri batches).2 = b.doAll (batches.map fun (id, items) => .bind id uri items) := by
  induction batches generalizing b with
  | nil => rfl
  | cons batch batches ih => exact ih _

/-- Batches without items do not matter. -/
lemma bindAll_filter (b : Binder α) (uri : Url) (batches : List (ProviderId × List α)) :
    (b.bindAll uri (batches.filter fun (_, items) => !items.isEmpty)).2 =
      (b.bindAll uri batches).2 := by
  induction batches generalizing b with
  | nil => rfl
  | cons batch batches ih =>
      obtain ⟨id, items⟩ := batch
      cases items with
      | nil => exact ih b
      | cons item items => exact ih _

end Binder

namespace Language

variable {π : Type}

/-- Replies of another form have no items, and without items there is no batch. -/
lemma filter_select {α β : Type} (form : Reply → Option β) (items : β → List α)
    (results : List (ProviderId × Reply)) :
    ((select form results).map fun (id, v) => (id, items v)).filter
        (fun (_, items) => !items.isEmpty) =
      (results.map fun (id, reply) => (id, ((form reply).map items).getD [])).filter
        fun (_, items) => !items.isEmpty := by
  induction results with
  | nil => rfl
  | cons result results ih =>
      obtain ⟨id, reply⟩ := result
      cases hform : form reply with
      | none => simpa [select, hform] using ih
      | some v =>
          cases hitems : items v with
          | nil => simpa [select, hform, hitems] using ih
          | cons item rest => simpa [select, hform, hitems] using ih

/-- What several providers replied is bound batch by batch. -/
lemma bindAll_select (kind : ItemKind) (b : Binder kind.Item) (uri : Url) {β : Type}
    {form : Reply → Option β} (items : β → List kind.Item)
    (hlisted : ∀ reply, kind.listed reply = ((form reply).map items).getD [])
    (results : List (ProviderId × Reply)) :
    (b.bindAll uri ((select form results).map fun (id, v) => (id, items v))).2 =
      b.doAll ((kind.batches results).map fun (id, items) => .bind id uri items) := by
  rw [← Binder.bindAll_filter, filter_select, ← Binder.bindAll_eq_doAll, ItemKind.batches]
  simp only [hlisted]

lemma bindAll_select_list (kind : ItemKind) (b : Binder kind.Item) (uri : Url)
    {form : Reply → Option (List kind.Item)}
    (hlisted : ∀ reply, kind.listed reply = (form reply).getD [])
    (results : List (ProviderId × Reply)) :
    (b.bindAll uri (select form results)).2 =
      b.doAll ((kind.batches results).map fun (id, items) => .bind id uri items) := by
  have hlist := bindAll_select kind b uri (fun items => items)
    (fun reply => by rw [hlisted, Option.map_id']) results
  rwa [List.map_id'] at hlist

lemma binder_finishDocument (l : Language π) (uri : Url) (results : List (ProviderId × Reply))
    (query : DocumentQuery) (kind : ItemKind) :
    kind.binder (l.finishDocument uri results query).2 =
      (kind.binder l).doAll (Query.bindings none results kind (.document uri query)) := by
  rw [Query.bindings]
  cases query with
  | completion position context =>
      cases kind with
      | completion =>
          exact bindAll_select .completion l.completions uri CompletionList.items (fun _ => rfl)
            results
      | _ => rfl
  | codeAction range context =>
      cases kind with
      | action => exact bindAll_select_list .action l.actions uri (fun _ => rfl) results
      | _ => rfl
  | codeLens =>
      cases kind with
      | lens => exact bindAll_select_list .lens l.lenses uri (fun _ => rfl) results
      | _ => rfl
  | prepareCalls position =>
      cases kind with
      | callItem => exact bindAll_select_list .callItem l.callItems uri (fun _ => rfl) results
      | _ => rfl
  | _ => rfl

lemma finishItem_eq {α : Type} [Wire α] [Bindable α] (b : Binder α) (origin : Option Token)
    (item : α) (reply : Option α) :
    (finishItem b origin item reply).2 = b.doAll (Query.rebinding origin reply) := by
  cases origin with
  | none => rfl
  | some token => cases reply <;> rfl

lemma finishCalls_eq {γ : Type} [Wire γ] (b : Binder CallHierarchyItem) (origin : Option Token)
    (calls : List γ) (item : γ → CallHierarchyItem) (withItem : γ → CallHierarchyItem → γ) :
    (finishCalls b origin calls item withItem).2 =
      b.doAll (Query.alongside origin (calls.map item)) := by
  cases origin <;> rfl

/-- **What a query does to the binders when its providers have answered.** -/
lemma binder_finish (l : Language π) (query : Query) (origin : Option Token)
    (results : List (ProviderId × Reply)) (kind : ItemKind) :
    kind.binder (l.finish query origin results).2 =
      (kind.binder l).doAll (Query.bindings origin results kind query) := by
  cases query with
  | document uri query =>
      exact (l.binder_finishDocument uri results query kind).trans (by cases kind <;> rfl)
  | resolveCompletion item =>
      cases kind with
      | completion => exact finishItem_eq l.completions origin item _
      | _ => rfl
  | resolveAction action =>
      cases kind with
      | action => exact finishItem_eq l.actions origin action _
      | _ => rfl
  | resolveLens lens =>
      cases kind with
      | lens => exact finishItem_eq l.lenses origin lens _
      | _ => rfl
  | incomingCalls item =>
      cases kind with
      | callItem =>
          exact finishCalls_eq l.callItems origin _ IncomingCall.source
            fun c source => { c with source }
      | _ => rfl
  | outgoingCalls item =>
      cases kind with
      | callItem =>
          exact finishCalls_eq l.callItems origin _ OutgoingCall.target
            fun c target => { c with target }
      | _ => rfl
  | execute command => cases kind <;> rfl

/-- All other actions change a binder only in one of three ways: a document is closed, the binder is
swept, or shut down. -/
lemma binder_after (l : Language π) (action : LanguageAction π) (kind : ItemKind) :
    kind.binder (l.after action) = kind.binder l ∨
    (∃ uri, action = .closeDocument uri ∧
      kind.binder (l.after action) = ((kind.binder l).release uri).2) ∨
    kind.binder (l.after action) = (kind.binder l).sweep ∨
    kind.binder (l.after action) = (kind.binder l).shutdown := by
  cases action with
  | closeDocument uri => exact .inr (.inl ⟨uri, rfl, by cases kind <;> rfl⟩)
  | sweep feature =>
      cases feature <;> cases kind <;> first | exact .inl rfl | exact .inr (.inr (.inl rfl))
  | shutdown => exact .inr (.inr (.inr (by cases kind <;> rfl)))
  | ask query atOnce =>
      rw [after, LanguageHistory.step, LanguageHistory.ask_language]
      exact .inl rfl
  | _ => exact .inl (by cases kind <;> rfl)

/-- So they add nothing to a cache. -/
lemma entries_after (l : Language π) (action : LanguageAction π) (kind : ItemKind) :
    (kind.binder (l.after action)).cache.entries ⊆ (kind.binder l).cache.entries := by
  rcases l.binder_after action kind with heq | ⟨uri, -, heq⟩ | heq | heq <;> rw [heq]
  · exact List.Subset.refl _
  · show (Binder.deleteAll _ _).2.entries ⊆ _
    rw [Binder.deleteAll_entries]
    exact List.filter_sublist.subset
  · exact Cache.evict_subset _ _
  · exact List.Subset.refl _

lemma nextId_after (l : Language π) (action : LanguageAction π) (kind : ItemKind) :
    (kind.binder (l.after action)).cache.nextId = (kind.binder l).cache.nextId := by
  rcases l.binder_after action kind with heq | ⟨uri, -, heq⟩ | heq | heq <;> rw [heq]
  · exact Binder.deleteAll_nextId _ _
  · exact Cache.evict_nextId _ _
  · rfl

end Language

end ProviderHub
