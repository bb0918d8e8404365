import ProviderHub.Proofs.Resolution.Ownership

/-!
Documents that are released with their batches, and with no others.

A number of a batch is never given twice. So, however late the table of a binder is pruned, it has
each batch under one document at most, the one for which the batch was made: bound for it, or made
of an item of such a batch.

* `BinderHistory.step_cases`: all that an action can do to a binder;
* `BinderHistory.MadeFor`: which documents batches are made for;
* `BinderHistory.Tracked`: the table agrees with that, after every run by `tracked_run`;
* `BinderHistory.release_drops_own_batches`: what goes and what stays when a document is released.
-/

namespace ProviderHub

/-! ### Runs of a binder -/

/-- What can happen to a binder and to the providers of its feature. -/
inductive BinderAction (α π μ : Type) where
  | bind (provider : ProviderId) (uri : Url) (items : List α)
  | rebind (token : Token) (item : α)
  | bindAlongside (token : Token) (items : List α)
  | resolve (token : Token)
  | release (uri : Url)
  | sweep
  | register (selector : Selector) (provider : π) (metadata : μ)
  | unregister (provider : ProviderId)
  | shutdown

/-- What a new batch is made for: a document, or the one of the batch that a token leads to. -/
inductive Origin where
  | document (uri : Url)
  | item (token : Token)

/-- What the batch is made for that an action caches. No batch is cached without items, nor for an
item whose command the client can keep. -/
def BinderAction.origin? {α π μ : Type} [Bindable α] : BinderAction α π μ → Option Origin
  | .bind _ uri items => if items.isEmpty then none else some (.document uri)
  | .bindAlongside token items => if items.isEmpty then none else some (.item token)
  | .rebind token item =>
    if (Bindable.command? item).all Command.isWireSafe then none else some (.item token)
  | _ => none

/-- The document that a batch is recorded under. -/
def Binder.owner? {α : Type} (b : Binder α) : Origin → Option Url
  | .document uri => some uri
  | .item token => b.ownerOf? token.cacheId

/-- A binder and the providers of its feature. -/
structure BinderHistory (α π μ : Type) where
  binder : Binder α
  registry : Registry π μ := {}

namespace BinderHistory

open Binder

variable {α π μ : Type} [Bindable α]

/-- A binder with an empty cache, before anything is registered. -/
def opening (feature : Feature) (capacity : Nat) (timed : Bool) : BinderHistory α π μ :=
  { binder := .empty feature capacity timed }

/-- What happens by an action. -/
def step (h : BinderHistory α π μ) : BinderAction α π μ → BinderHistory α π μ
  | .bind provider uri items => { h with binder := (h.binder.bind provider uri items).2 }
  | .rebind token item => { h with binder := (h.binder.rebind token item).2 }
  | .bindAlongside token items => { h with binder := (h.binder.bindAlongside token items).2 }
  | .resolve _ => h
  | .release uri => { h with binder := (h.binder.release uri).2 }
  | .sweep => { h with binder := h.binder.sweep }
  | .register selector provider metadata =>
    { h with registry := (h.registry.register selector provider metadata).2 }
  | .unregister provider => { h with registry := (h.registry.unregister provider).2 }
  | .shutdown => { h with binder := h.binder.shutdown }

/-- What happens by a run of actions. -/
def run (start : BinderHistory α π μ) (actions : List (BinderAction α π μ)) :
    BinderHistory α π μ :=
  actions.foldl step start

/-- The item behind a token, and its provider. -/
def resolve? (h : BinderHistory α π μ) (token : Token) : Option (Resolved π μ α) :=
  h.binder.resolve? h.registry token

variable {h start : BinderHistory α π μ} {actions : List (BinderAction α π μ)}
  {action : BinderAction α π μ} {id : CacheId} {u v uri : Url}

lemma run_append (start : BinderHistory α π μ) (actions : List (BinderAction α π μ))
    (action : BinderAction α π μ) :
    run start (actions ++ [action]) = (run start actions).step action := by
  rw [run, List.foldl_append]
  rfl

/-- An action caches one batch, for its origin, or it caches none. -/
lemma step_cases (h : BinderHistory α π μ) (action : BinderAction α π μ) :
    (∃ origin provider items, action.origin? = some origin ∧ items ≠ [] ∧
      (h.step action).binder =
        (h.binder.bindFor provider (h.binder.owner? origin) items).2) ∨
    action.origin? = none ∧
      ((h.step action).binder = h.binder ∨
        (∃ uri, (h.step action).binder = (h.binder.release uri).2) ∨
        (h.step action).binder = h.binder.sweep ∨
        (h.step action).binder = h.binder.shutdown) := by
  cases action with
  | bind provider uri items =>
      cases items with
      | nil => exact .inr ⟨rfl, .inl rfl⟩
      | cons item items =>
          exact .inl ⟨.document uri, provider, item :: items, rfl, List.cons_ne_nil _ _, rfl⟩
  | bindAlongside token items =>
      cases items with
      | nil => exact .inr ⟨rfl, .inl rfl⟩
      | cons item items =>
          exact .inl ⟨.item token, token.providerId, item :: items, rfl, List.cons_ne_nil _ _, rfl⟩
  | rebind token item =>
      simp only [BinderAction.origin?, step, Binder.rebind]
      cases hcommand : Bindable.command? item with
      | none => exact .inr ⟨rfl, .inl rfl⟩
      | some command =>
          cases hsafe : command.isWireSafe with
          | true => exact .inr ⟨by simp [hsafe], .inl (by simp [hsafe])⟩
          | false =>
              refine .inl ⟨.item token, token.providerId, [item], by simp [hsafe],
                List.cons_ne_nil _ _, ?_⟩
              simp [hsafe, bindAlongside, owner?]
  | release uri => exact .inr ⟨rfl, .inr (.inl ⟨uri, rfl⟩)⟩
  | sweep => exact .inr ⟨rfl, .inr (.inr (.inl rfl))⟩
  | shutdown => exact .inr ⟨rfl, .inr (.inr (.inr rfl))⟩
  | _ => exact .inr ⟨rfl, .inl rfl⟩

lemma step_follows (h : BinderHistory α π μ) (action : BinderAction α π μ) :
    h.binder.Follows (h.step action).binder := by
  rcases step_cases h action with ⟨origin, provider, items, -, -, heq⟩ |
    ⟨-, heq | ⟨uri, heq⟩ | heq | heq⟩ <;> rw [heq]
  · exact bindFor_follows ..
  · exact release_follows ..
  · exact sweep_follows _
  · exact shutdown_follows _

lemma run_follows (start : BinderHistory α π μ) (actions : List (BinderAction α π μ)) :
    start.binder.Follows (run start actions).binder := by
  induction actions using List.reverseRecOn with
  | nil => exact .refl _
  | append_singleton actions action ih =>
      rw [run_append]
      exact ih.trans (step_follows _ action)

/-! ### How the table changes -/

lemma keyed_step (hkeyed : Keyed h.binder.owned) (action : BinderAction α π μ) :
    Keyed (h.step action).binder.owned := by
  rcases step_cases h action with ⟨origin, provider, items, -, -, heq⟩ |
    ⟨-, heq | ⟨uri, heq⟩ | heq | heq⟩ <;> rw [heq]
  · exact hkeyed.bindFor ..
  · exact hkeyed
  · exact (hkeyed.filter _).prune _
  · exact hkeyed
  · exact hkeyed

/-- A batch in the table was there before, or it is the new one of its document. -/
lemma recorded_of_step (hrecorded : Recorded (h.step action).binder.owned uri id) :
    Recorded h.binder.owned uri id ∨
      id = h.binder.cache.nextId ∧
        ∃ origin, action.origin? = some origin ∧ h.binder.owner? origin = some uri := by
  rcases step_cases h action with ⟨origin, provider, items, horigin, -, heq⟩ |
    ⟨-, heq | ⟨v, heq⟩ | heq | heq⟩ <;> rw [heq] at hrecorded
  · rcases recorded_of_bindFor hrecorded with hold | ⟨howner, hid⟩
    · exact .inl hold
    · exact .inr ⟨hid, origin, horigin, howner⟩
  · exact .inl hrecorded
  · exact .inl (recorded_release.mp hrecorded).1.2
  · exact .inl hrecorded
  · exact .inl hrecorded

/-- The table keeps what stays in the cache. -/
lemma recorded_step (hkeyed : Keyed h.binder.owned) (hrecorded : Recorded h.binder.owned uri id)
    (hcached : (h.step action).binder.cache.contains id = true) :
    Recorded (h.step action).binder.owned uri id := by
  rcases step_cases h action with ⟨origin, provider, items, -, -, heq⟩ |
    ⟨-, heq | ⟨v, heq⟩ | heq | heq⟩ <;> rw [heq] at hcached ⊢
  · exact recorded_bindFor hrecorded hcached
  · exact hrecorded
  · rw [Cache.contains_eq] at hcached
    obtain ⟨batch, hget⟩ := Option.isSome_iff_exists.mp hcached
    obtain ⟨hentry, hother⟩ := (mem_release_entries hkeyed v).mp (Cache.mem_of_get? hget)
    refine recorded_release.mpr ⟨⟨?_, hrecorded⟩, ?_⟩
    · rintro rfl
      exact hother hrecorded
    · exact List.contains_iff_mem.mpr (List.mem_map_of_mem hentry)
  · exact hrecorded
  · exact hrecorded

/-- A new batch is recorded under the document of its origin. -/
lemma recorded_step_nextId {origin : Origin} (horigin : action.origin? = some origin)
    (howner : h.binder.owner? origin = some uri) :
    Recorded (h.step action).binder.owned uri h.binder.cache.nextId := by
  rcases step_cases h action with ⟨origin', provider, items, horigin', hitems, heq⟩ | ⟨hnone, -⟩
  · obtain rfl := Option.some_inj.mp (horigin'.symm.trans horigin)
    rw [heq, howner]
    exact recorded_bindFor_nextId h.binder provider uri hitems
  · rw [hnone] at horigin
    cases horigin

lemma nextId_step (hregular : h.binder.cache.Regular) {origin : Origin}
    (horigin : action.origin? = some origin) :
    (h.step action).binder.cache.nextId = h.binder.cache.nextId + 1 := by
  rcases step_cases h action with ⟨origin', provider, items, -, hitems, heq⟩ | ⟨hnone, -⟩
  · rw [heq]
    exact bindFor_nextId hregular provider _ hitems
  · rw [hnone] at horigin
    cases horigin

/-! ### What batches are made for -/

/-- A batch was bound for a document, or it was made of an item of a batch that was made for the
document, of which something was true at that time. -/
inductive MadeFor (start : BinderHistory α π μ) (known : Binder α → CacheId → Prop) :
    List (BinderAction α π μ) → CacheId → Url → Prop
  | bound {actions : List (BinderAction α π μ)} {action : BinderAction α π μ} {uri : Url} :
      action.origin? = some (.document uri) →
      MadeFor start known (actions ++ [action]) (run start actions).binder.cache.nextId uri
  | derived {actions : List (BinderAction α π μ)} {action : BinderAction α π μ} {token : Token}
      {uri : Url} :
      action.origin? = some (.item token) → known (run start actions).binder token.cacheId →
      MadeFor start known actions token.cacheId uri →
      MadeFor start known (actions ++ [action]) (run start actions).binder.cache.nextId uri
  | kept {actions : List (BinderAction α π μ)} {action : BinderAction α π μ} {id : CacheId}
      {uri : Url} :
      MadeFor start known actions id uri → MadeFor start known (actions ++ [action]) id uri

/-- A batch was bound for a document, or made of an item of such a batch that was in the cache. -/
abbrev BoundFor (start : BinderHistory α π μ) :
    List (BinderAction α π μ) → CacheId → Url → Prop :=
  MadeFor start fun b id => b.cache.contains id = true

/-- A batch goes back to one that was bound for a document, whatever was in the cache. -/
abbrev StemsFrom (start : BinderHistory α π μ) :
    List (BinderAction α π μ) → CacheId → Url → Prop :=
  MadeFor start fun _ _ => True

variable {known : Binder α → CacheId → Prop}

lemma not_madeFor_nil : ¬ MadeFor start known [] id uri := by
  intro hmade
  generalize hnil : ([] : List (BinderAction α π μ)) = actions at hmade
  cases hmade <;> exact List.append_ne_nil_of_right_ne_nil _ (List.cons_ne_nil _ _) hnil.symm

/-- A batch was made for a document before the last action, or by it. -/
lemma madeFor_append :
    MadeFor start known (actions ++ [action]) id uri ↔
      MadeFor start known actions id uri ∨
        id = (run start actions).binder.cache.nextId ∧
          (action.origin? = some (.document uri) ∨
            ∃ token, action.origin? = some (.item token) ∧
              known (run start actions).binder token.cacheId ∧
              MadeFor start known actions token.cacheId uri) := by
  constructor
  · intro hmade
    generalize hlist : actions ++ [action] = list at hmade
    cases hmade with
    | bound horigin =>
        obtain ⟨rfl, hlast⟩ := List.append_inj' hlist rfl
        cases hlast
        exact .inr ⟨rfl, .inl horigin⟩
    | derived horigin hknown hmade =>
        obtain ⟨rfl, hlast⟩ := List.append_inj' hlist rfl
        cases hlast
        exact .inr ⟨rfl, .inr ⟨_, horigin, hknown, hmade⟩⟩
    | kept hmade =>
        obtain ⟨rfl, -⟩ := List.append_inj' hlist rfl
        exact .inl hmade
  · rintro (hmade | ⟨rfl, horigin | ⟨token, horigin, hknown, hmade⟩⟩)
    · exact .kept hmade
    · exact .bound horigin
    · exact .derived horigin hknown hmade

lemma BoundFor.stemsFrom (hbound : BoundFor start actions id uri) :
    StemsFrom start actions id uri := by
  induction hbound with
  | bound horigin => exact .bound horigin
  | derived horigin _ _ ih => exact .derived horigin trivial ih
  | kept _ ih => exact .kept ih

/-- The table of a binder agrees with what its batches were made for. -/
structure Tracked (start : BinderHistory α π μ) (actions : List (BinderAction α π μ)) : Prop where
  regular : (run start actions).binder.cache.Regular
  keyed : Keyed (run start actions).binder.owned
  lt_nextId : ∀ id uri, StemsFrom start actions id uri →
    id < (run start actions).binder.cache.nextId
  unique : ∀ id u v, StemsFrom start actions id u → StemsFrom start actions id v → u = v
  sound : ∀ id uri, Recorded (run start actions).binder.owned uri id →
    StemsFrom start actions id uri
  complete : ∀ id uri, BoundFor start actions id uri →
    (run start actions).binder.cache.contains id = true →
    Recorded (run start actions).binder.owned uri id

namespace Tracked

variable (ht : Tracked start actions)
include ht

/-- What is recorded under a document has that owner. -/
lemma ownerOf?_eq (hrecorded : Recorded (run start actions).binder.owned uri id) :
    (run start actions).binder.ownerOf? id = some uri := by
  obtain ⟨u, howner⟩ := exists_ownerOf? hrecorded
  rw [howner, ht.unique id u uri (ht.sound id u (recorded_of_ownerOf? howner))
    (ht.sound id uri hrecorded)]

/-- The new batch of an action goes back to the document that it is recorded under. -/
lemma stemsFrom_new {origin : Origin} (horigin : action.origin? = some origin)
    (howner : (run start actions).binder.owner? origin = some uri) :
    StemsFrom start (actions ++ [action]) (run start actions).binder.cache.nextId uri := by
  cases origin with
  | document u =>
      obtain rfl := Option.some_inj.mp howner
      exact .bound horigin
  | item token =>
      exact .derived horigin trivial (ht.sound _ _ (recorded_of_ownerOf? howner))

lemma regular_later (action : BinderAction α π μ) :
    ((run start actions).step action).binder.cache.Regular ∧
      (run start actions).binder.cache.numbering.Later
        ((run start actions).step action).binder.cache.numbering :=
  (step_follows (run start actions) action).regular_later ht.regular

lemma lt_nextId_append (action : BinderAction α π μ)
    (hmade : StemsFrom start (actions ++ [action]) id uri) :
    id < ((run start actions).step action).binder.cache.nextId := by
  rcases madeFor_append.mp hmade with hold | ⟨rfl, horigin | ⟨token, horigin, -⟩⟩
  · exact lt_of_lt_of_le (ht.lt_nextId id uri hold) (ht.regular_later action).2.next_le
  · rw [nextId_step ht.regular horigin]
    exact Nat.lt_succ_self _
  · rw [nextId_step ht.regular horigin]
    exact Nat.lt_succ_self _

lemma unique_append (action : BinderAction α π μ)
    (hu : StemsFrom start (actions ++ [action]) id u)
    (hv : StemsFrom start (actions ++ [action]) id v) : u = v := by
  -- the number of the new batch has not been given before
  have hnew (w : Url) : ¬ StemsFrom start actions (run start actions).binder.cache.nextId w :=
    fun hmade => lt_irrefl _ (ht.lt_nextId _ w hmade)
  rcases madeFor_append.mp hu with hold | ⟨hid, hmade⟩
  · rcases madeFor_append.mp hv with hold' | ⟨rfl, -⟩
    · exact ht.unique id u v hold hold'
    · exact absurd hold (hnew u)
  · rcases madeFor_append.mp hv with hold' | ⟨-, hmade'⟩
    · exact absurd (hid ▸ hold') (hnew v)
    · -- one action has one origin
      rcases hmade with horigin | ⟨token, horigin, -, hstems⟩ <;>
        rcases hmade' with horigin' | ⟨token', horigin', -, hstems'⟩ <;>
        cases horigin.symm.trans horigin'
      · rfl
      · exact ht.unique token.cacheId u v hstems hstems'

lemma complete_append (action : BinderAction α π μ)
    (hbound : BoundFor start (actions ++ [action]) id uri)
    (hcached : ((run start actions).step action).binder.cache.contains id = true) :
    Recorded ((run start actions).step action).binder.owned uri id := by
  rcases madeFor_append.mp hbound with hold | ⟨rfl, horigin | ⟨token, horigin, htoken, hmade⟩⟩
  · have hlt := ht.lt_nextId id uri (BoundFor.stemsFrom hold)
    have hbefore : (run start actions).binder.cache.contains id = true := by
      rw [Cache.contains_eq] at hcached ⊢
      obtain ⟨batch, hget⟩ := Option.isSome_iff_exists.mp hcached
      exact Option.isSome_iff_exists.mpr
        ⟨batch, (ht.regular_later action).2.kept id hlt batch hget⟩
    exact recorded_step ht.keyed (ht.complete id uri hold hbefore) hcached
  · exact recorded_step_nextId horigin rfl
  · exact recorded_step_nextId horigin (ht.ownerOf?_eq (ht.complete _ uri hmade htoken))

lemma append (action : BinderAction α π μ) : Tracked start (actions ++ [action]) where
  regular := by
    rw [run_append]
    exact (ht.regular_later action).1
  keyed := by
    rw [run_append]
    exact keyed_step ht.keyed action
  lt_nextId id uri hmade := by
    rw [run_append]
    exact ht.lt_nextId_append action hmade
  unique _ _ _ := ht.unique_append action
  sound id uri hrecorded := by
    rw [run_append] at hrecorded
    rcases recorded_of_step hrecorded with hold | ⟨rfl, origin, horigin, howner⟩
    · exact .kept (ht.sound id uri hold)
    · exact ht.stemsFrom_new horigin howner
  complete id uri hbound hcached := by
    rw [run_append] at hcached ⊢
    exact ht.complete_append action hbound hcached

end Tracked

lemma tracked_run (feature : Feature) (capacity : Nat) (timed : Bool)
    (actions : List (BinderAction α π μ)) : Tracked (opening feature capacity timed) actions := by
  induction actions using List.reverseRecOn with
  | nil =>
      refine ⟨Cache.regular_run capacity timed [], List.nodup_nil, ?_, ?_, ?_, ?_⟩
      · exact fun _ _ hmade => absurd hmade not_madeFor_nil
      · exact fun _ _ _ hmade => absurd hmade not_madeFor_nil
      · rintro _ _ ⟨_, hmem, -⟩
        cases hmem
      · exact fun _ _ hmade => absurd hmade not_madeFor_nil
  | append_singleton actions action ih => exact ih.append action

/-! ### Documents that are released -/

/-- What is gone stays gone. -/
lemma resolve?_run_eq_none (hregular : h.binder.cache.Regular) {token : Token}
    (hlt : token.cacheId < h.binder.cache.nextId) (hgone : h.binder.cache.get? token.cacheId = none)
    (later : List (BinderAction α π μ)) : (run h later).resolve? token = none := by
  have hlater := ((run_follows h later).regular_later hregular).2
  refine Binder.resolve?_eq_none (Option.eq_none_iff_forall_ne_some.mpr fun batch hget => ?_)
  have hbefore := hlater.kept token.cacheId hlt batch hget
  rw [show h.binder.cache.numbering.get? token.cacheId = none from hgone] at hbefore
  cases hbefore

/-- A number of a batch that was bound for a document has no batch when the document has been
released. -/
lemma Tracked.release_get?_eq_none (ht : Tracked start actions)
    (hmade : Recorded (run start actions).binder.owned uri id ∨ BoundFor start actions id uri) :
    ((run start actions).step (.release uri)).binder.cache.get? id = none := by
  by_cases hrecorded : Recorded (run start actions).binder.owned uri id
  · exact Binder.release_get?_eq_none ht.keyed hrecorded
  · -- it was bound for the document, so it is missing in the table only if it was gone already
    have hbound := hmade.resolve_left hrecorded
    refine (Binder.release_get?_eq ht.keyed ht.regular hrecorded).trans ?_
    by_contra hfound
    refine hrecorded (ht.complete id uri hbound ?_)
    rw [Cache.contains_eq]
    exact Option.isSome_iff_ne_none.mpr hfound

/-- **A document is released with its batches and no others**: after every run, each batch is in the
table under one document at most, and a batch in the cache that was bound for a document, or made
of an item of such a batch that was in the cache, is in the table under that document; what is in
the table under a document goes back to it. When a document is released, its batches are deleted,
and no token of them leads anywhere, then or ever again; all other batches, among them all that go
back to another document, are as they were, and their tokens lead where they did; and the answer is
by how many batches the cache has become smaller. -/
theorem release_drops_own_batches (feature : Feature) (capacity : Nat) (timed : Bool)
    (actions : List (BinderAction α π μ)) :
    let start : BinderHistory α π μ := opening feature capacity timed
    let h := run start actions
    (∀ id u v, Recorded h.binder.owned u id → Recorded h.binder.owned v id → u = v) ∧
    (∀ id u, BoundFor start actions id u → h.binder.cache.contains id = true →
      Recorded h.binder.owned u id) ∧
    (∀ id u, Recorded h.binder.owned u id → StemsFrom start actions id u) ∧
    ∀ uri,
      let h' := h.step (.release uri)
      (∀ id, Recorded h.binder.owned uri id ∨ BoundFor start actions id uri →
        h'.binder.cache.get? id = none ∧
        ∀ later token, token.cacheId = id → (run h' later).resolve? token = none) ∧
      (∀ id, ¬ Recorded h.binder.owned uri id ∨ (∃ v ≠ uri, StemsFrom start actions id v) →
        h'.binder.cache.get? id = h.binder.cache.get? id ∧
        ∀ token, token.cacheId = id → h'.resolve? token = h.resolve? token) ∧
      (h.binder.release uri).1 + h'.binder.cache.size = h.binder.cache.size := by
  intro start h
  have ht : Tracked start actions := tracked_run feature capacity timed actions
  refine ⟨?_, ht.complete, ht.sound, fun uri => ⟨?_, ?_, release_size ht.regular uri⟩⟩
  · exact fun id u v hu hv => ht.unique id u v (ht.sound id u hu) (ht.sound id v hv)
  · intro id hmade
    have hgone := ht.release_get?_eq_none hmade
    refine ⟨hgone, fun later token htoken => ?_⟩
    subst htoken
    have hlt : token.cacheId < h.binder.cache.nextId :=
      ht.lt_nextId _ uri (hmade.elim (ht.sound _ uri) BoundFor.stemsFrom)
    obtain ⟨hregular, hlater⟩ := ht.regular_later (.release uri)
    exact resolve?_run_eq_none hregular (lt_of_lt_of_le hlt hlater.next_le) hgone later
  · intro id hother
    have hnot : ¬ Recorded h.binder.owned uri id := by
      rcases hother with hnot | ⟨v, hne, hstems⟩
      · exact hnot
      · exact fun hrecorded => hne (ht.unique id v uri hstems (ht.sound id uri hrecorded))
    have hsame := Binder.release_get?_eq ht.keyed ht.regular hnot
    exact ⟨hsame, fun token htoken => Binder.resolve?_congr h.registry (htoken ▸ hsame)⟩

/-- The first of two documents. -/
def firstDocument : Url := { scheme := "file", path := "/a" }

/-- The second of two documents. -/
def secondDocument : Url := { scheme := "file", path := "/b" }

/-- What a provider makes of a lens: a command that stays in the process. -/
def resolvedLens : CodeLens :=
  { range := default, command := some ⟨"Run", "run", [], some ⟨0, 7⟩⟩ }

/-- There is room for two batches. The provider resolves the lens of the first document, once more
when the batch of the lens has been swept. -/
def sweptRun : List (BinderAction CodeLens Unit Unit) :=
  [.register ⟨[.any]⟩ () (), .bind 1 firstDocument [default], .bind 1 secondDocument [default],
    .rebind ⟨1, 0, 1⟩ resolvedLens, .sweep, .rebind ⟨1, 0, 1⟩ resolvedLens]

/-- The history of that run. -/
def sweptHistory : BinderHistory CodeLens Unit Unit := run (opening .codeLens 2 true) sweptRun

/-- Both lenses go with the first document, and the token of the second document still leads to its
lens. -/
theorem release_drops_own_batches_sweptRun :
    sweptHistory.binder.owned = [(firstDocument, [3, 4]), (secondDocument, [2])] ∧
      BoundFor (opening .codeLens 2 true) sweptRun 3 firstDocument ∧
      (sweptHistory.resolve? ⟨1, 0, 2⟩).isSome ∧
      (sweptHistory.step (.release firstDocument)).resolve? ⟨1, 0, 2⟩ =
        sweptHistory.resolve? ⟨1, 0, 2⟩ ∧
      (sweptHistory.step (.release firstDocument)).resolve? ⟨1, 0, 3⟩ = none ∧
      (run (sweptHistory.step (.release firstDocument)) sweptRun).resolve? ⟨1, 0, 4⟩ = none ∧
      (sweptHistory.binder.release firstDocument).1 = 2 := by
  obtain ⟨-, hcomplete, -, hrelease⟩ := release_drops_own_batches .codeLens 2 true sweptRun
  obtain ⟨hgone, hkept, hcount⟩ := hrelease firstDocument
  have hbound : BoundFor (opening .codeLens 2 true) sweptRun 3 firstDocument := by
    show BoundFor _ ([_] ++ [_] ++ [_] ++ [_] ++ [_] ++ [_]) _ _
    refine .kept (.kept (madeFor_append.mpr (.inr ⟨by decide +kernel, .inr ⟨⟨1, 0, 1⟩, rfl, ?_⟩⟩)))
    refine ⟨by decide +kernel, .kept (madeFor_append.mpr (.inr ⟨by decide +kernel, .inl rfl⟩))⟩
  have hstems : StemsFrom (opening .codeLens 2 true) sweptRun 2 secondDocument := by
    show StemsFrom _ ([_] ++ [_] ++ [_] ++ [_] ++ [_] ++ [_]) _ _
    exact .kept (.kept (.kept (madeFor_append.mpr (.inr ⟨by decide +kernel, .inl rfl⟩))))
  have hthird : Recorded sweptHistory.binder.owned firstDocument 3 :=
    hcomplete 3 firstDocument hbound (by decide +kernel)
  have hfourth : Recorded sweptHistory.binder.owned firstDocument 4 :=
    ⟨[3, 4], by decide +kernel, by decide⟩
  refine ⟨by decide +kernel, hbound, by decide +kernel, ?_, ?_, ?_, ?_⟩
  · exact (hkept 2 (.inr ⟨secondDocument, by decide +kernel, hstems⟩)).2 ⟨1, 0, 2⟩ rfl
  · exact (hgone 3 (.inl hthird)).2 [] ⟨1, 0, 3⟩ rfl
  · exact (hgone 4 (.inl hfourth)).2 sweptRun ⟨1, 0, 4⟩ rfl
  · have hbefore : sweptHistory.binder.cache.size = 3 := by decide +kernel
    have hafter : (sweptHistory.step (.release firstDocument)).binder.cache.size = 1 := by
      decide +kernel
    change _ + (sweptHistory.step (.release firstDocument)).binder.cache.size =
      sweptHistory.binder.cache.size at hcount
    rw [hbefore, hafter] at hcount
    exact Nat.succ_inj.mp hcount

end BinderHistory

end ProviderHub
