import Mathlib.Tactic
import ProviderHub.Proofs.Session.Bindings

/-!
Batches of documents that are closed.

When a document is closed, the batches that are recorded under it are deleted. But a request about
the document may be under way, and what it caches when its providers answer is recorded after that.

* `Query.origins`: what the batches are made for that a query caches;
* `Session.Caches`: a step caches a batch;
* `Session.batches_outlive_documents_iff`: batches are recorded under open documents at all times
  exactly if no step caches one for a document that is closed.
-/

namespace ProviderHub

/-! ### What a query caches -/

/-- What the batches are made for that a query caches when its providers have answered. -/
def Query.origins (origin : Option Token) (results : List (ProviderId × Reply)) (kind : ItemKind)
    (query : Query) : List Origin :=
  (Query.bindings origin results kind query).filterMap BinderAction.origin?

namespace Query

variable {origin : Option Token} {uri : Url}

lemma not_mem_rebinding {α : Type} [Bindable α] (reply : Option α) :
    .document uri ∉ (rebinding origin reply).filterMap BinderAction.origin? := by
  cases origin with
  | none => exact List.not_mem_nil
  | some token =>
      cases reply with
      | none => exact List.not_mem_nil
      | some item =>
          intro hmem
          obtain ⟨action, haction, horigin⟩ := List.mem_filterMap.mp hmem
          rw [List.mem_singleton.mp haction, BinderAction.origin?] at horigin
          split at horigin <;> cases horigin

lemma not_mem_alongside {α : Type} [Bindable α] (items : List α) :
    .document uri ∉ (alongside origin items).filterMap BinderAction.origin? := by
  cases origin with
  | none => exact List.not_mem_nil
  | some token =>
      intro hmem
      obtain ⟨action, haction, horigin⟩ := List.mem_filterMap.mp hmem
      rw [List.mem_singleton.mp haction, BinderAction.origin?] at horigin
      split at horigin <;> cases horigin

/-- Batches are cached for a document only by queries about it. -/
lemma document_of_mem_origins {results : List (ProviderId × Reply)} {kind : ItemKind}
    {query : Query} (h : .document uri ∈ query.origins origin results kind) :
    ∃ q, query = .document uri q := by
  rw [origins] at h
  rcases bindings_cases origin results kind query with
    heq | ⟨u, q, rfl, heq⟩ | ⟨reply, heq⟩ | ⟨items, heq⟩
  · rw [heq] at h
    cases h
  · rw [heq] at h
    obtain ⟨action, haction, horigin⟩ := List.mem_filterMap.mp h
    obtain ⟨batch, -, rfl⟩ := List.mem_map.mp haction
    rw [BinderAction.origin?] at horigin
    split at horigin <;> cases horigin
    exact ⟨q, rfl⟩
  · rw [heq] at h
    exact absurd h (not_mem_rebinding reply)
  · rw [heq] at h
    exact absurd h (not_mem_alongside items)

end Query

namespace Binder

variable {α : Type} [Bindable α] {b : Binder α}

/-- Some actions do nothing, or cache batches for one origin. -/
def CachesFor (b : Binder α) (actions : List (BinderAction α Unit Unit)) : Prop :=
  (actions.filterMap BinderAction.origin? = [] ∧ b.doAll actions = b) ∨
  ∃ origin batches, batches ≠ [] ∧
    (∀ o, o ∈ actions.filterMap BinderAction.origin? ↔ o = origin) ∧
    b.Adds (b.doAll actions) (b.owner? origin) batches

lemma cachesFor_nil (b : Binder α) : b.CachesFor [] := .inl ⟨rfl, rfl⟩

lemma cachesFor_singleton (hb : b.Ready) {action : BinderAction α Unit Unit}
    (hnone : action.origin? = none → b.doAll [action] = b) : b.CachesFor [action] := by
  rcases BinderHistory.step_cases { binder := b } action with
    ⟨origin, provider, items, horigin, hitems, heq⟩ | ⟨horigin, -⟩
  · refine .inr ⟨origin, [items], List.cons_ne_nil _ _, fun o => ?_, ?_⟩
    · rw [List.filterMap_cons_some horigin, List.filterMap_nil, List.mem_singleton]
    · rw [doAll, BinderHistory.run, List.foldl_cons, List.foldl_nil, heq]
      exact bindFor_adds hb provider _ hitems
  · exact .inl ⟨List.filterMap_cons_none horigin, hnone horigin⟩

lemma cachesFor_rebinding (hb : b.Ready) (origin : Option Token) (reply : Option α) :
    b.CachesFor (Query.rebinding origin reply) := by
  cases origin with
  | none => exact b.cachesFor_nil
  | some token =>
      cases reply with
      | none => exact b.cachesFor_nil
      | some item =>
          refine cachesFor_singleton hb fun hnone => ?_
          show (b.rebind token item).2 = b
          rw [rebind]
          rw [BinderAction.origin?] at hnone
          split
          · rename_i command hcommand
            cases hsafe : command.isWireSafe with
            | true => rfl
            | false => simp [hcommand, hsafe] at hnone
          · rfl

lemma cachesFor_alongside (hb : b.Ready) (origin : Option Token) (items : List α) :
    b.CachesFor (Query.alongside origin items) := by
  cases origin with
  | none => exact b.cachesFor_nil
  | some token =>
      refine cachesFor_singleton hb fun hnone => ?_
      cases items with
      | nil => rfl
      | cons item items => cases hnone

lemma cachesFor_batches (hb : b.Ready) (uri : Url) {batches : List (ProviderId × List α)}
    (hitems : ∀ batch ∈ batches, batch.2 ≠ []) :
    b.CachesFor (batches.map fun (id, items) => .bind id uri items) := by
  cases batches with
  | nil => exact b.cachesFor_nil
  | cons first rest =>
      have hadds := bindAll_adds hb uri hitems
      rw [bindAll_eq_doAll] at hadds
      refine .inr ⟨.document uri, _, List.cons_ne_nil _ _, fun o => ?_, hadds⟩
      have horigin : ∀ batch ∈ first :: rest,
          (BinderAction.bind batch.1 uri batch.2 : BinderAction α Unit Unit).origin? =
            some (.document uri) := by
        intro batch hbatch
        rw [BinderAction.origin?, if_neg (by simpa using hitems batch hbatch)]
      rw [List.filterMap_map, List.mem_filterMap]
      constructor
      · rintro ⟨batch, hbatch, hsome⟩
        exact (Option.some_inj.mp ((horigin batch hbatch).symm.trans hsome)).symm
      · rintro rfl
        exact ⟨first, List.mem_cons_self .., horigin first (List.mem_cons_self ..)⟩

end Binder

namespace Language

variable {π : Type} {l : Language π}

/-- **A query caches batches of each kind for one origin, or none.** -/
lemma cachesFor_bindings (hl : l.Sound) (query : Query) (origin : Option Token)
    (results : List (ProviderId × Reply)) (kind : ItemKind) :
    (kind.binder l).CachesFor (Query.bindings origin results kind query) := by
  have hready := hl.ready kind
  rcases Query.bindings_cases origin results kind query with
    heq | ⟨uri, q, -, heq⟩ | ⟨reply, heq⟩ | ⟨items, heq⟩
  · rw [heq]
    exact Binder.cachesFor_nil _
  · rw [heq]
    exact Binder.cachesFor_batches hready uri fun _ => ItemKind.ne_nil_of_mem_batches
  · rw [heq]
    exact Binder.cachesFor_rebinding hready origin reply
  · rw [heq]
    exact Binder.cachesFor_alongside hready origin items

end Language

/-! ### Documents that are open -/

namespace Documents

variable {t : Documents} {uri u : Url}

lemma get?_isSome_iff : (t.get? uri).isSome = true ↔ ∃ d ∈ t.docs, d.uri = uri := by
  rw [get?, List.find?_isSome]
  exact exists_congr fun d => and_congr_right fun _ => beq_iff_eq

lemma erase_isSome_iff :
    ((t.erase uri).get? u).isSome = true ↔ u ≠ uri ∧ (t.get? u).isSome = true := by
  rw [get?_isSome_iff, get?_isSome_iff]
  constructor
  · rintro ⟨d, hd, rfl⟩
    obtain ⟨hmem, hne⟩ := List.mem_filter.mp hd
    exact ⟨bne_iff_ne.mp hne, d, hmem, rfl⟩
  · rintro ⟨hne, d, hd, rfl⟩
    exact ⟨d, List.mem_filter.mpr ⟨hd, bne_iff_ne.mpr hne⟩, rfl⟩

lemma openDocument_isSome (d : TextDocument) (h : (t.get? u).isSome = true) :
    ((t.openDocument d).get? u).isSome = true := by
  rw [get?_isSome_iff]
  by_cases hu : u = d.uri
  · exact ⟨d, List.mem_append_right _ (List.mem_singleton_self _), hu.symm⟩
  · obtain ⟨other, hother, huri⟩ := get?_isSome_iff.mp (erase_isSome_iff.mpr ⟨hu, h⟩)
    exact ⟨other, List.mem_append_left _ hother, huri⟩

lemma change_isSome (uri : Url) (version : Int32) (text : String) (h : (t.get? u).isSome = true) :
    ((t.change uri version text).2.get? u).isSome = true := by
  rw [change]
  split
  · split
    · exact h
    · exact openDocument_isSome _ h
  · exact h

end Documents

namespace Language

variable {π : Type} {l : Language π}

/-- A document is open. -/
def IsOpen (l : Language π) (uri : Url) : Prop := (l.documents.get? uri).isSome = true

/-- Batches are recorded under open documents. -/
def Sheltered (l : Language π) : Prop :=
  ∀ (kind : ItemKind) (uri : Url) (id : CacheId),
    Binder.Recorded (kind.binder l).owned uri id → l.IsOpen uri

/-- Batches that are cached are recorded under open documents. -/
def Housed (l : Language π) : Prop :=
  ∀ (kind : ItemKind) (id : CacheId), (kind.binder l).cache.contains id = true →
    ∃ uri, Binder.Recorded (kind.binder l).owned uri id ∧ l.IsOpen uri

/-- Tables have each document once, and numbers that have been given. -/
structure Filed (l : Language π) : Prop where
  keyed : ∀ kind : ItemKind, Binder.Keyed (kind.binder l).owned
  lt_nextId : ∀ (kind : ItemKind) (uri : Url) (id : CacheId),
    Binder.Recorded (kind.binder l).owned uri id → id < (kind.binder l).cache.nextId

/-- Closing a document apart, open documents stay open and tables as they are. -/
lemma after_cases (l : Language π) (action : LanguageAction π) :
    (∃ uri, action = .closeDocument uri) ∨
    (∀ uri, l.IsOpen uri → (l.after action).IsOpen uri) ∧
      ∀ kind : ItemKind, (kind.binder (l.after action)).owned = (kind.binder l).owned := by
  by_cases hclose : ∃ uri, action = .closeDocument uri
  · exact .inl hclose
  refine .inr ⟨fun uri hopen => ?_, fun kind => ?_⟩
  · cases action with
    | openDocument d => exact Documents.openDocument_isSome d hopen
    | changeDocument u version text => exact Documents.change_isSome u version text hopen
    | closeDocument u => exact absurd ⟨u, rfl⟩ hclose
    | ask query atOnce =>
        rw [after, LanguageHistory.step, LanguageHistory.ask_language]
        exact hopen
    | sweep feature => cases feature <;> exact hopen
    | _ => exact hopen
  · rcases l.binder_after action kind with heq | ⟨uri, hclosed, -⟩ | heq | heq
    · rw [heq]
    · exact absurd ⟨uri, hclosed⟩ hclose
    · rw [heq]
      rfl
    · rw [heq]
      rfl

lemma binder_close (l : Language π) (uri : Url) (kind : ItemKind) :
    kind.binder (l.after (.closeDocument uri)) = ((kind.binder l).release uri).2 := by
  cases kind <;> rfl

lemma isOpen_close {uri u : Url} :
    (l.after (.closeDocument uri)).IsOpen u ↔ u ≠ uri ∧ l.IsOpen u :=
  Documents.erase_isSome_iff

lemma Filed.after (hl : l.Filed) (action : LanguageAction π) : (l.after action).Filed := by
  rcases l.after_cases action with ⟨uri, rfl⟩ | ⟨-, howned⟩
  · refine ⟨fun kind => ?_, fun kind u id hrecorded => ?_⟩
    · rw [binder_close]
      exact ((hl.keyed kind).filter _).prune _
    · rw [nextId_after]
      rw [binder_close] at hrecorded
      exact hl.lt_nextId kind u id (Binder.recorded_release.mp hrecorded).1.2
  · refine ⟨fun kind => howned kind ▸ hl.keyed kind, fun kind u id hrecorded => ?_⟩
    rw [nextId_after]
    exact hl.lt_nextId kind u id (howned kind ▸ hrecorded)

lemma Sheltered.after (hl : l.Sheltered) (action : LanguageAction π) :
    (l.after action).Sheltered := by
  rcases l.after_cases action with ⟨uri, rfl⟩ | ⟨hopen, howned⟩
  · intro kind u id hrecorded
    rw [binder_close] at hrecorded
    obtain ⟨⟨hne, hold⟩, -⟩ := Binder.recorded_release.mp hrecorded
    exact isOpen_close.mpr ⟨hne, hl kind u id hold⟩
  · exact fun kind u id hrecorded => hopen u (hl kind u id (howned kind ▸ hrecorded))

lemma Housed.after (hl : l.Housed) (hfiled : l.Filed) (action : LanguageAction π) :
    (l.after action).Housed := by
  intro kind id hcached
  obtain ⟨batch, hentry⟩ := Cache.contains_iff.mp hcached
  have hold : (kind.binder l).cache.contains id = true :=
    Cache.contains_iff.mpr ⟨batch, l.entries_after action kind hentry⟩
  obtain ⟨u, hrecorded, hu⟩ := hl kind id hold
  rcases l.after_cases action with ⟨uri, rfl⟩ | ⟨hopen, howned⟩
  · rw [binder_close] at hentry ⊢
    have hother := ((Binder.mem_release_entries (hfiled.keyed kind) uri).mp hentry).2
    have hne : u ≠ uri := by
      rintro rfl
      exact hother hrecorded
    exact ⟨u, Binder.recorded_release.mpr ⟨⟨hne, hrecorded⟩, hold⟩, isOpen_close.mpr ⟨hne, hu⟩⟩
  · exact ⟨u, (howned kind).symm ▸ hrecorded, hopen u hu⟩

/-! ### The last move of a query -/

section finish

variable (query : Query) (origin : Option Token) (results : List (ProviderId × Reply))

/-- A binder gets batches for one origin, or nothing happens to it. -/
lemma finish_adds (hl : l.Sound) (kind : ItemKind) :
    (query.origins origin results kind = [] ∧
      kind.binder (l.finish query origin results).2 = kind.binder l) ∨
    ∃ o batches, batches ≠ [] ∧ (∀ o', o' ∈ query.origins origin results kind ↔ o' = o) ∧
      (kind.binder l).Adds (kind.binder (l.finish query origin results).2)
        ((kind.binder l).owner? o) batches := by
  rw [binder_finish]
  exact cachesFor_bindings hl query origin results kind

lemma Filed.finish (hfiled : l.Filed) (hl : l.Sound) :
    (l.finish query origin results).2.Filed where
  keyed kind := by
    rw [binder_finish, Binder.doAll, BinderHistory.run]
    generalize Query.bindings origin results kind query = actions
    induction actions using List.reverseRecOn with
    | nil => exact hfiled.keyed kind
    | append_singleton actions action ih =>
        rw [List.foldl_append]
        exact BinderHistory.keyed_step ih action
  lt_nextId kind uri id hrecorded := by
    rcases finish_adds query origin results hl kind with ⟨-, heq⟩ | ⟨o, batches, -, -, hadds⟩
    · rw [heq] at hrecorded ⊢
      exact hfiled.lt_nextId kind uri id hrecorded
    · rcases hadds.recorded_of uri id hrecorded with hold | ⟨-, -, hlt⟩
      · exact (hfiled.lt_nextId kind uri id hold).trans_le hadds.nextId_le
      · exact hlt

variable {query origin results}

lemma Sheltered.finish (hsheltered : l.Sheltered) (hl : l.Sound)
    (hcaches : ∀ (kind : ItemKind) (uri : Url),
      .document uri ∈ query.origins origin results kind → l.IsOpen uri) :
    (l.finish query origin results).2.Sheltered := by
  intro kind uri id hrecorded
  rw [IsOpen, finish_documents]
  rcases finish_adds query origin results hl kind with ⟨-, heq⟩ | ⟨o, batches, -, ho, hadds⟩
  · exact hsheltered kind uri id (heq ▸ hrecorded)
  · rcases hadds.recorded_of uri id hrecorded with hold | ⟨howner, -⟩
    · exact hsheltered kind uri id hold
    · -- the owner is named by the query, or it has the batch that the query came from
      cases o with
      | document u =>
          cases howner
          exact hcaches kind uri ((ho _).mpr rfl)
      | item token => exact hsheltered kind uri _ (Binder.recorded_of_ownerOf? howner)

lemma Housed.finish (hhoused : l.Housed) (hl : l.Sound)
    (hcaches : ∀ (kind : ItemKind), ∀ o ∈ query.origins origin results kind,
      ∃ uri, (kind.binder l).owner? o = some uri ∧ l.IsOpen uri) :
    (l.finish query origin results).2.Housed := by
  intro kind id hcached
  simp only [IsOpen, finish_documents]
  rcases finish_adds query origin results hl kind with ⟨-, heq⟩ | ⟨o, batches, -, ho, hadds⟩
  · rw [heq] at hcached ⊢
    exact hhoused kind id hcached
  · rcases hadds.contains_iff.mp hcached with hold | ⟨hle, hlt⟩
    · obtain ⟨uri, hrecorded, hopen⟩ := hhoused kind id hold
      exact ⟨uri, hadds.recorded_old uri id hold hrecorded, hopen⟩
    · obtain ⟨uri, howner, hopen⟩ := hcaches kind o ((ho o).mpr rfl)
      exact ⟨uri, hadds.recorded_new uri howner id hle hlt, hopen⟩

/-- A new batch is cached, and recorded under the owner of its origin only. -/
lemma exists_new (hfiled : l.Filed) (hl : l.Sound) {kind : ItemKind} {o : Origin}
    (ho : o ∈ query.origins origin results kind) :
    ∃ id, (kind.binder (l.finish query origin results).2).cache.contains id = true ∧
      ∀ uri, Binder.Recorded (kind.binder (l.finish query origin results).2).owned uri id ↔
        (kind.binder l).owner? o = some uri := by
  rcases finish_adds query origin results hl kind with ⟨hnil, -⟩ | ⟨o', batches, hne, ho', hadds⟩
  · rw [hnil] at ho
    cases ho
  obtain rfl := (ho' o).mp ho
  have hlt : (kind.binder l).cache.nextId <
      (kind.binder (l.finish query origin results).2).cache.nextId := by
    rw [hadds.nextId_eq]
    exact Nat.lt_add_of_pos_right (List.length_pos_iff.mpr hne)
  refine ⟨(kind.binder l).cache.nextId, hadds.contains_iff.mpr (.inr ⟨le_refl _, hlt⟩),
    fun uri => ⟨fun hrecorded => ?_, fun howner => ?_⟩⟩
  · rcases hadds.recorded_of uri _ hrecorded with hold | ⟨howner, -⟩
    · exact absurd (hfiled.lt_nextId kind uri _ hold) (lt_irrefl _)
    · exact howner
  · exact hadds.recorded_new uri howner _ (le_refl _) hlt

end finish

end Language

/-! ### Runs -/

namespace Session

variable {π : Type} {settings : Settings} {actions : List (SessionAction π)}

/-- A step ends a request with what its providers have replied. -/
def Finishes (s : Session π) (action : SessionAction π) (query : Query) (origin : Option Token)
    (results : List (ProviderId × Reply)) : Prop :=
  ∃ t ∈ s.tasks, s.pursued? action = some t ∧ ∃ host jobs inquiry s',
    Consults host { s with jobs } t query origin inquiry s' ∧ inquiry.isDone = true ∧
      inquiry.results = results ∧
      (s.step action).language = (s.language.finish query origin results).2

/-- A step caches a batch of a kind. -/
def Caches (s : Session π) (action : SessionAction π) (kind : ItemKind) (origin : Origin) : Prop :=
  ∃ query token results, s.Finishes action query token results ∧
    origin ∈ query.origins token results kind

/-- What all actions on the language features preserve, and what a request preserves that ends. -/
lemma step_language_induction {s : Session π} {action : SessionAction π} {P : Language π → Prop}
    (hs : P s.language) (hafter : ∀ l action, P l → P (l.after action))
    (hfinish : ∀ query origin results, s.Finishes action query origin results →
      P (s.language.finish query origin results).2) : P (s.step action).language := by
  rcases s.step_cases action with
    ⟨-, hplain | hbrings⟩ | ⟨t, ht, ⟨host, jobs, -, hpursues⟩, hmem⟩
  · exact hplain.language_induction hs hafter
  · rw [hbrings.language_eq]
    exact hs
  · rcases hpursues.language_cases with heq | ⟨query, origin, inquiry, s', hconsults, hdone, heq⟩
    · rw [heq]
      exact hs
    · rw [heq]
      exact hfinish query origin _
        ⟨t, hmem, ht, host, jobs, inquiry, s', hconsults, hdone, rfl, heq⟩

lemma run_filed (settings : Settings) (actions : List (SessionAction π)) :
    (run settings actions).language.Filed := by
  induction actions using List.reverseRecOn with
  | nil =>
      refine ⟨fun kind => ?_, fun kind uri id hrecorded => ?_⟩
      · cases kind <;> exact List.nodup_nil
      · obtain ⟨ids, hids, -⟩ := hrecorded
        cases kind <;> exact (List.not_mem_nil hids).elim
  | append_singleton actions action ih =>
      rw [run_append]
      exact step_language_induction ih (fun l action hl => hl.after action)
        fun query origin results _ => ih.finish query origin results (run_sound settings actions)

/-- If no batch is cached for a closed document, all are recorded under open ones. -/
lemma run_sheltered
    (hcaches : ∀ earlier action, earlier ++ [action] <+: actions → ∀ kind uri,
      (run settings earlier).Caches action kind (.document uri) →
        (run settings earlier).language.IsOpen uri)
    {earlier : List (SessionAction π)} (hearlier : earlier <+: actions) :
    (run settings earlier).language.Sheltered := by
  induction earlier using List.reverseRecOn with
  | nil =>
      rintro kind uri id ⟨ids, hids, -⟩
      cases kind <;> exact (List.not_mem_nil hids).elim
  | append_singleton earlier action ih =>
      have hsheltered := ih ((List.prefix_append _ _).trans hearlier)
      rw [run_append]
      refine step_language_induction hsheltered (fun l action hl => hl.after action)
        fun query origin results hfinishes => ?_
      exact hsheltered.finish (run_sound settings earlier) fun kind uri ho =>
        hcaches earlier action hearlier kind uri ⟨query, origin, results, hfinishes, ho⟩

/-- If each batch is cached for an open document, all that are cached are recorded under such. -/
lemma run_housed
    (hcaches : ∀ earlier action, earlier ++ [action] <+: actions → ∀ kind origin,
      (run settings earlier).Caches action kind origin →
        ∃ uri, (kind.binder (run settings earlier).language).owner? origin = some uri ∧
          (run settings earlier).language.IsOpen uri)
    {earlier : List (SessionAction π)} (hearlier : earlier <+: actions) :
    (run settings earlier).language.Housed := by
  induction earlier using List.reverseRecOn with
  | nil =>
      intro kind id hcached
      obtain ⟨batch, hentry⟩ := Cache.contains_iff.mp hcached
      cases kind <;> exact (List.not_mem_nil hentry).elim
  | append_singleton earlier action ih =>
      have hhoused := ih ((List.prefix_append _ _).trans hearlier)
      have hfiled := run_filed settings earlier
      have hsound := run_sound settings earlier
      rw [run_append]
      refine (step_language_induction (P := fun l => l.Housed ∧ l.Filed) ⟨hhoused, hfiled⟩
        (fun l action hl => ⟨hl.1.after hl.2 action, hl.2.after action⟩)
        fun query origin results hfinishes => ⟨?_, hfiled.finish query origin results hsound⟩).1
      exact hhoused.finish hsound fun kind o ho =>
        hcaches earlier action hearlier kind o ⟨query, origin, results, hfinishes, ho⟩

/-- A batch is cached for a document only if the document was open when providers were asked. -/
lemma Caches.asked_open {action : SessionAction π} {kind : ItemKind} {uri : Url}
    (h : (run settings actions).Caches action kind (.document uri)) :
    ∃ before, before <+: actions ∧ (run settings before).language.IsOpen uri := by
  obtain ⟨query, origin, results, ⟨t, ht, -, host, jobs, inquiry, s', hconsults, -⟩, ho⟩ := h
  obtain ⟨before, hbefore, hstart, -⟩ := hconsults.put (run_put settings actions t ht)
  obtain ⟨q, rfl⟩ := Query.document_of_mem_origins ho
  refine ⟨before, hbefore, ?_⟩
  rw [Language.start, Language.startDocument] at hstart
  split at hstart
  · cases hstart
  · split at hstart
    · cases hstart
    · rename_i d hd
      rw [Language.IsOpen, hd]
      rfl

/-- **When batches outlive their documents**: in a run, batches are recorded under open documents at
all times if and only if no step caches one for a document that is closed at that time. All batches
that are cached are recorded under open documents at all times if and only if each is cached for an
item or a document whose owner is known and open at that time. A batch is cached for a closed
document only by a request that was put to providers when the document was open. -/
theorem batches_outlive_documents_iff (settings : Settings) (actions : List (SessionAction π)) :
    ((∀ earlier, earlier <+: actions → (run settings earlier).language.Sheltered) ↔
      ∀ earlier action, earlier ++ [action] <+: actions → ∀ kind uri,
        (run settings earlier).Caches action kind (.document uri) →
          (run settings earlier).language.IsOpen uri) ∧
    ((∀ earlier, earlier <+: actions → (run settings earlier).language.Housed) ↔
      ∀ earlier action, earlier ++ [action] <+: actions → ∀ kind origin,
        (run settings earlier).Caches action kind origin →
          ∃ uri, (kind.binder (run settings earlier).language).owner? origin = some uri ∧
            (run settings earlier).language.IsOpen uri) ∧
    ∀ earlier action, earlier ++ [action] <+: actions → ∀ kind uri,
      (run settings earlier).Caches action kind (.document uri) →
        ∃ before, before <+: earlier ∧ (run settings before).language.IsOpen uri := by
  -- a new batch is there after the step that caches it, and the documents are as before
  have hnew {earlier : List (SessionAction π)} {action : SessionAction π} {kind : ItemKind}
      {origin : Origin} (hcaches : (run settings earlier).Caches action kind origin) :
      ∃ id, (kind.binder (run settings (earlier ++ [action])).language).cache.contains id = true ∧
        (∀ uri, Binder.Recorded (kind.binder (run settings (earlier ++ [action])).language).owned
            uri id ↔
          (kind.binder (run settings earlier).language).owner? origin = some uri) ∧
        ∀ uri, (run settings (earlier ++ [action])).language.IsOpen uri ↔
          (run settings earlier).language.IsOpen uri := by
    obtain ⟨query, token, results, ⟨_, _, _, _, _, _, _, _, _, _, heq⟩, ho⟩ := hcaches
    obtain ⟨id, hcached, hrecorded⟩ :=
      Language.exists_new (run_filed settings earlier) (run_sound settings earlier) ho
    rw [run_append, heq]
    refine ⟨id, hcached, hrecorded, fun uri => ?_⟩
    rw [Language.IsOpen, Language.finish_documents]
    rfl
  refine ⟨⟨fun h earlier action hprefix kind uri hcaches => ?_, fun h _ => run_sheltered h⟩,
    ⟨fun h earlier action hprefix kind origin hcaches => ?_, fun h _ => run_housed h⟩,
    fun earlier action _ kind uri hcaches => hcaches.asked_open⟩
  · obtain ⟨id, -, hrecorded, hopen⟩ := hnew hcaches
    exact (hopen uri).mp (h _ hprefix kind uri id ((hrecorded uri).mpr rfl))
  · obtain ⟨id, hcached, hrecorded, hopen⟩ := hnew hcaches
    obtain ⟨uri, hu, hstill⟩ := h _ hprefix kind id hcached
    exact ⟨uri, (hrecorded uri).mp hu, (hopen uri).mp hstill⟩

/-- The name of a document. -/
def lateUrl : Url := { scheme := "mem", path := "/a" }

/-- Parameters that name it. -/
def lateParams (more : List (String × Json)) : Json :=
  Json.object [("textDocument", Json.object (("uri", .str "mem:/a") :: more))]

/-- A request of the client. -/
def asks (id : Nat) (method : String) (params : Json) : SessionAction Unit :=
  .message (.request { id := .number id, method, params := some params })

/-- A notification of the client. -/
def tells (method : String) (params : Json) : SessionAction Unit :=
  .message (.notification { method, params := some params })

/-- The next job is done, while no provider answers at once. -/
def nextJob : SessionAction Unit := .work ⟨fun _ _ => none, fun _ => false⟩ 0

/-- What a provider makes of a lens: a command that stays in the process. -/
def lateLens : CodeLens :=
  { range := default, command := some { title := "Run", command := "run", state := some ⟨0, 7⟩ } }

/-- A provider gives a lens. The client wants the lens to be resolved, and all lenses once more, and
closes the document. Then the provider answers both. -/
def lateRun : List (SessionAction Unit) :=
  [asks 1 Method.initializeRequest (Json.object []), tells Method.initialized .null,
    .openGate .registered .null, .register .codeLens ⟨[.any]⟩ () .nothing,
    tells Method.didOpen
      (lateParams [("languageId", .str "text"), ("version", .int 1), ("text", .str "")]),
    asks 2 Method.codeLens (lateParams []), nextJob,
    .answer 0 (some (.lenses [default])), nextJob,
    asks 3 Method.codeLensResolve
      (encode (Binder.toWire .codeLens ⟨1, 0, 1⟩ (default : CodeLens))), nextJob,
    asks 4 Method.codeLens (lateParams []), nextJob, tells Method.didClose (lateParams []),
    .answer 1 (some (.lens lateLens)), nextJob, .answer 2 (some (.lenses [default])), nextJob]

/-- Two batches are left when the document is closed, one of them without an owner, and the tokens
of both lead to their items. -/
theorem batches_outlive_documents_iff_lateRun :
    let l := (run {} lateRun).language
    l.lenses.owned = [(lateUrl, [3])] ∧ l.lenses.cache.ids = [2, 3] ∧ ¬ l.IsOpen lateUrl ∧
      (l.lenses.resolve? (l.providers.registry .codeLens) ⟨1, 0, 2⟩).isSome = true ∧
      (l.lenses.resolve? (l.providers.registry .codeLens) ⟨1, 0, 3⟩).isSome = true ∧
      (∃ earlier action kind uri, earlier ++ [action] <+: lateRun ∧
        (run {} earlier).Caches action kind (.document uri) ∧
        ¬ (run {} earlier).language.IsOpen uri) ∧
      ∃ earlier action kind origin, earlier ++ [action] <+: lateRun ∧
        (run {} earlier).Caches action kind origin ∧
        ∀ uri, (kind.binder (run {} earlier).language).owner? origin = some uri →
          ¬ (run {} earlier).language.IsOpen uri := by
  intro l
  have howned : l.lenses.owned = [(lateUrl, [3])] := by decide +kernel
  have hids : l.lenses.cache.ids = [2, 3] := by decide +kernel
  have hclosed : ¬ l.IsOpen lateUrl := by
    rw [Language.IsOpen]
    decide +kernel
  obtain ⟨hsheltered, hhoused, -⟩ := batches_outlive_documents_iff {} lateRun
  refine ⟨howned, hids, hclosed, by decide +kernel, by decide +kernel, ?_, ?_⟩
  · by_contra hnone
    push Not at hnone
    have hopen := hsheltered.mpr (fun earlier action h kind uri => hnone earlier action kind uri h)
      lateRun List.prefix_rfl .lens lateUrl 3
    refine hclosed (hopen ⟨[3], ?_, List.mem_singleton_self _⟩)
    show (lateUrl, [3]) ∈ l.lenses.owned
    rw [howned]
    exact List.mem_singleton_self _
  · by_contra hnone
    push Not at hnone
    have hcached : l.lenses.cache.contains 2 = true := by
      rw [Cache.contains, hids]
      rfl
    obtain ⟨uri, ⟨ids, hmem, hid⟩, -⟩ := hhoused.mpr
      (fun earlier action h kind origin => hnone earlier action kind origin h)
      lateRun List.prefix_rfl .lens 2 hcached
    -- the table has no document for this batch
    have hlist : (uri, ids) ∈ [(lateUrl, [3])] := howned ▸ hmem
    cases List.mem_singleton.mp hlist
    cases List.mem_singleton.mp hid

end Session

end ProviderHub
