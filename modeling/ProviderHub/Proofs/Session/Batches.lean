import ProviderHub.Proofs.Provider.Matching
import ProviderHub.Proofs.Session.FanOut

/-!
What requests leave behind.

A request changes no cache and no table while it waits, nor when it ends in an error. One for items
of a document that is answered leaves one batch for each provider it was put to that has replied
with items.

* `Session.PutTo`: a request has been put to the providers it was routed to;
* `Session.Stores`: what an answered request for items of a document leaves behind;
* `Session.requests_bind_all_or_nothing`: every step of every request does this or nothing.
-/

namespace ProviderHub

/-- Providers are asked in increasing order of their numbers. -/
lemma Providers.route_sorted {π : Type} {p : Providers π} {query : DocumentQuery}
    (h : (p.registry query.feature).Ordered) {d : TextDocument} {entries : List (Entry π Metadata)}
    (hroute : p.route query d = .ok entries) : entries.Pairwise (·.id < ·.id) := by
  rw [route] at hroute
  split at hroute
  · cases hroute
    exact List.pairwise_map.mpr (h.matching_sorted d query.reaches)
  · split at hroute
    · cases hroute
      exact List.pairwise_singleton _ _
    · cases hroute

/-- The items of an answer, if it is a reply with any. -/
def ItemKind.batch? (kind : ItemKind) (answer : Option (Option Reply)) : Option (List kind.Item) :=
  (answer.join.map kind.listed).filter (!·.isEmpty)

lemma Binder.Adds.map_snd {α : Type} {b b' : Binder α} {owner : Option Url}
    {batches : List (List α)} (h : b.Adds b' owner batches) :
    b'.cache.entries.map Prod.snd = b.cache.entries.map Prod.snd ++ batches := by
  rw [h.entries_eq, List.map_append, List.map_map,
    show Prod.snd ∘ Prod.swap = (Prod.fst : List α × CacheId → List α) from rfl,
    List.zipIdx_map_fst]

namespace Session

variable {π : Type} {settings : Settings} {actions : List (SessionAction π)}

/-- The batches of a kind are what providers have replied with. -/
lemma batches_repliesOf (kind : ItemKind)
    (heard : List (Entry π Metadata × Option (Option Reply))) :
    (kind.batches (repliesOf heard)).map Prod.snd = heard.filterMap (kind.batch? ·.2) := by
  induction heard with
  | nil => rfl
  | cons h heard ih =>
      cases hreply : h.2.join with
      | none => simpa [repliesOf, ItemKind.batches, ItemKind.batch?, hreply] using ih
      | some reply =>
          cases hitems : kind.listed reply with
          | nil => simpa [repliesOf, ItemKind.batches, ItemKind.batch?, hreply, hitems] using ih
          | cons item items =>
              have hbatch : kind.batch? h.2 = some (item :: items) := by
                simp [ItemKind.batch?, hreply, hitems]
              rw [List.filterMap_cons, hbatch, ← ih]
              simp [repliesOf, ItemKind.batches, hreply, hitems]

/-! ### Whom a request has been put to -/

/-- **A request has been put to providers** by a job of its own, when the gates and the document
were open: to those that it was routed to then. This is what each of them has answered since. -/
def PutTo (settings : Settings) (actions : List (SessionAction π)) (number : TaskId) (uri : Url)
    (query : DocumentQuery) (heard : List (Entry π Metadata × Option (Option Reply))) : Prop :=
  ∃ earlier host index later d entries,
    actions = earlier ++ .work host index :: later ∧
    let s := run settings earlier
    (s.pursued? (.work host index)).map (·.number) = some number ∧
    s.language.startup.isReady = true ∧ s.language.documents.get? uri = some d ∧
    s.language.providers.route query d = .ok entries ∧
    (s.work host index).asked = s.asked ++ entries.map (fun e => (e.provider, .document d query)) ∧
    heard = entries.zipIdx.map fun e =>
      (e.1, answerOf host s.nextCall (.document d query) later e.1.provider e.2)

variable {number : TaskId} {uri : Url} {query : DocumentQuery} {origin : Option Token}
  {inquiry : Inquiry π} {heard : List (Entry π Metadata × Option (Option Reply))}

lemma startDocument_routed {l : Language π} {d : TextDocument} {entries : List (Entry π Metadata)}
    (hready : l.startup.isReady = true) (hd : l.documents.get? uri = some d)
    (hroute : l.providers.route query d = .ok entries) :
    l.startDocument uri query =
      .ask (.document d query) none (entries.map fun e => ⟨e.id, e.provider⟩) := by
  rw [Language.startDocument, hready, hd]
  dsimp only
  rw [hroute]
  rfl

/-- The inquiry of a request about a document is what the providers have answered that it was put
to. -/
lemma Underway.putTo (h : Underway settings actions number (.document uri query) origin inquiry) :
    ∃ heard, PutTo settings actions number uri query heard ∧
      (inquiry.isDone = true ↔ ∀ h ∈ heard, h.2.isSome = true) ∧
      inquiry.results = repliesOf heard := by
  obtain ⟨earlier, host, index, later, t, d, entries, hactions, hpursued, hnumber, hunasked, hready,
    hd, hroute, hdone, hresults⟩ := h.document
  refine ⟨_, ⟨earlier, host, index, later, d, entries, hactions,
    Option.map_eq_some_iff.mpr ⟨t, hpursued, hnumber⟩, hready, hd, hroute, ?_, rfl⟩, ?_, ?_⟩
  · rw [(work_asks hpursued hunasked (startDocument_routed hready hd hroute)).1, List.map_map]
    rfl
  · rw [hdone, List.forall_mem_map]
  · rw [hresults, repliesOf, List.filterMap_map]
    rfl

/-- Providers are heard in increasing order of their numbers. -/
lemma PutTo.increasing (h : PutTo settings actions number uri query heard) :
    heard.Pairwise (·.1.id < ·.1.id) := by
  obtain ⟨earlier, host, index, later, d, entries, -, -, -, -, hroute, -, rfl⟩ := h
  have hsorted := Providers.route_sorted ((run_sound settings earlier).ordered query.feature) hroute
  rw [← List.zipIdx_map_fst 0 entries, List.pairwise_map] at hsorted
  exact List.pairwise_map.mpr hsorted

/-! ### What is stored -/

/-- **What an answered request for items of a document leaves behind.** The providers that it was
put to have all answered. One batch is added for each of them that replied with items, in increasing
order of their numbers, with all of its items and in the same order. The binders of other kinds are
as they were. -/
structure Stores (s s' : Session π) (uri : Url) (kind : ItemKind)
    (heard : List (Entry π Metadata × Option (Option Reply))) : Prop where
  answered : ∀ h ∈ heard, h.2.isSome = true
  increasing : heard.Pairwise (·.1.id < ·.1.id)
  adds : (kind.binder s.language).Adds (kind.binder s'.language) (some uri)
    (heard.filterMap (kind.batch? ·.2))
  others : ∀ other ≠ kind, other.binder s'.language = other.binder s.language

/-- A request for items of a document whose providers have all answered. -/
lemma Underway.stores {s' : Session π} {kind : ItemKind} {later : List (SessionAction π)}
    (hkind : (Query.document uri query).kind? = some kind)
    (h : Underway settings (actions ++ later) number (.document uri query) origin inquiry)
    (hdone : inquiry.isDone = true)
    (hlanguage : s'.language =
      ((run settings actions).language.finish (.document uri query) origin inquiry.results).2) :
    ∃ heard, PutTo settings (actions ++ later) number uri query heard ∧
      (run settings actions).Stores s' uri kind heard := by
  obtain ⟨heard, hput, hanswered, hresults⟩ := h.putTo
  have hbinder (other : ItemKind) := Language.binder_finish (run settings actions).language
    (.document uri query) origin inquiry.results other
  refine ⟨heard, hput, hanswered.mp hdone, hput.increasing, ?_, fun other hother => ?_⟩
  · rw [hlanguage, hbinder, Query.bindings, if_pos hkind, ← Binder.bindAll_eq_doAll,
      ← batches_repliesOf, ← hresults]
    exact Binder.bindAll_adds ((run_sound settings actions).ready kind) uri
      fun batch => ItemKind.ne_nil_of_mem_batches
  · have hne : ¬ (Query.document uri query).kind? = some other := fun heq =>
      hother (Option.some_inj.mp (heq.symm.trans hkind))
    rw [hlanguage, hbinder, Query.bindings, if_neg hne]
    rfl

/-- A request goes on by its job, or it is given up with an error. -/
lemma step_of_pursued? {s : Session π} {action : SessionAction π} {t : RequestTask π}
    (h : s.pursued? action = some t) :
    (∃ host index, action = .work host index) ∨ ∃ e, s.step action = s.endTask t (.error e) := by
  cases action with
  | work host index => exact .inl ⟨host, index, rfl⟩
  | giveUp number =>
      obtain ⟨hfind, hcancelled⟩ := Option.filter_eq_some_iff.mp h
      refine .inr ⟨RouteError.cancelled.toRpc, ?_⟩
      rw [step, giveUp, hfind]
      exact if_pos hcancelled
  | _ => cases h

/-- **Requests bind all or nothing**: in every run, a step that lets no request go on stores no
batch. One that lets a request go on leaves it waiting or ends it for good. As long as the request
waits, and when it ends in an error, all caches and tables are as they were: it has stored no batch,
deleted none and changed no record. A request for items of a document that ends with a result has
been put to the providers that it was routed to, and has stored for these what `Stores` says. -/
theorem requests_bind_all_or_nothing (settings : Settings) (actions : List (SessionAction π))
    (action : SessionAction π) :
    let s := run settings actions
    let s' := run settings (actions ++ [action])
    (s.pursued? action = none → ∀ kind : ItemKind,
      (kind.binder s'.language).cache.nextId = (kind.binder s.language).cache.nextId) ∧
    ∀ t, s.pursued? action = some t →
      ((∃ u ∈ s'.tasks, u.number = t.number) ∧ s'.client = s.client ∧
        s'.language = s.language) ∨
      (∀ later, ∀ u ∈ (run settings (actions ++ [action] ++ later)).tasks, u.number ≠ t.number) ∧
        ((∃ e, s'.client = (s.client.send (encode (Response.failure (some t.id) e))).2 ∧
            s'.language = s.language) ∨
          ∃ v, s'.client = (s.client.send (encode (Response.success t.id v))).2 ∧
            ∀ uri query kind, t.query? = some (.document uri query) →
              (Query.document uri query).kind? = some kind →
                ∃ heard, PutTo settings (actions ++ [action]) t.number uri query heard ∧
                  s.Stores s' uri kind heard) := by
  intro s s'
  have hstep : s' = s.step action := run_append settings actions action
  refine ⟨fun hnone kind => ?_, fun t ht => ?_⟩
  · rw [hstep]
    rcases s.step_cases action with ⟨-, hplain | hbrings⟩ | ⟨t, ht, -⟩
    · exact hplain.nextId_eq kind
    · rw [hbrings.language_eq]
    · rw [hnone] at ht
      cases ht
  have hmem : t ∈ s.tasks := mem_of_pursued? ht
  have hended (h : ∀ u ∈ s'.tasks, u.number ≠ t.number) (later : List (SessionAction π)) :
      ∀ u ∈ (run settings (actions ++ [action] ++ later)).tasks, u.number ≠ t.number := by
    refine ended_run ?_ h later
    rw [run_append]
    exact lt_of_lt_of_le ((run_numbered settings actions).lt_next t hmem)
      (nextTask_step_le _ action)
  rcases step_of_pursued? ht with ⟨host, index, rfl⟩ | ⟨e, hfails⟩
  · have hpursues : Pursues host { s with jobs := s.jobs.eraseIdx index } t s' :=
      hstep ▸ work_pursues ht
    refine (hpursues.outcome hmem).imp_right fun ⟨hnone, houtcome⟩ => ⟨hended hnone, ?_⟩
    refine houtcome.imp_right fun ⟨v, hclient, hresult⟩ => ⟨v, hclient, ?_⟩
    intro uri query kind hquery hkind
    rcases hresult with ⟨q, hq, hstart⟩ | ⟨q, origin, inquiry, s'', hq, hconsults, hdone, -, hrest⟩
    · -- a query about a document has no result without providers
      cases hq.symm.trans hquery
      rcases s.language.startDocument_cases uri query with heq | ⟨_, heq⟩ | ⟨_, _, -, heq⟩ <;>
        cases heq.symm.trans hstart
    · cases hq.symm.trans hquery
      exact (hconsults.underway ht (run_underway settings actions t hmem _ _ _)).stores hkind hdone
        hrest
  · refine .inr ⟨hended ?_, .inl ⟨e, ?_, ?_⟩⟩
    · rw [hstep, hfails]
      exact not_mem_endTask _ _ _
    · rw [hstep, hfails]
      rfl
    · rw [hstep, hfails]
      rfl

/-- Three providers are asked for lenses. The last one answers first, the second has no lens. -/
def batchRun : List (SessionAction Unit) :=
  [asks 1 Method.initializeRequest (Json.object []), tells Method.initialized .null,
    .openGate .registered .null,
    .register .codeLens ⟨[.any]⟩ () .nothing, .register .codeLens ⟨[.any]⟩ () .nothing,
    .register .codeLens ⟨[.any]⟩ () .nothing,
    tells Method.didOpen
      (lateParams [("languageId", .str "text"), ("version", .int 1), ("text", .str "")]),
    asks 2 Method.codeLens (lateParams []), nextJob,
    .answer 2 (some (.lenses [default, lateLens])), nextJob, .answer 1 (some (.lenses [])), nextJob,
    .answer 0 (some (.lenses [default]))]

/-- Two batches are stored, the one of the first provider before the one of the last. -/
theorem requests_bind_all_or_nothing_batchRun :
    let s := run {} batchRun
    let s' := run {} (batchRun ++ [nextJob])
    ∃ t heard, s.pursued? nextJob = some t ∧
      PutTo {} (batchRun ++ [nextJob]) t.number lateUrl .codeLens heard ∧
      s.Stores s' lateUrl .lens heard ∧
      heard.filterMap (ItemKind.lens.batch? ·.2) = [[default], [default, lateLens]] ∧
      s'.language.lenses.cache.entries = [(1, [default]), (2, [default, lateLens])] := by
  intro s s'
  have hbefore : s.language.lenses.cache.entries = [] := by decide +kernel
  have hafter : s'.language.lenses.cache.entries = [(1, [default]), (2, [default, lateLens])] := by
    decide +kernel
  have hchanged : s'.language ≠ s.language := fun heq => by
    rw [heq, hbefore] at hafter
    cases hafter
  have hempty : s'.tasks.map (·.number) = [] := by decide +kernel
  obtain ⟨t, hpursued, hquery⟩ : ∃ t, s.pursued? nextJob = some t ∧
      t.query? = some (.document lateUrl .codeLens) :=
    Option.map_eq_some_iff.mp
      (show (s.pursued? nextJob).map (·.query?) = some (some (.document lateUrl .codeLens)) by
        decide +kernel)
  rcases (requests_bind_all_or_nothing {} batchRun nextJob).2 t hpursued with
    ⟨⟨u, hu, -⟩, -⟩ | ⟨-, ⟨_, -, hsame⟩ | ⟨v, -, hstores⟩⟩
  · exact (List.not_mem_nil (hempty ▸ List.mem_map_of_mem hu)).elim
  · exact (hchanged hsame).elim
  · obtain ⟨heard, hput, hstored⟩ := hstores lateUrl .codeLens .lens hquery rfl
    have hbatches : s'.language.lenses.cache.entries.map Prod.snd =
        s.language.lenses.cache.entries.map Prod.snd ++
          (heard.filterMap (ItemKind.lens.batch? ·.2) : List (List CodeLens)) :=
      hstored.adds.map_snd
    rw [hbefore, hafter] at hbatches
    exact ⟨t, heard, hpursued, hput, hstored, hbatches.symm, hafter⟩

end Session

end ProviderHub
