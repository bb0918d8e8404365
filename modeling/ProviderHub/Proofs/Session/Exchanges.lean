import Mathlib.Tactic
import ProviderHub.Proofs.Session.Items

/-!
Runs of the language features.

Providers come and go, documents are opened and closed, and queries are put to providers, who answer
in any order while all the rest goes on.

* `LanguageAction`, `LanguageHistory.run`: what can happen, and what has been asked and answered;
* `Language.Follows`: whatever happens, no batch and no provider changes under its number;
* `LanguageHistory.Consistent`: the providers that are being asked had their numbers;
* `Exchange.Traced`: the items of a response lead to what its providers replied.
-/

namespace ProviderHub

/-- What can happen to the language features. -/
inductive LanguageAction (π : Type) where
  | openGate (gate : GateName) (value : Json)
  | setLimits (limits : CompletionLimits)
  | register (feature : Feature) (selector : Selector) (provider : π) (metadata : Metadata)
  | unregister (feature : Feature) (id : ProviderId)
  | registerCommand (id : String) (handler : π)
  | unregisterCommand (id : String)
  | openDocument (document : TextDocument)
  | changeDocument (uri : Url) (version : Int32) (text : String)
  | closeDocument (uri : Url)
  /-- A query arrives and is put to providers, some of whom may answer at once. -/
  | ask (query : Query) (atOnce : π → Question → Option (Option Reply))
  /-- A provider answers, or fails. -/
  | answer (call : CallId) (reply : Option Reply)
  /-- A query is answered, if all its providers have. -/
  | finish (number : Nat)
  /-- A query is given up. -/
  | abandon (number : Nat)
  | sweep (feature : Feature)
  | shutdown

/-- A query whose providers have been asked. -/
structure OpenQuery (π : Type) where
  number : Nat
  query : Query
  origin : Option Token
  inquiry : Inquiry π

/-- A query, what its providers replied, and the response. -/
structure Exchange (π : Type) where
  query : Query
  calls : List (Call π)
  response : Json

/-- The language features, the queries under way and those that have been answered. -/
structure LanguageHistory (π : Type) where
  language : Language π
  openQueries : List (OpenQuery π) := []
  nextQuery : Nat := 0
  nextCall : CallId := 0
  exchanges : List (Exchange π) := []

namespace LanguageHistory

variable {π : Type}

/-- Puts a query to providers. One that nobody has to be asked about is answered at once, and one
that has to wait for the gates must be asked again. -/
def ask (h : LanguageHistory π) (query : Query) (atOnce : π → Question → Option (Option Reply)) :
    LanguageHistory π :=
  match h.language.start query with
  | .waiting => h
  | .done (.error _) => h
  | .done (.ok response) => { h with exchanges := h.exchanges ++ [⟨query, [], response⟩] }
  | .ask question origin asked =>
    { h with
      openQueries := h.openQueries ++ [⟨h.nextQuery, query, origin,
        Inquiry.start atOnce h.nextCall question asked⟩]
      nextQuery := h.nextQuery + 1
      nextCall := h.nextCall + asked.length }

/-- Answers a query if all its providers have answered. -/
def finish (h : LanguageHistory π) (number : Nat) : LanguageHistory π :=
  match h.openQueries.find? (·.number == number) with
  | none => h
  | some q =>
    if q.inquiry.isDone then
      let (response, language) := h.language.finish q.query q.origin q.inquiry.results
      { h with
        language
        openQueries := h.openQueries.filter (·.number != number)
        exchanges := h.exchanges ++ [⟨q.query, q.inquiry.calls, response⟩] }
    else h

/-- Changes the language features. -/
def change (h : LanguageHistory π) (language : Language π) : LanguageHistory π :=
  { h with language }

/-- The history after one more action. -/
def step (h : LanguageHistory π) : LanguageAction π → LanguageHistory π
  | .openGate gate value =>
    h.change { h.language with startup := (h.language.startup.openGate gate value).2 }
  | .setLimits limits => h.change { h.language with limits }
  | .register feature selector provider metadata =>
    h.change { h.language with
      providers := (h.language.providers.register feature selector provider metadata).2 }
  | .unregister feature id =>
    h.change { h.language with providers := (h.language.providers.unregister feature id).2 }
  | .registerCommand id handler =>
    h.change { h.language with commands := h.language.commands.register id handler }
  | .unregisterCommand id =>
    h.change { h.language with commands := (h.language.commands.unregister id).2 }
  | .openDocument document =>
    h.change { h.language with documents := h.language.documents.openDocument document }
  | .changeDocument uri version text =>
    h.change { h.language with documents := (h.language.documents.change uri version text).2 }
  | .closeDocument uri => h.change (h.language.close uri).2
  | .ask query atOnce => h.ask query atOnce
  | .answer call reply =>
    { h with openQueries := h.openQueries.map fun q =>
        { q with inquiry := q.inquiry.answer call reply } }
  | .finish number => h.finish number
  | .abandon number => { h with openQueries := h.openQueries.filter (·.number != number) }
  | .sweep feature => h.change (h.language.sweep feature)
  | .shutdown => h.change h.language.shutdown

/-- The history of a run. -/
def run (settings : Settings) (actions : List (LanguageAction π)) : LanguageHistory π :=
  actions.foldl step { language := .ofSettings settings }

lemma run_append (settings : Settings) (actions : List (LanguageAction π))
    (action : LanguageAction π) :
    run settings (actions ++ [action]) = (run settings actions).step action := by
  rw [run, List.foldl_append]
  rfl

end LanguageHistory

/-! ### Batches and providers over time -/

/-- A registry that is in order stays so, and no provider changes under its number. -/
def Registry.Follows {π μ : Type} (r s : Registry π μ) : Prop :=
  r.Ordered → s.Ordered ∧ r.numbering.Later s.numbering

namespace Language

variable {π : Type} {l m n : Language π}

/-- The features have gone on: all binders and registries have. -/
structure Follows (l m : Language π) : Prop where
  binders : ∀ kind : ItemKind, (kind.binder l).Follows (kind.binder m)
  registries : ∀ feature, (l.providers.registry feature).Follows (m.providers.registry feature)

/-- The features are in order: each binder serves its own feature. -/
structure Sound (l : Language π) : Prop where
  ready : ∀ kind : ItemKind, (kind.binder l).Ready
  feature_eq : ∀ kind : ItemKind, (kind.binder l).feature = kind.feature
  ordered : ∀ feature, (l.providers.registry feature).Ordered

lemma sound_ofSettings (settings : Settings) : (ofSettings settings : Language π).Sound where
  ready kind := by cases kind <;> exact Binder.ready_empty _ _
  feature_eq kind := by cases kind <;> rfl
  ordered _ := Registry.ordered_empty

lemma Follows.sound (h : l.Follows m) (hl : l.Sound) : m.Sound where
  ready kind := (h.binders kind).ready (hl.ready kind)
  feature_eq kind := (h.binders kind).feature_eq.trans (hl.feature_eq kind)
  ordered feature := (h.registries feature (hl.ordered feature)).1

lemma Follows.trans (h : l.Follows m) (h' : m.Follows n) : l.Follows n where
  binders kind := (h.binders kind).trans (h'.binders kind)
  registries feature hl := by
    obtain ⟨hm, hlater⟩ := h.registries feature hl
    obtain ⟨hn, hlater'⟩ := h'.registries feature hm
    exact ⟨hn, hlater.trans hlater'⟩

/-- It suffices to look at the four binders when the providers stay. -/
lemma follows_of_binders (hproviders : m.providers = l.providers)
    (hcompletions : l.completions.Follows m.completions) (hactions : l.actions.Follows m.actions)
    (hlenses : l.lenses.Follows m.lenses) (hcallItems : l.callItems.Follows m.callItems) :
    l.Follows m where
  binders kind := by
    cases kind with
    | completion => exact hcompletions
    | action => exact hactions
    | lens => exact hlenses
    | callItem => exact hcallItems
  registries feature hl := by
    rw [hproviders]
    exact ⟨hl, .refl _⟩

@[refl] lemma Follows.refl (l : Language π) : l.Follows l :=
  follows_of_binders rfl (.refl _) (.refl _) (.refl _) (.refl _)

lemma set_follows (l : Language π) {feature : Feature} {r : Registry π Metadata}
    (hr : (l.providers.registry feature).Follows r) :
    l.Follows { l with providers := l.providers.set feature r } where
  binders kind := by cases kind <;> exact .refl _
  registries other := by
    rw [Providers.set]
    dsimp only
    split
    · rename_i heq
      exact heq ▸ hr
    · exact fun hl => ⟨hl, .refl _⟩

lemma close_follows (l : Language π) (uri : Url) : l.Follows (l.close uri).2 :=
  follows_of_binders rfl (Binder.release_follows _ uri) (Binder.release_follows _ uri)
    (Binder.release_follows _ uri) (Binder.release_follows _ uri)

lemma sweep_follows (l : Language π) (feature : Feature) : l.Follows (l.sweep feature) := by
  cases feature with
  | completion =>
      exact follows_of_binders rfl (Binder.sweep_follows _) (.refl _) (.refl _) (.refl _)
  | codeAction =>
      exact follows_of_binders rfl (.refl _) (Binder.sweep_follows _) (.refl _) (.refl _)
  | codeLens =>
      exact follows_of_binders rfl (.refl _) (.refl _) (Binder.sweep_follows _) (.refl _)
  | callHierarchy =>
      exact follows_of_binders rfl (.refl _) (.refl _) (.refl _) (Binder.sweep_follows _)
  | _ => rfl

lemma shutdown_follows (l : Language π) : l.Follows l.shutdown :=
  follows_of_binders rfl (Binder.shutdown_follows _) (Binder.shutdown_follows _)
    (Binder.shutdown_follows _) (Binder.shutdown_follows _)

lemma finishItem_follows {α : Type} [Wire α] [Bindable α] (b : Binder α) (origin : Option Token)
    (item : α) (reply : Option α) : b.Follows (finishItem b origin item reply).2 := by
  cases origin with
  | none => rfl
  | some token =>
      cases reply with
      | none => rfl
      | some out => exact b.rebind_follows token out

lemma finishCalls_follows {γ : Type} [Wire γ] (b : Binder CallHierarchyItem)
    (origin : Option Token) (calls : List γ) (item : γ → CallHierarchyItem)
    (withItem : γ → CallHierarchyItem → γ) :
    b.Follows (finishCalls b origin calls item withItem).2 := by
  cases origin with
  | none => rfl
  | some token => exact b.bindFor_follows _ _ (calls.map item)

lemma finishDocument_follows (l : Language π) (uri : Url) (results : List (ProviderId × Reply))
    (query : DocumentQuery) : l.Follows (l.finishDocument uri results query).2 := by
  cases query with
  | completion position context =>
      exact follows_of_binders rfl (Binder.bindAll_follows _ uri _) (.refl _) (.refl _) (.refl _)
  | codeAction range context =>
      exact follows_of_binders rfl (.refl _) (Binder.bindAll_follows _ uri _) (.refl _) (.refl _)
  | codeLens =>
      exact follows_of_binders rfl (.refl _) (.refl _) (Binder.bindAll_follows _ uri _) (.refl _)
  | prepareCalls position =>
      exact follows_of_binders rfl (.refl _) (.refl _) (.refl _) (Binder.bindAll_follows _ uri _)
  | _ => rfl

lemma finish_follows (l : Language π) (query : Query) (origin : Option Token)
    (results : List (ProviderId × Reply)) : l.Follows (l.finish query origin results).2 := by
  cases query with
  | document uri query => exact l.finishDocument_follows uri results query
  | resolveCompletion item =>
      exact follows_of_binders rfl (finishItem_follows _ origin item _) (.refl _) (.refl _)
        (.refl _)
  | resolveAction action =>
      exact follows_of_binders rfl (.refl _) (finishItem_follows _ origin action _) (.refl _)
        (.refl _)
  | resolveLens lens =>
      exact follows_of_binders rfl (.refl _) (.refl _) (finishItem_follows _ origin lens _)
        (.refl _)
  | incomingCalls item =>
      exact follows_of_binders rfl (.refl _) (.refl _) (.refl _)
        (finishCalls_follows _ origin ((first? Reply.incoming? results).getD [])
          IncomingCall.source fun c source => { c with source })
  | outgoingCalls item =>
      exact follows_of_binders rfl (.refl _) (.refl _) (.refl _)
        (finishCalls_follows _ origin ((first? Reply.outgoing? results).getD [])
          OutgoingCall.target fun c target => { c with target })
  | execute command => rfl

/-! ### Who is asked -/

/-- A provider is asked that has had its number in the registry of a feature. -/
def Knows (l : Language π) (feature : Feature) (asked : Asked π) (entry : Entry π Metadata) :
    Prop :=
  asked = ⟨entry.id, entry.provider⟩ ∧
    (l.providers.registry feature).numbering.Given entry.id entry

lemma Knows.follows {feature : Feature} {asked : Asked π} {entry : Entry π Metadata}
    (h : l.Knows feature asked entry) (hl : l.Sound) (hm : l.Follows m) :
    m.Knows feature asked entry :=
  ⟨h.1, h.2.later (hm.registries feature (hl.ordered feature)).2⟩

lemma feature_of_kind? {uri : Url} {query : DocumentQuery} {kind : ItemKind}
    (hkind : (Query.document uri query).kind? = some kind) : query.feature = kind.feature := by
  cases query <;> cases hkind <;> rfl

/-- A query about a document waits, fails, or is put to registered providers. -/
lemma startDocument_cases (l : Language π) (uri : Url) (query : DocumentQuery) :
    l.startDocument uri query = .waiting ∨
    (∃ error, l.startDocument uri query = .done (.error error)) ∨
    ∃ d entries, l.providers.route query d = .ok entries ∧ l.startDocument uri query =
      .ask (.document d query) none (entries.map fun e => ⟨e.id, e.provider⟩) := by
  rw [startDocument]
  split
  · exact .inl rfl
  · split
    · exact .inr (.inl ⟨_, rfl⟩)
    · rename_i d _
      split
      · exact .inr (.inl ⟨_, rfl⟩)
      · rename_i entries hroute
        exact .inr (.inr ⟨d, entries, hroute, rfl⟩)

/-- A query about an item is put to the provider behind the item's token, or has an answer. -/
lemma startItem_cases {α : Type} [Bindable α] (l : Language π) (b : Binder α) (item : α)
    (question : α → Question) (otherwise : Json) :
    l.startItem b item question otherwise = .done (.ok otherwise) ∨
    ∃ (entry : Entry π Metadata) (token : Token) (original : α),
      (l.providers.registry b.feature).get? token.providerId = some entry ∧
      l.startItem b item question otherwise =
        .ask (question original) (some token) [⟨entry.id, entry.provider⟩] := by
  rw [startItem]
  split
  · rename_i found hfound
    obtain ⟨token, -, hresolve⟩ := Option.bind_eq_some_iff.mp hfound
    obtain ⟨batch, -, hrest⟩ := Option.bind_eq_some_iff.mp hresolve
    obtain ⟨original, -, hrest⟩ := Option.bind_eq_some_iff.mp hrest
    obtain ⟨entry, hget, hsome⟩ := Option.bind_eq_some_iff.mp hrest
    cases hsome
    exact .inr ⟨entry, token, original, hget, rfl⟩
  · exact .inl rfl

lemma knows_of_startItem {α : Type} [Bindable α] (hl : l.Sound) {b : Binder α} {item : α}
    {question : α → Question} {otherwise : Json} {asking : Question} {origin : Option Token}
    {asked : List (Asked π)}
    (hstart : l.startItem b item question otherwise = .ask asking origin asked) {a : Asked π}
    (ha : a ∈ asked) :
    ∃ entry, l.Knows b.feature a entry ∧
      ∀ token, origin = some token → token.providerId = entry.id := by
  rcases l.startItem_cases b item question otherwise with heq | ⟨entry, token, _, hget, heq⟩
  · rw [heq] at hstart
    cases hstart
  · rw [heq] at hstart
    cases hstart
    obtain ⟨hmem, hid⟩ := Registry.mem_of_get? hget
    rw [List.mem_singleton.mp ha]
    refine ⟨entry, ⟨rfl, (hl.ordered b.feature).given hmem⟩, fun other hother => ?_⟩
    cases hother
    exact hid.symm

/-- Only providers that have had their numbers are asked, and about an item only its own. -/
lemma knows_of_start (hl : l.Sound) {query : Query} {kind : ItemKind}
    (hkind : query.kind? = some kind) {question : Question} {origin : Option Token}
    {asked : List (Asked π)} (hstart : l.start query = .ask question origin asked) {a : Asked π}
    (ha : a ∈ asked) :
    ∃ entry, l.Knows kind.feature a entry ∧
      ∀ token, origin = some token → token.providerId = entry.id := by
  cases query with
  | document uri query =>
      rw [start] at hstart
      rcases l.startDocument_cases uri query with heq | ⟨_, heq⟩ | ⟨d, entries, hroute, heq⟩
      · rw [heq] at hstart
        cases hstart
      · rw [heq] at hstart
        cases hstart
      · rw [heq] at hstart
        cases hstart
        obtain ⟨entry, hentry, rfl⟩ := List.mem_map.mp ha
        have hmem := Providers.mem_of_route hroute hentry
        rw [feature_of_kind? hkind] at hmem
        exact ⟨entry, ⟨rfl, (hl.ordered kind.feature).given hmem⟩, nofun⟩
  | incomingCalls item =>
      cases hkind
      exact hl.feature_eq .callItem ▸ knows_of_startItem hl hstart ha
  | outgoingCalls item =>
      cases hkind
      exact hl.feature_eq .callItem ▸ knows_of_startItem hl hstart ha
  | _ => cases hkind

/-- A query that is answered without asking has no items in its response. -/
lemma itemsIn_of_start {query : Query} {kind : ItemKind} (hkind : query.kind? = some kind)
    {response : Json} (hstart : l.start query = .done (.ok response)) :
    query.itemsIn response = [] := by
  cases query with
  | document uri query =>
      rw [start] at hstart
      rcases l.startDocument_cases uri query with heq | ⟨_, heq⟩ | ⟨_, _, -, heq⟩ <;>
        rw [heq] at hstart <;> cases hstart
  | incomingCalls item =>
      rw [start] at hstart
      rcases l.startItem_cases l.callItems item .incomingCalls (.arr []) with
        heq | ⟨_, _, _, -, heq⟩ <;> rw [heq] at hstart <;> cases hstart
      rfl
  | outgoingCalls item =>
      rw [start] at hstart
      rcases l.startItem_cases l.callItems item .outgoingCalls (.arr []) with
        heq | ⟨_, _, _, -, heq⟩ <;> rw [heq] at hstart <;> cases hstart
      rfl
  | _ => cases hkind

end Language

/-! ### Calls -/

namespace Inquiry

variable {π : Type}

lemma asked_of_mem_start {atOnce : π → Question → Option (Option Reply)} {first : CallId}
    {question : Question} {asked : List (Asked π)} {call : Call π}
    (hcall : call ∈ (start atOnce first question asked).calls) : call.asked ∈ asked := by
  obtain ⟨⟨a, i⟩, hmem, rfl⟩ := List.mem_map.mp hcall
  exact (List.mem_zipIdx hmem).2.2 ▸ List.getElem_mem _

lemma asked_of_mem_answer {i : Inquiry π} {id : CallId} {reply : Option Reply} {call : Call π}
    (hcall : call ∈ (i.answer id reply).calls) : ∃ c ∈ i.calls, call.asked = c.asked := by
  obtain ⟨c, hc, rfl⟩ := List.mem_map.mp hcall
  refine ⟨c, hc, ?_⟩
  split <;> rfl

lemma call_of_mem_results {i : Inquiry π} {result : ProviderId × Reply}
    (hresult : result ∈ i.results) :
    ∃ call ∈ i.calls, call.asked.provider = result.1 ∧ call.answer = some (some result.2) := by
  obtain ⟨call, hcall, hsome⟩ := List.mem_filterMap.mp hresult
  obtain ⟨reply, hreply, rfl⟩ := Option.map_eq_some_iff.mp hsome
  exact ⟨call, hcall, rfl, Option.join_eq_some_iff.mp hreply⟩

end Inquiry

/-- The calls of a query go to providers that have had their numbers, and to the one behind the
query's token. -/
def OpenQuery.Faithful {π : Type} (l : Language π) (q : OpenQuery π) : Prop :=
  ∀ kind, q.query.kind? = some kind → ∀ call ∈ q.inquiry.calls,
    ∃ entry, l.Knows kind.feature call.asked entry ∧
      ∀ token, q.origin = some token → token.providerId = entry.id

/-- The items of the response, as they stand on the wire. -/
def Exchange.items {π : Type} (e : Exchange π) : List Json := e.query.itemsIn e.response

/-- Each item of the response is a copy of one that a provider replied, and leads to it. -/
def Exchange.Traced {π : Type} (l : Language π) (e : Exchange π) : Prop :=
  ∀ kind, e.query.kind? = some kind → ∀ v ∈ e.items, ∃ call ∈ e.calls,
    ∃ reply entry, ∃ copy : kind.Item, call.answer = some (some reply) ∧
      l.Knows kind.feature call.asked entry ∧ v = encode copy ∧
      (kind.binder l).Leads entry.id (kind.offered reply) copy

namespace OpenQuery

variable {π : Type} {l m : Language π} {q : OpenQuery π}

lemma Faithful.follows (hq : q.Faithful l) (hl : l.Sound) (hm : l.Follows m) : q.Faithful m := by
  intro kind hkind call hcall
  obtain ⟨entry, hknows, horigin⟩ := hq kind hkind call hcall
  exact ⟨entry, hknows.follows hl hm, horigin⟩

lemma Faithful.answer (hq : q.Faithful l) (call : CallId) (reply : Option Reply) :
    Faithful l { q with inquiry := q.inquiry.answer call reply } := by
  intro kind hkind c hc
  obtain ⟨old, hold, hasked⟩ := Inquiry.asked_of_mem_answer hc
  rw [hasked]
  exact hq kind hkind old hold

/-- When the providers of a query have answered, its response leads to what they replied. -/
lemma Faithful.traced (hq : q.Faithful l) (hl : l.Sound) :
    Exchange.Traced (l.finish q.query q.origin q.inquiry.results).2
      ⟨q.query, q.inquiry.calls, (l.finish q.query q.origin q.inquiry.results).1⟩ := by
  intro kind hkind v hv
  have horigin : ∀ token, q.origin = some token → ∀ result ∈ q.inquiry.results,
      result.1 = token.providerId := by
    intro token htoken result hresult
    obtain ⟨call, hcall, hprovider, -⟩ := Inquiry.call_of_mem_results hresult
    obtain ⟨entry, ⟨hasked, -⟩, hid⟩ := hq kind hkind call hcall
    rw [← hprovider, hasked, hid token htoken]
  obtain ⟨result, hresult, copy, rfl, hleads⟩ :=
    Language.leads_of_mem_itemsIn hl.ready horigin hkind hv
  obtain ⟨call, hcall, hprovider, hanswer⟩ := Inquiry.call_of_mem_results hresult
  obtain ⟨entry, hknows, -⟩ := hq kind hkind call hcall
  refine ⟨call, hcall, result.2, entry, copy, hanswer, ?_, rfl, ?_⟩
  · exact hknows.follows hl (l.finish_follows q.query q.origin q.inquiry.results)
  · rw [← hprovider, hknows.1] at hleads
    exact hleads

end OpenQuery

/-! ### Runs -/

namespace LanguageHistory

variable {π : Type} {h : LanguageHistory π}

/-- **What holds in every history**: the features are in order, and the queries under way are put to
providers that have had their numbers. -/
structure Consistent (h : LanguageHistory π) : Prop where
  sound : h.language.Sound
  faithful : ∀ q ∈ h.openQueries, q.Faithful h.language

/-- An open query is answered, or nothing happens. -/
lemma finish_cases (h : LanguageHistory π) (number : Nat) :
    h.finish number = h ∨ ∃ q ∈ h.openQueries, h.finish number =
      { h with
        language := (h.language.finish q.query q.origin q.inquiry.results).2
        openQueries := h.openQueries.filter (·.number != number)
        exchanges := h.exchanges ++ [⟨q.query, q.inquiry.calls,
          (h.language.finish q.query q.origin q.inquiry.results).1⟩] } := by
  rw [finish]
  split
  · exact .inl rfl
  · rename_i q hfind
    split
    · exact .inr ⟨q, List.mem_of_find?_eq_some hfind, rfl⟩
    · exact .inl rfl

lemma ask_language (h : LanguageHistory π) (query : Query)
    (atOnce : π → Question → Option (Option Reply)) :
    (h.ask query atOnce).language = h.language := by
  rw [ask]
  split <;> rfl

/-- Whatever happens, no batch and no provider changes under its number. -/
lemma step_follows (h : LanguageHistory π) (action : LanguageAction π) :
    h.language.Follows (h.step action).language := by
  cases action with
  | register feature selector provider metadata =>
      refine h.language.set_follows fun hordered => ?_
      exact ⟨hordered.register selector provider metadata,
        hordered.later_register selector provider metadata⟩
  | unregister feature id =>
      exact h.language.set_follows fun hordered =>
        ⟨hordered.unregister id, hordered.later_unregister id⟩
  | closeDocument uri => exact h.language.close_follows uri
  | ask query atOnce => rw [step, ask_language]
  | finish number =>
      rw [step]
      rcases h.finish_cases number with heq | ⟨q, -, heq⟩
      · rw [heq]
      · rw [heq]
        exact h.language.finish_follows q.query q.origin q.inquiry.results
  | sweep feature => exact h.language.sweep_follows feature
  | shutdown => exact h.language.shutdown_follows
  | _ => exact Language.follows_of_binders rfl (.refl _) (.refl _) (.refl _) (.refl _)

lemma Consistent.ask (hc : h.Consistent) (query : Query)
    (atOnce : π → Question → Option (Option Reply)) :
    ∀ q ∈ (h.ask query atOnce).openQueries, q.Faithful h.language := by
  rw [LanguageHistory.ask]
  split
  · exact hc.faithful
  · exact hc.faithful
  · exact hc.faithful
  · rename_i hstart
    intro q hq
    rcases List.mem_append.mp hq with hold | hnew
    · exact hc.faithful q hold
    · rw [List.mem_singleton.mp hnew]
      intro kind hkind call hcall
      exact Language.knows_of_start hc.sound hkind hstart (Inquiry.asked_of_mem_start hcall)

lemma consistent_step (hc : h.Consistent) (action : LanguageAction π) :
    (h.step action).Consistent := by
  have hfollows := h.step_follows action
  refine ⟨hfollows.sound hc.sound, ?_⟩
  have hold : ∀ q ∈ h.openQueries, q.Faithful (h.step action).language := fun q hq =>
    (hc.faithful q hq).follows hc.sound hfollows
  cases action with
  | ask query atOnce =>
      intro q hq
      exact (hc.ask query atOnce q hq).follows hc.sound hfollows
  | answer call reply =>
      intro q hq
      obtain ⟨old, hmem, rfl⟩ := List.mem_map.mp hq
      exact (hold old hmem).answer call reply
  | finish number =>
      intro q hq
      refine hold q ?_
      rw [step] at hq
      rcases h.finish_cases number with heq | ⟨_, -, heq⟩
      · exact heq ▸ hq
      · rw [heq] at hq
        exact List.mem_of_mem_filter hq
  | abandon number => exact fun q hq => hold q (List.mem_of_mem_filter hq)
  | _ => exact hold

lemma consistent_run (settings : Settings) (actions : List (LanguageAction π)) :
    (run settings actions).Consistent := by
  induction actions using List.reverseRecOn with
  | nil => exact ⟨Language.sound_ofSettings settings, fun _ hq => (List.not_mem_nil hq).elim⟩
  | append_singleton actions action ih =>
      rw [run_append]
      exact consistent_step ih action

lemma run_follows (settings : Settings) (actions later : List (LanguageAction π)) :
    (run settings actions).language.Follows (run settings (actions ++ later)).language := by
  induction later using List.reverseRecOn with
  | nil => rw [List.append_nil]
  | append_singleton later action ih =>
      rw [← List.append_assoc, run_append]
      exact ih.trans (step_follows _ action)

/-- A response that is new leads to what its providers replied. -/
lemma Consistent.traced (hc : h.Consistent) {action : LanguageAction π} {e : Exchange π}
    (he : e ∈ (h.step action).exchanges) :
    e ∈ h.exchanges ∨ e.Traced (h.step action).language := by
  cases action with
  | ask query atOnce =>
      rw [step, LanguageHistory.ask] at he
      split at he
      · exact .inl he
      · exact .inl he
      · rename_i hstart
        refine (List.mem_append.mp he).imp_right fun hnew => ?_
        rw [List.mem_singleton.mp hnew]
        intro kind hkind v hv
        rw [Exchange.items, Language.itemsIn_of_start hkind hstart] at hv
        cases hv
      · exact .inl he
  | finish number =>
      rw [step] at he ⊢
      rcases h.finish_cases number with heq | ⟨q, hq, heq⟩
      · rw [heq] at he
        exact .inl he
      · rw [heq] at he ⊢
        refine (List.mem_append.mp he).imp_right fun hnew => ?_
        rw [List.mem_singleton.mp hnew]
        exact (hc.faithful q hq).traced hc.sound
  | _ => exact .inl he

end LanguageHistory

end ProviderHub
