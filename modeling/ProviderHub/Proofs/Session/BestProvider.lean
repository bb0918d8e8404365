import Mathlib.Tactic
import ProviderHub.Proofs.Session.Documents
import ProviderHub.Proofs.Session.Inquiries

/-!
Questions that go to the best provider.

* `Registry.routeSingle`: how a request about a document is routed to one provider;
* `Session.PutToBest`: a request has been put to the provider that was the best one then;
* `Session.best_provider_asked`: what a request comes to that only one provider is to answer.
-/

namespace ProviderHub

/-! ### One provider for a document -/

namespace Registry

variable {π μ : Type} {r : Registry π μ} {documents : Documents} {uri : Url} {feature : Feature}
  {accept : μ → Bool} {d : TextDocument} {e : Entry π μ}

/-- **How a request about a document is routed to one provider** when the gates are open: to the one
that matches the document best, if it is open. -/
def routeSingle (r : Registry π μ) (feature : Feature) (documents : Documents) (uri : Url)
    (accept : μ → Bool) : Except RouteError (TextDocument × Entry π μ) :=
  match documents.get? uri with
  | none => .error (.documentNotOpen uri)
  | some d =>
    match best? (r.matching d accept) with
    | none => .error (.noProvider feature uri)
    | some m => .ok (d, m.entry)

lemma routeSingle_eq_documentNotOpen :
    r.routeSingle feature documents uri accept = .error (.documentNotOpen uri) ↔
      documents.get? uri = none := by
  rw [routeSingle]
  cases documents.get? uri with
  | none => exact iff_of_true rfl rfl
  | some d =>
      dsimp only
      cases best? (r.matching d accept) <;> exact iff_of_false nofun nofun

lemma routeSingle_eq_noProvider :
    r.routeSingle feature documents uri accept = .error (.noProvider feature uri) ↔
      ∃ d, documents.get? uri = some d ∧ ∀ e, ¬ r.Serves d accept e := by
  rw [routeSingle]
  cases documents.get? uri with
  | none => exact iff_of_false nofun nofun
  | some d =>
      dsimp only
      cases hbest : best? (r.matching d accept) with
      | none => exact iff_of_true rfl ⟨d, rfl, best?_matching_eq_none_iff.mp hbest⟩
      | some m =>
          refine iff_of_false nofun fun ⟨d', hd', hnone⟩ => ?_
          cases hd'
          exact hnone m.entry (isBestFor_of_best? hbest).serves

lemma routeSingle_eq_ok (hr : r.Ordered) :
    r.routeSingle feature documents uri accept = .ok (d, e) ↔
      documents.get? uri = some d ∧ r.IsBestFor d accept e := by
  rw [← best?_matching_eq_some_iff hr, routeSingle]
  cases documents.get? uri with
  | none => exact iff_of_false nofun fun h => nomatch h.1
  | some d' =>
      dsimp only
      constructor
      · intro h
        split at h
        · cases h
        · rename_i m hbest
          cases h
          exact ⟨rfl, congrArg (Option.map _) hbest⟩
      · rintro ⟨hd, h⟩
        cases hd
        obtain ⟨m, hbest, rfl⟩ := Option.map_eq_some_iff.mp h
        rw [hbest]

end Registry

/-! ### Requests for one provider -/

namespace Session

variable {π : Type} {s : Session π} {host : Host π} {t : RequestTask π} {uri : Url}
  {query : DocumentQuery} {origin : Option Token} {inquiry : Inquiry π} {settings : Settings}
  {actions : List (SessionAction π)} {number : TaskId} {index : Nat} {d : TextDocument}
  {e : Entry π Metadata}

/-- A question for one provider is put to the one that `Registry.routeSingle` gives. -/
lemma startDocument_single {l : Language π} (uri : Url) (hready : l.startup.isReady = true)
    (hsingle : query.feature.isMultiResult = false) :
    l.startDocument uri query =
      match (l.providers.registry query.feature).routeSingle query.feature l.documents uri
        query.reaches with
      | .error e => .done (.error e)
      | .ok (d, e) => .ask (.document d query) none [⟨e.id, e.provider⟩] := by
  rw [Language.startDocument, hready, Registry.routeSingle]
  cases hd : l.documents.get? uri with
  | none => rfl
  | some d =>
      dsimp only
      rw [Providers.route, Providers.matching, hsingle, Documents.uri_of_get? hd]
      cases Registry.best? _ <;> rfl

lemma route_single {p : Providers π} (hsingle : query.feature.isMultiResult = false)
    {entries : List (Entry π Metadata)} (hroute : p.route query d = .ok entries) :
    ∃ e, (p.registry query.feature).IsBestFor d query.reaches e ∧ entries = [e] := by
  rw [Providers.route, Providers.matching, hsingle] at hroute
  cases hbest : Registry.best? ((p.registry query.feature).matching d query.reaches) with
  | none =>
      rw [hbest] at hroute
      cases hroute
  | some m =>
      rw [hbest] at hroute
      cases hroute
      exact ⟨m.entry, Registry.isBestFor_of_best? hbest, rfl⟩

/-! ### The best provider -/

/-- **A request has been put to the best provider** by a job of its own, when the gates and the
document were open, and this is what the provider has answered since. -/
def PutToBest (settings : Settings) (actions : List (SessionAction π)) (number : TaskId)
    (uri : Url) (query : DocumentQuery) (e : Entry π Metadata) (answer : Option (Option Reply)) :
    Prop :=
  ∃ earlier host index later d,
    actions = earlier ++ .work host index :: later ∧
    let s := run settings earlier
    (s.pursued? (.work host index)).map (·.number) = some number ∧
    s.language.startup.isReady = true ∧ s.language.documents.get? uri = some d ∧
    (s.language.providers.registry query.feature).IsBestFor d query.reaches e ∧
    (s.work host index).asked = s.asked ++ [(e.provider, .document d query)] ∧
    answer = answerOf host s.nextCall (.document d query) later e.provider 0

/-- An inquiry about a document for one provider is what the best one has answered. -/
lemma Underway.putToBest (hsingle : query.feature.isMultiResult = false)
    (h : Underway settings actions number (.document uri query) origin inquiry) :
    ∃ e answer, PutToBest settings actions number uri query e answer ∧
      inquiry.isDone = answer.isSome ∧
      inquiry.results = (answer.join.map (e.id, ·)).toList := by
  obtain ⟨earlier, host, index, later, t, d, entries, hactions, hpursued, hnumber, hunasked, hready,
    hd, hroute, hdone, hresults⟩ := h.document
  obtain ⟨e, hbest, rfl⟩ := route_single hsingle hroute
  refine ⟨e, _, ⟨earlier, host, index, later, d, hactions,
    Option.map_eq_some_iff.mpr ⟨t, hpursued, hnumber⟩, hready, hd, hbest, ?_, rfl⟩, ?_, ?_⟩
  · have hstart := startDocument_single uri hready hsingle
    have hordered := (run_sound settings earlier).ordered query.feature
    rw [(Registry.routeSingle_eq_ok hordered).mpr ⟨hd, hbest⟩] at hstart
    exact (work_asks hpursued hunasked hstart).1
  · rw [Bool.eq_iff_iff, hdone]
    simp
  · rw [hresults, List.zipIdx_singleton, List.filterMap_cons, List.filterMap_nil]
    dsimp only
    split
    · rename_i hnone
      rw [hnone]
      rfl
    · rename_i hsome
      rw [hsome]
      rfl

/-- What a request comes to by a job of its own that has been put to the best provider: it succeeds
with what this one has answered, be it nothing, and otherwise it waits for it. -/
def HearsBest (settings : Settings) (actions : List (SessionAction π)) (host : Host π) (index : Nat)
    (t : RequestTask π) (uri : Url) (query : DocumentQuery) : Prop :=
  let s := run settings actions
  let s' := run settings (actions ++ [.work host index])
  ∃ e answer,
    PutToBest settings (actions ++ [.work host index]) t.number uri query e answer ∧
    (answer = none → t.cancelled = false → t.expired = false → Waits s s' t) ∧
    ∀ reply, answer = some reply →
      Succeeds s s' t
        (s.language.finishDocument uri (reply.map (e.id, ·)).toList query).1

lemma Consults.hearsBest {jobs : List Job} {s'' : Session π}
    (h : Consults host { run settings actions with jobs } t (.document uri query) origin inquiry
      s'')
    (hpursued : (run settings actions).pursued? (.work host index) = some t)
    (hwork : (run settings actions).work host index =
      s''.await t (.document uri query) origin inquiry)
    (hsingle : query.feature.isMultiResult = false) :
    HearsBest settings actions host index t uri query := by
  obtain ⟨hunderway, hwaits, hsucceeds⟩ := h.result hpursued hwork
  obtain ⟨e, answer, hput, hdone, hresults⟩ := hunderway.putToBest hsingle
  refine ⟨e, answer, hput, fun hanswer => hwaits ?_, fun reply hanswer => ?_⟩
  · rw [hdone, hanswer]
    rfl
  · rw [hanswer] at hdone hresults
    have hends := hsucceeds hdone
    rw [hresults] at hends
    exact hends

/-- **One provider for a question**: a selector scores as its best filter does, in whatever order
and however often its filters are listed. After any history of providers that come and go, a request
for one provider is routed to the best one that is registered and that it reaches, and there is none
exactly if the document is not open, or else if none matches it.

In a session, a request for one provider waits as long as the gates are closed. When they are open
it fails for one of these causes, or it is put to the best provider then and to nobody else. It
succeeds with what this one answers, and without any result if this one fails. -/
theorem best_provider_asked :
    (∀ (selector : Selector) (d : TextDocument),
      IsGreatest
        (insert 0 {n | ∃ f ∈ selector.filters, (f.score d.uri.scheme d.languageId).number = n})
        (selector.score d).number ∧
      ∀ other : Selector, (∀ f, f ∈ selector.filters ↔ f ∈ other.filters) →
        selector.score d = other.score d) ∧
    (∀ (π μ : Type) (history : List (Enrollment π μ)) (documents : Documents) (uri : Url)
      (feature : Feature) (accept : μ → Bool),
      let r := Registry.ofHistory history
      let routed := r.routeSingle feature documents uri accept
      (∀ e, e ∈ r.entries ↔ Registry.Registers history e) ∧
      (routed = .error (.documentNotOpen uri) ↔ documents.get? uri = none) ∧
      (routed = .error (.noProvider feature uri) ↔
        ∃ d, documents.get? uri = some d ∧ ∀ e, ¬ r.Serves d accept e) ∧
      ∀ d e, routed = .ok (d, e) ↔ documents.get? uri = some d ∧ r.IsBestFor d accept e) ∧
    ∀ (settings : Settings) (actions : List (SessionAction π)) (host : Host π) (index : Nat)
      (t : RequestTask π) (uri : Url) (query : DocumentQuery),
      let s := run settings actions
      let s' := run settings (actions ++ [.work host index])
      let r := Registry.ofHistory (actions.filterMap (·.enrollment? query.feature))
      let routed := r.routeSingle query.feature s.language.documents uri query.reaches
      s.pursued? (.work host index) = some t → query.feature.isMultiResult = false →
      (s.unasked? t = some (.document uri query) →
        (s.language.startup.isReady = false → s'.asked = s.asked ∧
          (t.cancelled = false → t.expired = false → Waits s s' t)) ∧
        (s.language.startup.isReady = true →
          (∀ e, routed = .error e → s'.asked = s.asked ∧ Fails s s' t e.toRpc) ∧
          ∀ d e, routed = .ok (d, e) →
            s'.asked = s.asked ++ [(e.provider, .document d query)] ∧
            HearsBest settings actions host index t uri query)) ∧
      ∀ origin inquiry, t.stage = .asking (.document uri query) origin inquiry →
        s'.asked = s.asked ∧ HearsBest settings actions host index t uri query := by
  refine ⟨fun selector d => ⟨selector.isGreatest_score d, fun other h => Selector.score_congr h d⟩,
    fun π μ history documents uri feature accept => ?_,
    fun settings actions host index t uri query => ?_⟩
  · exact ⟨fun e => Registry.mem_entries_ofHistory, Registry.routeSingle_eq_documentNotOpen,
      Registry.routeSingle_eq_noProvider,
      fun d e => Registry.routeSingle_eq_ok (Registry.ordered_ofHistory history)⟩
  · intro s s' r routed hpursued hsingle
    have hstep : s' = s.work host index := run_append settings actions _
    have hroute : (s.language.providers.registry query.feature).routeSingle query.feature
        s.language.documents uri query.reaches = routed := by
      rw [show s.language.providers.registry query.feature = r from registry_run _ _ _]
    rw [hstep]
    constructor
    · intro hunasked
      refine ⟨fun hready => work_gated hpursued hunasked (startDocument_gated hready),
        fun hready => ?_⟩
      have hstart := startDocument_single uri hready hsingle
      rw [hroute] at hstart
      refine ⟨fun cause hrouted => work_fails hpursued hunasked ?_, fun d e hrouted => ?_⟩
      · rwa [hrouted] at hstart
      · rw [hrouted] at hstart
        obtain ⟨hasked, inquiry, s'', hawait, hconsults⟩ := work_asks hpursued hunasked hstart
        exact ⟨hasked, hconsults.hearsBest hpursued hawait hsingle⟩
    · intro origin inquiry hstage
      have hwork := work_of_asking hpursued hstage
      refine ⟨?_, Consults.hearsBest (.before hstage) hpursued hwork hsingle⟩
      rw [hwork, await_asked]

/-- Three providers match a document, two of them by its language. The client asks what there is to
say about a place in it. -/
def soleRun : List (SessionAction Unit) :=
  [asks 1 Method.initializeRequest (Json.object []), tells Method.initialized .null,
    .openGate .registered .null,
    .register .hover ⟨[.any]⟩ () .nothing,
    .register .hover ⟨[.any, .language "text"]⟩ () .nothing,
    .register .hover ⟨[.language "text"]⟩ () .nothing,
    tells Method.didOpen
      (lateParams [("languageId", .str "text"), ("version", .int 1), ("text", .str "")]),
    asks 2 Method.hover (Json.object
      [("textDocument", Json.object [("uri", .str "mem:/a")]),
        ("position", encode (default : Position))])]

/-- The second one is asked. It fails, and the result of the request is `null`. -/
theorem best_provider_asked_soleRun :
    let s := run {} soleRun
    let later := soleRun ++ [nextJob, .answer 0 none]
    (∃ d, ∃ e : Entry Unit Metadata, e.id = 2 ∧
      (run {} (soleRun ++ [nextJob])).asked =
        s.asked ++ [(e.provider, .document d (.hover default))]) ∧
    ∃ t v, (run {} later).pursued? nextJob = some t ∧
      Succeeds (run {} later) (run {} (later ++ [nextJob])) t v ∧
      (run {} (later ++ [nextJob])).client.queue.getLast?.bind (·.get? "result") = some .null := by
  intro s later
  obtain ⟨-, -, hsession⟩ := best_provider_asked (π := Unit)
  constructor
  · obtain ⟨t, hpursued, hunasked⟩ : ∃ t, s.pursued? nextJob = some t ∧
        s.unasked? t = some (.document lateUrl (.hover default)) := by
      have hsome : (s.pursued? nextJob).bind s.unasked? =
          some (.document lateUrl (.hover default)) := by
        decide +kernel
      exact Option.bind_eq_some_iff.mp hsome
    obtain ⟨hopen, -⟩ := hsession {} soleRun ⟨fun _ _ => none, fun _ => false⟩ 0 t lateUrl
      (.hover default) hpursued rfl
    obtain ⟨-, hasks⟩ := (hopen hunasked).2 (by decide +kernel)
    let routed := (Registry.ofHistory (soleRun.filterMap (·.enrollment? .hover))).routeSingle .hover
      s.language.documents lateUrl (DocumentQuery.hover default).reaches
    have hid : routed.toOption.map (·.2.id) = some 2 := by decide +kernel
    cases hrouted : routed with
    | error cause =>
        rw [hrouted] at hid
        cases hid
    | ok found =>
        rw [hrouted] at hid
        exact ⟨found.1, found.2, Option.some_inj.mp hid, (hasks found.1 found.2 hrouted).1⟩
  · obtain ⟨t, hpursued, htask⟩ : ∃ t, (run {} later).pursued? nextJob = some t ∧
        (t.query?, (run {} later).unasked? t, t.cancelled, t.expired) =
          (some (.document lateUrl (.hover default)), none, false, false) :=
      Option.map_eq_some_iff.mp (by decide +kernel)
    simp only [Prod.mk.injEq] at htask
    obtain ⟨hquery, hunasked, hcancelled, hexpired⟩ := htask
    obtain ⟨origin, inquiry, hstage⟩ := exists_asking hquery hunasked (by decide +kernel)
    obtain ⟨-, hasked⟩ := hsession {} later ⟨fun _ _ => none, fun _ => false⟩ 0 t lateUrl
      (.hover default) hpursued rfl
    obtain ⟨-, e, answer, -, hwaits, hsucceeds⟩ := hasked origin inquiry hstage
    cases answer with
    | none =>
        have hnone : (run {} (later ++ [nextJob])).tasks.map (·.number) = [] := by decide +kernel
        obtain ⟨u, hu, -⟩ := (hwaits rfl hcancelled hexpired).1
        exact (List.not_mem_nil (hnone ▸ List.mem_map_of_mem hu)).elim
    | some reply => exact ⟨t, _, hpursued, hsucceeds reply rfl, by decide +kernel⟩

end Session

end ProviderHub
