import Mathlib.Tactic
import ProviderHub.Proofs.Session.ClosedDocuments
import ProviderHub.Proofs.Session.Inquiries

/-!
Questions that go to all providers.

* `Errand.mem_results_run`, `Errand.results_fails`: whose replies are among the results of a
  question, and what is different when some fail;
* `Session.PutToAll`: a request has been put to all providers that matched then;
* `Session.fan_out_results`: what a request comes to whose feature merges the results of all.
-/

namespace ProviderHub

/-! ### Results of an errand -/

/-- Replies are in the order of those who gave them. -/
lemma sorted_replies {β : Type} {asked : List β} {id : β → ProviderId}
    (h : asked.Pairwise (id · < id ·)) (reply : β → Option Reply) :
    (asked.filterMap fun b => (reply b).map (id b, ·)).Pairwise (·.1 < ·.1) := by
  rw [List.pairwise_filterMap]
  refine h.imp fun hlt p hp q hq => ?_
  obtain ⟨-, -, rfl⟩ := Option.map_eq_some_iff.mp hp
  obtain ⟨-, -, rfl⟩ := Option.map_eq_some_iff.mp hq
  exact hlt

namespace Errand

variable {π μ : Type} {r : Registry π μ} {d : TextDocument} {accept : μ → Bool} {first : CallId}
  {question : Question} {reply : ProviderId → Option Reply} {events : List (ErrandEvent π μ)}

lemma sorted_results_run (hr : r.Ordered)
    (hdone : (run reply (start r d accept first question) events).inquiry.isDone = true) :
    (run reply (start r d accept first question) events).inquiry.results.Pairwise
      (·.1 < ·.1) := by
  rw [results_run hr hdone]
  exact sorted_replies (hr.matching_sorted d accept) _

/-- The results are the replies of those who matched, and had something to say. -/
lemma mem_results_run (hr : r.Ordered)
    (hdone : (run reply (start r d accept first question) events).inquiry.isDone = true)
    {id : ProviderId} {v : Reply} :
    (id, v) ∈ (run reply (start r d accept first question) events).inquiry.results ↔
      (∃ e, r.Serves d accept e ∧ e.id = id) ∧ reply id = some v := by
  rw [results_run hr hdone, List.mem_filterMap]
  constructor
  · rintro ⟨m, hm, hreply⟩
    obtain ⟨w, hw, hpair⟩ := Option.map_eq_some_iff.mp hreply
    cases hpair
    exact ⟨⟨m.entry, (Registry.mem_matching_iff.mp hm).1, rfl⟩, hw⟩
  · rintro ⟨⟨e, he, rfl⟩, hreply⟩
    refine ⟨Registry.scored d e, Registry.mem_matching_iff.mpr ⟨he, rfl⟩, ?_⟩
    rw [Option.map_eq_some_iff]
    exact ⟨v, hreply, rfl⟩

/-- If some fail, their replies are missing and all others are there, whatever the order of
events. -/
lemma results_fails (hr : r.Ordered) (fails : ProviderId → Bool)
    {events' : List (ErrandEvent π μ)}
    (hdone : (run reply (start r d accept first question) events).inquiry.isDone = true)
    (hdone' : (run (fun id => if fails id then none else reply id)
      (start r d accept first question) events').inquiry.isDone = true) :
    (run (fun id => if fails id then none else reply id)
        (start r d accept first question) events').inquiry.results =
      (run reply (start r d accept first question) events).inquiry.results.filter
        (!fails ·.1) := by
  rw [results_run hr hdone, results_run hr hdone', List.filter_filterMap]
  refine List.filterMap_congr fun m _ => ?_
  cases reply m.entry.id with
  | none =>
      rw [ite_self]
      rfl
  | some v =>
      rw [Option.map_some, Option.filter_some]
      cases hfails : fails m.entry.id <;> rfl

end Errand

/-! ### Requests whose results are merged -/

namespace Session

variable {π : Type} {s : Session π} {host : Host π} {t : RequestTask π} {uri : Url}
  {query : DocumentQuery} {origin : Option Token} {inquiry : Inquiry π} {settings : Settings}
  {actions : List (SessionAction π)} {number : TaskId} {index : Nat} {d : TextDocument}

/-- All that match are asked when the results of a feature are merged. -/
lemma route_multi {p : Providers π} (hmulti : query.feature.isMultiResult = true)
    (d : TextDocument) :
    p.route query d =
      .ok (((p.registry query.feature).matching d query.reaches).map (·.entry)) := by
  rw [Providers.route, hmulti]
  rfl

/-- A question for all providers is put to those that match. -/
lemma startDocument_multi {l : Language π} (uri : Url) (hready : l.startup.isReady = true)
    (hmulti : query.feature.isMultiResult = true) :
    l.startDocument uri query =
      match l.documents.get? uri with
      | none => .done (.error (.documentNotOpen uri))
      | some d =>
        .ask (.document d query) none
          (((l.providers.registry query.feature).matching d query.reaches).map fun m =>
            ⟨m.entry.id, m.entry.provider⟩) := by
  rw [Language.startDocument, hready]
  cases l.documents.get? uri with
  | none => rfl
  | some d =>
      dsimp only
      rw [route_multi hmulti, Bool.not_true, if_neg Bool.false_ne_true]
      dsimp only
      rw [List.map_map]
      rfl

/-- **A request has been put to all providers** that match its document, by a job of its own, when
the gates and the document were open, and this is what each of them has answered since. -/
def PutToAll (settings : Settings) (actions : List (SessionAction π)) (number : TaskId) (uri : Url)
    (query : DocumentQuery) (heard : List (Entry π Metadata × Option (Option Reply))) : Prop :=
  ∃ earlier host index later d,
    actions = earlier ++ .work host index :: later ∧
    let s := run settings earlier
    let found := (s.language.providers.registry query.feature).matching d query.reaches
    (s.pursued? (.work host index)).map (·.number) = some number ∧
    s.language.startup.isReady = true ∧ s.language.documents.get? uri = some d ∧
    (s.work host index).asked =
      s.asked ++ found.map (fun m => (m.entry.provider, .document d query)) ∧
    heard = found.zipIdx.map fun m =>
      (m.1.entry, answerOf host s.nextCall (.document d query) later m.1.entry.provider m.2)

/-- The replies among the answers, with their providers. -/
def repliesOf (heard : List (Entry π Metadata × Option (Option Reply))) :
    List (ProviderId × Reply) :=
  heard.filterMap fun h => h.2.join.map (h.1.id, ·)

/-- An inquiry about a document for all providers is what all have answered that match. -/
lemma Underway.putToAll (hmulti : query.feature.isMultiResult = true)
    (h : Underway settings actions number (.document uri query) origin inquiry) :
    ∃ heard, PutToAll settings actions number uri query heard ∧
      (inquiry.isDone = true ↔ ∀ h ∈ heard, h.2.isSome = true) ∧
      inquiry.results = repliesOf heard := by
  obtain ⟨earlier, host, index, later, t, d, entries, hactions, hpursued, hnumber, hunasked, hready,
    hd, hroute, hdone, hresults⟩ := h.document
  rw [route_multi hmulti] at hroute
  cases hroute
  refine ⟨_, ⟨earlier, host, index, later, d, hactions,
    Option.map_eq_some_iff.mpr ⟨t, hpursued, hnumber⟩, hready, hd, ?_, rfl⟩, ?_, ?_⟩
  · have hstart := startDocument_multi uri hready hmulti
    rw [hd] at hstart
    rw [(work_asks hpursued hunasked hstart).1, List.map_map]
    rfl
  · rw [hdone, List.zipIdx_map, List.forall_mem_map, List.forall_mem_map]
    rfl
  · rw [hresults, repliesOf, List.zipIdx_map, List.filterMap_map, List.filterMap_map]
    rfl

/-- Replies are in increasing order of their providers. -/
lemma PutToAll.sorted {heard : List (Entry π Metadata × Option (Option Reply))}
    (h : PutToAll settings actions number uri query heard) :
    (repliesOf heard).Pairwise (·.1 < ·.1) := by
  obtain ⟨earlier, host, index, later, d, -, -, -, -, -, rfl⟩ := h
  have hordered := (run_sound settings earlier).ordered query.feature
  have hsorted := hordered.matching_sorted d query.reaches
  rw [← List.zipIdx_map_fst 0 (Registry.matching _ _ _), List.pairwise_map] at hsorted
  rw [repliesOf, List.filterMap_map]
  exact sorted_replies hsorted _

/-- What a request comes to by a job of its own that has been put to all providers: it succeeds when
all have answered, with what they have replied, and otherwise it waits for them. -/
def HearsAll (settings : Settings) (actions : List (SessionAction π)) (host : Host π) (index : Nat)
    (t : RequestTask π) (uri : Url) (query : DocumentQuery) : Prop :=
  let s := run settings actions
  let s' := run settings (actions ++ [.work host index])
  ∃ heard,
    PutToAll settings (actions ++ [.work host index]) t.number uri query heard ∧
    (repliesOf heard).Pairwise (·.1 < ·.1) ∧
    ((∃ h ∈ heard, h.2 = none) → t.cancelled = false → t.expired = false → Waits s s' t) ∧
    ((∀ h ∈ heard, h.2.isSome = true) →
      Succeeds s s' t (s.language.finishDocument uri (repliesOf heard) query).1)

lemma Consults.hearsAll {jobs : List Job} {s'' : Session π}
    (h : Consults host { run settings actions with jobs } t (.document uri query) origin inquiry
      s'')
    (hpursued : (run settings actions).pursued? (.work host index) = some t)
    (hwork : (run settings actions).work host index =
      s''.await t (.document uri query) origin inquiry)
    (hmulti : query.feature.isMultiResult = true) :
    HearsAll settings actions host index t uri query := by
  obtain ⟨hunderway, hwaits, hsucceeds⟩ := h.result hpursued hwork
  obtain ⟨heard, hput, hdone, hresults⟩ := hunderway.putToAll hmulti
  refine ⟨heard, hput, hput.sorted, fun ⟨h, hmem, hnone⟩ => hwaits ?_,
    fun hall => hresults ▸ hsucceeds (hdone.mpr hall)⟩
  refine Bool.eq_false_iff.mpr fun htrue => ?_
  have hsome := hdone.mp htrue h hmem
  rw [hnone] at hsome
  cases hsome

/-- **Questions to all providers**: when a question goes to all providers that match a document and
that it reaches, it is answered when all of these have answered, in any order. Its results are in
increasing order of their numbers, and they are the replies of exactly those that were registered
when it was put, that it reaches, that match and that had something to say. If some fail, only their
replies are missing. Nothing else matters: neither the order of the answers nor who comes or goes
in the meantime.

In a session, a request whose feature merges results waits as long as the gates are closed. When
they are open it fails if its document is not, and else it is put to all providers that match then.
It succeeds when these have answered, with the replies of them all. -/
theorem fan_out_results :
    (∀ (π μ : Type) (history : List (Enrollment π μ)) (d : TextDocument) (accept : μ → Bool)
      (first : CallId) (question : Question) (reply : ProviderId → Option Reply)
      (events : List (ErrandEvent π μ)),
      let r := Registry.ofHistory history
      let e := Errand.run reply (.start r d accept first question) events
      (e.inquiry.isDone = true ↔
        ∀ entry, r.Serves d accept entry → entry.id ∈ events.filterMap (·.answerer?)) ∧
      (e.inquiry.isDone = true →
        e.inquiry.results.Pairwise (·.1 < ·.1) ∧
        (∀ id v, (id, v) ∈ e.inquiry.results ↔
          (∃ entry, r.Serves d accept entry ∧ entry.id = id) ∧ reply id = some v) ∧
        ∀ (fails : ProviderId → Bool) (events' : List (ErrandEvent π μ)),
          let e' := Errand.run (fun id => if fails id then none else reply id)
            (.start r d accept first question) events'
          e'.inquiry.isDone = true →
            e'.inquiry.results = e.inquiry.results.filter (!fails ·.1))) ∧
    ∀ (settings : Settings) (actions : List (SessionAction π)) (host : Host π) (index : Nat)
      (t : RequestTask π) (uri : Url) (query : DocumentQuery),
      let s := run settings actions
      let s' := run settings (actions ++ [.work host index])
      let r := Registry.ofHistory (actions.filterMap (·.enrollment? query.feature))
      s.pursued? (.work host index) = some t → query.feature.isMultiResult = true →
      (s.unasked? t = some (.document uri query) →
        (s.language.startup.isReady = false → s'.asked = s.asked ∧
          (t.cancelled = false → t.expired = false → Waits s s' t)) ∧
        (s.language.startup.isReady = true →
          (s.language.documents.get? uri = none →
            s'.asked = s.asked ∧ Fails s s' t (RouteError.documentNotOpen uri).toRpc) ∧
          ∀ d, s.language.documents.get? uri = some d →
            s'.asked = s.asked ++ (r.matching d query.reaches).map
              (fun m => (m.entry.provider, .document d query)) ∧
            HearsAll settings actions host index t uri query)) ∧
      ∀ origin inquiry, t.stage = .asking (.document uri query) origin inquiry →
        s'.asked = s.asked ∧ HearsAll settings actions host index t uri query := by
  refine ⟨fun π μ history d accept first question reply events => ?_,
    fun settings actions host index t uri query => ?_⟩
  · intro r e
    have hr : r.Ordered := Registry.ordered_ofHistory history
    exact ⟨Errand.isDone_run hr events, fun hdone => ⟨Errand.sorted_results_run hr hdone,
      fun id v => Errand.mem_results_run hr hdone,
      fun fails events' hdone' => Errand.results_fails hr fails hdone hdone'⟩⟩
  · intro s s' r hpursued hmulti
    have hstep : s' = s.work host index := run_append settings actions _
    have hregistry : s.language.providers.registry query.feature = r := registry_run _ _ _
    rw [hstep]
    constructor
    · intro hunasked
      refine ⟨fun hready => work_gated hpursued hunasked (startDocument_gated hready),
        fun hready => ⟨fun hd => work_fails hpursued hunasked ?_, fun d hd => ?_⟩⟩
      · have hstart := startDocument_multi uri hready hmulti
        rwa [hd] at hstart
      · have hstart := startDocument_multi uri hready hmulti
        rw [hd] at hstart
        obtain ⟨hasked, inquiry, s'', hawait, hconsults⟩ := work_asks hpursued hunasked hstart
        rw [List.map_map, hregistry] at hasked
        exact ⟨hasked, hconsults.hearsAll hpursued hawait hmulti⟩
    · intro origin inquiry hstage
      have hwork := work_of_asking hpursued hstage
      refine ⟨?_, Consults.hearsAll (.before hstage) hpursued hwork hmulti⟩
      rw [hwork, await_asked]

/-- Three of four providers match. They are asked for links, and while they are, one of them goes
and another one comes. They answer in the opposite order, and the first one fails. -/
def fanRun : List (SessionAction Unit) :=
  [asks 1 Method.initializeRequest (Json.object []), tells Method.initialized .null,
    .openGate .registered .null,
    .register .documentLink ⟨[.any]⟩ () .nothing,
    .register .documentLink ⟨[.language "other"]⟩ () .nothing,
    .register .documentLink ⟨[.any]⟩ () .nothing,
    .register .documentLink ⟨[.language "text", .any]⟩ () .nothing,
    tells Method.didOpen
      (lateParams [("languageId", .str "text"), ("version", .int 1), ("text", .str "")]),
    asks 2 Method.documentLink (lateParams []), nextJob,
    .unregister .documentLink 3, .register .documentLink ⟨[.any]⟩ () .nothing,
    .answer 2 (some (.links [default])), nextJob, .answer 1 (some (.links [])), nextJob,
    .answer 0 none]

/-- The request is answered with the replies of the two others. -/
theorem fan_out_results_fanRun :
    let d : TextDocument := ⟨lateUrl, "text", 1, ""⟩
    let s := run {} fanRun
    let s' := run {} (fanRun ++ [nextJob])
    (let history : List (Enrollment Unit Unit) :=
        [.register ⟨[.language "other"]⟩ () (), .register ⟨[.any]⟩ () (), .register ⟨[.any]⟩ () ()]
      let e := Errand.run (fun id => if id = 3 then none else some (.links []))
        (.start (.ofHistory history) d (fun _ => true) 0 (.document d .documentLink))
        [.answers 3, .enrolls (.unregister 2), .answers 2]
      e.inquiry.isDone = true ∧ (2, .links []) ∈ e.inquiry.results ∧
        ∀ v, (3, v) ∉ e.inquiry.results) ∧
    ∃ t heard, s.pursued? nextJob = some t ∧
      PutToAll {} (fanRun ++ [nextJob]) t.number lateUrl .documentLink heard ∧
      Succeeds s s' t (s.language.finishDocument lateUrl (repliesOf heard) .documentLink).1 := by
  intro d s s'
  obtain ⟨hgeneric, hsession⟩ := fan_out_results (π := Unit)
  constructor
  · intro history e
    have hdone : e.inquiry.isDone = true := by decide +kernel
    obtain ⟨-, hmem, -⟩ := (hgeneric Unit Unit history d (fun _ => true) 0
      (.document d .documentLink) (fun id => if id = 3 then none else some (.links []))
      [.answers 3, .enrolls (.unregister 2), .answers 2]).2 hdone
    refine ⟨hdone, (hmem 2 _).mpr ⟨⟨⟨2, ⟨[.any]⟩, (), ()⟩, ⟨.tail _ (.head _), rfl, ?_⟩, rfl⟩, rfl⟩,
      fun v hv => ?_⟩
    · decide
    · cases ((hmem 3 v).mp hv).2
  · obtain ⟨t, hpursued, htask⟩ : ∃ t, s.pursued? nextJob = some t ∧
        (t.query?, s.unasked? t, t.cancelled, t.expired) =
          (some (.document lateUrl .documentLink), none, false, false) :=
      Option.map_eq_some_iff.mp (by decide +kernel)
    simp only [Prod.mk.injEq] at htask
    obtain ⟨hquery, hunasked, hcancelled, hexpired⟩ := htask
    obtain ⟨origin, inquiry, hstage⟩ := exists_asking hquery hunasked (by decide +kernel)
    obtain ⟨-, heard, hput, -, hwaits, hsucceeds⟩ := (hsession {} fanRun
      ⟨fun _ _ => none, fun _ => false⟩ 0 t lateUrl .documentLink hpursued rfl).2 origin inquiry
        hstage
    refine ⟨t, heard, hpursued, hput, hsucceeds fun h hmem => ?_⟩
    by_contra hnone
    have hempty : s'.tasks.map (·.number) = [] := by decide +kernel
    obtain ⟨u, hu, -⟩ := (hwaits ⟨h, hmem, Option.not_isSome_iff_eq_none.mp hnone⟩ hcancelled
      hexpired).1
    exact List.not_mem_nil (hempty ▸ List.mem_map_of_mem hu)

end Session

end ProviderHub
