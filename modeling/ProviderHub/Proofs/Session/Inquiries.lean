import Mathlib.Tactic
import ProviderHub.Proofs.Session.Outcomes
import ProviderHub.Proofs.Session.Tables

/-!
Inquiries along the runs of a session.

* `Session.Underway`: how an inquiry has come about;
* `Session.run_underway`: each task that waits for providers has put its query to them by a job of
  its own, and has heard their answers since;
* `Session.work_gated`, `Session.work_fails`, `Session.work_asks`: what becomes of a request that
  has not been put to providers;
* `Session.Consults.result`: what becomes of one about a document that has been;
* `Session.Underway.document`: its inquiry is what providers have answered that were registered when
  it was put to them.
-/

namespace ProviderHub.Session

variable {π : Type} {s s' : Session π} {host : Host π} {t : RequestTask π} {query : Query}
  {origin : Option Token} {inquiry : Inquiry π} {settings : Settings}
  {actions : List (SessionAction π)} {number : TaskId} {index : Nat}

/-- **How an inquiry has come about**: a job of the task has put the query to providers, and some of
them have answered since. -/
def Underway (settings : Settings) (actions : List (SessionAction π)) (number : TaskId)
    (query : Query) (origin : Option Token) (inquiry : Inquiry π) : Prop :=
  ∃ earlier host index later t question asked,
    actions = earlier ++ .work host index :: later ∧
    let s := run settings earlier
    s.pursued? (.work host index) = some t ∧ t.number = number ∧ s.unasked? t = some query ∧
    s.language.start query = .ask question origin asked ∧
    inquiry = (Inquiry.start host.atOnce s.nextCall question asked).answers
      (later.filterMap (·.answer?))

/-- It goes on by one more answer, or it stays as it is. -/
lemma Underway.concat (h : Underway settings actions number query origin inquiry)
    (action : SessionAction π) :
    Underway settings (actions ++ [action]) number query origin
      (action.answer?.elim inquiry fun given => inquiry.answer given.1 given.2) := by
  obtain ⟨earlier, host, index, later, t, question, asked, rfl, hpursued, hnumber, hunasked, hstart,
    rfl⟩ := h
  refine ⟨earlier, host, index, later ++ [action], t, question, asked,
    by rw [List.append_assoc, List.cons_append], hpursued, hnumber, hunasked, hstart, ?_⟩
  rw [List.filterMap_append]
  cases hanswer : action.answer? with
  | none =>
      rw [List.filterMap_cons_none hanswer, List.filterMap_nil, List.append_nil]
      rfl
  | some given =>
      rw [List.filterMap_cons_some hanswer, List.filterMap_nil, Inquiry.answers, Inquiry.answers,
        List.foldl_append]
      rfl

/-- A task that waits for providers has done so before, or it does so by its job. -/
lemma Consults.underway {jobs : List Job}
    (h : Consults host { run settings actions with jobs } t query origin inquiry s')
    (hpursued : (run settings actions).pursued? (.work host index) = some t)
    (ht : t.stage = .asking query origin inquiry →
      Underway settings actions t.number query origin inquiry) :
    Underway settings (actions ++ [.work host index]) t.number query origin inquiry := by
  cases h with
  | before hstage => exact (ht hstage).concat (.work host index)
  | now hunasked hstart =>
      exact ⟨actions, host, index, [], t, _, _, rfl, hpursued, rfl, hunasked, hstart, rfl⟩

lemma heard_eq_asking {stage : Stage π} {answer : Option (CallId × Option Reply)}
    (h : heard stage answer = .asking query origin inquiry) :
    ∃ before, stage = .asking query origin before ∧
      inquiry = answer.elim before fun given => before.answer given.1 given.2 := by
  cases answer with
  | none => exact ⟨inquiry, h, rfl⟩
  | some given =>
      cases stage with
      | asking q o before =>
          cases h
          exact ⟨before, rfl, rfl⟩
      | _ => cases h

lemma mem_of_pursued? {action : SessionAction π} (h : s.pursued? action = some t) :
    t ∈ s.tasks := by
  rcases s.step_cases action with ⟨hnone, -⟩ | ⟨u, hu, -, hmem⟩
  · cases hnone.symm.trans h
  · exact Option.some_inj.mp (hu.symm.trans h) ▸ hmem

/-- **What tasks wait for**: an inquiry that a job of theirs has started. -/
lemma run_underway (settings : Settings) (actions : List (SessionAction π)) :
    ∀ t ∈ (run settings actions).tasks, ∀ query origin inquiry,
      t.stage = .asking query origin inquiry →
        Underway settings actions t.number query origin inquiry := by
  induction actions using List.reverseRecOn with
  | nil => exact fun _ ht => (List.not_mem_nil ht).elim
  | append_singleton actions action ih =>
      intro u hu query origin inquiry hstage
      rw [run_append] at hu
      by_cases hwork : ∃ host index t, action = .work host index ∧
          (run settings actions).pursued? (.work host index) = some t
      · -- the task that goes on has its inquiry from now or before, and the others keep theirs
        obtain ⟨host, index, t, rfl, hpursued⟩ := hwork
        have hpursues := work_pursues hpursued
        by_cases hnumber : u.number = t.number
        · rw [hnumber]
          rcases hpursues.stage_cases hu hnumber with
            ⟨_, hgated, -⟩ | ⟨_, _, _, _, hasking, hconsults, -⟩
          · cases hgated.symm.trans hstage
          · cases hasking.symm.trans hstage
            exact hconsults.underway hpursued (ih t (mem_of_pursued? hpursued) _ _ _)
        · exact (ih u ((hpursues.spares.others u hnumber).mp hu) _ _ _ hstage).concat _
      · have hnone : ∀ host index, action = .work host index →
            (run settings actions).pursued? action = none := by
          rintro host index rfl
          exact Option.eq_none_iff_forall_ne_some.mpr fun t ht => hwork ⟨host, index, t, rfl, ht⟩
        rcases (run settings actions).stage_step hnone hu with
          ⟨v, hv, hnumber, hheard⟩ | ⟨_, hfresh⟩
        · obtain ⟨before, hbefore, rfl⟩ := heard_eq_asking (hheard.trans hstage)
          exact hnumber ▸ (ih v hv query origin before hbefore).concat action
        · cases hfresh.symm.trans hstage

/-! ### What becomes of a request -/

/-- A request waits. -/
def Waits (s s' : Session π) (t : RequestTask π) : Prop :=
  (∃ u ∈ s'.tasks, u.number = t.number) ∧ s'.client = s.client

/-- A request fails. -/
def Fails (s s' : Session π) (t : RequestTask π) (e : RpcError) : Prop :=
  (∀ u ∈ s'.tasks, u.number ≠ t.number) ∧
    s'.client = (s.client.send (encode (Response.failure (some t.id) e))).2

/-- A request succeeds. -/
def Succeeds (s s' : Session π) (t : RequestTask π) (v : Json) : Prop :=
  (∀ u ∈ s'.tasks, u.number ≠ t.number) ∧
    s'.client = (s.client.send (encode (Response.success t.id v))).2

/-- A request that is to wait does, if it is neither cancelled nor out of time. -/
lemma wait_waits (ht : t ∈ s.tasks) (stage : Stage π) (hcancelled : t.cancelled = false)
    (hexpired : t.expired = false) : Waits s (s.wait t stage) t := by
  rw [wait, hcancelled, hexpired]
  obtain ⟨u, hu, hnumber, -⟩ := exists_updateTask ht stage
  exact ⟨⟨u, hu, hnumber⟩, rfl⟩

lemma wait_asked (s : Session π) (t : RequestTask π) (stage : Stage π) :
    (s.wait t stage).asked = s.asked := by
  rw [wait]
  split
  · rfl
  · split <;> rfl

lemma await_asked (s : Session π) (t : RequestTask π) (query : Query) (origin : Option Token)
    (inquiry : Inquiry π) : (s.await t query origin inquiry).asked = s.asked := by
  rw [await]
  split
  · rfl
  · exact s.wait_asked t _

/-- A request whose providers have all answered succeeds. -/
lemma await_succeeds (query : Query) (origin : Option Token) (hdone : inquiry.isDone = true) :
    Succeeds s (s.await t query origin inquiry) t
      (s.language.finish query origin inquiry.results).1 := by
  rw [await, if_pos hdone]
  exact ⟨not_mem_endTask _ _ _, rfl⟩

/-- A request that can be read and is not to be put to providers any more waits for them. -/
lemma exists_asking (hquery : t.query? = some query) (hunasked : s.unasked? t = none)
    (hrefusal : s.refusal? = none) : ∃ origin inquiry, t.stage = .asking query origin inquiry := by
  rw [RequestTask.query?] at hquery
  rw [unasked?] at hunasked
  cases hstage : t.stage with
  | fresh r =>
      rw [hstage] at hquery hunasked
      dsimp only at hquery hunasked
      rw [hrefusal, hquery] at hunasked
      cases hunasked
  | gated q =>
      rw [hstage] at hunasked
      cases hunasked
  | asking q origin inquiry =>
      rw [hstage] at hquery
      cases hquery
      exact ⟨origin, inquiry, rfl⟩

/-- By its job, a request that waits for providers looks whether they have answered. -/
lemma work_of_asking (hpursued : s.pursued? (.work host index) = some t)
    (hstage : t.stage = .asking query origin inquiry) :
    s.work host index = { s with jobs := s.jobs.eraseIdx index }.await t query origin inquiry := by
  obtain ⟨heq, hfind⟩ := work_eq_poll hpursued
  rw [heq, poll, hfind]
  dsimp only
  rw [hstage]

/-- One that has not been put to any begins. -/
lemma work_of_unasked (hpursued : s.pursued? (.work host index) = some t)
    (hunasked : s.unasked? t = some query) :
    s.work host index = { s with jobs := s.jobs.eraseIdx index }.begin host t query := by
  obtain ⟨heq, hfind⟩ := work_eq_poll hpursued
  rw [heq, poll, hfind]
  rw [unasked?] at hunasked
  dsimp only
  cases hstage : t.stage with
  | fresh r =>
      rw [hstage] at hunasked
      dsimp only at hunasked ⊢
      rw [examine]
      split at hunasked
      · cases hunasked
      · rename_i hrefusal
        rw [show refusal? { s with jobs := s.jobs.eraseIdx index } = none from hrefusal]
        cases hread : Query.read r.method r.params with
        | error e =>
            rw [hread] at hunasked
            cases hunasked
        | ok q =>
            rw [hread] at hunasked
            cases hunasked
            rfl
  | gated q =>
      rw [hstage] at hunasked
      cases hunasked
      rfl
  | asking q origin inquiry =>
      rw [hstage] at hunasked
      cases hunasked

section unasked

variable (hpursued : s.pursued? (.work host index) = some t) (hunasked : s.unasked? t = some query)
include hpursued hunasked

/-- It waits for the gates. -/
lemma work_gated (hstart : s.language.start query = .waiting) :
    let s' := s.work host index
    s'.asked = s.asked ∧ (t.cancelled = false → t.expired = false → Waits s s' t) := by
  dsimp only
  rw [work_of_unasked hpursued hunasked, begin, hstart]
  have ht : t ∈ s.tasks := mem_of_pursued? hpursued
  exact ⟨wait_asked _ t _, wait_waits (s := { s with jobs := s.jobs.eraseIdx index }) ht _⟩

/-- Or it cannot be routed. -/
lemma work_fails {cause : RouteError} (hstart : s.language.start query = .done (.error cause)) :
    let s' := s.work host index
    s'.asked = s.asked ∧ Fails s s' t cause.toRpc := by
  dsimp only
  rw [work_of_unasked hpursued hunasked, begin, hstart]
  exact ⟨rfl, not_mem_endTask _ _ _, rfl⟩

/-- Or it is put to those that it has to ask. -/
lemma work_asks {question : Question} {asked : List (Asked π)}
    (hstart : s.language.start query = .ask question origin asked) :
    (s.work host index).asked = s.asked ++ asked.map (fun a => (a.handle, question)) ∧
    ∃ inquiry s'', s.work host index = s''.await t query origin inquiry ∧
      Consults host { s with jobs := s.jobs.eraseIdx index } t query origin inquiry s'' := by
  rw [work_of_unasked hpursued hunasked, begin, hstart]
  exact ⟨await_asked _ t query origin _, _, _, rfl, .now hunasked hstart⟩

end unasked

/-! ### Requests about documents -/

lemma startDocument_gated {l : Language π} {uri : Url} {query : DocumentQuery}
    (hready : l.startup.isReady = false) : l.startDocument uri query = .waiting := by
  rw [Language.startDocument, hready]
  rfl

/-- **A request about a document that has been put to providers** succeeds by its job with what they
have answered, if all have. Otherwise it waits for them, if it is neither cancelled nor out of
time. -/
lemma Consults.result {jobs : List Job} {s'' : Session π} {uri : Url} {query : DocumentQuery}
    (h : Consults host { run settings actions with jobs } t (.document uri query) origin inquiry
      s'')
    (hpursued : (run settings actions).pursued? (.work host index) = some t)
    (hwork : (run settings actions).work host index =
      s''.await t (.document uri query) origin inquiry) :
    let s := run settings actions
    let s' := run settings (actions ++ [.work host index])
    Underway settings (actions ++ [.work host index]) t.number (.document uri query) origin
      inquiry ∧
    (inquiry.isDone = false → t.cancelled = false → t.expired = false → Waits s s' t) ∧
    (inquiry.isDone = true →
      Succeeds s s' t (s.language.finishDocument uri inquiry.results query).1) := by
  intro s s'
  have ht := mem_of_pursued? hpursued
  have hstep : s' = s''.await t (.document uri query) origin inquiry :=
    (run_append settings actions _).trans hwork
  refine ⟨h.underway hpursued (run_underway settings actions t ht _ _ _),
    fun hdone hcancelled hexpired => ?_, fun hdone => ?_⟩
  · rw [hstep, await, hdone]
    obtain ⟨hwaits, hclient⟩ := wait_waits (h.tasks_eq ▸ ht) _ hcancelled hexpired
    exact ⟨hwaits, hclient.trans h.client_eq⟩
  · rw [hstep]
    obtain ⟨hends, hclient⟩ := await_succeeds (.document uri query) origin hdone
    rw [h.language_eq, h.client_eq] at hclient
    exact ⟨hends, hclient⟩

/-- What a provider that is asked has answered: at once, or later on. -/
def answerOf (host : Host π) (first : CallId) (question : Question)
    (later : List (SessionAction π)) (provider : π) (place : ℕ) : Option (Option Reply) :=
  (host.atOnce provider question).or ((later.filterMap (·.answer?)).lookup (first + place))

/-- **Where the inquiry of a request about a document comes from**: at some time of the run the
gates and the document were open and the request was put to the providers that it was routed to
then, and these have given their answers since. -/
lemma Underway.document {uri : Url} {query : DocumentQuery}
    (h : Underway settings actions number (.document uri query) origin inquiry) :
    ∃ earlier host index later t d entries,
      actions = earlier ++ .work host index :: later ∧
      let s := run settings earlier
      s.pursued? (.work host index) = some t ∧ t.number = number ∧
      s.unasked? t = some (.document uri query) ∧ s.language.startup.isReady = true ∧
      s.language.documents.get? uri = some d ∧ s.language.providers.route query d = .ok entries ∧
      let answer := answerOf host s.nextCall (.document d query) later
      (inquiry.isDone = true ↔ ∀ e ∈ entries.zipIdx, (answer e.1.provider e.2).isSome = true) ∧
      inquiry.results =
        entries.zipIdx.filterMap fun e => (answer e.1.provider e.2).join.map (e.1.id, ·) := by
  obtain ⟨earlier, host, index, later, t, question, asked, hactions, hpursued, hnumber, hunasked,
    hstart, rfl⟩ := h
  rw [Language.start, Language.startDocument] at hstart
  split at hstart
  · cases hstart
  rename_i hready
  split at hstart
  · cases hstart
  rename_i d hd
  split at hstart
  · cases hstart
  rename_i entries hroute
  injection hstart with hquestion horigin hasked
  subst hquestion hasked
  refine ⟨earlier, host, index, later, t, d, entries, hactions, hpursued, hnumber, hunasked,
    by simpa using hready, hd, hroute, ?_, ?_⟩
  · rw [Inquiry.isDone_answers, List.zipIdx_map]
    exact List.forall_mem_map
  · rw [Inquiry.results_answers, List.zipIdx_map, List.filterMap_map]
    rfl

/-- The providers of a feature are what the registrations of the run have made of them. -/
lemma registry_run (settings : Settings) (actions : List (SessionAction π)) (feature : Feature) :
    (run settings actions).language.providers.registry feature =
      .ofHistory (actions.filterMap (·.enrollment? feature)) := by
  induction actions using List.reverseRecOn with
  | nil => rfl
  | append_singleton actions action ih =>
      rw [run_append, registry_step, List.filterMap_append, ih]
      cases henrollment : action.enrollment? feature with
      | none =>
          rw [List.filterMap_cons_none henrollment, List.filterMap_nil, List.append_nil]
          rfl
      | some step =>
          rw [List.filterMap_cons_some henrollment, List.filterMap_nil, Registry.ofHistory_append]
          rfl

end ProviderHub.Session
