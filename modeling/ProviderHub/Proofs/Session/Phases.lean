import Mathlib.Tactic
import ProviderHub.Proofs.Session.Tasks

/-!
The phases of a session: before its start, between start and end, and after its end.

* `Session.outcome?`, `Session.Succeeded`: what a request of the lifecycle comes to, and whether one
  has succeeded in a run;
* `Session.Refuses`: a request gets an error, and nothing else changes;
* `Session.Steady`: what only requests of the lifecycle change;
* `Session.initializeReceived_run`, `Session.shutdownRequested_run`: the flags tell the phase;
* `Session.limits_run`: the limits are those of the settings until the start, and then those that
  the client's options leave.
-/

namespace ProviderHub

/-- Something happens at some step of a run, which the actions before it lead to. -/
def AtSome {α : Type} (actions : List α) (P : List α → α → Prop) : Prop :=
  ∃ earlier action, earlier ++ [action] <+: actions ∧ P earlier action

section AtSome

variable {α : Type} {P : List α → α → Prop} {actions : List α} {action : α}

lemma not_atSome_nil : ¬ AtSome [] P := by
  rintro ⟨earlier, action, hearlier, -⟩
  simp at hearlier

lemma atSome_append : AtSome (actions ++ [action]) P ↔ AtSome actions P ∨ P actions action := by
  constructor
  · rintro ⟨earlier, other, hearlier, h⟩
    rcases List.prefix_concat_iff.mp hearlier with heq | hearlier
    · obtain ⟨rfl, hlast⟩ := List.append_inj' heq rfl
      cases List.singleton_inj.mp hlast
      exact .inr h
    · exact .inl ⟨earlier, other, hearlier, h⟩
  · rintro (⟨earlier, other, hearlier, h⟩ | h)
    · exact ⟨earlier, other, hearlier.trans (List.prefix_append _ _), h⟩
    · exact ⟨actions, action, List.prefix_rfl, h⟩

end AtSome

namespace Session

variable {π : Type} {s s' s'' : Session π} {host : Host π} {t : RequestTask π}

/-! ### Requests of the lifecycle -/

/-- What a request of the lifecycle comes to. All others become tasks. -/
def outcome? (s : Session π) (r : Request) : Option (Except RpcError Json) :=
  if r.method = Method.initializeRequest then
    some ((s.beginRequest r.id).2.handleInitialize r.params).1
  else if r.method = Method.shutdown then some (s.beginRequest r.id).2.handleShutdown.1
  else none

/-- A request of the lifecycle has succeeded in a run. -/
def Succeeded (settings : Settings) (actions : List (SessionAction π)) (method : String) : Prop :=
  AtSome actions fun earlier action => ∃ r v, action = .message (.request r) ∧
    r.method = method ∧ (run settings earlier).outcome? r = some (.ok v)

/-- A request gets an error for an answer. Nothing is asked, and neither the language features, that
is documents, caches, limits and gates, nor the state of watching nor the phase changes. -/
structure Refuses (s s' : Session π) (id : RequestId) (e : RpcError) : Prop where
  client_eq : s'.client = (s.client.send (encode (Response.failure (some id) e))).2
  asked_eq : s'.asked = s.asked
  language_eq : s'.language = s.language
  watch_eq : s'.watch = s.watch
  features_eq : s'.features = s.features
  initializeReceived_eq : s'.initializeReceived = s.initializeReceived
  shutdownRequested_eq : s'.shutdownRequested = s.shutdownRequested

lemma refuses_endTask (s : Session π) (jobs : List Job) (t : RequestTask π) (e : RpcError) :
    s.Refuses ({ s with jobs }.endTask t (.error e)) t.id e :=
  ⟨rfl, rfl, rfl, rfl, rfl, rfl, rfl⟩

/-- What is answered at once. -/
lemma handleRequest_of_start {r : Request} (hmethod : r.method = Method.initializeRequest) :
    s.handleRequest r =
      ((s.beginRequest r.id).2.handleInitialize r.params).2.respond r.id
        ((s.beginRequest r.id).2.handleInitialize r.params).1 := by
  rw [handleRequest]
  dsimp only
  rw [if_pos hmethod]

lemma handleRequest_of_shutdown {r : Request} (hmethod : r.method = Method.shutdown) :
    s.handleRequest r =
      (s.beginRequest r.id).2.handleShutdown.2.respond r.id
        (s.beginRequest r.id).2.handleShutdown.1 := by
  have hne : r.method ≠ Method.initializeRequest := by
    rw [hmethod]
    decide
  rw [handleRequest]
  dsimp only
  rw [if_neg hne, if_pos hmethod]

/-- What is not becomes a task. -/
lemma handleRequest_of_task {r : Request} (hstarts : r.method ≠ Method.initializeRequest)
    (hshutdown : r.method ≠ Method.shutdown) :
    s.handleRequest r =
      { (s.beginRequest r.id).2 with
        tasks := s.tasks ++ [RequestTask.mk s.nextTask r.id (.fresh r) false false] }.wake
          s.nextTask := by
  rw [handleRequest]
  dsimp only
  rw [if_neg hstarts, if_neg hshutdown]
  rfl

/-! ### What only the lifecycle changes -/

/-- The phase, the settings and the limits are the same. -/
structure Steady (s s' : Session π) : Prop where
  settings_eq : s'.settings = s.settings
  initializeReceived_eq : s'.initializeReceived = s.initializeReceived
  shutdownRequested_eq : s'.shutdownRequested = s.shutdownRequested
  limits_eq : s'.language.limits = s.language.limits

@[refl] lemma Steady.refl (s : Session π) : s.Steady s := ⟨rfl, rfl, rfl, rfl⟩

lemma Steady.trans (h : s.Steady s') (h' : s'.Steady s'') : s.Steady s'' :=
  ⟨h'.settings_eq.trans h.settings_eq, h'.initializeReceived_eq.trans h.initializeReceived_eq,
    h'.shutdownRequested_eq.trans h.shutdownRequested_eq, h'.limits_eq.trans h.limits_eq⟩

lemma Aside.steady (h : s.Aside s') : s.Steady s' := by
  obtain ⟨watch, client, finished, rfl⟩ := h
  exact ⟨rfl, rfl, rfl, rfl⟩

lemma finish_limits (l : Language π) (query : Query) (origin : Option Token)
    (results : List (ProviderId × Reply)) :
    (l.finish query origin results).2.limits = l.limits := by
  cases query with
  | document uri query => cases query <;> rfl
  | _ => rfl

lemma Consults.steady {query : Query} {origin : Option Token} {inquiry : Inquiry π}
    (h : Consults host s t query origin inquiry s') : s.Steady s' := by
  cases h <;> exact ⟨rfl, rfl, rfl, rfl⟩

lemma endTask_steady (s : Session π) (t : RequestTask π) (outcome : Except RpcError Json) :
    s.Steady (s.endTask t outcome) :=
  ⟨rfl, rfl, rfl, rfl⟩

lemma updateTask_steady (s : Session π) (number : TaskId) (f : RequestTask π → RequestTask π) :
    s.Steady (s.updateTask number f) :=
  ⟨rfl, rfl, rfl, rfl⟩

lemma Pursues.steady (h : Pursues host s t s') : s.Steady s' := by
  cases h with
  | refused e => exact s.endTask_steady t _
  | replied => exact s.endTask_steady t _
  | gated => exact s.updateTask_steady _ _
  | dropped e hconsults => exact hconsults.steady.trans (endTask_steady _ t _)
  | asking hconsults => exact hconsults.steady.trans (updateTask_steady _ _ _)
  | @finished query origin inquiry s'' hconsults =>
      have hs := hconsults.steady
      exact ⟨hs.settings_eq, hs.initializeReceived_eq, hs.shutdownRequested_eq,
        finish_limits s.language query origin inquiry.results⟩

lemma openGate_steady (s : Session π) (gate : GateName) (value : Json) :
    s.Steady (s.openGate gate value).2 := by
  rw [openGate]
  dsimp only
  split <;> exact ⟨rfl, rfl, rfl, rfl⟩

/-- A session that has started, with the limits that the client's options leave. -/
def started (s : Session π) (p : InitializeParams) : Session π :=
  { s with
    initializeReceived := true
    language := { s.language with
      limits := (s.settings.lowerLimit (p.initializationOptions.getD .null)).completion } }

/-- A start that succeeds is the first one, and its parameters can be read; any other one changes
nothing. -/
lemma handleInitialize_cases (s : Session π) (params : Option Json) :
    (∃ e, s.handleInitialize params = (.error e, s) ∧
      (s.initializeReceived = true ∨ ∀ p, readParams InitializeParams params ≠ .ok p)) ∨
    ∃ p v, readParams InitializeParams params = .ok p ∧ s.initializeReceived = false ∧
      (s.handleInitialize params).1 = .ok v ∧
      (s.started p).Steady (s.handleInitialize params).2 := by
  rw [handleInitialize]
  split
  · rename_i p hparams
    rw [start]
    split
    · rename_i hreceived
      exact .inl ⟨_, rfl, .inl hreceived⟩
    · rename_i hfirst
      refine .inr ⟨p, _, hparams, Bool.not_eq_true _ ▸ hfirst, rfl, ?_⟩
      have hopened (s : Session π) (options : Json) := s.openGate_steady .configured options
      dsimp only
      split <;> split <;> exact ⟨(hopened _ _).settings_eq, (hopened _ _).initializeReceived_eq,
        (hopened _ _).shutdownRequested_eq, (hopened _ _).limits_eq⟩
  · rename_i e hparams
    exact .inl ⟨e, rfl, .inr fun p hp => by simp_all⟩

/-- Nothing is sent but the answer. -/
lemma handleInitialize_client (s : Session π) (params : Option Json) :
    (s.handleInitialize params).2.client = s.client := by
  have hopened (s : Session π) (options : Json) :
      (s.openGate .configured options).2.client = s.client := by
    rw [openGate]
    dsimp only
    split <;> rfl
  rw [handleInitialize]
  split
  · rw [start]
    split
    · rfl
    · split <;> split <;> exact hopened _ _
  · rfl

lemma cancelTask_steady (s : Session π) (number : TaskId) : s.Steady (s.cancelTask number) :=
  ⟨rfl, rfl, rfl, rfl⟩

lemma cancelRequest_steady (s : Session π) (id : RequestId) :
    s.Steady (s.cancelRequest id).2 := by
  rw [cancelRequest]
  split
  · exact s.cancelTask_steady _
  · rfl

lemma Heeds.steady {n : Notification} (h : s.Heeds n s') : s.Steady s' := by
  cases h with
  | initialized => exact s.openGate_steady _ _
  | cancel id => exact s.cancelRequest_steady id
  | _ => exact ⟨rfl, rfl, rfl, rfl⟩

lemma runJob_steady (s : Session π) (host : Host π) (job : Job) :
    s.Steady (s.runJob host job) := by
  cases job with
  | task number =>
      rw [runJob]
      cases hfind : s.tasks.find? (·.number == number) with
      | none =>
          rw [poll, hfind]
      | some t => exact (poll_pursues hfind).steady
  | features =>
      rw [runJob, registerFeatures]
      split <;> exact ⟨rfl, rfl, rfl, rfl⟩
  | answered a => exact (s.resume_aside a).steady
  | overdue id =>
      rw [runJob]
      dsimp only
      split
      · have hexpire : s.Steady { s with client := (s.client.expire id).2 } := ⟨rfl, rfl, rfl, rfl⟩
        exact hexpire.trans (resume_aside _ _).steady
      · exact ⟨rfl, rfl, rfl, rfl⟩
  | sweep feature =>
      rw [runJob]
      split
      · cases feature <;> exact ⟨rfl, rfl, rfl, rfl⟩
      · rfl
  | flush => exact (s.flush_aside _).steady

lemma step_steady (s : Session π) {action : SessionAction π} (hleave : action ≠ .leave)
    (hrequest : ∀ r, action ≠ .message (.request r)) : s.Steady (s.step action) := by
  cases action with
  | leave => exact absurd rfl hleave
  | message m =>
      cases m with
      | request r => exact absurd rfl (hrequest r)
      | response r => exact ⟨rfl, rfl, rfl, rfl⟩
      | notification n => exact (s.handleNotification_heeds n).steady
  | work host index =>
      rw [step, work]
      split
      · have hjobs : s.Steady { s with jobs := s.jobs.eraseIdx index } := ⟨rfl, rfl, rfl, rfl⟩
        exact hjobs.trans (runJob_steady _ host _)
      · rfl
  | giveUp number =>
      rw [step, giveUp]
      split
      · split
        · exact s.endTask_steady _ _
        · rfl
      · rfl
  | timeUp timer =>
      rw [step]
      split
      · cases timer <;> exact ⟨rfl, rfl, rfl, rfl⟩
      · rfl
  | openGate gate value => exact s.openGate_steady gate value
  | cancel id => exact s.cancelRequest_steady id
  | request name method params => exact (s.request_aside name method params).steady
  | flush onDisk => exact (s.flush_aside onDisk).steady
  | _ => exact ⟨rfl, rfl, rfl, rfl⟩

lemma foldl_cancelTask_steady (s : Session π) (requests : List (RequestId × TaskId)) :
    s.Steady (requests.foldl (fun s (_, number) => s.cancelTask number) s) := by
  induction requests generalizing s with
  | nil => rfl
  | cons request requests ih => exact (s.cancelTask_steady request.2).trans (ih _)

lemma shutdown_steady (s : Session π) :
    { s with shutdownRequested := true }.Steady s.shutdown := by
  rw [shutdown]
  split
  · rename_i hstopped
    exact ⟨rfl, rfl, hstopped, rfl⟩
  · have hmarked := s.foldl_cancelTask_steady s.inFlight
    exact ⟨hmarked.settings_eq, hmarked.initializeReceived_eq, rfl, hmarked.limits_eq⟩

/-- **What a step does to the phase**: nothing, unless a session starts or ends. It starts with the
first request whose parameters can be read, and ends with a request in between, or with the
connection. -/
inductive Turns (s : Session π) : SessionAction π → Session π → Prop
  | steady {action : SessionAction π} {s' : Session π} :
      action ≠ .leave →
      (∀ r v, action = .message (.request r) → s.outcome? r ≠ some (.ok v)) →
      s.Steady s' → Turns s action s'
  | starts {r : Request} {p : InitializeParams} {v : Json} {s' : Session π} :
      r.method = Method.initializeRequest → readParams InitializeParams r.params = .ok p →
      s.outcome? r = some (.ok v) → s.initializeReceived = false → (s.started p).Steady s' →
      Turns s (.message (.request r)) s'
  | ends {r : Request} {v : Json} {s' : Session π} :
      r.method = Method.shutdown → s.outcome? r = some (.ok v) → s.refusal? = none →
      { s with shutdownRequested := true }.Steady s' → Turns s (.message (.request r)) s'
  | leaves {s' : Session π} :
      { s with shutdownRequested := true }.Steady s' → Turns s .leave s'

lemma respond_steady (s : Session π) (id : RequestId) (outcome : Except RpcError Json) :
    s.Steady (s.respond id outcome) :=
  ⟨rfl, rfl, rfl, rfl⟩

lemma outcome?_of_start {r : Request} (hmethod : r.method = Method.initializeRequest) :
    s.outcome? r = some ((s.beginRequest r.id).2.handleInitialize r.params).1 :=
  if_pos hmethod

lemma outcome?_of_shutdown {r : Request} (hmethod : r.method = Method.shutdown) :
    s.outcome? r = some (s.beginRequest r.id).2.handleShutdown.1 := by
  have hne : r.method ≠ Method.initializeRequest := by
    rw [hmethod]
    decide
  rw [outcome?, if_neg hne, if_pos hmethod]

lemma handleRequest_turns (s : Session π) (r : Request) :
    s.Turns (.message (.request r)) (s.handleRequest r) := by
  have hbegin : s.Steady (s.beginRequest r.id).2 := ⟨rfl, rfl, rfl, rfl⟩
  by_cases hstarts : r.method = Method.initializeRequest
  · have houtcome := outcome?_of_start (s := s) hstarts
    rw [handleRequest_of_start hstarts]
    rcases (s.beginRequest r.id).2.handleInitialize_cases r.params with
      ⟨e, heq, -⟩ | ⟨p, v, hparams, hfirst, hok, hsteady⟩
    · rw [heq] at houtcome ⊢
      refine .steady (by simp) (fun r' v hr' => ?_) (hbegin.trans (respond_steady _ _ _))
      cases hr'
      simp [houtcome]
    · rw [hok] at houtcome
      refine .starts hstarts hparams houtcome hfirst ?_
      exact ⟨hsteady.settings_eq, hsteady.initializeReceived_eq, hsteady.shutdownRequested_eq,
        hsteady.limits_eq⟩
  · by_cases hshutdown : r.method = Method.shutdown
    · have houtcome := outcome?_of_shutdown (s := s) hshutdown
      rw [handleRequest_of_shutdown hshutdown]
      rw [handleShutdown] at houtcome ⊢
      split at houtcome
      · rename_i e hrefusal
        refine .steady (by simp) (fun r' v hr' => ?_) (hbegin.trans (respond_steady _ _ _))
        cases hr'
        simp [houtcome]
      · rename_i hrefusal
        have hsteady := (s.beginRequest r.id).2.shutdown_steady
        exact .ends hshutdown houtcome hrefusal ⟨hsteady.settings_eq,
          hsteady.initializeReceived_eq, hsteady.shutdownRequested_eq, hsteady.limits_eq⟩
    · rw [handleRequest_of_task hstarts hshutdown]
      refine .steady (by simp) (fun r' v hr' => ?_) ⟨rfl, rfl, rfl, rfl⟩
      cases hr'
      simp [outcome?, hstarts, hshutdown]

lemma step_turns (s : Session π) (action : SessionAction π) : s.Turns action (s.step action) := by
  by_cases hleave : action = .leave
  · subst hleave
    have hsteady := s.shutdown_steady
    exact .leaves ⟨hsteady.settings_eq, hsteady.initializeReceived_eq,
      hsteady.shutdownRequested_eq, hsteady.limits_eq⟩
  · by_cases hrequest : ∃ r, action = .message (.request r)
    · obtain ⟨r, rfl⟩ := hrequest
      exact s.handleRequest_turns r
    · push Not at hrequest
      exact .steady hleave (fun r v hr => absurd hr (hrequest r)) (s.step_steady hleave hrequest)

/-! ### Runs -/

variable {settings : Settings} {actions : List (SessionAction π)}

lemma settings_run (settings : Settings) (actions : List (SessionAction π)) :
    (run settings actions).settings = settings := by
  induction actions using List.reverseRecOn with
  | nil => rfl
  | append_singleton actions action ih =>
      rw [run_append]
      cases (run settings actions).step_turns action with
      | steady _ _ h => exact h.settings_eq.trans ih
      | starts _ _ _ _ h => exact h.settings_eq.trans ih
      | ends _ _ _ h => exact h.settings_eq.trans ih
      | leaves h => exact h.settings_eq.trans ih

/-- The first flag tells whether the session has started. -/
lemma initializeReceived_run (settings : Settings) (actions : List (SessionAction π)) :
    (run settings actions).initializeReceived = true ↔
      Succeeded settings actions Method.initializeRequest := by
  induction actions using List.reverseRecOn with
  | nil => exact iff_of_false nofun not_atSome_nil
  | append_singleton actions action ih =>
      rw [Succeeded, atSome_append, ← Succeeded, ← ih, run_append]
      have hmethods : Method.shutdown ≠ Method.initializeRequest := by decide
      cases (run settings actions).step_turns action with
      | steady _ hnone h =>
          rw [h.initializeReceived_eq, or_iff_left]
          exact fun ⟨r, v, hr, _, hok⟩ => hnone r v hr hok
      | @starts r p v _ hmethod _ hok _ h =>
          exact iff_of_true h.initializeReceived_eq (.inr ⟨r, v, rfl, hmethod, hok⟩)
      | ends hmethod _ _ h =>
          rw [h.initializeReceived_eq, or_iff_left]
          rintro ⟨r', v, hr', hmethod', -⟩
          cases hr'
          exact hmethods (hmethod.symm.trans hmethod')
      | leaves h =>
          rw [h.initializeReceived_eq, or_iff_left]
          exact fun ⟨r, v, hr, _⟩ => nomatch hr

/-- The second one tells whether it has ended. -/
lemma shutdownRequested_run (settings : Settings) (actions : List (SessionAction π)) :
    (run settings actions).shutdownRequested = true ↔
      Succeeded settings actions Method.shutdown ∨ SessionAction.leave ∈ actions := by
  induction actions using List.reverseRecOn with
  | nil => exact iff_of_false nofun (not_or.mpr ⟨not_atSome_nil, List.not_mem_nil⟩)
  | append_singleton actions action ih =>
      rw [Succeeded, atSome_append, ← Succeeded, List.mem_append, List.mem_singleton, or_or_or_comm,
        ← ih, run_append]
      have hmethods : Method.initializeRequest ≠ Method.shutdown := by decide
      cases (run settings actions).step_turns action with
      | steady hleave hnone h =>
          rw [h.shutdownRequested_eq, or_iff_left]
          rintro (⟨r, v, hr, _, hok⟩ | heq)
          · exact hnone r v hr hok
          · exact hleave heq.symm
      | starts hmethod _ _ _ h =>
          rw [h.shutdownRequested_eq]
          refine (or_iff_left ?_).symm
          rintro (⟨r', v, hr', hmethod', -⟩ | heq)
          · cases hr'
            exact hmethods (hmethod.symm.trans hmethod')
          · cases heq
      | @ends r v _ hmethod hok _ h =>
          exact iff_of_true h.shutdownRequested_eq (.inr (.inl ⟨r, v, rfl, hmethod, hok⟩))
      | leaves h => exact iff_of_true h.shutdownRequested_eq (.inr (.inr rfl))

lemma step_initialized (hs : s.initializeReceived = true) (action : SessionAction π) :
    (s.step action).initializeReceived = true ∧
      (s.step action).language.limits = s.language.limits := by
  cases s.step_turns action with
  | steady _ _ h => exact ⟨h.initializeReceived_eq.trans hs, h.limits_eq⟩
  | starts _ _ _ hfirst _ => cases hs.symm.trans hfirst
  | ends _ _ _ h => exact ⟨h.initializeReceived_eq.trans hs, h.limits_eq⟩
  | leaves h => exact ⟨h.initializeReceived_eq.trans hs, h.limits_eq⟩

/-- The start sets the limits for good. -/
lemma limits_run {earlier : List (SessionAction π)} {r : Request} {p : InitializeParams} {v : Json}
    (hmethod : r.method = Method.initializeRequest)
    (hok : (run settings earlier).outcome? r = some (.ok v))
    (hparams : readParams InitializeParams r.params = .ok p) (later : List (SessionAction π)) :
    (run settings (earlier ++ [.message (.request r)] ++ later)).language.limits =
      (settings.lowerLimit (p.initializationOptions.getD .null)).completion := by
  suffices h : (run settings (earlier ++ [.message (.request r)] ++ later)).initializeReceived =
      true ∧ _ from h.2
  induction later using List.reverseRecOn with
  | nil =>
      rw [List.append_nil, run_append]
      cases (run settings earlier).step_turns (.message (.request r)) with
      | steady _ hnone _ => exact absurd hok (hnone r v rfl)
      | starts _ hparams' _ _ h =>
          cases hparams.symm.trans hparams'
          refine ⟨h.initializeReceived_eq, h.limits_eq.trans ?_⟩
          rw [started, settings_run]
      | ends hmethod' =>
          have hmethods : Method.shutdown ≠ Method.initializeRequest := by decide
          exact absurd (hmethod'.symm.trans hmethod) hmethods
  | append_singleton later action ih =>
      rw [← List.append_assoc, run_append]
      obtain ⟨hinitialized, hlimits⟩ := step_initialized ih.1 action
      exact ⟨hinitialized, hlimits.trans ih.2⟩

end Session

end ProviderHub
