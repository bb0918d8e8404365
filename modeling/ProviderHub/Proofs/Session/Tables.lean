import Mathlib.Tactic
import ProviderHub.Proofs.Provider.Errands
import ProviderHub.Proofs.Session.Phases

/-!
The tables that a session routes by, and the inquiries that it waits for.

* `DocumentEdit`, `Documents.edited`: what may be done to the documents;
* `SessionAction.edit?`, `SessionAction.enrollment?`, `SessionAction.answer?`: what an action does
  to documents, providers and inquiries;
* `Session.Quiet`: what leaves all of them alone;
* `Session.documents_step`, `Session.registry_step`, `Session.stage_step`: nothing else changes
  them, but for tasks that go on.
-/

namespace ProviderHub

/-! ### Documents -/

/-- What may be done to the documents. -/
inductive DocumentEdit where
  | opens (d : TextDocument)
  /-- A new version, with the texts that the changes lead to one after another. -/
  | changes (uri : Url) (version : Int32) (texts : List String)
  | closes (uri : Url)
deriving DecidableEq, Repr

/-- The documents after an edit. -/
def Documents.edited (t : Documents) : DocumentEdit → Documents
  | .opens d => t.openDocument d
  | .changes uri version texts =>
    match texts.getLast? with
    | some text => (t.change uri version text).2
    | none => t
  | .closes uri => (t.close uri).2

/-- The edit that a notification asks for, if its parameters can be read. -/
def Notification.edit? (n : Notification) : Option DocumentEdit :=
  if n.method = Method.didOpen then
    (readParams DidOpenParams n.params).toOption.map fun p => .opens p.textDocument
  else if n.method = Method.didChange then
    (readParams DidChangeParams n.params).toOption.map fun p =>
      .changes p.textDocument.uri p.textDocument.version (p.contentChanges.map (·.text))
  else if n.method = Method.didClose then
    (readParams DocumentParams n.params).toOption.map fun p => .closes p.textDocument.uri
  else none

/-! ### Actions -/

namespace SessionAction

variable {π : Type}

/-- The edit of the documents that an action brings. -/
def edit? : SessionAction π → Option DocumentEdit
  | .message (.notification n) => n.edit?
  | .editDocument uri version text => some (.changes uri version [text])
  | .closeDocument uri => some (.closes uri)
  | _ => none

/-- What an action does to the providers of a feature. -/
def enrollment? (feature : Feature) : SessionAction π → Option (Enrollment π Metadata)
  | .register f selector provider metadata =>
    if f = feature then some (.register selector provider metadata) else none
  | .unregister f id => if f = feature then some (.unregister id) else none
  | _ => none

/-- The answer of a provider to a call. -/
def answer? : SessionAction π → Option (CallId × Option Reply)
  | .answer call reply => some (call, reply)
  | _ => none

/-- Whether an action does none of this, and no job either. -/
def isIdle : SessionAction π → Bool
  | .message (.notification _) | .work _ _ | .answer _ _ | .closeDocument _ | .editDocument _ _ _
  | .register _ _ _ _ | .unregister _ _ => false
  | _ => true

end SessionAction

namespace Session

variable {π : Type} {s s' s'' : Session π} {host : Host π} {t : RequestTask π}

/-! ### What leaves them alone -/

/-- The documents and the providers are the same. Tasks wait for what they did, or are new. -/
structure Quiet (s s' : Session π) : Prop where
  documents_eq : s'.language.documents = s.language.documents
  providers_eq : s'.language.providers = s.language.providers
  stages : ∀ u ∈ s'.tasks,
    (∃ v ∈ s.tasks, v.number = u.number ∧ v.stage = u.stage) ∨ ∃ r, u.stage = .fresh r

/-- The tasks are the same, and so are the documents and the providers. -/
lemma Quiet.of_eq (hdocuments : s'.language.documents = s.language.documents)
    (hproviders : s'.language.providers = s.language.providers) (htasks : s'.tasks = s.tasks) :
    s.Quiet s' :=
  ⟨hdocuments, hproviders, fun u hu => .inl ⟨u, htasks ▸ hu, rfl, rfl⟩⟩

@[refl] lemma Quiet.refl (s : Session π) : s.Quiet s := .of_eq rfl rfl rfl

lemma Quiet.trans (h : s.Quiet s') (h' : s'.Quiet s'') : s.Quiet s'' := by
  refine ⟨h'.documents_eq.trans h.documents_eq, h'.providers_eq.trans h.providers_eq,
    fun u hu => ?_⟩
  rcases h'.stages u hu with ⟨v, hv, hnumber, hstage⟩ | hfresh
  · exact hnumber ▸ hstage ▸ h.stages v hv
  · exact .inr hfresh

lemma Aside.quiet (h : s.Aside s') : s.Quiet s' := by
  obtain ⟨watch, client, finished, rfl⟩ := h
  exact .of_eq rfl rfl rfl

/-- Marks do not change what a task waits for. -/
lemma updateTask_quiet (s : Session π) (number : TaskId) {f : RequestTask π → RequestTask π}
    (hf : ∀ t, t.number = (f t).number ∧ t.stage = (f t).stage) :
    s.Quiet (s.updateTask number f) := by
  refine ⟨rfl, rfl, fun u hu => .inl ?_⟩
  obtain ⟨v, hv, rfl⟩ := List.mem_map.mp hu
  refine ⟨v, hv, ?_⟩
  split
  · exact hf v
  · exact ⟨rfl, rfl⟩

lemma endTask_quiet (s : Session π) (t : RequestTask π) (outcome : Except RpcError Json) :
    s.Quiet (s.endTask t outcome) :=
  ⟨rfl, rfl, fun u hu => .inl ⟨u, List.mem_of_mem_filter hu, rfl, rfl⟩⟩

lemma jobs_quiet (s : Session π) (jobs : List Job) : s.Quiet { s with jobs } := .of_eq rfl rfl rfl

/-- A task that goes on changes neither the documents nor the providers. -/
lemma Pursues.tables (h : Pursues host s t s') :
    s'.language.documents = s.language.documents ∧
      s'.language.providers = s.language.providers := by
  rcases h.language_cases with heq | ⟨query, origin, inquiry, -, -, -, heq⟩
  · rw [heq]
    exact ⟨rfl, rfl⟩
  · rw [heq]
    exact ⟨s.language.finish_documents query origin inquiry.results,
      s.language.finish_providers query origin inquiry.results⟩

lemma openGate_quiet (s : Session π) (gate : GateName) (value : Json) :
    s.Quiet (s.openGate gate value).2 := by
  rw [openGate]
  dsimp only
  split <;> exact .of_eq rfl rfl rfl

lemma handleInitialize_quiet (s : Session π) (params : Option Json) :
    s.Quiet (s.handleInitialize params).2 := by
  rw [handleInitialize]
  split
  · rw [start]
    split
    · rfl
    · have hopened (s : Session π) (options : Json) := s.openGate_quiet .configured options
      dsimp only
      split <;> split <;>
        exact ⟨(hopened _ _).documents_eq, (hopened _ _).providers_eq, (hopened _ _).stages⟩
  · rfl

lemma cancelTask_quiet (s : Session π) (number : TaskId) : s.Quiet (s.cancelTask number) :=
  (s.updateTask_quiet number (f := ({ · with cancelled := true })) fun _ => ⟨rfl, rfl⟩).trans
    (jobs_quiet _ _)

lemma cancelRequest_quiet (s : Session π) (id : RequestId) : s.Quiet (s.cancelRequest id).2 := by
  rw [cancelRequest]
  split
  · exact s.cancelTask_quiet _
  · rfl

lemma foldl_cancelTask_quiet (s : Session π) (requests : List (RequestId × TaskId)) :
    s.Quiet (requests.foldl (fun s (_, number) => s.cancelTask number) s) := by
  induction requests generalizing s with
  | nil => rfl
  | cons request requests ih => exact (s.cancelTask_quiet request.2).trans (ih _)

lemma shutdown_quiet (s : Session π) : s.Quiet s.shutdown := by
  rw [shutdown]
  split
  · rfl
  · have hmarked := s.foldl_cancelTask_quiet s.inFlight
    exact ⟨hmarked.documents_eq, hmarked.providers_eq, hmarked.stages⟩

lemma handleRequest_quiet (s : Session π) (r : Request) : s.Quiet (s.handleRequest r) := by
  have hbegin : s.Quiet (s.beginRequest r.id).2 := .of_eq rfl rfl rfl
  have hrespond (s : Session π) (outcome : Except RpcError Json) :
      s.Quiet (s.respond r.id outcome) :=
    .of_eq rfl rfl rfl
  by_cases hstarts : r.method = Method.initializeRequest
  · rw [handleRequest_of_start hstarts]
    exact hbegin.trans ((handleInitialize_quiet _ _).trans (hrespond _ _))
  by_cases hshutdown : r.method = Method.shutdown
  · rw [handleRequest_of_shutdown hshutdown, handleShutdown]
    split
    · exact hbegin.trans (hrespond _ _)
    · exact hbegin.trans ((shutdown_quiet _).trans (hrespond _ _))
  · rw [handleRequest_of_task hstarts hshutdown]
    refine ⟨rfl, rfl, fun u hu => ?_⟩
    rcases List.mem_append.mp hu with hold | hnew
    · exact .inl ⟨u, hold, rfl, rfl⟩
    · rw [List.mem_singleton.mp hnew]
      exact .inr ⟨r, rfl⟩

/-- A job that lets no task go on. -/
lemma runJob_quiet (s : Session π) (host : Host π) {job : Job}
    (htask : ∀ number, job = .task number → s.tasks.find? (·.number == number) = none) :
    s.Quiet (s.runJob host job) := by
  cases job with
  | task number => rw [runJob, poll, htask number rfl]
  | features =>
      rw [runJob, registerFeatures]
      split <;> exact .of_eq rfl rfl rfl
  | answered a => exact (s.resume_aside a).quiet
  | overdue id =>
      rw [runJob]
      dsimp only
      split
      · have hexpire : s.Quiet { s with client := (s.client.expire id).2 } := .of_eq rfl rfl rfl
        exact hexpire.trans (resume_aside _ _).quiet
      · exact .of_eq rfl rfl rfl
  | sweep feature =>
      rw [runJob]
      split
      · cases feature <;> exact .of_eq rfl rfl rfl
      · rfl
  | flush => exact (s.flush_aside _).quiet

lemma work_quiet (s : Session π) {index : Nat}
    (hpursued : s.pursued? (.work host index) = none) : s.Quiet (s.work host index) := by
  rw [pursued?] at hpursued
  rw [work]
  split
  · rename_i job hjob
    refine (s.jobs_quiet (s.jobs.eraseIdx index)).trans (runJob_quiet _ host fun number heq => ?_)
    rw [hjob, heq] at hpursued
    exact hpursued
  · rfl

lemma giveUp_quiet (s : Session π) (number : TaskId) : s.Quiet (s.giveUp number) := by
  rw [giveUp]
  split
  · split
    · exact s.endTask_quiet _ _
    · rfl
  · rfl

lemma fire_quiet (s : Session π) (timer : SessionTimer) : s.Quiet (s.fire timer) := by
  cases timer with
  | request number =>
      have hmarked := s.updateTask_quiet number (f := ({ · with expired := true }))
        fun _ => ⟨rfl, rfl⟩
      exact hmarked.trans (jobs_quiet _ _)
  | _ => exact .of_eq rfl rfl rfl

/-- **What most actions do**: nothing to documents, providers and inquiries. -/
lemma step_quiet (s : Session π) {action : SessionAction π} (hidle : action.isIdle = true) :
    s.Quiet (s.step action) := by
  cases action with
  | message m =>
      cases m with
      | request r => exact s.handleRequest_quiet r
      | response r => exact .of_eq rfl rfl rfl
      | notification n => cases hidle
  | leave =>
      have hstopped := s.shutdown_quiet
      exact ⟨hstopped.documents_eq, hstopped.providers_eq, hstopped.stages⟩
  | giveUp number => exact s.giveUp_quiet number
  | timeUp timer =>
      rw [step]
      split
      · exact s.fire_quiet timer
      · rfl
  | openGate gate value => exact s.openGate_quiet gate value
  | cancel id => exact s.cancelRequest_quiet id
  | request name method params => exact (s.request_aside name method params).quiet
  | flush onDisk => exact (s.flush_aside onDisk).quiet
  | work | answer | closeDocument | editDocument | register | unregister => cases hidle
  | _ => exact .of_eq rfl rfl rfl

/-- A job of a task looks at what the task has come to. -/
lemma work_eq_poll {index : Nat} (hpursued : s.pursued? (.work host index) = some t) :
    s.work host index = { s with jobs := s.jobs.eraseIdx index }.poll host t.number ∧
      s.tasks.find? (·.number == t.number) = some t := by
  rw [pursued?] at hpursued
  rw [work]
  split at hpursued
  · rename_i number hjob
    rw [hjob]
    obtain rfl : t.number = number := beq_iff_eq.mp (List.find?_some hpursued :)
    exact ⟨rfl, hpursued⟩
  · cases hpursued

/-- A task goes on by its job. -/
lemma work_pursues {index : Nat} (hpursued : s.pursued? (.work host index) = some t) :
    Pursues host { s with jobs := s.jobs.eraseIdx index } t (s.work host index) := by
  obtain ⟨heq, hfind⟩ := work_eq_poll hpursued
  exact heq ▸ poll_pursues hfind

/-- A job changes neither the documents nor the providers. -/
lemma work_tables (s : Session π) (host : Host π) (index : Nat) :
    (s.work host index).language.documents = s.language.documents ∧
      (s.work host index).language.providers = s.language.providers := by
  cases hpursued : s.pursued? (.work host index) with
  | none => exact ⟨(s.work_quiet hpursued).documents_eq, (s.work_quiet hpursued).providers_eq⟩
  | some t => exact (work_pursues hpursued).tables

/-! ### What changes the documents -/

/-- **A notification changes the documents as its edit says**, and not at all if it brings none. -/
lemma handleNotification_documents (s : Session π) (n : Notification) :
    (s.handleNotification n).2.language.documents =
      n.edit?.elim s.language.documents s.language.documents.edited := by
  have hother (hopens : n.method ≠ Method.didOpen) (hchanges : n.method ≠ Method.didChange)
      (hcloses : n.method ≠ Method.didClose) : n.edit? = none := by
    rw [Notification.edit?, if_neg hopens, if_neg hchanges, if_neg hcloses]
  rw [handleNotification]
  split
  · rename_i hexit
    rw [hother (by rw [hexit]; decide) (by rw [hexit]; decide) (by rw [hexit]; decide)]
    rfl
  dsimp only
  split
  · rename_i hinitialized
    rw [hother (by rw [hinitialized]; decide) (by rw [hinitialized]; decide)
      (by rw [hinitialized]; decide)]
    exact (s.openGate_quiet _ _).documents_eq
  split
  · rename_i hcancel
    rw [hother (by rw [hcancel]; decide) (by rw [hcancel]; decide) (by rw [hcancel]; decide),
      notified]
    split
    · exact (s.cancelRequest_quiet _).documents_eq
    · rfl
  rw [Notification.edit?]
  split
  · rw [notified]
    cases readParams DidOpenParams n.params <;> rfl
  split
  · rw [notified]
    cases readParams DidChangeParams n.params with
    | error e => rfl
    | ok p =>
        show (s.changeDocument p).language.documents =
          s.language.documents.edited
            (.changes p.textDocument.uri p.textDocument.version (p.contentChanges.map (·.text)))
        rw [changeDocument, Documents.edited, List.getLast?_map]
        cases p.contentChanges.getLast? <;> rfl
  split
  · rw [notified]
    cases readParams DocumentParams n.params <;> rfl
  split
  · rw [notified]
    split <;> rfl
  · rfl

/-- **What an action does to the documents**: its edit, if it brings one. -/
lemma documents_step (s : Session π) (action : SessionAction π) :
    (s.step action).language.documents =
      action.edit?.elim s.language.documents s.language.documents.edited := by
  cases action with
  | message m =>
      cases m with
      | notification n => exact s.handleNotification_documents n
      | _ => exact (s.step_quiet rfl).documents_eq
  | work host index => exact (s.work_tables host index).1
  | closeDocument | editDocument | register | unregister | answer => rfl
  | _ => exact (s.step_quiet rfl).documents_eq

/-! ### What changes the providers -/

lemma Quiet.registry_eq (h : s.Quiet s') (feature : Feature) :
    s'.language.providers.registry feature = s.language.providers.registry feature := by
  rw [h.providers_eq]

/-- No notification changes the providers. -/
lemma Heeds.providers_eq {n : Notification} (h : s.Heeds n s') :
    s'.language.providers = s.language.providers := by
  cases h with
  | initialized => exact (s.openGate_quiet _ _).providers_eq
  | cancel id => exact (s.cancelRequest_quiet id).providers_eq
  | _ => rfl

lemma registry_set (p : Providers π) (f : Feature) (r : Registry π Metadata) (feature : Feature) :
    (p.set f r).registry feature = if f = feature then r else p.registry feature :=
  if_congr eq_comm rfl rfl

/-- **What an action does to the providers of a feature**: it registers or removes one, or
nothing. -/
lemma registry_step (s : Session π) (action : SessionAction π) (feature : Feature) :
    (s.step action).language.providers.registry feature =
      (action.enrollment? feature).elim (s.language.providers.registry feature)
        (s.language.providers.registry feature).enrolled := by
  cases action with
  | message m =>
      cases m with
      | notification n =>
          exact congrFun (congrArg Providers.registry
            (s.handleNotification_heeds n).providers_eq) feature
      | _ => exact (s.step_quiet rfl).registry_eq feature
  | work host index =>
      exact congrFun (congrArg Providers.registry (s.work_tables host index).2) feature
  | register f | unregister f =>
      refine (registry_set s.language.providers f _ feature).trans ?_
      rw [SessionAction.enrollment?]
      split
      · rename_i hf
        subst hf
        rfl
      · rfl
  | closeDocument | editDocument | answer => rfl
  | _ => exact (s.step_quiet rfl).registry_eq feature

/-! ### What changes the inquiries -/

/-- What a task waits for when a provider has answered. -/
def heard (stage : Stage π) : Option (CallId × Option Reply) → Stage π
  | some (call, reply) =>
    match stage with
    | .asking query origin inquiry => .asking query origin (inquiry.answer call reply)
    | stage => stage
  | none => stage

lemma Heeds.stages {n : Notification} (h : s.Heeds n s') : ∀ u ∈ s'.tasks,
    (∃ v ∈ s.tasks, v.number = u.number ∧ v.stage = u.stage) ∨ ∃ r, u.stage = .fresh r := by
  cases h with
  | initialized => exact (s.openGate_quiet _ _).stages
  | cancel id => exact (s.cancelRequest_quiet id).stages
  | _ => exact fun u hu => .inl ⟨u, hu, rfl, rfl⟩

/-- **What a task waits for** when no task goes on by a job: the same as before, but for the answer
of a provider, or nothing yet. -/
lemma stage_step (s : Session π) {action : SessionAction π}
    (hwork : ∀ host index, action = .work host index → s.pursued? action = none)
    {u : RequestTask π} (hu : u ∈ (s.step action).tasks) :
    (∃ v ∈ s.tasks, v.number = u.number ∧ heard v.stage action.answer? = u.stage) ∨
      ∃ r, u.stage = .fresh r := by
  cases action with
  | message m =>
      cases m with
      | notification n => exact (s.handleNotification_heeds n).stages u hu
      | _ => exact (s.step_quiet rfl).stages u hu
  | work host index => exact (s.work_quiet (hwork host index rfl)).stages u hu
  | answer call reply =>
      obtain ⟨v, hv, rfl⟩ := List.mem_map.mp hu
      refine .inl ⟨v, hv, ?_⟩
      rw [SessionAction.answer?]
      split
      · rename_i hstage
        rw [hstage]
        exact ⟨rfl, rfl⟩
      · rename_i hnot
        rw [heard]
        · exact ⟨rfl, rfl⟩
        · exact hnot
  | closeDocument | editDocument | register | unregister => exact .inl ⟨u, hu, rfl, rfl⟩
  | _ => exact (s.step_quiet rfl).stages u hu

end Session

end ProviderHub
