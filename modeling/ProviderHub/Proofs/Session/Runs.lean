import Mathlib.Tactic
import ProviderHub.Proofs.Session.Exchanges
import ProviderHub.Server
import ProviderHub.Session.Host

/-!
Runs of a session.

Messages arrive, providers answer, timers end and the program around the session acts, in any order;
jobs that wait are done in any order too. A task that is cancelled may be given up even if it could
go on.

* `SessionAction`, `Session.step`, `Session.run`: what can happen, and what comes of it;
* `Session.Pursues`, `Session.Heeds`: all that a task can do when it goes on, and a notification;
* `Session.Plain`: what all other steps leave alone;
* `Session.step_cases`: each step is plain, brings a task, or lets one go on.
-/

namespace ProviderHub

/-- What can happen to a session. -/
inductive SessionAction (π : Type) where
  /-- A message of the client arrives. -/
  | message (m : Message)
  /-- Something arrives that is no message. -/
  | garbage
  /-- The connection ends. -/
  | leave
  /-- One of the jobs is done that wait. -/
  | work (host : Host π) (index : Nat)
  /-- A cancelled task is given up, whatever its providers have answered. -/
  | giveUp (number : TaskId)
  /-- A provider answers, or fails. -/
  | answer (call : CallId) (reply : Option Reply)
  /-- A timer ends that runs. -/
  | timeUp (timer : Session.SessionTimer)
  | openGate (gate : GateName) (value : Json)
  | register (feature : Feature) (selector : Selector) (provider : π) (metadata : Metadata)
  | unregister (feature : Feature) (id : ProviderId)
  | registerCommand (id : String) (handler : π)
  | unregisterCommand (id : String)
  | closeDocument (uri : Url)
  | editDocument (uri : Url) (version : Int32) (text : String)
  | cancel (id : RequestId)
  | notify (method : String) (params : Option Json)
  | request (name method : String) (params : Option Json)
  | addWatcher (pattern : WatchPattern) (kind : WatchKind)
  | disposeWatcher (id : WatcherId)
  | fetchEvents (id : WatcherId) (count : Nat)
  | flush (onDisk : Url → Bool)

/-! ### The last move of a query -/

namespace Language

variable {π : Type} (l : Language π) (query : Query) (origin : Option Token)
  (results : List (ProviderId × Reply))

lemma finish_documents : (l.finish query origin results).2.documents = l.documents := by
  cases query with
  | document uri query => cases query <;> rfl
  | _ => rfl

lemma finish_providers : (l.finish query origin results).2.providers = l.providers := by
  cases query with
  | document uri query => cases query <;> rfl
  | _ => rfl

end Language

/-! ### Steps and runs -/

namespace Session

variable {π : Type}

/-- Does one of the jobs that wait. -/
def work (host : Host π) (s : Session π) (index : Nat) : Session π :=
  match s.jobs[index]? with
  | some job => { s with jobs := s.jobs.eraseIdx index }.runJob host job
  | none => s

/-- Gives a task up that has been cancelled. -/
def giveUp (s : Session π) (number : TaskId) : Session π :=
  match s.tasks.find? (·.number == number) with
  | some t => if t.cancelled then s.endTask t (.error RouteError.cancelled.toRpc) else s
  | none => s

/-- The state after one more action. -/
def step (s : Session π) : SessionAction π → Session π
  | .message m => (s.handle m).2
  | .garbage => s.send (encode (Response.failure none .parseError))
  | .leave => ({ session := s : Server π }.leave (.left false)).session
  | .work host index => s.work host index
  | .giveUp number => s.giveUp number
  | .answer call reply => s.answer call reply
  | .timeUp timer => if s.timers.any (·.1 = timer) then s.fire timer else s
  | .openGate gate value => (s.openGate gate value).2
  | .register feature selector provider metadata =>
    (s.registerProvider feature selector provider metadata).2
  | .unregister feature id => (s.unregisterProvider feature id).2
  | .registerCommand id handler => s.registerCommand id handler
  | .unregisterCommand id => (s.unregisterCommand id).2
  | .closeDocument uri => (s.closeDocument uri).2
  | .editDocument uri version text => (s.editDocument uri version text).2
  | .cancel id => (s.cancelRequest id).2
  | .notify method params => (s.notify method params).2
  | .request name method params => s.request name method params
  | .addWatcher pattern kind => { s with watch := (s.watch.add pattern kind).2 }
  | .disposeWatcher id => { s with watch := s.watch.dispose id }
  | .fetchEvents id count => { s with watch := (s.watch.fetch id count).2 }
  | .flush onDisk => s.flush onDisk

/-- The state after a run. -/
def run (settings : Settings) (actions : List (SessionAction π)) : Session π :=
  actions.foldl step (ofSettings settings)

lemma run_append (settings : Settings) (actions : List (SessionAction π))
    (action : SessionAction π) :
    run settings (actions ++ [action]) = (run settings actions).step action := by
  rw [run, List.foldl_append]
  rfl

end Session

/-- What an action makes of the language features while no query is under way. -/
def Language.after {π : Type} (l : Language π) (action : LanguageAction π) : Language π :=
  (LanguageHistory.step { language := l } action).language

/-- A gate that is open stays as it is. -/
lemma Startup.openGate_eq {s : Startup} {gate : GateName} {value : Json}
    (h : (s.openGate gate value).1 = false) : (s.openGate gate value).2 = s := by
  cases gate <;> rw [openGate] at h ⊢ <;> dsimp only [Gate.openWith] at h ⊢ <;> split at h <;>
    simp_all

/-- A task without what providers have answered, and without its marks. -/
def RequestTask.outline {π : Type} (t : RequestTask π) : RequestTask π :=
  { t with
    stage := match t.stage with
      | .asking query origin inquiry =>
        .asking query origin { inquiry with calls := inquiry.calls.map ({ · with answer := none }) }
      | stage => stage
    cancelled := false
    expired := false }

namespace Session

variable {π : Type} {s s' s'' : Session π} {host : Host π} {t : RequestTask π} {number : TaskId}

/-! ### Tasks that go on -/

/-- The query of a task that has not been put to anyone. -/
def unasked? (s : Session π) (t : RequestTask π) : Option Query :=
  match t.stage with
  | .fresh r =>
    match s.refusal? with
    | some _ => none
    | none => (Query.read r.method r.params).toOption
  | .gated query => some query
  | .asking _ _ _ => none

/-- A question is put to providers. -/
def ask (s : Session π) (question : Question) (asked : List (Asked π)) : Session π :=
  { s with
    nextCall := s.nextCall + asked.length
    asked := s.asked ++ asked.map fun a => (a.handle, question) }

/-- A task waits for providers: it has put its question to them before, or it does so now. -/
inductive Consults (host : Host π) (s : Session π) (t : RequestTask π) :
    Query → Option Token → Inquiry π → Session π → Prop
  | before {query : Query} {origin : Option Token} {inquiry : Inquiry π} :
      t.stage = .asking query origin inquiry → Consults host s t query origin inquiry s
  | now {query : Query} {question : Question} {origin : Option Token} {asked : List (Asked π)} :
      s.unasked? t = some query → s.language.start query = .ask question origin asked →
      Consults host s t query origin (Inquiry.start host.atOnce s.nextCall question asked)
        (s.ask question asked)

/-- **All that a task can do when it goes on**: it ends without having asked anyone, or it waits for
the gates, or it waits for providers, unless it is cancelled or its time is over, or all of its
providers have answered. -/
inductive Pursues (host : Host π) (s : Session π) (t : RequestTask π) : Session π → Prop
  | refused (e : RpcError) : Pursues host s t (s.endTask t (.error e))
  | replied {query : Query} {v : Json} :
      s.unasked? t = some query → s.language.start query = .done (.ok v) →
      Pursues host s t (s.endTask t (.ok v))
  | gated {query : Query} :
      s.unasked? t = some query → s.language.start query = .waiting →
      Pursues host s t (s.updateTask t.number ({ · with stage := .gated query }))
  | dropped {query : Query} {origin : Option Token} {inquiry : Inquiry π} {s' : Session π}
      (e : RpcError) :
      Consults host s t query origin inquiry s' → Pursues host s t (s'.endTask t (.error e))
  | asking {query : Query} {origin : Option Token} {inquiry : Inquiry π} {s' : Session π} :
      Consults host s t query origin inquiry s' →
      Pursues host s t (s'.updateTask t.number ({ · with stage := .asking query origin inquiry }))
  | finished {query : Query} {origin : Option Token} {inquiry : Inquiry π} {s' : Session π} :
      Consults host s t query origin inquiry s' → inquiry.isDone = true →
      Pursues host s t
        ({ s' with language := (s.language.finish query origin inquiry.results).2 }.endTask t
          (.ok (s.language.finish query origin inquiry.results).1))

lemma Consults.language_eq {query : Query} {origin : Option Token} {inquiry : Inquiry π}
    (h : Consults host s t query origin inquiry s') : s'.language = s.language := by
  cases h <;> rfl

lemma await_pursues {query : Query} {origin : Option Token} {inquiry : Inquiry π}
    (h : Consults host s t query origin inquiry s') :
    Pursues host s t (s'.await t query origin inquiry) := by
  rw [await]
  split
  · rename_i hdone
    rw [h.language_eq]
    exact .finished h hdone
  · rw [wait]
    split
    · exact .dropped _ h
    · split
      · exact .dropped _ h
      · exact .asking h

lemma begin_pursues {query : Query} (h : s.unasked? t = some query) :
    Pursues host s t (s.begin host t query) := by
  rw [begin]
  split
  · rename_i hstart
    rw [wait]
    split
    · exact .refused _
    · split
      · exact .refused _
      · exact .gated h hstart
  · rename_i outcome hstart
    cases outcome with
    | error e => exact .refused e.toRpc
    | ok v => exact .replied h hstart
  · rename_i hstart
    exact await_pursues (.now h hstart)

/-- A task that is polled does one of these things. -/
lemma poll_pursues (hfind : s.tasks.find? (·.number == number) = some t) :
    Pursues host s t (s.poll host number) := by
  rw [poll, hfind]
  dsimp only
  split
  · rename_i request hstage
    rw [examine]
    split
    · exact .refused _
    · rename_i hrefusal
      split
      · rename_i query hread
        refine begin_pursues ?_
        rw [unasked?, hstage]
        dsimp only
        rw [hrefusal, hread]
        rfl
      · exact .refused _
  · rename_i query hstage
    refine begin_pursues ?_
    rw [unasked?, hstage]
  · rename_i hstage
    exact await_pursues (.before hstage)

/-! ### Steps that let no task go on -/

/-- Whoever waits for the gates has been called when they are open. -/
structure Called (s : Session π) : Prop where
  tasks : ∀ t ∈ s.tasks, isGated t = true → s.language.startup.isReady = true →
    Job.task t.number ∈ s.jobs
  features : s.features = .waiting → s.language.startup.isReady = true → Job.features ∈ s.jobs

/-- **A plain step**: providers may answer and tasks may be marked, but none comes, goes or moves
on, and no question is put to anyone. The language features change only by actions other than those
of queries. -/
structure Plain (s s' : Session π) : Prop where
  changes : ∃ actions : List (LanguageAction π), s'.language = actions.foldl .after s.language
  outline_eq : s'.tasks.map RequestTask.outline = s.tasks.map RequestTask.outline
  asked_eq : s'.asked = s.asked
  nextTask_le : s.nextTask ≤ s'.nextTask
  called : s.Called → s'.Called

@[refl] lemma Plain.refl (s : Session π) : s.Plain s := ⟨⟨[], rfl⟩, rfl, rfl, le_refl _, id⟩

lemma Plain.trans (h : s.Plain s') (h' : s'.Plain s'') : s.Plain s'' := by
  obtain ⟨actions, hlanguage⟩ := h.changes
  obtain ⟨actions', hlanguage'⟩ := h'.changes
  refine ⟨⟨actions ++ actions', ?_⟩, h'.outline_eq.trans h.outline_eq,
    h'.asked_eq.trans h.asked_eq, h.nextTask_le.trans h'.nextTask_le, h'.called ∘ h.called⟩
  rw [hlanguage', hlanguage, List.foldl_append]

/-- Nothing is different but what goes to the client and the state of watching. -/
def Aside (s s' : Session π) : Prop :=
  ∃ watch client finished, s' = { s with watch, client, finished }

lemma Aside.trans (h : s.Aside s') (h' : s'.Aside s'') : s.Aside s'' := by
  obtain ⟨watch, client, finished, rfl⟩ := h
  obtain ⟨watch', client', finished', rfl⟩ := h'
  exact ⟨watch', client', finished', rfl⟩

lemma Aside.plain (h : s.Aside s') : s.Plain s' := by
  obtain ⟨watch, client, finished, rfl⟩ := h
  exact ⟨⟨[], rfl⟩, rfl, rfl, le_refl _, fun hc => ⟨hc.tasks, hc.features⟩⟩

lemma send_aside (s : Session π) (message : Json) : s.Aside (s.send message) := ⟨_, _, _, rfl⟩

lemma submitLast_aside (s : Session π) (flush : FlushId) (call : RegistrarCall) :
    s.Aside (s.submitLast flush call) := by
  rw [submitLast]
  dsimp only
  split <;> exact ⟨_, _, _, rfl⟩

lemma flushAnswered_aside (s : Session π) (flush : FlushId) (accepted : Bool) :
    s.Aside (s.flushAnswered flush accepted) := by
  rw [flushAnswered]
  dsimp only
  split
  · exact Aside.trans ⟨_, _, _, rfl⟩ (submitLast_aside _ flush _)
  · exact ⟨_, _, _, rfl⟩

lemma submit_aside (s : Session π) (flush : FlushId) (call : RegistrarCall) :
    s.Aside (s.submit flush call) := by
  rw [submit]
  dsimp only
  split
  · exact ⟨_, _, _, rfl⟩
  · exact Aside.trans ⟨_, _, _, rfl⟩ (flushAnswered_aside _ flush false)

lemma flush_aside (s : Session π) (onDisk : Url → Bool) : s.Aside (s.flush onDisk) := by
  rw [flush]
  dsimp only
  split
  · exact Aside.trans ⟨_, _, _, rfl⟩ (submit_aside _ _ _)
  · exact ⟨_, _, _, rfl⟩

lemma resume_aside (s : Session π) (answered : Answered Waiter) : s.Aside (s.resume answered) := by
  rw [resume]
  split
  · exact ⟨_, _, _, rfl⟩
  · exact ⟨_, _, _, rfl⟩
  · exact s.flushAnswered_aside _ _

lemma request_aside (s : Session π) (name method : String) (params : Option Json) :
    s.Aside (s.request name method params) := by
  rw [request]
  dsimp only
  split <;> exact ⟨_, _, _, rfl⟩

/-- More jobs do no harm. -/
lemma plain_jobs (s : Session π) (jobs : List Job) : s.Plain { s with jobs := s.jobs ++ jobs } :=
  ⟨⟨[], rfl⟩, rfl, rfl, le_refl _, fun hc =>
    ⟨fun t ht hgated hready => List.mem_append_left _ (hc.tasks t ht hgated hready),
      fun hwaiting hready => List.mem_append_left _ (hc.features hwaiting hready)⟩⟩

lemma isGated_outline (t : RequestTask π) : isGated t.outline = isGated t := by
  rw [isGated, isGated, RequestTask.outline]
  cases t.stage <;> rfl

/-- Marks and answers on tasks do no harm. -/
lemma plain_tasks (s : Session π) (tasks : List (RequestTask π))
    (h : tasks.map RequestTask.outline = s.tasks.map RequestTask.outline) :
    s.Plain { s with tasks } := by
  refine ⟨⟨[], rfl⟩, h, rfl, le_refl _, fun hc => ⟨fun t ht hgated hready => ?_, hc.features⟩⟩
  have hmem : t.outline ∈ s.tasks.map RequestTask.outline := h ▸ List.mem_map_of_mem ht
  obtain ⟨u, hu, heq⟩ := List.mem_map.mp hmem
  have hnumber : t.number = u.number := by
    show t.outline.number = u.outline.number
    rw [heq]
  rw [hnumber]
  refine hc.tasks u hu ?_ hready
  rw [← isGated_outline, heq, isGated_outline, hgated]

lemma updateTask_plain (s : Session π) (number : TaskId) {f : RequestTask π → RequestTask π}
    (hf : ∀ t, (f t).outline = t.outline) : s.Plain (s.updateTask number f) := by
  refine s.plain_tasks _ ?_
  rw [List.map_map]
  refine List.map_congr_left fun t _ => ?_
  rw [Function.comp_apply]
  split
  · exact hf t
  · rfl

lemma cancelTask_plain (s : Session π) (number : TaskId) : s.Plain (s.cancelTask number) :=
  (s.updateTask_plain number (f := ({ · with cancelled := true })) fun _ => rfl).trans
    (plain_jobs _ [.task number])

lemma cancelRequest_plain (s : Session π) (id : RequestId) : s.Plain (s.cancelRequest id).2 := by
  rw [cancelRequest]
  split
  · exact s.cancelTask_plain _
  · rfl

lemma answer_plain (s : Session π) (call : CallId) (reply : Option Reply) :
    s.Plain (s.answer call reply) := by
  suffices htasks : s.Plain { s with tasks := (s.answer call reply).tasks } from
    htasks.trans (plain_jobs _ _)
  refine s.plain_tasks _ ?_
  rw [answer, List.map_map]
  refine List.map_congr_left fun t _ => ?_
  rw [Function.comp_apply]
  split
  · rename_i query origin inquiry hstage
    rw [RequestTask.outline, RequestTask.outline, hstage]
    dsimp only
    rw [Inquiry.answer, List.map_map]
    congr 3
    refine List.map_congr_left fun c _ => ?_
    rw [Function.comp_apply]
    split <;> rfl
  · rfl

/-- The language features change while the gates stay as they are. -/
lemma plain_language (s : Session π) {language : Language π} (action : LanguageAction π)
    (h : language = s.language.after action) (hstartup : language.startup = s.language.startup) :
    s.Plain { s with language } := by
  refine ⟨⟨[action], h⟩, rfl, rfl, le_refl _, fun hc => ⟨?_, ?_⟩⟩
  · rw [hstartup]
    exact hc.tasks
  · rw [hstartup]
    exact hc.features

lemma openGate_plain (s : Session π) (gate : GateName) (value : Json) :
    s.Plain (s.openGate gate value).2 := by
  rw [openGate]
  dsimp only
  split
  · refine ⟨⟨[.openGate gate value], rfl⟩, rfl, rfl, le_refl _, fun _ => ⟨?_, ?_⟩⟩
    · intro t ht hgated _
      refine List.mem_append_left _ (List.mem_append_right _ ?_)
      exact List.mem_map.mpr ⟨t, List.mem_filter.mpr ⟨ht, hgated⟩, rfl⟩
    · intro hwaiting _
      refine List.mem_append_right _ ?_
      rw [if_pos hwaiting]
      exact List.mem_singleton_self _
  · rename_i hclosed
    refine s.plain_language (.openGate gate value) rfl ?_
    exact Startup.openGate_eq (Bool.not_eq_true _ ▸ hclosed)

/-! ### Start and end -/

lemma handleInitialize_plain (s : Session π) (params : Option Json) :
    s.Plain (s.handleInitialize params).2 := by
  rw [handleInitialize]
  split
  · rename_i p _
    rw [start]
    split
    · rfl
    · -- the limits are set, watching may begin, a gate opens, and features may have to wait on
      have hlimits : s.Plain { s with
          initializeReceived := true
          language := { s.language with
            limits := (s.settings.lowerLimit (p.initializationOptions.getD .null)).completion } } :=
        ⟨⟨[.setLimits _], rfl⟩, rfl, rfl, le_refl _, fun hc => ⟨hc.tasks, hc.features⟩⟩
      have hwatch (s : Session π) :
          s.Plain (if p.dynamicWatchers then { s with watch := s.watch.enable } else s) := by
        split
        · exact Aside.plain ⟨_, _, _, rfl⟩
        · rfl
      have hfeatures (s : Session π) : s.Plain (if p.dynamicFeatures then
          { s with features := .waiting, jobs := s.jobs ++ [.features] } else s) := by
        split
        · refine ⟨⟨[], rfl⟩, rfl, rfl, le_refl _, fun hc => ⟨?_, fun _ _ => ?_⟩⟩
          · exact (s.plain_jobs [.features]).called hc |>.tasks
          · exact List.mem_append_right _ (List.mem_singleton_self _)
        · rfl
      exact hlimits.trans ((hwatch _).trans ((openGate_plain _ _ _).trans (hfeatures _)))
  · rfl

lemma foldl_cancelTask_plain (s : Session π) (requests : List (RequestId × TaskId)) :
    s.Plain (requests.foldl (fun s (_, number) => s.cancelTask number) s) := by
  induction requests generalizing s with
  | nil => rfl
  | cons request requests ih => exact (s.cancelTask_plain request.2).trans (ih _)

lemma shutdown_plain (s : Session π) : s.Plain s.shutdown := by
  rw [shutdown]
  split
  · rfl
  · refine (s.foldl_cancelTask_plain s.inFlight).trans ?_
    refine ⟨⟨[.shutdown], rfl⟩, rfl, rfl, le_refl _, fun hc => ⟨hc.tasks, fun hwaiting => ?_⟩⟩
    dsimp only at hwaiting
    split at hwaiting <;> cases hwaiting

lemma handleShutdown_plain (s : Session π) : s.Plain s.handleShutdown.2 := by
  rw [handleShutdown]
  split
  · rfl
  · exact s.shutdown_plain

lemma leave_plain (s : Session π) :
    s.Plain ({ session := s : Server π }.leave (.left false)).session := by
  have hclosed : s.shutdown.Plain { s.shutdown with client := s.shutdown.client.close.2 } :=
    Aside.plain ⟨_, _, _, rfl⟩
  exact s.shutdown_plain.trans (hclosed.trans (plain_jobs _ _))

/-! ### Messages -/

/-- **All that a notification can do**: it opens a gate, cancels a request, changes the documents,
or hands changed files to the watchers; one that is not known, or cannot be read, does nothing. -/
inductive Heeds (s : Session π) (n : Notification) : Session π → Prop
  | nothing : Heeds s n s
  | initialized :
      n.method = Method.initialized → Heeds s n (s.openGate .initialized .null).2
  | cancel (id : RequestId) : Heeds s n (s.cancelRequest id).2
  | opens (d : TextDocument) :
      Heeds s n { s with language :=
        { s.language with documents := s.language.documents.openDocument d } }
  | changes (uri : Url) (version : Int32) (text : String) :
      Heeds s n { s with language :=
        { s.language with documents := (s.language.documents.change uri version text).2 } }
  | closes {p : DocumentParams} :
      n.method = Method.didClose → readParams DocumentParams n.params = .ok p →
      Heeds s n { s with language := (s.language.close p.textDocument.uri).2 }
  | watches (changes : List FileEvent) : Heeds s n { s with watch := (s.watch.dispatch changes).2 }

lemma handleNotification_heeds (s : Session π) (n : Notification) :
    s.Heeds n (s.handleNotification n).2 := by
  have hnotified {α : Type} [Params α] {f : α → Session π}
      (hf : ∀ p, readParams α n.params = .ok p → s.Heeds n (f p)) :
      s.Heeds n (s.notified n.params f) := by
    rw [notified]
    split
    · exact hf _ ‹_›
    · exact .nothing
  rw [handleNotification]
  split
  · exact .nothing
  dsimp only
  split
  · exact .initialized ‹_›
  split
  · exact hnotified fun p _ => .cancel p.id
  split
  · exact hnotified fun p _ => .opens p.textDocument
  split
  · refine hnotified fun p _ => ?_
    rw [changeDocument]
    split
    · exact .changes _ _ _
    · exact .nothing
  split
  · rename_i hmethod
    exact hnotified fun p hparams => .closes hmethod hparams
  split
  · exact hnotified fun p _ => .watches p.changes
  · exact .nothing

lemma Heeds.plain {n : Notification} (h : s.Heeds n s') : s.Plain s' := by
  cases h with
  | nothing => rfl
  | initialized => exact s.openGate_plain _ _
  | cancel id => exact s.cancelRequest_plain id
  | opens d => exact s.plain_language (.openDocument d) rfl rfl
  | changes uri version text => exact s.plain_language (.changeDocument uri version text) rfl rfl
  | @closes p _ _ => exact s.plain_language (.closeDocument p.textDocument.uri) rfl rfl
  | watches changes => exact Aside.plain ⟨_, _, _, rfl⟩

/-- A task comes in: it has a new number, and it has not been looked at. -/
structure Brings (s s' : Session π) : Prop where
  language_eq : s'.language = s.language
  tasks_eq : ∃ r, s'.tasks = s.tasks ++ [⟨s.nextTask, r.id, .fresh r, false, false⟩]
  asked_eq : s'.asked = s.asked
  nextTask_eq : s'.nextTask = s.nextTask + 1
  called : s.Called → s'.Called

lemma beginRequest_plain (s : Session π) (id : RequestId) : s.Plain (s.beginRequest id).2 :=
  ⟨⟨[], rfl⟩, rfl, rfl, Nat.le_succ _, fun hc => ⟨hc.tasks, hc.features⟩⟩

lemma respond_plain (s : Session π) (id : RequestId) (outcome : Except RpcError Json) :
    s.Plain (s.respond id outcome) :=
  ⟨⟨[], rfl⟩, rfl, rfl, le_refl _, fun hc => ⟨hc.tasks, hc.features⟩⟩

lemma handleRequest_cases (s : Session π) (r : Request) :
    s.Plain (s.handleRequest r) ∨ s.Brings (s.handleRequest r) := by
  have hbegin := s.beginRequest_plain r.id
  rw [handleRequest]
  dsimp only
  split
  · exact .inl (hbegin.trans ((handleInitialize_plain _ _).trans (respond_plain _ _ _)))
  · split
    · exact .inl (hbegin.trans ((handleShutdown_plain _).trans (respond_plain _ _ _)))
    · refine .inr ⟨rfl, ⟨r, rfl⟩, rfl, rfl, fun hc => ⟨fun t ht hgated hready => ?_, ?_⟩⟩
      · rcases List.mem_append.mp ht with hold | hnew
        · exact List.mem_append_left _ (hc.tasks t hold hgated hready)
        · rw [List.mem_singleton.mp hnew] at hgated
          cases hgated
      · exact fun hwaiting hready => List.mem_append_left _ (hc.features hwaiting hready)

lemma receive_plain (s : Session π) (response : Response) : s.Plain (s.receive response) := by
  have hclient : s.Plain { s with client := (s.client.receive response).2 } :=
    Aside.plain ⟨_, _, _, rfl⟩
  exact hclient.trans (plain_jobs _ _)

lemma handle_cases (s : Session π) (m : Message) :
    s.Plain (s.handle m).2 ∨ s.Brings (s.handle m).2 := by
  cases m with
  | request r => exact s.handleRequest_cases r
  | response r => exact .inl (s.receive_plain r)
  | notification n => exact .inl (s.handleNotification_heeds n).plain

lemma fire_plain (s : Session π) (timer : SessionTimer) : s.Plain (s.fire timer) := by
  cases timer with
  | request number =>
      exact (s.updateTask_plain number (f := ({ · with expired := true })) fun _ => rfl).trans
        (plain_jobs _ [.task number])
  | _ => exact s.plain_jobs _

/-! ### Jobs -/

/-- The other jobs are still there when one is done. -/
lemma mem_eraseIdx_jobs {index : Nat} {job other : Job} (hjob : s.jobs[index]? = some job)
    (hother : other ∈ s.jobs) (hne : job ≠ other) : other ∈ s.jobs.eraseIdx index := by
  obtain ⟨i, hi⟩ := List.mem_iff_getElem?.mp hother
  refine List.mem_eraseIdx_iff_getElem?.mpr ⟨i, fun heq => hne ?_, hi⟩
  rw [heq, hjob] at hi
  exact Option.some_inj.mp hi

/-- A job that is done is not needed any more, unless someone still waits to be called. -/
lemma plain_eraseIdx {index : Nat} {job : Job} (hjob : s.jobs[index]? = some job)
    (htasks : ∀ t ∈ s.tasks, isGated t = true → s.language.startup.isReady = true →
      job ≠ .task t.number)
    (hfeatures : s.features = .waiting → s.language.startup.isReady = true → job ≠ .features) :
    s.Plain { s with jobs := s.jobs.eraseIdx index } :=
  ⟨⟨[], rfl⟩, rfl, rfl, le_refl _, fun hc =>
    ⟨fun t ht hgated hready =>
        mem_eraseIdx_jobs hjob (hc.tasks t ht hgated hready) (htasks t ht hgated hready),
      fun hwaiting hready =>
        mem_eraseIdx_jobs hjob (hc.features hwaiting hready) (hfeatures hwaiting hready)⟩⟩

lemma registerFeatures_plain {index : Nat} (hjob : s.jobs[index]? = some .features) :
    s.Plain { s with jobs := s.jobs.eraseIdx index }.registerFeatures := by
  rw [registerFeatures]
  split
  · have hrequested (client : Client Waiter) :
        s.Plain { s with client, features := .requested } :=
      ⟨⟨[], rfl⟩, rfl, rfl, le_refl _, fun hc => ⟨hc.tasks, nofun⟩⟩
    exact (hrequested _).trans (plain_eraseIdx hjob (fun _ _ _ _ => nofun) nofun)
  · rename_i hwait
    exact plain_eraseIdx hjob (fun _ _ _ _ => nofun) fun hwaiting hready _ =>
      hwait ⟨hwaiting, hready⟩

lemma runJob_plain {index : Nat} {job : Job} (hjob : s.jobs[index]? = some job)
    (htask : ∀ number, job = .task number → s.tasks.find? (·.number == number) = none) :
    s.Plain ({ s with jobs := s.jobs.eraseIdx index }.runJob host job) := by
  cases job with
  | features => exact registerFeatures_plain hjob
  | task number =>
      rw [runJob, poll, htask number rfl]
      refine plain_eraseIdx hjob (fun t ht _ _ heq => ?_) fun _ _ => nofun
      cases heq
      exact absurd (beq_self_eq_true _) (List.find?_eq_none.mp (htask _ rfl) t ht)
  | answered answer =>
      exact (plain_eraseIdx hjob (fun _ _ _ _ => nofun) fun _ _ => nofun).trans
        (resume_aside _ _).plain
  | overdue id =>
      refine (plain_eraseIdx hjob (fun _ _ _ _ => nofun) fun _ _ => nofun).trans (Aside.plain ?_)
      rw [runJob]
      dsimp only
      split
      · exact Aside.trans ⟨_, _, _, rfl⟩ (resume_aside _ _)
      · exact ⟨_, _, _, rfl⟩
  | sweep feature =>
      refine (plain_eraseIdx hjob (fun _ _ _ _ => nofun) fun _ _ => nofun).trans ?_
      rw [runJob]
      split
      · refine plain_language _ (.sweep feature) rfl ?_
        cases feature <;> rfl
      · rfl
  | flush =>
      exact (plain_eraseIdx hjob (fun _ _ _ _ => nofun) fun _ _ => nofun).trans
        (flush_aside _ _).plain

/-! ### Steps -/

/-- The task that an action lets go on. -/
def pursued? (s : Session π) : SessionAction π → Option (RequestTask π)
  | .work _ index =>
    match s.jobs[index]? with
    | some (.task number) => s.tasks.find? (·.number == number)
    | _ => none
  | .giveUp number => (s.tasks.find? (·.number == number)).filter (·.cancelled)
  | _ => none

/-- A task goes on as its job is done, or is given up. The jobs of others are still there. -/
structure Proceeds (s : Session π) (t : RequestTask π) (s' : Session π) : Prop where
  pursues : ∃ host jobs, (∀ job ∈ s.jobs, job ≠ .task t.number → job ∈ jobs) ∧
    Pursues host { s with jobs } t s'
  mem : t ∈ s.tasks

/-- A job that is done lets the task go on that it calls. -/
lemma work_cases (s : Session π) (host : Host π) (index : Nat) :
    (s.pursued? (.work host index) = none ∧ s.Plain (s.work host index)) ∨
    ∃ t, s.pursued? (.work host index) = some t ∧ s.Proceeds t (s.work host index) := by
  rw [pursued?, work]
  cases hjob : s.jobs[index]? with
  | none => exact .inl ⟨rfl, .refl _⟩
  | some job =>
      cases job with
      | task number =>
          dsimp only
          cases hfind : s.tasks.find? (·.number == number) with
          | none =>
              refine .inl ⟨rfl, runJob_plain hjob fun other heq => ?_⟩
              cases heq
              exact hfind
          | some t =>
              have hnumber := List.find?_some hfind
              obtain rfl := beq_iff_eq.mp hnumber
              exact .inr ⟨t, rfl, ⟨host, s.jobs.eraseIdx index, fun other hother hne =>
                mem_eraseIdx_jobs hjob hother hne.symm, poll_pursues hfind⟩,
                List.mem_of_find?_eq_some hfind⟩
      | _ => exact .inl ⟨rfl, runJob_plain hjob nofun⟩

/-- Only a task that has been cancelled is given up. -/
lemma giveUp_cases (s : Session π) (number : TaskId) :
    (s.pursued? (.giveUp number) = none ∧ s.Plain (s.giveUp number)) ∨
    ∃ t, s.pursued? (.giveUp number) = some t ∧ s.Proceeds t (s.giveUp number) := by
  rw [pursued?, giveUp]
  cases hfind : s.tasks.find? (·.number == number) with
  | none => exact .inl ⟨rfl, .refl _⟩
  | some t =>
      rw [Option.filter_some]
      dsimp only
      split
      · exact .inr ⟨t, rfl, ⟨⟨fun _ _ => none, fun _ => false⟩, s.jobs, fun _ hjob _ => hjob,
          .refused _⟩, List.mem_of_find?_eq_some hfind⟩
      · exact .inl ⟨rfl, .refl _⟩

/-- **All that an action can do to a session**: it lets no task go on, or it brings a new one, or
it lets one go on. -/
lemma step_cases (s : Session π) (action : SessionAction π) :
    (s.pursued? action = none ∧ (s.Plain (s.step action) ∨ s.Brings (s.step action))) ∨
    ∃ t, s.pursued? action = some t ∧ s.Proceeds t (s.step action) := by
  cases action with
  | work host index => exact (s.work_cases host index).imp_left (And.imp_right .inl)
  | giveUp number => exact (s.giveUp_cases number).imp_left (And.imp_right .inl)
  | message m => exact .inl ⟨rfl, s.handle_cases m⟩
  | garbage => exact .inl ⟨rfl, .inl (s.send_aside _).plain⟩
  | leave => exact .inl ⟨rfl, .inl s.leave_plain⟩
  | answer call reply => exact .inl ⟨rfl, .inl (s.answer_plain call reply)⟩
  | timeUp timer =>
      refine .inl ⟨rfl, .inl ?_⟩
      rw [step]
      split
      · exact s.fire_plain timer
      · rfl
  | openGate gate value => exact .inl ⟨rfl, .inl (s.openGate_plain gate value)⟩
  | register feature selector provider metadata =>
      exact .inl ⟨rfl, .inl
        (s.plain_language (.register feature selector provider metadata) rfl rfl)⟩
  | unregister feature id =>
      exact .inl ⟨rfl, .inl (s.plain_language (.unregister feature id) rfl rfl)⟩
  | registerCommand id handler =>
      exact .inl ⟨rfl, .inl (s.plain_language (.registerCommand id handler) rfl rfl)⟩
  | unregisterCommand id =>
      exact .inl ⟨rfl, .inl (s.plain_language (.unregisterCommand id) rfl rfl)⟩
  | closeDocument uri => exact .inl ⟨rfl, .inl (s.plain_language (.closeDocument uri) rfl rfl)⟩
  | editDocument uri version text =>
      exact .inl ⟨rfl, .inl (s.plain_language (.changeDocument uri version text) rfl rfl)⟩
  | cancel id => exact .inl ⟨rfl, .inl (s.cancelRequest_plain id)⟩
  | request name method params =>
      exact .inl ⟨rfl, .inl (s.request_aside name method params).plain⟩
  | flush onDisk => exact .inl ⟨rfl, .inl (s.flush_aside onDisk).plain⟩
  | notify | addWatcher | disposeWatcher | fetchEvents =>
      exact .inl ⟨rfl, .inl (Aside.plain ⟨_, _, _, rfl⟩)⟩

end Session

end ProviderHub
