import Mathlib.Tactic
import ProviderHub.Proofs.Session.Answers
import ProviderHub.Proofs.Session.ClosedDocuments
import ProviderHub.Proofs.Session.Phases
import ProviderHub.Proofs.Watch.Backlog

/-!
After the end of a session there is no background work.

* `Cache.Still`, `WatchEngine.Still`: no sweep is due and no timer runs, now or later;
* `Session.Silent`: the state after the end, and `Session.Rests`: all that a step does to it;
* `Docket.Revoked`: some requests are cancelled for as long as they are open;
* `Session.shutdown_silences`: what a request to shut down puts an end to.
-/

namespace ProviderHub

/-! ### Caches -/

namespace Cache

variable {α : Type} {c : Cache α}

/-- No sweep is due, now or later. -/
structure Still (c : Cache α) : Prop where
  closed : c.closed = true
  sweepDue : c.sweepDue = false

lemma Still.evict (h : c.Still) (steps : Nat) : (evict steps c).Still := by
  induction steps generalizing c with
  | zero => exact h
  | succ steps ih =>
      rw [Cache.evict]
      split
      · exact ih ⟨h.closed, h.sweepDue⟩
      · exact h

lemma Still.step (h : c.Still) (action : CacheAction α) : (c.step action).Still := by
  cases action with
  | store batch =>
      have hstored : c.step (.store batch) = c.appended batch := by
        simp [Cache.step, store, scheduleSweep, h.closed, appended]
      rw [hstored]
      exact ⟨h.closed, h.sweepDue⟩
  | sweep => exact Still.evict (c := { c with sweepDue := false }) ⟨h.closed, rfl⟩ _
  | shutdown => exact ⟨rfl, rfl⟩
  | _ => exact ⟨h.closed, h.sweepDue⟩

end Cache

lemma Binder.Follows.still {α : Type} {b b' : Binder α} (h : b.Follows b') (hb : b.cache.Still) :
    b'.cache.Still := by
  obtain ⟨actions, hcache⟩ := h.cache_eq
  rw [hcache]
  clear hcache
  generalize b.cache = c at hb
  induction actions generalizing c with
  | nil => exact hb
  | cons action actions ih => exact ih _ (hb.step action)

/-! ### Watching -/

namespace WatchEngine

variable {e : WatchEngine}

/-- The timer of the next flush does not run, now or later. -/
structure Still (e : WatchEngine) : Prop where
  closed : e.closed = true
  armed : e.armed = false

lemma Still.schedule (h : e.Still) : e.schedule.Still := by
  rw [WatchEngine.schedule, h.closed]
  exact h

lemma Still.teardown (h : e.Still) (id : RootId) : (e.teardown id).Still := by
  rw [WatchEngine.teardown]
  split <;> exact ⟨h.closed, h.armed⟩

lemma Still.attach (h : e.Still) (r : WatchRoot) (kind : WatchKind) : (e.attach r kind).Still := by
  rw [WatchEngine.attach]
  split
  · rw [requeue]
    split <;> exact ⟨h.closed, h.armed⟩
  · exact ⟨h.closed, h.armed⟩

lemma Still.merge (h : e.Still) (pattern : WatchPattern) (kind : WatchKind) :
    (e.merge pattern kind).Still := by
  have hfold (ids : List RootId) : (ids.foldl WatchEngine.teardown e).Still := by
    induction ids generalizing e with
    | nil => exact h
    | cons id ids ih => exact ih (h.teardown id)
  exact ⟨(hfold _).closed, (hfold _).armed⟩

lemma Still.add (h : e.Still) (pattern : WatchPattern) (kind : WatchKind) :
    (e.add pattern kind).2.Still := by
  have hroot : (e.rootFor pattern.normalized kind).2.Still := by
    rw [rootFor]
    split
    · exact h.attach _ kind
    · exact h.merge _ kind
  exact Still.schedule ⟨hroot.closed, hroot.armed⟩

lemma Still.dispose (h : e.Still) (id : WatcherId) : (e.dispose id).Still := by
  rw [WatchEngine.dispose]
  split
  · exact h
  · dsimp only
    split
    · exact ⟨h.closed, h.armed⟩
    · split
      · refine Still.schedule (Still.teardown ?_ _)
        exact ⟨h.closed, h.armed⟩
      · exact ⟨h.closed, h.armed⟩

lemma Still.reply (h : e.Still) (id : FlushId) (accepted : Bool) :
    (e.reply id accepted).2.Still := by
  have hfinish {e : WatchEngine} (h : e.Still) : (e.finish id).Still :=
    Still.schedule ⟨h.closed, h.armed⟩
  rw [WatchEngine.reply]
  split
  · exact h
  · split
    · have hkept (roots : List RootId) : (if accepted then e else e.reject roots).Still := by
        split <;> exact ⟨h.closed, h.armed⟩
      rw [takeBack]
      split
      · exact hfinish (hkept _)
      · exact ⟨(hkept _).closed, (hkept _).armed⟩
    · exact hfinish h

/-- No flush is started any more. -/
lemma Still.flush_eq (h : e.Still) (onDisk : Url → Bool) : e.flush onDisk = (none, e) := by
  have hidle : ¬ (e.enabled = true ∧ e.closed = false) := by simp [h.closed]
  rw [flush_eq_of_idle hidle]
  exact congrArg (Prod.mk none) (congrArg (fun armed => { e with armed }) h.armed.symm)

end WatchEngine

/-! ### Requests that are cancelled -/

namespace Docket

variable {d d' : Docket} {number : TaskId} {entering : Option RequestId}

/-- The request of a number is cancelled, for as long as it is open. -/
structure Revoked (d : Docket) (number : TaskId) : Prop where
  lt_next : number < d.next
  cancelled : ∀ slip ∈ d.slips, slip.number = number → slip.cancelled = true

lemma Revoked.mark (h : d.Revoked number) (numbers : List TaskId) :
    (d.mark numbers).Revoked number := by
  refine ⟨h.lt_next, fun slip hslip hnumber => ?_⟩
  obtain ⟨before, hbefore, rfl⟩ := List.mem_map.mp hslip
  by_cases hmarked : before.number ∈ numbers
  · rw [if_pos hmarked]
  · rw [if_neg hmarked] at hnumber ⊢
    exact h.cancelled before hbefore hnumber

lemma Revoked.enter (h : d.Revoked number) (id : RequestId) : (d.enter id).Revoked number :=
  ⟨Nat.lt_succ_of_lt h.lt_next, h.cancelled⟩

/-- A request that comes has a number of its own. -/
lemma Revoked.accept (h : d.Revoked number) (id : RequestId) : (d.accept id).Revoked number := by
  refine ⟨(h.enter id).lt_next, fun slip hslip hnumber => ?_⟩
  rcases List.mem_append.mp hslip with hold | hnew
  · exact h.cancelled slip hold hnumber
  · rw [List.mem_singleton.mp hnew] at hnumber
    exact absurd hnumber h.lt_next.ne'

lemma Moves.revoked (hmoves : d.Moves entering d') (h : d.Revoked number) : d'.Revoked number := by
  cases hmoves with
  | stay => exact h
  | cancel id => exact h.mark _
  | close _ =>
      exact ⟨h.lt_next, fun slip hslip => h.cancelled slip (List.mem_of_mem_filter hslip)⟩
  | accept id => exact h.accept id
  | answer id => exact ⟨(h.enter id).lt_next, (h.enter id).cancelled⟩
  | stop id _ =>
      have hmarked := (h.enter id).mark ((d.enter id).table.map Prod.snd)
      exact ⟨hmarked.lt_next, hmarked.cancelled⟩

/-- When everything is stopped, a request that is in the table is cancelled. -/
lemma stop_revoked {id : RequestId} (hlisted : (id, number) ∈ d.table) (hlt : number < d.next) :
    d.stop.Revoked number := by
  refine ⟨hlt, fun slip hslip hnumber => ?_⟩
  obtain ⟨before, -, rfl⟩ := List.mem_map.mp hslip
  have hmarked : number ∈ d.table.map Prod.snd := List.mem_map_of_mem hlisted
  by_cases hbefore : before.number ∈ d.table.map Prod.snd
  · rw [if_pos hbefore]
  · rw [if_neg hbefore] at hnumber
    exact absurd (hnumber ▸ hmarked) hbefore

end Docket

/-! ### What a step may still do -/

/-- The program around the session calls a method of the client itself. -/
def SessionAction.calls {π : Type} (method : String) : SessionAction π → Prop
  | .notify name _ => name = method
  | .request _ name _ => name = method
  | _ => False

/-- No message of a step registers anything, but one of the program itself. -/
def SessionAction.MaySend {π : Type} (action : SessionAction π) (message : Json) : Prop :=
  message.calls Method.registerCapability = true → action.calls Method.registerCapability

/-- The document that an action closes. -/
def SessionAction.closes? {π : Type} : SessionAction π → Option Url
  | .closeDocument uri => some uri
  | .message (.notification n) =>
    if n.method = Method.didClose then
      (readParams DocumentParams n.params).toOption.map (·.textDocument.uri)
    else none
  | _ => none

/-- Batches stay cached, but for those of a document that is closed. -/
def Language.Keeps {π : Type} (closed : Option Url) (l l' : Language π) : Prop :=
  ∀ (kind : ItemKind), ∀ entry ∈ (kind.binder l).cache.entries,
    entry ∈ (kind.binder l').cache.entries ∨
      ∃ uri, closed = some uri ∧ Binder.Recorded (kind.binder l).owned uri entry.1

namespace Language

variable {π : Type} {closed : Option Url} {l l' : Language π}

lemma Keeps.of_binder_eq (h : ∀ kind : ItemKind, kind.binder l' = kind.binder l) :
    l.Keeps closed l' :=
  fun kind _ hentry => .inl (h kind ▸ hentry)

lemma close_keeps (hl : l.Filed) (uri : Url) : l.Keeps (some uri) (l.close uri).2 := by
  intro kind entry hentry
  by_cases hrecorded : Binder.Recorded (kind.binder l).owned uri entry.1
  · exact .inr ⟨uri, rfl, hrecorded⟩
  · have hclose : kind.binder (l.close uri).2 = ((kind.binder l).release uri).2 :=
      l.binder_close uri kind
    rw [hclose]
    exact .inl ((Binder.mem_release_entries (hl.keyed kind) uri).mpr ⟨hentry, hrecorded⟩)

lemma finish_keeps (hl : l.Sound) (query : Query) (origin : Option Token)
    (results : List (ProviderId × Reply)) : l.Keeps closed (l.finish query origin results).2 := by
  intro kind entry hentry
  rcases finish_adds query origin results hl kind with ⟨-, heq⟩ | ⟨_, _, -, -, hadds⟩
  · exact .inl (heq ▸ hentry)
  · exact .inl (hadds.entries_eq ▸ List.mem_append_left _ hentry)

end Language

namespace Session

variable {π : Type} {s s' s'' : Session π} {host : Host π} {t : RequestTask π}
  {action : SessionAction π}

/-- **All that a step may do in a session that has ended.** Nothing starts again, nothing is
registered but by the program around the session, and batches go only with their documents. -/
structure Rests (action : SessionAction π) (s s' : Session π) : Prop where
  watch : s'.watch.Still
  features_eq : s'.features = s.features
  queues : s.client.Queues action.MaySend s'.client
  keeps : s.language.Keeps action.closes? s'.language

/-- No task, gate, or mark of a request matters here. -/
lemma Rests.of_eq (hs : s.watch.Still) (hwatch : s'.watch = s.watch)
    (hfeatures : s'.features = s.features) (hclient : s'.client = s.client)
    (hlanguage : ∀ kind : ItemKind, kind.binder s'.language = kind.binder s.language) :
    s.Rests action s' :=
  ⟨hwatch ▸ hs, hfeatures, hclient ▸ .refl _, .of_binder_eq hlanguage⟩

lemma Rests.of_language (hs : s.watch.Still) {language : Language π}
    (h : s.language.Keeps action.closes? language) : s.Rests action { s with language } :=
  ⟨hs, rfl, .refl _, h⟩

lemma maySend_response (r : Response) : action.MaySend (encode r) := fun hcalls => by
  rw [calls_response] at hcalls
  cases hcalls

lemma queues_of_asks {c c' : Client Waiter} {P : String → Prop} (h : c.Asks P c')
    (hallowed : P Method.registerCapability → action.calls Method.registerCapability) :
    c.Queues action.MaySend c' :=
  h.queues fun r hr hcalls => hallowed (of_decide_eq_true (calls_request _ r ▸ hcalls) ▸ hr)

lemma respond_queues (s : Session π) (id : RequestId) (outcome : Except RpcError Json) :
    s.client.Queues action.MaySend (s.respond id outcome).client :=
  s.client.send_queues (maySend_response _)

lemma Rests.of_aside (h : s.Aside s') (hwatch : s'.watch.Still)
    (hqueues : s.client.Queues action.MaySend s'.client) : s.Rests action s' := by
  obtain ⟨watch, client, finished, rfl⟩ := h
  exact ⟨hwatch, rfl, hqueues, .of_binder_eq fun _ => rfl⟩

/-! ### Silent sessions -/

/-- A session has ended: no sweep is due, no timer of a flush runs, and no registration of features
waits, now or later. -/
structure Silent (s : Session π) : Prop where
  initialized : s.initializeReceived = true
  stopped : s.shutdownRequested = true
  watch : s.watch.Still
  caches : ∀ kind : ItemKind, (kind.binder s.language).cache.Still
  features : s.features ≠ .waiting

lemma Silent.sweepsDue_eq_nil (hs : s.Silent) : s.language.sweepsDue = [] := by
  have hcompletion : s.language.completions.cache.sweepDue = false :=
    (hs.caches .completion).sweepDue
  have haction : s.language.actions.cache.sweepDue = false := (hs.caches .action).sweepDue
  have hlens : s.language.lenses.cache.sweepDue = false := (hs.caches .lens).sweepDue
  have hcall : s.language.callItems.cache.sweepDue = false := (hs.caches .callItem).sweepDue
  simp [Language.sweepsDue, hcompletion, haction, hlens, hcall]

/-- Of the timers, only those of requests run. -/
lemma Silent.timers (hs : s.Silent) {timer : SessionTimer × Nat} (htimer : timer ∈ s.timers) :
    timer.1 ≠ .flush ∧ ∀ feature, timer.1 ≠ .sweep feature := by
  simp only [Session.timers, hs.sweepsDue_eq_nil, hs.watch.armed, List.map_nil, List.append_nil,
    Bool.false_eq_true, if_false, List.mem_append, List.mem_map] at htimer
  rcases htimer with ⟨_, -, rfl⟩ | ⟨_, -, rfl⟩ <;> simp

/-- All requests are refused at once, or become tasks. -/
lemma Silent.handleRequest_rests (hs : s.Silent) (r : Request) :
    s.Rests action (s.handleRequest r) := by
  have hrefused (e : RpcError) :
      s.Rests action ((s.beginRequest r.id).2.respond r.id (.error e)) :=
    ⟨hs.watch, rfl, respond_queues _ r.id (.error e), .of_binder_eq fun _ => rfl⟩
  by_cases hstarts : r.method = Method.initializeRequest
  · rw [handleRequest_of_start hstarts]
    rcases (s.beginRequest r.id).2.handleInitialize_cases r.params with
      ⟨e, heq, -⟩ | ⟨_, _, -, hfirst, -⟩
    · rw [heq]
      exact hrefused e
    · cases hs.initialized.symm.trans hfirst
  · by_cases hshutdown : r.method = Method.shutdown
    · have hrefusal : (s.beginRequest r.id).2.refusal? =
          some (.invalidRequest "Server is shutting down") := by
        show s.refusal? = _
        rw [refusal?, hs.initialized, hs.stopped]
        rfl
      rw [handleRequest_of_shutdown hshutdown, handleShutdown, hrefusal]
      exact hrefused _
    · rw [handleRequest_of_task hstarts hshutdown]
      exact .of_eq hs.watch rfl rfl rfl fun _ => rfl

lemma openGate_rests (hs : s.watch.Still) (gate : GateName) (value : Json) :
    s.Rests action (s.openGate gate value).2 := by
  rw [openGate]
  dsimp only
  split <;> exact .of_eq hs rfl rfl rfl fun kind => by cases kind <;> rfl

lemma cancelRequest_rests (hs : s.watch.Still) (id : RequestId) :
    s.Rests action (s.cancelRequest id).2 := by
  rw [cancelRequest]
  split <;> exact .of_eq hs rfl rfl rfl fun _ => rfl

lemma Heeds.rests {n : Notification} (h : s.Heeds n s') (hs : s.watch.Still)
    (hfiled : s.language.Filed) : s.Rests (.message (.notification n)) s' := by
  cases h with
  | nothing => exact .of_eq hs rfl rfl rfl fun _ => rfl
  | initialized => exact openGate_rests hs _ _
  | cancel id => exact cancelRequest_rests hs id
  | opens d => exact .of_eq hs rfl rfl rfl fun kind => by cases kind <;> rfl
  | changes uri version text => exact .of_eq hs rfl rfl rfl fun kind => by cases kind <;> rfl
  | @closes p hmethod hparams =>
      have hcloses : (SessionAction.message (.notification n) : SessionAction π).closes? =
          some p.textDocument.uri := by
        rw [SessionAction.closes?, if_pos hmethod, hparams]
        rfl
      refine .of_language hs ?_
      rw [hcloses]
      exact Language.close_keeps hfiled _
  | watches changes => exact ⟨⟨hs.closed, hs.armed⟩, rfl, .refl _, .of_binder_eq fun _ => rfl⟩

/-! ### Jobs -/

/-- A question to providers is nothing to the client. -/
lemma Consults.background_eq {query : Query} {origin : Option Token} {inquiry : Inquiry π}
    (h : Consults host s t query origin inquiry s') :
    s'.watch = s.watch ∧ s'.features = s.features ∧ s'.client = s.client := by
  cases h <;> exact ⟨rfl, rfl, rfl⟩

/-- A task that goes on answers its request, or keeps quiet. -/
lemma Pursues.rests (h : Pursues host s t s') (hs : s.watch.Still) (hsound : s.language.Sound) :
    s.Rests action s' := by
  have hend (s' : Session π) (hwatch : s'.watch = s.watch) (hfeatures : s'.features = s.features)
      (hclient : s'.client = s.client) (hkeeps : s.language.Keeps action.closes? s'.language)
      (outcome : Except RpcError Json) : s.Rests action (s'.endTask t outcome) := by
    refine ⟨hwatch ▸ hs, hfeatures, ?_, hkeeps⟩
    rw [← hclient]
    exact respond_queues { s' with tasks := s'.tasks.filter (·.number != t.number) } t.id outcome
  have hsame : s.language.Keeps action.closes? s.language := .of_binder_eq fun _ => rfl
  cases h with
  | refused e => exact hend s rfl rfl rfl hsame _
  | replied => exact hend s rfl rfl rfl hsame _
  | gated => exact .of_eq hs rfl rfl rfl fun _ => rfl
  | dropped e hconsults =>
      obtain ⟨hwatch, hfeatures, hclient⟩ := hconsults.background_eq
      exact hend _ hwatch hfeatures hclient (hconsults.language_eq ▸ hsame) _
  | asking hconsults =>
      obtain ⟨hwatch, hfeatures, hclient⟩ := hconsults.background_eq
      exact .of_eq hs hwatch hfeatures hclient fun kind =>
        congrArg kind.binder hconsults.language_eq
  | @finished query origin inquiry s'' hconsults _ =>
      obtain ⟨hwatch, hfeatures, hclient⟩ := hconsults.background_eq
      exact hend { s'' with language := (s.language.finish query origin inquiry.results).2 }
        hwatch hfeatures hclient (Language.finish_keeps hsound _ _ _) _

lemma flushAnswered_still (h : s.watch.Still) (flush : FlushId) (accepted : Bool) :
    (s.flushAnswered flush accepted).watch.Still := by
  have hreply := h.reply flush accepted
  rw [flushAnswered]
  dsimp only
  split
  · rw [submitLast]
    dsimp only
    split
    · exact hreply
    · exact hreply.reply flush false
  · exact hreply

lemma resume_still (h : s.watch.Still) (a : Answered Waiter) : (s.resume a).watch.Still := by
  rw [resume]
  split
  · exact h
  · exact h
  · exact flushAnswered_still h _ _

/-- Taking back is not registering. -/
lemma unregister_ne_register : Method.registerCapability ≠ Method.unregisterCapability := by
  decide

lemma flush_eq_self (h : s.watch.Still) (onDisk : Url → Bool) : s.flush onDisk = s := by
  rw [flush, h.flush_eq]

lemma registerFeatures_eq_self (h : s.features ≠ .waiting) : s.registerFeatures = s := by
  rw [registerFeatures, if_neg fun hwaiting => h hwaiting.1]

lemma Silent.runJob_rests (hs : s.Silent) (hsound : s.language.Sound) (job : Job) :
    s.Rests action (s.runJob host job) := by
  have hsame : s.Rests action s := .of_eq hs.watch rfl rfl rfl fun _ => rfl
  cases job with
  | task number =>
      rw [runJob]
      cases hfind : s.tasks.find? (·.number == number) with
      | none =>
          rw [poll, hfind]
          exact hsame
      | some t => exact (poll_pursues hfind).rests hs.watch hsound
  | features =>
      rw [runJob, registerFeatures_eq_self hs.features]
      exact hsame
  | answered a =>
      exact .of_aside (s.resume_aside a) (resume_still hs.watch a)
        (queues_of_asks (s.resume_asks a) fun h => absurd h unregister_ne_register)
  | overdue id =>
      have hexpire : s.client.Asks (· = Method.unregisterCapability) (s.client.expire id).2 :=
        s.client.expire_asks id
      rw [runJob]
      dsimp only
      split
      · rename_i a _
        let expired : Session π := { s with client := (s.client.expire id).2 }
        have haside : s.Aside expired := ⟨_, _, _, rfl⟩
        exact .of_aside (haside.trans (expired.resume_aside a))
          (resume_still (s := expired) hs.watch a)
          (queues_of_asks (hexpire.trans (expired.resume_asks a))
            fun h => absurd h unregister_ne_register)
      · exact .of_aside ⟨_, _, _, rfl⟩ hs.watch
          (queues_of_asks hexpire fun h => absurd h unregister_ne_register)
  | sweep feature =>
      rw [runJob, hs.sweepsDue_eq_nil, if_neg List.not_mem_nil]
      exact hsame
  | flush =>
      rw [runJob, flush_eq_self hs.watch]
      exact hsame

/-! ### Steps -/

lemma Silent.shutdown_eq (hs : s.Silent) : s.shutdown = s := by
  rw [shutdown, if_pos hs.stopped]

/-- **Nothing starts again in the background.** -/
lemma Silent.step_rests (hs : s.Silent) (hsound : s.language.Sound) (hfiled : s.language.Filed)
    (action : SessionAction π) : s.Rests action (s.step action) := by
  have hsame {s' : Session π} (hwatch : s'.watch = s.watch) (hfeatures : s'.features = s.features)
      (hclient : s'.client = s.client) (hlanguage : s'.language = s.language) :
      s.Rests action s' :=
    .of_eq hs.watch hwatch hfeatures hclient fun _ => by rw [hlanguage]
  have hself : s.Rests action s := hsame rfl rfl rfl rfl
  cases action with
  | message m =>
      cases m with
      | request r => exact hs.handleRequest_rests r
      | response r =>
          have hreceive := s.client.receive_asks (P := fun _ => False) r
          exact ⟨hs.watch, rfl, queues_of_asks hreceive False.elim, .of_binder_eq fun _ => rfl⟩
      | notification n => exact (s.handleNotification_heeds n).rests hs.watch hfiled
  | garbage =>
      exact ⟨hs.watch, rfl, s.client.send_queues (maySend_response _), .of_binder_eq fun _ => rfl⟩
  | leave =>
      rw [step, Server.leave, hs.shutdown_eq]
      exact ⟨hs.watch, rfl, .refl _, .of_binder_eq fun _ => rfl⟩
  | work host index =>
      rw [step, work]
      split
      · rename_i job _
        have hjobs : { s with jobs := s.jobs.eraseIdx index }.Silent :=
          ⟨hs.initialized, hs.stopped, hs.watch, hs.caches, hs.features⟩
        have hjob : Rests (.work host index) { s with jobs := s.jobs.eraseIdx index }
            ({ s with jobs := s.jobs.eraseIdx index }.runJob host job) :=
          hjobs.runJob_rests hsound job
        exact ⟨hjob.watch, hjob.features_eq, hjob.queues, hjob.keeps⟩
      · exact hself
  | giveUp number =>
      rw [step, giveUp]
      split
      · split
        · rename_i t _ _
          have hdropped : Pursues ⟨fun _ _ => none, fun _ => false⟩ s t
              (s.endTask t (.error RouteError.cancelled.toRpc)) := .refused _
          exact hdropped.rests hs.watch hsound
        · exact hself
      · exact hself
  | timeUp timer =>
      rw [step]
      split
      · cases timer <;> exact hsame rfl rfl rfl rfl
      · exact hself
  | openGate gate value => exact openGate_rests hs.watch gate value
  | cancel id => exact cancelRequest_rests hs.watch id
  | closeDocument uri => exact .of_language hs.watch (Language.close_keeps hfiled uri)
  | notify method params =>
      refine ⟨hs.watch, rfl, s.client.send_queues fun hcalls => ?_, .of_binder_eq fun _ => rfl⟩
      rw [calls_notification] at hcalls
      have hmethod : method = Method.registerCapability := of_decide_eq_true hcalls
      exact hmethod
  | request name method params =>
      have hasks : s.client.Asks (· = method) (s.client.request method params (.host name)).2 :=
        s.client.request_asks _ _ rfl
      rw [step, request]
      dsimp only
      split <;> exact ⟨hs.watch, rfl, queues_of_asks hasks Eq.symm, .of_binder_eq fun _ => rfl⟩
  | flush onDisk =>
      rw [step, flush_eq_self hs.watch]
      exact hself
  | addWatcher pattern kind =>
      exact ⟨hs.watch.add pattern kind, rfl, .refl _, .of_binder_eq fun _ => rfl⟩
  | disposeWatcher id =>
      exact ⟨hs.watch.dispose id, rfl, .refl _, .of_binder_eq fun _ => rfl⟩
  | fetchEvents id count =>
      exact ⟨⟨hs.watch.closed, hs.watch.armed⟩, rfl, .refl _, .of_binder_eq fun _ => rfl⟩
  | register | unregister | registerCommand | unregisterCommand | editDocument =>
      exact .of_language hs.watch (.of_binder_eq fun kind => by cases kind <;> rfl)
  | answer call reply => exact hsame rfl rfl rfl rfl

lemma step_stopped (hs : s.shutdownRequested = true) (action : SessionAction π) :
    (s.step action).shutdownRequested = true := by
  cases s.step_turns action with
  | steady _ _ h => exact h.shutdownRequested_eq.trans hs
  | starts _ _ _ _ h => exact h.shutdownRequested_eq.trans hs
  | ends _ _ _ h => exact h.shutdownRequested_eq
  | leaves h => exact h.shutdownRequested_eq

/-- **A session that has ended stays silent.** -/
lemma Silent.step (hs : s.Silent) (hsound : s.language.Sound) (hfiled : s.language.Filed)
    (action : SessionAction π) : (s.step action).Silent := by
  have hrests := hs.step_rests hsound hfiled action
  exact ⟨(step_initialized hs.initialized action).1, step_stopped hs.stopped action, hrests.watch,
    fun kind => ((step_follows s action).binders kind).still (hs.caches kind),
    hrests.features_eq ▸ hs.features⟩

/-- Requests that are cancelled stay so. -/
lemma Silent.step_revoked (hs : s.Silent) {number : TaskId} (h : s.docket.Revoked number)
    (action : SessionAction π) : (s.step action).docket.Revoked number := by
  by_cases hleave : action = .leave
  · subst hleave
    rw [Session.step, Server.leave, hs.shutdown_eq]
    exact ⟨h.lt_next, h.cancelled⟩
  · exact (s.step_moves hleave).revoked h

/-- A request to shut down makes a session silent. -/
lemma shutdown_silent (hinitialized : s.initializeReceived = true)
    (hrunning : s.shutdownRequested = false) : s.shutdown.Silent := by
  have hsteady := s.shutdown_steady
  refine ⟨hsteady.initializeReceived_eq.trans hinitialized, hsteady.shutdownRequested_eq, ?_, ?_,
    ?_⟩ <;> rw [shutdown, hrunning, if_neg Bool.false_ne_true]
  · exact ⟨rfl, rfl⟩
  · intro kind
    cases kind <;> exact ⟨rfl, rfl⟩
  · dsimp only
    split <;> decide

/-- A request to shut down is granted while the session goes on. -/
lemma step_of_shutdown {r : Request} {v : Json} (hmethod : r.method = Method.shutdown)
    (hok : s.outcome? r = some (.ok v)) :
    s.initializeReceived = true ∧ s.shutdownRequested = false ∧
      s.step (.message (.request r)) =
        (s.beginRequest r.id).2.shutdown.respond r.id (.ok .null) := by
  have hne : r.method ≠ Method.initializeRequest := by
    rw [hmethod]
    decide
  rw [outcome?_of_shutdown hmethod, handleShutdown] at hok
  split at hok
  · cases hok
  · rename_i hrefusal
    have hstep : s.step (.message (.request r)) =
        (s.beginRequest r.id).2.shutdown.respond r.id (.ok .null) := by
      rw [step, handle, handleRequest_of_shutdown hmethod, handleShutdown, hrefusal]
    have hflags : s.refusal? = none := hrefusal
    rw [refusal?] at hflags
    cases hinitialized : s.initializeReceived <;> cases hstopped : s.shutdownRequested <;>
      simp_all

/-! ### Runs -/

section runs

variable {settings : Settings} {earlier : List (SessionAction π)} {r : Request} {v : Json}

lemma silent_run (hmethod : r.method = Method.shutdown)
    (hok : (run settings earlier).outcome? r = some (.ok v)) (later : List (SessionAction π)) :
    (run settings (earlier ++ [.message (.request r)] ++ later)).Silent := by
  induction later using List.reverseRecOn with
  | nil =>
      obtain ⟨hinitialized, hrunning, hstep⟩ := step_of_shutdown hmethod hok
      have hs := shutdown_silent (s := ((run settings earlier).beginRequest r.id).2)
        hinitialized hrunning
      rw [List.append_nil, run_append, hstep]
      exact ⟨hs.initialized, hs.stopped, hs.watch, hs.caches, hs.features⟩
  | append_singleton later action ih =>
      rw [← List.append_assoc, run_append]
      exact ih.step (run_sound settings _) (run_filed settings _) action

lemma revoked_run (hmethod : r.method = Method.shutdown)
    (hok : (run settings earlier).outcome? r = some (.ok v)) {number : TaskId}
    (h : (run settings (earlier ++ [.message (.request r)])).docket.Revoked number)
    (later : List (SessionAction π)) :
    (run settings (earlier ++ [.message (.request r)] ++ later)).docket.Revoked number := by
  induction later using List.reverseRecOn with
  | nil =>
      rw [List.append_nil]
      exact h
  | append_singleton later action ih =>
      rw [← List.append_assoc, run_append]
      exact (silent_run hmethod hok later).step_revoked ih action

/-- What the end makes of the docket. -/
lemma docket_run_shutdown (hmethod : r.method = Method.shutdown)
    (hok : (run settings earlier).outcome? r = some (.ok v)) :
    (run settings (earlier ++ [.message (.request r)])).docket =
      ((run settings earlier).docket.enter r.id).stop.answer r.id := by
  obtain ⟨-, hrunning, hstep⟩ := step_of_shutdown hmethod hok
  rw [run_append, hstep, docket_respond,
    docket_shutdown (s := ((run settings earlier).beginRequest r.id).2) hrunning]
  rfl

end runs

/-- **The end of a session silences what goes on in the background.** After a request to shut down
that was granted, in whatever order things happen: no message calls for a registration, unless the
program around the session sends it itself; batches stay cached but for those of documents that are
closed; no timer of a sweep or a flush runs; and the requests that could be cancelled are cancelled
for as long as they are open. Unless a name was used twice, those are all that were open. -/
theorem shutdown_silences (settings : Settings) (earlier later : List (SessionAction π))
    (r : Request) (v : Json) (action : SessionAction π) (hmethod : r.method = Method.shutdown)
    (hok : (run settings earlier).outcome? r = some (.ok v)) :
    let before := run settings earlier
    let ended := earlier ++ [.message (.request r)]
    let s := run settings (ended ++ later)
    let s' := run settings (ended ++ later ++ [action])
    (∃ messages, s'.client.queue = s.client.queue ++ messages ∧
      ∀ message ∈ messages, message.calls Method.registerCapability = true →
        action.calls Method.registerCapability) ∧
    (∀ (kind : ItemKind), ∀ entry ∈ (kind.binder s.language).cache.entries,
      entry ∈ (kind.binder s'.language).cache.entries ∨
        ∃ uri, action.closes? = some uri ∧
          Binder.Recorded (kind.binder s.language).owned uri entry.1) ∧
    (∀ timer ∈ s.timers, timer.1 ≠ .flush ∧ ∀ feature, timer.1 ≠ .sweep feature) ∧
    (run settings ended).tasks.map (·.number) = before.tasks.map (·.number) ∧
    (∀ t ∈ before.tasks, (t.id, t.number) ∈ before.inFlight → t.id ≠ r.id →
      ∀ u ∈ s.tasks, u.number = t.number → u.cancelled = true) ∧
    (Distinct settings ended → ∀ t ∈ before.tasks,
      ∀ u ∈ s.tasks, u.number = t.number → u.cancelled = true) := by
  intro before ended s s'
  have hs : s.Silent := silent_run hmethod hok later
  have hrests : s.Rests action s' := by
    have hstep := hs.step_rests (run_sound settings _) (run_filed settings _) action
    rwa [← run_append] at hstep
  have hdocket : (run settings ended).docket = (before.docket.enter r.id).stop.answer r.id :=
    docket_run_shutdown hmethod hok
  have hlt : ∀ t ∈ before.tasks, t.number < before.docket.next :=
    (run_numbered settings earlier).lt_next
  have hcancelled {number : TaskId} (h : (run settings ended).docket.Revoked number) :
      ∀ u ∈ s.tasks, u.number = number → u.cancelled = true := fun u hu =>
    (revoked_run hmethod hok h later).cancelled u.slip (List.mem_map_of_mem hu)
  refine ⟨hrests.queues, hrests.keeps, fun timer => hs.timers, ?_, fun t ht hlisted hne => ?_,
    fun hdistinct t ht => ?_⟩
  · have hnumbers : (run settings ended).docket.slips.map (·.number) =
        before.docket.slips.map (·.number) := by
      rw [hdocket]
      exact (before.docket.enter r.id).numbers_mark _
    rw [docket, docket, List.map_map, List.map_map] at hnumbers
    exact hnumbers
  · refine hcancelled ?_
    have hentry : (t.id, t.number) ∈ (before.docket.enter r.id).table :=
      List.mem_append_left _ (List.mem_filter.mpr ⟨hlisted, bne_iff_ne.mpr hne⟩)
    have hrevoked := Docket.stop_revoked hentry (Nat.lt_succ_of_lt (hlt t ht))
    rw [hdocket]
    exact ⟨hrevoked.lt_next, hrevoked.cancelled⟩
  · -- no request is in the table any more, and so all that are open are cancelled
    have hrunning : SessionAction.leave ∉ ended := by
      have hopen : before.shutdownRequested = false := (step_of_shutdown hmethod hok).2.1
      intro hleave
      have hearlier : SessionAction.leave ∈ earlier := by simpa [ended] using hleave
      have hstopped := (shutdownRequested_run settings earlier).mpr (.inr hearlier)
      cases hopen.symm.trans hstopped
    have hmatched := run_matched hrunning hdistinct
    refine hcancelled ⟨?_, fun slip hslip _ => ?_⟩
    · rw [hdocket]
      exact Nat.lt_succ_of_lt (hlt t ht)
    · refine ((hmatched.listed slip hslip).resolve_left fun hlisted => ?_).2
      rw [hdocket] at hlisted
      exact List.not_mem_nil hlisted

/-- A client that lets the server register things later. -/
def dynamicParams : Json :=
  let dynamic := Json.object [("dynamicRegistration", .bool true)]
  Json.object [("capabilities", Json.object
    [("workspace", Json.object [("didChangeWatchedFiles", dynamic), ("executeCommand", dynamic)]),
      ("textDocument", Json.object [("completion", dynamic), ("signatureHelp", dynamic)])])]

/-- One of the jobs is done, while everything is on disk. -/
def jobAt (index : Nat) : SessionAction Unit := .work ⟨fun _ _ => none, fun _ => true⟩ index

/-- No lenses are to be kept for long. -/
def busySettings : Settings := { cache := { codeLensCapacity := 0 } }

/-- Features wait to be registered, and so does a root. Lenses are cached, one batch too many. The
timers of the sweep and of the flush end, but neither has been done. A request is open. -/
def busyRun : List (SessionAction Unit) :=
  [asks 1 Method.initializeRequest dynamicParams, tells Method.initialized .null,
    .openGate .registered .null, .register .codeLens ⟨[.any]⟩ () .nothing,
    .addWatcher ⟨lateUrl, true⟩ .all,
    tells Method.didOpen
      (lateParams [("languageId", .str "text"), ("version", .int 1), ("text", .str "")]),
    asks 2 Method.codeLens (lateParams []), jobAt 3, .answer 0 (some (.lenses [default])), jobAt 3,
    .timeUp (.sweep .codeLens), .timeUp .flush, asks 3 Method.codeLens (lateParams [])]

/-- A request to shut down. -/
def quitRequest : Request := { id := .number 4, method := Method.shutdown }

/-- The sweep would delete the batch, and the jobs of features and of the flush would register
something. After the end they do not, and the open request is cancelled. -/
theorem shutdown_silences_busyRun :
    let before := run busySettings busyRun
    let after (later : List (SessionAction Unit)) :=
      run busySettings (busyRun ++ [.message (.request quitRequest)] ++ later)
    let registers (s : Session Unit) := s.client.queue.any (Json.calls Method.registerCapability)
    quitRequest.method = Method.shutdown ∧ before.outcome? quitRequest = some (.ok .null) ∧
    (before.step (jobAt 3)).language.lenses.cache.ids = [] ∧
    1 ∈ (after [jobAt 3]).language.lenses.cache.ids ∧
    (∀ index ∈ [0, 4], registers (before.step (jobAt index)) = true) ∧
    (∀ index, registers (after [jobAt index]) = false) ∧
    (after []).tasks.map (·.number) = [2] ∧
    ∀ u ∈ (after []).tasks, u.number = 2 → u.cancelled = true := by
  intro before after registers
  have hok : before.outcome? quitRequest = some (.ok .null) := rfl
  obtain ⟨-, -, -, hnumbers, hcancelled, -⟩ :=
    shutdown_silences busySettings busyRun [] quitRequest .null (jobAt 0) rfl hok
  refine ⟨rfl, hok, by decide +kernel, ?_, by decide +kernel, fun index => ?_,
    hnumbers.trans (by decide +kernel), ?_⟩
  · obtain ⟨-, hkeeps, -⟩ :=
      shutdown_silences busySettings busyRun [] quitRequest .null (jobAt 3) rfl hok
    have hentries : (after []).language.lenses.cache.entries = [(1, [default])] := rfl
    have hentry : (1, [default]) ∈ (after []).language.lenses.cache.entries :=
      hentries ▸ List.mem_singleton_self _
    rcases hkeeps .lens _ hentry with hkept | ⟨uri, hclosed, -⟩
    · exact List.mem_map_of_mem hkept
    · cases hclosed
  · obtain ⟨⟨messages, hqueue, hmessages⟩, -⟩ :=
      shutdown_silences busySettings busyRun [] quitRequest .null (jobAt index) rfl hok
    have hsilent : (after []).client.queue.any (Json.calls Method.registerCapability) = false := by
      decide +kernel
    have hmore : (after [jobAt index]).client.queue = (after []).client.queue ++ messages := hqueue
    show (after [jobAt index]).client.queue.any _ = false
    rw [hmore, List.any_append, hsilent, Bool.false_or, List.any_eq_false]
    exact hmessages
  · obtain ⟨t, ht, hnumber, hlisted, hne⟩ : ∃ t ∈ before.tasks, t.number = 2 ∧
        (t.id, t.number) ∈ before.inFlight ∧ t.id ≠ quitRequest.id := by
      decide +kernel
    exact hnumber ▸ hcancelled t ht hlisted hne

end Session

end ProviderHub
