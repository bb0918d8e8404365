import Mathlib.Tactic
import ProviderHub.Proofs.Session.ClosedDocuments
import ProviderHub.Proofs.Session.Connection

/-!
The life of a session.

A session starts once and ends once, and requests outside of that time are refused. What counts is
the time when a request is looked at for the first time: for most requests this is not the time when
it is read.

* `Session.Examines`, `Session.Processes`: a request is looked at for the first time;
* `Session.session_lifecycle`: what the requests of each phase come to;
* `Session.early_requests_outcome`: what becomes of requests that are read before the start.
-/

namespace ProviderHub

/-- The methods of the requests that stand for queries. -/
def Query.methods : List String :=
  [Method.completion, Method.completionResolve, Method.hover, Method.definition, Method.references,
    Method.signatureHelp, Method.rename, Method.formatting, Method.codeAction,
    Method.codeActionResolve, Method.codeLens, Method.codeLensResolve, Method.documentLink,
    Method.prepareCallHierarchy, Method.incomingCalls, Method.outgoingCalls, Method.executeCommand]

lemma Query.read_of_unknown {method : String} (h : method ∉ Query.methods) (params : Option Json) :
    Query.read method params = .error (.methodNotFound method) := by
  simp only [Query.methods, List.mem_cons, List.not_mem_nil, or_false, not_or] at h
  simp only [Query.read, h, if_false]

lemma nat64?_eq_some_iff {v : Json} {n : Nat} : nat64? v = some n ↔ v = .int n ∧ n < 2 ^ 64 := by
  cases v with
  | int m =>
      simp only [nat64?, natBelow?, UInt64.size, Json.int.injEq, Option.ite_none_right_eq_some,
        Option.some_inj]
      omega
  | _ => simp [nat64?, natBelow?]

/-- The client may lower the limit, but not to zero. -/
lemma Settings.lowerLimit_maxItems (settings : Settings) (options : Json) :
    (∀ n : Nat, options.at? ["completion", "maxItems"] = some (.int n) → n < 2 ^ 64 → 0 < n →
      n < settings.completion.maxItems → (settings.lowerLimit options).completion.maxItems = n) ∧
    ((∀ n : Nat, options.at? ["completion", "maxItems"] = some (.int n) → n < 2 ^ 64 →
      ¬ (0 < n ∧ n < settings.completion.maxItems)) →
      (settings.lowerLimit options).completion.maxItems = settings.completion.maxItems) := by
  rw [lowerLimit]
  refine ⟨fun n hoption hn hpos hlt => ?_, fun hnone => ?_⟩
  · rw [hoption, Option.bind_some, nat64?_eq_some_iff.mpr ⟨rfl, hn⟩]
    simp [hpos, hlt]
  · split
    · rename_i n hn
      obtain ⟨v, hoption, hv⟩ := Option.bind_eq_some_iff.mp hn
      obtain ⟨rfl, hbound⟩ := nat64?_eq_some_iff.mp hv
      rw [if_neg (hnone n hoption hbound)]
    · rfl

/-- A task that has not been looked at was so before, when marks and answers are all that is new. -/
lemma RequestTask.fresh_of_outline {π : Type} {t u : RequestTask π} (h : t.outline = u.outline)
    {r : Request} (hstage : t.stage = .fresh r) : u.stage = .fresh r ∧ u.id = t.id := by
  have hid := congrArg RequestTask.id h
  have heq := congrArg RequestTask.stage h
  rw [RequestTask.outline, RequestTask.outline, hstage] at heq
  dsimp only at heq
  refine ⟨?_, hid.symm⟩
  cases hu : u.stage <;> rw [hu] at heq <;> cases heq
  rfl

namespace Session

variable {π : Type} {s s' : Session π} {settings : Settings} {actions : List (SessionAction π)}
  {action : SessionAction π} {r : Request} {t : RequestTask π}

/-! ### Requests that are looked at -/

/-- A task is looked at for the first time. -/
def Examines (s : Session π) (action : SessionAction π) (t : RequestTask π) (r : Request) : Prop :=
  (∃ host index, action = .work host index) ∧ s.pursued? action = some t ∧ t.stage = .fresh r

/-- A request other than the one that starts the session is looked at for the first time. -/
def Processes (s : Session π) (action : SessionAction π) (r : Request) : Prop :=
  (action = .message (.request r) ∧ r.method = Method.shutdown) ∨
  ∃ t, s.Examines action t r ∧ t.id = r.id

lemma Examines.step_eq (h : s.Examines action t r) :
    ∃ host jobs, s.step action = { s with jobs }.examine host t r := by
  obtain ⟨⟨host, index, rfl⟩, hpursued, hstage⟩ := h
  refine ⟨host, s.jobs.eraseIdx index, ?_⟩
  rw [pursued?] at hpursued
  rw [step, work]
  split at hpursued
  · rename_i number hjob
    rw [hjob]
    dsimp only
    rw [runJob, poll, hpursued]
    dsimp only
    rw [hstage]
  · cases hpursued

/-- A task that is refused ends. -/
lemma Examines.step_eq_endTask (h : s.Examines action t r) {e : RpcError}
    (hrefusal : s.refusal? = some e) :
    ∃ jobs, s.step action = { s with jobs }.endTask t (.error e) := by
  obtain ⟨host, jobs, heq⟩ := h.step_eq
  have hsame : { s with jobs }.refusal? = some e := hrefusal
  exact ⟨jobs, heq.trans (by rw [examine, hsame])⟩

/-- A request that is refused gets nothing but its answer. -/
lemma Processes.refuses (h : s.Processes action r) {e : RpcError} (hrefusal : s.refusal? = some e) :
    s.Refuses (s.step action) r.id e := by
  rcases h with ⟨rfl, hmethod⟩ | ⟨t, hexamines, hid⟩
  · have hrefused : (s.beginRequest r.id).2.handleShutdown =
        (.error e, (s.beginRequest r.id).2) := by
      have hsame : (s.beginRequest r.id).2.refusal? = some e := hrefusal
      rw [handleShutdown, hsame]
    rw [step, handle, handleRequest_of_shutdown hmethod, hrefused]
    exact ⟨rfl, rfl, rfl, rfl, rfl, rfl, rfl⟩
  · obtain ⟨jobs, heq⟩ := hexamines.step_eq_endTask hrefusal
    rw [heq, ← hid]
    exact s.refuses_endTask jobs t e

/-- So does one of which the method is not known. -/
lemma Processes.unknown (h : s.Processes action r) (hrefusal : s.refusal? = none)
    (hmethod : r.method ∉ Method.shutdown :: Query.methods) :
    s.Refuses (s.step action) r.id (.methodNotFound r.method) := by
  rw [List.mem_cons, not_or] at hmethod
  rcases h with ⟨-, hshutdown⟩ | ⟨t, hexamines, hid⟩
  · exact absurd hshutdown hmethod.1
  · obtain ⟨host, jobs, heq⟩ := hexamines.step_eq
    have hunknown : { s with jobs }.examine host t r =
        { s with jobs }.endTask t (.error (.methodNotFound r.method)) := by
      have hsame : { s with jobs }.refusal? = none := hrefusal
      rw [examine, hsame]
      dsimp only
      rw [Query.read_of_unknown hmethod.2]
    rw [heq, hunknown, ← hid]
    exact s.refuses_endTask jobs t _

/-! ### The phases of a run -/

/-- The session has ended: by a request, or with the connection. -/
def Ended (settings : Settings) (actions : List (SessionAction π)) : Prop :=
  Succeeded settings actions Method.shutdown ∨ SessionAction.leave ∈ actions

lemma refusal?_of_not_started (h : ¬ Succeeded settings actions Method.initializeRequest) :
    (run settings actions).refusal? = some .notInitialized := by
  rw [← initializeReceived_run, Bool.not_eq_true] at h
  rw [refusal?, h]
  rfl

lemma refusal?_of_ended (h : Succeeded settings actions Method.initializeRequest)
    (hended : Ended settings actions) :
    (run settings actions).refusal? = some (.invalidRequest "Server is shutting down") := by
  rw [← initializeReceived_run] at h
  rw [Ended, ← shutdownRequested_run] at hended
  rw [refusal?, h, hended]
  rfl

lemma refusal?_of_running (h : Succeeded settings actions Method.initializeRequest)
    (hrunning : ¬ Ended settings actions) : (run settings actions).refusal? = none := by
  rw [← initializeReceived_run] at h
  rw [Ended, ← shutdownRequested_run, Bool.not_eq_true] at hrunning
  rw [refusal?, h, hrunning]
  rfl

/-- **The life of a session.** A request to start it succeeds if its parameters can be read and none
has succeeded before; one that fails changes nothing. Every other request, when it is looked at, is
refused before the start and after the end, and in between if its method is not known; then nothing
but its answer comes of it. From the start on, the limit is the client's number if that is an
integer (of 64 bits, as all of them are) between zero and the limit of the settings, and the limit
of the settings otherwise. The connection ends in good order exactly if the loop reads the
notification for it after a request to shut down that succeeded; and once the client closes its
side, the loop takes turns until the connection ends. -/
theorem session_lifecycle (settings : Settings) (actions : List (SessionAction π)) :
    let s := run settings actions
    (∀ r : Request, r.method = Method.initializeRequest →
      let s' := run settings (actions ++ [.message (.request r)])
      ((∃ v, s.outcome? r = some (.ok v)) ↔
        (∃ p, readParams InitializeParams r.params = .ok p) ∧
          ¬ Succeeded settings actions Method.initializeRequest) ∧
      (∀ v, s.outcome? r = some (.ok v) →
        s'.client = (s.client.send (encode (Response.success r.id v))).2) ∧
      ∀ e, s.outcome? r = some (.error e) → s.Refuses s' r.id e) ∧
    (∀ action r, s.Processes action r →
      let s' := run settings (actions ++ [action])
      (¬ Succeeded settings actions Method.initializeRequest →
        ∃ e, e.code = -32002 ∧ s.Refuses s' r.id e) ∧
      (Succeeded settings actions Method.initializeRequest → Ended settings actions →
        ∃ e, e.code = -32600 ∧ s.Refuses s' r.id e) ∧
      (Succeeded settings actions Method.initializeRequest → ¬ Ended settings actions →
        r.method ∉ Method.shutdown :: Query.methods →
          ∃ e, e.code = -32601 ∧ s.Refuses s' r.id e)) ∧
    (∀ earlier r later v p, actions = earlier ++ [.message (.request r)] ++ later →
      r.method = Method.initializeRequest →
      (run settings earlier).outcome? r = some (.ok v) →
      readParams InitializeParams r.params = .ok p →
        let asked := (p.initializationOptions.getD .null).at? ["completion", "maxItems"]
        (∀ n : Nat, asked = some (.int n) → n < 2 ^ 64 → 0 < n →
          n < settings.completion.maxItems → s.language.limits.maxItems = n) ∧
        ((∀ n : Nat, asked = some (.int n) → n < 2 ^ 64 →
          ¬ (0 < n ∧ n < settings.completion.maxItems)) →
            s.language.limits.maxItems = settings.completion.maxItems)) ∧
    ∀ events : List (ServerAction π),
      let server := Server.run settings events
      (server.exit = some (.left true) ↔ Server.HasLeft settings events) ∧
      (∃ turns, server.finishInput =
        Server.run settings (events ++ .endInput :: List.replicate turns .read)) ∧
      server.finishInput.exit.isSome = true := by
  intro s
  refine ⟨fun r hmethod => ?_, fun action r hprocesses => ?_, ?_, fun events =>
    ⟨Server.exit_run settings events, Server.finishInput_run settings events⟩⟩
  · have houtcome := outcome?_of_start (s := s) hmethod
    have hstep : run settings (actions ++ [.message (.request r)]) = _ :=
      (run_append settings actions _).trans (handleRequest_of_start hmethod)
    dsimp only
    rw [hstep, houtcome]
    rcases (s.beginRequest r.id).2.handleInitialize_cases r.params with
      ⟨e, heq, hwhy⟩ | ⟨p, v, hparams, hfirst, hok, -⟩
    · rw [heq]
      refine ⟨iff_of_false nofun fun ⟨⟨p, hparams⟩, hnone⟩ => ?_, nofun, fun e' he' => ?_⟩
      · rcases hwhy with hreceived | hunread
        · exact hnone ((initializeReceived_run settings actions).mp hreceived)
        · exact hunread p hparams
      · cases he'
        exact ⟨rfl, rfl, rfl, rfl, rfl, rfl, rfl⟩
    · rw [hok]
      refine ⟨iff_of_true ⟨v, rfl⟩ ⟨⟨p, hparams⟩, ?_⟩, fun v' hv' => ?_, nofun⟩
      · rw [← initializeReceived_run]
        exact fun hreceived => nomatch hfirst.symm.trans hreceived
      · cases hv'
        rw [respond, send, endRequest, handleInitialize_client]
        rfl
  · dsimp only
    rw [run_append]
    exact ⟨fun h => ⟨_, rfl, hprocesses.refuses (refusal?_of_not_started h)⟩,
      fun h hended => ⟨_, rfl, hprocesses.refuses (refusal?_of_ended h hended)⟩,
      fun h hrunning hmethod =>
        ⟨_, rfl, hprocesses.unknown (refusal?_of_running h hrunning) hmethod⟩⟩
  · rintro earlier r later v p rfl hmethod hok hparams
    have hlimits := limits_run hmethod hok hparams later
    dsimp only
    rw [show s.language.limits = _ from hlimits]
    exact settings.lowerLimit_maxItems _

/-! ### Requests that are read before the start -/

/-- A task that has not been looked at is given up only if it would have been let through. -/
def Attentive (settings : Settings) (actions : List (SessionAction π)) : Prop :=
  ∀ earlier number, earlier ++ [.giveUp number] <+: actions →
    ∀ t ∈ (run settings earlier).tasks, t.number = number → ∀ r, t.stage = .fresh r →
      ∃ query, (run settings earlier).unasked? t = some query

/-- A task that has not been looked at goes on, or it is still there. -/
lemma still_fresh (hs : s.Numbered) (ht : t ∈ s.tasks) (hstage : t.stage = .fresh r)
    (action : SessionAction π) :
    s.pursued? action = some t ∨
    ∃ u ∈ (s.step action).tasks, u.number = t.number ∧ u.id = t.id ∧ u.stage = .fresh r := by
  rcases s.step_cases action with
    ⟨-, hplain | hbrings⟩ | ⟨v, hpursued, ⟨host, jobs, -, hpursues⟩, hv⟩
  · have hmem : t.outline ∈ (s.step action).tasks.map RequestTask.outline :=
      hplain.outline_eq ▸ List.mem_map_of_mem ht
    obtain ⟨u, hu, heq⟩ := List.mem_map.mp hmem
    obtain ⟨hfresh, hid⟩ := RequestTask.fresh_of_outline heq.symm hstage
    have hnumber : u.outline.number = t.outline.number := congrArg RequestTask.number heq
    exact .inr ⟨u, hu, hnumber, hid, hfresh⟩
  · obtain ⟨r', htasks⟩ := hbrings.tasks_eq
    exact .inr ⟨t, htasks ▸ List.mem_append_left _ ht, rfl, rfl, hstage⟩
  · by_cases hnumber : t.number = v.number
    · obtain rfl : t = v := List.inj_on_of_nodup_map hs.nodup ht hv hnumber
      exact .inl hpursued
    · exact .inr ⟨t, (hpursues.spares.others t hnumber).mpr ht, rfl, rfl, hstage⟩

/-- A request becomes a task, and that is there until someone looks at it. -/
lemma fresh_until_pursued {earlier : List (SessionAction π)}
    (hstarts : r.method ≠ Method.initializeRequest) (hshutdown : r.method ≠ Method.shutdown)
    (later : List (SessionAction π)) :
    (∃ t ∈ (run settings (earlier ++ [.message (.request r)] ++ later)).tasks,
      t.number = (run settings earlier).nextTask ∧ t.id = r.id ∧ t.stage = .fresh r) ∨
    ∃ before action after t, later = before ++ action :: after ∧
      t ∈ (run settings (earlier ++ [.message (.request r)] ++ before)).tasks ∧
      t.number = (run settings earlier).nextTask ∧ t.id = r.id ∧ t.stage = .fresh r ∧
      (run settings (earlier ++ [.message (.request r)] ++ before)).pursued? action = some t := by
  induction later using List.reverseRecOn with
  | nil =>
      refine .inl ⟨RequestTask.mk (run settings earlier).nextTask r.id (.fresh r) false false, ?_,
        rfl, rfl, rfl⟩
      rw [List.append_nil, run_append, step, handle, handleRequest_of_task hstarts hshutdown]
      exact List.mem_append_right _ (List.mem_singleton_self _)
  | append_singleton later action ih =>
      rcases ih with ⟨t, ht, hnumber, hid, hstage⟩ | ⟨before, action', after, t, rfl, h⟩
      · rcases still_fresh (run_numbered settings _) ht hstage action with
          hpursued | ⟨u, hu, hnumber', hid', hstage'⟩
        · exact .inr ⟨later, action, [], t, rfl, ht, hnumber, hid, hstage, hpursued⟩
        · refine .inl ⟨u, ?_, hnumber'.trans hnumber, hid'.trans hid, hstage'⟩
          rw [← List.append_assoc, run_append]
          exact hu
      · refine .inr ⟨before, action', after ++ [action], t, ?_, h⟩
        rw [List.append_assoc, List.cons_append]

/-- Before the start, a task that goes on is looked at, and not given up. -/
lemma examines_of_pursued (hattentive : Attentive settings (actions ++ [action]))
    (hstarted : ¬ Succeeded settings actions Method.initializeRequest)
    (hpursued : (run settings actions).pursued? action = some t)
    (ht : t ∈ (run settings actions).tasks) (hstage : t.stage = .fresh r) :
    (run settings actions).Examines action t r := by
  cases action with
  | work host index => exact ⟨⟨host, index, rfl⟩, hpursued, hstage⟩
  | giveUp number =>
      have hnumber : t.number = number := by
        rw [pursued?] at hpursued
        obtain ⟨hfind, -⟩ := Option.filter_eq_some_iff.mp hpursued
        have heq := List.find?_some hfind
        exact beq_iff_eq.mp heq
      obtain ⟨query, hquery⟩ := hattentive actions number List.prefix_rfl t ht hnumber r hstage
      rw [unasked?, hstage] at hquery
      dsimp only at hquery
      rw [refusal?_of_not_started hstarted] at hquery
      cases hquery
  | _ => cases hpursued

/-- A query that is let through is put to providers. -/
lemma Examines.asked_eq (h : s.Examines action t r) (hrefusal : s.refusal? = none) {query : Query}
    (hread : Query.read r.method r.params = .ok query) {question : Question} {origin : Option Token}
    {asked : List (Asked π)} (hstart : s.language.start query = .ask question origin asked) :
    (s.step action).asked = s.asked ++ asked.map fun a => (a.handle, question) := by
  obtain ⟨host, jobs, heq⟩ := h.step_eq
  have hbegin : { s with jobs }.examine host t r = { s with jobs }.begin host t query := by
    have hsame : { s with jobs }.refusal? = none := hrefusal
    rw [examine, hsame]
    dsimp only
    rw [hread]
  have hawait (s : Session π) (origin : Option Token) (inquiry : Inquiry π) :
      (s.await t query origin inquiry).asked = s.asked := by
    rw [await]
    split
    · rfl
    · rw [wait]
      split
      · rfl
      · split <;> rfl
  have hstart' : { s with jobs }.language.start query = .ask question origin asked := hstart
  rw [heq, hbegin, begin, hstart']
  exact hawait _ _ _

/-- **What becomes of requests that are read before the start**, other than the one that starts the
session. The one to shut down is refused at once. Any other one becomes a task, which is there
until a step looks at it. If the session has not started by then, the request is refused, and
nobody looks at its task again. But if the session has started and not ended by then, the request is
let through: its query is put to providers like that of a request that has been read later. -/
theorem early_requests_outcome (settings : Settings) (earlier later : List (SessionAction π))
    (r : Request) (hmethod : r.method ≠ Method.initializeRequest)
    (hearly : ¬ Succeeded settings earlier Method.initializeRequest)
    (hattentive : Attentive settings (earlier ++ [.message (.request r)] ++ later)) :
    let number := (run settings earlier).nextTask
    let read := earlier ++ [.message (.request r)]
    (r.method = Method.shutdown →
      ∃ e, e.code = -32002 ∧ (run settings earlier).Refuses (run settings read) r.id e) ∧
    (r.method ≠ Method.shutdown →
      (∃ t ∈ (run settings (read ++ later)).tasks,
        t.number = number ∧ t.id = r.id ∧ t.stage = .fresh r) ∨
      ∃ before action after, later = before ++ action :: after ∧
        let s := run settings (read ++ before)
        let s' := run settings (read ++ before ++ [action])
        (∃ t, s.pursued? action = some t ∧ t.number = number ∧ t.id = r.id ∧
          t.stage = .fresh r) ∧
        (¬ Succeeded settings (read ++ before) Method.initializeRequest →
          (∃ e, e.code = -32002 ∧ s.Refuses s' r.id e) ∧
          ∀ u ∈ (run settings (read ++ later)).tasks, u.number ≠ number) ∧
        (Succeeded settings (read ++ before) Method.initializeRequest →
          ¬ Ended settings (read ++ before) → (∃ host index, action = .work host index) →
          ∀ query question origin asked, Query.read r.method r.params = .ok query →
            s.language.start query = .ask question origin asked →
              s'.asked = s.asked ++ asked.map fun a => (a.handle, question))) := by
  intro number read
  refine ⟨fun hshutdown => ⟨.notInitialized, rfl, ?_⟩, fun hshutdown => ?_⟩
  · rw [run_append]
    exact Processes.refuses (.inl ⟨rfl, hshutdown⟩) (refusal?_of_not_started hearly)
  · refine (fresh_until_pursued hmethod hshutdown later).imp_right ?_
    rintro ⟨before, action, after, t, rfl, ht, hnumber, hid, hstage, hpursued⟩
    refine ⟨before, action, after, rfl, ⟨t, hpursued, hnumber, hid, hstage⟩, fun hstarted => ?_,
      fun hstarted hrunning hwork query question origin asked hread hstart => ?_⟩
    · have hsplit : read ++ (before ++ action :: after) = read ++ before ++ [action] ++ after := by
        simp
      have hexamines : (run settings (read ++ before)).Examines action t r := by
        refine examines_of_pursued (fun other n hother => hattentive other n ?_) hstarted hpursued
          ht hstage
        exact hother.trans ⟨after, hsplit.symm⟩
      have hrefusal := refusal?_of_not_started hstarted
      refine ⟨⟨.notInitialized, rfl, ?_⟩, ?_⟩
      · rw [run_append]
        exact Processes.refuses (.inr ⟨t, hexamines, hid⟩) hrefusal
      · -- the task has ended, and it does not come back
        obtain ⟨jobs, hended⟩ := hexamines.step_eq_endTask hrefusal
        have hgiven := (run_numbered settings (read ++ before)).lt_next t ht
        rw [hsplit, show number = t.number from hnumber.symm]
        refine ended_run ?_ ?_ after
        · rw [run_append]
          exact hgiven.trans_le (nextTask_step_le _ action)
        · rw [run_append, hended]
          exact not_mem_endTask _ t _
    · rw [run_append]
      exact Examines.asked_eq ⟨hwork, hpursued, hstage⟩ (refusal?_of_running hstarted hrunning)
        hread hstart

/-- A command with a handler. -/
def builderRun : List (SessionAction Unit) := [.registerCommand "build" ()]

/-- A request to run it. -/
def buildRequest : Request :=
  { id := .number 1
    method := Method.executeCommand
    params := some (Json.object [("command", .str "build")]) }

/-- The session starts, and then the request is looked at. -/
def lateStart : List (SessionAction Unit) :=
  [asks 2 Method.initializeRequest (Json.object []), nextJob]

/-- The handler is called for a request that was read before the start. -/
theorem early_requests_outcome_lateStart :
    ¬ Succeeded {} builderRun Method.initializeRequest ∧
    (run {} (builderRun ++ [.message (.request buildRequest)] ++ lateStart)).asked =
      [((), .execute { title := "", command := "build" })] ∧
    ∃ before action after, lateStart = before ++ action :: after ∧
      (∃ t, (run {} (builderRun ++ [.message (.request buildRequest)] ++ before)).pursued? action =
        some t ∧ t.stage = .fresh buildRequest) ∧
      Succeeded {} (builderRun ++ [.message (.request buildRequest)] ++ before)
        Method.initializeRequest := by
  have hearly : ¬ Succeeded {} builderRun Method.initializeRequest := by
    rw [← initializeReceived_run]
    decide +kernel
  have hattentive : Attentive {}
      (builderRun ++ [.message (.request buildRequest)] ++ lateStart) := by
    intro earlier number hearlier
    have hmem := hearlier.subset (List.mem_append_right _ (List.mem_singleton_self _))
    simp [builderRun, lateStart, asks, nextJob] at hmem
  refine ⟨hearly, by decide +kernel, ?_⟩
  obtain ⟨-, hcases⟩ := early_requests_outcome {} builderRun lateStart buildRequest (by decide)
    hearly hattentive
  rcases hcases (by decide) with ⟨t, ht, -, -, hstage⟩ |
    ⟨before, action, after, heq, ⟨t, hpursued, -, -, hstage⟩, hrefused, -⟩
  · have hasking : ∀ t ∈ (run {} (builderRun ++ [.message (.request buildRequest)] ++
        lateStart)).tasks, (inquiry? t).isSome = true := by
      decide +kernel
    have hinquiry := hasking t ht
    rw [inquiry?, hstage] at hinquiry
    cases hinquiry
  · -- the task is still there, so it has not been refused
    refine ⟨before, action, after, heq, ⟨t, hpursued, hstage⟩, ?_⟩
    by_contra hstarted
    have hthere : ∃ t ∈ (run {} (builderRun ++ [.message (.request buildRequest)] ++
        lateStart)).tasks, t.number = (run {} builderRun).nextTask := by
      decide +kernel
    obtain ⟨t, ht, hnumber⟩ := hthere
    exact (hrefused hstarted).2 t ht hnumber

end Session

end ProviderHub
