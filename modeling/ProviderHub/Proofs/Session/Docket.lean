import Mathlib.Tactic
import ProviderHub.Proofs.Session.Outgoing
import ProviderHub.Proofs.Session.Tasks
import ProviderHub.Proofs.Watch.Roots

/-!
The docket of a session: who is to be answered, and who can be cancelled.

Of a session only the requests that have not been answered matter here, the table of those that can
be cancelled, and how many responses there have been under each name.

* `Docket`, `Session.docket`: this part of a session;
* `Docket.Moves`: all that one step can do to it, as `Session.step_moves` says;
* `Docket.Balanced`, `Docket.Matched`: each request is open or has its response, and the table lists
  the open ones.
-/

namespace ProviderHub

/-- A request that has not been answered. -/
structure Slip where
  number : TaskId
  id : RequestId
  cancelled : Bool
deriving DecidableEq, Repr

/-- The slip of a task. -/
def RequestTask.slip {π : Type} (t : RequestTask π) : Slip := ⟨t.number, t.id, t.cancelled⟩

/-- Who is to be answered, and who can be cancelled. -/
@[ext]
structure Docket where
  slips : List Slip
  /-- The requests that can be cancelled, and their numbers. -/
  table : List (RequestId × TaskId)
  /-- The number of the next request. -/
  next : TaskId
  /-- How many responses there have been under a name. -/
  responses : RequestId → Nat
  connected : Bool
  stopped : Bool

namespace Docket

/-- A request can be cancelled from now on, under the next number. -/
def enter (d : Docket) (id : RequestId) : Docket :=
  { d with table := d.table.filter (·.1 != id) ++ [(id, d.next)], next := d.next + 1 }

/-- A request has come that is not answered at once. -/
def accept (d : Docket) (id : RequestId) : Docket :=
  { d.enter id with slips := d.slips ++ [⟨d.next, id, false⟩] }

/-- A request gets its response, and can no longer be cancelled. -/
def answer (d : Docket) (id : RequestId) : Docket :=
  { d with
    table := d.table.filter (·.1 != id)
    responses := fun other =>
      d.responses other + if d.connected = true ∧ other = id then 1 else 0 }

/-- An open request gets its response. -/
def close (d : Docket) (slip : Slip) : Docket :=
  { d with slips := d.slips.filter (·.number != slip.number) }.answer slip.id

/-- The requests of the given numbers are marked as cancelled. -/
def mark (d : Docket) (numbers : List TaskId) : Docket :=
  { d with slips := d.slips.map fun slip =>
      if slip.number ∈ numbers then { slip with cancelled := true } else slip }

/-- A request is cancelled, if it can be. -/
def cancel (d : Docket) (id : RequestId) : Docket := d.mark (d.table.lookup id).toList

/-- All requests are cancelled that can be. -/
def stop (d : Docket) : Docket :=
  { d.mark (d.table.map Prod.snd) with table := [], stopped := true }

/-- **All that a step can do** while there is a connection: a request that comes stays open, or gets
its response at once, and may stop everything before; without one, nothing happens, or some request
is cancelled, or an open one gets its response. -/
inductive Moves (d : Docket) : Option RequestId → Docket → Prop
  | stay : Moves d none d
  | cancel (id : RequestId) : Moves d none (d.cancel id)
  | close {slip : Slip} : slip ∈ d.slips → Moves d none (d.close slip)
  | accept (id : RequestId) : Moves d (some id) (d.accept id)
  | answer (id : RequestId) : Moves d (some id) ((d.enter id).answer id)
  | stop (id : RequestId) :
      d.stopped = false → Moves d (some id) ((d.enter id).stop.answer id)

section lemmas

variable (d : Docket) (id other : RequestId) (numbers : List TaskId)

@[simp] lemma slips_answer : (d.answer id).slips = d.slips := rfl

@[simp] lemma responses_answer : (d.answer id).responses other =
    d.responses other + if d.connected = true ∧ other = id then 1 else 0 := rfl

@[simp] lemma slips_enter : (d.enter id).slips = d.slips := rfl

@[simp] lemma responses_enter : (d.enter id).responses = d.responses := rfl

@[simp] lemma connected_enter : (d.enter id).connected = d.connected := rfl

@[simp] lemma slips_accept : (d.accept id).slips = d.slips ++ [⟨d.next, id, false⟩] := rfl

@[simp] lemma responses_accept : (d.accept id).responses = d.responses := rfl

@[simp] lemma ids_mark : (d.mark numbers).slips.map (·.id) = d.slips.map (·.id) := by
  rw [mark, List.map_map]
  refine List.map_congr_left fun slip _ => ?_
  rw [Function.comp_apply]
  split <;> rfl

lemma numbers_mark : (d.mark numbers).slips.map (·.number) = d.slips.map (·.number) := by
  rw [mark, List.map_map]
  refine List.map_congr_left fun slip _ => ?_
  rw [Function.comp_apply]
  split <;> rfl

@[simp] lemma ids_stop : d.stop.slips.map (·.id) = d.slips.map (·.id) := ids_mark _ _

@[simp] lemma responses_stop : d.stop.responses = d.responses := rfl

@[simp] lemma connected_stop : d.stop.connected = d.connected := rfl

/-- A request that gets its response at once leaves no trace in the table. -/
lemma table_enter_answer :
    ((d.enter id).answer id).table = d.table.filter (·.1 != id) := by
  simp [enter, answer, List.filter_append]

end lemmas

lemma mark_nil (d : Docket) : d.mark [] = d := by
  simp [mark]

lemma mark_mark (d : Docket) (numbers others : List TaskId) :
    (d.mark numbers).mark others = d.mark (numbers ++ others) := by
  refine Docket.ext ?_ rfl rfl rfl rfl rfl
  simp only [mark, List.map_map]
  refine List.map_congr_left fun slip _ => ?_
  by_cases h : slip.number ∈ numbers <;> by_cases h' : slip.number ∈ others <;> simp [h, h']

end Docket

/-! ### The docket of a session -/

/-- The name of the request that arrives with an action. -/
def SessionAction.requestId? {π : Type} : SessionAction π → Option RequestId
  | .message (.request r) => some r.id
  | _ => none

namespace Session

variable {π : Type} {s s' : Session π} {host : Host π} {t : RequestTask π}

/-- How many responses under a name have been queued. -/
def responses (s : Session π) (id : RequestId) : Nat :=
  s.client.queue.countP (Json.isResponseTo id)

/-- The part of a session that is about answers and cancelling. -/
def docket (s : Session π) : Docket where
  slips := s.tasks.map RequestTask.slip
  table := s.inFlight
  next := s.nextTask
  responses := s.responses
  connected := s.client.connected
  stopped := s.shutdownRequested

lemma docket_respond (s : Session π) (id : RequestId) (outcome : Except RpcError Json) :
    (s.respond id outcome).docket = s.docket.answer id := by
  have hresponse (response : Response) (hid : response.id = some id) (other : RequestId) :
      (s.client.send (encode response)).2.queue.countP (Json.isResponseTo other) =
        s.responses other + if s.client.connected = true ∧ other = id then 1 else 0 := by
    rw [Client.send]
    split
    · rename_i hconnected
      simp [responses, isResponseTo_response, hid, hconnected, eq_comm]
    · rename_i hclosed
      simp [responses, hclosed]
  have hconnected (message : Json) :
      (s.client.send message).2.connected = s.client.connected := by
    rw [Client.send]
    split <;> rfl
  refine Docket.ext rfl rfl rfl (funext fun other => ?_) (hconnected _) rfl
  cases outcome with
  | ok value => exact hresponse _ rfl other
  | error e => exact hresponse _ rfl other

lemma docket_endTask (s : Session π) (t : RequestTask π) (outcome : Except RpcError Json) :
    (s.endTask t outcome).docket = s.docket.close t.slip := by
  rw [endTask, docket_respond, Docket.close]
  refine congrArg (Docket.answer · t.id) (Docket.ext ?_ rfl rfl rfl rfl rfl)
  simp only [docket, List.filter_map]
  rfl

/-- A task goes on under its name and number. -/
lemma docket_updateTask (s : Session π) (number : TaskId) {f : RequestTask π → RequestTask π}
    (hf : ∀ t, (f t).slip = t.slip) : (s.updateTask number f).docket = s.docket := by
  refine Docket.ext ?_ rfl rfl rfl rfl rfl
  simp only [docket, updateTask, List.map_map]
  refine List.map_congr_left fun t _ => ?_
  rw [Function.comp_apply]
  split
  · exact hf t
  · rfl

lemma docket_cancelTask (s : Session π) (number : TaskId) :
    (s.cancelTask number).docket = s.docket.mark [number] := by
  refine Docket.ext ?_ rfl rfl rfl rfl rfl
  simp only [docket, cancelTask, updateTask, wake, Docket.mark, List.map_map]
  refine List.map_congr_left fun t _ => ?_
  by_cases h : t.number = number <;> simp [h, RequestTask.slip]

lemma docket_cancelRequest (s : Session π) (id : RequestId) :
    (s.cancelRequest id).2.docket = s.docket.cancel id := by
  rw [cancelRequest, Docket.cancel]
  show _ = s.docket.mark (s.inFlight.lookup id).toList
  split
  · rename_i number hlookup
    rw [hlookup, docket_cancelTask]
    rfl
  · rename_i hlookup
    rw [hlookup]
    exact s.docket.mark_nil.symm

lemma docket_foldl_cancelTask (s : Session π) (requests : List (RequestId × TaskId)) :
    (requests.foldl (fun s (_, number) => s.cancelTask number) s).docket =
      s.docket.mark (requests.map Prod.snd) := by
  induction requests generalizing s with
  | nil => exact s.docket.mark_nil.symm
  | cons request requests ih =>
      rw [List.foldl_cons, ih, docket_cancelTask, Docket.mark_mark]
      rfl

lemma docket_shutdown (hrunning : s.shutdownRequested = false) :
    s.shutdown.docket = s.docket.stop := by
  have hmarked := s.docket_foldl_cancelTask s.inFlight
  have hslips := congrArg Docket.slips hmarked
  have hnext := congrArg Docket.next hmarked
  have hresponses := congrArg Docket.responses hmarked
  have hconnected := congrArg Docket.connected hmarked
  rw [shutdown, hrunning, if_neg Bool.false_ne_true]
  exact Docket.ext hslips rfl hnext hresponses hconnected rfl

/-- Requests of the server are no responses. -/
lemma docket_aside {P : String → Prop} (h : s.Aside s')
    (hasks : s.client.Asks P s'.client) : s'.docket = s.docket := by
  obtain ⟨watch, client, finished, rfl⟩ := h
  obtain ⟨requests, hqueue, -⟩ := hasks.queue_eq
  refine Docket.ext rfl rfl rfl (funext fun id => ?_) hasks.connected_eq rfl
  show client.queue.countP _ = _
  have hnone : (requests.map encode).countP (Json.isResponseTo id) = 0 := by
    rw [List.countP_eq_zero]
    intro message hmessage
    obtain ⟨r, -, rfl⟩ := List.mem_map.mp hmessage
    rw [isResponseTo_request]
    exact Bool.false_ne_true
  rw [hqueue, List.countP_append, hnone, Nat.add_zero]
  rfl

/-- Nor are messages that name nobody. -/
lemma docket_send (s : Session π) {message : Json}
    (h : ∀ id, message.isResponseTo id = false) : (s.send message).docket = s.docket := by
  rw [send, Client.send]
  split
  · refine Docket.ext rfl rfl rfl (funext fun id => ?_) rfl rfl
    simp [docket, responses, h id]
  · rfl

lemma docket_openGate (s : Session π) (gate : GateName) (value : Json) :
    (s.openGate gate value).2.docket = s.docket := by
  rw [openGate]
  dsimp only
  split <;> rfl

lemma docket_answer (s : Session π) (call : CallId) (reply : Option Reply) :
    (s.answer call reply).docket = s.docket := by
  refine Docket.ext ?_ rfl rfl rfl rfl rfl
  simp only [docket, answer, List.map_map]
  refine List.map_congr_left fun t _ => ?_
  rw [Function.comp_apply]
  split <;> rfl

lemma docket_start (s : Session π) (p : InitializeParams) : (s.start p).2.docket = s.docket := by
  rw [start]
  split
  · rfl
  · have hopened (s : Session π) (options : Json) :
        (s.openGate .configured options).2.docket = s.docket := s.docket_openGate _ _
    split <;> split <;> exact hopened _ _

lemma docket_handleInitialize (s : Session π) (params : Option Json) :
    (s.handleInitialize params).2.docket = s.docket := by
  rw [handleInitialize]
  split
  · exact s.docket_start _
  · rfl

/-! ### Moves -/

lemma handleRequest_moves (s : Session π) (r : Request) :
    s.docket.Moves (some r.id) (s.handleRequest r).docket := by
  have hbegin : (s.beginRequest r.id).2.docket = s.docket.enter r.id := rfl
  rw [handleRequest]
  dsimp only
  split
  · rw [docket_respond, docket_handleInitialize, hbegin]
    exact .answer r.id
  · split
    · rw [docket_respond, handleShutdown]
      split
      · rw [hbegin]
        exact .answer r.id
      · rename_i hrefusal
        have hrunning : s.shutdownRequested = false := by
          rw [refusal?] at hrefusal
          split at hrefusal
          · cases hrefusal
          · split at hrefusal
            · cases hrefusal
            · rename_i hstopped
              exact Bool.not_eq_true _ ▸ hstopped
        dsimp only
        rw [docket_shutdown (s := (s.beginRequest r.id).2) hrunning, hbegin]
        exact .stop r.id hrunning
    · have haccept : { (s.beginRequest r.id).2 with
          tasks := s.tasks ++ [RequestTask.mk s.nextTask r.id (.fresh r) false false] }.docket =
          s.docket.accept r.id := by
        simp only [docket, Docket.accept, List.map_append]
        rfl
      have hmoves := Docket.Moves.accept (d := s.docket) r.id
      rw [← haccept] at hmoves
      exact hmoves

lemma Heeds.moves {n : Notification} (h : s.Heeds n s') : s.docket.Moves none s'.docket := by
  cases h with
  | initialized =>
      rw [docket_openGate]
      exact .stay
  | cancel id =>
      rw [docket_cancelRequest]
      exact .cancel id
  | _ => exact .stay

lemma docket_resume (s : Session π) (a : Answered Waiter) : (s.resume a).docket = s.docket :=
  docket_aside (s.resume_aside a) (s.resume_asks a)

/-- A job that calls no task leaves all requests as they are. -/
lemma docket_runJob {job : Job} (htask : ∀ number, job = .task number →
    s.tasks.find? (·.number == number) = none) : (s.runJob host job).docket = s.docket := by
  cases job with
  | task number => rw [runJob, poll, htask number rfl]
  | features =>
      rw [runJob, registerFeatures]
      split
      · exact docket_aside (s := { s with features := .requested }) ⟨_, _, _, rfl⟩
          (s.client.request_asks (P := fun _ => True) _ _ trivial)
      · rfl
  | answered a => exact s.docket_resume a
  | overdue id =>
      have hexpire : { s with client := (s.client.expire id).2 }.docket = s.docket :=
        docket_aside ⟨_, _, _, rfl⟩ (s.client.expire_asks (P := fun _ => True) id)
      rw [runJob]
      dsimp only
      split
      · exact (docket_resume _ _).trans hexpire
      · exact hexpire
  | sweep feature =>
      rw [runJob]
      split <;> rfl
  | flush => exact docket_aside (s.flush_aside _) (s.flush_asks _)

lemma Consults.docket_eq {query : Query} {origin : Option Token} {inquiry : Inquiry π}
    (h : Consults host s t query origin inquiry s') : s'.docket = s.docket := by
  cases h <;> rfl

/-- A task that goes on stays open, or gets its response. -/
lemma Pursues.moves (h : Pursues host s t s') (ht : t ∈ s.tasks) :
    s.docket.Moves none s'.docket := by
  have hclose : s.docket.Moves none (s.docket.close t.slip) := .close (List.mem_map_of_mem ht)
  have hstay : s.docket.Moves none s.docket := .stay
  cases h with
  | refused e => rwa [docket_endTask]
  | replied => rwa [docket_endTask]
  | @gated query =>
      rwa [docket_updateTask _ _ (f := ({ · with stage := .gated query })) fun _ => rfl]
  | dropped e hconsults => rwa [docket_endTask, hconsults.docket_eq]
  | @asking query origin inquiry s'' hconsults =>
      rwa [docket_updateTask _ _ (f := ({ · with stage := .asking query origin inquiry }))
        fun _ => rfl, hconsults.docket_eq]
  | finished hconsults =>
      rw [docket_endTask]
      exact hconsults.docket_eq ▸ hclose

/-- **What a step does to the docket.** -/
lemma step_moves (s : Session π) {action : SessionAction π} (haction : action ≠ .leave) :
    s.docket.Moves action.requestId? (s.step action).docket := by
  have hpursued {t : RequestTask π} (hproceeds : s.Proceeds t (s.step action)) :
      s.docket.Moves none (s.step action).docket := by
    obtain ⟨⟨host, jobs, -, hpursues⟩, ht⟩ := hproceeds
    exact hpursues.moves ht
  have hstay {s' : Session π} (h : s'.docket = s.docket) : s.docket.Moves none s'.docket :=
    h ▸ .stay
  cases action with
  | leave => exact absurd rfl haction
  | message m =>
      cases m with
      | request r => exact s.handleRequest_moves r
      | response r =>
          have haside : s.Aside { s with client := (s.client.receive r).2 } := ⟨_, _, _, rfl⟩
          have hreceive := docket_aside haside (s.client.receive_asks (P := fun _ => True) r)
          exact hstay hreceive
      | notification n => exact (s.handleNotification_heeds n).moves
  | garbage =>
      refine hstay (s.docket_send fun id => ?_)
      rw [isResponseTo_response]
      rfl
  | work host index =>
      rcases s.work_cases host index with ⟨hnone, -⟩ | ⟨t, -, hproceeds⟩
      · refine hstay ?_
        rw [step, work]
        rw [pursued?] at hnone
        split
        · rename_i job hjob
          refine (docket_runJob (s := { s with jobs := s.jobs.eraseIdx index }) ?_).trans rfl
          rintro number rfl
          rw [hjob] at hnone
          exact hnone
        · rfl
      · exact hpursued hproceeds
  | giveUp number =>
      rcases s.giveUp_cases number with ⟨hnone, -⟩ | ⟨t, -, hproceeds⟩
      · refine hstay ?_
        rw [step, giveUp]
        rw [pursued?] at hnone
        split
        · rename_i t hfind
          rw [hfind, Option.filter_some] at hnone
          split
          · rename_i hcancelled
            rw [if_pos hcancelled] at hnone
            cases hnone
          · rfl
        · rfl
      · exact hpursued hproceeds
  | answer call reply => exact hstay (s.docket_answer call reply)
  | timeUp timer =>
      refine hstay ?_
      rw [step]
      split
      · cases timer with
        | request number => exact s.docket_updateTask number fun _ => rfl
        | _ => rfl
      · rfl
  | openGate gate value => exact hstay (s.docket_openGate gate value)
  | cancel id =>
      rw [step, docket_cancelRequest]
      exact .cancel id
  | notify method params =>
      refine hstay (s.docket_send fun id => ?_)
      exact isResponseTo_notification id _
  | request name method params =>
      refine hstay (docket_aside (P := fun _ => True) (s.request_aside name method params) ?_)
      rw [step, request]
      dsimp only
      split <;> exact s.client.request_asks _ _ trivial
  | flush onDisk => exact hstay (docket_aside (s.flush_aside onDisk) (s.flush_asks onDisk))
  | _ => exact hstay rfl

end Session

end ProviderHub
