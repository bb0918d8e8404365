import Mathlib.Tactic
import ProviderHub.Proofs.Rpc.Messages
import ProviderHub.Proofs.Session.Runs

/-!
What a session sends to its client.

* `Json.isResponseTo`, `Json.calls`: which messages answer a request, and which ones call a method;
* `Client.Asks`: nothing is sent but requests of the server, of methods that are allowed;
* `Client.Queues`: nothing is sent but messages that are allowed;
* `Session.flush_asks`, `Session.resume_asks`: the requests of a flush. Those that follow the
  client's answer only take registrations back.
-/

namespace ProviderHub

/-! ### Messages -/

/-- Whether a message is the response to a request of the given name. -/
def Json.isResponseTo (id : RequestId) (message : Json) : Bool :=
  !message.hasKey "method" && decide (message.get? "id" = some (encode id))

/-- Whether a message calls a method. -/
def Json.calls (method : String) (message : Json) : Bool :=
  decide (message.get? "method" = some (.str method))

lemma isResponseTo_request (id : RequestId) (r : Request) :
    (encode r).isResponseTo id = false := by
  rw [Json.isResponseTo, Json.hasKey, get?_method_request]
  rfl

lemma isResponseTo_notification (id : RequestId) (n : Notification) :
    (encode n).isResponseTo id = false := by
  rw [Json.isResponseTo, Json.hasKey, get?_method_notification]
  rfl

/-- A response names the request that it answers. -/
lemma isResponseTo_response (id : RequestId) (r : Response) :
    (encode r).isResponseTo id = decide (r.id = some id) := by
  rw [Json.isResponseTo, Json.hasKey, get?_method_response, get?_id_response]
  cases hid : r.id with
  | none => simpa using (RequestId.encode_ne_null id).symm
  | some other => simp [RequestId.encode_injective.eq_iff]

lemma calls_request (method : String) (r : Request) :
    (encode r).calls method = decide (r.method = method) := by
  simp [Json.calls, get?_method_request]

lemma calls_notification (method : String) (n : Notification) :
    (encode n).calls method = decide (n.method = method) := by
  simp [Json.calls, get?_method_notification]

lemma calls_response (method : String) (r : Response) : (encode r).calls method = false := by
  simp [Json.calls, get?_method_response]

/-! ### Requests of the server -/

namespace Client

variable {ω : Type} {P Q : String → Prop} {c c' c'' : Client ω}

/-- Nothing is sent but requests of methods that are allowed. -/
structure Asks (P : String → Prop) (c c' : Client ω) : Prop where
  connected_eq : c'.connected = c.connected
  queue_eq : ∃ requests : List Request, c'.queue = c.queue ++ requests.map encode ∧
    ∀ r ∈ requests, P r.method

/-- Nothing is sent at all. -/
lemma Asks.of_queue_eq (hconnected : c'.connected = c.connected) (hqueue : c'.queue = c.queue) :
    c.Asks P c' :=
  ⟨hconnected, [], by rw [hqueue, List.map_nil, List.append_nil],
    fun _ hr => (List.not_mem_nil hr).elim⟩

@[refl] lemma Asks.refl (c : Client ω) : c.Asks P c := .of_queue_eq rfl rfl

lemma Asks.trans (h : c.Asks P c') (h' : c'.Asks P c'') : c.Asks P c'' := by
  obtain ⟨requests, hqueue, hallowed⟩ := h.queue_eq
  obtain ⟨requests', hqueue', hallowed'⟩ := h'.queue_eq
  refine ⟨h'.connected_eq.trans h.connected_eq, requests ++ requests', ?_, fun r hr => ?_⟩
  · rw [hqueue', hqueue, List.map_append, List.append_assoc]
  · exact (List.mem_append.mp hr).elim (hallowed r) (hallowed' r)

lemma Asks.mono (h : c.Asks P c') (himp : ∀ method, P method → Q method) :
    c.Asks Q c' := by
  obtain ⟨requests, hqueue, hallowed⟩ := h.queue_eq
  exact ⟨h.connected_eq, requests, hqueue, fun r hr => himp _ (hallowed r hr)⟩

lemma request_asks (c : Client ω) {method : String} (params : Option Json) (waiter : ω)
    (hmethod : P method) : c.Asks P (c.request method params waiter).2 := by
  rw [request, send]
  dsimp only
  split
  · refine ⟨rfl, [_], rfl, fun r hr => ?_⟩
    rw [List.mem_singleton.mp hr]
    exact hmethod
  · exact .of_queue_eq rfl rfl

lemma receive_asks (c : Client ω) (r : Response) : c.Asks P (c.receive r).2 := by
  rw [receive]
  split
  · exact .of_queue_eq rfl rfl
  · rfl

lemma expire_asks (c : Client ω) (id : Nat) : c.Asks P (c.expire id).2 := by
  rw [expire]
  split
  · exact .of_queue_eq rfl rfl
  · rfl

/-- Nothing is sent but messages that are allowed. -/
def Queues (R : Json → Prop) (c c' : Client ω) : Prop :=
  ∃ messages, c'.queue = c.queue ++ messages ∧ ∀ message ∈ messages, R message

variable {R : Json → Prop}

@[refl] lemma Queues.refl (c : Client ω) : c.Queues R c :=
  ⟨[], (List.append_nil _).symm, fun _ h => (List.not_mem_nil h).elim⟩

lemma send_queues (c : Client ω) {message : Json} (h : R message) :
    c.Queues R (c.send message).2 := by
  rw [send]
  split
  · exact ⟨[message], rfl, fun _ hmem => List.mem_singleton.mp hmem ▸ h⟩
  · rfl

lemma Asks.queues (h : c.Asks P c') (himp : ∀ r : Request, P r.method → R (encode r)) :
    c.Queues R c' := by
  obtain ⟨requests, hqueue, hallowed⟩ := h.queue_eq
  refine ⟨_, hqueue, fun message hmessage => ?_⟩
  obtain ⟨r, hr, rfl⟩ := List.mem_map.mp hmessage
  exact himp r (hallowed r hr)

end Client

/-- What a flush asks after the client's answer: it takes registrations back. -/
lemma WatchEngine.reply_call {e : WatchEngine} {id : FlushId} {accepted : Bool}
    {call : RegistrarCall} (h : (e.reply id accepted).1 = some call) :
    ∃ ids, call = .unregister ids := by
  rw [reply] at h
  split at h
  · cases h
  · split at h
    · rw [takeBack] at h
      split at h
      · cases h
      · exact ⟨_, (Option.some_inj.mp h).symm⟩
    · cases h

namespace Session

variable {π : Type}

lemma submitLast_asks (s : Session π) (flush : FlushId) {call : RegistrarCall}
    (hcall : ∃ ids, call = .unregister ids) :
    s.client.Asks (· = Method.unregisterCapability) (s.submitLast flush call).client := by
  obtain ⟨ids, rfl⟩ := hcall
  rw [submitLast]
  dsimp only
  split <;> exact s.client.request_asks _ _ rfl

/-- After the client's answer a flush only takes registrations back. -/
lemma flushAnswered_asks (s : Session π) (flush : FlushId) (accepted : Bool) :
    s.client.Asks (· = Method.unregisterCapability) (s.flushAnswered flush accepted).client := by
  rw [flushAnswered]
  dsimp only
  split
  · rename_i call hcall
    exact submitLast_asks { s with watch := (s.watch.reply flush accepted).2 } flush
      (WatchEngine.reply_call hcall)
  · rfl

lemma resume_asks (s : Session π) (a : Answered Waiter) :
    s.client.Asks (· = Method.unregisterCapability) (s.resume a).client := by
  rw [resume]
  split
  · rfl
  · rfl
  · exact s.flushAnswered_asks _ _

lemma submit_asks (s : Session π) (flush : FlushId) (call : RegistrarCall) :
    s.client.Asks (fun _ => True) (s.submit flush call).client := by
  rw [submit]
  dsimp only
  have hrequest : s.client.Asks (fun _ => True)
      (s.client.request call.request.1 (some call.request.2) (.flush flush)).2 :=
    s.client.request_asks _ _ trivial
  split
  · exact hrequest
  · have hanswered := flushAnswered_asks { s with
      client := (s.client.request call.request.1 (some call.request.2) (.flush flush)).2 }
      flush false
    exact hrequest.trans (hanswered.mono fun _ _ => trivial)

/-- Once watching has ended, a flush asks for nothing. -/
lemma flush_asks (s : Session π) (onDisk : Url → Bool) :
    s.client.Asks (fun _ => s.watch.closed = false) (s.flush onDisk).client := by
  rw [flush]
  dsimp only
  split
  · rename_i flush call hcall
    have hopen : s.watch.closed = false := by
      rw [WatchEngine.flush] at hcall
      cases hclosed : s.watch.closed with
      | false => rfl
      | true => simp [hclosed] at hcall
    exact (submit_asks { s with watch := (s.watch.flush onDisk).2 } flush call).mono
      fun _ _ => hopen
  · rfl

end Session

end ProviderHub
