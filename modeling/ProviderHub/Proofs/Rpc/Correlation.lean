import ProviderHub.Proofs.Numbered
import ProviderHub.Proofs.Rpc.Messages
import ProviderHub.Rpc.Client

/-!
Requests to a client and what becomes of them.

The server calls methods of the client, responses come in any order and under any names, and in
between calls are given up and the connection ends. A history is the side of the connection that
leads to the client together with the calls that have been made, how they have ended, and what has
been written. A call is known by its place among all calls.

* `ClientHistory.step`, `ClientHistory.run`: one event, and a run of events from the start;
* `Response.Names`: which number a response means;
* `ClientHistory.Consistent`: every call waits under its own number or has ended, and not both;
  `consistent_run` says so of all runs;
* `ClientHistory.Ends`: all the ways in which a call can end;
* `ClientHistory.responses_reach_callers`: each call ends at most once, and a response ends the call
  that it names, if that one waits, and no other.
-/

namespace ProviderHub

/-! ### Responses and the requests that they name -/

/-- A response names a request by its number or by a text that spells the number. -/
def Response.Names (r : Response) (id : Nat) : Prop :=
  r.id = some (.number id) ∨ ∃ text, r.id = some (.text text) ∧ Numeral.nat64? text.toList = some id

lemma Response.names_iff {r : Response} {id : Nat} :
    r.Names id ↔ r.id.bind Client.numberOf? = some id := by
  cases hid : r.id with
  | none => simp [Names, hid]
  | some name => cases name <;> simp [Names, hid, Client.numberOf?]

namespace Client

variable {ω : Type} {c : Client ω} {p : PendingRequest ω} {r : Response}

lemma request_of_connected (h : c.connected = true) (method : String) (params : Option Json)
    (waiter : ω) :
    c.request method params waiter =
      (true,
        { c with
          nextId := c.nextId + 1
          queue := c.queue ++ [encode ({ id := .number c.nextId, method, params } : Request)]
          pending := c.pending ++ [⟨c.nextId, method, waiter⟩] }) := by
  simp [request, send, h]

lemma request_of_disconnected (h : c.connected = false) (method : String) (params : Option Json)
    (waiter : ω) : c.request method params waiter = (false, { c with nextId := c.nextId + 1 }) := by
  simp [request, send, h]

lemma find?_of_mem (hids : (c.pending.map PendingRequest.id).Nodup) (hp : p ∈ c.pending) :
    c.find? p.id = some p :=
  find?_number_of_mem hids hp

lemma find?_eq_none {id : Nat} (h : ∀ p ∈ c.pending, p.id ≠ id) : c.find? id = none :=
  List.find?_eq_none.mpr fun p hp => by simpa using h p hp

lemma receive_of_names (hids : (c.pending.map PendingRequest.id).Nodup) (hp : p ∈ c.pending)
    (hnames : r.Names p.id) : c.receive r = (some ⟨p.waiter, r.outcome⟩, c.forget p.id) := by
  rw [receive, Response.names_iff.mp hnames, Option.bind_some, find?_of_mem hids hp]

/-- A response that nobody waits for changes nothing. -/
lemma receive_of_not_names (h : ∀ p ∈ c.pending, ¬ r.Names p.id) : c.receive r = (none, c) := by
  have hfind : (r.id.bind numberOf?).bind c.find? = none := by
    refine Option.bind_eq_none_iff.mpr fun id hid => find?_eq_none fun p hp hpid => ?_
    exact h p hp (Response.names_iff.mpr (hpid ▸ hid))
  rw [receive, hfind]

lemma expire_of_mem (hids : (c.pending.map PendingRequest.id).Nodup) (hp : p ∈ c.pending) :
    c.expire p.id =
      (some ⟨p.waiter, .error (.internal (p.method ++ " timed out"))⟩, c.forget p.id) := by
  rw [expire, find?_of_mem hids hp]

lemma expire_of_not_mem {id : Nat} (h : ∀ p ∈ c.pending, p.id ≠ id) :
    c.expire id = (none, c) := by
  rw [expire, find?_eq_none h]

/-- Who is forgotten comes apart from those who still wait. -/
lemma forget_perm (hids : (c.pending.map PendingRequest.id).Nodup) (hp : p ∈ c.pending) :
    c.pending.Perm (p :: (c.forget p.id).pending) :=
  perm_cons_filter_of_find? hids (find?_number_of_mem hids hp)

end Client

/-! ### Runs -/

/-- What can happen on the side of a connection that leads to the client. -/
inductive ClientAction where
  | notify (method : String) (params : Option Json)
  | request (method : String) (params : Option Json)
  | receive (response : Response)
  /-- The time for the answer to a request is over. -/
  | expire (id : Nat)
  /-- The messages that have not been written are written. -/
  | write
  /-- Nothing can be written any more. -/
  | hangUp
  | close

/-- A call of a method of the client. -/
structure ClientCall where
  /-- The number of its request. -/
  id : Nat
  method : String
  params : Option Json
  /-- Whether there was a connection for its request. -/
  sent : Bool

/-- The request of a call. -/
def ClientCall.request (c : ClientCall) : Request :=
  { id := .number c.id, method := c.method, params := c.params }

/-- The side of a connection that leads to the client, and what has happened on it. -/
structure ClientHistory where
  client : Client Nat := {}
  /-- The calls, in their order. -/
  calls : List ClientCall := []
  /-- The calls that have ended, by their places, and how they did. -/
  ended : List (Answered Nat) := []
  /-- The messages that have been written. -/
  written : List Json := []

namespace ClientHistory

/-- The history after one more event. -/
def step (h : ClientHistory) : ClientAction → ClientHistory
  | .notify method params => { h with client := (h.client.notify method params).2 }
  | .request method params =>
    let (sent, client) := h.client.request method params h.calls.length
    { h with
      client
      calls := h.calls ++ [⟨h.client.nextId, method, params, sent⟩]
      ended := if sent then h.ended
        else h.ended ++ [⟨h.calls.length, .error Client.connectionClosed⟩] }
  | .receive response =>
    let (found, client) := h.client.receive response
    { h with client, ended := h.ended ++ found.toList }
  | .expire id =>
    let (found, client) := h.client.expire id
    { h with client, ended := h.ended ++ found.toList }
  | .write =>
    let (messages, client) := h.client.takeQueue
    { h with client, written := h.written ++ messages }
  | .hangUp => { h with client := h.client.hangUp }
  | .close =>
    let (ended, client) := h.client.close
    { h with client, ended := h.ended ++ ended }

/-- The history after a run of events. -/
def run (actions : List ClientAction) : ClientHistory := actions.foldl step {}

lemma run_append (actions later : List ClientAction) :
    run (actions ++ later) = later.foldl step (run actions) :=
  List.foldl_append ..

/-- All messages for the client, written or not, in their order. -/
def messages (h : ClientHistory) : List Json := h.written ++ h.client.queue

/-- A call that has been made and has not ended. -/
def Waits (h : ClientHistory) (n : Nat) : Prop := n < h.calls.length ∧ ∀ e ∈ h.ended, e.waiter ≠ n

/-! ### What holds in all runs -/

/-- Calls have different numbers, and each one waits under its number or has ended. -/
structure Consistent (h : ClientHistory) : Prop where
  nextId_eq : h.client.nextId = h.calls.length + 1
  ids_eq : h.calls.map ClientCall.id = List.range' 1 h.calls.length
  requests_eq : h.messages.filter (·.hasKey "id") =
    (h.calls.filter (·.sent)).map fun call => encode call.request
  pending_call : ∀ p ∈ h.client.pending, ∃ call, h.calls[p.waiter]? = some call ∧
    p = ⟨call.id, call.method, p.waiter⟩
  settled : (h.client.pending.map PendingRequest.waiter ++ h.ended.map Answered.waiter).Perm
    (List.range h.calls.length)

namespace Consistent

variable {h : ClientHistory} {p : PendingRequest Nat} {call : ClientCall} {n : Nat}

lemma empty : Consistent {} := by
  constructor <;> simp [messages]

lemma id_eq (hc : h.Consistent) (hcall : h.calls[n]? = some call) : call.id = n + 1 := by
  have hid : (h.calls.map ClientCall.id)[n]? = some call.id := by
    rw [List.getElem?_map, hcall, Option.map_some]
  rw [hc.ids_eq, List.getElem?_range' (List.getElem?_eq_some_iff.mp hcall).1] at hid
  have hid := Option.some_inj.mp hid
  omega

lemma pending_id (hc : h.Consistent) (hp : p ∈ h.client.pending) : p.id = p.waiter + 1 := by
  obtain ⟨call, hcall, heq⟩ := hc.pending_call p hp
  rw [← hc.id_eq hcall, heq]

lemma nodup_settled (hc : h.Consistent) :
    (h.client.pending.map PendingRequest.waiter ++ h.ended.map Answered.waiter).Nodup :=
  hc.settled.nodup_iff.mpr List.nodup_range

lemma nodup_pending (hc : h.Consistent) : (h.client.pending.map PendingRequest.id).Nodup := by
  have hids : h.client.pending.map PendingRequest.id =
      (h.client.pending.map PendingRequest.waiter).map (· + 1) := by
    rw [List.map_map]
    exact List.map_congr_left fun p hp => hc.pending_id hp
  rw [hids]
  exact hc.nodup_settled.of_append_left.map fun _ _ => Nat.succ.inj

/-- A call waits exactly if its request is pending. -/
lemma waits_iff (hc : h.Consistent) (hcall : h.calls[n]? = some call) :
    h.Waits n ↔ ⟨call.id, call.method, n⟩ ∈ h.client.pending := by
  constructor
  · rintro ⟨hlt, hended⟩
    have hmem := hc.settled.mem_iff.mpr (List.mem_range.mpr hlt)
    rcases List.mem_append.mp hmem with hpending | hdone
    · obtain ⟨p, hp, rfl⟩ := List.mem_map.mp hpending
      obtain ⟨call', hcall', heq⟩ := hc.pending_call p hp
      obtain rfl : call = call' := Option.some_inj.mp (hcall.symm.trans hcall')
      exact heq ▸ hp
    · obtain ⟨e, he, hwaiter⟩ := List.mem_map.mp hdone
      exact (hended e he hwaiter).elim
  · intro hp
    refine ⟨(List.getElem?_eq_some_iff.mp hcall).1, fun e he hwaiter => ?_⟩
    refine List.disjoint_of_nodup_append hc.nodup_settled
      (List.mem_map_of_mem (f := PendingRequest.waiter) hp) ?_
    exact List.mem_map.mpr ⟨e, he, hwaiter⟩

/-- Whoever stops waiting under a number has ended. -/
lemma forget (hc : h.Consistent) (hp : p ∈ h.client.pending)
    (outcome : Except RpcError Json) :
    Consistent
      { h with client := h.client.forget p.id, ended := h.ended ++ [⟨p.waiter, outcome⟩] } where
  nextId_eq := hc.nextId_eq
  ids_eq := hc.ids_eq
  requests_eq := hc.requests_eq
  pending_call q hq := hc.pending_call q (List.mem_filter.mp hq).1
  settled := by
    refine List.Perm.trans ?_ hc.settled
    have hperm := (Client.forget_perm hc.nodup_pending hp).map PendingRequest.waiter
    rw [List.map_append, ← List.append_assoc]
    refine List.perm_append_comm.trans ?_
    exact (hperm.symm.append_right (h.ended.map Answered.waiter))

end Consistent

lemma hasKey_id_request (r : Request) : (encode r).hasKey "id" = true := by
  rw [Json.hasKey, get?_id_request, Option.isSome_some]

lemma hasKey_id_notification (n : Notification) : (encode n).hasKey "id" = false := by
  rw [Json.hasKey, get?_id_notification, Option.isSome_none]

/-- A new call waits if there is a connection, and otherwise ends at once. -/
lemma step_request (h : ClientHistory) (method : String) (params : Option Json) :
    h.client.connected = true ∧
      h.step (.request method params) =
        { h with
          client :=
            { h.client with
              nextId := h.client.nextId + 1
              queue := h.client.queue ++
                [encode ({ id := .number h.client.nextId, method, params } : Request)]
              pending := h.client.pending ++ [⟨h.client.nextId, method, h.calls.length⟩] }
          calls := h.calls ++ [⟨h.client.nextId, method, params, true⟩] } ∨
    h.client.connected = false ∧
      h.step (.request method params) =
        { h with
          client := { h.client with nextId := h.client.nextId + 1 }
          calls := h.calls ++ [⟨h.client.nextId, method, params, false⟩]
          ended := h.ended ++ [⟨h.calls.length, .error Client.connectionClosed⟩] } := by
  cases hconnected : h.client.connected with
  | true =>
      refine .inl ⟨rfl, ?_⟩
      rw [step, Client.request_of_connected hconnected]
      rfl
  | false =>
      refine .inr ⟨rfl, ?_⟩
      rw [step, Client.request_of_disconnected hconnected]
      rfl

/-! ### All that an event can do -/

/-- How a call can end: a response names it, or its time is over, or the connection is closed, or
there is no connection when it is made. -/
inductive Ends (h : ClientHistory) (call : ClientCall) (n : Nat) :
    ClientAction → Except RpcError Json → Prop
  | answered {response : Response} (pending : ⟨call.id, call.method, n⟩ ∈ h.client.pending)
      (names : response.Names call.id) : Ends h call n (.receive response) response.outcome
  | late (pending : ⟨call.id, call.method, n⟩ ∈ h.client.pending) :
      Ends h call n (.expire call.id) (.error (.internal (call.method ++ " timed out")))
  | closed (pending : ⟨call.id, call.method, n⟩ ∈ h.client.pending) :
      Ends h call n .close (.error (.cancelled (call.method ++ " was cancelled")))
  | unsent (disconnected : h.client.connected = false) (next : h.calls.length = n) :
      Ends h call n (.request call.method call.params) (.error (.internal "Connection closed"))

lemma messages_send (h : ClientHistory) (message : Json) :
    (h.client.send message).1 = h.client.connected ∧
    ({ h with client := (h.client.send message).2 } : ClientHistory).messages =
      h.messages ++ if h.client.connected then [message] else [] := by
  cases hconnected : h.client.connected <;> simp [Client.send, messages, hconnected]

namespace Consistent

variable {h : ClientHistory}

lemma notify (hc : h.Consistent) (method : String) (params : Option Json) :
    Consistent { h with client := (h.client.notify method params).2 } := by
  have hmessages := (messages_send h (encode ({ method, params } : Notification))).2
  have hframe : (h.client.notify method params).2.nextId = h.client.nextId ∧
      (h.client.notify method params).2.pending = h.client.pending := by
    rw [Client.notify, Client.send]
    split <;> exact ⟨rfl, rfl⟩
  refine ⟨hframe.1.trans hc.nextId_eq, hc.ids_eq, ?_, ?_, ?_⟩
  · refine (congrArg (List.filter _) hmessages).trans ?_
    rw [List.filter_append, hc.requests_eq]
    split <;> simp [hasKey_id_notification]
  · exact fun p hp => hc.pending_call p (hframe.2 ▸ hp)
  · show ((h.client.notify method params).2.pending.map _ ++ _).Perm _
    rw [hframe.2]
    exact hc.settled

/-- The calls so far keep their places when one more is made. -/
lemma pending_call_append (hc : h.Consistent) (call : ClientCall) :
    ∀ p ∈ h.client.pending, ∃ call', (h.calls ++ [call])[p.waiter]? = some call' ∧
      p = ⟨call'.id, call'.method, p.waiter⟩ := by
  intro p hp
  obtain ⟨call', hcall', heq⟩ := hc.pending_call p hp
  have hlt := (List.getElem?_eq_some_iff.mp hcall').1
  exact ⟨call', by rw [List.getElem?_append_left hlt, hcall'], heq⟩

lemma ids_append (hc : h.Consistent) {call : ClientCall} (hid : call.id = h.client.nextId) :
    (h.calls ++ [call]).map ClientCall.id = List.range' 1 (h.calls ++ [call]).length := by
  rw [List.map_append, hc.ids_eq, List.length_append, List.length_singleton, List.range'_1_concat,
    List.map_singleton, hid, hc.nextId_eq, Nat.add_comm 1]

lemma request (hc : h.Consistent) (method : String) (params : Option Json) :
    Consistent (h.step (.request method params)) := by
  rcases step_request h method params with ⟨-, hstep⟩ | ⟨-, hstep⟩
  · rw [hstep]
    refine ⟨?_, hc.ids_append rfl, ?_, ?_, ?_⟩
    · rw [List.length_append, List.length_singleton]
      exact congrArg (· + 1) hc.nextId_eq
    · have hrequests := hc.requests_eq
      rw [messages] at hrequests ⊢
      rw [← List.append_assoc, List.filter_append, hrequests, List.filter_append, List.map_append,
        List.filter_singleton, hasKey_id_request]
      rfl
    · intro p hp
      rcases List.mem_append.mp hp with hold | hnew
      · exact hc.pending_call_append _ p hold
      · rw [List.mem_singleton.mp hnew]
        exact ⟨_, List.getElem?_concat_length, rfl⟩
    · rw [List.length_append, List.length_singleton, List.range_succ, List.map_append,
        List.append_assoc]
      refine (List.perm_append_comm.append_left _).trans ?_
      rw [← List.append_assoc]
      exact hc.settled.append_right _
  · rw [hstep]
    refine ⟨?_, hc.ids_append rfl, ?_, hc.pending_call_append _, ?_⟩
    · rw [List.length_append, List.length_singleton]
      exact congrArg (· + 1) hc.nextId_eq
    · rw [List.filter_append, List.map_append, ← hc.requests_eq]
      exact (List.append_nil _).symm
    · rw [List.length_append, List.length_singleton, List.range_succ, List.map_append,
        ← List.append_assoc]
      exact hc.settled.append_right _

lemma close (hc : h.Consistent) : Consistent (h.step .close) where
  nextId_eq := hc.nextId_eq
  ids_eq := hc.ids_eq
  requests_eq := hc.requests_eq
  pending_call := nofun
  settled := by
    refine List.Perm.trans ?_ hc.settled
    show (h.ended ++ h.client.pending.map fun p =>
      (⟨p.waiter, .error (.cancelled (p.method ++ " was cancelled"))⟩ : Answered Nat)).map
        Answered.waiter |>.Perm _
    rw [List.map_append, List.map_map]
    exact List.perm_append_comm

end Consistent

/-- A response ends the call that it names, if that one waits. -/
lemma step_receive {h : ClientHistory} (hc : h.Consistent) {p : PendingRequest Nat}
    (hp : p ∈ h.client.pending) {response : Response} (hnames : response.Names p.id) :
    h.step (.receive response) =
      { h with
        client := h.client.forget p.id
        ended := h.ended ++ [⟨p.waiter, response.outcome⟩] } := by
  rw [step, Client.receive_of_names hc.nodup_pending hp hnames]
  rfl

/-- A response that nobody waits for changes nothing. -/
lemma step_receive_of_not_names {h : ClientHistory} {response : Response}
    (hnames : ∀ p ∈ h.client.pending, ¬ response.Names p.id) :
    h.step (.receive response) = h := by
  rw [step, Client.receive_of_not_names hnames]
  simp

/-- The end of its time ends a call that waits. -/
lemma step_expire {h : ClientHistory} (hc : h.Consistent) {p : PendingRequest Nat}
    (hp : p ∈ h.client.pending) :
    h.step (.expire p.id) =
      { h with
        client := h.client.forget p.id
        ended := h.ended ++ [⟨p.waiter, .error (.internal (p.method ++ " timed out"))⟩] } := by
  rw [step, Client.expire_of_mem hc.nodup_pending hp]
  rfl

lemma step_expire_of_not_mem {h : ClientHistory} {id : Nat}
    (hid : ∀ p ∈ h.client.pending, p.id ≠ id) : h.step (.expire id) = h := by
  rw [step, Client.expire_of_not_mem hid]
  simp

lemma consistent_step {h : ClientHistory} (hc : h.Consistent) (action : ClientAction) :
    (h.step action).Consistent := by
  cases action with
  | notify method params => exact hc.notify method params
  | request method params => exact hc.request method params
  | receive response =>
      by_cases hnames : ∃ p ∈ h.client.pending, response.Names p.id
      · obtain ⟨p, hp, hnames⟩ := hnames
        rw [step_receive hc hp hnames]
        exact hc.forget hp _
      · rw [step_receive_of_not_names fun p hp hn => hnames ⟨p, hp, hn⟩]
        exact hc
  | expire id =>
      by_cases hid : ∃ p ∈ h.client.pending, p.id = id
      · obtain ⟨p, hp, rfl⟩ := hid
        rw [step_expire hc hp]
        exact hc.forget hp _
      · rw [step_expire_of_not_mem fun p hp hp' => hid ⟨p, hp, hp'⟩]
        exact hc
  | write =>
      refine ⟨hc.nextId_eq, hc.ids_eq, ?_, hc.pending_call, hc.settled⟩
      exact (congrArg (List.filter _) (List.append_nil _)).trans hc.requests_eq
  | hangUp =>
      exact ⟨hc.nextId_eq, hc.ids_eq, hc.requests_eq, hc.pending_call, hc.settled⟩
  | close => exact hc.close

lemma consistent_run (actions : List ClientAction) : (run actions).Consistent := by
  induction actions using List.reverseRecOn with
  | nil => exact .empty
  | append_singleton actions action ih =>
      rw [run_append]
      exact consistent_step ih action

lemma calls_step (h : ClientHistory) (action : ClientAction) :
    h.calls <+: (h.step action).calls := by
  cases action with
  | request method params => exact List.prefix_append _ _
  | _ => exact List.prefix_rfl

/-- Whatever an event ends is ended in one of the four ways. -/
lemma ended_step {h : ClientHistory} (hc : h.Consistent) {action : ClientAction}
    {e : Answered Nat} (he : e ∈ (h.step action).ended) :
    e ∈ h.ended ∨ ∃ call, (h.step action).calls[e.waiter]? = some call ∧
      Ends h call e.waiter action e.outcome := by
  cases action with
  | notify method params => exact .inl he
  | request method params =>
      rcases step_request h method params with ⟨-, hstep⟩ | ⟨hdisconnected, hstep⟩
      · rw [hstep] at he
        exact .inl he
      · rw [hstep] at he ⊢
        rcases List.mem_append.mp he with hold | hnew
        · exact .inl hold
        · rw [List.mem_singleton.mp hnew]
          exact .inr ⟨_, List.getElem?_concat_length, .unsent hdisconnected rfl⟩
  | receive response =>
      by_cases hnames : ∃ p ∈ h.client.pending, response.Names p.id
      · obtain ⟨p, hp, hnames⟩ := hnames
        obtain ⟨call, hcall, heq⟩ := hc.pending_call p hp
        rw [step_receive hc hp hnames] at he ⊢
        rcases List.mem_append.mp he with hold | hnew
        · exact .inl hold
        · rw [List.mem_singleton.mp hnew]
          exact .inr ⟨call, hcall, .answered (heq ▸ hp) (by rwa [heq] at hnames)⟩
      · rw [step_receive_of_not_names fun p hp hn => hnames ⟨p, hp, hn⟩] at he
        exact .inl he
  | expire id =>
      by_cases hid : ∃ p ∈ h.client.pending, p.id = id
      · obtain ⟨p, hp, rfl⟩ := hid
        obtain ⟨call, hcall, heq⟩ := hc.pending_call p hp
        rw [step_expire hc hp] at he ⊢
        rcases List.mem_append.mp he with hold | hnew
        · exact .inl hold
        · rw [List.mem_singleton.mp hnew]
          refine .inr ⟨call, hcall, ?_⟩
          rw [heq]
          exact .late (heq ▸ hp)
      · rw [step_expire_of_not_mem fun p hp hp' => hid ⟨p, hp, hp'⟩] at he
        exact .inl he
  | write => exact .inl he
  | hangUp => exact .inl he
  | close =>
      rcases List.mem_append.mp he with hold | hnew
      · exact .inl hold
      · obtain ⟨p, hp, rfl⟩ := List.mem_map.mp hnew
        obtain ⟨call, hcall, heq⟩ := hc.pending_call p hp
        refine .inr ⟨call, hcall, ?_⟩
        rw [heq]
        exact .closed (heq ▸ hp)

/-- Whatever has ended was ended by some event of the run. -/
lemma ended_run {actions : List ClientAction} {e : Answered Nat} (he : e ∈ (run actions).ended) :
    ∃ call, (run actions).calls[e.waiter]? = some call ∧ ∃ before action,
      before ++ [action] <+: actions ∧ Ends (run before) call e.waiter action e.outcome := by
  induction actions using List.reverseRecOn with
  | nil => cases he
  | append_singleton actions action ih =>
      rw [run_append] at he ⊢
      rcases ended_step (consistent_run actions) he with hold | ⟨call, hcall, hends⟩
      · obtain ⟨call, hcall, before, earlier, hprefix, hends⟩ := ih hold
        obtain ⟨calls, hcalls⟩ := calls_step (run actions) action
        have hlt := (List.getElem?_eq_some_iff.mp hcall).1
        refine ⟨call, ?_, before, earlier, hprefix.trans (List.prefix_append _ _), hends⟩
        show ((run actions).step action).calls[e.waiter]? = some call
        rw [← hcalls, List.getElem?_append_left hlt, hcall]
      · exact ⟨call, hcall, actions, action, List.prefix_rfl, hends⟩

/-! ### After the end of the connection -/

/-- Nothing is sent, and nobody waits. -/
structure Closed (h : ClientHistory) : Prop where
  disconnected : h.client.connected = false
  pending_eq : h.client.pending = []

lemma closed_step {h : ClientHistory} (hclosed : h.Closed) (action : ClientAction) :
    (h.step action).Closed ∧ (h.step action).messages = h.messages := by
  have hnobody {P : PendingRequest Nat → Prop} : ∀ p ∈ h.client.pending, P p := by
    rw [hclosed.pending_eq]
    exact fun p hp => (List.not_mem_nil hp).elim
  cases action with
  | notify method params =>
      have hsend (message : Json) : h.client.send message = (false, h.client) := by
        rw [Client.send, hclosed.disconnected]
        rfl
      rw [step, Client.notify, hsend]
      exact ⟨hclosed, rfl⟩
  | request method params =>
      rcases step_request h method params with ⟨hconnected, -⟩ | ⟨-, hstep⟩
      · exact absurd hconnected (by simp [hclosed.disconnected])
      · rw [hstep]
        exact ⟨⟨hclosed.disconnected, hclosed.pending_eq⟩, rfl⟩
  | receive response =>
      rw [step_receive_of_not_names hnobody]
      exact ⟨hclosed, rfl⟩
  | expire id =>
      rw [step_expire_of_not_mem hnobody]
      exact ⟨hclosed, rfl⟩
  | write => exact ⟨⟨hclosed.disconnected, hclosed.pending_eq⟩, List.append_nil _⟩
  | hangUp => exact ⟨⟨rfl, hclosed.pending_eq⟩, rfl⟩
  | close => exact ⟨⟨rfl, rfl⟩, rfl⟩

lemma closed_foldl {h : ClientHistory} (hclosed : h.Closed) (later : List ClientAction) :
    (later.foldl step h).Closed ∧ (later.foldl step h).messages = h.messages := by
  induction later generalizing h with
  | nil => exact ⟨hclosed, rfl⟩
  | cons action later ih =>
      obtain ⟨hstep, hmessages⟩ := closed_step hclosed action
      exact ⟨(ih hstep).1, (ih hstep).2.trans hmessages⟩

/-! ### Who is answered -/

/-- **Responses reach their callers**: in all runs, calls have different numbers, under which their
requests are sent. A call waits exactly if its request is pending. Each call ends at most once: with
what a response says that names it while it waits, or because its time is over or the connection is
closed meanwhile, or because there is no connection when it is made. A response that names a pending
request ends the call of that request and no other, and one that names none changes nothing; nor does
the end of a pending request's time end any other call. Once the connection is closed nobody waits
and no message is queued. -/
theorem responses_reach_callers (actions : List ClientAction) :
    let h := run actions
    (h.calls.map ClientCall.id).Nodup ∧
    h.messages.filter (·.hasKey "id") =
      (h.calls.filter (·.sent)).map (fun call => encode call.request) ∧
    (∀ n call, h.calls[n]? = some call →
      (h.Waits n ↔ ⟨call.id, call.method, n⟩ ∈ h.client.pending)) ∧
    (∀ p ∈ h.client.pending, h.Waits p.waiter ∧
      ∃ call, h.calls[p.waiter]? = some call ∧ p = ⟨call.id, call.method, p.waiter⟩) ∧
    (h.ended.map Answered.waiter).Nodup ∧
    (∀ e ∈ h.ended, ∃ call, h.calls[e.waiter]? = some call ∧ ∃ before action,
      before ++ [action] <+: actions ∧ Ends (run before) call e.waiter action e.outcome) ∧
    (∀ response : Response,
      (∀ p ∈ h.client.pending, response.Names p.id →
        h.step (.receive response) =
          { h with
            client := { h.client with pending := h.client.pending.filter (·.id != p.id) }
            ended := h.ended ++ [⟨p.waiter, response.outcome⟩] }) ∧
      ((∀ p ∈ h.client.pending, ¬ response.Names p.id) → h.step (.receive response) = h)) ∧
    (∀ p ∈ h.client.pending, h.step (.expire p.id) =
      { h with
        client := { h.client with pending := h.client.pending.filter (·.id != p.id) }
        ended := h.ended ++ [⟨p.waiter, .error (.internal (p.method ++ " timed out"))⟩] }) ∧
    ∀ later, (run (actions ++ .close :: later)).client.pending = [] ∧
      (run (actions ++ .close :: later)).messages = h.messages := by
  intro h
  have hc : h.Consistent := consistent_run actions
  refine ⟨?_, hc.requests_eq, fun n call hcall => hc.waits_iff hcall, fun p hp => ?_,
    hc.nodup_settled.of_append_right, fun e he => ended_run he, fun response => ⟨?_, ?_⟩,
    fun p hp => step_expire hc hp, ?_⟩
  · rw [hc.ids_eq]
    exact List.nodup_range'
  · obtain ⟨call, hcall, heq⟩ := hc.pending_call p hp
    exact ⟨(hc.waits_iff hcall).mpr (heq ▸ hp), call, hcall, heq⟩
  · exact fun p hp hnames => step_receive hc hp hnames
  · exact step_receive_of_not_names
  · intro later
    have hclosed : (h.step .close).Closed := ⟨rfl, rfl⟩
    rw [run_append, List.foldl_cons]
    obtain ⟨hlater, hmessages⟩ := closed_foldl hclosed later
    exact ⟨hlater.pending_eq, hmessages⟩

/-- Two calls: the first one gives up before its response comes, and the second one is named by a
text. -/
example :
    (run [.request "a" none, .request "b" none, .expire 1, .receive (.success (.number 1) .null),
      .receive (.success (.text "+2") .null), .receive (.success (.number 2) .null)]).ended =
      [⟨0, .error (.internal "a timed out")⟩, ⟨1, .ok .null⟩] :=
  rfl

end ClientHistory

end ProviderHub
