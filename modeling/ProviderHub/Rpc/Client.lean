import ProviderHub.Rpc.Message
import ProviderHub.Text.Numeral

/-!
The side of a connection that leads to the client.

All messages go through one queue. A request to the client waits under its number for a response.

* `Client.request`: sends a request on behalf of someone who waits for the answer;
* `Client.receive`: finds who waits for a response;
* `Client.expire`, `Client.close`: end the waiting for one answer, or for all.
-/

namespace ProviderHub

/-- A request to the client that has not been answered. -/
structure PendingRequest (ω : Type) where
  id : Nat
  method : String
  waiter : ω
deriving DecidableEq, Repr

/-- The end of a request to the client: who waited, and for what. -/
structure Answered (ω : Type) where
  waiter : ω
  outcome : Except RpcError Json

/-- The side of a connection that leads to the client. -/
structure Client (ω : Type) where
  nextId : Nat := 1
  /-- The requests that have not been answered, oldest first. -/
  pending : List (PendingRequest ω) := []
  /-- The messages that have not been written, oldest first. -/
  queue : List Json := []
  connected : Bool := true
deriving Repr, Inhabited

namespace Client

variable {ω : Type}

/-- The error of a request that cannot be sent. -/
def connectionClosed : RpcError := .internal "Connection closed"

/-- Queues a message, and tells whether there is a connection for it. -/
def send (c : Client ω) (message : Json) : Bool × Client ω :=
  if c.connected then (true, { c with queue := c.queue ++ [message] }) else (false, c)

/-- Queues a notification. -/
def notify (c : Client ω) (method : String) (params : Option Json) : Bool × Client ω :=
  c.send (encode ({ method, params } : Notification))

/-- Queues a request, and tells whether there is a connection for it. Its number is used up in
either case. -/
def request (c : Client ω) (method : String) (params : Option Json) (waiter : ω) :
    Bool × Client ω :=
  let id := c.nextId
  let (sent, c) :=
    { c with nextId := id + 1 }.send (encode ({ id := .number id, method, params } : Request))
  (sent, if sent then { c with pending := c.pending ++ [⟨id, method, waiter⟩] } else c)

/-- The number that the name of a response means: itself, or the number that it spells. -/
def numberOf? : RequestId → Option Nat
  | .number n => some n
  | .text s => Numeral.nat64? s.toList

/-- Stops waiting for the answer to a request. -/
def forget (c : Client ω) (id : Nat) : Client ω :=
  { c with pending := c.pending.filter (·.id != id) }

/-- The pending request of a number. -/
def find? (c : Client ω) (id : Nat) : Option (PendingRequest ω) := c.pending.find? (·.id == id)

/-- Who waits for a response. One that nobody waits for changes nothing. -/
def receive (c : Client ω) (r : Response) : Option (Answered ω) × Client ω :=
  match (r.id.bind numberOf?).bind c.find? with
  | some p => (some ⟨p.waiter, r.outcome⟩, c.forget p.id)
  | none => (none, c)

/-- The time for an answer is over. -/
def expire (c : Client ω) (id : Nat) : Option (Answered ω) × Client ω :=
  match c.find? id with
  | some p => (some ⟨p.waiter, .error (.internal (p.method ++ " timed out"))⟩, c.forget id)
  | none => (none, c)

/-- Nothing can be sent any more. -/
def hangUp (c : Client ω) : Client ω := { c with connected := false }

/-- Ends the connection, and with it the waiting for answers. -/
def close (c : Client ω) : List (Answered ω) × Client ω :=
  (c.pending.map fun p => ⟨p.waiter, .error (.cancelled (p.method ++ " was cancelled"))⟩,
    { c with connected := false, pending := [] })

/-- Takes the messages that have not been written. -/
def takeQueue (c : Client ω) : List Json × Client ω := (c.queue, { c with queue := [] })

end Client

end ProviderHub
