import ProviderHub.Clock
import ProviderHub.Rpc.Client

/-!
Requests to a client on a clock that stands still.

* `Requests.send`: sends a request for someone;
* `Requests.machine`: runs by the timers of the answers that may be late.
-/

namespace ProviderHub

/-- The side that leads to the client, and the requests that have ended. -/
structure Requests (ω : Type) where
  client : Client ω := {}
  finished : List (Answered ω) := []

namespace Requests

variable {ω : Type}

/-- Sends a request, which ends at once if there is no connection. -/
def send (r : Requests ω) (method : String) (params : Option Json) (waiter : ω) : Requests ω :=
  let (sent, client) := r.client.request method params waiter
  if sent then { r with client }
  else { client, finished := r.finished ++ [⟨waiter, .error Client.connectionClosed⟩] }

/-- A response arrives. -/
def receive (r : Requests ω) (response : Response) : Requests ω :=
  let (found, client) := r.client.receive response
  { client, finished := r.finished ++ found.toList }

/-- The connection ends. -/
def close (r : Requests ω) : Requests ω :=
  let (ended, client) := r.client.close
  { client, finished := r.finished ++ ended }

/-- Requests that wait for a limited time. -/
def machine (timeout : Nat) : Machine (Requests ω) Nat where
  wanted r := r.client.pending.map fun p => (p.id, timeout)
  fire id r :=
    let (found, client) := r.client.expire id
    { client, finished := r.finished ++ found.toList }

end Requests

end ProviderHub
