import ProviderHub.Rpc.Client
import ProviderHub.Session.Capability
import ProviderHub.Session.Language

/-!
The state of a session with one client.

Requests run as tasks. A task waits for the gates or for providers; whatever may let it go on puts
it on the list of jobs, and jobs run in order, each until it has to wait again.

* `Session.beginRequest`, `Session.endRequest`, `Session.cancelRequest`: the requests in flight;
* `Session.openGate`, `Session.answer`, `Session.receive`: what may let tasks go on;
* `Session.timers`: the timers that are to run.
-/

namespace ProviderHub

/-- The number of a task. -/
abbrev TaskId := Nat

/-- How far a request has come. -/
inductive Stage (π : Type) where
  /-- It has been read but not looked at. -/
  | fresh (request : Request)
  /-- It waits for the gates. -/
  | gated (query : Query)
  /-- It waits for providers. -/
  | asking (query : Query) (origin : Option Token) (inquiry : Inquiry π)
deriving Repr

/-- A request that is being worked on. -/
structure RequestTask (π : Type) where
  number : TaskId
  id : RequestId
  stage : Stage π
  cancelled : Bool := false
  /-- Whether its time is over. -/
  expired : Bool := false
deriving Repr

/-- Who waits for an answer of the client. -/
inductive Waiter where
  /-- The program around the session, under a name of its own. -/
  | host (name : String)
  /-- The registration of features. -/
  | features
  /-- A flush of watch registrations. -/
  | flush (id : FlushId)
deriving DecidableEq, Repr

/-- The registration of features that depend on the providers. -/
inductive FeatureRegistration where
  | idle
  /-- It waits for the gates. -/
  | waiting
  /-- It has been sent. -/
  | requested
  | stopped
deriving DecidableEq, Repr

/-- Something that can go on. -/
inductive Job where
  | task (number : TaskId)
  | features
  | answered (answer : Answered Waiter)
  /-- The time for an answer of the client is over. -/
  | overdue (id : Nat)
  | sweep (feature : Feature)
  | flush

/-- A session with one client. -/
structure Session (π : Type) where
  settings : Settings
  language : Language π
  watch : WatchEngine := {}
  client : Client Waiter := {}
  tasks : List (RequestTask π) := []
  /-- The requests that can be cancelled, and their tasks. -/
  inFlight : List (RequestId × TaskId) := []
  jobs : List Job := []
  features : FeatureRegistration := .idle
  initializeReceived : Bool := false
  shutdownRequested : Bool := false
  nextTask : TaskId := 0
  nextCall : CallId := 0
  /-- The questions that have been put to providers and handlers, oldest first. -/
  asked : List (π × Question) := []
  /-- The ends of the host's own requests, oldest first. -/
  finished : List (String × Except RpcError Json) := []

namespace Session

variable {π : Type}

/-- The state at the beginning. -/
def ofSettings (settings : Settings) : Session π :=
  { settings, language := .ofSettings settings }

/-! ### Requests in flight -/

/-- Lets a task go on. -/
def wake (s : Session π) (number : TaskId) : Session π := { s with jobs := s.jobs ++ [.task number] }

/-- Changes a task. -/
def updateTask (s : Session π) (number : TaskId) (f : RequestTask π → RequestTask π) : Session π :=
  { s with tasks := s.tasks.map fun t => if t.number = number then f t else t }

/-- A request can be cancelled from now on, in place of another one of the same name. Gives the
number of its task. -/
def beginRequest (s : Session π) (id : RequestId) : TaskId × Session π :=
  (s.nextTask,
    { s with
      inFlight := s.inFlight.filter (·.1 != id) ++ [(id, s.nextTask)]
      nextTask := s.nextTask + 1 })

/-- A request can no longer be cancelled. -/
def endRequest (s : Session π) (id : RequestId) : Session π :=
  { s with inFlight := s.inFlight.filter (·.1 != id) }

/-- Marks a task as cancelled. -/
def cancelTask (s : Session π) (number : TaskId) : Session π :=
  (s.updateTask number ({ · with cancelled := true })).wake number

/-- Cancels a request, and tells whether it is in flight. -/
def cancelRequest (s : Session π) (id : RequestId) : Bool × Session π :=
  match s.inFlight.lookup id with
  | some number => (true, s.cancelTask number)
  | none => (false, s)

/-- Sends a message to the client. -/
def send (s : Session π) (message : Json) : Session π :=
  { s with client := (s.client.send message).2 }

/-- Ends a request with its result or error. -/
def respond (s : Session π) (id : RequestId) (outcome : Except RpcError Json) : Session π :=
  let response := match outcome with
    | .ok value => Response.success id value
    | .error e => Response.failure (some id) e
  (s.endRequest id).send (encode response)

/-! ### What lets tasks go on -/

/-- Whether a task waits for the gates. -/
def isGated (t : RequestTask π) : Bool :=
  match t.stage with
  | .gated _ => true
  | _ => false

/-- Opens a gate, and tells whether it was closed. All that waits for the gates goes on. -/
def openGate (s : Session π) (gate : GateName) (value : Json) : Bool × Session π :=
  let (opened, startup) := s.language.startup.openGate gate value
  let s := { s with language := { s.language with startup } }
  if opened then
    (true,
      { s with jobs := s.jobs ++ (s.tasks.filter isGated).map (.task ·.number) ++
          (if s.features = .waiting then [.features] else []) })
  else (false, s)

/-- The inquiry that a task waits for. -/
def inquiry? (t : RequestTask π) : Option (Inquiry π) :=
  match t.stage with
  | .asking _ _ i => some i
  | _ => none

/-- The questions that have not been answered. -/
def outstanding (s : Session π) : List (CallId × π × Question) :=
  s.tasks.flatMap fun t =>
    match inquiry? t with
    | some i => i.outstanding.map fun c => (c.id, c.asked.handle, i.question)
    | none => []

/-- A provider has answered. -/
def answer (s : Session π) (call : CallId) (reply : Option Reply) : Session π :=
  let note (t : RequestTask π) : RequestTask π :=
    match t.stage with
    | .asking q origin i => { t with stage := .asking q origin (i.answer call reply) }
    | _ => t
  let waiting := s.tasks.filter fun t => (inquiry? t).any (·.calls.any (·.id = call))
  { s with
    tasks := s.tasks.map note
    jobs := s.jobs ++ waiting.map (.task ·.number) }

/-- The client has answered a request of the server. -/
def receive (s : Session π) (response : Response) : Session π :=
  let (found, client) := s.client.receive response
  { s with client, jobs := s.jobs ++ (found.map Job.answered).toList }

/-- The host sends a request of its own to the client. -/
def request (s : Session π) (name method : String) (params : Option Json) : Session π :=
  let (sent, client) := s.client.request method params (.host name)
  if sent then { s with client }
  else { s with client, finished := s.finished ++ [(name, .error Client.connectionClosed)] }

/-! ### Watching -/

/-- Sends what a flush asks last. -/
def submitLast (s : Session π) (flush : FlushId) (call : RegistrarCall) : Session π :=
  let (method, params) := call.request
  let (sent, client) := s.client.request method (some params) (.flush flush)
  if sent then { s with client }
  else { s with client, watch := (s.watch.reply flush false).2 }

/-- Goes on with a flush after the client's answer. -/
def flushAnswered (s : Session π) (flush : FlushId) (accepted : Bool) : Session π :=
  let (next, watch) := s.watch.reply flush accepted
  match next with
  | some call => { s with watch }.submitLast flush call
  | none => { s with watch }

/-- Sends what a flush asks first. -/
def submit (s : Session π) (flush : FlushId) (call : RegistrarCall) : Session π :=
  let (method, params) := call.request
  let (sent, client) := s.client.request method (some params) (.flush flush)
  if sent then { s with client } else { s with client }.flushAnswered flush false

/-- Starts a flush of watch registrations. -/
def flush (onDisk : Url → Bool) (s : Session π) : Session π :=
  let (first, watch) := s.watch.flush onDisk
  match first with
  | some (flush, call) => { s with watch }.submit flush call
  | none => { s with watch }

/-! ### Timers -/

/-- The timers of a session. -/
inductive SessionTimer where
  | request (number : TaskId)
  | client (id : Nat)
  | sweep (feature : Feature)
  | flush
deriving DecidableEq, Repr

/-- Whether the time of a task runs. -/
def isTimed (t : RequestTask π) : Bool :=
  match t.stage with
  | .fresh _ => false
  | _ => !t.expired

/-- Whether anyone still waits for an answer. -/
def isAwaited (s : Session π) (p : PendingRequest Waiter) : Bool :=
  p.waiter ≠ .features || s.features = .requested

/-- The timers that are to run, and how long each takes. -/
def timers (s : Session π) : List (SessionTimer × Nat) :=
  let limit := s.settings.requestTimeoutMs
  (s.tasks.filter isTimed).map (fun t => (.request t.number, limit)) ++
  s.language.sweepsDue.map (fun f => (.sweep f, s.settings.cache.sweepDelayMs)) ++
  (s.client.pending.filter s.isAwaited).map (fun p => (.client p.id, limit)) ++
  (if s.watch.armed then [(.flush, s.settings.watchDebounceMs)] else [])

/-- What the end of a timer lets go on. -/
def fire (s : Session π) : SessionTimer → Session π
  | .request number => (s.updateTask number ({ · with expired := true })).wake number
  | .client id => { s with jobs := s.jobs ++ [.overdue id] }
  | .sweep feature => { s with jobs := s.jobs ++ [.sweep feature] }
  | .flush => { s with jobs := s.jobs ++ [.flush] }

end Session

end ProviderHub
