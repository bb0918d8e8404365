import ProviderHub.Session.Lifecycle

/-!
How a session goes on.

* `Session.handleRequest`, `Session.handleNotification`: what a message from the client does;
* `Session.poll`: a task goes on until it has to wait;
* `Session.runJob`, `Session.settle`: one job, and all of them.
-/

namespace ProviderHub

/-- What surrounds a session. -/
structure Host (π : Type) where
  /-- The answers that providers give at once. -/
  atOnce : π → Question → Option (Option Reply)
  /-- Whether there is something at a path. -/
  pathExists : String → Bool

/-- Whether to go on after a message. -/
inductive Flow where
  | next
  | exit
deriving DecidableEq, Repr

namespace Session

variable {π : Type}

/-! ### Tasks -/

/-- Ends a task. -/
def endTask (s : Session π) (t : RequestTask π) (outcome : Except RpcError Json) : Session π :=
  { s with tasks := s.tasks.filter (·.number != t.number) }.respond t.id outcome

/-- Lets a task wait in a stage, unless it is cancelled or its time is over. -/
def wait (s : Session π) (t : RequestTask π) (stage : Stage π) : Session π :=
  if t.cancelled then s.endTask t (.error RouteError.cancelled.toRpc)
  else if t.expired then s.endTask t (.error (.internal "Request timed out"))
  else s.updateTask t.number ({ · with stage })

/-- Ends a task whose providers have all answered, and lets it wait otherwise. -/
def await (s : Session π) (t : RequestTask π) (query : Query) (origin : Option Token)
    (inquiry : Inquiry π) : Session π :=
  if inquiry.isDone then
    let (result, language) := s.language.finish query origin inquiry.results
    { s with language }.endTask t (.ok result)
  else s.wait t (.asking query origin inquiry)

/-- Starts the work on a query, or waits for the gates. -/
def begin (host : Host π) (s : Session π) (t : RequestTask π) (query : Query) : Session π :=
  match s.language.start query with
  | .waiting => s.wait t (.gated query)
  | .done outcome => s.endTask t (outcome.mapError RouteError.toRpc)
  | .ask question origin asked =>
    let inquiry := Inquiry.start host.atOnce s.nextCall question asked
    let s :=
      { s with
        nextCall := s.nextCall + asked.length
        asked := s.asked ++ asked.map fun (a : Asked π) => (a.handle, question) }
    s.await t query origin inquiry

/-- Looks at a request for the first time. -/
def examine (host : Host π) (s : Session π) (t : RequestTask π) (request : Request) : Session π :=
  match s.refusal? with
  | some e => s.endTask t (.error e)
  | none =>
    match Query.read request.method request.params with
    | .ok query => s.begin host t query
    | .error e => s.endTask t (.error e)

/-- A task goes on until it has to wait. -/
def poll (host : Host π) (s : Session π) (number : TaskId) : Session π :=
  match s.tasks.find? (·.number == number) with
  | none => s
  | some t =>
    match t.stage with
    | .fresh request => s.examine host t request
    | .gated query => s.begin host t query
    | .asking query origin inquiry => s.await t query origin inquiry

/-- Someone who waited for the client goes on. -/
def resume (s : Session π) (a : Answered Waiter) : Session π :=
  match a.waiter with
  | .host name => { s with finished := s.finished ++ [(name, a.outcome)] }
  | .features => s
  | .flush id => s.flushAnswered id a.outcome.toBool

/-- Does one job. -/
def runJob (host : Host π) (s : Session π) : Job → Session π
  | .task number => s.poll host number
  | .features => s.registerFeatures
  | .answered a => s.resume a
  | .overdue id =>
    let (found, client) := s.client.expire id
    match found with
    | some a => { s with client }.resume a
    | none => { s with client }
  | .sweep feature =>
    -- a sweep that was called off after its time does not run
    if feature ∈ s.language.sweepsDue then { s with language := s.language.sweep feature } else s
  | .flush => s.flush (Url.isOnDisk host.pathExists)

/-- Does all jobs in order, at most the given number. -/
def settle (host : Host π) : Nat → Session π → Session π
  | 0, s => s
  | bound + 1, s =>
    match s.jobs with
    | [] => s
    | job :: rest => settle host bound ({ s with jobs := rest }.runJob host job)

/-! ### Messages -/

/-- The start of a session is handled before the next message is read. -/
def handleInitialize (s : Session π) (params : Option Json) : Except RpcError Json × Session π :=
  match readParams InitializeParams params with
  | .ok p => s.start p
  | .error e => (.error e, s)

/-- So is its end. -/
def handleShutdown (s : Session π) : Except RpcError Json × Session π :=
  match s.refusal? with
  | some e => (.error e, s)
  | none => (.ok .null, s.shutdown)

/-- A request arrives. All but the two of the lifecycle become tasks. -/
def handleRequest (s : Session π) (r : Request) : Session π :=
  let (number, s) := s.beginRequest r.id
  if r.method = Method.initializeRequest then
    let (outcome, s) := s.handleInitialize r.params
    s.respond r.id outcome
  else if r.method = Method.shutdown then
    let (outcome, s) := s.handleShutdown
    s.respond r.id outcome
  else { s with tasks := s.tasks ++ [RequestTask.mk number r.id (.fresh r) false false] }.wake number

/-- Applies the last of the changes to a document, which holds its whole text. -/
def changeDocument (s : Session π) (p : DidChangeParams) : Session π :=
  match p.contentChanges.getLast? with
  | some change =>
    let (_, documents) :=
      s.language.documents.change p.textDocument.uri p.textDocument.version change.text
    { s with language := { s.language with documents } }
  | none => s

/-- What a notification with well-formed parameters does. One with others does nothing. -/
def notified {α : Type} [Params α] (s : Session π) (params : Option Json)
    (f : α → Session π) : Session π :=
  match readParams α params with
  | .ok p => f p
  | .error _ => s

/-- A notification arrives. Those that are not known are ignored. -/
def handleNotification (s : Session π) (n : Notification) : Flow × Session π :=
  if n.method = Method.exit then (.exit, s)
  else
    (.next,
      if n.method = Method.initialized then (s.openGate .initialized .null).2
      else if n.method = Method.cancelRequest then
        s.notified n.params fun (p : CancelParams) => (s.cancelRequest p.id).2
      else if n.method = Method.didOpen then
        s.notified n.params fun (p : DidOpenParams) =>
          let documents := s.language.documents.openDocument p.textDocument
          { s with language := { s.language with documents } }
      else if n.method = Method.didChange then s.notified n.params s.changeDocument
      else if n.method = Method.didClose then
        s.notified n.params fun (p : DocumentParams) =>
          { s with language := (s.language.close p.textDocument.uri).2 }
      else if n.method = Method.didChangeWatchedFiles then
        s.notified n.params fun (p : DidChangeWatchedFilesParams) =>
          { s with watch := (s.watch.dispatch p.changes).2 }
      else s)

/-- A message arrives. -/
def handle (s : Session π) : Message → Flow × Session π
  | .request r => (.next, s.handleRequest r)
  | .response r => (.next, s.receive r)
  | .notification n => s.handleNotification n

end Session

end ProviderHub
