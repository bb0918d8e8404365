import ProviderHub.Watch.Pattern

/-!
Watch registrations without duplicates.

Watchers ask for overlapping directories. The engine keeps one root for those that a single
registration can serve: a watcher that a root covers relies on that root, and a new root takes the
place of those that it covers. Registrations are not sent at once but flushed after a while. A
flush first registers the roots that are pending, waits for the answer, and then unregisters what
has been replaced; several flushes can be under way at the same time.

* `WatchEngine.add`, `WatchEngine.dispose`: a watcher comes or goes;
* `WatchEngine.flush`: starts a flush, when the timer ends or on demand;
* `WatchEngine.reply`: goes on with a flush when the client has answered;
* `WatchEngine.dispatch`: hands events to the watchers that observe them.
-/

namespace ProviderHub

/-- The number of a root. -/
abbrev RootId := Nat

/-- The number of a watcher. -/
abbrev WatcherId := Nat

/-- The number of a registration with the client. -/
abbrev RegistrationId := Nat

/-- The number of a flush. -/
abbrev FlushId := Nat

/-- How the client sees a registration's number. -/
def registrationName (id : RegistrationId) : String := "switchboard/watch/" ++ toString id

/-- Where a root stands with the client. -/
inductive RootStatus where
  /-- It is to be registered. -/
  | pending
  /-- It has been sent for registration under this number. -/
  | registered (id : RegistrationId)
  /-- It was not on disk when it was to be registered. -/
  | vanished
  /-- The client refused it. -/
  | rejected
deriving DecidableEq, Repr, Inhabited

/-- A directory that is watched for one or more watchers. -/
structure WatchRoot where
  id : RootId
  pattern : WatchPattern
  kind : WatchKind
  /-- How many watchers rely on it. -/
  refCount : Nat
  status : RootStatus := .pending
deriving DecidableEq, Repr, Inhabited

/-- Someone who watches, and the events that have not been fetched yet. -/
structure Watcher where
  id : WatcherId
  /-- The root that serves it. -/
  root : RootId
  pattern : WatchPattern
  kind : WatchKind
  events : List FileEvent := []
deriving DecidableEq, Repr, Inhabited

/-- Whether a watcher is to get an event. -/
def Watcher.wants (w : Watcher) (event : FileEvent) : Bool :=
  w.kind.accepts event.change && w.pattern.observes event.uri

/-- One registration for the client. -/
structure Registration where
  id : RegistrationId
  watcher : FileSystemWatcher
deriving DecidableEq, Repr, Inhabited

/-- What a flush asks of the client. -/
inductive RegistrarCall where
  | register (registrations : List Registration)
  | unregister (ids : List RegistrationId)
deriving DecidableEq, Repr

/-- What a flush is waiting for. -/
inductive FlushStage where
  /-- The answer to the registration of these roots; these numbers are to be unregistered next. -/
  | registering (roots : List RootId) (unregister : List RegistrationId)
  /-- The answer to the last request. -/
  | unregistering
deriving DecidableEq, Repr

/-- A flush that is under way. -/
structure Flush where
  id : FlushId
  stage : FlushStage
deriving DecidableEq, Repr

/-- The state of all watching. -/
structure WatchEngine where
  roots : List WatchRoot := []
  watchers : List Watcher := []
  /-- The roots that the next flush looks at, in increasing order. -/
  pending : List RootId := []
  /-- The registrations that the next flush takes back. -/
  pendingUnregister : List RegistrationId := []
  /-- The flushes under way, in the order of their starts. -/
  flushes : List Flush := []
  nextRoot : RootId := 0
  nextWatcher : WatcherId := 0
  nextRegistration : RegistrationId := 1
  nextFlush : FlushId := 0
  /-- Whether the timer of the next flush is running. -/
  armed : Bool := false
  /-- Whether registrations may reach the client. -/
  enabled : Bool := false
  closed : Bool := false
deriving DecidableEq, Repr, Inhabited

namespace WatchEngine

/-! ### Roots -/

/-- The root of a number. -/
def root? (e : WatchEngine) (id : RootId) : Option WatchRoot := e.roots.find? (·.id == id)

/-- Changes the root of a number. -/
def updateRoot (e : WatchEngine) (id : RootId) (f : WatchRoot → WatchRoot) : WatchEngine :=
  { e with roots := e.roots.map fun r => if r.id = id then f r else r }

/-- A number among others in increasing order, each once. -/
def insertId (id : RootId) : List RootId → List RootId
  | [] => [id]
  | j :: rest =>
    if id < j then id :: j :: rest else if id = j then j :: rest else j :: insertId id rest

/-- The registration of a root, if it has one. -/
def registrationOf (r : WatchRoot) : List RegistrationId :=
  match r.status with
  | .registered id => [id]
  | _ => []

/-- Removes a root. Its registration is to be taken back. -/
def teardown (e : WatchEngine) (id : RootId) : WatchEngine :=
  match e.root? id with
  | some r =>
    { e with
      roots := e.roots.filter (·.id != id)
      pending := e.pending.filter (· != id)
      pendingUnregister := e.pendingUnregister ++ registrationOf r }
  | none => e

/-- Lets a root be registered anew. Its registration is to be taken back. -/
def requeue (e : WatchEngine) (id : RootId) : WatchEngine :=
  match e.root? id with
  | some r =>
    { e.updateRoot id ({ · with status := .pending }) with
      pending := insertId id e.pending
      pendingUnregister := e.pendingUnregister ++ registrationOf r }
  | none => e

/-- Whether a flush would have something to do. -/
def hasWork (e : WatchEngine) : Bool := !e.pending.isEmpty || !e.pendingUnregister.isEmpty

/-- Starts the timer of the next flush, if there is work for it. -/
def schedule (e : WatchEngine) : WatchEngine :=
  if e.closed || !e.enabled || !e.hasWork then e else { e with armed := true }

/-! ### Watchers -/

/-- One more watcher relies on a root that covers it. The root is registered anew if it has to
report more, and looked for again if it was not on disk. -/
def attach (e : WatchEngine) (r : WatchRoot) (kind : WatchKind) : WatchEngine :=
  let widened := r.kind.union kind
  let e := e.updateRoot r.id fun r => { r with refCount := r.refCount + 1, kind := widened }
  if widened != r.kind || r.status = .vanished then e.requeue r.id else e

/-- A new root takes the place of those that it covers, and serves their watchers. -/
def merge (e : WatchEngine) (pattern : WatchPattern) (kind : WatchKind) : WatchEngine :=
  let covered := e.roots.filter fun r => pattern.covers r.pattern
  let ids := covered.map WatchRoot.id
  let root : WatchRoot :=
    { id := e.nextRoot
      pattern
      kind := covered.foldl (fun k r => k.union r.kind) kind
      refCount := covered.foldl (fun n r => n + r.refCount) 1 }
  let e := ids.foldl teardown e
  { e with
    roots := e.roots ++ [root]
    watchers := e.watchers.map fun w => if ids.contains w.root then { w with root := root.id } else w
    pending := insertId root.id e.pending
    nextRoot := root.id + 1 }

/-- The root that serves a new watcher, and the state in which it does. -/
def rootFor (e : WatchEngine) (pattern : WatchPattern) (kind : WatchKind) :
    RootId × WatchEngine :=
  match e.roots.find? fun r => r.pattern.covers pattern with
  | some r => (r.id, e.attach r kind)
  | none => (e.nextRoot, e.merge pattern kind)

/-- Adds a watcher. -/
def add (e : WatchEngine) (pattern : WatchPattern) (kind : WatchKind) :
    WatcherId × WatchEngine :=
  let pattern := pattern.normalized
  let id := e.nextWatcher
  let (root, e) := e.rootFor pattern kind
  (id,
    { e with
      watchers := e.watchers ++ [Watcher.mk id root pattern kind []]
      nextWatcher := id + 1 }.schedule)

/-- Removes a watcher, and its root with the last one that relies on it. -/
def dispose (e : WatchEngine) (id : WatcherId) : WatchEngine :=
  match e.watchers.find? (·.id == id) with
  | none => e
  | some w =>
    let e := { e with watchers := e.watchers.filter (·.id != id) }
    match e.root? w.root with
    | none => e
    | some r =>
      let e := e.updateRoot r.id fun r => { r with refCount := r.refCount - 1 }
      if r.refCount ≤ 1 then (e.teardown r.id).schedule else e

/-- Lets registrations reach the client. -/
def enable (e : WatchEngine) : WatchEngine := { e with enabled := true }.schedule

/-- Ends the timer; no flush is started any more. -/
def shutdown (e : WatchEngine) : WatchEngine := { e with closed := true, armed := false }

/-! ### Flushes -/

/-- Gives the pending roots among those of the given numbers a registration each, or notes that
they are not on disk. -/
def assign (onDisk : Url → Bool) :
    List RootId → WatchEngine → List (RootId × Registration) × WatchEngine
  | [], e => ([], e)
  | id :: rest, e =>
    match e.root? id with
    | none => assign onDisk rest e
    | some r =>
      if r.status ≠ .pending then assign onDisk rest e
      else if onDisk r.pattern.base then
        let number := e.nextRegistration
        let e := { e.updateRoot id ({ · with status := .registered number }) with
          nextRegistration := number + 1 }
        let (assigned, e) := assign onDisk rest e
        ((id, ⟨number, r.pattern.toWatcher r.kind⟩) :: assigned, e)
      else assign onDisk rest (e.updateRoot id ({ · with status := .vanished }))

/-- The end of a flush. -/
def finish (e : WatchEngine) (id : FlushId) : WatchEngine :=
  { e with flushes := e.flushes.filter (·.id != id) }.schedule

/-- The second half of a flush: takes registrations back, if there are any to take back. -/
def takeBack (e : WatchEngine) (id : FlushId) (ids : List RegistrationId) :
    Option RegistrarCall × WatchEngine :=
  if ids.isEmpty then (none, e.finish id)
  else
    (some (.unregister ids),
      { e with flushes := e.flushes.filter (·.id != id) ++ [⟨id, .unregistering⟩] })

/-- Starts a flush, in place of the one that the timer would start. Gives the number of the flush
and what it asks of the client first. -/
def flush (onDisk : Url → Bool) (e : WatchEngine) :
    Option (FlushId × RegistrarCall) × WatchEngine :=
  let e := { e with armed := false }
  if e.closed || !e.enabled then (none, e)
  else
    let unregister := e.pendingUnregister
    let id := e.nextFlush
    let (assigned, e) :=
      assign onDisk e.pending { e with pending := [], pendingUnregister := [], nextFlush := id + 1 }
    if assigned.isEmpty then
      let (call, e) := e.takeBack id unregister
      (call.map (id, ·), e)
    else
      (some (id, .register (assigned.map Prod.snd)),
        { e with flushes := e.flushes ++ [⟨id, .registering (assigned.map Prod.fst) unregister⟩] })

/-- The client refused the registration of these roots. -/
def reject (e : WatchEngine) (ids : List RootId) : WatchEngine :=
  { e with roots := e.roots.map fun r =>
      if ids.contains r.id then { r with status := .rejected } else r }

/-- Goes on with a flush after the client's answer. Gives what it asks of the client next. -/
def reply (e : WatchEngine) (id : FlushId) (accepted : Bool) : Option RegistrarCall × WatchEngine :=
  match e.flushes.find? (·.id == id) with
  | none => (none, e)
  | some f =>
    match f.stage with
    | .registering roots unregister => (if accepted then e else e.reject roots).takeBack id unregister
    | .unregistering => (none, e.finish id)

/-! ### Events -/

/-- Hands events to all watchers that want them, and counts the deliveries. -/
def dispatch (e : WatchEngine) (events : List FileEvent) : Nat × WatchEngine :=
  (e.watchers.foldr (fun w n => (events.filter w.wants).length + n) 0,
    { e with watchers := e.watchers.map fun w =>
        { w with events := w.events ++ events.filter w.wants } })

/-- The events that a watcher has not fetched yet. -/
def eventsOf (e : WatchEngine) (id : WatcherId) : List FileEvent :=
  match e.watchers.find? (·.id == id) with
  | some w => w.events
  | none => []

/-- Fetches the first events of a watcher. -/
def fetch (e : WatchEngine) (id : WatcherId) (count : Nat) : List FileEvent × WatchEngine :=
  ((e.eventsOf id).take count,
    { e with watchers := e.watchers.map fun w =>
        if w.id = id then { w with events := w.events.drop count } else w })

/-! ### Views -/

/-- A root that has been sent for registration. -/
structure RegisteredRoot where
  pattern : WatchPattern
  id : RegistrationId
deriving DecidableEq, Repr

/-- The roots that have been sent for registration, by the text of their bases. -/
def registeredRoots (e : WatchEngine) : List RegisteredRoot :=
  (e.roots.filterMap fun r =>
    match r.status with
    | .registered id => some ⟨r.pattern, id⟩
    | _ => none).mergeSort fun a b => a.pattern.base.toString ≤ b.pattern.base.toString

end WatchEngine

end ProviderHub
