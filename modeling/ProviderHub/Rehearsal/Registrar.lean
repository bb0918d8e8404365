import ProviderHub.Clock
import ProviderHub.Watch.Engine

/-!
A watch engine whose client answers by a script.

* `WatchRehearsal.machine`: runs by the timer of the next flush and by those of the answers to
  come;
* `WatchHandles`: watchers by name;
* `RegistrarCall.toLog`, `WatchEngine.rootsToLog`: what is seen from outside.
-/

namespace ProviderHub

/-- A request to the client as it stands in a log. What it takes back is put in order. -/
def RegistrarCall.toLog : RegistrarCall → Json
  | .register registrations =>
    Json.object [("register", .arr (registrations.map fun r =>
      Json.object [("id", .str (registrationName r.id)), ("watcher", encode r.watcher)]))]
  | .unregister ids =>
    Json.object [("unregister", encode ((ids.map registrationName).mergeSort fun a b => a ≤ b))]

/-- The roots that have been sent for registration, as they stand in a log. -/
def WatchEngine.rootsToLog (e : WatchEngine) : Json :=
  .arr (e.registeredRoots.map fun r =>
    Json.object
      [("base", encode r.pattern.base), ("recursive", .bool r.pattern.recursive),
        ("id", .str (registrationName r.id))])

/-- Watchers by name. -/
abbrev WatchHandles := List (String × WatcherId)

namespace WatchHandles

/-- Adds a watcher under a name. One that had the name before is released after that. -/
def add (hs : WatchHandles) (name : String) (pattern : WatchPattern) (kind : WatchKind)
    (e : WatchEngine) : WatchHandles × WatchEngine :=
  let (id, e) := e.add pattern kind
  ((name, id) :: hs.filter (·.1 != name),
    match hs.lookup name with
    | some old => e.dispose old
    | none => e)

/-- Releases a watcher, and tells whether there is one of the name. -/
def drop (hs : WatchHandles) (name : String) (e : WatchEngine) :
    Bool × WatchHandles × WatchEngine :=
  match hs.lookup name with
  | some id => (true, hs.filter (·.1 != name), e.dispose id)
  | none => (false, hs, e)

/-- Fetches all events of a watcher, if there is one of the name. -/
def drain (hs : WatchHandles) (name : String) (e : WatchEngine) :
    Option (List FileEvent) × WatchEngine :=
  match hs.lookup name with
  | some id => (some (e.eventsOf id), (e.fetch id (e.eventsOf id).length).2)
  | none => (none, e)

end WatchHandles

/-- A request to the client that is being answered. -/
structure RegistrarRun where
  number : Nat
  flush : FlushId
  refuse : Bool
  delay : Nat
deriving Repr

/-- A watch engine and its client. -/
structure WatchRehearsal where
  engine : WatchEngine := {}
  /-- How requests are answered from now on. -/
  refuse : Bool := false
  delay : Nat := 0
  runs : List RegistrarRun := []
  nextRun : Nat := 0
  /-- The requests that have been made, oldest first. -/
  calls : List RegistrarCall := []
  handles : WatchHandles := []
  /-- Whether the engine has been given up. -/
  dropped : Bool := false

namespace WatchRehearsal

/-- A flush makes a request. -/
def startCall (w : WatchRehearsal) (flush : FlushId) (call : RegistrarCall) : WatchRehearsal :=
  { w with
    calls := w.calls ++ [call]
    runs := w.runs ++ [⟨w.nextRun, flush, w.refuse, w.delay⟩]
    nextRun := w.nextRun + 1 }

/-- A request is answered. -/
def endCall (w : WatchRehearsal) (r : RegistrarRun) : WatchRehearsal :=
  let (next, engine) := w.engine.reply r.flush (!r.refuse)
  let w := { w with engine, runs := w.runs.filter (·.number != r.number) }
  match next with
  | some call => w.startCall r.flush call
  | none => w

/-- Starts a flush. -/
def flush (onDisk : Url → Bool) (w : WatchRehearsal) : WatchRehearsal :=
  let (first, engine) := w.engine.flush onDisk
  match first with
  | some (flush, call) => { w with engine }.startCall flush call
  | none => { w with engine }

/-- Gives the engine up. -/
def drop (w : WatchRehearsal) : WatchRehearsal :=
  { w with engine := w.engine.shutdown, dropped := true }

/-- Whether nobody holds the engine any more, so that no more events can come. -/
def isGone (w : WatchRehearsal) : Bool := w.dropped && w.engine.flushes.isEmpty

/-- A watch engine whose client answers by a script. The key of the next flush is `none`. -/
def machine (debounce : Nat) (onDisk : Url → Bool) : Machine WatchRehearsal (Option Nat) where
  wanted w :=
    (if w.engine.armed then [(none, debounce)] else []) ++
      w.runs.map fun r => (some r.number, r.delay)
  fire
    | none, w => w.flush onDisk
    | some number, w =>
      match w.runs.find? (·.number == number) with
      | some r => w.endCall r
      | none => w

end WatchRehearsal

end ProviderHub
