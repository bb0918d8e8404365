import ProviderHub.Clock
import ProviderHub.Provider.Commands
import ProviderHub.Provider.Inquiry
import ProviderHub.Provider.Route
import ProviderHub.Rehearsal.Script

/-!
Commands that are run by performers.

* `Executions.start`, `Executions.cancel`: runs under a name;
* `Executions.machine`: runs by the timers of the answers to come.
-/

namespace ProviderHub

/-- A command that is being run. -/
structure Execution where
  name : String
  inquiry : Inquiry Performer
  cancelled : Bool := false

/-- The handlers of commands, and what they are doing. -/
structure Executions where
  commands : Commands Performer := {}
  running : List Execution := []
  /-- The names of all runs so far, newest first, each with the call that it made. -/
  names : List (String × CallId) := []
  nextCall : CallId := 0
  /-- What handlers were asked, oldest first. -/
  asked : List (Performer × Question) := []
  /-- The runs that have ended, oldest first. -/
  finished : List (String × Except RouteError Json) := []

namespace Executions

/-- The end of a run, once it has come. An answer goes before a cancellation. -/
def outcome? (x : Execution) : Option (Except RouteError Json) :=
  if x.inquiry.isDone then
    some (.ok (Json.orNull ((x.inquiry.results.filterMap (·.2.value?)).head?)))
  else if x.cancelled then some (.error .cancelled)
  else none

/-- Notes the ends of runs. -/
def settle (x : Executions) : Executions :=
  { x with
    running := x.running.filter fun r => (outcome? r).isNone
    finished := x.finished ++ x.running.filterMap fun r => (outcome? r).map (r.name, ·) }

/-- Runs a command under a name. -/
def start (x : Executions) (name : String) (command : Command) : Executions :=
  let call := x.nextCall
  let x := { x with names := (name, call) :: x.names, nextCall := call + 1 }
  match x.commands.get? command.command with
  | none =>
    { x with finished := x.finished ++ [(name, .error (.unknownCommand command.command))] }
  | some h =>
    let question := Question.execute command
    let inquiry := Inquiry.start Performer.atOnce call question [⟨0, h⟩]
    { x with
      running := x.running ++ [{ name, inquiry }]
      asked := x.asked ++ [(h, question)] }

/-- Cancels the last run of a name, and tells whether there ever was one. -/
def cancel (x : Executions) (name : String) : Bool × Executions :=
  match x.names.lookup name with
  | none => (false, x)
  | some call =>
    (true,
      { x with running := x.running.map fun r =>
          if r.inquiry.calls.any (·.id = call) then { r with cancelled := true } else r })

/-- A handler answers. -/
def answer (id : CallId) (r : Execution) : Execution :=
  match r.inquiry.calls.find? (·.id == id) with
  | some c => { r with inquiry := r.inquiry.answer id (c.asked.handle.answer r.inquiry.question) }
  | none => r

/-- Commands that are run by performers. -/
def machine : Machine Executions CallId where
  wanted x := x.running.flatMap fun r => r.inquiry.outstanding.filterMap fun c =>
    (c.asked.handle.delay? r.inquiry.question).map (c.id, ·)
  fire id x := { x with running := x.running.map (answer id) }
  settle := settle

end Executions

end ProviderHub
