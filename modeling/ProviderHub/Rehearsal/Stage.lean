import ProviderHub.Clock
import ProviderHub.Rehearsal.Registrar
import ProviderHub.Rehearsal.Screenplay
import ProviderHub.Server

/-!
A server whose providers are performers, on a clock that stands still.

* `Rehearsal.machine`: runs by the timers of the session and by those of the answers to come;
* `Rehearsal.overview`, `Rehearsal.inOrder`: what is seen of it.
-/

namespace ProviderHub.Rehearsal

/-- The timers of a rehearsal. -/
inductive Alarm where
  | session (timer : Session.SessionTimer)
  | call (id : CallId)
deriving DecidableEq, Repr

/-- The answers that are still to come. -/
def answersDue (s : Server Performer) : List (Alarm × Nat) :=
  s.session.outstanding.filterMap fun (id, p, q) => (p.delay? q).map (.call id, ·)

/-- What the end of a timer does. -/
def fire (alarm : Alarm) (s : Server Performer) : Server Performer :=
  match alarm with
  | .session timer => { s with session := s.session.fire timer }
  | .call id =>
    match s.session.outstanding.find? (·.1 == id) with
    | some (_, p, q) => { s with session := s.session.answer id (p.answer q) }
    | none => s

/-- A server whose providers are performers. -/
def machine (pathExists : String → Bool) : Machine (Server Performer) Alarm where
  wanted s := answersDue s ++ s.session.timers.map fun (timer, ms) => (.session timer, ms)
  fire := fire
  settle := Server.settle { atOnce := Performer.atOnce, pathExists }

/-- The state of a session in short. -/
def overview (s : Session Performer) : Json :=
  let l := s.language
  Json.object
    [("documents", Json.nat l.documents.docs.length),
      ("maxItems", Json.nat l.limits.maxItems),
      ("gracefulThreshold", Json.nat l.limits.gracefulThreshold),
      ("commands", encode l.commands.ids),
      ("completionTriggers", encode l.providers.completionTriggers),
      ("signatureTriggers", encode l.providers.signatureTriggers),
      ("initialized", .bool l.startup.initialized.isOpen),
      ("configured", Json.orNull l.startup.configured.value),
      ("registered", .bool l.startup.registered.isOpen),
      ("watchEnabled", .bool s.watch.enabled),
      ("watchRoots", s.watch.rootsToLog),
      ("watchRootCount", Json.nat s.watch.roots.length),
      ("pending", Json.nat s.client.pending.length),
      ("shutdown", .bool s.shutdownRequested)]

/-- Values in the order of the text of one of their fields. -/
def sortByField (key : String) (vs : List Json) : List Json :=
  vs.mergeSort fun v w => (Json.orNull (v.get? key)).render ≤ (Json.orNull (w.get? key)).render

/-- A message with the registrations that it takes back in order. -/
def orderIds (message : Json) : Json :=
  match message.at? ["params", "unregisterations"] with
  | some (.arr ids) =>
    Stated.withField message "params" (Json.object [("unregisterations", .arr (sortByField "id" ids))])
  | _ => message

/-- Messages in an order that does not depend on which request ended first: responses by their
names, then requests and notifications as they came. -/
def inOrder (messages : List Json) : List Json :=
  sortByField "id" (messages.filter fun m => !m.hasKey "method") ++
    (messages.filter (·.hasKey "method")).map orderIds

/-- The questions that were asked, in the order of the names of those who were. -/
def questionsAsked (s : Session Performer) : List Json :=
  Performer.logOf (s.asked.mergeSort fun a b => a.1.name ≤ b.1.name)

end ProviderHub.Rehearsal
