import ProviderHub.Cli.Serve

/-!
A dialogue with the server of the command line.

* `Dialogue.say`: sends a message, and waits for a reply to a request;
* `Dialogue.hold`: a whole dialogue, after which the input ends.
-/

namespace ProviderHub.Dialogue

/-- A server on its clock, and what it has said so far. -/
structure State where
  timed : Timed (Server Empty) Session.SessionTimer
  said : List Json := []

/-- Nothing is on disk here. -/
def machine : Machine (Server Empty) Session.SessionTimer := Serve.machine fun _ => false

/-- Notes what the server has said. -/
def listen (d : State) : State :=
  let (messages, server) := d.timed.state.takeOutput
  { timed := { d.timed with state := server }, said := d.said ++ messages }

/-- Whether a message asks for a reply. -/
def isRequest (message : Json) : Bool := message.hasKey "id" && message.hasKey "method"

/-- Sends a message. A reply that does not come at once comes when the time for it is over. -/
def say (d : State) (message : Json) : State :=
  match d.timed.state.feed (Frame.write message) with
  | none => d
  | some server =>
    let heard := listen { d with timed := machine.rest { d.timed with state := server } }
    if isRequest message && heard.said.length = d.said.length then
      let limit := heard.timed.state.session.settings.requestTimeoutMs
      listen { heard with timed := machine.advance limit heard.timed }
    else heard

/-- The input ends. -/
def finish (d : State) : State :=
  listen { d with timed := machine.rest { d.timed with state := d.timed.state.finishInput } }

/-- A whole dialogue: what the server says, and what the program ends with. -/
def hold (settings : Settings) (messages : List Json) : List Json × Nat :=
  let start : State := { timed := { state := .ofSettings settings } }
  let d := finish (messages.foldl say start)
  (d.said, (d.timed.state.exit.map Serve.exitCode).getD 1)

end ProviderHub.Dialogue
