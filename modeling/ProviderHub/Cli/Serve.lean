import ProviderHub.Server

/-!
The server of the command line.

It has no providers of its own, so all of them are registered as soon as the client has said what
it wants.

* `Serve.machine`: the server, run by its timers;
* `Serve.exitCode`: what the program ends with.
-/

namespace ProviderHub.Serve

/-- Registration is complete once the client's options are known. -/
def attend (s : Server Empty) : Server Empty :=
  if s.session.language.startup.configured.isOpen then
    { s with session := (s.session.openGate .registered .null).2 }
  else s

/-- The server, run by its timers. -/
def machine (pathExists : String → Bool) : Machine (Server Empty) Session.SessionTimer :=
  let host : Host Empty := { atOnce := fun p _ => p.elim, pathExists }
  { Server.machine host with settle := fun s => (attend s).settle host }

/-- What the program ends with. -/
def exitCode : Exit → Nat
  | .left true => 0
  | .left false => 1
  | .truncated => 2

end ProviderHub.Serve
