import ProviderHub.Session.Method
import ProviderHub.Watch.Engine

/-!
Capabilities that are registered with the client after its start.

* `registrationParams`, `unregistrationParams`: the parameters of the two requests;
* `watchParams`, `unwatchParams`: those for file watchers.
-/

namespace ProviderHub

/-- A capability that is registered. -/
structure Capability where
  id : String
  method : String
  options : Json
deriving DecidableEq, Repr

/-- The JSON form of a capability. -/
def Capability.toJson (c : Capability) : Json :=
  Json.object
    [("id", .str c.id), ("method", .str c.method), ("registerOptions", c.options)]

/-- The parameters of a registration. -/
def registrationParams (capabilities : List Capability) : Json :=
  Json.object [("registrations", .arr (capabilities.map Capability.toJson))]

/-- The parameters of a registration's end. The key is spelled as the protocol spells it. -/
def unregistrationParams (method : String) (ids : List String) : Json :=
  Json.object [("unregisterations", .arr (ids.map fun id =>
    Json.object [("id", .str id), ("method", .str method)]))]

/-- The capability of a file watcher. -/
def watchCapability (id : String) (watcher : FileSystemWatcher) : Capability :=
  { id
    method := Method.didChangeWatchedFiles
    options := Json.object [("watchers", .arr [encode watcher])] }

/-- The parameters that register file watchers. -/
def watchParams (watchers : List (String × FileSystemWatcher)) : Json :=
  registrationParams (watchers.map fun (id, watcher) => watchCapability id watcher)

/-- The parameters that end the registration of file watchers. -/
def unwatchParams (ids : List String) : Json :=
  unregistrationParams Method.didChangeWatchedFiles ids

/-- The method and the parameters of what a flush asks. -/
def RegistrarCall.request : RegistrarCall → String × Json
  | .register registrations =>
    (Method.registerCapability,
      watchParams (registrations.map fun r => (registrationName r.id, r.watcher)))
  | .unregister ids => (Method.unregisterCapability, unwatchParams (ids.map registrationName))

end ProviderHub
