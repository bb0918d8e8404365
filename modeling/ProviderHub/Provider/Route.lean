import ProviderHub.Provider.Feature
import ProviderHub.Rpc.Message

/-!
Why a request cannot be routed to a provider.
-/

namespace ProviderHub

/-- The causes for which routing fails. -/
inductive RouteError where
  | noProvider (feature : Feature) (uri : Url)
  | documentNotOpen (uri : Url)
  | unknownCommand (command : String)
  | cancelled
deriving DecidableEq, Repr

namespace RouteError

/-- The wording of a cause. -/
def message : RouteError → String
  | .noProvider feature uri =>
    "No " ++ feature.name ++ " provider registered for " ++ uri.toString
  | .documentNotOpen uri => "Document is not open: " ++ uri.toString
  | .unknownCommand command => "Unknown command: " ++ command
  | .cancelled => "Request cancelled"

/-- The number of a cause on the wire. -/
def code : RouteError → Int32
  | .noProvider _ _ => -32803
  | .documentNotOpen _ | .unknownCommand _ => -32602
  | .cancelled => -32800

/-- Whether the request was given up. -/
def isCancelled : RouteError → Bool
  | .cancelled => true
  | _ => false

/-- The error that a client gets. -/
def toRpc (e : RouteError) : RpcError := ⟨e.code, e.message, none⟩

end RouteError

end ProviderHub
