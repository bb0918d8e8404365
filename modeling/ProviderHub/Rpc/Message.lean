import ProviderHub.Json.Parser
import ProviderHub.Json.Printer
import ProviderHub.Json.Wire

/-!
Remote procedure calls in JSON.

* `RequestId`, `RpcError`: parts of messages;
* `Message`: requests, notifications and responses, told apart by the keys they have;
* `Message.parse`: the message that a text writes.
-/

namespace ProviderHub

/-- The name of a request: a number or a text. -/
inductive RequestId where
  | number (value : Nat)
  | text (value : String)
deriving DecidableEq, Repr, Inhabited

instance : Wire RequestId where
  encode
    | .number n => .int n
    | .text s => .str s
  decode?
    | .str s => some (.text s)
    | v => (nat64? v).map .number

/-- How a request's name is shown. -/
def RequestId.display : RequestId → String
  | .number n => toString n
  | .text s => s

/-- Why a request failed. -/
structure RpcError where
  code : Int32
  message : String
  data : Option Json := none
deriving DecidableEq, Repr, Inhabited

instance : Wire RpcError where
  encode e := fields
    [field "code" e.code, field "message" e.message, fieldIfSome "data" e.data]
  decode? v := do
    let r ← Record.ofJson? 3 v
    let code ← r.required 0 "code"
    let message ← r.required 1 "message"
    let data ← r.nullable 2 "data"
    some { code, message, data }

namespace RpcError

/-- How an error is shown. -/
def display (e : RpcError) : String := "[" ++ toString e.code.toInt ++ "] " ++ e.message

/-- The text was not a message. -/
def parseError : RpcError := ⟨-32700, "Parse error", none⟩

/-- There is no such method. -/
def methodNotFound (method : String) : RpcError := ⟨-32601, "Method not found: " ++ method, none⟩

/-- The parameters have the wrong form. -/
def invalidParams : RpcError := ⟨-32602, "Invalid params", none⟩

/-- Something failed here. -/
def internal (what : String) : RpcError := ⟨-32603, "Internal error: " ++ what, none⟩

/-- The session has not been initialized. -/
def notInitialized : RpcError := ⟨-32002, "Server not initialized", none⟩

/-- The request has no place here. -/
def invalidRequest (why : String) : RpcError := ⟨-32600, why, none⟩

/-- The request was given up. -/
def cancelled (what : String) : RpcError := ⟨-32800, what, none⟩

end RpcError

/-- A request. -/
structure Request where
  jsonrpc : String := "2.0"
  id : RequestId
  method : String
  params : Option Json := none
deriving DecidableEq, Repr, Inhabited

instance : Wire Request where
  encode r := fields
    [field "jsonrpc" r.jsonrpc, field "id" r.id, field "method" r.method,
      fieldIfSome "params" r.params]
  decode? v := do
    let r ← Record.ofJson? 4 v
    let jsonrpc ← r.required 0 "jsonrpc"
    let id ← r.required 1 "id"
    let method ← r.required 2 "method"
    let params ← r.nullable 3 "params"
    some { jsonrpc, id, method, params }

/-- A message that asks for no answer. -/
structure Notification where
  jsonrpc : String := "2.0"
  method : String
  params : Option Json := none
deriving DecidableEq, Repr, Inhabited

instance : Wire Notification where
  encode n := fields
    [field "jsonrpc" n.jsonrpc, field "method" n.method, fieldIfSome "params" n.params]
  decode? v := do
    let r ← Record.ofJson? 3 v
    let jsonrpc ← r.required 0 "jsonrpc"
    let method ← r.required 1 "method"
    let params ← r.nullable 2 "params"
    some { jsonrpc, method, params }

/-- The answer to a request. -/
structure Response where
  jsonrpc : String := "2.0"
  id : Option RequestId
  result : Option Json := none
  error : Option RpcError := none
deriving DecidableEq, Repr, Inhabited

instance : Wire Response where
  encode r := fields
    [field "jsonrpc" r.jsonrpc, [("id", (r.id.map encode).getD .null)],
      fieldIfSome "result" r.result, fieldIfSome "error" r.error]
  decode? v := do
    let r ← Record.ofJson? 4 v
    let jsonrpc ← r.required 0 "jsonrpc"
    let id ← r.nullable 1 "id"
    let result ← r.nullable 2 "result"
    let error ← r.nullable 3 "error"
    some { jsonrpc, id, result, error }

namespace Response

/-- The answer to a request that succeeded. -/
def success (id : RequestId) (result : Json) : Response := { id := some id, result := some result }

/-- The answer to a request that failed. -/
def failure (id : Option RequestId) (error : RpcError) : Response := { id, error := some error }

/-- What an answer says: an error if it has one, and otherwise its result. -/
def outcome (r : Response) : Except RpcError Json :=
  match r.error with
  | some e => .error e
  | none => .ok (r.result.getD .null)

end Response

/-- A message of either side. -/
inductive Message where
  | request (r : Request)
  | response (r : Response)
  | notification (n : Notification)
deriving DecidableEq, Repr, Inhabited

/-- Why a text is no message. -/
inductive MessageFault where
  /-- A JSON value with neither a name nor a method. -/
  | unrecognized
  /-- No JSON, or a part of the wrong form. -/
  | malformed
deriving DecidableEq, Repr

namespace Message

/-- The JSON form of a message. -/
def toJson : Message → Json
  | .request r => encode r
  | .response r => encode r
  | .notification n => encode n

/-- A part that must have the right form. -/
def wellFormed {α : Type} : Option α → Except MessageFault α
  | some a => .ok a
  | none => .error .malformed

/-- The message of a JSON value. A value with a name and a method is a request, with a name alone a
response, with a method alone a notification. -/
def ofJson (v : Json) : Except MessageFault Message :=
  match v.hasKey "id", v.hasKey "method" with
  | true, true => (wellFormed (decode? v)).map .request
  | true, false => (wellFormed (decode? v)).map .response
  | false, true => (wellFormed (decode? v)).map .notification
  | false, false => .error .unrecognized

/-- The message that a text writes. -/
def parse (text : String) : Except MessageFault Message :=
  match Json.parse? text with
  | some v => ofJson v
  | none => .error .malformed

end Message

end ProviderHub
