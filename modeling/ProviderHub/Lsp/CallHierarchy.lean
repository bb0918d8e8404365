import ProviderHub.Lsp.Command

/-!
Callers and callees.
-/

namespace ProviderHub

/-- A function in a call hierarchy. -/
structure CallHierarchyItem where
  name : String
  kind : UInt32
  detail : Option String := none
  uri : Url
  range : Range
  selectionRange : Range
  data : Option Json := none
  state : Option Attachment := none
deriving DecidableEq, Repr, Inhabited

instance : Wire CallHierarchyItem where
  encode i := fields
    [field "name" i.name, field "kind" i.kind, fieldIfSome "detail" i.detail, field "uri" i.uri,
      field "range" i.range, field "selectionRange" i.selectionRange, fieldIfSome "data" i.data]
  decode? v := do
    let r ← Record.ofJson? 7 v
    let name ← r.required 0 "name"
    let kind ← r.required 1 "kind"
    let detail ← r.optional 2 "detail"
    let uri ← r.required 3 "uri"
    let range ← r.required 4 "range"
    let selectionRange ← r.required 5 "selectionRange"
    let data ← r.optional 6 "data"
    some { name, kind, detail, uri, range, selectionRange, data }

/-- A caller, and where it calls. -/
structure IncomingCall where
  source : CallHierarchyItem
  fromRanges : List Range
deriving DecidableEq, Repr, Inhabited

instance : Wire IncomingCall where
  encode c := fields [field "from" c.source, field "fromRanges" c.fromRanges]
  decode? v := do
    let r ← Record.ofJson? 2 v
    let source ← r.required 0 "from"
    let fromRanges ← r.required 1 "fromRanges"
    some { source, fromRanges }

/-- A callee, and where it is called. -/
structure OutgoingCall where
  target : CallHierarchyItem
  fromRanges : List Range
deriving DecidableEq, Repr, Inhabited

instance : Wire OutgoingCall where
  encode c := fields [field "to" c.target, field "fromRanges" c.fromRanges]
  decode? v := do
    let r ← Record.ofJson? 2 v
    let target ← r.required 0 "to"
    let fromRanges ← r.required 1 "fromRanges"
    some { target, fromRanges }

end ProviderHub
