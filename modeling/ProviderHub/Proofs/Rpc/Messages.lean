import Mathlib.Tactic
import ProviderHub.Proofs.Lsp.Reading
import ProviderHub.Rpc.Message

/-!
The JSON forms of messages.

* `get?_method_request` and the lemmas beside it: which keys a message has;
* `Message.ofJson_toJson`: the message that its JSON form is read as. It is of the same kind and has
  the same parts, except that parts that are `null` are read as missing.
-/

namespace ProviderHub

/-! ### Keys -/

lemma RequestId.encode_injective : Function.Injective (encode : RequestId → Json) := by
  intro id other h
  cases id <;> cases other <;> simp_all [encode]

lemma RequestId.encode_ne_null (id : RequestId) : encode id ≠ Json.null := by
  cases id <;> nofun

lemma get?_method_request (r : Request) : (encode r).get? "method" = some (.str r.method) :=
  (get?_fields _ _).trans (by simp; rfl)

lemma get?_method_notification (n : Notification) :
    (encode n).get? "method" = some (.str n.method) :=
  (get?_fields _ _).trans (by simp; rfl)

lemma get?_method_response (r : Response) : (encode r).get? "method" = none :=
  (get?_fields _ _).trans (by simp)

lemma get?_id_request (r : Request) : (encode r).get? "id" = some (encode r.id) :=
  (get?_fields _ _).trans (by simp)

lemma get?_id_notification (n : Notification) : (encode n).get? "id" = none :=
  (get?_fields _ _).trans (by simp)

lemma get?_id_response (r : Response) :
    (encode r).get? "id" = some ((r.id.map encode).getD .null) :=
  (get?_fields _ _).trans (by simp)

/-! ### Parts that may be missing -/

/-- What is read back of a part that may be missing: nothing if it is `null`. -/
def Json.unlessNull (value : Option Json) : Option Json :=
  value.bind fun v => if v = .null then none else some v

lemma ofNullable?_json (v : Json) :
    Record.ofNullable? v = some (if v = .null then none else some v) := by
  split
  · rename_i hnull
    rw [hnull]
    rfl
  · rename_i hnull
    exact ofNullable?_encode (reads_json hnull)

/-- A part that is always written may be `null`, too. -/
lemma bind_nullable_written {α β : Type} [Wire α] {groups : List (List (String × Json))}
    {index : Nat} {key : String} {v : Json} {result : Option α} {k : Option α → Option β}
    {x : Option β} (h : valueAt groups key = some v) (hread : Record.ofNullable? v = some result)
    (hk : k result = x) : ((written groups).nullable index key).bind k = x := by
  have hnullable : (written groups).nullable index key = some result := by
    rw [Record.nullable, slot_written, h]
    exact hread
  rw [hnullable, ← hk]
  rfl

/-! ### Messages -/

/-- A name that can be written: a number of 64 bits, or any text. -/
def RequestId.Fits : RequestId → Prop
  | .number n => n < 2 ^ 64
  | .text _ => True

lemma reads_requestId {id : RequestId} (hid : id.Fits) : Reads id id := by
  refine ⟨id.encode_ne_null, ?_⟩
  cases id with
  | number n => exact congrArg (Option.map RequestId.number) (natBelow?_int hid)
  | text s => rfl

lemma reads_int32 (n : Int32) : Reads n n where
  ne_null := nofun
  decode := by
    have hbounds : Int32.minValue.toInt ≤ n.toInt ∧ n.toInt ≤ Int32.maxValue.toInt :=
      ⟨n.minValue_le_toInt, n.toInt_le⟩
    show (intBetween? _ _ (.int n.toInt)).map Int32.ofInt = some n
    rw [intBetween?, if_pos hbounds, Option.map_some, Int32.ofInt_toInt]

/-- The error as it is read back. -/
def RpcError.unlessNull (e : RpcError) : RpcError := { e with data := Json.unlessNull e.data }

lemma reads_rpcError (e : RpcError) : Reads e e.unlessNull where
  ne_null := nofun
  decode := by
    refine bind_record ?_
    refine bind_required (by simp) (reads_int32 e.code) ?_
    refine bind_required (by simp) (reads_string e.message) ?_
    exact bind_nullable e.data (by simp) (fun v _ => ofNullable?_json v) rfl

/-- The request as it is read back. -/
def Request.unlessNull (r : Request) : Request := { r with params := Json.unlessNull r.params }

lemma reads_request {r : Request} (hid : r.id.Fits) : Reads r r.unlessNull where
  ne_null := nofun
  decode := by
    refine bind_record ?_
    refine bind_required (by simp) (reads_string r.jsonrpc) ?_
    refine bind_required (by simp) (reads_requestId hid) ?_
    refine bind_required (by simp) (reads_string r.method) ?_
    exact bind_nullable r.params (by simp) (fun v _ => ofNullable?_json v) rfl

/-- The notification as it is read back. -/
def Notification.unlessNull (n : Notification) : Notification :=
  { n with params := Json.unlessNull n.params }

lemma reads_notification (n : Notification) : Reads n n.unlessNull where
  ne_null := nofun
  decode := by
    refine bind_record ?_
    refine bind_required (by simp) (reads_string n.jsonrpc) ?_
    refine bind_required (by simp) (reads_string n.method) ?_
    exact bind_nullable n.params (by simp) (fun v _ => ofNullable?_json v) rfl

/-- The response as it is read back. -/
def Response.unlessNull (r : Response) : Response :=
  { r with result := Json.unlessNull r.result, error := r.error.map RpcError.unlessNull }

/-- The name of a response is written even where there is none. -/
lemma ofNullable?_responseId {id : Option RequestId} (hid : ∀ i, id = some i → i.Fits) :
    Record.ofNullable? ((id.map encode).getD .null) = some id := by
  cases id with
  | none => rfl
  | some i => exact ofNullable?_encode (reads_requestId (hid i rfl))

lemma reads_response {r : Response} (hid : ∀ i, r.id = some i → i.Fits) :
    Reads r r.unlessNull where
  ne_null := nofun
  decode := by
    refine bind_record ?_
    refine bind_required (by simp [lookup_cons_ite]) (reads_string r.jsonrpc) ?_
    refine bind_nullable_written (by simp) (ofNullable?_responseId hid) ?_
    refine bind_nullable r.result (by simp [lookup_cons_ite]) (fun v _ => ofNullable?_json v) ?_
    refine bind_nullable r.error (f := fun e => some e.unlessNull) (by simp [lookup_cons_ite])
      (fun e _ => ofNullable?_encode (reads_rpcError e)) ?_
    rw [Response.unlessNull, Option.map_eq_bind]
    rfl

namespace Message

/-- The message as it is read back. -/
def unlessNull : Message → Message
  | .request r => .request r.unlessNull
  | .response r => .response r.unlessNull
  | .notification n => .notification n.unlessNull

/-- The name of a message, if it has one. -/
def id? : Message → Option RequestId
  | .request r => some r.id
  | .response r => r.id
  | .notification _ => none

/-- **Messages are read back from their JSON forms**, as messages of the same kind. -/
lemma ofJson_toJson {m : Message} (hid : ∀ id, m.id? = some id → id.Fits) :
    ofJson m.toJson = .ok m.unlessNull := by
  cases m with
  | request r =>
      simp only [ofJson, toJson, Json.hasKey, get?_id_request, get?_method_request,
        Option.isSome_some, (reads_request (hid r.id rfl)).decode]
      rfl
  | response r =>
      simp only [ofJson, toJson, Json.hasKey, get?_id_response, get?_method_response,
        Option.isSome_some, Option.isSome_none, (reads_response hid).decode]
      rfl
  | notification n =>
      simp only [ofJson, toJson, Json.hasKey, get?_id_notification, get?_method_notification,
        Option.isSome_some, Option.isSome_none, (reads_notification n).decode]
      rfl

end Message

end ProviderHub
