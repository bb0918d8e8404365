import ProviderHub.Proofs.Json.Order
import ProviderHub.Proofs.Rpc.Messages

/-!
Messages are read back from their texts.

* `Message.WrittenAs`: the JSON values whose text writes a message; `Message.writtenAs_toJson` says
  that its JSON form is one of them;
* `Message.parse_of_writtenAs`: the text is read as the message, where parts that are `null` are
  missing;
* `Message.parse_render`: what that means for requests, notifications and responses.
-/

namespace ProviderHub

/-! ### Parts of written values -/

namespace Json

lemma validFields_iff {fields : List (String × Json)} :
    Valid.validFields fields ↔ ∀ f ∈ fields, f.2.Valid := by
  induction fields with
  | nil => simp [Valid.validFields]
  | cons f fields ih => simp [Valid.validFields, ih]

mutual

lemma Valid.sorted {v : Json} (hv : v.Valid) : v.sorted.Valid := by
  match v with
  | .null | .bool _ | .int _ | .real _ | .str _ => exact hv
  | .arr items => exact Valid.sortedItems hv
  | .obj fields =>
    refine validFields_iff.mpr fun f hf => ?_
    exact validFields_iff.mp (Valid.sortedFields hv) f (mem_of_mem_sortFields hf)

lemma Valid.sortedItems {items : List Json} (hitems : Valid.validItems items) :
    Valid.validItems (sorted.sortedItems items) := by
  match items with
  | [] => trivial
  | v :: items => exact ⟨Valid.sorted hitems.1, Valid.sortedItems hitems.2⟩

lemma Valid.sortedFields {fields : List (String × Json)} (hfields : Valid.validFields fields) :
    Valid.validFields (sorted.sortedFields fields) := by
  match fields with
  | [] => trivial
  | (k, v) :: fields => exact ⟨Valid.sorted hfields.1, Valid.sortedFields hfields.2⟩

end

lemma Valid.of_get? {v w : Json} {key : String} (hv : v.Valid) (h : v.get? key = some w) :
    w.Valid := by
  cases v with
  | obj fields => exact validFields_iff.mp hv _ (mem_of_lookup h)
  | _ => simp [get?] at h

end Json

/-! ### Values that are written as they are -/

/-- A value as it is held: its fields are in order, and its numbers are read back. -/
structure Json.Proper (v : Json) : Prop where
  sorted : v.sorted = v
  valid : v.Valid

lemma Json.proper_str (s : String) : (Json.str s).Proper := ⟨rfl, trivial⟩

lemma proper_fields {groups : List (List (String × Json))}
    (h : ∀ group ∈ groups, ∀ f ∈ group, f.2.Proper) : (fields groups).Proper := by
  have hfield : ∀ f ∈ groups.flatten, f.2.Proper := by
    intro f hf
    obtain ⟨group, hgroup, hf⟩ := List.mem_flatten.mp hf
    exact h group hgroup f hf
  refine ⟨Json.sorted_object fun f hf => (hfield f hf).sorted, ?_⟩
  exact Json.validFields_iff.mpr fun f hf => (hfield f (Json.mem_of_mem_sortFields hf)).valid

lemma proper_field {α : Type} [Wire α] {key : String} {value : α} (h : (encode value).Proper) :
    ∀ f ∈ field key value, f.2.Proper :=
  List.forall_mem_singleton.mpr h

lemma proper_fieldIfSome {α : Type} [Wire α] {key : String} {value : Option α}
    (h : ∀ v, value = some v → (encode v).Proper) : ∀ f ∈ fieldIfSome key value, f.2.Proper := by
  cases value with
  | none => nofun
  | some v => exact List.forall_mem_singleton.mpr (h v rfl)

lemma RequestId.Fits.proper {id : RequestId} (h : id.Fits) : (encode id).Proper := by
  cases id with
  | number n =>
    have hn : (n : ℤ) < 2 ^ 64 := by exact_mod_cast (show n < 2 ^ 64 from h)
    have hlow : (-2 ^ 63 : ℤ) ≤ n := by omega
    exact ⟨rfl, hlow, hn⟩
  | text s => exact Json.proper_str s

lemma proper_rpcError {e : RpcError} (hdata : ∀ v, e.data = some v → v.Proper) :
    (encode e).Proper := by
  refine proper_fields (List.forall_mem_cons.mpr ⟨proper_field ?_,
    List.forall_mem_cons.mpr ⟨proper_field (Json.proper_str _),
    List.forall_mem_singleton.mpr (proper_fieldIfSome hdata)⟩⟩)
  have hlow : -2 ^ 31 ≤ e.code.toInt := e.code.minValue_le_toInt
  have hhigh : e.code.toInt ≤ 2 ^ 31 - 1 := e.code.toInt_le
  have hlow' : -2 ^ 63 ≤ e.code.toInt := by omega
  have hhigh' : e.code.toInt < 2 ^ 64 := by omega
  exact ⟨rfl, hlow', hhigh'⟩

/-! ### Messages -/

/-- What an answer says is read back, where an error's data that are `null` are missing. -/
lemma Response.outcome_unlessNull (r : Response) :
    r.unlessNull.outcome = r.outcome.mapError RpcError.unlessNull := by
  rw [Response.outcome, Response.outcome, Response.unlessNull]
  cases r.error with
  | some e => rfl
  | none =>
    cases r.result with
    | none => rfl
    | some v =>
      by_cases hv : v = .null
      · simp [Json.unlessNull, hv, Except.mapError]
      · simp [Json.unlessNull, hv, Except.mapError]

namespace Message

/-- The text of `w` writes the message: its keys may come in any order, its numbers are read back
from their texts, and it is not nested too deeply to be read. -/
structure WrittenAs (m : Message) (w : Json) : Prop where
  sorted : w.sorted = m.toJson
  valid : w.Valid
  depth_le : w.depth ≤ 127

/-- The parts of a message that may be any JSON value. -/
def payloads : Message → List Json
  | .request r => r.params.toList
  | .notification n => n.params.toList
  | .response r => r.result.toList ++ (r.error.bind (·.data)).toList

lemma proper_toJson {m : Message} (hid : ∀ id, m.id? = some id → id.Fits)
    (hpayloads : ∀ v ∈ m.payloads, v.Proper) : m.toJson.Proper := by
  cases m with
  | request r =>
    refine proper_fields (List.forall_mem_cons.mpr ⟨proper_field (Json.proper_str _),
      List.forall_mem_cons.mpr ⟨proper_field (hid r.id rfl).proper,
      List.forall_mem_cons.mpr ⟨proper_field (Json.proper_str _),
      List.forall_mem_singleton.mpr (proper_fieldIfSome fun v hv => ?_)⟩⟩⟩)
    exact hpayloads v (Option.mem_toList.mpr hv)
  | notification n =>
    refine proper_fields (List.forall_mem_cons.mpr ⟨proper_field (Json.proper_str _),
      List.forall_mem_cons.mpr ⟨proper_field (Json.proper_str _),
      List.forall_mem_singleton.mpr (proper_fieldIfSome fun v hv => ?_)⟩⟩)
    exact hpayloads v (Option.mem_toList.mpr hv)
  | response r =>
    refine proper_fields (List.forall_mem_cons.mpr ⟨proper_field (Json.proper_str _),
      List.forall_mem_cons.mpr ⟨List.forall_mem_singleton.mpr ?_,
      List.forall_mem_cons.mpr ⟨proper_fieldIfSome fun v hv => ?_,
      List.forall_mem_singleton.mpr (proper_fieldIfSome fun e he => ?_)⟩⟩⟩)
    · cases hname : r.id with
      | none => exact ⟨rfl, trivial⟩
      | some id => exact (hid id hname).proper
    · exact hpayloads v (List.mem_append_left _ (Option.mem_toList.mpr hv))
    · refine proper_rpcError fun v hv => hpayloads v (List.mem_append_right _ ?_)
      rw [he]
      exact Option.mem_toList.mpr hv

/-- A message is written as its JSON form. -/
lemma writtenAs_toJson {m : Message} (hid : ∀ id, m.id? = some id → id.Fits)
    (hpayloads : ∀ v ∈ m.payloads, v.Proper) (hdepth : m.toJson.depth ≤ 127) :
    m.WrittenAs m.toJson := by
  have hproper := proper_toJson hid hpayloads
  exact ⟨hproper.sorted, hproper.valid, hdepth⟩

lemma WrittenAs.fits {m : Message} {w : Json} (hw : m.WrittenAs w) {id : RequestId}
    (hid : m.id? = some id) : id.Fits := by
  have hvalid : m.toJson.Valid := hw.sorted ▸ hw.valid.sorted
  have hkey : m.toJson.get? "id" = some (encode id) := by
    cases m with
    | request r =>
      rw [id?, Option.some_inj] at hid
      rw [toJson, get?_id_request, hid]
    | response r =>
      rw [id?] at hid
      rw [toJson, get?_id_response, hid]
      rfl
    | notification n => cases hid
  cases id with
  | number n =>
    have hn : (n : ℤ) < 2 ^ 64 := (hvalid.of_get? hkey).2
    exact_mod_cast hn
  | text s => trivial

lemma parse_of_writtenAs {m : Message} {w : Json} (hw : m.WrittenAs w) :
    parse w.render = .ok m.unlessNull := by
  rw [parse, Json.parse?_render hw.valid hw.depth_le, hw.sorted]
  exact ofJson_toJson fun id hid => hw.fits hid

/-- **Messages are read back from their texts.** A request is read as a request, a notification as a
notification and a response as a response, with or without a name; their parts are equal, except
that parameters, a result and an error's data that are `null` are read as missing. What a response
says is the same. -/
theorem parse_render {m : Message} {w : Json} (hw : m.WrittenAs w) :
    (∀ r, m = .request r → parse w.render =
      .ok (.request { r with params := Json.unlessNull r.params })) ∧
    (∀ n, m = .notification n → parse w.render =
      .ok (.notification { n with params := Json.unlessNull n.params })) ∧
    ∀ r, m = .response r → ∃ back, parse w.render = .ok (.response back) ∧
      back.jsonrpc = r.jsonrpc ∧ back.id = r.id ∧ back.result = Json.unlessNull r.result ∧
      back.error = r.error.map (fun e => { e with data := Json.unlessNull e.data }) ∧
      back.outcome =
        r.outcome.mapError fun e => { e with data := Json.unlessNull e.data } := by
  have hparse := parse_of_writtenAs hw
  refine ⟨?_, ?_, ?_⟩
  · rintro r rfl
    exact hparse
  · rintro n rfl
    exact hparse
  · rintro r rfl
    exact ⟨r.unlessNull, hparse, rfl, rfl, rfl, rfl, r.outcome_unlessNull⟩

/-- A request that is written with its keys in another order than they are kept in. -/
theorem parse_render_hover :
    parse (Json.render (.obj [("jsonrpc", .str "2.0"), ("id", .int 7),
      ("method", .str "textDocument/hover"), ("params", .null)])) =
      .ok (.request { id := .number 7, method := "textDocument/hover" }) := by
  have hwritten : WrittenAs
      (.request { id := .number 7, method := "textDocument/hover", params := some .null })
      (.obj [("jsonrpc", .str "2.0"), ("id", .int 7), ("method", .str "textDocument/hover"),
        ("params", .null)]) :=
    ⟨by decide, ⟨trivial, ⟨by decide, by decide⟩, trivial, trivial, trivial⟩, by decide⟩
  exact (parse_render hwritten).1 _ rfl

end Message

end ProviderHub
