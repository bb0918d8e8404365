import Mathlib.Tactic
import ProviderHub.Resolution.Token

/-!
Records that are read back after they have been written.

* `Json.lookup_sortFields`: of the fields of an object the last one of a key counts;
* `Reads`: a value that is read back as another one, where `null` would be read as none;
* `reads_completionItem`, `reads_codeAction`, `reads_codeLens`, `reads_callHierarchyItem`: what a
  client sends back is read, with all but what stays in the process.
-/

namespace ProviderHub

/-! ### Fields of objects -/

lemma lookup_cons_ite {β : Type} (key : String) (f : String × β) (fs : List (String × β)) :
    (f :: fs).lookup key = if key = f.1 then some f.2 else fs.lookup key := by
  rw [List.lookup_cons]
  by_cases h : key = f.1
  · simp [h]
  · rw [if_neg h, beq_false_of_ne h]

lemma mem_of_lookup {β : Type} {key : String} {b : β} {fs : List (String × β)}
    (h : fs.lookup key = some b) : (key, b) ∈ fs := by
  obtain ⟨before, after, rfl, -⟩ := List.lookup_eq_some_iff.mp h
  exact List.mem_append_right _ (List.mem_cons_self ..)

/-- Where no key is there twice, what is looked up is what is there. -/
lemma lookup_eq_some_iff_mem {β : Type} {key : String} {b : β} {fs : List (String × β)}
    (hnodup : (fs.map Prod.fst).Nodup) : fs.lookup key = some b ↔ (key, b) ∈ fs := by
  refine ⟨mem_of_lookup, fun hmem => ?_⟩
  cases hlookup : fs.lookup key with
  | none =>
    have hne := List.lookup_eq_none_iff.mp hlookup _ hmem
    simp at hne
  | some c =>
    have hsame := List.inj_on_of_nodup_map hnodup hmem (mem_of_lookup hlookup) rfl
    rw [(Prod.mk.inj hsame).2]

namespace Json

lemma lookup_insertField (key k : String) (v : Json) (fs : List (String × Json)) :
    (insertField k v fs).lookup key = if key = k then some v else fs.lookup key := by
  induction fs with
  | nil => rw [insertField, lookup_cons_ite]
  | cons f fs ih =>
      obtain ⟨l, w⟩ := f
      rw [insertField]
      split
      · rw [lookup_cons_ite]
      · split
        · rename_i hkl
          rw [lookup_cons_ite, lookup_cons_ite, hkl]
          split <;> rfl
        · rename_i hkl
          rw [lookup_cons_ite, lookup_cons_ite, ih]
          -- the key that is set comes after a different one
          by_cases h : key = k
          · rw [if_neg (by rwa [h]), if_pos h, if_pos h]
          · rw [if_neg h, if_neg h]

/-- Of several fields with one key, the last one counts. -/
lemma lookup_sortFields (key : String) (fs : List (String × Json)) :
    (sortFields fs).lookup key = fs.reverse.lookup key := by
  induction fs using List.reverseRecOn with
  | nil => rfl
  | append_singleton fs f ih =>
      rw [sortFields, List.foldl_append, List.reverse_append]
      show (insertField f.1 f.2 (sortFields fs)).lookup key = (f :: fs.reverse).lookup key
      rw [lookup_insertField, ih, lookup_cons_ite]

lemma mem_insertField {k : String} {v : Json} {f : String × Json} {fs : List (String × Json)}
    (hf : f ∈ insertField k v fs) : f = (k, v) ∨ f ∈ fs := by
  induction fs with
  | nil => exact .inl (List.mem_singleton.mp hf)
  | cons g fs ih =>
      obtain ⟨l, w⟩ := g
      rw [insertField] at hf
      split at hf
      · exact List.mem_cons.mp hf
      · split at hf
        · exact (List.mem_cons.mp hf).imp_right (List.mem_cons_of_mem _)
        · rcases List.mem_cons.mp hf with rfl | hrest
          · exact .inr (List.mem_cons_self ..)
          · exact (ih hrest).imp_right (List.mem_cons_of_mem _)

lemma mem_of_mem_sortFields {f : String × Json} {fs : List (String × Json)}
    (hf : f ∈ sortFields fs) : f ∈ fs := by
  induction fs using List.reverseRecOn with
  | nil => exact hf
  | append_singleton fs g ih =>
      rw [sortFields, List.foldl_append] at hf
      rcases mem_insertField hf with rfl | hold
      · exact List.mem_append_right _ (List.mem_singleton_self _)
      · exact List.mem_append_left _ (ih hold)

end Json

section groups

variable {α : Type} [Wire α]

@[simp] lemma lookup_field (key k : String) (value : α) :
    (field k value).reverse.lookup key = if key = k then some (encode value) else none := by
  rw [field, List.reverse_singleton, lookup_cons_ite, List.lookup_nil]

@[simp] lemma lookup_fieldIfSome (key k : String) (value : Option α) :
    (fieldIfSome k value).reverse.lookup key = if key = k then value.map encode else none := by
  cases value with
  | none => simp [fieldIfSome]
  | some v =>
      rw [fieldIfSome, List.reverse_singleton, lookup_cons_ite, List.lookup_nil]
      rfl

@[simp] lemma lookup_fieldIfAny (key k : String) (values : List α) :
    (fieldIfAny k values).reverse.lookup key =
      if key = k ∧ values ≠ [] then some (encode values) else none := by
  cases values with
  | nil => simp [fieldIfAny]
  | cons v vs => simp [fieldIfAny, lookup_cons_ite]

end groups

/-- The record that is written with groups of fields. -/
def written (groups : List (List (String × Json))) : Record :=
  .keyed (Json.sortFields groups.flatten)

/-- The value that is written under a key. -/
def valueAt (groups : List (List (String × Json))) (key : String) : Option Json :=
  groups.flatten.reverse.lookup key

lemma slot_written (groups : List (List (String × Json))) (index : Nat) (key : String) :
    (written groups).slot index key =
      match valueAt groups key with
      | some v => .present v
      | none => .absent := by
  rw [written, Record.slot, Json.lookup_sortFields]
  rfl

@[simp] lemma valueAt_nil (key : String) : valueAt [] key = none := rfl

@[simp] lemma valueAt_cons (group : List (String × Json)) (groups : List (List (String × Json)))
    (key : String) :
    valueAt (group :: groups) key = (valueAt groups key).or (group.reverse.lookup key) := by
  rw [valueAt, List.flatten_cons, List.reverse_append, List.lookup_append]
  rfl

lemma get?_fields (groups : List (List (String × Json))) (key : String) :
    (fields groups).get? key = valueAt groups key :=
  Json.lookup_sortFields key groups.flatten

/-! ### Values that are read back -/

/-- A value that is read back as `result` and is not written as `null`. -/
structure Reads {α : Type} [Wire α] (value result : α) : Prop where
  ne_null : encode value ≠ .null
  decode : decode? (encode value) = some result

section written

variable {α β : Type} [Wire α] {groups : List (List (String × Json))} {index : Nat} {key : String}
  {x : Option β}

lemma bind_record {arity : Nat} {k : Record → Option β} (hk : k (written groups) = x) :
    (Record.ofJson? arity (fields groups)).bind k = x :=
  hk

lemma bind_required {value result : α} {k : α → Option β}
    (h : valueAt groups key = some (encode value)) (hread : Reads value result)
    (hk : k result = x) : ((written groups).required index key).bind k = x := by
  have hrequired : (written groups).required index key = some result := by
    rw [Record.required, slot_written, h]
    exact hread.decode
  rw [hrequired, ← hk]
  rfl

lemma ofNullable?_encode {value result : α} (hread : Reads value result) :
    Record.ofNullable? (encode value) = some (some result) := by
  rw [Record.ofNullable?]
  · rw [hread.decode]
    rfl
  · exact hread.ne_null

lemma bind_optional (value : Option α) {f : α → α} {k : Option α → Option β}
    (h : valueAt groups key = value.map encode) (hread : ∀ v, value = some v → Reads v (f v))
    (hk : k (value.map f) = x) : ((written groups).optional index key).bind k = x := by
  have hoptional : (written groups).optional index key = some (value.map f) := by
    rw [Record.optional, slot_written, h]
    cases value with
    | none => rfl
    | some v => exact ofNullable?_encode (hread v rfl)
  rw [hoptional, ← hk]
  rfl

lemma bind_optional_self (value : Option α) {k : Option α → Option β}
    (h : valueAt groups key = value.map encode) (hread : ∀ v, value = some v → Reads v v)
    (hk : k value = x) : ((written groups).optional index key).bind k = x :=
  bind_optional value (f := id) h hread (by rwa [Option.map_id])

lemma bind_nullable (value : Option α) {f : α → Option α} {k : Option α → Option β}
    (h : valueAt groups key = value.map encode)
    (hread : ∀ v, value = some v → Record.ofNullable? (encode v) = some (f v))
    (hk : k (value.bind f) = x) : ((written groups).nullable index key).bind k = x := by
  have hnullable : (written groups).nullable index key = some (value.bind f) := by
    rw [Record.nullable, slot_written, h]
    cases value with
    | none => rfl
    | some v => exact hread v rfl
  rw [hnullable, ← hk]
  rfl

lemma bind_defaulted (values : List α) {results : List α} {k : List α → Option β}
    (h : valueAt groups key = if values ≠ [] then some (encode values) else none)
    (hread : Reads values results) (hk : k results = x) :
    ((written groups).defaulted index key []).bind k = x := by
  have hdefaulted : (written groups).defaulted index key [] = some results := by
    rw [Record.defaulted, slot_written, h]
    cases values with
    | nil => exact hread.decode
    | cons v vs => exact hread.decode
  rw [hdefaulted, ← hk]
  rfl

end written

lemma reads_string (s : String) : Reads s s := ⟨nofun, rfl⟩

lemma reads_bool (b : Bool) : Reads b b := ⟨nofun, rfl⟩

lemma reads_json {v : Json} (hv : v ≠ .null) : Reads v v := ⟨hv, rfl⟩

lemma natBelow?_int {bound n : Nat} (h : n < bound) : natBelow? bound (.int n) = some n := by
  have hn : (0 : Int) ≤ n ∧ (n : Int) < bound := ⟨Int.natCast_nonneg n, Int.ofNat_lt.mpr h⟩
  rw [natBelow?, if_pos hn, Int.toNat_natCast]

lemma reads_uint32 (n : UInt32) : Reads n n where
  ne_null := nofun
  decode := by
    show (natBelow? UInt32.size (.int n.toNat)).map UInt32.ofNat = some n
    rw [natBelow?_int n.toNat_lt_size, Option.map_some, UInt32.ofNat_toNat]

lemma bind_nat64 {β : Type} {groups : List (List (String × Json))} {index n : Nat} {key : String}
    {k : Nat → Option β} {x : Option β} (h : valueAt groups key = some (.int n)) (hn : n < 2 ^ 64)
    (hk : k n = x) : (((written groups).required index key).bind nat64?).bind k = x := by
  have hread : nat64? (.int n) = some n := natBelow?_int hn
  rw [bind_required h (reads_json nofun) hread, ← hk]
  rfl

/-- Within a list, `null` is read like any other value. -/
lemma reads_list {α : Type} [Wire α] {values : List α}
    (hread : ∀ v ∈ values, decode? (encode v) = some v) : Reads values values := by
  refine ⟨nofun, ?_⟩
  show (values.map encode).mapM decode? = some values
  induction values with
  | nil => rfl
  | cons v vs ih =>
      have hrest := ih fun w hw => hread w (List.mem_cons_of_mem _ hw)
      rw [List.map_cons, List.mapM_cons, hrest, hread v (List.mem_cons_self ..)]
      rfl

/-! ### Parts of items -/

lemma reads_position (p : Position) : Reads p p where
  ne_null := nofun
  decode :=
    bind_record
      (bind_required (by simp) (reads_uint32 p.line)
        (bind_required (by simp) (reads_uint32 p.character) rfl))

lemma reads_range (r : Range) : Reads r r where
  ne_null := nofun
  decode :=
    bind_record
      (bind_required (by simp) (reads_position r.start)
        (bind_required (by simp) (reads_position r.stop) rfl))

lemma reads_textEdit (e : TextEdit) : Reads e e where
  ne_null := nofun
  decode :=
    bind_record
      (bind_required (by simp) (reads_range e.range)
        (bind_required (by simp) (reads_string e.newText) rfl))

lemma reads_markupKind (k : MarkupKind) : Reads k k := by
  refine ⟨nofun, ?_⟩
  cases k <;> decide

lemma reads_markup (c : MarkupContent) : Reads c c where
  ne_null := nofun
  decode :=
    bind_record
      (bind_required (by simp) (reads_markupKind c.kind)
        (bind_required (by simp) (reads_string c.value) rfl))

lemma reads_completionItemKind (k : CompletionItemKind) : Reads k k where
  ne_null := nofun
  decode := by
    show (natBelow? 26 (.int k.number)).bind _ = some k
    rw [natBelow?_int (Nat.lt_succ_of_le k.le_last)]
    exact dif_pos ⟨k.one_le, k.le_last⟩

/-- The arguments of a command that stay in the process are not written. -/
lemma reads_command (c : Command) : Reads c { c with state := none } where
  ne_null := nofun
  decode :=
    bind_record
      (bind_required (by simp) (reads_string c.title)
        (bind_required (by simp) (reads_string c.command)
          (bind_defaulted c.arguments (by simp) (reads_list fun _ _ => rfl) rfl)))

/-! ### Edits -/

/-- A URL that its own text is read as. -/
def Url.IsStable (u : Url) : Prop := Url.parse? u.toString = some u

lemma reads_url {u : Url} (hu : u.IsStable) : Reads u u := ⟨nofun, hu⟩

lemma DocumentEdits.ofFields?_isSome {fs : List (String × Json)}
    (hfs : ∀ f ∈ fs, (Url.parse? f.1).isSome ∧ (decode? (α := List TextEdit) f.2).isSome)
    (edits : DocumentEdits) : (ofFields? fs edits).isSome := by
  induction fs generalizing edits with
  | nil => rfl
  | cons f fs ih =>
      obtain ⟨huri, hedits⟩ := hfs f (List.mem_cons_self ..)
      obtain ⟨uri, huri⟩ := Option.isSome_iff_exists.mp huri
      obtain ⟨textEdits, hedits⟩ := Option.isSome_iff_exists.mp hedits
      rw [ofFields?, huri, hedits]
      exact ih (fun g hg => hfs g (List.mem_cons_of_mem _ hg)) _

/-- Edits to documents are read back, in the order of the texts of their URLs. -/
lemma reads_documentEdits {edits : DocumentEdits} (huris : ∀ e ∈ edits, e.1.IsStable) :
    ∃ result, Reads edits result := by
  have hsome : (decode? (α := DocumentEdits) (encode edits)).isSome := by
    refine DocumentEdits.ofFields?_isSome (fun f hf => ?_) []
    obtain ⟨e, he, rfl⟩ := List.mem_map.mp (Json.mem_of_mem_sortFields hf)
    refine ⟨Option.isSome_of_eq_some (huris e he), ?_⟩
    exact Option.isSome_of_eq_some (reads_list fun t _ => (reads_textEdit t).decode).decode
  obtain ⟨result, hresult⟩ := Option.isSome_iff_exists.mp hsome
  exact ⟨result, nofun, hresult⟩

/-- The URLs that an edit names. -/
def WorkspaceEdit.urls (e : WorkspaceEdit) : List Url := (e.changes.getD []).map Prod.fst

lemma reads_workspaceEdit {e : WorkspaceEdit} (hurls : ∀ u ∈ e.urls, u.IsStable) :
    ∃ result, Reads e result := by
  have hstable : ∀ c ∈ e.changes.getD [], c.1.IsStable := fun c hc =>
    hurls c.1 (List.mem_map_of_mem hc)
  obtain ⟨changes, hchanges⟩ := reads_documentEdits hstable
  refine ⟨_, nofun, bind_record (bind_nullable e.changes (f := fun _ => some changes) (by simp)
    (fun c hc => ?_) (bind_nullable e.documentChanges
      (f := fun v => if v = .null then none else some v) (by simp) (fun v _ => ?_) rfl))⟩
  · rw [hc] at hchanges
    exact ofNullable?_encode hchanges
  · split
    · rename_i hnull
      rw [hnull]
      rfl
    · rename_i hnull
      exact ofNullable?_encode (reads_json hnull)

/-! ### Items -/

/-- A completion item is read back without what stays in the process. -/
lemma reads_completionItem {i : CompletionItem} (hdata : i.data ≠ some .null) :
    Reads i { i with command := i.command.map ({ · with state := none }), state := none } where
  ne_null := nofun
  decode := by
    refine bind_record ?_
    refine bind_required (by simp) (reads_string i.label) ?_
    refine bind_optional_self i.kind (by simp) (fun k _ => reads_completionItemKind k) ?_
    refine bind_optional_self i.detail (by simp) (fun s _ => reads_string s) ?_
    refine bind_optional_self i.documentation (by simp) (fun c _ => reads_markup c) ?_
    refine bind_optional_self i.sortText? (by simp) (fun s _ => reads_string s) ?_
    refine bind_optional_self i.filterText? (by simp) (fun s _ => reads_string s) ?_
    refine bind_optional_self i.insertText (by simp) (fun s _ => reads_string s) ?_
    refine bind_optional_self i.textEdit (by simp) (fun e _ => reads_textEdit e) ?_
    refine bind_defaulted i.additionalTextEdits (by simp)
      (reads_list fun e _ => (reads_textEdit e).decode) ?_
    refine bind_optional_self i.preselect (by simp) (fun b _ => reads_bool b) ?_
    refine bind_optional i.command (by simp) (fun c _ => reads_command c) ?_
    refine bind_optional_self i.data (by simp) (fun v hv => reads_json fun hnull => ?_) rfl
    exact hdata (hnull ▸ hv)

/-- Tokens are read back as long as their numbers fit 64 bits. -/
lemma reads_token {t : Token} (hprovider : t.providerId < 2 ^ 64) (hindex : t.index < 2 ^ 64)
    (hcache : t.cacheId < 2 ^ 64) : Reads t t where
  ne_null := nofun
  decode := by
    refine bind_record ?_
    refine bind_nat64 (by simp [lookup_cons_ite]) hprovider ?_
    refine bind_nat64 (by simp [lookup_cons_ite]) hindex ?_
    exact bind_nat64 (by simp [lookup_cons_ite]) hcache rfl

lemma reads_feature (f : Feature) : Reads f f := by
  refine ⟨nofun, ?_⟩
  cases f <;> decide

/-- The argument of a command that stands for another one is read back if its token is. -/
lemma reads_cachedCommand {c : CachedCommand} (htoken : Reads c.token c.token) : Reads c c where
  ne_null := nofun
  decode :=
    bind_record
      (bind_required (by simp) (reads_feature c.feature)
        (bind_required (by simp) htoken rfl))

lemma reads_codeLens {l : CodeLens} (hdata : l.data ≠ some .null) :
    Reads l { l with command := l.command.map ({ · with state := none }), state := none } where
  ne_null := nofun
  decode := by
    refine bind_record ?_
    refine bind_required (by simp) (reads_range l.range) ?_
    refine bind_optional l.command (by simp) (fun c _ => reads_command c) ?_
    refine bind_optional_self l.data (by simp) (fun v hv => reads_json fun hnull => ?_) rfl
    exact hdata (hnull ▸ hv)

lemma reads_codeAction {a : CodeAction} (hdata : a.data ≠ some .null)
    (hurls : ∀ e, a.edit = some e → ∀ u ∈ e.urls, u.IsStable) :
    ∃ edit, Reads a
      { a with edit, command := a.command.map ({ · with state := none }), state := none } := by
  have hedit : ∃ f : WorkspaceEdit → WorkspaceEdit, ∀ e, a.edit = some e → Reads e (f e) := by
    cases hcase : a.edit with
    | none => exact ⟨id, nofun⟩
    | some e =>
        obtain ⟨result, hresult⟩ := reads_workspaceEdit (hurls e hcase)
        exact ⟨fun _ => result, fun _ he => Option.some_inj.mp he ▸ hresult⟩
  obtain ⟨f, hf⟩ := hedit
  refine ⟨a.edit.map f, nofun, ?_⟩
  refine bind_record ?_
  refine bind_required (by simp) (reads_string a.title) ?_
  refine bind_optional_self a.kind (by simp) (fun s _ => reads_string s) ?_
  refine bind_defaulted a.diagnostics (by simp) (reads_list fun _ _ => rfl) ?_
  refine bind_optional_self a.isPreferred (by simp) (fun b _ => reads_bool b) ?_
  refine bind_optional a.edit (by simp) hf ?_
  refine bind_optional a.command (by simp) (fun c _ => reads_command c) ?_
  refine bind_optional_self a.data (by simp) (fun v hv => reads_json fun hnull => ?_) rfl
  exact hdata (hnull ▸ hv)

lemma reads_callHierarchyItem {i : CallHierarchyItem} (hdata : i.data ≠ some .null)
    (huri : i.uri.IsStable) : Reads i { i with state := none } where
  ne_null := nofun
  decode := by
    refine bind_record ?_
    refine bind_required (by simp) (reads_string i.name) ?_
    refine bind_required (by simp) (reads_uint32 i.kind) ?_
    refine bind_optional_self i.detail (by simp) (fun s _ => reads_string s) ?_
    refine bind_required (by simp) (reads_url huri) ?_
    refine bind_required (by simp) (reads_range i.range) ?_
    refine bind_required (by simp) (reads_range i.selectionRange) ?_
    refine bind_optional_self i.data (by simp) (fun v hv => reads_json fun hnull => ?_) rfl
    exact hdata (hnull ▸ hv)

end ProviderHub
