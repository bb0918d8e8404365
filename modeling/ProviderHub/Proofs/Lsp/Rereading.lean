import ProviderHub.Lsp.FileEvent
import ProviderHub.Lsp.Signature
import ProviderHub.Proofs.Json.Order
import ProviderHub.Proofs.Rpc.Messages
import ProviderHub.Provider.Selector

/-!
Values that were read, written, and are read again.

* `Json.UrlsStable`: the URLs in a value are read back from their own texts;
* `Steady`: whatever is read as a value of the type is read back as the same value after it has been
  written;
* `steady_completionItem`, `steady_codeAction`, `steady_formattingOptions` and the lemmas beside
  them: one type after the other;
* `WireType.rereads`: all types of the protocol.
-/

namespace ProviderHub

/-! ### Texts inside of values -/

namespace Json

/-- The texts in a value, keys included. -/
def texts : Json → List String
  | .str s => [s]
  | .arr items => textsItems items
  | .obj fields => textsFields fields
  | _ => []
where
  textsItems : List Json → List String
    | [] => []
    | v :: rest => v.texts ++ textsItems rest
  textsFields : List (String × Json) → List String
    | [] => []
    | (k, v) :: rest => k :: (v.texts ++ textsFields rest)

/-- Every URL that a text in the value stands for is read back from its own text. -/
def UrlsStable (v : Json) : Prop := ∀ s ∈ v.texts, ∀ u, Url.parse? s = some u → u.IsStable

instance (v : Json) : Decidable v.UrlsStable :=
  inferInstanceAs (Decidable (∀ s ∈ v.texts, ∀ u ∈ Url.parse? s, Url.parse? u.toString = some u))

lemma mem_textsItems {v : Json} {items : List Json} (hv : v ∈ items) {s : String}
    (hs : s ∈ v.texts) : s ∈ texts.textsItems items := by
  induction items with
  | nil => nomatch hv
  | cons w items ih =>
    rw [texts.textsItems, List.mem_append]
    rcases List.mem_cons.mp hv with rfl | hv
    · exact .inl hs
    · exact .inr (ih hv)

lemma mem_textsFields {f : String × Json} {fields : List (String × Json)} (hf : f ∈ fields)
    {s : String} (hs : s = f.1 ∨ s ∈ f.2.texts) : s ∈ texts.textsFields fields := by
  induction fields with
  | nil => nomatch hf
  | cons g fields ih =>
    rw [texts.textsFields, List.mem_cons, List.mem_append]
    rcases List.mem_cons.mp hf with rfl | hf
    · exact hs.imp_right .inl
    · exact .inr (.inr (ih hf))

lemma UrlsStable.item {v : Json} {items : List Json} (h : (arr items).UrlsStable)
    (hv : v ∈ items) : v.UrlsStable :=
  fun s hs => h s (mem_textsItems hv hs)

lemma UrlsStable.field {f : String × Json} {fields : List (String × Json)}
    (h : (obj fields).UrlsStable) (hf : f ∈ fields) : f.2.UrlsStable :=
  fun s hs => h s (mem_textsFields hf (.inr hs))

lemma UrlsStable.key {f : String × Json} {fields : List (String × Json)}
    (h : (obj fields).UrlsStable) (hf : f ∈ fields) {u : Url} (hu : Url.parse? f.1 = some u) :
    u.IsStable :=
  h f.1 (mem_textsFields hf (.inl rfl)) u hu

/-- What a record has for a field is part of the value. -/
lemma UrlsStable.slot {v w : Json} {arity index : ℕ} {key : String} {r : Record}
    (h : v.UrlsStable) (hr : Record.ofJson? arity v = some r)
    (hw : r.slot index key = .present w) : w.UrlsStable := by
  cases v with
  | obj fields =>
    obtain rfl : Record.keyed fields = r := by simpa [Record.ofJson?] using hr
    rw [Record.slot] at hw
    split at hw
    · rename_i hlookup
      obtain rfl := Slot.present.inj hw
      exact h.field (mem_of_lookup hlookup)
    · cases hw
  | arr items =>
    rw [Record.ofJson?] at hr
    split at hr
    · obtain rfl := Option.some_inj.mp hr
      rw [Record.slot] at hw
      split at hw
      · rename_i hitem
        obtain rfl := Slot.present.inj hw
        exact h.item (List.mem_of_getElem? hitem)
      · cases hw
    · cases hr
  | _ => cases hr

end Json

/-! ### Steady types -/

/-- Whatever is read as a value of the type is read back as the same value after it has been
written. -/
def Steady (α : Type) [Wire α] : Prop :=
  ∀ (v : Json) (x : α), v.UrlsStable → decode? v = some x → Reads x x

section fields

variable {α : Type} [Wire α] {v : Json} {arity index : ℕ} {key : String} {r : Record}

lemma Steady.required (hα : Steady α) (hv : v.UrlsStable) (hr : Record.ofJson? arity v = some r)
    {a : α} (h : r.required index key = some a) : Reads a a := by
  rw [Record.required] at h
  split at h
  · rename_i hslot
    exact hα _ a (hv.slot hr hslot) h
  · cases h

lemma Steady.ofNullable? (hα : Steady α) (hv : v.UrlsStable) {value : Option α}
    (h : Record.ofNullable? v = some value) : ∀ a, value = some a → Reads a a := by
  rintro a rfl
  rw [Record.ofNullable?.eq_def] at h
  split at h
  · nomatch h
  · obtain ⟨b, hb, hba⟩ := Option.map_eq_some_iff.mp h
    obtain rfl := Option.some_inj.mp hba
    exact hα _ b hv hb

lemma Steady.optional (hα : Steady α) (hv : v.UrlsStable) (hr : Record.ofJson? arity v = some r)
    {value : Option α} (h : r.optional index key = some value) :
    ∀ a, value = some a → Reads a a := by
  rw [Record.optional] at h
  split at h
  · rename_i hslot
    exact hα.ofNullable? (hv.slot hr hslot) h
  · rintro a rfl
    cases h

lemma Steady.nullable (hα : Steady α) (hv : v.UrlsStable) (hr : Record.ofJson? arity v = some r)
    {value : Option α} (h : r.nullable index key = some value) :
    ∀ a, value = some a → Reads a a := by
  rw [Record.nullable] at h
  split at h
  · rename_i hslot
    exact hα.ofNullable? (hv.slot hr hslot) h
  · rintro a rfl
    cases h
  · cases h

/-- A JSON value under a field that may be missing is not `null`. -/
lemma ofNullable?_ne_null {value : Option Json} (h : Record.ofNullable? v = some value) :
    value ≠ some .null := by
  rintro rfl
  rw [Record.ofNullable?.eq_def] at h
  split at h
  · nomatch h
  · rename_i hnull
    obtain ⟨w, hw, hwnull⟩ := Option.map_eq_some_iff.mp h
    obtain rfl := Option.some_inj.mp hwnull
    exact hnull (Option.some_inj.mp hw)

lemma optional_ne_null {value : Option Json} (h : r.optional index key = some value) :
    value ≠ some .null := by
  rw [Record.optional] at h
  split at h
  · exact ofNullable?_ne_null h
  · rintro rfl
    cases h

lemma nullable_ne_null {value : Option Json} (h : r.nullable index key = some value) :
    value ≠ some .null := by
  rw [Record.nullable] at h
  split at h
  · exact ofNullable?_ne_null h
  · rintro rfl
    cases h
  · cases h

lemma exists_of_mem_mapM {β γ : Type} {f : β → Option γ} {items : List β} {xs : List γ}
    (h : items.mapM f = some xs) {x : γ} (hx : x ∈ xs) : ∃ w ∈ items, f w = some x := by
  induction items generalizing xs with
  | nil =>
    obtain rfl := Option.some_inj.mp h
    nomatch hx
  | cons w items ih =>
    rw [List.mapM_cons] at h
    obtain ⟨y, hy, h⟩ := Option.bind_eq_some_iff.mp h
    obtain ⟨ys, hys, h⟩ := Option.bind_eq_some_iff.mp h
    obtain rfl := Option.some_inj.mp h
    rcases List.mem_cons.mp hx with rfl | hx
    · exact ⟨w, by simp, hy⟩
    · obtain ⟨z, hz, hzx⟩ := ih hys hx
      exact ⟨z, by simp [hz], hzx⟩

lemma Steady.list (hα : Steady α) : Steady (List α) := by
  intro v xs hv h
  cases v with
  | arr items =>
    refine reads_list fun x hx => ?_
    obtain ⟨w, hw, hwx⟩ := exists_of_mem_mapM (f := decode?) h hx
    exact (hα w x (hv.item hw) hwx).decode
  | _ => nomatch h

end fields

/-! ### Scalars and small records

The types that hold neither a URL nor a free JSON value: every value is read back. -/

lemma reads_uint8 (n : UInt8) : Reads n n where
  ne_null := nofun
  decode := by
    show (natBelow? UInt8.size (.int n.toNat)).map UInt8.ofNat = some n
    rw [natBelow?_int n.toNat_lt_size, Option.map_some, UInt8.ofNat_toNat]

/-- A field with a default that is always written. -/
lemma bind_defaulted_written {α β : Type} [Wire α] {groups : List (List (String × Json))}
    {index : ℕ} {key : String} (value : α) {default : α} {k : α → Option β} {x : Option β}
    (h : valueAt groups key = some (encode value)) (hread : Reads value value)
    (hk : k value = x) : ((written groups).defaulted index key default).bind k = x := by
  have hdefaulted : (written groups).defaulted index key default = some value := by
    rw [Record.defaulted, slot_written, h]
    exact hread.decode
  rw [hdefaulted, ← hk]
  rfl

/-- A field that may be missing and was read without change. -/
lemma bind_nullable_self {α β : Type} [Wire α] {groups : List (List (String × Json))}
    {index : ℕ} {key : String} (value : Option α) {k : Option α → Option β} {x : Option β}
    (h : valueAt groups key = value.map encode) (hread : ∀ a, value = some a → Reads a a)
    (hk : k value = x) : ((written groups).nullable index key).bind k = x :=
  bind_nullable value (f := some) h (fun a ha => ofNullable?_encode (hread a ha))
    (by rwa [Option.bind_fun_some])

lemma reads_hover (h : Hover) : Reads h h where
  ne_null := nofun
  decode := by
    refine bind_record ?_
    refine bind_required (by simp) (reads_markup h.contents) ?_
    exact bind_nullable_self h.range (by simp) (fun r _ => reads_range r) rfl

lemma reads_completionTrigger (t : CompletionTrigger) : Reads t t := by
  refine ⟨nofun, ?_⟩
  cases t <;> decide

lemma reads_completionContext (c : CompletionContext) : Reads c c where
  ne_null := nofun
  decode := by
    refine bind_record ?_
    refine bind_required (by simp) (reads_completionTrigger c.triggerKind) ?_
    exact bind_optional_self c.triggerCharacter (by simp) (fun s _ => reads_string s) rfl

lemma reads_parameterInformation (p : ParameterInformation) : Reads p p where
  ne_null := nofun
  decode := by
    refine bind_record ?_
    refine bind_required (by simp) (reads_string p.label) ?_
    exact bind_optional_self p.documentation (by simp) (fun c _ => reads_markup c) rfl

lemma reads_signatureInformation (s : SignatureInformation) : Reads s s where
  ne_null := nofun
  decode := by
    refine bind_record ?_
    refine bind_required (by simp) (reads_string s.label) ?_
    refine bind_optional_self s.documentation (by simp) (fun c _ => reads_markup c) ?_
    refine bind_defaulted_written s.parameters (by simp)
      (reads_list fun p _ => (reads_parameterInformation p).decode) ?_
    exact bind_optional_self s.activeParameter (by simp) (fun n _ => reads_uint32 n) rfl

lemma reads_signatureHelp (h : SignatureHelp) : Reads h h where
  ne_null := nofun
  decode := by
    have hsignatures : Reads h.signatures h.signatures :=
      reads_list fun s _ => (reads_signatureInformation s).decode
    refine bind_record ?_
    refine bind_required (by simp) hsignatures ?_
    refine bind_optional_self h.activeSignature (by simp) (fun n _ => reads_uint32 n) ?_
    exact bind_optional_self h.activeParameter (by simp) (fun n _ => reads_uint32 n) rfl

lemma reads_signatureTrigger (t : SignatureTrigger) : Reads t t := by
  refine ⟨nofun, ?_⟩
  cases t <;> decide

lemma reads_signatureHelpContext (c : SignatureHelpContext) : Reads c c where
  ne_null := nofun
  decode := by
    refine bind_record ?_
    refine bind_required (by simp) (reads_signatureTrigger c.triggerKind) ?_
    refine bind_optional_self c.triggerCharacter (by simp) (fun s _ => reads_string s) ?_
    exact bind_defaulted_written c.isRetrigger (by simp) (reads_bool c.isRetrigger) rfl

lemma reads_codeActionContext (c : CodeActionContext) : Reads c c where
  ne_null := nofun
  decode := by
    refine bind_record ?_
    refine bind_defaulted_written c.diagnostics (by simp) (reads_list fun _ _ => rfl) ?_
    exact bind_optional_self c.only (by simp) (fun _ _ => reads_list fun _ _ => rfl) rfl

lemma reads_fileChange (c : FileChange) : Reads c c := by
  refine ⟨nofun, ?_⟩
  cases c <;> decide

lemma reads_watchKind (k : WatchKind) : Reads k k where
  ne_null := nofun
  decode := by
    show (decode? (encode k.bits)).map WatchKind.mk = some k
    rw [(reads_uint8 k.bits).decode]
    rfl

/-- A filter is told by its form: a text names a language, an object has constraints. -/
lemma reads_documentFilter (f : DocumentFilter) : Reads f f := by
  cases f with
  | language name => exact ⟨nofun, rfl⟩
  | fields scheme language =>
    refine ⟨nofun, ?_⟩
    refine bind_optional_self scheme (by simp) (fun s _ => reads_string s) ?_
    exact bind_optional_self language (by simp) (fun s _ => reads_string s) rfl

lemma reads_selector (s : Selector) : Reads s s where
  ne_null := nofun
  decode := by
    show (decode? (encode s.filters)).map Selector.mk = some s
    rw [(reads_list fun f _ => (reads_documentFilter f).decode).decode]
    rfl

/-! ### Edits to documents -/

lemma steady_of_reads {α : Type} [Wire α] (h : ∀ x : α, Reads x x) : Steady α :=
  fun _ x _ _ => h x

lemma steady_url : Steady Url := by
  intro v u hv h
  cases v with
  | str s => exact reads_url (hv s (List.mem_singleton_self s) u h)
  | _ => nomatch h

namespace DocumentEdits

/-- The field that is written for the edits of one document. -/
def field (edit : Url × List TextEdit) : String × Json := (edit.1.toString, encode edit.2)

lemma map_field_insert (u : Url) (es : List TextEdit) (edits : DocumentEdits) :
    (insert u es edits).map field =
      Json.insertField u.toString (encode es) (edits.map field) := by
  induction edits with
  | nil => rfl
  | cons edit edits ih =>
    obtain ⟨w, fs⟩ := edit
    rw [insert, List.map_cons, field, Json.insertField]
    split
    · rfl
    · split
      · rfl
      · rw [List.map_cons, ih]
        rfl

lemma mem_insert {u : Url} {es : List TextEdit} {edits : DocumentEdits}
    {edit : Url × List TextEdit} (h : edit ∈ insert u es edits) :
    edit = (u, es) ∨ edit ∈ edits := by
  induction edits with
  | nil => exact .inl (List.mem_singleton.mp h)
  | cons other edits ih =>
    rw [insert] at h
    split at h
    · exact List.mem_cons.mp h
    · split at h
      · exact (List.mem_cons.mp h).imp_right (List.mem_cons_of_mem _)
      · rcases List.mem_cons.mp h with rfl | h
        · exact .inr (List.mem_cons_self ..)
        · exact (ih h).imp_right (List.mem_cons_of_mem _)

/-- Edits as they are after reading: in order, and with URLs that are read back. -/
structure Proper (edits : DocumentEdits) : Prop where
  ordered : Json.Ordered (edits.map field)
  stable : ∀ edit ∈ edits, edit.1.IsStable

lemma Proper.insert {edits : DocumentEdits} (h : edits.Proper) {u : Url} (hu : u.IsStable)
    (es : List TextEdit) : Proper (insert u es edits) where
  ordered := by
    rw [map_field_insert]
    exact Json.ordered_insertField h.ordered
  stable := by
    intro edit hedit
    rcases mem_insert hedit with rfl | hedit
    · exact hu
    · exact h.stable edit hedit

/-- One field after the other, reading keeps edits proper. -/
lemma proper_ofFields? {fields : List (String × Json)}
    (hkeys : ∀ f ∈ fields, ∀ u, Url.parse? f.1 = some u → u.IsStable) {edits result : DocumentEdits}
    (h : edits.Proper) (hread : ofFields? fields edits = some result) : result.Proper := by
  induction fields generalizing edits with
  | nil =>
    obtain rfl := Option.some_inj.mp hread
    exact h
  | cons f fields ih =>
    obtain ⟨u, hu, hread⟩ := Option.bind_eq_some_iff.mp hread
    obtain ⟨es, -, hread⟩ := Option.bind_eq_some_iff.mp hread
    exact ih (fun g hg => hkeys g (List.mem_cons_of_mem _ hg))
      (h.insert (hkeys f (List.mem_cons_self ..) u hu) es) hread

/-- Edits to a document whose URL comes last are put at the end. -/
lemma insert_of_forall_lt {u : Url} {es : List TextEdit} {edits : DocumentEdits}
    (h : ∀ edit ∈ edits, edit.1.toString < u.toString) :
    insert u es edits = edits ++ [(u, es)] := by
  induction edits with
  | nil => rfl
  | cons edit edits ih =>
    have hlt : edit.1.toString < u.toString := h edit (by simp)
    have hne : u.toString ≠ edit.1.toString := fun heq => String.lt_irrefl _ (heq ▸ hlt)
    rw [insert, if_neg (String.lt_asymm hlt), if_neg hne, ih fun e he => h e (by simp [he])]
    rfl

/-- Proper edits are read from the fields that are written for them. -/
lemma ofFields?_map_field (before : DocumentEdits) {edits : DocumentEdits}
    (h : Proper (before ++ edits)) :
    ofFields? (edits.map field) before = some (before ++ edits) := by
  induction edits generalizing before with
  | nil => rw [List.append_nil]; rfl
  | cons edit edits ih =>
    have hread : decode? (encode edit.2) = some edit.2 :=
      (reads_list fun t _ => (reads_textEdit t).decode).decode
    have hlast : ∀ e ∈ before, e.1.toString < edit.1.toString := by
      intro e he
      have hordered := h.ordered
      rw [List.map_append] at hordered
      exact (List.pairwise_append.mp hordered).2.2 (field e) (List.mem_map_of_mem he) (field edit)
        (by simp)
    rw [List.append_cons] at h ⊢
    rw [List.map_cons, field, ofFields?, h.stable edit (by simp), hread, ← ih _ h,
      ← insert_of_forall_lt hlast]
    rfl

end DocumentEdits

lemma steady_documentEdits : Steady DocumentEdits := by
  intro v edits hv h
  cases v with
  | obj fields =>
    have hempty : DocumentEdits.Proper [] := ⟨List.Pairwise.nil, nofun⟩
    have hproper := DocumentEdits.proper_ofFields? (fun f hf u hu => hv.key hf hu) hempty h
    refine ⟨nofun, ?_⟩
    change DocumentEdits.ofFields? (Json.sortFields (edits.map DocumentEdits.field)) [] = some edits
    rw [Json.sortFields_of_ordered hproper.ordered]
    exact DocumentEdits.ofFields?_map_field [] hproper
  | _ => nomatch h

lemma steady_workspaceEdit : Steady WorkspaceEdit := by
  intro v x hv h
  simp only [decode?, Option.bind_eq_bind, Option.bind_eq_some_iff] at h
  obtain ⟨r, hr, changes, hchanges, documentChanges, hdocument, h⟩ := h
  obtain rfl := Option.some_inj.mp h
  refine ⟨nofun, bind_record ?_⟩
  refine bind_nullable_self changes (by simp) (steady_documentEdits.nullable hv hr hchanges) ?_
  refine bind_nullable_self documentChanges (by simp) (fun w hw => reads_json ?_) rfl
  rintro rfl
  exact nullable_ne_null hdocument hw

/-! ### Items and their parts -/

lemma steady_command : Steady Command := by
  intro v x hv h
  simp only [decode?, Option.bind_eq_bind, Option.bind_eq_some_iff] at h
  obtain ⟨r, -, title, -, command, -, arguments, -, h⟩ := h
  obtain rfl := Option.some_inj.mp h
  exact reads_command _

/-- A command that was read has no arguments that stay in the process. -/
lemma map_command_eq {command : Option Command} (h : ∀ c, command = some c → Reads c c) :
    command.map ({ · with state := none }) = command := by
  cases command with
  | none => rfl
  | some c =>
    have hread := (h c rfl).decode
    rw [(reads_command c).decode] at hread
    rw [Option.map_some, hread]

lemma steady_completionItem : Steady CompletionItem := by
  intro v x hv h
  obtain ⟨r, hr, h⟩ := Option.bind_eq_some_iff.mp h
  obtain ⟨label, -, h⟩ := Option.bind_eq_some_iff.mp h
  obtain ⟨kind, -, h⟩ := Option.bind_eq_some_iff.mp h
  obtain ⟨detail, -, h⟩ := Option.bind_eq_some_iff.mp h
  obtain ⟨documentation, -, h⟩ := Option.bind_eq_some_iff.mp h
  obtain ⟨sortText, -, h⟩ := Option.bind_eq_some_iff.mp h
  obtain ⟨filterText, -, h⟩ := Option.bind_eq_some_iff.mp h
  obtain ⟨insertText, -, h⟩ := Option.bind_eq_some_iff.mp h
  obtain ⟨textEdit, -, h⟩ := Option.bind_eq_some_iff.mp h
  obtain ⟨edits, -, h⟩ := Option.bind_eq_some_iff.mp h
  obtain ⟨preselect, -, h⟩ := Option.bind_eq_some_iff.mp h
  obtain ⟨command, hcommand, h⟩ := Option.bind_eq_some_iff.mp h
  obtain ⟨data, hdata, h⟩ := Option.bind_eq_some_iff.mp h
  obtain rfl := Option.some_inj.mp h
  have hread := reads_completionItem
    (i := ⟨label, kind, detail, documentation, sortText, filterText, insertText, textEdit, edits,
      preselect, command, data, none⟩) (optional_ne_null hdata)
  rwa [map_command_eq (steady_command.optional hv hr hcommand)] at hread

lemma steady_completionList : Steady CompletionList := by
  intro v x hv h
  simp only [decode?, Option.bind_eq_bind, Option.bind_eq_some_iff] at h
  obtain ⟨r, hr, isIncomplete, -, items, hitems, h⟩ := h
  obtain rfl := Option.some_inj.mp h
  refine ⟨nofun, bind_record ?_⟩
  refine bind_required (by simp) (reads_bool isIncomplete) ?_
  exact bind_required (by simp) (steady_completionItem.list.required hv hr hitems) rfl

lemma steady_codeAction : Steady CodeAction := by
  intro v x hv h
  simp only [decode?, Option.bind_eq_bind, Option.bind_eq_some_iff] at h
  obtain ⟨r, hr, title, -, kind, -, diagnostics, -, isPreferred, -, edit, hedit, command, hcommand,
    data, hdata, h⟩ := h
  obtain rfl := Option.some_inj.mp h
  refine ⟨nofun, bind_record ?_⟩
  refine bind_required (by simp) (reads_string title) ?_
  refine bind_optional_self kind (by simp) (fun s _ => reads_string s) ?_
  refine bind_defaulted diagnostics (by simp) (reads_list fun _ _ => rfl) ?_
  refine bind_optional_self isPreferred (by simp) (fun b _ => reads_bool b) ?_
  refine bind_optional_self edit (by simp) (steady_workspaceEdit.optional hv hr hedit) ?_
  refine bind_optional_self command (by simp) (steady_command.optional hv hr hcommand) ?_
  refine bind_optional_self data (by simp) (fun w hw => reads_json ?_) rfl
  rintro rfl
  exact optional_ne_null hdata hw

lemma steady_codeLens : Steady CodeLens := by
  intro v x hv h
  simp only [decode?, Option.bind_eq_bind, Option.bind_eq_some_iff] at h
  obtain ⟨r, hr, range, -, command, hcommand, data, hdata, h⟩ := h
  obtain rfl := Option.some_inj.mp h
  have hread := reads_codeLens (l := ⟨range, command, data, none⟩) (optional_ne_null hdata)
  rwa [map_command_eq (steady_command.optional hv hr hcommand)] at hread

lemma steady_callHierarchyItem : Steady CallHierarchyItem := by
  intro v x hv h
  simp only [decode?, Option.bind_eq_bind, Option.bind_eq_some_iff] at h
  obtain ⟨r, hr, name, -, kind, -, detail, -, uri, huri, range, -, selectionRange, -, data, hdata,
    h⟩ := h
  obtain rfl := Option.some_inj.mp h
  exact reads_callHierarchyItem (optional_ne_null hdata) (steady_url.required hv hr huri).decode

lemma steady_incomingCall : Steady IncomingCall := by
  intro v x hv h
  simp only [decode?, Option.bind_eq_bind, Option.bind_eq_some_iff] at h
  obtain ⟨r, hr, source, hsource, ranges, -, h⟩ := h
  obtain rfl := Option.some_inj.mp h
  have hranges : Reads ranges ranges := reads_list fun r _ => (reads_range r).decode
  refine ⟨nofun, bind_record ?_⟩
  refine bind_required (by simp) (steady_callHierarchyItem.required hv hr hsource) ?_
  exact bind_required (by simp) hranges rfl

lemma steady_outgoingCall : Steady OutgoingCall := by
  intro v x hv h
  simp only [decode?, Option.bind_eq_bind, Option.bind_eq_some_iff] at h
  obtain ⟨r, hr, target, htarget, ranges, -, h⟩ := h
  obtain rfl := Option.some_inj.mp h
  have hranges : Reads ranges ranges := reads_list fun r _ => (reads_range r).decode
  refine ⟨nofun, bind_record ?_⟩
  refine bind_required (by simp) (steady_callHierarchyItem.required hv hr htarget) ?_
  exact bind_required (by simp) hranges rfl

/-! ### Documents, files and links -/

lemma steady_location : Steady Location := by
  intro v x hv h
  simp only [decode?, Option.bind_eq_bind, Option.bind_eq_some_iff] at h
  obtain ⟨r, hr, uri, huri, range, -, h⟩ := h
  obtain rfl := Option.some_inj.mp h
  refine ⟨nofun, bind_record ?_⟩
  refine bind_required (by simp) (steady_url.required hv hr huri) ?_
  exact bind_required (by simp) (reads_range range) rfl

lemma steady_documentLink : Steady DocumentLink := by
  intro v x hv h
  simp only [decode?, Option.bind_eq_bind, Option.bind_eq_some_iff] at h
  obtain ⟨r, hr, range, -, target, htarget, tooltip, -, h⟩ := h
  obtain rfl := Option.some_inj.mp h
  refine ⟨nofun, bind_record ?_⟩
  refine bind_required (by simp) (reads_range range) ?_
  refine bind_optional_self target (by simp) (steady_url.optional hv hr htarget) ?_
  exact bind_optional_self tooltip (by simp) (fun s _ => reads_string s) rfl

lemma steady_fileEvent : Steady FileEvent := by
  intro v x hv h
  simp only [decode?, Option.bind_eq_bind, Option.bind_eq_some_iff] at h
  obtain ⟨r, hr, uri, huri, change, -, h⟩ := h
  obtain rfl := Option.some_inj.mp h
  refine ⟨nofun, bind_record ?_⟩
  refine bind_required (by simp) (steady_url.required hv hr huri) ?_
  exact bind_required (by simp) (reads_fileChange change) rfl

lemma steady_relativePattern : Steady RelativePattern := by
  intro v x hv h
  simp only [decode?, Option.bind_eq_bind, Option.bind_eq_some_iff] at h
  obtain ⟨r, hr, baseUri, huri, pattern, -, h⟩ := h
  obtain rfl := Option.some_inj.mp h
  refine ⟨nofun, bind_record ?_⟩
  refine bind_required (by simp) (steady_url.required hv hr huri) ?_
  exact bind_required (by simp) (reads_string pattern) rfl

lemma steady_fileSystemWatcher : Steady FileSystemWatcher := by
  intro v x hv h
  simp only [decode?, Option.bind_eq_bind, Option.bind_eq_some_iff] at h
  obtain ⟨r, hr, globPattern, hpattern, kind, -, h⟩ := h
  obtain rfl := Option.some_inj.mp h
  refine ⟨nofun, bind_record ?_⟩
  refine bind_required (by simp) (steady_relativePattern.required hv hr hpattern) ?_
  exact bind_optional_self kind (by simp) (fun k _ => reads_watchKind k) rfl

lemma steady_textDocument : Steady TextDocument := by
  intro v x hv h
  simp only [decode?, Option.bind_eq_bind, Option.bind_eq_some_iff] at h
  obtain ⟨r, hr, uri, huri, languageId, -, version, -, text, -, h⟩ := h
  obtain rfl := Option.some_inj.mp h
  refine ⟨nofun, bind_record ?_⟩
  refine bind_required (by simp) (steady_url.required hv hr huri) ?_
  refine bind_required (by simp) (reads_string languageId) ?_
  refine bind_required (by simp) (reads_int32 version) ?_
  exact bind_required (by simp) (reads_string text) rfl

lemma steady_textDocumentIdentifier : Steady TextDocumentIdentifier := by
  intro v x hv h
  simp only [decode?, Option.bind_eq_bind, Option.bind_eq_some_iff] at h
  obtain ⟨r, hr, uri, huri, h⟩ := h
  obtain rfl := Option.some_inj.mp h
  exact ⟨nofun, bind_record (bind_required (by simp) (steady_url.required hv hr huri) rfl)⟩

/-! ### Tokens -/

lemma lt_of_nat64? {v : Json} {n : ℕ} (h : nat64? v = some n) : n < 2 ^ 64 := by
  rw [nat64?, natBelow?.eq_def] at h
  split at h
  · split at h
    · rename_i m hm
      obtain rfl := Option.some_inj.mp h
      have hlt : m < 2 ^ 64 := hm.2
      omega
    · nomatch h
  · nomatch h

lemma steady_token : Steady Token := by
  intro v x hv h
  simp only [decode?, Option.bind_eq_bind, Option.bind_eq_some_iff] at h
  obtain ⟨r, -, providerId, ⟨_, -, hprovider⟩, index, ⟨_, -, hindex⟩, cacheId, ⟨_, -, hcache⟩,
    h⟩ := h
  obtain rfl := Option.some_inj.mp h
  exact reads_token (lt_of_nat64? hprovider) (lt_of_nat64? hindex) (lt_of_nat64? hcache)

lemma steady_cachedCommand : Steady CachedCommand := by
  intro v x hv h
  simp only [decode?, Option.bind_eq_bind, Option.bind_eq_some_iff] at h
  obtain ⟨r, hr, feature, -, token, htoken, h⟩ := h
  obtain rfl := Option.some_inj.mp h
  exact reads_cachedCommand (steady_token.required hv hr htoken)

/-! ### Options with further properties -/

lemma lookup_eq_none {fields : List (String × Json)} {key : String}
    (h : ∀ f ∈ fields, f.1 ≠ key) : fields.lookup key = none := by
  induction fields with
  | nil => rfl
  | cons f fields ih =>
    rw [lookup_cons_ite, if_neg (h f (by simp)).symm, ih fun g hg => h g (by simp [hg])]

/-- The keys of options that are not among their further properties. -/
def FormattingOptions.isFurther (f : String × Json) : Bool :=
  f.1 != "tabSize" && f.1 != "insertSpaces"

lemma decode?_formattingOptions (fields : List (String × Json)) :
    decode? (Json.obj fields) = ((fields.lookup "tabSize").bind decode?).bind fun tabSize =>
      ((fields.lookup "insertSpaces").bind decode?).bind fun insertSpaces =>
        some (⟨tabSize, insertSpaces, fields.filter FormattingOptions.isFurther⟩ :
          FormattingOptions) := rfl

/-- Options are read back if their further properties are in order and not known ones. -/
lemma reads_formattingOptions {o : FormattingOptions} (hordered : Json.Ordered o.properties)
    (hfurther : ∀ f ∈ o.properties, FormattingOptions.isFurther f = true) : Reads o o := by
  refine ⟨nofun, ?_⟩
  have hkeys : ∀ f ∈ o.properties, f.1 ≠ "tabSize" ∧ f.1 ≠ "insertSpaces" := fun f hf => by
    simpa [FormattingOptions.isFurther] using hfurther f hf
  have htab : o.properties.reverse.lookup "tabSize" = none :=
    lookup_eq_none fun f hf => (hkeys f (List.mem_reverse.mp hf)).1
  have hspaces : o.properties.reverse.lookup "insertSpaces" = none :=
    lookup_eq_none fun f hf => (hkeys f (List.mem_reverse.mp hf)).2
  let groups := [field "tabSize" o.tabSize, field "insertSpaces" o.insertSpaces, o.properties]
  have hflatten : groups.flatten =
      ("tabSize", encode o.tabSize) :: ("insertSpaces", encode o.insertSpaces) :: o.properties := by
    simp [groups, field]
  -- the fields that are written have different keys, so that they are only put in order
  have hnodup : (groups.flatten.map Prod.fst).Nodup := by
    have htabKey : "tabSize" ∉ o.properties.map Prod.fst := by
      simpa using fun v hv => (hkeys _ hv).1 rfl
    have hspacesKey : "insertSpaces" ∉ o.properties.map Prod.fst := by
      simpa using fun v hv => (hkeys _ hv).2 rfl
    rw [hflatten, List.map_cons, List.map_cons, List.nodup_cons, List.nodup_cons]
    refine ⟨?_, hspacesKey, hordered.nodup⟩
    rw [List.mem_cons, not_or]
    exact ⟨by simp, htabKey⟩
  have hproperties :
      (Json.sortFields groups.flatten).filter FormattingOptions.isFurther = o.properties := by
    refine Json.Ordered.eq_of_perm ((Json.ordered_sortFields _).filter _) hordered ?_
    have hfilter : groups.flatten.filter FormattingOptions.isFurther = o.properties := by
      rw [hflatten, List.filter_cons_of_neg (by simp [FormattingOptions.isFurther]),
        List.filter_cons_of_neg (by simp [FormattingOptions.isFurther]),
        List.filter_eq_self.mpr hfurther]
    exact hfilter ▸ (Json.sortFields_perm hnodup).filter _
  have hlookup (key : String) : (Json.sortFields groups.flatten).lookup key = valueAt groups key :=
    Json.lookup_sortFields key _
  have htabSize : valueAt groups "tabSize" = some (encode o.tabSize) := by
    simp [groups, htab]
  have hinsertSpaces : valueAt groups "insertSpaces" = some (encode o.insertSpaces) := by
    simp [groups, hspaces]
  have hencode : encode o = Json.obj (Json.sortFields groups.flatten) := rfl
  rw [hencode, decode?_formattingOptions, hproperties, hlookup, hlookup, htabSize, hinsertSpaces,
    Option.bind_some, Option.bind_some, (reads_uint32 o.tabSize).decode,
    (reads_bool o.insertSpaces).decode]
  rfl

/-- What is read from an object in order has its further properties in order. -/
lemma rereads_formattingOptions {v : Json} (hv : v.sorted = v) {o : FormattingOptions}
    (h : decode? v = some o) : Reads o o := by
  cases v with
  | obj fields =>
    obtain ⟨tabSize, -, h⟩ := Option.bind_eq_some_iff.mp h
    obtain ⟨insertSpaces, -, h⟩ := Option.bind_eq_some_iff.mp h
    obtain rfl := Option.some_inj.mp h
    refine reads_formattingOptions ((Json.ordered_of_sorted hv).filter _) fun f hf => ?_
    exact (List.mem_filter.mp hf).2
  | _ => nomatch h

/-! ### All types of the protocol -/

/-- The types that are written for a client and read from it. -/
inductive WireType where
  | position | range | location | textEdit | workspaceEdit | command
  | markupKind | markupContent | hover
  | completionItemKind | completionTrigger | completionContext | completionItem | completionList
  | parameterInformation | signatureInformation | signatureHelp
  | signatureTrigger | signatureHelpContext
  | codeActionContext | codeAction | codeLens | documentLink | formattingOptions
  | callHierarchyItem | incomingCall | outgoingCall
  | fileChange | watchKind | fileEvent | relativePattern | fileSystemWatcher
  | textDocument | textDocumentIdentifier
  | documentFilter | selector | feature | token | cachedCommand

namespace WireType

/-- The values of a type. -/
def Value : WireType → Type
  | position => Position
  | range => Range
  | location => Location
  | textEdit => TextEdit
  | workspaceEdit => WorkspaceEdit
  | command => Command
  | markupKind => MarkupKind
  | markupContent => MarkupContent
  | hover => Hover
  | completionItemKind => CompletionItemKind
  | completionTrigger => CompletionTrigger
  | completionContext => CompletionContext
  | completionItem => CompletionItem
  | completionList => CompletionList
  | parameterInformation => ParameterInformation
  | signatureInformation => SignatureInformation
  | signatureHelp => SignatureHelp
  | signatureTrigger => SignatureTrigger
  | signatureHelpContext => SignatureHelpContext
  | codeActionContext => CodeActionContext
  | codeAction => CodeAction
  | codeLens => CodeLens
  | documentLink => DocumentLink
  | formattingOptions => FormattingOptions
  | callHierarchyItem => CallHierarchyItem
  | incomingCall => IncomingCall
  | outgoingCall => OutgoingCall
  | fileChange => FileChange
  | watchKind => WatchKind
  | fileEvent => FileEvent
  | relativePattern => RelativePattern
  | fileSystemWatcher => FileSystemWatcher
  | textDocument => TextDocument
  | textDocumentIdentifier => TextDocumentIdentifier
  | documentFilter => DocumentFilter
  | selector => Selector
  | feature => Feature
  | token => Token
  | cachedCommand => CachedCommand

instance : (type : WireType) → Wire type.Value
  | position => inferInstanceAs (Wire Position)
  | range => inferInstanceAs (Wire Range)
  | location => inferInstanceAs (Wire Location)
  | textEdit => inferInstanceAs (Wire TextEdit)
  | workspaceEdit => inferInstanceAs (Wire WorkspaceEdit)
  | command => inferInstanceAs (Wire Command)
  | markupKind => inferInstanceAs (Wire MarkupKind)
  | markupContent => inferInstanceAs (Wire MarkupContent)
  | hover => inferInstanceAs (Wire Hover)
  | completionItemKind => inferInstanceAs (Wire CompletionItemKind)
  | completionTrigger => inferInstanceAs (Wire CompletionTrigger)
  | completionContext => inferInstanceAs (Wire CompletionContext)
  | completionItem => inferInstanceAs (Wire CompletionItem)
  | completionList => inferInstanceAs (Wire CompletionList)
  | parameterInformation => inferInstanceAs (Wire ParameterInformation)
  | signatureInformation => inferInstanceAs (Wire SignatureInformation)
  | signatureHelp => inferInstanceAs (Wire SignatureHelp)
  | signatureTrigger => inferInstanceAs (Wire SignatureTrigger)
  | signatureHelpContext => inferInstanceAs (Wire SignatureHelpContext)
  | codeActionContext => inferInstanceAs (Wire CodeActionContext)
  | codeAction => inferInstanceAs (Wire CodeAction)
  | codeLens => inferInstanceAs (Wire CodeLens)
  | documentLink => inferInstanceAs (Wire DocumentLink)
  | formattingOptions => inferInstanceAs (Wire FormattingOptions)
  | callHierarchyItem => inferInstanceAs (Wire CallHierarchyItem)
  | incomingCall => inferInstanceAs (Wire IncomingCall)
  | outgoingCall => inferInstanceAs (Wire OutgoingCall)
  | fileChange => inferInstanceAs (Wire FileChange)
  | watchKind => inferInstanceAs (Wire WatchKind)
  | fileEvent => inferInstanceAs (Wire FileEvent)
  | relativePattern => inferInstanceAs (Wire RelativePattern)
  | fileSystemWatcher => inferInstanceAs (Wire FileSystemWatcher)
  | textDocument => inferInstanceAs (Wire TextDocument)
  | textDocumentIdentifier => inferInstanceAs (Wire TextDocumentIdentifier)
  | documentFilter => inferInstanceAs (Wire DocumentFilter)
  | selector => inferInstanceAs (Wire Selector)
  | feature => inferInstanceAs (Wire Feature)
  | token => inferInstanceAs (Wire Token)
  | cachedCommand => inferInstanceAs (Wire CachedCommand)

/-- Every type but the one with further properties is steady as it is. -/
lemma steady (type : WireType) (hne : type ≠ formattingOptions) : Steady type.Value := by
  cases type with
  | position => exact steady_of_reads reads_position
  | range => exact steady_of_reads reads_range
  | location => exact steady_location
  | textEdit => exact steady_of_reads reads_textEdit
  | workspaceEdit => exact steady_workspaceEdit
  | command => exact steady_command
  | markupKind => exact steady_of_reads reads_markupKind
  | markupContent => exact steady_of_reads reads_markup
  | hover => exact steady_of_reads reads_hover
  | completionItemKind => exact steady_of_reads reads_completionItemKind
  | completionTrigger => exact steady_of_reads reads_completionTrigger
  | completionContext => exact steady_of_reads reads_completionContext
  | completionItem => exact steady_completionItem
  | completionList => exact steady_completionList
  | parameterInformation => exact steady_of_reads reads_parameterInformation
  | signatureInformation => exact steady_of_reads reads_signatureInformation
  | signatureHelp => exact steady_of_reads reads_signatureHelp
  | signatureTrigger => exact steady_of_reads reads_signatureTrigger
  | signatureHelpContext => exact steady_of_reads reads_signatureHelpContext
  | codeActionContext => exact steady_of_reads reads_codeActionContext
  | codeAction => exact steady_codeAction
  | codeLens => exact steady_codeLens
  | documentLink => exact steady_documentLink
  | formattingOptions => exact absurd rfl hne
  | callHierarchyItem => exact steady_callHierarchyItem
  | incomingCall => exact steady_incomingCall
  | outgoingCall => exact steady_outgoingCall
  | fileChange => exact steady_of_reads reads_fileChange
  | watchKind => exact steady_of_reads reads_watchKind
  | fileEvent => exact steady_fileEvent
  | relativePattern => exact steady_relativePattern
  | fileSystemWatcher => exact steady_fileSystemWatcher
  | textDocument => exact steady_textDocument
  | textDocumentIdentifier => exact steady_textDocumentIdentifier
  | documentFilter => exact steady_of_reads reads_documentFilter
  | selector => exact steady_of_reads reads_selector
  | feature => exact steady_of_reads reads_feature
  | token => exact steady_token
  | cachedCommand => exact steady_cachedCommand

/-- **Reading, writing and reading again is reading.** Whatever a JSON value is read as, what is
written for it is read as the same; the fields of the value are in order, and URLs in it are read
back from their own texts. -/
theorem rereads (type : WireType) {v : Json} (hsorted : v.sorted = v) (hurls : v.UrlsStable)
    {x : type.Value} (h : decode? v = some x) : decode? (encode x) = some x := by
  by_cases htype : type = formattingOptions
  · subst htype
    exact (rereads_formattingOptions hsorted h).decode
  · exact (type.steady htype v x hurls h).decode

/-- Edits to two documents whose URLs are in another order once they have been read. -/
theorem rereads_edits :
    ∃ x : CodeAction,
      decode? (.obj [("edit", .obj [("changes", .obj [("FILE:///b", .arr []),
        ("file:///a", .arr [])])]), ("title", .str "Rename")]) = some x ∧
      decode? (encode x) = some x := by
  refine (Option.isSome_iff_exists.mp ?_).imp fun x hx =>
    ⟨hx, rereads codeAction (by decide) (by decide) hx⟩
  decide

end WireType

end ProviderHub
