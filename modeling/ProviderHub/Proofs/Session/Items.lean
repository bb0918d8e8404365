import Mathlib.Tactic
import ProviderHub.Proofs.Resolution.Binding
import ProviderHub.Session.Language

/-!
Items that a client may send back.

* `ItemKind`: the kinds of items with a second phase, each with its binder;
* `Query.itemsIn`: the items in the response to a query, as they stand on the wire;
* `ItemKind.reads_item`: an item that has been sent is read with its data;
* `Language.leads_of_mem_itemsIn`: each item of a response leads to what a provider replied.
-/

namespace ProviderHub

/-- The kinds of items that a client may send back. -/
inductive ItemKind where
  | completion
  | action
  | lens
  | callItem
deriving DecidableEq, Repr

namespace ItemKind

/-- The items of a kind. -/
def Item : ItemKind → Type
  | .completion => CompletionItem
  | .action => CodeAction
  | .lens => CodeLens
  | .callItem => CallHierarchyItem

instance : (kind : ItemKind) → Wire kind.Item
  | .completion => inferInstanceAs (Wire CompletionItem)
  | .action => inferInstanceAs (Wire CodeAction)
  | .lens => inferInstanceAs (Wire CodeLens)
  | .callItem => inferInstanceAs (Wire CallHierarchyItem)

instance : (kind : ItemKind) → Bindable kind.Item
  | .completion => inferInstanceAs (Bindable CompletionItem)
  | .action => inferInstanceAs (Bindable CodeAction)
  | .lens => inferInstanceAs (Bindable CodeLens)
  | .callItem => inferInstanceAs (Bindable CallHierarchyItem)

instance : (kind : ItemKind) → LawfulBindable kind.Item
  | .completion => inferInstanceAs (LawfulBindable CompletionItem)
  | .action => inferInstanceAs (LawfulBindable CodeAction)
  | .lens => inferInstanceAs (LawfulBindable CodeLens)
  | .callItem => inferInstanceAs (LawfulBindable CallHierarchyItem)

/-- The feature that a kind of items belongs to. -/
def feature : ItemKind → Feature
  | .completion => .completion
  | .action => .codeAction
  | .lens => .codeLens
  | .callItem => .callHierarchy

/-- The binder for the items of a kind. -/
def binder {π : Type} (l : Language π) : (kind : ItemKind) → Binder kind.Item
  | .completion => l.completions
  | .action => l.actions
  | .lens => l.lenses
  | .callItem => l.callItems

/-- The URLs in an item that are read as such when it comes back. -/
def urls : (kind : ItemKind) → kind.Item → List Url
  | .completion, _ => []
  | .action, (a : CodeAction) => (a.edit.map WorkspaceEdit.urls).getD []
  | .lens, _ => []
  | .callItem, (i : CallHierarchyItem) => [i.uri]

/-- The items of a kind in a reply. -/
def offered : (kind : ItemKind) → Reply → List kind.Item
  | .completion, .completions list => list.items
  | .action, .actions actions => actions
  | .lens, .lenses lenses => lenses
  | .callItem, .callItems items => items
  | .callItem, .incoming calls => calls.map IncomingCall.source
  | .callItem, .outgoing calls => calls.map OutgoingCall.target
  | _, _ => []

/-- An item with data is read back with it. -/
lemma reads_item {kind : ItemKind} {item : kind.Item} (hdata : Bindable.data item ≠ some .null)
    (hurls : ∀ u ∈ kind.urls item, u.IsStable) :
    ∃ result : kind.Item, decode? (encode item) = some result ∧
      Bindable.data result = Bindable.data item := by
  cases kind with
  | completion => exact ⟨_, (reads_completionItem hdata).decode, rfl⟩
  | action =>
      have hedit : ∀ e, CodeAction.edit item = some e → ∀ u ∈ e.urls, u.IsStable := by
        intro e he u hu
        refine hurls u ?_
        show u ∈ ((CodeAction.edit item).map WorkspaceEdit.urls).getD []
        rw [he]
        exact hu
      obtain ⟨edit, hread⟩ := reads_codeAction hdata hedit
      exact ⟨_, hread.decode, rfl⟩
  | lens => exact ⟨_, (reads_codeLens hdata).decode, rfl⟩
  | callItem =>
      exact ⟨_, (reads_callHierarchyItem hdata (hurls _ (List.mem_singleton_self _))).decode, rfl⟩

/-- A copy names the same URLs. -/
lemma urls_toWire (kind : ItemKind) (feature : Feature) (token : Token) (item : kind.Item) :
    kind.urls (Binder.toWire feature token item) = kind.urls item := by
  rw [Binder.toWire]
  cases kind with
  | action =>
      split
      · split <;> rfl
      · rfl
  | _ => rfl

end ItemKind

/-! ### Responses -/

/-- The elements of an array. -/
def Json.elements : Json → List Json
  | .arr items => items
  | _ => []

namespace Query

/-- The kind of the items in the response to a query. -/
def kind? : Query → Option ItemKind
  | .document _ (.completion _ _) => some .completion
  | .document _ (.codeAction _ _) => some .action
  | .document _ .codeLens => some .lens
  | .document _ (.prepareCalls _) => some .callItem
  | .incomingCalls _ => some .callItem
  | .outgoingCalls _ => some .callItem
  | _ => none

/-- The items in the response to a query. -/
def itemsIn : Query → Json → List Json
  | .document _ (.completion _ _), v => ((v.get? "items").map Json.elements).getD []
  | .incomingCalls _, v => v.elements.filterMap (Json.get? "from")
  | .outgoingCalls _, v => v.elements.filterMap (Json.get? "to")
  | _, v => v.elements

end Query

lemma mem_elements_encode {α : Type} [Wire α] {values : List α} {v : Json}
    (hv : v ∈ (encode values).elements) : ∃ value ∈ values, v = encode value := by
  obtain ⟨value, hvalue, rfl⟩ := List.mem_map.mp hv
  exact ⟨value, hvalue, rfl⟩

lemma itemsIn_completion (uri : Url) (position : Position) (context : CompletionContext)
    (list : CompletionList) :
    (Query.document uri (.completion position context)).itemsIn (encode list) =
      (encode list.items).elements := by
  have hitems : (encode list).get? "items" = some (encode list.items) := by
    refine (get?_fields _ _).trans ?_
    simp
  rw [Query.itemsIn, hitems]
  rfl

lemma get?_incomingCall (call : IncomingCall) (source : CallHierarchyItem) :
    (encode { call with source }).get? "from" = some (encode source) := by
  refine (get?_fields _ _).trans ?_
  simp

lemma get?_outgoingCall (call : OutgoingCall) (target : CallHierarchyItem) :
    (encode { call with target }).get? "to" = some (encode target) := by
  refine (get?_fields _ _).trans ?_
  simp

/-! ### Trimmed lists -/

lemma Trim.mem_of_mem_select {limit : Nat} {cs : List Candidate} {c : Candidate}
    (hc : c ∈ select limit cs) : c ∈ cs := by
  rw [select] at hc
  split at hc
  · exact List.mem_mergeSort.mp (List.mem_of_mem_take hc)
  · exact hc

/-- Trimming adds nothing. -/
lemma Trim.mem_of_mem_apply {limits : CompletionLimits} {d : TextDocument} {position : Position}
    {list : CompletionList} {item : CompletionItem}
    (hitem : item ∈ (apply limits d position list).items) : item ∈ list.items := by
  rw [apply] at hitem
  dsimp only at hitem
  split at hitem
  · exact hitem
  · obtain ⟨candidate, hcandidate, rfl⟩ := List.mem_map.mp hitem
    obtain ⟨⟨item, index⟩, hmem, hsome⟩ := List.mem_filterMap.mp (mem_of_mem_select hcandidate)
    dsimp only at hsome
    split at hsome
    · cases hsome
      exact (List.mem_zipIdx hmem).2.2 ▸ List.getElem_mem _
    · cases hsome

/-! ### The last move -/

namespace Language

variable {π : Type} {l : Language π} {results : List (ProviderId × Reply)} {origin : Option Token}

lemma mem_of_mem_select {β : Type} {form : Reply → Option β} {selected : ProviderId × β}
    (hselected : selected ∈ select form results) :
    ∃ result ∈ results, result.1 = selected.1 ∧ form result.2 = some selected.2 := by
  obtain ⟨⟨id, reply⟩, hresult, hsome⟩ := List.mem_filterMap.mp hselected
  obtain ⟨value, hform, rfl⟩ := Option.map_eq_some_iff.mp hsome
  exact ⟨(id, reply), hresult, rfl, hform⟩

lemma mem_of_first? {β : Type} {form : Reply → Option β} {value : β}
    (hfirst : first? form results = some value) :
    ∃ result ∈ results, form result.2 = some value := by
  obtain ⟨selected, hhead, rfl⟩ := Option.map_eq_some_iff.mp hfirst
  obtain ⟨result, hresult, -, hform⟩ := mem_of_mem_select (List.mem_of_mem_head? hhead)
  exact ⟨result, hresult, hform⟩

/-- Replies of a form that holds items, with their providers. -/
lemma offered_of_mem_select (kind : ItemKind) {β : Type} {form : Reply → Option β}
    {items : β → List kind.Item}
    (hform : ∀ reply value, form reply = some value → kind.offered reply = items value)
    {selected : ProviderId × β} (hselected : selected ∈ select form results) :
    ∃ result ∈ results, result.1 = selected.1 ∧ kind.offered result.2 = items selected.2 := by
  obtain ⟨result, hresult, hid, hsome⟩ := mem_of_mem_select hselected
  exact ⟨result, hresult, hid, hform _ _ hsome⟩

/-- Copies of what several providers replied. -/
lemma leads_of_mem_bindAll {kind : ItemKind} {b : Binder kind.Item} (hb : b.Ready) {uri : Url}
    {batches : List (ProviderId × List kind.Item)}
    (hbatches : ∀ batch ∈ batches, ∃ result ∈ results,
      result.1 = batch.1 ∧ kind.offered result.2 = batch.2)
    {copy : kind.Item} (hcopy : copy ∈ (b.bindAll uri batches).1) :
    ∃ result ∈ results,
      (b.bindAll uri batches).2.Leads result.1 (kind.offered result.2) copy := by
  obtain ⟨batch, hbatch, hleads⟩ := Binder.leads_of_mem_bindAll hb hcopy
  obtain ⟨result, hresult, hid, hoffered⟩ := hbatches batch hbatch
  refine ⟨result, hresult, ?_⟩
  rw [hid, hoffered]
  exact hleads

/-- A response that lists copies of what several providers replied. -/
lemma leads_of_mem_elements (kind : ItemKind) {b : Binder kind.Item} (hb : b.Ready) {uri : Url}
    {form : Reply → Option (List kind.Item)}
    (hform : ∀ reply items, form reply = some items → kind.offered reply = items) {v : Json}
    (hv : v ∈ (encode (b.bindAll uri (select form results)).1).elements) :
    ∃ result ∈ results, ∃ copy, v = encode copy ∧
      (b.bindAll uri (select form results)).2.Leads result.1 (kind.offered result.2) copy := by
  obtain ⟨copy, hcopy, rfl⟩ := mem_elements_encode hv
  obtain ⟨result, hresult, hleads⟩ :=
    leads_of_mem_bindAll hb (fun _ => offered_of_mem_select kind hform) hcopy
  exact ⟨result, hresult, copy, rfl, hleads⟩

lemma mem_of_mem_finishCompletion {uri : Url} {position : Position} {item : CompletionItem}
    (hitem : item ∈ (l.finishCompletion uri position results).1.items) :
    item ∈ (l.completions.bindAll uri
      ((select Reply.completions? results).map fun s => (s.1, s.2.items))).1 := by
  rw [finishCompletion] at hitem
  dsimp only at hitem
  split at hitem
  · exact Trim.mem_of_mem_apply hitem
  · exact hitem

/-- Copies in the response to a query about a document. -/
lemma leads_of_mem_document (hl : ∀ kind : ItemKind, (kind.binder l).Ready) {uri : Url}
    {query : DocumentQuery} {kind : ItemKind} (hkind : (Query.document uri query).kind? = some kind)
    {v : Json}
    (hv : v ∈ (Query.document uri query).itemsIn (l.finishDocument uri results query).1) :
    ∃ result ∈ results, ∃ copy : kind.Item, v = encode copy ∧
      (kind.binder (l.finishDocument uri results query).2).Leads result.1 (kind.offered result.2)
        copy := by
  cases query with
  | completion position context =>
      cases hkind
      obtain ⟨copy, hcopy, rfl⟩ := mem_elements_encode ((itemsIn_completion ..).subst hv)
      have hbatches : ∀ batch ∈ (select Reply.completions? results).map fun s => (s.1, s.2.items),
          ∃ result ∈ results, result.1 = batch.1 ∧
            ItemKind.completion.offered result.2 = batch.2 := by
        intro batch hbatch
        obtain ⟨selected, hselected, rfl⟩ := List.mem_map.mp hbatch
        exact offered_of_mem_select .completion
          (fun reply _ h => by cases reply <;> cases h; rfl) hselected
      obtain ⟨result, hresult, hleads⟩ :=
        leads_of_mem_bindAll (hl .completion) hbatches (mem_of_mem_finishCompletion hcopy)
      exact ⟨result, hresult, copy, rfl, hleads⟩
  | codeAction range context =>
      cases hkind
      exact leads_of_mem_elements .action (hl .action)
        (fun reply _ h => by cases reply <;> cases h; rfl) hv
  | codeLens =>
      cases hkind
      exact leads_of_mem_elements .lens (hl .lens)
        (fun reply _ h => by cases reply <;> cases h; rfl) hv
  | prepareCalls position =>
      cases hkind
      exact leads_of_mem_elements .callItem (hl .callItem)
        (fun reply _ h => by cases reply <;> cases h; rfl) hv
  | _ => cases hkind

/-- Copies of what the provider behind a token replied. -/
lemma leads_of_mem_finishCalls (hl : l.callItems.Ready)
    (horigin : ∀ token, origin = some token → ∀ result ∈ results, result.1 = token.providerId)
    {γ : Type} [Wire γ] (form : Reply → Option (List γ)) (item : γ → CallHierarchyItem)
    {withItem : γ → CallHierarchyItem → γ} {key : String}
    (hform : ∀ reply calls, form reply = some calls →
      ItemKind.callItem.offered reply = calls.map item)
    (hitem : ∀ call copy, (encode (withItem call copy)).get? key = some (encode copy)) {v : Json}
    (hv : v ∈ (finishCalls l.callItems origin ((first? form results).getD []) item
      withItem).1.elements.filterMap (Json.get? key)) :
    ∃ result ∈ results, ∃ copy : CallHierarchyItem, v = encode copy ∧
      (finishCalls l.callItems origin ((first? form results).getD []) item withItem).2.Leads
        result.1 (ItemKind.callItem.offered result.2) copy := by
  cases horg : origin with
  | none =>
      rw [horg] at hv
      cases hv
  | some token =>
      rw [horg] at hv
      obtain ⟨w, hw, hkey⟩ := List.mem_filterMap.mp hv
      obtain ⟨call, hcall, rfl⟩ := mem_elements_encode hw
      obtain ⟨⟨original, copy⟩, hpair, rfl⟩ := List.mem_map.mp hcall
      rw [hitem original copy] at hkey
      cases hkey
      obtain ⟨hcalls, hcopy⟩ := List.of_mem_zip hpair
      cases hfirst : first? form results with
      | none =>
          rw [hfirst] at hcalls
          cases hcalls
      | some calls =>
          obtain ⟨result, hresult, hsome⟩ := mem_of_first? hfirst
          rw [hfirst] at hcopy
          refine ⟨result, hresult, copy, rfl, ?_⟩
          rw [horigin token horg result hresult, hform result.2 calls hsome]
          exact Binder.leads_of_mem_bindFor hl hcopy

/-- **Every item of a response leads to what a provider replied**: it is a copy of an item in the
reply of a provider that was asked, and its token leads to that item in the cache. -/
lemma leads_of_mem_itemsIn (hl : ∀ kind : ItemKind, (kind.binder l).Ready)
    (horigin : ∀ token, origin = some token → ∀ result ∈ results, result.1 = token.providerId)
    {query : Query} {kind : ItemKind} (hkind : query.kind? = some kind) {v : Json}
    (hv : v ∈ query.itemsIn (l.finish query origin results).1) :
    ∃ result ∈ results, ∃ copy : kind.Item, v = encode copy ∧
      (kind.binder (l.finish query origin results).2).Leads result.1 (kind.offered result.2)
        copy := by
  cases query with
  | document uri query => exact leads_of_mem_document hl hkind hv
  | incomingCalls item =>
      cases hkind
      exact leads_of_mem_finishCalls (hl .callItem) horigin Reply.incoming? IncomingCall.source
        (fun reply _ h => by cases reply <;> cases h; rfl) get?_incomingCall hv
  | outgoingCalls item =>
      cases hkind
      exact leads_of_mem_finishCalls (hl .callItem) horigin Reply.outgoing? OutgoingCall.target
        (fun reply _ h => by cases reply <;> cases h; rfl) get?_outgoingCall hv
  | _ => cases hkind

end Language

end ProviderHub
