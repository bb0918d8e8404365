import Mathlib.Tactic
import ProviderHub.Proofs.Session.Exchanges

/-!
The way of an item to the client and back.

* `LanguageHistory.item_leads_back`: an item that a client got and sends back leads to the provider
  that made it and to the original item as long as both are there, and to nothing else ever.
-/

namespace ProviderHub.LanguageHistory

variable {π : Type} {settings : Settings}

/-- Every response led to what its providers replied at the time when it was made. -/
lemma exists_traced {actions : List (LanguageAction π)} {e : Exchange π}
    (he : e ∈ (run settings actions).exchanges) :
    ∃ earlier, earlier <+: actions ∧ e.Traced (run settings earlier).language := by
  induction actions using List.reverseRecOn with
  | nil => exact (List.not_mem_nil he).elim
  | append_singleton actions action ih =>
      rw [run_append] at he
      rcases (consistent_run settings actions).traced he with hold | hnew
      · obtain ⟨earlier, hearlier, htraced⟩ := ih hold
        exact ⟨earlier, hearlier.trans (List.prefix_append _ _), htraced⟩
      · exact ⟨actions ++ [action], List.prefix_rfl, run_append settings actions action ▸ hnew⟩

/-- A batch that was cached keeps its number for good. -/
lemma given_batch {earlier : List (LanguageAction π)} {kind : ItemKind} {id : CacheId}
    {batch : List kind.Item}
    (hget : (kind.binder (run settings earlier).language).cache.get? id = some batch)
    (later : List (LanguageAction π)) :
    (kind.binder (run settings (earlier ++ later)).language).cache.numbering.Given id batch := by
  have hready := (consistent_run settings earlier).sound.ready kind
  have hfollows := (run_follows settings earlier later).binders kind
  exact (hready.regular.given hget).later (hfollows.later hready)

/-- So does a provider. -/
lemma given_provider {earlier : List (LanguageAction π)} {feature : Feature} {id : ProviderId}
    {entry : Entry π Metadata}
    (hentry : ((run settings earlier).language.providers.registry feature).numbering.Given id entry)
    (later : List (LanguageAction π)) :
    ((run settings (earlier ++ later)).language.providers.registry feature).numbering.Given id
      entry := by
  have hordered := (consistent_run settings earlier).sound.ordered feature
  exact hentry.later ((run_follows settings earlier later).registries feature hordered).2

/-- **Items lead back to their origin**: take a response to a query for completions, code actions,
code lenses or calls in any run, and an item of the response. It is a copy of an item in the reply
of a provider that was asked, and its batch was cached. When the client sends it back at any later
time, what is found is that very item with that very provider, as long as the batch is cached and
the provider registered, and otherwise nothing. Numbers must fit 64 bits, and the URLs in replies
must be read back as they are. -/
theorem item_leads_back (settings : Settings) (actions : List (LanguageAction π)) {e : Exchange π}
    (he : e ∈ (run settings actions).exchanges) {kind : ItemKind}
    (hkind : e.query.kind? = some kind)
    (hstores : (kind.binder (run settings actions).language).cache.nextId ≤ 2 ^ 64)
    (hproviders :
      ((run settings actions).language.providers.registry kind.feature).nextId ≤ 2 ^ 64)
    (hreplies : ∀ call ∈ e.calls, ∀ reply, call.answer = some (some reply) →
      (kind.offered reply).length ≤ 2 ^ 64 ∧
      ∀ item ∈ kind.offered reply, ∀ u ∈ kind.urls item, u.IsStable)
    {v : Json} (hv : v ∈ e.items) :
    ∃ call ∈ e.calls, ∃ (reply : Reply) (entry : Entry π Metadata) (index : Nat) (id : CacheId)
      (original copy : kind.Item),
      call.answer = some (some reply) ∧ call.asked = ⟨entry.id, entry.provider⟩ ∧
      (kind.offered reply)[index]? = some original ∧
      v = encode (Binder.toWire kind.feature ⟨entry.id, index, id⟩ original) ∧
      decode? v = some copy ∧
      (∃ earlier, earlier <+: actions ∧
        (kind.binder (run settings earlier).language).cache.get? id = some (kind.offered reply)) ∧
      ∀ later,
        let l := (run settings (actions ++ later)).language
        (kind.binder l).cache.numbering.Given id (kind.offered reply) ∧
        (l.providers.registry kind.feature).numbering.Given entry.id entry ∧
        (kind.binder l).resolveItem? (l.providers.registry kind.feature) copy =
          if (kind.binder l).cache.contains id ∧
              ((l.providers.registry kind.feature).get? entry.id).isSome then
            some ⟨⟨entry.id, index, id⟩, entry, original⟩
          else none := by
  obtain ⟨earlier, ⟨between, rfl⟩, htraced⟩ := exists_traced he
  obtain ⟨call, hcall, reply, entry, copy, hanswer, ⟨hasked, hentry⟩, rfl, index, id, original,
    hitem, rfl, hget⟩ := htraced kind hkind v hv
  rw [(consistent_run settings earlier).sound.feature_eq kind]
  obtain ⟨hlength, hurls⟩ := hreplies call hcall reply hanswer
  -- the numbers of the token were given before the response was made, and so they fit
  have hprovider : entry.id < 2 ^ 64 :=
    lt_of_lt_of_le (given_provider hentry between).lt_next hproviders
  have hindex : index < 2 ^ 64 :=
    lt_of_lt_of_le (List.getElem?_eq_some_iff.mp hitem).1 hlength
  have hid : id < 2 ^ 64 := lt_of_lt_of_le (given_batch hget between).lt_next hstores
  have hread : Reads (Token.mk entry.id index id) ⟨entry.id, index, id⟩ :=
    reads_token hprovider hindex hid
  have hdata := Binder.data_toWire kind.feature ⟨entry.id, index, id⟩ original
  have hnull : Bindable.data (Binder.toWire kind.feature ⟨entry.id, index, id⟩ original) ≠
      some .null := by
    rw [hdata]
    nofun
  have hstable : ∀ u ∈ kind.urls (Binder.toWire kind.feature ⟨entry.id, index, id⟩ original),
      u.IsStable := by
    rw [ItemKind.urls_toWire]
    exact hurls original (List.mem_of_getElem? hitem)
  obtain ⟨copy, hdecode, hcopy⟩ := ItemKind.reads_item hnull hstable
  refine ⟨call, hcall, reply, entry, index, id, original, copy, hanswer, hasked, hitem, rfl,
    hdecode, ⟨earlier, List.prefix_append _ _, hget⟩, fun later => ?_⟩
  rw [List.append_assoc]
  have hbatch := given_batch hget (between ++ later)
  have hregistered := given_provider hentry (between ++ later)
  exact ⟨hbatch, hregistered,
    Binder.resolveItem?_eq (hcopy.trans hdata) hread hbatch hitem hregistered⟩

/-- A document of a memory file system. -/
def sampleDocument : TextDocument :=
  { uri := { scheme := "mem", path := "/a" }, languageId := "text", version := 1, text := "" }

/-- A lens with data, a command and state of its own. -/
def sampleLens : CodeLens :=
  { range := default
    command := some { title := "Run", command := "run", state := some ⟨0, 7⟩ }
    data := some (.str "private")
    state := some ⟨1, 5⟩ }

/-- A provider of lenses is registered, asked and answers. -/
def lensRun : List (LanguageAction Unit) :=
  [.openGate .initialized .null, .openGate .registered .null,
    .register .codeLens ⟨[.any]⟩ () .nothing, .openDocument sampleDocument,
    .ask (.document sampleDocument.uri .codeLens) fun _ _ => none,
    .answer 0 (some (.lenses [sampleLens])), .finish 0]

/-- The provider of that run. -/
def lensEntry : Entry Unit Metadata := ⟨1, ⟨[.any]⟩, (), .nothing⟩

/-- The exchange of that run. -/
def lensExchange : Exchange Unit :=
  ⟨.document sampleDocument.uri .codeLens, [⟨0, ⟨1, ()⟩, some (some (.lenses [sampleLens]))⟩],
    encode [Binder.toWire .codeLens ⟨1, 0, 1⟩ sampleLens]⟩

/-- The lens of that run leads back to the one that the provider gave, with all that it holds, but
no longer when the provider or the document is gone. -/
theorem item_leads_back_lensRun :
    ∃ copy : CodeLens,
      decode? (encode (Binder.toWire .codeLens ⟨1, 0, 1⟩ sampleLens)) = some copy ∧
      (run {} lensRun).language.lenses.resolveItem?
          ((run {} lensRun).language.providers.registry .codeLens) copy =
        some ⟨⟨1, 0, 1⟩, lensEntry, sampleLens⟩ ∧
      (run {} (lensRun ++ [.unregister .codeLens 1])).language.lenses.resolveItem?
          ((run {} (lensRun ++ [.unregister .codeLens 1])).language.providers.registry .codeLens)
          copy = none ∧
      (run {} (lensRun ++ [.closeDocument sampleDocument.uri])).language.lenses.resolveItem?
          ((run {} (lensRun ++ [.closeDocument sampleDocument.uri])).language.providers.registry
            .codeLens) copy = none := by
  have hexchange : lensExchange ∈ (run {} lensRun).exchanges := List.mem_singleton_self _
  obtain ⟨call, hcall, reply, entry, index, id, original, copy, hanswer, hasked, hitem, -, hdecode,
    ⟨earlier, -, hget⟩, hresolve⟩ :=
    item_leads_back {} lensRun hexchange (rfl : _ = some ItemKind.lens)
      (Nat.le_of_ble_eq_true rfl) (Nat.le_of_ble_eq_true rfl)
      (fun call hcall reply hreply => by
        rw [List.mem_singleton.mp hcall] at hreply
        cases hreply
        exact ⟨Nat.le_of_ble_eq_true rfl, fun _ _ _ hu => (List.not_mem_nil hu).elim⟩)
      (List.mem_singleton_self _)
  rw [List.mem_singleton.mp hcall] at hanswer hasked
  cases hanswer
  -- there is one provider, one item and one batch that the copy can lead to
  have hprovider : 1 = entry.id := congrArg Asked.provider hasked
  have hentry : lensEntry = entry := (hresolve []).2.1.eq_of_some lensEntry (hprovider ▸ rfl)
  obtain ⟨hindex, rfl⟩ : index = 0 ∧ sampleLens = original := by
    cases index with
    | zero => exact ⟨rfl, Option.some_inj.mp hitem⟩
    | succ index => cases hitem
  have hid : id = 1 := by
    have hlt : id < 2 := (hresolve []).1.lt_next
    have hpos := ((consistent_run {} earlier).sound.ready .lens).regular.swept_lt _
      (Cache.mem_of_get? hget)
    exact le_antisymm (Nat.le_of_lt_succ hlt) (Nat.zero_lt_of_lt hpos)
  subst hentry hindex hid
  exact ⟨copy, hdecode, (hresolve []).2.2, (hresolve [.unregister .codeLens 1]).2.2,
    (hresolve [.closeDocument sampleDocument.uri]).2.2⟩

end ProviderHub.LanguageHistory
