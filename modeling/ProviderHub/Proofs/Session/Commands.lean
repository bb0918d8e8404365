import Mathlib.Tactic
import ProviderHub.Proofs.Session.RoundTrip
import ProviderHub.Proofs.Session.Tasks

/-!
Commands with state, on the way to the client and back.

* `Json.commandQuery?`: what a client asks for when it runs the command of an item;
* `Language.start_standIn`: running a command that stands for another one;
* `Language.startCommand_cases`: what the client makes up leads to a cached command or to nothing;
* `Exchange.Carries`: how the items of a response relate to what providers replied;
* `LanguageHistory.CommandSurvives`: what becomes of an item's command;
* `LanguageHistory.commands_survive_wire`: that is so for the items of both phases, in every run.
-/

namespace ProviderHub

/-! ### Commands on the wire -/

/-- What a client asks for when it runs the command of an item: it takes its name and its arguments
as they stand in the item. -/
def Json.commandQuery? (v : Json) : Option Query := do
  let command ← v.get? "command"
  let name ← command.get? "command"
  let params := fields [field "command" name, fieldIfSome "arguments" (command.get? "arguments")]
  (Query.read Method.executeCommand (some params)).toOption

lemma Query.read_executeCommand (params : Option Json) :
    Query.read Method.executeCommand params = (do
      let p ← readParams ExecuteCommandParams params
      .ok (.execute { title := "", command := p.command, arguments := p.arguments })) := by
  simp [Query.read, Method.executeCommand, Method.completion, Method.completionResolve,
    Method.hover, Method.definition, Method.references, Method.signatureHelp, Method.rename,
    Method.formatting, Method.codeAction, Method.codeActionResolve, Method.codeLens,
    Method.codeLensResolve, Method.documentLink, Method.prepareCallHierarchy,
    Method.incomingCalls, Method.outgoingCalls]

lemma Command.isWireSafe_iff {c : Command} : c.isWireSafe = true ↔ c.state = none :=
  Option.isNone_iff_eq_none

namespace ItemKind

variable {kind : ItemKind}

@[simp] lemma command?_withData (item : kind.Item) (v : Json) :
    Bindable.command? (Bindable.withData item v) = Bindable.command? item := by
  cases kind <;> rfl

lemma command?_withCommand (hkind : kind ≠ .callItem) (item : kind.Item) (c : Command) :
    Bindable.command? (Bindable.withCommand item c) = some c := by
  cases kind with
  | callItem => exact absurd rfl hkind
  | _ => rfl

/-- A copy has the same command if that has no state, and one that stands for it otherwise. -/
lemma command?_toWire (hkind : kind ≠ .callItem) (feature : Feature) (token : Token)
    (item : kind.Item) :
    Bindable.command? (Binder.toWire feature token item) =
      (Bindable.command? item).map fun c =>
        if c.isWireSafe then c else Binder.standIn feature token c := by
  rw [Binder.toWire]
  split
  · rename_i c hc
    rw [hc, Option.map_some]
    split
    · rw [command?_withData, hc]
    · rw [command?_withCommand hkind]
  · rename_i hnone
    rw [command?_withData, hnone]
    rfl

lemma get?_command (item : kind.Item) :
    (encode item).get? "command" = (Bindable.command? item).map encode := by
  cases kind with
  | completion =>
      show (encode item).get? "command" = (CompletionItem.command item).map encode
      exact (get?_fields _ _).trans (by simp)
  | action =>
      show (encode item).get? "command" = (CodeAction.command item).map encode
      exact (get?_fields _ _).trans (by simp)
  | lens =>
      show (encode item).get? "command" = (CodeLens.command item).map encode
      exact (get?_fields _ _).trans (by simp)
  | callItem =>
      show (encode item).get? "command" = none
      exact (get?_fields _ _).trans (by simp)

end ItemKind

lemma get?_commandName (c : Command) :
    (encode c).get? "command" = some (encode c.command) :=
  (get?_fields _ _).trans (by simp)

lemma get?_commandArguments (c : Command) :
    (encode c).get? "arguments" = if c.arguments ≠ [] then some (encode c.arguments) else none :=
  (get?_fields _ _).trans (by simp)

@[simp] lemma encode_json (v : Json) : encode v = v := rfl

@[simp] lemma map_encode_json (v : Option Json) : v.map encode = v := congrFun Option.map_id v

/-- The name and the arguments of an item's command come back as they are. -/
lemma commandQuery?_encode {kind : ItemKind} {item : kind.Item} {c : Command}
    (hc : Bindable.command? item = some c) :
    (encode item).commandQuery? =
      some (.execute { title := "", command := c.command, arguments := c.arguments }) := by
  have hread : Params.ofJson? (fields [field "command" (encode c.command),
      fieldIfSome "arguments" ((encode c).get? "arguments")]) =
      some (ExecuteCommandParams.mk c.command c.arguments) := by
    rw [get?_commandArguments]
    refine bind_record (bind_required (by simp) (reads_string c.command) ?_)
    exact bind_defaulted c.arguments (by simp) (reads_list fun _ _ => rfl) rfl
  rw [Json.commandQuery?, ItemKind.get?_command, hc]
  show (((encode c).get? "command").bind _) = _
  rw [get?_commandName, Option.bind_some]
  dsimp only
  rw [Query.read_executeCommand, readParams, Option.getD_some, hread]
  rfl

/-! ### Commands that stand for others -/

namespace Language

variable {π : Type} {l : Language π} {kind : ItemKind}

lemma cachedCommand?_eq (hkind : kind ≠ .callItem) (l : Language π) (token : Token) :
    l.cachedCommand? ⟨kind.feature, token⟩ = l.commandBehind? (kind.binder l) token := by
  cases kind with
  | callItem => exact absurd rfl hkind
  | _ => rfl

/-- **Running a command that stands for another one**: that one is handed to its handler as long as
its batch is cached and its provider registered, and otherwise nobody is asked. -/
lemma start_standIn (hkind : kind ≠ .callItem) (hl : l.Sound) {token : Token}
    {items : List kind.Item} {item : kind.Item} {entry : Entry π Metadata} {c : Command}
    (hread : Reads token token)
    (hbatch : (kind.binder l).cache.numbering.Given token.cacheId items)
    (hitem : items[token.index]? = some item)
    (hentry : (l.providers.registry kind.feature).numbering.Given token.providerId entry)
    (hc : Bindable.command? item = some c) :
    l.start (.execute
        { title := ""
          command := cachedCommandId
          arguments := [encode (CachedCommand.mk kind.feature token)] }) =
      if (kind.binder l).cache.contains token.cacheId ∧
          ((l.providers.registry kind.feature).get? token.providerId).isSome then
        l.startHandler c
      else .done (.ok .null) := by
  have hdecode : decode? (encode (CachedCommand.mk kind.feature token)) =
      some (CachedCommand.mk kind.feature token) := (reads_cachedCommand hread).decode
  rw [start, startCommand, if_pos rfl, List.head?_cons, Option.bind_some, hdecode,
    Option.bind_some, cachedCommand?_eq hkind, commandBehind?, hl.feature_eq kind,
    Binder.resolve?_eq hbatch hitem hentry]
  by_cases hthere : (kind.binder l).cache.contains token.cacheId ∧
      ((l.providers.registry kind.feature).get? token.providerId).isSome
  · rw [if_pos hthere, if_pos hthere, Option.bind_some, hc]
  · rw [if_neg hthere, if_neg hthere, Option.bind_none]

/-- The command of an item in the cache, whose provider is registered. -/
def CachedAt (l : Language π) (kind : ItemKind) (token : Token) (c : Command) : Prop :=
  ∃ batch item entry, (kind.binder l).cache.get? token.cacheId = some batch ∧
    batch[token.index]? = some item ∧
    (l.providers.registry kind.feature).get? token.providerId = some entry ∧
    Bindable.command? item = some c

lemma cachedAt_of_commandBehind? (hl : l.Sound) {token : Token} {c : Command}
    (hc : l.commandBehind? (kind.binder l) token = some c) : l.CachedAt kind token c := by
  obtain ⟨found, hfound, hcommand⟩ := Option.bind_eq_some_iff.mp hc
  obtain ⟨batch, hget, hrest⟩ := Option.bind_eq_some_iff.mp hfound
  obtain ⟨item, hitem, hrest⟩ := Option.bind_eq_some_iff.mp hrest
  obtain ⟨entry, hentry, hsome⟩ := Option.bind_eq_some_iff.mp hrest
  cases hsome
  exact ⟨batch, item, entry, hget, hitem, hl.feature_eq kind ▸ hentry, hcommand⟩

/-- **What a client may make up**: whatever the arguments of a command that stands for another one,
a cached command is handed to its handler, or nobody is asked and there is no error. -/
lemma startCommand_cases (hl : l.Sound) {command : Command}
    (hcommand : command.command = cachedCommandId) :
    l.startCommand command = .done (.ok .null) ∨
    ∃ kind ≠ ItemKind.callItem, ∃ token c, l.CachedAt kind token c ∧
      l.startCommand command = l.startHandler c := by
  rw [startCommand, if_pos hcommand]
  split
  · rename_i c hc
    obtain ⟨cached, -, hcached⟩ := Option.bind_eq_some_iff.mp hc
    rw [cachedCommand?] at hcached
    right
    split at hcached
    · exact ⟨.completion, ItemKind.noConfusion, _, c, cachedAt_of_commandBehind? hl hcached, rfl⟩
    · exact ⟨.action, ItemKind.noConfusion, _, c, cachedAt_of_commandBehind? hl hcached, rfl⟩
    · exact ⟨.lens, ItemKind.noConfusion, _, c, cachedAt_of_commandBehind? hl hcached, rfl⟩
    · cases hcached
  · exact .inl rfl

end Language

/-! ### Items of both phases -/

namespace ItemKind

/-- The item of a kind that a provider has completed. -/
def completed? : (kind : ItemKind) → Reply → Option kind.Item
  | .completion, reply => reply.completion?
  | .action, reply => reply.action?
  | .lens, reply => reply.lens?
  | .callItem, _ => none

/-- The items of a kind in a reply of either phase. -/
def given (kind : ItemKind) (reply : Reply) : List kind.Item :=
  match kind.completed? reply with
  | some item => [item]
  | none => kind.offered reply

lemma given_of_completed? {kind : ItemKind} {reply : Reply} {item : kind.Item}
    (h : kind.completed? reply = some item) : kind.given reply = [item] := by
  rw [given, h]

lemma given_of_mem_offered {kind : ItemKind} {reply : Reply} {item : kind.Item}
    (h : item ∈ kind.offered reply) : kind.given reply = kind.offered reply := by
  cases kind <;> cases reply <;> first | rfl | cases h

end ItemKind

/-- The kind of the item that a query wants to be completed. -/
def Query.completes? : Query → Option ItemKind
  | .resolveCompletion _ => some .completion
  | .resolveAction _ => some .action
  | .resolveLens _ => some .lens
  | _ => none

/-- How such a query is put to a provider, and what becomes of it. -/
lemma Query.completes_cases {query : Query} {kind : ItemKind}
    (h : query.completes? = some kind) :
    ∃ (sent : kind.Item) (question : kind.Item → Question), ∀ {π : Type} (l : Language π),
      l.start query = l.startItem (kind.binder l) sent question (encode sent) ∧
      ∀ origin results,
        (l.finish query origin results).1 = (Language.finishItem (kind.binder l) origin sent
          (Language.first? kind.completed? results)).1 ∧
        kind.binder (l.finish query origin results).2 = (Language.finishItem (kind.binder l) origin
          sent (Language.first? kind.completed? results)).2 := by
  cases query with
  | resolveCompletion item =>
      cases h
      exact ⟨item, .resolveCompletion, fun l => ⟨rfl, fun _ _ => ⟨rfl, rfl⟩⟩⟩
  | resolveAction action =>
      cases h
      exact ⟨action, .resolveAction, fun l => ⟨rfl, fun _ _ => ⟨rfl, rfl⟩⟩⟩
  | resolveLens lens =>
      cases h
      exact ⟨lens, .resolveLens, fun l => ⟨rfl, fun _ _ => ⟨rfl, rfl⟩⟩⟩
  | _ => cases h

namespace Binder

variable {α : Type} [Bindable α] {b : Binder α}

/-- What a binder makes of one of the items that a provider gave: a copy that leads to them in the
cache, or the item as it is, with other data, if it has no command with state. -/
def Sends (b : Binder α) (provider : ProviderId) (items : List α) (item copy : α) : Prop :=
  ((∀ c, Bindable.command? item = some c → c.state = none) ∧
    ∃ v, copy = Bindable.withData item v) ∨
  ∃ index id, items[index]? = some item ∧
    copy = toWire b.feature ⟨provider, index, id⟩ item ∧ b.cache.get? id = some items

lemma Leads.sends {provider : ProviderId} {items : List α} {copy : α}
    (h : b.Leads provider items copy) : ∃ item ∈ items, b.Sends provider items item copy := by
  obtain ⟨index, id, item, hitem, hcopy, hget⟩ := h
  exact ⟨item, List.mem_of_getElem? hitem, .inr ⟨index, id, hitem, hcopy, hget⟩⟩

lemma rebind_sends (hb : b.Ready) (token : Token) (item : α) :
    (b.rebind token item).2.Sends token.providerId [item] item (b.rebind token item).1 := by
  rw [rebind]
  split
  · rename_i c hc
    split
    · rename_i hsafe
      refine .inl ⟨fun c' hc' => ?_, _, rfl⟩
      rw [hc] at hc'
      cases hc'
      exact Command.isWireSafe_iff.mp hsafe
    · have hleads : (b.bindAlongside token [item]).2.Leads token.providerId [item]
          ((b.bindAlongside token [item]).1.getLastD item) :=
        leads_of_mem_bindFor hb (List.mem_singleton_self _)
      obtain ⟨other, hmem, hsends⟩ := hleads.sends
      cases List.mem_singleton.mp hmem
      exact hsends
  · rename_i hnone
    refine .inl ⟨fun c hc => ?_, _, rfl⟩
    rw [hnone] at hc
    cases hc

end Binder

/-! ### Exchanges of both phases -/

/-- An item that was bound for the client in an exchange: one that the response lists, or the
response itself when a provider has completed an item. -/
def Exchange.Binds {π : Type} (e : Exchange π) (kind : ItemKind) (v : Json) : Prop :=
  e.query.kind? = some kind ∧ v ∈ e.items ∨
  e.query.completes? = some kind ∧ v = e.response ∧
    ∃ call ∈ e.calls, ∃ reply, call.answer = some (some reply) ∧
      (kind.completed? reply).isSome

/-- A value on the wire stands for an item in the reply of a provider that was asked. -/
def Exchange.Carries {π : Type} (l : Language π) (e : Exchange π) (kind : ItemKind) (v : Json) :
    Prop :=
  ∃ call ∈ e.calls, ∃ reply entry, ∃ item ∈ kind.given reply, ∃ copy : kind.Item,
    call.answer = some (some reply) ∧ l.Knows kind.feature call.asked entry ∧ v = encode copy ∧
    (kind.binder l).Sends entry.id (kind.given reply) item copy

lemma Exchange.Traced.carries {π : Type} {l : Language π} {e : Exchange π} (h : e.Traced l)
    {kind : ItemKind} (hkind : e.query.kind? = some kind) {v : Json} (hv : v ∈ e.items) :
    e.Carries l kind v := by
  obtain ⟨call, hcall, reply, entry, copy, hanswer, hknows, hcopy, hleads⟩ := h kind hkind v hv
  obtain ⟨item, hitem, hsends⟩ := hleads.sends
  have hgiven := ItemKind.given_of_mem_offered hitem
  rw [← hgiven] at hitem hsends
  exact ⟨call, hcall, reply, entry, item, hitem, copy, hanswer, hknows, hcopy, hsends⟩

/-- An item is put to one provider, the one behind its token. -/
lemma Language.start_completes {π : Type} {l : Language π} (hl : l.Sound) {query : Query}
    {kind : ItemKind} (hkind : query.completes? = some kind) {question : Question}
    {origin : Option Token} {asked : List (Asked π)}
    (hstart : l.start query = .ask question origin asked) :
    ∃ token entry, origin = some token ∧ token.providerId = entry.id ∧
      asked = [⟨entry.id, entry.provider⟩] ∧
      l.Knows kind.feature ⟨entry.id, entry.provider⟩ entry := by
  obtain ⟨sent, question', hquery⟩ := Query.completes_cases hkind
  rw [(hquery l).1] at hstart
  rcases l.startItem_cases (kind.binder l) sent question' (encode sent) with
    heq | ⟨entry, token, original, hget, heq⟩
  · rw [heq] at hstart
    cases hstart
  · rw [heq] at hstart
    cases hstart
    rw [hl.feature_eq kind] at hget
    obtain ⟨hmem, hid⟩ := Registry.mem_of_get? hget
    exact ⟨token, entry, rfl, hid.symm, rfl, rfl, (hl.ordered kind.feature).given hmem⟩

/-- What the provider makes of it is bound again. -/
lemma Language.finish_completes {π : Type} (l : Language π) {query : Query} {kind : ItemKind}
    (hkind : query.completes? = some kind) (token : Token) (provider : ProviderId) {reply : Reply}
    {item : kind.Item} (hitem : kind.completed? reply = some item) :
    (l.finish query (some token) [(provider, reply)]).1 =
        encode ((kind.binder l).rebind token item).1 ∧
      kind.binder (l.finish query (some token) [(provider, reply)]).2 =
        ((kind.binder l).rebind token item).2 := by
  obtain ⟨sent, question, hquery⟩ := Query.completes_cases hkind
  have hfirst : first? kind.completed? [(provider, reply)] = some item := by
    simp [first?, select, hitem]
  obtain ⟨hresponse, hbinder⟩ := (hquery l).2 (some token) [(provider, reply)]
  rw [hresponse, hbinder, hfirst]
  exact ⟨rfl, rfl⟩

/-- What a provider made of an item stands for it on the wire. -/
lemma Exchange.carries_completed {π : Type} {l m : Language π} (hl : l.Sound)
    (hfollows : l.Follows m) {query : Query} {kind : ItemKind}
    (hkind : query.completes? = some kind) {question : Question} {origin : Option Token}
    {i : Inquiry π} (hstart : l.start query = .ask question origin i.asked) {call : Call π}
    (hcall : call ∈ i.calls) {reply : Reply} (hanswer : call.answer = some (some reply))
    (hcompleted : (kind.completed? reply).isSome) :
    Carries (m.finish query origin i.results).2
      ⟨query, i.calls, (m.finish query origin i.results).1⟩ kind
      (m.finish query origin i.results).1 := by
  obtain ⟨item, hitem⟩ := Option.isSome_iff_exists.mp hcompleted
  obtain ⟨token, entry, rfl, hid, hasked, hknows⟩ := Language.start_completes hl hkind hstart
  obtain ⟨only, hcalls, honly⟩ := List.map_eq_singleton_iff.mp hasked
  rw [hcalls] at hcall
  obtain rfl := List.mem_singleton.mp hcall
  have hresults : i.results = [(entry.id, reply)] := by
    simp [Inquiry.results, hcalls, hanswer, honly]
  have hknows' : (m.finish query (some token) i.results).2.Knows kind.feature call.asked entry := by
    rw [honly]
    exact hknows.follows hl (hfollows.trans (m.finish_follows query (some token) i.results))
  obtain ⟨hresponse, hbinder⟩ := m.finish_completes hkind token entry.id hitem
  refine ⟨call, hcalls ▸ hcall, reply, entry, item, ?_, ((kind.binder m).rebind token item).1,
    hanswer, hknows', ?_, ?_⟩
  · rw [ItemKind.given_of_completed? hitem]
    exact List.mem_singleton_self _
  · rw [hresults]
    exact hresponse
  · rw [ItemKind.given_of_completed? hitem, hresults, hbinder, ← hid]
    exact Binder.rebind_sends ((hfollows.sound hl).ready kind) token item

namespace LanguageHistory

variable {π : Type} {settings : Settings} {h : LanguageHistory π}

/-- A query under way was so before with the same providers, or is put to them now. -/
lemma openQueries_step {action : LanguageAction π} {q : OpenQuery π}
    (hq : q ∈ (h.step action).openQueries) :
    (∃ old ∈ h.openQueries, old.query = q.query ∧ old.origin = q.origin ∧
      old.inquiry.asked = q.inquiry.asked) ∨
    ∃ question, h.language.start q.query = .ask question q.origin q.inquiry.asked := by
  cases action with
  | ask query atOnce =>
      rw [step, LanguageHistory.ask] at hq
      split at hq
      · exact .inl ⟨q, hq, rfl, rfl, rfl⟩
      · exact .inl ⟨q, hq, rfl, rfl, rfl⟩
      · exact .inl ⟨q, hq, rfl, rfl, rfl⟩
      · rename_i question origin asked hstart
        rcases List.mem_append.mp hq with hold | hnew
        · exact .inl ⟨q, hold, rfl, rfl, rfl⟩
        · rw [List.mem_singleton.mp hnew]
          exact .inr ⟨question, by rw [Inquiry.asked_start]; exact hstart⟩
  | answer call reply =>
      obtain ⟨old, hold, rfl⟩ := List.mem_map.mp hq
      exact .inl ⟨old, hold, rfl, rfl, (old.inquiry.asked_answer call reply).symm⟩
  | finish number =>
      rw [step] at hq
      rcases h.finish_cases number with heq | ⟨_, -, heq⟩
      · rw [heq] at hq
        exact .inl ⟨q, hq, rfl, rfl, rfl⟩
      · rw [heq] at hq
        exact .inl ⟨q, List.mem_of_mem_filter hq, rfl, rfl, rfl⟩
  | abandon number => exact .inl ⟨q, List.mem_of_mem_filter hq, rfl, rfl, rfl⟩
  | _ => exact .inl ⟨q, hq, rfl, rfl, rfl⟩

/-- Each query under way was put to its providers at some time of the run. -/
lemma exists_start {actions : List (LanguageAction π)} {q : OpenQuery π}
    (hq : q ∈ (run settings actions).openQueries) :
    ∃ earlier, earlier <+: actions ∧ ∃ question,
      (run settings earlier).language.start q.query =
        .ask question q.origin q.inquiry.asked := by
  induction actions using List.reverseRecOn generalizing q with
  | nil => exact (List.not_mem_nil hq).elim
  | append_singleton actions action ih =>
      rw [run_append] at hq
      rcases openQueries_step hq with ⟨old, hold, hquery, horigin, hasked⟩ | ⟨question, hstart⟩
      · obtain ⟨earlier, hearlier, hstart⟩ := ih hold
        rw [hquery, horigin, hasked] at hstart
        exact ⟨earlier, hearlier.trans (List.prefix_append _ _), hstart⟩
      · exact ⟨actions, List.prefix_append _ _, question, hstart⟩

/-- A response that is new was found at once, or made of what providers replied. -/
lemma exchanges_step {action : LanguageAction π} {e : Exchange π}
    (he : e ∈ (h.step action).exchanges) :
    e ∈ h.exchanges ∨ e.calls = [] ∨ ∃ q ∈ h.openQueries,
      (h.step action).language = (h.language.finish q.query q.origin q.inquiry.results).2 ∧
      e = ⟨q.query, q.inquiry.calls,
        (h.language.finish q.query q.origin q.inquiry.results).1⟩ := by
  cases action with
  | ask query atOnce =>
      rw [step, LanguageHistory.ask] at he
      split at he
      · exact .inl he
      · exact .inl he
      · refine (List.mem_append.mp he).imp_right fun hnew => .inl ?_
        rw [List.mem_singleton.mp hnew]
      · exact .inl he
  | finish number =>
      rw [step] at he ⊢
      rcases h.finish_cases number with heq | ⟨q, hq, heq⟩
      · rw [heq] at he
        exact .inl he
      · rw [heq] at he ⊢
        refine (List.mem_append.mp he).imp_right fun hnew => .inr ⟨q, hq, rfl, ?_⟩
        exact List.mem_singleton.mp hnew
  | _ => exact .inl he

/-- **Items of both phases stand for what providers replied** at the time when they were bound. -/
lemma exists_carries {actions : List (LanguageAction π)} {e : Exchange π}
    (he : e ∈ (run settings actions).exchanges) {kind : ItemKind} {v : Json}
    (hv : e.Binds kind v) :
    ∃ earlier, earlier <+: actions ∧ e.Carries (run settings earlier).language kind v := by
  rcases hv with ⟨hkind, hv⟩ | ⟨hkind, rfl, call, hcall, reply, hanswer, hcompleted⟩
  · obtain ⟨earlier, hearlier, htraced⟩ := exists_traced he
    exact ⟨earlier, hearlier, htraced.carries hkind hv⟩
  · induction actions using List.reverseRecOn with
    | nil => exact (List.not_mem_nil he).elim
    | append_singleton actions action ih =>
        rw [run_append] at he
        rcases exchanges_step he with hold | hnone | ⟨q, hq, hlanguage, rfl⟩
        · obtain ⟨earlier, hearlier, hcarries⟩ := ih hold
          exact ⟨earlier, hearlier.trans (List.prefix_append _ _), hcarries⟩
        · rw [hnone] at hcall
          cases hcall
        · refine ⟨actions ++ [action], List.prefix_rfl, ?_⟩
          rw [run_append, hlanguage]
          obtain ⟨earlier, ⟨between, rfl⟩, question, hstart⟩ := exists_start hq
          exact Exchange.carries_completed (consistent_run settings earlier).sound
            (run_follows settings earlier between) hkind hstart hcall hanswer hcompleted

/-- What becomes of the command of an item that a provider gave among others, in a run that has
bound it for the client. -/
structure CommandSurvives (settings : Settings) (actions : List (LanguageAction π))
    (kind : ItemKind) (asked : Asked π) (items : List kind.Item) (item copy : kind.Item) :
    Prop where
  /-- No state is left to be lost. -/
  stateless : ∀ c, Bindable.command? copy = some c → c.state = none
  /-- A command without state stays as it is, as does an item without a command. -/
  same : (∀ c, Bindable.command? item = some c → c.state = none) →
    Bindable.command? copy = Bindable.command? item
  /-- A command with state is replaced by one that runs as it does, from then on, while the batch of
  the item is cached and its provider registered. Otherwise nobody is asked and the result is
  `null`. -/
  recovered : ∀ c, Bindable.command? item = some c → c.state ≠ none →
    ∃ (standIn : Command) (entry : Entry π Metadata) (id : CacheId) (query : Query),
      Bindable.command? copy = some standIn ∧ standIn.title = c.title ∧
      standIn.command = cachedCommandId ∧ asked = ⟨entry.id, entry.provider⟩ ∧
      (∃ earlier, earlier <+: actions ∧
        (kind.binder (run settings earlier).language).cache.get? id = some items) ∧
      (encode copy).commandQuery? = some query ∧
      ∀ later,
        let l := (run settings (actions ++ later)).language
        (kind.binder l).cache.numbering.Given id items ∧
        (l.providers.registry kind.feature).numbering.Given entry.id entry ∧
        l.start query =
          if (kind.binder l).cache.contains id ∧
              ((l.providers.registry kind.feature).get? entry.id).isSome then
            l.startHandler c
          else .done (.ok .null)

/-- An item that keeps its command keeps it for good. -/
lemma commandSurvives_withData {actions : List (LanguageAction π)} {kind : ItemKind}
    {asked : Asked π} {items : List kind.Item} {item : kind.Item}
    (hsafe : ∀ c, Bindable.command? item = some c → c.state = none) (v : Json) :
    CommandSurvives settings actions kind asked items item (Bindable.withData item v) where
  stateless c hc := hsafe c (by rwa [ItemKind.command?_withData] at hc)
  same _ := ItemKind.command?_withData item v
  recovered c hc hstate := absurd (hsafe c hc) hstate

/-- A copy that leads to the batch of its original leads to its command. -/
lemma commandSurvives_toWire {earlier between : List (LanguageAction π)} {kind : ItemKind}
    (hkind : kind ≠ .callItem) {items : List kind.Item} {item : kind.Item} {index : Nat}
    {id : CacheId} {entry : Entry π Metadata}
    (hstores : (kind.binder (run settings (earlier ++ between)).language).cache.nextId ≤ 2 ^ 64)
    (hproviders : ((run settings (earlier ++ between)).language.providers.registry
      kind.feature).nextId ≤ 2 ^ 64)
    (hlength : items.length ≤ 2 ^ 64) (hitem : items[index]? = some item)
    (hget : (kind.binder (run settings earlier).language).cache.get? id = some items)
    (hentry : ((run settings earlier).language.providers.registry kind.feature).numbering.Given
      entry.id entry) :
    CommandSurvives settings (earlier ++ between) kind ⟨entry.id, entry.provider⟩ items item
      (Binder.toWire kind.feature ⟨entry.id, index, id⟩ item) := by
  have hcopy := ItemKind.command?_toWire hkind kind.feature ⟨entry.id, index, id⟩ item
  refine ⟨fun w hw => ?_, fun hsafe => ?_, fun c hc hstate => ?_⟩
  · rw [hcopy] at hw
    obtain ⟨c, -, rfl⟩ := Option.map_eq_some_iff.mp hw
    split
    · rename_i hsafe
      exact Command.isWireSafe_iff.mp hsafe
    · rfl
  · rw [hcopy]
    cases hc : Bindable.command? item with
    | none => rfl
    | some c => rw [Option.map_some, if_pos (Command.isWireSafe_iff.mpr (hsafe c hc))]
  · rw [hc, Option.map_some, if_neg (mt Command.isWireSafe_iff.mp hstate)] at hcopy
    -- the numbers of the token were given before the item was bound, and so they fit
    have hread : Reads (Token.mk entry.id index id) ⟨entry.id, index, id⟩ :=
      reads_token (lt_of_lt_of_le (given_provider hentry between).lt_next hproviders)
        (lt_of_lt_of_le (List.getElem?_eq_some_iff.mp hitem).1 hlength)
        (lt_of_lt_of_le (given_batch hget between).lt_next hstores)
    refine ⟨_, entry, id, _, hcopy, rfl, rfl, rfl, ⟨earlier, List.prefix_append _ _, hget⟩,
      commandQuery?_encode hcopy, fun later => ?_⟩
    rw [List.append_assoc]
    have hbatch := given_batch hget (between ++ later)
    have hregistered := given_provider hentry (between ++ later)
    exact ⟨hbatch, hregistered, Language.start_standIn hkind (consistent_run settings _).sound
      hread hbatch hitem hregistered hc⟩

/-- **Commands with state survive the wire**: take an item in a reply for completions, code actions
or code lenses, in the first phase or the second, that was bound for the client in any run. Its
command survives as `CommandSurvives` says. And whatever arguments a client makes up for a command
that stands for another one, at any time, a cached command is handed to its handler, or nobody is
asked and there is no error. Numbers must fit 64 bits. -/
theorem commands_survive_wire (settings : Settings) (actions : List (LanguageAction π)) :
    (∀ e ∈ (run settings actions).exchanges, ∀ kind ≠ ItemKind.callItem,
      (kind.binder (run settings actions).language).cache.nextId ≤ 2 ^ 64 →
      ((run settings actions).language.providers.registry kind.feature).nextId ≤ 2 ^ 64 →
      (∀ call ∈ e.calls, ∀ reply, call.answer = some (some reply) →
        (kind.given reply).length ≤ 2 ^ 64) →
      ∀ v, e.Binds kind v →
        ∃ call ∈ e.calls, ∃ reply, ∃ item ∈ kind.given reply, ∃ copy : kind.Item,
          call.answer = some (some reply) ∧ v = encode copy ∧
          CommandSurvives settings actions kind call.asked (kind.given reply) item copy) ∧
    ∀ command : Command, command.command = cachedCommandId →
      let l := (run settings actions).language
      l.start (.execute command) = .done (.ok .null) ∨
      ∃ kind ≠ ItemKind.callItem, ∃ token c, l.CachedAt kind token c ∧
        l.start (.execute command) = l.startHandler c := by
  refine ⟨fun e he kind hkind hstores hproviders hreplies v hv => ?_, fun command hcommand =>
    Language.startCommand_cases (consistent_run settings actions).sound hcommand⟩
  obtain ⟨earlier, ⟨between, rfl⟩, call, hcall, reply, entry, item, hitem, copy, hanswer,
    ⟨hasked, hentry⟩, rfl, hsends⟩ := exists_carries he hv
  refine ⟨call, hcall, reply, item, hitem, copy, hanswer, rfl, ?_⟩
  rcases hsends with ⟨hsafe, data, rfl⟩ | ⟨index, id, hindex, rfl, hget⟩
  · exact commandSurvives_withData hsafe data
  · rw [(consistent_run settings earlier).sound.feature_eq kind, hasked]
    exact commandSurvives_toWire hkind hstores hproviders (hreplies call hcall reply hanswer)
      hindex hget hentry

/-- The lens of `lensRun` as the client may send it back. -/
def returnedLens : CodeLens := { range := default, data := some (encode (Token.mk 1 0 1)) }

/-- The lens is sent back, its provider completes it, and its command has a handler. -/
def completedRun : List (LanguageAction Unit) :=
  lensRun ++ [.registerCommand "run" (), .ask (.resolveLens returnedLens) fun _ _ => none,
    .answer 1 (some (.lens sampleLens)), .finish 1]

/-- The second exchange of that run. -/
def completedExchange : Exchange Unit :=
  ⟨.resolveLens returnedLens, [⟨1, ⟨1, ()⟩, some (some (.lens sampleLens))⟩],
    encode (Binder.toWire .codeLens ⟨1, 0, 2⟩ sampleLens)⟩

/-- The command of the completed lens is handed to its handler with its state, but no longer when
the provider or the document is gone. -/
theorem commands_survive_wire_completedRun :
    ∃ query, (encode (Binder.toWire .codeLens ⟨1, 0, 2⟩ sampleLens)).commandQuery? = some query ∧
      (run {} completedRun).language.start query =
        .ask (.execute { title := "Run", command := "run", state := some ⟨0, 7⟩ }) none [⟨0, ()⟩] ∧
      (run {} (completedRun ++ [.unregister .codeLens 1])).language.start query =
        .done (.ok .null) ∧
      (run {} (completedRun ++ [.closeDocument sampleDocument.uri])).language.start query =
        .done (.ok .null) := by
  have hexchange : completedExchange ∈ (run {} completedRun).exchanges :=
    List.mem_of_getElem? (rfl : _[1]? = _)
  have hbinds : completedExchange.Binds .lens completedExchange.response :=
    .inr ⟨rfl, rfl, _, List.mem_singleton_self _, _, rfl, rfl⟩
  obtain ⟨call, hcall, reply, item, hitem, copy, hanswer, hcopy, hsurvives⟩ :=
    (commands_survive_wire {} completedRun).1 _ hexchange .lens nofun
      (Nat.le_of_ble_eq_true rfl) (Nat.le_of_ble_eq_true rfl)
      (fun call hcall reply hreply => by
        rw [List.mem_singleton.mp hcall] at hreply
        cases hreply
        exact Nat.le_of_ble_eq_true rfl)
      _ hbinds
  rw [List.mem_singleton.mp hcall] at hanswer hsurvives
  cases hanswer
  rw [List.mem_singleton.mp hitem] at hsurvives
  obtain ⟨_, entry, id, query, -, -, -, hasked, ⟨earlier, -, hget⟩, hquery, hstart⟩ :=
    hsurvives.recovered _ rfl nofun
  rw [← hcopy] at hquery
  have hprovider : 1 = entry.id := congrArg Asked.provider hasked
  -- the copy leads to the first batch of the run or to the second
  have hid : id = 1 ∨ id = 2 := by
    have hlt : id < 3 := (hstart []).1.lt_next
    have hpos := ((consistent_run {} earlier).sound.ready .lens).regular.swept_lt _
      (Cache.mem_of_get? hget)
    rcases Nat.lt_succ_iff_lt_or_eq.mp hlt with hone | htwo
    · exact .inl (le_antisymm (Nat.le_of_lt_succ hone) (Nat.zero_lt_of_lt hpos))
    · exact .inr htwo
  refine ⟨query, hquery, ?_, ?_, ?_⟩
  · refine (hstart []).2.2.trans ?_
    rw [← hprovider]
    rcases hid with rfl | rfl <;> rfl
  · refine (hstart [.unregister .codeLens 1]).2.2.trans ?_
    rw [← hprovider]
    rcases hid with rfl | rfl <;> rfl
  · refine (hstart [.closeDocument sampleDocument.uri]).2.2.trans ?_
    rw [← hprovider]
    rcases hid with rfl | rfl <;> rfl

end LanguageHistory

end ProviderHub
