import Mathlib.Tactic
import ProviderHub.Proofs.Session.Bindings
import ProviderHub.Proofs.Session.Openings
import ProviderHub.Proofs.Watch.Roots

/-!
What happens before the gates are open, and after.

* `Gateway.Orderly`: whoever waits at a gate passes with the value of its first opening, and nobody
  passes before;
* `Startup.Later`: a gate that is open keeps its value;
* `Session.features_step_of_closed`: the registration of features waits for the gates;
* `Session.ready_of_cached`: nothing is cached while the gates are closed;
* `Session.gates_before_providers`: no provider is asked before the gates are open, in the first
  phase or in the second.
-/

namespace ProviderHub

/-! ### One gate -/

/-- What can happen at a gate. -/
inductive GateAction (α ω : Type) where
  | wait (who : ω)
  | openWith (value : α)
  | look (index : Nat)

namespace GateAction

variable {α ω : Type}

/-- Who comes to wait. -/
def waiter? : GateAction α ω → Option ω
  | .wait who => some who
  | _ => none

/-- The value that the gate is to be opened with. -/
def value? : GateAction α ω → Option α
  | .openWith value => some value
  | _ => none

end GateAction

namespace Gateway

variable {α ω : Type} {g : Gateway α ω}

/-- What happens by an action. -/
def step (g : Gateway α ω) : GateAction α ω → Gateway α ω
  | .wait who => g.wait who
  | .openWith value => (g.openWith value).2
  | .look index => g.look index

/-- What happens by a run of actions, at a gate where nobody waits. -/
def run (actions : List (GateAction α ω)) : Gateway α ω := actions.foldl step {}

/-- All who have come, wherever they are now. -/
def everyone (g : Gateway α ω) : List ω := g.parked ++ g.called ++ g.passed.map Prod.fst

/-- Whoever has passed has the value of the gate, and whoever is still there will be called or has
been. -/
structure Orderly (g : Gateway α ω) : Prop where
  passed : ∀ who value, (who, value) ∈ g.passed → g.gate.value = some value
  parked : g.gate.isOpen = true → g.parked = []

/-- Someone looks, or nobody is left to. -/
lemma look_cases (g : Gateway α ω) (index : Nat) :
    g.look index = g ∨
    ∃ who, g.called[index]? = some who ∧
      ((∃ value, g.gate.value = some value ∧
          g.look index = { g with
            called := g.called.eraseIdx index
            passed := g.passed ++ [(who, value)] }) ∨
        g.gate.value = none ∧
          g.look index = { g with
            called := g.called.eraseIdx index
            parked := g.parked ++ [who] }) := by
  rw [look]
  split
  · exact .inl rfl
  · rename_i who hwho
    refine .inr ⟨who, hwho, ?_⟩
    dsimp only
    split
    · rename_i value hvalue
      exact .inl ⟨value, hvalue, rfl⟩
    · rename_i hclosed
      exact .inr ⟨hclosed, rfl⟩

/-- The gate is opened, or has been open. -/
lemma openWith_cases (g : Gateway α ω) (value : α) :
    (g.gate.value = none ∧ (g.openWith value).2 =
      { g with gate := ⟨some value⟩, parked := [], called := g.called ++ g.parked }) ∨
    g.gate.value ≠ none ∧ (g.openWith value).2 = g := by
  rw [openWith, Gate.openWith]
  cases hvalue : g.gate.value with
  | none => exact .inl ⟨rfl, rfl⟩
  | some _ => exact .inr ⟨nofun, rfl⟩

lemma orderly_step (hg : g.Orderly) (action : GateAction α ω) : (g.step action).Orderly := by
  cases action with
  | wait who => exact ⟨hg.passed, hg.parked⟩
  | openWith value =>
      rw [step]
      rcases g.openWith_cases value with ⟨hclosed, heq⟩ | ⟨-, heq⟩ <;> rw [heq]
      · refine ⟨fun who v hmem => ?_, fun _ => rfl⟩
        rw [hg.passed who v hmem] at hclosed
        cases hclosed
      · exact hg
  | look index =>
      rw [step]
      rcases g.look_cases index with heq | ⟨who, -, ⟨value, hvalue, heq⟩ | ⟨hclosed, heq⟩⟩ <;>
        rw [heq]
      · exact hg
      · refine ⟨fun other v hmem => ?_, hg.parked⟩
        rcases List.mem_append.mp hmem with hold | hnew
        · exact hg.passed other v hold
        · cases List.mem_singleton.mp hnew
          exact hvalue
      · refine ⟨hg.passed, fun hopen => ?_⟩
        rw [Gate.isOpen, hclosed] at hopen
        cases hopen

/-- Nobody gets lost. -/
lemma everyone_step (g : Gateway α ω) (action : GateAction α ω) :
    (g.step action).everyone.Perm (g.everyone ++ action.waiter?.toList) := by
  have hcalled {index : Nat} {who : ω} (hwho : g.called[index]? = some who) :
      (g.called : Multiset ω) = (g.called.eraseIdx index : Multiset ω) + {who} := by
    obtain ⟨hlt, rfl⟩ := List.getElem?_eq_some_iff.mp hwho
    rw [add_comm, Multiset.singleton_add, Multiset.cons_coe, Multiset.coe_eq_coe]
    exact (List.getElem_cons_eraseIdx_perm hlt).symm
  rw [← Multiset.coe_eq_coe]
  cases action with
  | wait who =>
      simp only [step, wait, everyone, GateAction.waiter?, Option.toList_some, ← Multiset.coe_add]
      abel
  | openWith value =>
      rw [step]
      rcases g.openWith_cases value with ⟨-, heq⟩ | ⟨-, heq⟩ <;> rw [heq]
      · simp only [everyone, GateAction.waiter?, Option.toList_none, ← Multiset.coe_add,
          Multiset.coe_nil]
        abel
      · exact congrArg _ (List.append_nil _).symm
  | look index =>
      rw [step]
      rcases g.look_cases index with heq | ⟨who, hwho, ⟨value, -, heq⟩ | ⟨-, heq⟩⟩ <;> rw [heq]
      · exact congrArg _ (List.append_nil _).symm
      · simp only [everyone, GateAction.waiter?, Option.toList_none, ← Multiset.coe_add,
          Multiset.coe_nil, List.map_append, List.map_singleton, hcalled hwho,
          Multiset.coe_singleton]
        abel
      · simp only [everyone, GateAction.waiter?, Option.toList_none, ← Multiset.coe_add,
          Multiset.coe_nil, hcalled hwho, Multiset.coe_singleton]
        abel

/-- The first opening counts. -/
lemma value_step (g : Gateway α ω) (action : GateAction α ω) :
    (g.step action).gate.value = g.gate.value.or action.value? := by
  cases action with
  | wait who => exact Option.or_none.symm
  | openWith value =>
      rw [step]
      rcases g.openWith_cases value with ⟨hclosed, heq⟩ | ⟨hopen, heq⟩ <;> rw [heq]
      · rw [hclosed]
        rfl
      · obtain ⟨first, hfirst⟩ := Option.ne_none_iff_exists'.mp hopen
        rw [hfirst]
        rfl
  | look index =>
      rw [step]
      rcases g.look_cases index with heq | ⟨who, -, ⟨value, -, heq⟩ | ⟨-, heq⟩⟩ <;>
        rw [heq] <;> exact Option.or_none.symm

lemma run_append (actions : List (GateAction α ω)) (action : GateAction α ω) :
    run (actions ++ [action]) = (run actions).step action := by
  rw [run, List.foldl_append]
  rfl

lemma orderly_run (actions : List (GateAction α ω)) : (run actions).Orderly := by
  induction actions using List.reverseRecOn with
  | nil => exact ⟨fun _ _ hmem => (List.not_mem_nil hmem).elim, fun _ => rfl⟩
  | append_singleton actions action ih =>
      rw [run_append]
      exact orderly_step ih action

lemma everyone_run (actions : List (GateAction α ω)) :
    (run actions).everyone.Perm (actions.filterMap GateAction.waiter?) := by
  induction actions using List.reverseRecOn with
  | nil => exact .refl _
  | append_singleton actions action ih =>
      rw [run_append, List.filterMap_append]
      refine (everyone_step _ action).trans (ih.append ?_)
      cases action <;> exact .refl _

lemma value_run (actions : List (GateAction α ω)) :
    (run actions).gate.value = (actions.filterMap GateAction.value?).head? := by
  induction actions using List.reverseRecOn with
  | nil => rfl
  | append_singleton actions action ih =>
      rw [run_append, value_step, ih, List.filterMap_append, List.head?_append]
      cases action <;> rfl

/-- When the gate is open, all who are about to look pass. -/
lemma settle_eq {value : α} (hvalue : g.gate.value = some value) :
    g.settle = { g with called := [], passed := g.passed ++ g.called.map (·, value) } := by
  obtain ⟨gate, parked, called, passed⟩ := g
  rw [settle]
  dsimp only at hvalue ⊢
  induction called generalizing passed with
  | nil => simp
  | cons who called ih =>
      have hlook : look ⟨gate, parked, who :: called, passed⟩ 0 =
          ⟨gate, parked, called, passed ++ [(who, value)]⟩ := by
        simp [look, hvalue]
      rw [List.foldl_cons, hlook, ih, List.append_assoc]
      rfl

/-- Everyone who has come passes with the value of the gate once it is open. -/
lemma Orderly.settle_passed (hg : g.Orderly) {value : α} (hvalue : g.gate.value = some value) :
    g.settle.passed.Perm (g.everyone.map (·, value)) := by
  have hparked : g.parked = [] := hg.parked (by rw [Gate.isOpen, hvalue, Option.isSome_some])
  have hpassed : g.passed = (g.passed.map Prod.fst).map (·, value) := by
    rw [List.map_map]
    refine (List.map_id' _).symm.trans (List.map_congr_left fun entry hentry => ?_)
    have hentry' := hg.passed entry.1 entry.2 hentry
    rw [hvalue] at hentry'
    exact Prod.ext rfl (Option.some_inj.mp hentry').symm
  rw [settle_eq hvalue, everyone, hparked, List.nil_append, List.map_append, ← hpassed]
  exact List.perm_append_comm

end Gateway

/-! ### The gates of a session -/

namespace Startup

variable {s s' : Startup}

/-- A gate that is open keeps its value. -/
def Later (s s' : Startup) : Prop :=
  ∀ gate value, s.value? gate = some value → s'.value? gate = some value

lemma isReady_iff :
    s.isReady = true ↔ ∃ v w, s.value? .initialized = some v ∧ s.value? .registered = some w := by
  obtain ⟨⟨initialized⟩, -, ⟨registered⟩⟩ := s
  cases initialized <;> cases registered <;> simp [isReady, value?, Gate.isOpen]

lemma Later.isReady (h : s.Later s') (hready : s.isReady = true) : s'.isReady = true := by
  obtain ⟨v, w, hv, hw⟩ := isReady_iff.mp hready
  exact isReady_iff.mpr ⟨v, w, h _ v hv, h _ w hw⟩

end Startup

namespace Session

variable {π : Type} {s s' : Session π} {settings : Settings} {actions : List (SessionAction π)}

lemma step_later (s : Session π) (action : SessionAction π) :
    s.language.startup.Later (s.step action).language.startup := by
  intro gate value hvalue
  rw [value?_step, hvalue]
  rfl

/-- A gate that is open keeps its value for good. -/
lemma run_later {earlier : List (SessionAction π)} (hearlier : earlier <+: actions) :
    (run settings earlier).language.startup.Later (run settings actions).language.startup := by
  obtain ⟨later, rfl⟩ := hearlier
  intro gate value hvalue
  rw [run, List.foldl_append, ← run, value?_foldl_step, hvalue]
  rfl

/-- The registration of features waits as long as a gate is closed, and may only be stopped. -/
lemma features_step_of_closed (s : Session π) (action : SessionAction π)
    (hwaiting : s.features = .waiting) (hclosed : s.language.startup.isReady = false) :
    (s.step action).features = .waiting ∨ (s.step action).features = .stopped := by
  rcases (s.step_unlocks action).features with heq | heq | heq | ⟨-, -, hready⟩
  · exact .inl (heq.trans hwaiting)
  · exact .inl heq
  · exact .inr heq
  · cases hclosed.symm.trans hready

/-- It goes on only from waiting, and when the gates are open. -/
lemma ready_of_requested {s : Session π} {action : SessionAction π}
    (hrequested : (s.step action).features = .requested) (hnew : s.features ≠ .requested) :
    s.features = .waiting ∧ s.language.startup.isReady = true := by
  rcases (s.step_unlocks action).features with heq | heq | heq | ⟨-, hwaiting⟩
  · exact absurd (heq.symm.trans hrequested) hnew
  · cases heq.symm.trans hrequested
  · cases heq.symm.trans hrequested
  · exact hwaiting

end Session

/-! ### Nothing is cached before -/

/-- Whether a question goes to a provider of a feature, and not to the handler of a command. -/
def Question.isForProvider : Question → Bool
  | .execute _ => false
  | _ => true

namespace Language

variable {π : Type} {l : Language π}

/-- An item is asked about only if there is something in the cache. -/
lemma cached_of_startItem {α : Type} [Bindable α] {b : Binder α} {item : α}
    {question : α → Question} {otherwise : Json} {asking : Question} {origin : Option Token}
    {asked : List (Asked π)}
    (hstart : l.startItem b item question otherwise = .ask asking origin asked) :
    b.cache.entries ≠ [] ∧ ∃ original, asking = question original := by
  rw [startItem] at hstart
  split at hstart
  · rename_i found hfound
    cases hstart
    obtain ⟨token, -, hresolve⟩ := Option.bind_eq_some_iff.mp hfound
    obtain ⟨batch, hget, -⟩ := Option.bind_eq_some_iff.mp hresolve
    exact ⟨List.ne_nil_of_mem (Cache.mem_of_get? hget), found.item, rfl⟩
  · cases hstart

lemma startHandler_ask {command : Command} {question : Question} {origin : Option Token}
    {asked : List (Asked π)} (hstart : l.startHandler command = .ask question origin asked) :
    question.isForProvider = false := by
  rw [startHandler] at hstart
  split at hstart
  · cases hstart
    rfl
  · cases hstart

/-- Who is asked: a command's handler, or a provider, and this only if the gates are open or about
an item that is cached. -/
lemma start_ask_cases {query : Query} {question : Question} {origin : Option Token}
    {asked : List (Asked π)} (hstart : l.start query = .ask question origin asked) :
    ((∃ command, query = .execute command) ∧ question.isForProvider = false) ∨
    question.isForProvider = true ∧
      (l.startup.isReady = true ∨ ∃ kind : ItemKind, (kind.binder l).cache.entries ≠ []) := by
  cases query with
  | document uri query =>
      rw [start, startDocument] at hstart
      split at hstart
      · cases hstart
      · rename_i hready
        split at hstart
        · cases hstart
        · split at hstart <;> cases hstart
          exact .inr ⟨rfl, .inl (by simpa using hready)⟩
  | resolveCompletion item =>
      obtain ⟨hcached, original, rfl⟩ := cached_of_startItem hstart
      exact .inr ⟨rfl, .inr ⟨.completion, hcached⟩⟩
  | resolveAction action =>
      obtain ⟨hcached, original, rfl⟩ := cached_of_startItem hstart
      exact .inr ⟨rfl, .inr ⟨.action, hcached⟩⟩
  | resolveLens lens =>
      obtain ⟨hcached, original, rfl⟩ := cached_of_startItem hstart
      exact .inr ⟨rfl, .inr ⟨.lens, hcached⟩⟩
  | incomingCalls item =>
      obtain ⟨hcached, original, rfl⟩ := cached_of_startItem hstart
      exact .inr ⟨rfl, .inr ⟨.callItem, hcached⟩⟩
  | outgoingCalls item =>
      obtain ⟨hcached, original, rfl⟩ := cached_of_startItem hstart
      exact .inr ⟨rfl, .inr ⟨.callItem, hcached⟩⟩
  | execute command =>
      refine .inl ⟨⟨command, rfl⟩, ?_⟩
      rw [start, startCommand] at hstart
      split at hstart
      · split at hstart
        · exact startHandler_ask hstart
        · cases hstart
      · exact startHandler_ask hstart

end Language

namespace Session

variable {π : Type} {s s' : Session π}

lemma Plain.cached (h : s.Plain s') (kind : ItemKind) :
    (kind.binder s'.language).cache.entries ⊆ (kind.binder s.language).cache.entries := by
  refine h.language_induction (P := fun l =>
    (kind.binder l).cache.entries ⊆ (kind.binder s.language).cache.entries)
    (List.Subset.refl _) ?_
  exact fun l action hl => List.Subset.trans (l.entries_after action kind) hl

/-- **Nothing is cached while the gates are closed.** Whatever is cached was made from the answers
of providers, and they were asked when the gates were open, or about something that was cached
before. -/
lemma ready_of_cached (settings : Settings) (actions : List (SessionAction π)) :
    ∀ earlier, earlier <+: actions → ∀ kind : ItemKind,
      (kind.binder (run settings earlier).language).cache.entries ≠ [] →
        (run settings earlier).language.startup.isReady = true := by
  induction actions using List.reverseRecOn with
  | nil =>
      intro earlier hearlier kind hcached
      rw [List.prefix_nil.mp hearlier] at hcached
      cases kind <;> exact absurd rfl hcached
  | append_singleton actions action ih =>
      intro earlier hearlier kind hcached
      rcases List.prefix_concat_iff.mp hearlier with rfl | hearlier
      swap
      · exact ih earlier hearlier kind hcached
      rw [run_append] at hcached ⊢
      have hlater := step_later (run settings actions) action
      have hold (h : (kind.binder (run settings actions).language).cache.entries ≠ []) :=
        hlater.isReady (ih actions List.prefix_rfl kind h)
      rcases (run settings actions).step_cases action with
        ⟨-, hplain | hbrings⟩ | ⟨t, -, ⟨host, jobs, -, hpursues⟩, ht⟩
      · refine hold fun hnil => hcached (List.eq_nil_of_subset_nil ?_)
        exact hnil ▸ hplain.cached kind
      · rw [hbrings.language_eq] at hcached
        exact hold hcached
      · rcases hpursues.language_cases with heq | ⟨query, origin, inquiry, s', hconsults, -, heq⟩
        · rw [heq] at hcached
          exact hold hcached
        · obtain ⟨before, hbefore, hstart, -⟩ := hconsults.put (run_put settings actions t ht)
          rcases Language.start_ask_cases hstart with
            ⟨⟨command, rfl⟩, -⟩ | ⟨-, hready | ⟨other, hother⟩⟩
          · -- a command changes no cache
            rw [heq, Language.binder_finish] at hcached
            cases kind <;> exact hold hcached
          · exact hlater.isReady (run_later hbefore |>.isReady hready)
          · exact hlater.isReady (run_later hbefore |>.isReady (ih before hbefore other hother))

/-! ### Those who wait for the gates -/

variable {settings : Settings} {actions : List (SessionAction π)}

lemma stage_of_isGated {t : RequestTask π} (h : isGated t = true) :
    ∃ query, t.stage = .gated query := by
  rw [isGated] at h
  split at h
  · exact ⟨_, by assumption⟩
  · cases h

/-- Only queries about documents wait for the gates. -/
lemma gated_document (settings : Settings) (actions : List (SessionAction π)) :
    ∀ t ∈ (run settings actions).tasks, ∀ query, t.stage = .gated query →
      ∃ uri q, query = .document uri q := by
  induction actions using List.reverseRecOn with
  | nil => exact fun _ ht => (List.not_mem_nil ht).elim
  | append_singleton actions action ih =>
      intro u hu query hstage
      rw [run_append] at hu
      rcases step_task_cases hu with
        ⟨v, hv, heq⟩ | ⟨_, hfresh⟩ | ⟨_, hgated, hwaiting⟩ | ⟨_, _, _, _, _, _, _, _, hasking, -⟩
      · exact ih v hv query (RequestTask.gated_of_outline heq hstage)
      · cases hfresh.symm.trans hstage
      · cases hgated.symm.trans hstage
        exact (closed_of_waiting hwaiting).1
      · cases hasking.symm.trans hstage

/-- Whoever waits for the gates waits on as long as they are closed. -/
lemma Pursues.still_gated {host : Host π} {t : RequestTask π} {uri : Url} {query : DocumentQuery}
    (h : Pursues host s t s') (ht : t ∈ s.tasks) (hstage : t.stage = .gated (.document uri query))
    (hclosed : s.language.startup.isReady = false) :
    (∃ u ∈ s'.tasks, u.number = t.number ∧ isGated u = true) ∨
    ∃ e, s'.client = (s.client.send (encode (Response.failure (some t.id) e))).2 := by
  have hwaits {q : Query} (hunasked : s.unasked? t = some q) :
      s.language.start q = .waiting := by
    rw [unasked?, hstage] at hunasked
    cases hunasked
    rw [Language.start, Language.startDocument, hclosed]
    rfl
  have hunconsulted {q : Query} {origin : Option Token} {inquiry : Inquiry π} {s'' : Session π}
      (hc : Consults host s t q origin inquiry s'') : False := by
    cases hc with
    | before hasking => cases hasking.symm.trans hstage
    | now hunasked hstart => cases (hwaits hunasked).symm.trans hstart
  cases h with
  | refused e => exact .inr ⟨e, rfl⟩
  | replied hunasked hstart => cases (hwaits hunasked).symm.trans hstart
  | gated =>
      obtain ⟨u, hu, hnumber, hgated⟩ := exists_updateTask ht _
      exact .inl ⟨u, hu, hnumber, by rw [isGated, hgated]⟩
  | dropped e hconsults => exact (hunconsulted hconsults).elim
  | asking hconsults => exact (hunconsulted hconsults).elim
  | finished hconsults => exact (hunconsulted hconsults).elim

/-- A task that waits for closed gates still waits for them after a step, or has been given up. -/
lemma still_gated {t : RequestTask π} (ht : t ∈ (run settings actions).tasks)
    (hgated : isGated t = true)
    (hclosed : (run settings actions).language.startup.isReady = false)
    (action : SessionAction π) :
    (∃ u ∈ ((run settings actions).step action).tasks,
      u.number = t.number ∧ isGated u = true) ∨
    ∃ e, ((run settings actions).step action).client =
      ((run settings actions).client.send (encode (Response.failure (some t.id) e))).2 := by
  rcases (run settings actions).step_cases action with
    ⟨-, hplain | hbrings⟩ | ⟨v, -, ⟨host, jobs, -, hpursues⟩, hv⟩
  · have hmem : t.outline ∈ ((run settings actions).step action).tasks.map RequestTask.outline :=
      hplain.outline_eq ▸ List.mem_map_of_mem ht
    obtain ⟨u, hu, heq⟩ := List.mem_map.mp hmem
    refine .inl ⟨u, hu, ?_, ?_⟩
    · show u.outline.number = t.outline.number
      rw [heq]
    · rw [← isGated_outline, heq, isGated_outline, hgated]
  · obtain ⟨r, htasks⟩ := hbrings.tasks_eq
    exact .inl ⟨t, htasks ▸ List.mem_append_left _ ht, rfl, hgated⟩
  · by_cases hnumber : t.number = v.number
    · obtain rfl : t = v :=
        List.inj_on_of_nodup_map (run_numbered settings actions).nodup ht hv hnumber
      obtain ⟨query, hstage⟩ := stage_of_isGated hgated
      obtain ⟨uri, q, rfl⟩ := gated_document settings actions t ht query hstage
      exact hpursues.still_gated ht hstage hclosed
    · exact .inl ⟨t, (hpursues.spares.others t hnumber).mpr ht, rfl, hgated⟩

/-- A task that waits for open gates has a job that lets it go on. -/
lemma exists_job {t : RequestTask π} (ht : t ∈ (run settings actions).tasks)
    (hgated : isGated t = true)
    (hready : (run settings actions).language.startup.isReady = true) :
    ∃ index, ∀ host, (run settings actions).pursued? (.work host index) = some t := by
  obtain ⟨index, hjob⟩ := List.mem_iff_getElem?.mp
    ((run_called settings actions).tasks t ht hgated hready)
  refine ⟨index, fun host => ?_⟩
  rw [pursued?, hjob]
  exact find?_number_of_mem (run_numbered settings actions).nodup ht

/-- Providers are asked only if the gates were open before. -/
lemma new_questions (settings : Settings) (actions : List (SessionAction π))
    (action : SessionAction π) :
    ∃ new, ((run settings actions).step action).asked = (run settings actions).asked ++ new ∧
      ∀ entry ∈ new, entry.2.isForProvider = true →
        (run settings actions).language.startup.isReady = true := by
  have hnone : ∃ new, (run settings actions).asked = (run settings actions).asked ++ new ∧
      ∀ entry ∈ new, entry.2.isForProvider = true →
        (run settings actions).language.startup.isReady = true :=
    ⟨[], (List.append_nil _).symm, fun _ hentry => (List.not_mem_nil hentry).elim⟩
  rcases (run settings actions).step_cases action with
    ⟨-, hplain | hbrings⟩ | ⟨t, -, ⟨host, jobs, -, hpursues⟩, -⟩
  · rw [hplain.asked_eq]
    exact hnone
  · rw [hbrings.asked_eq]
    exact hnone
  · rcases hpursues.asked_cases with heq | ⟨query, question, origin, asked, hstart, heq⟩
    · rw [heq]
      exact hnone
    · refine ⟨_, heq, fun entry hentry hprovider => ?_⟩
      obtain ⟨a, -, rfl⟩ := List.mem_map.mp hentry
      rcases Language.start_ask_cases hstart with ⟨-, hhandler⟩ | ⟨-, hready | ⟨kind, hcached⟩⟩
      · cases hhandler.symm.trans hprovider
      · exact hready
      · exact ready_of_cached settings actions actions List.prefix_rfl kind hcached

/-- **Startup happens before providers are asked**: in every run, the questions of a step go to
providers only if both gates were open before the step. A gate has the value of its first opening in
the run, none as long as there is none, and keeps it for good. A request that waits for the gates
waits on or is given up as long as they are closed; once they are open, it has a job that lets it go
on, and it waits for them no more when that is done. So it is with the registration of features,
which is never sent while a gate is closed.

At a single gate, where anyone may come at any time: its value is the one of the first opening,
whoever has passed has that value, nobody is left who has found the gate closed when it is open, all
who have come are there, and all of them pass with the value when those look that are about to. -/
theorem gates_before_providers (settings : Settings) (actions : List (SessionAction π))
    (action : SessionAction π) :
    (let s := run settings actions
      let s' := run settings (actions ++ [action])
      (∃ new, s'.asked = s.asked ++ new ∧ ∀ entry ∈ new, entry.2.isForProvider = true →
        s.language.startup.initialized.isOpen = true ∧
        s.language.startup.registered.isOpen = true) ∧
      (∀ gate, s.language.startup.value? gate =
        ((ofSettings settings).openings actions).lookup gate) ∧
      (∀ gate value, s.language.startup.value? gate = some value → ∀ later,
        (run settings (actions ++ later)).language.startup.value? gate = some value) ∧
      (∀ t ∈ s.tasks, isGated t = true →
        (s.language.startup.isReady = false →
          (∃ u ∈ s'.tasks, u.number = t.number ∧ isGated u = true) ∨
          ∃ e, s'.client = (s.client.send (encode (Response.failure (some t.id) e))).2) ∧
        (s.language.startup.isReady = true →
          (∃ index, ∀ host, s.pursued? (.work host index) = some t) ∧
          (s.pursued? action = some t →
            ∀ u ∈ s'.tasks, u.number = t.number → isGated u = false))) ∧
      (s.features = .waiting →
        (s.language.startup.isReady = false →
          s'.features = .waiting ∨ s'.features = .stopped) ∧
        (s.language.startup.isReady = true → Job.features ∈ s.jobs ∧
          ∀ host index, s.jobs[index]? = some .features → action = .work host index →
            s'.features = .requested)) ∧
      (s'.features = .requested → s.features ≠ .requested →
        s.language.startup.initialized.isOpen = true ∧
        s.language.startup.registered.isOpen = true)) ∧
    ∀ (α ω : Type) (events : List (GateAction α ω)),
      let g := Gateway.run events
      g.gate.value = (events.filterMap GateAction.value?).head? ∧
      (∀ who value, (who, value) ∈ g.passed → g.gate.value = some value) ∧
      (g.gate.isOpen = true → g.parked = []) ∧
      g.everyone.Perm (events.filterMap GateAction.waiter?) ∧
      ∀ value, g.gate.value = some value →
        g.settle.passed.Perm ((events.filterMap GateAction.waiter?).map (·, value)) := by
  refine ⟨⟨?_, value?_run settings actions, fun gate value hvalue later => ?_,
    fun t ht hgated => ⟨fun hclosed => ?_,
      fun hready => ⟨exists_job ht hgated hready, fun hpursued u hu hnumber => ?_⟩⟩,
    fun hwaiting => ⟨fun hclosed => ?_, fun hready =>
      ⟨(run_called settings actions).features hwaiting hready, ?_⟩⟩, fun hrequested hnew => ?_⟩,
    fun α ω events => ?_⟩
  · obtain ⟨new, hasked, hnew⟩ := new_questions settings actions action
    refine ⟨new, run_append settings actions action ▸ hasked, fun entry hentry hprovider => ?_⟩
    exact Bool.and_eq_true_iff.mp (hnew entry hentry hprovider)
  · exact run_later (List.prefix_append actions later) gate value hvalue
  · rw [run_append]
    exact still_gated ht hgated hclosed action
  · rw [run_append] at hu
    rcases (run settings actions).step_cases action with
      ⟨hnone, -⟩ | ⟨v, hv, ⟨host, jobs, -, hpursues⟩, -⟩
    · cases hnone.symm.trans hpursued
    · cases hv.symm.trans hpursued
      refine Bool.eq_false_iff.mpr fun hstill => ?_
      cases (hpursues.not_ready hu hnumber hstill).symm.trans hready
  · rw [run_append]
    exact features_step_of_closed _ action hwaiting hclosed
  · rintro host index hjob rfl
    rw [run_append]
    exact work_features hjob hwaiting hready
  · rw [run_append] at hrequested
    exact Bool.and_eq_true_iff.mp (ready_of_requested hrequested hnew).2
  · have horderly := Gateway.orderly_run events
    have heveryone := Gateway.everyone_run events
    exact ⟨Gateway.value_run events, horderly.passed, horderly.parked, heveryone,
      fun value hvalue => (horderly.settle_passed hvalue).trans (heveryone.map _)⟩

end Session

end ProviderHub
