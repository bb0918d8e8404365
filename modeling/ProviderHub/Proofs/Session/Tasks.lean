import Mathlib.Tactic
import ProviderHub.Proofs.Session.Runs

/-!
Tasks along the runs of a session.

* `Session.run_called`: whoever waits for the gates has been called when they are open;
* `Session.run_numbered`: tasks have numbers of their own;
* `Session.run_sound`: the language features are in order after every run;
* `Session.run_put`: a task that waits for providers has put its query to them before.
-/

namespace ProviderHub

/-- Whom an inquiry asks, in order. -/
def Inquiry.asked {π : Type} (i : Inquiry π) : List (Asked π) := i.calls.map (·.asked)

namespace Inquiry

variable {π : Type}

lemma asked_start (atOnce : π → Question → Option (Option Reply)) (first : CallId)
    (question : Question) (asked : List (Asked π)) :
    (start atOnce first question asked).asked = asked := by
  rw [Inquiry.asked, start, List.map_map]
  exact List.zipIdx_map_fst 0 asked

lemma asked_answer (i : Inquiry π) (call : CallId) (reply : Option Reply) :
    (i.answer call reply).asked = i.asked := by
  rw [Inquiry.asked, answer, List.map_map]
  refine List.map_congr_left fun c _ => ?_
  rw [Function.comp_apply]
  split <;> rfl

end Inquiry

/-- A task that waits for providers still does so when it is marked or some of them answer. -/
lemma RequestTask.stage_of_outline {π : Type} {t u : RequestTask π} (h : t.outline = u.outline)
    {query : Query} {origin : Option Token} {inquiry : Inquiry π}
    (hstage : t.stage = .asking query origin inquiry) :
    ∃ before : Inquiry π, u.stage = .asking query origin before ∧
      before.question = inquiry.question ∧ before.asked = inquiry.asked := by
  have heq := congrArg RequestTask.stage h
  rw [RequestTask.outline, RequestTask.outline, hstage] at heq
  dsimp only at heq
  cases hu : u.stage with
  | asking query' origin' before =>
      rw [hu] at heq
      injection heq with hquery horigin hinquiry
      injection hinquiry with hquestion hcalls
      have hasked := congrArg (List.map (·.asked)) hcalls
      rw [List.map_map, List.map_map] at hasked
      exact ⟨before, by rw [hquery, horigin], hquestion.symm, hasked.symm⟩
  | _ =>
      rw [hu] at heq
      cases heq

/-- So does one that waits for the gates. -/
lemma RequestTask.gated_of_outline {π : Type} {t u : RequestTask π} (h : t.outline = u.outline)
    {query : Query} (hstage : t.stage = .gated query) : u.stage = .gated query := by
  have heq := congrArg RequestTask.stage h
  rw [RequestTask.outline, RequestTask.outline, hstage] at heq
  dsimp only at heq
  cases hu : u.stage <;> rw [hu] at heq <;> cases heq
  rfl

namespace Session

variable {π : Type} {s s' : Session π} {host : Host π} {t : RequestTask π}

/-! ### What the others have -/

/-- Only queries about documents wait for the gates, and only while they are closed. -/
lemma closed_of_waiting {l : Language π} {query : Query} (h : l.start query = .waiting) :
    (∃ uri q, query = .document uri q) ∧ l.startup.isReady = false := by
  cases query with
  | document uri query =>
      rw [Language.start, Language.startDocument] at h
      split at h
      · rename_i hready
        exact ⟨⟨uri, query, rfl⟩, Bool.not_eq_true' _ ▸ hready⟩
      · split at h
        · cases h
        · split at h <;> cases h
  | execute command =>
      rw [Language.start, Language.startCommand] at h
      split at h
      · split at h
        · rw [Language.startHandler] at h
          split at h <;> cases h
        · cases h
      · rw [Language.startHandler] at h
        split at h <;> cases h
  | _ =>
      rw [Language.start, Language.startItem] at h
      split at h <;> cases h

lemma finish_startup (l : Language π) (query : Query) (origin : Option Token)
    (results : List (ProviderId × Reply)) :
    (l.finish query origin results).2.startup = l.startup := by
  cases query with
  | document uri query => cases query <;> rfl
  | _ => rfl

/-- What stays as it is when a task goes on: the gates, the jobs, and all other tasks. -/
structure Spares (s s' : Session π) (t : RequestTask π) : Prop where
  startup_eq : s'.language.startup = s.language.startup
  jobs_eq : s'.jobs = s.jobs
  features_eq : s'.features = s.features
  nextTask_eq : s'.nextTask = s.nextTask
  numbers : (s'.tasks.map (·.number)).Sublist (s.tasks.map (·.number))
  others : ∀ u, u.number ≠ t.number → (u ∈ s'.tasks ↔ u ∈ s.tasks)

lemma Spares.refl (s : Session π) (t : RequestTask π) : s.Spares s t :=
  ⟨rfl, rfl, rfl, rfl, .refl _, fun _ _ => .rfl⟩

lemma Spares.endTask (h : s.Spares s' t) (outcome : Except RpcError Json) :
    s.Spares (s'.endTask t outcome) t := by
  refine ⟨h.startup_eq, h.jobs_eq, h.features_eq, h.nextTask_eq,
    (List.filter_sublist.map _).trans h.numbers, fun u hne => Iff.trans ?_ (h.others u hne)⟩
  exact ⟨List.mem_of_mem_filter, fun hu => List.mem_filter.mpr ⟨hu, bne_iff_ne.mpr hne⟩⟩

lemma Spares.updateTask (h : s.Spares s' t) (stage : Stage π) :
    s.Spares (s'.updateTask t.number ({ · with stage })) t := by
  refine ⟨h.startup_eq, h.jobs_eq, h.features_eq, h.nextTask_eq, ?_,
    fun u hne => Iff.trans ⟨fun hu => ?_, fun hu => ?_⟩ (h.others u hne)⟩
  · have hnumbers : (s'.updateTask t.number ({ · with stage })).tasks.map (·.number) =
        s'.tasks.map (·.number) := by
      rw [Session.updateTask, List.map_map]
      refine List.map_congr_left fun u _ => ?_
      rw [Function.comp_apply]
      split <;> rfl
    exact hnumbers ▸ h.numbers
  · obtain ⟨v, hv, rfl⟩ := List.mem_map.mp hu
    split at hne
    · rename_i heq
      exact absurd heq hne
    · rename_i heq
      rw [if_neg heq]
      exact hv
  · exact List.mem_map.mpr ⟨u, hu, if_neg hne⟩

lemma Consults.spares {query : Query} {origin : Option Token} {inquiry : Inquiry π}
    (h : Consults host s t query origin inquiry s') : s.Spares s' t := by
  cases h with
  | before => exact .refl s t
  | now => exact ⟨rfl, rfl, rfl, rfl, .refl _, fun _ _ => .rfl⟩

lemma Pursues.spares (h : Pursues host s t s') : s.Spares s' t := by
  cases h with
  | refused e => exact (Spares.refl s t).endTask _
  | replied => exact (Spares.refl s t).endTask _
  | gated => exact (Spares.refl s t).updateTask _
  | dropped e hconsults => exact hconsults.spares.endTask _
  | asking hconsults => exact hconsults.spares.updateTask _
  | @finished query origin inquiry s'' hconsults =>
      have hspares := hconsults.spares
      have hlanguage : s.Spares
          { s'' with language := (s.language.finish query origin inquiry.results).2 } t :=
        ⟨finish_startup s.language query origin inquiry.results, hspares.jobs_eq,
          hspares.features_eq, hspares.nextTask_eq, hspares.numbers, hspares.others⟩
      exact hlanguage.endTask _

lemma exists_updateTask (ht : t ∈ s.tasks) (stage : Stage π) :
    ∃ u ∈ (s.updateTask t.number ({ · with stage })).tasks,
      u.number = t.number ∧ u.stage = stage :=
  ⟨{ t with stage }, List.mem_map.mpr ⟨t, ht, if_pos rfl⟩, rfl, rfl⟩

lemma not_mem_endTask (s : Session π) (t : RequestTask π) (outcome : Except RpcError Json) :
    ∀ u ∈ (s.endTask t outcome).tasks, u.number ≠ t.number :=
  fun _ hu => bne_iff_ne.mp (List.mem_filter.mp hu).2

/-- A task that is still there after it has gone on waits for the gates or for providers. -/
lemma Pursues.stage_cases (h : Pursues host s t s') {u : RequestTask π} (hu : u ∈ s'.tasks)
    (hnumber : u.number = t.number) :
    (∃ query, u.stage = .gated query ∧ s.language.start query = .waiting) ∨
    ∃ query origin inquiry s'', u.stage = .asking query origin inquiry ∧
      Consults host s t query origin inquiry s'' ∧ s'.asked = s''.asked := by
  have hended {s : Session π} {outcome : Except RpcError Json}
      (hu : u ∈ (s.endTask t outcome).tasks) : False :=
    s.not_mem_endTask t outcome u hu hnumber
  have hupdated {s : Session π} {stage : Stage π}
      (hu : u ∈ (s.updateTask t.number ({ · with stage })).tasks) : u.stage = stage := by
    obtain ⟨v, -, rfl⟩ := List.mem_map.mp hu
    split
    · rfl
    · rename_i hne
      rw [if_neg hne] at hnumber
      exact absurd hnumber hne
  cases h with
  | refused e => exact (hended hu).elim
  | replied => exact (hended hu).elim
  | gated _ hwaiting => exact .inl ⟨_, hupdated hu, hwaiting⟩
  | dropped e _ => exact (hended hu).elim
  | asking hconsults => exact .inr ⟨_, _, _, _, hupdated hu, hconsults, rfl⟩
  | finished => exact (hended hu).elim

/-- It waits for the gates only if they are closed. -/
lemma Pursues.not_ready (h : Pursues host s t s') {u : RequestTask π} (hu : u ∈ s'.tasks)
    (hnumber : u.number = t.number) (hgated : isGated u = true) :
    s.language.startup.isReady = false := by
  rcases h.stage_cases hu hnumber with ⟨query, -, hwaiting⟩ | ⟨_, _, _, -, hstage, -⟩
  · exact (closed_of_waiting hwaiting).2
  · rw [isGated, hstage] at hgated
    cases hgated

/-- **Where a task comes from**: it was there before, but for marks and answers, or it is new, or it
has just gone on and waits for the gates or for providers. -/
lemma step_task_cases {action : SessionAction π} {u : RequestTask π}
    (hu : u ∈ (s.step action).tasks) :
    (∃ v ∈ s.tasks, u.outline = v.outline) ∨
    (∃ r, u.stage = .fresh r) ∨
    (∃ query, u.stage = .gated query ∧ s.language.start query = .waiting) ∨
    ∃ t ∈ s.tasks, ∃ host jobs query origin inquiry s', u.stage = .asking query origin inquiry ∧
      Consults host { s with jobs } t query origin inquiry s' ∧
      (s.step action).asked = s'.asked := by
  rcases s.step_cases action with ⟨-, hplain | hbrings⟩ | ⟨t, -, ⟨host, jobs, -, hpursues⟩, ht⟩
  · have hmem : u.outline ∈ s.tasks.map RequestTask.outline :=
      hplain.outline_eq ▸ List.mem_map_of_mem hu
    obtain ⟨v, hv, heq⟩ := List.mem_map.mp hmem
    exact .inl ⟨v, hv, heq.symm⟩
  · obtain ⟨r, htasks⟩ := hbrings.tasks_eq
    rw [htasks] at hu
    rcases List.mem_append.mp hu with hold | hnew
    · exact .inl ⟨u, hold, rfl⟩
    · rw [List.mem_singleton.mp hnew]
      exact .inr (.inl ⟨r, rfl⟩)
  · by_cases hnumber : u.number = t.number
    · rcases hpursues.stage_cases hu hnumber with hgated | ⟨query, origin, inquiry, s', hasking⟩
      · exact .inr (.inr (.inl hgated))
      · exact .inr (.inr (.inr ⟨t, ht, host, jobs, query, origin, inquiry, s', hasking⟩))
    · exact .inl ⟨u, (hpursues.spares.others u hnumber).mp hu, rfl⟩

lemma Proceeds.called (h : s.Proceeds t s') (hc : s.Called) : s'.Called := by
  obtain ⟨⟨host, jobs, hjobs, hpursues⟩, -⟩ := h
  have hspares := hpursues.spares
  refine ⟨fun u hu hgated hready => ?_, fun hwaiting hready => ?_⟩
  · rw [hspares.startup_eq] at hready
    by_cases hnumber : u.number = t.number
    · rw [hpursues.not_ready hu hnumber hgated] at hready
      cases hready
    · rw [hspares.jobs_eq]
      refine hjobs _ (hc.tasks u ((hspares.others u hnumber).mp hu) hgated hready) fun heq => ?_
      injection heq with heq
      exact hnumber heq
  · rw [hspares.startup_eq] at hready
    rw [hspares.features_eq] at hwaiting
    rw [hspares.jobs_eq]
    exact hjobs _ (hc.features hwaiting hready) nofun

/-! ### Runs -/

lemma called_ofSettings (settings : Settings) : (ofSettings settings : Session π).Called where
  tasks _ ht := (List.not_mem_nil ht).elim
  features hwaiting := by
    rw [ofSettings] at hwaiting
    cases hwaiting

lemma step_called (hc : s.Called) (action : SessionAction π) : (s.step action).Called := by
  rcases s.step_cases action with ⟨-, hplain | hbrings⟩ | ⟨t, -, hproceeds⟩
  · exact hplain.called hc
  · exact hbrings.called hc
  · exact hproceeds.called hc

/-- Whoever waits for the gates has been called when they are open, after every run. -/
lemma run_called (settings : Settings) (actions : List (SessionAction π)) :
    (run settings actions).Called := by
  induction actions using List.reverseRecOn with
  | nil => exact called_ofSettings settings
  | append_singleton actions action ih =>
      rw [run_append]
      exact step_called ih action

/-- Tasks have numbers of their own, which have been given. -/
structure Numbered (s : Session π) : Prop where
  nodup : (s.tasks.map (·.number)).Nodup
  lt_next : ∀ t ∈ s.tasks, t.number < s.nextTask

lemma Plain.numbers_eq (h : s.Plain s') :
    s'.tasks.map (·.number) = s.tasks.map (·.number) := by
  have heq := congrArg (List.map (·.number)) h.outline_eq
  rwa [List.map_map, List.map_map] at heq

/-- A task was there before, or it has a new number. -/
lemma step_numbers {action : SessionAction π} {u : RequestTask π}
    (hu : u ∈ (s.step action).tasks) :
    u.number ∈ s.tasks.map (·.number) ∨
      u.number = s.nextTask ∧ (s.step action).nextTask = s.nextTask + 1 := by
  rcases s.step_cases action with ⟨-, hplain | hbrings⟩ | ⟨t, -, ⟨host, jobs, -, hpursues⟩, -⟩
  · exact .inl (hplain.numbers_eq ▸ List.mem_map_of_mem hu)
  · obtain ⟨r, htasks⟩ := hbrings.tasks_eq
    rw [htasks] at hu
    rcases List.mem_append.mp hu with hold | hnew
    · exact .inl (List.mem_map_of_mem hold)
    · rw [List.mem_singleton.mp hnew]
      exact .inr ⟨rfl, hbrings.nextTask_eq⟩
  · exact .inl (hpursues.spares.numbers.subset (List.mem_map_of_mem hu))

lemma nextTask_step_le (s : Session π) (action : SessionAction π) :
    s.nextTask ≤ (s.step action).nextTask := by
  rcases s.step_cases action with ⟨-, hplain | hbrings⟩ | ⟨t, -, ⟨host, jobs, -, hpursues⟩, -⟩
  · exact hplain.nextTask_le
  · rw [hbrings.nextTask_eq]
    exact Nat.le_succ _
  · rw [hpursues.spares.nextTask_eq]

lemma Numbered.nodup_step (hs : s.Numbered) (action : SessionAction π) :
    ((s.step action).tasks.map (·.number)).Nodup := by
  rcases s.step_cases action with ⟨-, hplain | hbrings⟩ | ⟨t, -, ⟨host, jobs, -, hpursues⟩, -⟩
  · rw [hplain.numbers_eq]
    exact hs.nodup
  · obtain ⟨r, htasks⟩ := hbrings.tasks_eq
    rw [htasks, List.map_append, List.map_singleton]
    refine List.Nodup.append hs.nodup (List.nodup_singleton _) ?_
    rw [List.disjoint_singleton]
    intro hmem
    obtain ⟨u, hu, heq⟩ := List.mem_map.mp hmem
    exact (hs.lt_next u hu).ne heq
  · exact hs.nodup.sublist hpursues.spares.numbers

lemma step_numbered (hs : s.Numbered) (action : SessionAction π) : (s.step action).Numbered := by
  refine ⟨hs.nodup_step action, fun u hu => ?_⟩
  rcases step_numbers hu with hold | ⟨hnew, hnext⟩
  · obtain ⟨v, hv, heq⟩ := List.mem_map.mp hold
    exact heq ▸ lt_of_lt_of_le (hs.lt_next v hv) (s.nextTask_step_le action)
  · rw [hnew, hnext]
    exact Nat.lt_succ_self _

lemma run_numbered (settings : Settings) (actions : List (SessionAction π)) :
    (run settings actions).Numbered := by
  induction actions using List.reverseRecOn with
  | nil => exact ⟨List.nodup_nil, fun _ ht => (List.not_mem_nil ht).elim⟩
  | append_singleton actions action ih =>
      rw [run_append]
      exact step_numbered ih action

/-- A task that has ended never comes back. -/
lemma ended_run {settings : Settings} {actions : List (SessionAction π)} {number : TaskId}
    (hgiven : number < (run settings actions).nextTask)
    (hended : ∀ u ∈ (run settings actions).tasks, u.number ≠ number)
    (later : List (SessionAction π)) :
    ∀ u ∈ (run settings (actions ++ later)).tasks, u.number ≠ number := by
  suffices h : number < (run settings (actions ++ later)).nextTask ∧
      ∀ u ∈ (run settings (actions ++ later)).tasks, u.number ≠ number from h.2
  induction later using List.reverseRecOn with
  | nil =>
      rw [List.append_nil]
      exact ⟨hgiven, hended⟩
  | append_singleton later action ih =>
      obtain ⟨hlt, hnone⟩ := ih
      rw [← List.append_assoc, run_append]
      refine ⟨lt_of_lt_of_le hlt (nextTask_step_le _ action), fun u hu heq => ?_⟩
      rcases step_numbers hu with hold | ⟨hnew, -⟩
      · obtain ⟨v, hv, hnumber⟩ := List.mem_map.mp hold
        exact hnone v hv (hnumber.trans heq)
      · exact hlt.ne (heq.symm.trans hnew)

/-! ### The language features -/

/-- A task changes the language features only when all of its providers have answered. -/
lemma Pursues.language_cases (h : Pursues host s t s') :
    s'.language = s.language ∨
    ∃ query origin inquiry s'', Consults host s t query origin inquiry s'' ∧
      inquiry.isDone = true ∧
      s'.language = (s.language.finish query origin inquiry.results).2 := by
  cases h with
  | finished hconsults hdone => exact .inr ⟨_, _, _, _, hconsults, hdone, rfl⟩
  | dropped e hconsults => exact .inl hconsults.language_eq
  | asking hconsults => exact .inl hconsults.language_eq
  | _ => exact .inl rfl

/-- What all actions on the language features preserve, a plain step preserves. -/
lemma Plain.language_induction (h : s.Plain s') {P : Language π → Prop} (hs : P s.language)
    (hafter : ∀ l action, P l → P (l.after action)) : P s'.language := by
  obtain ⟨actions, hlanguage⟩ := h.changes
  rw [hlanguage]
  clear hlanguage h
  generalize s.language = l at hs
  induction actions generalizing l with
  | nil => exact hs
  | cons action actions ih => exact ih _ (hafter l action hs)

lemma Plain.follows (h : s.Plain s') : s.language.Follows s'.language :=
  h.language_induction (.refl _) fun l action hl =>
    hl.trans (LanguageHistory.step_follows { language := l } action)

lemma step_follows (s : Session π) (action : SessionAction π) :
    s.language.Follows (s.step action).language := by
  rcases s.step_cases action with ⟨-, hplain | hbrings⟩ | ⟨t, -, ⟨host, jobs, -, hpursues⟩, -⟩
  · exact hplain.follows
  · rw [hbrings.language_eq]
  · rcases hpursues.language_cases with heq | ⟨query, origin, inquiry, -, -, -, heq⟩
    · rw [heq]
    · rw [heq]
      exact s.language.finish_follows query origin inquiry.results

/-- The language features are in order after every run. -/
lemma run_sound (settings : Settings) (actions : List (SessionAction π)) :
    (run settings actions).language.Sound := by
  induction actions using List.reverseRecOn with
  | nil => exact Language.sound_ofSettings settings
  | append_singleton actions action ih =>
      rw [run_append]
      exact (step_follows _ action).sound ih

/-! ### Questions that have been asked -/

section questions

variable {query : Query} {origin : Option Token} {inquiry : Inquiry π}

lemma Consults.asked_cases (h : Consults host s t query origin inquiry s') :
    s'.asked = s.asked ∨ ∃ question asked, s.language.start query = .ask question origin asked ∧
      s'.asked = s.asked ++ asked.map fun a => (a.handle, question) := by
  cases h with
  | before => exact .inl rfl
  | now _ hstart => exact .inr ⟨_, _, hstart, rfl⟩

/-- A task that goes on puts its question to providers, or nobody is asked anything. -/
lemma Pursues.asked_cases (h : Pursues host s t s') :
    s'.asked = s.asked ∨
    ∃ query question origin asked, s.language.start query = .ask question origin asked ∧
      s'.asked = s.asked ++ asked.map fun a => (a.handle, question) := by
  have hconsults {query : Query} {origin : Option Token} {inquiry : Inquiry π} {s'' : Session π}
      (hc : Consults host s t query origin inquiry s'') :
      s''.asked = s.asked ∨
      ∃ query question origin asked, s.language.start query = .ask question origin asked ∧
        s''.asked = s.asked ++ asked.map fun a => (a.handle, question) :=
    hc.asked_cases.imp_right fun ⟨question, asked, h⟩ => ⟨query, question, origin, asked, h⟩
  cases h with
  | dropped e hc => exact (hconsults hc :)
  | asking hc => exact (hconsults hc :)
  | finished hc => exact (hconsults hc :)
  | _ => exact .inl rfl

lemma step_asked_prefix (s : Session π) (action : SessionAction π) :
    s.asked <+: (s.step action).asked := by
  rcases s.step_cases action with ⟨-, hplain | hbrings⟩ | ⟨t, -, ⟨host, jobs, -, hpursues⟩, -⟩
  · rw [hplain.asked_eq]
  · rw [hbrings.asked_eq]
  · rcases hpursues.asked_cases with heq | ⟨_, _, _, _, -, heq⟩
    · rw [heq]
    · rw [heq]
      exact List.prefix_append _ _

/-- At some time of a run a query was put to the providers of an inquiry, and their questions are
in the log. -/
def Put (settings : Settings) (actions : List (SessionAction π)) (log : List (π × Question))
    (query : Query) (origin : Option Token) (inquiry : Inquiry π) : Prop :=
  ∃ earlier, earlier <+: actions ∧
    (run settings earlier).language.start query =
      .ask inquiry.question origin inquiry.asked ∧
    (run settings earlier).asked ++
      inquiry.asked.map (fun a => (a.handle, inquiry.question)) <+: log

variable {settings : Settings} {actions : List (SessionAction π)} {log log' : List (π × Question)}

lemma Put.later (h : Put settings actions log query origin inquiry) (action : SessionAction π)
    (hlog : log <+: log') : Put settings (actions ++ [action]) log' query origin inquiry := by
  obtain ⟨earlier, hprefix, hstart, hasked⟩ := h
  exact ⟨earlier, hprefix.trans (List.prefix_append _ _), hstart, hasked.trans hlog⟩

/-- A task that waits for providers, or that does so now, has put its query to them. -/
lemma Consults.put {jobs : List Job}
    (h : Consults host { run settings actions with jobs } t query origin inquiry s')
    (ht : ∀ query origin inquiry, t.stage = .asking query origin inquiry →
      Put settings actions (run settings actions).asked query origin inquiry) :
    Put settings actions s'.asked query origin inquiry := by
  cases h with
  | before hstage => exact ht query origin inquiry hstage
  | now _ hstart =>
      refine ⟨actions, List.prefix_rfl, ?_, ?_⟩
      · rw [Inquiry.asked_start]
        exact hstart
      · rw [Inquiry.asked_start]
        exact List.prefix_rfl

/-- **What tasks wait for**: each one that waits for providers has put its query to them at some
time of the run. -/
lemma run_put (settings : Settings) (actions : List (SessionAction π)) :
    ∀ t ∈ (run settings actions).tasks, ∀ query origin inquiry,
      t.stage = .asking query origin inquiry →
        Put settings actions (run settings actions).asked query origin inquiry := by
  induction actions using List.reverseRecOn with
  | nil => exact fun _ ht => (List.not_mem_nil ht).elim
  | append_singleton actions action ih =>
      intro u hu query origin inquiry hstage
      rw [run_append] at hu ⊢
      have hlog := step_asked_prefix (run settings actions) action
      rcases step_task_cases hu with
        ⟨v, hv, heq⟩ | ⟨_, hfresh⟩ | ⟨_, hgated, -⟩ | ⟨t, ht, _, _, _, _, _, s', hasking, hc, hs'⟩
      · obtain ⟨before, hbefore, hquestion, hasked⟩ := RequestTask.stage_of_outline heq hstage
        have hput := (ih v hv query origin before hbefore).later action hlog
        rwa [Put, hquestion, hasked] at hput
      · cases hfresh.symm.trans hstage
      · cases hgated.symm.trans hstage
      · cases hasking.symm.trans hstage
        rw [hs']
        exact (hc.put (ih t ht)).later action List.prefix_rfl

end questions

end Session

end ProviderHub
