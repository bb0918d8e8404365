import Mathlib.Tactic
import ProviderHub.Proofs.Session.ClosedDocuments
import ProviderHub.Proofs.Session.Docket

/-!
Every request gets one response, and cancelling hits nobody else.

* `Docket.Balanced`: responses and open requests together are the requests that have come;
* `Docket.Matched`: the table lists the open requests, each under its own name;
* `Session.requests_answered_once`: so it is along every run of a session whose client gives no two
  open requests the same name.
-/

namespace ProviderHub

namespace Docket

variable {d d' : Docket} {received : List RequestId} {entering : Option RequestId}

/-! ### Responses -/

/-- Each request that has come is open, or has its response. -/
def Balanced (d : Docket) (received : List RequestId) : Prop :=
  ∀ id, d.responses id + (d.slips.map (·.id)).count id = received.count id

lemma Moves.connected_eq (h : d.Moves entering d') : d'.connected = d.connected := by
  cases h <;> rfl

/-- An open request is one of those under its name. -/
lemma count_close (hnumbers : (d.slips.map (·.number)).Nodup) {slip : Slip} (hslip : slip ∈ d.slips)
    (id : RequestId) :
    (d.slips.map (·.id)).count id =
      ((d.close slip).slips.map (·.id)).count id + if id = slip.id then 1 else 0 := by
  have hperm := perm_cons_filter_of_find? hnumbers
    (find?_number_of_mem hnumbers hslip)
  rw [(hperm.map (·.id)).count_eq id, List.map_cons, List.count_cons]
  simp only [beq_iff_eq, eq_comm (b := id)]
  rfl

lemma Moves.balanced (h : d.Moves entering d') (hconnected : d.connected = true)
    (hnumbers : (d.slips.map (·.number)).Nodup) (hd : d.Balanced received) :
    d'.Balanced (received ++ entering.toList) := by
  intro id
  have hid := hd id
  cases h with
  | stay => simpa using hid
  | cancel other =>
      show d.responses id + ((d.mark _).slips.map (·.id)).count id = _
      simpa using hid
  | @close slip hslip =>
      have hcount := count_close hnumbers hslip id
      have hresponses : (d.close slip).responses id =
          d.responses id + if id = slip.id then 1 else 0 := by
        simp [Docket.close, hconnected]
      simp only [Option.toList_none, List.append_nil]
      omega
  | accept other =>
      simp only [slips_accept, responses_accept, List.map_append, List.map_singleton,
        Option.toList_some, List.count_append]
      omega
  | answer other =>
      simp only [slips_answer, responses_answer, slips_enter, responses_enter, connected_enter,
        hconnected, true_and, Option.toList_some, List.count_append, List.count_singleton,
        beq_iff_eq, eq_comm (b := id)]
      omega
  | stop other =>
      simp only [slips_answer, responses_answer, ids_stop, responses_stop, connected_stop,
        slips_enter, responses_enter, connected_enter, hconnected, true_and, Option.toList_some,
        List.count_append, List.count_singleton, beq_iff_eq, eq_comm (b := id)]
      omega

/-! ### The table -/

/-- The table lists the open requests under their names. Only those are missing that were cancelled
when everything was stopped. -/
structure Matched (d : Docket) : Prop where
  ids_nodup : (d.slips.map (·.id)).Nodup
  keys_nodup : (d.table.map Prod.fst).Nodup
  open_of_mem : ∀ id number, (id, number) ∈ d.table →
    ∃ slip ∈ d.slips, slip.id = id ∧ slip.number = number
  listed : ∀ slip ∈ d.slips,
    (slip.id, slip.number) ∈ d.table ∨ d.stopped = true ∧ slip.cancelled = true

/-- A name in the table leads to the open request of that name. -/
lemma Matched.open_of_lookup (hd : d.Matched) {id : RequestId} {number : TaskId}
    (h : d.table.lookup id = some number) :
    ∃ slip ∈ d.slips, slip.id = id ∧ slip.number = number := by
  obtain ⟨before, after, htable, -⟩ := List.lookup_eq_some_iff.mp h
  exact hd.open_of_mem id number (htable ▸ List.mem_append_right _ List.mem_cons_self)

lemma mem_filter_table {id : RequestId} {entry : RequestId × TaskId} :
    entry ∈ d.table.filter (·.1 != id) ↔ entry ∈ d.table ∧ entry.1 ≠ id := by
  rw [List.mem_filter, bne_iff_ne]

lemma Matched.keys_filter (hd : d.Matched) (id : RequestId) :
    ((d.table.filter (·.1 != id)).map Prod.fst).Nodup :=
  hd.keys_nodup.sublist (List.filter_sublist.map _)

lemma Matched.cancel (hd : d.Matched) (id : RequestId) : (d.cancel id).Matched := by
  refine ⟨?_, hd.keys_nodup, fun other number hentry => ?_, fun slip hslip => ?_⟩
  · rw [Docket.cancel, ids_mark]
    exact hd.ids_nodup
  · obtain ⟨slip, hslip, hid, hnumber⟩ := hd.open_of_mem other number hentry
    refine ⟨_, List.mem_map_of_mem hslip, ?_⟩
    split <;> exact ⟨hid, hnumber⟩
  · obtain ⟨before, hbefore, rfl⟩ := List.mem_map.mp hslip
    have hlisted := hd.listed before hbefore
    split
    · exact hlisted.imp_right fun h => ⟨h.1, rfl⟩
    · exact hlisted

lemma Matched.close (hd : d.Matched) (hnumbers : (d.slips.map (·.number)).Nodup) {slip : Slip}
    (hslip : slip ∈ d.slips) : (d.close slip).Matched := by
  refine ⟨hd.ids_nodup.sublist (List.filter_sublist.map _), hd.keys_filter slip.id,
    fun id number hentry => ?_, fun other hother => ?_⟩
  · obtain ⟨hold, hne⟩ := mem_filter_table.mp hentry
    obtain ⟨other, hother, rfl, rfl⟩ := hd.open_of_mem id number hold
    refine ⟨other, List.mem_filter.mpr ⟨hother, bne_iff_ne.mpr fun heq => hne ?_⟩, rfl, rfl⟩
    rw [List.inj_on_of_nodup_map hnumbers hother hslip heq]
  · obtain ⟨hold, hne⟩ := List.mem_filter.mp hother
    refine (hd.listed other hold).imp_left fun hlisted => mem_filter_table.mpr ⟨hlisted, ?_⟩
    intro heq
    rw [List.inj_on_of_nodup_map hd.ids_nodup hold hslip heq] at hne
    exact bne_iff_ne.mp hne rfl

lemma Matched.accept (hd : d.Matched) {id : RequestId} (hnew : id ∉ d.slips.map (·.id)) :
    (d.accept id).Matched := by
  refine ⟨?_, ?_, fun other n hentry => ?_, fun slip hslip => ?_⟩
  · rw [Docket.accept, List.map_append, List.map_singleton]
    exact hd.ids_nodup.append (List.nodup_singleton _) (List.disjoint_singleton.mpr hnew)
  · rw [Docket.accept, enter, List.map_append, List.map_singleton]
    refine (hd.keys_filter id).append (List.nodup_singleton _) (List.disjoint_singleton.mpr ?_)
    intro hmem
    obtain ⟨entry, hentry, heq⟩ := List.mem_map.mp hmem
    exact (mem_filter_table.mp hentry).2 heq
  · rcases List.mem_append.mp hentry with hold | hlast
    · obtain ⟨slip, hslip, heq⟩ := hd.open_of_mem other n (mem_filter_table.mp hold).1
      exact ⟨slip, List.mem_append_left _ hslip, heq⟩
    · cases List.mem_singleton.mp hlast
      exact ⟨_, List.mem_append_right _ (List.mem_singleton_self _), rfl, rfl⟩
  · rcases List.mem_append.mp hslip with hold | hlast
    · refine (hd.listed slip hold).imp_left fun hlisted => List.mem_append_left _ ?_
      exact mem_filter_table.mpr ⟨hlisted, fun heq => hnew (heq ▸ List.mem_map_of_mem hold)⟩
    · rw [List.mem_singleton.mp hlast]
      exact .inl (List.mem_append_right _ (List.mem_singleton_self _))

lemma Matched.answer (hd : d.Matched) {id : RequestId} (hnew : id ∉ d.slips.map (·.id)) :
    ((d.enter id).answer id).Matched := by
  have htable := d.table_enter_answer id
  refine ⟨hd.ids_nodup, htable ▸ hd.keys_filter id, fun other number hentry => ?_,
    fun slip hslip => ?_⟩
  · rw [htable] at hentry
    exact hd.open_of_mem other number (mem_filter_table.mp hentry).1
  · rw [htable]
    refine (hd.listed slip hslip).imp_left fun hlisted => mem_filter_table.mpr ⟨hlisted, ?_⟩
    exact fun heq => hnew (heq ▸ List.mem_map_of_mem hslip)

/-- When everything is stopped, all open requests are in the table, and so all are cancelled. -/
lemma Matched.stop (hd : d.Matched) {id : RequestId} (hnew : id ∉ d.slips.map (·.id))
    (hrunning : d.stopped = false) : ((d.enter id).stop.answer id).Matched := by
  refine ⟨?_, List.nodup_nil, fun _ _ hentry => (List.not_mem_nil hentry).elim,
    fun slip hslip => ?_⟩
  · rw [slips_answer, ids_stop]
    exact hd.ids_nodup
  · obtain ⟨before, hbefore, rfl⟩ := List.mem_map.mp hslip
    have hlisted : (before.id, before.number) ∈ d.table :=
      (hd.listed before hbefore).resolve_right fun h => by simp [hrunning] at h
    have hentry : (before.id, before.number) ∈ (d.enter id).table :=
      List.mem_append_left _ (mem_filter_table.mpr
        ⟨hlisted, fun heq => hnew (heq ▸ List.mem_map_of_mem hbefore)⟩)
    have hmarked : before.number ∈ (d.enter id).table.map Prod.snd :=
      List.mem_map_of_mem hentry
    rw [if_pos hmarked]
    exact .inr ⟨rfl, rfl⟩

lemma Moves.matched (h : d.Moves entering d') (hnumbers : (d.slips.map (·.number)).Nodup)
    (hnew : ∀ id ∈ entering, id ∉ d.slips.map (·.id)) (hd : d.Matched) : d'.Matched := by
  cases h with
  | stay => exact hd
  | cancel id => exact hd.cancel id
  | close hslip => exact hd.close hnumbers hslip
  | accept id => exact hd.accept (hnew id rfl)
  | answer id => exact hd.answer (hnew id rfl)
  | stop id hrunning => exact hd.stop (hnew id rfl) hrunning

end Docket

/-! ### Runs -/

/-- The names of the requests that have come, in order. -/
def SessionAction.received {π : Type} (actions : List (SessionAction π)) : List RequestId :=
  actions.filterMap requestId?

namespace Session

open SessionAction (received)

variable {π : Type} {settings : Settings} {actions : List (SessionAction π)}

/-- Of the requests that have come under a name, one has not been answered. -/
def Unanswered (settings : Settings) (actions : List (SessionAction π)) (id : RequestId) : Prop :=
  (run settings actions).responses id < (received actions).count id

instance (id : RequestId) : Decidable (Unanswered settings actions id) :=
  inferInstanceAs (Decidable (_ < _))

/-- The client gives no request the name of another one that has not been answered. -/
def Distinct (settings : Settings) (actions : List (SessionAction π)) : Prop :=
  ∀ earlier r, earlier ++ [.message (.request r)] <+: actions →
    ¬ Unanswered settings earlier r.id

lemma Distinct.earlier {earlier : List (SessionAction π)} (h : Distinct settings actions)
    (hearlier : earlier <+: actions) : Distinct settings earlier :=
  fun before r hbefore => h before r (hbefore.trans hearlier)

lemma Distinct.append {action : SessionAction π} (h : Distinct settings actions)
    (hnew : ∀ id ∈ action.requestId?, ¬ Unanswered settings actions id) :
    Distinct settings (actions ++ [action]) := by
  intro earlier r hearlier
  rcases List.prefix_concat_iff.mp hearlier with heq | hearlier
  · obtain ⟨rfl, hlast⟩ := List.append_inj' heq rfl
    cases List.singleton_inj.mp hlast
    exact hnew r.id rfl
  · exact h earlier r hearlier

lemma received_append (actions : List (SessionAction π)) (action : SessionAction π) :
    received (actions ++ [action]) = received actions ++ action.requestId?.toList := by
  rw [received, List.filterMap_append]
  cases h : action.requestId? <;> simp [received, h]

lemma connected_run (hrunning : SessionAction.leave ∉ actions) :
    (run settings actions).docket.connected = true := by
  induction actions using List.reverseRecOn with
  | nil => rfl
  | append_singleton actions action ih =>
      rw [List.mem_append, not_or, List.mem_singleton] at hrunning
      rw [run_append, ((run settings actions).step_moves (Ne.symm hrunning.2)).connected_eq]
      exact ih hrunning.1

lemma numbers_docket (settings : Settings) (actions : List (SessionAction π)) :
    ((run settings actions).docket.slips.map (·.number)).Nodup := by
  have hnodup := (run_numbered settings actions).nodup
  rw [docket, List.map_map]
  exact hnodup

/-- Each request that has come is open or has its response, whatever names the client gives. -/
lemma run_balanced (hrunning : SessionAction.leave ∉ actions) :
    (run settings actions).docket.Balanced (received actions) := by
  induction actions using List.reverseRecOn with
  | nil => exact fun _ => rfl
  | append_singleton actions action ih =>
      rw [List.mem_append, not_or, List.mem_singleton] at hrunning
      rw [run_append, received_append]
      exact ((run settings actions).step_moves (Ne.symm hrunning.2)).balanced
        (connected_run hrunning.1) (numbers_docket settings actions) (ih hrunning.1)

lemma unanswered_iff_open (hrunning : SessionAction.leave ∉ actions) (id : RequestId) :
    Unanswered settings actions id ↔ id ∈ (run settings actions).docket.slips.map (·.id) := by
  have hbalanced : (run settings actions).docket.Balanced (received actions) :=
    run_balanced hrunning
  rw [Unanswered, ← List.count_pos_iff, ← hbalanced id]
  exact Nat.lt_add_right_iff_pos

lemma run_matched (hrunning : SessionAction.leave ∉ actions)
    (hdistinct : Distinct settings actions) : (run settings actions).docket.Matched := by
  induction actions using List.reverseRecOn with
  | nil =>
      exact ⟨List.nodup_nil, List.nodup_nil, fun _ _ h => (List.not_mem_nil h).elim,
        fun _ h => (List.not_mem_nil h).elim⟩
  | append_singleton actions action ih =>
      rw [List.mem_append, not_or, List.mem_singleton] at hrunning
      rw [run_append]
      refine ((run settings actions).step_moves (Ne.symm hrunning.2)).matched
        (numbers_docket settings actions) (fun id hid => ?_)
        (ih hrunning.1 (hdistinct.earlier (List.prefix_append _ _)))
      -- a request comes, and none of its name is open
      have harrives : ∃ r, action = .message (.request r) ∧ r.id = id := by
        revert hid
        rw [SessionAction.requestId?.eq_def]
        split
        · rename_i r
          exact fun hid => ⟨r, rfl, Option.some_inj.mp hid⟩
        · nofun
      obtain ⟨r, rfl, rfl⟩ := harrives
      rw [← unanswered_iff_open hrunning.1]
      exact hdistinct actions r List.prefix_rfl

/-- Only the open request of the name is hit. -/
lemma cancelRequest_tasks {s : Session π} (hs : s.docket.Matched) (hnumbered : s.Numbered)
    (id : RequestId) :
    (s.cancelRequest id).2.tasks =
      s.tasks.map fun t => if t.id = id then { t with cancelled := true } else t := by
  have hids : (s.tasks.map (·.id)).Nodup := by
    have hnodup := hs.ids_nodup
    rwa [docket, List.map_map] at hnodup
  rw [cancelRequest]
  split
  · rename_i number hlookup
    obtain ⟨slip, hslip, hid, hnumber⟩ := hs.open_of_lookup hlookup
    obtain ⟨t, ht, rfl⟩ := List.mem_map.mp hslip
    refine List.map_congr_left fun u hu => ?_
    have hiff : u.number = number ↔ u.id = id := by
      refine ⟨fun heq => ?_, fun heq => ?_⟩
      · rw [List.inj_on_of_nodup_map hnumbered.nodup hu ht (heq.trans hnumber.symm)]
        exact hid
      · rw [List.inj_on_of_nodup_map hids hu ht (heq.trans hid.symm)]
        exact hnumber
    simp only [hiff]
  · rename_i hlookup
    -- an open request that is not in the table is cancelled already
    refine ((List.map_congr_left fun t ht => ?_).trans (List.map_id' _)).symm
    split
    · rename_i heq
      rcases hs.listed t.slip (List.mem_map_of_mem ht) with hlisted | ⟨-, hcancelled⟩
      · have hne := List.lookup_eq_none_iff.mp hlookup _ hlisted
        exact absurd heq.symm (bne_iff_ne.mp hne)
      · exact congrArg (RequestTask.mk t.number t.id t.stage · t.expired) hcancelled.symm
    · rfl

/-- A notification that cancels a request does just that. -/
lemma step_cancel (s : Session π) {n : Notification} {p : CancelParams}
    (hmethod : n.method = Method.cancelRequest)
    (hparams : readParams CancelParams n.params = .ok p) :
    s.step (.message (.notification n)) = (s.cancelRequest p.id).2 := by
  have hexit : Method.cancelRequest ≠ Method.exit := by decide
  have hinitialized : Method.cancelRequest ≠ Method.initialized := by decide
  simp [step, handle, handleNotification, hmethod, hexit, hinitialized, notified, hparams]

/-- A request of which no other one of the same name has come since is open, or it has got its
response, and only that. -/
lemma answered_once (hrunning : SessionAction.leave ∉ actions)
    (hdistinct : Distinct settings actions) {earlier later : List (SessionAction π)} {r : Request}
    (hactions : actions = earlier ++ .message (.request r) :: later)
    (hlater : r.id ∉ received later) :
    (Unanswered settings actions r.id ∧
      (run settings actions).responses r.id = (run settings earlier).responses r.id) ∨
    (¬ Unanswered settings actions r.id ∧
      (run settings actions).responses r.id = (run settings earlier).responses r.id + 1) := by
  have hstarted : ¬ Unanswered settings earlier r.id := by
    refine hdistinct earlier r ⟨later, ?_⟩
    rw [hactions, List.append_assoc]
    rfl
  have hearlier : SessionAction.leave ∉ earlier := fun hmem =>
    hrunning (hactions ▸ List.mem_append_left _ hmem)
  have hreceived : (received actions).count r.id = (received earlier).count r.id + 1 := by
    have hnone : (received later).count r.id = 0 := List.count_eq_zero.mpr hlater
    rw [received] at hnone ⊢
    rw [hactions, List.filterMap_append, List.filterMap_cons, List.count_append]
    simp [SessionAction.requestId?, hnone, received]
  have hopen : ((run settings actions).docket.slips.map (·.id)).count r.id ≤ 1 :=
    List.nodup_iff_count_le_one.mp (run_matched hrunning hdistinct).ids_nodup r.id
  have hbefore : (run settings earlier).responses r.id + _ = _ := run_balanced hearlier r.id
  have hnow : (run settings actions).responses r.id + _ = _ := run_balanced hrunning r.id
  rw [Unanswered] at hstarted ⊢
  omega

/-- **Every request gets one response, and cancelling hits nobody else.** As long as the connection
lasts, and the client gives no two open requests the same name: a request is open, or it has got its
response, and only that, until another one of the same name comes; there are no responses but to
requests that have come. The tasks are those of the open requests, one for each name. Before the
shutdown, the table lists exactly the open requests. A notification that cancels a request marks
the open request of that name and changes nothing else, and it changes nothing at all if no request
of that name is open. -/
theorem requests_answered_once (settings : Settings) (actions : List (SessionAction π))
    (hrunning : SessionAction.leave ∉ actions) (hdistinct : Distinct settings actions) :
    let s := run settings actions
    (∀ now earlier r later, now <+: actions → now = earlier ++ .message (.request r) :: later →
      r.id ∉ received later →
        (Unanswered settings now r.id ∧
          (run settings now).responses r.id = (run settings earlier).responses r.id) ∨
        (¬ Unanswered settings now r.id ∧
          (run settings now).responses r.id = (run settings earlier).responses r.id + 1)) ∧
    (∀ now, now <+: actions → ∀ id, (run settings now).responses id ≤ (received now).count id) ∧
    (s.tasks.map (·.id)).Nodup ∧
    (∀ id, Unanswered settings actions id ↔ id ∈ s.tasks.map (·.id)) ∧
    (s.shutdownRequested = false → (s.inFlight.map Prod.fst).Nodup ∧
      ∀ id, id ∈ s.inFlight.map Prod.fst ↔ Unanswered settings actions id) ∧
    ∀ n p, n.method = Method.cancelRequest → readParams CancelParams n.params = .ok p →
      let s' := run settings (actions ++ [.message (.notification n)])
      s'.tasks = s.tasks.map (fun t => if t.id = p.id then { t with cancelled := true } else t) ∧
      s' = { s with tasks := s'.tasks, jobs := s'.jobs } ∧
      (¬ Unanswered settings actions p.id → s' = s) := by
  intro s
  have hmatched : s.docket.Matched := run_matched hrunning hdistinct
  have hids : s.docket.slips.map (·.id) = s.tasks.map (·.id) := by
    rw [docket, List.map_map]
    rfl
  have hopen (id : RequestId) : Unanswered settings actions id ↔ id ∈ s.tasks.map (·.id) := by
    rw [← hids]
    exact unanswered_iff_open hrunning id
  refine ⟨fun now earlier r later hnow heq hlater => ?_, fun now hnow id => ?_, ?_, hopen,
    fun hbefore => ⟨hmatched.keys_nodup, fun id => ?_⟩, fun n p hmethod hparams => ?_⟩
  · exact answered_once (fun hmem => hrunning (hnow.subset hmem)) (hdistinct.earlier hnow) heq
      hlater
  · have hbalanced : (run settings now).docket.Balanced (received now) :=
      run_balanced fun hmem => hrunning (hnow.subset hmem)
    exact Nat.le.intro (hbalanced id)
  · exact hids ▸ hmatched.ids_nodup
  · -- before the shutdown, no open request is missing from the table
    rw [hopen, ← hids]
    refine ⟨fun hmem => ?_, fun hmem => ?_⟩
    · obtain ⟨⟨_, number⟩, hentry, rfl⟩ := List.mem_map.mp hmem
      obtain ⟨slip, hslip, rfl, -⟩ := hmatched.open_of_mem _ number hentry
      exact List.mem_map_of_mem hslip
    · obtain ⟨slip, hslip, rfl⟩ := List.mem_map.mp hmem
      rcases hmatched.listed slip hslip with hlisted | ⟨hstopped, -⟩
      · exact List.mem_map.mpr ⟨_, hlisted, rfl⟩
      · cases hbefore.symm.trans hstopped
  · have hstep : run settings (actions ++ [.message (.notification n)]) =
        (s.cancelRequest p.id).2 := by
      rw [run_append, step_cancel _ hmethod hparams]
    rw [hstep]
    refine ⟨cancelRequest_tasks hmatched (run_numbered settings actions) p.id, ?_,
      fun hanswered => ?_⟩
    · rw [cancelRequest]
      split <;> rfl
    · rw [cancelRequest]
      split
      · rename_i number hlookup
        obtain ⟨slip, hslip, hid, -⟩ := hmatched.open_of_lookup hlookup
        refine absurd ((hopen p.id).mpr ?_) hanswered
        rw [← hids, ← hid]
        exact List.mem_map_of_mem hslip
      · rfl

/-- A request under a number, and one under a text that spells it. The first one is looked at, and
its number is used again. -/
def reusedRun : List (SessionAction Unit) :=
  [asks 1 Method.hover .null,
    .message (.request { id := .text "1", method := Method.hover }), nextJob,
    asks 1 Method.hover .null]

/-- Both are open, and only the one under the number is hit when that is cancelled. -/
theorem requests_answered_once_reusedRun :
    let s := run {} reusedRun
    let s' := run {} (reusedRun ++ [tells Method.cancelRequest (Json.object [("id", .int 1)])])
    s.responses (.number 1) = 1 ∧ s.inFlight.map Prod.fst = [.text "1", .number 1] ∧
      Unanswered {} reusedRun (.number 1) ∧
      s'.tasks.map (fun t => (t.id, t.cancelled)) = [(.text "1", false), (.number 1, true)] := by
  intro s s'
  have hdistinct : Distinct {} reusedRun := by
    have hnil : Distinct {} ([] : List (SessionAction Unit)) := fun earlier r h => by simp at h
    refine (((hnil.append ?_).append ?_).append ?_).append ?_ <;> intro id hid <;> cases hid <;>
      decide +kernel
  obtain ⟨-, -, -, -, htable, hcancel⟩ :=
    requests_answered_once {} reusedRun (by simp [reusedRun, asks, nextJob]) hdistinct
  have hkeys : s.inFlight.map Prod.fst = [.text "1", .number 1] := by decide +kernel
  have hunanswered : Unanswered {} reusedRun (.number 1) := by
    refine ((htable (by decide +kernel)).2 _).mp ?_
    rw [hkeys]
    decide
  refine ⟨by decide +kernel, hkeys, hunanswered, ?_⟩
  have htasks : s'.tasks = _ := (hcancel
    { method := Method.cancelRequest, params := some (Json.object [("id", .int 1)]) }
    ⟨.number 1⟩ rfl rfl).1
  rw [htasks]
  decide +kernel

end Session

end ProviderHub
