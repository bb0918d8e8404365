import ProviderHub.Proofs.Watch.Conservation

/-!
Registrations that leak.

The client answers each registration once, with the other ones of the same flush. So a registration
that it has accepted is not among those of a flush that still waits, and a refusal that drops it is
the answer to another flush: one that has sent the same root before, under a number that has since
been replaced.

* `WatchHistory.accepted_held_iff`: exactly when a registration that the client has accepted is
  still accounted for;
* `WatchHistory.accepted_held_iff_lateRefusal`: a run in which one is not.
-/

namespace ProviderHub

open WatchEngine

namespace WatchHistory

variable {h : WatchHistory}

/-! ### Registrations that wait for an answer -/

lemma mem_awaited {flush : FlushId} {id : RegistrationId} :
    id ∈ h.awaited flush ↔
      (∃ roots unregister, h.engine.stage? flush = some (.registering roots unregister)) ∧
        id ∈ h.batch flush := by
  rw [awaited]
  split
  · rename_i roots unregister hstage
    exact ⟨fun hid => ⟨⟨roots, unregister, hstage⟩, hid⟩, And.right⟩
  · rename_i hne
    refine iff_of_false (by simp) ?_
    rintro ⟨⟨roots, unregister, hstage⟩, -⟩
    exact hne roots unregister hstage

/-- A number has been sent by one flush only. -/
lemma Consistent.flush_eq_of_mem_batch (hc : h.Consistent) {f g : FlushId} {id : RegistrationId}
    (hf : id ∈ h.batch f) (hg : id ∈ h.batch g) : f = g := by
  have hnodup := hc.nodup_numbers
  rw [registrations, List.map_flatMap, List.nodup_flatMap] at hnodup
  have : Std.Symm (Function.onFun List.Disjoint fun c : FlushCall =>
    c.call.registrations.map Registration.id) := ⟨fun _ _ hab => hab.symm⟩
  simp only [batch, List.map_flatMap, List.mem_flatMap, List.mem_filter, beq_iff_eq] at hf hg
  obtain ⟨c, ⟨hc, rfl⟩, hidc⟩ := hf
  obtain ⟨d, ⟨hd, rfl⟩, hidd⟩ := hg
  by_contra hne
  have hcd : c ≠ d := fun heq => hne (congrArg FlushCall.flush heq)
  exact hnodup.2.forall hc hd hcd hidc hidd

lemma takeBack_batch (h : WatchHistory) (id : FlushId) (ids : List RegistrationId)
    (flush : FlushId) : (h.takeBack id ids).batch flush = h.batch flush := by
  rw [batch, takeBack, List.filter_append, List.flatMap_append, takeBack_fst]
  split
  · simp [batch]
  · by_cases hflush : id = flush <;> simp [batch, hflush, RegistrarCall.registrations]

/-- A flush that goes on no longer waits for registrations, and the others wait as before. -/
lemma mem_takeBack_awaited {id : FlushId} {ids : List RegistrationId} {flush : FlushId}
    {n : RegistrationId} (hn : n ∈ (h.takeBack id ids).awaited flush) :
    flush ≠ id ∧ n ∈ h.awaited flush := by
  obtain ⟨⟨roots, unregister, hstage⟩, hbatch⟩ := mem_awaited.mp hn
  have hstage' : (h.engine.takeBack id ids).2.stage? flush = _ := hstage
  rw [takeBack_stage?] at hstage'
  split at hstage'
  · split at hstage' <;> cases hstage'
  · rename_i hne
    rw [takeBack_batch] at hbatch
    exact ⟨hne, mem_awaited.mpr ⟨⟨roots, unregister, hstage'⟩, hbatch⟩⟩

/-- A flush that starts waits for the registrations that it has just sent. -/
lemma mem_register_awaited (hc : h.Consistent) {e : WatchEngine}
    {assigned : List (RootId × Registration)} (ha : Assigned h.engine.emptied e assigned)
    {stage : FlushStage} {flush : FlushId} {n : RegistrationId}
    (hn : n ∈ awaited
      { h with
        engine := { e with flushes := e.flushes ++ [⟨h.engine.nextFlush, stage⟩] }
        calls := h.calls ++ [⟨h.engine.nextFlush, .register (assigned.map Prod.snd)⟩] } flush) :
    n ∈ h.awaited flush ∨ n ∈ assigned.map (·.2.id) := by
  obtain ⟨⟨roots, unregister, hstage⟩, hbatch⟩ := mem_awaited.mp hn
  rw [batch, List.filter_append, List.flatMap_append, List.map_append, List.mem_append] at hbatch
  rcases hbatch with hold | hnew
  · -- an older flush has sent it, and so it is not the one that starts
    obtain ⟨r, hr, rfl⟩ := List.mem_map.mp hold
    obtain ⟨c, hcall, hrc⟩ := List.mem_flatMap.mp hr
    obtain ⟨hcall, hflush⟩ := List.mem_filter.mp hcall
    have hne : h.engine.nextFlush ≠ flush := by
      rw [← beq_iff_eq.mp hflush]
      exact Nat.ne_of_gt (hc.call_lt c hcall)
    refine .inl (mem_awaited.mpr ⟨⟨roots, unregister, ?_⟩, hold⟩)
    have hwaits := (waiting_stage? (ha.flushes ▸ hc.flush_lt) flush).symm.trans hstage
    rwa [if_neg hne.symm, stage?, ha.flushes] at hwaits
  · by_cases hflush : h.engine.nextFlush = flush
    · exact .inr (by simpa [hflush, RegistrarCall.registrations] using hnew)
    · simp [hflush] at hnew

/-- What has been sent before waits after an action only if it has waited before, for another answer
than the action is. -/
lemma mem_awaited_of_step (hc : h.Consistent) {action : WatchAction} {flush : FlushId}
    {id : RegistrationId} (hsent : id ∈ h.registrations.map Registration.id)
    (hid : id ∈ (h.step action).awaited flush) :
    id ∈ h.awaited flush ∧ ∀ accepted, action ≠ .reply flush accepted := by
  rcases step_cases h hc.sound action with
    ⟨e, -, hquiet, hnone, heq⟩ | ⟨onDisk, assigned, e, rfl, -, ha, heq⟩ |
    ⟨flush', accepted, roots, unregister, rfl, -, heq⟩ | ⟨flush', accepted, rfl, -, heq⟩
  · have hstage : e.stage? flush = h.engine.stage? flush := by rw [stage?, stage?, hquiet.flushes]
    obtain ⟨⟨roots, unregister, hwaits⟩, hbatch⟩ := mem_awaited.mp (heq ▸ hid)
    have hwaits' : h.engine.stage? flush = _ := hstage.symm.trans hwaits
    refine ⟨mem_awaited.mpr ⟨⟨roots, unregister, hwaits'⟩, hbatch⟩, fun accepted haction => ?_⟩
    rw [hnone flush accepted haction] at hwaits'
    cases hwaits'
  · refine ⟨?_, by simp⟩
    have hflushes := ha.flushes
    rcases heq with ⟨rfl, heq⟩ | heq
    · rw [heq] at hid
      obtain ⟨⟨roots, unregister, hwaits⟩, hbatch⟩ := mem_awaited.mp (mem_takeBack_awaited hid).2
      refine mem_awaited.mpr ⟨⟨roots, unregister, ?_⟩, hbatch⟩
      rwa [stage?, ← hflushes]
    · rw [heq] at hid
      refine (mem_register_awaited hc ha hid).resolve_right fun hnew => ?_
      rw [ha.numbers, List.mem_range'_1] at hnew
      exact absurd (hc.number_lt hsent) (Nat.not_lt.mpr hnew.1)
  · rw [heq] at hid
    obtain ⟨hne, hwaits⟩ := mem_takeBack_awaited hid
    refine ⟨?_, by simp [Ne.symm hne]⟩
    cases accepted <;> exact hwaits
  · rw [heq] at hid
    obtain ⟨hne, hwaits⟩ := mem_takeBack_awaited hid
    exact ⟨hwaits, by simp [Ne.symm hne]⟩

/-! ### Registrations that are answered -/

lemma mem_accepted_step {action : WatchAction} {id : RegistrationId} :
    id ∈ (h.step action).accepted ↔
      id ∈ h.accepted ∨ ∃ flush, action = .reply flush true ∧ id ∈ h.awaited flush := by
  cases action with
  | reply flush accepted => cases accepted <;> simp [step]
  | _ => simp [step]

/-- What has been accepted no longer waits. -/
lemma not_awaited_of_accepted (actions : List WatchAction) {id : RegistrationId}
    (hid : id ∈ (run actions).accepted) (flush : FlushId) : id ∉ (run actions).awaited flush := by
  induction actions using List.reverseRecOn with
  | nil => cases hid
  | append_singleton actions action ih =>
      have hc := consistent_run actions
      rw [run_append] at hid ⊢
      intro hwaits
      rcases mem_accepted_step.mp hid with hold | ⟨answered, rfl, hanswered⟩
      · exact ih hold (mem_awaited_of_step hc (hc.accepted id hold) hwaits).1
      · have hbatch := (mem_awaited.mp hanswered).2
        obtain ⟨hold, hother⟩ :=
          mem_awaited_of_step hc (mem_registrations_of_mem_batch hbatch) hwaits
        have heq := hc.flush_eq_of_mem_batch hbatch (mem_awaited.mp hold).2
        exact hother true (by rw [heq])

/-- What has been refused is never accepted: its flush does not wait for it again. -/
lemma not_accepted_of_refused {before : List WatchAction} {flush : FlushId} {id : RegistrationId}
    (hid : id ∈ (run before).awaited flush) (after : List WatchAction) :
    (∀ f, id ∉ (run (before ++ .reply flush false :: after)).awaited f) ∧
      id ∉ (run (before ++ .reply flush false :: after)).accepted := by
  have hc := consistent_run before
  have hbatch := (mem_awaited.mp hid).2
  have hsent := mem_registrations_of_mem_batch hbatch
  induction after using List.reverseRecOn with
  | nil =>
      rw [run_append]
      constructor
      · intro f hwaits
        obtain ⟨hold, hother⟩ := mem_awaited_of_step hc hsent hwaits
        have heq := hc.flush_eq_of_mem_batch hbatch (mem_awaited.mp hold).2
        exact hother false (by rw [heq])
      · intro haccepted
        rcases mem_accepted_step.mp haccepted with hold | ⟨f, heq, -⟩
        · exact not_awaited_of_accepted before hold flush hid
        · cases heq
  | append_singleton after action ih =>
      obtain ⟨hnone, hnot⟩ := ih
      have hc' := consistent_run (before ++ .reply flush false :: after)
      have hsent' := List.map_subset Registration.id
        (registrations_subset_run before (.reply flush false :: after)) hsent
      rw [← List.cons_append, ← List.append_assoc, run_append]
      constructor
      · exact fun f hwaits => hnone f (mem_awaited_of_step hc' hsent' hwaits).1
      · intro haccepted
        rcases mem_accepted_step.mp haccepted with hold | ⟨f, -, hwaits⟩
        · exact hnot hold
        · exact hnone f hwaits

/-! ### Registrations that are lost -/

/-- **Accepted registrations leak through late refusals, and in no other way**: a registration that
the client has accepted is current at a root, or to be taken back, or held by a flush that takes it
back, or has been taken back, unless the client has refused what another flush had sent while a
root of that flush was registered under this number. -/
theorem accepted_held_iff (actions : List WatchAction) (id : RegistrationId)
    (hid : id ∈ (run actions).accepted) :
    ((∃ r ∈ (run actions).engine.roots, r.status = .registered id) ∨
      id ∈ (run actions).engine.pendingUnregister ∨
      (∃ f ∈ (run actions).engine.flushes, id ∈ f.toUnregister) ∨
      ∃ c ∈ (run actions).calls, id ∈ c.call.unregistered) ↔
    ¬ ∃ before flush after roots unregister, actions = before ++ .reply flush false :: after ∧
      (run before).engine.stage? flush = some (.registering roots unregister) ∧
      id ∉ (run before).batch flush ∧
      ∃ r ∈ (run before).engine.roots, r.id ∈ roots ∧ r.status = .registered id := by
  have hsent := (consistent_run actions).accepted id hid
  rw [← mem_holdings, mem_holdings_iff actions hsent]
  constructor
  · rintro hkept ⟨before, flush, after, roots, unregister, heq, hstage, -, hroot⟩
    refine hkept before (.reply flush false) after heq ?_
    exact mem_exposed.mpr ⟨roots, unregister, hstage, hroot⟩
  · intro hnone before action after heq hdropped
    unfold dropped at hdropped
    split at hdropped
    · rename_i flush
      obtain ⟨roots, unregister, hstage, hroot⟩ := mem_exposed.mp hdropped
      refine hnone ⟨before, flush, after, roots, unregister, heq, hstage, fun hbatch => ?_, hroot⟩
      -- had this flush sent it, it would have been refused and not accepted
      have hwaits : id ∈ (run before).awaited flush :=
        mem_awaited.mpr ⟨⟨roots, unregister, hstage⟩, hbatch⟩
      exact (not_accepted_of_refused hwaits after).2 (heq ▸ hid)
    · cases hdropped

/-- A directory is watched for creations and, while it is being registered, also for deletions. The
second registration is accepted; then the first one is refused. -/
def lateRefusal : List WatchAction :=
  let pattern : WatchPattern :=
    ⟨{ scheme := "mem", authority := some { host := "h" }, path := "/a" }, true⟩
  [.enable, .add pattern ⟨1⟩, .flush fun _ => true, .add pattern ⟨4⟩, .flush fun _ => true,
    .reply 1 true, .reply 0 false]

/-- After a late refusal the registration that the client has accepted is lost: no root has it, and it
is not and will not be taken back. -/
theorem accepted_held_iff_lateRefusal :
    2 ∈ (run lateRefusal).accepted ∧
    ¬ ((∃ r ∈ (run lateRefusal).engine.roots, r.status = .registered 2) ∨
      2 ∈ (run lateRefusal).engine.pendingUnregister ∨
      (∃ f ∈ (run lateRefusal).engine.flushes, 2 ∈ f.toUnregister) ∨
      ∃ c ∈ (run lateRefusal).calls, 2 ∈ c.call.unregistered) := by
  have haccepted : 2 ∈ (run lateRefusal).accepted := by decide +kernel
  refine ⟨haccepted, fun hheld => ?_⟩
  have hnone := (accepted_held_iff lateRefusal 2 haccepted).mp hheld
  refine hnone ⟨lateRefusal.take 6, 0, [], [0], [], rfl, ?_, ?_, ?_⟩ <;> decide +kernel

end WatchHistory

end ProviderHub
