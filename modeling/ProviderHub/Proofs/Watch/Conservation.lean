import ProviderHub.Proofs.Watch.History

/-!
Where registrations are while an engine runs.

A registration that has been sent is current at a root, or waits to be taken back, or is held by a
flush that will take it back, or has been taken back. Each action moves registrations between these
places; the only one that loses any is the refusal of a flush, which marks the roots of that flush as
rejected whatever their current registrations are.

* `WatchHistory.step_conserves`: what an action sends and what a refusal drops make up the
  difference between the holdings before and after it;
* `WatchHistory.mem_holdings_iff`: a registration that has been sent is held exactly if no refusal
  of the run has dropped it.
-/

namespace ProviderHub

open List (Perm)
open WatchEngine

namespace WatchEngine

/-- Marking roots as rejected drops the registrations that these roots have. -/
lemma reject_perm (e : WatchEngine) (ids : List RootId) :
    (e.roots.flatMap registrationOf).Perm ((e.reject ids).roots.flatMap registrationOf ++
      (e.roots.filter fun r => ids.contains r.id).flatMap registrationOf) := by
  show (e.roots.flatMap registrationOf).Perm (List.flatMap registrationOf (e.roots.map _) ++ _)
  induction e.roots with
  | nil => exact .refl _
  | cons r roots ih =>
      by_cases hr : ids.contains r.id = true
      · have hnone : registrationOf { r with status := .rejected } = [] := rfl
        simp only [List.filter_cons, List.map_cons, List.flatMap_cons, if_pos hr, hnone,
          List.nil_append]
        exact (ih.append_left _).trans (List.perm_append_comm_assoc _ _ _)
      · simp only [List.filter_cons, List.map_cons, List.flatMap_cons, if_neg hr, List.append_assoc]
        exact ih.append_left _

/-- A flush that waits comes apart from the others, with what it holds. -/
lemma perm_toUnregister {e : WatchEngine} (hnodup : (e.flushes.map Flush.id).Nodup) {id : FlushId}
    {stage : FlushStage} (hstage : e.stage? id = some stage) :
    (e.flushes.flatMap Flush.toUnregister).Perm
      ((e.flushes.filter (·.id != id)).flatMap Flush.toUnregister ++
        Flush.toUnregister ⟨id, stage⟩) := by
  obtain ⟨f, hf, rfl⟩ := Option.map_eq_some_iff.mp hstage
  have hperm := (perm_cons_filter_of_find? hnodup hf).flatMap_right Flush.toUnregister
  rw [List.flatMap_cons] at hperm
  exact hperm.trans List.perm_append_comm

end WatchEngine

namespace WatchHistory

variable {h : WatchHistory}

/-! ### Holdings -/

/-- The registrations that are accounted for: those that are current at a root or are to be taken
back, those that a flush holds to take them back, and those that have been taken back. -/
def holdings (h : WatchHistory) : List RegistrationId :=
  h.engine.held ++ h.engine.flushes.flatMap Flush.toUnregister ++ h.unregistered

lemma mem_holdings {id : RegistrationId} :
    id ∈ h.holdings ↔
      (∃ r ∈ h.engine.roots, r.status = .registered id) ∨ id ∈ h.engine.pendingUnregister ∨
      (∃ f ∈ h.engine.flushes, id ∈ f.toUnregister) ∨ ∃ c ∈ h.calls, id ∈ c.call.unregistered := by
  simp only [holdings, held, unregistered, List.mem_append, List.mem_flatMap, mem_registrationOf,
    or_assoc]

/-- The registrations that are current at the roots that a flush has sent and waits for. -/
def exposed (h : WatchHistory) (flush : FlushId) : List RegistrationId :=
  match h.engine.stage? flush with
  | some (.registering roots _) =>
    (h.engine.roots.filter fun r => roots.contains r.id).flatMap registrationOf
  | _ => []

/-- The registrations that an action drops. -/
def dropped (h : WatchHistory) : WatchAction → List RegistrationId
  | .reply flush false => h.exposed flush
  | _ => []

lemma mem_exposed {flush : FlushId} {id : RegistrationId} :
    id ∈ h.exposed flush ↔ ∃ roots unregister,
      h.engine.stage? flush = some (.registering roots unregister) ∧
      ∃ r ∈ h.engine.roots, r.id ∈ roots ∧ r.status = .registered id := by
  rw [exposed]
  split
  · rename_i roots unregister hstage
    simp [hstage, mem_registrationOf, and_assoc]
  · rename_i hne
    refine iff_of_false (by simp) ?_
    rintro ⟨roots, unregister, hstage, -⟩
    exact hne roots unregister hstage

lemma mem_holdings_of_mem_dropped {action : WatchAction} {id : RegistrationId}
    (hid : id ∈ h.dropped action) : id ∈ h.holdings := by
  unfold dropped at hid
  split at hid
  · obtain ⟨-, -, -, r, hr, -, hstatus⟩ := mem_exposed.mp hid
    exact mem_holdings.mpr (.inl ⟨r, hr, hstatus⟩)
  · cases hid

/-! ### What an action sends and drops -/

/-- A flush that goes on hands what it has held to the client. -/
lemma takeBack_holdings_perm (h : WatchHistory) (id : FlushId) (ids : List RegistrationId) :
    (h.takeBack id ids).holdings.Perm
      (h.engine.held ++ (h.engine.flushes.filter (·.id != id)).flatMap Flush.toUnregister ++ ids ++
        h.unregistered) := by
  have hheld : (h.takeBack id ids).engine.held = h.engine.held :=
    takeBack_engine_congr held (fun _ _ => rfl) (fun _ => rfl) h id ids
  have hcall := takeBack_unregistered h.engine id ids
  have hcalls : (h.takeBack id ids).unregistered =
      h.unregistered ++ (h.engine.takeBack id ids).1.toList.flatMap RegistrarCall.unregistered := by
    show (h.calls ++ List.map _ _).flatMap _ = _
    rw [List.flatMap_append, List.flatMap_map]
    rfl
  rw [holdings, hheld, hcalls, List.perm_iff_count]
  intro a
  have hcount := congrArg (List.count a) hcall
  simp only [List.count_append] at hcount ⊢
  show _ + List.count a ((h.engine.takeBack id ids).2.flushes.flatMap _) + _ = _
  omega

/-- A flush that starts takes over what is to be taken back, and the numbers that it gives become
current at their roots. -/
lemma assigned_held_perm {e : WatchEngine} {assigned : List (RootId × Registration)}
    (ha : Assigned h.engine.emptied e assigned) :
    (e.held ++ h.engine.pendingUnregister).Perm
      (h.engine.held ++ (assigned.map Prod.snd).map Registration.id) := by
  have hpending : e.pendingUnregister = [] := ha.pendingUnregister
  rw [held, held, hpending, List.map_map, List.perm_iff_count]
  intro a
  have hcount := ha.current.count_eq a
  simp only [List.count_append, List.count_nil] at hcount ⊢
  show _ = _ + List.count a (assigned.map (·.2.id))
  have hroots : List.count a (h.engine.emptied.roots.flatMap registrationOf) =
      List.count a (h.engine.roots.flatMap registrationOf) := rfl
  omega

/-- What has been sent between two histories and what has been dropped make up the difference of
their holdings. -/
def Conserves (h h' : WatchHistory) (dropped : List RegistrationId) : Prop :=
  ∃ new, h'.registrations = h.registrations ++ new ∧
    (h.holdings ++ new.map Registration.id).Perm (h'.holdings ++ dropped)

lemma conserves_quiet {e : WatchEngine} (hquiet : Quiet h.engine e) :
    Conserves h { h with engine := e } [] := by
  refine ⟨[], (List.append_nil _).symm, ?_⟩
  rw [List.map_nil, List.append_nil, List.append_nil, holdings, holdings, hquiet.flushes]
  exact (hquiet.held.symm.append_right _).append_right _

/-- A flush without roots to register goes on at once. -/
lemma conserves_takeBack (hc : h.Consistent) {e : WatchEngine}
    (ha : Assigned h.engine.emptied e []) :
    Conserves h (takeBack { h with engine := e } h.engine.nextFlush h.engine.pendingUnregister)
      [] := by
  refine ⟨[], by rw [takeBack_registrations, List.append_nil]; rfl, ?_⟩
  have hflushes := ha.flushes
  have hothers : e.flushes.filter (·.id != h.engine.nextFlush) = h.engine.flushes := by
    rw [hflushes]
    refine List.filter_eq_self.mpr fun f hf => ?_
    simpa using Nat.ne_of_lt (hc.flush_lt f hf)
  have hback : Perm _ (e.held ++
      (e.flushes.filter (·.id != h.engine.nextFlush)).flatMap Flush.toUnregister ++
        h.engine.pendingUnregister ++ h.unregistered) :=
    takeBack_holdings_perm { h with engine := e } h.engine.nextFlush h.engine.pendingUnregister
  rw [List.map_nil, List.append_nil, List.append_nil]
  refine Perm.trans ?_ hback.symm
  rw [hothers, holdings, List.perm_iff_count]
  intro a
  have hcount := (assigned_held_perm ha).count_eq a
  simp only [List.count_append, List.map_nil, List.count_nil] at hcount ⊢
  omega

/-- A flush that waits for registrations holds what it takes back next. -/
lemma conserves_register {e : WatchEngine} {assigned : List (RootId × Registration)}
    (ha : Assigned h.engine.emptied e assigned) :
    Conserves h
      { h with
        engine := { e with flushes := e.flushes ++
          [⟨h.engine.nextFlush, .registering (assigned.map Prod.fst) h.engine.pendingUnregister⟩] }
        calls := h.calls ++ [⟨h.engine.nextFlush, .register (assigned.map Prod.snd)⟩] } [] := by
  refine ⟨assigned.map Prod.snd, by simp [registrations, RegistrarCall.registrations], ?_⟩
  have hflushes := ha.flushes
  have hheld : ∀ fs, held { e with flushes := fs } = e.held := fun _ => rfl
  rw [List.perm_iff_count]
  intro a
  have hcount := (assigned_held_perm ha).count_eq a
  simp only [holdings, unregistered, hheld, hflushes, RegistrarCall.unregistered,
    Flush.toUnregister, List.flatMap_append, List.flatMap_cons, List.flatMap_nil,
    List.append_nil, List.count_append] at hcount ⊢
  omega

/-- A refusal drops what is current at the roots of the flush, and an acceptance nothing. -/
lemma answered_held_perm {flush : FlushId} {roots : List RootId} {unregister : List RegistrationId}
    (hstage : h.engine.stage? flush = some (.registering roots unregister)) (accepted : Bool) :
    h.engine.held.Perm ((if accepted then h.engine else h.engine.reject roots).held ++
      h.dropped (.reply flush accepted)) := by
  cases accepted with
  | true => simp [dropped]
  | false =>
      have hexposed : h.dropped (.reply flush false) =
          (h.engine.roots.filter fun r => roots.contains r.id).flatMap registrationOf := by
        rw [dropped, exposed, hstage]
      rw [hexposed, if_neg Bool.false_ne_true, List.perm_iff_count]
      intro a
      have hcount := (reject_perm h.engine roots).count_eq a
      simp only [held, List.count_append] at hcount ⊢
      show _ = _ + List.count a h.engine.pendingUnregister + _
      omega

lemma conserves_answer (hc : h.Consistent) {flush : FlushId} {roots : List RootId}
    {unregister : List RegistrationId}
    (hstage : h.engine.stage? flush = some (.registering roots unregister)) (accepted : Bool) :
    Conserves h
      (takeBack
        { h with
          engine := if accepted then h.engine else h.engine.reject roots
          accepted := h.accepted ++ if accepted then h.batch flush else [] } flush unregister)
      (h.dropped (.reply flush accepted)) := by
  refine ⟨[], by rw [takeBack_registrations, List.append_nil]; rfl, ?_⟩
  have hsame : (if accepted then h.engine else h.engine.reject roots).flushes =
      h.engine.flushes := by
    cases accepted <;> rfl
  rw [List.map_nil, List.append_nil]
  refine Perm.trans ?_ ((takeBack_holdings_perm _ flush unregister).symm.append_right _)
  show Perm _ (_ ++ _ ++ _ ++ h.unregistered ++ _)
  rw [hsame, holdings, List.perm_iff_count]
  intro a
  have hheld := (answered_held_perm hstage accepted).count_eq a
  have hflushes := (perm_toUnregister hc.flushIds hstage).count_eq a
  simp only [Flush.toUnregister, List.count_append] at hheld hflushes ⊢
  omega

/-- A flush that ends has nothing left. -/
lemma conserves_end (hc : h.Consistent) {flush : FlushId}
    (hstage : h.engine.stage? flush = some .unregistering) :
    Conserves h (h.takeBack flush []) [] := by
  refine ⟨[], by rw [takeBack_registrations, List.append_nil], ?_⟩
  rw [List.map_nil, List.append_nil, List.append_nil]
  refine Perm.trans ?_ (takeBack_holdings_perm h flush []).symm
  rw [holdings, List.append_nil]
  have hflushes := perm_toUnregister hc.flushIds hstage
  rw [Flush.toUnregister, List.append_nil] at hflushes
  exact (hflushes.append_left _).append_right _

/-- **Conservation**: an action that sends registrations holds them afterwards, and of all that has
been held it loses only what a refusal drops. -/
lemma step_conserves (hc : h.Consistent) (action : WatchAction) :
    Conserves h (h.step action) (h.dropped action) := by
  have hnone : ∀ stage, (∀ roots unregister, stage ≠ some (.registering roots unregister)) →
      (∀ flush accepted, action = .reply flush accepted → h.engine.stage? flush = stage) →
      h.dropped action = [] := by
    intro stage hstage haction
    refine List.eq_nil_iff_forall_not_mem.mpr fun id hid => ?_
    unfold dropped at hid
    split at hid
    · obtain ⟨roots, unregister, hregistering, -⟩ := mem_exposed.mp hid
      exact hstage roots unregister ((haction _ _ rfl).symm.trans hregistering)
    · cases hid
  rcases step_cases h hc.sound action with
    ⟨e, -, hquiet, hstage, heq⟩ | ⟨onDisk, assigned, e, rfl, -, ha, heq⟩ |
    ⟨flush, accepted, roots, unregister, rfl, hstage, heq⟩ | ⟨flush, accepted, rfl, hstage, heq⟩
  · rw [heq, hnone none (by simp) hstage]
    exact conserves_quiet hquiet
  · rcases heq with ⟨rfl, heq⟩ | heq
    · rw [heq]
      exact conserves_takeBack hc ha
    · rw [heq]
      exact conserves_register ha
  · rw [heq]
    exact conserves_answer hc hstage accepted
  · rw [heq, hnone (some .unregistering) (by simp) (by simpa using hstage)]
    exact conserves_end hc hstage

/-! ### Registrations over a run -/

/-- No registration is held twice, and none that has not been sent. -/
lemma holdings_subperm_run (actions : List WatchAction) :
    (run actions).holdings.Subperm ((run actions).registrations.map Registration.id) := by
  induction actions using List.reverseRecOn with
  | nil => exact List.nil_subperm
  | append_singleton actions action ih =>
      obtain ⟨new, hsent, hperm⟩ := step_conserves (consistent_run actions) action
      rw [run_append, hsent, List.map_append]
      have hkept : ((run actions).step action).holdings.Subperm
          (((run actions).step action).holdings ++ (run actions).dropped action) :=
        (List.sublist_append_left _ _).subperm
      exact hkept.trans (hperm.symm.subperm.trans ((List.subperm_append_right _).mpr ih))

lemma nodup_holdings_run (actions : List WatchAction) : (run actions).holdings.Nodup := by
  have hnodup := List.nodup_iff_count_le_one.mp (consistent_run actions).nodup_numbers
  refine List.nodup_iff_count_le_one.mpr fun id => ?_
  exact ((holdings_subperm_run actions).count_le id).trans (hnodup id)

lemma mem_registrations_of_mem_holdings {actions : List WatchAction} {id : RegistrationId}
    (hid : id ∈ (run actions).holdings) :
    id ∈ (run actions).registrations.map Registration.id :=
  (holdings_subperm_run actions).subset hid

/-- After an action a registration is held if it was held or has been sent by the action, and has
not been dropped. -/
lemma mem_holdings_step (actions : List WatchAction) (action : WatchAction) (id : RegistrationId)
    (hid : id ∈ ((run actions).step action).registrations.map Registration.id) :
    id ∈ ((run actions).step action).holdings ↔
      (id ∈ (run actions).registrations.map Registration.id → id ∈ (run actions).holdings) ∧
        id ∉ (run actions).dropped action := by
  obtain ⟨new, hsent, hperm⟩ := step_conserves (consistent_run actions) action
  have hnodup : (((run actions).registrations.map Registration.id) ++
      new.map Registration.id).Nodup := by
    have hnumbers := (consistent_step (consistent_run actions) action).nodup_numbers
    rwa [hsent, List.map_append] at hnumbers
  have hnodup' : (((run actions).step action).holdings ++ (run actions).dropped action).Nodup := by
    obtain ⟨held, hheld, hsub⟩ := (List.subperm_append_right (new.map Registration.id)).mpr
      (holdings_subperm_run actions)
    exact (hheld.trans hperm).nodup_iff.mp (hnodup.sublist hsub)
  have hmem := hperm.mem_iff (a := id)
  rw [hsent, List.map_append] at hid
  rw [List.mem_append] at hid
  rw [List.mem_append, List.mem_append] at hmem
  have hdisjoint := List.disjoint_of_nodup_append hnodup
  have hdisjoint' := List.disjoint_of_nodup_append hnodup'
  constructor
  · intro hheld
    have hnot : id ∉ (run actions).dropped action := fun hdropped => hdisjoint' hheld hdropped
    refine ⟨fun hold => ?_, hnot⟩
    exact (hmem.mpr (.inl hheld)).resolve_right fun hnew => hdisjoint hold hnew
  · rintro ⟨hold, hnot⟩
    exact (hmem.mp (hid.imp_left hold)).resolve_right hnot

/-- What has been sent stays sent. -/
lemma registrations_subset_run (before after : List WatchAction) :
    (run before).registrations ⊆ (run (before ++ after)).registrations := by
  induction after using List.reverseRecOn with
  | nil =>
      rw [List.append_nil]
      exact List.Subset.refl _
  | append_singleton after action ih =>
      obtain ⟨new, hsent, -⟩ := step_conserves (consistent_run (before ++ after)) action
      rw [← List.append_assoc, run_append, hsent]
      exact List.Subset.trans ih (List.subset_append_left _ _)

/-- A registration that has been sent is held exactly if no action of the run has dropped it. -/
lemma mem_holdings_iff (actions : List WatchAction) {id : RegistrationId}
    (hid : id ∈ (run actions).registrations.map Registration.id) :
    id ∈ (run actions).holdings ↔ ∀ before action after, actions = before ++ action :: after →
      id ∉ (run before).dropped action := by
  induction actions using List.reverseRecOn with
  | nil => cases hid
  | append_singleton actions last ih =>
      rw [run_append] at hid ⊢
      rw [mem_holdings_step actions last id hid]
      constructor
      · rintro ⟨hold, hnot⟩ before action after heq
        rcases List.eq_nil_or_concat after with rfl | ⟨after, action', rfl⟩
        · obtain ⟨rfl, hlast⟩ := List.append_inj' heq rfl
          rwa [← List.head_eq_of_cons_eq hlast]
        · rw [List.concat_eq_append, ← List.cons_append, ← List.append_assoc] at heq
          obtain ⟨rfl, -⟩ := List.append_inj' heq rfl
          intro hdropped
          -- what is dropped has been sent before, so it is not one that the last action sends
          have hsent := mem_registrations_of_mem_holdings (mem_holdings_of_mem_dropped hdropped)
          have hsent' := List.map_subset Registration.id
            (registrations_subset_run before (action :: after)) hsent
          exact (ih hsent').mp (hold hsent') before action after rfl hdropped
      · intro hall
        refine ⟨fun hsent => (ih hsent).mpr fun before action after heq => ?_,
          hall actions last [] rfl⟩
        exact hall before action (after ++ [last]) (by simp [heq])

end WatchHistory

end ProviderHub
