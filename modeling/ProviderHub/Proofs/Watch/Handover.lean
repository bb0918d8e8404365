import ProviderHub.Proofs.Watch.Antichain
import ProviderHub.Proofs.Watch.Leak
import ProviderHub.Proofs.Watch.Smooth

/-!
Registrations that are replaced without a gap.

A flush takes back what has been replaced only after the client has accepted what the flush has sent
before. Until then these registrations can be replaced in turn, and a flush that starts later can be
answered earlier. Even so a watcher that a registration serves does not lose it before there is
another one: behind each registration that has gone there is a chain of later ones, and the last of
them is in force.

* `Registration.Serves`, `WatchHistory.InForce`: what a registration sees, and whether it does;
* `WatchHistory.Replaced`: what the next flush takes back has nothing to do with registered roots;
* `WatchHistory.Backed`: a registration that serves a watcher is held, or a later one has been
  accepted, or will have been before the first one is taken back; `backed_run` says so of all smooth
  runs from the moment when the watcher comes;
* `WatchHistory.coverage_kept`: no gap; and `WatchHistory.coverage_lost`: the one way in which there
  is one nevertheless.
-/

namespace ProviderHub

open WatchEngine

namespace Registration

/-- What the client watches for a registration: all that is below the base if the glob has two stars,
and its entries otherwise. -/
def pattern (reg : Registration) : WatchPattern :=
  ⟨reg.watcher.globPattern.baseUri, reg.watcher.globPattern.pattern == "**/*"⟩

/-- The changes that the client reports: all of them if none are named. -/
def kind (reg : Registration) : WatchKind := reg.watcher.kind.getD .all

/-- The client reports all that a watcher of this pattern and kind wants. -/
def Serves (reg : Registration) (pattern : WatchPattern) (kind : WatchKind) : Prop :=
  reg.pattern.covers pattern = true ∧ kind.Within reg.kind

instance (reg : Registration) (pattern : WatchPattern) (kind : WatchKind) :
    Decidable (reg.Serves pattern kind) :=
  inferInstanceAs (Decidable (_ ∧ _))

/-- A root is sent as what it is. -/
@[simp] lemma pattern_toWatcher (n : RegistrationId) (p : WatchPattern) (k : WatchKind) :
    pattern ⟨n, p.toWatcher k⟩ = p := by
  obtain ⟨base, recursive⟩ := p
  cases recursive <;> rfl

end Registration

namespace WatchHistory

variable {h : WatchHistory}

/-! ### What is added to a history -/

lemma calls_step (h : WatchHistory) (action : WatchAction) :
    ∃ new, (h.step action).calls = h.calls ++ new := by
  cases action with
  | flush onDisk => exact ⟨_, rfl⟩
  | reply flush accepted => exact ⟨_, rfl⟩
  | _ => exact ⟨[], (List.append_nil _).symm⟩

lemma batch_subset_step (h : WatchHistory) (action : WatchAction) (flush : FlushId) :
    h.batch flush ⊆ (h.step action).batch flush := by
  obtain ⟨new, hcalls⟩ := calls_step h action
  rw [batch, batch, hcalls, List.filter_append, List.flatMap_append, List.map_append]
  exact List.subset_append_left _ _

/-- What has been taken back stays so. -/
lemma unregistered_subset_run (before after : List WatchAction) :
    (run before).unregistered ⊆ (run (before ++ after)).unregistered := by
  induction after using List.reverseRecOn with
  | nil =>
      rw [List.append_nil]
      exact List.Subset.refl _
  | append_singleton after action ih =>
      obtain ⟨new, hcalls⟩ := calls_step (run (before ++ after)) action
      rw [← List.append_assoc, run_append, unregistered, unregistered, hcalls, List.flatMap_append]
      exact List.Subset.trans ih (List.subset_append_left _ _)

/-- What has been accepted stays so. -/
lemma accepted_subset_run (before after : List WatchAction) :
    (run before).accepted ⊆ (run (before ++ after)).accepted := by
  induction after using List.reverseRecOn with
  | nil =>
      rw [List.append_nil]
      exact List.Subset.refl _
  | append_singleton after action ih =>
      intro id hid
      rw [← List.append_assoc, run_append]
      exact mem_accepted_step.mpr (.inl (ih hid))

/-! ### Registrations that the next flush takes back -/

/-- A registered root is as it has been sent. -/
lemma Consistent.pattern_eq (hc : h.Consistent) {reg : Registration} (hreg : reg ∈ h.registrations)
    {r : WatchRoot} (hr : r ∈ h.engine.roots) (hstatus : r.status = .registered reg.id) :
    reg.pattern = r.pattern := by
  have heq : reg = ⟨reg.id, r.pattern.toWatcher r.kind⟩ :=
    List.inj_on_of_nodup_map hc.nodup_numbers hreg (hc.sent r hr _ hstatus) rfl
  rw [heq, Registration.pattern_toWatcher]

/-- What the next flush takes back has been registered for other patterns than those of the roots that
are registered now. -/
def Replaced (h : WatchHistory) : Prop :=
  ∀ reg ∈ h.registrations, reg.id ∈ h.engine.pendingUnregister →
    ∀ r ∈ h.engine.roots, ∀ n, r.status = .registered n → reg.pattern.Apart r.pattern

/-- A root that is taken out or queued again was apart from the other registered ones, and is no
longer registered itself. -/
lemma Replaced.quiet (hreplaced : h.Replaced) (hc : h.Consistent) (hchain : h.engine.Antichain)
    (hnodup : h.engine.held.Nodup) {e : WatchEngine} (hquiet : Quiet h.engine e) :
    Replaced { h with engine := e } := by
  intro reg hreg hqueued r hr n hn
  obtain ⟨s, hs, hsn, hpattern, -⟩ := hquiet.registered r hr n hn
  rw [← hpattern]
  have hheld : reg.id ∈ h.engine.held :=
    hquiet.held.mem_iff.mp (List.mem_append_right _ hqueued)
  rcases List.mem_append.mp hheld with hcurrent | hold
  · obtain ⟨t, ht, htn⟩ := List.mem_flatMap.mp hcurrent
    rw [mem_registrationOf] at htn
    have hne : t ≠ s := by
      rintro rfl
      have heq : n = reg.id := RootStatus.registered.inj (hsn.symm.trans htn)
      have hnodup' : e.held.Nodup := hquiet.held.nodup_iff.mpr hnodup
      refine List.disjoint_of_nodup_append hnodup' (a := reg.id) ?_ hqueued
      exact List.mem_flatMap.mpr ⟨r, hr, mem_registrationOf.mpr (heq ▸ hn)⟩
    rw [hc.pattern_eq hreg ht htn]
    exact hchain.apart ht hs hne
  · exact hreplaced reg hreg hold s hs n hsn

lemma Replaced.takeBack (hreplaced : h.Replaced) (id : FlushId) (ids : List RegistrationId) :
    (h.takeBack id ids).Replaced := by
  have hroots := takeBack_engine_congr roots (fun _ _ => rfl) (fun _ => rfl) h id ids
  have hqueue := takeBack_engine_congr pendingUnregister (fun _ _ => rfl) (fun _ => rfl) h id ids
  rw [Replaced, takeBack_registrations, hroots, hqueue]
  exact hreplaced

lemma Replaced.reject (hreplaced : h.Replaced) (roots : List RootId)
    (accepted : List RegistrationId) :
    Replaced { h with engine := h.engine.reject roots, accepted } := by
  intro reg hreg hqueued r' hr' n hn
  obtain ⟨r, hr, rfl⟩ := List.mem_map.mp hr'
  split at hn
  · cases hn
  · rename_i hother
    rw [if_neg hother]
    exact hreplaced reg hreg hqueued r hr n hn

lemma Replaced.step (hreplaced : h.Replaced) (hc : h.Consistent) (hchain : h.engine.Antichain)
    (hnodup : h.engine.held.Nodup) (action : WatchAction) : (h.step action).Replaced := by
  rcases step_cases h hc.sound action with
    ⟨e, -, hquiet, -, heq⟩ | ⟨onDisk, assigned, e, -, -, ha, heq⟩ |
    ⟨flush, accepted, roots, unregister, -, -, heq⟩ | ⟨flush, accepted, -, -, heq⟩
  · rw [heq]
    exact hreplaced.quiet hc hchain hnodup hquiet
  · -- the flush has taken over what was to be taken back
    have hnone : (h.step action).engine.pendingUnregister = [] := by
      rcases heq with ⟨-, heq⟩ | heq
      · rw [heq, takeBack_engine_congr pendingUnregister (fun _ _ => rfl) (fun _ => rfl)]
        exact ha.pendingUnregister
      · rw [heq]
        exact ha.pendingUnregister
    intro reg _ hqueued
    rw [hnone] at hqueued
    cases hqueued
  · rw [heq]
    refine Replaced.takeBack ?_ flush unregister
    cases accepted with
    | true => exact hreplaced
    | false => exact hreplaced.reject roots _
  · rw [heq]
    exact hreplaced.takeBack flush []

lemma nodup_held_run (actions : List WatchAction) : (run actions).engine.held.Nodup :=
  ((nodup_holdings_run actions).of_append_left).of_append_left

lemma replaced_run (actions : List WatchAction) : (run actions).Replaced := by
  induction actions using List.reverseRecOn with
  | nil => exact fun reg hreg => nomatch hreg
  | append_singleton actions action ih =>
      rw [run_append]
      exact ih.step (consistent_run actions) (antichain_run actions) (nodup_held_run actions) action

/-- **What holds of every smooth run**: it is consistent, no root stays behind, and what the next flush
takes back has nothing to do with registered roots. -/
structure Orderly (h : WatchHistory) : Prop where
  consistent : h.Consistent
  ready : h.engine.Ready h.engine.pending
  replaced : h.Replaced

lemma orderly_run {actions : List WatchAction} (hsmooth : SmoothRun actions) :
    (run actions).Orderly :=
  ⟨consistent_run actions, ready_run hsmooth, replaced_run actions⟩

/-! ### Flushes that wait -/

/-- In a smooth run a flush waits until the client accepts what it has sent. -/
lemma Smooth.stage_step (hc : h.Consistent) {action : WatchAction} (hsmooth : h.Smooth action)
    {flush : FlushId} {roots : List RootId} {unregister : List RegistrationId}
    (hstage : h.engine.stage? flush = some (.registering roots unregister)) :
    (h.step action).engine.stage? flush = some (.registering roots unregister) ∨
      action = .reply flush true := by
  have hold : flush ≠ h.engine.nextFlush := Nat.ne_of_lt (hc.stage_lt hstage)
  rcases step_cases h hc.sound action with
    ⟨e, -, hquiet, -, heq⟩ | ⟨onDisk, assigned, e, -, -, ha, heq⟩ |
    ⟨flush', accepted, roots', unregister', rfl, hstage', heq⟩ | ⟨flush', accepted, rfl, hstage', heq⟩
  · left
    rw [heq]
    show e.stage? flush = _
    rwa [stage?, hquiet.flushes]
  · left
    have hwaits : e.stage? flush = some (.registering roots unregister) := by
      rwa [stage?, ha.flushes]
    rcases heq with ⟨-, heq⟩ | heq
    · rw [heq]
      refine (takeBack_stage? e _ _ flush).trans ?_
      rwa [if_neg hold]
    · rw [heq]
      refine (waiting_stage? (ha.flushes ▸ hc.flush_lt) flush).trans ?_
      rwa [if_neg hold]
  · by_cases hflush : flush = flush'
    · subst hflush
      cases accepted with
      | true => exact .inr rfl
      | false => exact absurd hstage (hsmooth roots unregister)
    · left
      rw [heq]
      refine (takeBack_stage? _ _ _ flush).trans ?_
      rw [if_neg hflush]
      cases accepted <;> exact hstage
  · left
    have hflush : flush ≠ flush' := by
      rintro rfl
      rw [hstage'] at hstage
      cases hstage
    rw [heq]
    refine (takeBack_stage? _ _ _ flush).trans ?_
    rwa [if_neg hflush]

/-! ### Chains of replacements -/

section Chain

variable {pattern : WatchPattern} {kind : WatchKind} {gone : List RegistrationId}

/-- A later registration does what one with this number did, not counting those that have gone: the
client has accepted it, or is to answer it before the older one is taken back. -/
def Succeeded (h : WatchHistory) (pattern : WatchPattern) (kind : WatchKind)
    (gone : List RegistrationId) (n : RegistrationId) : Prop :=
  ∃ later ∈ h.registrations, later.Serves pattern kind ∧ later.id ∉ gone ∧ n < later.id ∧
    (later.id ∈ h.accepted ∨
      ∃ flush roots unregister, h.engine.stage? flush = some (.registering roots unregister) ∧
        n ∈ unregister ∧ later.id ∈ h.batch flush)

/-- **Every registration is backed** that serves a watcher of this pattern and kind, apart from those
that have gone: it is current at a root or to be taken back by the next flush, or a later one
succeeds it. -/
def Backed (h : WatchHistory) (pattern : WatchPattern) (kind : WatchKind)
    (gone : List RegistrationId) : Prop :=
  ∀ reg ∈ h.registrations, reg.Serves pattern kind → reg.id ∉ gone →
    reg.id ∈ h.engine.held ∨ h.Succeeded pattern kind gone reg.id

/-- What succeeds a registration does so until it is accepted, and then for good. -/
lemma Succeeded.step {n : RegistrationId} (hn : h.Succeeded pattern kind gone n) (hc : h.Consistent)
    {action : WatchAction} (hsmooth : h.Smooth action) :
    (h.step action).Succeeded pattern kind gone n := by
  obtain ⟨later, hsent, hserves, hnot, hlt, hlater⟩ := hn
  obtain ⟨new, hnew, -⟩ := step_conserves hc action
  refine ⟨later, hnew ▸ List.mem_append_left _ hsent, hserves, hnot, hlt, ?_⟩
  rcases hlater with haccepted | ⟨flush, roots, unregister, hstage, hmem, hbatch⟩
  · exact .inl (mem_accepted_step.mpr (.inl haccepted))
  · rcases hsmooth.stage_step hc hstage with hstage' | rfl
    · exact .inr ⟨flush, roots, unregister, hstage', hmem, batch_subset_step h action flush hbatch⟩
    · refine .inl (mem_accepted_step.mpr (.inr ⟨flush, rfl, ?_⟩))
      exact mem_awaited.mpr ⟨⟨roots, unregister, hstage⟩, hbatch⟩

/-- When a flush takes back a registration that serves a watcher, it registers the root of that
watcher: no root that is registered covers what this registration covers. -/
lemma Orderly.exists_successor (ho : h.Orderly) {onDisk : Url → Bool}
    (hsmooth : h.Smooth (.flush onDisk)) {assigned : List (RootId × Registration)} {e : WatchEngine}
    (hassign : assign onDisk h.engine.pending h.engine.emptied = (assigned, e))
    (ha : Assigned h.engine.emptied e assigned) {w : Watcher} (hw : w ∈ h.engine.watchers)
    {reg : Registration} (hreg : reg ∈ h.registrations)
    (hqueued : reg.id ∈ h.engine.pendingUnregister) (hserves : reg.Serves w.pattern w.kind) :
    ∃ later ∈ assigned.map Prod.snd, later.Serves w.pattern w.kind := by
  have hsound := ho.consistent.sound
  obtain ⟨r, hr, -, hcovers, hwithin⟩ := hsound.served w hw
  have hpending : r.status = .pending := by
    rcases ho.ready r hr with ⟨hpending, -⟩ | ⟨n, hn⟩
    · exact hpending
    · exact ((ho.replaced reg hreg hqueued r hr n hn).not_common hserves.1 hcovers).elim
  -- so the flush looks at this root, and gives it a number
  obtain ⟨r', hr', hplain⟩ := exists_of_plain ha.plain.symm hr
  obtain ⟨hid, hpattern, hkind, -⟩ := WatchRoot.plain_eq_iff.mp hplain
  obtain ⟨n, hn⟩ : ∃ n, r'.status = .registered n := by
    have hdone := Ready.assign (e := h.engine.emptied) ho.ready hsound.rootIds hsmooth
    rw [hassign] at hdone
    exact (hdone r' hr').resolve_left fun hleft => List.not_mem_nil hleft.2
  rcases ha.sent r' hr' n hn with hold | hnew
  · rw [List.inj_on_of_nodup_map hsound.rootIds hold hr hid, hpending] at hn
    cases hn
  · refine ⟨_, hnew, ?_, ?_⟩
    · rwa [Registration.pattern_toWatcher, hpattern]
    · rw [hkind]
      exact hwithin

lemma id_mem_of_mem_assigned {assigned : List (RootId × Registration)} {reg : Registration}
    (hreg : reg ∈ assigned.map Prod.snd) : reg.id ∈ assigned.map (·.2.id) := by
  obtain ⟨entry, hentry, rfl⟩ := List.mem_map.mp hreg
  exact List.mem_map_of_mem hentry

/-- A flush that waits for registrations holds what it takes back, and the client is to answer first
what it has sent. -/
lemma Consistent.succeeded (hc : h.Consistent)
    (hgone : ∀ n ∈ gone, n ∈ h.registrations.map Registration.id)
    {assigned : List (RootId × Registration)} {e : WatchEngine}
    (ha : Assigned h.engine.emptied e assigned) {roots : List RootId} {later : Registration}
    (hlater : later ∈ assigned.map Prod.snd) (hserves : later.Serves pattern kind)
    {n : RegistrationId} (hn : n ∈ h.registrations.map Registration.id)
    (hqueued : n ∈ h.engine.pendingUnregister) :
    Succeeded
      { h with
        engine := { e with flushes := e.flushes ++
          [⟨h.engine.nextFlush, .registering roots h.engine.pendingUnregister⟩] }
        calls := h.calls ++ [⟨h.engine.nextFlush, .register (assigned.map Prod.snd)⟩] }
      pattern kind gone n := by
  have hlt : ∀ m ∈ h.registrations.map Registration.id, m < later.id := by
    intro m hm
    have hnumber := id_mem_of_mem_assigned hlater
    rw [ha.numbers, List.mem_range'_1] at hnumber
    exact Nat.lt_of_lt_of_le (hc.number_lt hm) hnumber.1
  refine ⟨later, ?_, hserves, fun hmem => Nat.lt_irrefl _ (hlt _ (hgone _ hmem)), hlt n hn,
    .inr ⟨h.engine.nextFlush, roots, h.engine.pendingUnregister, ?_, hqueued, ?_⟩⟩
  · rw [registrations, List.flatMap_append]
    refine List.mem_append_right _ ?_
    simpa [RegistrarCall.registrations] using hlater
  · refine (waiting_stage? (ha.flushes ▸ hc.flush_lt) h.engine.nextFlush).trans ?_
    rw [if_pos rfl]
  · rw [batch, List.filter_append, List.flatMap_append, List.map_append]
    refine List.mem_append_right _ ?_
    simpa [RegistrarCall.registrations] using List.mem_map_of_mem (f := Registration.id) hlater

/-- An action leaves every registration backed if it does so to those that are held, and holds what
it sends. -/
lemma Backed.of_held (hbacked : h.Backed pattern kind gone) (hc : h.Consistent)
    {action : WatchAction} (hsmooth : h.Smooth action)
    (hnew : ∀ reg ∈ (h.step action).registrations,
      reg ∈ h.registrations ∨ reg.id ∈ (h.step action).engine.held)
    (hold : ∀ reg ∈ h.registrations, reg.Serves pattern kind → reg.id ∈ h.engine.held →
      reg.id ∈ (h.step action).engine.held ∨ (h.step action).Succeeded pattern kind gone reg.id) :
    (h.step action).Backed pattern kind gone := by
  intro reg hreg hserves hnot
  rcases hnew reg hreg with hsent | hheld
  · rcases hbacked reg hsent hserves hnot with hheld | hsucceeded
    · exact hold reg hsent hserves hheld
    · exact .inr (hsucceeded.step hc hsmooth)
  · exact .inl hheld

lemma Backed.unchanged (hbacked : h.Backed pattern kind gone) (hc : h.Consistent)
    {action : WatchAction} (hsmooth : h.Smooth action)
    (hsent : (h.step action).registrations = h.registrations)
    (hheld : ∀ n ∈ h.engine.held, n ∈ (h.step action).engine.held) :
    (h.step action).Backed pattern kind gone := by
  refine hbacked.of_held hc hsmooth ?_ ?_
  · rw [hsent]
    exact fun reg hreg => .inl hreg
  · exact fun reg _ _ hn => .inl (hheld reg.id hn)

/-- A flush that starts backs what it takes back. -/
lemma Backed.flush {w : Watcher} (hbacked : h.Backed w.pattern w.kind gone) (ho : h.Orderly)
    (hw : w ∈ h.engine.watchers) (hgone : ∀ n ∈ gone, n ∈ h.registrations.map Registration.id)
    {onDisk : Url → Bool} (hsmooth : h.Smooth (.flush onDisk))
    {assigned : List (RootId × Registration)} {e : WatchEngine}
    (hassign : assign onDisk h.engine.pending h.engine.emptied = (assigned, e))
    (ha : Assigned h.engine.emptied e assigned)
    (heq : assigned = [] ∧
        h.step (.flush onDisk) =
          takeBack { h with engine := e } h.engine.nextFlush h.engine.pendingUnregister ∨
      h.step (.flush onDisk) =
        { h with
          engine := { e with flushes := e.flushes ++
            [⟨h.engine.nextFlush,
              .registering (assigned.map Prod.fst) h.engine.pendingUnregister⟩] }
          calls := h.calls ++ [⟨h.engine.nextFlush, .register (assigned.map Prod.snd)⟩] }) :
    (h.step (.flush onDisk)).Backed w.pattern w.kind gone := by
  have hheld : ∀ n ∈ h.engine.held, n ∈ e.held ∨ n ∈ h.engine.pendingUnregister := by
    intro n hn
    exact List.mem_append.mp ((assigned_held_perm ha).mem_iff.mpr (List.mem_append_left _ hn))
  rcases heq with ⟨rfl, heq⟩ | heq
  · -- without roots to register, nothing is taken back that serves the watcher
    have hsame : (h.step (.flush onDisk)).engine.held = e.held := by
      rw [heq]
      exact takeBack_engine_congr held (fun _ _ => rfl) (fun _ => rfl) _ _ _
    refine hbacked.of_held ho.consistent hsmooth ?_ ?_
    · rw [heq, takeBack_registrations]
      exact fun reg hreg => .inl hreg
    · rw [hsame]
      intro reg hreg hserves hn
      refine .inl ((hheld reg.id hn).resolve_right fun hqueued => ?_)
      obtain ⟨later, hlater, -⟩ :=
        ho.exists_successor hsmooth hassign ha hw hreg hqueued hserves
      cases hlater
  · refine hbacked.of_held ho.consistent hsmooth ?_ ?_
    · rw [heq]
      intro reg hreg
      rw [registrations, List.flatMap_append, List.mem_append] at hreg
      refine hreg.imp_right fun hnew => ?_
      have hcurrent : reg.id ∈ assigned.map (·.2.id) :=
        id_mem_of_mem_assigned (by simpa [RegistrarCall.registrations] using hnew)
      exact List.mem_append_left _ (ha.current.mem_iff.mpr (List.mem_append_right _ hcurrent))
    · rw [heq]
      intro reg hreg hserves hn
      refine (hheld reg.id hn).imp_right fun hqueued => ?_
      obtain ⟨later, hlater, hserves'⟩ :=
        ho.exists_successor hsmooth hassign ha hw hreg hqueued hserves
      exact ho.consistent.succeeded hgone ha hlater hserves' (List.mem_map_of_mem hreg) hqueued

lemma Backed.step {w : Watcher} (hbacked : h.Backed w.pattern w.kind gone) (ho : h.Orderly)
    (hw : w ∈ h.engine.watchers) (hgone : ∀ n ∈ gone, n ∈ h.registrations.map Registration.id)
    {action : WatchAction} (hsmooth : h.Smooth action) :
    (h.step action).Backed w.pattern w.kind gone := by
  rcases step_cases h ho.consistent.sound action with
    ⟨e, -, hquiet, -, heq⟩ | ⟨onDisk, assigned, e, rfl, hassign, ha, heq⟩ |
    ⟨flush, accepted, roots, unregister, rfl, hstage, heq⟩ | ⟨flush, accepted, rfl, -, heq⟩
  · refine hbacked.unchanged ho.consistent hsmooth ?_ ?_
    · rw [heq]
      rfl
    · rw [heq]
      exact fun n hn => hquiet.held.mem_iff.mpr hn
  · exact hbacked.flush ho hw hgone hsmooth hassign ha heq
  · refine hbacked.unchanged ho.consistent hsmooth ?_ ?_
    · rw [heq, takeBack_registrations]
      rfl
    · rw [heq, takeBack_engine_congr held (fun _ _ => rfl) (fun _ => rfl)]
      cases accepted with
      | true => exact fun n hn => hn
      | false => exact absurd hstage (hsmooth roots unregister)
  · refine hbacked.unchanged ho.consistent hsmooth ?_ ?_
    · rw [heq, takeBack_registrations]
    · rw [heq, takeBack_engine_congr held (fun _ _ => rfl) (fun _ => rfl)]
      exact fun n hn => hn

/-! ### From the arrival of a watcher on -/

/-- What has been taken back, or is held by a flush that is under way to be taken back. -/
def leaving (h : WatchHistory) : List RegistrationId :=
  h.engine.flushes.flatMap Flush.toUnregister ++ h.unregistered

lemma mem_registrations_of_mem_leaving {actions : List WatchAction} {n : RegistrationId}
    (hn : n ∈ (run actions).leaving) : n ∈ (run actions).registrations.map Registration.id := by
  refine mem_registrations_of_mem_holdings ?_
  rw [holdings, List.append_assoc]
  exact List.mem_append_right _ hn

/-- When a watcher comes, all that has been sent and is not leaving is held. -/
lemma backed_arrival {before : List WatchAction} (hsmooth : SmoothRun before)
    (pattern : WatchPattern) (kind : WatchKind) (q : WatchPattern) (k : WatchKind) :
    ((run before).step (.add pattern kind)).Backed q k (run before).leaving := by
  intro reg hreg _ hnot
  have hquiet := (consistent_run before).sound.add_quiet pattern kind
  have hheld := hsmooth.mem_holdings (List.mem_map_of_mem (f := Registration.id) hreg)
  rw [holdings, List.append_assoc] at hheld
  exact .inl (hquiet.held.mem_iff.mpr ((List.mem_append.mp hheld).resolve_right hnot))

end Chain

/-- Watchers come in the order of their numbers. -/
lemma nextWatcher_lt_run (before rest : List WatchAction) (pattern : WatchPattern)
    (kind : WatchKind) :
    (run before).engine.nextWatcher <
      (run (before ++ [.add pattern kind] ++ rest)).engine.nextWatcher := by
  induction rest using List.reverseRecOn with
  | nil =>
      rw [List.append_nil, run_append]
      have hsound := (consistent_step (consistent_run before) (.add pattern kind)).sound
      exact hsound.watcher_lt _ (mem_added (run before) pattern kind)
  | append_singleton rest action ih =>
      rw [← List.append_assoc, run_append]
      exact Nat.lt_of_lt_of_le ih (next_le_step (consistent_run _).sound action).2

lemma exists_arrival {actions : List WatchAction} {w : Watcher}
    (hw : w ∈ (run actions).engine.watchers) :
    ∃ before pattern kind rest, actions = before ++ [.add pattern kind] ++ rest ∧
      (run before).engine.nextWatcher = w.id := by
  induction actions using List.reverseRecOn generalizing w with
  | nil => cases hw
  | append_singleton actions action ih =>
      rw [run_append] at hw
      rcases watcher_cases (consistent_run actions).sound hw with
        ⟨pattern, kind, rfl, hid, -⟩ | ⟨v, hv, hid, -⟩
      · exact ⟨actions, pattern, kind, [], (List.append_nil _).symm, hid.symm⟩
      · obtain ⟨before, pattern, kind, rest, rfl, hnext⟩ := ih hv
        exact ⟨before, pattern, kind, rest ++ [action], List.append_assoc .., hnext.trans hid⟩

/-- A watcher that is not disposed of in the rest of a run is there at its end. -/
lemma watcher_stays_run {actions after : List WatchAction} {w : Watcher}
    (hw : w ∈ (run actions).engine.watchers) (hstays : .dispose w.id ∉ after) :
    ∃ w' ∈ (run (actions ++ after)).engine.watchers,
      w'.id = w.id ∧ w'.pattern = w.pattern ∧ w'.kind = w.kind := by
  induction after using List.reverseRecOn with
  | nil =>
      rw [List.append_nil]
      exact ⟨w, hw, rfl, rfl, rfl⟩
  | append_singleton after action ih =>
      rw [List.mem_append, List.mem_singleton, not_or] at hstays
      obtain ⟨v, hv, hid, hpattern, hkind⟩ := ih hstays.1
      have hother : action ≠ .dispose v.id := fun haction => hstays.2 (by rw [haction, hid])
      obtain ⟨w', hw', hid', hpattern', hkind'⟩ :=
        watcher_stays (consistent_run (actions ++ after)).sound hv hother
      rw [← List.append_assoc, run_append]
      exact ⟨w', hw', hid'.trans hid, hpattern'.trans hpattern, hkind'.trans hkind⟩

/-- **Chains do not break**: from the arrival of a watcher on, every registration is backed that serves
it and was not leaving then. -/
lemma backed_run {before rest : List WatchAction} {pattern : WatchPattern} {kind : WatchKind}
    (hsmooth : SmoothRun (before ++ [.add pattern kind] ++ rest)) {w : Watcher}
    (hw : w ∈ (run (before ++ [.add pattern kind] ++ rest)).engine.watchers)
    (hid : w.id = (run before).engine.nextWatcher) :
    (run (before ++ [.add pattern kind] ++ rest)).Backed w.pattern w.kind (run before).leaving := by
  induction rest using List.reverseRecOn generalizing w with
  | nil =>
      rw [List.append_nil, run_append]
      exact backed_arrival hsmooth.left.left pattern kind w.pattern w.kind
  | append_singleton rest action ih =>
      rw [← List.append_assoc] at hsmooth hw ⊢
      rw [run_append] at hw ⊢
      have ho := orderly_run hsmooth.left
      rcases watcher_cases ho.consistent.sound hw with
        ⟨-, -, -, hnew, -⟩ | ⟨v, hv, hvid, hpattern, hkind, -⟩
      · have hlt := nextWatcher_lt_run before rest pattern kind
        rw [← hid, ← hnew] at hlt
        exact absurd hlt (Nat.lt_irrefl _)
      · have hbacked := ih hsmooth.left hv (hvid.trans hid)
        have hgone : ∀ n ∈ (run before).leaving,
            n ∈ (run (before ++ [.add pattern kind] ++ rest)).registrations.map Registration.id := by
          intro n hn
          rw [List.append_assoc]
          exact List.map_subset _ (registrations_subset_run before _)
            (mem_registrations_of_mem_leaving hn)
        rw [← hpattern, ← hkind]
        exact hbacked.step ho hv hgone hsmooth.last

/-! ### Registrations in force -/

/-- The client has accepted a registration and has not been asked to take it back. -/
structure InForce (h : WatchHistory) (reg : Registration) : Prop where
  sent : reg ∈ h.registrations
  accepted : reg.id ∈ h.accepted
  kept : reg.id ∉ h.unregistered

/-- At the end of each chain there is a registration in force. -/
lemma Backed.exists_inForce {pattern : WatchPattern} {kind : WatchKind} {gone : List RegistrationId}
    (hbacked : h.Backed pattern kind gone) (hc : h.Consistent) (hnodup : h.holdings.Nodup)
    {reg : Registration} (hreg : reg ∈ h.registrations) (hserves : reg.Serves pattern kind)
    (hnot : reg.id ∉ gone) (haccepted : reg.id ∈ h.accepted) :
    ∃ reg', h.InForce reg' ∧ reg'.Serves pattern kind := by
  have hkept := List.disjoint_of_nodup_append hnodup
  -- numbers grow along a chain, and there are only so many
  induction hk : h.engine.nextRegistration - reg.id using Nat.strong_induction_on
    generalizing reg with
  | _ k ih =>
      rcases hbacked reg hreg hserves hnot with
        hheld | ⟨later, hsent, hserves', hnot', hlt, hlater | ⟨flush, roots, unregister, hstage, hmem, -⟩⟩
      · exact ⟨reg, ⟨hreg, haccepted, hkept (List.mem_append_left _ hheld)⟩, hserves⟩
      · have hbound := hc.number_lt (List.mem_map_of_mem hreg)
        have hfewer : h.engine.nextRegistration - later.id < k :=
          hk ▸ Nat.sub_lt_sub_left hbound hlt
        exact ih _ hfewer hsent hserves' hnot' hlater rfl
      · have hwaits : reg.id ∈ h.engine.flushes.flatMap Flush.toUnregister := by
          refine (perm_toUnregister hc.flushIds hstage).mem_iff.mpr ?_
          exact List.mem_append_right _ hmem
        exact ⟨reg, ⟨hreg, haccepted, hkept (List.mem_append_right _ hwaits)⟩, hserves⟩

/-- When a watcher came, a flush that was under way held a registration to take it back. -/
def LeavingOnArrival (actions : List WatchAction) (id : WatcherId) (n : RegistrationId) : Prop :=
  ∃ before pattern kind rest, actions = before ++ .add pattern kind :: rest ∧
    (run before).engine.nextWatcher = id ∧ ∃ f ∈ (run before).engine.flushes, n ∈ f.toUnregister

/-- **No gap while registrations are replaced**: in a run in which nothing fails, a watcher that a
registration in force serves, other than one that was leaving already when the watcher came, is
served by a registration in force ever after, until it is disposed of. -/
theorem coverage_kept {actions after : List WatchAction} (hsmooth : SmoothRun (actions ++ after))
    {w : Watcher} (hw : w ∈ (run actions).engine.watchers)
    {reg : Registration} (hforce : (run actions).InForce reg)
    (hserves : reg.Serves w.pattern w.kind) (hfree : ¬ LeavingOnArrival actions w.id reg.id)
    (hstays : .dispose w.id ∉ after) :
    ∃ w' ∈ (run (actions ++ after)).engine.watchers,
      w'.id = w.id ∧ w'.pattern = w.pattern ∧ w'.kind = w.kind ∧
        ∃ reg', (run (actions ++ after)).InForce reg' ∧ reg'.Serves w'.pattern w'.kind := by
  obtain ⟨w', hw', hid, hpattern, hkind⟩ := watcher_stays_run hw hstays
  refine ⟨w', hw', hid, hpattern, hkind, ?_⟩
  obtain ⟨before, pattern, kind, rest, rfl, hnext⟩ := exists_arrival hw
  have hnot : reg.id ∉ (run before).leaving := by
    rw [leaving, List.mem_append, List.mem_flatMap, not_or]
    constructor
    · intro hflush
      exact hfree ⟨before, pattern, kind, rest, (List.append_cons ..).symm, hnext, hflush⟩
    · intro htaken
      rw [List.append_assoc] at hforce
      exact hforce.kept (unregistered_subset_run before _ htaken)
  have hbacked : (run (before ++ [.add pattern kind] ++ rest ++ after)).Backed w'.pattern w'.kind
      (run before).leaving := by
    rw [List.append_assoc _ rest] at hsmooth hw' ⊢
    exact backed_run hsmooth hw' (hid.trans hnext.symm)
  refine hbacked.exists_inForce (consistent_run _) (nodup_holdings_run _) ?_ ?_ hnot ?_
  · exact registrations_subset_run _ after hforce.sent
  · rwa [hpattern, hkind]
  · exact accepted_subset_run _ after hforce.accepted

/-- A directory of a host, with all that is below it. -/
def tree (path : String) : WatchPattern :=
  ⟨{ scheme := "mem", authority := some { host := "h" }, path }, true⟩

/-- A directory is watched, and the client has accepted that. -/
def servedRun : List WatchAction :=
  [.enable, .add (tree "/a/b") ⟨1⟩, .flush fun _ => true, .reply 0 true]

/-- The root of the directory is widened and registered anew, then the directory above takes its place
and is registered, and the client answers the second of these flushes first. -/
def overtakingRun : List WatchAction :=
  [.add (tree "/a/b") ⟨4⟩, .flush fun _ => true, .add (tree "/a") ⟨2⟩, .flush fun _ => true,
    .reply 2 true, .reply 1 true]

/-- The first watcher of that run. -/
def servedWatcher : Watcher := { id := 0, root := 0, pattern := tree "/a/b", kind := ⟨1⟩ }

/-- Both the first registration and the one that was to replace it are taken back, and the watcher is
served. -/
theorem coverage_kept_overtakingRun :
    let first : Registration := ⟨1, (tree "/a/b").toWatcher ⟨1⟩⟩
    SmoothRun (servedRun ++ overtakingRun) ∧ servedWatcher ∈ (run servedRun).engine.watchers ∧
      (run servedRun).InForce first ∧ first.Serves (tree "/a/b") ⟨1⟩ ∧
      (run (servedRun ++ overtakingRun)).unregistered = [2, 1] ∧
      ∃ reg, (run (servedRun ++ overtakingRun)).InForce reg ∧ reg.Serves (tree "/a/b") ⟨1⟩ := by
  intro first
  have hsmooth : SmoothRun (servedRun ++ overtakingRun) := by
    refine smoothRun_of_forall ?_ ?_ <;> simp [servedRun, overtakingRun]
  have hw : servedWatcher ∈ (run servedRun).engine.watchers := by decide +kernel
  have hforce : (run servedRun).InForce first :=
    ⟨by decide +kernel, by decide +kernel, by decide +kernel⟩
  have hserves : first.Serves (tree "/a/b") ⟨1⟩ := by decide +kernel
  have hfree : ¬ LeavingOnArrival servedRun 0 1 := by
    rintro ⟨before, pattern, kind, rest, heq, -, f, hf, -⟩
    -- it came first, when there was no flush
    have hbefore : before = [.enable] := by
      simp [servedRun, List.cons_eq_append_iff] at heq
      exact heq.1
    have hnone : (run [.enable]).engine.flushes = [] := by decide +kernel
    rw [hbefore, hnone] at hf
    cases hf
  obtain ⟨w', -, -, hpattern, hkind, reg, hreg⟩ :=
    coverage_kept hsmooth hw hforce hserves hfree (by simp [overtakingRun])
  rw [hpattern, hkind] at hreg
  exact ⟨hsmooth, hw, hforce, hserves, by decide +kernel, reg, hreg⟩

/-- A directory is registered and no longer watched. While another one is being registered, a directory
below the first one is watched. -/
def strayRun : List WatchAction :=
  [.enable, .add (tree "/a") ⟨7⟩, .flush fun _ => true, .reply 0 true, .dispose 0,
    .add (tree "/x") ⟨7⟩, .flush fun _ => true, .add (tree "/a/b") ⟨1⟩]

/-- The last watcher of that run. -/
def strayWatcher : Watcher := { id := 2, root := 2, pattern := tree "/a/b", kind := ⟨1⟩ }

/-- A watcher that comes while a flush holds the registration that happens to serve it loses that one
before its own root is registered, although nothing fails. -/
theorem coverage_lost :
    let stale : Registration := ⟨1, (tree "/a").toWatcher ⟨7⟩⟩
    SmoothRun (strayRun ++ [.reply 1 true]) ∧ strayWatcher ∈ (run strayRun).engine.watchers ∧
      (run strayRun).InForce stale ∧ stale.Serves strayWatcher.pattern strayWatcher.kind ∧
      strayWatcher ∈ (run (strayRun ++ [.reply 1 true])).engine.watchers ∧
      ∀ reg, (run (strayRun ++ [.reply 1 true])).InForce reg →
        ¬ reg.Serves strayWatcher.pattern strayWatcher.kind := by
  intro stale
  have hsmooth : SmoothRun (strayRun ++ [.reply 1 true]) := by
    refine smoothRun_of_forall ?_ ?_ <;> simp [strayRun]
  have hforce : (run strayRun).InForce stale :=
    ⟨by decide +kernel, by decide +kernel, by decide +kernel⟩
  refine ⟨hsmooth, by decide +kernel, hforce, by decide +kernel, by decide +kernel, ?_⟩
  have hnone : ∀ reg ∈ (run (strayRun ++ [.reply 1 true])).registrations,
      reg.id ∉ (run (strayRun ++ [.reply 1 true])).unregistered →
        ¬ reg.Serves strayWatcher.pattern strayWatcher.kind := by
    decide +kernel
  exact fun reg hreg => hnone reg hreg.sent hreg.kept

end WatchHistory

end ProviderHub
