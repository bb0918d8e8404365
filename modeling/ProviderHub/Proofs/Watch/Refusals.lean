import ProviderHub.Proofs.Watch.Backlog
import ProviderHub.Proofs.Watch.Handover

/-!
What a flush takes back when the client refuses what it has sent.

A flush takes over what has been replaced since the flush before it started, asks the client for the
replacements, and takes the replaced registrations back when it has an answer, whatever the answer
is. So a watcher whose registration has been replaced is left without one when the client refuses
the replacement, although the client had accepted the old one.

* `WatchHistory.Superseded`: a registration has been replaced while a flush was the next one;
* `WatchHistory.mem_unregister_iff`: these registrations, and no others, a flush takes back;
* `WatchHistory.coverage_after_refusal`: which watchers are served after a refusal.
-/

namespace ProviderHub

open WatchEngine

namespace WatchEngine

/-! ### What the next flush takes back -/

/-- When a watcher comes or goes, the next flush takes back what it had to take back before, and
what is replaced. -/
lemma Quiet.mem_pendingUnregister {e e' : WatchEngine} (hquiet : Quiet e e') (hnodup : e.held.Nodup)
    {n : RegistrationId} :
    n ∈ e'.pendingUnregister ↔ n ∈ e.pendingUnregister ∨
      (∃ r ∈ e.roots, r.status = .registered n) ∧ ∀ r ∈ e'.roots, r.status ≠ .registered n := by
  have hheld (e : WatchEngine) : n ∈ e.held ↔
      (∃ r ∈ e.roots, r.status = .registered n) ∨ n ∈ e.pendingUnregister := by
    simp only [WatchEngine.held, List.mem_append, List.mem_flatMap, mem_registrationOf]
  have hapart {e : WatchEngine} (hnodup : e.held.Nodup) (hqueued : n ∈ e.pendingUnregister) :
      ∀ r ∈ e.roots, r.status ≠ .registered n := by
    intro r hr hstatus
    refine List.disjoint_of_nodup_append hnodup (a := n) ?_ hqueued
    exact List.mem_flatMap.mpr ⟨r, hr, mem_registrationOf.mpr hstatus⟩
  have hnodup' : e'.held.Nodup := hquiet.held.nodup_iff.mpr hnodup
  constructor
  · intro hqueued
    have hbefore := hquiet.held.mem_iff.mp ((hheld e').mpr (.inr hqueued))
    rcases (hheld e).mp hbefore with hroot | hold
    · exact .inr ⟨hroot, hapart hnodup' hqueued⟩
    · exact .inl hold
  · rintro (hold | ⟨hroot, hnone⟩)
    · -- a root that is registered was so before, and so under another number
      refine ((hheld e').mp (hquiet.held.mem_iff.mpr ((hheld e).mpr (.inr hold)))).resolve_left ?_
      rintro ⟨r, hr, hstatus⟩
      obtain ⟨s, hs, hsn, -⟩ := hquiet.registered r hr n hstatus
      exact hapart hnodup hold s hs hsn
    · refine ((hheld e').mp (hquiet.held.mem_iff.mpr ((hheld e).mpr (.inl hroot)))).resolve_left ?_
      rintro ⟨r, hr, hstatus⟩
      exact hnone r hr hstatus

/-- An answer changes nothing but the status of roots, the flushes and the timer. -/
lemma reply_congr {β : Type} (f : WatchEngine → β)
    (hf : ∀ (e : WatchEngine) (fs : List Flush), f { e with flushes := fs } = f e)
    (ht : ∀ e : WatchEngine, f { e with armed := true } = f e)
    (hr : ∀ (e : WatchEngine) (rs : List WatchRoot), f { e with roots := rs } = f e)
    (e : WatchEngine) (id : FlushId) (accepted : Bool) : f (e.reply id accepted).2 = f e := by
  rcases reply_cases e id accepted with ⟨-, heq⟩ | ⟨roots, unregister, -, heq⟩ | ⟨-, heq⟩
  · rw [heq]
  · rw [heq, takeBack_congr f hf ht]
    cases accepted with
    | true => rfl
    | false => exact hr e _
  · rw [heq, takeBack_congr f hf ht]

end WatchEngine

namespace WatchHistory

variable {h : WatchHistory}

/-! ### Registrations that are replaced -/

/-- A watcher comes or goes, and the root that was registered under a number is so no longer: it is
to be registered anew, or another root takes its place, or it goes with its last watcher. -/
def Supersedes (h : WatchHistory) (action : WatchAction) (n : RegistrationId) : Prop :=
  ((∃ pattern kind, action = .add pattern kind) ∨ ∃ id, action = .dispose id) ∧
    (∃ r ∈ h.engine.roots, r.status = .registered n) ∧
    ∀ r ∈ (h.step action).engine.roots, r.status ≠ .registered n

/-- That has happened in a run, while a flush was the next one to start. -/
def Superseded (actions : List WatchAction) (flush : FlushId) (n : RegistrationId) : Prop :=
  ∃ before action after, actions = before ++ action :: after ∧
    (run before).engine.nextFlush = flush ∧ (run before).Supersedes action n

lemma superseded_append {actions : List WatchAction} {action : WatchAction} {flush : FlushId}
    {n : RegistrationId} :
    Superseded (actions ++ [action]) flush n ↔
      Superseded actions flush n ∨
        (run actions).engine.nextFlush = flush ∧ (run actions).Supersedes action n := by
  constructor
  · rintro ⟨before, action', after, heq, hnext, hsupersedes⟩
    rcases List.eq_nil_or_concat after with rfl | ⟨after, last, rfl⟩
    · obtain ⟨rfl, hlast⟩ := List.append_inj' heq rfl
      rw [List.head_eq_of_cons_eq hlast]
      exact .inr ⟨hnext, hsupersedes⟩
    · rw [List.concat_eq_append, ← List.cons_append, ← List.append_assoc] at heq
      exact .inl ⟨before, action', after, (List.append_inj' heq rfl).1, hnext, hsupersedes⟩
  · rintro (⟨before, action', after, rfl, hsuperseded⟩ | hlast)
    · exact ⟨before, action', after ++ [action], by simp, hsuperseded⟩
    · exact ⟨actions, action, [], rfl, hlast⟩

/-- An action either starts no flush and adds to what the next one takes back what it replaces, or
starts one, which takes all of it over. -/
lemma mem_pendingUnregister_step (hc : h.Consistent) (hnodup : h.engine.held.Nodup)
    (action : WatchAction) :
    ((h.step action).engine.nextFlush = h.engine.nextFlush ∧
      ∀ n, n ∈ (h.step action).engine.pendingUnregister ↔
        n ∈ h.engine.pendingUnregister ∨ h.Supersedes action n) ∨
    (h.step action).engine.nextFlush = h.engine.nextFlush + 1 ∧
      (h.step action).engine.pendingUnregister = [] := by
  -- what neither starts a flush nor lets a watcher come or go
  have hidle (hother : ∀ pattern kind, action ≠ .add pattern kind)
      (hstays : ∀ id, action ≠ .dispose id)
      (hnext : (h.step action).engine.nextFlush = h.engine.nextFlush)
      (hqueue : (h.step action).engine.pendingUnregister = h.engine.pendingUnregister) :
      (h.step action).engine.nextFlush = h.engine.nextFlush ∧
        ∀ n, n ∈ (h.step action).engine.pendingUnregister ↔
          n ∈ h.engine.pendingUnregister ∨ h.Supersedes action n := by
    refine ⟨hnext, fun n => ?_⟩
    rw [hqueue]
    refine (or_iff_left ?_).symm
    rintro ⟨⟨pattern, kind, heq⟩ | ⟨id, heq⟩, -⟩
    · exact hother pattern kind heq
    · exact hstays id heq
  cases action with
  | add pattern kind =>
      have hquiet := hc.sound.add_quiet pattern kind
      refine .inl ⟨hquiet.nextFlush, fun n => (hquiet.mem_pendingUnregister hnodup).trans ?_⟩
      refine or_congr_right ⟨fun hroot => ⟨.inl ⟨pattern, kind, rfl⟩, hroot⟩, And.right⟩
  | dispose id =>
      have hquiet := hc.sound.dispose_quiet id
      refine .inl ⟨hquiet.nextFlush, fun n => (hquiet.mem_pendingUnregister hnodup).trans ?_⟩
      refine or_congr_right ⟨fun hroot => ⟨.inr ⟨id, rfl⟩, hroot⟩, And.right⟩
  | enable =>
      exact .inl (hidle (by simp) (by simp) (schedule_congr nextFlush (fun _ => rfl) _)
        (schedule_congr pendingUnregister (fun _ => rfl) _))
  | flush onDisk =>
      by_cases hon : h.engine.enabled = true ∧ h.engine.closed = false
      · have ha := assign_assigned onDisk h.engine.pending h.engine.emptied hc.sound.rootIds
        right
        constructor
        · exact (flush_congr nextFlush (fun _ _ => rfl) (fun _ => rfl) hon.1 hon.2 onDisk).trans
            (congrArg nextFlush ha.frame :)
        · exact (flush_congr pendingUnregister (fun _ _ => rfl) (fun _ => rfl) hon.1 hon.2
            onDisk).trans ha.pendingUnregister
      · have hsame : (h.step (.flush onDisk)).engine = { h.engine with armed := false } :=
          congrArg Prod.snd (flush_eq_of_idle hon onDisk)
        exact .inl (hidle (by simp) (by simp) (by rw [hsame]) (by rw [hsame]))
  | reply flush accepted =>
      refine .inl (hidle (by simp) (by simp) ?_ ?_)
      · exact reply_congr nextFlush (fun _ _ => rfl) (fun _ => rfl) (fun _ _ => rfl) _ _ _
      · exact reply_congr pendingUnregister (fun _ _ => rfl) (fun _ => rfl) (fun _ _ => rfl) _ _ _
  | dispatch events => exact .inl (hidle (by simp) (by simp) rfl rfl)
  | fetch id count => exact .inl (hidle (by simp) (by simp) rfl rfl)
  | shutdown => exact .inl (hidle (by simp) (by simp) rfl rfl)

/-- Nothing has been replaced yet for a flush that comes after the next one. -/
lemma Superseded.le {actions : List WatchAction} {flush : FlushId} {n : RegistrationId}
    (hsuperseded : Superseded actions flush n) : flush ≤ (run actions).engine.nextFlush := by
  induction actions using List.reverseRecOn with
  | nil =>
      obtain ⟨before, action, after, heq, -⟩ := hsuperseded
      cases before <;> cases heq
  | append_singleton actions action ih =>
      have hle : (run actions).engine.nextFlush ≤ ((run actions).step action).engine.nextFlush := by
        rcases mem_pendingUnregister_step (consistent_run actions) (nodup_held_run actions) action
          with ⟨hnext, -⟩ | ⟨hnext, -⟩
        · exact hnext.ge
        · exact hnext ▸ Nat.le_succ _
      rw [run_append]
      rcases superseded_append.mp hsuperseded with hold | ⟨rfl, -⟩
      · exact (ih hold).trans hle
      · exact hle

/-- The next flush takes back what has been replaced since the last one started. -/
lemma mem_pendingUnregister_iff (actions : List WatchAction) (n : RegistrationId) :
    n ∈ (run actions).engine.pendingUnregister ↔
      Superseded actions (run actions).engine.nextFlush n := by
  induction actions using List.reverseRecOn with
  | nil =>
      refine iff_of_false List.not_mem_nil ?_
      rintro ⟨before, action, after, heq, -⟩
      cases before <;> cases heq
  | append_singleton actions action ih =>
      rw [run_append, superseded_append]
      rcases mem_pendingUnregister_step (consistent_run actions) (nodup_held_run actions) action
        with ⟨hnext, hqueue⟩ | ⟨hnext, hqueue⟩
      · rw [hnext, hqueue, ih]
        simp only [true_and]
      · -- all of it went to the flush that has started, and nothing has been replaced since
        rw [hnext, hqueue]
        refine iff_of_false List.not_mem_nil ?_
        rintro (hold | ⟨hlast, -⟩)
        · exact Nat.not_succ_le_self _ hold.le
        · exact Nat.ne_of_lt (Nat.lt_succ_self _) hlast

/-! ### What a flush takes back -/

/-- A flush that waits for registrations has done so before, or starts now and takes over what the
next flush was to take back. -/
lemma stage_step_cases (hc : h.Consistent) {action : WatchAction} {flush : FlushId}
    {roots : List RootId} {unregister : List RegistrationId}
    (hstage : (h.step action).engine.stage? flush = some (.registering roots unregister)) :
    h.engine.stage? flush = some (.registering roots unregister) ∨
      flush = h.engine.nextFlush ∧ unregister = h.engine.pendingUnregister ∧
        ∃ onDisk, action = .flush onDisk := by
  -- a flush that goes on does not wait for registrations, and the others stay as they are
  have hback {e : WatchEngine} (hsame : e.stage? flush = h.engine.stage? flush) {id : FlushId}
      {ids : List RegistrationId}
      (hstage : (e.takeBack id ids).2.stage? flush = some (.registering roots unregister)) :
      h.engine.stage? flush = some (.registering roots unregister) := by
    rw [takeBack_stage?] at hstage
    split at hstage
    · split at hstage <;> cases hstage
    · exact hsame.symm.trans hstage
  rcases step_cases h hc.sound action with
    ⟨e, -, hquiet, -, heq⟩ | ⟨onDisk, assigned, e, rfl, -, ha, heq⟩ |
    ⟨id, accepted, roots', unregister', -, -, heq⟩ | ⟨id, accepted, -, -, heq⟩
  · left
    rw [heq] at hstage
    have hwaits : e.stage? flush = _ := hstage
    rwa [stage?, hquiet.flushes] at hwaits
  · have hsame : e.stage? flush = h.engine.stage? flush := by rw [stage?, stage?, ha.flushes]
    rcases heq with ⟨-, heq⟩ | heq
    · rw [heq] at hstage
      exact .inl (hback hsame hstage)
    · rw [heq] at hstage
      have hwaits := (waiting_stage? (ha.flushes ▸ hc.flush_lt) flush).symm.trans hstage
      split at hwaits
      · rename_i hflush
        cases hwaits
        exact .inr ⟨hflush, rfl, onDisk, rfl⟩
      · exact .inl (hsame.symm.trans hwaits)
  · rw [heq] at hstage
    refine .inl (hback ?_ hstage)
    cases accepted <;> rfl
  · rw [heq] at hstage
    exact .inl (hback rfl hstage)

/-- **What a flush takes back**: what had been replaced when it started, since the one before it. -/
lemma mem_unregister_iff {actions : List WatchAction} {flush : FlushId} {roots : List RootId}
    {unregister : List RegistrationId}
    (hstage : (run actions).engine.stage? flush = some (.registering roots unregister))
    (n : RegistrationId) : n ∈ unregister ↔ Superseded actions flush n := by
  induction actions using List.reverseRecOn with
  | nil => cases hstage
  | append_singleton actions action ih =>
      have hc := consistent_run actions
      rw [run_append] at hstage
      rw [superseded_append]
      rcases stage_step_cases hc hstage with hold | ⟨rfl, rfl, onDisk, rfl⟩
      · rw [ih hold]
        refine (or_iff_left ?_).symm
        rintro ⟨hnext, -⟩
        exact Nat.ne_of_gt (hc.stage_lt hold) hnext
      · rw [mem_pendingUnregister_iff]
        refine (or_iff_left ?_).symm
        rintro ⟨-, ⟨pattern, kind, heq⟩ | ⟨id, heq⟩, -⟩ <;> cases heq

/-! ### After a refusal -/

/-- A refusal marks the roots of the flush, and the flush goes on to what it takes back. -/
lemma step_refusal {flush : FlushId} {roots : List RootId} {unregister : List RegistrationId}
    (hstage : h.engine.stage? flush = some (.registering roots unregister)) :
    h.step (.reply flush false) =
      takeBack { h with engine := h.engine.reject roots } flush unregister := by
  have hreply : h.engine.reply flush false =
      (h.engine.reject roots).takeBack flush unregister := by
    rcases reply_cases h.engine flush false with
      ⟨hnone, -⟩ | ⟨roots', unregister', hstage', heq⟩ | ⟨hlast, -⟩
    · rw [hstage] at hnone
      cases hnone
    · rw [hstage] at hstage'
      cases hstage'
      exact heq
    · rw [hstage] at hlast
      cases hlast
  rw [step, hreply]
  simp only [Bool.false_eq_true, if_false, List.append_nil]
  rfl

lemma unregistered_takeBack (h : WatchHistory) (id : FlushId) (ids : List RegistrationId) :
    (h.takeBack id ids).unregistered = h.unregistered ++ ids := by
  rw [unregistered, takeBack, List.flatMap_append, takeBack_fst]
  cases ids with
  | nil => simp [unregistered]
  | cons n ids => simp [unregistered, RegistrarCall.unregistered]

/-- A refused flush takes back all that it holds. -/
lemma unregistered_refusal {flush : FlushId} {roots : List RootId}
    {unregister : List RegistrationId}
    (hstage : h.engine.stage? flush = some (.registering roots unregister)) :
    (h.step (.reply flush false)).unregistered = h.unregistered ++ unregister := by
  rw [step_refusal hstage, unregistered_takeBack]
  rfl

/-- After a refusal those registrations are in force that were so and that the flush has not taken
back. -/
lemma inForce_refusal {flush : FlushId} {roots : List RootId} {unregister : List RegistrationId}
    (hstage : h.engine.stage? flush = some (.registering roots unregister)) {reg : Registration} :
    (h.step (.reply flush false)).InForce reg ↔ h.InForce reg ∧ reg.id ∉ unregister := by
  have hsent : (h.step (.reply flush false)).registrations = h.registrations := by
    rw [step_refusal hstage, takeBack_registrations]
    rfl
  have haccepted : (h.step (.reply flush false)).accepted = h.accepted := by
    rw [step_refusal hstage]
    rfl
  have htaken := unregistered_refusal hstage
  constructor
  · rintro ⟨hreg, hin, hkept⟩
    rw [hsent] at hreg
    rw [haccepted] at hin
    rw [htaken, List.mem_append, not_or] at hkept
    exact ⟨⟨hreg, hin, hkept.1⟩, hkept.2⟩
  · rintro ⟨⟨hreg, hin, hkept⟩, hnot⟩
    refine ⟨hsent ▸ hreg, haccepted ▸ hin, ?_⟩
    rw [htaken, List.mem_append, not_or]
    exact ⟨hkept, hnot⟩

/-- What a root is registered under is not taken back by a flush that is under way. -/
lemma not_superseded_of_registered {actions : List WatchAction} {flush : FlushId}
    {roots : List RootId} {unregister : List RegistrationId}
    (hstage : (run actions).engine.stage? flush = some (.registering roots unregister))
    {r : WatchRoot} (hr : r ∈ (run actions).engine.roots) {n : RegistrationId}
    (hstatus : r.status = .registered n) : ¬ Superseded actions flush n := by
  rw [← mem_unregister_iff hstage]
  intro hmem
  have hnodup := (nodup_holdings_run actions).of_append_left
  refine List.disjoint_of_nodup_append hnodup (a := n) ?_ ?_
  · refine List.mem_append_left _ ?_
    exact List.mem_flatMap.mpr ⟨r, hr, mem_registrationOf.mpr hstatus⟩
  · refine (perm_toUnregister (consistent_run actions).flushIds hstage).mem_iff.mpr ?_
    exact List.mem_append_right _ hmem

/-- **Coverage after a refusal**: when the client refuses what a flush has sent, the flush takes
back what had been replaced when it started, whether or not there is anything in its place. So a
watcher is served afterwards exactly if it was served by a registration in force that had not been
replaced; and it is so if its root is registered under a number that the client has accepted. -/
theorem coverage_after_refusal {actions : List WatchAction} {flush : FlushId} {roots : List RootId}
    {unregister : List RegistrationId}
    (hstage : (run actions).engine.stage? flush = some (.registering roots unregister))
    {w : Watcher} (hw : w ∈ (run actions).engine.watchers) :
    (∀ reg, (run actions).InForce reg →
      (reg.id ∈ (run (actions ++ [.reply flush false])).unregistered ↔
        Superseded actions flush reg.id)) ∧
    ((∃ reg, (run (actions ++ [.reply flush false])).InForce reg ∧ reg.Serves w.pattern w.kind) ↔
      ∃ reg, (run actions).InForce reg ∧ reg.Serves w.pattern w.kind ∧
        ¬ Superseded actions flush reg.id) ∧
    ∀ r n, (run actions).engine.root? w.root = some r → r.status = .registered n →
      n ∈ (run actions).accepted →
      ∃ reg, (run (actions ++ [.reply flush false])).InForce reg ∧ reg.Serves w.pattern w.kind ∧
        reg.id = n := by
  have hc := consistent_run actions
  rw [run_append]
  refine ⟨fun reg hforce => ?_, ?_, fun r n hroot hstatus haccepted => ?_⟩
  · rw [unregistered_refusal hstage, List.mem_append, or_iff_right hforce.kept,
      mem_unregister_iff hstage]
  · simp only [inForce_refusal hstage, mem_unregister_iff hstage]
    constructor
    · rintro ⟨reg, ⟨hforce, hnot⟩, hserves⟩
      exact ⟨reg, hforce, hserves, hnot⟩
    · rintro ⟨reg, hforce, hserves, hnot⟩
      exact ⟨reg, ⟨hforce, hnot⟩, hserves⟩
  · obtain ⟨hr, hid⟩ := root?_eq_some hroot
    obtain ⟨s, hs, hsid, hcovers, hwithin⟩ := hc.sound.served w hw
    obtain rfl : s = r := List.inj_on_of_nodup_map hc.sound.rootIds hs hr (hsid.trans hid.symm)
    have hkept : n ∉ (run actions).unregistered := by
      refine List.disjoint_of_nodup_append (nodup_holdings_run actions) ?_
      refine List.mem_append_left _ (List.mem_append_left _ ?_)
      exact List.mem_flatMap.mpr ⟨s, hs, mem_registrationOf.mpr hstatus⟩
    have hnot := not_superseded_of_registered hstage hs hstatus
    rw [← mem_unregister_iff hstage] at hnot
    refine ⟨⟨n, s.pattern.toWatcher s.kind⟩, (inForce_refusal hstage).mpr ⟨?_, hnot⟩,
      ⟨?_, hwithin⟩, rfl⟩
    · exact ⟨hc.sent s hs n hstatus, haccepted, hkept⟩
    · rwa [Registration.pattern_toWatcher]

/-- A directory is watched for creations, which the client has accepted, and then also for
deletions, for which its root is being registered anew. -/
def widenedRun : List WatchAction :=
  [.enable, .add (tree "/a") ⟨1⟩, .flush fun _ => true, .reply 0 true, .add (tree "/a") ⟨4⟩,
    .flush fun _ => true]

/-- The first watcher of that run. -/
def widenedWatcher : Watcher := { id := 0, root := 0, pattern := tree "/a", kind := ⟨1⟩ }

/-- When the client refuses the wider registration, the first watcher loses the registration that
the client had accepted for it, and no other one serves it. -/
theorem coverage_after_refusal_widenedRun :
    let first : Registration := ⟨1, (tree "/a").toWatcher ⟨1⟩⟩
    (run widenedRun).engine.stage? 1 = some (.registering [0] [1]) ∧
      widenedWatcher ∈ (run widenedRun).engine.watchers ∧
      (run widenedRun).InForce first ∧ first.Serves widenedWatcher.pattern widenedWatcher.kind ∧
      widenedWatcher ∈ (run (widenedRun ++ [.reply 1 false])).engine.watchers ∧
      1 ∈ (run (widenedRun ++ [.reply 1 false])).unregistered ∧
      ¬ ∃ reg, (run (widenedRun ++ [.reply 1 false])).InForce reg ∧
        reg.Serves widenedWatcher.pattern widenedWatcher.kind := by
  intro first
  have hstage : (run widenedRun).engine.stage? 1 = some (.registering [0] [1]) := by decide +kernel
  have hw : widenedWatcher ∈ (run widenedRun).engine.watchers := by decide +kernel
  have hforce : (run widenedRun).InForce first :=
    ⟨by decide +kernel, by decide +kernel, by decide +kernel⟩
  have hsuperseded : Superseded widenedRun 1 1 := by
    refine ⟨widenedRun.take 4, .add (tree "/a") ⟨4⟩, widenedRun.drop 5, rfl, ?_,
      .inl ⟨_, _, rfl⟩, ?_, ?_⟩
    all_goals decide +kernel
  obtain ⟨htaken, hserved, -⟩ := coverage_after_refusal hstage hw
  refine ⟨hstage, hw, hforce, by decide +kernel, by decide +kernel,
    (htaken first hforce).mpr hsuperseded, fun hafter => ?_⟩
  obtain ⟨reg, hreg, -, hnot⟩ := hserved.mp hafter
  -- the client has accepted nothing else
  have haccepted : (run widenedRun).accepted = [1] := by decide +kernel
  have hid : reg.id = 1 := by simpa [haccepted] using hreg.accepted
  exact hnot (hid ▸ hsuperseded)

end WatchHistory

end ProviderHub
