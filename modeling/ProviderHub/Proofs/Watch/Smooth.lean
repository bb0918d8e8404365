import ProviderHub.Proofs.Watch.Conservation

/-!
Runs of a watch engine in which nothing fails.

The client accepts what it is sent, and what is to be watched is on disk when a flush looks for it.
In such a run a root does not stay behind: it is registered, or the next flush looks at it. And no
registration is dropped.

* `WatchHistory.Smooth`, `WatchHistory.SmoothRun`: nothing fails in an action, and in a run;
* `WatchEngine.Ready`: every root is registered or waits to be; `ready_run` says so of smooth runs;
* `WatchHistory.SmoothRun.mem_holdings`: all that has been sent is accounted for.
-/

namespace ProviderHub

open WatchEngine

namespace WatchEngine

variable {e : WatchEngine} {ids : List RootId}

/-! ### Roots that wait for a flush -/

lemma mem_insertId {id j : RootId} : j ∈ insertId id ids ↔ j = id ∨ j ∈ ids := by
  induction ids with
  | nil => simp [insertId]
  | cons k ids ih =>
      rw [insertId]
      split
      · simp
      · split
        · rename_i heq
          simp [heq]
        · rw [List.mem_cons, ih, List.mem_cons]
          exact or_left_comm

/-- Every root is registered, or is pending and has one of these numbers. -/
def Ready (e : WatchEngine) (ids : List RootId) : Prop :=
  ∀ r ∈ e.roots, (r.status = .pending ∧ r.id ∈ ids) ∨ ∃ n, r.status = .registered n

/-- Changing roots apart from their numbers and where they stand with the client. -/
lemma Ready.map (h : e.Ready ids) {f : WatchRoot → WatchRoot} (hid : ∀ r, (f r).id = r.id)
    (hstatus : ∀ r, (f r).status = r.status) : Ready { e with roots := e.roots.map f } ids := by
  intro r' hr'
  obtain ⟨r, hr, rfl⟩ := List.mem_map.mp hr'
  rw [hid, hstatus]
  exact h r hr

lemma Ready.schedule (h : e.Ready e.pending) : e.schedule.Ready e.schedule.pending :=
  (schedule_congr (fun e => e.Ready e.pending) (fun _ => rfl) e).mpr h

lemma Ready.takeBack (h : e.Ready e.pending) (id : FlushId) (ids : List RegistrationId) :
    (e.takeBack id ids).2.Ready (e.takeBack id ids).2.pending :=
  (takeBack_congr (fun e => e.Ready e.pending) (fun _ _ => rfl) (fun _ => rfl) e id ids).mpr h

lemma Ready.teardown (h : e.Ready e.pending) (id : RootId) :
    (e.teardown id).Ready (e.teardown id).pending := by
  rw [WatchEngine.teardown]
  split
  · intro r hr
    obtain ⟨hr, hne⟩ := List.mem_filter.mp hr
    exact (h r hr).imp_left (And.imp_right fun hmem => List.mem_filter.mpr ⟨hmem, hne⟩)
  · exact h

lemma Ready.requeue (h : e.Ready e.pending) (id : RootId) :
    (e.requeue id).Ready (e.requeue id).pending := by
  rw [WatchEngine.requeue]
  split
  · intro r' hr'
    obtain ⟨r, hr, rfl⟩ := List.mem_map.mp hr'
    split
    · rename_i hid
      exact .inl ⟨rfl, mem_insertId.mpr (.inl hid)⟩
    · exact (h r hr).imp_left (And.imp_right fun hmem => mem_insertId.mpr (.inr hmem))
  · exact h

lemma Ready.attach (h : e.Ready e.pending) (r : WatchRoot) (kind : WatchKind) :
    (e.attach r kind).Ready (e.attach r kind).pending := by
  have hcounted : Ready { e with roots := e.roots.map (attached r kind) } e.pending := by
    refine h.map (attached_id r kind) fun s => ?_
    rw [attached]
    split <;> rfl
  rw [attach_eq]
  split
  · exact hcounted.requeue r.id
  · exact hcounted

/-- The root that takes the place of others waits, and so do those that waited and stay. -/
lemma Ready.merge (h : e.Ready e.pending) (hnodup : (e.roots.map WatchRoot.id).Nodup)
    (pattern : WatchPattern) (kind : WatchKind) :
    (e.merge pattern kind).Ready (e.merge pattern kind).pending := by
  rw [merge_eq hnodup]
  intro r hr
  rcases List.mem_append.mp hr with hold | hnew
  · obtain ⟨hr, hnot⟩ := List.mem_filter.mp hold
    refine (h r hr).imp_left (And.imp_right fun hmem => mem_insertId.mpr (.inr ?_))
    refine List.mem_filter.mpr ⟨hmem, ?_⟩
    rwa [contains_coveredBy hnodup pattern hr]
  · rw [List.mem_singleton.mp hnew]
    exact .inl ⟨rfl, mem_insertId.mpr (.inl rfl)⟩

lemma Ready.add (h : e.Ready e.pending) (hnodup : (e.roots.map WatchRoot.id).Nodup)
    (pattern : WatchPattern) (kind : WatchKind) :
    (e.add pattern kind).2.Ready (e.add pattern kind).2.pending := by
  rw [add_eq]
  refine Ready.schedule ?_
  show (e.rootFor pattern.normalized kind).2.Ready (e.rootFor pattern.normalized kind).2.pending
  rcases rootFor_cases e pattern.normalized kind with ⟨r, -, -, heq⟩ | ⟨-, heq⟩
  · rw [heq]
    exact h.attach r kind
  · rw [heq]
    exact h.merge hnodup pattern.normalized kind

lemma Ready.dispose (h : e.Ready e.pending) (hsound : e.Sound) (id : WatcherId) :
    (e.dispose id).Ready (e.dispose id).pending := by
  rcases hsound.dispose_cases id with heq | ⟨w, r, -, -, heq⟩
  · rwa [heq]
  · have hreleased : (e.released id r.id).Ready (e.released id r.id).pending := by
      refine h.map (fun s => ?_) fun s => ?_ <;> split <;> rfl
    rw [heq]
    split
    · exact (hreleased.teardown r.id).schedule
    · exact hreleased

/-- When a flush has found all the roots on disk that waited for it, no root waits. -/
lemma Ready.assign {onDisk : Url → Bool} (h : e.Ready ids)
    (hnodup : (e.roots.map WatchRoot.id).Nodup)
    (hdisk : ∀ r ∈ e.roots, r.id ∈ ids → onDisk r.pattern.base = true) :
    (assign onDisk ids e).2.Ready [] := by
  induction ids generalizing e with
  | nil => exact h
  | cons id ids ih =>
      have hdisk' : ∀ r ∈ e.roots, r.id ∈ ids → onDisk r.pattern.base = true :=
        fun r hr hmem => hdisk r hr (List.mem_cons_of_mem _ hmem)
      rw [WatchEngine.assign]
      split
      · rename_i hnone
        refine ih (fun r hr => (h r hr).imp_left (And.imp_right fun hmem => ?_)) hnodup hdisk'
        exact List.mem_of_ne_of_mem (id_ne_of_root?_eq_none hnone r hr) hmem
      · rename_i r hroot
        obtain ⟨hr, rfl⟩ := root?_eq_some hroot
        split
        · rename_i hdone
          refine ih (fun s hs => ?_) hnodup hdisk'
          rcases h s hs with ⟨hpending, hmem⟩ | hregistered
          · refine .inl ⟨hpending, List.mem_of_ne_of_mem (fun hid => hdone ?_) hmem⟩
            rwa [← List.inj_on_of_nodup_map hnodup hs hr hid]
          · exact .inr hregistered
        · rw [if_pos (hdisk r hr (List.mem_cons_self ..))]
          refine ih ?_ ?_ ?_
          · intro s' hs'
            obtain ⟨s, hs, rfl⟩ := List.mem_map.mp hs'
            split
            · exact .inr ⟨e.nextRegistration, rfl⟩
            · rename_i hne
              exact (h s hs).imp_left (And.imp_right (List.mem_of_ne_of_mem hne))
          · show ((e.updateRoot r.id ({ · with status := _ })).roots.map WatchRoot.id).Nodup
            rwa [map_id_eq_of_plain (updateRoot_status_plain e r.id _)]
          · intro s' hs' hmem
            obtain ⟨s, hs, rfl⟩ := List.mem_map.mp hs'
            have hsame : (if s.id = r.id then
                { s with status := .registered e.nextRegistration } else s).plain = s.plain := by
              split <;> rfl
            obtain ⟨hid, hpattern, -⟩ := WatchRoot.plain_eq_iff.mp hsame
            rw [hpattern]
            exact hdisk' s hs (hid ▸ hmem)

end WatchEngine

namespace WatchHistory

variable {h : WatchHistory}

/-! ### Runs in which nothing fails -/

/-- Nothing fails in an action: a flush finds the roots on disk that wait for it, and the client does
not refuse registrations. -/
def Smooth (h : WatchHistory) : WatchAction → Prop
  | .flush onDisk =>
    ∀ r ∈ h.engine.roots, r.id ∈ h.engine.pending → onDisk r.pattern.base = true
  | .reply flush false =>
    ∀ roots unregister, h.engine.stage? flush ≠ some (.registering roots unregister)
  | _ => True

/-- Nothing fails in a run. -/
def SmoothRun (actions : List WatchAction) : Prop :=
  ∀ before action after, actions = before ++ action :: after → (run before).Smooth action

lemma SmoothRun.left {before after : List WatchAction} (h : SmoothRun (before ++ after)) :
    SmoothRun before := by
  intro start action rest heq
  exact h start action (rest ++ after) (by rw [heq, List.append_assoc, List.cons_append])

lemma SmoothRun.last {actions : List WatchAction} {action : WatchAction}
    (h : SmoothRun (actions ++ [action])) : (run actions).Smooth action :=
  h actions action [] rfl

/-- A run is smooth if flushes find everything on disk and the client refuses nothing. -/
lemma smoothRun_of_forall {actions : List WatchAction}
    (hdisk : ∀ onDisk, .flush onDisk ∈ actions → ∀ u, onDisk u = true)
    (haccepts : ∀ flush, .reply flush false ∉ actions) : SmoothRun actions := by
  rintro before action after rfl
  have hmem : action ∈ before ++ action :: after := by simp
  unfold Smooth
  split
  · exact fun r _ _ => hdisk _ hmem _
  · exact absurd hmem (haccepts _)
  · trivial

lemma Smooth.dropped {action : WatchAction} (hsmooth : h.Smooth action) : h.dropped action = [] := by
  refine List.eq_nil_iff_forall_not_mem.mpr fun id hid => ?_
  unfold WatchHistory.dropped at hid
  split at hid
  · obtain ⟨roots, unregister, hstage, -⟩ := mem_exposed.mp hid
    exact hsmooth roots unregister hstage
  · cases hid

/-- All that has been sent in a smooth run is accounted for. -/
lemma SmoothRun.mem_holdings {actions : List WatchAction} (hsmooth : SmoothRun actions)
    {id : RegistrationId} (hid : id ∈ (run actions).registrations.map Registration.id) :
    id ∈ (run actions).holdings := by
  refine (mem_holdings_iff actions hid).mpr fun before action after heq => ?_
  rw [(hsmooth before action after heq).dropped]
  exact List.not_mem_nil

/-- The answer to a flush leaves no root behind unless it refuses registrations. -/
lemma Smooth.ready_reply {flush : FlushId} {accepted : Bool}
    (hsmooth : h.Smooth (.reply flush accepted)) (hready : h.engine.Ready h.engine.pending) :
    (h.engine.reply flush accepted).2.Ready (h.engine.reply flush accepted).2.pending := by
  rcases reply_cases h.engine flush accepted with
    ⟨-, heq⟩ | ⟨roots, unregister, hstage, heq⟩ | ⟨-, heq⟩
  · rwa [heq]
  · rw [heq]
    cases accepted with
    | true => exact hready.takeBack flush unregister
    | false => exact absurd hstage (hsmooth roots unregister)
  · rw [heq]
    exact hready.takeBack flush []

lemma Smooth.ready_flush (hsound : h.engine.Sound) {onDisk : Url → Bool}
    (hsmooth : h.Smooth (.flush onDisk)) (hready : h.engine.Ready h.engine.pending) :
    (h.engine.flush onDisk).2.Ready (h.engine.flush onDisk).2.pending := by
  rcases flush_cases onDisk hsound.rootIds with heq | ⟨assigned, e, hassign, ha, heq⟩
  · rw [heq]
    exact hready
  · have he : e.Ready e.pending := by
      have hnone := Ready.assign (e := h.engine.emptied) hready hsound.rootIds hsmooth
      rw [hassign] at hnone
      rwa [show e.pending = [] from ha.pending]
    rcases heq with ⟨-, heq⟩ | heq
    · rw [heq]
      exact he.takeBack _ _
    · rw [heq]
      exact he

lemma Smooth.ready {action : WatchAction} (hsound : h.engine.Sound) (hsmooth : h.Smooth action)
    (hready : h.engine.Ready h.engine.pending) :
    (h.step action).engine.Ready (h.step action).engine.pending := by
  cases action with
  | add pattern kind => exact hready.add hsound.rootIds pattern kind
  | dispose id => exact hready.dispose hsound id
  | enable => exact Ready.schedule hready
  | flush onDisk => exact hsmooth.ready_flush hsound hready
  | reply flush accepted => exact hsmooth.ready_reply hready
  | dispatch events => exact hready
  | fetch id count => exact hready
  | shutdown => exact hready

/-- After a smooth run every root is registered or the next flush looks at it. -/
lemma ready_run {actions : List WatchAction} (hsmooth : SmoothRun actions) :
    (run actions).engine.Ready (run actions).engine.pending := by
  induction actions using List.reverseRecOn with
  | nil => exact fun r hr => nomatch hr
  | append_singleton actions action ih =>
      rw [run_append]
      exact hsmooth.last.ready (consistent_run actions).sound (ih hsmooth.left)

end WatchHistory

end ProviderHub
