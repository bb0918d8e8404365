import ProviderHub.Proofs.Watch.Smooth

/-!
Work that waits for a flush.

Work appears when a watcher comes or goes, at any time, also while flushes wait for the client. A
flush takes all work over when it starts, and whatever appears afterwards starts the timer again at
once: there is no need to wait for the end of the flush.

* `WatchEngine.Queued`: the roots that are pending are queued, and nothing but roots is queued;
* `WatchEngine.Tended`: where there is work that may be sent, the timer is running;
* `WatchHistory.pending_work_armed`: both hold after every run, and a flush leaves nothing behind.
-/

namespace ProviderHub

namespace WatchEngine

variable {e : WatchEngine} {ids : List RootId}

/-! ### Roots in the queue -/

/-- Every root that is pending is in the queue of the next flush, and all in the queue are roots. -/
structure Queued (e : WatchEngine) : Prop where
  waiting : ∀ r ∈ e.roots, r.status = .pending → r.id ∈ e.pending
  present : e.pending ⊆ e.roots.map WatchRoot.id

/-- Changing roots so that they keep their numbers and none becomes pending. -/
lemma Queued.map (h : e.Queued) {f : WatchRoot → WatchRoot} (hid : ∀ r, (f r).id = r.id)
    (hstatus : ∀ r, (f r).status = .pending → r.status = .pending) :
    Queued { e with roots := e.roots.map f } where
  waiting r' hr' hpending := by
    obtain ⟨r, hr, rfl⟩ := List.mem_map.mp hr'
    rw [hid]
    exact h.waiting r hr (hstatus r hpending)
  present id hmem := by
    have hids : (e.roots.map f).map WatchRoot.id = e.roots.map WatchRoot.id := by
      rw [List.map_map]
      exact List.map_congr_left fun r _ => hid r
    show id ∈ (e.roots.map f).map WatchRoot.id
    rw [hids]
    exact h.present hmem

lemma Queued.schedule (h : e.Queued) : e.schedule.Queued := by
  rw [WatchEngine.schedule]
  split
  · exact h
  · exact ⟨h.waiting, h.present⟩

lemma Queued.takeBack (h : e.Queued) (id : FlushId) (ids : List RegistrationId) :
    (e.takeBack id ids).2.Queued := by
  have hflushes (flushes : List Flush) : Queued { e with flushes } := ⟨h.waiting, h.present⟩
  rw [WatchEngine.takeBack]
  split
  · exact (hflushes _).schedule
  · exact hflushes _

lemma Queued.teardown (h : e.Queued) (id : RootId) : (e.teardown id).Queued := by
  rw [WatchEngine.teardown]
  split
  · constructor
    · intro r hr hpending
      obtain ⟨hr, hne⟩ := List.mem_filter.mp hr
      exact List.mem_filter.mpr ⟨h.waiting r hr hpending, hne⟩
    · intro other hmem
      obtain ⟨hmem, hne⟩ := List.mem_filter.mp hmem
      obtain ⟨r, hr, rfl⟩ := List.mem_map.mp (h.present hmem)
      exact List.mem_map_of_mem (List.mem_filter.mpr ⟨hr, hne⟩)
  · exact h

lemma Queued.requeue (h : e.Queued) (id : RootId) : (e.requeue id).Queued := by
  have hids := map_id_eq_of_plain (requeue_plain e id)
  constructor
  · rw [WatchEngine.requeue]
    split
    · intro r' hr' hpending
      obtain ⟨r, hr, rfl⟩ := List.mem_map.mp hr'
      split at hpending
      · rename_i hid
        rw [if_pos hid]
        exact mem_insertId.mpr (.inl hid)
      · rename_i hid
        rw [if_neg hid]
        exact mem_insertId.mpr (.inr (h.waiting r hr hpending))
    · exact h.waiting
  · rw [hids, WatchEngine.requeue]
    split
    · rename_i r hroot
      intro other hmem
      rcases mem_insertId.mp hmem with rfl | hold
      · obtain ⟨hr, rfl⟩ := root?_eq_some hroot
        exact List.mem_map_of_mem hr
      · exact h.present hold
    · exact h.present

lemma Queued.attach (h : e.Queued) (r : WatchRoot) (kind : WatchKind) :
    (e.attach r kind).Queued := by
  have hcounted : Queued { e with roots := e.roots.map (attached r kind) } := by
    refine h.map (attached_id r kind) fun s hs => ?_
    rw [attached] at hs
    split at hs <;> exact hs
  rw [attach_eq]
  split
  · exact hcounted.requeue r.id
  · exact hcounted

/-- The root that takes the place of others is queued, and those leave the queue. -/
lemma Queued.merge (h : e.Queued) (hnodup : (e.roots.map WatchRoot.id).Nodup)
    (pattern : WatchPattern) (kind : WatchKind) : (e.merge pattern kind).Queued := by
  rw [merge_eq hnodup]
  constructor
  · intro r hr hpending
    rcases List.mem_append.mp hr with hold | hnew
    · obtain ⟨hr, hnot⟩ := List.mem_filter.mp hold
      refine mem_insertId.mpr (.inr (List.mem_filter.mpr ⟨h.waiting r hr hpending, ?_⟩))
      rwa [contains_coveredBy hnodup pattern hr]
    · rw [List.mem_singleton.mp hnew]
      exact mem_insertId.mpr (.inl rfl)
  · intro id hmem
    rw [List.map_append, List.mem_append]
    rcases mem_insertId.mp hmem with rfl | hold
    · exact .inr (List.mem_singleton_self _)
    · obtain ⟨hmem, hnot⟩ := List.mem_filter.mp hold
      obtain ⟨r, hr, rfl⟩ := List.mem_map.mp (h.present hmem)
      rw [contains_coveredBy hnodup pattern hr] at hnot
      exact .inl (List.mem_map_of_mem (List.mem_filter.mpr ⟨hr, hnot⟩))

lemma Queued.add (h : e.Queued) (hnodup : (e.roots.map WatchRoot.id).Nodup)
    (pattern : WatchPattern) (kind : WatchKind) : (e.add pattern kind).2.Queued := by
  have hroot : (e.rootFor pattern.normalized kind).2.Queued := by
    rcases rootFor_cases e pattern.normalized kind with ⟨r, -, -, heq⟩ | ⟨-, heq⟩
    · rw [heq]
      exact h.attach r kind
    · rw [heq]
      exact h.merge hnodup pattern.normalized kind
  rw [add_eq]
  exact Queued.schedule ⟨hroot.waiting, hroot.present⟩

lemma Queued.dispose (h : e.Queued) (hsound : e.Sound) (id : WatcherId) :
    (e.dispose id).Queued := by
  rcases hsound.dispose_cases id with heq | ⟨w, r, -, -, heq⟩
  · rwa [heq]
  · have hreleased : (e.released id r.id).Queued := by
      have hcounted := h.map (f := fun s =>
          if s.id = r.id then { s with refCount := s.refCount - 1 } else s)
        (fun s => by split <;> rfl) (fun s hs => by split at hs <;> exact hs)
      exact ⟨hcounted.waiting, hcounted.present⟩
    rw [heq]
    split
    · exact (hreleased.teardown r.id).schedule
    · exact hreleased

/-- A flush that has looked at all pending roots leaves none of them pending. -/
lemma not_pending_of_mem_assign (onDisk : Url → Bool) (hnodup : (e.roots.map WatchRoot.id).Nodup)
    (h : ∀ r ∈ e.roots, r.status = .pending → r.id ∈ ids) :
    ∀ r ∈ (assign onDisk ids e).2.roots, r.status ≠ .pending := by
  induction ids generalizing e with
  | nil => exact fun r hr hpending => List.not_mem_nil (h r hr hpending)
  | cons id ids ih =>
      -- what is left to look at when the status of the first root is settled
      have hsettled {status : RootStatus} (hstatus : status ≠ .pending) :
          ∀ r ∈ (e.updateRoot id ({ · with status })).roots, r.status = .pending → r.id ∈ ids := by
        intro r' hr' hpending
        obtain ⟨r, hr, rfl⟩ := List.mem_map.mp hr'
        split at hpending
        · exact absurd hpending hstatus
        · rename_i hne
          rw [if_neg hne]
          exact List.mem_of_ne_of_mem hne (h r hr hpending)
      have hids (status : RootStatus) : ((e.updateRoot id ({ · with status })).roots.map
          WatchRoot.id).Nodup := by
        rwa [map_id_eq_of_plain (updateRoot_status_plain e id status)]
      rw [assign]
      split
      · rename_i hnone
        refine ih hnodup fun r hr hpending => ?_
        exact List.mem_of_ne_of_mem (id_ne_of_root?_eq_none hnone r hr) (h r hr hpending)
      · rename_i r hroot
        obtain ⟨hr, rfl⟩ := root?_eq_some hroot
        split
        · rename_i hdone
          refine ih hnodup fun s hs hpending => ?_
          refine List.mem_of_ne_of_mem (fun hid => hdone ?_) (h s hs hpending)
          rwa [← List.inj_on_of_nodup_map hnodup hs hr hid]
        · split
          · exact ih (hids _) (hsettled (by simp))
          · exact ih (hids _) (hsettled (by simp))

/-! ### The timer -/

/-- The timer is running if there is work and it may be sent. -/
def Tended (e : WatchEngine) : Prop :=
  e.enabled = true → e.closed = false → e.hasWork = true → e.armed = true

lemma schedule_tended (e : WatchEngine) : e.schedule.Tended := by
  rw [schedule]
  split
  · rename_i hidle
    intro henabled hopen hwork
    simp [henabled, hopen, hwork] at hidle
  · exact fun _ _ _ => rfl

lemma Tended.takeBack (h : e.Tended) (id : FlushId) (ids : List RegistrationId) :
    (e.takeBack id ids).2.Tended := by
  rw [WatchEngine.takeBack]
  split
  · exact schedule_tended _
  · exact h

lemma Tended.dispose (h : e.Tended) (hsound : e.Sound) (id : WatcherId) :
    (e.dispose id).Tended := by
  rcases hsound.dispose_cases id with heq | ⟨w, r, -, -, heq⟩
  · rwa [heq]
  · rw [heq]
    split
    · exact schedule_tended _
    · exact h

/-! ### Flushes and answers -/

/-- A flush that may send changes nothing after it has given numbers to roots, but the flushes and
the timer. -/
lemma flush_congr {β : Type} (f : WatchEngine → β)
    (hf : ∀ (e : WatchEngine) (fs : List Flush), f { e with flushes := fs } = f e)
    (ht : ∀ e : WatchEngine, f { e with armed := true } = f e)
    (henabled : e.enabled = true) (hopen : e.closed = false) (onDisk : Url → Bool) :
    f (e.flush onDisk).2 = f (assign onDisk e.pending e.emptied).2 := by
  have hon : ¬ (e.closed || !e.enabled) = true := by simp [henabled, hopen]
  rw [flush]
  simp only
  rw [if_neg hon]
  split
  · exact takeBack_congr f hf ht _ _ _
  · exact hf _ _

/-- A flush that may not send only ends the timer. -/
lemma flush_eq_of_idle (hidle : ¬ (e.enabled = true ∧ e.closed = false)) (onDisk : Url → Bool) :
    e.flush onDisk = (none, { e with armed := false }) := by
  have hoff : (e.closed || !e.enabled) = true := by
    cases henabled : e.enabled <;> cases hclosed : e.closed <;> simp_all
  rw [flush]
  simp only
  rw [if_pos hoff]

/-- **A flush leaves nothing behind**: when it has started, nothing is queued, and no root is
pending. -/
lemma Queued.flush_takes_all (h : e.Queued) (hnodup : (e.roots.map WatchRoot.id).Nodup)
    (henabled : e.enabled = true) (hopen : e.closed = false) (onDisk : Url → Bool) :
    (e.flush onDisk).2.pending = [] ∧ (e.flush onDisk).2.pendingUnregister = [] ∧
      ∀ r ∈ (e.flush onDisk).2.roots, r.status ≠ .pending := by
  have hassigned := assign_assigned onDisk e.pending e.emptied hnodup
  have hnone := not_pending_of_mem_assign (e := e.emptied) onDisk hnodup h.waiting
  rw [flush_congr pending (fun _ _ => rfl) (fun _ => rfl) henabled hopen,
    flush_congr pendingUnregister (fun _ _ => rfl) (fun _ => rfl) henabled hopen,
    flush_congr roots (fun _ _ => rfl) (fun _ => rfl) henabled hopen]
  exact ⟨hassigned.pending, hassigned.pendingUnregister, hnone⟩

lemma Queued.flush (h : e.Queued) (hnodup : (e.roots.map WatchRoot.id).Nodup)
    (onDisk : Url → Bool) : (e.flush onDisk).2.Queued := by
  by_cases hon : e.enabled = true ∧ e.closed = false
  · obtain ⟨hpending, -, hnone⟩ := h.flush_takes_all hnodup hon.1 hon.2 onDisk
    refine ⟨fun r hr hstatus => absurd hstatus (hnone r hr), ?_⟩
    rw [hpending]
    exact List.nil_subset _
  · rw [flush_eq_of_idle hon]
    exact ⟨h.waiting, h.present⟩

lemma Queued.flush_tended (h : e.Queued) (hnodup : (e.roots.map WatchRoot.id).Nodup)
    (onDisk : Url → Bool) : (e.flush onDisk).2.Tended := by
  by_cases hon : e.enabled = true ∧ e.closed = false
  · obtain ⟨hpending, hback, -⟩ := h.flush_takes_all hnodup hon.1 hon.2 onDisk
    intro _ _ hwork
    simp [hasWork, hpending, hback] at hwork
  · rw [flush_eq_of_idle hon]
    exact fun henabled hopen => absurd ⟨henabled, hopen⟩ hon

/-- A refusal makes no root pending and queues nothing. -/
lemma Queued.reject (h : e.Queued) (roots : List RootId) : (e.reject roots).Queued := by
  refine h.map (fun r => ?_) fun r hr => ?_
  · split <;> rfl
  · split at hr
    · cases hr
    · exact hr

lemma Queued.reply (h : e.Queued) (id : FlushId) (accepted : Bool) :
    (e.reply id accepted).2.Queued := by
  rcases reply_cases e id accepted with ⟨-, heq⟩ | ⟨roots, unregister, -, heq⟩ | ⟨-, heq⟩
  · rwa [heq]
  · rw [heq]
    cases accepted with
    | true => exact h.takeBack id unregister
    | false => exact (h.reject roots).takeBack id unregister
  · rw [heq]
    exact h.takeBack id []

lemma Tended.reply (h : e.Tended) (id : FlushId) (accepted : Bool) :
    (e.reply id accepted).2.Tended := by
  rcases reply_cases e id accepted with ⟨-, heq⟩ | ⟨roots, unregister, -, heq⟩ | ⟨-, heq⟩
  · rwa [heq]
  · rw [heq]
    refine Tended.takeBack ?_ id unregister
    cases accepted <;> exact h
  · rw [heq]
    exact h.takeBack id []

end WatchEngine

namespace WatchHistory

open WatchEngine

variable {h : WatchHistory}

/-! ### After every run -/

lemma queued_step (hsound : h.engine.Sound) (hqueued : h.engine.Queued) (action : WatchAction) :
    (h.step action).engine.Queued := by
  cases action with
  | add pattern kind => exact hqueued.add hsound.rootIds pattern kind
  | dispose id => exact hqueued.dispose hsound id
  | enable => exact Queued.schedule ⟨hqueued.waiting, hqueued.present⟩
  | flush onDisk => exact hqueued.flush hsound.rootIds onDisk
  | reply flush accepted => exact hqueued.reply flush accepted
  | _ => exact ⟨hqueued.waiting, hqueued.present⟩

lemma queued_run (actions : List WatchAction) : (run actions).engine.Queued := by
  induction actions using List.reverseRecOn with
  | nil => exact ⟨fun r hr => (nomatch hr), List.nil_subset _⟩
  | append_singleton actions action ih =>
      rw [run_append]
      exact queued_step (consistent_run actions).sound ih action

lemma tended_step (hsound : h.engine.Sound) (hqueued : h.engine.Queued) (htended : h.engine.Tended)
    (action : WatchAction) : (h.step action).engine.Tended := by
  cases action with
  | add pattern kind =>
      show (h.engine.add pattern kind).2.Tended
      rw [add_eq]
      exact schedule_tended _
  | dispose id => exact htended.dispose hsound id
  | enable => exact schedule_tended _
  | flush onDisk => exact hqueued.flush_tended hsound.rootIds onDisk
  | reply flush accepted => exact htended.reply flush accepted
  | dispatch events => exact htended
  | fetch id count => exact htended
  | shutdown => exact fun _ hopen => nomatch hopen

lemma tended_run (actions : List WatchAction) : (run actions).engine.Tended := by
  induction actions using List.reverseRecOn with
  | nil => exact fun henabled => nomatch henabled
  | append_singleton actions action ih =>
      rw [run_append]
      exact tended_step (consistent_run actions).sound (queued_run actions) ih action

/-- **No work is forgotten**: after every run the roots that are pending are in the queue, whatever
is in the queue is a root, and if there are roots to register or registrations to take back while
the engine may send, the timer is running, whether or not a flush is under way; and the flush that
the timer starts takes all of that over. -/
theorem pending_work_armed (actions : List WatchAction) :
    (∀ r ∈ (run actions).engine.roots, r.status = .pending → r.id ∈ (run actions).engine.pending) ∧
    (∀ id ∈ (run actions).engine.pending, ∃ r ∈ (run actions).engine.roots, r.id = id) ∧
    ((run actions).engine.enabled = true → (run actions).engine.closed = false →
      ((run actions).engine.pending ≠ [] ∨ (run actions).engine.pendingUnregister ≠ [] →
        (run actions).engine.armed = true) ∧
      ∀ onDisk, (run (actions ++ [.flush onDisk])).engine.pending = [] ∧
        (run (actions ++ [.flush onDisk])).engine.pendingUnregister = [] ∧
        ∀ r ∈ (run (actions ++ [.flush onDisk])).engine.roots, r.status ≠ .pending) := by
  have hqueued := queued_run actions
  refine ⟨hqueued.waiting, fun id hid => List.mem_map.mp (hqueued.present hid), ?_⟩
  intro henabled hopen
  constructor
  · intro hwork
    refine tended_run actions henabled hopen ?_
    simpa [hasWork] using hwork
  · intro onDisk
    rw [run_append]
    exact hqueued.flush_takes_all (consistent_run actions).sound.rootIds henabled hopen onDisk

/-- A directory is being registered when another watcher needs its root for more changes. -/
def busyRun : List WatchAction :=
  let pattern : WatchPattern :=
    ⟨{ scheme := "mem", authority := some { host := "h" }, path := "/a" }, true⟩
  [.enable, .add pattern ⟨1⟩, .flush fun _ => true, .add pattern ⟨4⟩]

/-- The timer runs again while the flush still waits for its answer, and the next flush takes over
both the root and the registration that is replaced. -/
theorem pending_work_armed_busyRun :
    (run busyRun).engine.stage? 0 = some (.registering [0] []) ∧
      (run busyRun).engine.pending = [0] ∧ (run busyRun).engine.pendingUnregister = [1] ∧
      (run busyRun).engine.armed = true ∧
      ∀ onDisk, (run (busyRun ++ [.flush onDisk])).engine.pending = [] ∧
        (run (busyRun ++ [.flush onDisk])).engine.pendingUnregister = [] := by
  obtain ⟨-, -, hwork⟩ := pending_work_armed busyRun
  obtain ⟨harmed, hflush⟩ := hwork (by decide +kernel) (by decide +kernel)
  refine ⟨by decide +kernel, by decide +kernel, by decide +kernel, harmed ?_, fun onDisk => ?_⟩
  · exact .inl (by decide +kernel)
  · exact ⟨(hflush onDisk).1, (hflush onDisk).2.1⟩

end WatchHistory

end ProviderHub
