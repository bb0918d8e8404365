import ProviderHub.Proofs.Numbered
import ProviderHub.Proofs.Watch.Containment

/-!
What the operations of a watch engine do to its roots.

The operations change roots in few ways: they take one out, mark one as pending, or give one a
number. For each there is what it does to the roots apart from their status, to which
`WatchRoot.plain` reduces them, and what it does to the registrations that are held, which
`WatchEngine.held` lists: those that are current at a root, and those that the next flush takes
back.

* `teardown_roots`, `requeue_roots`: which roots there are after such a change, and the frame lemmas
  beside them what it leaves alone;
* `teardown_held_perm`, `requeue_held_perm`, `attach_held_perm`: a registration moves and is neither
  lost nor doubled.
-/

namespace ProviderHub

open List (Perm)

/-- A root apart from where it stands with the client. -/
def WatchRoot.plain (r : WatchRoot) : WatchRoot := { r with status := .pending }

lemma WatchRoot.plain_eq_iff {r s : WatchRoot} :
    r.plain = s.plain ↔
      r.id = s.id ∧ r.pattern = s.pattern ∧ r.kind = s.kind ∧ r.refCount = s.refCount := by
  simp [plain]

/-- A watcher apart from the events that it has not fetched. -/
def Watcher.plain (w : Watcher) : Watcher := { w with events := [] }

lemma Watcher.plain_eq_iff {v w : Watcher} :
    v.plain = w.plain ↔
      v.id = w.id ∧ v.root = w.root ∧ v.pattern = w.pattern ∧ v.kind = w.kind := by
  simp [plain]

namespace WatchEngine

/-! ### The root of a number -/

variable {e : WatchEngine} {id : RootId} {r : WatchRoot}

lemma root?_eq_some (h : e.root? id = some r) : r ∈ e.roots ∧ r.id = id :=
  ⟨List.mem_of_find?_eq_some h, by simpa using List.find?_some h⟩

lemma root?_of_mem (hnodup : (e.roots.map WatchRoot.id).Nodup) (h : r ∈ e.roots) :
    e.root? r.id = some r :=
  find?_number_of_mem hnodup h

lemma id_ne_of_root?_eq_none (h : e.root? id = none) : ∀ r ∈ e.roots, r.id ≠ id := by
  intro r hr
  simpa using List.find?_eq_none.mp h r hr

/-! ### Frames -/

/-- An engine without its roots, without what is queued for the next flush, and without the timer of
that: the part that the operations on roots leave alone. -/
def frame (e : WatchEngine) : WatchEngine :=
  { e with roots := [], pending := [], pendingUnregister := [], armed := false }

/-- Starting the timer changes nothing else. -/
lemma schedule_congr {β : Type} (f : WatchEngine → β) (hf : ∀ e, f { e with armed := true } = f e)
    (e : WatchEngine) : f e.schedule = f e := by
  rw [schedule]
  split
  · rfl
  · exact hf e

@[simp] lemma schedule_roots (e : WatchEngine) : e.schedule.roots = e.roots :=
  schedule_congr roots (fun _ => rfl) e

lemma teardown_frame (e : WatchEngine) (id : RootId) : (e.teardown id).frame = e.frame := by
  rw [teardown]
  split <;> rfl

lemma requeue_frame (e : WatchEngine) (id : RootId) : (e.requeue id).frame = e.frame := by
  rw [requeue]
  split <;> rfl

lemma attach_frame (e : WatchEngine) (r : WatchRoot) (kind : WatchKind) :
    (e.attach r kind).frame = e.frame := by
  rw [attach]
  split
  · exact requeue_frame _ _
  · rfl

lemma foldl_teardown_frame (ids : List RootId) (e : WatchEngine) :
    (ids.foldl teardown e).frame = e.frame := by
  induction ids generalizing e with
  | nil => rfl
  | cons id ids ih => exact (ih _).trans (teardown_frame e id)

/-! ### Roots apart from their status -/

@[simp] lemma teardown_roots (e : WatchEngine) (id : RootId) :
    (e.teardown id).roots = e.roots.filter (·.id != id) := by
  rw [teardown]
  split
  · rfl
  · rename_i h
    refine (List.filter_eq_self.mpr fun r hr => ?_).symm
    simpa using id_ne_of_root?_eq_none h r hr

/-- Taking a root out leaves the roots of other numbers. -/
lemma teardown_root?_of_ne (e : WatchEngine) {id other : RootId} (hne : other ≠ id) :
    (e.teardown id).root? other = e.root? other := by
  rw [root?, teardown_roots, List.find?_filter, root?]
  congr 1
  funext r
  by_cases hr : r.id = other <;> simp [hr, hne]

/-- Taking several roots out leaves the others, and the registrations of those that have gone are to
be taken back. -/
lemma foldl_teardown_eq {rs : List WatchRoot} (hids : (rs.map WatchRoot.id).Nodup) {e : WatchEngine}
    (hroots : ∀ r ∈ rs, e.root? r.id = some r) :
    (rs.map WatchRoot.id).foldl teardown e =
      { e with
        roots := e.roots.filter fun r => !(rs.map WatchRoot.id).contains r.id
        pending := e.pending.filter fun id => !(rs.map WatchRoot.id).contains id
        pendingUnregister := e.pendingUnregister ++ rs.flatMap registrationOf } := by
  induction rs generalizing e with
  | nil => simp
  | cons r rs ih =>
      rw [List.map_cons, List.nodup_cons] at hids
      have hr := hroots r (List.mem_cons_self ..)
      have hrest : ∀ s ∈ rs, (e.teardown r.id).root? s.id = some s := by
        intro s hs
        have hne : s.id ≠ r.id := fun heq => hids.1 (heq ▸ List.mem_map_of_mem hs)
        rw [teardown_root?_of_ne e hne]
        exact hroots s (List.mem_cons_of_mem _ hs)
      have hcontains : ∀ id, (!(r.id :: rs.map WatchRoot.id).contains id) =
          (id != r.id && !(rs.map WatchRoot.id).contains id) := fun id => by
        rw [List.contains_cons, Bool.not_or, bne]
      rw [List.map_cons, List.foldl_cons, ih hids.2 hrest, teardown, hr]
      simp only [hcontains, List.filter_filter, List.flatMap_cons, List.append_assoc, Bool.and_comm]

lemma requeue_roots (e : WatchEngine) (id : RootId) :
    (e.requeue id).roots =
      e.roots.map fun r => if r.id = id then { r with status := .pending } else r := by
  rw [requeue]
  split
  · rfl
  · rename_i h
    conv_lhs => rw [← List.map_id e.roots]
    refine List.map_congr_left fun r hr => ?_
    simp [id_ne_of_root?_eq_none h r hr]

/-- Changing only the status of roots leaves them as they are apart from it. -/
lemma map_plain_map {roots : List WatchRoot} {f : WatchRoot → WatchRoot}
    (hf : ∀ r, (f r).plain = r.plain) :
    (roots.map f).map WatchRoot.plain = roots.map WatchRoot.plain := by
  rw [List.map_map]
  exact List.map_congr_left fun r _ => hf r

lemma requeue_plain (e : WatchEngine) (id : RootId) :
    (e.requeue id).roots.map WatchRoot.plain = e.roots.map WatchRoot.plain := by
  rw [requeue_roots]
  refine map_plain_map fun r => ?_
  split <;> rfl

lemma updateRoot_status_plain (e : WatchEngine) (id : RootId) (status : RootStatus) :
    (e.updateRoot id ({ · with status })).roots.map WatchRoot.plain =
      e.roots.map WatchRoot.plain := by
  refine map_plain_map fun r => ?_
  split <;> rfl

lemma reject_plain (e : WatchEngine) (ids : List RootId) :
    (e.reject ids).roots.map WatchRoot.plain = e.roots.map WatchRoot.plain := by
  refine map_plain_map fun r => ?_
  split <;> rfl

lemma map_id_eq_of_plain {rs ss : List WatchRoot}
    (h : rs.map WatchRoot.plain = ss.map WatchRoot.plain) :
    rs.map WatchRoot.id = ss.map WatchRoot.id := by
  simpa [Function.comp_def, WatchRoot.plain] using congrArg (List.map WatchRoot.id) h

/-- The root of an engine that one of another engine is apart from its status. -/
lemma exists_of_plain {rs ss : List WatchRoot} {r : WatchRoot}
    (h : rs.map WatchRoot.plain = ss.map WatchRoot.plain) (hr : r ∈ rs) :
    ∃ s ∈ ss, s.plain = r.plain :=
  List.mem_map.mp (h ▸ List.mem_map_of_mem hr)

/-- Two engines with the same roots and watchers, apart from where the roots stand with the client
and from the events that the watchers have not fetched. -/
structure Same (e e' : WatchEngine) : Prop where
  roots : e'.roots.map WatchRoot.plain = e.roots.map WatchRoot.plain
  watchers : e'.watchers.map Watcher.plain = e.watchers.map Watcher.plain
  nextRoot : e'.nextRoot = e.nextRoot
  nextWatcher : e'.nextWatcher = e.nextWatcher

lemma Same.trans {e f g : WatchEngine} (hef : Same e f) (hfg : Same f g) : Same e g :=
  ⟨hfg.roots.trans hef.roots, hfg.watchers.trans hef.watchers, hfg.nextRoot.trans hef.nextRoot,
    hfg.nextWatcher.trans hef.nextWatcher⟩

lemma schedule_same (e : WatchEngine) : Same e e.schedule where
  roots := by rw [schedule_roots]
  watchers := congrArg (List.map Watcher.plain) (schedule_congr WatchEngine.watchers (fun _ => rfl) e)
  nextRoot := schedule_congr WatchEngine.nextRoot (fun _ => rfl) e
  nextWatcher := schedule_congr WatchEngine.nextWatcher (fun _ => rfl) e

lemma dispatch_same (e : WatchEngine) (events : List FileEvent) : Same e (e.dispatch events).2 where
  roots := rfl
  watchers := (List.map_map ..).trans (List.map_congr_left fun _ _ => rfl)
  nextRoot := rfl
  nextWatcher := rfl

lemma fetch_same (e : WatchEngine) (id : WatcherId) (count : Nat) :
    Same e (e.fetch id count).2 where
  roots := rfl
  watchers := by
    refine (List.map_map ..).trans (List.map_congr_left fun w _ => ?_)
    simp only [Function.comp]
    split <;> rfl
  nextRoot := rfl
  nextWatcher := rfl

/-! ### Registrations that are held -/

/-- The registrations that are current at a root, and those that the next flush takes back. -/
def held (e : WatchEngine) : List RegistrationId :=
  e.roots.flatMap registrationOf ++ e.pendingUnregister

lemma mem_registrationOf {r : WatchRoot} {n : RegistrationId} :
    n ∈ registrationOf r ↔ r.status = .registered n := by
  rw [registrationOf]
  split <;> simp_all [eq_comm]

@[simp] lemma schedule_held (e : WatchEngine) : e.schedule.held = e.held :=
  schedule_congr held (fun _ => rfl) e

/-- A registration goes from a root to the end of the queue. -/
lemma perm_queued {α : Type} (others queue own : List α) :
    (others ++ (queue ++ own)).Perm ((own ++ others) ++ queue) := by
  rw [← List.append_assoc, List.append_assoc own]
  exact List.perm_append_comm

/-- A root that is taken out leaves its registration to the next flush. -/
lemma teardown_held_perm (hnodup : (e.roots.map WatchRoot.id).Nodup) (id : RootId) :
    (e.teardown id).held.Perm e.held := by
  rw [teardown]
  split
  · rename_i r h
    have hroots := (perm_cons_filter_of_find? hnodup h).flatMap_right registrationOf
    rw [List.flatMap_cons] at hroots
    exact (perm_queued _ _ _).trans (hroots.symm.append_right _)
  · rfl

lemma foldl_teardown_held_perm (ids : List RootId) {e : WatchEngine}
    (hnodup : (e.roots.map WatchRoot.id).Nodup) : (ids.foldl teardown e).held.Perm e.held := by
  induction ids generalizing e with
  | nil => rfl
  | cons id ids ih =>
      have hrest : ((e.teardown id).roots.map WatchRoot.id).Nodup := by
        rw [teardown_roots]
        exact hnodup.sublist (List.filter_sublist.map _)
      exact (ih hrest).trans (teardown_held_perm hnodup id)

/-- A root that is queued again leaves its registration to the next flush. -/
lemma requeue_held_perm (hnodup : (e.roots.map WatchRoot.id).Nodup) (id : RootId) :
    (e.requeue id).held.Perm e.held := by
  rw [requeue]
  split
  · rename_i r h
    have hbefore := (perm_cons_filter_of_find? hnodup h).flatMap_right registrationOf
    have hafter := (map_perm_cons_filter_of_find? ({ · with status := .pending }) hnodup h).flatMap_right
      registrationOf
    rw [List.flatMap_cons] at hbefore hafter
    refine (hafter.append_right _).trans (Perm.trans ?_ (hbefore.symm.append_right _))
    exact perm_queued _ _ _
  · rfl

/-- Changing anything but the status of roots leaves their registrations as they are. -/
lemma flatMap_registrationOf_map {roots : List WatchRoot} {f : WatchRoot → WatchRoot}
    (hf : ∀ r, (f r).status = r.status) :
    (roots.map f).flatMap registrationOf = roots.flatMap registrationOf := by
  rw [List.flatMap_map]
  refine List.flatMap_congr fun r _ => ?_
  rw [registrationOf, registrationOf, hf]

/-- The root that one more watcher relies on. -/
def attached (r : WatchRoot) (kind : WatchKind) (s : WatchRoot) : WatchRoot :=
  if s.id = r.id then { s with refCount := s.refCount + 1, kind := r.kind.union kind } else s

lemma attach_eq (e : WatchEngine) (r : WatchRoot) (kind : WatchKind) :
    e.attach r kind =
      if r.kind.union kind != r.kind || r.status = .vanished then
        { e with roots := e.roots.map (attached r kind) }.requeue r.id
      else { e with roots := e.roots.map (attached r kind) } :=
  rfl

lemma attach_held_perm (hnodup : (e.roots.map WatchRoot.id).Nodup) (r : WatchRoot)
    (kind : WatchKind) : (e.attach r kind).held.Perm e.held := by
  have hids : ((e.roots.map (attached r kind)).map WatchRoot.id).Nodup := by
    rwa [List.map_map, show WatchRoot.id ∘ attached r kind = WatchRoot.id from ?_]
    funext s
    simp only [Function.comp, attached]
    split <;> rfl
  have hstatus : (e.roots.map (attached r kind)).flatMap registrationOf =
      e.roots.flatMap registrationOf := by
    refine flatMap_registrationOf_map fun s => ?_
    rw [attached]
    split <;> rfl
  have hheld : held { e with roots := e.roots.map (attached r kind) } = e.held := by
    rw [held, held, hstatus]
  rw [attach_eq]
  split
  · exact (requeue_held_perm hids r.id).trans (by rw [hheld])
  · rw [hheld]

end WatchEngine

end ProviderHub
