import ProviderHub.Proofs.Watch.Roots

/-!
What watchers that come and go do to a watch engine.

* `WatchEngine.Sound`: roots and watchers have numbers of their own, every watcher has a root that
  covers it, and every root counts the watchers that rely on it;
* `Sound.add`, `Sound.dispose`: watchers that come and go keep it so;
* `WatchEngine.Quiet`: no registration is sent, lost or doubled, and roots that are registered are
  as they were; `Sound.add_quiet` and `Sound.dispose_quiet` say so of watchers that come and go.
-/

namespace ProviderHub

open List (Perm)

namespace WatchEngine

variable {e : WatchEngine}

/-! ### The root that takes the place of others -/

/-- The roots that a pattern covers. -/
def coveredBy (e : WatchEngine) (pattern : WatchPattern) : List WatchRoot :=
  e.roots.filter fun r => pattern.covers r.pattern

/-- The root that takes their place. -/
def mergedRoot (e : WatchEngine) (pattern : WatchPattern) (kind : WatchKind) : WatchRoot where
  id := e.nextRoot
  pattern := pattern
  kind := (e.coveredBy pattern).foldl (fun k r => k.union r.kind) kind
  refCount := (e.coveredBy pattern).foldl (fun n r => n + r.refCount) 1

/-- A watcher that relied on one of some roots relies on another one. -/
def redirect (ids : List RootId) (root : RootId) (w : Watcher) : Watcher :=
  if ids.contains w.root then { w with root } else w

lemma contains_coveredBy (hnodup : (e.roots.map WatchRoot.id).Nodup) (pattern : WatchPattern)
    {r : WatchRoot} (hr : r ∈ e.roots) :
    ((e.coveredBy pattern).map WatchRoot.id).contains r.id = pattern.covers r.pattern := by
  rw [Bool.eq_iff_iff, List.contains_iff_mem, List.mem_map]
  constructor
  · rintro ⟨s, hs, hid⟩
    obtain ⟨hs, hcovers⟩ := List.mem_filter.mp hs
    rwa [List.inj_on_of_nodup_map hnodup hs hr hid] at hcovers
  · exact fun h => ⟨r, List.mem_filter.mpr ⟨hr, h⟩, rfl⟩

/-- All that a merge does. -/
lemma merge_eq (hnodup : (e.roots.map WatchRoot.id).Nodup) (pattern : WatchPattern)
    (kind : WatchKind) :
    e.merge pattern kind =
      { e with
        roots := e.roots.filter (fun r => !pattern.covers r.pattern) ++ [e.mergedRoot pattern kind]
        watchers := e.watchers.map (redirect ((e.coveredBy pattern).map WatchRoot.id) e.nextRoot)
        pending := insertId e.nextRoot
          (e.pending.filter fun id => !((e.coveredBy pattern).map WatchRoot.id).contains id)
        pendingUnregister := e.pendingUnregister ++ (e.coveredBy pattern).flatMap registrationOf
        nextRoot := e.nextRoot + 1 } := by
  have hids : ((e.coveredBy pattern).map WatchRoot.id).Nodup :=
    hnodup.sublist (List.filter_sublist.map _)
  have htorn := foldl_teardown_eq hids fun r hr =>
    root?_of_mem hnodup (List.mem_of_mem_filter hr)
  have hkept : e.roots.filter (fun r => !((e.coveredBy pattern).map WatchRoot.id).contains r.id) =
      e.roots.filter fun r => !pattern.covers r.pattern :=
    List.filter_congr fun r hr => by rw [contains_coveredBy hnodup pattern hr]
  have hmerge : e.merge pattern kind =
      (fun torn : WatchEngine =>
        { torn with
          roots := torn.roots ++ [e.mergedRoot pattern kind]
          watchers := torn.watchers.map
            (redirect ((e.coveredBy pattern).map WatchRoot.id) e.nextRoot)
          pending := insertId e.nextRoot torn.pending
          nextRoot := e.nextRoot + 1 })
        (((e.coveredBy pattern).map WatchRoot.id).foldl teardown e) := rfl
  rw [hmerge, htorn, hkept]

lemma merge_roots (hnodup : (e.roots.map WatchRoot.id).Nodup) (pattern : WatchPattern)
    (kind : WatchKind) :
    (e.merge pattern kind).roots =
      e.roots.filter (fun r => !pattern.covers r.pattern) ++ [e.mergedRoot pattern kind] := by
  rw [merge_eq hnodup]

lemma merge_watchers (e : WatchEngine) (pattern : WatchPattern) (kind : WatchKind) :
    (e.merge pattern kind).watchers =
      e.watchers.map (redirect ((e.coveredBy pattern).map WatchRoot.id) e.nextRoot) := by
  have htorn := congrArg watchers
    (foldl_teardown_frame ((e.coveredBy pattern).map WatchRoot.id) e)
  exact congrArg (List.map _) htorn

/-- A merge leaves everything alone but roots, watchers, and the number of the next root. -/
lemma merge_frame (e : WatchEngine) (pattern : WatchPattern) (kind : WatchKind) :
    (e.merge pattern kind).frame =
      { e.frame with
        watchers := (e.merge pattern kind).watchers
        nextRoot := e.nextRoot + 1 } := by
  have htorn := foldl_teardown_frame ((e.coveredBy pattern).map WatchRoot.id) e
  exact congrArg (fun f : WatchEngine =>
    { f with watchers := (e.merge pattern kind).watchers, nextRoot := e.nextRoot + 1 }) htorn

lemma merge_held_perm (hnodup : (e.roots.map WatchRoot.id).Nodup) (pattern : WatchPattern)
    (kind : WatchKind) : (e.merge pattern kind).held.Perm e.held := by
  have htorn := foldl_teardown_held_perm ((e.coveredBy pattern).map WatchRoot.id) hnodup
  -- the new root is pending and adds no registration
  have hnew : (e.merge pattern kind).held =
      (((e.coveredBy pattern).map WatchRoot.id).foldl teardown e).held := by
    have hnone : registrationOf (e.mergedRoot pattern kind) = [] := rfl
    show (_ ++ [e.mergedRoot pattern kind]).flatMap registrationOf ++ _ = _
    rw [List.flatMap_append, List.flatMap_cons, hnone, List.flatMap_nil, List.append_nil,
      List.append_nil]
    rfl
  rwa [hnew]

/-! ### Counts of merged roots -/

lemma foldl_add_refCount (rs : List WatchRoot) (n : Nat) :
    rs.foldl (fun n r => n + r.refCount) n = n + (rs.map WatchRoot.refCount).sum := by
  induction rs generalizing n with
  | nil => rfl
  | cons r rs ih =>
      rw [List.foldl_cons, ih, List.map_cons, List.sum_cons]
      omega

lemma countP_contains_cons (watchers : List Watcher) {id : RootId} {ids : List RootId}
    (hid : id ∉ ids) :
    watchers.countP (fun w => (id :: ids).contains w.root) =
      watchers.countP (·.root == id) + watchers.countP fun w => ids.contains w.root := by
  induction watchers with
  | nil => rfl
  | cons w watchers ih =>
      rw [List.countP_cons, List.countP_cons, List.countP_cons, ih]
      by_cases h : w.root = id
      · simp [h, hid]
        omega
      · simp [h]
        omega

/-- The watchers of several roots are those of the single roots together. -/
lemma sum_countP_root (watchers : List Watcher) {ids : List RootId} (hnodup : ids.Nodup) :
    (ids.map fun id => watchers.countP (·.root == id)).sum =
      watchers.countP fun w => ids.contains w.root := by
  induction ids with
  | nil => simp
  | cons id ids ih =>
      rw [List.nodup_cons] at hnodup
      rw [List.map_cons, List.sum_cons, ih hnodup.2, countP_contains_cons watchers hnodup.1]

/-! ### Roots that serve their watchers -/

/-- **Roots and watchers fit together**: both have numbers of their own, every watcher points to a
root that covers it and reports all that it wants, and every root counts the watchers that point
to it, of which there is at least one. -/
structure Sound (e : WatchEngine) : Prop where
  rootIds : (e.roots.map WatchRoot.id).Nodup
  root_lt : ∀ r ∈ e.roots, r.id < e.nextRoot
  watcherIds : (e.watchers.map Watcher.id).Nodup
  watcher_lt : ∀ w ∈ e.watchers, w.id < e.nextWatcher
  served : ∀ w ∈ e.watchers, ∃ r ∈ e.roots,
    r.id = w.root ∧ r.pattern.covers w.pattern = true ∧ w.kind.Within r.kind
  refCount : ∀ r ∈ e.roots, r.refCount = e.watchers.countP (·.root == r.id)
  refCount_pos : ∀ r ∈ e.roots, 0 < r.refCount

lemma Sound.empty : Sound {} where
  rootIds := List.nodup_nil
  root_lt := by simp
  watcherIds := List.nodup_nil
  watcher_lt := by simp
  served := by simp
  refCount := by simp
  refCount_pos := by simp

/-- Neither the status of roots nor the events of watchers matter. -/
lemma Sound.same {e e' : WatchEngine} (h : e.Sound) (hsame : Same e e') : e'.Sound := by
  obtain ⟨hroots, hwatchers, hnextRoot, hnextWatcher⟩ := hsame
  have hroot : ∀ r ∈ e'.roots, ∃ s ∈ e.roots, s.plain = r.plain := fun r hr =>
    exists_of_plain hroots hr
  have hwatcher : ∀ w ∈ e'.watchers, ∃ v ∈ e.watchers, v.plain = w.plain := fun w hw =>
    List.mem_map.mp (hwatchers ▸ List.mem_map_of_mem hw)
  have hcount : ∀ id, e'.watchers.countP (·.root == id) = e.watchers.countP (·.root == id) := by
    intro id
    have hplain := congrArg (List.countP (·.root == id)) hwatchers
    rwa [List.countP_map, List.countP_map] at hplain
  refine ⟨?_, ?_, ?_, ?_, ?_, ?_, ?_⟩
  · rw [map_id_eq_of_plain hroots]
    exact h.rootIds
  · intro r hr
    obtain ⟨s, hs, heq⟩ := hroot r hr
    rw [hnextRoot, ← (WatchRoot.plain_eq_iff.mp heq).1]
    exact h.root_lt s hs
  · have hids : e'.watchers.map Watcher.id = e.watchers.map Watcher.id := by
      simpa [Function.comp_def, Watcher.plain] using congrArg (List.map Watcher.id) hwatchers
    rw [hids]
    exact h.watcherIds
  · intro w hw
    obtain ⟨v, hv, heq⟩ := hwatcher w hw
    rw [hnextWatcher, ← (Watcher.plain_eq_iff.mp heq).1]
    exact h.watcher_lt v hv
  · intro w hw
    obtain ⟨v, hv, heq⟩ := hwatcher w hw
    obtain ⟨-, hvroot, hvpattern, hvkind⟩ := Watcher.plain_eq_iff.mp heq
    obtain ⟨s, hs, hid, hcovers, hwithin⟩ := h.served v hv
    obtain ⟨r, hr, hrs⟩ := exists_of_plain hroots.symm hs
    obtain ⟨hrid, hrpattern, hrkind, -⟩ := WatchRoot.plain_eq_iff.mp hrs
    refine ⟨r, hr, ?_, ?_, ?_⟩
    · rw [hrid, hid, hvroot]
    · rw [hrpattern, ← hvpattern]
      exact hcovers
    · rw [hrkind, ← hvkind]
      exact hwithin
  · intro r hr
    obtain ⟨s, hs, heq⟩ := hroot r hr
    obtain ⟨hid, -, -, hrefCount⟩ := WatchRoot.plain_eq_iff.mp heq
    rw [hcount, ← hrefCount, ← hid]
    exact h.refCount s hs
  · intro r hr
    obtain ⟨s, hs, heq⟩ := hroot r hr
    rw [← (WatchRoot.plain_eq_iff.mp heq).2.2.2]
    exact h.refCount_pos s hs

lemma Sound.schedule (h : e.Sound) : e.schedule.Sound := h.same (schedule_same e)

/-! ### Events and flags -/

lemma Sound.dispatch (h : e.Sound) (events : List FileEvent) : (e.dispatch events).2.Sound :=
  h.same (dispatch_same e events)

lemma Sound.fetch (h : e.Sound) (id : WatcherId) (count : Nat) : (e.fetch id count).2.Sound :=
  h.same (fetch_same e id count)

lemma Sound.flags (h : e.Sound) (armed enabled closed : Bool) :
    Sound { e with armed, enabled, closed } :=
  h.same ⟨rfl, rfl, rfl, rfl⟩

/-! ### Watchers that come -/

/-- The engine with one more watcher. -/
def enroll (e : WatchEngine) (w : Watcher) : WatchEngine :=
  { e with watchers := e.watchers ++ [w], nextWatcher := w.id + 1 }

/-- A watcher that comes relies on a root that covers it, or on a new one that takes the place of
those that it covers. -/
lemma rootFor_cases (e : WatchEngine) (pattern : WatchPattern) (kind : WatchKind) :
    (∃ r ∈ e.roots, r.pattern.covers pattern = true ∧
      e.rootFor pattern kind = (r.id, e.attach r kind)) ∨
    (∀ r ∈ e.roots, r.pattern.covers pattern = false) ∧
      e.rootFor pattern kind = (e.nextRoot, e.merge pattern kind) := by
  rw [rootFor]
  cases hfind : e.roots.find? fun r => r.pattern.covers pattern with
  | some r =>
      have hcovers : r.pattern.covers pattern = true := by simpa using List.find?_some hfind
      exact .inl ⟨r, List.mem_of_find?_eq_some hfind, hcovers, rfl⟩
  | none =>
      refine .inr ⟨fun r hr => ?_, rfl⟩
      simpa using List.find?_eq_none.mp hfind r hr

/-- A watcher that comes gets a root and the next number. -/
lemma add_eq (e : WatchEngine) (pattern : WatchPattern) (kind : WatchKind) :
    (e.add pattern kind).2 =
      ((e.rootFor pattern.normalized kind).2.enroll
        ⟨e.nextWatcher, (e.rootFor pattern.normalized kind).1, pattern.normalized, kind, []⟩).schedule :=
  rfl

lemma add_cases (e : WatchEngine) (pattern : WatchPattern) (kind : WatchKind) :
    (∃ r ∈ e.roots, r.pattern.covers pattern.normalized = true ∧
      (e.add pattern kind).2 =
        ((e.attach r kind).enroll ⟨e.nextWatcher, r.id, pattern.normalized, kind, []⟩).schedule) ∨
    (∀ r ∈ e.roots, r.pattern.covers pattern.normalized = false) ∧
      (e.add pattern kind).2 =
        ((e.merge pattern.normalized kind).enroll
          ⟨e.nextWatcher, e.nextRoot, pattern.normalized, kind, []⟩).schedule := by
  rw [add_eq]
  rcases rootFor_cases e pattern.normalized kind with ⟨r, hr, hcovers, heq⟩ | ⟨hnone, heq⟩
  · exact .inl ⟨r, hr, hcovers, by rw [heq]⟩
  · exact .inr ⟨hnone, by rw [heq]⟩

lemma add_watchers (e : WatchEngine) (pattern : WatchPattern) (kind : WatchKind) :
    (e.add pattern kind).2.watchers =
      (e.rootFor pattern.normalized kind).2.watchers ++
        [⟨e.nextWatcher, (e.rootFor pattern.normalized kind).1, pattern.normalized, kind, []⟩] := by
  rw [add_eq]
  exact schedule_congr watchers (fun _ => rfl) _

lemma next_le_add (e : WatchEngine) (pattern : WatchPattern) (kind : WatchKind) :
    e.nextRoot ≤ (e.add pattern kind).2.nextRoot ∧
      e.nextWatcher ≤ (e.add pattern kind).2.nextWatcher := by
  have hroot : (e.add pattern kind).2.nextRoot = (e.rootFor pattern.normalized kind).2.nextRoot :=
    schedule_congr nextRoot (fun _ => rfl) _
  have hwatcher : (e.add pattern kind).2.nextWatcher = e.nextWatcher + 1 :=
    schedule_congr nextWatcher (fun _ => rfl) _
  rw [hroot, hwatcher]
  refine ⟨?_, Nat.le_succ _⟩
  rcases rootFor_cases e pattern.normalized kind with ⟨r, -, -, heq⟩ | ⟨-, heq⟩
  · rw [heq]
    exact (congrArg nextRoot (attach_frame e r kind)).ge
  · rw [heq]
    exact Nat.le_succ _

lemma attached_id (r : WatchRoot) (kind : WatchKind) (s : WatchRoot) :
    (attached r kind s).id = s.id := by
  rw [attached]
  split <;> rfl

lemma attached_pattern (r : WatchRoot) (kind : WatchKind) (s : WatchRoot) :
    (attached r kind s).pattern = s.pattern := by
  rw [attached]
  split <;> rfl

lemma map_attached_id (r : WatchRoot) (kind : WatchKind) (roots : List WatchRoot) :
    (roots.map (attached r kind)).map WatchRoot.id = roots.map WatchRoot.id := by
  rw [List.map_map]
  exact List.map_congr_left fun s _ => attached_id r kind s

/-- The root that a watcher is attached to reports what it reported before, and what the watcher
wants. -/
lemma within_attached (h : e.Sound) {r s : WatchRoot} (hr : r ∈ e.roots) (hs : s ∈ e.roots)
    (kind : WatchKind) : s.kind.Within (attached r kind s).kind := by
  rw [attached]
  split
  · rename_i hid
    rw [List.inj_on_of_nodup_map h.rootIds hs hr hid]
    exact WatchKind.within_union_left _ _
  · exact WatchKind.within_refl _

lemma attach_plain (e : WatchEngine) (r : WatchRoot) (kind : WatchKind) :
    (e.attach r kind).roots.map WatchRoot.plain =
      (e.roots.map (attached r kind)).map WatchRoot.plain := by
  rw [attach_eq]
  split
  · exact requeue_plain _ _
  · rfl

/-- Numbers stay different when the next one comes. -/
lemma nodup_append_next {ids : List Nat} {next : Nat} (hnodup : ids.Nodup)
    (hlt : ∀ id ∈ ids, id < next) : (ids ++ [next]).Nodup := by
  refine List.nodup_append.mpr ⟨hnodup, List.nodup_singleton _, ?_⟩
  intro a ha b hb
  rw [List.mem_singleton.mp hb]
  exact Nat.ne_of_lt (hlt a ha)

lemma Sound.attach (h : e.Sound) {r : WatchRoot} (hr : r ∈ e.roots) {pattern : WatchPattern}
    (hcovers : r.pattern.covers pattern = true) (kind : WatchKind) :
    ((e.attach r kind).enroll ⟨e.nextWatcher, r.id, pattern, kind, []⟩).Sound := by
  set w : Watcher := ⟨e.nextWatcher, r.id, pattern, kind, []⟩ with hw
  have hframe := attach_frame e r kind
  have hwatchers : (e.attach r kind).watchers = e.watchers := (congrArg watchers hframe :)
  suffices hsound : (enroll { e with roots := e.roots.map (attached r kind) } w).Sound by
    refine hsound.same ⟨attach_plain e r kind, ?_, (congrArg nextRoot hframe :), rfl⟩
    show ((e.attach r kind).watchers ++ [w]).map _ = _
    rw [hwatchers]
    rfl
  refine ⟨?_, ?_, ?_, ?_, ?_, ?_, ?_⟩
  · show ((e.roots.map (attached r kind)).map WatchRoot.id).Nodup
    rw [map_attached_id]
    exact h.rootIds
  · intro s' hs'
    obtain ⟨s, hs, rfl⟩ := List.mem_map.mp hs'
    rw [attached_id]
    exact h.root_lt s hs
  · show ((e.watchers ++ [w]).map Watcher.id).Nodup
    rw [List.map_append]
    refine nodup_append_next h.watcherIds fun id hid => ?_
    obtain ⟨v, hv, rfl⟩ := List.mem_map.mp hid
    exact h.watcher_lt v hv
  · intro v hv
    rcases List.mem_append.mp hv with hv | hv
    · exact Nat.lt_succ_of_lt (h.watcher_lt v hv)
    · rw [List.mem_singleton.mp hv]
      exact Nat.lt_succ_self _
  · intro v hv
    rcases List.mem_append.mp hv with hv | hv
    · obtain ⟨s, hs, hid, hsv, hwithin⟩ := h.served v hv
      refine ⟨attached r kind s, List.mem_map_of_mem hs, ?_, ?_, ?_⟩
      · rw [attached_id, hid]
      · rw [attached_pattern]
        exact hsv
      · exact hwithin.trans (within_attached h hr hs kind)
    · rw [List.mem_singleton.mp hv]
      refine ⟨attached r kind r, List.mem_map_of_mem hr, ?_, ?_, ?_⟩
      · rw [attached_id]
      · rw [attached_pattern]
        exact hcovers
      · rw [attached, if_pos rfl]
        exact WatchKind.within_union_right _ _
  · intro s' hs'
    obtain ⟨s, hs, rfl⟩ := List.mem_map.mp hs'
    show _ = (e.watchers ++ [w]).countP _
    rw [List.countP_append, attached_id, ← h.refCount s hs, attached]
    by_cases hid : s.id = r.id
    · simp [hid, hw]
    · simp [hid, hw, Ne.symm hid]
  · intro s' hs'
    obtain ⟨s, hs, rfl⟩ := List.mem_map.mp hs'
    have hpos := h.refCount_pos s hs
    rw [attached]
    split
    · exact Nat.succ_pos _
    · exact hpos

lemma redirect_plain_eq (ids : List RootId) (root : RootId) (w : Watcher) :
    (redirect ids root w).id = w.id ∧ (redirect ids root w).pattern = w.pattern ∧
      (redirect ids root w).kind = w.kind := by
  rw [redirect]
  split <;> exact ⟨rfl, rfl, rfl⟩

lemma redirect_root (ids : List RootId) (root : RootId) (w : Watcher) :
    (redirect ids root w).root = if ids.contains w.root then root else w.root := by
  rw [redirect]
  split <;> rfl

lemma Sound.watcher_root_lt (h : e.Sound) {w : Watcher} (hw : w ∈ e.watchers) :
    w.root < e.nextRoot := by
  obtain ⟨r, hr, hid, -, -⟩ := h.served w hw
  rw [← hid]
  exact h.root_lt r hr

/-- After a merge the new root has the watchers of all that it covers. -/
lemma Sound.countP_redirect_new (h : e.Sound) (ids : List RootId) :
    (e.watchers.map (redirect ids e.nextRoot)).countP (·.root == e.nextRoot) =
      e.watchers.countP fun w => ids.contains w.root := by
  rw [List.countP_map]
  refine List.countP_congr fun w hw => ?_
  have hlt := h.watcher_root_lt hw
  simp only [Function.comp, redirect_root, beq_iff_eq]
  split
  · rename_i hin
    exact iff_of_true rfl hin
  · rename_i hnot
    exact iff_of_false (Nat.ne_of_lt hlt) hnot

/-- After a merge a root that stays has the watchers that it had. -/
lemma Sound.countP_redirect_old (h : e.Sound) {ids : List RootId} {s : WatchRoot}
    (hs : s ∈ e.roots) (hids : s.id ∉ ids) :
    (e.watchers.map (redirect ids e.nextRoot)).countP (·.root == s.id) =
      e.watchers.countP (·.root == s.id) := by
  rw [List.countP_map]
  refine List.countP_congr fun w _ => ?_
  have hne : e.nextRoot ≠ s.id := (Nat.ne_of_lt (h.root_lt s hs)).symm
  simp only [Function.comp, redirect_root, beq_iff_eq]
  split
  · rename_i hin
    have hroot : w.root ≠ s.id := fun heq => hids (heq ▸ List.contains_iff_mem.mp hin)
    exact iff_of_false hne hroot
  · rfl

lemma Sound.refCount_mergedRoot (h : e.Sound) (pattern : WatchPattern) (kind : WatchKind) :
    (e.mergedRoot pattern kind).refCount =
      1 + e.watchers.countP fun w => ((e.coveredBy pattern).map WatchRoot.id).contains w.root := by
  have hnodup : ((e.coveredBy pattern).map WatchRoot.id).Nodup :=
    h.rootIds.sublist (List.filter_sublist.map _)
  rw [← sum_countP_root e.watchers hnodup, List.map_map, mergedRoot, foldl_add_refCount]
  refine congrArg (1 + List.sum ·) (List.map_congr_left fun r hr => ?_)
  exact h.refCount r (List.mem_of_mem_filter hr)

/-- The roots that a merge leaves are not among those that it takes out. -/
lemma Sound.id_notMem_coveredBy (h : e.Sound) {pattern : WatchPattern} {s : WatchRoot}
    (hs : s ∈ e.roots.filter fun r => !pattern.covers r.pattern) :
    s.id ∉ (e.coveredBy pattern).map WatchRoot.id := by
  intro hmem
  obtain ⟨hs, hcovers⟩ := List.mem_filter.mp hs
  have hcontains := contains_coveredBy h.rootIds pattern hs
  rw [List.contains_iff_mem.mpr hmem] at hcontains
  simp [← hcontains] at hcovers

/-- After a merge the watchers that were there have a root: the new one, if theirs has been taken
out, which covers them since covering is transitive. -/
lemma Sound.served_merge (h : e.Sound) (pattern : WatchPattern) (kind : WatchKind) :
    ∀ v ∈ (e.merge pattern kind).watchers, ∃ r ∈ (e.merge pattern kind).roots,
      r.id = v.root ∧ r.pattern.covers v.pattern = true ∧ v.kind.Within r.kind := by
  rw [merge_watchers, merge_roots h.rootIds]
  intro v hv
  obtain ⟨u, hu, rfl⟩ := List.mem_map.mp hv
  obtain ⟨-, hpattern, hkind⟩ :=
    redirect_plain_eq ((e.coveredBy pattern).map WatchRoot.id) e.nextRoot u
  obtain ⟨s, hs, hid, hcovers, hwithin⟩ := h.served u hu
  rw [redirect_root, hpattern, hkind, ← hid, contains_coveredBy h.rootIds pattern hs]
  cases hnew : pattern.covers s.pattern with
  | true =>
      have hmem : s ∈ e.coveredBy pattern := List.mem_filter.mpr ⟨hs, hnew⟩
      exact ⟨e.mergedRoot pattern kind, by simp, rfl, WatchPattern.covers_trans hnew hcovers,
        hwithin.trans (WatchKind.kind_within_foldl_union WatchRoot.kind hmem kind)⟩
  | false => exact ⟨s, by simp [hs, hnew], rfl, hcovers, hwithin⟩

/-- After a merge all counts are right if one more watcher comes to the new root. -/
lemma Sound.refCount_merge (h : e.Sound) (pattern : WatchPattern) (kind : WatchKind) :
    ∀ r ∈ (e.merge pattern kind).roots,
      r.refCount = (e.merge pattern kind).watchers.countP (·.root == r.id) +
        if r.id = e.nextRoot then 1 else 0 := by
  rw [merge_watchers, merge_roots h.rootIds]
  intro r hr
  rcases List.mem_append.mp hr with hr | hr
  · have hmem := List.mem_of_mem_filter hr
    rw [h.countP_redirect_old hmem (h.id_notMem_coveredBy hr), h.refCount r hmem,
      if_neg (Nat.ne_of_lt (h.root_lt r hmem))]
    rfl
  · have hid : r.id = e.nextRoot := by rw [List.mem_singleton.mp hr]; rfl
    rw [hid, h.countP_redirect_new, if_pos rfl, List.mem_singleton.mp hr, h.refCount_mergedRoot]
    exact Nat.add_comm _ _

lemma Sound.merge (h : e.Sound) (pattern : WatchPattern) (kind : WatchKind) :
    ((e.merge pattern kind).enroll ⟨e.nextWatcher, e.nextRoot, pattern, kind, []⟩).Sound := by
  set w : Watcher := ⟨e.nextWatcher, e.nextRoot, pattern, kind, []⟩ with hw
  have hroots := merge_roots h.rootIds pattern kind
  have hwatchers := merge_watchers e pattern kind
  refine ⟨?_, ?_, ?_, ?_, ?_, ?_, ?_⟩
  · show ((e.merge pattern kind).roots.map WatchRoot.id).Nodup
    rw [hroots, List.map_append]
    refine nodup_append_next (h.rootIds.sublist (List.filter_sublist.map _)) fun id hid => ?_
    obtain ⟨s, hs, rfl⟩ := List.mem_map.mp hid
    exact h.root_lt s (List.mem_of_mem_filter hs)
  · show ∀ r ∈ (e.merge pattern kind).roots, r.id < e.nextRoot + 1
    rw [hroots]
    intro r hr
    rcases List.mem_append.mp hr with hr | hr
    · exact Nat.lt_succ_of_lt (h.root_lt r (List.mem_of_mem_filter hr))
    · rw [List.mem_singleton.mp hr]
      exact Nat.lt_succ_self _
  · show (((e.merge pattern kind).watchers ++ [w]).map Watcher.id).Nodup
    have hsame : Watcher.id ∘ redirect ((e.coveredBy pattern).map WatchRoot.id) e.nextRoot =
        Watcher.id := funext fun v => (redirect_plain_eq _ e.nextRoot v).1
    rw [hwatchers, List.map_append, List.map_map, hsame]
    refine nodup_append_next h.watcherIds fun id hid => ?_
    obtain ⟨v, hv, rfl⟩ := List.mem_map.mp hid
    exact h.watcher_lt v hv
  · show ∀ v ∈ (e.merge pattern kind).watchers ++ [w], v.id < e.nextWatcher + 1
    rw [hwatchers]
    intro v hv
    rcases List.mem_append.mp hv with hv | hv
    · obtain ⟨u, hu, rfl⟩ := List.mem_map.mp hv
      rw [(redirect_plain_eq _ e.nextRoot u).1]
      exact Nat.lt_succ_of_lt (h.watcher_lt u hu)
    · rw [List.mem_singleton.mp hv]
      exact Nat.lt_succ_self _
  · intro v hv
    rcases List.mem_append.mp hv with hv | hv
    · exact h.served_merge pattern kind v hv
    · rw [List.mem_singleton.mp hv]
      refine ⟨e.mergedRoot pattern kind, ?_, rfl, WatchPattern.covers_refl pattern,
        WatchKind.within_foldl_union WatchRoot.kind _ kind⟩
      show _ ∈ (e.merge pattern kind).roots
      simp [hroots]
  · intro r hr
    show _ = ((e.merge pattern kind).watchers ++ [w]).countP _
    rw [h.refCount_merge pattern kind r hr, List.countP_append, List.countP_singleton]
    refine congrArg _ (if_congr ?_ rfl rfl)
    rw [beq_iff_eq]
    exact eq_comm
  · intro r hr
    have hcount := h.refCount_merge pattern kind r hr
    rw [show r ∈ (enroll _ w).roots ↔ r ∈ (e.merge pattern kind).roots from Iff.rfl, hroots] at hr
    rcases List.mem_append.mp hr with hr | hr
    · exact h.refCount_pos r (List.mem_of_mem_filter hr)
    · have hid : r.id = e.nextRoot := by rw [List.mem_singleton.mp hr]; rfl
      rw [if_pos hid] at hcount
      omega

/-- A watcher that comes keeps roots and watchers fitting together. -/
lemma Sound.add (h : e.Sound) (pattern : WatchPattern) (kind : WatchKind) :
    (e.add pattern kind).2.Sound := by
  rcases add_cases e pattern kind with ⟨r, hr, hcovers, heq⟩ | ⟨-, heq⟩
  · rw [heq]
    exact (h.attach hr hcovers kind).schedule
  · rw [heq]
    exact (h.merge pattern.normalized kind).schedule

/-! ### Watchers that go -/

/-- The engine without a watcher, and with one count less at its root. -/
def released (e : WatchEngine) (id : WatcherId) (root : RootId) : WatchEngine :=
  { e with watchers := e.watchers.filter (·.id != id) }.updateRoot root
    fun r => { r with refCount := r.refCount - 1 }

lemma released_rootIds (e : WatchEngine) (id : WatcherId) (root : RootId) :
    (e.released id root).roots.map WatchRoot.id = e.roots.map WatchRoot.id := by
  refine (List.map_map ..).trans (List.map_congr_left fun s _ => ?_)
  simp only [Function.comp]
  split <;> rfl

lemma dispose_watchers (e : WatchEngine) (id : WatcherId) :
    (e.dispose id).watchers = e.watchers.filter (·.id != id) := by
  rw [dispose]
  split
  · rename_i hnone
    refine (List.filter_eq_self.mpr fun w hw => ?_).symm
    simpa using List.find?_eq_none.mp hnone w hw
  · simp only
    split
    · rfl
    · split
      · rename_i r _ _
        rw [schedule_congr watchers fun _ => rfl]
        exact (congrArg watchers (teardown_frame (e.released id r.id) r.id) :)
      · rfl

/-- A watcher that goes leaves its root one count short, and the last one takes it along. -/
lemma Sound.dispose_eq (h : e.Sound) {w : Watcher} (hw : w ∈ e.watchers) :
    ∃ r, e.root? w.root = some r ∧
      e.dispose w.id =
        if r.refCount ≤ 1 then ((e.released w.id r.id).teardown r.id).schedule
        else e.released w.id r.id := by
  obtain ⟨r, hr, hid, -, -⟩ := h.served w hw
  have hroot : e.root? w.root = some r := hid ▸ root?_of_mem h.rootIds hr
  have hroot' : root? { e with watchers := e.watchers.filter (·.id != w.id) } w.root = some r :=
    hroot
  refine ⟨r, hroot, ?_⟩
  simp only [dispose, find?_number_of_mem h.watcherIds hw, hroot']
  rfl

lemma Sound.dispose_cases (h : e.Sound) (id : WatcherId) :
    e.dispose id = e ∨
    ∃ w r, e.watchers.find? (·.id == id) = some w ∧ e.root? w.root = some r ∧
      e.dispose id =
        if r.refCount ≤ 1 then ((e.released id r.id).teardown r.id).schedule
        else e.released id r.id := by
  cases hfind : e.watchers.find? (·.id == id) with
  | none => exact .inl (by simp [dispose, hfind])
  | some w =>
      obtain ⟨r, hroot, heq⟩ := h.dispose_eq (List.mem_of_find?_eq_some hfind)
      have hid : w.id = id := by simpa using List.find?_some hfind
      rw [hid] at heq
      exact .inr ⟨w, r, rfl, hroot, heq⟩

lemma Sound.countP_watchers (h : e.Sound) {id : WatcherId} {w : Watcher}
    (hw : e.watchers.find? (·.id == id) = some w) (root : RootId) :
    e.watchers.countP (·.root == root) =
      (e.watchers.filter (·.id != id)).countP (·.root == root) + if w.root = root then 1 else 0 := by
  rw [(perm_cons_filter_of_find? h.watcherIds hw).countP_eq, List.countP_cons]
  refine congrArg _ (if_congr ?_ rfl rfl)
  exact beq_iff_eq

/-- The root of the last watcher goes, and no other watcher relies on it. -/
lemma Sound.teardown_released (h : e.Sound) {id : WatcherId} {w : Watcher} {r : WatchRoot}
    (hw : e.watchers.find? (·.id == id) = some w) (hr : e.root? w.root = some r)
    (hlast : r.refCount ≤ 1) : ((e.released id r.id).teardown r.id).Sound := by
  obtain ⟨hmem, hid⟩ := root?_eq_some hr
  have hroots : ((e.released id r.id).teardown r.id).roots = e.roots.filter (·.id != r.id) :=
    (teardown_roots _ _).trans (filter_map_number _ _ fun _ => rfl)
  have hframe := teardown_frame (e.released id r.id) r.id
  have hwatchers : ((e.released id r.id).teardown r.id).watchers = e.watchers.filter (·.id != id) :=
    (congrArg watchers hframe :)
  have hnextRoot : ((e.released id r.id).teardown r.id).nextRoot = e.nextRoot :=
    (congrArg nextRoot hframe :)
  have hnextWatcher : ((e.released id r.id).teardown r.id).nextWatcher = e.nextWatcher :=
    (congrArg nextWatcher hframe :)
  -- the count of the root was one, for the watcher that goes
  have hnone : (e.watchers.filter (·.id != id)).countP (·.root == r.id) = 0 := by
    have hcount := h.countP_watchers hw r.id
    rw [if_pos hid.symm, ← h.refCount r hmem] at hcount
    omega
  refine ⟨?_, ?_, ?_, ?_, ?_, ?_, ?_⟩
  · rw [hroots]
    exact h.rootIds.sublist (List.filter_sublist.map _)
  · rw [hroots, hnextRoot]
    exact fun s hs => h.root_lt s (List.mem_of_mem_filter hs)
  · rw [hwatchers]
    exact h.watcherIds.sublist (List.filter_sublist.map _)
  · rw [hwatchers, hnextWatcher]
    exact fun v hv => h.watcher_lt v (List.mem_of_mem_filter hv)
  · rw [hwatchers, hroots]
    intro v hv
    obtain ⟨s, hs, hsid, hcovers, hwithin⟩ := h.served v (List.mem_of_mem_filter hv)
    refine ⟨s, List.mem_filter.mpr ⟨hs, ?_⟩, hsid, hcovers, hwithin⟩
    have hne := List.countP_eq_zero.mp hnone v hv
    simpa [hsid] using hne
  · rw [hwatchers, hroots]
    intro s hs
    obtain ⟨hs, hne⟩ := List.mem_filter.mp hs
    have hcount := h.countP_watchers hw s.id
    rw [if_neg, Nat.add_zero] at hcount
    · rw [← hcount]
      exact h.refCount s hs
    · rw [← hid]
      exact fun heq => (bne_iff_ne.mp hne) heq.symm
  · rw [hroots]
    exact fun s hs => h.refCount_pos s (List.mem_of_mem_filter hs)

/-- A root that has more watchers stays, with one count less. -/
lemma Sound.released (h : e.Sound) {id : WatcherId} {w : Watcher} {r : WatchRoot}
    (hw : e.watchers.find? (·.id == id) = some w) (hr : e.root? w.root = some r)
    (hmore : 1 < r.refCount) : (e.released id r.id).Sound := by
  obtain ⟨hmem, hid⟩ := root?_eq_some hr
  have hsame : ∀ s : WatchRoot,
      (if s.id = r.id then { s with refCount := s.refCount - 1 } else s).id = s.id := by
    intro s
    split <;> rfl
  refine ⟨?_, ?_, ?_, ?_, ?_, ?_, ?_⟩
  · rw [released_rootIds]
    exact h.rootIds
  · intro s' hs'
    obtain ⟨s, hs, rfl⟩ := List.mem_map.mp hs'
    rw [hsame]
    exact h.root_lt s hs
  · exact h.watcherIds.sublist (List.filter_sublist.map _)
  · exact fun v hv => h.watcher_lt v (List.mem_of_mem_filter hv)
  · intro v hv
    obtain ⟨s, hs, hsid, hcovers, hwithin⟩ := h.served v (List.mem_of_mem_filter hv)
    refine ⟨_, List.mem_map_of_mem hs, (hsame s).trans hsid, ?_, ?_⟩
    · split <;> exact hcovers
    · split <;> exact hwithin
  · intro s' hs'
    obtain ⟨s, hs, rfl⟩ := List.mem_map.mp hs'
    have hcount := h.countP_watchers hw s.id
    rw [← h.refCount s hs, ← hid] at hcount
    rw [hsame]
    show _ = (e.watchers.filter (·.id != id)).countP _
    by_cases hsr : s.id = r.id
    · rw [if_pos hsr.symm] at hcount
      rw [if_pos hsr]
      show s.refCount - 1 = _
      omega
    · rw [if_neg (Ne.symm hsr)] at hcount
      rw [if_neg hsr]
      omega
  · intro s' hs'
    obtain ⟨s, hs, rfl⟩ := List.mem_map.mp hs'
    split
    · rename_i hsr
      show 0 < s.refCount - 1
      rw [List.inj_on_of_nodup_map h.rootIds hs hmem hsr]
      omega
    · exact h.refCount_pos s hs

lemma Sound.dispose (h : e.Sound) (id : WatcherId) : (e.dispose id).Sound := by
  rcases h.dispose_cases id with heq | ⟨w, r, hw, hr, heq⟩
  · rwa [heq]
  · rw [heq]
    split
    · rename_i hlast
      exact (h.teardown_released hw hr hlast).schedule
    · rename_i hmore
      exact h.released hw hr (by omega)

/-- A root that is left was there before, for the same pattern and kind. -/
lemma Sound.mem_dispose_roots (h : e.Sound) {id : WatcherId} {r' : WatchRoot}
    (hr' : r' ∈ (e.dispose id).roots) :
    ∃ r ∈ e.roots, r.id = r'.id ∧ r.pattern = r'.pattern ∧ r.kind = r'.kind := by
  have hreleased : ∀ root, ∀ s' ∈ (e.released id root).roots,
      ∃ s ∈ e.roots, s.id = s'.id ∧ s.pattern = s'.pattern ∧ s.kind = s'.kind := by
    intro root s' hs'
    obtain ⟨s, hs, rfl⟩ := List.mem_map.mp hs'
    refine ⟨s, hs, ?_⟩
    split <;> exact ⟨rfl, rfl, rfl⟩
  rcases h.dispose_cases id with heq | ⟨w, r, -, -, heq⟩
  · rw [heq] at hr'
    exact ⟨r', hr', rfl, rfl, rfl⟩
  · rw [heq] at hr'
    split at hr'
    · rw [schedule_roots, teardown_roots] at hr'
      exact hreleased r.id r' (List.mem_of_mem_filter hr')
    · exact hreleased r.id r' hr'

lemma Sound.dispose_next (h : e.Sound) (id : WatcherId) :
    (e.dispose id).nextRoot = e.nextRoot ∧ (e.dispose id).nextWatcher = e.nextWatcher := by
  rcases h.dispose_cases id with heq | ⟨w, r, -, -, heq⟩
  · rw [heq]
    exact ⟨rfl, rfl⟩
  · rw [heq]
    split
    · have hframe := teardown_frame (e.released id r.id) r.id
      rw [schedule_congr nextRoot fun _ => rfl, schedule_congr nextWatcher fun _ => rfl]
      exact ⟨(congrArg nextRoot hframe :), (congrArg nextWatcher hframe :)⟩
    · exact ⟨rfl, rfl⟩

/-! ### Registrations while watchers come and go -/

/-- **Nothing is asked of the client**: the flushes are as before, registrations are neither lost nor
doubled, and a root that is registered was so before, for the same pattern and kind. -/
structure Quiet (e e' : WatchEngine) : Prop where
  held : e'.held.Perm e.held
  flushes : e'.flushes = e.flushes
  nextRegistration : e'.nextRegistration = e.nextRegistration
  nextFlush : e'.nextFlush = e.nextFlush
  registered : ∀ r ∈ e'.roots, ∀ n, r.status = .registered n →
    ∃ s ∈ e.roots, s.status = .registered n ∧ s.pattern = r.pattern ∧ s.kind = r.kind

lemma Quiet.refl (e : WatchEngine) : Quiet e e :=
  ⟨.refl _, rfl, rfl, rfl, fun r hr _ hn => ⟨r, hr, hn, rfl, rfl⟩⟩

lemma Quiet.schedule {e e' : WatchEngine} (h : Quiet e e') : Quiet e e'.schedule where
  held := by
    rw [schedule_held]
    exact h.held
  flushes := (schedule_congr WatchEngine.flushes (fun _ => rfl) e').trans h.flushes
  nextRegistration :=
    (schedule_congr WatchEngine.nextRegistration (fun _ => rfl) e').trans h.nextRegistration
  nextFlush := (schedule_congr WatchEngine.nextFlush (fun _ => rfl) e').trans h.nextFlush
  registered := by
    rw [schedule_roots]
    exact h.registered

lemma dispatch_quiet (e : WatchEngine) (events : List FileEvent) :
    Quiet e (e.dispatch events).2 :=
  { Quiet.refl e with }

lemma fetch_quiet (e : WatchEngine) (id : WatcherId) (count : Nat) :
    Quiet e (e.fetch id count).2 :=
  { Quiet.refl e with }

lemma flags_quiet (e : WatchEngine) (armed enabled closed : Bool) :
    Quiet e { e with armed, enabled, closed } :=
  { Quiet.refl e with }

/-- A root that must report more, or that was not on disk, is queued again; any other one is
registered as before. -/
lemma Sound.attach_quiet (h : e.Sound) {r : WatchRoot} (hr : r ∈ e.roots) (kind : WatchKind)
    (w : Watcher) : Quiet e ((e.attach r kind).enroll w) where
  held := attach_held_perm h.rootIds r kind
  flushes := (congrArg WatchEngine.flushes (attach_frame e r kind) :)
  nextRegistration := (congrArg WatchEngine.nextRegistration (attach_frame e r kind) :)
  nextFlush := (congrArg WatchEngine.nextFlush (attach_frame e r kind) :)
  registered := by
    show ∀ s' ∈ (e.attach r kind).roots, _
    intro s' hs' n hn
    rw [attach_eq] at hs'
    split at hs'
    · rw [requeue_roots, List.mem_map] at hs'
      obtain ⟨t, ht, rfl⟩ := hs'
      obtain ⟨s, hs, rfl⟩ := List.mem_map.mp ht
      rw [attached_id] at hn ⊢
      by_cases hid : s.id = r.id
      · rw [if_pos hid] at hn
        cases hn
      · rw [if_neg hid] at hn ⊢
        rw [attached, if_neg hid] at hn ⊢
        exact ⟨s, hs, hn, rfl, rfl⟩
    · rename_i hstays
      obtain ⟨s, hs, rfl⟩ := List.mem_map.mp hs'
      refine ⟨s, hs, ?_, (attached_pattern r kind s).symm, ?_⟩
      · rw [attached] at hn
        split at hn <;> exact hn
      · rw [attached]
        split
        · rename_i hid
          have hkind : r.kind.union kind = r.kind := by
            simp only [Bool.or_eq_true, bne_iff_ne, ne_eq, not_or, not_not] at hstays
            exact hstays.1
          rw [List.inj_on_of_nodup_map h.rootIds hs hr hid]
          exact hkind.symm
        · rfl

lemma Sound.merge_quiet (h : e.Sound) (pattern : WatchPattern) (kind : WatchKind) (w : Watcher) :
    Quiet e ((e.merge pattern kind).enroll w) where
  held := merge_held_perm h.rootIds pattern kind
  flushes := (congrArg WatchEngine.flushes (merge_frame e pattern kind) :)
  nextRegistration := (congrArg WatchEngine.nextRegistration (merge_frame e pattern kind) :)
  nextFlush := (congrArg WatchEngine.nextFlush (merge_frame e pattern kind) :)
  registered := by
    show ∀ r ∈ (e.merge pattern kind).roots, _
    rw [merge_roots h.rootIds]
    intro r hr n hn
    rcases List.mem_append.mp hr with hr | hr
    · exact ⟨r, List.mem_of_mem_filter hr, hn, rfl, rfl⟩
    · rw [List.mem_singleton.mp hr] at hn
      cases hn

lemma Sound.add_quiet (h : e.Sound) (pattern : WatchPattern) (kind : WatchKind) :
    Quiet e (e.add pattern kind).2 := by
  rcases add_cases e pattern kind with ⟨r, hr, -, heq⟩ | ⟨-, heq⟩
  · rw [heq]
    exact (h.attach_quiet hr kind _).schedule
  · rw [heq]
    exact (h.merge_quiet pattern.normalized kind _).schedule

lemma released_quiet (e : WatchEngine) (id : WatcherId) (root : RootId) :
    Quiet e (e.released id root) where
  held := by
    have hsame : (e.released id root).roots.flatMap registrationOf =
        e.roots.flatMap registrationOf := by
      refine flatMap_registrationOf_map fun r => ?_
      split <;> rfl
    rw [WatchEngine.held, hsame]
    exact .refl _
  flushes := rfl
  nextRegistration := rfl
  nextFlush := rfl
  registered := by
    intro r' hr' n hn
    obtain ⟨r, hr, rfl⟩ := List.mem_map.mp hr'
    refine ⟨r, hr, ?_⟩
    split at hn <;> simp_all

lemma Sound.dispose_quiet (h : e.Sound) (id : WatcherId) : Quiet e (e.dispose id) := by
  rcases h.dispose_cases id with heq | ⟨w, r, hw, hr, heq⟩
  · rw [heq]
    exact .refl e
  · have hreleased := released_quiet e id r.id
    have hframe := teardown_frame (e.released id r.id) r.id
    rw [heq]
    split
    · refine Quiet.schedule ⟨?_, ?_, ?_, ?_, ?_⟩
      · refine (teardown_held_perm ?_ r.id).trans hreleased.held
        rw [released_rootIds]
        exact h.rootIds
      · exact (congrArg flushes hframe :)
      · exact (congrArg nextRegistration hframe :)
      · exact (congrArg nextFlush hframe :)
      · rw [teardown_roots]
        exact fun s hs => hreleased.registered s (List.mem_of_mem_filter hs)
    · exact hreleased

end WatchEngine

end ProviderHub
