import ProviderHub.Proofs.Watch.Antichain

/-!
How many watchers rely on a root.

A watcher relies on the root that it got when it came, and when a new root takes the place of that
one, on the new root, and so on. A root counts the watchers that rely on it, and goes with the last
one.

* `WatchHistory.Relied`: the roots that a watcher has relied on in a run, merge after merge;
* `WatchHistory.relied_iff`: of the roots that are there, a watcher relies on the one that it points to;
* `WatchHistory.refCount_exact`: counts are exact after every run, so a root goes exactly with the last
  watcher that relies on it.
-/

namespace ProviderHub

open WatchEngine

namespace WatchEngine

variable {e : WatchEngine}

/-! ### The root of a watcher that goes -/

/-- The root of a watcher that goes is gone if it counted one, and counts one less otherwise. -/
lemma Sound.dispose_root? (h : e.Sound) {w : Watcher} {r : WatchRoot} (hw : w ∈ e.watchers)
    (hr : e.root? w.root = some r) :
    (e.dispose w.id).root? w.root =
      if r.refCount = 1 then none else some { r with refCount := r.refCount - 1 } := by
  obtain ⟨hmem, hid⟩ := root?_eq_some hr
  have hpos := h.refCount_pos r hmem
  obtain ⟨s, hs, heq⟩ := h.dispose_eq hw
  obtain rfl : r = s := Option.some.inj (hr.symm.trans hs)
  rw [heq, ← hid]
  by_cases hone : r.refCount = 1
  · rw [if_pos hone.le, if_pos hone, root?, schedule_roots, teardown_roots, List.find?_eq_none]
    intro t ht
    simpa using (List.mem_filter.mp ht).2
  · rw [if_neg (by omega), if_neg hone]
    have hnodup : ((e.released w.id r.id).roots.map WatchRoot.id).Nodup := by
      rw [released_rootIds]
      exact h.rootIds
    refine root?_of_mem (r := { r with refCount := r.refCount - 1 }) hnodup ?_
    refine List.mem_map.mpr ⟨r, hmem, ?_⟩
    rw [if_pos rfl]

/-- A root counts one exactly if no other watcher points to it. -/
lemma Sound.refCount_eq_one_iff (h : e.Sound) {w : Watcher} {r : WatchRoot} (hw : w ∈ e.watchers)
    (hr : e.root? w.root = some r) :
    r.refCount = 1 ↔ ∀ v ∈ e.watchers, v.root = w.root → v = w := by
  obtain ⟨hmem, hid⟩ := root?_eq_some hr
  have hcount := h.countP_watchers (find?_number_of_mem h.watcherIds hw) r.id
  rw [← h.refCount r hmem, if_pos hid.symm] at hcount
  have hothers : r.refCount = 1 ↔
      (e.watchers.filter (·.id != w.id)).countP (·.root == r.id) = 0 := by omega
  rw [hothers, List.countP_eq_zero, hid]
  constructor
  · intro hnone v hv hroot
    by_contra hne
    have hvid : v.id ≠ w.id := fun heq => hne (List.inj_on_of_nodup_map h.watcherIds hv hw heq)
    exact hnone v (List.mem_filter.mpr ⟨hv, by simpa using hvid⟩) (by simpa using hroot)
  · intro hall v hv hroot
    obtain ⟨hv, hvid⟩ := List.mem_filter.mp hv
    rw [hall v hv (beq_iff_eq.mp hroot)] at hvid
    simp at hvid

end WatchEngine

namespace WatchHistory

/-! ### Watchers and the roots that they rely on -/

/-- The roots that a watcher has relied on in a run: the one that it got when it came, and each root
that has taken the place of one that it relied on. -/
inductive Relied : List WatchAction → WatcherId → RootId → Prop
  | came (actions : List WatchAction) (pattern : WatchPattern) (kind : WatchKind) :
      Relied (actions ++ [.add pattern kind]) ((run actions).engine.add pattern kind).1
        ((run actions).engine.rootFor pattern.normalized kind).1
  | stayed {actions : List WatchAction} {id : WatcherId} {root : RootId} (action : WatchAction) :
      Relied actions id root → Relied (actions ++ [action]) id root
  | merged {actions : List WatchAction} {id : WatcherId} {r : WatchRoot} {pattern : WatchPattern}
      (kind : WatchKind) : Relied actions id r.id → r ∈ (run actions).engine.roots →
      (∀ s ∈ (run actions).engine.roots, s.pattern.covers pattern.normalized = false) →
      pattern.normalized.covers r.pattern = true →
      Relied (actions ++ [.add pattern kind]) id (run actions).engine.nextRoot

/-- A watcher relies on the root that it points to. -/
lemma relied_root (actions : List WatchAction) {w : Watcher}
    (hw : w ∈ (run actions).engine.watchers) : Relied actions w.id w.root := by
  induction actions using List.reverseRecOn generalizing w with
  | nil => cases hw
  | append_singleton actions action ih =>
      rw [run_append] at hw
      rcases watcher_cases (consistent_run actions).sound hw with
        ⟨pattern, kind, rfl, hid, hroot⟩ | ⟨v, hv, hid, -, -, hroot⟩
      · rw [hid, hroot]
        exact .came actions pattern kind
      · rw [← hid]
        rcases hroot with hroot | ⟨pattern, kind, r, hr, rfl, hnone, hcovers, hvr, hroot⟩
        · rw [hroot]
          exact (ih hv).stayed action
        · rw [hroot]
          exact .merged kind (hvr ▸ ih hv) hr hnone hcovers

/-- Watchers and the roots that they rely on have numbers that have been given. -/
lemma Relied.lt {actions : List WatchAction} {id : WatcherId} {root : RootId}
    (h : Relied actions id root) :
    id < (run actions).engine.nextWatcher ∧ root < (run actions).engine.nextRoot := by
  -- the watcher that comes, with the root that it gets
  have hcame : ∀ actions pattern kind,
      (run actions).engine.nextWatcher <
          (run (actions ++ [.add pattern kind])).engine.nextWatcher ∧
        ((run actions).engine.rootFor pattern.normalized kind).1 <
          (run (actions ++ [.add pattern kind])).engine.nextRoot := by
    intro actions pattern kind
    have hsound := (consistent_run (actions ++ [.add pattern kind])).sound
    rw [run_append] at hsound ⊢
    have hnew := mem_added (run actions) pattern kind
    exact ⟨hsound.watcher_lt _ hnew, hsound.watcher_root_lt hnew⟩
  induction h with
  | came actions pattern kind => exact hcame actions pattern kind
  | @stayed actions id root action _ ih =>
      obtain ⟨hroots, hwatchers⟩ := next_le_step (consistent_run actions).sound action
      rw [run_append]
      exact ⟨ih.1.trans_le hwatchers, ih.2.trans_le hroots⟩
  | @merged actions id r pattern kind _ hr hnone _ ih =>
      have hnew := hcame actions pattern kind
      rcases rootFor_cases (run actions).engine pattern.normalized kind with
        ⟨s, hs, hcovers, -⟩ | ⟨-, heq⟩
      · rw [hnone s hs] at hcovers
        cases hcovers
      · rw [heq] at hnew
        exact ⟨ih.1.trans hnew.1, hnew.2⟩

/-- A watcher that relied on a root before an action was there before it. -/
lemma Relied.watcher_before {actions : List WatchAction} {id : WatcherId} {root : RootId}
    (h : Relied actions id root) {action : WatchAction} {w : Watcher}
    (hw : w ∈ ((run actions).step action).engine.watchers) (hid : w.id = id) :
    ∃ v ∈ (run actions).engine.watchers, v.id = id ∧
      (w.root = v.root ∨
        ∃ pattern kind, ∃ r ∈ (run actions).engine.roots, action = .add pattern kind ∧
          (∀ s ∈ (run actions).engine.roots, s.pattern.covers pattern.normalized = false) ∧
          pattern.normalized.covers r.pattern = true ∧ v.root = r.id ∧
          w.root = (run actions).engine.nextRoot) := by
  rcases watcher_cases (consistent_run actions).sound hw with
    ⟨-, -, -, hnew, -⟩ | ⟨v, hv, hvid, -, -, hvroot⟩
  · have hlt := h.lt.1
    rw [← hid, hnew] at hlt
    exact absurd hlt (Nat.lt_irrefl _)
  · exact ⟨v, hv, hvid.trans hid, hvroot⟩

/-- Of the roots that are there, a watcher relies only on the one that it points to: a root whose
place has been taken is gone for good. -/
lemma Relied.root_eq {actions : List WatchAction} {id : WatcherId} {root : RootId}
    (h : Relied actions id root) :
    ∀ w ∈ (run actions).engine.watchers, w.id = id →
      ∀ r ∈ (run actions).engine.roots, r.id = root → w.root = root := by
  induction h with
  | came actions pattern kind =>
      intro w hw hid _ _ _
      have hsound := (consistent_run actions).sound
      rw [run_append] at hw
      rcases watcher_cases hsound hw with ⟨pattern', kind', haction, -, hroot⟩ | ⟨v, hv, hvid, -⟩
      · obtain ⟨rfl, rfl⟩ := WatchAction.add.inj haction
        exact hroot
      · have hlt := hsound.watcher_lt v hv
        rw [hvid, hid] at hlt
        exact absurd hlt (Nat.lt_irrefl _)
  | @stayed actions id root action h ih =>
      intro w hw hid r hr hrid
      have hsound := (consistent_run actions).sound
      rw [run_append] at hw hr
      obtain ⟨v, hv, hvid, hvroot⟩ := h.watcher_before hw hid
      rcases root_cases hsound hr with ⟨pattern, kind, -, -, hnew⟩ | ⟨s, hs, hsid, -, -, hkept⟩
      · rw [hnew] at hrid
        exact absurd hrid (Nat.ne_of_gt h.lt.2)
      · have hroot := ih v hv hvid s hs (hsid.trans hrid)
        rcases hvroot with heq | ⟨pattern, kind, t, ht, haction, hnone, hcovers, hvt, -⟩
        · exact heq.trans hroot
        · -- had the place of its root been taken, that root would not be there
          have hts : t.id = s.id := hvt.symm.trans (hroot.trans (hsid.trans hrid).symm)
          rw [List.inj_on_of_nodup_map hsound.rootIds ht hs hts,
            hkept pattern kind haction hnone] at hcovers
          cases hcovers
  | @merged actions id r pattern kind h hr hnone hcovers ih =>
      intro w hw hid _ _ _
      have hsound := (consistent_run actions).sound
      have hsound' := (consistent_run (actions ++ [.add pattern kind])).sound
      obtain ⟨t, ht, htroot, -, -⟩ := hsound'.served w hw
      rw [run_append] at hw ht
      obtain ⟨v, hv, hvid, hvroot⟩ := h.watcher_before hw hid
      rcases hvroot with heq | ⟨-, -, -, -, -, -, -, -, hroot⟩
      · -- it cannot point to the old root any more, whose place has been taken
        have hold : t.id = r.id := htroot.trans (heq.trans (ih v hv hvid r hr rfl))
        rcases root_cases hsound ht with ⟨pattern, kind, -, -, hnew⟩ | ⟨s, hs, hsid, -, -, hkept⟩
        · rw [hnew] at hold
          exact absurd hold (Nat.ne_of_gt (hsound.root_lt r hr))
        · rw [← List.inj_on_of_nodup_map hsound.rootIds hs hr (hsid.trans hold),
            hkept pattern kind rfl hnone] at hcovers
          cases hcovers
      · exact hroot

/-- A watcher relies on the root that it points to, and on no other one that is there. -/
lemma relied_iff (actions : List WatchAction) {w : Watcher} {r : WatchRoot}
    (hw : w ∈ (run actions).engine.watchers) (hr : r ∈ (run actions).engine.roots) :
    Relied actions w.id r.id ↔ w.root = r.id :=
  ⟨fun h => h.root_eq w hw rfl r hr rfl, fun heq => heq ▸ relied_root actions hw⟩

/-! ### Counts -/

/-- **Counts are exact**: after every run a root counts the watchers that point to it, of which there
is one at least, and every watcher points to a root that is there. So a watcher that goes takes its
root along exactly if no other one relies on it, through whatever merges, and leaves it one count
less otherwise. -/
theorem refCount_exact (actions : List WatchAction) :
    (∀ r ∈ (run actions).engine.roots,
      r.refCount = (run actions).engine.watchers.countP (·.root == r.id) ∧ 1 ≤ r.refCount) ∧
    ∀ w ∈ (run actions).engine.watchers, ∃ r, (run actions).engine.root? w.root = some r ∧
      (((run actions).engine.dispose w.id).root? w.root = none ↔
        ∀ v ∈ (run actions).engine.watchers, Relied actions v.id w.root → v = w) ∧
      ∀ s, ((run actions).engine.dispose w.id).root? w.root = some s →
        s = { r with refCount := r.refCount - 1 } ∧ s.refCount + 1 = r.refCount := by
  have hsound := (consistent_run actions).sound
  refine ⟨fun r hr => ⟨hsound.refCount r hr, hsound.refCount_pos r hr⟩, fun w hw => ?_⟩
  obtain ⟨r, hr, -⟩ := hsound.dispose_eq hw
  obtain ⟨hmem, hid⟩ := root?_eq_some hr
  have hpos := hsound.refCount_pos r hmem
  have hgone := hsound.dispose_root? hw hr
  refine ⟨r, hr, ?_, fun s hs => ?_⟩
  · have hrelied : (∀ v ∈ (run actions).engine.watchers, Relied actions v.id w.root → v = w) ↔
        ∀ v ∈ (run actions).engine.watchers, v.root = w.root → v = w := by
      refine forall₂_congr fun v hv => ?_
      rw [← hid, relied_iff actions hv hmem]
    rw [hgone, hrelied, ← hsound.refCount_eq_one_iff hw hr]
    by_cases hone : r.refCount = 1 <;> simp [hone]
  · rw [hgone] at hs
    split at hs
    · cases hs
    · obtain rfl := Option.some.inj hs
      refine ⟨rfl, ?_⟩
      show r.refCount - 1 + 1 = r.refCount
      omega

/-- A directory is watched, then the one above it, then the one above that; the later two watchers
go. -/
def climbingRun : List WatchAction :=
  let directory (path : String) : WatchPattern :=
    ⟨{ scheme := "mem", authority := some { host := "h" }, path }, true⟩
  [.add (directory "/a/b") ⟨1⟩, .add (directory "/a") ⟨2⟩, .add (directory "/") ⟨4⟩, .dispose 1,
    .dispose 2]

/-- The first watcher of that run, two merges after it came. -/
def climbedWatcher : Watcher :=
  { id := 0
    root := 2
    pattern := ⟨{ scheme := "mem", authority := some { host := "h" }, path := "/a/b" }, true⟩
    kind := ⟨1⟩ }

/-- The first watcher of that run is the last one that relies on the topmost root, and takes it
along. -/
theorem refCount_exact_climbingRun :
    (run climbingRun).engine.watchers = [climbedWatcher] ∧ Relied climbingRun 0 2 ∧
      ((run climbingRun).engine.dispose 0).root? 2 = none := by
  have hwatchers : (run climbingRun).engine.watchers = [climbedWatcher] := by decide +kernel
  have hw : climbedWatcher ∈ (run climbingRun).engine.watchers := by simp [hwatchers]
  obtain ⟨r, -, hlast, -⟩ := (refCount_exact climbingRun).2 climbedWatcher hw
  refine ⟨hwatchers, relied_root climbingRun hw, hlast.mpr fun v hv _ => ?_⟩
  simpa [hwatchers] using hv

end WatchHistory

end ProviderHub
