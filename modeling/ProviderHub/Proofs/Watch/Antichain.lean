import ProviderHub.Proofs.Watch.History

/-!
No root of a watch engine covers another one.

A watcher that comes relies on the first root that covers it, and a new root takes the place of those
that it covers. Roots are not kept in an order that means anything. Since the patterns that cover a
given one form a chain, and roots that cover each other do not stay side by side, the first root
that covers a pattern is the only one.

* `WatchEngine.Antichain`: no root covers another one; `antichain_run` says so of all runs;
* `WatchEngine.Antichain.eq_of_covers`: two roots that cover one pattern are the same root;
* `WatchEngine.Reordered.add`: in whatever order the roots are found, the same comes of a new watcher;
* `WatchHistory.roots_antichain`: all this after every run.
-/

namespace ProviderHub

open List (Perm)
open WatchEngine

/-- Neither of two patterns covers the other one. -/
def WatchPattern.Apart (p q : WatchPattern) : Prop := p.covers q = false ∧ q.covers p = false

lemma WatchPattern.Apart.not_common {p q r : WatchPattern} (h : p.Apart q)
    (hp : p.covers r = true) (hq : q.covers r = true) : False := by
  rcases covers_total_of_common hp hq with hpq | hqp
  · exact Bool.false_ne_true (h.1.symm.trans hpq)
  · exact Bool.false_ne_true (h.2.symm.trans hqp)

namespace WatchEngine

variable {e e' : WatchEngine}

/-! ### Roots that do not cover each other -/

/-- No root covers another one. -/
def Antichain (e : WatchEngine) : Prop := e.roots.Pairwise fun r s => r.pattern.Apart s.pattern

lemma map_pattern_eq_of_plain {rs ss : List WatchRoot}
    (h : rs.map WatchRoot.plain = ss.map WatchRoot.plain) :
    rs.map WatchRoot.pattern = ss.map WatchRoot.pattern := by
  simpa [Function.comp_def, WatchRoot.plain] using congrArg (List.map WatchRoot.pattern) h

/-- Only the patterns matter, and roots may go. -/
lemma Antichain.of_sublist (h : e.Antichain)
    (hsub : (e'.roots.map WatchRoot.pattern).Sublist (e.roots.map WatchRoot.pattern)) :
    e'.Antichain :=
  List.pairwise_map.mp ((List.pairwise_map.mpr h).sublist hsub)

lemma Antichain.same (h : e.Antichain) (hsame : Same e e') : e'.Antichain := by
  refine h.of_sublist ?_
  rw [map_pattern_eq_of_plain hsame.roots]

lemma Antichain.apart (h : e.Antichain) {r s : WatchRoot} (hr : r ∈ e.roots) (hs : s ∈ e.roots)
    (hne : r ≠ s) : r.pattern.Apart s.pattern := by
  have : Std.Symm fun r s : WatchRoot => r.pattern.Apart s.pattern := ⟨fun _ _ => And.symm⟩
  exact h.forall hr hs hne

/-- Two roots that cover one pattern are the same root. -/
lemma Antichain.eq_of_covers (h : e.Antichain) {r s : WatchRoot} (hr : r ∈ e.roots)
    (hs : s ∈ e.roots) {pattern : WatchPattern} (hrp : r.pattern.covers pattern = true)
    (hsp : s.pattern.covers pattern = true) : r = s := by
  by_contra hne
  exact (h.apart hr hs hne).not_common hrp hsp

/-- A watcher points to the root that covers it. -/
lemma Antichain.root_eq_iff (h : e.Antichain) (hsound : e.Sound) {w : Watcher} {r : WatchRoot}
    (hw : w ∈ e.watchers) (hr : r ∈ e.roots) :
    w.root = r.id ↔ r.pattern.covers w.pattern = true := by
  obtain ⟨s, hs, hid, hcovers, -⟩ := hsound.served w hw
  constructor
  · intro hroot
    rwa [← List.inj_on_of_nodup_map hsound.rootIds hs hr (hid.trans hroot)]
  · intro hrw
    rw [h.eq_of_covers hr hs hrw hcovers, hid]

/-- At most one of some items is found if no two of those that are found stand side by side. -/
lemma length_filter_le_one {α : Type} {R : α → α → Prop} {p : α → Bool} {items : List α}
    (hpairs : items.Pairwise R) (hone : ∀ a b, p a = true → p b = true → ¬ R a b) :
    (items.filter p).length ≤ 1 := by
  have hfound := hpairs.sublist (List.filter_sublist (p := p))
  have hp : ∀ a ∈ items.filter p, p a = true := fun a ha => (List.mem_filter.mp ha).2
  match items.filter p, hfound, hp with
  | [], _, _ => exact Nat.zero_le _
  | [_], _, _ => exact Nat.le_refl _
  | a :: b :: _, hfound, hp =>
      have hab := (List.pairwise_cons.mp hfound).1 b (by simp)
      exact absurd hab (hone a b (hp a (by simp)) (hp b (by simp)))

/-- At most one root covers a pattern. -/
lemma Antichain.length_covers_le_one (h : e.Antichain) (pattern : WatchPattern) :
    (e.roots.filter fun r => r.pattern.covers pattern).length ≤ 1 :=
  length_filter_le_one h fun _ _ hr hs hapart => hapart.not_common hr hs

/-- A new root that no root covers stands beside those that it does not cover. -/
lemma Antichain.merge (h : e.Antichain) (hnodup : (e.roots.map WatchRoot.id).Nodup)
    {pattern : WatchPattern} (hnone : ∀ r ∈ e.roots, r.pattern.covers pattern = false)
    (kind : WatchKind) : (e.merge pattern kind).Antichain := by
  rw [Antichain, merge_roots hnodup, List.pairwise_append]
  refine ⟨h.sublist List.filter_sublist, List.pairwise_singleton _ _, ?_⟩
  intro r hr s hs
  obtain ⟨hr, hnot⟩ := List.mem_filter.mp hr
  rw [List.mem_singleton.mp hs]
  rw [Bool.not_eq_true'] at hnot
  exact ⟨hnone r hr, hnot⟩

lemma Antichain.add (h : e.Antichain) (hsound : e.Sound) (pattern : WatchPattern)
    (kind : WatchKind) : (e.add pattern kind).2.Antichain := by
  rcases add_cases e pattern kind with ⟨r, -, -, heq⟩ | ⟨hnone, heq⟩
  · rw [heq]
    refine Antichain.same ?_ (schedule_same _)
    refine h.of_sublist ?_
    show ((e.attach r kind).roots.map WatchRoot.pattern).Sublist _
    rw [map_pattern_eq_of_plain (attach_plain e r kind), List.map_map,
      show WatchRoot.pattern ∘ attached r kind = WatchRoot.pattern from
        funext fun s => attached_pattern r kind s]
  · rw [heq]
    refine Antichain.same ?_ (schedule_same _)
    exact h.merge hsound.rootIds hnone kind

lemma Antichain.dispose (h : e.Antichain) (hsound : e.Sound) (id : WatcherId) :
    (e.dispose id).Antichain := by
  rcases hsound.dispose_cases id with heq | ⟨w, r, -, -, heq⟩
  · rwa [heq]
  · have hpatterns : (e.released id r.id).roots.map WatchRoot.pattern =
        e.roots.map WatchRoot.pattern := by
      refine (List.map_map ..).trans (List.map_congr_left fun s _ => ?_)
      simp only [Function.comp]
      split <;> rfl
    have hreleased : (e.released id r.id).Antichain := by
      refine h.of_sublist ?_
      rw [hpatterns]
    rw [heq]
    split
    · refine Antichain.same ?_ (schedule_same _)
      refine hreleased.of_sublist ?_
      rw [teardown_roots]
      exact List.filter_sublist.map _
    · exact hreleased

/-! ### Roots in another order -/

/-- An engine whose roots, and whose registrations to be taken back, are listed in another order. -/
structure Reordered (e e' : WatchEngine) : Prop where
  roots : e'.roots.Perm e.roots
  pendingUnregister : e'.pendingUnregister.Perm e.pendingUnregister
  rest : e' = { e with roots := e'.roots, pendingUnregister := e'.pendingUnregister }

lemma Reordered.antichain (h : Reordered e e') (hchain : e.Antichain) : e'.Antichain :=
  h.roots.symm.pairwise hchain And.symm

/-- Where at most one item can be found, the order does not matter. -/
lemma find?_eq_of_perm {α : Type} {p : α → Bool} {items items' : List α}
    (hperm : items'.Perm items) (hone : (items.filter p).length ≤ 1) :
    items'.find? p = items.find? p := by
  have hfilter := hperm.filter p
  rw [← List.head?_filter, ← List.head?_filter]
  match items.filter p, hone, hfilter with
  | [], _, hfilter => rw [List.perm_nil.mp hfilter]
  | [_], _, hfilter => rw [List.perm_singleton.mp hfilter]

lemma Reordered.root? (h : Reordered e e') (hnodup : (e.roots.map WatchRoot.id).Nodup)
    (id : RootId) : e'.root? id = e.root? id := by
  refine find?_eq_of_perm h.roots (length_filter_le_one (List.pairwise_map.mp hnodup) ?_)
  intro r s hr hs hne
  exact hne ((beq_iff_eq.mp hr).trans (beq_iff_eq.mp hs).symm)

lemma Reordered.schedule (h : Reordered e e') : Reordered e.schedule e'.schedule := by
  have hwork : e'.hasWork = e.hasWork := by
    rw [hasWork, hasWork, h.pendingUnregister.isEmpty_eq, h.rest]
  rw [WatchEngine.schedule, WatchEngine.schedule, hwork, h.rest]
  split
  · exact ⟨h.roots, h.pendingUnregister, rfl⟩
  · exact ⟨h.roots, h.pendingUnregister, rfl⟩

lemma Reordered.enroll (h : Reordered e e') (w : Watcher) :
    Reordered (e.enroll w) (e'.enroll w) where
  roots := h.roots
  pendingUnregister := h.pendingUnregister
  rest := by
    rw [h.rest]
    rfl

lemma Reordered.updateRoot (h : Reordered e e') (id : RootId) (f : WatchRoot → WatchRoot) :
    Reordered (e.updateRoot id f) (e'.updateRoot id f) where
  roots := h.roots.map _
  pendingUnregister := h.pendingUnregister
  rest := by
    rw [h.rest]
    rfl

lemma Reordered.requeue (h : Reordered e e') (hnodup : (e.roots.map WatchRoot.id).Nodup)
    (id : RootId) : Reordered (e.requeue id) (e'.requeue id) := by
  rw [WatchEngine.requeue, WatchEngine.requeue, h.root? hnodup]
  cases e.root? id with
  | none => exact h
  | some r =>
      have hpending : e'.pending = e.pending := by rw [h.rest]
      refine ⟨(h.updateRoot id _).roots, h.pendingUnregister.append_right _, ?_⟩
      simp only [hpending]
      rw [h.rest]
      rfl

lemma Reordered.attach (h : Reordered e e') (hnodup : (e.roots.map WatchRoot.id).Nodup)
    (r : WatchRoot) (kind : WatchKind) : Reordered (e.attach r kind) (e'.attach r kind) := by
  have hcounted : Reordered { e with roots := e.roots.map (attached r kind) }
      { e' with roots := e'.roots.map (attached r kind) } := by
    refine ⟨h.roots.map _, h.pendingUnregister, ?_⟩
    rw [h.rest]
  rw [attach_eq, attach_eq]
  split
  · refine hcounted.requeue ?_ r.id
    show ((e.roots.map _).map WatchRoot.id).Nodup
    rwa [map_attached_id]
  · exact hcounted

/-- The root that takes the place of others adds up their counts and their kinds. -/
lemma Reordered.mergedRoot (h : Reordered e e') (pattern : WatchPattern) (kind : WatchKind) :
    e'.mergedRoot pattern kind = e.mergedRoot pattern kind := by
  have hcovered : (e'.coveredBy pattern).Perm (e.coveredBy pattern) := h.roots.filter _
  have hkind : (e'.coveredBy pattern).foldl (fun k r => k.union r.kind) kind =
      (e.coveredBy pattern).foldl (fun k r => k.union r.kind) kind := by
    refine hcovered.foldl_eq' ?_ kind
    intro r _ s _ k
    exact WatchKind.union_right_comm k r.kind s.kind
  have hcount : (e'.coveredBy pattern).foldl (fun n r => n + r.refCount) 1 =
      (e.coveredBy pattern).foldl (fun n r => n + r.refCount) 1 := by
    refine hcovered.foldl_eq' ?_ 1
    intro r _ s _ n
    exact Nat.add_right_comm n r.refCount s.refCount
  have hnext : e'.nextRoot = e.nextRoot := by rw [h.rest]
  rw [WatchEngine.mergedRoot, hkind, hcount, hnext]
  rfl

lemma Reordered.merge (h : Reordered e e') (hnodup : (e.roots.map WatchRoot.id).Nodup)
    (pattern : WatchPattern) (kind : WatchKind) :
    Reordered (e.merge pattern kind) (e'.merge pattern kind) := by
  have hcovered : (e'.coveredBy pattern).Perm (e.coveredBy pattern) := h.roots.filter _
  have hcontains : ((e'.coveredBy pattern).map WatchRoot.id).contains =
      ((e.coveredBy pattern).map WatchRoot.id).contains := by
    funext id
    rw [Bool.eq_iff_iff, List.contains_iff_mem, List.contains_iff_mem]
    exact (hcovered.map WatchRoot.id).mem_iff
  have hredirect : redirect ((e'.coveredBy pattern).map WatchRoot.id) =
      redirect ((e.coveredBy pattern).map WatchRoot.id) := by
    funext root w
    rw [redirect, redirect, hcontains]
  have hnodup' : (e'.roots.map WatchRoot.id).Nodup := (h.roots.map WatchRoot.id).nodup_iff.mpr hnodup
  rw [merge_eq hnodup, merge_eq hnodup', h.mergedRoot, hredirect, hcontains]
  refine ⟨(h.roots.filter _).append_right _, ?_, ?_⟩
  · exact h.pendingUnregister.append (hcovered.flatMap_right registrationOf)
  · have hwatchers : e'.watchers = e.watchers := by rw [h.rest]
    have hpending : e'.pending = e.pending := by rw [h.rest]
    have hnext : e'.nextRoot = e.nextRoot := by rw [h.rest]
    simp only [hwatchers, hpending, hnext]
    rw [h.rest]

/-- **The order of the roots does not matter to a watcher that comes**: it gets the same number and the
same root, and the engine is the same afterwards up to the order of its roots and of what is to be
taken back. -/
lemma Reordered.add (h : Reordered e e') (hchain : e.Antichain)
    (hnodup : (e.roots.map WatchRoot.id).Nodup) (pattern : WatchPattern) (kind : WatchKind) :
    (e'.rootFor pattern.normalized kind).1 = (e.rootFor pattern.normalized kind).1 ∧
      (e'.add pattern kind).1 = (e.add pattern kind).1 ∧
      Reordered (e.add pattern kind).2 (e'.add pattern kind).2 := by
  have hfind : e'.roots.find? (fun r => r.pattern.covers pattern.normalized) =
      e.roots.find? fun r => r.pattern.covers pattern.normalized :=
    find?_eq_of_perm h.roots (hchain.length_covers_le_one pattern.normalized)
  have hnextRoot : e'.nextRoot = e.nextRoot := by rw [h.rest]
  have hnextWatcher : e'.nextWatcher = e.nextWatcher := by rw [h.rest]
  have hroot : (e'.rootFor pattern.normalized kind).1 = (e.rootFor pattern.normalized kind).1 ∧
      Reordered (e.rootFor pattern.normalized kind).2 (e'.rootFor pattern.normalized kind).2 := by
    rw [rootFor, rootFor, hfind]
    cases e.roots.find? fun r => r.pattern.covers pattern.normalized with
    | some r => exact ⟨rfl, h.attach hnodup r kind⟩
    | none => exact ⟨hnextRoot, h.merge hnodup pattern.normalized kind⟩
  refine ⟨hroot.1, hnextWatcher, ?_⟩
  rw [add_eq, add_eq, hroot.1, hnextWatcher]
  exact (hroot.2.enroll _).schedule

end WatchEngine

namespace WatchHistory

variable {h : WatchHistory}

/-! ### Every run, in every order -/

/-- The histories that actions lead to, whatever order the roots are found in between them. -/
inductive Reachable : WatchHistory → Prop
  | start : Reachable {}
  | step {h : WatchHistory} (action : WatchAction) : Reachable h → Reachable (h.step action)
  | reorder {h : WatchHistory} {e : WatchEngine} :
      Reachable h → Reordered h.engine e → Reachable { h with engine := e }

lemma reachable_run (actions : List WatchAction) : Reachable (run actions) := by
  induction actions using List.reverseRecOn with
  | nil => exact .start
  | append_singleton actions action ih =>
      rw [run_append]
      exact ih.step action

lemma Consistent.reorder (hc : h.Consistent) {e : WatchEngine} (he : Reordered h.engine e) :
    Consistent { h with engine := e } := by
  have hmem : ∀ r, r ∈ e.roots ↔ r ∈ h.engine.roots := fun r => he.roots.mem_iff
  have hsound : e.Sound := by
    rw [he.rest]
    refine ⟨?_, ?_, hc.sound.watcherIds, hc.sound.watcher_lt, ?_, ?_, ?_⟩
    · exact (he.roots.map WatchRoot.id).nodup_iff.mpr hc.sound.rootIds
    · exact fun r hr => hc.sound.root_lt r ((hmem r).mp hr)
    · intro w hw
      obtain ⟨r, hr, hserves⟩ := hc.sound.served w hw
      exact ⟨r, (hmem r).mpr hr, hserves⟩
    · exact fun r hr => hc.sound.refCount r ((hmem r).mp hr)
    · exact fun r hr => hc.sound.refCount_pos r ((hmem r).mp hr)
  have hflushes : e.flushes = h.engine.flushes := by rw [he.rest]
  have hnextFlush : e.nextFlush = h.engine.nextFlush := by rw [he.rest]
  have hnext : e.nextRegistration = h.engine.nextRegistration := by rw [he.rest]
  refine ⟨hsound, ?_, ?_, ?_, hc.numbers, hnext.trans hc.next, ?_, hc.accepted⟩
  · show (e.flushes.map Flush.id).Nodup
    rw [hflushes]
    exact hc.flushIds
  · show ∀ f ∈ e.flushes, f.id < e.nextFlush
    rw [hflushes, hnextFlush]
    exact hc.flush_lt
  · show ∀ c ∈ h.calls, c.flush < e.nextFlush
    rw [hnextFlush]
    exact hc.call_lt
  · exact fun r hr => hc.sent r ((hmem r).mp hr)

lemma Reachable.consistent (hr : Reachable h) : h.Consistent := by
  induction hr with
  | start => exact .empty
  | step action _ ih => exact consistent_step ih action
  | reorder _ he ih => exact ih.reorder he

/-- No root of a history that can be reached covers another one. -/
lemma Reachable.antichain (hr : Reachable h) : h.engine.Antichain := by
  induction hr with
  | start => exact List.Pairwise.nil
  | step action hr ih =>
      rename_i h
      have hsound := hr.consistent.sound
      rcases step_same h hsound action with ⟨pattern, kind, rfl⟩ | ⟨id, rfl⟩ | ⟨-, hsame⟩
      · exact ih.add hsound pattern kind
      · exact ih.dispose hsound id
      · exact ih.same hsame
  | reorder _ he ih => exact he.antichain ih

lemma antichain_run (actions : List WatchAction) : (run actions).engine.Antichain :=
  (reachable_run actions).antichain

/-- **Roots form an antichain**: however a history has come about, no root covers another one, and at
most one covers a given pattern. So in whatever order the roots are found, a watcher that comes gets
the same root, and the same engine comes of it, up to the order of the roots and of what is to be
taken back. -/
theorem roots_antichain (hr : Reachable h) :
    h.engine.roots.Pairwise
      (fun r s => r.pattern.covers s.pattern = false ∧ s.pattern.covers r.pattern = false) ∧
    (∀ pattern : WatchPattern,
      (h.engine.roots.filter fun r => r.pattern.covers pattern).length ≤ 1) ∧
    ∀ e, Reordered h.engine e → ∀ pattern kind,
      (e.rootFor pattern.normalized kind).1 = (h.engine.rootFor pattern.normalized kind).1 ∧
        (e.add pattern kind).1 = (h.engine.add pattern kind).1 ∧
        Reordered (h.engine.add pattern kind).2 (e.add pattern kind).2 := by
  have hchain := hr.antichain
  exact ⟨hchain, hchain.length_covers_le_one, fun e he => he.add hchain hr.consistent.sound.rootIds⟩

/-- Two directories are registered, and found in the opposite order when one above both is watched. -/
def neighbours : List WatchAction :=
  let directory (path : String) : WatchPattern :=
    ⟨{ scheme := "mem", authority := some { host := "h" }, path }, true⟩
  [.enable, .add (directory "/a") ⟨1⟩, .add (directory "/b") ⟨2⟩, .flush fun _ => true]

/-- Which of the two is found first shows in the order of what is to be taken back, and nowhere else. -/
theorem roots_antichain_neighbours :
    let e := (run neighbours).engine
    let reversed := { e with roots := e.roots.reverse }
    let top : WatchPattern :=
      ⟨{ scheme := "mem", authority := some { host := "h" }, path := "/" }, true⟩
    Reachable (run neighbours) ∧ Reordered e reversed ∧
      (e.add top ⟨4⟩).2.pendingUnregister = [1, 2] ∧
      (reversed.add top ⟨4⟩).2.pendingUnregister = [2, 1] ∧
      Reordered (e.add top ⟨4⟩).2 (reversed.add top ⟨4⟩).2 := by
  intro e reversed top
  have hr := reachable_run neighbours
  have he : Reordered e reversed := ⟨List.reverse_perm _, .refl _, rfl⟩
  have hfirst : (e.add top ⟨4⟩).2.pendingUnregister = [1, 2] := by decide +kernel
  have hsecond : (reversed.add top ⟨4⟩).2.pendingUnregister = [2, 1] := by decide +kernel
  obtain ⟨-, -, hadd⟩ := roots_antichain hr
  exact ⟨hr, he, hfirst, hsecond, (hadd reversed he top ⟨4⟩).2.2⟩

end WatchHistory

end ProviderHub
