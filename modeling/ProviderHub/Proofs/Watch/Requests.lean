import ProviderHub.Proofs.Watch.Antichain

/-!
The roots that requests lead to.

As long as no watcher goes, the roots of an engine depend on what has been asked for, and not on the
order in which it has been asked for: there is one root for each class of largest patterns, and it
stands for the requests that it covers.

* `WatchPattern.key`: what tells classes of patterns apart; `key_eq_iff` says which are in one class;
* `WatchHistory.requests`: what has been asked for in a run;
* `WatchHistory.kind_eq`, `WatchHistory.refCount_eq`: kind and count of a root in terms of requests;
* `WatchHistory.roots_of_requests`: which roots there are, and that the order does not matter.
-/

namespace ProviderHub

open List (Perm)
open WatchEngine

/-! ### Patterns that cover each other -/

namespace WatchPattern

/-- What patterns that cover each other have in common. Recursive ones may differ in user and port. -/
def key (p : WatchPattern) : String × Option String × String × Bool × Option Url :=
  (p.base.scheme, p.base.host?, p.base.path, p.recursive, if p.recursive then none else some p.base)

lemma key_eq_iff {p q : WatchPattern} :
    p.key = q.key ↔ p.covers q = true ∧ q.covers p = true := by
  cases hp : p.recursive with
  | true =>
      cases hq : q.recursive with
      | true =>
          rw [covers_of_recursive hp, covers_of_recursive hq, Url.isWithin_iff, Url.isWithin_iff,
            Url.sameHost_iff, Url.sameHost_iff]
          simp only [key, hp, hq, if_true, Prod.mk.injEq, and_true]
          constructor
          · rintro ⟨hscheme, hhost, hpath⟩
            rw [hscheme, hhost, hpath]
            exact ⟨⟨⟨rfl, rfl⟩, Url.pathWithin_refl _⟩, ⟨rfl, rfl⟩, Url.pathWithin_refl _⟩
          · rintro ⟨⟨-, hqp⟩, ⟨hscheme, hhost⟩, hpq⟩
            exact ⟨hscheme, hhost, String.toList_inj.mp (Url.pathWithin_antisymm hpq hqp)⟩
      | false => simp [key, hp, hq, covers_of_shallow hq]
  | false =>
      cases hq : q.recursive with
      | true => simp [key, hp, hq, covers_of_shallow hp]
      | false =>
          rw [covers_of_shallow hp, covers_of_shallow hq]
          simp only [key, hp, hq, Bool.false_eq_true, if_false, Prod.mk.injEq, Option.some.injEq,
            true_and]
          constructor
          · rintro ⟨-, -, -, hbase⟩
            exact ⟨hbase.symm, hbase⟩
          · rintro ⟨-, hbase⟩
            rw [hbase]
            exact ⟨rfl, rfl, rfl, rfl⟩

/-- Patterns that cover each other cover the same patterns. -/
lemma covers_eq_of_key_eq {p q : WatchPattern} (h : p.key = q.key) (r : WatchPattern) :
    p.covers r = q.covers r := by
  obtain ⟨hpq, hqp⟩ := key_eq_iff.mp h
  rw [Bool.eq_iff_iff]
  exact ⟨covers_trans hqp, covers_trans hpq⟩

end WatchPattern

/-- Where a root is, apart from user and port, how deep it goes, its kind, and its count. -/
def WatchRoot.outline (r : WatchRoot) : String × Option String × String × Bool × WatchKind × Nat :=
  (r.pattern.base.scheme, r.pattern.base.host?, r.pattern.base.path, r.pattern.recursive, r.kind,
    r.refCount)

/-! ### Requests -/

/-- What a watcher asks for. -/
structure WatchRequest where
  pattern : WatchPattern
  kind : WatchKind
deriving DecidableEq

/-- The kinds of some requests together. -/
def WatchRequest.kinds (requests : List WatchRequest) : WatchKind :=
  requests.foldl (fun k q => k.union q.kind) ⟨0⟩

/-- The requests that a pattern covers. -/
def WatchPattern.serving (p : WatchPattern) (requests : List WatchRequest) : List WatchRequest :=
  requests.filter fun q => p.covers q.pattern

namespace WatchHistory

/-- What has been asked for in a run, with bases in the form of watches. -/
def requests (actions : List WatchAction) : List WatchRequest :=
  actions.filterMap fun
    | .add pattern kind => some ⟨pattern.normalized, kind⟩
    | _ => none

lemma requests_subset (actions : List WatchAction) (action : WatchAction) :
    requests actions ⊆ requests (actions ++ [action]) := by
  rw [requests, requests, List.filterMap_append]
  exact List.subset_append_left _ _

lemma mem_requests_add (actions : List WatchAction) (pattern : WatchPattern) (kind : WatchKind) :
    ⟨pattern.normalized, kind⟩ ∈ requests (actions ++ [.add pattern kind]) := by
  simp [requests]

/-- What a new watcher wants is among the kinds that a pattern covers, if the pattern covers it. -/
lemma kind_within_added {p pattern : WatchPattern} (hcovers : p.covers pattern.normalized = true)
    (actions : List WatchAction) (kind : WatchKind) :
    kind.Within (WatchRequest.kinds (p.serving (requests (actions ++ [.add pattern kind])))) := by
  have hmem : ⟨pattern.normalized, kind⟩ ∈ p.serving (requests (actions ++ [.add pattern kind])) :=
    List.mem_filter.mpr ⟨mem_requests_add actions pattern kind, hcovers⟩
  exact WatchKind.kind_within_foldl_union WatchRequest.kind hmem ⟨0⟩

/-- As long as no watcher goes, there is one for each request. -/
lemma watchers_requests {actions : List WatchAction}
    (hkept : ∀ id, WatchAction.dispose id ∉ actions) :
    (run actions).engine.watchers.map (fun w => WatchRequest.mk w.pattern w.kind) =
      requests actions := by
  induction actions using List.reverseRecOn with
  | nil => rfl
  | append_singleton actions action ih =>
      have hold := ih fun id hid => hkept id (List.mem_append_left _ hid)
      have hsound := (consistent_run actions).sound
      rw [run_append, requests, List.filterMap_append]
      rcases step_same (run actions) hsound action with
        ⟨pattern, kind, rfl⟩ | ⟨id, rfl⟩ | ⟨hother, hsame⟩
      · have hadded : ((run actions).step (.add pattern kind)).engine.watchers = _ :=
          add_watchers (run actions).engine pattern kind
        have hroot : ((run actions).engine.rootFor pattern.normalized kind).2.watchers.map
            (fun w => WatchRequest.mk w.pattern w.kind) = requests actions := by
          rcases rootFor_cases (run actions).engine pattern.normalized kind with
            ⟨r, -, -, heq⟩ | ⟨-, heq⟩
          · have hframe := attach_frame (run actions).engine r kind
            rw [heq, ← hold]
            exact (congrArg (fun f : WatchEngine =>
              f.watchers.map fun w => WatchRequest.mk w.pattern w.kind) hframe :)
          · rw [heq, merge_watchers, List.map_map, ← hold]
            refine List.map_congr_left fun w _ => ?_
            obtain ⟨-, hpattern, hkind⟩ := redirect_plain_eq
              (((run actions).engine.coveredBy pattern.normalized).map WatchRoot.id)
              (run actions).engine.nextRoot w
            rw [Function.comp, hpattern, hkind]
        rw [hadded, List.map_append, hroot]
        rfl
      · exact absurd (List.mem_append_right _ (List.mem_singleton_self _)) (hkept id)
      · have hplain := congrArg (List.map fun w => WatchRequest.mk w.pattern w.kind) hsame.watchers
        simp only [List.map_map, Function.comp_def, Watcher.plain] at hplain
        rw [hplain, hold]
        cases action with
        | add pattern kind => exact absurd rfl (hother pattern kind)
        | _ => exact (List.append_nil _).symm

/-- A root has the pattern of a request. -/
lemma exists_request (actions : List WatchAction) :
    ∀ r ∈ (run actions).engine.roots, ∃ q ∈ requests actions, q.pattern = r.pattern := by
  induction actions using List.reverseRecOn with
  | nil => simp [run]
  | append_singleton actions action ih =>
      intro r' hr'
      rw [run_append] at hr'
      rcases root_cases (consistent_run actions).sound hr' with
        ⟨pattern, kind, rfl, -, rfl⟩ | ⟨r, hr, -, hpattern, -, -⟩
      · exact ⟨_, mem_requests_add actions pattern kind, rfl⟩
      · obtain ⟨q, hq, heq⟩ := ih r hr
        exact ⟨q, requests_subset actions action hq, heq.trans hpattern⟩

/-- More requests that are covered have more kinds. -/
lemma kinds_within_kinds {p q : WatchPattern} (hpq : p.covers q = true)
    {requests requests' : List WatchRequest} (hsub : requests ⊆ requests') :
    (WatchRequest.kinds (q.serving requests)).Within (WatchRequest.kinds (p.serving requests')) := by
  refine WatchKind.foldl_union_within (WatchKind.zero_within _) fun x hx => ?_
  obtain ⟨hx, hcovers⟩ := List.mem_filter.mp hx
  refine WatchKind.kind_within_foldl_union WatchRequest.kind ?_ ⟨0⟩
  exact List.mem_filter.mpr ⟨hsub hx, WatchPattern.covers_trans hpq hcovers⟩

/-- A root reports nothing that has not been asked for where it sees it. -/
lemma kind_within_kinds (actions : List WatchAction) :
    ∀ r ∈ (run actions).engine.roots,
      r.kind.Within (WatchRequest.kinds (r.pattern.serving (requests actions))) := by
  induction actions using List.reverseRecOn with
  | nil => simp [run]
  | append_singleton actions action ih =>
      intro r' hr'
      have hsub := requests_subset actions action
      rw [run_append] at hr'
      rcases root_cases (consistent_run actions).sound hr' with
        ⟨pattern, kind, rfl, -, rfl⟩ | ⟨r, hr, -, hpattern, hkind, -⟩
      · -- a new root reports what the new watcher wants and what the roots that it covers report
        refine WatchKind.foldl_union_within
          (kind_within_added (WatchPattern.covers_refl _) actions kind) fun s hs => ?_
        obtain ⟨hs, hcovers⟩ := List.mem_filter.mp hs
        exact (ih s hs).trans (kinds_within_kinds hcovers hsub)
      · have hold := (ih r hr).trans (kinds_within_kinds (WatchPattern.covers_refl r.pattern) hsub)
        rw [← hpattern]
        rcases hkind with hkind | ⟨pattern, kind, rfl, hcovers, hkind⟩
        · rwa [hkind]
        · rw [hkind]
          exact hold.union (kind_within_added hcovers actions kind)

/-! ### Roots in terms of requests -/

section

variable {actions : List WatchAction} (hkept : ∀ id, WatchAction.dispose id ∉ actions)
include hkept

/-- Behind each request there is a watcher. -/
lemma exists_watcher {q : WatchRequest} (hq : q ∈ requests actions) :
    ∃ w ∈ (run actions).engine.watchers, w.pattern = q.pattern ∧ w.kind = q.kind := by
  rw [← watchers_requests hkept] at hq
  obtain ⟨w, hw, rfl⟩ := List.mem_map.mp hq
  exact ⟨w, hw, rfl, rfl⟩

lemma exists_root {q : WatchRequest} (hq : q ∈ requests actions) :
    ∃ r ∈ (run actions).engine.roots, r.pattern.covers q.pattern = true := by
  obtain ⟨w, hw, hpattern, -⟩ := exists_watcher hkept hq
  obtain ⟨r, hr, -, hcovers, -⟩ := (consistent_run actions).sound.served w hw
  exact ⟨r, hr, hpattern ▸ hcovers⟩

/-- The pattern of a root is as large as any request that covers it. -/
lemma covers_of_request_covers {r : WatchRoot} (hr : r ∈ (run actions).engine.roots)
    {q : WatchRequest} (hq : q ∈ requests actions) (hcovers : q.pattern.covers r.pattern = true) :
    r.pattern.covers q.pattern = true := by
  obtain ⟨s, hs, hsq⟩ := exists_root hkept hq
  have hsr := WatchPattern.covers_trans hsq hcovers
  rwa [(antichain_run actions).eq_of_covers hr hs (WatchPattern.covers_refl _) hsr]

/-- A root reports what has been asked for where it sees it. -/
lemma kind_eq {r : WatchRoot} (hr : r ∈ (run actions).engine.roots) :
    r.kind = WatchRequest.kinds (r.pattern.serving (requests actions)) := by
  refine (kind_within_kinds actions r hr).antisymm ?_
  refine WatchKind.foldl_union_within (WatchKind.zero_within _) fun q hq => ?_
  obtain ⟨hq, hcovers⟩ := List.mem_filter.mp hq
  obtain ⟨w, hw, hpattern, hkind⟩ := exists_watcher hkept hq
  obtain ⟨s, hs, -, hsw, hwithin⟩ := (consistent_run actions).sound.served w hw
  rw [← hkind]
  rwa [(antichain_run actions).eq_of_covers hr hs hcovers (hpattern ▸ hsw)]

/-- A root counts the requests that it covers. -/
lemma refCount_eq {r : WatchRoot} (hr : r ∈ (run actions).engine.roots) :
    r.refCount = (r.pattern.serving (requests actions)).length := by
  have hsound := (consistent_run actions).sound
  rw [hsound.refCount r hr, WatchPattern.serving, ← List.countP_eq_length_filter,
    ← watchers_requests hkept, List.countP_map]
  refine List.countP_congr fun w hw => ?_
  rw [beq_iff_eq]
  exact (antichain_run actions).root_eq_iff hsound hw hr

end

/-! ### The order of requests -/

/-- What roots of one class have in common. -/
def digest (r : WatchRoot) :
    (String × Option String × String × Bool × Option Url) × WatchKind × Nat :=
  (r.pattern.key, r.kind, r.refCount)

lemma nodup_digest (actions : List WatchAction) :
    ((run actions).engine.roots.map digest).Nodup := by
  refine List.pairwise_map.mpr ((antichain_run actions).imp fun {r s} hapart heq => ?_)
  obtain ⟨hrs, -⟩ := WatchPattern.key_eq_iff.mp (Prod.mk.inj heq).1
  exact Bool.false_ne_true (hapart.1.symm.trans hrs)

/-- Kind and count depend on which requests there are. -/
lemma serving_perm {p q : WatchPattern} (hkey : p.key = q.key) {requests requests' : List WatchRequest}
    (hperm : requests'.Perm requests) : (q.serving requests').Perm (p.serving requests) := by
  have hsame : (fun x : WatchRequest => q.covers x.pattern) = fun x => p.covers x.pattern :=
    funext fun x => (WatchPattern.covers_eq_of_key_eq hkey x.pattern).symm
  rw [WatchPattern.serving, WatchPattern.serving, hsame]
  exact hperm.filter _

lemma kinds_perm {requests requests' : List WatchRequest} (hperm : requests'.Perm requests) :
    WatchRequest.kinds requests' = WatchRequest.kinds requests := by
  refine hperm.foldl_eq' ?_ _
  intro q _ q' _ k
  exact WatchKind.union_right_comm k q.kind q'.kind

/-- Each root of one run has its like in a run with the same requests. -/
lemma mem_digest {actions actions' : List WatchAction}
    (hkept : ∀ id, WatchAction.dispose id ∉ actions)
    (hkept' : ∀ id, WatchAction.dispose id ∉ actions')
    (hperm : (requests actions').Perm (requests actions)) {r : WatchRoot}
    (hr : r ∈ (run actions).engine.roots) :
    digest r ∈ (run actions').engine.roots.map digest := by
  obtain ⟨q, hq, hqr⟩ := exists_request actions r hr
  obtain ⟨s, hs, hsq⟩ := exists_root hkept' (hperm.mem_iff.mpr hq)
  obtain ⟨q', hq', hqs⟩ := exists_request actions' s hs
  rw [hqr] at hsq
  have hrs : r.pattern.covers s.pattern = true := by
    have hback := covers_of_request_covers hkept hr (hperm.mem_iff.mp hq') (hqs ▸ hsq)
    rwa [hqs] at hback
  have hkey : r.pattern.key = s.pattern.key := WatchPattern.key_eq_iff.mpr ⟨hrs, hsq⟩
  have hserving := serving_perm hkey hperm
  refine List.mem_map.mpr ⟨s, hs, ?_⟩
  rw [digest, digest, hkey, kind_eq hkept hr, kind_eq hkept' hs, refCount_eq hkept hr,
    refCount_eq hkept' hs, kinds_perm hserving, hserving.length_eq]

/-- **Roots depend on the requests and not on their order**: as long as no watcher goes, each root has
the pattern of a request, as large as any that covers it, the kinds of the requests that it covers,
and their number; for each request that is as large as any that covers it, there is one root that it
covers and is covered by; and requests in another order lead to the same roots, up to user and port
of their bases. -/
theorem roots_of_requests (actions : List WatchAction)
    (hkept : ∀ id, WatchAction.dispose id ∉ actions) :
    (∀ r ∈ (run actions).engine.roots,
      (∃ q ∈ requests actions, q.pattern = r.pattern) ∧
      (∀ q ∈ requests actions, q.pattern.covers r.pattern = true →
        r.pattern.covers q.pattern = true) ∧
      r.kind = WatchRequest.kinds ((requests actions).filter fun q => r.pattern.covers q.pattern) ∧
      r.refCount = ((requests actions).filter fun q => r.pattern.covers q.pattern).length) ∧
    (∀ q ∈ requests actions,
      (∀ q' ∈ requests actions, q'.pattern.covers q.pattern = true →
        q.pattern.covers q'.pattern = true) →
      ∃! r, r ∈ (run actions).engine.roots ∧ r.pattern.covers q.pattern = true ∧
        q.pattern.covers r.pattern = true) ∧
    ∀ actions', (∀ id, WatchAction.dispose id ∉ actions') →
      (requests actions').Perm (requests actions) →
      ((run actions').engine.roots.map WatchRoot.outline).Perm
        ((run actions).engine.roots.map WatchRoot.outline) := by
  refine ⟨fun r hr => ?_, fun q hq hlargest => ?_, fun actions' hkept' hperm => ?_⟩
  · exact ⟨exists_request actions r hr, fun q hq => covers_of_request_covers hkept hr hq,
      kind_eq hkept hr, refCount_eq hkept hr⟩
  · obtain ⟨r, hr, hrq⟩ := exists_root hkept hq
    obtain ⟨q', hq', heq⟩ := exists_request actions r hr
    refine ⟨r, ⟨hr, hrq, heq ▸ hlargest q' hq' (heq ▸ hrq)⟩, ?_⟩
    rintro s ⟨hs, hsq, -⟩
    exact (antichain_run actions).eq_of_covers hs hr hsq hrq
  · have hdigests : ((run actions').engine.roots.map digest).Perm
        ((run actions).engine.roots.map digest) := by
      rw [List.perm_ext_iff_of_nodup (nodup_digest actions') (nodup_digest actions)]
      intro x
      constructor
      · rintro hx
        obtain ⟨r, hr, rfl⟩ := List.mem_map.mp hx
        exact mem_digest hkept' hkept hperm.symm hr
      · rintro hx
        obtain ⟨r, hr, rfl⟩ := List.mem_map.mp hx
        exact mem_digest hkept hkept' hperm hr
    have houtlines := hdigests.map fun d => (d.1.1, d.1.2.1, d.1.2.2.1, d.1.2.2.2.1, d.2)
    rwa [List.map_map, List.map_map] at houtlines

/-- A directory is watched under two ports and in its depth, and another one is watched flat under
the same two ports. -/
def portsRun : List WatchAction :=
  let pattern (path : String) (port : Option Nat) (recursive : Bool) : WatchPattern :=
    ⟨{ scheme := "mem", authority := some { host := "h", port }, path }, recursive⟩
  [.enable, .add (pattern "/a/b" none false) ⟨4⟩, .add (pattern "/a" (some 8) true) ⟨1⟩,
    .flush fun _ => true, .add (pattern "/a/" none true) ⟨2⟩, .add (pattern "/c" (some 8) false) ⟨1⟩,
    .add (pattern "/c" none false) ⟨2⟩]

/-- Backwards the first directory gets a root with the other port, and all else is the same. -/
theorem roots_of_requests_portsRun :
    (∀ id, WatchAction.dispose id ∉ portsRun) ∧ (∀ id, WatchAction.dispose id ∉ portsRun.reverse) ∧
      (requests portsRun.reverse).Perm (requests portsRun) ∧
      (run portsRun).engine.roots.map WatchRoot.outline =
        [("mem", some "h", "/a", true, ⟨7⟩, 3), ("mem", some "h", "/c", false, ⟨1⟩, 1),
          ("mem", some "h", "/c", false, ⟨2⟩, 1)] ∧
      ((run portsRun.reverse).engine.roots.map WatchRoot.outline).Perm
        ((run portsRun).engine.roots.map WatchRoot.outline) ∧
      ¬ ((run portsRun.reverse).engine.roots.map WatchRoot.pattern).Perm
        ((run portsRun).engine.roots.map WatchRoot.pattern) := by
  have hkept : ∀ id, WatchAction.dispose id ∉ portsRun := by simp [portsRun]
  have hkept' : ∀ id, WatchAction.dispose id ∉ portsRun.reverse := by simpa using hkept
  have hperm : (requests portsRun.reverse).Perm (requests portsRun) := by decide +kernel
  have hroots := (roots_of_requests portsRun hkept).2.2 portsRun.reverse hkept' hperm
  exact ⟨hkept, hkept', hperm, by decide +kernel, hroots, by decide +kernel⟩

end WatchHistory

end ProviderHub
