import ProviderHub.Proofs.Watch.Requests

/-!
Watchers of several servers.

Where a path lies is decided with the scheme and the host alone. Two URLs of one host may belong to
different users or to servers on different ports.

* `Url.endpoint`: the server of a URL, and the user that it is asked as;
* `Watcher.wants_congr`: user and port do not matter to what a watcher is sent;
* `WatchHistory.exists_request_of_watcher`: a watcher has the pattern of a request;
* `WatchHistory.roots_apart_iff`, `WatchHistory.events_apart_iff`: when watchers keep to one
  endpoint;
* `WatchHistory.endpoints_run`: what is kept apart, and what is not.
-/

namespace ProviderHub

/-! ### Endpoints -/

/-- A server, and the user that it is asked as. -/
structure Endpoint where
  scheme : String
  username : String
  password : String
  host : Option String
  port : Option ℕ
deriving DecidableEq

namespace Url

/-- **The endpoint of a URL.** -/
def endpoint (u : Url) : Endpoint where
  scheme := u.scheme
  username := (u.authority.map Authority.username).getD ""
  password := (u.authority.map Authority.password).getD ""
  host := u.host?
  port := u.authority.bind Authority.port

lemma isWithin_congr {u u' : Url} (hhost : u.sameHost u' = true) (hpath : u.path = u'.path)
    (v : Url) : u.isWithin v = u'.isWithin v := by
  obtain ⟨hscheme, hhost⟩ := sameHost_iff.mp hhost
  rw [isWithin, isWithin, sameHost, sameHost, hscheme, hhost, hpath]

end Url

lemma WatchPattern.sameHost_of_observes {p : WatchPattern} {uri : Url}
    (h : p.observes uri = true) : uri.sameHost p.base = true := by
  rw [observes] at h
  split at h
  · exact (Url.isWithin_iff.mp h).1
  · exact (Bool.and_eq_true_iff.mp h).1

/-- Which files a pattern sees depends on their scheme, host and path. -/
lemma WatchPattern.observes_congr {u u' : Url} (hhost : u.sameHost u' = true)
    (hpath : u.path = u'.path) (p : WatchPattern) : p.observes u = p.observes u' := by
  rw [observes, observes, Url.isWithin_congr hhost hpath]
  obtain ⟨hscheme, hhost⟩ := Url.sameHost_iff.mp hhost
  rw [Url.sameHost, Url.sameHost, hscheme, hhost, hpath]

/-- A pattern that covers another one has a base on the same host. -/
lemma WatchPattern.sameHost_of_covers {p q : WatchPattern} (h : p.covers q = true) :
    p.base.sameHost q.base = true := by
  obtain ⟨hscheme, hhost⟩ := Url.sameHost_iff.mp (Url.isWithin_iff.mp (isWithin_of_covers h)).1
  exact Url.sameHost_iff.mpr ⟨hscheme.symm, hhost.symm⟩

/-- Two events that differ at most in the user, the port, the query and the fragment. -/
def FileEvent.Alike (a b : FileEvent) : Prop :=
  a.change = b.change ∧ a.uri.sameHost b.uri = true ∧ a.uri.path = b.uri.path

lemma Watcher.wants_congr {a b : FileEvent} (h : a.Alike b) (w : Watcher) :
    w.wants a = w.wants b := by
  obtain ⟨hchange, hhost, hpath⟩ := h
  rw [wants, wants, hchange, WatchPattern.observes_congr hhost hpath]

namespace WatchHistory

/-! ### Requests of watchers -/

/-- A watcher has the pattern of a request. -/
lemma exists_request_of_watcher (actions : List WatchAction) :
    ∀ w ∈ (run actions).engine.watchers, ∃ q ∈ requests actions, q.pattern = w.pattern := by
  induction actions using List.reverseRecOn with
  | nil => simp [run]
  | append_singleton actions action ih =>
    intro w' hw'
    have hsound := (consistent_run actions).sound
    have hnext := (consistent_run (actions ++ [action])).sound
    rw [run_append] at hw' hnext
    rcases watcher_cases hsound hw' with
      ⟨pattern, kind, rfl, hid, -⟩ | ⟨w, hw, -, hpattern, -, -⟩
    · -- the watcher that comes is the one with the new number
      obtain rfl := List.inj_on_of_nodup_map hnext.watcherIds hw' (mem_added _ pattern kind) hid
      exact ⟨_, mem_requests_add actions pattern kind, rfl⟩
    · obtain ⟨q, hq, heq⟩ := ih w hw
      exact ⟨q, requests_subset actions action hq, heq.trans hpattern⟩

/-- All requests of a run are for these patterns. -/
def Asks (asked : Set WatchPattern) (actions : List WatchAction) : Prop :=
  ∀ pattern kind, .add pattern kind ∈ actions → pattern ∈ asked

lemma Asks.exists_asked {asked : Set WatchPattern} {actions : List WatchAction}
    (h : Asks asked actions) {q : WatchRequest} (hq : q ∈ requests actions) :
    ∃ p ∈ asked, p.normalized = q.pattern := by
  obtain ⟨action, haction, heq⟩ := List.mem_filterMap.mp hq
  cases action with
  | add pattern kind =>
    obtain rfl := Option.some.inj heq
    exact ⟨pattern, h pattern kind haction, rfl⟩
  | _ => cases heq

/-! ### Endpoints of roots -/

/-- After one request all roots have its pattern, and there is one. -/
lemma root_pattern_of_single (p : WatchPattern) (kind : WatchKind) :
    (∃ r ∈ (run [.add p kind]).engine.roots, r.pattern = p.normalized) ∧
      ∀ r ∈ (run [.add p kind]).engine.roots, r.pattern = p.normalized := by
  have hall : ∀ r ∈ (run [.add p kind]).engine.roots, r.pattern = p.normalized := by
    intro r hr
    obtain ⟨q, hq, heq⟩ := exists_request _ r hr
    rw [← heq, List.mem_singleton.mp hq]
  obtain ⟨r, hr, -⟩ := (consistent_run [.add p kind]).sound.served _ (mem_added {} p kind)
  exact ⟨⟨r, hr, hall r hr⟩, hall⟩

/-- The second of two requests is served by the root of the first one, if that covers it. -/
lemma exists_shared_root {p q : WatchPattern} (kind : WatchKind)
    (h : p.normalized.covers q.normalized = true) :
    ∃ w ∈ (run [.add p kind, .add q kind]).engine.watchers,
      ∃ r ∈ (run [.add p kind, .add q kind]).engine.roots,
        r.id = w.root ∧ r.pattern = p.normalized ∧ w.pattern = q.normalized := by
  obtain ⟨⟨first, hfirst, hpattern⟩, hall⟩ := root_pattern_of_single p kind
  have hw := mem_added (run [.add p kind]) q kind
  obtain ⟨r, hr, hid, -⟩ := (consistent_run [.add p kind, .add q kind]).sound.served _ hw
  refine ⟨_, hw, r, hr, hid, ?_, rfl⟩
  have hsound := (consistent_run [.add p kind]).sound
  have hstep : r ∈ ((run [.add p kind]).step (.add q kind)).engine.roots := hr
  rcases root_cases hsound hstep with
    ⟨pattern, kind', haction, hnone, -⟩ | ⟨r, hr, -, heq, -, -⟩
  · obtain ⟨rfl, rfl⟩ := WatchAction.add.inj haction
    rw [← hpattern, hnone first hfirst] at h
    cases h
  · rw [← heq, hall r hr]

lemma Asks.exists_asked_of_watcher {asked : Set WatchPattern} {actions : List WatchAction}
    (h : Asks asked actions) {w : Watcher} (hw : w ∈ (run actions).engine.watchers) :
    ∃ p ∈ asked, p.normalized = w.pattern := by
  obtain ⟨q, hq, hpattern⟩ := exists_request_of_watcher actions w hw
  obtain ⟨p, hp, hnormal⟩ := h.exists_asked hq
  exact ⟨p, hp, hnormal.trans hpattern⟩

lemma Asks.exists_asked_of_root {asked : Set WatchPattern} {actions : List WatchAction}
    (h : Asks asked actions) {r : WatchRoot} (hr : r ∈ (run actions).engine.roots) :
    ∃ p ∈ asked, p.normalized = r.pattern := by
  obtain ⟨q, hq, hpattern⟩ := exists_request actions r hr
  obtain ⟨p, hp, hnormal⟩ := h.exists_asked hq
  exact ⟨p, hp, hnormal.trans hpattern⟩

/-- Watchers and roots keep to one endpoint exactly if no base of a recursive request has that of a
request for another endpoint below it. -/
lemma roots_apart_iff (asked : Set WatchPattern) :
    (∀ actions, Asks asked actions →
      ∀ w ∈ (run actions).engine.watchers, ∀ r ∈ (run actions).engine.roots,
        r.id = w.root → r.pattern.base.endpoint = w.pattern.base.endpoint) ↔
    ∀ p ∈ asked, ∀ q ∈ asked, p.recursive = true →
      q.normalized.base.isWithin p.normalized.base = true →
        p.base.endpoint = q.base.endpoint := by
  constructor
  · intro hkept p hp q hq hrecursive hwithin
    have hcovers : p.normalized.covers q.normalized = true :=
      (WatchPattern.covers_of_recursive (p := p.normalized) hrecursive).trans hwithin
    obtain ⟨w, hw, r, hr, hid, hrp, hwq⟩ := exists_shared_root .all hcovers
    have hasks : Asks asked [.add p .all, .add q .all] := by
      intro pattern kind hmem
      simp only [List.mem_cons, List.not_mem_nil, or_false, WatchAction.add.injEq] at hmem
      rcases hmem with ⟨rfl, -⟩ | ⟨rfl, -⟩
      · exact hp
      · exact hq
    have hsame := hkept _ hasks w hw r hr hid
    rwa [hrp, hwq] at hsame
  · intro hnested actions hasks w hw r hr hid
    have hsound := (consistent_run actions).sound
    obtain ⟨s, hs, hsw, hcovers, -⟩ := hsound.served w hw
    obtain rfl := List.inj_on_of_nodup_map hsound.rootIds hr hs (hid.trans hsw.symm)
    cases hrecursive : r.pattern.recursive with
    | false => rw [((WatchPattern.covers_of_shallow hrecursive).mp hcovers).2]
    | true =>
      obtain ⟨p, hp, hpr⟩ := hasks.exists_asked_of_root hr
      obtain ⟨q, hq, hqw⟩ := hasks.exists_asked_of_watcher hw
      have hwithin := (WatchPattern.covers_of_recursive hrecursive).symm.trans hcovers
      have hasked : p.recursive = true := (congrArg WatchPattern.recursive hpr).trans hrecursive
      rw [← hpr, ← hqw] at hwithin ⊢
      exact hnested p hp q hq hasked hwithin

/-- Events keep to one endpoint exactly if no request sees a file of another one. -/
lemma events_apart_iff (asked : Set WatchPattern) (seen : Set Url) :
    (∀ actions, Asks asked actions → ∀ w ∈ (run actions).engine.watchers,
      ∀ event : FileEvent, event.uri ∈ seen → w.wants event = true →
        event.uri.endpoint = w.pattern.base.endpoint) ↔
    ∀ p ∈ asked, ∀ uri ∈ seen, p.normalized.observes uri = true →
      uri.endpoint = p.base.endpoint := by
  constructor
  · intro hkept p hp uri huri hobserves
    have hasks : Asks asked [.add p .all] := by
      intro pattern kind hmem
      obtain ⟨rfl, -⟩ := WatchAction.add.inj (List.mem_singleton.mp hmem)
      exact hp
    have hall : WatchKind.all.accepts .created = true := by decide
    exact hkept _ hasks _ (mem_added {} p .all) ⟨uri, .created⟩ huri
      (Bool.and_eq_true_iff.mpr ⟨hall, hobserves⟩)
  · intro hobserved actions hasks w hw event hseen hwants
    obtain ⟨p, hp, hpw⟩ := hasks.exists_asked_of_watcher hw
    have hobserves := (Bool.and_eq_true_iff.mp hwants).2
    rw [← hpw] at hobserves ⊢
    exact hobserved p hp event.uri hseen hobserves

/-- **Scheme and host are kept apart, user and port are not.** In every run, the root that serves a
watcher has a base of the same scheme and host, and the very base of the watcher if it is for the
entries of one directory. Events go to the watchers that want them; these have a base of the same
scheme and host, and of two events that differ in user and port alone a watcher wants both or none.
All runs with requests for certain patterns keep watchers and their roots to one endpoint exactly if
no base of a recursive one has that of another endpoint below it, and all events at certain places
reach watchers of their endpoint alone exactly if no pattern sees one of another endpoint. -/
theorem endpoints_run (asked : Set WatchPattern) (seen : Set Url) :
    (∀ actions, ∀ w ∈ (run actions).engine.watchers, ∃ r ∈ (run actions).engine.roots,
      r.id = w.root ∧ r.pattern.base.sameHost w.pattern.base = true ∧
        (r.pattern.recursive = false → r.pattern.base = w.pattern.base)) ∧
    (∀ actions events, (run (actions ++ [.dispatch events])).engine.watchers =
      (run actions).engine.watchers.map fun w =>
        { w with events := w.events ++ events.filter w.wants }) ∧
    (∀ (w : Watcher) (a b : FileEvent),
      (w.wants a = true → a.uri.sameHost w.pattern.base = true) ∧
        (a.Alike b → w.wants a = w.wants b)) ∧
    ((∀ actions, Asks asked actions →
        ∀ w ∈ (run actions).engine.watchers, ∀ r ∈ (run actions).engine.roots,
          r.id = w.root → r.pattern.base.endpoint = w.pattern.base.endpoint) ↔
      ∀ p ∈ asked, ∀ q ∈ asked, p.recursive = true →
        q.normalized.base.isWithin p.normalized.base = true →
          p.base.endpoint = q.base.endpoint) ∧
    ((∀ actions, Asks asked actions → ∀ w ∈ (run actions).engine.watchers,
        ∀ event : FileEvent, event.uri ∈ seen → w.wants event = true →
          event.uri.endpoint = w.pattern.base.endpoint) ↔
      ∀ p ∈ asked, ∀ uri ∈ seen, p.normalized.observes uri = true →
        uri.endpoint = p.base.endpoint) := by
  refine ⟨fun actions w hw => ?_, fun actions events => ?_, fun w a b => ⟨fun hwants => ?_, ?_⟩,
    roots_apart_iff asked, events_apart_iff asked seen⟩
  · obtain ⟨r, hr, hid, hcovers, -⟩ := (consistent_run actions).sound.served w hw
    refine ⟨r, hr, hid, WatchPattern.sameHost_of_covers hcovers, fun hshallow => ?_⟩
    exact ((WatchPattern.covers_of_shallow hshallow).mp hcovers).2.symm
  · rw [run_append]
    rfl
  · exact WatchPattern.sameHost_of_observes (Bool.and_eq_true_iff.mp hwants).2
  · exact fun halike => w.wants_congr halike

/-- A place on a port of a host. -/
def portUrl (port : ℕ) (path : String) : Url :=
  { scheme := "mem", authority := some { host := "h", port := some port }, path }

/-- A directory on one port, a directory with the path of one in it on another port, and a file
that appears there. -/
def portRun : List WatchAction :=
  [.add ⟨portUrl 1 "/a", true⟩ .all, .add ⟨portUrl 2 "/a/b", true⟩ .all, .enable,
    .flush fun _ => true, .dispatch [⟨portUrl 2 "/a/b/x", .created⟩]]

/-- The second watcher is served by the root of the first one, nothing is registered for its port,
and the first one is told of its file. -/
theorem endpoints_run_portRun :
    let h := run portRun
    let asked : Set WatchPattern := {⟨portUrl 1 "/a", true⟩, ⟨portUrl 2 "/a/b", true⟩}
    (∃ w ∈ h.engine.watchers, ∃ r ∈ h.engine.roots,
      r.id = w.root ∧ r.pattern.base.endpoint ≠ w.pattern.base.endpoint) ∧
    h.registrations.map (·.watcher.globPattern.baseUri) = [portUrl 1 "/a"] ∧
    (∃ w ∈ h.engine.watchers, ∃ event ∈ w.events,
      event.uri.endpoint ≠ w.pattern.base.endpoint) ∧
    (¬ ∀ actions, Asks asked actions →
      ∀ w ∈ (run actions).engine.watchers, ∀ r ∈ (run actions).engine.roots,
        r.id = w.root → r.pattern.base.endpoint = w.pattern.base.endpoint) ∧
    ¬ ∀ actions, Asks asked actions → ∀ w ∈ (run actions).engine.watchers,
      ∀ event : FileEvent, event.uri ∈ ({portUrl 2 "/a/b/x"} : Set Url) → w.wants event = true →
        event.uri.endpoint = w.pattern.base.endpoint := by
  intro h asked
  obtain ⟨-, -, -, hroots, hevents⟩ := endpoints_run asked {portUrl 2 "/a/b/x"}
  refine ⟨by decide +kernel, by decide +kernel, by decide +kernel, fun hkept => ?_,
    fun hkept => ?_⟩
  · have hsame := hroots.mp hkept _ (.inl rfl) _ (.inr rfl) rfl (by decide +kernel)
    exact absurd hsame (by decide)
  · have hsame := hevents.mp hkept _ (.inl rfl) _ rfl (by decide +kernel)
    exact absurd hsame (by decide)

end WatchHistory

end ProviderHub
