import ProviderHub.Proofs.Watch.History

/-!
Roots cover what watchers want.

* `WatchHistory.root_covers_watcher`: after every run each watcher has a root that covers it, and the
  client has been asked for exactly what the root now stands for.
-/

namespace ProviderHub

open WatchEngine

/-- A root sees every event that one of its watchers wants. -/
lemma WatchRoot.sees_of_wants {r : WatchRoot} {w : Watcher} {event : FileEvent}
    (hcovers : r.pattern.covers w.pattern = true) (hwithin : w.kind.Within r.kind)
    (hpath : event.uri.path.toList.head? = some '/') (hwants : w.wants event = true) :
    r.pattern.observes event.uri = true ∧ r.kind.accepts event.change = true := by
  rw [Watcher.wants, Bool.and_eq_true] at hwants
  exact ⟨WatchPattern.observes_of_covers hcovers hpath hwants.2, hwithin.accepts hwants.1⟩

namespace WatchHistory

variable {h : WatchHistory}

/-- A number has been sent at most once. -/
lemma Consistent.filter_registrations (hc : h.Consistent) {r : Registration}
    (hr : r ∈ h.registrations) : h.registrations.filter (·.id == r.id) = [r] := by
  have hfind := find?_number_of_mem hc.nodup_numbers hr
  have hperm := (perm_cons_filter_of_find? hc.nodup_numbers hfind).filter (·.id == r.id)
  have hrest : (h.registrations.filter (·.id != r.id)).filter (·.id == r.id) = [] := by
    rw [List.filter_filter, List.filter_eq_nil_iff]
    intro s _
    simp
  rw [List.filter_cons_of_pos (by simp), hrest] at hperm
  exact List.perm_singleton.mp hperm

/-- **Coverage**: after every run, each watcher points to a root that covers its pattern and has every
bit of its kind, so that the root sees every event that the watcher is to get; and under the number
of a registered root the client has been sent one registration, for the base, the depth and the
kind that the root has now. -/
theorem root_covers_watcher (actions : List WatchAction) :
    (∀ w ∈ (run actions).engine.watchers, ∃ r, (run actions).engine.root? w.root = some r ∧
      r.pattern.covers w.pattern = true ∧ w.kind.Within r.kind ∧
      ∀ event : FileEvent, event.uri.path.toList.head? = some '/' → w.wants event = true →
        r.pattern.observes event.uri = true ∧ r.kind.accepts event.change = true) ∧
    ∀ r ∈ (run actions).engine.roots, ∀ id, r.status = .registered id →
      (run actions).registrations.filter (·.id == id) =
        [{ id
           watcher :=
             { globPattern := ⟨r.pattern.base, if r.pattern.recursive then "**/*" else "*"⟩
               kind := some r.kind } }] := by
  have hc := consistent_run actions
  constructor
  · intro w hw
    obtain ⟨r, hr, hid, hcovers, hwithin⟩ := hc.sound.served w hw
    refine ⟨r, hid ▸ root?_of_mem hc.sound.rootIds hr, hcovers, hwithin, ?_⟩
    intro event hpath hwants
    exact WatchRoot.sees_of_wants hcovers hwithin hpath hwants
  · intro r hr id hstatus
    exact hc.filter_registrations (hc.sent r hr id hstatus)

/-- The directory `/a` of a host. -/
def sampleDirectory : Url := { scheme := "mem", authority := some { host := "h" }, path := "/a" }

/-- A second watcher takes over the root of the first one while this is being registered, and a
third one widens the root before it is registered in turn. -/
def mergingRun : List WatchAction :=
  [.enable, .add ⟨{ sampleDirectory with path := "/a/b/" }, false⟩ ⟨1⟩, .flush fun _ => true,
    .add ⟨sampleDirectory, true⟩ ⟨2⟩, .reply 0 true, .add ⟨sampleDirectory, false⟩ ⟨4⟩,
    .flush fun _ => true]

/-- The first watcher of that run, at the root that has taken over. -/
def mergedWatcher : Watcher :=
  { id := 0, root := 1, pattern := ⟨{ sampleDirectory with path := "/a/b" }, false⟩, kind := ⟨1⟩ }

/-- The root of that run. -/
def wideRoot : WatchRoot :=
  { id := 1, pattern := ⟨sampleDirectory, true⟩, kind := ⟨7⟩, refCount := 3, status := .registered 2 }

/-- The first watcher of that run gets a file below its base, the root sees it, and the client has
been asked for the root as it is. -/
theorem root_covers_watcher_mergingRun :
    mergedWatcher ∈ (run mergingRun).engine.watchers ∧
    mergedWatcher.wants ⟨{ sampleDirectory with path := "/a/b/c" }, .created⟩ = true ∧
    (∃ r, (run mergingRun).engine.root? 1 = some r ∧
      r.pattern.observes { sampleDirectory with path := "/a/b/c" } = true ∧
      r.kind.accepts .created = true) ∧
    wideRoot ∈ (run mergingRun).engine.roots ∧
    (run mergingRun).registrations.filter (·.id == 2) =
      [⟨2, { globPattern := ⟨sampleDirectory, "**/*"⟩, kind := some ⟨7⟩ }⟩] := by
  have hwatcher : mergedWatcher ∈ (run mergingRun).engine.watchers := by decide +kernel
  have hroot : wideRoot ∈ (run mergingRun).engine.roots := by decide +kernel
  have hwants : mergedWatcher.wants ⟨{ sampleDirectory with path := "/a/b/c" }, .created⟩ = true := by
    decide +kernel
  obtain ⟨hcovered, hsent⟩ := root_covers_watcher mergingRun
  obtain ⟨r, hr, -, -, hsees⟩ := hcovered mergedWatcher hwatcher
  exact ⟨hwatcher, hwants, ⟨r, hr, hsees _ (by decide) hwants⟩, hroot, hsent wideRoot hroot 2 rfl⟩

end WatchHistory

end ProviderHub
