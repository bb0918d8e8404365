import ProviderHub.Proofs.Watch.Flushes
import ProviderHub.Proofs.Watch.Watchers

/-!
Runs of a watch engine.

Watchers come and go, the timer or a caller starts flushes, and the client answers the calls of
flushes in any order, with acceptance or refusal; several flushes wait at the same time. A history
is the engine together with the calls that it has made and what the client has accepted.

* `WatchHistory.step`, `WatchHistory.run`: one action, and a run of actions from the start;
* `WatchHistory.step_cases`: all that an action can do to a history;
* `WatchHistory.step_same`: only watchers that come and go change which roots and watchers there are;
* `WatchHistory.Consistent`: roots and watchers fit together, flushes and registrations have numbers
  of their own, and a registered root has been sent as it is; `consistent_run` says so of all runs.
-/

namespace ProviderHub

open WatchEngine

/-- What can happen to a watch engine. -/
inductive WatchAction where
  | add (pattern : WatchPattern) (kind : WatchKind)
  | dispose (id : WatcherId)
  | enable
  /-- A flush starts and finds these bases on disk. -/
  | flush (onDisk : Url → Bool)
  /-- The client answers the call that a flush is waiting for. -/
  | reply (id : FlushId) (accepted : Bool)
  | dispatch (events : List FileEvent)
  | fetch (id : WatcherId) (count : Nat)
  | shutdown

/-- A call to the client, and the flush that has made it. -/
structure FlushCall where
  flush : FlushId
  call : RegistrarCall
deriving DecidableEq

/-- A watch engine and what has passed between it and the client. -/
structure WatchHistory where
  engine : WatchEngine := {}
  /-- The calls to the client, in their order. -/
  calls : List FlushCall := []
  /-- The registrations that the client has accepted. -/
  accepted : List RegistrationId := []
deriving DecidableEq

namespace WatchHistory

/-- The registrations that have been sent. -/
def registrations (h : WatchHistory) : List Registration :=
  h.calls.flatMap (·.call.registrations)

/-- The registrations that have been taken back. -/
def unregistered (h : WatchHistory) : List RegistrationId :=
  h.calls.flatMap (·.call.unregistered)

/-- The registrations that a flush has sent. -/
def batch (h : WatchHistory) (flush : FlushId) : List RegistrationId :=
  ((h.calls.filter (·.flush == flush)).flatMap (·.call.registrations)).map Registration.id

/-- The registrations of a flush that the client has not answered yet. -/
def awaited (h : WatchHistory) (flush : FlushId) : List RegistrationId :=
  match h.engine.stage? flush with
  | some (.registering _ _) => h.batch flush
  | _ => []

/-- The history after an action. -/
def step (h : WatchHistory) : WatchAction → WatchHistory
  | .add pattern kind => { h with engine := (h.engine.add pattern kind).2 }
  | .dispose id => { h with engine := h.engine.dispose id }
  | .enable => { h with engine := h.engine.enable }
  | .flush onDisk =>
    { h with
      engine := (h.engine.flush onDisk).2
      calls := h.calls ++ (h.engine.flush onDisk).1.toList.map fun c => ⟨c.1, c.2⟩ }
  | .reply id accepted =>
    { engine := (h.engine.reply id accepted).2
      calls := h.calls ++ (h.engine.reply id accepted).1.toList.map (⟨id, ·⟩)
      accepted := h.accepted ++ if accepted then h.awaited id else [] }
  | .dispatch events => { h with engine := (h.engine.dispatch events).2 }
  | .fetch id count => { h with engine := (h.engine.fetch id count).2 }
  | .shutdown => { h with engine := h.engine.shutdown }

/-- The history after a run of actions. -/
def run (actions : List WatchAction) : WatchHistory := actions.foldl step {}

@[simp] lemma run_append (actions : List WatchAction) (action : WatchAction) :
    run (actions ++ [action]) = (run actions).step action := by
  rw [run, List.foldl_append]
  rfl

/-- The history when a flush goes on to take registrations back. -/
def takeBack (h : WatchHistory) (id : FlushId) (ids : List RegistrationId) : WatchHistory :=
  { h with
    engine := (h.engine.takeBack id ids).2
    calls := h.calls ++ (h.engine.takeBack id ids).1.toList.map (⟨id, ·⟩) }

/-! ### All that an action can do -/

/-- An action asks nothing of the client; or it starts a flush, which goes on to what it takes back
or waits for registrations; or it answers registrations; or it ends a flush. -/
lemma step_cases (h : WatchHistory) (hsound : h.engine.Sound) (action : WatchAction) :
    (∃ e, e.Sound ∧ Quiet h.engine e ∧
      (∀ id accepted, action = .reply id accepted → h.engine.stage? id = none) ∧
      h.step action = { h with engine := e }) ∨
    (∃ onDisk assigned e, action = .flush onDisk ∧
      assign onDisk h.engine.pending h.engine.emptied = (assigned, e) ∧
      Assigned h.engine.emptied e assigned ∧
      (assigned = [] ∧
        h.step action =
          takeBack { h with engine := e } h.engine.nextFlush h.engine.pendingUnregister ∨
      h.step action =
        { h with
          engine := { e with flushes := e.flushes ++
            [⟨h.engine.nextFlush,
              .registering (assigned.map Prod.fst) h.engine.pendingUnregister⟩] }
          calls := h.calls ++ [⟨h.engine.nextFlush, .register (assigned.map Prod.snd)⟩] })) ∨
    (∃ id accepted roots unregister, action = .reply id accepted ∧
      h.engine.stage? id = some (.registering roots unregister) ∧
      h.step action =
        takeBack
          { h with
            engine := if accepted then h.engine else h.engine.reject roots
            accepted := h.accepted ++ if accepted then h.batch id else [] }
          id unregister) ∨
    ∃ id accepted, action = .reply id accepted ∧ h.engine.stage? id = some .unregistering ∧
      h.step action = h.takeBack id [] := by
  cases action with
  | add pattern kind =>
      exact .inl ⟨_, hsound.add pattern kind, hsound.add_quiet pattern kind, by simp, rfl⟩
  | dispose id => exact .inl ⟨_, hsound.dispose id, hsound.dispose_quiet id, by simp, rfl⟩
  | enable =>
      exact .inl ⟨_, (hsound.flags h.engine.armed true h.engine.closed).schedule,
        (flags_quiet h.engine h.engine.armed true h.engine.closed).schedule, by simp, rfl⟩
  | dispatch events =>
      exact .inl ⟨_, hsound.dispatch events, dispatch_quiet h.engine events, by simp, rfl⟩
  | fetch id count =>
      exact .inl ⟨_, hsound.fetch id count, fetch_quiet h.engine id count, by simp, rfl⟩
  | shutdown =>
      exact .inl ⟨_, hsound.flags false h.engine.enabled true,
        flags_quiet h.engine false h.engine.enabled true, by simp, rfl⟩
  | flush onDisk =>
      rw [step]
      rcases flush_cases onDisk hsound.rootIds with heq | ⟨assigned, e, hassign, hassigned, heq⟩
      · rw [heq]
        refine .inl ⟨_, hsound.flags false h.engine.enabled h.engine.closed,
          flags_quiet h.engine false h.engine.enabled h.engine.closed, by simp, ?_⟩
        rw [Option.toList_none, List.map_nil, List.append_nil]
      · refine .inr (.inl ⟨onDisk, assigned, e, rfl, hassign, hassigned, ?_⟩)
        rcases heq with ⟨hnil, heq⟩ | heq
        · refine .inl ⟨hnil, ?_⟩
          rw [heq, takeBack]
          cases (e.takeBack h.engine.nextFlush h.engine.pendingUnregister).1 <;> rfl
        · refine .inr ?_
          rw [heq]
          rfl
  | reply id accepted =>
      rw [step]
      rcases reply_cases h.engine id accepted with
        ⟨hstage, heq⟩ | ⟨roots, unregister, hstage, heq⟩ | ⟨hstage, heq⟩
      · refine .inl ⟨_, hsound, .refl h.engine, by simp [hstage], ?_⟩
        have hnone : h.awaited id = [] := by rw [awaited, hstage]
        simp [heq, hnone]
      · refine .inr (.inr (.inl ⟨id, accepted, roots, unregister, rfl, hstage, ?_⟩))
        have hbatch : h.awaited id = h.batch id := by rw [awaited, hstage]
        rw [heq, hbatch]
        rfl
      · refine .inr (.inr (.inr ⟨id, accepted, rfl, hstage, ?_⟩))
        have hnone : h.awaited id = [] := by rw [awaited, hstage]
        simp only [heq, hnone, ite_self, List.append_nil]
        rfl

/-- Only watchers that come and go change roots and watchers, apart from where roots stand with the
client and from events that have not been fetched. -/
lemma step_same (h : WatchHistory) (hsound : h.engine.Sound) (action : WatchAction) :
    (∃ pattern kind, action = .add pattern kind) ∨ (∃ id, action = .dispose id) ∨
      (∀ pattern kind, action ≠ .add pattern kind) ∧ Same h.engine (h.step action).engine := by
  cases action with
  | add pattern kind => exact .inl ⟨pattern, kind, rfl⟩
  | dispose id => exact .inr (.inl ⟨id, rfl⟩)
  | enable =>
      have hflag : Same h.engine { h.engine with enabled := true } := ⟨rfl, rfl, rfl, rfl⟩
      exact .inr (.inr ⟨by simp, hflag.trans (schedule_same _)⟩)
  | dispatch events => exact .inr (.inr ⟨by simp, dispatch_same h.engine events⟩)
  | fetch id count => exact .inr (.inr ⟨by simp, fetch_same h.engine id count⟩)
  | shutdown => exact .inr (.inr ⟨by simp, rfl, rfl, rfl, rfl⟩)
  | flush onDisk => exact .inr (.inr ⟨by simp, flush_same onDisk hsound.rootIds⟩)
  | reply id accepted => exact .inr (.inr ⟨by simp, reply_same h.engine id accepted⟩)

variable {h : WatchHistory}

/-! ### What an action does to watchers and roots -/

/-- A watcher that comes points to the root that it gets. -/
lemma mem_added (h : WatchHistory) (pattern : WatchPattern) (kind : WatchKind) :
    ⟨h.engine.nextWatcher, (h.engine.rootFor pattern.normalized kind).1, pattern.normalized, kind, []⟩ ∈
      (h.step (.add pattern kind)).engine.watchers := by
  have hadded : (h.step (.add pattern kind)).engine.watchers = _ := add_watchers h.engine pattern kind
  rw [hadded]
  exact List.mem_append_right _ (List.mem_singleton_self _)

/-- **What an action can do to a watcher**: it comes and gets its root; or it was there, with the same
pattern and kind, and points to the same root or to a new one that has taken the place of that. -/
lemma watcher_cases (hsound : h.engine.Sound) {action : WatchAction} {w' : Watcher}
    (hw' : w' ∈ (h.step action).engine.watchers) :
    (∃ pattern kind, action = .add pattern kind ∧ w'.id = h.engine.nextWatcher ∧
      w'.root = (h.engine.rootFor pattern.normalized kind).1) ∨
    ∃ w ∈ h.engine.watchers, w.id = w'.id ∧ w.pattern = w'.pattern ∧ w.kind = w'.kind ∧
      (w'.root = w.root ∨
        ∃ pattern kind, ∃ r ∈ h.engine.roots, action = .add pattern kind ∧
          (∀ s ∈ h.engine.roots, s.pattern.covers pattern.normalized = false) ∧
          pattern.normalized.covers r.pattern = true ∧ w.root = r.id ∧
          w'.root = h.engine.nextRoot) := by
  rcases step_same h hsound action with ⟨pattern, kind, rfl⟩ | ⟨id, rfl⟩ | ⟨-, hsame⟩
  · have hadded : (h.step (.add pattern kind)).engine.watchers = _ :=
      add_watchers h.engine pattern kind
    rw [hadded, List.mem_append, List.mem_singleton] at hw'
    rcases hw' with hold | rfl
    · refine .inr ?_
      rcases rootFor_cases h.engine pattern.normalized kind with ⟨r, -, -, heq⟩ | ⟨hnone, heq⟩
      · have hkept : (h.engine.attach r kind).watchers = h.engine.watchers :=
          (congrArg watchers (attach_frame h.engine r kind) :)
        rw [heq, hkept] at hold
        exact ⟨w', hold, rfl, rfl, rfl, .inl rfl⟩
      · rw [heq, merge_watchers] at hold
        obtain ⟨w, hw, rfl⟩ := List.mem_map.mp hold
        obtain ⟨hid, hpattern, hkind⟩ := redirect_plain_eq
          ((h.engine.coveredBy pattern.normalized).map WatchRoot.id) h.engine.nextRoot w
        refine ⟨w, hw, hid.symm, hpattern.symm, hkind.symm, ?_⟩
        rw [redirect_root]
        split
        · rename_i hin
          obtain ⟨r, hr, hroot⟩ := List.mem_map.mp (List.contains_iff_mem.mp hin)
          obtain ⟨hr, hcovers⟩ := List.mem_filter.mp hr
          exact .inr ⟨pattern, kind, r, hr, rfl, hnone, hcovers, hroot.symm, rfl⟩
        · exact .inl rfl
    · exact .inl ⟨pattern, kind, rfl, rfl, rfl⟩
  · have hkept : (h.step (.dispose id)).engine.watchers = h.engine.watchers.filter (·.id != id) :=
      dispose_watchers h.engine id
    rw [hkept] at hw'
    exact .inr ⟨w', List.mem_of_mem_filter hw', rfl, rfl, rfl, .inl rfl⟩
  · obtain ⟨w, hw, heq⟩ := List.mem_map.mp (hsame.watchers ▸ List.mem_map_of_mem hw')
    obtain ⟨hid, hroot, hpattern, hkind⟩ := Watcher.plain_eq_iff.mp heq
    exact .inr ⟨w, hw, hid, hpattern, hkind, .inl hroot.symm⟩

/-- A watcher stays until it is disposed of. -/
lemma watcher_stays (hsound : h.engine.Sound) {action : WatchAction} {w : Watcher}
    (hw : w ∈ h.engine.watchers) (haction : action ≠ .dispose w.id) :
    ∃ w' ∈ (h.step action).engine.watchers,
      w'.id = w.id ∧ w'.pattern = w.pattern ∧ w'.kind = w.kind := by
  rcases step_same h hsound action with ⟨pattern, kind, rfl⟩ | ⟨id, rfl⟩ | ⟨-, hsame⟩
  · have hadded : (h.step (.add pattern kind)).engine.watchers = _ :=
      add_watchers h.engine pattern kind
    rw [hadded]
    rcases rootFor_cases h.engine pattern.normalized kind with ⟨r, -, -, heq⟩ | ⟨-, heq⟩
    · have hkept : (h.engine.attach r kind).watchers = h.engine.watchers :=
        (congrArg watchers (attach_frame h.engine r kind) :)
      rw [heq, hkept]
      exact ⟨w, List.mem_append_left _ hw, rfl, rfl, rfl⟩
    · rw [heq, merge_watchers]
      refine ⟨_, List.mem_append_left _ (List.mem_map_of_mem hw), ?_⟩
      exact redirect_plain_eq _ _ w
  · have hkept : (h.step (.dispose id)).engine.watchers = h.engine.watchers.filter (·.id != id) :=
      dispose_watchers h.engine id
    have hne : w.id ≠ id := fun hid => haction (by rw [hid])
    rw [hkept]
    exact ⟨w, List.mem_filter.mpr ⟨hw, by simpa using hne⟩, rfl, rfl, rfl⟩
  · obtain ⟨w', hw', heq⟩ := List.mem_map.mp (hsame.watchers ▸ List.mem_map_of_mem hw)
    obtain ⟨hid, -, hpattern, hkind⟩ := Watcher.plain_eq_iff.mp heq
    exact ⟨w', hw', hid, hpattern, hkind⟩

/-- **What an action can do to a root**: it is new and takes the place of those that it covers; or it
was there, with the same pattern, its place has not been taken, and it has the same kind or that of
one more watcher that it covers. -/
lemma root_cases (hsound : h.engine.Sound) {action : WatchAction} {r' : WatchRoot}
    (hr' : r' ∈ (h.step action).engine.roots) :
    (∃ pattern kind, action = .add pattern kind ∧
      (∀ s ∈ h.engine.roots, s.pattern.covers pattern.normalized = false) ∧
      r' = h.engine.mergedRoot pattern.normalized kind) ∨
    ∃ r ∈ h.engine.roots, r.id = r'.id ∧ r.pattern = r'.pattern ∧
      (r'.kind = r.kind ∨ ∃ pattern kind, action = .add pattern kind ∧
        r.pattern.covers pattern.normalized = true ∧ r'.kind = r.kind.union kind) ∧
      ∀ pattern kind, action = .add pattern kind →
        (∀ s ∈ h.engine.roots, s.pattern.covers pattern.normalized = false) →
        pattern.normalized.covers r.pattern = false := by
  rcases step_same h hsound action with ⟨pattern, kind, rfl⟩ | ⟨id, rfl⟩ | ⟨hother, hsame⟩
  · have hadded : (h.step (.add pattern kind)).engine.roots =
        (h.engine.rootFor pattern.normalized kind).2.roots :=
      (congrArg roots (add_eq h.engine pattern kind)).trans (schedule_roots _)
    rw [hadded] at hr'
    rcases rootFor_cases h.engine pattern.normalized kind with
      ⟨s, hs, hcovers, heq⟩ | ⟨hnone, heq⟩
    · rw [heq] at hr'
      obtain ⟨t, ht, hplain⟩ := exists_of_plain (attach_plain h.engine s kind) hr'
      obtain ⟨r, hr, rfl⟩ := List.mem_map.mp ht
      obtain ⟨hid, hpattern, hkind, -⟩ := WatchRoot.plain_eq_iff.mp hplain
      rw [attached_id] at hid
      rw [attached_pattern] at hpattern
      refine .inr ⟨r, hr, hid, hpattern, ?_, fun pattern' kind' haction hnone => ?_⟩
      · rw [attached] at hkind
        split at hkind
        · rename_i hrs
          obtain rfl := List.inj_on_of_nodup_map hsound.rootIds hr hs hrs
          exact .inr ⟨pattern, kind, rfl, hcovers, hkind.symm⟩
        · exact .inl hkind.symm
      · obtain ⟨rfl, rfl⟩ := WatchAction.add.inj haction
        rw [hnone s hs] at hcovers
        cases hcovers
    · rw [heq, merge_roots hsound.rootIds] at hr'
      rcases List.mem_append.mp hr' with hold | hnew
      · obtain ⟨hr, hnot⟩ := List.mem_filter.mp hold
        refine .inr ⟨r', hr, rfl, rfl, .inl rfl, fun pattern' kind' haction _ => ?_⟩
        obtain ⟨rfl, rfl⟩ := WatchAction.add.inj haction
        simpa using hnot
      · exact .inl ⟨pattern, kind, rfl, hnone, List.mem_singleton.mp hnew⟩
  · obtain ⟨r, hr, hid, hpattern, hkind⟩ := hsound.mem_dispose_roots hr'
    exact .inr ⟨r, hr, hid, hpattern, .inl hkind.symm, by simp⟩
  · obtain ⟨r, hr, hplain⟩ := exists_of_plain hsame.roots hr'
    obtain ⟨hid, hpattern, hkind, -⟩ := WatchRoot.plain_eq_iff.mp hplain
    exact .inr ⟨r, hr, hid, hpattern, .inl hkind.symm,
      fun pattern kind haction => absurd haction (hother _ _)⟩

/-- Numbers are not given twice. -/
lemma next_le_step (hsound : h.engine.Sound) (action : WatchAction) :
    h.engine.nextRoot ≤ (h.step action).engine.nextRoot ∧
      h.engine.nextWatcher ≤ (h.step action).engine.nextWatcher := by
  rcases step_same h hsound action with ⟨pattern, kind, rfl⟩ | ⟨id, rfl⟩ | ⟨-, hsame⟩
  · exact next_le_add h.engine pattern kind
  · obtain ⟨hroot, hwatcher⟩ := hsound.dispose_next id
    exact ⟨hroot.ge, hwatcher.ge⟩
  · exact ⟨hsame.nextRoot.ge, hsame.nextWatcher.ge⟩

/-! ### Histories that are consistent -/

/-- **What holds of every history**: roots and watchers fit together, flushes have numbers of their
own, registrations are numbered in the order in which they have been sent, a root that is
registered has been sent as it is now, and nothing is accepted that has not been sent. -/
structure Consistent (h : WatchHistory) : Prop where
  sound : h.engine.Sound
  flushIds : (h.engine.flushes.map Flush.id).Nodup
  flush_lt : ∀ f ∈ h.engine.flushes, f.id < h.engine.nextFlush
  call_lt : ∀ c ∈ h.calls, c.flush < h.engine.nextFlush
  numbers : h.registrations.map Registration.id = List.range' 1 h.registrations.length
  next : h.engine.nextRegistration = 1 + h.registrations.length
  sent : ∀ r ∈ h.engine.roots, ∀ n, r.status = .registered n →
    ⟨n, r.pattern.toWatcher r.kind⟩ ∈ h.registrations
  accepted : ∀ n ∈ h.accepted, n ∈ h.registrations.map Registration.id

lemma Consistent.empty : Consistent {} where
  sound := .empty
  flushIds := List.nodup_nil
  flush_lt := by simp
  call_lt := by simp
  numbers := rfl
  next := rfl
  sent := by simp
  accepted := by simp

lemma Consistent.nodup_numbers (hc : h.Consistent) :
    (h.registrations.map Registration.id).Nodup := by
  rw [hc.numbers]
  exact List.nodup_range'

/-- Numbers that have been sent are below the next one. -/
lemma Consistent.number_lt (hc : h.Consistent) {n : RegistrationId}
    (hn : n ∈ h.registrations.map Registration.id) : n < h.engine.nextRegistration := by
  rw [hc.numbers, List.mem_range'_1] at hn
  rw [hc.next]
  exact hn.2

lemma Consistent.quiet {e : WatchEngine} (hc : h.Consistent) (hsound : e.Sound)
    (hquiet : Quiet h.engine e) : Consistent { h with engine := e } where
  sound := hsound
  flushIds := by
    show (e.flushes.map Flush.id).Nodup
    rw [hquiet.flushes]
    exact hc.flushIds
  flush_lt := by
    show ∀ f ∈ e.flushes, f.id < e.nextFlush
    rw [hquiet.flushes, hquiet.nextFlush]
    exact hc.flush_lt
  call_lt := by
    show ∀ c ∈ h.calls, c.flush < e.nextFlush
    rw [hquiet.nextFlush]
    exact hc.call_lt
  numbers := hc.numbers
  next := hquiet.nextRegistration.trans hc.next
  sent r hr n hn := by
    obtain ⟨s, hs, hsn, hpattern, hkind⟩ := hquiet.registered r hr n hn
    rw [← hpattern, ← hkind]
    exact hc.sent s hs n hsn
  accepted := hc.accepted

/-! ### Flushes that go on -/

lemma takeBack_engine_congr {β : Type} (f : WatchEngine → β)
    (hf : ∀ (e : WatchEngine) (fs : List Flush), f { e with flushes := fs } = f e)
    (ht : ∀ e : WatchEngine, f { e with armed := true } = f e)
    (h : WatchHistory) (id : FlushId) (ids : List RegistrationId) :
    f (h.takeBack id ids).engine = f h.engine :=
  takeBack_congr f hf ht h.engine id ids

@[simp] lemma takeBack_registrations (h : WatchHistory) (id : FlushId)
    (ids : List RegistrationId) : (h.takeBack id ids).registrations = h.registrations := by
  rw [registrations, takeBack, List.flatMap_append, takeBack_fst]
  split <;> simp [RegistrarCall.registrations, registrations]

/-- A flush that has a number goes on under it. -/
lemma Consistent.takeBack (hc : h.Consistent) {id : FlushId} (hid : id < h.engine.nextFlush)
    (ids : List RegistrationId) : (h.takeBack id ids).Consistent := by
  have hroots := takeBack_engine_congr roots (fun _ _ => rfl) (fun _ => rfl) h id ids
  have hnextFlush := takeBack_engine_congr nextFlush (fun _ _ => rfl) (fun _ => rfl) h id ids
  have hnext := takeBack_engine_congr nextRegistration (fun _ _ => rfl) (fun _ => rfl) h id ids
  have hflushes : (h.takeBack id ids).engine.flushes = _ := takeBack_flushes h.engine id ids
  refine ⟨?_, ?_, ?_, ?_, ?_, ?_, ?_, ?_⟩
  · exact hc.sound.same (takeBack_same h.engine id ids)
  · rw [hflushes, List.map_append]
    have hrest : ((h.engine.flushes.filter (·.id != id)).map Flush.id).Nodup :=
      hc.flushIds.sublist (List.filter_sublist.map _)
    split
    · simpa using hrest
    · refine List.nodup_append.mpr ⟨hrest, List.nodup_singleton _, ?_⟩
      intro a ha b hb
      obtain ⟨f, hf, rfl⟩ := List.mem_map.mp ha
      rw [List.mem_singleton.mp hb]
      simpa using (List.mem_filter.mp hf).2
  · rw [hflushes, hnextFlush]
    intro f hf
    rcases List.mem_append.mp hf with hf | hf
    · exact hc.flush_lt f (List.mem_of_mem_filter hf)
    · split at hf
      · cases hf
      · rw [List.mem_singleton.mp hf]
        exact hid
  · rw [hnextFlush]
    intro c hcall
    rcases List.mem_append.mp hcall with hcall | hcall
    · exact hc.call_lt c hcall
    · obtain ⟨call, -, rfl⟩ := List.mem_map.mp hcall
      exact hid
  · rw [takeBack_registrations]
    exact hc.numbers
  · rw [takeBack_registrations, hnext]
    exact hc.next
  · rw [takeBack_registrations, hroots]
    exact hc.sent
  · rw [takeBack_registrations]
    exact hc.accepted

/-- A flush that has given numbers to roots has sent these roots as they are. -/
lemma Consistent.assigned (hc : h.Consistent) {e : WatchEngine}
    {assigned : List (RootId × Registration)} (ha : Assigned h.engine.emptied e assigned)
    (calls : List FlushCall) (hcalls : ∀ c ∈ calls, c.flush = h.engine.nextFlush)
    (hsent : calls.flatMap (·.call.registrations) = assigned.map Prod.snd) :
    Consistent { h with engine := e, calls := h.calls ++ calls } := by
  have hflushes := ha.flushes
  have hnextFlush : e.nextFlush = h.engine.nextFlush + 1 := (congrArg nextFlush ha.frame :)
  have hregistrations : registrations { h with engine := e, calls := h.calls ++ calls } =
      h.registrations ++ assigned.map Prod.snd := by
    rw [registrations, List.flatMap_append, hsent]
    rfl
  refine ⟨?_, ?_, ?_, ?_, ?_, ?_, ?_, ?_⟩
  · exact hc.sound.same ((emptied_same h.engine).trans ha.same)
  · show (e.flushes.map Flush.id).Nodup
    rw [hflushes]
    exact hc.flushIds
  · show ∀ f ∈ e.flushes, f.id < e.nextFlush
    rw [hflushes, hnextFlush]
    exact fun f hf => Nat.lt_succ_of_lt (hc.flush_lt f hf)
  · show ∀ c ∈ h.calls ++ calls, c.flush < e.nextFlush
    rw [hnextFlush]
    intro c hcall
    rcases List.mem_append.mp hcall with hcall | hcall
    · exact Nat.lt_succ_of_lt (hc.call_lt c hcall)
    · rw [hcalls c hcall]
      exact Nat.lt_succ_self _
  · have hnew : (assigned.map Prod.snd).map Registration.id =
        List.range' h.engine.nextRegistration assigned.length := by
      rw [List.map_map]
      exact ha.numbers
    rw [hregistrations, List.map_append, hnew, hc.numbers, hc.next, List.length_append,
      List.length_map, List.range'_append_1]
  · rw [hregistrations, List.length_append, List.length_map]
    show e.nextRegistration = _
    rw [ha.next, ← Nat.add_assoc, ← hc.next]
    rfl
  · rw [hregistrations]
    intro r hr n hn
    rw [List.mem_append]
    exact (ha.sent r hr n hn).imp (fun hmem => hc.sent r hmem n hn) id
  · rw [hregistrations, List.map_append]
    exact fun n hn => List.mem_append_left _ (hc.accepted n hn)

/-- A flush that waits takes a number that no other one has. -/
lemma Consistent.waiting (hc : h.Consistent) {f : Flush} (hid : f.id < h.engine.nextFlush)
    (hnew : ∀ g ∈ h.engine.flushes, g.id < f.id) :
    Consistent { h with engine := { h.engine with flushes := h.engine.flushes ++ [f] } } where
  sound := hc.sound.same ⟨rfl, rfl, rfl, rfl⟩
  flushIds := by
    rw [List.map_append]
    refine nodup_append_next hc.flushIds fun id hmem => ?_
    obtain ⟨g, hg, rfl⟩ := List.mem_map.mp hmem
    exact hnew g hg
  flush_lt := by
    intro g hg
    rcases List.mem_append.mp hg with hg | hg
    · exact hc.flush_lt g hg
    · rw [List.mem_singleton.mp hg]
      exact hid
  call_lt := hc.call_lt
  numbers := hc.numbers
  next := hc.next
  sent := hc.sent
  accepted := hc.accepted

lemma mem_registrations_of_mem_batch {id : FlushId} {n : RegistrationId} (hn : n ∈ h.batch id) :
    n ∈ h.registrations.map Registration.id := by
  obtain ⟨r, hr, rfl⟩ := List.mem_map.mp hn
  obtain ⟨c, hc, hrc⟩ := List.mem_flatMap.mp hr
  exact List.mem_map_of_mem (List.mem_flatMap.mpr ⟨c, List.mem_of_mem_filter hc, hrc⟩)

/-- An answer marks roots as rejected or notes what has been accepted. -/
lemma Consistent.answered (hc : h.Consistent) (id : FlushId) (roots : List RootId)
    (accepted : Bool) :
    Consistent
      { h with
        engine := if accepted then h.engine else h.engine.reject roots
        accepted := h.accepted ++ if accepted then h.batch id else [] } := by
  cases accepted with
  | true =>
      refine ⟨hc.sound, hc.flushIds, hc.flush_lt, hc.call_lt, hc.numbers, hc.next, hc.sent, ?_⟩
      intro n hn
      rcases List.mem_append.mp hn with hn | hn
      · exact hc.accepted n hn
      · exact mem_registrations_of_mem_batch hn
  | false =>
      refine ⟨hc.sound.same ⟨reject_plain _ _, rfl, rfl, rfl⟩, hc.flushIds, hc.flush_lt, hc.call_lt,
        hc.numbers, hc.next, ?_, ?_⟩
      · intro r hr n hn
        obtain ⟨s, hs, rfl⟩ := List.mem_map.mp hr
        split at hn
        · cases hn
        · rename_i hne
          rw [if_neg hne]
          exact hc.sent s hs n hn
      · intro n hn
        exact hc.accepted n (by simpa using hn)

lemma Consistent.stage_lt (hc : h.Consistent) {id : FlushId} {stage : FlushStage}
    (hstage : h.engine.stage? id = some stage) : id < h.engine.nextFlush := by
  obtain ⟨f, hf, -⟩ := Option.map_eq_some_iff.mp hstage
  have hid : f.id = id := by simpa using List.find?_some hf
  rw [← hid]
  exact hc.flush_lt f (List.mem_of_find?_eq_some hf)

/-! ### Every run is consistent -/

lemma consistent_step (hc : h.Consistent) (action : WatchAction) : (h.step action).Consistent := by
  rcases step_cases h hc.sound action with
    ⟨e, hsound, hquiet, -, heq⟩ | ⟨onDisk, assigned, e, -, -, ha, heq⟩ |
    ⟨id, accepted, roots, unregister, -, hstage, heq⟩ | ⟨id, accepted, -, hstage, heq⟩
  · rw [heq]
    exact hc.quiet hsound hquiet
  · have hnextFlush : e.nextFlush = h.engine.nextFlush + 1 := (congrArg nextFlush ha.frame :)
    have hlt : h.engine.nextFlush < e.nextFlush := hnextFlush ▸ Nat.lt_succ_self _
    rcases heq with ⟨rfl, heq⟩ | heq
    · have hstart := hc.assigned ha [] (by simp) rfl
      rw [List.append_nil] at hstart
      rw [heq]
      exact hstart.takeBack hlt _
    · have hstart := hc.assigned ha [⟨h.engine.nextFlush, .register (assigned.map Prod.snd)⟩]
        (by simp) (by simp [RegistrarCall.registrations])
      have hflushes := ha.flushes
      rw [heq]
      refine hstart.waiting hlt ?_
      show ∀ g ∈ e.flushes, _
      rw [hflushes]
      exact hc.flush_lt
  · rw [heq]
    have hanswered := hc.answered id roots accepted
    refine hanswered.takeBack ?_ _
    have hlt := hc.stage_lt hstage
    cases accepted <;> exact hlt
  · rw [heq]
    exact hc.takeBack (hc.stage_lt hstage) []

/-- Every run leads to a consistent history. -/
theorem consistent_run (actions : List WatchAction) : (run actions).Consistent := by
  induction actions using List.reverseRecOn with
  | nil => exact .empty
  | append_singleton actions action ih =>
      rw [run_append]
      exact consistent_step ih action

end WatchHistory

end ProviderHub
