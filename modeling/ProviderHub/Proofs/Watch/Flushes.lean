import ProviderHub.Proofs.Watch.Roots

/-!
What a flush does to a watch engine.

* `assign_assigned`: the first half of a flush gives new numbers in order to pending roots, sends
  each root as it is, and changes nothing else;
* `flush_cases`, `reply_cases`: all that the start of a flush and an answer to it can do;
* `flush_same`, `reply_same`: which roots and watchers there are, they leave alone.
-/

namespace ProviderHub

open List (Perm)

/-- The registrations that a call asks the client for. -/
def RegistrarCall.registrations : RegistrarCall → List Registration
  | .register registrations => registrations
  | .unregister _ => []

/-- The registrations that a call takes back. -/
def RegistrarCall.unregistered : RegistrarCall → List RegistrationId
  | .register _ => []
  | .unregister ids => ids

/-- The registrations that a flush holds, to take them back next. -/
def Flush.toUnregister (f : Flush) : List RegistrationId :=
  match f.stage with
  | .registering _ unregister => unregister
  | .unregistering => []

namespace WatchEngine

variable {e : WatchEngine}

/-! ### Giving numbers to roots -/

/-- What giving numbers to roots does: the numbers are the next ones in order, each root that has one
of them is sent as it is, and nothing but numbers and the status of roots has changed. -/
structure Assigned (e e' : WatchEngine) (assigned : List (RootId × Registration)) : Prop where
  numbers : assigned.map (·.2.id) = List.range' e.nextRegistration assigned.length
  next : e'.nextRegistration = e.nextRegistration + assigned.length
  frame : e'.frame = { e.frame with nextRegistration := e'.nextRegistration }
  pending : e'.pending = e.pending
  pendingUnregister : e'.pendingUnregister = e.pendingUnregister
  plain : e'.roots.map WatchRoot.plain = e.roots.map WatchRoot.plain
  current : (e'.roots.flatMap registrationOf).Perm
    (e.roots.flatMap registrationOf ++ assigned.map (·.2.id))
  sent : ∀ r ∈ e'.roots, ∀ n, r.status = .registered n →
    r ∈ e.roots ∨ ⟨n, r.pattern.toWatcher r.kind⟩ ∈ assigned.map Prod.snd

lemma Assigned.refl (e : WatchEngine) : Assigned e e [] where
  numbers := rfl
  next := rfl
  frame := rfl
  pending := rfl
  pendingUnregister := rfl
  plain := rfl
  current := by simp
  sent _ hr _ _ := .inl hr

/-- Giving a pending root another status adds the registration of that status, if it has one. -/
lemma updateRoot_status_perm {r : WatchRoot} (hnodup : (e.roots.map WatchRoot.id).Nodup)
    (hr : e.root? r.id = some r) (hpending : r.status = .pending) (status : RootStatus) :
    ((e.updateRoot r.id ({ · with status })).roots.flatMap registrationOf).Perm
      (registrationOf { r with status } ++ e.roots.flatMap registrationOf) := by
  have hafter := (map_perm_cons_filter_of_find? ({ · with status }) hnodup hr).flatMap_right
    registrationOf
  have hbefore := (perm_cons_filter_of_find? hnodup hr).flatMap_right registrationOf
  rw [List.flatMap_cons] at hbefore hafter
  have hnone : registrationOf r = [] := by rw [registrationOf, hpending]
  rw [hnone] at hbefore
  exact hafter.trans (hbefore.symm.append_left _)

/-- Noting that a pending root is not on disk gives no number. -/
lemma Assigned.vanish {e e' : WatchEngine} {assigned : List (RootId × Registration)} {r : WatchRoot}
    (hnodup : (e.roots.map WatchRoot.id).Nodup) (hr : e.root? r.id = some r)
    (hpending : r.status = .pending)
    (h : Assigned (e.updateRoot r.id ({ · with status := .vanished })) e' assigned) :
    Assigned e e' assigned where
  numbers := h.numbers
  next := h.next
  frame := h.frame
  pending := h.pending
  pendingUnregister := h.pendingUnregister
  plain := h.plain.trans (updateRoot_status_plain e _ _)
  current :=
    h.current.trans ((updateRoot_status_perm hnodup hr hpending .vanished).append_right _)
  sent s hs n hn := by
    rcases h.sent s hs n hn with hmem | hmem
    · obtain ⟨t, ht, rfl⟩ := List.mem_map.mp hmem
      split at hn
      · cases hn
      · rename_i hne
        rw [if_neg hne]
        exact .inl ht
    · exact .inr hmem

/-- A pending root that is on disk is sent as it is, under the next number. -/
lemma Assigned.register {e e' : WatchEngine} {assigned : List (RootId × Registration)}
    {r : WatchRoot} (hnodup : (e.roots.map WatchRoot.id).Nodup) (hr : e.root? r.id = some r)
    (hpending : r.status = .pending)
    (h : Assigned { e.updateRoot r.id ({ · with status := .registered e.nextRegistration }) with
      nextRegistration := e.nextRegistration + 1 } e' assigned) :
    Assigned e e' ((r.id, ⟨e.nextRegistration, r.pattern.toWatcher r.kind⟩) :: assigned) where
  numbers := by
    rw [List.map_cons, h.numbers, List.length_cons, List.range'_succ]
  next := by
    rw [h.next, List.length_cons]
    exact Nat.add_right_comm _ _ _
  frame := h.frame
  pending := h.pending
  pendingUnregister := h.pendingUnregister
  plain := h.plain.trans (updateRoot_status_plain e _ _)
  current := by
    have hroot := updateRoot_status_perm hnodup hr hpending (.registered e.nextRegistration)
    rw [List.map_cons]
    exact h.current.trans ((hroot.append_right _).trans List.perm_middle.symm)
  sent s hs n hn := by
    rcases h.sent s hs n hn with hmem | hmem
    · obtain ⟨t, ht, rfl⟩ := List.mem_map.mp hmem
      split at hn
      · -- this is the root that got the number
        rename_i heq
        have htr : t = r := List.inj_on_of_nodup_map hnodup ht (root?_eq_some hr).1 heq
        rw [if_pos heq, htr, ← RootStatus.registered.inj hn]
        exact .inr (List.mem_cons_self ..)
      · rename_i hne
        rw [if_neg hne]
        exact .inl ht
    · exact .inr (List.mem_cons_of_mem _ hmem)

lemma assign_assigned (onDisk : Url → Bool) (ids : List RootId) (e : WatchEngine)
    (hnodup : (e.roots.map WatchRoot.id).Nodup) :
    Assigned e (assign onDisk ids e).2 (assign onDisk ids e).1 := by
  induction ids generalizing e with
  | nil => exact .refl e
  | cons id ids ih =>
      rw [assign]
      split
      · exact ih e hnodup
      · rename_i r hr
        obtain ⟨-, rfl⟩ := root?_eq_some hr
        split
        · exact ih e hnodup
        · rename_i hpending
          rw [not_not] at hpending
          have hids (status : RootStatus) : ((e.updateRoot r.id ({ · with status })).roots.map
              WatchRoot.id).Nodup := by
            rwa [map_id_eq_of_plain (updateRoot_status_plain e r.id status)]
          split
          · exact .register hnodup hr hpending (ih _ (hids _))
          · exact .vanish hnodup hr hpending (ih _ (hids _))

/-! ### Taking registrations back -/

/-- What a flush is waiting for. -/
def stage? (e : WatchEngine) (id : FlushId) : Option FlushStage :=
  (e.flushes.find? (·.id == id)).map Flush.stage

lemma takeBack_fst (e : WatchEngine) (id : FlushId) (ids : List RegistrationId) :
    (e.takeBack id ids).1 = if ids.isEmpty then none else some (.unregister ids) := by
  rw [takeBack]
  split <;> rfl

lemma takeBack_flushes (e : WatchEngine) (id : FlushId) (ids : List RegistrationId) :
    (e.takeBack id ids).2.flushes =
      e.flushes.filter (·.id != id) ++ if ids.isEmpty then [] else [⟨id, .unregistering⟩] := by
  rw [takeBack]
  split
  · rw [List.append_nil]
    exact schedule_congr flushes (fun _ => rfl) _
  · rfl

/-- The flush that takes registrations back waits for the answer to that, or has ended. -/
lemma takeBack_stage? (e : WatchEngine) (id : FlushId) (ids : List RegistrationId)
    (flush : FlushId) :
    (e.takeBack id ids).2.stage? flush =
      if flush = id then if ids.isEmpty then none else some .unregistering
      else e.stage? flush := by
  rw [stage?, takeBack_flushes, List.find?_append]
  by_cases hflush : flush = id
  · have hgone : (e.flushes.filter (·.id != id)).find? (·.id == flush) = none := by
      rw [List.find?_eq_none]
      intro f hf
      simpa [hflush] using (List.mem_filter.mp hf).2
    rw [if_pos hflush, hgone, Option.none_or]
    split <;> simp [hflush]
  · have hkept : (e.flushes.filter (·.id != id)).find? (·.id == flush) =
        e.flushes.find? (·.id == flush) := by
      rw [List.find?_filter]
      congr 1
      funext f
      by_cases hf : f.id = flush <;> simp [hf, hflush]
    have hlast : (if ids.isEmpty then [] else [(⟨id, .unregistering⟩ : Flush)]).find?
        (·.id == flush) = none := by
      split <;> simp [Ne.symm hflush]
    rw [if_neg hflush, hkept, hlast, Option.or_none, stage?]

/-- A flush that starts to wait comes after the others. -/
lemma waiting_stage? {f : Flush} (hnew : ∀ g ∈ e.flushes, g.id < f.id) (flush : FlushId) :
    stage? { e with flushes := e.flushes ++ [f] } flush =
      if flush = f.id then some f.stage else e.stage? flush := by
  rw [stage?, List.find?_append]
  by_cases hflush : flush = f.id
  · have hnone : e.flushes.find? (·.id == flush) = none := by
      rw [List.find?_eq_none]
      intro g hg
      simpa [hflush] using Nat.ne_of_lt (hnew g hg)
    rw [if_pos hflush, hnone]
    simp [hflush]
  · have hlast : [f].find? (·.id == flush) = none := by simp [Ne.symm hflush]
    rw [if_neg hflush, hlast, Option.or_none, stage?]

/-- Taking registrations back changes nothing but the flushes and the timer. -/
lemma takeBack_congr {β : Type} (f : WatchEngine → β)
    (hf : ∀ (e : WatchEngine) (fs : List Flush), f { e with flushes := fs } = f e)
    (ht : ∀ e : WatchEngine, f { e with armed := true } = f e)
    (e : WatchEngine) (id : FlushId) (ids : List RegistrationId) :
    f (e.takeBack id ids).2 = f e := by
  rw [takeBack]
  split
  · exact (schedule_congr f ht _).trans (hf e _)
  · exact hf e _

/-- The flush that takes registrations back no longer holds them: they are in its call. -/
lemma takeBack_unregistered (e : WatchEngine) (id : FlushId) (ids : List RegistrationId) :
    (e.takeBack id ids).2.flushes.flatMap Flush.toUnregister ++
        (e.takeBack id ids).1.toList.flatMap RegistrarCall.unregistered =
      (e.flushes.filter (·.id != id)).flatMap Flush.toUnregister ++ ids := by
  rw [takeBack_fst, takeBack_flushes]
  cases ids with
  | nil => simp
  | cons n ids => simp [RegistrarCall.unregistered, Flush.toUnregister]

/-! ### All that a flush can do -/

/-- The engine when a flush has taken what was queued for it. -/
def emptied (e : WatchEngine) : WatchEngine :=
  { e with armed := false, pending := [], pendingUnregister := [], nextFlush := e.nextFlush + 1 }

lemma Assigned.flushes {e' : WatchEngine} {assigned : List (RootId × Registration)}
    (h : Assigned e.emptied e' assigned) : e'.flushes = e.flushes :=
  (congrArg WatchEngine.flushes h.frame :)

/-- A flush does nothing; or it has no root to register and goes on to what it takes back; or it asks
for registrations and waits. -/
lemma flush_cases (onDisk : Url → Bool) (hnodup : (e.roots.map WatchRoot.id).Nodup) :
    e.flush onDisk = (none, { e with armed := false }) ∨
    ∃ assigned e', assign onDisk e.pending e.emptied = (assigned, e') ∧
      Assigned e.emptied e' assigned ∧
      (assigned = [] ∧
        e.flush onDisk =
          ((e'.takeBack e.nextFlush e.pendingUnregister).1.map (e.nextFlush, ·),
            (e'.takeBack e.nextFlush e.pendingUnregister).2) ∨
      e.flush onDisk =
        (some (e.nextFlush, .register (assigned.map Prod.snd)),
          { e' with flushes := e'.flushes ++
              [⟨e.nextFlush, .registering (assigned.map Prod.fst) e.pendingUnregister⟩] })) := by
  have hassigned := assign_assigned onDisk e.pending e.emptied hnodup
  rw [flush]
  simp only
  split
  · exact .inl rfl
  · refine .inr ⟨(assign onDisk e.pending e.emptied).1, (assign onDisk e.pending e.emptied).2, rfl,
      hassigned, ?_⟩
    split
    · rename_i hnil
      exact .inl ⟨List.isEmpty_iff.mp hnil, rfl⟩
    · exact .inr rfl

/-- An answer means nothing to an engine without such a flush; after an answer to a registration the
flush goes on to what it takes back; after the other one it ends. -/
lemma reply_cases (e : WatchEngine) (id : FlushId) (accepted : Bool) :
    (e.stage? id = none ∧ e.reply id accepted = (none, e)) ∨
    (∃ roots unregister, e.stage? id = some (.registering roots unregister) ∧
      e.reply id accepted = (if accepted then e else e.reject roots).takeBack id unregister) ∨
    (e.stage? id = some .unregistering ∧ e.reply id accepted = e.takeBack id []) := by
  rw [reply, stage?]
  split
  · rename_i h
    exact .inl ⟨by rw [h]; rfl, rfl⟩
  · rename_i f h
    split
    · rename_i roots unregister hstage
      exact .inr (.inl ⟨roots, unregister, by rw [h, Option.map_some, hstage], rfl⟩)
    · rename_i hstage
      exact .inr (.inr ⟨by rw [h, Option.map_some, hstage], rfl⟩)

/-! ### Roots and watchers during flushes -/

lemma takeBack_same (e : WatchEngine) (id : FlushId) (ids : List RegistrationId) :
    Same e (e.takeBack id ids).2 where
  roots := congrArg (List.map WatchRoot.plain)
    (takeBack_congr WatchEngine.roots (fun _ _ => rfl) (fun _ => rfl) e id ids)
  watchers := congrArg (List.map Watcher.plain)
    (takeBack_congr WatchEngine.watchers (fun _ _ => rfl) (fun _ => rfl) e id ids)
  nextRoot := takeBack_congr WatchEngine.nextRoot (fun _ _ => rfl) (fun _ => rfl) e id ids
  nextWatcher := takeBack_congr WatchEngine.nextWatcher (fun _ _ => rfl) (fun _ => rfl) e id ids

lemma Assigned.same {e' : WatchEngine} {assigned : List (RootId × Registration)}
    (h : Assigned e e' assigned) : Same e e' where
  roots := h.plain
  watchers := (congrArg (fun f : WatchEngine => f.watchers.map Watcher.plain) h.frame :)
  nextRoot := (congrArg WatchEngine.nextRoot h.frame :)
  nextWatcher := (congrArg WatchEngine.nextWatcher h.frame :)

lemma emptied_same (e : WatchEngine) : Same e e.emptied := ⟨rfl, rfl, rfl, rfl⟩

lemma flush_same (onDisk : Url → Bool) (hnodup : (e.roots.map WatchRoot.id).Nodup) :
    Same e (e.flush onDisk).2 := by
  rcases flush_cases onDisk hnodup with heq | ⟨assigned, e', -, ha, heq⟩
  · rw [heq]
    exact ⟨rfl, rfl, rfl, rfl⟩
  · have hstart : Same e e' := (emptied_same e).trans ha.same
    rcases heq with ⟨-, heq⟩ | heq
    · rw [heq]
      exact hstart.trans (takeBack_same e' _ _)
    · rw [heq]
      exact ⟨hstart.roots, hstart.watchers, hstart.nextRoot, hstart.nextWatcher⟩

lemma reply_same (e : WatchEngine) (id : FlushId) (accepted : Bool) :
    Same e (e.reply id accepted).2 := by
  rcases reply_cases e id accepted with ⟨-, heq⟩ | ⟨roots, unregister, -, heq⟩ | ⟨-, heq⟩
  · rw [heq]
    exact ⟨rfl, rfl, rfl, rfl⟩
  · rw [heq]
    refine Same.trans ?_ (takeBack_same _ id unregister)
    cases accepted with
    | true => exact ⟨rfl, rfl, rfl, rfl⟩
    | false => exact ⟨reject_plain e roots, rfl, rfl, rfl⟩
  · rw [heq]
    exact takeBack_same e id []

end WatchEngine

end ProviderHub
