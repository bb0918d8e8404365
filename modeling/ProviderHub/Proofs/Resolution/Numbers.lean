import Mathlib.Tactic
import ProviderHub.Proofs.Resolution.Eviction
import ProviderHub.Provider.Providers

/-!
Numbers that are never used twice.

Batches and providers go by numbers. A number that has been given may lose what it was given to, but
it is never given to anything else.

* `Numbering.Later`: how numbered things change over time;
* `Numbering.Given`: what a number was given to, which may be gone;
* `Cache.Regular.later_step`, `Registry.Ordered.later_register`,
  `Registry.Ordered.later_unregister`: caches and registries change in that way.
-/

namespace ProviderHub

/-- Numbered things, and the next number. -/
structure Numbering (β : Type) where
  next : Nat
  get? : Nat → Option β

namespace Numbering

variable {β : Type} {t u v : Numbering β} {id : Nat} {value : β}

/-- The things at a later time: those with numbers from before are the same or gone. -/
structure Later (t u : Numbering β) : Prop where
  next_le : t.next ≤ u.next
  kept : ∀ id < t.next, ∀ value, u.get? id = some value → t.get? id = some value

@[refl] lemma Later.refl (t : Numbering β) : Later t t := ⟨le_refl _, fun _ _ _ h => h⟩

lemma Later.trans (h : Later t u) (h' : Later u v) : Later t v where
  next_le := h.next_le.trans h'.next_le
  kept id hid value hvalue :=
    h.kept id hid value (h'.kept id (lt_of_lt_of_le hid h.next_le) value hvalue)

/-- The number has been given to a thing, and has nothing else. -/
structure Given (t : Numbering β) (id : Nat) (value : β) : Prop where
  lt_next : id < t.next
  eq_of_some : ∀ other, t.get? id = some other → other = value

lemma Given.later (hgiven : t.Given id value) (h : Later t u) : u.Given id value where
  lt_next := lt_of_lt_of_le hgiven.lt_next h.next_le
  eq_of_some other hother := hgiven.eq_of_some other (h.kept id hgiven.lt_next other hother)

end Numbering

/-! ### Batches -/

namespace Cache

variable {α : Type} {c : Cache α} {id : CacheId} {batch : List α}

/-- The batches by their numbers. -/
def numbering (c : Cache α) : Numbering (List α) := ⟨c.nextId, c.get?⟩

lemma mem_of_get? (hget : c.get? id = some batch) : (id, batch) ∈ c.entries := by
  obtain ⟨before, after, heq, -⟩ := List.lookup_eq_some_iff.mp hget
  rw [heq]
  exact List.mem_append_right _ (List.mem_cons_self ..)

lemma Ordered.get?_eq (h : c.Ordered) (hmem : (id, batch) ∈ c.entries) :
    c.get? id = some batch := by
  obtain ⟨before, after, heq⟩ := List.append_of_mem hmem
  refine List.lookup_eq_some_iff.mpr ⟨before, after, heq, fun entry hentry => ?_⟩
  have hlt := (List.pairwise_append.mp (heq ▸ h.sorted)).2.2 entry hentry (id, batch)
    (List.mem_cons_self ..)
  exact bne_iff_ne.mpr hlt.ne'

lemma contains_eq (c : Cache α) (id : CacheId) : c.contains id = (c.get? id).isSome := by
  rw [Bool.eq_iff_iff, contains, List.contains_iff_mem, get?, List.lookup_isSome_iff, ids]
  simp

lemma Ordered.given (h : c.Ordered) (hget : c.get? id = some batch) :
    c.numbering.Given id batch where
  lt_next := h.lt_next _ (mem_of_get? hget)
  eq_of_some _ hother := Option.some_inj.mp (hother.symm.trans hget)

/-- Batches of a cache are as they were if it has no others under numbers from before. -/
lemma Ordered.later (h : c.Ordered) {d : Cache α} (hnext : c.nextId ≤ d.nextId)
    (hentries : ∀ entry ∈ d.entries, entry.1 < c.nextId → entry ∈ c.entries) :
    c.numbering.Later d.numbering where
  next_le := hnext
  kept id hid batch hget := h.get?_eq (hentries (id, batch) (mem_of_get? hget) hid)

lemma mem_appended {entry : CacheId × List α} (hentry : entry ∈ (c.appended batch).entries)
    (hlt : entry.1 < c.nextId) : entry ∈ c.entries := by
  refine (List.mem_append.mp hentry).resolve_right fun hnew => ?_
  rw [List.mem_singleton.mp hnew] at hlt
  exact lt_irrefl _ hlt

/-- Whatever happens to a cache, no number is given twice. -/
lemma Regular.later_step (h : c.Regular) (action : CacheAction α) :
    c.numbering.Later (c.step action).numbering := by
  cases action with
  | store batch =>
      rcases store_cases c batch with ⟨due, heq, -⟩ | ⟨-, -, heq⟩
      · refine h.later ?_ ?_
        · rw [Cache.step, heq]
          exact Nat.le_succ _
        · rw [Cache.step, heq]
          exact fun entry hentry hlt => mem_appended hentry hlt
      · obtain ⟨swept, hevict, -⟩ := (h.toOrdered.appended batch).evictOldest_eq
        refine h.later ?_ ?_
        · rw [Cache.step, heq, hevict]
          exact Nat.le_succ _
        · rw [Cache.step, heq, hevict]
          exact fun entry hentry hlt => mem_appended (List.mem_of_mem_drop hentry) hlt
  | delete id => exact h.later le_rfl fun entry hentry _ => List.mem_of_mem_filter hentry
  | sweep =>
      obtain ⟨swept, hevict, -⟩ := h.unscheduled.evictOldest_eq
      refine h.later ?_ ?_
      · rw [Cache.step, Cache.sweep, hevict]
      · rw [Cache.step, Cache.sweep, hevict]
        exact fun entry hentry _ => List.mem_of_mem_drop hentry
  | shutdown => exact h.later le_rfl fun entry hentry _ => hentry
  | get _ => exact .refl _
  | contains _ => exact .refl _

end Cache

/-! ### Providers -/

namespace Registry

variable {π μ : Type} {r : Registry π μ} {entry : Entry π μ}

/-- The providers by their numbers. -/
def numbering (r : Registry π μ) : Numbering (Entry π μ) := ⟨r.nextId, r.get?⟩

/-- Providers are in increasing order of their numbers, all of which come before the next one. -/
structure Ordered (r : Registry π μ) : Prop where
  sorted : r.entries.Pairwise (·.id < ·.id)
  lt_next : ∀ entry ∈ r.entries, entry.id < r.nextId

lemma ordered_empty : Ordered ({} : Registry π μ) := ⟨.nil, by simp⟩

lemma mem_of_get? {id : ProviderId} (hget : r.get? id = some entry) :
    entry ∈ r.entries ∧ entry.id = id := by
  have hid := List.find?_some hget
  exact ⟨List.mem_of_find?_eq_some hget, beq_iff_eq.mp hid⟩

lemma Ordered.get?_eq (h : r.Ordered) (hmem : entry ∈ r.entries) :
    r.get? entry.id = some entry := by
  obtain ⟨before, after, heq⟩ := List.append_of_mem hmem
  refine List.find?_eq_some_iff_append.mpr ⟨beq_self_eq_true _, before, after, heq, ?_⟩
  intro other hother
  have hlt := (List.pairwise_append.mp (heq ▸ h.sorted)).2.2 other hother entry
    (List.mem_cons_self ..)
  exact bne_iff_ne.mpr hlt.ne

lemma Ordered.given (h : r.Ordered) (hmem : entry ∈ r.entries) :
    r.numbering.Given entry.id entry where
  lt_next := h.lt_next entry hmem
  eq_of_some _ hother := Option.some_inj.mp (hother.symm.trans (h.get?_eq hmem))

lemma Ordered.register (h : r.Ordered) (selector : Selector) (provider : π) (metadata : μ) :
    (r.register selector provider metadata).2.Ordered where
  sorted := by
    refine List.pairwise_append.mpr ⟨h.sorted, List.pairwise_singleton _ _, ?_⟩
    intro old hold new hnew
    rw [List.mem_singleton.mp hnew]
    exact h.lt_next old hold
  lt_next entry hentry := by
    rcases List.mem_append.mp hentry with hold | hnew
    · exact Nat.lt_succ_of_lt (h.lt_next entry hold)
    · rw [List.mem_singleton.mp hnew]
      exact Nat.lt_succ_self _

lemma Ordered.unregister (h : r.Ordered) (id : ProviderId) : (r.unregister id).2.Ordered where
  sorted := h.sorted.sublist List.filter_sublist
  lt_next entry hentry := h.lt_next entry (List.mem_of_mem_filter hentry)

/-- Providers of a registry are as they were if it has no others under numbers from before. -/
lemma Ordered.later (h : r.Ordered) {s : Registry π μ} (hnext : r.nextId ≤ s.nextId)
    (hentries : ∀ entry ∈ s.entries, entry.id < r.nextId → entry ∈ r.entries) :
    r.numbering.Later s.numbering where
  next_le := hnext
  kept id hid entry hget := by
    obtain ⟨hmem, rfl⟩ := mem_of_get? hget
    exact h.get?_eq (hentries entry hmem hid)

lemma Ordered.later_register (h : r.Ordered) (selector : Selector) (provider : π) (metadata : μ) :
    r.numbering.Later (r.register selector provider metadata).2.numbering := by
  refine h.later (Nat.le_succ _) fun entry hentry hlt => ?_
  refine (List.mem_append.mp hentry).resolve_right fun hnew => ?_
  rw [List.mem_singleton.mp hnew] at hlt
  exact lt_irrefl _ hlt

lemma Ordered.later_unregister (h : r.Ordered) (id : ProviderId) :
    r.numbering.Later (r.unregister id).2.numbering :=
  h.later le_rfl fun _ hentry _ => List.mem_of_mem_filter hentry

/-! ### Providers that are asked -/

lemma mem_of_mem_matching {d : TextDocument} {accept : μ → Bool} {found : ScoredEntry π μ}
    (hfound : found ∈ r.matching d accept) : found.entry ∈ r.entries := by
  obtain ⟨entry, hentry, hsome⟩ := List.mem_filterMap.mp hfound
  dsimp only at hsome
  split at hsome
  · cases hsome
  · cases hsome
    exact List.mem_of_mem_filter hentry

lemma better_eq (a b : ScoredEntry π μ) : better a b = a ∨ better a b = b := by
  rw [better]
  split
  · exact .inr rfl
  · exact .inl rfl

lemma mem_of_best? {found : List (ScoredEntry π μ)} {best : ScoredEntry π μ}
    (hbest : best? found = some best) : best ∈ found := by
  cases found with
  | nil => cases hbest
  | cons first rest =>
      cases hbest
      induction rest generalizing first with
      | nil => exact List.mem_singleton_self _
      | cons second rest ih =>
          rw [List.foldl_cons]
          have hmem := ih (better first second)
          rcases better_eq first second with heq | heq <;> rw [heq] at hmem ⊢
          · exact List.mem_cons.mpr ((List.mem_cons.mp hmem).imp_right (List.mem_cons_of_mem _))
          · exact List.mem_cons_of_mem _ hmem

end Registry

/-- Only registered providers are asked. -/
lemma Providers.mem_of_route {π : Type} {p : Providers π} {query : DocumentQuery} {d : TextDocument}
    {entries : List (Entry π Metadata)} (hroute : p.route query d = .ok entries)
    {entry : Entry π Metadata} (hentry : entry ∈ entries) :
    entry ∈ (p.registry query.feature).entries := by
  rw [route] at hroute
  split at hroute
  · cases hroute
    obtain ⟨found, hfound, rfl⟩ := List.mem_map.mp hentry
    exact Registry.mem_of_mem_matching hfound
  · split at hroute
    · rename_i hbest
      cases hroute
      rw [List.mem_singleton.mp hentry]
      exact Registry.mem_of_mem_matching (Registry.mem_of_best? hbest)
    · cases hroute

end ProviderHub
