import Mathlib.Tactic
import ProviderHub.Resolution.Cache

/-!
Which batches a bounded cache keeps.

A sweep walks over numbers, not over batches: it passes those that have been deleted, goes on where
the last sweep ended, and stops when the rest fits. What makes it remove the oldest batches and no
others is that all batches lie between the last number that has been swept and the next one.

* `Cache.Ordered`, `Cache.Regular`: that, and that too many batches mean that a sweep is due;
* `Cache.Ordered.evictOldest_eq`: eviction keeps the newest batches, as many as fit;
* `Cache.newest_kept`: what holds of a cache after every run.
-/

namespace ProviderHub

/-- What can happen to a cache. -/
inductive CacheAction (α : Type) where
  | store (batch : List α)
  | get (id : CacheId)
  | contains (id : CacheId)
  | delete (id : CacheId)
  | sweep
  | shutdown

namespace Cache

variable {α : Type} {c : Cache α}

/-- The cache after an action. -/
def step (c : Cache α) : CacheAction α → Cache α
  | .store batch => (c.store batch).2
  | .get _ => c
  | .contains _ => c
  | .delete id => (c.delete id).2
  | .sweep => c.sweep
  | .shutdown => c.shutdown

/-- The cache after a run of actions. -/
def run (capacity : Nat) (timed : Bool) (actions : List (CacheAction α)) : Cache α :=
  actions.foldl step { capacity, timed }

lemma run_append (capacity : Nat) (timed : Bool) (actions : List (CacheAction α))
    (action : CacheAction α) :
    run capacity timed (actions ++ [action]) = (run capacity timed actions).step action := by
  rw [run, List.foldl_append]
  rfl

/-! ### Batches in order -/

/-- Batches are in increasing order of their numbers, all of which lie between the last one that has
been swept and the next one. -/
structure Ordered (c : Cache α) : Prop where
  sorted : c.entries.Pairwise (·.1 < ·.1)
  swept_lt : ∀ entry ∈ c.entries, c.lastSwept < entry.1
  lt_next : ∀ entry ∈ c.entries, entry.1 < c.nextId
  lastSwept_lt : c.lastSwept < c.nextId

/-- The cache when the next number has been swept. -/
def passed (c : Cache α) : Cache α :=
  { c with
    lastSwept := c.lastSwept + 1
    entries := c.entries.filter (·.1 != c.lastSwept + 1) }

lemma evict_succ (steps : Nat) (c : Cache α) :
    evict (steps + 1) c = if c.capacity < c.size then evict steps c.passed else c :=
  rfl

lemma Ordered.passed (h : c.Ordered) (hnext : c.lastSwept + 1 < c.nextId) : c.passed.Ordered where
  sorted := h.sorted.sublist List.filter_sublist
  swept_lt entry hentry := by
    obtain ⟨hmem, hne⟩ := List.mem_filter.mp hentry
    exact lt_of_le_of_ne (h.swept_lt entry hmem) (bne_iff_ne.mp hne).symm
  lt_next entry hentry := h.lt_next entry (List.mem_of_mem_filter hentry)
  lastSwept_lt := hnext

/-- Sweeping one number of an overfull cache takes out the oldest batch, or none. -/
lemma Ordered.drop_passed (h : c.Ordered) (hfull : c.capacity < c.size) :
    c.passed.entries.drop (c.passed.size - c.capacity) =
      c.entries.drop (c.size - c.capacity) := by
  cases hentries : c.entries with
  | nil => simp [Cache.passed, hentries]
  | cons first rest =>
      have hsorted := hentries ▸ h.sorted
      rw [List.pairwise_cons] at hsorted
      have hfirst := h.swept_lt first (by simp [hentries])
      have hrest : rest.filter (·.1 != c.lastSwept + 1) = rest := by
        refine List.filter_eq_self.mpr fun entry hentry => ?_
        have hlt := hsorted.1 entry hentry
        rw [bne_iff_ne]
        exact (Nat.lt_of_le_of_lt hfirst hlt).ne'
      by_cases heq : first.1 = c.lastSwept + 1
      · have hpassed : c.passed.entries = rest := by
          simp [Cache.passed, hentries, heq, hrest]
        have hsize : c.size = rest.length + 1 := by rw [size, hentries, List.length_cons]
        rw [size, hpassed, hsize, show rest.length + 1 - c.capacity =
          rest.length - c.capacity + 1 by omega, List.drop_succ_cons]
      · have hpassed : c.passed.entries = first :: rest := by
          simp [Cache.passed, hentries, heq, hrest]
        rw [size, size, hpassed, hentries]

/-- Eviction that may sweep all numbers keeps the newest batches, as many as fit. -/
lemma Ordered.evict_eq (h : c.Ordered) {steps : Nat} (hsteps : c.lastSwept + steps + 1 = c.nextId) :
    ∃ swept, evict steps c =
        { c with lastSwept := swept, entries := c.entries.drop (c.size - c.capacity) } ∧
      (evict steps c).Ordered := by
  induction steps generalizing c with
  | zero =>
      -- there is no number left, and so no batch
      have hempty : c.entries = [] := by
        refine List.eq_nil_iff_forall_not_mem.mpr fun entry hentry => ?_
        have hlower := h.swept_lt entry hentry
        have hupper := h.lt_next entry hentry
        rw [← hsteps] at hupper
        exact Nat.not_lt_of_le hlower hupper
      refine ⟨c.lastSwept, ?_, h⟩
      rw [hempty, List.drop_nil, ← hempty]
      rfl
  | succ steps ih =>
      rw [evict_succ]
      split
      · rename_i hfull
        have hsteps' : c.lastSwept + 1 + steps + 1 = c.nextId := by
          rw [← hsteps, Nat.add_right_comm c.lastSwept 1 steps]
          rfl
        have hnext : c.lastSwept + 1 < c.nextId := by
          rw [← hsteps', Nat.add_assoc _ steps]
          exact Nat.lt_add_of_pos_right (Nat.succ_pos _)
        obtain ⟨swept, heq, hordered⟩ := ih (h.passed hnext) hsteps'
        refine ⟨swept, ?_, hordered⟩
        rw [heq, ← h.drop_passed hfull]
        rfl
      · rename_i hfits
        refine ⟨c.lastSwept, ?_, h⟩
        rw [show c.size - c.capacity = 0 by omega, List.drop_zero]

lemma Ordered.evictOldest_eq (h : c.Ordered) :
    ∃ swept, c.evictOldest =
        { c with lastSwept := swept, entries := c.entries.drop (c.size - c.capacity) } ∧
      c.evictOldest.Ordered := by
  refine h.evict_eq ?_
  rw [Nat.add_sub_cancel' (Nat.le_sub_one_of_lt h.lastSwept_lt)]
  exact Nat.succ_pred_eq_of_pos (Nat.zero_lt_of_lt h.lastSwept_lt)

/-! ### What an action does -/

/-- **What holds of every cache**: its batches are in order, and if there are too many of them, a
sweep is due, unless the cache has been shut down. -/
structure Regular (c : Cache α) : Prop extends c.Ordered where
  due_timed : c.sweepDue = true → c.timed = true
  overfull : c.capacity < c.size → c.closed = false → c.sweepDue = true

lemma Regular.unscheduled (h : c.Regular) : Ordered { c with sweepDue := false } :=
  ⟨h.sorted, h.swept_lt, h.lt_next, h.lastSwept_lt⟩

/-- The cache with one more batch. -/
def appended (c : Cache α) (batch : List α) : Cache α :=
  { c with nextId := c.nextId + 1, entries := c.entries ++ [(c.nextId, batch)] }

lemma Ordered.appended (h : c.Ordered) (batch : List α) : (c.appended batch).Ordered where
  sorted := by
    refine List.pairwise_append.mpr ⟨h.sorted, List.pairwise_singleton _ _, ?_⟩
    intro entry hentry new hnew
    rw [List.mem_singleton.mp hnew]
    exact h.lt_next entry hentry
  swept_lt entry hentry := by
    rcases List.mem_append.mp hentry with hold | hnew
    · exact h.swept_lt entry hold
    · rw [List.mem_singleton.mp hnew]
      exact h.lastSwept_lt
  lt_next entry hentry := by
    rcases List.mem_append.mp hentry with hold | hnew
    · exact Nat.lt_succ_of_lt (h.lt_next entry hold)
    · rw [List.mem_singleton.mp hnew]
      exact Nat.lt_succ_self _
  lastSwept_lt := Nat.lt_succ_of_lt h.lastSwept_lt

/-- A cache that stores a batch has room for it, or a sweep has been or is now due, or it has been
shut down; or it has no clock, and evicts the oldest batches at once. -/
lemma store_cases (c : Cache α) (batch : List α) :
    (∃ due, (c.store batch).2 = { c.appended batch with sweepDue := due } ∧
      (due = true → c.sweepDue = true ∨ c.timed = true) ∧
      (c.capacity < (c.appended batch).size → c.closed = false → due = true)) ∨
    (c.timed = false ∧ c.closed = false ∧
      (c.store batch).2 = (c.appended batch).evictOldest) := by
  show (∃ due, (c.appended batch).scheduleSweep = _ ∧ _) ∨
    (_ ∧ _ ∧ (c.appended batch).scheduleSweep = _)
  rw [scheduleSweep]
  split
  · rename_i hcond
    split
    · rename_i htimed
      exact .inl ⟨true, rfl, fun _ => .inr htimed, fun _ _ => rfl⟩
    · rename_i htimed
      exact .inr ⟨(Bool.not_eq_true _).mp htimed, (Bool.not_eq_true' _).mp hcond.2.2, rfl⟩
  · rename_i hcond
    refine .inl ⟨c.sweepDue, rfl, .inl, fun hfull hopen => ?_⟩
    by_contra hdue
    exact hcond ⟨hfull, by simp [appended, hdue], by simp [appended, hopen]⟩

/-- A cache whose batches are the newest ones of another one, as many as fit. -/
lemma Ordered.evictOldest_size (h : c.Ordered) :
    c.evictOldest.size = min c.capacity c.size := by
  obtain ⟨swept, heq, -⟩ := h.evictOldest_eq
  rw [heq, size, List.length_drop]
  show c.size - (c.size - c.capacity) = _
  omega

lemma Regular.evictOldest (hordered : c.Ordered) (hdue : c.sweepDue = true → c.timed = true) :
    c.evictOldest.Regular := by
  have hsize := hordered.evictOldest_size
  obtain ⟨swept, heq, hkept⟩ := hordered.evictOldest_eq
  refine ⟨hkept, ?_, fun hfull => ?_⟩
  · rw [heq]
    exact hdue
  · have hcapacity : c.evictOldest.capacity = c.capacity := by rw [heq]
    omega

lemma Regular.store (h : c.Regular) (batch : List α) : (c.store batch).2.Regular := by
  have happended := h.toOrdered.appended batch
  rcases store_cases c batch with ⟨due, heq, hdue, hfull⟩ | ⟨-, -, heq⟩
  · rw [heq]
    refine ⟨⟨happended.sorted, happended.swept_lt, happended.lt_next, happended.lastSwept_lt⟩, ?_,
      hfull⟩
    exact fun htrue => (hdue htrue).elim h.due_timed id
  · rw [heq]
    exact .evictOldest happended h.due_timed

lemma Regular.delete (h : c.Regular) (id : CacheId) : (c.delete id).2.Regular where
  sorted := h.sorted.sublist List.filter_sublist
  swept_lt entry hentry := h.swept_lt entry (List.mem_of_mem_filter hentry)
  lt_next entry hentry := h.lt_next entry (List.mem_of_mem_filter hentry)
  lastSwept_lt := h.lastSwept_lt
  due_timed := h.due_timed
  overfull hfull := h.overfull (lt_of_lt_of_le hfull (List.length_filter_le _ _))

lemma Regular.sweep (h : c.Regular) : c.sweep.Regular :=
  .evictOldest h.unscheduled (by simp)

lemma Regular.shutdown (h : c.Regular) : c.shutdown.Regular :=
  ⟨⟨h.sorted, h.swept_lt, h.lt_next, h.lastSwept_lt⟩, by simp [Cache.shutdown],
    by simp [Cache.shutdown]⟩

lemma Regular.step (h : c.Regular) (action : CacheAction α) : (c.step action).Regular := by
  cases action with
  | store batch => exact h.store batch
  | get _ => exact h
  | contains _ => exact h
  | delete id => exact h.delete id
  | sweep => exact h.sweep
  | shutdown => exact h.shutdown

lemma regular_run (capacity : Nat) (timed : Bool) (actions : List (CacheAction α)) :
    (run capacity timed actions).Regular := by
  induction actions using List.reverseRecOn with
  | nil =>
      exact ⟨⟨.nil, by simp [run], by simp [run], Nat.one_pos⟩, by simp [run], by simp [run, size]⟩
  | append_singleton actions action ih =>
      rw [run_append]
      exact ih.step action

/-! ### Batches that disappear -/

lemma Ordered.evictOldest_ids (h : c.Ordered) :
    c.evictOldest.ids = c.ids.drop (c.size - c.capacity) := by
  obtain ⟨swept, heq, -⟩ := h.evictOldest_eq
  rw [heq, ids, ids, List.map_drop]

/-- When a batch is evicted, the cache is full of newer ones. -/
lemma Ordered.newer_of_evicted (h : c.Ordered) {id : CacheId} (hmem : id ∈ c.ids)
    (hnot : id ∉ c.evictOldest.ids) :
    c.capacity ≤ (c.evictOldest.ids.filter (id < ·)).length := by
  rw [h.evictOldest_ids] at hnot ⊢
  have hsorted : c.ids.Pairwise (· < ·) := List.pairwise_map.mpr h.sorted
  have hlength : c.ids.length = c.size := List.length_map _
  rw [← List.take_append_drop (c.size - c.capacity) c.ids] at hmem hsorted
  have hold : id ∈ c.ids.take (c.size - c.capacity) := (List.mem_append.mp hmem).resolve_right hnot
  have hnewer := (List.pairwise_append.mp hsorted).2.2 id hold
  have hall : (c.ids.drop (c.size - c.capacity)).filter (id < ·) =
      c.ids.drop (c.size - c.capacity) :=
    List.filter_eq_self.mpr fun other hother => by simpa using hnewer other hother
  have hpos : 0 < (c.ids.take (c.size - c.capacity)).length := List.length_pos_of_mem hold
  rw [hall, List.length_drop, hlength]
  rw [List.length_take, hlength] at hpos
  omega

/-- A batch disappears only if it is deleted or if the cache is full of newer ones. -/
lemma Regular.newer_of_gone (h : c.Regular) {action : CacheAction α} {id : CacheId}
    (hmem : id ∈ c.ids) (hnot : id ∉ (c.step action).ids) :
    action = .delete id ∨
      ((action = .sweep ∨ (∃ batch, action = .store batch) ∧ c.timed = false ∧ c.closed = false) ∧
        c.capacity ≤ ((c.step action).ids.filter (id < ·)).length) := by
  cases action with
  | store batch =>
      have hmem' : id ∈ (c.appended batch).ids := by
        rw [appended, ids, List.map_append]
        exact List.mem_append_left _ hmem
      rcases store_cases c batch with ⟨due, heq, -⟩ | ⟨htimed, hopen, heq⟩
      · rw [Cache.step, heq] at hnot
        exact absurd hmem' hnot
      · rw [Cache.step, heq] at hnot ⊢
        refine .inr ⟨.inr ⟨⟨batch, rfl⟩, htimed, hopen⟩, ?_⟩
        exact (h.toOrdered.appended batch).newer_of_evicted hmem' hnot
  | delete other =>
      refine .inl (congrArg CacheAction.delete ?_)
      by_contra hne
      obtain ⟨entry, hentry, rfl⟩ := List.mem_map.mp hmem
      refine hnot (List.mem_map_of_mem (List.mem_filter.mpr ⟨hentry, ?_⟩))
      simpa using Ne.symm hne
  | sweep =>
      exact .inr ⟨.inl rfl, h.unscheduled.newer_of_evicted hmem hnot⟩
  | _ => exact absurd hmem hnot

/-- Eviction only takes away, and gives no number. -/
lemma Ordered.evictOldest_subset (h : c.Ordered) :
    c.evictOldest.ids ⊆ c.ids ∧ c.evictOldest.nextId = c.nextId := by
  constructor
  · rw [h.evictOldest_ids]
    exact List.drop_subset _ _
  · obtain ⟨swept, heq, -⟩ := h.evictOldest_eq
    rw [heq]

/-- A number that has been given and has no batch never gets one again. -/
lemma Regular.notMem_step (h : c.Regular) {id : CacheId} (hlt : id < c.nextId) (hnot : id ∉ c.ids)
    (action : CacheAction α) : id < (c.step action).nextId ∧ id ∉ (c.step action).ids := by
  cases action with
  | store batch =>
      have hlt' : id < (c.appended batch).nextId := Nat.lt_succ_of_lt hlt
      have hnot' : id ∉ (c.appended batch).ids := by
        rw [appended, ids, List.map_append, List.mem_append]
        rintro (hold | hnew)
        · exact hnot hold
        · exact Nat.ne_of_lt hlt (List.mem_singleton.mp hnew)
      rcases store_cases c batch with ⟨due, heq, -⟩ | ⟨-, -, heq⟩
      · rw [Cache.step, heq]
        exact ⟨hlt', hnot'⟩
      · obtain ⟨hsubset, hnext⟩ := (h.toOrdered.appended batch).evictOldest_subset
        rw [Cache.step, heq, hnext]
        exact ⟨hlt', fun hmem => hnot' (hsubset hmem)⟩
  | delete other =>
      refine ⟨hlt, fun hmem => hnot ?_⟩
      exact List.map_subset _ (List.filter_subset_self _) hmem
  | sweep =>
      obtain ⟨hsubset, hnext⟩ := h.unscheduled.evictOldest_subset
      exact ⟨hnext ▸ hlt, fun hmem => hnot (hsubset hmem)⟩
  | _ => exact ⟨hlt, hnot⟩

/-! ### Caches after a run -/

lemma Regular.step_limits (h : c.Regular) (action : CacheAction α) :
    (c.step action).capacity = c.capacity ∧ (c.step action).timed = c.timed := by
  cases action with
  | store batch =>
      rcases store_cases c batch with ⟨due, heq, -⟩ | ⟨-, -, heq⟩
      · rw [Cache.step, heq]
        exact ⟨rfl, rfl⟩
      · obtain ⟨swept, hevict, -⟩ := (h.toOrdered.appended batch).evictOldest_eq
        rw [Cache.step, heq, hevict]
        exact ⟨rfl, rfl⟩
  | sweep =>
      obtain ⟨swept, hevict, -⟩ := h.unscheduled.evictOldest_eq
      rw [Cache.step, Cache.sweep, hevict]
      exact ⟨rfl, rfl⟩
  | _ => exact ⟨rfl, rfl⟩

lemma run_limits (capacity : Nat) (timed : Bool) (actions : List (CacheAction α)) :
    (run capacity timed actions).capacity = capacity ∧
      (run capacity timed actions).timed = timed := by
  induction actions using List.reverseRecOn with
  | nil => exact ⟨rfl, rfl⟩
  | append_singleton actions action ih =>
      rw [run_append, ((regular_run capacity timed actions).step_limits action).1,
        ((regular_run capacity timed actions).step_limits action).2]
      exact ih

lemma notMem_run (capacity : Nat) (timed : Bool) (actions later : List (CacheAction α))
    {id : CacheId} (hlt : id < (run capacity timed actions).nextId)
    (hnot : id ∉ (run capacity timed actions).ids) :
    id < (run capacity timed (actions ++ later)).nextId ∧
      id ∉ (run capacity timed (actions ++ later)).ids := by
  induction later using List.reverseRecOn with
  | nil =>
      rw [List.append_nil]
      exact ⟨hlt, hnot⟩
  | append_singleton later action ih =>
      rw [← List.append_assoc, run_append]
      exact (regular_run capacity timed (actions ++ later)).notMem_step ih.1 ih.2 action

/-- A cache that may not sweep at once keeps all batches when it stores one. -/
lemma store_entries (hkept : c.timed = true ∨ c.closed = true) (batch : List α) :
    (c.store batch).2.entries = c.entries ++ [(c.nextId, batch)] := by
  rcases store_cases c batch with ⟨due, heq, -⟩ | ⟨htimed, hopen, -⟩
  · rw [heq]
    rfl
  · simp [htimed, hopen] at hkept

/-- A cache without a clock keeps the newest batches when it stores one, as many as fit. -/
lemma Regular.store_entries_untimed (h : c.Regular) (huntimed : c.timed = false)
    (hopen : c.closed = false) (batch : List α) :
    (c.store batch).2.entries =
      (c.entries ++ [(c.nextId, batch)]).drop (c.size + 1 - c.capacity) := by
  have hsize : (c.appended batch).size = c.size + 1 := List.length_append
  rcases store_cases c batch with ⟨due, heq, hdue, hfull⟩ | ⟨-, -, heq⟩
  · have hfits : c.size + 1 ≤ c.capacity := by
      by_contra hover
      have htimed : c.timed = true :=
        (hdue (hfull (hsize ▸ not_le.mp hover) hopen)).elim h.due_timed id
      rw [huntimed] at htimed
      cases htimed
    rw [heq, Nat.sub_eq_zero_of_le hfits]
    rfl
  · obtain ⟨swept, hevict, -⟩ := (h.toOrdered.appended batch).evictOldest_eq
    rw [heq, hevict, hsize]
    rfl

/-- A cache without a clock has room for what it stores, by sweeping at once. -/
lemma Regular.store_size (h : c.Regular) (huntimed : c.timed = false) (hopen : c.closed = false)
    (batch : List α) : (c.store batch).2.size ≤ c.capacity := by
  rw [size, h.store_entries_untimed huntimed hopen, List.length_drop, List.length_append]
  show c.size + 1 - (c.size + 1 - c.capacity) ≤ _
  omega

/-- **The newest batches are kept**: after every run, all numbers of batches lie between the last
one that has been swept and the next one. A sweep keeps the newest batches, as many as fit, as they
are. So does a store without a clock, as long as the cache is not shut down; every other one keeps
all batches. A batch disappears only if it is deleted, or in a sweep, which may be that of a store,
when the cache is full of newer ones; and its number is never used again. As long as the cache is
not shut down, too many batches mean that a sweep is due, and without a clock there are never too
many. -/
theorem newest_kept (capacity : Nat) (timed : Bool) (actions : List (CacheAction α)) :
    let c := run capacity timed actions
    (∀ id ∈ c.ids, c.lastSwept < id ∧ id < c.nextId) ∧
    (c.entries.Pairwise (·.1 < ·.1) ∧ c.sweep.entries = c.entries.drop (c.size - capacity) ∧
      c.sweep.size = min capacity c.size) ∧
    (∀ action, ∀ id ∈ c.ids, id ∉ (c.step action).ids →
      action = .delete id ∨
        ((action = .sweep ∨ (∃ batch, action = .store batch) ∧ timed = false ∧ c.closed = false) ∧
          capacity ≤ ((c.step action).ids.filter (id < ·)).length)) ∧
    (∀ batch, (timed = true ∨ c.closed = true →
        (c.store batch).2.entries = c.entries ++ [(c.nextId, batch)]) ∧
      (timed = false → c.closed = false → (c.store batch).2.entries =
        (c.entries ++ [(c.nextId, batch)]).drop (c.size + 1 - capacity))) ∧
    (∀ id < c.nextId, id ∉ c.ids → ∀ later, id ∉ (run capacity timed (actions ++ later)).ids) ∧
    (timed = true → c.closed = false → capacity < c.size → c.sweepDue = true) ∧
    (timed = false → c.closed = false → ∀ batch, (c.store batch).2.size ≤ capacity) := by
  intro c
  have h : c.Regular := regular_run capacity timed actions
  obtain ⟨hcapacity, htimed⟩ : c.capacity = capacity ∧ c.timed = timed :=
    run_limits capacity timed actions
  obtain ⟨swept, hsweep, -⟩ := h.unscheduled.evictOldest_eq
  refine ⟨?_, ⟨h.sorted, ?_, ?_⟩, ?_, fun batch => ⟨?_, ?_⟩, ?_, ?_, ?_⟩
  · intro id hid
    obtain ⟨entry, hentry, rfl⟩ := List.mem_map.mp hid
    exact ⟨h.swept_lt entry hentry, h.lt_next entry hentry⟩
  · rw [sweep, hsweep, ← hcapacity]
    rfl
  · rw [← hcapacity]
    exact h.unscheduled.evictOldest_size
  · intro action id hmem hnot
    rw [← hcapacity, ← htimed]
    exact h.newer_of_gone hmem hnot
  · rw [← htimed]
    exact fun hkept => store_entries hkept batch
  · rw [← htimed, ← hcapacity]
    exact fun huntimed hopen => h.store_entries_untimed huntimed hopen batch
  · intro id hlt hnot later
    exact (notMem_run capacity timed actions later hlt hnot).2
  · intro _ hopen hfull
    exact h.overfull (hcapacity ▸ hfull) hopen
  · intro huntimed hopen batch
    rw [← hcapacity]
    exact h.store_size (htimed.trans huntimed) hopen batch

/-- With room for one batch, the first one is swept after the second one has come, and does not come
back with a third one. Without a clock it goes at once. -/
theorem newest_kept_two :
    1 ∈ (run 1 true [.store ['a'], .store ['b']]).ids ∧
    (run 1 true [.store ['a'], .store ['b']]).sweepDue = true ∧
    (run 1 true [.store ['a'], .store ['b']]).sweep.entries = [(2, ['b'])] ∧
    1 ∉ (run 1 true [.store ['a'], .store ['b'], .sweep, .store ['c']]).ids ∧
    ((run 1 true [.store ['a']]).store ['b']).2.entries = [(1, ['a']), (2, ['b'])] ∧
    ((run 1 false [.store ['a']]).store ['b']).2.entries = [(2, ['b'])] ∧
    ((run 1 false [.store ['a']]).store ['b']).2.size ≤ 1 := by
  obtain ⟨-, ⟨-, hsweep, -⟩, -, -, -, hdue, -⟩ := newest_kept 1 true [.store ['a'], .store ['b']]
  obtain ⟨-, -, -, -, hgone, -, -⟩ := newest_kept 1 true [.store ['a'], .store ['b'], .sweep]
  obtain ⟨-, -, -, hkept, -, -, -⟩ := newest_kept 1 true [.store ['a']]
  obtain ⟨-, -, -, hstored, -, -, hroom⟩ := newest_kept 1 false [.store ['a']]
  exact ⟨by decide, hdue rfl rfl (by decide), hsweep,
    hgone 1 (by decide) (by decide) [.store ['c']], (hkept ['b']).1 (.inl rfl),
    (hstored ['b']).2 rfl rfl, hroom rfl rfl ['b']⟩

/-- A cache without a clock that has been shut down keeps more batches than fit. -/
theorem overfull_after_shutdown :
    ¬ (run 1 false [.shutdown, .store ['a'], .store ['b']]).size ≤ 1 := by
  decide

end Cache

end ProviderHub
