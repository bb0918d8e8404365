import ProviderHub.Proofs.Resolution.Binding

/-!
The table of documents and their batches.

A binder keeps the table beside a cache that drops batches on its own, so the table may still have
batches that are gone, until it is pruned.

* `Binder.Recorded`: the table has a batch under a document;
* `Binder.recorded_prune`, `Binder.recorded_record`: what pruning and recording do to that;
* `Binder.release_get?_eq_none`, `Binder.release_get?_eq`: a release deletes what the table has
  under the document, and nothing else;
* `Binder.recorded_of_bindFor`, `Binder.recorded_bindFor`: the table when a batch is added.
-/

namespace ProviderHub

namespace Cache

variable {α : Type} {c : Cache α} {id : CacheId}

lemma Ordered.nodup_ids (h : c.Ordered) : c.ids.Nodup :=
  List.pairwise_map.mpr (h.sorted.imp Nat.ne_of_lt)

lemma Ordered.get?_eq_some_iff (h : c.Ordered) {batch : List α} :
    c.get? id = some batch ↔ (id, batch) ∈ c.entries :=
  ⟨mem_of_get?, h.get?_eq⟩

lemma Regular.store_nextId (h : c.Regular) (batch : List α) :
    (c.store batch).2.nextId = c.nextId + 1 := by
  rcases store_cases c batch with ⟨due, heq, -⟩ | ⟨-, -, heq⟩
  · rw [heq]
    rfl
  · rw [heq, (h.toOrdered.appended batch).evictOldest_subset.2]
    rfl

/-- Deleting a batch tells by how many batches the cache gets smaller. -/
lemma Ordered.delete_size (h : c.Ordered) (id : CacheId) :
    (c.delete id).1.toNat + (c.delete id).2.size = c.size := by
  have hids : (c.delete id).2.ids = c.ids.erase id := by
    rw [h.nodup_ids.erase_eq_filter, ids, ids, List.filter_map]
    rfl
  have hsize (d : Cache α) : d.size = d.ids.length := (List.length_map _).symm
  rw [hsize, hsize, hids, List.length_erase]
  show (c.ids.contains id).toNat + _ = _
  by_cases hmem : id ∈ c.ids
  · have hpos := List.length_pos_of_mem hmem
    rw [List.contains_iff_mem.mpr hmem, if_pos hmem, Bool.toNat_true]
    omega
  · rw [List.contains_eq_mem, decide_eq_false hmem, if_neg hmem, Bool.toNat_false, Nat.zero_add]

end Cache

namespace Binder

/-! ### The table of documents -/

section table

variable {owned : List (Url × List CacheId)} {u uri : Url} {id new : CacheId}

/-- A table has a batch under a document. -/
def Recorded (owned : List (Url × List CacheId)) (uri : Url) (id : CacheId) : Prop :=
  ∃ ids, (uri, ids) ∈ owned ∧ id ∈ ids

/-- A table has each document once. -/
def Keyed (owned : List (Url × List CacheId)) : Prop := (owned.map Prod.fst).Nodup

lemma recorded_prune {α : Type} {cache : Cache α} :
    Recorded (prune cache owned) uri id ↔ Recorded owned uri id ∧ cache.contains id = true := by
  constructor
  · rintro ⟨ids, hpruned, hid⟩
    obtain ⟨⟨uri, all⟩, hall, heq⟩ := List.mem_map.mp (List.mem_of_mem_filter hpruned)
    cases heq
    obtain ⟨hid, hcached⟩ := List.mem_filter.mp hid
    exact ⟨⟨all, hall, hid⟩, hcached⟩
  · rintro ⟨⟨ids, hids, hid⟩, hcached⟩
    have hkept : id ∈ ids.filter cache.contains := List.mem_filter.mpr ⟨hid, hcached⟩
    refine ⟨_, List.mem_filter.mpr ⟨List.mem_map_of_mem hids, ?_⟩, hkept⟩
    exact Bool.not_eq_true' _ ▸ List.isEmpty_eq_false_iff.mpr (List.ne_nil_of_mem hkept)

lemma recorded_record :
    Recorded (record uri new owned) u id ↔ Recorded owned u id ∨ u = uri ∧ id = new := by
  rw [record]
  split
  · rename_i hany
    obtain ⟨⟨v, known⟩, hknown, hv⟩ := List.any_eq_true.mp hany
    obtain rfl : v = uri := beq_iff_eq.mp hv
    constructor
    · rintro ⟨ids, hmem, hid⟩
      obtain ⟨⟨w, old⟩, hold, heq⟩ := List.mem_map.mp hmem
      dsimp only at heq
      split at heq
      · rename_i hw
        cases heq
        rcases List.mem_append.mp hid with hid | hid
        · exact .inl ⟨old, hold, hid⟩
        · exact .inr ⟨hw, List.mem_singleton.mp hid⟩
      · cases heq
        exact .inl ⟨ids, hold, hid⟩
    · rintro (⟨ids, hmem, hid⟩ | ⟨rfl, rfl⟩)
      · by_cases hu : u = v
        · refine ⟨ids ++ [new], ?_, List.mem_append_left _ hid⟩
          exact List.mem_map.mpr ⟨(u, ids), hmem, if_pos hu⟩
        · exact ⟨ids, List.mem_map.mpr ⟨(u, ids), hmem, if_neg hu⟩, hid⟩
      · refine ⟨known ++ [id], ?_, List.mem_append_right _ (List.mem_singleton_self _)⟩
        exact List.mem_map.mpr ⟨(u, known), hknown, if_pos rfl⟩
  · constructor
    · rintro ⟨ids, hmem, hid⟩
      rcases List.mem_append.mp hmem with hmem | hmem
      · exact .inl ⟨ids, hmem, hid⟩
      · cases List.mem_singleton.mp hmem
        exact .inr ⟨rfl, List.mem_singleton.mp hid⟩
    · rintro (⟨ids, hmem, hid⟩ | ⟨rfl, rfl⟩)
      · exact ⟨ids, List.mem_append_left _ hmem, hid⟩
      · exact ⟨[id], List.mem_append_right _ (List.mem_singleton_self _), List.mem_singleton_self _⟩

lemma recorded_filter :
    Recorded (owned.filter (·.1 != uri)) u id ↔ u ≠ uri ∧ Recorded owned u id := by
  constructor
  · rintro ⟨ids, hmem, hid⟩
    obtain ⟨hmem, hne⟩ := List.mem_filter.mp hmem
    exact ⟨bne_iff_ne.mp hne, ids, hmem, hid⟩
  · rintro ⟨hne, ids, hmem, hid⟩
    exact ⟨ids, List.mem_filter.mpr ⟨hmem, bne_iff_ne.mpr hne⟩, hid⟩

lemma Keyed.filter (h : Keyed owned) (p : Url × List CacheId → Bool) : Keyed (owned.filter p) :=
  List.Nodup.sublist (List.filter_sublist.map _) h

lemma Keyed.prune {α : Type} (h : Keyed owned) (cache : Cache α) : Keyed (prune cache owned) := by
  refine Keyed.filter ?_ _
  rw [Keyed, List.map_map]
  exact h

lemma Keyed.record (h : Keyed owned) (uri : Url) (new : CacheId) :
    Keyed (record uri new owned) := by
  rw [Binder.record]
  split
  · have hkeys : Prod.fst ∘ (fun ((u, ids) : Url × List CacheId) =>
        if u = uri then (u, ids ++ [new]) else (u, ids)) = Prod.fst := by
      funext ⟨u, ids⟩
      dsimp only [Function.comp]
      split <;> rfl
    rw [Keyed, List.map_map, hkeys]
    exact h
  · rename_i hnone
    rw [Keyed, List.map_append]
    refine List.Nodup.append h (List.nodup_singleton _) ?_
    rw [List.map_singleton, List.disjoint_singleton]
    intro hmem
    obtain ⟨entry, hentry, heq⟩ := List.mem_map.mp hmem
    exact hnone (List.any_eq_true.mpr ⟨entry, hentry, beq_iff_eq.mpr heq⟩)

/-- What is found for a document is what the table has under it. -/
lemma Keyed.mem_lookup_iff (h : Keyed owned) :
    id ∈ (owned.lookup uri).getD [] ↔ Recorded owned uri id := by
  constructor
  · intro hid
    cases hfound : owned.lookup uri with
    | none =>
        rw [hfound] at hid
        cases hid
    | some ids =>
        rw [hfound] at hid
        obtain ⟨before, after, heq, -⟩ := List.lookup_eq_some_iff.mp hfound
        exact ⟨ids, heq ▸ List.mem_append_right _ (List.mem_cons_self ..), hid⟩
  · rintro ⟨ids, hmem, hid⟩
    obtain ⟨before, after, rfl⟩ := List.append_of_mem hmem
    rw [Keyed, List.map_append, List.map_cons] at h
    have hfound : (before ++ (uri, ids) :: after).lookup uri = some ids := by
      refine List.lookup_eq_some_iff.mpr ⟨before, after, rfl, fun entry hentry => ?_⟩
      refine bne_iff_ne.mpr fun heq => ?_
      exact List.disjoint_of_nodup_append h (List.mem_map_of_mem hentry)
        (heq ▸ List.mem_cons_self ..)
    rw [hfound]
    exact hid

end table

section documents

variable {α : Type} {b : Binder α} {uri : Url} {id : CacheId}

lemma recorded_of_ownerOf? (howner : b.ownerOf? id = some uri) : Recorded b.owned uri id := by
  obtain ⟨⟨u, ids⟩, hfound, rfl⟩ := Option.map_eq_some_iff.mp howner
  have hid := List.find?_some hfound
  exact ⟨ids, List.mem_of_find?_eq_some hfound, List.contains_iff_mem.mp hid⟩

lemma exists_ownerOf? (hrecorded : Recorded b.owned uri id) : ∃ u, b.ownerOf? id = some u := by
  obtain ⟨ids, hids, hid⟩ := hrecorded
  rw [ownerOf?, ← Option.isSome_iff_exists, Option.isSome_map, List.find?_isSome]
  exact ⟨(uri, ids), hids, List.contains_iff_mem.mpr hid⟩

/-! ### What a release deletes -/

/-- Whatever a binder does, on a clock or not, its cache stays in order and no number is given
twice. -/
lemma Follows.regular_later {b' : Binder α} (h : b.Follows b') (hregular : b.cache.Regular) :
    b'.cache.Regular ∧ b.cache.numbering.Later b'.cache.numbering := by
  obtain ⟨-, actions, hcache⟩ := h
  obtain ⟨hregular', -, hlater⟩ := foldl_step_later hregular actions
  exact hcache ▸ ⟨hregular', hlater⟩

lemma deleteAll_entries (cache : Cache α) (ids : List CacheId) :
    (deleteAll cache ids).2.entries = cache.entries.filter (·.1 ∉ ids) := by
  induction ids generalizing cache with
  | nil => simp [deleteAll]
  | cons id ids ih =>
      show (deleteAll (cache.delete id).2 ids).2.entries = _
      rw [ih, Cache.delete, List.filter_filter]
      refine List.filter_congr fun entry _ => ?_
      rw [Bool.eq_iff_iff]
      simp [and_comm]

lemma deleteAll_size {cache : Cache α} (h : cache.Regular) (ids : List CacheId) :
    (deleteAll cache ids).1 + (deleteAll cache ids).2.size = cache.size := by
  induction ids generalizing cache with
  | nil => exact Nat.zero_add _
  | cons id ids ih =>
      have hrest := ih (h.delete id)
      have hfirst := h.delete_size id
      show (deleteAll (cache.delete id).2 ids).1 + (cache.delete id).1.toNat +
        (deleteAll (cache.delete id).2 ids).2.size = _
      omega

lemma mem_release_entries (hkeyed : Keyed b.owned) (uri : Url) {entry : CacheId × List α} :
    entry ∈ (b.release uri).2.cache.entries ↔
      entry ∈ b.cache.entries ∧ ¬ Recorded b.owned uri entry.1 := by
  show entry ∈ (deleteAll b.cache _).2.entries ↔ _
  rw [deleteAll_entries, List.mem_filter, decide_eq_true_iff, hkeyed.mem_lookup_iff]

lemma recorded_release {u : Url} :
    Recorded (b.release uri).2.owned u id ↔
      (u ≠ uri ∧ Recorded b.owned u id) ∧ b.cache.contains id = true :=
  recorded_prune.trans (and_congr_left' recorded_filter)

/-- The batches of a document that is released are gone. -/
lemma release_get?_eq_none (hkeyed : Keyed b.owned) (hrecorded : Recorded b.owned uri id) :
    (b.release uri).2.cache.get? id = none := by
  refine Option.eq_none_iff_forall_ne_some.mpr fun batch hget => ?_
  exact ((mem_release_entries hkeyed uri).mp (Cache.mem_of_get? hget)).2 hrecorded

/-- All other batches are as they were. -/
lemma release_get?_eq (hkeyed : Keyed b.owned) (hregular : b.cache.Regular)
    (hother : ¬ Recorded b.owned uri id) :
    (b.release uri).2.cache.get? id = b.cache.get? id := by
  have hregular' := ((b.release_follows uri).regular_later hregular).1
  refine Option.ext fun batch => ?_
  rw [hregular'.get?_eq_some_iff, hregular.get?_eq_some_iff, mem_release_entries hkeyed]
  exact and_iff_left hother

lemma release_size (hregular : b.cache.Regular) (uri : Url) :
    (b.release uri).1 + (b.release uri).2.cache.size = b.cache.size :=
  deleteAll_size hregular _

lemma resolve?_eq_none {π μ : Type} {r : Registry π μ} {token : Token}
    (hgone : b.cache.get? token.cacheId = none) : b.resolve? r token = none := by
  rw [resolve?, hgone]
  rfl

lemma resolve?_congr {π μ : Type} {b' : Binder α} (r : Registry π μ) {token : Token}
    (hsame : b'.cache.get? token.cacheId = b.cache.get? token.cacheId) :
    b'.resolve? r token = b.resolve? r token := by
  rw [resolve?, resolve?, hsame]

end documents

variable {α : Type} [Bindable α] {b : Binder α}

/-! ### What a new batch does -/

/-- A batch in the table was there before, or it is the new one of its document. -/
lemma recorded_of_bindFor {provider : ProviderId} {owner : Option Url} {items : List α} {uri : Url}
    {id : CacheId} (hrecorded : Recorded (b.bindFor provider owner items).2.owned uri id) :
    Recorded b.owned uri id ∨ owner = some uri ∧ id = b.cache.nextId := by
  rw [bindFor] at hrecorded
  split at hrecorded
  · exact .inl hrecorded
  · cases owner with
    | none => exact .inl hrecorded
    | some u =>
        rcases recorded_record.mp hrecorded with hold | ⟨rfl, rfl⟩
        · exact .inl (recorded_prune.mp hold).1
        · exact .inr ⟨rfl, rfl⟩

/-- The table keeps what is still in the cache. -/
lemma recorded_bindFor {provider : ProviderId} {owner : Option Url} {items : List α} {uri : Url}
    {id : CacheId} (hrecorded : Recorded b.owned uri id)
    (hcached : (b.bindFor provider owner items).2.cache.contains id = true) :
    Recorded (b.bindFor provider owner items).2.owned uri id := by
  rw [bindFor] at hcached ⊢
  split
  · exact hrecorded
  · rename_i hempty
    rw [if_neg hempty] at hcached
    cases owner with
    | none => exact hrecorded
    | some u => exact recorded_record.mpr (.inl (recorded_prune.mpr ⟨hrecorded, hcached⟩))

/-- A new batch is recorded under its document. -/
lemma recorded_bindFor_nextId (b : Binder α) (provider : ProviderId) (uri : Url) {items : List α}
    (hitems : items ≠ []) :
    Recorded (b.bindFor provider (some uri) items).2.owned uri b.cache.nextId := by
  rw [bindFor, if_neg (by simpa using hitems)]
  exact recorded_record.mpr (.inr ⟨rfl, rfl⟩)

lemma Keyed.bindFor (h : Keyed b.owned) (provider : ProviderId) (owner : Option Url)
    (items : List α) : Keyed (b.bindFor provider owner items).2.owned := by
  rw [Binder.bindFor]
  split
  · exact h
  · cases owner with
    | none => exact h
    | some uri => exact (h.prune _).record uri _

lemma bindFor_nextId (h : b.cache.Regular) (provider : ProviderId) (owner : Option Url)
    {items : List α} (hitems : items ≠ []) :
    (b.bindFor provider owner items).2.cache.nextId = b.cache.nextId + 1 := by
  rw [bindFor, if_neg (by simpa using hitems)]
  exact h.store_nextId items

end Binder

end ProviderHub
