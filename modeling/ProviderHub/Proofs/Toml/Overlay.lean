import ProviderHub.Proofs.Lsp.Reading
import ProviderHub.Toml.Basic

/-!
One table laid over another.

* `Toml.UniqueKeys`: no table has a key twice;
* `Toml.Blocks`: a value that is no table stands on the way to the end of a path;
* `Toml.get?_overlay_of_leaf`, `Toml.get?_overlay_of_blocks`, `Toml.get?_overlay_of_none`: what the
  table has at the end of a path after another one was laid over it;
* `Toml.UniqueKeys.overlay`: keys stay unique.
-/

namespace ProviderHub.Toml

/-! ### Tables -/

/-- Whether a value is a table. -/
def isTable : Toml → Bool
  | .table _ => true
  | _ => false

lemma isTable_iff {v : Toml} : v.isTable = true ↔ ∃ entries, v = .table entries := by
  cases v <;> simp [isTable]

/-- **No table has a key twice**, nor does a table in it, and so on. What stands in an array does
not matter: it is taken over as it is. -/
inductive UniqueKeys : Toml → Prop where
  | leaf {v : Toml} (hleaf : v.isTable = false) : UniqueKeys v
  | table {entries : List (String × Toml)} (hnodup : (entries.map Prod.fst).Nodup)
    (hentries : ∀ e ∈ entries, UniqueKeys e.2) : UniqueKeys (.table entries)

variable {key : String} {path : List String} {entries base upper : List (String × Toml)} {v : Toml}

lemma UniqueKeys.nodup (h : UniqueKeys (.table entries)) : (entries.map Prod.fst).Nodup := by
  cases h with
  | leaf hleaf => cases hleaf
  | table hnodup => exact hnodup

lemma UniqueKeys.of_mem (h : UniqueKeys (.table entries)) {e : String × Toml} (he : e ∈ entries) :
    e.2.UniqueKeys := by
  cases h with
  | leaf hleaf => cases hleaf
  | table _ hentries => exact hentries e he

lemma UniqueKeys.lookup (h : UniqueKeys (.table entries)) (hv : entries.lookup key = some v) :
    v.UniqueKeys :=
  h.of_mem (mem_of_lookup hv)

lemma get?_append (path rest : List String) (v : Toml) :
    v.get? (path ++ rest) = (v.get? path).bind (get? rest) := by
  induction path generalizing v with
  | nil => rfl
  | cons key path ih =>
    cases v with
    | table entries =>
      rw [List.cons_append, get?, get?, Option.bind_assoc]
      exact congrArg _ (funext ih)
    | str | int | float | bool | date | arr => rfl

/-- What is no table has nothing in it. -/
lemma get?_eq_none_of_leaf (h : v.isTable = false) (key : String) (path : List String) :
    v.get? (key :: path) = none := by
  cases v with
  | table => cases h
  | str | int | float | bool | date | arr => rfl

/-! ### Entries -/

section keys

variable {β : Type}

/-- Entries with a key set, whatever the entries are of. -/
def setKey (key : String) (b : β) : List (String × β) → List (String × β)
  | [] => [(key, b)]
  | (k, c) :: rest => if k = key then (key, b) :: rest else (k, c) :: setKey key b rest

lemma setEntry_eq (key : String) (v : Toml) (entries : List (String × Toml)) :
    setEntry key v entries = setKey key v entries := by
  induction entries with
  | nil => rfl
  | cons e entries ih => rw [setEntry, setKey, ih]

lemma lookup_setKey (key k : String) (b : β) (es : List (String × β)) :
    (setKey k b es).lookup key = if key = k then some b else es.lookup key := by
  induction es with
  | nil => rw [setKey, lookup_cons_ite]
  | cons e es ih =>
    obtain ⟨l, c⟩ := e
    rw [setKey]
    split
    · rename_i hl
      rw [lookup_cons_ite, lookup_cons_ite, hl]
      split <;> rfl
    · rename_i hl
      rw [lookup_cons_ite, lookup_cons_ite, ih]
      -- the entry that is passed has another key
      by_cases hkey : key = k
      · rw [if_neg (by rw [hkey]; exact Ne.symm hl), if_pos hkey, if_pos hkey]
      · rw [if_neg hkey, if_neg hkey]

lemma mem_setKey {key : String} {b : β} {e : String × β} {es : List (String × β)}
    (h : e ∈ setKey key b es) : e = (key, b) ∨ e ∈ es := by
  induction es with
  | nil => exact .inl (List.mem_singleton.mp h)
  | cons f es ih =>
    obtain ⟨k, c⟩ := f
    rw [setKey] at h
    split at h
    · exact (List.mem_cons.mp h).imp_right (List.mem_cons_of_mem _)
    · rcases List.mem_cons.mp h with rfl | h
      · exact .inr (List.mem_cons_self ..)
      · exact (ih h).imp_right (List.mem_cons_of_mem _)

/-- Keys stay unique: a new one comes last, and an old one stays in its place. -/
lemma nodup_setKey {es : List (String × β)} (h : (es.map Prod.fst).Nodup) (key : String) (b : β) :
    ((setKey key b es).map Prod.fst).Nodup := by
  induction es with
  | nil => exact List.nodup_singleton key
  | cons f es ih =>
    obtain ⟨k, c⟩ := f
    obtain ⟨hk, hes⟩ := List.nodup_cons.mp h
    rw [setKey]
    split
    · rename_i heq
      exact heq ▸ h
    · rename_i hne
      refine List.nodup_cons.mpr ⟨fun hmem => ?_, ih hes⟩
      obtain ⟨e, he, hek⟩ := List.mem_map.mp hmem
      rcases mem_setKey he with rfl | he
      · exact hne hek.symm
      · exact hk (List.mem_map.mpr ⟨e, he, hek⟩)

end keys

/-- **An entry after the overlay** is the upper one, laid over what the table had under its key, or
the one that the table had. -/
lemma lookup_overlayEntries (h : (upper.map Prod.fst).Nodup) :
    (overlayEntries base upper).lookup key =
      match upper.lookup key with
      | some v => some (overlayValue (base.lookup key) v)
      | none => base.lookup key := by
  induction upper generalizing base with
  | nil => rw [overlayEntries, List.lookup_nil]
  | cons e upper ih =>
    obtain ⟨k, v⟩ := e
    obtain ⟨hk, hupper⟩ := List.nodup_cons.mp h
    rw [overlayEntries, ih hupper, lookup_cons_ite, setEntry_eq, lookup_setKey]
    by_cases hkey : key = k
    · have hnone : upper.lookup key = none := by
        cases hlookup : upper.lookup key with
        | none => rfl
        | some w => exact absurd (List.mem_map_of_mem (mem_of_lookup hlookup)) (hkey ▸ hk)
      rw [hnone, if_pos hkey, if_pos hkey, hkey]
    · rw [if_neg hkey, if_neg hkey]

/-- Only a table goes into a table. -/
lemma overlayValue_cases (below : Option Toml) (v : Toml) :
    (∃ base entries, below = some (.table base) ∧ v = .table entries ∧
      overlayValue below v = .table (overlayEntries base entries)) ∨
    (below.any isTable = false ∨ v.isTable = false) ∧ overlayValue below v = v := by
  cases below with
  | none => exact .inr ⟨.inl rfl, by simp [overlayValue]⟩
  | some w =>
    cases w with
    | table base =>
      cases v with
      | table entries => exact .inl ⟨base, entries, rfl, rfl, rfl⟩
      | str | int | float | bool | date | arr => exact .inr ⟨.inr rfl, rfl⟩
    | str | int | float | bool | date | arr => exact .inr ⟨.inl rfl, by simp [overlayValue]⟩

/-- One step down a path. -/
lemma get?_overlayEntries (h : (upper.map Prod.fst).Nodup) :
    (table (overlayEntries base upper)).get? (key :: path) =
      match upper.lookup key with
      | some v => (overlayValue (base.lookup key) v).get? path
      | none => (table base).get? (key :: path) := by
  rw [get?, lookup_overlayEntries h]
  split <;> rfl

/-! ### Paths -/

/-- **A value that is no table stands on the way** to the end of a path. -/
def Blocks (upper : Toml) (path : List String) : Prop :=
  ∃ front key rest v, path = front ++ key :: rest ∧ upper.get? front = some v ∧ v.isTable = false

/-- A value that is no table takes the place of whatever is below it. -/
lemma get?_overlayValue_of_leaf {below : Option Toml} {upper : Toml} (hunique : upper.UniqueKeys)
    (h : upper.get? path = some v) (hleaf : v.isTable = false) :
    (overlayValue below upper).get? path = some v := by
  induction path generalizing below upper with
  | nil =>
    obtain rfl : upper = v := Option.some.inj h
    rcases overlayValue_cases below upper with ⟨base, entries, -, rfl, -⟩ | ⟨-, heq⟩
    · cases hleaf
    · rw [heq, get?]
  | cons key path ih =>
    rcases overlayValue_cases below upper with ⟨base, entries, rfl, rfl, heq⟩ | ⟨-, heq⟩
    · rw [heq, get?_overlayEntries hunique.nodup]
      rw [get?] at h
      obtain ⟨w, hw, h⟩ := Option.bind_eq_some_iff.mp h
      rw [hw]
      exact ih (hunique.lookup hw) h
    · rwa [heq]

lemma Blocks.cons (hv : upper.lookup key = some v) (h : v.Blocks path) :
    Blocks (.table upper) (key :: path) := by
  obtain ⟨front, k, rest, w, rfl, hw, hleaf⟩ := h
  refine ⟨key :: front, k, rest, w, rfl, ?_, hleaf⟩
  rw [get?, hv]
  exact hw

/-- Where a value has nothing and no other one stands on the way, all stays as it was below. -/
lemma get?_overlayValue_of_none {below : Option Toml} {upper : Toml} (hunique : upper.UniqueKeys)
    (h : upper.get? path = none) (hfree : ¬ upper.Blocks path) :
    (overlayValue below upper).get? path = below.bind (get? path) := by
  induction path generalizing below upper with
  | nil => cases h
  | cons key path ih =>
    rcases overlayValue_cases below upper with ⟨base, entries, rfl, rfl, heq⟩ | ⟨hother, heq⟩
    · rw [heq, get?_overlayEntries hunique.nodup]
      cases hv : entries.lookup key with
      | none => rfl
      | some v =>
        have hnone : v.get? path = none := by rwa [get?, hv] at h
        exact ih (hunique.lookup hv) hnone fun hblocks => hfree (hblocks.cons hv)
    · -- the value takes the place of something that has nothing in it either
      rw [heq, h]
      rcases hother with hleaf | hleaf
      · cases below with
        | none => rfl
        | some w => exact (get?_eq_none_of_leaf hleaf key path).symm
      · exact absurd ⟨[], key, path, upper, rfl, rfl, hleaf⟩ hfree

/-! ### Keys after an overlay -/

lemma uniqueKeys_overlayEntries (hbase : UniqueKeys (.table base))
    (hupper : ∀ e ∈ upper, ∀ below : Option Toml, (∀ w ∈ below, w.UniqueKeys) →
      (overlayValue below e.2).UniqueKeys) :
    UniqueKeys (.table (overlayEntries base upper)) := by
  induction upper generalizing base with
  | nil => exact hbase
  | cons e upper ih =>
    obtain ⟨k, v⟩ := e
    rw [overlayEntries, setEntry_eq]
    refine ih (.table (nodup_setKey hbase.nodup _ _) fun f hf => ?_)
      fun f hf => hupper f (List.mem_cons_of_mem _ hf)
    rcases mem_setKey hf with rfl | hf
    · exact hupper _ (List.mem_cons_self ..) _ fun w hw => hbase.lookup hw
    · exact hbase.of_mem hf

lemma UniqueKeys.overlayValue (hv : v.UniqueKeys) (below : Option Toml)
    (hbelow : ∀ w ∈ below, w.UniqueKeys) : (Toml.overlayValue below v).UniqueKeys := by
  induction hv generalizing below with
  | @leaf v hleaf =>
    rcases overlayValue_cases below v with ⟨-, entries, -, rfl, -⟩ | ⟨-, heq⟩
    · cases hleaf
    · rw [heq]
      exact .leaf hleaf
  | @table entries hnodup hentries ih =>
    rcases overlayValue_cases below (.table entries) with ⟨base, _, rfl, hsame, heq⟩ | ⟨-, heq⟩
    · cases hsame
      rw [heq]
      exact uniqueKeys_overlayEntries (hbelow _ rfl) ih
    · rw [heq]
      exact .table hnodup hentries

/-! ### The laws -/

variable {t u : Toml}

lemma get?_overlay_of_leaf (hunique : u.UniqueKeys) (h : u.get? path = some v)
    (hleaf : v.isTable = false) : (t.overlay u).get? path = some v :=
  get?_overlayValue_of_leaf hunique h hleaf

/-- Nothing is left behind a value that is no table. -/
lemma get?_overlay_of_blocks (hunique : u.UniqueKeys) (h : u.Blocks path) :
    (t.overlay u).get? path = none := by
  obtain ⟨front, key, rest, v, rfl, hv, hleaf⟩ := h
  rw [get?_append, get?_overlay_of_leaf hunique hv hleaf]
  exact get?_eq_none_of_leaf hleaf key rest

lemma get?_overlay_of_none (hunique : u.UniqueKeys) (h : u.get? path = none)
    (hfree : ¬ u.Blocks path) : (t.overlay u).get? path = t.get? path :=
  get?_overlayValue_of_none hunique h hfree

/-- Keys stay unique. -/
lemma UniqueKeys.overlay (ht : t.UniqueKeys) (hu : u.UniqueKeys) : (t.overlay u).UniqueKeys :=
  hu.overlayValue (some t) fun _ hw => Option.some.inj hw ▸ ht

end ProviderHub.Toml
