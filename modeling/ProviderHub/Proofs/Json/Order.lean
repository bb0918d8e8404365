import ProviderHub.Proofs.Lsp.Reading
import ProviderHub.Proofs.Json.Texts

/-!
The order of the fields of an object.

* `Json.Ordered`: the keys increase, as they do in every object that is built or read;
* `Json.sortFields_of_ordered`, `Json.sortFields_perm`: fields in order stay as they are, and fields
  with different keys are only put in order;
* `Json.sorted_object`: an object is in order throughout if the values of its fields are.
-/

namespace ProviderHub.Json

lemma lt_of_not_lt {k l : String} (hlt : ¬ k < l) (hne : k ≠ l) : l < k := by
  by_contra hnot
  exact hne (String.le_antisymm (String.not_lt.mp hnot) (String.not_lt.mp hlt))

/-- The keys of fields increase. -/
def Ordered (fields : List (String × Json)) : Prop := fields.Pairwise fun f g => f.1 < g.1

lemma ordered_insertField {k : String} {v : Json} {fields : List (String × Json)}
    (h : Ordered fields) : Ordered (insertField k v fields) := by
  induction fields with
  | nil => exact List.pairwise_singleton ..
  | cons f fields ih =>
    obtain ⟨l, w⟩ := f
    obtain ⟨hl, hfields⟩ := List.pairwise_cons.mp h
    rw [insertField]
    split
    · rename_i hlt
      refine List.pairwise_cons.mpr ⟨fun g hg => ?_, h⟩
      rcases List.mem_cons.mp hg with rfl | hg
      · exact hlt
      · exact String.lt_trans hlt (hl g hg)
    · split
      · rename_i heq
        exact List.pairwise_cons.mpr ⟨fun g hg => heq ▸ hl g hg, hfields⟩
      · rename_i hlt hne
        refine List.pairwise_cons.mpr ⟨fun g hg => ?_, ih hfields⟩
        rcases mem_insertField hg with rfl | hg
        · exact lt_of_not_lt hlt hne
        · exact hl g hg

lemma sortFields_append (fields : List (String × Json)) (f : String × Json) :
    sortFields (fields ++ [f]) = insertField f.1 f.2 (sortFields fields) := by
  rw [sortFields, List.foldl_append]
  rfl

lemma ordered_sortFields (fields : List (String × Json)) : Ordered (sortFields fields) := by
  induction fields using List.reverseRecOn with
  | nil => exact List.Pairwise.nil
  | append_singleton fields f ih =>
    rw [sortFields_append]
    exact ordered_insertField ih

/-- A field with a larger key is put at the end. -/
lemma insertField_of_forall_lt {k : String} {v : Json} {fields : List (String × Json)}
    (h : ∀ f ∈ fields, f.1 < k) : insertField k v fields = fields ++ [(k, v)] := by
  induction fields with
  | nil => rfl
  | cons f fields ih =>
    have hf : f.1 < k := h f (by simp)
    rw [insertField, if_neg (String.lt_asymm hf), if_neg, ih fun g hg => h g (by simp [hg])]
    · rfl
    · rintro rfl
      exact String.lt_irrefl _ hf

/-- Fields in order stay as they are. -/
lemma sortFields_of_ordered {fields : List (String × Json)} (h : Ordered fields) :
    sortFields fields = fields := by
  induction fields using List.reverseRecOn with
  | nil => rfl
  | append_singleton fields f ih =>
    obtain ⟨hfields, -, hlast⟩ := List.pairwise_append.mp h
    rw [sortFields_append, ih hfields, insertField_of_forall_lt fun g hg => hlast g hg f (by simp)]

lemma insertField_perm {k : String} {v : Json} {fields : List (String × Json)}
    (h : ∀ f ∈ fields, f.1 ≠ k) : (insertField k v fields).Perm ((k, v) :: fields) := by
  induction fields with
  | nil => exact List.Perm.refl _
  | cons f fields ih =>
    rw [insertField]
    split
    · exact List.Perm.refl _
    · rw [if_neg (h f (by simp)).symm]
      exact ((ih fun g hg => h g (by simp [hg])).cons f).trans (List.Perm.swap ..)

/-- Fields with different keys are only put in order. -/
lemma sortFields_perm {fields : List (String × Json)} (h : (fields.map Prod.fst).Nodup) :
    (sortFields fields).Perm fields := by
  induction fields using List.reverseRecOn with
  | nil => exact List.Perm.refl _
  | append_singleton fields f ih =>
    rw [List.map_append, List.nodup_append] at h
    obtain ⟨hfields, -, hlast⟩ := h
    have hnew : ∀ g ∈ sortFields fields, g.1 ≠ f.1 := fun g hg =>
      hlast g.1 (List.mem_map_of_mem (mem_of_mem_sortFields hg)) f.1 (by simp)
    rw [sortFields_append]
    exact (insertField_perm hnew).trans
      (((ih hfields).cons f).trans (List.perm_append_singleton f fields).symm)

/-- Fields in order are determined by what they are. -/
lemma Ordered.eq_of_perm {fields others : List (String × Json)} (h : Ordered fields)
    (hothers : Ordered others) (hperm : fields.Perm others) : fields = others :=
  hperm.eq_of_pairwise (fun _ _ _ _ hlt hgt => absurd hgt (String.lt_asymm hlt)) h hothers

lemma Ordered.nodup {fields : List (String × Json)} (h : Ordered fields) :
    (fields.map Prod.fst).Nodup := by
  refine List.pairwise_map.mpr (h.imp ?_)
  intro f g hlt heq
  exact String.lt_irrefl g.1 (heq ▸ hlt)

/-- The fields of a value that is in order. -/
lemma ordered_of_sorted {fields : List (String × Json)} (h : (obj fields).sorted = obj fields) :
    Ordered fields := by
  have hfields : sortFields (sorted.sortedFields fields) = fields := by
    injection h
  rw [← hfields]
  exact ordered_sortFields _

lemma sortedFields_eq_self {fields : List (String × Json)}
    (h : ∀ f ∈ fields, f.2.sorted = f.2) : sorted.sortedFields fields = fields := by
  induction fields with
  | nil => rfl
  | cons f fields ih =>
    rw [sorted.sortedFields, h f (by simp), ih fun g hg => h g (by simp [hg])]

/-- An object is in order throughout if the values of its fields are. -/
lemma sorted_object {fields : List (String × Json)} (h : ∀ f ∈ fields, f.2.sorted = f.2) :
    (object fields).sorted = object fields := by
  have hvalues : sorted.sortedFields (sortFields fields) = sortFields fields :=
    sortedFields_eq_self fun f hf => h f (mem_of_mem_sortFields hf)
  rw [object, sorted, hvalues, object, sortFields_of_ordered (ordered_sortFields fields)]

end ProviderHub.Json
