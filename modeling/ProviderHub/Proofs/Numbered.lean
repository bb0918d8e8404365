import Mathlib.Tactic

/-!
Lists of items that have numbers.

Roots, flushes, tasks and requests are kept in lists and known by numbers, which differ within a
list.

* `perm_cons_filter_of_find?`, `find?_number_of_mem`: the item of a number, apart from the others;
* `map_perm_cons_filter_of_find?`: changing the item of a number changes that item only.
-/

namespace ProviderHub

open List (Perm)

/-- In a list of items with different numbers, the one of a number comes apart from the others. -/
lemma perm_cons_filter_of_find? {α : Type} {number : α → Nat} {items : List α} {item : α} {n : Nat}
    (hnodup : (items.map number).Nodup) (h : items.find? (number · == n) = some item) :
    items.Perm (item :: items.filter (number · != n)) := by
  induction items with
  | nil => simp at h
  | cons x items ih =>
      rw [List.map_cons, List.nodup_cons] at hnodup
      by_cases hx : number x = n
      · -- the first one has the number, so none of the others has
        have hrest : items.filter (number · != n) = items := by
          refine List.filter_eq_self.mpr fun y hy => ?_
          have hne : number y ≠ n := fun hyn =>
            hnodup.1 (hx.trans hyn.symm ▸ List.mem_map_of_mem hy)
          simpa using hne
        have hitem : x = item := by simpa [List.find?_cons, hx] using h
        have hdrop : (x :: items).filter (number · != n) = items := by
          simp [hx, hrest]
        rw [hdrop, hitem]
      · have hfind : items.find? (number · == n) = some item := by
          simpa [List.find?_cons, hx] using h
        have hkeep : (x :: items).filter (number · != n) =
            x :: items.filter (number · != n) := by
          simp [hx]
        rw [hkeep]
        exact ((ih hnodup.2 hfind).cons x).trans (Perm.swap _ _ _)

/-- Changing the item of a number leaves the others as they are. -/
lemma map_filter_number {α : Type} (number : α → Nat) (items : List α) (n : Nat) (f : α → α) :
    (items.filter (number · != n)).map (fun x => if number x = n then f x else x) =
      items.filter (number · != n) := by
  conv_rhs => rw [← List.map_id (items.filter (number · != n))]
  refine List.map_congr_left fun x hx => ?_
  have hne : number x ≠ n := by simpa using (List.mem_filter.mp hx).2
  simp [hne]

lemma filter_map_number {α : Type} {number : α → Nat} (items : List α) (n : Nat) {f : α → α}
    (hf : ∀ x, number (f x) = number x) :
    (items.map fun x => if number x = n then f x else x).filter (number · != n) =
      items.filter (number · != n) := by
  have hsame : items.filter ((number · != n) ∘ fun x => if number x = n then f x else x) =
      items.filter (number · != n) := by
    refine List.filter_congr fun x _ => ?_
    by_cases hx : number x = n <;> simp [hx, hf]
  rw [List.filter_map, hsame, map_filter_number]

/-- Changing the item of a number changes that item only. -/
lemma map_perm_cons_filter_of_find? {α : Type} {number : α → Nat} {items : List α} {item : α}
    {n : Nat} (f : α → α) (hnodup : (items.map number).Nodup)
    (h : items.find? (number · == n) = some item) :
    (items.map fun x => if number x = n then f x else x).Perm
      (f item :: items.filter (number · != n)) := by
  have hnumber : number item = n := by simpa using List.find?_some h
  have hmap := (perm_cons_filter_of_find? hnodup h).map fun x => if number x = n then f x else x
  simpa [hnumber, map_filter_number] using hmap

lemma find?_number_of_mem {α : Type} {number : α → Nat} {items : List α} {item : α}
    (hnodup : (items.map number).Nodup) (h : item ∈ items) :
    items.find? (number · == number item) = some item := by
  induction items with
  | nil => cases h
  | cons x items ih =>
      rw [List.map_cons, List.nodup_cons] at hnodup
      rcases List.mem_cons.mp h with rfl | hmem
      · simp
      · have hne : number x ≠ number item := fun heq =>
          hnodup.1 (heq ▸ List.mem_map_of_mem hmem)
        simp [hne, ih hnodup.2 hmem]

end ProviderHub
