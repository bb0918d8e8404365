import Mathlib.Data.Sum.Order
import Mathlib.Data.String.Basic
import ProviderHub.Proofs.Completion.Words

/-!
Which items of a long list stay.

* `Trim.rating`, `Trim.IsCandidate`: what an item scores, and whether it may stay;
* `Trim.Precedes`: the order of the places of a list;
* `Trim.candidates_eq`, `Trim.before_iff`: the candidates are those places, and they are compared in
  that order;
* `Trim.selected_precedes`: the first places of an order, by sorting;
* `Trim.apply_selects`: the best candidates stay, in order.
-/

namespace ProviderHub.Trim

open Lex OrderDual

/-! ### Candidates and their order -/

section order

variable (limits : CompletionLimits) (document : TextDocument) (position : Position)
  (list : CompletionList)

/-- What an item scores, if there is something to match it with and it matches. The scorer is the
graceful one if and only if the list is shorter than the threshold. -/
def rating (item : CompletionItem) : Option ℤ :=
  if matchWord document position item = [] then none
  else if list.items.length < limits.gracefulThreshold then
    Fuzzy.gracefulScore (matchWord document position item) item.filterText.toList
  else Fuzzy.score (matchWord document position item) item.filterText.toList

/-- An item may stay: there is nothing to match it with, or it matches. -/
def IsCandidate (item : CompletionItem) : Prop :=
  matchWord document position item = [] ∨ (rating limits document position list item).isSome

instance (item : CompletionItem) : Decidable (IsCandidate limits document position list item) :=
  inferInstanceAs (Decidable (_ ∨ _))

/-- The places of the items that may stay, in the order in which the items came. -/
def candidatePlaces : List (Fin list.items.length) :=
  (List.finRange list.items.length).filter fun i =>
    IsCandidate limits document position list list.items[i]

/-- The rank of an item: a higher score first, any score before none, and items without a score by
their sort text. -/
def rank (item : CompletionItem) : ℤᵒᵈ ⊕ₗ String :=
  match rating limits document position list item with
  | some s => toLex (.inl (toDual s))
  | none => toLex (.inr item.sortText)

/-- The rank of a place: that of its item, and among items of the same rank the earlier one
first. -/
def placeRank (i : Fin list.items.length) : (ℤᵒᵈ ⊕ₗ String) ×ₗ Fin list.items.length :=
  toLex (rank limits document position list list.items[i], i)

/-- **One place goes before another.** -/
def Precedes (i j : Fin list.items.length) : Prop :=
  placeRank limits document position list i < placeRank limits document position list j

/-- A place of the list with its score, as it is compared with others. -/
def candidateAt (i : Fin list.items.length) : Candidate :=
  ⟨i, rating limits document position list list.items[i], list.items[i]⟩

end order

variable {limits : CompletionLimits} {document : TextDocument} {position : Position}
  {list : CompletionList}

lemma placeRank_injective : Function.Injective (placeRank limits document position list) :=
  fun _ _ h => congrArg (fun r => (ofLex r).2) h

/-- **The order of the places** is strict and total. -/
lemma isStrictTotalOrder_precedes :
    IsStrictTotalOrder (Fin list.items.length) (Precedes limits document position list) :=
  placeRank_injective.isStrictTotalOrder_onFun (· < ·)

lemma scoreFor_eq_rating (item : CompletionItem) :
    scoreFor (list.items.length < limits.gracefulThreshold) (matchWord document position item)
        item =
      rating limits document position list item := by
  simp only [scoreFor, rating, List.isEmpty_iff, decide_eq_true_eq]

/-- Candidates are compared in the order of their places. -/
lemma before_iff (i j : Fin list.items.length) :
    before (candidateAt limits document position list i)
        (candidateAt limits document position list j) = true ↔
      placeRank limits document position list i ≤ placeRank limits document position list j := by
  rw [placeRank, placeRank, Prod.Lex.toLex_le_toLex, before, candidateAt, candidateAt]
  dsimp only
  rw [rank, rank]
  cases rating limits document position list list.items[i] <;>
    cases rating limits document position list list.items[j] <;> simp

lemma zipIdx_eq {α : Type} (xs : List α) :
    xs.zipIdx = (List.finRange xs.length).map fun i => (xs[i], i.val) := by
  refine List.ext_getElem (by simp) fun i hi _ => ?_
  simp

/-- **The candidates** are the places of the items that may stay. -/
lemma candidates_eq :
    candidates (list.items.length < limits.gracefulThreshold) (matchWord document position)
        list.items =
      (candidatePlaces limits document position list).map
        (candidateAt limits document position list) := by
  rw [candidates, candidatePlaces, ← List.filterMap_eq_map, List.filterMap_filter, zipIdx_eq,
    List.filterMap_map]
  refine List.filterMap_congr fun i _ => ?_
  simp only [Function.comp_apply, scoreFor_eq_rating, List.isEmpty_iff, decide_eq_true_eq]
  exact if_congr or_comm rfl rfl

/-! ### The first places of an order -/

section selected

variable {α β : Type} [LinearOrder β] {key : α → β} {places : List α}

/-- The places of a list, in order. -/
def sorted (key : α → β) (places : List α) : List α :=
  places.mergeSort fun i j => decide (key i ≤ key j)

lemma sorted_perm (key : α → β) (places : List α) : (sorted key places).Perm places :=
  List.mergeSort_perm _ _

lemma pairwise_sorted (hkey : Function.Injective key) (hplaces : places.Nodup) :
    (sorted key places).Pairwise fun i j => key i < key j := by
  have hle : (sorted key places).Pairwise fun i j => key i ≤ key j := by
    have h : (sorted key places).Pairwise fun i j => decide (key i ≤ key j) = true :=
      List.pairwise_mergeSort (fun i j k => by simpa using le_trans)
        (fun i j => by simpa using le_total (key i) (key j)) places
    exact h.imp of_decide_eq_true
  have hne := (sorted_perm key places).nodup_iff.mpr hplaces
  exact hle.imp₂ (fun i j hij hdistinct => lt_of_le_of_ne hij (hkey.ne hdistinct)) hne

/-- **The first places** of a list, in order, go before all others. -/
lemma selected_precedes (hkey : Function.Injective key) (hplaces : places.Nodup) (limit : ℕ) :
    ((sorted key places).take limit).Pairwise (fun i j => key i < key j) ∧
      ∀ i ∈ (sorted key places).take limit, ∀ j ∈ places,
        j ∉ (sorted key places).take limit → key i < key j := by
  have hsorted := pairwise_sorted hkey hplaces
  rw [← List.take_append_drop limit (sorted key places), List.pairwise_append] at hsorted
  obtain ⟨hfirst, -, hcross⟩ := hsorted
  refine ⟨hfirst, fun i hi j hj hdropped => hcross i hi j ?_⟩
  have hmem := (sorted_perm key places).mem_iff.mpr hj
  rw [← List.take_append_drop limit (sorted key places), List.mem_append] at hmem
  exact hmem.resolve_left hdropped

end selected

/-! ### The trimmed list -/

/-- The places whose items stay. -/
def keptPlaces (limits : CompletionLimits) (document : TextDocument) (position : Position)
    (list : CompletionList) : List (Fin list.items.length) :=
  if limits.maxItems < (candidatePlaces limits document position list).length then
    (sorted (placeRank limits document position list)
      (candidatePlaces limits document position list)).take limits.maxItems
  else candidatePlaces limits document position list

/-- What stays of the candidates. -/
lemma select_candidates :
    select limits.maxItems (candidates (list.items.length < limits.gracefulThreshold)
        (matchWord document position) list.items) =
      (keptPlaces limits document position list).map
        (candidateAt limits document position list) := by
  rw [candidates_eq, select, keptPlaces, List.length_map]
  split
  · rw [List.map_take, sorted, List.map_mergeSort]
    intro i _ j _
    rw [Bool.eq_iff_iff, decide_eq_true_eq, before_iff]
  · rfl

lemma nodup_candidatePlaces : (candidatePlaces limits document position list).Nodup :=
  (List.nodup_finRange _).filter _

lemma length_keptPlaces_le :
    (keptPlaces limits document position list).length ≤ limits.maxItems := by
  rw [keptPlaces]
  split
  · exact List.length_take_le ..
  · omega

/-- Candidates within the limit all stay. -/
lemma keptPlaces_of_few
    (hfew : (candidatePlaces limits document position list).length ≤ limits.maxItems) :
    keptPlaces limits document position list = candidatePlaces limits document position list :=
  if_neg (not_lt.mpr hfew)

lemma keptPlaces_subset :
    keptPlaces limits document position list ⊆ candidatePlaces limits document position list := by
  rw [keptPlaces]
  split
  · exact fun i hi => (sorted_perm _ _).mem_iff.mp (List.mem_of_mem_take hi)
  · exact List.Subset.refl _

/-- Of more candidates as many stay as may, in order, and they go before the others. -/
lemma keptPlaces_of_many
    (hmany : limits.maxItems < (candidatePlaces limits document position list).length) :
    (keptPlaces limits document position list).length = limits.maxItems ∧
      (keptPlaces limits document position list).Pairwise
        (Precedes limits document position list) ∧
      ∀ i ∈ keptPlaces limits document position list,
        ∀ j ∈ candidatePlaces limits document position list,
          j ∉ keptPlaces limits document position list →
            Precedes limits document position list i j := by
  rw [keptPlaces, if_pos hmany]
  refine ⟨?_, selected_precedes placeRank_injective nodup_candidatePlaces limits.maxItems⟩
  rw [List.length_take, (sorted_perm _ _).length_eq, min_eq_left hmany.le]

lemma nodup_keptPlaces : (keptPlaces limits document position list).Nodup := by
  rcases Nat.lt_or_ge limits.maxItems (candidatePlaces limits document position list).length with
    hmany | hfew
  · refine (keptPlaces_of_many hmany).2.1.imp ?_
    rintro i _ hlt rfl
    exact lt_irrefl _ hlt
  · rw [keptPlaces_of_few hfew]
    exact nodup_candidatePlaces

/-- A list beyond the limit becomes an incomplete one with the items at the places that stay. -/
lemma apply_eq (hlong : limits.maxItems < list.items.length) :
    (apply limits document position list).isIncomplete = true ∧
      (apply limits document position list).items =
        (keptPlaces limits document position list).map fun i => list.items[i] := by
  have hlength : (keptPlaces limits document position list).length ≤ limits.maxItems :=
    length_keptPlaces_le
  have hword : wordFor (document.before position) position (lastWord (document.before position)) =
    matchWord document position := rfl
  rw [apply, if_neg (not_le.mpr hlong)]
  dsimp only
  rw [hword, select_candidates, List.length_map, List.map_map]
  refine ⟨?_, rfl⟩
  rw [decide_eq_true (hlength.trans_lt hlong), Bool.or_true]

/-- **The best candidates stay.** A list within the limit is left as it is. Of a longer one the
result is incomplete, and its items are those at some places of the list, each taken once. These are
all places of candidates, as they came, if there are no more than the limit; and otherwise as many
as the limit, in a strict total order, and each of them goes before every candidate that does not
stay. -/
theorem apply_selects (limits : CompletionLimits) (document : TextDocument) (position : Position)
    (list : CompletionList) :
    (list.items.length ≤ limits.maxItems → apply limits document position list = list) ∧
    (limits.maxItems < list.items.length →
      (apply limits document position list).isIncomplete = true ∧
      ∃ kept : List (Fin list.items.length),
        (apply limits document position list).items = kept.map (fun i => list.items[i]) ∧
        kept.Nodup ∧ kept ⊆ candidatePlaces limits document position list ∧
        ((candidatePlaces limits document position list).length ≤ limits.maxItems →
          kept = candidatePlaces limits document position list) ∧
        (limits.maxItems < (candidatePlaces limits document position list).length →
          IsStrictTotalOrder (Fin list.items.length)
            (Precedes limits document position list) ∧
          kept.length = limits.maxItems ∧
          kept.Pairwise (Precedes limits document position list) ∧
          ∀ i ∈ kept, ∀ j ∈ candidatePlaces limits document position list, j ∉ kept →
            Precedes limits document position list i j)) := by
  refine ⟨fun hwithin => if_pos hwithin, fun hlong => ?_⟩
  obtain ⟨hincomplete, hitems⟩ := @apply_eq limits document position list hlong
  exact ⟨hincomplete, keptPlaces limits document position list, hitems, nodup_keptPlaces,
    keptPlaces_subset, keptPlaces_of_few,
    fun hmany => ⟨isStrictTotalOrder_precedes, keptPlaces_of_many hmany⟩⟩

/-- A list with matches of several scores, an item that does not match, and two items that have
nothing to be matched with, since their edits start at the cursor. -/
def mixedList : CompletionList :=
  let atCursor : TextEdit := ⟨.point ⟨0, 2⟩, ""⟩
  { items := [{ label := "xfxo" }, { label := "foo" }, { label := "bar" }, { label := "format" },
      { label := "aa", textEdit := some atCursor },
      { label := "zz", sortText? := some "0", textEdit := some atCursor }] }

/-- A document with a word before the cursor. -/
def mixedDocument : TextDocument := ⟨{ scheme := "mem", path := "/a" }, "text", 1, "fo"⟩

/-- That list with places for four items, for all five candidates, and for all items. -/
theorem apply_selects_mixed :
    (∃ kept : List (Fin mixedList.items.length),
      (apply ⟨4, 2000⟩ mixedDocument ⟨0, 2⟩ mixedList).items =
        kept.map (fun i => mixedList.items[i]) ∧
      kept.length = 4 ∧
      kept.Pairwise (Precedes ⟨4, 2000⟩ mixedDocument ⟨0, 2⟩ mixedList)) ∧
    (∃ kept : List (Fin mixedList.items.length),
      (apply ⟨5, 2000⟩ mixedDocument ⟨0, 2⟩ mixedList).items =
        kept.map (fun i => mixedList.items[i]) ∧ kept.map Fin.val = [0, 1, 3, 4, 5]) ∧
    apply ⟨6, 2000⟩ mixedDocument ⟨0, 2⟩ mixedList = mixedList := by
  obtain ⟨-, hbest⟩ := apply_selects ⟨4, 2000⟩ mixedDocument ⟨0, 2⟩ mixedList
  obtain ⟨-, hall⟩ := apply_selects ⟨5, 2000⟩ mixedDocument ⟨0, 2⟩ mixedList
  obtain ⟨hwithin, -⟩ := apply_selects ⟨6, 2000⟩ mixedDocument ⟨0, 2⟩ mixedList
  obtain ⟨-, best, hbestItems, -, -, -, hmany⟩ := hbest (by decide)
  obtain ⟨-, hlength, hordered, -⟩ := hmany (by decide +kernel)
  obtain ⟨-, all, hallItems, -, -, hfew, -⟩ := hall (by decide)
  have hplaces : (candidatePlaces ⟨5, 2000⟩ mixedDocument ⟨0, 2⟩ mixedList).map Fin.val =
      [0, 1, 3, 4, 5] := by decide +kernel
  exact ⟨⟨best, hbestItems, hlength, hordered⟩,
    ⟨all, hallItems, by rw [hfew (by decide +kernel), hplaces]⟩, hwithin (by decide)⟩

end ProviderHub.Trim
