import ProviderHub.Proofs.Completion.Alignment

/-!
Scores that forgive two exchanged neighbours.

* `Fuzzy.transposed`, `Fuzzy.transposedScores`: a pattern with two neighbours exchanged, and what
  the patterns that arise so score;
* `Fuzzy.exchange_eq_transposed`: the exchange in a list is that of two places;
* `Fuzzy.attempt_eq`: an attempt restores the pattern, so none depends on those before it;
* `Fuzzy.isSome_score_iff`: a pattern scores where it occurs, whatever the case;
* `Fuzzy.gracefulScore_forgives`: the graceful score is the score of the pattern as typed, and else
  the best one after an exchange.
-/

namespace ProviderHub.Fuzzy

variable {pattern word : List Char}

/-! ### Exchanges -/

/-- The pattern with the characters at a place and at the next one exchanged. -/
def transposed (pattern : List Char) (i : Fin (pattern.length - 1)) : List Char :=
  List.ofFn (pattern.get ∘ Equiv.swap ⟨i, by omega⟩ ⟨i + 1, by omega⟩)

lemma getElem?_exchange {α : Type} {i : ℕ} {xs : List α} (hi : i + 1 < xs.length) (j : ℕ) :
    (exchange i xs)[j]? = xs[Equiv.swap i (i + 1) j]? := by
  fun_induction exchange i xs generalizing j with
  | case1 a b rest =>
      rcases j with _ | _ | j
      · rw [Equiv.swap_apply_left]
        rfl
      · rw [Equiv.swap_apply_right]
        rfl
      · rw [Equiv.swap_apply_of_ne_of_ne (by omega) (by omega)]
        rfl
  | case2 i a rest ih =>
      have hrest : i + 1 < rest.length := by simpa using hi
      cases j with
      | zero =>
          rw [Equiv.swap_apply_of_ne_of_ne (by omega) (by omega)]
          rfl
      | succ j =>
          have hplace : Equiv.swap (i + 1) (i + 1 + 1) (j + 1) = Equiv.swap i (i + 1) j + 1 := by
            simp only [Equiv.swap_apply_def, Nat.add_right_cancel_iff]
            split_ifs <;> rfl
          rw [List.getElem?_cons_succ, ih hrest, Nat.succ_eq_add_one, hplace,
            List.getElem?_cons_succ]
  | case3 i xs hnone hsome =>
      exfalso
      match i, xs with
      | 0, a :: b :: rest => exact hnone a b rest rfl rfl
      | i + 1, a :: rest => exact hsome i a rest rfl rfl

/-- **An exchange in a list** is one of two places. -/
lemma exchange_eq_transposed (pattern : List Char) (i : Fin (pattern.length - 1)) :
    exchange i pattern = transposed pattern i := by
  have hi : i.val + 1 < pattern.length := by omega
  refine List.ext_getElem? fun j => ?_
  rw [getElem?_exchange hi, transposed, List.getElem?_ofFn]
  split
  · rename_i hj
    rw [Function.comp_apply, List.get_eq_getElem, ← List.getElem?_eq_getElem,
      Equiv.swap_apply_def, Equiv.swap_apply_def]
    simp only [Fin.mk.injEq]
    split_ifs <;> rfl
  · rename_i hj
    rw [Equiv.swap_apply_of_ne_of_ne (by omega) (by omega), List.getElem?_eq_none (by omega)]

/-- The exchange of equal characters changes nothing. -/
lemma transposed_of_eq {i : Fin (pattern.length - 1)}
    (h : pattern[i.val]? = pattern[i.val + 1]?) : transposed pattern i = pattern := by
  have hi : i.val + 1 < pattern.length := by omega
  rw [← exchange_eq_transposed]
  refine List.ext_getElem? fun j => ?_
  rw [getElem?_exchange hi, Equiv.swap_apply_def]
  split_ifs with hleft hright
  · rw [hleft, h]
  · rw [hright, h]
  · rfl

/-- An exchange takes itself back. -/
lemma exchange_exchange {α : Type} (i : ℕ) (xs : List α) : exchange i (exchange i xs) = xs := by
  fun_induction exchange i xs with
  | case1 a b rest => rfl
  | case2 i a rest ih => rw [exchange, ih]
  | case3 i xs hnone hsome =>
      match i, xs with
      | 0, [] | 0, [_] | _ + 1, [] => rfl
      | 0, a :: b :: rest => exact (hnone a b rest rfl rfl).elim
      | i + 1, a :: rest => exact (hsome i a rest rfl rfl).elim

/-! ### Attempts -/

/-- What an attempt at a place adds to the scores of a pattern. -/
def attempted (pattern word : List Char) (i : ℕ) : Option ℤ :=
  if pattern[i]? = pattern[i + 1]? then none
  else (score (exchange i pattern) word).map (· - exchangeLoss)

/-- **An attempt restores the pattern**, and counts as if it were the only one. -/
lemma attempt_eq (word : List Char) (a : Attempts) (i : ℕ) :
    attempt word a i =
      ⟨a.pattern, Option.merge max a.best (attempted a.pattern word i)⟩ := by
  rw [attempt, attempted]
  split
  · rw [Option.merge_none_right]
  · dsimp only
    rw [exchange_exchange]

/-- All attempts start from the same pattern, and the best one counts. -/
lemma foldl_attempt (word : List Char) (places : List ℕ) (a : Attempts) :
    places.foldl (attempt word) a =
      ⟨a.pattern, Option.merge max a.best (places.filterMap (attempted a.pattern word)).max?⟩ := by
  induction places generalizing a with
  | nil => rw [List.foldl_nil, List.filterMap_nil, List.max?_nil, Option.merge_none_right]
  | cons i places ih =>
      rw [List.foldl_cons, ih, attempt_eq, List.filterMap_cons]
      cases attempted a.pattern word i with
      | none => rw [Option.merge_none_right]
      | some s =>
          rw [List.max?_cons]
          cases a.best <;> cases (places.filterMap (attempted a.pattern word)).max? <;>
            simp [Option.merge, max_assoc]

/-! ### Scores -/

/-- What a pattern scores after an exchange of neighbours among its first eight characters. -/
def transposedScores (pattern word : List Char) : Set ℤ :=
  {g | ∃ i : Fin (pattern.length - 1), i.val < 7 ∧
    ∃ s, score (transposed pattern i) word = some s ∧ g = s - 10}

/-- A pattern occurs in a word that is not too long: in order, whatever the case. -/
def Occurs (pattern word : List Char) : Prop :=
  word.length ≤ 128 ∧ (pattern.map Case.lower).Sublist (word.map Case.lower)

/-- **A pattern scores where it occurs.** -/
lemma isSome_score_iff (hpattern : pattern ≠ []) :
    (score pattern word).isSome = true ↔ Occurs pattern word := by
  have hoccurs : occursIn pattern word = true ↔
      (pattern.map Case.lower).Sublist (word.map Case.lower) := List.isSublist_iff_sublist
  rw [score, if_neg (by simpa using hpattern), Occurs]
  split
  · rename_i hlong
    refine iff_of_false Bool.false_ne_true ?_
    rintro ⟨hlength, hsublist⟩
    have hle := hsublist.length_le
    rw [List.length_map, List.length_map] at hle
    rw [maxLength] at hlong
    omega
  · rename_i hshort
    rw [maxLength] at hshort
    have hlength : word.length ≤ 128 := by omega
    by_cases h : occursIn pattern word = true
    · rw [if_pos h]
      refine iff_of_true ?_ ⟨hlength, hoccurs.mp h⟩
      rw [Option.isSome_iff_ne_none, ne_eq, (holds_lastRow hpattern hlength).max?_eq_none_iff,
        setOf_ends hpattern, Set.range_eq_empty_iff, not_isEmpty_iff]
      exact (occursIn_iff pattern word).mp h
    · rw [if_neg h]
      exact iff_of_false Bool.false_ne_true fun hall => h (hoccurs.mpr hall.2)

/-- No score is missed when equal neighbours are not exchanged. -/
lemma mem_attempted_iff (hnone : score pattern word = none) {g : ℤ} :
    g ∈ (exchangePlaces pattern).filterMap (attempted pattern word) ↔
      g ∈ transposedScores pattern word := by
  rw [List.mem_filterMap, exchangePlaces]
  simp only [List.mem_range, lt_min_iff, maxExchanges]
  constructor
  · rintro ⟨i, ⟨hi, hfew⟩, hg⟩
    rw [attempted, exchange_eq_transposed pattern ⟨i, hi⟩] at hg
    split at hg
    · cases hg
    · obtain ⟨s, hs, rfl⟩ := Option.map_eq_some_iff.mp hg
      exact ⟨⟨i, hi⟩, hfew, s, hs, rfl⟩
  · rintro ⟨i, hfew, s, hs, rfl⟩
    have hne : pattern[i.val]? ≠ pattern[i.val + 1]? := fun heq => by
      rw [transposed_of_eq heq, hnone] at hs
      cases hs
    refine ⟨i, ⟨i.isLt, hfew⟩, ?_⟩
    rw [attempted, if_neg hne, exchange_eq_transposed, hs]
    rfl

/-- Without a score of the pattern as typed, the best one after an exchange counts. -/
lemma gracefulScore_of_none (hnone : score pattern word = none) (hlong : 3 ≤ pattern.length) :
    (∀ g, gracefulScore pattern word = some g ↔ IsGreatest (transposedScores pattern word) g) ∧
      (gracefulScore pattern word = none ↔ transposedScores pattern word = ∅) := by
  have hmem (g : ℤ) := mem_attempted_iff hnone (g := g)
  have hbest : gracefulScore pattern word =
      ((exchangePlaces pattern).filterMap (attempted pattern word)).max? := by
    rw [gracefulScore, hnone]
    dsimp only
    rw [if_neg (by rw [minExchanged]; omega), foldl_attempt, Option.merge_none_left]
  rw [hbest, List.max?_eq_none_iff, Set.eq_empty_iff_forall_notMem,
    List.eq_nil_iff_forall_not_mem]
  refine ⟨fun g => ?_, forall_congr' fun g => not_congr (hmem g)⟩
  rw [List.max?_eq_some_iff]
  exact and_congr (hmem g) (forall_congr' fun g' => imp_congr_left (hmem g'))

/-- **The graceful score forgives one exchange of neighbours.** A pattern that scores as typed keeps
its score. Of other patterns, those with fewer than three characters have no graceful score, and
longer ones the greatest score, less ten, that an exchange of two neighbours gives, of which only
the first seven are tried. So a pattern with at least three characters has a graceful score exactly
if it occurs in the word, as typed or after one of these exchanges. -/
theorem gracefulScore_forgives (pattern word : List Char) :
    (∀ s, score pattern word = some s → gracefulScore pattern word = some s) ∧
    (score pattern word = none → pattern.length < 3 → gracefulScore pattern word = none) ∧
    (score pattern word = none → 3 ≤ pattern.length →
      (∀ g, gracefulScore pattern word = some g ↔ IsGreatest (transposedScores pattern word) g) ∧
      (gracefulScore pattern word = none ↔ transposedScores pattern word = ∅)) ∧
    (3 ≤ pattern.length → ((gracefulScore pattern word).isSome = true ↔ Occurs pattern word ∨
      ∃ i : Fin (pattern.length - 1), i.val < 7 ∧ Occurs (transposed pattern i) word)) := by
  have hkept {s : ℤ} (hs : score pattern word = some s) :
      gracefulScore pattern word = some s := by rw [gracefulScore, hs]
  refine ⟨fun s hs => hkept hs, fun hnone hshort => ?_, gracefulScore_of_none, fun hlong => ?_⟩
  · rw [gracefulScore, hnone]
    exact if_pos hshort
  · have hpattern : pattern ≠ [] := List.length_pos_iff.mp (by omega)
    have htransposed (i : Fin (pattern.length - 1)) : transposed pattern i ≠ [] := by
      rw [← List.length_pos_iff, transposed, List.length_ofFn]
      omega
    rw [← isSome_score_iff hpattern]
    cases hscore : score pattern word with
    | some s => simp [hkept hscore]
    | none =>
        obtain ⟨-, hempty⟩ := gracefulScore_of_none hscore hlong
        rw [Option.isSome_iff_ne_none, ne_eq, hempty, ← ne_eq, ← Set.nonempty_iff_ne_empty]
        simp only [Option.isSome_none, Bool.false_eq_true, false_or,
          ← isSome_score_iff (htransposed _), Option.isSome_iff_exists]
        constructor
        · rintro ⟨g, i, hfew, s, hs, -⟩
          exact ⟨i, hfew, s, hs⟩
        · rintro ⟨i, hfew, s, hs⟩
          exact ⟨_, i, hfew, s, hs, rfl⟩

/-- Two exchanges of which one gives more, a pattern that is too short for one, and a pattern that
needs none. -/
theorem gracefulScore_forgives_twoWays :
    IsGreatest (transposedScores ['a', 'b', 'c'] ['b', 'a', 'c', 'b']) 76 ∧
      (Occurs ['a', 'b', 'c'] ['b', 'a', 'c', 'b'] ∨ ∃ i : Fin 2, i.val < 7 ∧
        Occurs (transposed ['a', 'b', 'c'] i) ['b', 'a', 'c', 'b']) ∧
      gracefulScore ['a', 'b'] ['b', 'a', 'c'] = none ∧
      gracefulScore ['a', 'c', 'b'] ['b', 'a', 'c', 'b'] = some 38 := by
  obtain ⟨-, -, hlong, hoccurs⟩ := gracefulScore_forgives ['a', 'b', 'c'] ['b', 'a', 'c', 'b']
  obtain ⟨-, hshort, -⟩ := gracefulScore_forgives ['a', 'b'] ['b', 'a', 'c']
  obtain ⟨hkept, -⟩ := gracefulScore_forgives ['a', 'c', 'b'] ['b', 'a', 'c', 'b']
  refine ⟨((hlong ?_ ?_).1 76).mp ?_, (hoccurs ?_).mp ?_, hshort ?_ ?_, hkept 38 ?_⟩ <;>
    decide +kernel

end ProviderHub.Fuzzy
