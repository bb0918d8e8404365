import Mathlib.Tactic
import ProviderHub.Proofs.Completion.Table

/-!
The score as the best alignment of a pattern with a word.

* `Fuzzy.Alignment`, `Fuzzy.Alignment.worth`: the ways to find the characters of a pattern in a
  word, in order, and what they are worth;
* `Fuzzy.ends_iff`: the table goes through all of them;
* `Fuzzy.occursIn_iff`: the check before the table is filled tells whether there is one;
* `Fuzzy.score_optimal`: the score is the greatest worth of an alignment.
-/

namespace ProviderHub.Fuzzy

/-- What a place of a word is worth: its start, the start of a part of it, or neither. -/
def positionGain (word : List Char) (j : Fin word.length) : ℤ :=
  placeGain (if j.val = 0 then none else word[j.val - 1]?) word[j]

/-- What a character of a pattern is worth at a place of a word. -/
def matchWorth (word : List Char) (p : Char) (j : Fin word.length) : ℤ :=
  matchGain + positionGain word j + (if word[j] = p then sameCaseGain else 0)

/-- **A way to find a pattern in a word**: the characters stand in order, whatever their case. -/
@[ext]
structure Alignment (pattern word : List Char) where
  place : Fin pattern.length → Fin word.length
  increasing : StrictMono place
  agrees : ∀ i, Case.lower word[place i] = Case.lower pattern[i]

namespace Alignment

variable {pattern word : List Char} {p : Char} {j : Fin word.length}

/-- What the way to a character is worth from the one before it, if there is one. -/
def wayWorth (a : Alignment pattern word) (i : Fin pattern.length) : ℤ :=
  if i.val = 0 then 0
  else stepGain (a.place ⟨i.val - 1, (Nat.sub_le _ _).trans_lt i.isLt⟩) (a.place i)

/-- What an alignment is worth. -/
def worth (a : Alignment pattern word) : ℤ :=
  ∑ i, (matchWorth word pattern[i] (a.place i) + a.wayWorth i)

/-- The last character of the pattern stands at a place. -/
def EndsAt (a : Alignment pattern word) (k : ℕ) : Prop :=
  ∃ i : Fin pattern.length, i.val + 1 = pattern.length ∧ (a.place i).val = k

/-! ### One more character -/

/-- An alignment with one more character, behind the others. -/
def snoc (a : Alignment pattern word) (hj : ∀ i, a.place i < j)
    (hp : Case.lower word[j] = Case.lower p) : Alignment (pattern ++ [p]) word where
  place i := if hi : i.val < pattern.length then a.place ⟨i, hi⟩ else j
  increasing i i' hii' := by
    have hlt : i.val < i'.val := hii'
    have hi' : i'.val < pattern.length + 1 := by simpa using i'.isLt
    have hi : i.val < pattern.length := by omega
    simp only [hi, dif_pos]
    split
    · exact a.increasing hlt
    · exact hj _
  agrees i := by
    by_cases hi : i.val < pattern.length
    · simp only [hi, dif_pos, Fin.getElem_fin, List.getElem_append_left]
      exact a.agrees ⟨i, hi⟩
    · have hi' : i.val = pattern.length := by
        have := i.isLt
        simp at this
        omega
      simp only [hi', lt_irrefl, dif_neg, not_false_eq_true, Fin.getElem_fin,
        List.getElem_concat_length]
      exact hp

/-- An alignment without its last character. -/
def init (a : Alignment (pattern ++ [p]) word) : Alignment pattern word where
  place i := a.place ⟨i, by simp⟩
  increasing i i' hii' := a.increasing hii'
  agrees i := by
    have h := a.agrees ⟨i, by simp⟩
    simp only [Fin.getElem_fin, List.getElem_append_left i.isLt] at h
    exact h

/-- The way to a place behind an alignment. -/
def wayTo (a : Alignment pattern word) (j : ℕ) : ℤ :=
  if h : pattern.length = 0 then 0
  else stepGain (a.place ⟨pattern.length - 1, Nat.sub_one_lt h⟩) j

lemma snoc_place_of_lt (a : Alignment pattern word) (hj : ∀ i, a.place i < j)
    (hp : Case.lower word[j] = Case.lower p) {i : ℕ} (hi : i < pattern.length)
    (hi' : i < (pattern ++ [p]).length) : (a.snoc hj hp).place ⟨i, hi'⟩ = a.place ⟨i, hi⟩ :=
  dif_pos hi

lemma snoc_place_length (a : Alignment pattern word) (hj : ∀ i, a.place i < j)
    (hp : Case.lower word[j] = Case.lower p) (h : pattern.length < (pattern ++ [p]).length) :
    (a.snoc hj hp).place ⟨pattern.length, h⟩ = j :=
  dif_neg (lt_irrefl _)

lemma worth_snoc (a : Alignment pattern word) (hj : ∀ i, a.place i < j)
    (hp : Case.lower word[j] = Case.lower p) :
    (a.snoc hj hp).worth = a.worth + (matchWorth word p j + a.wayTo j) := by
  have hlength : pattern.length + 1 = (pattern ++ [p]).length := by simp
  rw [worth, ← Fin.sum_congr' _ hlength, Fin.sum_univ_castSucc, worth]
  congr 1
  · refine Finset.sum_congr rfl fun i _ => ?_
    have hplace {k : ℕ} (hk : k < pattern.length) := a.snoc_place_of_lt hj hp hk
    have hi : Fin.cast hlength i.castSucc = ⟨i.val, by simp⟩ := rfl
    rw [hi, wayWorth, wayWorth]
    simp only [Fin.getElem_fin, List.getElem_append_left i.isLt, hplace i.isLt,
      hplace ((Nat.sub_le i.val 1).trans_lt i.isLt)]
  · have hi : Fin.cast hlength (Fin.last pattern.length) = ⟨pattern.length, by simp⟩ := rfl
    rw [hi, wayWorth, wayTo, snoc_place_length]
    simp only [Fin.getElem_fin, List.getElem_concat_length]
    split
    · rfl
    · rename_i hpos
      rw [snoc_place_of_lt _ _ _ (Nat.sub_one_lt hpos)]

/-- Every alignment is made so. -/
lemma eq_snoc (a : Alignment (pattern ++ [p]) word) :
    ∃ (b : Alignment pattern word) (j : Fin word.length) (hj : ∀ i, b.place i < j)
      (hp : Case.lower word[j] = Case.lower p), a = b.snoc hj hp := by
  have hlast : pattern.length < (pattern ++ [p]).length := by simp
  have hj : ∀ i, a.init.place i < a.place ⟨pattern.length, hlast⟩ :=
    fun i => a.increasing (Fin.lt_def.mpr i.isLt)
  have hp : Case.lower word[a.place ⟨pattern.length, hlast⟩] = Case.lower p := by
    have h := a.agrees ⟨pattern.length, hlast⟩
    simp only [Fin.getElem_fin, List.getElem_concat_length] at h
    exact h
  refine ⟨a.init, _, hj, hp, Alignment.ext (funext fun ⟨i, hi⟩ => ?_)⟩
  rcases Nat.lt_succ_iff_lt_or_eq.mp (by simpa using hi) with hlt | rfl
  · exact (a.init.snoc_place_of_lt hj hp hlt hi).symm
  · exact (a.init.snoc_place_length hj hp hi).symm

lemma endsAt_snoc (a : Alignment pattern word) (hj : ∀ i, a.place i < j)
    (hp : Case.lower word[j] = Case.lower p) {k : ℕ} : (a.snoc hj hp).EndsAt k ↔ j.val = k := by
  have hlast : pattern.length < (pattern ++ [p]).length := by simp
  constructor
  · rintro ⟨⟨i, hi⟩, hlen, rfl⟩
    have hi' : i = pattern.length := by simpa using hlen
    subst hi'
    rw [snoc_place_length]
  · rintro rfl
    exact ⟨⟨pattern.length, hlast⟩, by simp, by rw [snoc_place_length]⟩

/-- The last character stands behind all others. -/
lemma EndsAt.le {a : Alignment pattern word} {k : ℕ} (h : a.EndsAt k) (i : Fin pattern.length) :
    (a.place i).val ≤ k := by
  obtain ⟨i', hi', rfl⟩ := h
  exact a.increasing.monotone (by rw [Fin.le_def]; omega)

lemma EndsAt.wayTo_eq {a : Alignment pattern word} {k : ℕ} (h : a.EndsAt k) (j : ℕ) :
    a.wayTo j = stepGain k j := by
  obtain ⟨i, hi, rfl⟩ := h
  have hpos : pattern.length ≠ 0 := by omega
  have hlast : (⟨pattern.length - 1, Nat.sub_one_lt hpos⟩ : Fin pattern.length) = i := by
    ext
    show pattern.length - 1 = i.val
    omega
  rw [wayTo, dif_neg hpos, hlast]

end Alignment

/-! ### Alignments and the table -/

variable {pattern word : List Char}

lemma getElem?_letters (previous : Option Char) (word : List Char) (j : ℕ) :
    (letters previous word)[j]? = word[j]?.map fun c =>
      ⟨c, placeGain (if j = 0 then previous else word[j - 1]?) c⟩ := by
  induction word generalizing previous j with
  | nil => rfl
  | cons c rest ih =>
      cases j with
      | zero => rfl
      | succ j =>
          rw [letters, List.getElem?_cons_succ, ih, List.getElem?_cons_succ,
            if_neg (Nat.succ_ne_zero j), Nat.add_sub_cancel]
          cases j <;> rfl

/-- The letter at a place of a word. -/
def letterAt (word : List Char) (j : Fin word.length) : Letter := ⟨word[j], positionGain word j⟩

lemma getElem?_letters_eq_some {j : ℕ} {l : Letter} :
    (letters none word)[j]? = some l ↔ ∃ hj : j < word.length, l = letterAt word ⟨j, hj⟩ := by
  rw [getElem?_letters]
  by_cases hj : j < word.length
  · rw [List.getElem?_eq_getElem hj]
    exact ⟨fun h => ⟨hj, (Option.some_inj.mp h).symm⟩, fun ⟨_, h⟩ => congrArg some h.symm⟩
  · rw [List.getElem?_eq_none (Nat.le_of_not_lt hj)]
    exact iff_of_false nofun fun ⟨hlt, _⟩ => hj hlt

lemma letterGain_letterAt (p : Char) (j : Fin word.length) :
    letterGain p (letterAt word j) = matchWorth word p j := rfl

/-- What a match starts from is the way to it from an alignment of all before it. -/
lemma mem_bases_iff {j : ℕ} {b : ℤ}
    (hends : ∀ k s, Ends (letters none word) pattern.reverse k s ↔
      ∃ a : Alignment pattern word, a.EndsAt k ∧ a.worth = s) :
    b ∈ bases (letters none word) pattern.reverse j ↔
      ∃ a : Alignment pattern word, (∀ i, (a.place i).val < j) ∧ b = a.worth + a.wayTo j := by
  rw [bases]
  by_cases hpattern : pattern = []
  · subst hpattern
    have hnil (a : Alignment [] word) : a.worth + a.wayTo j = 0 := rfl
    constructor
    · rintro rfl
      have hnone (i : Fin ([] : List Char).length) : False := i.elim0
      exact ⟨⟨fun i => (hnone i).elim, fun i => (hnone i).elim, fun i => (hnone i).elim⟩,
        fun i => (hnone i).elim, rfl⟩
    · rintro ⟨a, -, rfl⟩
      exact hnil a
  · rw [List.isEmpty_reverse, List.isEmpty_eq_false_iff.mpr hpattern]
    constructor
    · rintro ⟨k, s, hk, hs, rfl⟩
      obtain ⟨a, hlast, rfl⟩ := (hends k s).mp hs
      exact ⟨a, fun i => (hlast.le i).trans_lt hk, by rw [hlast.wayTo_eq]⟩
    · rintro ⟨a, hbefore, rfl⟩
      have hpos : 0 < pattern.length := List.length_pos_iff.mpr hpattern
      have hlast : a.EndsAt (a.place ⟨pattern.length - 1, Nat.sub_one_lt hpos.ne'⟩) :=
        ⟨_, Nat.sub_add_cancel hpos, rfl⟩
      exact ⟨_, a.worth, hbefore _, (hends _ _).mpr ⟨a, hlast, rfl⟩, by rw [hlast.wayTo_eq]⟩

/-- **The table goes through all alignments**, by the place of the last character. -/
lemma ends_iff (pattern word : List Char) (k : ℕ) (s : ℤ) :
    Ends (letters none word) pattern.reverse k s ↔
      ∃ a : Alignment pattern word, a.EndsAt k ∧ a.worth = s := by
  induction pattern using List.reverseRecOn generalizing k s with
  | nil => exact iff_of_false not_ends_nil fun ⟨a, ⟨i, _⟩, _⟩ => i.elim0
  | append_singleton pattern p ih =>
      rw [List.reverse_concat, ends_cons_iff]
      constructor
      · rintro ⟨l, hl, hp, b, hb, rfl⟩
        obtain ⟨hk, rfl⟩ := getElem?_letters_eq_some.mp hl
        obtain ⟨a, hbefore, rfl⟩ := (mem_bases_iff ih).mp hb
        have hj : ∀ i, a.place i < ⟨k, hk⟩ := hbefore
        have hp : Case.lower word[(⟨k, hk⟩ : Fin word.length)] = Case.lower p := hp
        refine ⟨a.snoc hj hp, (a.endsAt_snoc hj hp).mpr rfl, ?_⟩
        rw [a.worth_snoc, letterGain_letterAt]
        ring
      · rintro ⟨a, hlast, rfl⟩
        obtain ⟨b, j, hj, hp, rfl⟩ := a.eq_snoc
        obtain rfl := (b.endsAt_snoc hj hp).mp hlast
        refine ⟨letterAt word j, getElem?_letters_eq_some.mpr ⟨j.isLt, rfl⟩, hp,
          b.worth + b.wayTo j, (mem_bases_iff ih).mpr ⟨b, hj, rfl⟩, ?_⟩
        rw [b.worth_snoc, letterGain_letterAt]
        ring

/-- The scores in the table are what alignments are worth. -/
lemma setOf_ends (hpattern : pattern ≠ []) :
    {s | ∃ j, Ends (letters none word) pattern.reverse j s} =
      Set.range fun a : Alignment pattern word => a.worth := by
  ext s
  constructor
  · rintro ⟨j, hs⟩
    obtain ⟨a, -, rfl⟩ := (ends_iff pattern word j s).mp hs
    exact ⟨a, rfl⟩
  · rintro ⟨a, rfl⟩
    have hpos : 0 < pattern.length := List.length_pos_iff.mpr hpattern
    exact ⟨_, (ends_iff pattern word _ _).mpr
      ⟨a, ⟨⟨pattern.length - 1, Nat.sub_one_lt hpos.ne'⟩, Nat.sub_add_cancel hpos, rfl⟩, rfl⟩⟩

/-! ### The check before the table is filled -/

/-- **The check is exact**: it tells whether there is an alignment. -/
lemma occursIn_iff (pattern word : List Char) :
    occursIn pattern word = true ↔ Nonempty (Alignment pattern word) := by
  have hlength (cs : List Char) : cs.length = (cs.map Case.lower).length :=
    (List.length_map ..).symm
  rw [occursIn, List.isSublist_iff_sublist, List.sublist_iff_exists_fin_orderEmbedding_get_eq]
  constructor
  · rintro ⟨f, hf⟩
    refine ⟨⟨fun i => (f (i.cast (hlength pattern))).cast (hlength word).symm,
      fun i i' hii' => f.strictMono hii', fun i => ?_⟩⟩
    have h := hf (i.cast (hlength pattern))
    simp only [List.get_eq_getElem, List.getElem_map] at h
    exact h.symm
  · rintro ⟨a⟩
    have hmono : StrictMono fun i : Fin (pattern.map Case.lower).length =>
        (a.place (i.cast (hlength pattern).symm)).cast (hlength word) :=
      fun i i' hii' => a.increasing hii'
    refine ⟨OrderEmbedding.ofStrictMono _ hmono, fun i => ?_⟩
    have h := a.agrees (i.cast (hlength pattern).symm)
    simp only [List.get_eq_getElem, List.getElem_map, OrderEmbedding.coe_ofStrictMono]
    exact h.symm

/-! ### The score -/

/-- **The score is the best alignment.** For a pattern that is not empty, nor longer than the word,
and a word that is not too long, there is no score if and only if there is no alignment, and a score
is the greatest worth of one. The empty pattern scores zero in every word, and a pattern that is
longer than the word has no score, nor has one that is too long or in a word that is. -/
theorem score_optimal (pattern word : List Char) :
    (1 ≤ pattern.length → pattern.length ≤ word.length → word.length ≤ maxLength →
      (score pattern word = none ↔ IsEmpty (Alignment pattern word)) ∧
      ∀ s, score pattern word = some s ↔
        IsGreatest (Set.range fun a : Alignment pattern word => a.worth) s) ∧
    score [] word = some 0 ∧
    (1 ≤ pattern.length → word.length < pattern.length ∨ maxLength < pattern.length ∨
      maxLength < word.length → score pattern word = none) := by
  refine ⟨fun hpos hle hlength => ?_, rfl, fun hpos hlong => ?_⟩
  · have hpattern : pattern ≠ [] := List.length_pos_iff.mp hpos
    have hrow := holds_lastRow hpattern hlength
    rw [score, if_neg (by simpa using hpattern), if_neg (by omega)]
    by_cases hoccurs : occursIn pattern word = true
    · rw [if_pos hoccurs]
      refine ⟨?_, fun s => ?_⟩
      · rw [hrow.max?_eq_none_iff, setOf_ends hpattern, Set.range_eq_empty_iff]
      · rw [hrow.max?_eq_some_iff, setOf_ends hpattern]
    · have hempty : IsEmpty (Alignment pattern word) :=
        not_nonempty_iff.mp fun h => hoccurs ((occursIn_iff pattern word).mpr h)
      rw [if_neg hoccurs, Set.range_eq_empty]
      exact ⟨iff_of_true rfl hempty, fun s => iff_of_false nofun fun h => h.1⟩
  · have hpattern : pattern ≠ [] := List.length_pos_iff.mp hpos
    rw [score, if_neg (by simpa using hpattern), if_pos hlong]

/-- The start of the word and a hump over a gap, no place for the characters in the other order, and
a pattern that is longer than the word. -/
theorem score_optimal_hump :
    IsGreatest (Set.range fun a : Alignment ['f', 'b'] ['f', 'o', 'o', 'B', 'a', 'r'] => a.worth)
        67 ∧
      IsEmpty (Alignment ['b', 'f'] ['f', 'o', 'o', 'B', 'a', 'r']) ∧
      score ['f', 'o', 'o'] ['f', 'o'] = none := by
  obtain ⟨hbest, -⟩ := score_optimal ['f', 'b'] ['f', 'o', 'o', 'B', 'a', 'r']
  obtain ⟨hnone, -⟩ := score_optimal ['b', 'f'] ['f', 'o', 'o', 'B', 'a', 'r']
  obtain ⟨-, -, hlong⟩ := score_optimal ['f', 'o', 'o'] ['f', 'o']
  refine ⟨((hbest ?_ ?_ ?_).2 67).mp ?_, (hnone ?_ ?_ ?_).1.mp ?_, hlong ?_ (.inl ?_)⟩ <;>
    decide +kernel

end ProviderHub.Fuzzy
