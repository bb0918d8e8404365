import ProviderHub.Proofs.Completion.Alignment

/-!
Scores within bounds.

The table is filled with words of 32 bits, of which one marks the places without a match. A match
loses at most three for each place that it skips, and gains at most sixty-six for each character, so
for words of at most 128 characters all scores are small: no sum leaves its word, and no score comes
near the mark.

* `Fuzzy.Checked`: the table filled with checks, of every sum for the size of a word, and of every
  value that is kept for being the mark or a small score;
* `Fuzzy.Ends.le_gain`: what a match up to a place scores at most;
* `Fuzzy.checked_nextRow`: no check fails in a row;
* `Fuzzy.Holds.exists_cell`: a cell is above the mark exactly if a match ends at its place;
* `Fuzzy.table_stays_bounded`: no check fails at all, and all scores are small.
-/

namespace ProviderHub.Fuzzy

/-! ### Checks -/

/-- A small score. -/
def InScale (s : ℤ) : Prop := -2 ^ 15 ≤ s ∧ s ≤ 2 ^ 15

/-- What the table may keep: the mark or a small score. -/
def Keepable (v : ℤ) : Prop := v = unmatched ∨ InScale v

/-- A signed word of 32 bits. -/
def IsWord (v : ℤ) : Prop := -2 ^ 31 ≤ v ∧ v < 2 ^ 31

instance (s : ℤ) : Decidable (InScale s) := inferInstanceAs (Decidable (_ ∧ _))

instance (v : ℤ) : Decidable (Keepable v) := inferInstanceAs (Decidable (_ ∨ _))

instance (v : ℤ) : Decidable (IsWord v) := inferInstanceAs (Decidable (_ ∧ _))

lemma InScale.isWord {s : ℤ} (h : InScale s) : IsWord s := by
  obtain ⟨hlow, hhigh⟩ := h
  exact ⟨by omega, by omega⟩

/-! The table once more, with a check wherever something is added or kept. -/

namespace Checked

/-- A sum, if it is a word. -/
def add (a b : ℤ) : Option ℤ := if IsWord (a + b) then some (a + b) else none

/-- A value, if the table may keep it. -/
def keep (v : ℤ) : Option ℤ := if Keepable v then some v else none

/-- A score with something added, unless there is none. -/
def plus (score change : ℤ) : Option ℤ :=
  if unmatched < score then add score change else some score

/-- What matching a pattern character with a letter gains. -/
def letterGain (p : Char) (l : Letter) : Option ℤ := do
  let gain ← add matchGain l.gain
  if l.char = p then add gain sameCaseGain else some gain

/-- What a match starts from. -/
def base (first : Bool) (one gapped : ℤ) : Option ℤ := do
  if first then some 0
  else
    let consecutive ← plus one consecutiveGain
    some (max consecutive gapped)

/-- The score with the last character at a place. -/
def cell (first : Bool) (p : Char) (l : Letter) (one gapped : ℤ) : Option ℤ := do
  if Case.lower l.char = Case.lower p then
    let gain ← letterGain p l
    let base ← base first one gapped
    if unmatched < base then add base gain else some unmatched
  else some unmatched

/-- The next row of the table. -/
def nextRow (first : Bool) (p : Char) (two one gapped : ℤ) :
    List (Letter × ℤ) → Option (List ℤ)
  | [] => some []
  | (l, here) :: rest => do
    let start ← plus two (-gapStartLoss)
    let gapped ← keep (max gapped start)
    let score ← cell first p l one gapped
    let score ← keep score
    let longer ← plus gapped (-gapLoss)
    let longer ← keep longer
    let scores ← nextRow first p one here longer rest
    some (score :: scores)

/-- The row after one more pattern character. -/
def row (first : Bool) (word : List Letter) (previous : List ℤ) (p : Char) : Option (List ℤ) :=
  nextRow first p unmatched unmatched unmatched (word.zip previous)

/-- The last row of the table, for a pattern after its first character. -/
def rows (word : List Letter) : List ℤ → List Char → Option (List ℤ)
  | previous, [] => some previous
  | previous, p :: rest => do
    let next ← row false word previous p
    rows word next rest

/-- The last row of the table. -/
def lastRow (pattern word : List Char) : Option (List ℤ) :=
  let letters := letters none word
  match pattern with
  | [] => some []
  | p :: rest => do
    let first ← row true letters (word.map fun _ => unmatched) p
    rows letters first rest

/-- The score of the best match of a pattern with a word. -/
def score (pattern word : List Char) : Option (Option ℤ) := do
  if pattern.isEmpty then some (some 0)
  else if word.length < pattern.length ∨ maxLength < pattern.length ∨ maxLength < word.length then
    some none
  else if occursIn pattern word then
    let cells ← lastRow pattern word
    some (cells.filter (unmatched < ·)).max?
  else some none

/-- The score of a pattern after an exchange. -/
def exchangedScore (word pattern : List Char) : Option (Option ℤ) := do
  match ← score pattern word with
  | some s =>
    let lowered ← add s (-exchangeLoss)
    some (some lowered)
  | none => some none

/-- Tries one exchange. -/
def attempt (word : List Char) (a : Attempts) (i : ℕ) : Option Attempts := do
  if a.pattern[i]? = a.pattern[i + 1]? then some a
  else
    let permuted := exchange i a.pattern
    let found ← exchangedScore word permuted
    some { pattern := exchange i permuted, best := Option.merge max a.best found }

/-- The score of the pattern as typed, or else the best score after one exchange. -/
def gracefulScore (pattern word : List Char) : Option (Option ℤ) := do
  match ← score pattern word with
  | some s => some (some s)
  | none =>
    if pattern.length < minExchanged then some none
    else
      let attempts ← (exchangePlaces pattern).foldlM (attempt word) ⟨pattern, none⟩
      some attempts.best

end Checked

/-! ### What scores can be -/

/-- A word whose scores stay small. -/
structure Measured (word : List Letter) : Prop extends Scorable word where
  gain_le : ∀ l ∈ word, l.gain ≤ startGain

section bounds

variable {word : List Letter} {before : List Char} {p : Char} {k j steps : ℕ} {s b : ℤ}

lemma stepGain_le (hk : k < j) : stepGain k j ≤ 16 := by
  rw [stepGain, consecutiveGain, gapStartLoss, gapLoss]
  split <;> omega

lemma letterGain_le {l : Letter} (hl : l.gain ≤ startGain) (p : Char) : letterGain p l ≤ 50 := by
  rw [startGain] at hl
  rw [letterGain, matchGain, sameCaseGain]
  split <;> omega

/-- **A match gains at most sixty-six for each place** up to its own: as its characters stand at
different places, each of them is worth no more than that. -/
lemma Ends.le_gain (h : Ends word before j s) (hword : Measured word) : s ≤ 66 * ((j : ℤ) + 1) := by
  have hletter {j : ℕ} {l : Letter} (hl : word[j]? = some l) (p : Char) : letterGain p l ≤ 50 :=
    letterGain_le (hword.gain_le l (List.mem_of_getElem? hl)) p
  induction h with
  | @first p j l hl hp =>
      have := hletter hl p
      omega
  | @next p q before k j l s hbefore hk hl hp ih =>
      calc s + stepGain k j + letterGain p l
          ≤ 66 * ((k : ℤ) + 1) + 16 + 50 :=
            add_le_add (add_le_add ih (stepGain_le hk)) (hletter hl p)
        _ = 66 * ((k : ℤ) + 2) := by ring
        _ ≤ 66 * ((j : ℤ) + 1) := by omega

/-- The place of a match is one of at most 128. -/
lemma place_le (hword : Measured word) (hj : j < word.length) : (j : ℤ) ≤ 127 := by
  have := hword.length_le
  rw [maxLength] at this
  omega

/-- What is scored at a place leaves room for what a way from there is worth. -/
lemma Ends.inScale_add (h : Ends word before j s) (hword : Measured word) {change : ℤ}
    (hlow : -16 ≤ change) (hhigh : change ≤ 16) : InScale (s + change) := by
  have := h.le hword.toScorable
  have := h.le_gain hword
  have := place_le hword h.lt
  exact ⟨by omega, by omega⟩

lemma Ends.inScale (h : Ends word before j s) (hword : Measured word) : InScale s := by
  rw [← add_zero s]
  exact h.inScale_add hword (by decide) (by decide)

/-- What a place is reached with leaves room for a longer gap. -/
lemma reached_inScale_add (h : b ∈ reached word before 2 j) (hword : Measured word)
    (hj : j < word.length) {change : ℤ} (hlow : -gapLoss ≤ change) (hhigh : change ≤ 0) :
    InScale (b + change) := by
  obtain ⟨k, s, hk, hends, rfl⟩ := h
  have := hends.le hword.toScorable
  have := hends.le_gain hword
  have := le_stepGain k j
  have := stepGain_le (show k < j by omega)
  have := place_le hword hj
  rw [gapLoss] at hlow
  exact ⟨by omega, by omega⟩

lemma reached_inScale (h : b ∈ reached word before 2 j) (hword : Measured word)
    (hj : j < word.length) : InScale b := by
  rw [← add_zero b]
  exact reached_inScale_add h hword hj (by decide) (le_refl 0)

end bounds

/-! ### No check fails -/

section checks

variable {S : Set ℤ} {a change : ℤ}

lemma checked_add {a b : ℤ} (h : InScale (a + b)) : Checked.add a b = some (a + b) :=
  if_pos h.isWord

/-- The greatest of small scores may be kept. -/
lemma IsBest.keepable (h : IsBest S a) (hS : ∀ s ∈ S, InScale s) : Keepable a := by
  rcases h with ⟨-, rfl⟩ | ⟨-, hgreatest⟩
  · exact .inl rfl
  · exact .inr (hS a hgreatest.1)

lemma IsBest.keep_eq (h : IsBest S a) (hS : ∀ s ∈ S, InScale s) : Checked.keep a = some a :=
  if_pos (h.keepable hS)

lemma IsBest.plus_eq (h : IsBest S a) (hS : ∀ s ∈ S, InScale (s + change)) :
    Checked.plus a change = some (plus a change) := by
  rw [Checked.plus, plus]
  split
  · rename_i hlt
    rcases h with ⟨-, rfl⟩ | ⟨-, hgreatest⟩
    · exact absurd hlt (lt_irrefl _)
    · exact checked_add (hS a hgreatest.1)
  · rfl

lemma checked_letterGain {l : Letter} (hnonneg : 0 ≤ l.gain) (hle : l.gain ≤ startGain)
    (p : Char) : Checked.letterGain p l = some (letterGain p l) := by
  rw [startGain] at hle
  have hgain : Checked.add matchGain l.gain = some (matchGain + l.gain) :=
    checked_add (by rw [InScale, matchGain]; omega)
  have hcase : Checked.add (matchGain + l.gain) sameCaseGain =
      some (matchGain + l.gain + sameCaseGain) :=
    checked_add (by rw [InScale, matchGain, sameCaseGain]; omega)
  rw [Checked.letterGain, hgain, Option.bind_eq_bind, Option.bind_some, hcase, letterGain]
  split
  · rfl
  · rw [add_zero]

variable {word : List Letter} {before : List Char} {j : ℕ} {l : Letter} {one gapped : ℤ}

lemma checked_base (hword : Measured word) (hone : IsBest (endsBack word before 1 j) one) :
    Checked.base before.isEmpty one gapped =
      some (if before.isEmpty then 0 else max (plus one consecutiveGain) gapped) := by
  have hplus : Checked.plus one consecutiveGain = some (plus one consecutiveGain) := by
    refine hone.plus_eq ?_
    rintro s ⟨k, rfl, hends⟩
    exact hends.inScale_add hword (by decide) (by decide)
  rw [Checked.base, hplus]
  split <;> rfl

/-- No check fails in a cell. -/
lemma checked_cell {base : ℤ} (hword : Measured word) (hl : word[j]? = some l)
    (hbase : Checked.base before.isEmpty one gapped = some base)
    (hbest : IsBest (bases word before j) base) (p : Char) :
    Checked.cell before.isEmpty p l one gapped =
      some (if Case.lower l.char = Case.lower p ∧ unmatched < base then base + letterGain p l
        else unmatched) := by
  have hmem := List.mem_of_getElem? hl
  rw [Checked.cell, checked_letterGain (hword.gain_nonneg l hmem) (hword.gain_le l hmem), hbase]
  simp only [Option.bind_eq_bind, Option.bind_some]
  by_cases hp : Case.lower l.char = Case.lower p
  · rw [if_pos hp]
    by_cases hlt : unmatched < base
    · rw [if_pos hlt, if_pos ⟨hp, hlt⟩]
      -- the sum is what a match that ends here scores
      rcases hbest with ⟨-, rfl⟩ | ⟨-, hgreatest⟩
      · exact absurd hlt (lt_irrefl _)
      · exact checked_add ((ends_cons_iff.mpr ⟨l, hl, hp, _, hgreatest.1, rfl⟩).inScale hword)
    · rw [if_neg hlt, if_neg fun h => hlt h.2]
  · rw [if_neg hp, if_neg fun h => hp h.1]

/-- **No check fails in a row**, from any place on. -/
lemma checked_nextRow (hword : Measured word) (p : Char) {cells : List (Letter × ℤ)} {two : ℤ}
    (hcells : CellsFrom word before j cells) (hcarried : Carried word before j two one gapped) :
    Checked.nextRow before.isEmpty p two one gapped cells =
      some (nextRow before.isEmpty p two one gapped cells) := by
  induction cells generalizing j two one gapped with
  | nil => rfl
  | cons c rest ih =>
      obtain ⟨l, here⟩ := c
      obtain ⟨hl, hhere⟩ := hcells.head
      obtain ⟨hj, -⟩ := List.getElem?_eq_some_iff.mp hl
      have hscorable := hword.toScorable
      -- the gap that reaches this place
      have hstart : Checked.plus two (-gapStartLoss) = some (plus two (-gapStartLoss)) := by
        refine hcarried.two.plus_eq ?_
        rintro s ⟨k, rfl, hends⟩
        exact hends.inScale_add hword (by decide) (by decide)
      have hover := isBest_gapped hscorable hj hcarried.two hcarried.gapped
      have hgapped := hover.keep_eq fun b hb => reached_inScale hb hword hj
      -- the match that ends here
      have hbest := isBest_base hscorable hj hcarried.one hover
      have hcell := checked_cell hword hl (checked_base hword hcarried.one) hbest p
      have hscore := (isBest_cell hscorable hl hbest p).keep_eq fun s hs => hs.inScale hword
      -- the gap that goes on
      have hlonger : Checked.plus (max gapped (plus two (-gapStartLoss))) (-gapLoss) =
          some (plus (max gapped (plus two (-gapStartLoss))) (-gapLoss)) :=
        hover.plus_eq fun b hb => reached_inScale_add hb hword hj (le_refl _) (by decide)
      have hnext := hcarried.next hscorable hj hhere
      have hkept := hnext.gapped.keep_eq fun b hb => by
        rw [reached_three] at hb
        obtain ⟨b, hb, rfl⟩ := hb
        exact reached_inScale_add hb hword hj (le_refl _) (by decide)
      simp only [Checked.nextRow, nextRow, hstart, hgapped, hcell, hscore, hlonger, hkept,
        ih hcells.tail hnext, Option.bind_eq_bind, Option.bind_some]

variable {previous : List ℤ}

/-- No check fails in the next row. -/
lemma Holds.checked_row (hword : Measured word) (h : Holds word before previous) (p : Char) :
    Checked.row before.isEmpty word previous p = some (Fuzzy.row before.isEmpty word previous p) :=
  checked_nextRow hword p h.cellsFrom (.start word before)

/-- No check fails in the rows after one. -/
lemma Holds.checked_rows (hword : Measured word) (hbefore : before ≠ [])
    (h : Holds word before previous) (rest : List Char) :
    Checked.rows word previous rest = some (Fuzzy.rows word previous rest) := by
  induction rest generalizing before previous with
  | nil => rfl
  | cons p rest ih =>
      have hchecked := h.checked_row hword p
      have hrow := h.row hword.toScorable p
      rw [List.isEmpty_eq_false_iff.mpr hbefore] at hchecked hrow
      rw [Checked.rows, hchecked]
      exact ih (List.cons_ne_nil p before) hrow

/-- A cell may be kept, and it is above the mark exactly if a match ends at its place. -/
lemma Holds.exists_cell (hword : Measured word) (h : Holds word before previous)
    (hj : j < word.length) : ∃ cell, previous[j]? = some cell ∧ Keepable cell ∧
      (unmatched < cell ↔ ∃ s, Ends word before j s) := by
  have hj' : j < previous.length := h.length_eq ▸ hj
  have hcell := List.getElem?_eq_getElem hj'
  have hbest := h.isBest j _ hcell
  refine ⟨previous[j], hcell, hbest.keepable fun s hs => hs.inScale hword, ?_⟩
  rcases hbest with ⟨hempty, hmark⟩ | ⟨hlt, hgreatest⟩
  · rw [hmark]
    exact iff_of_false (lt_irrefl _) fun ⟨s, hs⟩ => (Set.eq_empty_iff_forall_notMem.mp hempty s) hs
  · exact iff_of_true hlt ⟨_, hgreatest.1⟩

end checks

/-! ### The table -/

variable {pattern word : List Char}

/-- The scores of a word that is not too long stay small. -/
lemma measured_letters (hlength : word.length ≤ maxLength) : Measured (letters none word) :=
  ⟨scorable_letters hlength, fun l hl => (gain_bounds_of_mem_letters l hl).2⟩

/-- No check fails in the table. -/
lemma checked_lastRow (hlength : word.length ≤ maxLength) :
    Checked.lastRow pattern word = some (lastRow pattern word) := by
  have hword := measured_letters hlength
  cases pattern with
  | nil => rfl
  | cons p rest =>
      have hfirst := (holds_empty word).checked_row hword p
      have hrow := (holds_empty word).row hword.toScorable p
      rw [List.isEmpty_nil] at hfirst hrow
      rw [Checked.lastRow, hfirst]
      exact hrow.checked_rows hword (List.cons_ne_nil p []) rest

lemma rows_append (word : List Letter) (previous : List ℤ) (start rest : List Char) :
    rows word previous (start ++ rest) = rows word (rows word previous start) rest := by
  induction start generalizing previous with
  | nil => rfl
  | cons p start ih => exact ih _

/-- The table of a pattern goes on from the table of its beginning. -/
lemma lastRow_append {start : List Char} (hstart : start ≠ []) (rest word : List Char) :
    lastRow (start ++ rest) word = rows (letters none word) (lastRow start word) rest := by
  cases start with
  | nil => exact absurd rfl hstart
  | cons p start => exact rows_append _ _ start rest

/-! ### Scores -/

/-- What a pattern scores leaves room for the loss by an exchange. -/
lemma score_inScale_add {s change : ℤ} (h : score pattern word = some s) (hlow : -16 ≤ change)
    (hhigh : change ≤ 16) : InScale (s + change) := by
  rw [score] at h
  split at h
  · cases h
    exact ⟨by omega, by omega⟩
  split at h
  · cases h
  split at h
  · rename_i hempty hlong _
    have hpattern : pattern ≠ [] := by simpa using hempty
    have hlength : word.length ≤ maxLength := by omega
    obtain ⟨⟨j, hends⟩, -⟩ := (holds_lastRow hpattern hlength).max?_eq_some_iff.mp h
    exact hends.inScale_add (measured_letters hlength) hlow hhigh
  · cases h

lemma score_inScale {s : ℤ} (h : score pattern word = some s) : InScale s := by
  rw [← add_zero s]
  exact score_inScale_add h (by decide) (by decide)

lemma inScale_merge {a b : Option ℤ} (ha : ∀ g, a = some g → InScale g)
    (hb : ∀ g, b = some g → InScale g) (g : ℤ) (h : Option.merge max a b = some g) :
    InScale g := by
  cases a with
  | none =>
      rw [Option.merge_none_left] at h
      exact hb g h
  | some x =>
      cases b with
      | none =>
          rw [Option.merge_none_right] at h
          exact ha g h
      | some y =>
          cases h
          rcases max_choice x y with hmax | hmax <;> rw [hmax]
          · exact ha x rfl
          · exact hb y rfl

/-- The best score so far is small. -/
lemma attempt_inScale {a : Attempts} (h : ∀ g, a.best = some g → InScale g) (i : ℕ) (g : ℤ) :
    (attempt word a i).best = some g → InScale g := by
  rw [attempt]
  split
  · exact h g
  · refine inScale_merge h (fun g hg => ?_) g
    obtain ⟨s, hs, rfl⟩ := Option.map_eq_some_iff.mp hg
    exact score_inScale_add hs (by decide) (by decide)

lemma foldl_attempt_inScale (places : List ℕ) {a : Attempts}
    (h : ∀ g, a.best = some g → InScale g) (g : ℤ) :
    (places.foldl (attempt word) a).best = some g → InScale g := by
  induction places generalizing a with
  | nil => exact h g
  | cons i places ih => exact ih (attempt_inScale h i)

lemma gracefulScore_inScale {g : ℤ} (h : gracefulScore pattern word = some g) : InScale g := by
  rw [gracefulScore] at h
  split at h
  · rename_i s hscore
    exact score_inScale (hscore.trans h)
  split at h
  · cases h
  · exact foldl_attempt_inScale _ (fun _ hnone => (Option.some_ne_none _ hnone.symm).elim) g h

lemma checked_score (pattern word : List Char) :
    Checked.score pattern word = some (score pattern word) := by
  rw [Checked.score, score]
  split
  · rfl
  split
  · rfl
  · rename_i hshort
    have hlength : word.length ≤ maxLength := by omega
    rw [checked_lastRow hlength]
    split <;> rfl

lemma checked_exchangedScore (word pattern : List Char) :
    Checked.exchangedScore word pattern =
      some ((score pattern word).map (· - exchangeLoss)) := by
  rw [Checked.exchangedScore, checked_score, Option.bind_eq_bind, Option.bind_some]
  cases hscore : score pattern word with
  | none => rfl
  | some s =>
      have hlowered : Checked.add s (-exchangeLoss) = some (s + -exchangeLoss) :=
        checked_add (score_inScale_add hscore (by decide) (by decide))
      simp only [hlowered]
      rfl

lemma checked_attempt (word : List Char) (a : Attempts) (i : ℕ) :
    Checked.attempt word a i = some (attempt word a i) := by
  rw [Checked.attempt, attempt]
  split
  · rfl
  · dsimp only
    rw [checked_exchangedScore, Option.bind_eq_bind, Option.bind_some]

lemma checked_gracefulScore (pattern word : List Char) :
    Checked.gracefulScore pattern word = some (gracefulScore pattern word) := by
  have hattempt : Checked.attempt word = fun a i => pure (attempt word a i) :=
    funext₂ (checked_attempt word)
  rw [Checked.gracefulScore, checked_score, gracefulScore, Option.bind_eq_bind, Option.bind_some]
  cases score pattern word with
  | some s => rfl
  | none =>
      dsimp only
      split
      · rfl
      · rw [hattempt, List.foldlM_pure]
        rfl

/-- A cell is above the mark exactly if the pattern so far can be found with its last character at
that place. -/
lemma exists_cell_lastRow {start : List Char} (hstart : start ≠ [])
    (hlength : word.length ≤ maxLength) (j : Fin word.length) :
    ∃ cell, (lastRow start word)[j.val]? = some cell ∧ Keepable cell ∧
      (unmatched < cell ↔ ∃ a : Alignment start word, a.EndsAt j) := by
  have hj : j.val < (letters none word).length := (length_letters none word).symm ▸ j.isLt
  obtain ⟨cell, hcell, hkept, hends⟩ :=
    (holds_lastRow hstart hlength).exists_cell (measured_letters hlength) hj
  refine ⟨cell, hcell, hkept, hends.trans ⟨?_, ?_⟩⟩
  · rintro ⟨s, hs⟩
    obtain ⟨a, ha, -⟩ := (ends_iff start word j s).mp hs
    exact ⟨a, ha⟩
  · rintro ⟨a, ha⟩
    exact ⟨a.worth, (ends_iff start word j _).mpr ⟨a, ha, rfl⟩⟩

/-- **The table stays within its bounds.** For a pattern that is not empty, nor longer than the
word, and a word of at most 128 characters, the table can be filled with checks: every sum is a word
of 32 bits, and every value that is kept, in a row or along it, is the mark or lies within `2 ^ 15`
on both sides of zero. The table passes through the last row of each beginning of the pattern, and
there a cell is above the mark exactly if the beginning can be found with its last character at that
place. No check fails either in what the score and the graceful score do beyond, whatever the texts,
and both lie within the same bounds. -/
theorem table_stays_bounded (pattern word : List Char) :
    (1 ≤ pattern.length → pattern.length ≤ word.length → word.length ≤ 128 →
      Checked.lastRow pattern word = some (lastRow pattern word) ∧
      ∀ (i : Fin pattern.length) (j : Fin word.length),
        lastRow pattern word = rows (letters none word) (lastRow (pattern.take (i + 1)) word)
          (pattern.drop (i + 1)) ∧
        ∃ cell, (lastRow (pattern.take (i + 1)) word)[j.val]? = some cell ∧ Keepable cell ∧
          (unmatched < cell ↔ ∃ a : Alignment (pattern.take (i + 1)) word, a.EndsAt j)) ∧
    Checked.score pattern word = some (score pattern word) ∧
    Checked.gracefulScore pattern word = some (gracefulScore pattern word) ∧
    (∀ s, score pattern word = some s → InScale s) ∧
    ∀ g, gracefulScore pattern word = some g → InScale g := by
  refine ⟨fun _ _ hlength => ⟨checked_lastRow hlength, fun i j => ?_⟩, checked_score pattern word,
    checked_gracefulScore pattern word, fun s hs => ?_, fun g hg => ?_⟩
  · have hstart : pattern.take (i + 1) ≠ [] := by
      rw [← List.length_pos_iff, List.length_take]
      omega
    refine ⟨?_, exists_cell_lastRow hstart hlength j⟩
    rw [← lastRow_append hstart, List.take_append_drop]
  · exact score_inScale hs
  · exact gracefulScore_inScale hg

/-- A long gap takes a score below zero, and a place without a match keeps the mark. -/
theorem table_stays_bounded_longGap :
    let pattern := ['a', 'b']
    let word := ['x', 'a', 'x', 'x', 'x', 'x', 'x', 'x', 'b']
    Checked.lastRow pattern word = some (lastRow pattern word) ∧
      (∃ a : Alignment ['a'] word, a.EndsAt 1) ∧ (¬ ∃ a : Alignment ['a'] word, a.EndsAt 8) ∧
      InScale (-16) := by
  intro pattern word
  obtain ⟨htable, -, -, hscore, -⟩ := table_stays_bounded pattern word
  obtain ⟨hchecked, hcells⟩ := htable (by decide) (by decide) (by decide)
  obtain ⟨-, first, hfirst, -, hmatch⟩ := hcells 0 1
  obtain ⟨-, last, hlast, -, hnomatch⟩ := hcells 0 8
  have hfirst' : (lastRow ['a'] word)[1]? = some 2 := by decide +kernel
  have hlast' : (lastRow ['a'] word)[8]? = some unmatched := by decide +kernel
  refine ⟨hchecked, hmatch.mp ?_, fun h => ?_, hscore (-16) (by decide +kernel)⟩
  · rw [Option.some_inj.mp (hfirst.symm.trans hfirst')]
    decide
  · have hlt := hnomatch.mpr h
    rw [Option.some_inj.mp (hlast.symm.trans hlast')] at hlt
    exact lt_irrefl _ hlt

end ProviderHub.Fuzzy
