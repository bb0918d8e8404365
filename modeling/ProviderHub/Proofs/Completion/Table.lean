import Mathlib.Tactic
import ProviderHub.Completion.Fuzzy

/-!
The scoring table, row by row.

A cell holds the best score of all ways to match the pattern so far with its last character at that
place. The best score that reaches a place over a gap is carried along the row: it is delayed by two
places, so that the neighbour does not count, and it loses a little with every further place.

* `Fuzzy.stepGain`: what the way from one match to the next is worth;
* `Fuzzy.Ends`: the scores of all ways to match a pattern up to a place;
* `Fuzzy.IsBest`: a cell holds the greatest of some scores, or the mark that there are none;
* `Fuzzy.Carried`: what is carried along a row, kept from place to place;
* `Fuzzy.isBest_nextRow`: a row holds the best scores if the row before does;
* `Fuzzy.isBest_lastRow`: so does the last row.
-/

namespace ProviderHub.Fuzzy

/-! ### Best scores -/

/-- The greatest of some scores, all of which are above the mark, or the mark if there are none. -/
def IsBest (scores : Set ℤ) (cell : ℤ) : Prop :=
  (scores = ∅ ∧ cell = unmatched) ∨ (unmatched < cell ∧ IsGreatest scores cell)

namespace IsBest

variable {S T : Set ℤ} {a b : ℤ}

lemma empty : IsBest ∅ unmatched := .inl ⟨rfl, rfl⟩

lemma singleton (h : unmatched < a) : IsBest {a} a := .inr ⟨h, isGreatest_singleton⟩

lemma unmatched_le (h : IsBest S a) : unmatched ≤ a := by
  rcases h with ⟨-, rfl⟩ | ⟨hlt, -⟩
  · exact le_refl _
  · exact hlt.le

/-- The better of two is the best of both. -/
lemma max (hS : IsBest S a) (hT : IsBest T b) : IsBest (S ∪ T) (max a b) := by
  rcases hS with ⟨rfl, rfl⟩ | ⟨ha, hS⟩
  · rw [Set.empty_union, max_eq_right hT.unmatched_le]
    exact hT
  · rcases hT with ⟨rfl, rfl⟩ | ⟨hb, hT⟩
    · rw [Set.union_empty, max_eq_left ha.le]
      exact .inr ⟨ha, hS⟩
    · exact .inr ⟨lt_max_of_lt_left ha, hS.union hT⟩

/-- What is added to all scores is added to the best one. -/
lemma image_add {change : ℤ} (h : IsBest S a) (hlt : ∀ s ∈ S, unmatched < s + change) :
    IsBest ((· + change) '' S) (plus a change) := by
  rcases h with ⟨rfl, rfl⟩ | ⟨ha, hgreatest⟩
  · rw [Set.image_empty, plus, if_neg (lt_irrefl _)]
    exact .empty
  · rw [plus, if_pos ha]
    have hmono : Monotone (· + change : ℤ → ℤ) := fun _ _ hle => add_le_add_left hle change
    exact .inr ⟨hlt a hgreatest.1, hmono.map_isGreatest hgreatest⟩

end IsBest

/-! ### Ways to match a pattern -/

/-- What the way from one match to the next is worth, by their places. -/
def stepGain (k j : ℕ) : ℤ :=
  if j = k + 1 then consecutiveGain else -gapStartLoss - gapLoss * (j - k - 2)

/-- **The ways to match a pattern** up to a place: the scores that its characters, of which the last
is given first, can have when the last one is matched there. -/
inductive Ends (word : List Letter) : List Char → ℕ → ℤ → Prop
  | first {p : Char} {j : ℕ} {l : Letter} :
      word[j]? = some l → Case.lower l.char = Case.lower p → Ends word [p] j (letterGain p l)
  | next {p q : Char} {before : List Char} {k j : ℕ} {l : Letter} {s : ℤ} :
      Ends word (q :: before) k s → k < j → word[j]? = some l →
      Case.lower l.char = Case.lower p →
      Ends word (p :: q :: before) j (s + stepGain k j + letterGain p l)

/-- A word whose scores stay above the mark. -/
structure Scorable (word : List Letter) : Prop where
  gain_nonneg : ∀ l ∈ word, 0 ≤ l.gain
  length_le : word.length ≤ maxLength

/-- What a place is reached with from the places that are at least some steps back. -/
def reached (word : List Letter) (before : List Char) (steps j : ℕ) : Set ℤ :=
  {b | ∃ k s, k + steps ≤ j ∧ Ends word before k s ∧ b = s + stepGain k j}

/-- What a match at a place can start from: nothing for the first character. -/
def bases (word : List Letter) (before : List Char) (j : ℕ) : Set ℤ :=
  if before.isEmpty then {0} else reached word before 1 j

section ends

variable {word : List Letter} {before : List Char} {p : Char} {k j steps : ℕ} {s b : ℤ}

lemma not_ends_nil : ¬ Ends word [] j s := nofun

lemma ends_cons_iff :
    Ends word (p :: before) j s ↔ ∃ l, word[j]? = some l ∧ Case.lower l.char = Case.lower p ∧
      ∃ b ∈ bases word before j, s = b + letterGain p l := by
  constructor
  · rintro (⟨hl, hp⟩ | ⟨hbefore, hk, hl, hp⟩)
    · exact ⟨_, hl, hp, 0, rfl, (zero_add _).symm⟩
    · exact ⟨_, hl, hp, _, ⟨_, _, hk, hbefore, rfl⟩, rfl⟩
  · rintro ⟨l, hl, hp, b, hb, rfl⟩
    cases before with
    | nil =>
        rw [Set.mem_singleton_iff.mp hb, zero_add]
        exact .first hl hp
    | cons q before =>
        obtain ⟨k, s, hk, hbefore, rfl⟩ := hb
        exact .next hbefore hk hl hp

/-- The way from one match to the next never costs more than the places in between. -/
lemma le_stepGain (k j : ℕ) : 1 - 3 * ((j : ℤ) - k) ≤ stepGain k j := by
  rw [stepGain, consecutiveGain, gapStartLoss, gapLoss]
  split <;> omega

lemma one_le_letterGain {l : Letter} (hl : 0 ≤ l.gain) (p : Char) : 1 ≤ letterGain p l := by
  rw [letterGain, matchGain, sameCaseGain]
  split <;> omega

/-- A match costs at most three for each place of the word before it. -/
lemma Ends.le (h : Ends word before j s) (hword : Scorable word) : 1 - 3 * (j : ℤ) ≤ s := by
  have hletter {j : ℕ} {l : Letter} (hl : word[j]? = some l) (p : Char) : 1 ≤ letterGain p l :=
    one_le_letterGain (hword.gain_nonneg l (List.mem_of_getElem? hl)) p
  induction h with
  | @first p j l hl hp =>
      have := hletter hl p
      omega
  | @next p q before k j l s hbefore hk hl hp ih =>
      have := hletter hl p
      have := le_stepGain k j
      omega

lemma unmatched_lt_of_ends (h : Ends word before j s) (hword : Scorable word)
    (hj : j < word.length) : unmatched < s := by
  have := h.le hword
  have := hword.length_le
  rw [maxLength] at this
  rw [unmatched]
  omega

lemma unmatched_lt_of_reached (h : b ∈ reached word before steps j) (hword : Scorable word)
    (hj : j < word.length) : unmatched < b - gapLoss := by
  obtain ⟨k, s, hk, hends, rfl⟩ := h
  have := hends.le hword
  have := le_stepGain k j
  have := hword.length_le
  rw [maxLength] at this
  rw [unmatched, gapLoss]
  omega

/-! ### How a place is reached from the places before it -/

/-- The scores at the place that is some steps back. -/
def endsBack (word : List Letter) (before : List Char) (steps j : ℕ) : Set ℤ :=
  {s | ∃ k, k + steps = j ∧ Ends word before k s}

/-- A gap is new or has been there before. -/
lemma reached_two (word : List Letter) (before : List Char) (j : ℕ) :
    reached word before 2 j =
      reached word before 3 j ∪ (· + -gapStartLoss) '' endsBack word before 2 j := by
  have hstep (k : ℕ) : stepGain k (k + 2) = -gapStartLoss := by
    rw [stepGain, if_neg (by omega)]
    push_cast
    ring
  ext b
  constructor
  · rintro ⟨k, s, hk, hends, rfl⟩
    rcases hk.eq_or_lt with rfl | hlt
    · exact .inr ⟨s, ⟨k, rfl, hends⟩, by rw [hstep]⟩
    · exact .inl ⟨k, s, hlt, hends, rfl⟩
  · rintro (⟨k, s, hk, hends, rfl⟩ | ⟨s, ⟨k, rfl, hends⟩, rfl⟩)
    · exact ⟨k, s, by omega, hends, rfl⟩
    · exact ⟨k, s, le_refl _, hends, by rw [hstep]⟩

/-- A place is reached from the one right before it or over a gap. -/
lemma reached_one (word : List Letter) (before : List Char) (j : ℕ) :
    reached word before 1 j =
      (· + consecutiveGain) '' endsBack word before 1 j ∪ reached word before 2 j := by
  have hstep (k : ℕ) : stepGain k (k + 1) = consecutiveGain := if_pos rfl
  ext b
  constructor
  · rintro ⟨k, s, hk, hends, rfl⟩
    rcases hk.eq_or_lt with rfl | hlt
    · exact .inl ⟨s, ⟨k, rfl, hends⟩, by rw [hstep]⟩
    · exact .inr ⟨k, s, hlt, hends, rfl⟩
  · rintro (⟨s, ⟨k, rfl, hends⟩, rfl⟩ | ⟨k, s, hk, hends, rfl⟩)
    · exact ⟨k, s, le_refl _, hends, by rw [hstep]⟩
    · exact ⟨k, s, by omega, hends, rfl⟩

/-- A gap that is one place longer costs a little more. -/
lemma reached_three (word : List Letter) (before : List Char) (j : ℕ) :
    reached word before 3 (j + 1) = (· + -gapLoss) '' reached word before 2 j := by
  have hstep {k : ℕ} (hk : k + 2 ≤ j) : stepGain k (j + 1) = stepGain k j + -gapLoss := by
    rw [stepGain, stepGain, if_neg (by omega), if_neg (by omega)]
    push_cast
    ring
  ext b
  constructor
  · rintro ⟨k, s, hk, hends, rfl⟩
    have hk' : k + 2 ≤ j := by omega
    exact ⟨_, ⟨k, s, hk', hends, rfl⟩, by rw [hstep hk', ← add_assoc]⟩
  · rintro ⟨_, ⟨k, s, hk, hends, rfl⟩, rfl⟩
    exact ⟨k, s, by omega, hends, by rw [hstep hk, ← add_assoc]⟩

/-! ### Rows -/

/-- What is reached over a gap, with the gap that starts two places back. -/
lemma isBest_gapped {two gapped : ℤ} (hword : Scorable word) (hj : j < word.length)
    (htwo : IsBest (endsBack word before 2 j) two)
    (hgapped : IsBest (reached word before 3 j) gapped) :
    IsBest (reached word before 2 j) (max gapped (plus two (-gapStartLoss))) := by
  rw [reached_two]
  refine hgapped.max (htwo.image_add ?_)
  rintro s ⟨k, rfl, hends⟩
  have := hends.le hword
  have := hword.length_le
  rw [maxLength] at this
  rw [unmatched, gapStartLoss]
  omega

/-- What a match starts from. -/
lemma isBest_base {one gapped : ℤ} (hword : Scorable word) (hj : j < word.length)
    (hone : IsBest (endsBack word before 1 j) one)
    (hgapped : IsBest (reached word before 2 j) gapped) :
    IsBest (bases word before j)
      (if before.isEmpty then 0 else max (plus one consecutiveGain) gapped) := by
  rw [bases]
  split
  · exact .singleton (by decide)
  · rw [reached_one]
    refine (hone.image_add ?_).max hgapped
    rintro s ⟨k, rfl, hends⟩
    have := unmatched_lt_of_ends hends hword (by omega)
    rw [consecutiveGain]
    omega

/-- What a cell holds. -/
lemma isBest_cell {l : Letter} {base : ℤ} (hword : Scorable word) (hl : word[j]? = some l)
    (hbase : IsBest (bases word before j) base) (p : Char) :
    IsBest {s | Ends word (p :: before) j s}
      (if Case.lower l.char = Case.lower p ∧ unmatched < base then base + letterGain p l
        else unmatched) := by
  obtain ⟨hj, -⟩ := List.getElem?_eq_some_iff.mp hl
  have hends (s : ℤ) : Ends word (p :: before) j s ↔ Case.lower l.char = Case.lower p ∧
      s ∈ (· + letterGain p l) '' bases word before j := by
    rw [ends_cons_iff]
    constructor
    · rintro ⟨l', hl', hp, b, hb, rfl⟩
      cases Option.some_inj.mp (hl.symm.trans hl')
      exact ⟨hp, b, hb, rfl⟩
    · rintro ⟨hp, b, hb, rfl⟩
      exact ⟨l, hl, hp, b, hb, rfl⟩
  by_cases hp : Case.lower l.char = Case.lower p
  · have hset : {s | Ends word (p :: before) j s} =
        (· + letterGain p l) '' bases word before j :=
      Set.ext fun s => (hends s).trans (and_iff_right hp)
    have hcell : (if Case.lower l.char = Case.lower p ∧ unmatched < base
        then base + letterGain p l else unmatched) = plus base (letterGain p l) := by
      rcases hbase with ⟨-, rfl⟩ | ⟨hlt, -⟩
      · rw [plus, if_neg (lt_irrefl _), if_neg fun h => lt_irrefl _ h.2]
      · rw [plus, if_pos hlt, if_pos ⟨hp, hlt⟩]
    rw [hset, hcell]
    refine hbase.image_add fun b hb => ?_
    exact unmatched_lt_of_ends ((hends _).mpr ⟨hp, b, hb, rfl⟩) hword hj
  · rw [if_neg fun h => hp h.1]
    refine .inl ⟨Set.eq_empty_of_forall_notMem fun s hs => hp ((hends s).mp hs).1, rfl⟩

lemma endsBack_succ (word : List Letter) (before : List Char) (steps j : ℕ) :
    endsBack word before (steps + 1) (j + 1) = endsBack word before steps j := by
  simp only [endsBack, ← add_assoc, Nat.add_right_cancel_iff]

/-- **What is carried along a row**: the best scores of the two places before one, and the best
score that reaches it over a gap of more than one place. -/
structure Carried (word : List Letter) (before : List Char) (j : ℕ) (two one gapped : ℤ) :
    Prop where
  two : IsBest (endsBack word before 2 j) two
  one : IsBest (endsBack word before 1 j) one
  gapped : IsBest (reached word before 3 j) gapped

/-- Nothing stands before the first place. -/
lemma Carried.start (word : List Letter) (before : List Char) :
    Carried word before 0 unmatched unmatched unmatched := by
  have hnone {steps : ℕ} (hsteps : 0 < steps) : endsBack word before steps 0 = ∅ :=
    Set.eq_empty_of_forall_notMem fun s ⟨k, hk, _⟩ => by omega
  refine ⟨?_, ?_, .inl ⟨Set.eq_empty_of_forall_notMem ?_, rfl⟩⟩
  · rw [hnone Nat.two_pos]
    exact .empty
  · rw [hnone Nat.one_pos]
    exact .empty
  · rintro b ⟨k, s, hk, -⟩
    omega

/-- What is carried along goes on to the next place. -/
lemma Carried.next {two one gapped here : ℤ} (hword : Scorable word) (hj : j < word.length)
    (h : Carried word before j two one gapped) (hhere : IsBest {s | Ends word before j s} here) :
    Carried word before (j + 1) one here
      (plus (max gapped (plus two (-gapStartLoss))) (-gapLoss)) := by
  refine ⟨?_, ?_, ?_⟩
  · rw [endsBack_succ]
    exact h.one
  · rw [endsBack_succ]
    simpa only [endsBack, Nat.add_zero, exists_eq_left] using hhere
  · rw [reached_three]
    refine (isBest_gapped hword hj h.two h.gapped).image_add fun b hb => ?_
    exact unmatched_lt_of_reached hb hword hj

/-- The letters from a place on, each with its best score in the row before. -/
def CellsFrom (word : List Letter) (before : List Char) (j : ℕ)
    (cells : List (Letter × ℤ)) : Prop :=
  ∀ i c, cells[i]? = some c →
    word[j + i]? = some c.1 ∧ IsBest {s | Ends word before (j + i) s} c.2

section cells

variable {cells : List (Letter × ℤ)} {l : Letter} {two one gapped here : ℤ}

lemma CellsFrom.head (h : CellsFrom word before j ((l, here) :: cells)) :
    word[j]? = some l ∧ IsBest {s | Ends word before j s} here :=
  h 0 (l, here) rfl

lemma CellsFrom.tail (h : CellsFrom word before j ((l, here) :: cells)) :
    CellsFrom word before (j + 1) cells := by
  intro i c hc
  rw [Nat.succ_add_eq_add_succ]
  exact h (i + 1) c hc

/-- **A row holds the best scores** if the row before does, from any place on. -/
lemma isBest_nextRow (hword : Scorable word) (p : Char) (hcells : CellsFrom word before j cells)
    (hcarried : Carried word before j two one gapped) {i : ℕ} {cell : ℤ}
    (hcell : (nextRow before.isEmpty p two one gapped cells)[i]? = some cell) :
    IsBest {s | Ends word (p :: before) (j + i) s} cell := by
  -- the place goes up by one with each cell, and what is carried along keeps its meaning
  induction cells generalizing j two one gapped i with
  | nil => cases hcell
  | cons c rest ih =>
      obtain ⟨l, here⟩ := c
      obtain ⟨hl, hhere⟩ := hcells.head
      obtain ⟨hj, -⟩ := List.getElem?_eq_some_iff.mp hl
      rw [nextRow] at hcell
      cases i with
      | zero =>
          cases hcell
          have hover := isBest_gapped hword hj hcarried.two hcarried.gapped
          exact isBest_cell hword hl (isBest_base hword hj hcarried.one hover) p
      | succ i =>
          rw [← Nat.succ_add_eq_add_succ]
          exact ih hcells.tail (hcarried.next hword hj hhere) hcell

end cells

/-! ### The table -/

/-- A row holds the best scores of a pattern, place by place. -/
structure Holds (word : List Letter) (before : List Char) (cells : List ℤ) : Prop where
  length_eq : cells.length = word.length
  isBest : ∀ j cell, cells[j]? = some cell → IsBest {s | Ends word before j s} cell

lemma length_nextRow (first : Bool) (p : Char) (two one gapped : ℤ)
    (cells : List (Letter × ℤ)) : (nextRow first p two one gapped cells).length = cells.length := by
  induction cells generalizing two one gapped with
  | nil => rfl
  | cons c rest ih =>
      rw [nextRow, List.length_cons, List.length_cons, ih]

variable {previous cells : List ℤ}

lemma Holds.cellsFrom (h : Holds word before previous) :
    CellsFrom word before 0 (word.zip previous) := by
  intro i c hc
  rw [zero_add]
  obtain ⟨hl, hc⟩ := List.getElem?_zip_eq_some.mp hc
  exact ⟨hl, h.isBest i c.2 hc⟩

lemma Holds.row (hword : Scorable word) (h : Holds word before previous) (p : Char) :
    Holds word (p :: before) (row before.isEmpty word previous p) := by
  refine ⟨?_, fun j cell hcell => ?_⟩
  · rw [Fuzzy.row, length_nextRow, List.length_zip, h.length_eq, min_self]
  · rw [← zero_add j]
    exact isBest_nextRow hword p h.cellsFrom (.start word before) hcell

lemma Holds.rows (hword : Scorable word) (hbefore : before ≠ []) (h : Holds word before previous)
    (rest : List Char) : Holds word (rest.reverse ++ before) (rows word previous rest) := by
  induction rest generalizing before previous with
  | nil => exact h
  | cons p rest ih =>
      have hrow := h.row hword p
      rw [List.isEmpty_eq_false_iff.mpr hbefore] at hrow
      rw [List.reverse_cons, List.append_assoc]
      exact ih (List.cons_ne_nil p before) hrow

lemma Ends.lt (h : Ends word before j s) : j < word.length := by
  cases before with
  | nil => cases h
  | cons p before =>
      obtain ⟨l, hl, -⟩ := ends_cons_iff.mp h
      exact (List.getElem?_eq_some_iff.mp hl).1

/-- What is scored at a place is not above its cell. -/
lemma Holds.exists_le (h : Holds word before cells) (hs : Ends word before j s) :
    ∃ cell ∈ cells.filter (unmatched < ·), s ≤ cell := by
  have hj : j < cells.length := h.length_eq ▸ hs.lt
  rcases h.isBest j cells[j] (List.getElem?_eq_getElem hj) with ⟨hempty, -⟩ | ⟨hlt, -, hle⟩
  · exact absurd hs (Set.eq_empty_iff_forall_notMem.mp hempty s)
  · exact ⟨cells[j], List.mem_filter.mpr ⟨List.getElem_mem hj, decide_eq_true hlt⟩, hle hs⟩

/-- A cell above the mark is a score. -/
lemma Holds.exists_ends (h : Holds word before cells) {cell : ℤ}
    (hcell : cell ∈ cells.filter (unmatched < ·)) : ∃ j, Ends word before j cell := by
  obtain ⟨hmem, hlt⟩ := List.mem_filter.mp hcell
  obtain ⟨j, hj⟩ := List.mem_iff_getElem?.mp hmem
  rcases h.isBest j cell hj with ⟨-, rfl⟩ | ⟨-, hends, -⟩
  · exact absurd (of_decide_eq_true hlt) (lt_irrefl _)
  · exact ⟨j, hends⟩

/-- The best of a row is the best of all ways to match the pattern. -/
lemma Holds.max?_eq_some_iff (h : Holds word before cells) :
    (cells.filter (unmatched < ·)).max? = some s ↔
      IsGreatest {s | ∃ j, Ends word before j s} s := by
  rw [List.max?_eq_some_iff]
  constructor
  · rintro ⟨hs, hle⟩
    refine ⟨h.exists_ends hs, ?_⟩
    rintro s' ⟨j, hs'⟩
    obtain ⟨cell, hcell, hs'⟩ := h.exists_le hs'
    exact hs'.trans (hle cell hcell)
  · rintro ⟨⟨j, hs⟩, hle⟩
    obtain ⟨cell, hcell, hs'⟩ := h.exists_le hs
    refine ⟨?_, fun c hc => hle (h.exists_ends hc)⟩
    rwa [le_antisymm hs' (hle (h.exists_ends hcell))]

/-- There is none if there is no way to match the pattern. -/
lemma Holds.max?_eq_none_iff (h : Holds word before cells) :
    (cells.filter (unmatched < ·)).max? = none ↔ {s | ∃ j, Ends word before j s} = ∅ := by
  rw [List.max?_eq_none_iff, Set.eq_empty_iff_forall_notMem, List.eq_nil_iff_forall_not_mem]
  constructor
  · rintro hnone s ⟨j, hs⟩
    obtain ⟨cell, hcell, -⟩ := h.exists_le hs
    exact hnone cell hcell
  · exact fun hnone cell hcell => hnone cell (h.exists_ends hcell)

end ends

/-- No place gains more than the start of the word. -/
lemma placeGain_bounds (previous : Option Char) (c : Char) :
    0 ≤ placeGain previous c ∧ placeGain previous c ≤ startGain := by
  cases previous with
  | none => exact ⟨Int.natCast_nonneg 48, le_refl _⟩
  | some p =>
      rw [placeGain, boundaryGain, humpGain, startGain]
      split
      · decide
      · split <;> decide

lemma gain_bounds_of_mem_letters {previous : Option Char} {word : List Char} :
    ∀ l ∈ letters previous word, 0 ≤ l.gain ∧ l.gain ≤ startGain := by
  induction word generalizing previous with
  | nil => exact fun l hl => (List.not_mem_nil hl).elim
  | cons c rest ih =>
      intro l hl
      rcases List.mem_cons.mp hl with rfl | hl
      · exact placeGain_bounds previous c
      · exact ih l hl

lemma length_letters (previous : Option Char) (word : List Char) :
    (letters previous word).length = word.length := by
  induction word generalizing previous with
  | nil => rfl
  | cons c rest ih => rw [letters, List.length_cons, List.length_cons, ih]

/-- The scores of a word that is not too long stay above the mark. -/
lemma scorable_letters {word : List Char} (hlength : word.length ≤ maxLength) :
    Scorable (letters none word) :=
  ⟨fun l hl => (gain_bounds_of_mem_letters l hl).1, (length_letters none word).le.trans hlength⟩

/-- Nothing scores before the first character. -/
lemma holds_empty (word : List Char) :
    Holds (letters none word) [] (word.map fun _ => unmatched) := by
  refine ⟨by rw [List.length_map, length_letters], fun j cell hcell => ?_⟩
  obtain ⟨-, -, rfl⟩ := List.mem_map.mp (List.mem_of_getElem? hcell)
  exact .inl ⟨Set.eq_empty_of_forall_notMem fun _ => not_ends_nil, rfl⟩

/-- **The last row of the table** holds the best scores of the whole pattern. -/
lemma holds_lastRow {pattern word : List Char} (hpattern : pattern ≠ [])
    (hlength : word.length ≤ maxLength) :
    Holds (letters none word) pattern.reverse (lastRow pattern word) := by
  have hword := scorable_letters hlength
  cases pattern with
  | nil => exact absurd rfl hpattern
  | cons p rest =>
      rw [List.reverse_cons]
      exact ((holds_empty word).row hword p).rows hword (List.cons_ne_nil p []) rest

end ProviderHub.Fuzzy
