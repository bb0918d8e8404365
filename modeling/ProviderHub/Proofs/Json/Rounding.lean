import Mathlib.Tactic
import ProviderHub.Json.Real

/-!
The double nearest to a fraction.

* `Real64.Rounds`: the natural number nearest to a rational one, a tie going to the even one;
  `Rounds.mono` and `Rounds.unique` say that it grows with the fraction and is determined by it;
* `Real64.Fits`: mantissa and exponent of the double nearest to a fraction, which are determined by
  the fraction, too;
* `Real64.ofFraction?_eq`: the double that is found is that one.
-/

namespace ProviderHub.Real64

/-! ### Rounding to natural numbers -/

/-- `k` is the natural number nearest to `x`, and even where two are equally near. -/
structure Rounds (x : ℚ) (k : ℕ) : Prop where
  le_add : x ≤ k + 1 / 2
  sub_le : k - 1 / 2 ≤ x
  even_of_tie : x = k + 1 / 2 ∨ x = k - 1 / 2 → Even k

lemma Rounds.mono {x y : ℚ} {k l : ℕ} (hx : Rounds x k) (hy : Rounds y l) (hxy : x ≤ y) :
    k ≤ l := by
  by_contra hlt
  have hsucc : (l : ℚ) + 1 ≤ k := by exact_mod_cast Nat.lt_of_not_le hlt
  have hly := hy.le_add
  have hkx := hx.sub_le
  -- both fractions lie halfway between two neighbours, of which one is odd
  have hk : k = l + 1 := by
    have : (k : ℚ) = l + 1 := by linarith
    exact_mod_cast this
  have hkeven := hx.even_of_tie (.inr (by linarith))
  have hleven := hy.even_of_tie (.inl (by linarith))
  rw [hk] at hkeven
  exact (Nat.even_add_one.mp hkeven) hleven

lemma Rounds.unique {x : ℚ} {k l : ℕ} (hk : Rounds x k) (hl : Rounds x l) : k = l :=
  le_antisymm (hk.mono hl le_rfl) (hl.mono hk le_rfl)

/-- A fraction that is less than one half away from a natural number is rounded to it. -/
lemma rounds_of_abs_lt {x : ℚ} {k : ℕ} (h : |x - k| < 1 / 2) : Rounds x k := by
  obtain ⟨hlow, hhigh⟩ := abs_lt.mp h
  refine ⟨by linarith, by linarith, ?_⟩
  rintro (htie | htie) <;> linarith

lemma rounds_natCast (k : ℕ) : Rounds k k := rounds_of_abs_lt (by simp)

/-- A fraction halfway below an even number is rounded up. -/
lemma rounds_sub_half {k : ℕ} (hk : Even k) : Rounds (k - 1 / 2) k :=
  ⟨by linarith, le_rfl, fun _ => hk⟩

/-- One halfway above an even number is rounded down. -/
lemma rounds_add_half {k : ℕ} (hk : Even k) : Rounds (k + 1 / 2) k :=
  ⟨le_rfl, by linarith, fun _ => hk⟩

lemma rounds_roundDiv (num : ℕ) {den : ℕ} (hden : 0 < den) :
    Rounds (num / den) (roundDiv num den) := by
  have hpos : (0 : ℚ) < den := by exact_mod_cast hden
  have hdiv : (num : ℚ) = den * (num / den : ℕ) + (num % den : ℕ) := by
    exact_mod_cast (Nat.div_add_mod num den).symm
  have hsplit : (num : ℚ) / den = (num / den : ℕ) + ((num % den : ℕ) : ℚ) / den := by
    rw [div_eq_iff hpos.ne', add_mul, div_mul_cancel₀ _ hpos.ne', mul_comm, ← hdiv]
  have hnonneg : (0 : ℚ) ≤ ((num % den : ℕ) : ℚ) / den := by positivity
  have hlt : ((num % den : ℕ) : ℚ) / den < 1 := by
    rw [div_lt_one hpos]
    exact_mod_cast Nat.mod_lt num hden
  rw [hsplit, roundDiv]
  rcases lt_trichotomy (2 * (num % den)) den with hbelow | htie | habove
  · rw [if_neg (by omega)]
    have hhalf : ((num % den : ℕ) : ℚ) / den < 1 / 2 := by
      rw [div_lt_div_iff₀ hpos two_pos, one_mul, mul_comm]
      exact_mod_cast hbelow
    refine rounds_of_abs_lt ?_
    rw [add_sub_cancel_left, abs_of_nonneg hnonneg]
    exact hhalf
  · have hhalf : ((num % den : ℕ) : ℚ) / den = 1 / 2 := by
      rw [div_eq_div_iff hpos.ne' two_ne_zero, one_mul, mul_comm]
      exact_mod_cast htie
    rw [hhalf]
    rcases Nat.even_or_odd (num / den) with heven | hodd
    · rw [if_neg (by rw [Nat.even_iff] at heven; omega)]
      exact rounds_add_half heven
    · rw [if_pos (by rw [Nat.odd_iff] at hodd; omega)]
      have hround := rounds_sub_half hodd.add_one
      push_cast at hround
      convert hround using 1
      ring
  · rw [if_pos (by omega)]
    have hhalf : 1 / 2 < ((num % den : ℕ) : ℚ) / den := by
      rw [div_lt_div_iff₀ two_pos hpos, one_mul, mul_comm (((num % den : ℕ) : ℚ))]
      exact_mod_cast habove
    refine rounds_of_abs_lt ?_
    rw [abs_lt]
    push_cast
    constructor <;> linarith

lemma exists_rounds {x : ℚ} (hx : 0 ≤ x) : ∃ k, Rounds x k := by
  refine ⟨roundDiv x.num.toNat x.den, ?_⟩
  have hround := rounds_roundDiv x.num.toNat x.den_pos
  have hnum : ((x.num.toNat : ℕ) : ℚ) = x.num := by
    exact_mod_cast Int.toNat_of_nonneg (Rat.num_nonneg.mpr hx)
  rwa [hnum, Rat.num_div_den] at hround

/-! ### Mantissa and exponent -/

lemma rounds_mantissaAt (num : ℕ) {den : ℕ} (hden : 0 < den) (q : ℤ) :
    Rounds (num / den / 2 ^ q) (mantissaAt num den q) := by
  rw [mantissaAt]
  split
  · rename_i hq
    have hpos : 0 < den <<< q.toNat := by
      rw [Nat.shiftLeft_eq]
      positivity
    have hround := rounds_roundDiv num hpos
    obtain ⟨n, rfl⟩ := Int.eq_ofNat_of_zero_le hq
    simpa [Nat.shiftLeft_eq, div_div] using hround
  · rename_i hq
    obtain ⟨n, rfl⟩ : ∃ n : ℕ, q = -n := ⟨(-q).toNat, by omega⟩
    rw [neg_neg, Int.toNat_natCast]
    have hround := rounds_roundDiv (num <<< n) hden
    have hvalue : ((num <<< n : ℕ) : ℚ) / den = num / den * 2 ^ n := by
      rw [Nat.shiftLeft_eq]
      push_cast
      ring
    rw [hvalue] at hround
    simpa using hround

/-- The double nearest to `x` is `m · 2^q`, where `q` is as small as it can be for a mantissa of 53
bits. -/
structure Fits (x : ℚ) (m : ℕ) (q : ℤ) : Prop where
  min_le : minExponent ≤ q
  rounds : Rounds (x / 2 ^ q) m
  lt : m < 2 ^ 53
  least : q = minExponent ∨ ∃ k, Rounds (x / 2 ^ (q - 1)) k ∧ 2 ^ 53 ≤ k

lemma div_zpow_le {x : ℚ} (hx : 0 ≤ x) {q r : ℤ} (hqr : q ≤ r) : x / 2 ^ r ≤ x / 2 ^ q :=
  div_le_div_of_nonneg_left hx (by positivity) (zpow_le_zpow_right₀ one_le_two hqr)

lemma Fits.le_exponent {x : ℚ} (hx : 0 ≤ x) {m k : ℕ} {q r : ℤ} (hm : Fits x m q)
    (hk : Fits x k r) : r ≤ q := by
  by_contra hlt
  rcases hk.least with hmin | ⟨l, hl, hle⟩
  · have := hm.min_le
    omega
  · have hlm : l ≤ m := hl.mono hm.rounds (div_zpow_le hx (by omega))
    have := hm.lt
    omega

lemma Fits.unique {x : ℚ} (hx : 0 ≤ x) {m k : ℕ} {q r : ℤ} (hm : Fits x m q) (hk : Fits x k r) :
    m = k ∧ q = r := by
  obtain rfl : q = r := le_antisymm (hk.le_exponent hx hm) (hm.le_exponent hx hk)
  exact ⟨hm.rounds.unique hk.rounds, rfl⟩

/-- The lengths of numerator and denominator bound a fraction. -/
lemma log2_bounds {num den : ℕ} (hnum : 0 < num) (hden : 0 < den) :
    (2 : ℚ) ^ ((num.log2 : ℤ) - den.log2 - 1) ≤ num / den ∧
      (num : ℚ) / den ≤ 2 ^ ((num.log2 : ℤ) - den.log2 + 1) := by
  have hpos : (0 : ℚ) < den := by exact_mod_cast hden
  have hnumLow : (2 : ℚ) ^ (num.log2 : ℤ) ≤ num := by
    exact_mod_cast Nat.log2_self_le hnum.ne'
  have hnumHigh : (num : ℚ) ≤ 2 ^ ((num.log2 : ℤ) + 1) := by
    exact_mod_cast (Nat.lt_log2_self (n := num)).le
  have hdenLow : (2 : ℚ) ^ (den.log2 : ℤ) ≤ den := by
    exact_mod_cast Nat.log2_self_le hden.ne'
  have hdenHigh : (den : ℚ) ≤ 2 ^ ((den.log2 : ℤ) + 1) := by
    exact_mod_cast (Nat.lt_log2_self (n := den)).le
  constructor
  · rw [le_div_iff₀ hpos]
    calc (2 : ℚ) ^ ((num.log2 : ℤ) - den.log2 - 1) * den
        ≤ 2 ^ ((num.log2 : ℤ) - den.log2 - 1) * 2 ^ ((den.log2 : ℤ) + 1) := by gcongr
      _ = 2 ^ (num.log2 : ℤ) := by rw [← zpow_add₀ two_ne_zero]; ring_nf
      _ ≤ num := hnumLow
  · rw [div_le_iff₀ hpos]
    calc (num : ℚ) ≤ 2 ^ ((num.log2 : ℤ) + 1) := hnumHigh
      _ = 2 ^ ((num.log2 : ℤ) - den.log2 + 1) * 2 ^ (den.log2 : ℤ) := by
        rw [← zpow_add₀ two_ne_zero]; ring_nf
      _ ≤ 2 ^ ((num.log2 : ℤ) - den.log2 + 1) * den := by gcongr

/-- The exponent found from the lengths is not too large: one smaller, the mantissa is too long. -/
lemma le_mantissaAt {num den : ℕ} (hnum : 0 < num) (hden : 0 < den)
    (hq : exponentOf num den ≠ minExponent) :
    2 ^ 53 ≤ mantissaAt num den (exponentOf num den - 1) := by
  have hexponent : exponentOf num den = (num.log2 : ℤ) - den.log2 - 53 := by
    rw [exponentOf] at hq ⊢
    omega
  refine (rounds_natCast (2 ^ 53)).mono (rounds_mantissaAt num hden _) ?_
  rw [le_div_iff₀ (by positivity), hexponent]
  calc ((2 ^ 53 : ℕ) : ℚ) * 2 ^ ((num.log2 : ℤ) - den.log2 - 53 - 1)
      = 2 ^ ((num.log2 : ℤ) - den.log2 - 1) := by
        rw [Nat.cast_pow, Nat.cast_ofNat, ← zpow_natCast, ← zpow_add₀ two_ne_zero]
        congr 1
        omega
    _ ≤ num / den := (log2_bounds hnum hden).1

/-- Nor is it too small by more than two. -/
lemma mantissaAt_lt {num den : ℕ} (hnum : 0 < num) (hden : 0 < den) :
    mantissaAt num den (exponentOf num den + 2) < 2 ^ 53 := by
  have hle : mantissaAt num den (exponentOf num den + 2) ≤ 2 ^ 52 := by
    refine (rounds_mantissaAt num hden _).mono (rounds_natCast (2 ^ 52)) ?_
    rw [div_le_iff₀ (by positivity)]
    calc (num : ℚ) / den ≤ 2 ^ ((num.log2 : ℤ) - den.log2 + 1) := (log2_bounds hnum hden).2
      _ ≤ 2 ^ (52 + (exponentOf num den + 2)) := by
        refine zpow_le_zpow_right₀ one_le_two ?_
        rw [exponentOf]
        omega
      _ = ((2 ^ 52 : ℕ) : ℚ) * 2 ^ (exponentOf num den + 2) := by
        rw [zpow_add₀ two_ne_zero]
        norm_num
  omega

/-- **The double that is found is the nearest one.** -/
lemma ofFraction?_eq (negative : Bool) {num den : ℕ} (hnum : 0 < num) (hden : 0 < den) :
    ∃ m q, Fits (num / den) m q ∧ ofFraction? negative num den =
      if maxExponent < q then none else some (pack negative m q) := by
  have hmin : minExponent ≤ exponentOf num den := le_max_left _ _
  have hrounds := rounds_mantissaAt num hden
  have hfits {q : ℤ} (hq : minExponent ≤ q) (hlt : mantissaAt num den q < 2 ^ 53)
      (hleast : q = minExponent ∨ 2 ^ 53 ≤ mantissaAt num den (q - 1)) :
      Fits (num / den) (mantissaAt num den q) q :=
    ⟨hq, hrounds q, hlt, hleast.imp_right fun hle => ⟨_, hrounds (q - 1), hle⟩⟩
  have hshift : (1 <<< 53 : ℕ) = 2 ^ 53 := rfl
  set q := exponentOf num den with hq
  by_cases h0 : mantissaAt num den q < 2 ^ 53
  · refine ⟨_, q, hfits hmin h0 (or_iff_not_imp_left.mpr (le_mantissaAt hnum hden)), ?_⟩
    simp only [ofFraction?, ← hq, hshift, List.find?_cons, h0, decide_true]
  by_cases h1 : mantissaAt num den (q + 1) < 2 ^ 53
  · refine ⟨_, q + 1, hfits (by omega) h1 (.inr ?_), ?_⟩
    · rw [add_sub_cancel_right]
      exact Nat.le_of_not_lt h0
    · simp only [ofFraction?, ← hq, hshift, List.find?_cons, h0, h1, decide_true, decide_false]
  · have h2 := mantissaAt_lt hnum hden
    rw [← hq] at h2
    refine ⟨_, q + 2, hfits (by omega) h2 (.inr ?_), ?_⟩
    · rw [show q + 2 - 1 = q + 1 by ring]
      exact Nat.le_of_not_lt h1
    · simp only [ofFraction?, ← hq, hshift, List.find?_cons, h0, h1, h2, decide_true, decide_false]

end ProviderHub.Real64
