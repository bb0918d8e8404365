import ProviderHub.Proofs.Json.Rounding

/-!
Doubles and the decimals that stand for them.

* `Real64.ofDecimal?_congr`: decimals of one value are read as one double, however they are written;
* `Real64.fits_of_near`: a decimal that agrees with a double to seventeen digits is read as it;
* `Real64.ofDecimal?_shortest`: the digits that are found for a finite double are read as it.
-/

namespace ProviderHub.Real64

/-! ### Reading a decimal -/

lemma scaled_den_pos (m : ℕ) {b : ℕ} (hb : 0 < b) (e : ℤ) : 0 < (scaled m b e).2 := by
  rw [scaled]
  split
  · exact one_pos
  · exact Nat.pow_pos hb

lemma scaled_num_pos {m b : ℕ} (hm : 0 < m) (hb : 0 < b) (e : ℤ) : 0 < (scaled m b e).1 := by
  rw [scaled]
  split
  · exact Nat.mul_pos hm (Nat.pow_pos hb)
  · exact hm

lemma scaled_value (m b : ℕ) (e : ℤ) :
    ((scaled m b e).1 : ℚ) / (scaled m b e).2 = m * (b : ℚ) ^ e := by
  rw [scaled]
  split
  · rename_i he
    obtain ⟨n, rfl⟩ := Int.eq_ofNat_of_zero_le he
    simp
  · rename_i he
    obtain ⟨n, rfl⟩ : ∃ n : ℕ, e = -n := ⟨(-e).toNat, by omega⟩
    simp [div_eq_mul_inv]

/-- The place of the decimal point in `m · 10^e`, counted from the first digit. -/
def point (m : ℕ) (e : ℤ) : ℤ := (Nat.toDigits 10 m).length + e

lemma pow_le_of_toDigits {m : ℕ} (hm : 0 < m) : 10 ^ ((Nat.toDigits 10 m).length - 1) ≤ m := by
  by_cases hone : (Nat.toDigits 10 m).length = 1
  · rw [hone]
    exact hm
  · have hpos := Nat.length_toDigits_pos (b := 10) (n := m)
    refine Nat.le_of_not_lt fun hlt => ?_
    have := (Nat.length_toDigits_le_iff (by decide) (by omega)).mpr hlt
    omega

lemma lt_pow_toDigits (m : ℕ) : m < 10 ^ (Nat.toDigits 10 m).length :=
  (Nat.length_toDigits_le_iff (by decide) Nat.length_toDigits_pos).mp le_rfl

lemma pow_point_le {m : ℕ} (hm : 0 < m) (e : ℤ) : (10 : ℚ) ^ (point m e - 1) ≤ m * 10 ^ e := by
  have hpos := Nat.length_toDigits_pos (b := 10) (n := m)
  calc (10 : ℚ) ^ (point m e - 1)
      = ((10 ^ ((Nat.toDigits 10 m).length - 1) : ℕ) : ℚ) * 10 ^ e := by
        rw [Nat.cast_pow, Nat.cast_ofNat, ← zpow_natCast, ← zpow_add₀ (by norm_num), point]
        congr 1
        omega
    _ ≤ m * 10 ^ e := by
        gcongr
        exact pow_le_of_toDigits hm

lemma lt_pow_point (m : ℕ) (e : ℤ) : (m : ℚ) * 10 ^ e < 10 ^ point m e := by
  calc (m : ℚ) * 10 ^ e < ((10 ^ (Nat.toDigits 10 m).length : ℕ) : ℚ) * 10 ^ e := by
        gcongr
        exact lt_pow_toDigits m
    _ = 10 ^ point m e := by
        rw [Nat.cast_pow, Nat.cast_ofNat, ← zpow_natCast, ← zpow_add₀ (by norm_num), point]

/-- The place of the point is determined by the value. -/
lemma point_congr {m m' : ℕ} {e e' : ℤ} (hm : 0 < m) (hm' : 0 < m')
    (h : (m : ℚ) * 10 ^ e = m' * 10 ^ e') : point m e = point m' e' := by
  have hle : ∀ {m m' : ℕ} {e e' : ℤ}, 0 < m → (m : ℚ) * 10 ^ e = m' * 10 ^ e' →
      point m e ≤ point m' e' := by
    intro m m' e e' hm h
    have hlt := (pow_point_le hm e).trans_lt (h ▸ lt_pow_point m' e')
    have := (zpow_lt_zpow_iff_right₀ (by norm_num)).mp hlt
    omega
  exact le_antisymm (hle hm h) (hle hm' h.symm)

lemma ofDecimal?_zero (negative : Bool) (e : ℤ) :
    ofDecimal? negative 0 e = some (pack negative 0 minExponent) := by
  rw [ofDecimal?, if_pos (.inl rfl)]

/-- A decimal other than zero is settled by its point where that is far off, and is the nearest
double otherwise. -/
lemma ofDecimal?_eq (negative : Bool) {m : ℕ} (hm : 0 < m) (e : ℤ) :
    ∃ k q, Fits (m * 10 ^ e) k q ∧ ofDecimal? negative m e =
      if point m e < -400 then some (pack negative 0 minExponent)
      else if 400 < point m e ∨ maxExponent < q then none
      else some (pack negative k q) := by
  obtain ⟨k, q, hfits, hread⟩ := ofFraction?_eq negative
    (scaled_num_pos hm (by decide : 0 < 10) e) (scaled_den_pos m (by decide : 0 < 10) e)
  rw [scaled_value, Nat.cast_ofNat] at hfits
  refine ⟨k, q, hfits, ?_⟩
  change (if m = 0 ∨ point m e < -400 then _ else if 400 < point m e then _ else _) = _
  by_cases hlow : point m e < -400
  · rw [if_pos hlow, if_pos (.inr hlow)]
  · rw [if_neg hlow, if_neg (by rintro (h | h); exacts [hm.ne' h, hlow h])]
    by_cases hhigh : 400 < point m e
    · rw [if_pos hhigh, if_pos (.inl hhigh)]
    · rw [if_neg hhigh]
      simp only [hhigh, false_or]
      exact hread

/-- **Decimals of one value are read as one double**, however they are written. -/
lemma ofDecimal?_congr (negative : Bool) {m m' : ℕ} {e e' : ℤ}
    (h : (m : ℚ) * 10 ^ e = m' * 10 ^ e') :
    ofDecimal? negative m e = ofDecimal? negative m' e' := by
  have hten : ∀ n : ℤ, (10 : ℚ) ^ n ≠ 0 := fun n => zpow_ne_zero n (by norm_num)
  rcases Nat.eq_zero_or_pos m with rfl | hm
  · have hzero : m' = 0 := by
      have : (m' : ℚ) = 0 := by simpa [hten] using h.symm
      exact_mod_cast this
    rw [hzero, ofDecimal?_zero, ofDecimal?_zero]
  · have hm' : 0 < m' := by
      refine Nat.pos_of_ne_zero fun hzero => hm.ne' ?_
      rw [hzero, Nat.cast_zero, zero_mul, mul_eq_zero, or_iff_left (hten e)] at h
      exact_mod_cast h
    obtain ⟨k, q, hfits, hread⟩ := ofDecimal?_eq negative hm e
    obtain ⟨k', q', hfits', hread'⟩ := ofDecimal?_eq negative hm' e'
    rw [← h] at hfits'
    obtain ⟨rfl, rfl⟩ := hfits.unique (by positivity) hfits'
    rw [hread, hread', point_congr hm hm' h]

lemma two_pow_le_ten_pow (n : ℕ) : (2 : ℚ) ^ (3 * n) ≤ 10 ^ n := by
  rw [pow_mul]
  exact pow_le_pow_left₀ (by norm_num) (by norm_num) n

/-- What fits a positive mantissa is at least half of the least double. -/
lemma Fits.two_pow_le {x : ℚ} {k : ℕ} {q : ℤ} (hk : 0 < k) (hfits : Fits x k q) :
    (2 : ℚ) ^ (-1075 : ℤ) ≤ x := by
  have hpow : (0 : ℚ) < 2 ^ q := by positivity
  have hhalf : (1 / 2 : ℚ) ≤ x / 2 ^ q := by
    have : (1 : ℚ) ≤ k := by exact_mod_cast hk
    linarith [hfits.rounds.sub_le]
  have hmin : (2 : ℚ) ^ minExponent ≤ 2 ^ q := zpow_le_zpow_right₀ one_le_two hfits.min_le
  rw [le_div_iff₀ hpow] at hhalf
  calc (2 : ℚ) ^ (-1075 : ℤ) = 1 / 2 * 2 ^ minExponent := by
        rw [show (-1075 : ℤ) = -1 + minExponent from rfl, zpow_add₀ two_ne_zero, zpow_neg_one,
          one_div]
    _ ≤ 1 / 2 * 2 ^ q := by gcongr
    _ ≤ x := hhalf

lemma Fits.le_two_pow {x : ℚ} {k : ℕ} {q : ℤ} (hq : q ≤ maxExponent) (hfits : Fits x k q) :
    x ≤ 2 ^ (1024 : ℤ) := by
  have hpow : (0 : ℚ) < 2 ^ q := by positivity
  have hle : x / 2 ^ q ≤ 2 ^ (53 : ℤ) := by
    have : (k : ℚ) + 1 ≤ 2 ^ (53 : ℤ) := by exact_mod_cast hfits.lt
    linarith [hfits.rounds.le_add]
  have hmax : (2 : ℚ) ^ q ≤ 2 ^ maxExponent := zpow_le_zpow_right₀ one_le_two hq
  rw [div_le_iff₀ hpow] at hle
  calc x ≤ 2 ^ (53 : ℤ) * 2 ^ q := hle
    _ ≤ 2 ^ (53 : ℤ) * 2 ^ maxExponent := by gcongr
    _ = 2 ^ (1024 : ℤ) := by rw [← zpow_add₀ two_ne_zero]; rfl

/-- A decimal that is large enough for a double is not taken for zero. -/
lemma le_point {m : ℕ} {e : ℤ} (hlow : (2 : ℚ) ^ (-1075 : ℤ) ≤ m * 10 ^ e) : -400 ≤ point m e := by
  by_contra hpoint
  have hle : (10 : ℚ) ^ point m e ≤ 10 ^ (-401 : ℤ) :=
    zpow_le_zpow_right₀ (by norm_num) (by omega)
  have hten : (10 : ℚ) ^ (-401 : ℤ) ≤ 2 ^ (-1075 : ℤ) := by
    have h2 : (2 : ℚ) ^ 1075 ≤ 2 ^ (3 * 401) := pow_le_pow_right₀ one_le_two (by decide)
    rw [zpow_neg, zpow_neg, zpow_ofNat, zpow_ofNat]
    exact inv_anti₀ (by positivity) (h2.trans (two_pow_le_ten_pow 401))
  exact absurd (hlow.trans_lt (lt_pow_point m e)) (not_lt.mpr (hle.trans hten))

/-- A decimal that is small enough for a double is not taken for one that is too large. -/
lemma point_le {m : ℕ} (hm : 0 < m) {e : ℤ} (hhigh : (m : ℚ) * 10 ^ e ≤ 2 ^ (1024 : ℤ)) :
    point m e ≤ 400 := by
  by_contra hpoint
  have hle : (10 : ℚ) ^ (400 : ℤ) ≤ 10 ^ (point m e - 1) :=
    zpow_le_zpow_right₀ (by norm_num) (by omega)
  have hten : (2 : ℚ) ^ (1024 : ℤ) < 10 ^ (400 : ℤ) := by
    have h2 : (2 : ℚ) ^ 1024 < 2 ^ (3 * 400) := pow_lt_pow_right₀ one_lt_two (by decide)
    rw [zpow_ofNat, zpow_ofNat]
    exact h2.trans_le (two_pow_le_ten_pow 400)
  exact absurd (hle.trans ((pow_point_le hm e).trans hhigh)) (not_le.mpr hten)

/-- A decimal is read as the double that fits it. -/
lemma ofDecimal?_of_fits (negative : Bool) {m k : ℕ} {e q : ℤ} (hk : 0 < k)
    (hq : q ≤ maxExponent) (hfits : Fits (m * 10 ^ e) k q) :
    ofDecimal? negative m e = some (pack negative k q) := by
  have hlow := hfits.two_pow_le hk
  have hm : 0 < m := by
    refine Nat.pos_of_ne_zero fun hzero => ?_
    rw [hzero, Nat.cast_zero, zero_mul] at hlow
    exact absurd hlow (not_le.mpr (by positivity))
  have hlePoint := le_point hlow
  have hpointLe := point_le hm (hfits.le_two_pow hq)
  obtain ⟨k', q', hfits', hread⟩ := ofDecimal?_eq negative hm e
  obtain ⟨rfl, rfl⟩ := hfits.unique (by positivity) hfits'
  rw [hread, if_neg (by omega), if_neg (by rintro (h | h) <;> omega)]

/-! ### A double and its parts -/

/-- A double that is a number. -/
def IsFinite (r : Real64) : Prop := r.parts.2 ≤ maxExponent

instance (r : Real64) : Decidable r.IsFinite := inferInstanceAs (Decidable (_ ≤ _))

lemma parts_lt (r : Real64) : r.parts.1 < 2 ^ 53 := by
  have := Nat.mod_lt (r.bits.toNat % (1 <<< 63)) (show 0 < 1 <<< 52 by decide)
  rw [parts]
  split
  · rename_i hfield
    rw [Nat.shiftRight_eq_div_pow] at hfield
    simp only [Nat.shiftLeft_eq] at *
    omega
  · simp only [Nat.shiftLeft_eq] at *
    omega

lemma min_le_parts (r : Real64) : minExponent ≤ r.parts.2 := by
  rw [parts]
  split
  · exact le_rfl
  · rename_i hfield
    dsimp only at hfield ⊢
    omega

lemma le_parts (r : Real64) : r.parts.2 = minExponent ∨ 2 ^ 52 ≤ r.parts.1 := by
  rw [parts]
  split
  · exact .inl rfl
  · right
    simp only [Nat.shiftLeft_eq]
    omega

/-- A double is packed from its sign and its parts. -/
lemma pack_parts (r : Real64) : pack r.isNegative r.parts.1 r.parts.2 = r := by
  obtain ⟨bits⟩ := r
  have hbound := bits.toNat_lt
  have hsign : (if isNegative ⟨bits⟩ then 1 <<< 63 else 0 : ℕ) + bits.toNat % (1 <<< 63) =
      bits.toNat := by
    simp only [isNegative, Nat.shiftLeft_eq, decide_eq_true_eq]
    split <;> omega
  have hbody (m : ℕ) (q : ℤ) (hparts : parts ⟨bits⟩ = (m, q)) :
      (if m < 1 <<< 52 then m
        else ((q - minExponent + 1).toNat <<< 52) + (m - (1 <<< 52))) =
      bits.toNat % (1 <<< 63) := by
    rw [parts] at hparts
    simp only [Nat.shiftLeft_eq, Nat.shiftRight_eq_div_pow] at hparts ⊢
    split at hparts
    · obtain ⟨rfl, rfl⟩ := Prod.mk.inj hparts
      rw [if_pos (by omega)]
    · obtain ⟨rfl, rfl⟩ := Prod.mk.inj hparts
      rw [if_neg (by omega)]
      omega
  rw [pack, hbody (parts ⟨bits⟩).1 (parts ⟨bits⟩).2 rfl, hsign]
  simp

/-- **Seventeen digits are enough**: what is off by less than one part in `2 · 10^16` fits the same
mantissa and exponent. -/
lemma fits_of_near {y : ℚ} {m : ℕ} {q : ℤ} (hm : m < 2 ^ 53) (hmin : minExponent ≤ q)
    (hleast : q = minExponent ∨ 2 ^ 52 ≤ m)
    (hnear : |y - m * 2 ^ q| ≤ m * 2 ^ q / (2 * 10 ^ 16)) : Fits y m q := by
  have hpow : (0 : ℚ) < 2 ^ q := by positivity
  have hscaled : |y / 2 ^ q - m| ≤ m / (2 * 10 ^ 16) := by
    have hdiv : y / 2 ^ q - m = (y - m * 2 ^ q) / 2 ^ q := by
      field_simp
    rw [hdiv, abs_div, abs_of_pos hpow, div_le_iff₀ hpow]
    calc |y - m * 2 ^ q| ≤ m * 2 ^ q / (2 * 10 ^ 16) := hnear
      _ = m / (2 * 10 ^ 16) * 2 ^ q := by ring
  have hmq : (m : ℚ) < 2 ^ 53 := by exact_mod_cast hm
  refine ⟨hmin, rounds_of_abs_lt (hscaled.trans_lt ?_), hm, hleast.imp_right fun hbig => ?_⟩
  · rw [div_lt_iff₀ (by norm_num)]
    linarith
  · have hlarge : (2 : ℚ) ^ 52 ≤ m := by exact_mod_cast hbig
    -- one exponent lower, the fraction lies above the tie below `2^53`
    have htie : ((2 ^ 53 : ℕ) : ℚ) - 1 / 2 ≤ y / 2 ^ (q - 1) := by
      have hshift : y / 2 ^ (q - 1) = 2 * (y / 2 ^ q) := by
        rw [zpow_sub_one₀ two_ne_zero]
        field_simp
      have hlow := (abs_le.mp hscaled).1
      rw [hshift]
      push_cast
      linarith
    obtain ⟨k, hk⟩ := exists_rounds (x := y / 2 ^ (q - 1)) (le_trans (by norm_num) htie)
    exact ⟨k, hk, (rounds_sub_half (by decide : Even (2 ^ 53))).mono hk htie⟩

/-! ### The digits of a double -/

lemma below_iff (num : ℕ) {den : ℕ} (hden : 0 < den) (e : ℤ) :
    (if 0 ≤ e then decide (den * Nat.pow 10 e.toNat ≤ num)
      else decide (den ≤ num * Nat.pow 10 (-e).toNat)) = true ↔ (10 : ℚ) ^ e ≤ num / den := by
  have hpos : (0 : ℚ) < den := by exact_mod_cast hden
  rw [le_div_iff₀ hpos, mul_comm _ (den : ℚ)]
  split
  · rename_i he
    obtain ⟨n, rfl⟩ := Int.eq_ofNat_of_zero_le he
    rw [decide_eq_true_eq, Int.toNat_natCast, zpow_natCast]
    exact_mod_cast Iff.rfl
  · rename_i he
    obtain ⟨n, rfl⟩ : ∃ n : ℕ, e = -n := ⟨(-e).toNat, by omega⟩
    have hten : (0 : ℚ) < 10 ^ n := by positivity
    rw [decide_eq_true_eq, neg_neg, Int.toNat_natCast, zpow_neg, zpow_natCast,
      mul_inv_le_iff₀ hten]
    exact_mod_cast Iff.rfl

/-- The first digit of a fraction is no further to the left than its value allows. -/
lemma pow_leadingExponent_le {num den : ℕ} (hnum : 0 < num) (hden : 0 < den) :
    (10 : ℚ) ^ leadingExponent num den ≤ num / den := by
  have hpos : (0 : ℚ) < den := by exact_mod_cast hden
  have hstart : (10 : ℚ) ^
      (((Nat.toDigits 10 num).length : ℤ) - (Nat.toDigits 10 den).length - 1) ≤ num / den := by
    rw [le_div_iff₀ hpos]
    have hlow := pow_point_le hnum 0
    have hhigh := lt_pow_point den 0
    simp only [point, add_zero, zpow_zero, mul_one] at hlow hhigh
    calc (10 : ℚ) ^ (((Nat.toDigits 10 num).length : ℤ) - (Nat.toDigits 10 den).length - 1) * den
        ≤ 10 ^ (((Nat.toDigits 10 num).length : ℤ) - (Nat.toDigits 10 den).length - 1) *
            10 ^ ((Nat.toDigits 10 den).length : ℤ) := by gcongr
      _ = 10 ^ (((Nat.toDigits 10 num).length : ℤ) - 1) := by
          rw [← zpow_add₀ (by norm_num)]
          congr 1
          ring
      _ ≤ num := hlow
  simp only [leadingExponent, below_iff num hden]
  set start : ℤ := ((Nat.toDigits 10 num).length : ℤ) - (Nat.toDigits 10 den).length - 1
  by_cases htwo : (10 : ℚ) ^ (start + 2) ≤ num / den
  · rwa [if_pos htwo]
  · rw [if_neg htwo]
    by_cases hone : (10 : ℚ) ^ (start + 1) ≤ num / den
    · rwa [if_pos hone]
    · rwa [if_neg hone]

/-- Among the neighbours of a fraction on a decimal grid is the one it is rounded to. -/
lemma exists_mem_neighbours (num : ℕ) {den : ℕ} (hden : 0 < den) (e : ℤ) :
    ∃ d ∈ neighbours num den e, Rounds (num / den / 10 ^ e) d := by
  have hmem (n d : ℕ) : roundDiv n d ∈
      if roundDiv n d = n / d then [n / d, n / d + 1] else [n / d + 1, n / d] := by
    simp only [roundDiv]
    split <;> split <;> simp_all
  rw [neighbours]
  split
  rename_i n d hsplit
  refine ⟨roundDiv n d, hmem n d, ?_⟩
  split at hsplit
  · rename_i he
    obtain ⟨rfl, rfl⟩ := Prod.mk.inj hsplit
    obtain ⟨k, rfl⟩ := Int.eq_ofNat_of_zero_le he
    have hpos : 0 < den * 10 ^ k := by positivity
    have hround := rounds_roundDiv num hpos
    simpa [div_div] using hround
  · rename_i he
    obtain ⟨rfl, rfl⟩ := Prod.mk.inj hsplit
    obtain ⟨k, rfl⟩ : ∃ k : ℕ, e = -k := ⟨(-e).toNat, by omega⟩
    have hround := rounds_roundDiv (num * 10 ^ k) hden
    have hvalue : ((num * 10 ^ k : ℕ) : ℚ) / den = num / den * 10 ^ k := by
      push_cast
      ring
    rw [hvalue] at hround
    simpa using hround

/-- What a fraction is rounded to on the grid of its seventeenth digit is near. -/
lemma near_of_rounds {x : ℚ} {d : ℕ} {lead : ℤ} (hlead : (10 : ℚ) ^ lead ≤ x)
    (hround : Rounds (x / 10 ^ (lead - 16)) d) :
    |d * 10 ^ (lead - 16) - x| ≤ x / (2 * 10 ^ 16) := by
  have hpow : (0 : ℚ) < 10 ^ (lead - 16) := by positivity
  have hgrid : (10 : ℚ) ^ (lead - 16) / 2 ≤ x / (2 * 10 ^ 16) := by
    rw [zpow_sub₀ (by norm_num), div_div, mul_comm (2 : ℚ)]
    exact div_le_div_of_nonneg_right hlead (by norm_num)
  have hlow := hround.sub_le
  have hhigh := hround.le_add
  rw [le_div_iff₀ hpow] at hlow
  rw [div_le_iff₀ hpow] at hhigh
  rw [abs_le]
  constructor <;> linarith

/-- The search succeeds if one candidate serves. -/
lemma getD_find?_serves {r : Real64} {candidates : List (ℕ × ℤ)} {d : ℕ} {e : ℤ} {other : ℕ × ℤ}
    (hmem : (d, e) ∈ candidates) (hread : ofDecimal? r.isNegative d e = some r) :
    let found := (candidates.find? fun (d, e) => ofDecimal? r.isNegative d e == some r).getD other
    ofDecimal? r.isNegative found.1 found.2 = some r := by
  have hsome : (candidates.find? fun (d, e) =>
      ofDecimal? r.isNegative d e == some r).isSome := by
    rw [List.find?_isSome]
    exact ⟨_, hmem, by simp [hread]⟩
  obtain ⟨found, hfound⟩ := Option.isSome_iff_exists.mp hsome
  have hserves := List.find?_some hfound
  dsimp only at hserves ⊢
  rw [hfound, Option.getD_some]
  exact eq_of_beq hserves

/-- **The digits that are found for a finite double are read as it.** -/
lemma ofDecimal?_shortest {r : Real64} (hr : r.IsFinite) :
    ofDecimal? r.isNegative r.shortest.1 r.shortest.2 = some r := by
  have hpack := pack_parts r
  rw [shortest]
  split
  rename_i m q hparts
  have hlt := parts_lt r
  have hmin := min_le_parts r
  have hleast := le_parts r
  have hmax : r.parts.2 ≤ maxExponent := hr
  rw [hparts] at hpack hlt hmin hleast hmax
  dsimp only at hpack hlt hmin hleast hmax
  by_cases hm : m = 0
  · subst hm
    have hq : q = minExponent := hleast.resolve_right (by norm_num)
    rw [if_pos rfl, ofDecimal?_zero, ← hq, hpack]
  · rw [if_neg hm]
    have hpos := Nat.pos_of_ne_zero hm
    split
    rename_i num den hscaled
    have hnum := scaled_num_pos hpos (by decide : 0 < 2) q
    have hden := scaled_den_pos m (by decide : 0 < 2) q
    have hvalue := scaled_value m 2 q
    rw [hscaled] at hnum hden hvalue
    rw [Nat.cast_ofNat] at hvalue
    have hlead := pow_leadingExponent_le hnum hden
    -- of the seventeen numbers of digits, the last one always serves
    obtain ⟨d, hd, hround⟩ := exists_mem_neighbours num hden (leadingExponent num den - 16)
    have hread : ofDecimal? r.isNegative d (leadingExponent num den - 16) = some r := by
      have hnear := near_of_rounds hlead hround
      rw [hvalue] at hnear
      rw [ofDecimal?_of_fits r.isNegative hpos hmax (fits_of_near hlt hmin hleast hnear), hpack]
    exact getD_find?_serves (List.mem_flatMap.mpr ⟨16, by decide, List.mem_map.mpr ⟨d, hd, rfl⟩⟩)
      hread

end ProviderHub.Real64
