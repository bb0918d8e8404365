import ProviderHub.Proofs.Json.Scalars

/-!
Doubles whose text is read back.

The reader rounds the digits of a number first, and what it scales them to once more. Where the
digits and the power of ten are doubles themselves, only the last step rounds, and the double found
is the nearest one.

* `Real64.Fits.exact`: a fraction that is a double is met exactly;
* `Real64.parts_pack`: a double has the mantissa and the exponent that it is packed from;
* `Real64.ofParts?_eq_ofDecimal?`: digits below `2^53` are read as the nearest double, if they are
  scaled by at most `10^22`;
* `Real64.readsBack_of_printed`: a double with such a text is read back.
-/

namespace ProviderHub.Real64

/-! ### Fractions that are doubles -/

lemma Fits.exact {a k : ℕ} {b q : ℤ} (ha : a < 2 ^ 53) (hb : minExponent ≤ b)
    (hfits : Fits (a * 2 ^ b) k q) : q ≤ b ∧ (k : ℚ) * 2 ^ q = a * 2 ^ b := by
  have hle : q ≤ b := by
    by_contra hlt
    rcases hfits.least with hmin | ⟨l, hl, hbig⟩
    · omega
    · have hpow : (2 : ℚ) ^ b ≤ 2 ^ (q - 1) := zpow_le_zpow_right₀ one_le_two (by omega)
      have hsmall : (a : ℚ) * 2 ^ b / 2 ^ (q - 1) ≤ a := by
        rw [div_le_iff₀ (by positivity)]
        gcongr
      have := hl.mono (rounds_natCast a) hsmall
      omega
  refine ⟨hle, ?_⟩
  obtain ⟨n, hn⟩ : ∃ n : ℕ, b = n + q := ⟨(b - q).toNat, by omega⟩
  have hwhole : (a : ℚ) * 2 ^ b = ((a * 2 ^ n : ℕ) : ℚ) * 2 ^ q := by
    rw [hn, zpow_add₀ two_ne_zero, zpow_natCast]
    push_cast
    ring
  have hround := hfits.rounds
  rw [hwhole, mul_div_cancel_right₀ _ (by positivity)] at hround
  rw [hround.unique (rounds_natCast _), hwhole]

/-- A mantissa is short only at the exponent of the subnormal doubles. -/
lemma Fits.normal {x : ℚ} {k : ℕ} {q : ℤ} (hfits : Fits x k q) : q = minExponent ∨ 2 ^ 52 ≤ k := by
  refine hfits.least.imp_right fun ⟨l, hl, hbig⟩ => ?_
  have hhalf : x / 2 ^ (q - 1) = 2 * (x / 2 ^ q) := by
    rw [zpow_sub_one₀ two_ne_zero]
    field_simp
  have hlow := hl.sub_le
  have hhigh := hfits.rounds.le_add
  have hlarge : (2 : ℚ) ^ 53 ≤ l := by exact_mod_cast hbig
  rw [hhalf] at hlow
  have hk : (2 : ℚ) ^ 52 < k + 1 := by linarith
  have hnat : 2 ^ 52 < k + 1 := by exact_mod_cast hk
  omega

lemma parts_pack (negative : Bool) {k : ℕ} {q : ℤ} (hk : k < 2 ^ 53) (hmin : minExponent ≤ q)
    (hmax : q ≤ maxExponent) (hnormal : q = minExponent ∨ 2 ^ 52 ≤ k) :
    (pack negative k q).parts = (k, q) := by
  -- the sign is above the 63 bits that exponent and mantissa share
  have hbits {sign body : ℕ} (hsign : sign = 0 ∨ sign = 2 ^ 63) (hbody : body < 2 ^ 63) :
      (UInt64.ofNat (sign + body)).toNat % 2 ^ 63 = body := by
    rw [UInt64.toNat_ofNat']
    omega
  have hsign : (if negative then 1 <<< 63 else 0 : ℕ) = 0 ∨
      (if negative then 1 <<< 63 else 0 : ℕ) = 2 ^ 63 := by
    cases negative <;> simp
  have hoffset : minExponent = -1074 ∧ maxExponent = 971 := ⟨rfl, rfl⟩
  simp only [parts, pack, Nat.shiftRight_eq_div_pow]
  simp only [Nat.shiftLeft_eq, one_mul] at hsign ⊢
  by_cases hshort : k < 2 ^ 52
  · have hq : q = minExponent := hnormal.resolve_right (by omega)
    rw [if_pos hshort, hbits hsign (by omega), if_pos (Nat.div_eq_of_lt hshort), hq]
  · rw [if_neg hshort, hbits hsign (by omega), if_neg (by omega)]
    refine Prod.ext ?_ ?_ <;> simp only <;> omega

/-! ### Values -/

/-- The magnitude of a double. -/
def value (r : Real64) : ℚ := r.parts.1 * 2 ^ r.parts.2

lemma fraction_value (r : Real64) : (r.fraction.1 : ℚ) / r.fraction.2 = r.value := by
  rw [fraction, scaled_value, Nat.cast_ofNat, value]

lemma fraction_den_pos (r : Real64) : 0 < r.fraction.2 := scaled_den_pos _ (by decide) _

lemma fraction_num_pos {r : Real64} (hr : 0 < r.value) : 0 < r.fraction.1 := by
  refine Nat.pos_of_ne_zero fun hzero => hr.ne' ?_
  rw [← fraction_value, hzero, Nat.cast_zero, zero_div]

/-- The double that is found depends on the fraction only. -/
lemma ofFraction?_congr (negative : Bool) {num den num' den' : ℕ} (hnum : 0 < num)
    (hden : 0 < den) (hnum' : 0 < num') (hden' : 0 < den')
    (h : (num : ℚ) / den = num' / den') :
    ofFraction? negative num den = ofFraction? negative num' den' := by
  obtain ⟨k, q, hfits, hread⟩ := ofFraction?_eq negative hnum hden
  obtain ⟨k', q', hfits', hread'⟩ := ofFraction?_eq negative hnum' hden'
  rw [← h] at hfits'
  obtain ⟨rfl, rfl⟩ := hfits.unique (by positivity) hfits'
  rw [hread, hread']

/-- A fraction that is a double is found. -/
lemma ofFraction?_exact {num den a : ℕ} {b : ℤ} (hnum : 0 < num) (hden : 0 < den)
    (ha : a < 2 ^ 53) (hmin : minExponent ≤ b) (hmax : b ≤ maxExponent)
    (h : (num : ℚ) / den = a * 2 ^ b) :
    ∃ f, ofFraction? false num den = some f ∧ f.value = num / den := by
  obtain ⟨k, q, hfits, hread⟩ := ofFraction?_eq false hnum hden
  rw [h] at hfits
  obtain ⟨hle, hvalue⟩ := hfits.exact ha hmin
  have hfinite : q ≤ maxExponent := hle.trans hmax
  rw [if_neg (not_lt.mpr hfinite)] at hread
  refine ⟨_, hread, ?_⟩
  rw [value, parts_pack false hfits.lt hfits.min_le hfinite hfits.normal, hvalue, h]

lemma ofNat_exact {m : ℕ} (hpos : 0 < m) (hm : m < 2 ^ 53) :
    ∃ f, ofFraction? false m 1 = some f ∧ f.value = m := by
  obtain ⟨f, hf, hvalue⟩ := ofFraction?_exact (b := 0) hpos one_pos hm (by decide) (by decide)
    (by simp)
  exact ⟨f, hf, by rw [hvalue, Nat.cast_one, div_one]⟩

/-- The powers of ten up to the twenty-second are doubles. -/
lemma powTen_exact {n : ℕ} (hn : n ≤ 22) : ∃ p, powTen? n = some p ∧ p.value = 10 ^ n := by
  have hfive : 5 ^ n < 2 ^ 53 := by
    calc 5 ^ n ≤ 5 ^ 22 := Nat.pow_le_pow_right (by decide) hn
      _ < 2 ^ 53 := by decide
  have hmin : minExponent ≤ n := le_trans (by decide) (Int.natCast_nonneg n)
  have hmax : (n : ℤ) ≤ maxExponent := le_trans (b := 22) (by exact_mod_cast hn) (by decide)
  obtain ⟨p, hp, hvalue⟩ := ofFraction?_exact (Nat.pow_pos (n := n) (by decide : 0 < 10)) one_pos
    hfive hmin hmax (by push_cast; rw [zpow_natCast, ← mul_pow]; norm_num)
  exact ⟨p, hp, by rw [hvalue, Nat.cast_one, div_one, Nat.cast_pow, Nat.cast_ofNat]⟩

/-! ### Digits that are scaled -/

lemma mul?_eq {r s : Real64} (hr : 0 < r.value) (hs : 0 < s.value) {num den : ℕ} (hnum : 0 < num)
    (hden : 0 < den) (h : (num : ℚ) / den = r.value * s.value) :
    r.mul? s = ofFraction? false num den := by
  refine ofFraction?_congr false (Nat.mul_pos (fraction_num_pos hr) (fraction_num_pos hs))
    (Nat.mul_pos r.fraction_den_pos s.fraction_den_pos) hnum hden ?_
  rw [h, ← fraction_value, ← fraction_value]
  push_cast
  rw [div_mul_div_comm]

lemma div?_eq {r s : Real64} (hr : 0 < r.value) (hs : 0 < s.value) {num den : ℕ} (hnum : 0 < num)
    (hden : 0 < den) (h : (num : ℚ) / den = r.value / s.value) :
    r.div? s = ofFraction? false num den := by
  refine ofFraction?_congr false (Nat.mul_pos (fraction_num_pos hr) s.fraction_den_pos)
    (Nat.mul_pos r.fraction_den_pos (fraction_num_pos hs)) hnum hden ?_
  rw [h, ← fraction_value, ← fraction_value]
  push_cast
  rw [div_div_div_eq]

/-- Scaling by a power of ten that is a double rounds once. -/
lemma scale?_eq {f : Real64} (hf : 0 < f.value) {e : ℤ} (he : e.natAbs ≤ 22) {num den : ℕ}
    (hnum : 0 < num) (hden : 0 < den) (h : (num : ℚ) / den = f.value * 10 ^ e) :
    f.scale? e = ofFraction? false num den := by
  obtain ⟨p, hp, hvalue⟩ := powTen_exact he
  have hpos : 0 < p.value := by
    rw [hvalue]
    positivity
  rw [scale?, if_pos (by omega), hp, Option.bind_some]
  split
  · rename_i hsign
    refine mul?_eq hf hpos hnum hden ?_
    rw [h, hvalue, ← zpow_natCast, Int.natAbs_of_nonneg hsign]
  · rename_i hsign
    refine div?_eq hf hpos hnum hden ?_
    have hneg : ((e.natAbs : ℕ) : ℤ) = -e := Int.ofNat_natAbs_of_nonpos (by omega)
    rw [h, hvalue, ← zpow_natCast, hneg, zpow_neg, div_inv_eq_mul]

lemma ofFraction?_zero {den : ℕ} : ofFraction? false 0 den = some ⟨0⟩ := by
  have hmantissa (q : ℤ) : mantissaAt 0 den q = 0 := by
    simp [mantissaAt, roundDiv]
  have hexponent : ¬ maxExponent < exponentOf 0 den := by
    rw [exponentOf, minExponent, maxExponent, Nat.log2_zero]
    omega
  simp only [ofFraction?, List.find?_cons, hmantissa]
  exact if_neg hexponent

lemma ofParts?_zero (negative : Bool) {e : ℤ} (he : e.natAbs ≤ 22) :
    ofParts? negative 0 e = some (pack negative 0 minExponent) := by
  obtain ⟨p, hp, -⟩ := powTen_exact he
  have hzero : (⟨0⟩ : Real64).fraction.1 = 0 := by decide
  have hscale : (⟨0⟩ : Real64).scale? e = some ⟨0⟩ := by
    rw [scale?, if_pos (by omega), hp, Option.bind_some, mul?, div?, hzero, zero_mul, zero_mul,
      ofFraction?_zero, ofFraction?_zero, ite_self]
  rw [ofParts?, ofFraction?_zero, Option.bind_some, hscale]
  rfl

/-- **Few digits at a small exponent are read as the nearest double.** -/
theorem ofParts?_eq_ofDecimal? (negative : Bool) {m : ℕ} (hm : m < 2 ^ 53) {e : ℤ}
    (he : e.natAbs ≤ 22) : ofParts? negative m e = ofDecimal? negative m e := by
  rcases Nat.eq_zero_or_pos m with rfl | hpos
  · rw [ofParts?_zero negative he, ofDecimal?_zero]
  obtain ⟨f, hf, hvalue⟩ := ofNat_exact hpos hm
  have hnum := scaled_num_pos hpos (by decide : 0 < 10) e
  have hden := scaled_den_pos m (by decide : 0 < 10) e
  have hscaled := scaled_value m 10 e
  rw [Nat.cast_ofNat] at hscaled
  have hscale : f.scale? e = ofFraction? false (scaled m 10 e).1 (scaled m 10 e).2 := by
    refine scale?_eq ?_ he hnum hden (by rw [hscaled, hvalue])
    rw [hvalue]
    exact_mod_cast hpos
  obtain ⟨k, q, hfits, hread⟩ := ofFraction?_eq false hnum hden
  rw [hscaled] at hfits
  obtain ⟨k', q', hfits', hdecimal⟩ := ofDecimal?_eq negative hpos e
  obtain ⟨rfl, rfl⟩ := hfits.unique (by positivity) hfits'
  have hdigits : (Nat.toDigits 10 m).length ≤ 16 :=
    (Nat.length_toDigits_le_iff (by decide) (by decide)).mpr (hm.trans (by decide))
  have hpoint : ¬ point m e < -400 ∧ ¬ 400 < point m e := by
    rw [point]
    omega
  rw [ofParts?, hf, Option.bind_some, hscale, hread, hdecimal, if_neg hpoint.1]
  simp only [hpoint.2, false_or]
  split
  · rfl
  · rename_i hfinite
    rw [Option.map_some, parts_pack false hfits.lt hfits.min_le (not_lt.mp hfinite) hfits.normal]

/-! ### Texts -/

/-- Digits that fit a word are all taken. -/
lemma takeDigits_of_lt {ds : List Char} {n : ℕ} (hlt : Nat.ofDigitChars 10 ds n < UInt64.size) :
    Json.takeDigits n ds = (Nat.ofDigitChars 10 ds n, []) := by
  induction ds generalizing n with
  | nil => rfl
  | cons c ds ih =>
    rw [Nat.ofDigitChars_cons] at hlt ⊢
    have hnext : 10 * n + (c.toNat - '0'.toNat) < UInt64.size :=
      lt_of_le_of_lt (Json.le_ofDigitChars ds _) hlt
    rw [Json.takeDigits]
    exact (if_pos hnext).trans (ih hlt)

lemma readReal?_eq (negative : Bool) {whole fraction : List Char} {exponent : Option ℤ} {m : ℕ}
    {e : ℤ} (hreal : Json.IsReal whole fraction exponent m e) (hm : m < UInt64.size)
    (hexponent : (exponent.getD 0).natAbs < 2 ^ 31) :
    Json.readReal? negative whole fraction (exponent.getD 0) = ofParts? negative m e := by
  have hdigits : Nat.ofDigitChars 10 fraction (Nat.ofDigitChars 10 whole 0) = m := by
    rw [← Nat.ofDigitChars_append]
    exact hreal.digits
  have hwhole : Nat.ofDigitChars 10 whole 0 < UInt64.size :=
    lt_of_le_of_lt (Json.le_ofDigitChars fraction _) (hdigits.trans_lt hm)
  have hsmall : ¬ 1 <<< 31 ≤ (exponent.getD 0).natAbs := not_le.mpr hexponent
  have hscale : (0 : ℤ) + 0 - fraction.length + exponent.getD 0 = e := by
    rw [← hreal.scale]
    ring
  rw [Json.readReal?, takeDigits_of_lt hwhole]
  dsimp only
  rw [takeDigits_of_lt (hdigits.trans_lt hm), hdigits]
  dsimp only
  rw [if_neg hsmall, List.length_nil, Nat.cast_zero, hscale]

/-- **Doubles with a short text are read back.** It is enough that its digits stay below `2^53` and
are scaled by at most `10^22`. -/
theorem readsBack_of_printed {r : Real64} (hr : r.IsFinite) (hdigits : r.printed.1 < 2 ^ 53)
    (hscale : r.printed.2.natAbs ≤ 22) : r.ReadsBack := by
  obtain ⟨_, ⟨whole, fraction, exponent, rfl, hreal⟩, htext⟩ := r.writesReal_render
  have hlength : (Nat.toDigits 10 r.printed.1).length ≤ 16 :=
    (Nat.length_toDigits_le_iff (by decide) (by decide)).mpr (hdigits.trans (by decide))
  have hexponent : (exponent.getD 0).natAbs < 2 ^ 31 := by
    cases exponent with
    | none => decide
    | some x =>
      have hlead := hreal.lead x rfl
      rw [point] at hlead
      rw [Option.getD_some]
      omega
  rw [ReadsBack, parse?_render hreal htext,
    readReal?_eq _ hreal (hdigits.trans (by decide)) hexponent,
    ofParts?_eq_ofDecimal? _ hdigits hscale, ofDecimal?_congr _ r.printed_value,
    ofDecimal?_shortest hr, Option.map_some]

end ProviderHub.Real64
