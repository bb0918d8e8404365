import ProviderHub.Json.Parser
import ProviderHub.Json.Printer
import ProviderHub.Proofs.Json.Decimals

/-!
Written strings and numbers are scanned back.

* `Json.scanNumber_numeral`: a number written from its parts, up to the character that ends it;
* `Real64.writesReal_render`: the text of a double is written from its digits;
* `Json.parseChars?_numeral`: a number that stands alone is read as its value;
* `Real64.ReadsBack`: the doubles whose text is read as the double;
* `Json.tokens?_quote`, `Json.tokens?_real`, `Json.tokens?_int`: a string, a double that is read
  back and an integer of 64 bits are one token each.
-/

namespace ProviderHub.Json

/-! ### Strings -/

lemma hex4?_hexDigit {n : ℕ} (hn : n < 0x20) :
    hex4? '0' '0' (hexDigit (n / 16)) (hexDigit (n % 16)) = some n := by
  revert n
  decide

/-- An escape by a code unit that is no surrogate, whatever follows it. -/
lemma scanString_unit {a b c d : Char} {unit : ℕ} (hunit : hex4? a b c d = some unit)
    (hlow : unit < 0xD800) (tail : List Char) :
    scanString ('\\' :: 'u' :: a :: b :: c :: d :: tail) =
      (scanString tail).map fun (text, rest) => (Char.ofNat unit :: text, rest) := by
  -- a second escape behind the first one is looked at, and then left where it is
  by_cases hpair : ∃ e f g h rest, tail = '\\' :: 'u' :: e :: f :: g :: h :: rest
  · obtain ⟨e, f, g, h, rest, rfl⟩ := hpair
    have hhigh : ¬ (0xD800 ≤ unit ∧ unit < 0xDC00) := by omega
    have hlow' : ¬ (0xDC00 ≤ unit ∧ unit < 0xE000) := by omega
    rw [scanString, hunit, Option.map_eq_bind]
    simp only [Option.bind_eq_bind, Option.bind_some, if_neg hhigh, if_neg hlow']
    rfl
  · have hsurrogate : ¬ (0xD800 ≤ unit ∧ unit < 0xE000) := by omega
    rw [scanString, hunit, Option.map_eq_bind]
    · simp only [Option.bind_eq_bind, Option.bind_some, if_neg hsurrogate]
      rfl
    · intro e f g h rest htail
      exact hpair ⟨e, f, g, h, rest, htail⟩

lemma scanString_short {letter c : Char} (hshort : shortEscape? letter = some c)
    (tail : List Char) :
    scanString ('\\' :: letter :: tail) =
      (scanString tail).map fun (text, rest) => (c :: text, rest) := by
  have hletter : letter ≠ 'u' := by
    rintro rfl
    simp [shortEscape?] at hshort
  rw [scanString]
  · rw [hshort, Option.map_eq_bind]
    rfl
  all_goals
    intros
    simp_all

lemma scanString_plain {c : Char} (hquote : c ≠ '"') (hslash : c ≠ '\\') (hc : 0x20 ≤ c.toNat)
    (tail : List Char) :
    scanString (c :: tail) = (scanString tail).map fun (text, rest) => (c :: text, rest) := by
  rw [scanString]
  · rw [if_neg (by rintro (h | h); exacts [absurd h (by omega), hslash h]), Option.map_eq_bind]
    rfl
  all_goals
    intros
    simp_all

/-- A character is scanned as itself, however it is written. -/
lemma scanString_escapeChar (c : Char) (tail : List Char) :
    scanString (escapeChar c ++ tail) =
      (scanString tail).map fun (text, rest) => (c :: text, rest) := by
  rw [escapeChar]
  split_ifs with hquote hslash hn hr ht hb hf hcontrol
  all_goals try (subst_vars; exact scanString_short rfl tail)
  · have hunit := scanString_unit (hex4?_hexDigit hcontrol) (by omega) tail
    rwa [Char.ofNat_toNat] at hunit
  · exact scanString_plain hquote hslash (by omega) tail

lemma scanString_escaped (cs rest : List Char) :
    scanString (cs.flatMap escapeChar ++ '"' :: rest) = some (cs, rest) := by
  induction cs with
  | nil => simp [scanString]
  | cons c cs ih =>
    rw [List.flatMap_cons, List.append_assoc, scanString_escapeChar, ih]
    rfl

/-! ### Numbers -/

/-- What may follow a value: nothing, a comma or a closing bracket. -/
def Delimited (rest : List Char) : Prop :=
  ∀ c ∈ rest.head?, c = ',' ∨ c = ']' ∨ c = '\x7d'

/-- The whole part of a number: digits, the first of them no zero unless it is the only one. -/
structure IsWhole (ds : List Char) : Prop where
  digits : ∀ c ∈ ds, c.isDigit = true
  ne_nil : ds ≠ []
  lead : ds.head? = some '0' → ds = ['0']

/-- The characters of an exponent, if there is one. -/
def exponentChars : Option ℤ → List Char
  | none => []
  | some e => 'e' :: (toString e).toList

/-- The characters of a fraction, if it has digits. -/
def fractionChars (fraction : List Char) : List Char :=
  if fraction.isEmpty then [] else '.' :: fraction

/-- The characters of a number after its sign, from its parts. -/
def numeral (whole fraction : List Char) (exponent : Option ℤ) : List Char :=
  whole ++ fractionChars fraction ++ exponentChars exponent

lemma scanDigits_append {ds rest : List Char} (hds : ∀ c ∈ ds, c.isDigit = true)
    (hrest : ∀ c ∈ rest.head?, c.isDigit = false) : scanDigits (ds ++ rest) = (ds, rest) := by
  rw [scanDigits, List.takeWhile_append_of_pos hds, List.dropWhile_append_of_pos hds]
  cases rest with
  | nil => simp
  | cons c rest =>
    have hc := hrest c (by simp)
    simp [hc]

lemma scanWhole_append {ds rest : List Char} (hds : IsWhole ds)
    (hrest : ∀ c ∈ rest.head?, c.isDigit = false) : scanWhole (ds ++ rest) = some (ds, rest) := by
  obtain ⟨c, cs, rfl⟩ := List.exists_cons_of_ne_nil hds.ne_nil
  by_cases hc : c = '0'
  · subst hc
    obtain ⟨rfl⟩ : cs = [] := by simpa using hds.lead rfl
    rfl
  · rw [scanWhole]
    · rw [scanDigits_append hds.digits hrest]
      rfl
    · rintro tail heq
      exact hc (by simpa using congrArg List.head? heq)

lemma scanFraction_append {fraction rest : List Char} (hds : ∀ c ∈ fraction, c.isDigit = true)
    (hrest : ∀ c ∈ rest.head?, c.isDigit = false ∧ c ≠ '.') :
    scanFraction (fractionChars fraction ++ rest) = some (fraction, rest) := by
  rw [fractionChars]
  cases fraction with
  | nil =>
    rw [List.isEmpty_nil, if_pos rfl, List.nil_append, scanFraction]
    rintro tail rfl
    exact (hrest '.' rfl).2 rfl
  | cons d ds =>
    rw [List.isEmpty_cons, if_neg (by simp), List.cons_append, scanFraction,
      scanDigits_append hds fun c hc => (hrest c hc).1]
    rfl

lemma digitsValue_toDigits (n : ℕ) : digitsValue (Nat.toDigits 10 n) = n :=
  Nat.ofDigitChars_ten_toDigits

lemma isDigit_toDigits (n : ℕ) : ∀ c ∈ Nat.toDigits 10 n, c.isDigit = true :=
  fun _ hc => Nat.isDigit_of_mem_toDigits (by decide) (by decide) hc

lemma toDigits_ne_nil (n : ℕ) : Nat.toDigits 10 n ≠ [] :=
  List.ne_nil_of_length_pos Nat.length_toDigits_pos

lemma exists_cons_toDigits (n : ℕ) : ∃ c cs, Nat.toDigits 10 n = c :: cs ∧ c.isDigit = true := by
  obtain ⟨c, cs, hcs⟩ := List.exists_cons_of_ne_nil (toDigits_ne_nil n)
  exact ⟨c, cs, hcs, isDigit_toDigits n c (by simp [hcs])⟩

/-- A digit is no other character. -/
lemma ne_of_isDigit {c d : Char} (hc : c.isDigit = true) (hd : d.isDigit = false) : c ≠ d := by
  rintro rfl
  rw [hc] at hd
  nomatch hd

lemma scanExponentDigits_append (negative : Bool) (n : ℕ) {rest : List Char}
    (hrest : ∀ c ∈ rest.head?, c.isDigit = false) :
    scanExponentDigits negative (Nat.toDigits 10 n ++ rest) =
      some (some (if negative then -(n : ℤ) else n), rest) := by
  simp [scanExponentDigits, scanDigits_append (isDigit_toDigits n) hrest, digitsValue_toDigits]

lemma toString_int (e : ℤ) : (toString e).toList =
    if 0 ≤ e then Nat.toDigits 10 e.toNat else '-' :: Nat.toDigits 10 (-e).toNat := by
  change (Int.repr e).toList = _
  rw [Int.repr_eq_if]
  split <;> simp

/-- A sign is read only where there is one. -/
lemma scanExponent_toDigits (n : ℕ) (rest : List Char) :
    scanExponent ('e' :: (Nat.toDigits 10 n ++ rest)) =
      scanExponentDigits false (Nat.toDigits 10 n ++ rest) := by
  obtain ⟨c, cs, hcs, hdigit⟩ := exists_cons_toDigits n
  have hplus : c ≠ '+' := ne_of_isDigit hdigit rfl
  have hminus : c ≠ '-' := ne_of_isDigit hdigit rfl
  rw [hcs, List.cons_append, scanExponent.eq_def]
  simp [hplus, hminus]

lemma scanExponent_append {exponent : Option ℤ} {rest : List Char}
    (hrest : ∀ c ∈ rest.head?, c.isDigit = false ∧ c ≠ 'e' ∧ c ≠ 'E') :
    scanExponent (exponentChars exponent ++ rest) = some (exponent, rest) := by
  have hdigit : ∀ c ∈ rest.head?, c.isDigit = false := fun c hc => (hrest c hc).1
  cases exponent with
  | none =>
    cases rest with
    | nil => rfl
    | cons c rest =>
      have hc := hrest c rfl
      simp [exponentChars, scanExponent.eq_def, hc]
  | some e =>
    rw [exponentChars, List.cons_append, toString_int]
    split
    · rename_i he
      rw [scanExponent_toDigits, scanExponentDigits_append false _ hdigit, if_neg (by simp),
        Int.toNat_of_nonneg he]
    · rename_i he
      have hread := scanExponentDigits_append true (-e).toNat hdigit
      rw [if_pos rfl, Int.toNat_of_nonneg (by omega), neg_neg] at hread
      exact hread

lemma Delimited.head {rest : List Char} (h : Delimited rest) :
    ∀ c ∈ rest.head?, c.isDigit = false ∧ c ≠ '.' ∧ c ≠ 'e' ∧ c ≠ 'E' := by
  intro c hc
  rcases h c hc with rfl | rfl | rfl <;> decide

lemma head?_fractionChars_append {fraction rest : List Char} :
    ∀ c ∈ (fractionChars fraction ++ rest).head?, c = '.' ∨ c ∈ rest.head? := by
  intro c hc
  cases fraction with
  | nil => exact .inr (by simpa [fractionChars] using hc)
  | cons d ds => exact .inl (by simpa [fractionChars, eq_comm] using hc)

lemma head?_exponentChars_append {exponent : Option ℤ} {rest : List Char} :
    ∀ c ∈ (exponentChars exponent ++ rest).head?, c = 'e' ∨ c ∈ rest.head? := by
  intro c hc
  cases exponent with
  | none => exact .inr (by simpa [exponentChars] using hc)
  | some e => exact .inl (by simpa [exponentChars, eq_comm] using hc)

/-- **A number written from its parts is scanned into them.** -/
lemma scanNumber_numeral (negative : Bool) {whole fraction : List Char} (exponent : Option ℤ)
    {rest : List Char} (hwhole : IsWhole whole) (hfraction : ∀ c ∈ fraction, c.isDigit = true)
    (hrest : Delimited rest) :
    scanNumber negative (numeral whole fraction exponent ++ rest) =
      (numberValue? negative whole fraction exponent).map fun value => (value, rest) := by
  have hhead := hrest.head
  have hexponent : ∀ c ∈ (exponentChars exponent ++ rest).head?, c.isDigit = false ∧ c ≠ '.' := by
    intro c hc
    rcases head?_exponentChars_append c hc with rfl | hc
    · decide
    · exact ⟨(hhead c hc).1, (hhead c hc).2.1⟩
  have hfrac : ∀ c ∈ (fractionChars fraction ++ (exponentChars exponent ++ rest)).head?,
      c.isDigit = false := by
    intro c hc
    rcases head?_fractionChars_append c hc with rfl | hc
    · decide
    · exact (hexponent c hc).1
  rw [numeral, List.append_assoc, List.append_assoc, scanNumber, scanWhole_append hwhole hfrac]
  simp only [Option.bind_eq_bind, Option.bind_some]
  rw [scanFraction_append hfraction hexponent, Option.bind_some,
    scanExponent_append fun c hc => ⟨(hhead c hc).1, (hhead c hc).2.2⟩, Option.bind_some,
    Option.map_eq_bind]
  rfl

/-- The first digit of a positive number is no zero. -/
lemma head?_toDigits_ne {n : ℕ} (hn : 0 < n) : (Nat.toDigits 10 n).head? ≠ some '0' := by
  induction n using Nat.strong_induction_on with
  | h n ih =>
    by_cases hlt : n < 10
    · rw [Nat.toDigits_of_lt_base hlt]
      interval_cases n <;> decide
    · rw [Nat.toDigits_of_base_le (by decide) (by omega), List.head?_append_of_ne_nil]
      · exact ih (n / 10) (by omega) (by omega)
      · exact toDigits_ne_nil _

/-- The digits of a number are a whole part, also with further digits behind them. -/
lemma isWhole_toDigits {n : ℕ} (hn : 0 < n) {ds : List Char} (hds : ∀ c ∈ ds, c.isDigit = true) :
    IsWhole (Nat.toDigits 10 n ++ ds) := by
  refine ⟨fun c hc => ?_, by simp, fun hzero => ?_⟩
  · rcases List.mem_append.mp hc with hc | hc
    · exact isDigit_toDigits n c hc
    · exact hds c hc
  · rw [List.head?_append_of_ne_nil _ (toDigits_ne_nil n)] at hzero
    exact absurd hzero (head?_toDigits_ne hn)

lemma isDigit_zeros (n : ℕ) : ∀ c ∈ List.replicate n '0', c.isDigit = true := by
  intro c hc
  rw [List.eq_of_mem_replicate hc]
  decide

lemma isWhole_zero : IsWhole ['0'] := ⟨isDigit_zeros 1, by decide, fun _ => rfl⟩

lemma isWhole_digits (n : ℕ) : IsWhole (Nat.toDigits 10 n) := by
  rcases Nat.eq_zero_or_pos n with rfl | hn
  · exact isWhole_zero
  · have hnil : ∀ c ∈ ([] : List Char), c.isDigit = true := by simp
    simpa using isWhole_toDigits hn hnil

lemma isWhole_take {n k : ℕ} (hn : 0 < n) (hk : 0 < k) :
    IsWhole ((Nat.toDigits 10 n).take k) := by
  refine ⟨fun c hc => isDigit_toDigits n c (List.mem_of_mem_take hc), ?_, fun hzero => ?_⟩
  · simp [List.take_eq_nil_iff, hk.ne']
  · rw [List.head?_take, if_neg hk.ne'] at hzero
    exact absurd hzero (head?_toDigits_ne hn)

lemma digitsValue_append (ds es : List Char) :
    digitsValue (ds ++ es) = 10 ^ es.length * digitsValue ds + digitsValue es := by
  have happend := Nat.ofDigitChars_append (b := 10) (l := ds) (m := es) 0
  rw [Nat.ofDigitChars_eq_ofDigitChars_zero (l := es)] at happend
  exact happend

/-- Further digits only make a number larger. -/
lemma le_ofDigitChars (ds : List Char) (n : ℕ) : n ≤ Nat.ofDigitChars 10 ds n := by
  rw [Nat.ofDigitChars_eq_ofDigitChars_zero]
  exact le_trans (Nat.le_mul_of_pos_left _ (Nat.pow_pos (by decide))) (Nat.le_add_right _ _)

lemma digitsValue_zeros (n : ℕ) : digitsValue (List.replicate n '0') = 0 := by
  have hzeros : Nat.ofDigitChars 10 (List.replicate n '0') 0 = 10 ^ n * 0 :=
    Nat.ofDigitChars_replicate_zero
  rwa [mul_zero] at hzeros

/-! ### Doubles -/

/-- The parts of a number that is not written as an integer, for the digits `m` at the exponent `e`.
A written exponent is the one of the first digit. -/
structure IsReal (whole fraction : List Char) (exponent : Option ℤ) (m : ℕ) (e : ℤ) : Prop where
  isWhole : IsWhole whole
  isDigit : ∀ c ∈ fraction, c.isDigit = true
  ne_int : fraction ≠ [] ∨ exponent ≠ none
  digits : digitsValue (whole ++ fraction) = m
  scale : exponent.getD 0 - fraction.length = e
  lead : ∀ x ∈ exponent, x = Real64.point m e - 1

lemma IsReal.numberValue? {whole fraction : List Char} {exponent : Option ℤ} {m : ℕ} {e : ℤ}
    (h : IsReal whole fraction exponent m e) (negative : Bool) :
    numberValue? negative whole fraction exponent =
      (readReal? negative whole fraction (exponent.getD 0)).map .real := by
  have hnot : ¬ (fraction.isEmpty ∧ exponent.isNone) := by
    rintro ⟨hnil, hnone⟩
    rw [List.isEmpty_iff] at hnil
    rw [Option.isNone_iff_eq_none] at hnone
    exact h.ne_int.elim (· hnil) (· hnone)
  rw [Json.numberValue?, if_neg (by tauto), if_neg (by tauto)]

/-- `text` writes the digits `m` at the exponent `e`, and not as an integer. -/
def WritesReal (text : List Char) (m : ℕ) (e : ℤ) : Prop :=
  ∃ whole fraction exponent, text = numeral whole fraction exponent ∧
    IsReal whole fraction exponent m e

/-- Zeros behind the digits, and a zero after the point. -/
lemma writesReal_whole {d : ℕ} (hd : 0 < d) (n : ℕ) :
    WritesReal (Nat.toDigits 10 d ++ List.replicate n '0' ++ ['.', '0']) (d * 10 ^ (n + 1))
      (-1) := by
  refine ⟨Nat.toDigits 10 d ++ List.replicate n '0', ['0'], none, by simp [numeral,
    fractionChars, exponentChars], isWhole_toDigits hd (isDigit_zeros _), isDigit_zeros 1,
    .inl (by simp), ?_, rfl, nofun⟩
  rw [digitsValue_append, digitsValue_append, digitsValue_toDigits, digitsValue_zeros]
  simp [digitsValue]
  ring

/-- The point between two digits. -/
lemma writesReal_split {d : ℕ} (hd : 0 < d) {e : ℤ} {k : ℕ} (hk : 0 < k)
    (hlt : k < (Nat.toDigits 10 d).length) (he : (Nat.toDigits 10 d).length + e = k) :
    WritesReal ((Nat.toDigits 10 d).take k ++ '.' :: (Nat.toDigits 10 d).drop k) d e := by
  have hdrop : (Nat.toDigits 10 d).drop k ≠ [] := by simp [List.drop_eq_nil_iff, hlt]
  refine ⟨_, (Nat.toDigits 10 d).drop k, none, ?_, isWhole_take hd hk,
    fun c hc => isDigit_toDigits d c (List.mem_of_mem_drop hc), .inl hdrop, ?_, ?_, nofun⟩
  · simp [numeral, fractionChars, exponentChars, hdrop]
  · rw [List.take_append_drop, digitsValue_toDigits]
  · rw [List.length_drop, Option.getD_none]
    omega

/-- Zeros between the point and the digits. -/
lemma writesReal_below {d : ℕ} {e : ℤ} {k : ℕ} (he : (Nat.toDigits 10 d).length + e = -k) :
    WritesReal ('0' :: '.' :: (List.replicate k '0' ++ Nat.toDigits 10 d)) d e := by
  have hne : List.replicate k '0' ++ Nat.toDigits 10 d ≠ [] := by simp
  refine ⟨['0'], List.replicate k '0' ++ Nat.toDigits 10 d, none, ?_, isWhole_zero, fun c hc => ?_,
    .inl hne, ?_, ?_, nofun⟩
  · simp [numeral, fractionChars, exponentChars]
  · rcases List.mem_append.mp hc with hc | hc
    · exact isDigit_zeros k c hc
    · exact isDigit_toDigits d c hc
  · rw [digitsValue_append, digitsValue_append, digitsValue_toDigits, digitsValue_zeros]
    simp [digitsValue]
  · simp only [Option.getD_none, List.length_append, List.length_replicate]
    push_cast
    omega

/-- One digit before the point, and an exponent. -/
lemma writesReal_scientific {d : ℕ} (hd : 0 < d) (e : ℤ) :
    WritesReal ((Nat.toDigits 10 d).take 1 ++
      (if (Nat.toDigits 10 d).length = 1 then [] else '.' :: (Nat.toDigits 10 d).drop 1) ++
      'e' :: (toString ((Nat.toDigits 10 d).length + e - 1)).toList) d e := by
  have hpos := Nat.length_toDigits_pos (b := 10) (n := d)
  refine ⟨_, (Nat.toDigits 10 d).drop 1, some ((Nat.toDigits 10 d).length + e - 1), ?_,
    isWhole_take hd one_pos, fun c hc => isDigit_toDigits d c (List.mem_of_mem_drop hc),
    .inr (by simp), ?_, ?_, ?_⟩
  · have hnil : (Nat.toDigits 10 d).drop 1 = [] ↔ (Nat.toDigits 10 d).length = 1 := by
      rw [List.drop_eq_nil_iff]
      omega
    rw [numeral, fractionChars, exponentChars]
    simp only [List.isEmpty_iff, hnil]
  · rw [List.take_append_drop, digitsValue_toDigits]
  · rw [List.length_drop, Option.getD_some]
    omega
  · rintro x ⟨⟩
    rfl

end ProviderHub.Json

namespace ProviderHub.Real64

open Json (WritesReal)

lemma stripZeros_value (d : ℕ) (e : ℤ) :
    ((stripZeros d e).1 : ℚ) * 10 ^ (stripZeros d e).2 = d * 10 ^ e := by
  fun_induction stripZeros d e with
  | case1 d e hzero ih =>
    have hd : (d : ℚ) = 10 * (d / 10 : ℕ) := by
      exact_mod_cast (show d = 10 * (d / 10) by omega)
    rw [ih, hd, zpow_add_one₀ (by norm_num)]
    ring
  | case2 d e => rfl

/-- The digits that are written for `d · 10^e`, and the exponent of the last one: behind an integer
in positional notation stands a further zero. -/
def written (d : ℕ) (e : ℤ) : ℕ × ℤ :=
  if d = 0 ∨ (0 ≤ e ∧ point d e ≤ 16) then (d * 10 ^ (e.toNat + 1), -1) else (d, e)

lemma written_value (d : ℕ) (e : ℤ) :
    ((written d e).1 : ℚ) * 10 ^ (written d e).2 = d * 10 ^ e := by
  rw [written]
  split
  · rename_i h
    rcases h with rfl | ⟨he, -⟩
    · simp
    · obtain ⟨n, rfl⟩ := Int.eq_ofNat_of_zero_le he
      simp [pow_succ, mul_assoc]
  · rfl

/-- The digits in the text of a double, and the exponent of the last one. -/
def printed (r : Real64) : ℕ × ℤ :=
  let digits := stripZeros r.shortest.1 r.shortest.2
  written digits.1 digits.2

lemma printed_value (r : Real64) :
    (r.printed.1 : ℚ) * 10 ^ r.printed.2 = r.shortest.1 * 10 ^ r.shortest.2 := by
  rw [printed, written_value, stripZeros_value]

/-- **The text of a double writes its digits.** -/
lemma writesReal_render (r : Real64) :
    ∃ text, WritesReal text r.printed.1 r.printed.2 ∧
      r.render.toList = (if r.isNegative then ['-'] else []) ++ text := by
  have hsign : (if r.isNegative then "-" else "").toList = if r.isNegative then ['-'] else [] := by
    split <;> rfl
  rw [printed, render]
  generalize stripZeros r.shortest.1 r.shortest.2 = digits
  obtain ⟨d, e⟩ := digits
  dsimp only
  rw [written]
  by_cases hd : d = 0
  · subst hd
    rw [if_pos (.inl rfl), if_pos rfl, zero_mul]
    refine ⟨['0', '.', '0'], ⟨['0'], ['0'], none, rfl, Json.isWhole_zero, Json.isDigit_zeros 1,
      .inl (by simp), ?_, rfl, nofun⟩, by rw [String.toList_append, hsign]; rfl⟩
    simp [Json.digitsValue]
  · rw [if_neg hd]
    refine ⟨_, ?_, by rw [String.toList_append, hsign, String.toList_ofList]⟩
    have hpos := Nat.pos_of_ne_zero hd
    simp only [hd, false_or, point]
    by_cases hwhole : 0 ≤ e ∧ (Nat.toDigits 10 d).length + e ≤ 16
    · rw [if_pos hwhole, if_pos hwhole]
      exact Json.writesReal_whole hpos e.toNat
    rw [if_neg hwhole, if_neg hwhole]
    by_cases hsplit : 0 < (Nat.toDigits 10 d).length + e ∧ (Nat.toDigits 10 d).length + e ≤ 16
    · rw [if_pos hsplit]
      have hk : ((((Nat.toDigits 10 d).length : ℤ) + e).toNat : ℤ) =
          (Nat.toDigits 10 d).length + e := Int.toNat_of_nonneg (by omega)
      exact Json.writesReal_split hpos (by omega) (by omega) hk.symm
    rw [if_neg hsplit]
    by_cases hbelow : -5 < (Nat.toDigits 10 d).length + e ∧ (Nat.toDigits 10 d).length + e ≤ 0
    · rw [if_pos hbelow]
      exact Json.writesReal_below (by omega)
    rw [if_neg hbelow]
    exact Json.writesReal_scientific hpos e

end ProviderHub.Real64

namespace ProviderHub.Json

/-! ### Scalars as tokens -/

lemma tokens?_cons {c : Char} (hblank : isBlank c = false) (cs : List Char) :
    tokens? (c :: cs) =
      (Token.scan c cs).bind fun (token, rest) => (tokens? rest).map (token :: ·) := by
  rw [tokens?, if_neg (by simp [hblank])]
  split <;> simp_all

lemma tokens?_of_scan {c : Char} {cs rest : List Char} {token : Token} (hblank : isBlank c = false)
    (hscan : Token.scan c cs = some (token, rest)) :
    tokens? (c :: cs) = (tokens? rest).map (token :: ·) := by
  rw [tokens?_cons hblank, hscan, Option.bind_some]

lemma scan_of_isDigit {c : Char} (hc : c.isDigit = true) (cs : List Char) :
    Token.scan c cs =
      (scanNumber false (c :: cs)).map fun (value, rest) => (.scalar value, rest) := by
  have hne {d : Char} (hd : d.isDigit = false) : c ≠ d := ne_of_isDigit hc hd
  simp [Token.scan.eq_def, hne, hc]

/-- A number that is written from its parts is one token, if it has a value. -/
lemma tokens?_numeral (negative : Bool) {whole fraction : List Char} (exponent : Option ℤ)
    {rest : List Char} (hwhole : IsWhole whole) (hfraction : ∀ c ∈ fraction, c.isDigit = true)
    (hrest : Delimited rest) :
    tokens? ((if negative then ['-'] else []) ++ numeral whole fraction exponent ++ rest) =
      (numberValue? negative whole fraction exponent).bind fun value =>
        (tokens? rest).map (.scalar value :: ·) := by
  have hscan := scanNumber_numeral negative exponent hwhole hfraction hrest
  cases negative with
  | true =>
    have hminus (cs : List Char) : Token.scan '-' cs =
        (scanNumber true cs).map fun (value, rest) => (.scalar value, rest) := rfl
    rw [if_pos rfl, List.append_assoc, List.singleton_append, tokens?_cons rfl, hminus, hscan,
      Option.map_map, Option.bind_map]
    rfl
  | false =>
    obtain ⟨c, cs, rfl⟩ := List.exists_cons_of_ne_nil hwhole.ne_nil
    have hdigit := hwhole.digits c (by simp)
    have hne {d : Char} (hd : d.isDigit = false) : c ≠ d := ne_of_isDigit hdigit hd
    simp only [numeral, List.cons_append] at hscan ⊢
    have hblank : isBlank c = false := by simp [isBlank, hne]
    rw [if_neg (by simp), List.nil_append, List.cons_append, tokens?_cons hblank,
      scan_of_isDigit hdigit, hscan, Option.map_map, Option.bind_map]
    rfl

/-- **A number that stands alone is read as its value.** -/
lemma parseChars?_numeral (negative : Bool) {whole fraction : List Char} (exponent : Option ℤ)
    (hwhole : IsWhole whole) (hfraction : ∀ c ∈ fraction, c.isDigit = true) :
    parseChars? ((if negative then ['-'] else []) ++ numeral whole fraction exponent) =
      numberValue? negative whole fraction exponent := by
  have hend : Delimited [] := by simp [Delimited]
  have htokens := tokens?_numeral negative exponent hwhole hfraction hend
  rw [List.append_nil, tokens?] at htokens
  rw [parseChars?, htokens]
  cases numberValue? negative whole fraction exponent <;> rfl

/-- The quoted text of a string is one token. -/
lemma tokens?_quote (s : String) (rest : List Char) :
    tokens? (quote s ++ rest) = (tokens? rest).map (.scalar (.str s) :: ·) := by
  rw [quote, List.cons_append]
  refine tokens?_of_scan rfl ?_
  simp [Token.scan.eq_def, scanString_escaped]

end ProviderHub.Json

namespace ProviderHub.Real64

/-- The text of a double is read as the double. Since reading rounds more than once, it is not so
for every finite double. -/
def ReadsBack (r : Real64) : Prop := Json.parse? r.render = some (.real r)

instance (r : Real64) : Decidable r.ReadsBack := inferInstanceAs (Decidable (_ = _))

lemma parse?_render {r : Real64} {whole fraction : List Char} {exponent : Option ℤ} {m : ℕ} {e : ℤ}
    (hreal : Json.IsReal whole fraction exponent m e)
    (htext : r.render.toList =
      (if r.isNegative then ['-'] else []) ++ Json.numeral whole fraction exponent) :
    Json.parse? r.render =
      (Json.readReal? r.isNegative whole fraction (exponent.getD 0)).map .real := by
  rw [Json.parse?, htext, Json.parseChars?_numeral r.isNegative exponent hreal.isWhole
    hreal.isDigit, hreal.numberValue?]

end ProviderHub.Real64

namespace ProviderHub.Json

/-- The text of a double that is read back is one token. -/
lemma tokens?_real {r : Real64} (hr : r.ReadsBack) {rest : List Char} (hrest : Delimited rest) :
    tokens? (r.render.toList ++ rest) = (tokens? rest).map (.scalar (.real r) :: ·) := by
  obtain ⟨_, ⟨whole, fraction, exponent, rfl, hreal⟩, htext⟩ := r.writesReal_render
  have hvalue : numberValue? r.isNegative whole fraction exponent = some (.real r) := by
    rw [hreal.numberValue?, ← Real64.parse?_render hreal htext]
    exact hr
  rw [htext, tokens?_numeral r.isNegative exponent hreal.isWhole hreal.isDigit hrest, hvalue,
    Option.bind_some]

/-- The text of an integer of 64 bits, signed or unsigned, is one token. -/
lemma tokens?_int {n : ℤ} (hlow : -2 ^ 63 ≤ n) (hhigh : n < 2 ^ 64) {rest : List Char}
    (hrest : Delimited rest) :
    tokens? ((toString n).toList ++ rest) = (tokens? rest).map (.scalar (.int n) :: ·) := by
  have hnil : ∀ c ∈ ([] : List Char), c.isDigit = true := by simp
  have htokens (negative : Bool) (k : ℕ) := tokens?_numeral negative none (isWhole_digits k)
    hnil hrest
  simp only [numeral, fractionChars, exponentChars, List.isEmpty_nil, if_true, List.append_nil]
    at htokens
  rw [toString_int]
  split
  · rename_i hn
    have hsize : n.toNat < UInt64.size := by
      rw [UInt64.size]
      omega
    refine (htokens false n.toNat).trans ?_
    simp [numberValue?, digitsValue_toDigits, hsize, Int.toNat_of_nonneg hn]
  · rename_i hn
    obtain ⟨k, rfl⟩ : ∃ k : ℕ, n = -k := ⟨(-n).toNat, by omega⟩
    have hsize : k ≤ 1 <<< 63 := by
      rw [Nat.shiftLeft_eq]
      omega
    rw [neg_neg, Int.toNat_natCast]
    refine (htokens true k).trans ?_
    rw [numberValue?, digitsValue_toDigits, if_neg (by simp),
      if_pos ⟨rfl, rfl, rfl, by omega, hsize⟩, Option.bind_some]

end ProviderHub.Json
