import ProviderHub.Proofs.Rpc.Progress

/-!
The buffer that is asked for a body.

The length in the headers of a frame is any number of 64 bits, and the largest buffer is only half
as large. Where the headers ask for more, the reader breaks down.

* `Numeral.Writes`, `Numeral.parse_eq_ok_iff`: which numbers a text writes, and that these are read;
* `Frame.GivesLength`, `Frame.Declares`: which length the headers at the start of a stream declare;
* `Frame.readHeaders_eq_complete_iff`: this is the length that is read;
* `Frame.breaksDown_iff`: the reader breaks down exactly where the declared length is too large.
-/

namespace ProviderHub

/-! ### Numerals -/

namespace Numeral

/-- **A text writes a number**: it is a run of figures, with an optional plus sign in front. -/
def Writes (cs : List Char) (n : ℕ) : Prop :=
  ∃ ds, ds ≠ [] ∧ (∀ d ∈ ds, d.isDigit = true) ∧ (cs = ds ∨ cs = '+' :: ds) ∧
    n = Nat.ofDigitChars 10 ds 0

variable {bound m n : ℕ} {cs : List Char}

lemma figures_eq_ok_iff (hn : n < bound) :
    figures bound n cs = .ok m ↔
      (∀ c ∈ cs, c.isDigit = true) ∧ m = Nat.ofDigitChars 10 cs n ∧ m < bound := by
  constructor
  · intro h
    induction cs generalizing n with
    | nil =>
      obtain rfl : n = m := by simpa [figures] using h
      exact ⟨by simp, rfl, hn⟩
    | cons c cs ih =>
      rw [figures] at h
      split at h
      · rename_i hc
        dsimp only at h
        split at h
        · rename_i hnext
          obtain ⟨hcs, hm, hlt⟩ := ih hnext h
          exact ⟨List.forall_mem_cons.mpr ⟨hc, hcs⟩, hm.trans (Nat.ofDigitChars_cons ..).symm, hlt⟩
        · cases h
      · cases h
  · rintro ⟨hcs, rfl, hlt⟩
    exact figures_digits hcs hlt

/-- The numbers below the bound that texts write are read, and nothing else is. -/
lemma parse_eq_ok_iff (hbound : 0 < bound) :
    parse bound cs = .ok n ↔ Writes cs n ∧ n < bound := by
  have hplus : ('+').isDigit = false := by decide
  have hfigures {ds : List Char} : figures bound 0 ds = .ok n ↔ _ := figures_eq_ok_iff hbound
  rw [parse.eq_def]
  split
  · -- an empty text
    refine iff_of_false (by simp) ?_
    rintro ⟨⟨ds, hne, -, hcs | hcs, -⟩, -⟩
    · exact hne hcs.symm
    · cases hcs
  · -- a plus sign alone
    refine iff_of_false (by simp) ?_
    rintro ⟨⟨ds, hne, hds, hcs | hcs, -⟩, -⟩
    · rw [hds '+' (hcs ▸ List.mem_singleton_self _)] at hplus
      cases hplus
    · exact hne (List.cons.inj hcs).2.symm
  · -- figures after a plus sign
    rename_i rest hrest
    rw [hfigures]
    constructor
    · rintro ⟨hds, hn, hlt⟩
      exact ⟨⟨rest, fun h => hrest (by rw [h]), hds, .inr rfl, hn⟩, hlt⟩
    · rintro ⟨⟨ds, hne, hds, hcs | hcs, hn⟩, hlt⟩
      · rw [hds '+' (hcs ▸ List.mem_cons_self ..)] at hplus
        cases hplus
      · obtain rfl : rest = ds := (List.cons.inj hcs).2
        exact ⟨hds, hn, hlt⟩
  · -- figures alone
    rename_i hne _ hsign
    rw [hfigures]
    constructor
    · rintro ⟨hds, hn, hlt⟩
      exact ⟨⟨cs, hne, hds, .inl rfl, hn⟩, hlt⟩
    · rintro ⟨⟨ds, -, hds, rfl | hcs, hn⟩, hlt⟩
      · exact ⟨hds, hn, hlt⟩
      · exact absurd hcs (hsign ds)

lemma nat64?_eq_some_iff : nat64? cs = some n ↔ Writes cs n ∧ n < 2 ^ 64 := by
  have hok (result : Except Fault ℕ) : result.toOption = some n ↔ result = .ok n := by
    cases result <;> simp [Except.toOption]
  rw [nat64?, hok]
  exact parse_eq_ok_iff (by decide)

end Numeral

namespace Frame

/-! ### Lengths -/

/-- A header line that has the name of the length; the text is what follows the name. -/
def NamesLength (line : List UInt8) (value : List Char) : Prop :=
  ∃ cs, Utf8.encode cs = line ∧ Text.trim cs = lengthName ++ value

/-- **A header line that gives a length**: what follows the name writes a number. -/
def GivesLength (line : List UInt8) (n : ℕ) : Prop :=
  ∃ value, NamesLength line value ∧ Numeral.Writes (Text.trim value) n

variable {line rest bytes left : List UInt8} {given length : Option ℕ} {seen : Bool} {n : ℕ}
  {value : List Char}

lemma ofBytes_of_namesLength (h : NamesLength line value) :
    Line.ofBytes line =
      match Numeral.nat64? (Text.trim value) with
      | some n => .length n
      | none => .invalid := by
  obtain ⟨cs, rfl, htrim⟩ := h
  have hdrop : Text.dropPrefix? "Content-Length:".toList (lengthName ++ value) = some value :=
    Text.dropPrefix?_append lengthName value
  have hne : (lengthName ++ value).isEmpty = false := rfl
  rw [Line.ofBytes, Utf8.decode?_encode]
  simp only [htrim, hdrop, hne]
  rfl

/-- A header line is read as a length exactly if it gives one of 64 bits. -/
lemma ofBytes_eq_length_iff : Line.ofBytes line = .length n ↔ GivesLength line n ∧ n < 2 ^ 64 := by
  constructor
  · intro h
    rw [Line.ofBytes] at h
    cases hdecode : Utf8.decode? line with
    | none => simp [hdecode] at h
    | some cs =>
      rw [hdecode] at h
      dsimp only at h
      split at h
      · cases h
      · cases hdrop : Text.dropPrefix? "Content-Length:".toList (Text.trim cs) with
        | none =>
          rw [hdrop] at h
          cases h
        | some value =>
          rw [hdrop] at h
          dsimp only at h
          cases hnumber : Numeral.nat64? (Text.trim value) with
          | none => simp [hnumber] at h
          | some m =>
            obtain rfl : m = n := by simpa [hnumber] using h
            obtain ⟨hwrites, hlt⟩ := Numeral.nat64?_eq_some_iff.mp hnumber
            have hnames : NamesLength line value :=
              ⟨cs, Utf8.decode?_eq_some_iff.mp hdecode, Text.dropPrefix?_eq_some_iff.mp hdrop⟩
            exact ⟨⟨value, hnames, hwrites⟩, hlt⟩
  · rintro ⟨⟨value, hnames, hwrites⟩, hlt⟩
    rw [ofBytes_of_namesLength hnames, Numeral.nat64?_eq_some_iff.mpr ⟨hwrites, hlt⟩]

/-- A header line that has the name of the length but gives none of 64 bits is wrong. -/
lemma ofBytes_eq_invalid (hnames : NamesLength line value)
    (hnone : ∀ n < 2 ^ 64, ¬ Numeral.Writes (Text.trim value) n) :
    Line.ofBytes line = .invalid := by
  rw [ofBytes_of_namesLength hnames]
  cases hnumber : Numeral.nat64? (Text.trim value) with
  | none => rfl
  | some n =>
    obtain ⟨hwrites, hlt⟩ := Numeral.nat64?_eq_some_iff.mp hnumber
    exact absurd hwrites (hnone n hlt)

/-! ### Header blocks -/

lemma HeaderLines.trans {middle : Option ℕ} {between : List UInt8}
    (h : HeaderLines given bytes middle between) (hrest : HeaderLines middle between length left) :
    HeaderLines given bytes length left := by
  induction h with
  | none => exact hrest
  | other hline hmeaning _ ih => exact .other hline hmeaning (ih hrest)
  | length hline hmeaning _ ih => exact .length hline hmeaning (ih hrest)

lemma HeaderLines.isSome (h : HeaderLines given bytes length left) (hgiven : given.isSome = true) :
    length.isSome = true := by
  induction h with
  | none => exact hgiven
  | other _ _ _ ih => exact ih hgiven
  | length _ _ _ ih => exact ih rfl

/-- Where no length is given, one that was given before stays. -/
lemma HeaderLines.keep (h : HeaderLines given bytes length left) (hlength : length = .none)
    (before : Option ℕ) : HeaderLines before bytes before left := by
  induction h with
  | none => exact .none _ _
  | other hline hmeaning _ ih => exact .other hline hmeaning (ih hlength)
  | length _ _ hrest _ =>
    have hsome := hrest.isSome rfl
    rw [hlength] at hsome
    cases hsome

/-- A length comes from the last line that gives one, or was given before. -/
lemma HeaderLines.last (h : HeaderLines given bytes length left) :
    (length = given ∧ HeaderLines .none bytes .none left) ∨
    ∃ n earlier line rest, length = some n ∧ HeaderLines given bytes earlier (line ++ rest) ∧
      IsLine line rest ∧ Line.ofBytes line = .length n ∧ HeaderLines .none rest .none left := by
  induction h with
  | none given bytes => exact .inl ⟨rfl, .none _ _⟩
  | other hline hmeaning _ ih =>
    rcases ih with ⟨hlength, hothers⟩ | ⟨n, earlier, line, rest, hlength, hbefore, hlast⟩
    · exact .inl ⟨hlength, .other hline hmeaning hothers⟩
    · exact .inr ⟨n, earlier, line, rest, hlength, .other hline hmeaning hbefore, hlast⟩
  | length hline hmeaning _ ih =>
    rcases ih with ⟨hlength, hothers⟩ | ⟨n, earlier, line, rest, hlength, hbefore, hlast⟩
    · exact .inr ⟨_, _, _, _, hlength, .none _ _, hline, hmeaning, hothers⟩
    · exact .inr ⟨n, earlier, line, rest, hlength, .length hline hmeaning hbefore, hlast⟩

/-- **The headers at the start of a stream declare a length**: the last line that gives one gives
this one, and after the line that ends the headers the body starts. -/
def Declares (bytes : List UInt8) (n : ℕ) (body : List UInt8) : Prop :=
  ∃ earlier line rest blank, HeaderLines none bytes earlier (line ++ rest) ∧ IsLine line rest ∧
    GivesLength line n ∧ n < 2 ^ 64 ∧ HeaderLines none rest none (blank ++ body) ∧
    IsLine blank body ∧ Line.ofBytes blank = .blank

/-- The headers are read line by line. -/
lemma HeaderLines.readHeaders (h : HeaderLines given bytes length left) (seen : Bool) :
    ∃ seen', Frame.readHeaders true [] given seen bytes =
      Frame.readHeaders true [] length seen' left := by
  induction h generalizing seen with
  | none => exact ⟨seen, rfl⟩
  | other hline hmeaning _ ih =>
    obtain ⟨seen', hrest⟩ := ih true
    refine ⟨seen', ?_⟩
    rw [readHeaders_isLine hline, hmeaning]
    exact hrest
  | length hline hmeaning _ ih =>
    obtain ⟨seen', hrest⟩ := ih true
    refine ⟨seen', ?_⟩
    rw [readHeaders_isLine hline, hmeaning]
    exact hrest

/-- **The length that is read is the one that the headers declare.** -/
lemma readHeaders_eq_complete_iff :
    readHeaders true [] none false bytes = .complete n rest ↔ Declares bytes n rest := by
  constructor
  · intro hread
    have hfits := readHeaders_fits none false bytes
    rw [hread] at hfits
    obtain ⟨blank, hlines, hblank⟩ := hfits
    rcases hlines.last with
      ⟨hnone, -⟩ | ⟨m, earlier, line, between, hm, hbefore, hline, hmeaning, hothers⟩
    · cases hnone
    · obtain rfl := Option.some.inj hm
      obtain ⟨hgives, hlt⟩ := ofBytes_eq_length_iff.mp hmeaning
      exact ⟨earlier, line, between, blank, hbefore, hline, hgives, hlt, hothers, hblank⟩
  · rintro ⟨earlier, line, between, blank, hbefore, hline, hgives, hlt, hothers, hblank, hmeaning⟩
    have hlines : HeaderLines none bytes (some n) (blank ++ rest) :=
      hbefore.trans (.length hline (ofBytes_eq_length_iff.mpr ⟨hgives, hlt⟩) (hothers.keep rfl _))
    obtain ⟨seen, hread⟩ := hlines.readHeaders false
    rw [hread, readHeaders_isLine hblank, hmeaning]
    rfl

/-! ### Breakdowns -/

lemma breaksDown_eq_true_iff {ended : Bool} :
    breaksDown ended bytes = true ↔
      ∃ n rest, readHeaders ended [] none false bytes = .complete n rest ∧ 2 ^ 63 ≤ n := by
  rw [breaksDown]
  cases readHeaders ended [] none false bytes with
  | complete n rest =>
    have hsize : maxBuffer < n ↔ 2 ^ 63 ≤ n := by
      rw [maxBuffer]
      omega
    simp [hsize]
  | invalid | truncated | finished | waiting => simp

/-- Headers that are complete stay so when more bytes arrive, and when the stream ends. -/
lemma readHeaders_complete {ended : Bool}
    (h : readHeaders ended [] none false bytes = .complete n rest) : Declares bytes n rest := by
  cases ended with
  | true => exact readHeaders_eq_complete_iff.mp h
  | false =>
    have hmore := readHeaders_append true (by rw [h]; nofun) []
    rw [h, List.append_nil, Headers.append, List.append_nil] at hmore
    exact readHeaders_eq_complete_iff.mp hmore

/-- Reading a stream to its end breaks down where one of the calls does. -/
lemma readUpTo?_eq_none_iff {bound : ℕ} (hbound : bytes.length < bound) :
    readUpTo? bound bytes = none ↔
      ∃ results left, Calls bytes results left ∧ breaksDown true left = true := by
  constructor
  · intro h
    induction bound generalizing bytes with
    | zero => omega
    | succ bound ih =>
      rw [readUpTo?] at h
      split at h
      · rename_i hbreaks
        exact ⟨[], bytes, .none bytes, hbreaks⟩
      · have hfits := read_fits bytes
        cases hread : read true bytes with
        | message m rest =>
          rw [hread] at h hfits
          have hshorter : rest.length < bytes.length := length_lt_of_read (.inl hread)
          obtain ⟨taken, hne, rfl⟩ := hfits
          obtain ⟨results, left, hcalls, hbreaks⟩ :=
            ih (hshorter.trans_le (Nat.le_of_lt_succ hbound)) (Option.map_eq_none_iff.mp h)
          exact ⟨_, left, .message hne hread hcalls, hbreaks⟩
        | invalid rest =>
          rw [hread] at h hfits
          have hshorter : rest.length < bytes.length :=
            length_lt_of_read (m := default) (.inr hread)
          obtain ⟨taken, hne, rfl⟩ := hfits
          obtain ⟨results, left, hcalls, hbreaks⟩ :=
            ih (hshorter.trans_le (Nat.le_of_lt_succ hbound)) (Option.map_eq_none_iff.mp h)
          exact ⟨_, left, .invalid hne hread hcalls, hbreaks⟩
        | truncated | finished | waiting => simp [hread] at h
  · rintro ⟨results, left, hcalls, hbreaks⟩
    induction hcalls generalizing bound with
    | none bytes =>
      obtain ⟨bound, rfl⟩ := Nat.exists_eq_add_one_of_ne_zero (Nat.ne_zero_of_lt hbound)
      rw [readUpTo?, if_pos hbreaks]
    | message hne hread _ ih | invalid hne hread _ ih =>
      obtain ⟨bound, rfl⟩ := Nat.exists_eq_add_one_of_ne_zero (Nat.ne_zero_of_lt hbound)
      have htaken := List.length_pos_iff.mpr hne
      rw [List.length_append] at hbound
      rw [readUpTo?, hread]
      split
      · rfl
      · exact Option.map_eq_none_iff.mpr (ih (by omega) hbreaks)

/-- Where it does not break down, it goes as it would with buffers of any size. -/
lemma eq_readUpTo_of_readUpTo? {bound : ℕ} {results : List Next}
    (h : readUpTo? bound bytes = some results) : results = readUpTo bound bytes := by
  induction bound generalizing bytes results with
  | zero => exact (Option.some.inj h).symm
  | succ bound ih =>
    rw [readUpTo?] at h
    rw [readUpTo]
    split at h
    · cases h
    · cases hread : read true bytes with
      | message m rest | invalid rest =>
        rw [hread] at h
        obtain ⟨others, hothers, rfl⟩ := Option.map_eq_some_iff.mp h
        exact congrArg _ (ih hothers)
      | truncated | finished | waiting =>
        rw [hread] at h
        exact (Option.some.inj h).symm

/-- **The reader breaks down exactly where a declared length is too large.** Whatever the bytes of a
stream are, a length that is read is the one that the headers declare, and has 64 bits; a header
line that names the length without giving one of 64 bits is reported as wrong. No buffer holds
`2 ^ 63` bytes, and just where the headers declare so large a length the reader breaks down; reading
to the end of the stream does so if a call on the way does. -/
theorem breaksDown_iff (bytes : List UInt8) :
    (∀ ended n rest, readHeaders ended [] none false bytes = .complete n rest →
      Declares bytes n rest ∧ n < 2 ^ 64) ∧
    (∀ given line rest value, HeaderLines none bytes given (line ++ rest) → IsLine line rest →
      NamesLength line value → (∀ n < 2 ^ 64, ¬ Numeral.Writes (Text.trim value) n) →
      readHeaders true [] none false bytes = .invalid rest) ∧
    (breaksDown true bytes = true ↔ ∃ n rest, Declares bytes n rest ∧ 2 ^ 63 ≤ n) ∧
    (readAll? bytes = none ↔
      ∃ results left n rest, Calls bytes results left ∧ Declares left n rest ∧ 2 ^ 63 ≤ n) ∧
    ∀ results, readAll? bytes = some results → results = readAll bytes := by
  have hbreaks (bytes : List UInt8) :
      breaksDown true bytes = true ↔ ∃ n rest, Declares bytes n rest ∧ 2 ^ 63 ≤ n := by
    simp only [breaksDown_eq_true_iff, readHeaders_eq_complete_iff]
  refine ⟨fun ended n rest hread => ?_, fun given line rest value hlines hline hnames hnone => ?_,
    hbreaks bytes, ?_, fun results hread => eq_readUpTo_of_readUpTo? hread⟩
  · have hdeclares := readHeaders_complete hread
    obtain ⟨-, -, -, -, -, -, -, hlt, -⟩ := id hdeclares
    exact ⟨hdeclares, hlt⟩
  · obtain ⟨seen, hread⟩ := hlines.readHeaders false
    rw [hread, readHeaders_isLine hline, ofBytes_eq_invalid hnames hnone]
  · rw [readAll?, readUpTo?_eq_none_iff (Nat.lt_succ_self _)]
    simp only [hbreaks, exists_and_left]

/-- The stream that declares the smallest length that is too large, and nothing else. -/
def halfWord : List UInt8 := Utf8.encode "Content-Length: 9223372036854775808\r\n\r\n".toList

/-- The stream that declares the smallest length that does not fit a word. -/
def wholeWord : List UInt8 := Utf8.encode "Content-Length: 18446744073709551616\r\n\r\n".toList

/-- The first is well formed and breaks the reader; the second, whose length is larger, does not. -/
theorem breaksDown_iff_halfWord :
    breaksDown true halfWord = true ∧ readAll? halfWord = none ∧
      (∃ n rest, Declares halfWord n rest ∧ 2 ^ 63 ≤ n) ∧ breaksDown true wholeWord = false := by
  obtain ⟨-, -, hbreaks, hreadAll, -⟩ := breaksDown_iff halfWord
  have hhalf : breaksDown true halfWord = true := by decide +kernel
  obtain ⟨n, rest, hdeclares, hlarge⟩ := hbreaks.mp hhalf
  exact ⟨hhalf, hreadAll.mpr ⟨[], halfWord, n, rest, .none _, hdeclares, hlarge⟩,
    ⟨n, rest, hdeclares, hlarge⟩, by decide +kernel⟩

end Frame

end ProviderHub
