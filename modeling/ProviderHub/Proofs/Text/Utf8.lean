import Mathlib.Tactic
import ProviderHub.Text.Utf8

/-!
Bytes and the texts they write.

* `Utf8.decode?_one` to `Utf8.decode?_four`: how sequences of one to four bytes are read;
* `Utf8.decode?_eq_some_iff`: bytes are read as a text exactly if they are the bytes of that text;
* `Utf8.encode_prefix_iff`: the bytes of a text come first among those of another one exactly if its
  characters do;
* `Utf8.length_encode`: how many bytes a text has.
-/

namespace ProviderHub.Utf8

/-! ### Sequences -/

lemma isContinuation_iff {b : UInt8} :
    isContinuation b = true ↔ 0x80 ≤ b.toNat ∧ b.toNat < 0xC0 := by
  simp [isContinuation, UInt8.le_iff_toNat_le, UInt8.lt_iff_toNat_lt]

lemma scalar?_eq_some_iff {least n : ℕ} {c : Char} :
    scalar? least n = some c ↔ least ≤ n ∧ c.toNat = n := by
  rw [scalar?]
  split
  · rename_i h
    obtain ⟨hle, hvalid⟩ := h
    rw [Option.some_inj, Char.ofNat, dif_pos hvalid]
    constructor
    · rintro rfl
      exact ⟨hle, rfl⟩
    · rintro ⟨-, rfl⟩
      rfl
  · rename_i h
    refine ⟨nofun, ?_⟩
    rintro ⟨hle, rfl⟩
    exact absurd ⟨hle, c.valid⟩ h

lemma decode?_one {a : UInt8} (ha : a.toNat < 0x80) (rest : List UInt8) :
    decode? (a :: rest) = (decode? rest).map (Char.ofNat a.toNat :: ·) := by
  have h1 : a < 0x80 := ha
  rw [decode?.eq_def]
  simp only [if_pos h1]

lemma decode?_two {a b : UInt8} (ha : 0xC0 ≤ a.toNat ∧ a.toNat < 0xE0)
    (hb : isContinuation b = true) (rest : List UInt8) :
    decode? (a :: b :: rest) = (scalar? 0x80 (a.toNat % 32 * 64 + bits6 b)).bind fun c =>
      (decode? rest).map (c :: ·) := by
  have h1 : ¬ a < 0x80 := fun h => absurd (show a.toNat < 0x80 from h) (by omega)
  have h2 : ¬ a < 0xC0 := fun h => absurd (show a.toNat < 0xC0 from h) (by omega)
  have h3 : a < 0xE0 := ha.2
  rw [decode?.eq_def]
  simp [h1, h2, h3, hb]

lemma decode?_three {a b c : UInt8} (ha : 0xE0 ≤ a.toNat ∧ a.toNat < 0xF0)
    (hb : isContinuation b = true) (hc : isContinuation c = true) (rest : List UInt8) :
    decode? (a :: b :: c :: rest) =
      (scalar? 0x800 ((a.toNat % 16 * 64 + bits6 b) * 64 + bits6 c)).bind fun c =>
        (decode? rest).map (c :: ·) := by
  have h1 : ¬ a < 0x80 := fun h => absurd (show a.toNat < 0x80 from h) (by omega)
  have h2 : ¬ a < 0xC0 := fun h => absurd (show a.toNat < 0xC0 from h) (by omega)
  have h3 : ¬ a < 0xE0 := fun h => absurd (show a.toNat < 0xE0 from h) (by omega)
  have h4 : a < 0xF0 := ha.2
  rw [decode?.eq_def]
  simp [h1, h2, h3, h4, hb, hc]

lemma decode?_four {a b c d : UInt8} (ha : 0xF0 ≤ a.toNat ∧ a.toNat < 0xF8)
    (hb : isContinuation b = true) (hc : isContinuation c = true) (hd : isContinuation d = true)
    (rest : List UInt8) :
    decode? (a :: b :: c :: d :: rest) =
      (scalar? 0x10000 (((a.toNat % 8 * 64 + bits6 b) * 64 + bits6 c) * 64 + bits6 d)).bind
        fun c => (decode? rest).map (c :: ·) := by
  have h1 : ¬ a < 0x80 := fun h => absurd (show a.toNat < 0x80 from h) (by omega)
  have h2 : ¬ a < 0xC0 := fun h => absurd (show a.toNat < 0xC0 from h) (by omega)
  have h3 : ¬ a < 0xE0 := fun h => absurd (show a.toNat < 0xE0 from h) (by omega)
  have h4 : ¬ a < 0xF0 := fun h => absurd (show a.toNat < 0xF0 from h) (by omega)
  have h5 : a < 0xF8 := ha.2
  rw [decode?.eq_def]
  simp [h1, h2, h3, h4, h5, hb, hc, hd]

/-! ### From texts to bytes and back -/

lemma toNat_ofNat {n : ℕ} (hn : n < 256) : (UInt8.ofNat n).toNat = n := by
  rw [UInt8.toNat_ofNat', Nat.mod_eq_of_lt hn]

lemma toNat_lt (c : Char) : c.toNat < 0x110000 := by
  rcases c.valid with h | h
  · exact lt_trans h (by decide)
  · exact h.2

/-- A character is read back from its bytes, whatever follows them. -/
lemma decode?_utf8EncodeChar (c : Char) (rest : List UInt8) :
    decode? (String.utf8EncodeChar c ++ rest) = (decode? rest).map (c :: ·) := by
  have hlt := toNat_lt c
  have hval : c.val.toNat = c.toNat := rfl
  have hread {least n : ℕ} (hle : least ≤ c.toNat) (hn : n = c.toNat) :
      scalar? least n = some c := scalar?_eq_some_iff.mpr ⟨hn ▸ hle, hn.symm⟩
  simp only [String.utf8EncodeChar, hval]
  split
  · have hone : (UInt8.ofNat c.toNat).toNat = c.toNat := toNat_ofNat (by omega)
    rw [List.singleton_append, decode?_one (by omega), hone, Char.ofNat_toNat]
  split
  · have hfirst : (UInt8.ofNat (c.toNat / 64 % 32 + 192)).toNat = c.toNat / 64 % 32 + 192 :=
      toNat_ofNat (by omega)
    have hsecond : (UInt8.ofNat (c.toNat % 64 + 128)).toNat = c.toNat % 64 + 128 :=
      toNat_ofNat (by omega)
    rw [List.cons_append, List.singleton_append, decode?_two (by omega)
      (isContinuation_iff.mpr (by omega)), bits6, hread (by omega) (by omega), Option.bind_some]
  split
  · have hfirst : (UInt8.ofNat (c.toNat / 4096 % 16 + 224)).toNat = c.toNat / 4096 % 16 + 224 :=
      toNat_ofNat (by omega)
    have hsecond : (UInt8.ofNat (c.toNat / 64 % 64 + 128)).toNat = c.toNat / 64 % 64 + 128 :=
      toNat_ofNat (by omega)
    have hthird : (UInt8.ofNat (c.toNat % 64 + 128)).toNat = c.toNat % 64 + 128 :=
      toNat_ofNat (by omega)
    rw [List.cons_append, List.cons_append, List.singleton_append, decode?_three (by omega)
      (isContinuation_iff.mpr (by omega)) (isContinuation_iff.mpr (by omega)), bits6, bits6,
      hread (by omega) (by omega), Option.bind_some]
  · have hfirst : (UInt8.ofNat (c.toNat / 262144 % 8 + 240)).toNat =
        c.toNat / 262144 % 8 + 240 := toNat_ofNat (by omega)
    have hsecond : (UInt8.ofNat (c.toNat / 4096 % 64 + 128)).toNat = c.toNat / 4096 % 64 + 128 :=
      toNat_ofNat (by omega)
    have hthird : (UInt8.ofNat (c.toNat / 64 % 64 + 128)).toNat = c.toNat / 64 % 64 + 128 :=
      toNat_ofNat (by omega)
    have hfourth : (UInt8.ofNat (c.toNat % 64 + 128)).toNat = c.toNat % 64 + 128 :=
      toNat_ofNat (by omega)
    rw [List.cons_append, List.cons_append, List.cons_append, List.singleton_append,
      decode?_four (by omega) (isContinuation_iff.mpr (by omega))
      (isContinuation_iff.mpr (by omega)) (isContinuation_iff.mpr (by omega)), bits6, bits6, bits6,
      hread (by omega) (by omega), Option.bind_some]

/-- A text is read back from its bytes, whatever follows them. -/
lemma decode?_encode_append (cs : List Char) (rest : List UInt8) :
    decode? (encode cs ++ rest) = (decode? rest).map (cs ++ ·) := by
  induction cs with
  | nil => exact (Option.map_id' ..).symm
  | cons c cs ih =>
    rw [encode] at ih ⊢
    rw [List.flatMap_cons, List.append_assoc, decode?_utf8EncodeChar, ih, Option.map_map]
    rfl

lemma decode?_encode (cs : List Char) : decode? (encode cs) = some cs := by
  have h := decode?_encode_append cs []
  rwa [List.append_nil, decode?, Option.map_some, List.append_nil] at h

/-- The bytes of one text come first among those of another one exactly if its characters do. -/
lemma encode_prefix_iff {start cs : List Char} : encode start <+: encode cs ↔ start <+: cs := by
  constructor
  · rintro ⟨rest, hrest⟩
    have h := decode?_encode cs
    rw [← hrest, decode?_encode_append] at h
    obtain ⟨more, -, hmore⟩ := Option.map_eq_some_iff.mp h
    exact ⟨more, hmore⟩
  · rintro ⟨rest, rfl⟩
    rw [encode, encode, List.flatMap_append]
    exact List.prefix_append _ _

lemma ofNat_eq {n : ℕ} {b : UInt8} (hn : n = b.toNat) : UInt8.ofNat n = b := by
  rw [hn, UInt8.ofNat_toNat]

/-! ### From bytes to texts and back -/

lemma utf8EncodeChar_one {c : Char} {a : UInt8} (ha : a.toNat < 0x80) (hc : c.toNat = a.toNat) :
    String.utf8EncodeChar c = [a] := by
  have hval : c.val.toNat = c.toNat := rfl
  simp only [String.utf8EncodeChar, hval]
  rw [if_pos (by omega), ofNat_eq hc]

lemma utf8EncodeChar_two {c : Char} {a b : UInt8} (ha : 0xC0 ≤ a.toNat ∧ a.toNat < 0xE0)
    (hb : isContinuation b = true) (hleast : 0x80 ≤ c.toNat)
    (hc : c.toNat = a.toNat % 32 * 64 + bits6 b) : String.utf8EncodeChar c = [a, b] := by
  have hval : c.val.toNat = c.toNat := rfl
  simp only [String.utf8EncodeChar, hval]
  rw [isContinuation_iff] at hb
  rw [bits6] at hc
  rw [if_neg (by omega), if_pos (by omega)]
  simp only [List.cons.injEq, and_true]
  exact ⟨ofNat_eq (by omega), ofNat_eq (by omega)⟩

lemma utf8EncodeChar_three {c : Char} {a b d : UInt8} (ha : 0xE0 ≤ a.toNat ∧ a.toNat < 0xF0)
    (hb : isContinuation b = true) (hd : isContinuation d = true) (hleast : 0x800 ≤ c.toNat)
    (hc : c.toNat = (a.toNat % 16 * 64 + bits6 b) * 64 + bits6 d) :
    String.utf8EncodeChar c = [a, b, d] := by
  have hval : c.val.toNat = c.toNat := rfl
  simp only [String.utf8EncodeChar, hval]
  rw [isContinuation_iff] at hb hd
  rw [bits6, bits6] at hc
  rw [if_neg (by omega), if_neg (by omega), if_pos (by omega)]
  simp only [List.cons.injEq, and_true]
  exact ⟨ofNat_eq (by omega), ofNat_eq (by omega), ofNat_eq (by omega)⟩

lemma utf8EncodeChar_four {c : Char} {a b d e : UInt8} (ha : 0xF0 ≤ a.toNat ∧ a.toNat < 0xF8)
    (hb : isContinuation b = true) (hd : isContinuation d = true) (he : isContinuation e = true)
    (hleast : 0x10000 ≤ c.toNat)
    (hc : c.toNat = ((a.toNat % 8 * 64 + bits6 b) * 64 + bits6 d) * 64 + bits6 e) :
    String.utf8EncodeChar c = [a, b, d, e] := by
  have hval : c.val.toNat = c.toNat := rfl
  simp only [String.utf8EncodeChar, hval]
  rw [isContinuation_iff] at hb hd he
  rw [bits6, bits6, bits6] at hc
  rw [if_neg (by omega), if_neg (by omega), if_neg (by omega)]
  simp only [List.cons.injEq, and_true]
  exact ⟨ofNat_eq (by omega), ofNat_eq (by omega), ofNat_eq (by omega), ofNat_eq (by omega)⟩

lemma encode_cons (c : Char) (cs : List Char) :
    encode (c :: cs) = String.utf8EncodeChar c ++ encode cs := rfl

lemma encode_of_decode? {bs : List UInt8} {cs : List Char} (h : decode? bs = some cs) :
    encode cs = bs := by
  -- a sequence that is read gives its character, and the rest the others
  have hstep {least n : ℕ} {rest : List UInt8} {cs : List Char}
      (h : ((scalar? least n).bind fun c => (decode? rest).map (c :: ·)) = some cs) :
      ∃ c tail, cs = c :: tail ∧ decode? rest = some tail ∧ least ≤ c.toNat ∧ c.toNat = n := by
    obtain ⟨c, hc, h⟩ := Option.bind_eq_some_iff.mp h
    obtain ⟨tail, htail, rfl⟩ := Option.map_eq_some_iff.mp h
    obtain ⟨hle, hn⟩ := scalar?_eq_some_iff.mp hc
    exact ⟨c, tail, rfl, htail, hn ▸ hle, hn⟩
  have hge {a k : UInt8} (hak : ¬ a < k) : k.toNat ≤ a.toNat := Nat.le_of_not_lt hak
  fun_induction decode? bs generalizing cs with
  | case1 =>
    rw [← Option.some_inj.mp h]
    rfl
  | case2 a rest ha ih =>
    obtain ⟨tail, htail, rfl⟩ := Option.map_eq_some_iff.mp h
    have hvalid : a.toNat.isValidChar := .inl (lt_trans (show a.toNat < 0x80 from ha) (by decide))
    have hc : (Char.ofNat a.toNat).toNat = a.toNat := by
      rw [Char.ofNat, dif_pos hvalid]
      rfl
    rw [encode_cons, utf8EncodeChar_one ha hc, ih htail]
    rfl
  | case4 a _ h1 h2 b rest hb ih =>
    obtain ⟨c, tail, rfl, htail, hle, hc⟩ := hstep h
    rw [encode_cons, utf8EncodeChar_two ⟨hge h1, h2⟩ hb hle hc, ih htail]
    rfl
  | case7 a _ _ h1 h2 b d rest hbd ih =>
    rw [Bool.and_eq_true] at hbd
    obtain ⟨c, tail, rfl, htail, hle, hc⟩ := hstep h
    rw [encode_cons, utf8EncodeChar_three ⟨hge h1, h2⟩ hbd.1 hbd.2 hle hc, ih htail]
    rfl
  | case10 a _ _ _ h1 h2 b d e rest hbde ih =>
    rw [Bool.and_eq_true, Bool.and_eq_true] at hbde
    obtain ⟨c, tail, rfl, htail, hle, hc⟩ := hstep h
    rw [encode_cons, utf8EncodeChar_four ⟨hge h1, h2⟩ hbde.1.1 hbde.1.2 hbde.2 hle hc, ih htail]
    rfl
  | _ => nomatch h

/-- **Bytes are read as a text exactly if they are the bytes of that text.** -/
lemma decode?_eq_some_iff {bs : List UInt8} {cs : List Char} :
    decode? bs = some cs ↔ encode cs = bs := by
  constructor
  · exact encode_of_decode?
  · rintro rfl
    exact decode?_encode cs

lemma length_encode (cs : List Char) : (encode cs).length = size cs := by
  induction cs with
  | nil => rfl
  | cons c cs ih =>
    rw [encode] at ih ⊢
    rw [List.flatMap_cons, List.length_append, ih, String.length_utf8EncodeChar]
    rfl

end ProviderHub.Utf8
