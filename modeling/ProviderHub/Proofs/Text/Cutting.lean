import Mathlib.Tactic
import ProviderHub.Text.Alphabet
import ProviderHub.Text.Split

/-!
What is cut off from texts.

* `Text.dropPrefix?_eq_some_iff`: what follows a given beginning;
* `Text.trimEnd_append`, `Text.eq_append_of_drop_dropWhile`: what comes before the last of a
  character;
* `Text.trim_append`: white space around a text.
-/

namespace ProviderHub.Text

/-! ### Beginnings -/

lemma dropPrefix?_eq_some_iff {start cs rest : List Char} :
    dropPrefix? start cs = some rest ↔ cs = start ++ rest := by
  induction start generalizing cs with
  | nil => simp [dropPrefix?, eq_comm]
  | cons a start ih =>
      cases cs with
      | nil => simp [dropPrefix?]
      | cons c cs =>
          by_cases h : a = c
          · simp [dropPrefix?, h, ih]
          · simp [dropPrefix?, h, Ne.symm h]

lemma dropPrefix?_append (start cs : List Char) : dropPrefix? start (start ++ cs) = some cs :=
  dropPrefix?_eq_some_iff.mpr rfl

/-- Trimming leaves a beginning of the text. -/
lemma trimEnd_append (c : Char) (cs : List Char) : ∃ rest, cs = trimEnd c cs ++ rest := by
  refine ⟨(cs.reverse.takeWhile (· = c)).reverse, ?_⟩
  rw [trimEnd, ← List.reverse_append, List.takeWhile_append_dropWhile, List.reverse_reverse]

/-- A text with something before its last `c` is that, `c`, and the rest. -/
lemma eq_append_of_drop_dropWhile {c : Char} {cs above : List Char} (hne : above ≠ [])
    (h : (cs.reverse.dropWhile (· != c)).drop 1 = above) :
    ∃ last, cs = above.reverse ++ c :: last := by
  have hcut := List.takeWhile_append_dropWhile (p := (· != c)) (l := cs.reverse)
  cases hdrop : cs.reverse.dropWhile (· != c) with
  | nil =>
      rw [hdrop] at h
      exact absurd h.symm hne
  | cons d rest =>
      have hd : d = c := by
        have hhead := List.head_dropWhile_not (p := (· != c)) (l := cs.reverse) (by simp [hdrop])
        simpa [hdrop] using hhead
      refine ⟨(cs.reverse.takeWhile (· != c)).reverse, ?_⟩
      rw [hdrop, hd] at hcut
      rw [hdrop, List.drop_one, List.tail_cons] at h
      rw [← h]
      simpa using (congrArg List.reverse hcut).symm

/-! ### White space -/

lemma isBlank_of_isDigit {c : Char} (hc : c.isDigit = true) : isBlank c = false := by
  have hrange : 48 ≤ c.toNat ∧ c.toNat ≤ 57 := by
    simpa [Char.isDigit, UInt32.le_iff_toNat_le] using hc
  rw [isBlank]
  generalize c.toNat = n at hrange
  obtain ⟨hlow, hhigh⟩ := hrange
  interval_cases n <;> rfl

lemma trimStart_append {lead cs : List Char} (hlead : ∀ c ∈ lead, isBlank c = true)
    (hcs : ∀ c ∈ cs.head?, isBlank c = false) : trimStart (lead ++ cs) = cs := by
  rw [trimStart, List.dropWhile_append_of_pos hlead]
  cases cs with
  | nil => rfl
  | cons c cs =>
    rw [List.dropWhile_cons_of_neg]
    simp [hcs c rfl]

/-- White space around a text that neither starts nor ends with any is what is cut off. -/
lemma trim_append (lead trail : List Char) {cs : List Char} (hlead : ∀ c ∈ lead, isBlank c = true)
    (htrail : ∀ c ∈ trail, isBlank c = true) (hne : cs ≠ [])
    (hfirst : ∀ c ∈ cs.head?, isBlank c = false) (hlast : ∀ c ∈ cs.getLast?, isBlank c = false) :
    trim (lead ++ (cs ++ trail)) = cs := by
  rw [trim, trimStart_append hlead (by rwa [List.head?_append_of_ne_nil _ hne]),
    List.reverse_append, trimStart_append (by simpa using htrail) (by simpa using hlast),
    List.reverse_reverse]

end ProviderHub.Text
