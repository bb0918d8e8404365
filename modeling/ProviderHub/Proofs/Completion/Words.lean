import Mathlib.Data.List.DropRight
import ProviderHub.Completion.Trim
import ProviderHub.Proofs.Text.Columns

/-!
The text before the cursor and what items are matched with.

* `isLeast_byteOffset`, `monotone_byteOffset`: the byte at which a column cuts a line;
* `wordStart`, `isSlice_lastWord`: the byte at which the word before the cursor starts;
* `isLastWord_lastWord`: that word is the longest ending of word characters;
* `Trim.matchWord`, `Trim.ReplacesFrom`: the text that an item is matched with, and the items that
  bring their own;
* `Trim.columns_cut_words`: this text by the columns of the whole line.
-/

namespace ProviderHub

/-! ### Columns -/

/-- **The byte at which a column cuts a line** is the first one between characters that has as many
code units before it, of those that there are. -/
lemma isLeast_byteOffset (line : List Char) (column : ℕ) :
    IsLeast {offset | ∃ lead, lead <+: line ∧ Utf8.size lead = offset ∧
      min column (Utf16.size line) ≤ Utf16.size lead} (byteOffset line column) := by
  have hprefix := Utf16.take_prefix_self column line
  refine ⟨⟨_, hprefix, rfl, (Utf16.take_prefix_iff hprefix).mp (List.prefix_refl _)⟩, ?_⟩
  rintro _ ⟨lead, hlead, rfl, hle⟩
  exact Utf8.size_le_of_prefix ((Utf16.take_prefix_iff hlead).mpr hle)

lemma monotone_byteOffset (line : List Char) : Monotone (byteOffset line) :=
  fun _ _ hle => Utf8.size_le_of_prefix (Utf16.take_prefix_take hle line)

/-! ### The last word -/

/-- The byte at which the last word of a text starts: that of the first character of the word, as it
is found on the way back through the characters, or the end of the text if there is none. -/
def wordStart (cs : List Char) : ℕ :=
  (((Utf8.starts 0 cs).reverse.takeWhile fun c => isWordChar c.2).getLast?.map Prod.fst).getD
    (Utf8.size cs)

/-- A text ends with a word of word characters, and with no longer one. -/
structure IsLastWord (cs word : List Char) : Prop where
  suffix : word <:+ cs
  isWordChar : ∀ c ∈ word, isWordChar c = true
  longest : ∀ ending, ending <:+ cs → (∀ c ∈ ending, ProviderHub.isWordChar c = true) →
    ending <:+ word

lemma lastWord_eq_rtakeWhile (cs : List Char) : lastWord cs = cs.rtakeWhile isWordChar := rfl

lemma isLastWord_lastWord (cs : List Char) : IsLastWord cs (lastWord cs) := by
  rw [lastWord_eq_rtakeWhile]
  refine ⟨List.rtakeWhile_suffix _ _, fun c hc => List.mem_rtakeWhile_imp hc, ?_⟩
  rintro ending ⟨lead, rfl⟩ hending
  rw [List.rtakeWhile, List.reverse_append, List.takeWhile_append_of_pos (by simpa using hending),
    List.reverse_append, List.reverse_reverse]
  exact List.suffix_append _ _

/-- The word is found with the bytes at which its characters start. -/
lemma starts_rtakeWhile (n : ℕ) (cs : List Char) (p : Char → Bool) :
    (Utf8.starts n cs).rtakeWhile (fun c => p c.2) =
      Utf8.starts (n + Utf8.size (cs.rdropWhile p)) (cs.rtakeWhile p) := by
  induction cs using List.reverseRecOn with
  | nil => rfl
  | append_singleton cs c ih =>
      rw [Utf8.starts_append, Utf8.starts, Utf8.starts]
      by_cases hc : p c = true
      · have hsize : n + Utf8.size (cs.rdropWhile p) + Utf8.size (cs.rtakeWhile p) =
            n + Utf8.size cs := by
          rw [Nat.add_assoc, ← Utf8.size_append, List.rdropWhile_append_rtakeWhile]
        rw [List.rtakeWhile_concat_pos (fun c : ℕ × Char => p c.2) _ _ hc, ih,
          List.rtakeWhile_concat_pos _ _ _ hc, List.rdropWhile_concat_pos _ _ _ hc,
          Utf8.starts_append, hsize]
        rfl
      · rw [List.rtakeWhile_concat_neg (fun c : ℕ × Char => p c.2) _ _ hc,
          List.rtakeWhile_concat_neg _ _ _ hc]
        rfl

/-- **The word is cut off** at the byte at which it starts. -/
lemma isSlice_lastWord (cs : List Char) :
    Utf8.IsSlice cs (wordStart cs) (Utf8.size cs) (lastWord cs) := by
  have hstart : wordStart cs = Utf8.size (cs.rdropWhile isWordChar) := by
    have hfound := starts_rtakeWhile 0 cs isWordChar
    rw [List.rtakeWhile] at hfound
    have hcut : cs.rdropWhile isWordChar ++ cs.rtakeWhile isWordChar = cs :=
      List.rdropWhile_append_rtakeWhile
    rw [wordStart, ← List.head?_reverse, hfound]
    cases hword : cs.rtakeWhile isWordChar with
    | nil =>
        rw [hword, List.append_nil] at hcut
        rw [hcut]
        rfl
    | cons c rest => exact Nat.zero_add _
  have hslice := Utf8.isSlice_of_append (cs.rdropWhile isWordChar) (cs.rtakeWhile isWordChar)
  rwa [List.rdropWhile_append_rtakeWhile, ← hstart] at hslice

/-! ### What items are matched with -/

namespace Trim

/-- The text that an item is matched with. -/
def matchWord (document : TextDocument) (position : Position) (item : CompletionItem) : List Char :=
  wordFor (document.before position) position (document.wordAt position) item

/-- An item replaces text of the cursor's line, from a column that is not behind the cursor. -/
def ReplacesFrom (item : CompletionItem) (position : Position) (start : UInt32) : Prop :=
  ∃ edit, item.textEdit = some edit ∧ edit.range.start = ⟨position.line, start⟩ ∧
    start ≤ position.character

variable {document : TextDocument} {position : Position} {item : CompletionItem} {start : UInt32}

lemma matchWord_of_replacesFrom (h : ReplacesFrom item position start) :
    matchWord document position item = Utf16.drop start.toNat (document.before position) := by
  obtain ⟨edit, hedit, hstart, hle⟩ := h
  rw [matchWord, wordFor, hedit]
  dsimp only
  rw [hstart]
  exact if_pos ⟨rfl, hle⟩

lemma matchWord_of_not_replacesFrom (h : ∀ start, ¬ ReplacesFrom item position start) :
    matchWord document position item = lastWord (document.before position) := by
  rw [matchWord, wordFor]
  split
  · rename_i edit hedit
    refine if_neg ?_
    rintro ⟨hline, hle⟩
    exact h _ ⟨edit, hedit, by rw [← hline], hle⟩
  · rfl

lemma before_of_line {line : List Char} (hline : document.line? position.line.toNat = some line) :
    document.before position = Utf16.take position.character.toNat line := by
  rw [TextDocument.before, hline]

lemma before_of_no_line (hline : document.line? position.line.toNat = none) :
    document.before position = [] := by
  rw [TextDocument.before, hline]

/-- What an item replaces before the cursor is what the whole line has there. -/
lemma isSlice_matchWord (h : ReplacesFrom item position start) {line : List Char}
    (hline : document.line? position.line.toNat = some line) :
    Utf8.IsSlice line (byteOffset line start.toNat) (byteOffset line position.character.toNat)
      (matchWord document position item) := by
  rw [matchWord_of_replacesFrom h, before_of_line hline]
  obtain ⟨-, -, -, hle⟩ := h
  exact Utf16.isSlice_drop_take hle line

/-- **Columns, slices and words agree.** The byte at which a column cuts a line is the first one
between characters that has as many code units before it, of those that there are, and it goes up
with the column. The text before a cursor is the line up to there, and its last word a slice of it.
What an item is matched with, if it replaces text of the cursor's line from a column that is not
behind the cursor, is a slice of the text before the cursor, and the text of the whole line between
the two columns, or nothing where there is no such line; for every other item it is the longest
ending of the text before the cursor with word characters only. -/
theorem columns_cut_words :
    (∀ (line : List Char) (column : ℕ),
      IsLeast {offset | ∃ lead, lead <+: line ∧ Utf8.size lead = offset ∧
        min column (Utf16.size line) ≤ Utf16.size lead} (byteOffset line column)) ∧
    (∀ line : List Char, Monotone (byteOffset line)) ∧
    ∀ (document : TextDocument) (position : Position),
      (∀ line, document.line? position.line.toNat = some line →
        Utf8.IsSlice line 0 (byteOffset line position.character.toNat)
          (document.before position)) ∧
      (document.line? position.line.toNat = none → document.before position = []) ∧
      Utf8.IsSlice (document.before position) (wordStart (document.before position))
        (Utf8.size (document.before position)) (document.wordAt position) ∧
      ∀ item : CompletionItem,
        (∀ start, ReplacesFrom item position start →
          Utf8.IsSlice (document.before position)
            (byteOffset (document.before position) start.toNat)
            (Utf8.size (document.before position)) (matchWord document position item) ∧
          (∀ line, document.line? position.line.toNat = some line →
            Utf8.IsSlice line (byteOffset line start.toNat)
              (byteOffset line position.character.toNat) (matchWord document position item)) ∧
          (document.line? position.line.toNat = none →
            matchWord document position item = [])) ∧
        ((∀ start, ¬ ReplacesFrom item position start) →
          IsLastWord (document.before position) (matchWord document position item)) := by
  refine ⟨isLeast_byteOffset, monotone_byteOffset, fun document position =>
    ⟨fun line hline => ?_, before_of_no_line, isSlice_lastWord _, fun item =>
      ⟨fun start h => ⟨?_, fun line hline => isSlice_matchWord h hline, fun hline => ?_⟩,
        fun h => ?_⟩⟩⟩
  · rw [before_of_line hline]
    exact Utf8.isSlice_of_prefix (Utf16.take_prefix_self _ _)
  · rw [matchWord_of_replacesFrom h]
    exact Utf16.isSlice_drop start.toNat _
  · rw [matchWord_of_replacesFrom h, before_of_no_line hline]
    cases start.toNat <;> rfl
  · rw [matchWord_of_not_replacesFrom h]
    exact isLastWord_lastWord _

/-- A document with a wide character before the cursor. -/
def wideDocument : TextDocument := ⟨{ scheme := "mem", path := "/a" }, "text", 1, "😀 fo\r\n"⟩

/-- An item whose edit starts within the wide character, one without an edit, and one whose edit is
on a line that is not there. -/
theorem columns_cut_words_wide :
    let line := ['😀', ' ', 'f', 'o']
    let edited : CompletionItem :=
      { label := "foo", textEdit := some ⟨⟨⟨0, 1⟩, ⟨0, 5⟩⟩, "foo"⟩ }
    let strayed : CompletionItem :=
      { label := "foo", textEdit := some ⟨⟨⟨7, 1⟩, ⟨7, 5⟩⟩, "foo"⟩ }
    Utf8.IsSlice line 0 7 (wideDocument.before ⟨0, 5⟩) ∧
      Utf8.IsSlice line 4 7 (matchWord wideDocument ⟨0, 5⟩ edited) ∧
      IsLastWord (wideDocument.before ⟨0, 5⟩)
        (matchWord wideDocument ⟨0, 5⟩ { label := "foo" }) ∧
      matchWord wideDocument ⟨7, 5⟩ strayed = [] := by
  intro line edited strayed
  obtain ⟨-, -, hdocument⟩ := columns_cut_words
  obtain ⟨hbefore, -, -, hitem⟩ := hdocument wideDocument ⟨0, 5⟩
  obtain ⟨-, -, -, hstray⟩ := hdocument wideDocument ⟨7, 5⟩
  have hline : wideDocument.line? (0 : UInt32).toNat = some line := by decide +kernel
  have hedited : ReplacesFrom edited ⟨0, 5⟩ 1 := ⟨_, rfl, rfl, by decide⟩
  have hstrayed : ReplacesFrom strayed ⟨7, 5⟩ 1 := ⟨_, rfl, rfl, by decide⟩
  have hplain : ∀ start, ¬ ReplacesFrom { label := "foo" } ⟨0, 5⟩ start := by
    rintro start ⟨edit, hedit, -⟩
    cases hedit
  obtain ⟨-, hslice, -⟩ := (hitem edited).1 1 hedited
  exact ⟨hbefore line hline, hslice line hline, (hitem { label := "foo" }).2 hplain,
    ((hstray strayed).1 1 hstrayed).2.2 (by decide +kernel)⟩

end Trim

end ProviderHub
