import Mathlib.Tactic
import ProviderHub.Text.Split

/-!
Texts as the lists of their parts.

A text that another one goes on from at a separator is a beginning of it in two ways: as a text, and
as a list of parts. The two agree because the separator ends a part.

* `Text.intercalate_append`: the texts that two lists of parts make, joined;
* `Text.splitOn_prefix_iff`: the parts of a text are the first ones of another text exactly if the
  other one is that text, or that text, a separator and more;
* `Text.splitOn_eq`: the parts are those of the standard library.
-/

namespace ProviderHub.Text

variable {α : Type*}

/-- Two lists of parts, joined at a separator. -/
lemma intercalate_append (sep : α) {parts : List (List α)} (hparts : parts ≠ []) (part : List α)
    (more : List (List α)) :
    [sep].intercalate (parts ++ part :: more) =
      [sep].intercalate parts ++ sep :: [sep].intercalate (part :: more) := by
  induction parts with
  | nil => exact absurd rfl hparts
  | cons first parts ih =>
      cases parts with
      | nil => simp
      | cons second parts =>
          have htail := ih (List.cons_ne_nil second parts)
          rw [List.cons_append] at htail
          simp only [List.cons_append, List.intercalate_cons_cons, htail, List.append_assoc]

/-- What stands right behind a beginning. -/
lemma concat_prefix_iff {start xs : List α} {x : α} :
    start ++ [x] <+: xs ↔ start <+: xs ∧ xs[start.length]? = some x := by
  constructor
  · rintro ⟨rest, rfl⟩
    rw [List.append_assoc]
    exact ⟨List.prefix_append _ _, by simp⟩
  · rintro ⟨⟨rest, rfl⟩, hx⟩
    rw [List.getElem?_append_right (le_refl _), Nat.sub_self] at hx
    obtain ⟨rest, rfl⟩ : ∃ more, rest = x :: more := by
      cases rest with
      | nil => cases hx
      | cons y more => exact ⟨more, by rw [Option.some_inj.mp hx]⟩
    exact ⟨rest, by rw [List.append_assoc, List.singleton_append]⟩

variable [BEq α] [LawfulBEq α]

lemma splitOn_append_cons (sep : α) (start rest : List α) :
    (start ++ sep :: rest).splitOn sep = start.splitOn sep ++ rest.splitOn sep := by
  simp only [List.splitOn_eq_splitOnP]
  exact List.splitOnP_append_cons start rest (beq_self_eq_true sep)

/-- **The parts of a text come first among those of another one** exactly if the other one is that
text or goes on from it at a separator. -/
lemma splitOn_prefix_iff {sep : α} {start text : List α} :
    start.splitOn sep <+: text.splitOn sep ↔ start = text ∨ start ++ [sep] <+: text := by
  constructor
  · rintro ⟨more, hmore⟩
    -- the parts make up their text again
    have htext : [sep].intercalate (text.splitOn sep) = text := List.intercalate_splitOn sep
    rw [← hmore] at htext
    cases more with
    | nil =>
        rw [List.append_nil, List.intercalate_splitOn] at htext
        exact .inl htext
    | cons part more =>
        rw [intercalate_append sep (List.splitOn_ne_nil sep start), List.intercalate_splitOn]
          at htext
        refine .inr ⟨[sep].intercalate (part :: more), ?_⟩
        rw [List.append_assoc]
        exact htext
  · rintro (rfl | ⟨rest, rfl⟩)
    · exact List.prefix_refl _
    · rw [List.append_assoc, List.singleton_append, splitOn_append_cons]
      exact List.prefix_append _ _

/-- The parts are those of the standard library. -/
lemma splitOn_eq (sep : Char) (cs : List Char) : splitOn sep cs = cs.splitOn sep := by
  rw [List.splitOn_eq_splitOnP]
  induction cs with
  | nil => rfl
  | cons c cs ih =>
      rw [splitOn, ih, List.splitOnP_cons_eq_if_modifyHead]
      simp only [beq_iff_eq]
      split
      · rfl
      · cases hparts : cs.splitOnP (· == sep) with
        | nil => exact absurd hparts (List.splitOnP_ne_nil _ cs)
        | cons part parts => rfl

end ProviderHub.Text
