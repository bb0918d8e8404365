import Mathlib.Tactic
import ProviderHub.Text.Utf16
import ProviderHub.Text.Utf8

/-!
Bytes and columns of a text.

* `Utf8.IsSlice`: the text between two bytes, neither of which lies within a character;
* `Utf8.starts`: the characters of a text, with the bytes at which they start;
* `Utf16.take_prefix_iff`: a column cuts behind the first characters that have as many code units;
* `Utf16.isSlice_drop`: what lies behind a column;
* `Utf16.take_take`, `Utf16.isSlice_drop_take`: a second cut, before the first one.
-/

namespace ProviderHub

namespace Utf8

lemma size_append (cs ds : List Char) : size (cs ++ ds) = size cs + size ds := by
  induction cs with
  | nil => exact (Nat.zero_add _).symm
  | cons c cs ih =>
      change c.utf8Size + size (cs ++ ds) = c.utf8Size + size cs + size ds
      omega

lemma size_le_of_prefix {lead cs : List Char} (h : lead <+: cs) : size lead ≤ size cs := by
  obtain ⟨rest, rfl⟩ := h
  rw [size_append]
  exact Nat.le_add_right _ _

/-- **The text between two bytes** of a text: each of the two is where a character starts, or the
end of the text. -/
def IsSlice (cs : List Char) (start stop : ℕ) (text : List Char) : Prop :=
  ∃ lead rest, cs = lead ++ text ++ rest ∧ size lead = start ∧ size (lead ++ text) = stop

/-- What a text starts with. -/
lemma isSlice_of_prefix {lead cs : List Char} (h : lead <+: cs) :
    IsSlice cs 0 (size lead) lead := by
  obtain ⟨rest, rfl⟩ := h
  exact ⟨[], rest, rfl, rfl, rfl⟩

/-- What a text ends with. -/
lemma isSlice_of_append (lead rest : List Char) :
    IsSlice (lead ++ rest) (size lead) (size (lead ++ rest)) rest :=
  ⟨lead, [], (List.append_nil _).symm, rfl, rfl⟩

/-- The characters of a text, with the bytes at which they start, the first one at `n`. -/
def starts (n : ℕ) : List Char → List (ℕ × Char)
  | [] => []
  | c :: cs => (n, c) :: starts (n + c.utf8Size) cs

lemma starts_append (n : ℕ) (cs ds : List Char) :
    starts n (cs ++ ds) = starts n cs ++ starts (n + size cs) ds := by
  induction cs generalizing n with
  | nil => rfl
  | cons c cs ih =>
      have hsize : n + size (c :: cs) = n + c.utf8Size + size cs := (Nat.add_assoc ..).symm
      rw [List.cons_append, starts, ih, hsize]
      rfl

end Utf8

namespace Utf16

lemma units_pos (c : Char) : 0 < units c := by
  rw [units]
  split <;> decide

lemma size_cons (c : Char) (cs : List Char) : size (c :: cs) = units c + size cs := rfl

lemma take_zero (cs : List Char) : take 0 cs = [] := by cases cs <;> rfl

lemma drop_zero (cs : List Char) : drop 0 cs = cs := by cases cs <;> rfl

lemma take_append_drop (n : ℕ) (cs : List Char) : take n cs ++ drop n cs = cs := by
  fun_induction take n cs with
  | case1 cs => rw [drop_zero, List.nil_append]
  | case2 => rfl
  | case3 n c cs ih => rw [drop, List.cons_append, ih]

lemma take_prefix_self (n : ℕ) (cs : List Char) : take n cs <+: cs :=
  ⟨drop n cs, take_append_drop n cs⟩

/-- **Where a column cuts**: behind the first characters that have as many code units as the column
says, or at the end of the line. -/
lemma take_prefix_iff {n : ℕ} {lead cs : List Char} (hlead : lead <+: cs) :
    take n cs <+: lead ↔ min n (size cs) ≤ size lead := by
  induction cs generalizing n lead with
  | nil =>
      rw [List.prefix_nil.mp hlead]
      cases n <;> exact iff_of_true (List.prefix_refl _) (Nat.min_le_right ..)
  | cons c cs ih =>
      cases n with
      | zero =>
          rw [take_zero, Nat.zero_min]
          exact iff_of_true List.nil_prefix (Nat.zero_le _)
      | succ n =>
          have hpos := units_pos c
          rw [take, size_cons]
          cases lead with
          | nil =>
              refine iff_of_false (by simp) fun hle => ?_
              change _ ≤ 0 at hle
              omega
          | cons d lead =>
              obtain ⟨rfl, hrest⟩ := List.cons_prefix_cons.mp hlead
              rw [List.cons_prefix_cons, and_iff_right rfl, ih hrest, size_cons]
              omega

/-- A later column cuts no earlier. -/
lemma take_prefix_take {m n : ℕ} (hmn : m ≤ n) (cs : List Char) : take m cs <+: take n cs := by
  have hn := (take_prefix_iff (take_prefix_self n cs)).mp (List.prefix_refl _)
  exact (take_prefix_iff (take_prefix_self n cs)).mpr (by omega)

/-- A column is found again in a line that is cut behind it. -/
lemma take_take {m n : ℕ} (hmn : m ≤ n) (cs : List Char) : take m (take n cs) = take m cs := by
  induction cs generalizing m n with
  | nil => cases n <;> rfl
  | cons c cs ih =>
      cases m with
      | zero => rw [take_zero, take_zero]
      | succ m =>
          cases n with
          | zero => omega
          | succ n => rw [take, take, take, ih (by omega)]

/-- What lies behind a column of a line, by its bytes. -/
lemma isSlice_drop (n : ℕ) (cs : List Char) :
    Utf8.IsSlice cs (Utf8.size (take n cs)) (Utf8.size cs) (drop n cs) := by
  have hslice := Utf8.isSlice_of_append (take n cs) (drop n cs)
  rwa [take_append_drop] at hslice

/-- **What lies between two columns** of a line, by its bytes. -/
lemma isSlice_drop_take {m n : ℕ} (hmn : m ≤ n) (cs : List Char) :
    Utf8.IsSlice cs (Utf8.size (take m cs)) (Utf8.size (take n cs)) (drop m (take n cs)) := by
  have hcut : take m cs ++ drop m (take n cs) = take n cs := by
    rw [← take_take hmn, take_append_drop]
  exact ⟨take m cs, drop n cs, by rw [hcut, take_append_drop], rfl, by rw [hcut]⟩

end Utf16

end ProviderHub
