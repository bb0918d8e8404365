import ProviderHub.Proofs.Text.Cutting
import ProviderHub.Proofs.Text.Segments
import ProviderHub.Proofs.Text.Utf8
import ProviderHub.Provider.Metadata

/-!
The hierarchy of the kinds of code actions.

A kind is a path of segments between dots. The check for overlapping kinds looks only at whole texts
and at the one character behind a common beginning; what it finds is whether one path leads on from
the other.

* `kindSegments`, `KindsComparable`: the path of a kind, and kinds of which one leads on from the
  other;
* `kindWithin_iff_segments`: a kind lies in another one exactly if the segments of the other one
  come first among its own;
* `kindWithin_iff_bytes`: the check is the same for the bytes of the texts;
* `kinds_form_hierarchy`: kinds overlap exactly if they are comparable, and a provider is asked
  exactly if nothing rules it out or some kinds are.
-/

namespace ProviderHub

/-! ### The path of a kind -/

/-- The segments of a kind, between its dots. -/
def kindSegments (kind : String) : List (List Char) := kind.toList.splitOn '.'

/-- One of two kinds is the other one or lies in it: its path leads on from the other one's. -/
def KindsComparable (a b : String) : Prop :=
  kindSegments a <+: kindSegments b ∨ kindSegments b <+: kindSegments a

/-- A kind is another one, or goes on from it with a dot, in bytes. -/
def KindBytesWithin (child parent : String) : Prop :=
  let childBytes := Utf8.encode child.toList
  let parentBytes := Utf8.encode parent.toList
  childBytes = parentBytes ∨
    parentBytes <+: childBytes ∧ childBytes[parentBytes.length]? = some 0x2E

/-! ### The check for overlapping kinds -/

lemma kindWithin_iff {child parent : List Char} :
    kindWithin child parent = true ↔ parent = child ∨ parent ++ ['.'] <+: child := by
  rw [kindWithin]
  constructor
  · intro h
    split at h
    · rename_i hrest
      rw [Text.dropPrefix?_eq_some_iff, List.append_nil] at hrest
      exact .inl hrest.symm
    · rename_i c rest hrest
      rw [Text.dropPrefix?_eq_some_iff, of_decide_eq_true h] at hrest
      exact .inr ⟨rest, by rw [hrest, List.append_assoc, List.singleton_append]⟩
    · cases h
  · rintro (rfl | ⟨rest, rfl⟩)
    · have hrest := Text.dropPrefix?_append parent []
      rw [List.append_nil] at hrest
      rw [hrest]
    · rw [List.append_assoc, Text.dropPrefix?_append]
      rfl

/-- **A kind lies in another one** exactly if the segments of the other one come first among its
own. -/
lemma kindWithin_iff_segments {child parent : String} :
    kindWithin child.toList parent.toList = true ↔ kindSegments parent <+: kindSegments child := by
  rw [kindWithin_iff, kindSegments, kindSegments, Text.splitOn_prefix_iff]

/-- **The check is the same for bytes**, of which a character has one to four: the dot is one byte
that is no part of another character. -/
lemma kindWithin_iff_bytes {child parent : String} :
    kindWithin child.toList parent.toList = true ↔ KindBytesWithin child parent := by
  have hdot : Utf8.encode (parent.toList ++ ['.']) = Utf8.encode parent.toList ++ [0x2E] := by
    rw [Utf8.encode, List.flatMap_append]
    rfl
  have heq : parent.toList = child.toList ↔
      Utf8.encode child.toList = Utf8.encode parent.toList := by
    rw [← Utf8.decode?_eq_some_iff, Utf8.decode?_encode, Option.some_inj]
  rw [kindWithin_iff, ← Utf8.encode_prefix_iff, hdot, Text.concat_prefix_iff, heq]
  rfl

lemma kindsOverlap_iff {a b : String} : kindsOverlap a b = true ↔ KindsComparable a b := by
  rw [kindsOverlap, Bool.or_eq_true, kindWithin_iff_segments, kindWithin_iff_segments]
  rfl

/-! ### Requests -/

lemma CodeActionMetadata.accepts_iff {m : CodeActionMetadata} {c : CodeActionContext} :
    m.accepts c = true ↔ m.kinds = none ∨ c.only = none ∨
      ∃ kinds only, m.kinds = some kinds ∧ c.only = some only ∧
        ∃ kind ∈ kinds, ∃ asked ∈ only, kindsOverlap kind asked = true := by
  rw [accepts]
  cases m.kinds <;> cases c.only <;> simp

/-- **The kinds of code actions form a hierarchy** of paths between dots. Two kinds overlap exactly
if the segments of one come first among those of the other, whether characters or bytes are
compared; so every kind overlaps itself, and overlapping has no direction. A request reaches a
provider exactly if one of them does not name any kinds, or some kind that the provider declares is
comparable to one that is asked for. -/
theorem kinds_form_hierarchy :
    (∀ a b : String, kindsOverlap a b = true ↔ KindsComparable a b) ∧
    (∀ a b : String, kindsOverlap a b = true ↔ KindBytesWithin a b ∨ KindBytesWithin b a) ∧
    (∀ a : String, kindsOverlap a a = true) ∧
    (∀ a b : String, kindsOverlap a b = kindsOverlap b a) ∧
    ∀ (m : CodeActionMetadata) (c : CodeActionContext), m.accepts c = true ↔
      m.kinds = none ∨ c.only = none ∨
        ∃ kinds only, m.kinds = some kinds ∧ c.only = some only ∧
          ∃ kind ∈ kinds, ∃ asked ∈ only, KindsComparable kind asked := by
  refine ⟨fun a b => kindsOverlap_iff, fun a b => ?_, fun a => ?_, fun a b => ?_, fun m c => ?_⟩
  · rw [kindsOverlap, Bool.or_eq_true, kindWithin_iff_bytes, kindWithin_iff_bytes, or_comm]
  · exact kindsOverlap_iff.mpr (.inl (List.prefix_refl _))
  · exact Bool.or_comm _ _
  · simp only [CodeActionMetadata.accepts_iff, kindsOverlap_iff]

/-- A kind that is a beginning of another one as a text only, segments without characters, and
characters of several bytes. -/
example : kindsOverlap "refactor" "refactorx" = false ∧ kindsOverlap "" ".a" = true ∧
    kindsOverlap "ü.é" "ü" = true := by decide +kernel

end ProviderHub
