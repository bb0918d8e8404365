import ProviderHub.Proofs.Text.Segments
import ProviderHub.Proofs.Watch.Containment

/-!
Containment of paths as a matter of segments.

Whether a path lies below another one is decided on the texts: one is a beginning of the other, and
what follows starts at a slash. For the paths that bases have this says that the segments of one
come first among those of the other, so names that only begin alike are kept apart.

* `Url.IsBasePath`: the paths that bases have, the topmost one and those without a slash at the end;
* `Url.isBasePath_watchBase`: the base of a watch has one;
* `Url.pathWithin_iff_segments`: a path lies within the path of a base exactly if the base is the
  topmost one or its segments come first;
* `Url.containment_by_segments`: so does a URL, containment is a preorder in which all that contains
  a URL is a chain, and a recursive pattern sees what a shallow one does.
-/

namespace ProviderHub

namespace Url

/-! ### The paths of bases -/

/-- **A path that a base can have**: the topmost one, or one that starts with a slash and does not
end with one. -/
def IsBasePath (path : List Char) : Prop :=
  path = ['/'] ∨ path.head? = some '/' ∧ path.getLast? ≠ some '/'

instance (path : List Char) : Decidable (IsBasePath path) :=
  inferInstanceAs (Decidable (_ ∨ _ ∧ _))

/-- Nothing is left to trim at the end of a trimmed text. -/
lemma getLast?_trimEnd_ne (c : Char) (cs : List Char) :
    (Text.trimEnd c cs).getLast? ≠ some c := by
  rw [Text.trimEnd, List.getLast?_reverse]
  intro h
  have hhead := List.head?_dropWhile_not (· = c) cs.reverse
  rw [h] at hhead
  simp at hhead

/-- **The base of a watch has the path of a base**, whatever slashes its URL has at the end. An
empty path after an authority is the topmost one. -/
lemma isBasePath_watchBase {u : Url} (hu : u.isOpaque = false)
    (hpath : u.path.toList = [] ∨ u.path.toList.head? = some '/') :
    IsBasePath u.watchBase.path.toList := by
  have hwatch : u.watchBase.path =
      if (Text.trimEnd '/' u.path.toList).isEmpty then "/"
      else String.ofList (Text.trimEnd '/' u.path.toList) := by
    rw [watchBase]
    simp only [hu, Bool.false_eq_true, if_false]
  rw [hwatch]
  split
  · exact .inl rfl
  · rename_i hempty
    have hleft : Text.trimEnd '/' u.path.toList ≠ [] := by simpa using hempty
    rw [String.toList_ofList]
    refine .inr ⟨?_, getLast?_trimEnd_ne _ _⟩
    rcases hpath with hnil | hhead
    · rw [hnil] at hleft
      exact absurd rfl hleft
    · -- what is left starts as the path does
      obtain ⟨slashes, hcut⟩ := Text.trimEnd_append '/' u.path.toList
      rw [hcut, List.head?_append_of_ne_nil _ hleft] at hhead
      exact hhead

/-! ### Segments -/

lemma segments_eq (u : Url) : u.segments = u.path.toList.splitOn '/' := Text.splitOn_eq _ _

/-- Every path lies within the topmost one. -/
lemma pathWithin_top {path : List Char} (h : path.head? = some '/') :
    pathWithin path ['/'] = true := by
  obtain ⟨rest, rfl⟩ := List.head?_eq_some_iff.mp h
  exact pathWithin_iff.mpr ⟨rest, rfl, .inr (.inl rfl)⟩

/-- A path lies within one without a slash at the end if it is the same or goes on with a slash. -/
lemma pathWithin_iff_concat {child parent : List Char} (h : parent.getLast? ≠ some '/') :
    pathWithin child parent = true ↔ parent = child ∨ parent ++ ['/'] <+: child := by
  rw [pathWithin_iff]
  constructor
  · rintro ⟨rest, rfl, rfl | hlast | hhead⟩
    · exact .inl (List.append_nil parent).symm
    · exact absurd hlast h
    · obtain ⟨more, rfl⟩ := List.head?_eq_some_iff.mp hhead
      exact .inr ⟨more, by rw [List.append_assoc, List.singleton_append]⟩
  · rintro (rfl | ⟨more, rfl⟩)
    · exact ⟨[], (List.append_nil parent).symm, .inl rfl⟩
    · exact ⟨'/' :: more, by rw [List.append_assoc, List.singleton_append], .inr (.inr rfl)⟩

/-- **A path lies within the path of a base** exactly if that is the topmost one or its segments
come first among those of the path. -/
lemma pathWithin_iff_segments {child parent : List Char} (hparent : IsBasePath parent)
    (hchild : child.head? = some '/') :
    pathWithin child parent = true ↔
      parent = ['/'] ∨ parent.splitOn '/' <+: child.splitOn '/' := by
  rcases hparent with rfl | ⟨hhead, hlast⟩
  · exact iff_of_true (pathWithin_top hchild) (.inl rfl)
  · have hne : parent ≠ ['/'] := by
      rintro rfl
      exact hlast rfl
    rw [pathWithin_iff_concat hlast, or_iff_right hne, Text.splitOn_prefix_iff]

/-! ### URLs and patterns -/

/-- A recursive pattern sees what a shallow one on its base does. -/
lemma observes_of_shallow {base uri : Url} (huri : uri.path.toList.head? = some '/')
    (h : (⟨base, false⟩ : WatchPattern).observes uri = true) :
    (⟨base, true⟩ : WatchPattern).observes uri = true := by
  have hwithin := WatchPattern.isWithin_of_observes huri h
  simpa [WatchPattern.observes] using hwithin

/-- **Containment goes by segments.** A URL whose path starts with a slash lies within a base
exactly if both have one scheme and one host and the path of the base is the topmost one or has the
first segments of the other path; and what watches are based on has the path of a base. Containment
is reflexive and transitive, any two URLs that a third one lies within are comparable, and a
recursive pattern sees all that a shallow one on its base sees, for files whose paths start with a
slash. -/
theorem containment_by_segments :
    (∀ child parent : Url, IsBasePath parent.path.toList → child.path.toList.head? = some '/' →
      (child.isWithin parent = true ↔
        child.scheme = parent.scheme ∧ child.host? = parent.host? ∧
          (parent.path = "/" ∨ parent.segments <+: child.segments))) ∧
    (∀ u : Url, u.isOpaque = false →
      u.path.toList = [] ∨ u.path.toList.head? = some '/' →
        IsBasePath u.watchBase.path.toList) ∧
    (∀ u : Url, u.isWithin u = true) ∧
    (∀ u v w : Url, u.isWithin v = true → v.isWithin w = true → u.isWithin w = true) ∧
    (∀ u v w : Url, w.isWithin u = true → w.isWithin v = true →
      u.isWithin v = true ∨ v.isWithin u = true) ∧
    ∀ base uri : Url, uri.path.toList.head? = some '/' →
      (⟨base, false⟩ : WatchPattern).observes uri = true →
        (⟨base, true⟩ : WatchPattern).observes uri = true := by
  refine ⟨fun child parent hparent hchild => ?_, fun u => isBasePath_watchBase, isWithin_refl,
    fun u v w => isWithin_trans, fun u v w => isWithin_total_of_common,
    fun base uri => observes_of_shallow⟩
  have htop : parent.path.toList = ['/'] ↔ parent.path = "/" :=
    ⟨fun h => String.toList_injective h, fun h => h ▸ rfl⟩
  rw [isWithin_iff, sameHost_iff, pathWithin_iff_segments hparent hchild, segments_eq, segments_eq,
    htop, and_assoc]

/-- A place on a host. -/
def hostUrl (path : String) : Url := { scheme := "mem", authority := some { host := "h" }, path }

/-- A directory below a base, one whose name only begins like it, slashes at the end of a base,
three directories inside each other, and a file in a directory. -/
theorem containment_by_segments_siblings :
    (hostUrl "/a/b").isWithin (hostUrl "/a") = true ∧
    (hostUrl "/ab").isWithin (hostUrl "/a") = false ∧
    IsBasePath (hostUrl "/a//").watchBase.path.toList ∧
    (hostUrl "/a/b/c").isWithin (hostUrl "/a") = true ∧
    ((hostUrl "/a").isWithin (hostUrl "/a/b") = true ∨
      (hostUrl "/a/b").isWithin (hostUrl "/a") = true) ∧
    (⟨hostUrl "/a", true⟩ : WatchPattern).observes (hostUrl "/a/b") = true := by
  obtain ⟨hsegments, hbase, -, htrans, htotal, hobserves⟩ := containment_by_segments
  have hbelow : (hostUrl "/a/b").isWithin (hostUrl "/a") = true :=
    (hsegments _ _ (by decide +kernel) (by decide +kernel)).mpr (by decide +kernel)
  have hdeep : (hostUrl "/a/b/c").isWithin (hostUrl "/a/b") = true :=
    (hsegments _ _ (by decide +kernel) (by decide +kernel)).mpr (by decide +kernel)
  refine ⟨hbelow, ?_, hbase _ (by decide +kernel) (by decide +kernel), ?_, ?_, ?_⟩
  · have hsibling :=
      hsegments (hostUrl "/ab") (hostUrl "/a") (by decide +kernel) (by decide +kernel)
    rw [Bool.eq_false_iff, ne_eq, hsibling]
    decide +kernel
  · exact htrans _ _ _ hdeep hbelow
  · exact htotal _ _ (hostUrl "/a/b/c") (htrans _ _ _ hdeep hbelow) hdeep
  · exact hobserves _ _ (by decide +kernel) (by decide +kernel)

end Url

end ProviderHub
