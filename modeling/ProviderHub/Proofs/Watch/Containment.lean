import ProviderHub.Proofs.Text.Cutting
import ProviderHub.Watch.Engine

/-!
The order of watch patterns.

* `Url.pathWithin_iff`: a path lies within another one exactly if it goes on from it at a slash;
  hence `Url.isWithin_refl`, `Url.isWithin_trans` and `Url.isWithin_total_of_common`;
* `WatchPattern.covers_refl`, `WatchPattern.covers_trans`: covering is a preorder of patterns;
* `WatchPattern.covers_total_of_common`: the patterns that cover a given one form a chain;
* `WatchPattern.observes_of_covers`: a pattern observes whatever one that it covers observes;
* `WatchKind.Within`: one set of changes is part of another one.
-/

namespace ProviderHub

/-! ### Paths and URLs -/

namespace Url

/-- What may follow a path in one that lies within it: nothing, or a new segment. -/
def Continues (parent rest : List Char) : Prop :=
  rest = [] ∨ parent.getLast? = some '/' ∨ rest.head? = some '/'

lemma pathWithin_iff {child parent : List Char} :
    pathWithin child parent = true ↔ ∃ rest, child = parent ++ rest ∧ Continues parent rest := by
  constructor
  · intro h
    rw [pathWithin] at h
    split at h
    · cases h
    · rename_i hd
      exact ⟨[], Text.dropPrefix?_eq_some_iff.mp hd, .inl rfl⟩
    · rename_i c cs hd
      refine ⟨c :: cs, Text.dropPrefix?_eq_some_iff.mp hd, .inr ?_⟩
      simpa using h
  · rintro ⟨rest, hchild, hrest⟩
    have hd := Text.dropPrefix?_eq_some_iff.mpr hchild
    cases rest with
    | nil => simp [pathWithin, hd]
    | cons c cs =>
        rcases hrest with h | h | h
        · cases h
        · simp [pathWithin, hd, h]
        · simp [pathWithin, hd, Option.some.inj h]

lemma pathWithin_refl (path : List Char) : pathWithin path path = true :=
  pathWithin_iff.mpr ⟨[], by simp, .inl rfl⟩

/-- A path that goes on from one that goes on from a third goes on from the third: the first
character after the third is the same in both. -/
lemma pathWithin_trans {a b c : List Char} (hab : pathWithin a b = true)
    (hbc : pathWithin b c = true) : pathWithin a c = true := by
  obtain ⟨s, rfl, hs⟩ := pathWithin_iff.mp hab
  obtain ⟨t, rfl, ht⟩ := pathWithin_iff.mp hbc
  refine pathWithin_iff.mpr ⟨t ++ s, by simp, ?_⟩
  cases t with
  | nil =>
      rw [List.append_nil] at hs
      exact hs
  | cons x t =>
      rcases ht with h | h | h
      · cases h
      · exact .inr (.inl h)
      · exact .inr (.inr h)

/-- Two paths that a third one lies within are comparable: both are beginnings of it, and the longer
one goes on from the shorter one as the third one does. -/
lemma pathWithin_total_of_common {a b c : List Char} (hca : pathWithin c a = true)
    (hcb : pathWithin c b = true) : pathWithin a b = true ∨ pathWithin b a = true := by
  obtain ⟨s, hs, hsa⟩ := pathWithin_iff.mp hca
  obtain ⟨t, ht, htb⟩ := pathWithin_iff.mp hcb
  -- the rest after the shorter path starts with what the longer one has more
  have hmore : ∀ {p q mid rest : List Char}, q = p ++ mid → Continues p (mid ++ rest) →
      pathWithin q p = true := by
    intro p q mid rest hq hcontinues
    refine pathWithin_iff.mpr ⟨mid, hq, ?_⟩
    cases mid with
    | nil => exact .inl rfl
    | cons x mid =>
        rcases hcontinues with h | h | h
        · cases h
        · exact .inr (.inl h)
        · exact .inr (.inr h)
  rcases List.append_eq_append_iff.mp (hs.symm.trans ht) with ⟨mid, hb, rfl⟩ | ⟨mid, ha, rfl⟩
  · exact .inr (hmore hb hsa)
  · exact .inl (hmore ha htb)

lemma pathWithin_antisymm {a b : List Char} (hab : pathWithin a b = true)
    (hba : pathWithin b a = true) : a = b := by
  obtain ⟨s, hs, -⟩ := pathWithin_iff.mp hab
  obtain ⟨t, ht, -⟩ := pathWithin_iff.mp hba
  have hlength := congrArg List.length (hs.trans (congrArg (· ++ s) ht))
  simp only [List.length_append] at hlength
  have hnil : s = [] := List.length_eq_zero_iff.mp (by omega)
  rw [hs, hnil, List.append_nil]

lemma sameHost_iff {u v : Url} : u.sameHost v = true ↔ u.scheme = v.scheme ∧ u.host? = v.host? := by
  simp [sameHost]

lemma sameHost_trans {u v w : Url} (huv : u.sameHost v = true) (hvw : v.sameHost w = true) :
    u.sameHost w = true := by
  rw [sameHost_iff] at *
  exact ⟨huv.1.trans hvw.1, huv.2.trans hvw.2⟩

lemma isWithin_iff {u v : Url} :
    u.isWithin v = true ↔ u.sameHost v = true ∧ pathWithin u.path.toList v.path.toList = true := by
  simp [isWithin]

lemma isWithin_refl (u : Url) : u.isWithin u = true :=
  isWithin_iff.mpr ⟨sameHost_iff.mpr ⟨rfl, rfl⟩, pathWithin_refl _⟩

lemma isWithin_trans {u v w : Url} (huv : u.isWithin v = true) (hvw : v.isWithin w = true) :
    u.isWithin w = true := by
  rw [isWithin_iff] at *
  exact ⟨sameHost_trans huv.1 hvw.1, pathWithin_trans huv.2 hvw.2⟩

/-- Two URLs that a third one lies within are comparable. -/
lemma isWithin_total_of_common {u v w : Url} (hu : w.isWithin u = true) (hv : w.isWithin v = true) :
    u.isWithin v = true ∨ v.isWithin u = true := by
  obtain ⟨huhost, hupath⟩ := isWithin_iff.mp hu
  obtain ⟨hvhost, hvpath⟩ := isWithin_iff.mp hv
  rw [sameHost_iff] at huhost hvhost
  refine (pathWithin_total_of_common hupath hvpath).imp (fun hpath => ?_) fun hpath => ?_
  · exact isWithin_iff.mpr ⟨sameHost_iff.mpr ⟨huhost.1.symm.trans hvhost.1,
      huhost.2.symm.trans hvhost.2⟩, hpath⟩
  · exact isWithin_iff.mpr ⟨sameHost_iff.mpr ⟨hvhost.1.symm.trans huhost.1,
      hvhost.2.symm.trans huhost.2⟩, hpath⟩

/-- A path that starts with a slash lies within the path above it. -/
lemma pathWithin_parentPath {path : List Char} (h : path.head? = some '/') :
    pathWithin path (parentPath path) = true := by
  obtain ⟨slashes, hpath⟩ := Text.trimEnd_append '/' path
  rw [parentPath]
  split
  · -- nothing above: the path above is the topmost one
    obtain ⟨rest, rfl⟩ : ∃ rest, path = '/' :: rest := by
      cases path with
      | nil => cases h
      | cons c rest => exact ⟨rest, by rw [Option.some.inj h]⟩
    exact pathWithin_iff.mpr ⟨rest, rfl, .inr (.inl rfl)⟩
  · rename_i hne
    obtain ⟨last, hlast⟩ := Text.eq_append_of_drop_dropWhile hne rfl
    refine pathWithin_iff.mpr ⟨'/' :: last ++ slashes, ?_, .inr (.inr rfl)⟩
    rw [← List.append_assoc, ← hlast]
    exact hpath

end Url

/-! ### Patterns -/

namespace WatchPattern

lemma covers_of_recursive {p q : WatchPattern} (hp : p.recursive = true) :
    p.covers q = q.base.isWithin p.base := by
  simp [covers, hp]

lemma covers_of_shallow {p q : WatchPattern} (hp : p.recursive = false) :
    p.covers q = true ↔ q.recursive = false ∧ q.base = p.base := by
  simp [covers, hp]

lemma covers_refl (p : WatchPattern) : p.covers p = true := by
  cases hp : p.recursive with
  | true =>
      rw [covers_of_recursive hp]
      exact Url.isWithin_refl _
  | false => exact (covers_of_shallow hp).mpr ⟨hp, rfl⟩

/-- The base of a covered pattern lies within the base of the one that covers it. -/
lemma isWithin_of_covers {p q : WatchPattern} (h : p.covers q = true) :
    q.base.isWithin p.base = true := by
  cases hp : p.recursive with
  | true => rwa [covers_of_recursive hp] at h
  | false =>
      rw [((covers_of_shallow hp).mp h).2]
      exact Url.isWithin_refl _

lemma covers_trans {p q r : WatchPattern} (hpq : p.covers q = true) (hqr : q.covers r = true) :
    p.covers r = true := by
  cases hp : p.recursive with
  | true =>
      rw [covers_of_recursive hp]
      exact Url.isWithin_trans (isWithin_of_covers hqr) (isWithin_of_covers hpq)
  | false =>
      obtain ⟨hq, hbase⟩ := (covers_of_shallow hp).mp hpq
      obtain ⟨hr, hbase'⟩ := (covers_of_shallow hq).mp hqr
      exact (covers_of_shallow hp).mpr ⟨hr, hbase'.trans hbase⟩

/-- Of two patterns that cover a third one, one covers the other: a recursive one covers all whose
bases lie within its own, and a shallow one only covers itself. -/
lemma covers_total_of_common {p q r : WatchPattern} (hp : p.covers r = true)
    (hq : q.covers r = true) : p.covers q = true ∨ q.covers p = true := by
  have hpwithin := isWithin_of_covers hp
  have hqwithin := isWithin_of_covers hq
  cases hprec : p.recursive with
  | true =>
      cases hqrec : q.recursive with
      | true =>
          rw [covers_of_recursive hprec, covers_of_recursive hqrec]
          exact Url.isWithin_total_of_common hqwithin hpwithin
      | false =>
          refine .inl ?_
          rwa [covers_of_recursive hprec, ← ((covers_of_shallow hqrec).mp hq).2]
  | false =>
      obtain ⟨-, hbase⟩ := (covers_of_shallow hprec).mp hp
      refine .inr ?_
      cases hqrec : q.recursive with
      | true => rwa [covers_of_recursive hqrec, ← hbase]
      | false =>
          have hsame := ((covers_of_shallow hqrec).mp hq).2
          exact (covers_of_shallow hqrec).mpr ⟨hprec, hbase.symm.trans hsame⟩

/-- A file that a pattern observes lies within its base. -/
lemma isWithin_of_observes {p : WatchPattern} {uri : Url} (huri : uri.path.toList.head? = some '/')
    (h : p.observes uri = true) : uri.isWithin p.base = true := by
  cases hp : p.recursive with
  | true => simpa [observes, hp] using h
  | false =>
      simp only [observes, hp, Bool.false_eq_true, if_false, Bool.and_eq_true, Bool.or_eq_true,
        beq_iff_eq] at h
      obtain ⟨hhost, hpath | hparent⟩ := h
      · rw [Url.isWithin_iff, hpath]
        exact ⟨hhost, Url.pathWithin_refl _⟩
      · rw [Url.isWithin_iff, ← hparent]
        exact ⟨hhost, Url.pathWithin_parentPath huri⟩

/-- A pattern observes all files that one that it covers observes. Only files whose paths start
with a slash have a path above them. -/
lemma observes_of_covers {p q : WatchPattern} {uri : Url} (hpq : p.covers q = true)
    (huri : uri.path.toList.head? = some '/') (h : q.observes uri = true) :
    p.observes uri = true := by
  cases hp : p.recursive with
  | true =>
      have hwithin := Url.isWithin_trans (isWithin_of_observes huri h) (isWithin_of_covers hpq)
      simpa [observes, hp] using hwithin
  | false =>
      obtain ⟨hq, hbase⟩ := (covers_of_shallow hp).mp hpq
      have heq : q = p := by
        cases p
        cases q
        simp_all
      rwa [heq] at h

end WatchPattern

/-! ### Sets of changes -/

namespace WatchKind

/-- Whether every bit of a set is in another one. -/
def Within (k l : WatchKind) : Prop := k.bits &&& l.bits = k.bits

instance (k l : WatchKind) : Decidable (k.Within l) := inferInstanceAs (Decidable (_ = _))

lemma within_refl (k : WatchKind) : k.Within k := UInt8.and_self

lemma Within.trans {k l m : WatchKind} (hkl : k.Within l) (hlm : l.Within m) : k.Within m := by
  rw [Within] at *
  rw [← hkl, UInt8.and_assoc, hlm]

lemma union_right_comm (k l m : WatchKind) : (k.union l).union m = (k.union m).union l := by
  simp only [union]
  rw [UInt8.or_assoc, UInt8.or_comm l.bits, UInt8.or_assoc]

lemma within_union_left (k l : WatchKind) : k.Within (k.union l) := by
  apply UInt8.toBitVec_inj.mp
  ext i hi
  simp only [union, UInt8.toBitVec_and, UInt8.toBitVec_or, BitVec.getElem_and, BitVec.getElem_or]
  cases k.bits.toBitVec[i] <;> simp

lemma within_union_right (k l : WatchKind) : l.Within (k.union l) := by
  rw [show k.union l = l.union k from congrArg mk (UInt8.or_comm _ _)]
  exact within_union_left l k

lemma Within.antisymm {k l : WatchKind} (hkl : k.Within l) (hlk : l.Within k) : k = l := by
  rw [Within] at *
  rw [UInt8.and_comm] at hlk
  exact congrArg mk (hkl.symm.trans hlk)

lemma Within.union {k l m : WatchKind} (hk : k.Within m) (hl : l.Within m) :
    (k.union l).Within m := by
  apply UInt8.toBitVec_inj.mp
  ext i hi
  have hki := congrArg (fun b : UInt8 => b.toBitVec[i]) hk
  have hli := congrArg (fun b : UInt8 => b.toBitVec[i]) hl
  simp only [WatchKind.union, UInt8.toBitVec_and, UInt8.toBitVec_or, BitVec.getElem_and,
    BitVec.getElem_or] at hki hli ⊢
  rw [Bool.and_or_distrib_right, hki, hli]

lemma zero_within (k : WatchKind) : (⟨0⟩ : WatchKind).Within k := UInt8.zero_and

section Unions

variable {α : Type} (kindOf : α → WatchKind) (items : List α)

/-- A union has what it starts from. -/
lemma within_foldl_union (kind : WatchKind) :
    kind.Within (items.foldl (fun k x => k.union (kindOf x)) kind) := by
  induction items generalizing kind with
  | nil => exact within_refl _
  | cons x items ih => exact (within_union_left kind (kindOf x)).trans (ih _)

variable {items}

/-- A union has what each of its parts has. -/
lemma kind_within_foldl_union {x : α} (hx : x ∈ items) (kind : WatchKind) :
    (kindOf x).Within (items.foldl (fun k x => k.union (kindOf x)) kind) := by
  induction items generalizing kind with
  | nil => cases hx
  | cons y items ih =>
      rcases List.mem_cons.mp hx with rfl | hmem
      · exact (within_union_right kind (kindOf x)).trans (within_foldl_union kindOf items _)
      · exact ih hmem _

variable {kindOf}

/-- A union has nothing that none of its parts has. -/
lemma foldl_union_within {kind bound : WatchKind} (hkind : kind.Within bound)
    (hitems : ∀ x ∈ items, (kindOf x).Within bound) :
    (items.foldl (fun k x => k.union (kindOf x)) kind).Within bound := by
  induction items generalizing kind with
  | nil => exact hkind
  | cons x items ih =>
      have hx := hkind.union (hitems x (List.mem_cons_self ..))
      exact ih hx fun y hy => hitems y (List.mem_cons_of_mem _ hy)

end Unions

lemma Within.accepts {k l : WatchKind} {change : FileChange} (hkl : k.Within l)
    (h : k.accepts change = true) : l.accepts change = true := by
  simp only [WatchKind.accepts, bne_iff_ne, ne_eq] at *
  intro hl
  apply h
  rw [← hkl, UInt8.and_assoc, hl, UInt8.and_zero]

end WatchKind

end ProviderHub
