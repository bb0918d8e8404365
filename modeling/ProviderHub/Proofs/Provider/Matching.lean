import Mathlib.Tactic
import ProviderHub.Proofs.Resolution.Numbers

/-!
Providers that match a document.

* `Selector.isGreatest_score`: a selector scores as its best filter does;
* `Enrollment`, `Registry.ofHistory`: providers come and go;
* `Registry.mem_entries_ofHistory`: who is registered after a history, and under which number;
* `Registry.Serves`, `Registry.mem_matching_iff`: who matches a document;
* `Registry.IsBestFor`, `Registry.best?_matching_eq_some_iff`: who matches it best.
-/

namespace ProviderHub

/-! ### Scores -/

namespace MatchScore

lemma number_injective : Function.Injective number := by
  intro a b h
  cases a <;> cases b <;> first | rfl | cases h

lemma number_le (a : MatchScore) : a.number ≤ exact.number := by
  cases a <;> decide

lemma number_pos_iff {a : MatchScore} : 0 < a.number ↔ a ≠ none := by
  cases a <;> decide

lemma number_best (a b : MatchScore) : (a.best b).number = max a.number b.number := by
  rw [best]
  split
  · rename_i hlt
    exact (max_eq_right hlt.le).symm
  · rename_i hle
    exact (max_eq_left (not_lt.mp hle)).symm

end MatchScore

namespace Selector

variable {scheme languageId : String}

/-- No filter is missed when the search ends at an exact match. -/
lemma isGreatest_bestFrom (best : MatchScore) (filters : List DocumentFilter) :
    IsGreatest (insert best.number {n | ∃ f ∈ filters, (f.score scheme languageId).number = n})
      (bestFrom scheme languageId best filters).number := by
  induction filters generalizing best with
  | nil => exact ⟨.inl rfl, by rintro n (rfl | ⟨f, hf, -⟩) <;> [exact le_refl _; cases hf]⟩
  | cons f rest ih =>
      rw [bestFrom]
      have hnumber := best.number_best (f.score scheme languageId)
      have hstep : best.number ≤ (best.best (f.score scheme languageId)).number ∧
          (f.score scheme languageId).number ≤ (best.best (f.score scheme languageId)).number := by
        rw [hnumber]
        exact ⟨le_max_left _ _, le_max_right _ _⟩
      have hmem : (best.best (f.score scheme languageId)).number ∈
          insert best.number {n | ∃ g ∈ f :: rest, (g.score scheme languageId).number = n} := by
        rw [hnumber]
        rcases max_choice best.number (f.score scheme languageId).number with heq | heq <;> rw [heq]
        · exact .inl rfl
        · exact .inr ⟨f, List.mem_cons_self .., rfl⟩
      split
      · rename_i hexact
        refine ⟨hmem, ?_⟩
        rintro n (rfl | ⟨g, -, rfl⟩)
        · exact hstep.1
        · rw [hexact]
          exact MatchScore.number_le _
      · obtain ⟨hin, hle⟩ := ih (best.best (f.score scheme languageId))
        constructor
        · rcases hin with heq | ⟨g, hg, heq⟩
          · rwa [heq]
          · exact .inr ⟨g, List.mem_cons_of_mem _ hg, heq⟩
        · rintro n (rfl | ⟨g, hg, rfl⟩)
          · exact hstep.1.trans (hle (.inl rfl))
          · rcases List.mem_cons.mp hg with rfl | hg
            · exact hstep.2.trans (hle (.inl rfl))
            · exact hle (.inr ⟨g, hg, rfl⟩)

/-- **A selector scores as its best filter does**, and zero without filters. -/
lemma isGreatest_score (s : Selector) (d : TextDocument) :
    IsGreatest (insert 0 {n | ∃ f ∈ s.filters, (f.score d.uri.scheme d.languageId).number = n})
      (s.score d).number :=
  isGreatest_bestFrom .none s.filters

/-- Order and repetition of filters do not matter. -/
lemma score_congr {a b : Selector} (h : ∀ f, f ∈ a.filters ↔ f ∈ b.filters) (d : TextDocument) :
    a.score d = b.score d := by
  have ha := a.isGreatest_score d
  simp only [h] at ha
  exact MatchScore.number_injective (ha.unique (b.isGreatest_score d))

end Selector

/-! ### Providers over time -/

/-- What may be done to the providers of a feature. -/
inductive Enrollment (π μ : Type) where
  | register (selector : Selector) (provider : π) (metadata : μ)
  | unregister (id : ProviderId)

/-- Whether a provider comes. -/
def Enrollment.isRegister {π μ : Type} : Enrollment π μ → Bool
  | .register _ _ _ => true
  | .unregister _ => false

namespace Registry

variable {π μ : Type} {r : Registry π μ} {d : TextDocument} {accept : μ → Bool} {e : Entry π μ}

/-- The providers after an enrollment. -/
def enrolled (r : Registry π μ) : Enrollment π μ → Registry π μ
  | .register selector provider metadata => (r.register selector provider metadata).2
  | .unregister id => (r.unregister id).2

/-- The providers after a history of enrollments. -/
def ofHistory (history : List (Enrollment π μ)) : Registry π μ := history.foldl enrolled {}

lemma ofHistory_append (history : List (Enrollment π μ)) (step : Enrollment π μ) :
    ofHistory (history ++ [step]) = (ofHistory history).enrolled step := by
  rw [ofHistory, List.foldl_append]
  rfl

lemma Ordered.enrolled (h : r.Ordered) (step : Enrollment π μ) : (r.enrolled step).Ordered := by
  cases step with
  | register selector provider metadata => exact h.register selector provider metadata
  | unregister id => exact h.unregister id

lemma ordered_ofHistory (history : List (Enrollment π μ)) : (ofHistory history).Ordered := by
  induction history using List.reverseRecOn with
  | nil => exact ordered_empty
  | append_singleton history step ih =>
      rw [ofHistory_append]
      exact ih.enrolled step

lemma nextId_ofHistory (history : List (Enrollment π μ)) :
    (ofHistory history).nextId = history.countP (·.isRegister) + 1 := by
  induction history using List.reverseRecOn with
  | nil => rfl
  | append_singleton history step ih =>
      rw [ofHistory_append, List.countP_append]
      cases step with
      | register => exact congrArg Nat.succ ih
      | unregister => exact ih

/-- A provider has been registered in a history, under the number that was next then, and it has not
been removed since. -/
def Registers (history : List (Enrollment π μ)) (e : Entry π μ) : Prop :=
  ∃ earlier later, history = earlier ++ .register e.selector e.provider e.metadata :: later ∧
    e.id = earlier.countP (·.isRegister) + 1 ∧ .unregister e.id ∉ later

lemma registers_append_register {history : List (Enrollment π μ)} {selector : Selector}
    {provider : π} {metadata : μ} :
    Registers (history ++ [.register selector provider metadata]) e ↔
      Registers history e ∨
        e = ⟨history.countP (·.isRegister) + 1, selector, provider, metadata⟩ := by
  constructor
  · rintro ⟨earlier, later, heq, hid, hkept⟩
    rcases List.eq_nil_or_concat later with rfl | ⟨later, last, rfl⟩
    · obtain ⟨rfl, hlast⟩ := List.append_inj' heq rfl
      cases hlast
      exact .inr (by rw [← hid])
    · rw [List.concat_eq_append, ← List.cons_append, ← List.append_assoc] at heq
      obtain ⟨rfl, -⟩ := List.append_inj' heq rfl
      refine .inl ⟨earlier, later, rfl, hid, fun hmem => hkept ?_⟩
      exact List.concat_eq_append ▸ List.mem_append_left _ hmem
  · rintro (⟨earlier, later, rfl, hid, hkept⟩ | rfl)
    · refine ⟨earlier, later ++ [.register selector provider metadata], ?_, hid, fun hmem => ?_⟩
      · rw [List.append_assoc, List.cons_append]
      · rcases List.mem_append.mp hmem with hold | hnew
        · exact hkept hold
        · cases List.mem_singleton.mp hnew
    · exact ⟨history, [], rfl, rfl, List.not_mem_nil⟩

lemma registers_append_unregister {history : List (Enrollment π μ)} {id : ProviderId} :
    Registers (history ++ [.unregister id]) e ↔ Registers history e ∧ e.id ≠ id := by
  constructor
  · rintro ⟨earlier, later, heq, hid, hkept⟩
    rcases List.eq_nil_or_concat later with rfl | ⟨later, last, rfl⟩
    · obtain ⟨-, hlast⟩ := List.append_inj' heq rfl
      cases hlast
    · rw [List.concat_eq_append] at heq hkept
      rw [← List.cons_append, ← List.append_assoc] at heq
      obtain ⟨rfl, hlast⟩ := List.append_inj' heq rfl
      cases hlast
      refine ⟨⟨earlier, later, rfl, hid, fun hmem => hkept (List.mem_append_left _ hmem)⟩, ?_⟩
      rintro rfl
      exact hkept (List.mem_append_right _ (List.mem_singleton_self _))
  · rintro ⟨⟨earlier, later, rfl, hid, hkept⟩, hne⟩
    refine ⟨earlier, later ++ [.unregister id], ?_, hid, fun hmem => ?_⟩
    · rw [List.append_assoc, List.cons_append]
    · rcases List.mem_append.mp hmem with hold | hnew
      · exact hkept hold
      · cases List.mem_singleton.mp hnew
        exact hne rfl

/-- **Who is registered** after a history. -/
lemma mem_entries_ofHistory {history : List (Enrollment π μ)} :
    e ∈ (ofHistory history).entries ↔ Registers history e := by
  induction history using List.reverseRecOn with
  | nil =>
      refine iff_of_false List.not_mem_nil ?_
      rintro ⟨earlier, later, heq, -⟩
      exact List.append_ne_nil_of_right_ne_nil earlier (List.cons_ne_nil _ later) heq.symm
  | append_singleton history step ih =>
      rw [ofHistory_append]
      cases step with
      | register selector provider metadata =>
          rw [registers_append_register, ← ih, ← nextId_ofHistory]
          exact List.mem_append.trans (or_congr_right List.mem_singleton)
      | unregister id =>
          rw [registers_append_unregister, ← ih]
          exact List.mem_filter.trans (and_congr_right fun _ => bne_iff_ne)

/-! ### Providers for a document -/

/-- A registered provider that a request reaches, and that matches a document. -/
structure Serves (r : Registry π μ) (d : TextDocument) (accept : μ → Bool) (e : Entry π μ) :
    Prop where
  mem : e ∈ r.entries
  accepted : accept e.metadata = true
  score_pos : 0 < (e.selector.score d).number

/-- How well a provider matches a document. -/
def scored (d : TextDocument) (e : Entry π μ) : ScoredEntry π μ := ⟨e.selector.score d, e⟩

lemma mem_matching_iff {found : ScoredEntry π μ} :
    found ∈ r.matching d accept ↔ r.Serves d accept found.entry ∧ found = scored d found.entry := by
  rw [matching, List.mem_filterMap]
  constructor
  · rintro ⟨e, he, hsome⟩
    obtain ⟨hmem, haccepted⟩ := List.mem_filter.mp he
    dsimp only at hsome
    split at hsome
    · cases hsome
    · rename_i hscore
      cases hsome
      exact ⟨⟨hmem, haccepted, MatchScore.number_pos_iff.mpr hscore⟩, rfl⟩
  · rintro ⟨⟨hmem, haccepted, hscore⟩, heq⟩
    refine ⟨found.entry, List.mem_filter.mpr ⟨hmem, haccepted⟩, ?_⟩
    rw [if_neg (MatchScore.number_pos_iff.mp hscore)]
    exact congrArg some heq.symm

/-- Providers match in the order of their numbers. -/
lemma Ordered.matching_sorted (h : r.Ordered) (d : TextDocument) (accept : μ → Bool) :
    (r.matching d accept).Pairwise (·.entry.id < ·.entry.id) := by
  rw [matching, List.pairwise_filterMap]
  refine (h.sorted.sublist List.filter_sublist).imp fun {a b} hlt found hfound other hother => ?_
  have hentry {e : Entry π μ} {found : ScoredEntry π μ}
      (hfound : (if e.selector.score d = .none then none else
        some (ScoredEntry.mk (e.selector.score d) e)) = some found) : found.entry = e := by
    split at hfound
    · cases hfound
    · cases hfound
      rfl
  rw [hentry hfound, hentry hother]
  exact hlt

/-- A match is not worse than another one. -/
def Outranks (a b : ScoredEntry π μ) : Prop :=
  b.score.number < a.score.number ∨ (b.score.number = a.score.number ∧ a.entry.id ≤ b.entry.id)

lemma Outranks.refl (a : ScoredEntry π μ) : Outranks a a := .inr ⟨rfl, le_refl _⟩

lemma Outranks.trans {a b c : ScoredEntry π μ} (h : Outranks a b) (h' : Outranks b c) :
    Outranks a c := by
  rcases h with hlt | ⟨heq, hle⟩
  · rcases h' with hlt' | ⟨heq', -⟩
    · exact .inl (hlt'.trans hlt)
    · exact .inl (heq'.trans_lt hlt)
  · rcases h' with hlt' | ⟨heq', hle'⟩
    · exact .inl (hlt'.trans_eq heq)
    · exact .inr ⟨heq'.trans heq, le_trans hle hle'⟩

lemma better_outranks (a b : ScoredEntry π μ) :
    Outranks (better a b) a ∧ Outranks (better a b) b := by
  rw [better]
  split
  · rename_i hbetter
    exact ⟨hbetter.imp_right (And.imp_right le_of_lt), .refl b⟩
  · rename_i hworse
    push Not at hworse
    exact ⟨.refl a, hworse.1.lt_or_eq.imp_right fun heq => ⟨heq, hworse.2 heq.symm⟩⟩

lemma best?_outranks {found : List (ScoredEntry π μ)} {best : ScoredEntry π μ}
    (h : best? found = some best) : ∀ m ∈ found, Outranks best m := by
  cases found with
  | nil => cases h
  | cons first rest =>
      cases h
      induction rest generalizing first with
      | nil =>
          intro m hm
          rw [List.mem_singleton.mp hm]
          exact .refl first
      | cons second rest ih =>
          have hbest := ih (better first second)
          have hbetter := hbest _ (List.mem_cons_self ..)
          intro m hm
          rcases List.mem_cons.mp hm with rfl | hm
          · exact hbetter.trans (better_outranks m second).1
          · rcases List.mem_cons.mp hm with rfl | hm
            · exact hbetter.trans (better_outranks first m).2
            · exact hbest m (List.mem_cons_of_mem _ hm)

lemma best?_eq_none_iff {found : List (ScoredEntry π μ)} : best? found = none ↔ found = [] := by
  cases found <;> simp [best?]

/-- **Who matches a document best**: the provider with the greatest score, and the earliest of
those. -/
structure IsBestFor (r : Registry π μ) (d : TextDocument) (accept : μ → Bool) (e : Entry π μ) :
    Prop where
  serves : r.Serves d accept e
  outranks : ∀ other, r.Serves d accept other →
    (other.selector.score d).number < (e.selector.score d).number ∨
      ((other.selector.score d).number = (e.selector.score d).number ∧ e.id ≤ other.id)

lemma IsBestFor.unique (hr : r.Ordered) {other : Entry π μ} (h : r.IsBestFor d accept e)
    (hother : r.IsBestFor d accept other) : e = other := by
  have hid : e.id = other.id := by
    rcases h.outranks other hother.serves with hlt | ⟨heq, hle⟩
    · rcases hother.outranks e h.serves with hlt' | ⟨heq', -⟩
      · exact absurd hlt hlt'.not_gt
      · exact absurd heq' hlt.ne'
    · rcases hother.outranks e h.serves with hlt' | ⟨-, hge⟩
      · exact absurd heq hlt'.ne'
      · exact le_antisymm hle hge
  have hget := hr.get?_eq h.serves.mem
  rw [hid, hr.get?_eq hother.serves.mem] at hget
  exact (Option.some_inj.mp hget).symm

lemma best?_matching_eq_none_iff :
    best? (r.matching d accept) = none ↔ ∀ e, ¬ r.Serves d accept e := by
  rw [best?_eq_none_iff, List.eq_nil_iff_forall_not_mem]
  constructor
  · exact fun hnone e he => hnone (scored d e) (mem_matching_iff.mpr ⟨he, rfl⟩)
  · exact fun hnone found hfound => hnone found.entry (mem_matching_iff.mp hfound).1

lemma isBestFor_of_best? {best : ScoredEntry π μ}
    (h : best? (r.matching d accept) = some best) : r.IsBestFor d accept best.entry := by
  obtain ⟨hserves, hscore⟩ := mem_matching_iff.mp (mem_of_best? h)
  refine ⟨hserves, fun other hother => ?_⟩
  have hbest := best?_outranks h (scored d other) (mem_matching_iff.mpr ⟨hother, rfl⟩)
  rw [hscore] at hbest
  exact hbest

/-- **The best match is found** among the providers of a registry. -/
lemma best?_matching_eq_some_iff (hr : r.Ordered) :
    (best? (r.matching d accept)).map (·.entry) = some e ↔ r.IsBestFor d accept e := by
  rw [Option.map_eq_some_iff]
  constructor
  · rintro ⟨best, hbest, rfl⟩
    exact isBestFor_of_best? hbest
  · intro h
    cases hbest : best? (r.matching d accept) with
    | none => exact absurd h.serves (best?_matching_eq_none_iff.mp hbest e)
    | some best => exact ⟨best, rfl, (isBestFor_of_best? hbest).unique hr h⟩

end Registry

end ProviderHub
