import Mathlib.Tactic
import ProviderHub.Proofs.Provider.Matching
import ProviderHub.Provider.Inquiry

/-!
Questions on their way to several providers.

The providers of a question are those that match when it is put. They answer in any order, while
others come and go.

* `Inquiry.results_answers`, `Inquiry.isDone_answers`: what becomes of an inquiry by its answers;
* `Errand`, `Errand.run`: a question on its way while providers come and go;
* `Errand.results_run`: its results are those of the providers that matched at first.
-/

namespace ProviderHub

/-! ### Answers -/

namespace Inquiry

variable {π : Type} {i : Inquiry π}

/-- An inquiry after some answers. -/
def answers (i : Inquiry π) (given : List (CallId × Option Reply)) : Inquiry π :=
  given.foldl (fun i g => i.answer g.1 g.2) i

/-- Each call has its first answer. -/
lemma calls_answers (i : Inquiry π) (given : List (CallId × Option Reply)) :
    (i.answers given).calls =
      i.calls.map fun c => { c with answer := c.answer.or (given.lookup c.id) } := by
  induction given generalizing i with
  | nil =>
      have hself (c : Call π) : { c with answer := c.answer.or none } = c := by
        rw [Option.or_none]
      simp only [answers, List.foldl_nil, List.lookup_nil, hself, List.map_id']
  | cons g given ih =>
      obtain ⟨call, reply⟩ := g
      show ((i.answer call reply).answers given).calls = _
      rw [ih, answer, List.map_map]
      refine List.map_congr_left fun c _ => ?_
      rw [Function.comp_apply, List.lookup_cons]
      by_cases hcall : c.id = call
      · cases hanswer : c.answer with
        | none => simp [hcall]
        | some first => simp [hcall, hanswer]
      · have hne : (c.id == call) = false := beq_eq_false_iff_ne.mpr hcall
        simp [hcall, hne]

variable {atOnce : π → Question → Option (Option Reply)} {first : CallId} {question : Question}
  {asked : List (Asked π)} {given : List (CallId × Option Reply)}

/-- **What becomes of an inquiry**: its results are the replies of those that were asked, in the
order in which they were asked, each from its first answer. -/
lemma results_answers :
    ((start atOnce first question asked).answers given).results =
      asked.zipIdx.filterMap fun a =>
        ((atOnce a.1.handle question).or (given.lookup (first + a.2))).join.map
          (a.1.provider, ·) := by
  rw [results, calls_answers, start, List.map_map, List.filterMap_map]
  rfl

/-- It is done when all have answered. -/
lemma isDone_answers :
    ((start atOnce first question asked).answers given).isDone = true ↔
      ∀ a ∈ asked.zipIdx,
        ((atOnce a.1.handle question).or (given.lookup (first + a.2))).isSome = true := by
  rw [isDone, calls_answers, start, List.map_map, List.all_map, List.all_eq_true]
  rfl

end Inquiry

/-! ### Errands -/

/-- What can happen while a question is on its way. -/
inductive ErrandEvent (π μ : Type) where
  /-- One of those that were asked answers, or fails. -/
  | answers (id : ProviderId)
  /-- A provider comes or goes. -/
  | enrolls (step : Enrollment π μ)

/-- Who answers. -/
def ErrandEvent.answerer? {π μ : Type} : ErrandEvent π μ → Option ProviderId
  | .answers id => some id
  | .enrolls _ => none

/-- The providers of a feature, and a question that is on its way to some of them. -/
structure Errand (π μ : Type) where
  registry : Registry π μ
  inquiry : Inquiry π

namespace Errand

variable {π μ : Type}

/-- A question goes to all providers that match a document and that it reaches. -/
def start (r : Registry π μ) (d : TextDocument) (accept : μ → Bool) (first : CallId)
    (question : Question) : Errand π μ where
  registry := r
  inquiry := Inquiry.start (fun _ _ => none) first question
    ((r.matching d accept).map fun m => ⟨m.entry.id, m.entry.provider⟩)

/-- What comes of an event, by what each provider has to say, which is nothing if it fails. -/
def step (reply : ProviderId → Option Reply) (e : Errand π μ) : ErrandEvent π μ → Errand π μ
  | .answers id =>
    match e.inquiry.calls.find? (·.asked.provider == id) with
    | some c => { e with inquiry := e.inquiry.answer c.id (reply id) }
    | none => e
  | .enrolls step => { e with registry := e.registry.enrolled step }

/-- What comes of some events. -/
def run (reply : ProviderId → Option Reply) (e : Errand π μ) (events : List (ErrandEvent π μ)) :
    Errand π μ :=
  events.foldl (step reply) e

variable {r : Registry π μ} {d : TextDocument} {accept : μ → Bool} {first : CallId}
  {question : Question} {reply : ProviderId → Option Reply} {events : List (ErrandEvent π μ)}

/-- The call of a match at its place, when some have answered. -/
def callOf (first : CallId) (reply : ProviderId → Option Reply) (answered : List ProviderId)
    (m : ScoredEntry π μ × ℕ) : Call π :=
  ⟨first + m.2, ⟨m.1.entry.id, m.1.entry.provider⟩,
    if m.1.entry.id ∈ answered then some (reply m.1.entry.id) else none⟩

/-- The calls of a question, when some have answered. -/
def callsAfter (r : Registry π μ) (d : TextDocument) (accept : μ → Bool) (first : CallId)
    (reply : ProviderId → Option Reply) (answered : List ProviderId) : List (Call π) :=
  (r.matching d accept).zipIdx.map (callOf first reply answered)

lemma calls_start : (start r d accept first question).inquiry.calls =
    callsAfter r d accept first reply [] := by
  rw [start, Inquiry.start, List.zipIdx_map, List.map_map, callsAfter]
  refine List.map_congr_left fun m _ => ?_
  rw [callOf, if_neg List.not_mem_nil]
  rfl

/-- Each provider has one place among those that were asked. -/
lemma place_eq_iff (hr : r.Ordered) {m m' : ScoredEntry π μ × ℕ}
    (hm : m ∈ (r.matching d accept).zipIdx) (hm' : m' ∈ (r.matching d accept).zipIdx) :
    m.2 = m'.2 ↔ m.1.entry.id = m'.1.entry.id := by
  have hnodup : ((r.matching d accept).map (·.entry.id)).Nodup :=
    (List.pairwise_map.mpr ((hr.matching_sorted d accept).imp ne_of_lt) :)
  have hget {m : ScoredEntry π μ × ℕ} (hm : m ∈ (r.matching d accept).zipIdx) :
      ((r.matching d accept).map (·.entry.id))[m.2]? = some m.1.entry.id := by
    rw [List.getElem?_map, List.mem_zipIdx_iff_getElem?.mp hm]
    rfl
  constructor
  · intro heq
    exact Option.some_inj.mp ((hget hm).symm.trans (heq ▸ hget hm'))
  · intro heq
    have hlt := (List.getElem?_eq_some_iff.mp (hget hm)).1
    exact (List.getElem?_inj hlt hnodup).mp ((hget hm).trans (heq ▸ (hget hm').symm))

/-- An answer is noted at the call of its provider, which has one call only. -/
lemma calls_step (hr : r.Ordered) {e : Errand π μ} {answered : List ProviderId}
    (hcalls : e.inquiry.calls = callsAfter r d accept first reply answered)
    (event : ErrandEvent π μ) :
    (step reply e event).inquiry.calls =
      callsAfter r d accept first reply (answered ++ event.answerer?.toList) := by
  cases event with
  | enrolls step =>
      rw [ErrandEvent.answerer?, Option.toList_none, List.append_nil]
      exact hcalls
  | answers id =>
      rw [step, ErrandEvent.answerer?, Option.toList_some]
      cases hfind : e.inquiry.calls.find? (·.asked.provider == id) with
      | none =>
          refine hcalls.trans (List.map_congr_left fun m hm => ?_)
          have hmem : callOf first reply answered m ∈ e.inquiry.calls :=
            hcalls ▸ List.mem_map_of_mem hm
          have hne : m.1.entry.id ≠ id := fun heq =>
            List.find?_eq_none.mp hfind _ hmem (beq_iff_eq.mpr heq)
          simp [callOf, hne]
      | some c =>
          obtain ⟨n, hn, rfl⟩ := List.mem_map.mp (hcalls ▸ List.mem_of_find?_eq_some hfind)
          have hid : n.1.entry.id = id := beq_iff_eq.mp (List.find?_some hfind :)
          show (e.inquiry.answer _ _).calls = _
          rw [Inquiry.answer, hcalls, callsAfter, List.map_map]
          refine List.map_congr_left fun m hm => ?_
          have hplace : first + m.2 = first + n.2 ↔ m.1.entry.id = id :=
            Nat.add_left_cancel_iff.trans ((place_eq_iff hr hm hn).trans (by rw [hid]))
          simp only [Function.comp_apply, callOf, hplace, List.mem_append, List.mem_singleton]
          by_cases heq : m.1.entry.id = id
          · subst heq
            by_cases hanswered : m.1.entry.id ∈ answered <;> simp [hanswered]
          · simp [heq]

lemma calls_run (hr : r.Ordered) (events : List (ErrandEvent π μ)) :
    (run reply (start r d accept first question) events).inquiry.calls =
      callsAfter r d accept first reply (events.filterMap (·.answerer?)) := by
  induction events using List.reverseRecOn with
  | nil => exact calls_start
  | append_singleton events event ih =>
      rw [run, List.foldl_append, List.filterMap_append]
      refine (calls_step hr ih event).trans ?_
      cases event <;> rfl

/-- A question is answered when all have answered that it was put to. -/
lemma isDone_run (hr : r.Ordered) (events : List (ErrandEvent π μ)) :
    (run reply (start r d accept first question) events).inquiry.isDone = true ↔
      ∀ e, r.Serves d accept e → e.id ∈ events.filterMap (·.answerer?) := by
  rw [Inquiry.isDone, calls_run hr, callsAfter, List.all_map, List.all_eq_true]
  have hsome (m : ScoredEntry π μ × ℕ) (answered : List ProviderId) :
      (callOf first reply answered m).answer.isSome = true ↔ m.1.entry.id ∈ answered := by
    rw [callOf]
    split <;> simp_all
  constructor
  · intro hall e he
    obtain ⟨k, hk⟩ := List.mem_iff_getElem?.mp
      (Registry.mem_matching_iff.mpr ⟨he, rfl⟩ : Registry.scored d e ∈ r.matching d accept)
    exact (hsome _ _).mp (hall (_, k) (List.mem_zipIdx_iff_getElem?.mpr hk))
  · intro hall m hm
    have hmem := List.mem_of_getElem? (List.mem_zipIdx_iff_getElem?.mp hm)
    exact (hsome _ _).mpr (hall m.1.entry (Registry.mem_matching_iff.mp hmem).1)

/-- **The results of a question**: what those reply that matched when it was put, in their order. -/
lemma results_run (hr : r.Ordered) {events : List (ErrandEvent π μ)}
    (hdone : (run reply (start r d accept first question) events).inquiry.isDone = true) :
    (run reply (start r d accept first question) events).inquiry.results =
      (r.matching d accept).filterMap fun m => (reply m.entry.id).map (m.entry.id, ·) := by
  have hanswered := (isDone_run hr events).mp hdone
  rw [Inquiry.results, calls_run hr, callsAfter, List.filterMap_map]
  conv_rhs => rw [← List.zipIdx_map_fst 0 (r.matching d accept), List.filterMap_map]
  refine List.filterMap_congr fun m hm => ?_
  have hmem := List.mem_of_getElem? (List.mem_zipIdx_iff_getElem?.mp hm)
  rw [Function.comp_apply, callOf, if_pos (hanswered _ (Registry.mem_matching_iff.mp hmem).1)]
  rfl

end Errand

end ProviderHub
