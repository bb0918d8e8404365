import Mathlib.Tactic
import ProviderHub.Proofs.Session.Bindings

/-!
What a step of a request comes to.

* `RequestTask.query?`: the query of a request;
* `Session.Pursues.outcome`: a request that goes on waits, ends in an error or ends with a result.
-/

namespace ProviderHub

/-- The query of a request, if it can be read. -/
def RequestTask.query? {π : Type} (t : RequestTask π) : Option Query :=
  match t.stage with
  | .fresh r => (Query.read r.method r.params).toOption
  | .gated query => some query
  | .asking query _ _ => some query

namespace Session

variable {π : Type}

/-- No batch is stored but by tasks. -/
lemma Plain.nextId_eq {s s' : Session π} (h : s.Plain s') (kind : ItemKind) :
    (kind.binder s'.language).cache.nextId = (kind.binder s.language).cache.nextId := by
  refine h.language_induction
    (P := fun l => (kind.binder l).cache.nextId = (kind.binder s.language).cache.nextId) rfl ?_
  exact fun l action hl => (l.nextId_after action kind).trans hl

/-! ### Steps of requests -/

section pursuit

variable {s s'' : Session π} {host : Host π} {t : RequestTask π} {query : Query}

lemma query?_of_unasked? (h : s.unasked? t = some query) : t.query? = some query := by
  rw [unasked?] at h
  rw [RequestTask.query?]
  cases hstage : t.stage with
  | fresh r =>
      rw [hstage] at h
      dsimp only at h
      split at h
      · cases h
      · exact h
  | gated query =>
      rw [hstage] at h
      exact h
  | asking query origin inquiry =>
      rw [hstage] at h
      cases h

lemma Consults.query?_eq {origin : Option Token} {inquiry : Inquiry π}
    (h : Consults host s t query origin inquiry s'') : t.query? = some query := by
  cases h with
  | before hstage => rw [RequestTask.query?, hstage]
  | now hunasked => exact query?_of_unasked? hunasked

lemma Consults.client_eq {origin : Option Token} {inquiry : Inquiry π}
    (h : Consults host s t query origin inquiry s'') : s''.client = s.client := by
  cases h <;> rfl

lemma Consults.tasks_eq {origin : Option Token} {inquiry : Inquiry π}
    (h : Consults host s t query origin inquiry s'') : s''.tasks = s.tasks := by
  cases h <;> rfl

/-- A request that goes on waits, or ends in an error, or ends with a result: one that is found at
once, or what all of its providers make up. -/
lemma Pursues.outcome (h : Pursues host s t s') (ht : t ∈ s.tasks) :
    ((∃ u ∈ s'.tasks, u.number = t.number) ∧ s'.client = s.client ∧ s'.language = s.language) ∨
    (∀ u ∈ s'.tasks, u.number ≠ t.number) ∧
      ((∃ e, s'.client = (s.client.send (encode (Response.failure (some t.id) e))).2 ∧
          s'.language = s.language) ∨
        ∃ v, s'.client = (s.client.send (encode (Response.success t.id v))).2 ∧
          ((∃ query, t.query? = some query ∧ s.language.start query = .done (.ok v)) ∨
            ∃ query origin inquiry s'', t.query? = some query ∧
              Consults host s t query origin inquiry s'' ∧ inquiry.isDone = true ∧
              s'.asked = s''.asked ∧
              s'.language = (s.language.finish query origin inquiry.results).2)) := by
  cases h with
  | refused e => exact .inr ⟨not_mem_endTask _ _ _, .inl ⟨e, rfl, rfl⟩⟩
  | replied hunasked hstart =>
      exact .inr ⟨not_mem_endTask _ _ _, .inr ⟨_, rfl,
        .inl ⟨_, query?_of_unasked? hunasked, hstart⟩⟩⟩
  | gated =>
      obtain ⟨u, hu, hnumber, -⟩ := exists_updateTask ht _
      exact .inl ⟨⟨u, hu, hnumber⟩, rfl, rfl⟩
  | dropped e hconsults =>
      refine .inr ⟨not_mem_endTask _ _ _, .inl ⟨e, ?_, hconsults.language_eq⟩⟩
      rw [← hconsults.client_eq]
      rfl
  | asking hconsults =>
      obtain ⟨u, hu, hnumber, -⟩ := exists_updateTask (hconsults.tasks_eq ▸ ht) _
      exact .inl ⟨⟨u, hu, hnumber⟩, hconsults.client_eq, hconsults.language_eq⟩
  | @finished query origin inquiry s'' hconsults hdone =>
      refine .inr ⟨not_mem_endTask _ _ _, .inr
        ⟨(s.language.finish query origin inquiry.results).1, ?_,
          .inr ⟨query, origin, inquiry, s'', hconsults.query?_eq, hconsults, hdone, rfl, rfl⟩⟩⟩
      rw [← hconsults.client_eq]
      rfl

end pursuit

end Session

end ProviderHub
