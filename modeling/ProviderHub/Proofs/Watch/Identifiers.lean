import ProviderHub.Proofs.Watch.Conservation

/-!
Registrations under numbers of their own.

Every registration that has been sent is at one place at most: current at a root, to be taken back,
held by a flush that takes it back, or taken back. So no number can come back, and none can go to
the client twice.

* `registrationName_injective`: different numbers have different names;
* `WatchHistory.sent_before_taken_back`: what a call takes back has been sent by a call before it;
* `WatchHistory.registration_ids_once`: numbers are used once.
-/

namespace ProviderHub

/-- The client can tell registrations apart by their names. -/
lemma registrationName_injective : Function.Injective registrationName := by
  intro m n heq
  have hnumerals : toString m = toString n := (String.append_right_inj "switchboard/watch/").mp heq
  have hdigits : Nat.toDigits 10 m = Nat.toDigits 10 n := by
    rw [← Nat.toList_repr, ← Nat.toList_repr]
    exact congrArg String.toList hnumerals
  have hread (k : Nat) : Nat.ofDigitChars 10 (Nat.toDigits 10 k) 0 = k :=
    Nat.ofDigitChars_toDigits (by norm_num) le_rfl
  calc m = Nat.ofDigitChars 10 (Nat.toDigits 10 m) 0 := (hread m).symm
    _ = Nat.ofDigitChars 10 (Nat.toDigits 10 n) 0 := by rw [hdigits]
    _ = n := hread n

/-- A call that takes registrations back sends none. -/
lemma RegistrarCall.registrations_eq_nil {call : RegistrarCall} {id : RegistrationId}
    (hid : id ∈ call.unregistered) : call.registrations = [] := by
  cases call with
  | register registrations => cases hid
  | unregister ids => rfl

namespace WatchHistory

open WatchEngine

/-- An action makes one call to the client, or none. -/
lemma calls_step_cases (h : WatchHistory) (action : WatchAction) :
    (h.step action).calls = h.calls ∨ ∃ call, (h.step action).calls = h.calls ++ [call] := by
  have hcalls {β : Type} (made : Option β) (f : β → FlushCall) :
      h.calls ++ made.toList.map f = h.calls ∨
        ∃ call, h.calls ++ made.toList.map f = h.calls ++ [call] := by
    cases made with
    | none => exact .inl (List.append_nil _)
    | some call => exact .inr ⟨f call, rfl⟩
  cases action with
  | flush onDisk => exact hcalls _ _
  | reply flush accepted => exact hcalls _ _
  | _ => exact .inl rfl

/-- What has been taken back has been sent. -/
lemma mem_registrations_of_mem_unregistered {actions : List WatchAction} {id : RegistrationId}
    (hid : id ∈ (run actions).unregistered) :
    id ∈ (run actions).registrations.map Registration.id :=
  mem_registrations_of_mem_holdings (List.mem_append_right _ hid)

/-- What a call takes back has been sent by a call before it. -/
lemma sent_before_taken_back (actions : List WatchAction) {before after : List FlushCall}
    {c : FlushCall} (hcalls : (run actions).calls = before ++ c :: after) {id : RegistrationId}
    (hid : id ∈ c.call.unregistered) :
    ∃ d ∈ before, id ∈ d.call.registrations.map Registration.id := by
  induction actions using List.reverseRecOn generalizing after with
  | nil => cases before <;> cases hcalls
  | append_singleton actions action ih =>
      have hsent : id ∈ (run (actions ++ [action])).registrations.map Registration.id := by
        refine mem_registrations_of_mem_unregistered (List.mem_flatMap.mpr ⟨c, ?_, hid⟩)
        rw [hcalls]
        exact List.mem_append_right _ (List.mem_cons_self ..)
      rw [registrations] at hsent
      rw [run_append] at hcalls hsent
      rcases calls_step_cases (run actions) action with hsame | ⟨last, hlast⟩
      · exact ih (hsame.symm.trans hcalls)
      · rcases List.eq_nil_or_concat after with rfl | ⟨after, last', rfl⟩
        · -- the call is the last one, and sends nothing itself
          have hearlier : id ∈ (before.flatMap (·.call.registrations)).map Registration.id := by
            simpa [hcalls, RegistrarCall.registrations_eq_nil hid] using hsent
          obtain ⟨reg, hreg, rfl⟩ := List.mem_map.mp hearlier
          obtain ⟨d, hd, hreg⟩ := List.mem_flatMap.mp hreg
          exact ⟨d, hd, List.mem_map_of_mem hreg⟩
        · rw [hlast, List.concat_eq_append, ← List.cons_append, ← List.append_assoc] at hcalls
          exact ih (List.append_inj' hcalls rfl).1

/-- **Numbers of registrations are used once**: different numbers have different names; over all
calls of a run, no number is sent twice, none is taken back twice, and each one that a call takes
back has been sent by a call before it; and after every run no two roots are registered under one
number, nor is a root registered under a number that is to be taken back. -/
theorem registration_ids_once (actions : List WatchAction) :
    Function.Injective registrationName ∧
    ((run actions).registrations.map Registration.id).Nodup ∧
    (run actions).unregistered.Nodup ∧
    (∀ before c after, (run actions).calls = before ++ c :: after → ∀ id ∈ c.call.unregistered,
      ∃ d ∈ before, id ∈ d.call.registrations.map Registration.id) ∧
    ((run actions).engine.roots.Pairwise fun r s =>
      ∀ id, r.status = .registered id → s.status ≠ .registered id) ∧
    ∀ id ∈ (run actions).engine.pendingUnregister, ∀ r ∈ (run actions).engine.roots,
      r.status ≠ .registered id := by
  have hholdings := nodup_holdings_run actions
  have hheld : (run actions).engine.held.Nodup := hholdings.of_append_left.of_append_left
  refine ⟨registrationName_injective, (consistent_run actions).nodup_numbers,
    hholdings.of_append_right, ?_, ?_, ?_⟩
  · exact fun before c after hcalls id hid => sent_before_taken_back actions hcalls hid
  · have hroots := (List.nodup_flatMap.mp hheld.of_append_left).2
    refine hroots.imp fun hdisjoint id hr hs => ?_
    exact hdisjoint (mem_registrationOf.mpr hr) (mem_registrationOf.mpr hs)
  · intro id hqueued r hr hstatus
    refine List.disjoint_of_nodup_append hheld (a := id) ?_ hqueued
    exact List.mem_flatMap.mpr ⟨r, hr, mem_registrationOf.mpr hstatus⟩

/-- The root of a directory is being registered when it has to be registered anew, and both flushes
get their answers, the later one first. -/
def replacedRun : List WatchAction :=
  let pattern : WatchPattern :=
    ⟨{ scheme := "mem", authority := some { host := "h" }, path := "/a" }, true⟩
  [.enable, .add pattern ⟨1⟩, .flush fun _ => true, .add pattern ⟨4⟩, .flush fun _ => true,
    .reply 1 true, .reply 0 true]

/-- The third call takes back what the first one has sent. -/
theorem registration_ids_once_replacedRun :
    (run replacedRun).calls.map (·.flush) = [0, 1, 1] ∧
      (run replacedRun).calls.drop 2 = [⟨1, .unregister [1]⟩] ∧
      (∃ d ∈ (run replacedRun).calls.take 2, 1 ∈ d.call.registrations.map Registration.id) ∧
      (run replacedRun).unregistered.Nodup := by
  obtain ⟨-, -, hnodup, hsent, -, -⟩ := registration_ids_once replacedRun
  have hlast : (run replacedRun).calls.drop 2 = [⟨1, .unregister [1]⟩] := by decide +kernel
  refine ⟨by decide +kernel, hlast, ?_, hnodup⟩
  refine hsent _ ⟨1, .unregister [1]⟩ [] ?_ 1 (List.mem_singleton_self _)
  rw [← hlast, List.take_append_drop]

end WatchHistory

end ProviderHub
