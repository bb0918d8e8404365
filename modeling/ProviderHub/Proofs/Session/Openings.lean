import ProviderHub.Proofs.Session.Phases

/-!
What opens the gates of a session, and what the registration of features does about it.

The client says that it has finished its own start, or it starts the session and brings its options,
or the host opens a gate itself. The first opening of each gate counts.

* `Session.opening?`, `Session.openings`: the gate that an action is to open, and all that a run
  opens;
* `Session.Unlocks`: all that a step does to the gates and to the registration of features;
* `Session.value?_run`: a gate has the value of its first opening.
-/

namespace ProviderHub

/-! ### The three gates -/

/-- What a gate keeps of a value. Only the client's options tell something. -/
def GateName.kept : GateName → Json → Json
  | .configured, value => value
  | _, _ => .null

namespace Startup

/-- The value of a gate, once it is open. -/
def value? (s : Startup) : GateName → Option Json
  | .initialized => s.initialized.value.map fun _ => .null
  | .configured => s.configured.value
  | .registered => s.registered.value.map fun _ => .null

/-- The first opening counts. -/
lemma value?_openGate (s : Startup) (gate other : GateName) (value : Json) :
    (s.openGate gate value).2.value? other =
      (s.value? other).or ([(gate, gate.kept value)].lookup other) := by
  obtain ⟨⟨initialized⟩, ⟨configured⟩, ⟨registered⟩⟩ := s
  cases gate <;> cases other <;> cases initialized <;> cases configured <;> cases registered <;>
    rfl

end Startup

namespace Session

variable {π : Type} {s s' s'' : Session π} {host : Host π}

/-! ### Openings -/

/-- The gate that an action is to open, and the value for it. -/
def opening? (s : Session π) : SessionAction π → Option (GateName × Json)
  | .openGate gate value => some (gate, value)
  | .message (.notification n) =>
    if n.method = Method.initialized then some (.initialized, .null) else none
  | .message (.request r) =>
    if r.method = Method.initializeRequest ∧ s.initializeReceived = false then
      (readParams InitializeParams r.params).toOption.map fun p =>
        (.configured, p.initializationOptions.getD .null)
    else none
  | _ => none

/-- The gates that actions are to open, one after another, with the values that they keep. -/
def openings (s : Session π) : List (SessionAction π) → List (GateName × Json)
  | [] => []
  | action :: later =>
    ((s.opening? action).map fun (gate, value) => (gate, gate.kept value)).toList ++
      openings (s.step action) later

/-- **All that a step does to the gates**, and to the registration of features that waits for them:
a gate opens if one is to, and the registration goes on only from waiting, and when the gates are
open. -/
structure Unlocks (s : Session π) (opening : Option (GateName × Json)) (s' : Session π) : Prop where
  startup_eq : s'.language.startup = opening.elim s.language.startup fun (gate, value) =>
    (s.language.startup.openGate gate value).2
  features : s'.features = s.features ∨ s'.features = .waiting ∨ s'.features = .stopped ∨
    s'.features = .requested ∧ s.features = .waiting ∧ s.language.startup.isReady = true

/-- The gates are as they were, and so is the registration of features. -/
structure Barred (s s' : Session π) : Prop where
  startup_eq : s'.language.startup = s.language.startup
  features_eq : s'.features = s.features

@[refl] lemma Barred.refl (s : Session π) : s.Barred s := ⟨rfl, rfl⟩

lemma Barred.trans (h : s.Barred s') (h' : s'.Barred s'') : s.Barred s'' :=
  ⟨h'.startup_eq.trans h.startup_eq, h'.features_eq.trans h.features_eq⟩

lemma Barred.unlocks (h : s.Barred s') : s.Unlocks none s' := ⟨h.startup_eq, .inl h.features_eq⟩

/-! ### Messages -/

lemma Aside.barred (h : s.Aside s') : s.Barred s' := by
  obtain ⟨watch, client, finished, rfl⟩ := h
  exact ⟨rfl, rfl⟩

lemma openGate_unlocks (s : Session π) (gate : GateName) (value : Json) :
    s.Unlocks (some (gate, value)) (s.openGate gate value).2 := by
  rw [openGate]
  dsimp only
  split <;> exact ⟨rfl, .inl rfl⟩

lemma cancelRequest_barred (s : Session π) (id : RequestId) : s.Barred (s.cancelRequest id).2 := by
  rw [cancelRequest]
  split <;> exact ⟨rfl, rfl⟩

lemma Heeds.barred {n : Notification} (h : s.Heeds n s') (hother : n.method ≠ Method.initialized) :
    s.Barred s' := by
  cases h with
  | initialized hmethod => exact absurd hmethod hother
  | cancel id => exact s.cancelRequest_barred id
  | _ => exact ⟨rfl, rfl⟩

lemma handleNotification_unlocks (s : Session π) (n : Notification) :
    s.Unlocks (s.opening? (.message (.notification n))) (s.handleNotification n).2 := by
  rw [opening?]
  split
  · rename_i hmethod
    have hexit : n.method ≠ Method.exit := by
      rw [hmethod]
      decide
    rw [handleNotification, if_neg hexit]
    dsimp only
    rw [if_pos hmethod]
    exact s.openGate_unlocks _ _
  · rename_i hother
    exact ((s.handleNotification_heeds n).barred hother).unlocks

lemma foldl_cancelTask_barred (s : Session π) (requests : List (RequestId × TaskId)) :
    s.Barred (requests.foldl (fun s (_, number) => s.cancelTask number) s) := by
  induction requests generalizing s with
  | nil => rfl
  | cons request requests ih =>
      have hcancelled : s.Barred (s.cancelTask request.2) := ⟨rfl, rfl⟩
      exact hcancelled.trans (ih _)

lemma shutdown_unlocks (s : Session π) : s.Unlocks none s.shutdown := by
  rw [shutdown]
  split
  · exact (Barred.refl s).unlocks
  · have hmarked := s.foldl_cancelTask_barred s.inFlight
    refine ⟨hmarked.startup_eq, ?_⟩
    dsimp only
    rw [hmarked.features_eq]
    split
    · rename_i hidle
      exact .inl hidle.symm
    · exact .inr (.inr (.inl rfl))

lemma start_unlocks (s : Session π) (p : InitializeParams) (hfirst : s.initializeReceived = false) :
    s.Unlocks (some (.configured, p.initializationOptions.getD .null)) (s.start p).2 := by
  have hopened (s : Session π) (options : Json) := s.openGate_unlocks .configured options
  rw [start, if_neg (by simp [hfirst])]
  dsimp only
  split
  · split <;> exact ⟨(hopened _ _).startup_eq, .inr (.inl rfl)⟩
  · split <;> exact ⟨(hopened _ _).startup_eq, (hopened _ _).features⟩

lemma handleRequest_unlocks (s : Session π) (r : Request) :
    s.Unlocks (s.opening? (.message (.request r))) (s.handleRequest r) := by
  rw [opening?]
  by_cases hstarts : r.method = Method.initializeRequest
  · rw [handleRequest_of_start hstarts, handleInitialize]
    cases hfirst : s.initializeReceived with
    | true =>
        rw [if_neg (by simp)]
        refine Barred.unlocks ?_
        split
        · rw [start, show (s.beginRequest r.id).2.initializeReceived = true from hfirst]
          exact ⟨rfl, rfl⟩
        · exact ⟨rfl, rfl⟩
    | false =>
        rw [if_pos ⟨hstarts, rfl⟩]
        split
        · rename_i p hparams
          rw [hparams]
          have hstart := start_unlocks (s.beginRequest r.id).2 p hfirst
          exact ⟨hstart.startup_eq, hstart.features⟩
        · rename_i e hparams
          rw [hparams]
          exact ⟨rfl, .inl rfl⟩
  rw [if_neg fun h => hstarts h.1]
  by_cases hshutdown : r.method = Method.shutdown
  · rw [handleRequest_of_shutdown hshutdown, handleShutdown]
    split
    · exact ⟨rfl, .inl rfl⟩
    · have hstopped := shutdown_unlocks (s.beginRequest r.id).2
      exact ⟨hstopped.startup_eq, hstopped.features⟩
  · rw [handleRequest_of_task hstarts hshutdown]
    exact ⟨rfl, .inl rfl⟩

/-! ### Jobs -/

lemma runJob_unlocks (s : Session π) (host : Host π) (job : Job) :
    s.Unlocks none (s.runJob host job) := by
  cases job with
  | task number =>
      rw [runJob]
      cases hfind : s.tasks.find? (·.number == number) with
      | none =>
          rw [poll, hfind]
          exact (Barred.refl s).unlocks
      | some t =>
          have hpursues : Pursues host s t (s.poll host number) := poll_pursues hfind
          exact ⟨hpursues.spares.startup_eq, .inl hpursues.spares.features_eq⟩
  | features =>
      rw [runJob, registerFeatures]
      split
      · rename_i hgo
        exact ⟨rfl, .inr (.inr (.inr ⟨rfl, hgo⟩))⟩
      · exact (Barred.refl s).unlocks
  | answered a => exact (s.resume_aside a).barred.unlocks
  | overdue id =>
      rw [runJob]
      dsimp only
      split
      · have hexpire : s.Barred { s with client := (s.client.expire id).2 } := ⟨rfl, rfl⟩
        exact (hexpire.trans (resume_aside _ _).barred).unlocks
      · exact ⟨rfl, .inl rfl⟩
  | sweep feature =>
      rw [runJob]
      split
      · cases feature <;> exact ⟨rfl, .inl rfl⟩
      · exact (Barred.refl s).unlocks
  | flush => exact (s.flush_aside _).barred.unlocks

/-- The registration of features goes on when its job is done and the gates are open. -/
lemma work_features {index : Nat} (hjob : s.jobs[index]? = some .features)
    (hwaiting : s.features = .waiting) (hready : s.language.startup.isReady = true) :
    (s.work host index).features = .requested := by
  rw [work, hjob]
  dsimp only
  rw [runJob, registerFeatures, if_pos ⟨hwaiting, hready⟩]

/-! ### Steps and runs -/

lemma step_unlocks (s : Session π) (action : SessionAction π) :
    s.Unlocks (s.opening? action) (s.step action) := by
  cases action with
  | message m =>
      cases m with
      | request r => exact s.handleRequest_unlocks r
      | response r => exact ⟨rfl, .inl rfl⟩
      | notification n => exact s.handleNotification_unlocks n
  | leave => exact ⟨s.shutdown_unlocks.startup_eq, s.shutdown_unlocks.features⟩
  | work host index =>
      rw [step, work]
      split
      · have hdone := runJob_unlocks { s with jobs := s.jobs.eraseIdx index } host
        exact ⟨(hdone _).startup_eq, (hdone _).features⟩
      · exact (Barred.refl s).unlocks
  | giveUp number =>
      rw [step, giveUp]
      split
      · split <;> exact ⟨rfl, .inl rfl⟩
      · exact (Barred.refl s).unlocks
  | timeUp timer =>
      rw [step]
      split
      · cases timer <;> exact ⟨rfl, .inl rfl⟩
      · exact (Barred.refl s).unlocks
  | openGate gate value => exact s.openGate_unlocks gate value
  | cancel id => exact (s.cancelRequest_barred id).unlocks
  | request name method params => exact (s.request_aside name method params).barred.unlocks
  | flush onDisk => exact (s.flush_aside onDisk).barred.unlocks
  | _ => exact ⟨rfl, .inl rfl⟩

/-- A step gives a gate the value that it is opened with, unless it has one. -/
lemma value?_step (s : Session π) (action : SessionAction π) (gate : GateName) :
    (s.step action).language.startup.value? gate =
      (s.language.startup.value? gate).or (((s.opening? action).map fun (gate, value) =>
        (gate, gate.kept value)).toList.lookup gate) := by
  rw [(s.step_unlocks action).startup_eq]
  cases s.opening? action with
  | none => exact Option.or_none.symm
  | some opening => exact s.language.startup.value?_openGate opening.1 gate opening.2

lemma value?_foldl_step (s : Session π) (actions : List (SessionAction π)) (gate : GateName) :
    (actions.foldl step s).language.startup.value? gate =
      (s.language.startup.value? gate).or ((s.openings actions).lookup gate) := by
  induction actions generalizing s with
  | nil => exact Option.or_none.symm
  | cons action later ih =>
      rw [List.foldl_cons, ih, value?_step, Option.or_assoc, openings, List.lookup_append]

/-- **A gate has the value of its first opening**, and none as long as nothing has opened it. -/
lemma value?_run (settings : Settings) (actions : List (SessionAction π)) (gate : GateName) :
    (run settings actions).language.startup.value? gate =
      ((ofSettings settings).openings actions).lookup gate := by
  rw [run, value?_foldl_step]
  cases gate <;> rfl

end Session

end ProviderHub
