import Mathlib.Tactic
import ProviderHub.Proofs.Rpc.Progress
import ProviderHub.Proofs.Session.Phases

/-!
A session at the end of a byte stream, along its runs.

Bytes arrive, the loop reads one message after another, and between any two of them the session may
go on in any way.

* `ServerAction`, `Server.step`, `Server.run`: what can happen, and what comes of it;
* `Server.readMessages_succ`: reading goes turn by turn;
* `Server.readMessages_waits`, `Server.finishInput_run`: it goes on as long as something has come,
  and ends the connection once the client has closed its side;
* `Server.exit_run`: how the connection ends.
-/

namespace ProviderHub

/-- What can happen to a session at the end of a byte stream. -/
inductive ServerAction (π : Type) where
  /-- Bytes arrive. -/
  | arrive (bytes : List UInt8)
  /-- The client closes its side. -/
  | endInput
  /-- The loop takes one turn: the next message is read and handled. -/
  | read
  /-- The session goes on. -/
  | act (action : SessionAction π)

/-- Whether only the loop does it. -/
def SessionAction.isRead {π : Type} : SessionAction π → Bool
  | .message _ | .garbage | .leave => true
  | _ => false

namespace Server

variable {π : Type} {s : Server π} {settings : Settings} {events : List (ServerAction π)}

/-- What comes next on the stream. -/
def next (s : Server π) : Frame.Next := Frame.read s.inputEnded s.input

/-- The state after one more action. -/
def step (s : Server π) : ServerAction π → Server π
  | .arrive bytes => { s with input := s.input ++ bytes }
  | .endInput => { s with inputEnded := true }
  | .read => s.readMessages 1
  | .act action => if action.isRead then s else { s with session := s.session.step action }

/-- The state after a run. -/
def run (settings : Settings) (events : List (ServerAction π)) : Server π :=
  events.foldl step (ofSettings settings)

lemma run_append (settings : Settings) (events : List (ServerAction π)) (event : ServerAction π) :
    run settings (events ++ [event]) = (run settings events).step event := by
  rw [run, List.foldl_append]
  rfl

/-! ### Turns of the loop -/

/-- Once the connection has ended, nothing is read. -/
lemma readMessages_of_exit (hexit : s.exit.isSome = true) (bound : Nat) :
    s.readMessages bound = s := by
  cases bound with
  | zero => rfl
  | succ bound => rw [readMessages, if_pos hexit]

lemma readMessages_of_waiting (hnext : s.next = .waiting) (bound : Nat) :
    s.readMessages bound = s := by
  cases bound with
  | zero => rfl
  | succ bound =>
      rw [next] at hnext
      rw [readMessages, hnext]
      split <;> rfl

/-- **Reading goes turn by turn.** -/
lemma readMessages_succ (s : Server π) (bound : Nat) :
    s.readMessages (bound + 1) = (s.readMessages 1).readMessages bound := by
  rw [readMessages, readMessages]
  split
  · rename_i hexit
    exact (readMessages_of_exit hexit bound).symm
  · split
    · dsimp only
      split
      · rfl
      · exact (readMessages_of_exit rfl bound).symm
    · rfl
    · exact (readMessages_of_exit rfl bound).symm
    · exact (readMessages_of_exit rfl bound).symm
    · rename_i hnext
      exact (readMessages_of_waiting hnext bound).symm

/-- The loop is a run of its turns. -/
lemma readMessages_eq_foldl (s : Server π) (bound : Nat) :
    s.readMessages bound = (List.replicate bound .read).foldl step s := by
  induction bound generalizing s with
  | zero => rfl
  | succ bound ih =>
      rw [readMessages_succ, ih, List.replicate_succ, List.foldl_cons]
      rfl

/-- Only a notification ends the connection, and it changes nothing else. -/
lemma handle_exit {session session' : Session π} {m : Message}
    (h : session.handle m = (.exit, session')) :
    (∃ n, m = .notification n ∧ n.method = Method.exit) ∧ session' = session := by
  cases m with
  | request r => cases h
  | response r => cases h
  | notification n =>
      rw [Session.handle, Session.handleNotification] at h
      split at h
      · rename_i hmethod
        cases h
        exact ⟨⟨n, rfl, hmethod⟩, rfl⟩
      · cases h

/-- **One turn of the loop** while the connection lasts: a message is handled, or what is none is
answered, or the connection ends, or nothing has come. -/
lemma turn_cases (hexit : s.exit = none) :
    (∃ m rest, s.next = .message m rest ∧ (s.session.handle m).1 = .next ∧
      s.readMessages 1 = { s with session := s.session.step (.message m), input := rest }) ∨
    (∃ n rest, s.next = .message (.notification n) rest ∧ n.method = Method.exit ∧
      (s.readMessages 1).exit = some (.left s.session.shutdownRequested)) ∨
    (∃ rest, s.next = .invalid rest ∧
      s.readMessages 1 = { s with session := s.session.step .garbage, input := rest }) ∨
    (s.next = .truncated ∧ (s.readMessages 1).exit = some .truncated) ∨
    (s.next = .finished ∧ (s.readMessages 1).exit = some (.left false)) ∨
    (s.next = .waiting ∧ s.readMessages 1 = s) := by
  have hrunning : ¬ s.exit.isSome = true := by simp [hexit]
  rw [next, readMessages, if_neg hrunning]
  cases hnext : Frame.read s.inputEnded s.input with
  | message m rest =>
      dsimp only
      split
      · rename_i session hhandle
        refine .inl ⟨m, rest, rfl, congrArg Prod.fst hhandle, ?_⟩
        rw [Session.step, hhandle]
        rfl
      · rename_i session hhandle
        obtain ⟨⟨n, rfl, hmethod⟩, rfl⟩ := handle_exit hhandle
        exact .inr (.inl ⟨n, rest, rfl, hmethod, rfl⟩)
  | invalid rest => exact .inr (.inr (.inl ⟨rest, rfl, rfl⟩))
  | truncated => exact .inr (.inr (.inr (.inl ⟨rfl, rfl⟩)))
  | finished => exact .inr (.inr (.inr (.inr (.inl ⟨rfl, rfl⟩))))
  | waiting => exact .inr (.inr (.inr (.inr (.inr ⟨rfl, rfl⟩))))

/-- **The loop goes on as long as something has come**: it stops only when the connection ends, or
more bytes are needed. -/
lemma readMessages_waits {bound : Nat} (hbound : s.input.length < bound) :
    (s.readMessages bound).exit.isSome = true ∨
      (s.readMessages bound).next = .waiting ∧
        (s.readMessages bound).inputEnded = s.inputEnded := by
  induction bound generalizing s with
  | zero => omega
  | succ bound ih =>
      have hended (hexit : (s.readMessages 1).exit.isSome = true) :
          (s.readMessages (bound + 1)).exit.isSome = true := by
        rw [readMessages_succ, readMessages_of_exit hexit]
        exact hexit
      cases hexit : s.exit with
      | some exit =>
          rw [readMessages_of_exit (by rw [hexit]; rfl), hexit]
          exact .inl rfl
      | none =>
          rcases turn_cases hexit with ⟨m, rest, hnext, -, heq⟩ | ⟨n, rest, -, -, hleft⟩ |
            ⟨rest, hnext, heq⟩ | ⟨-, hleft⟩ | ⟨-, hleft⟩ | ⟨hnext, heq⟩
          · have hshorter := Frame.length_lt_of_read (.inl hnext)
            rw [readMessages_succ, heq]
            exact ih (s := { s with session := _, input := rest })
              (lt_of_lt_of_le hshorter (Nat.le_of_lt_succ hbound))
          · exact .inl (hended (by rw [hleft]; rfl))
          · have hshorter := Frame.length_lt_of_read (m := default) (.inr hnext)
            rw [readMessages_succ, heq]
            exact ih (s := { s with session := _, input := rest })
              (lt_of_lt_of_le hshorter (Nat.le_of_lt_succ hbound))
          · exact .inl (hended (by rw [hleft]; rfl))
          · exact .inl (hended (by rw [hleft]; rfl))
          · rw [readMessages_of_waiting hnext]
            exact .inr ⟨hnext, rfl⟩

/-- **Once the client has closed its side**, the loop takes turns until the connection ends. -/
lemma finishInput_run (settings : Settings) (events : List (ServerAction π)) :
    (∃ turns, (run settings events).finishInput =
      run settings (events ++ .endInput :: List.replicate turns .read)) ∧
      (run settings events).finishInput.exit.isSome = true := by
  refine ⟨⟨(run settings events).input.length + 1, ?_⟩, ?_⟩
  · have hloop : run settings (events ++ .endInput ::
        List.replicate ((run settings events).input.length + 1) .read) =
          (List.replicate ((run settings events).input.length + 1) .read).foldl step
            { run settings events with inputEnded := true } := by
      rw [run, List.foldl_append, List.foldl_cons]
      rfl
    rw [hloop]
    exact readMessages_eq_foldl _ _
  · have hbound := Nat.lt_succ_self (run settings events).input.length
    refine (readMessages_waits (s := { run settings events with inputEnded := true })
      hbound).resolve_right ?_
    rintro ⟨hwaiting, hended⟩
    rw [next, hended] at hwaiting
    exact Frame.read_ended_ne_waiting _ hwaiting

/-- A connection that has ended stays so. -/
lemma step_of_exit {exit : Exit} (h : s.exit = some exit) (event : ServerAction π) :
    (s.step event).exit = some exit := by
  cases event with
  | read =>
      rw [step, readMessages_of_exit (by simp [h])]
      exact h
  | act action =>
      rw [step]
      split <;> exact h
  | _ => exact h

/-- An action of the session leaves the phase alone, unless the loop does it. -/
lemma step_act_steady (s : Server π) (action : SessionAction π) :
    s.session.Steady (s.step (.act action)).session := by
  rw [step]
  split
  · rfl
  · rename_i hread
    refine s.session.step_steady ?_ ?_
    · rintro rfl
      exact hread rfl
    · rintro r rfl
      exact hread rfl

/-! ### The end of the connection -/

/-- The loop has read a request to shut down that succeeded. -/
def HasShutDown (settings : Settings) (events : List (ServerAction π)) : Prop :=
  AtSome events fun earlier event => event = .read ∧ (run settings earlier).exit = none ∧
    ∃ r rest v, (run settings earlier).next = .message (.request r) rest ∧
      r.method = Method.shutdown ∧ (run settings earlier).session.outcome? r = some (.ok v)

/-- The loop has read the notification that ends the connection after such a request. -/
def HasLeft (settings : Settings) (events : List (ServerAction π)) : Prop :=
  AtSome events fun earlier event => event = .read ∧ (run settings earlier).exit = none ∧
    (∃ n rest, (run settings earlier).next = .message (.notification n) rest ∧
      n.method = Method.exit) ∧ HasShutDown settings earlier

/-- While the connection lasts, only such a request sets the flag. -/
lemma shutdownRequested_run (hexit : (run settings events).exit = none) :
    (run settings events).session.shutdownRequested = true ↔ HasShutDown settings events := by
  induction events using List.reverseRecOn with
  | nil => exact iff_of_false nofun not_atSome_nil
  | append_singleton events event ih =>
      rw [run_append] at hexit
      have hbefore : (run settings events).exit = none := by
        by_contra hended
        obtain ⟨exit, hexit'⟩ := Option.ne_none_iff_exists'.mp hended
        rw [step_of_exit hexit'] at hexit
        cases hexit
      rw [HasShutDown, atSome_append, ← HasShutDown, ← ih hbefore, run_append]
      generalize run settings events = s at hexit hbefore ⊢
      have hsame (h : s.session.Steady (s.step event).session)
          (hnone : event = .read → ∀ r rest v, s.next = .message (.request r) rest →
            s.session.outcome? r ≠ some (.ok v)) :
          (s.step event).session.shutdownRequested = true ↔
            s.session.shutdownRequested = true ∨ event = .read ∧ s.exit = none ∧ ∃ r rest v,
              s.next = .message (.request r) rest ∧ r.method = Method.shutdown ∧
              s.session.outcome? r = some (.ok v) := by
        rw [h.shutdownRequested_eq]
        refine (or_iff_left ?_).symm
        rintro ⟨hread, -, r, rest, v, hnext, -, hok⟩
        exact hnone hread r rest v hnext hok
      cases event with
      | arrive bytes => exact hsame (.refl _) nofun
      | endInput => exact hsame (.refl _) nofun
      | act action => exact hsame (s.step_act_steady action) nofun
      | read =>
          rcases turn_cases hbefore with ⟨m, rest, hnext, -, heq⟩ | ⟨n, rest, -, -, hended⟩ |
            ⟨rest, hnext, heq⟩ | ⟨-, hended⟩ | ⟨-, hended⟩ | ⟨hnext, heq⟩
          · have hsession : (s.step .read).session = s.session.step (.message m) := by
              rw [step, heq]
            cases s.session.step_turns (.message m) with
            | steady _ hnone h =>
                refine hsame (hsession ▸ h) fun _ r rest' v hnext' => ?_
                rw [hnext] at hnext'
                cases hnext'
                exact hnone r v rfl
            | @starts r p v _ hmethod _ _ _ h =>
                have hmethods : Method.initializeRequest ≠ Method.shutdown := by decide
                rw [hsession, h.shutdownRequested_eq]
                refine (or_iff_left ?_).symm
                rintro ⟨-, -, r', rest', v', hnext', hmethod', -⟩
                rw [hnext] at hnext'
                cases hnext'
                exact hmethods (hmethod.symm.trans hmethod')
            | @ends r v _ hmethod hok _ h =>
                rw [hsession]
                exact iff_of_true h.shutdownRequested_eq
                  (.inr ⟨rfl, hbefore, r, rest, v, hnext, hmethod, hok⟩)
          · cases hexit.symm.trans hended
          · refine hsame ?_ fun _ r rest' v hnext' => ?_
            · rw [step, heq]
              have hgarbage : s.session.Steady (s.session.step .garbage) :=
                s.session.step_steady (by simp) (by simp)
              exact hgarbage
            · rw [hnext] at hnext'
              cases hnext'
          · cases hexit.symm.trans hended
          · cases hexit.symm.trans hended
          · refine hsame ?_ fun _ r rest' v hnext' => ?_
            · rw [step, heq]
            · rw [hnext] at hnext'
              cases hnext'

/-- **How the connection ends**: in good order exactly if the loop reads the notification for it
after a request to shut down that succeeded. -/
lemma exit_run (settings : Settings) (events : List (ServerAction π)) :
    (run settings events).exit = some (.left true) ↔ HasLeft settings events := by
  induction events using List.reverseRecOn with
  | nil => exact iff_of_false nofun not_atSome_nil
  | append_singleton events event ih =>
      rw [HasLeft, atSome_append, ← HasLeft, ← ih, run_append]
      cases hexit : (run settings events).exit with
      | some exit => simp [step_of_exit hexit]
      | none =>
          have hshutDown := shutdownRequested_run hexit
          simp only [reduceCtorEq, false_or, true_and]
          cases event with
          | arrive bytes => simp [step, hexit]
          | endInput => simp [step, hexit]
          | act action =>
              have hsame : ((run settings events).step (.act action)).exit = none := by
                rw [step]
                split <;> exact hexit
              simp [hsame]
          | read =>
              rw [step]
              rcases turn_cases hexit with ⟨m, rest, hnext, hflow, heq⟩ |
                ⟨n, rest, hnext, hmethod, hended⟩ | ⟨rest, hnext, heq⟩ | ⟨hnext, hended⟩ |
                ⟨hnext, hended⟩ | ⟨hnext, heq⟩
              · rw [heq, hexit]
                refine iff_of_false (by simp) ?_
                rintro ⟨-, ⟨n, rest', hnext', hmethod⟩, -⟩
                cases hnext.symm.trans hnext'
                simp [Session.handle, Session.handleNotification, hmethod] at hflow
              · rw [hended, ← hshutDown, Option.some_inj, Exit.left.injEq]
                exact ⟨fun h => ⟨rfl, ⟨n, rest, hnext, hmethod⟩, h⟩, fun h => h.2.2⟩
              -- in all other cases what comes next is no notification
              · simp [heq, hexit, hnext]
              · simp [hended, hnext]
              · simp [hended, hnext]
              · simp [heq, hexit, hnext]

end Server

end ProviderHub
