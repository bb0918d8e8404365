import ProviderHub.Provider.Question

/-!
Providers that answer by a script.

They stand in for real providers when a session is rehearsed on a clock that stands still.

* `Script`: how long an answer takes, and what it is;
* `Performer`: a provider that has a script for some questions.
-/

namespace ProviderHub

/-- How a question is answered. -/
structure Script where
  /-- The time that the answer takes, in milliseconds. -/
  delay : Nat := 0
  /-- The answer; there is none if it never comes. Failure and nothing are the same. -/
  answer : Option (Question → Option Reply) := some fun _ => none

/-- A provider or a handler of commands that answers by scripts. -/
structure Performer where
  name : String
  /-- The script for a question; one without a script is answered with nothing. -/
  script? : Question → Option Script

namespace Performer

/-- The answer that comes at once, if there is one. -/
def atOnce (p : Performer) (q : Question) : Option (Option Reply) :=
  match p.script? q with
  | none => some none
  | some s => if s.delay = 0 then s.answer.map (· q) else none

/-- The time that an answer takes, if it ever comes. -/
def delay? (p : Performer) (q : Question) : Option Nat :=
  (p.script? q).bind fun s => s.answer.map fun _ => s.delay

/-- The answer that comes in the end. -/
def answer (p : Performer) (q : Question) : Option Reply :=
  ((p.script? q).bind Script.answer).bind (· q)

end Performer

end ProviderHub
