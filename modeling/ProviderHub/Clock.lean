/-!
Clocks that stand still until they are moved.

A clock holds the timers that are running. A machine says which timers it wants; after every step
those that it wants no longer are dropped, and those that are missing are started. When the clock
moves, the timers fire in the order of their ends, and the machine comes to rest after each end.

* `Clock.sync`: the running timers become the wanted ones;
* `Machine.run`: fires all timers that end up to a given time;
* `Machine.rest`, `Machine.advance`: lets a machine come to rest now, or after some time.
-/

namespace ProviderHub

/-- A timer that is running. -/
structure Timer (κ : Type) where
  /-- When it ends, in milliseconds. -/
  due : Nat
  key : κ
deriving DecidableEq, Repr

/-- A clock, and its timers in the order in which they were started. -/
structure Clock (κ : Type) where
  now : Nat := 0
  timers : List (Timer κ) := []
deriving Repr, Inhabited

namespace Clock

variable {κ : Type} [DecidableEq κ]

/-- Whether a timer is running. -/
def isRunning (c : Clock κ) (key : κ) : Bool := c.timers.any (·.key = key)

/-- Keeps the timers that are wanted, and starts those that are missing. Each is wanted with the
time that it takes. -/
def sync (c : Clock κ) (wanted : List (κ × Nat)) : Clock κ :=
  let kept := c.timers.filter fun t => wanted.any (·.1 = t.key)
  let missing := wanted.filter fun (key, _) => !c.isRunning key
  { c with timers := kept ++ missing.map fun (key, delay) => ⟨c.now + delay, key⟩ }

/-- The next end of a timer that is not after the given time. -/
def nextDue? (c : Clock κ) (limit : Nat) : Option Nat :=
  ((c.timers.map Timer.due).filter (· ≤ limit)).min?

/-- Moves the clock on to a time, and gives the timers that end there, in the order in which they
were started. -/
def moveTo (c : Clock κ) (time : Nat) : List κ × Clock κ :=
  ((c.timers.filter (·.due ≤ time)).map Timer.key,
    { now := time, timers := c.timers.filter (time < ·.due) })

end Clock

/-- Something that runs by timers. -/
structure Machine (σ κ : Type) where
  /-- The timers that a state wants, and how long each takes. -/
  wanted : σ → List (κ × Nat)
  /-- What the end of a timer does. -/
  fire : κ → σ → σ
  /-- Works until all is waiting. -/
  settle : σ → σ := id

/-- A state together with the clock that it runs by. -/
structure Timed (σ κ : Type) where
  clock : Clock κ := {}
  state : σ
deriving Repr

namespace Machine

variable {σ κ : Type} [DecidableEq κ]

/-- How many times timers that take no time may fire in one step. -/
def instantRounds : Nat := 10000

/-- Fires the timers that end up to the given time, group by group, and comes to rest after each
group. The number bounds the groups. -/
def run (m : Machine σ κ) (time : Nat) : Nat → Timed σ κ → Timed σ κ
  | 0, t => t
  | rounds + 1, t =>
    let state := m.settle t.state
    let clock := t.clock.sync (m.wanted state)
    match clock.nextDue? time with
    | none => { clock := { clock with now := time }, state }
    | some due =>
      let (fired, clock) := clock.moveTo due
      m.run time rounds { clock, state := fired.foldl (fun s key => m.fire key s) state }

/-- Lets some time pass. -/
def advance (m : Machine σ κ) (ms : Nat) (t : Timed σ κ) : Timed σ κ :=
  m.run (t.clock.now + ms) (ms + instantRounds) t

/-- Comes to rest without letting time pass. -/
def rest (m : Machine σ κ) (t : Timed σ κ) : Timed σ κ := m.advance 0 t

end Machine

end ProviderHub
