import ProviderHub.Json.Basic

/-!
Gates that open once.

* `Gate`: closed at first, open for good with the value of the first opening;
* `Gateway`: a gate and those who wait for it to open;
* `Startup`: the three gates of a session, and `Startup.isReady` when requests may pass.
-/

namespace ProviderHub

/-- A gate, and the value it was opened with. -/
structure Gate (α : Type) where
  value : Option α := none
deriving DecidableEq, Repr, Inhabited

namespace Gate

variable {α : Type}

/-- Whether a gate is open. -/
def isOpen (g : Gate α) : Bool := g.value.isSome

/-- Opens a gate, and tells whether it was closed; an open gate keeps its value. -/
def openWith (g : Gate α) (value : α) : Bool × Gate α :=
  match g.value with
  | none => (true, ⟨some value⟩)
  | some _ => (false, g)

end Gate

/-- A gate and those who wait at it. Whoever has found the gate closed is called when it opens, and
looks again. -/
structure Gateway (α ω : Type) where
  gate : Gate α := {}
  /-- Who has found the gate closed. -/
  parked : List ω := []
  /-- Who is about to look at the gate. -/
  called : List ω := []
  /-- Who is through, and with what value. -/
  passed : List (ω × α) := []

namespace Gateway

variable {α ω : Type}

/-- Someone comes to wait. -/
def wait (g : Gateway α ω) (who : ω) : Gateway α ω := { g with called := g.called ++ [who] }

/-- Opens the gate, and tells whether it was closed. -/
def openWith (g : Gateway α ω) (value : α) : Bool × Gateway α ω :=
  let (opened, gate) := g.gate.openWith value
  if opened then (true, { g with gate, parked := [], called := g.called ++ g.parked })
  else (false, g)

/-- One of those who are about to look at the gate does so. -/
def look (g : Gateway α ω) (index : Nat) : Gateway α ω :=
  match g.called[index]? with
  | none => g
  | some who =>
    let g := { g with called := g.called.eraseIdx index }
    match g.gate.value with
    | some value => { g with passed := g.passed ++ [(who, value)] }
    | none => { g with parked := g.parked ++ [who] }

/-- All who are about to look at the gate do so, in order. -/
def settle (g : Gateway α ω) : Gateway α ω := g.called.foldl (fun g _ => g.look 0) g

end Gateway

/-- The gates of a session. -/
structure Startup where
  /-- The client has finished its own start. -/
  initialized : Gate Unit := {}
  /-- The client's options are known. -/
  configured : Gate Json := {}
  /-- All providers of the start have been registered. -/
  registered : Gate Unit := {}
deriving DecidableEq, Repr, Inhabited

/-- The names of the gates. -/
inductive GateName where
  | initialized
  | configured
  | registered
deriving DecidableEq, Repr

namespace Startup

/-- Whether requests may pass. -/
def isReady (s : Startup) : Bool := s.initialized.isOpen && s.registered.isOpen

/-- Opens a gate, and tells whether it was closed. Only the client's options have a value. -/
def openGate (s : Startup) (gate : GateName) (value : Json) : Bool × Startup :=
  match gate with
  | .initialized =>
    let (opened, g) := s.initialized.openWith ()
    (opened, { s with initialized := g })
  | .configured =>
    let (opened, g) := s.configured.openWith value
    (opened, { s with configured := g })
  | .registered =>
    let (opened, g) := s.registered.openWith ()
    (opened, { s with registered := g })

end Startup

end ProviderHub
