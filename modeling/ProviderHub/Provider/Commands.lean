/-!
The handlers of commands.

* `Commands.register`: gives a command a handler, in place of an earlier one;
* `Commands.ids`: the commands that have a handler, in increasing order.
-/

namespace ProviderHub

/-- The handlers of commands, by the names of the commands in increasing order. -/
structure Commands (π : Type) where
  handlers : List (String × π) := []
deriving Repr, Inhabited

namespace Commands

variable {π : Type}

/-- Puts a handler in its place. -/
def insert (id : String) (handler : π) : List (String × π) → List (String × π)
  | [] => [(id, handler)]
  | (key, h) :: rest =>
    if id < key then (id, handler) :: (key, h) :: rest
    else if id = key then (id, handler) :: rest
    else (key, h) :: insert id handler rest

/-- Gives a command a handler. -/
def register (c : Commands π) (id : String) (handler : π) : Commands π :=
  ⟨insert id handler c.handlers⟩

/-- The handler of a command. -/
def get? (c : Commands π) (id : String) : Option π := c.handlers.lookup id

/-- Takes a command's handler away, and tells whether there was one. -/
def unregister (c : Commands π) (id : String) : Bool × Commands π :=
  ((c.get? id).isSome, ⟨c.handlers.filter (·.1 != id)⟩)

/-- The commands that have a handler. -/
def ids (c : Commands π) : List String := c.handlers.map Prod.fst

end Commands

end ProviderHub
