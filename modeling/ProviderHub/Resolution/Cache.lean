/-!
The bounded cache of batches.

Batches are numbered from one. When there are more than the capacity, a sweep is due after a delay;
it removes the oldest ones, going on from where the last sweep ended. A cache without a clock
sweeps at once instead.

* `Cache.store`, `Cache.get?`, `Cache.delete`;
* `Cache.sweep`: removes the oldest batches beyond the capacity;
* `Cache.shutdown`: no sweep is due any more, now or later.
-/

namespace ProviderHub

/-- The number of a batch. -/
abbrev CacheId := Nat

/-- A bounded cache, its batches in increasing order of their numbers. -/
structure Cache (α : Type) where
  capacity : Nat
  /-- Whether sweeps can wait for a clock. -/
  timed : Bool := true
  entries : List (CacheId × List α) := []
  nextId : CacheId := 1
  /-- All numbers up to this one have been swept. -/
  lastSwept : CacheId := 0
  /-- Whether a sweep is due. -/
  sweepDue : Bool := false
  closed : Bool := false
deriving Repr

namespace Cache

variable {α : Type}

/-- The number of batches. -/
def size (c : Cache α) : Nat := c.entries.length

/-- The numbers of the batches, oldest first. -/
def ids (c : Cache α) : List CacheId := c.entries.map Prod.fst

/-- The batch of a number. -/
def get? (c : Cache α) (id : CacheId) : Option (List α) := c.entries.lookup id

/-- Whether there is a batch of a number. -/
def contains (c : Cache α) (id : CacheId) : Bool := c.ids.contains id

/-- Removes the oldest batches beyond the capacity. The first argument counts the numbers that may
still be swept. -/
def evict : Nat → Cache α → Cache α
  | 0, c => c
  | steps + 1, c =>
    if c.capacity < c.size then
      evict steps
        { c with
          lastSwept := c.lastSwept + 1
          entries := c.entries.filter (·.1 != c.lastSwept + 1) }
    else c

/-- Removes the oldest batches until the rest fits the capacity. -/
def evictOldest (c : Cache α) : Cache α := evict (c.nextId - 1 - c.lastSwept) c

/-- A sweep that was due. -/
def sweep (c : Cache α) : Cache α := { c with sweepDue := false }.evictOldest

/-- Arranges a sweep if there are too many batches. -/
def scheduleSweep (c : Cache α) : Cache α :=
  if c.capacity < c.size ∧ !c.sweepDue ∧ !c.closed then
    if c.timed then { c with sweepDue := true } else c.evictOldest
  else c

/-- Stores a batch under a new number. -/
def store (c : Cache α) (batch : List α) : CacheId × Cache α :=
  (c.nextId,
    { c with nextId := c.nextId + 1, entries := c.entries ++ [(c.nextId, batch)] }.scheduleSweep)

/-- Deletes a batch, and tells whether it was there. -/
def delete (c : Cache α) (id : CacheId) : Bool × Cache α :=
  (c.contains id, { c with entries := c.entries.filter (·.1 != id) })

/-- Ends all sweeping. -/
def shutdown (c : Cache α) : Cache α := { c with closed := true, sweepDue := false }

end Cache

end ProviderHub
