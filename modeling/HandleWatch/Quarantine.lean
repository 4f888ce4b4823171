import HandleWatch.Handle

/-!
# The quarantine

Closed handles are kept for a while, so that their use can be told from that of
an id never seen. The quarantine has a capacity, and the handles that came
first leave it first: they are discarded and their referents released.
-/

namespace HandleWatch

/-- The handles that left the quarantine at one time, in the order in which
    their referents were released. -/
structure Eviction (α : Type) where
  handles : List (Handle α)

namespace Eviction

variable {α : Type}

/-- The records of the evicted handles. -/
def records (e : Eviction α) : List Record := e.handles.map Handle.record

/-- The referents that were released. -/
def released (e : Eviction α) : List (Referent α) := e.handles.map Handle.referent

/-- How many of the releases failed. -/
def failures (e : Eviction α) : Nat := e.handles.countP Handle.failsRelease

end Eviction

/-- The closed handles that are kept. -/
structure Quarantine (α : Type) where
  /-- The handles, the longest closed first. -/
  handles : List (Handle α) := []
  /-- How many handles are kept at most. -/
  capacity : Nat

namespace Quarantine

variable {α : Type}

/-- The capacity of a quarantine, if nothing else is said. -/
def defaultCapacity : Nat := 1024

/-- Evicts the oldest handles beyond the capacity. -/
def trim (q : Quarantine α) : Eviction α × Quarantine α :=
  let excess := q.handles.length - q.capacity
  (⟨(q.handles.take excess).map (·.advance .discarded)⟩,
    { q with handles := q.handles.drop excess })

/-- Takes in a handle; the oldest ones may have to leave, and with no capacity
    the handle itself. -/
def push (q : Quarantine α) (h : Handle α) : Eviction α × Quarantine α :=
  trim { q with handles := q.handles ++ [h.advance .quarantined] }

/-- Changes the capacity; the oldest handles may have to leave. -/
def resize (q : Quarantine α) (capacity : Nat) : Eviction α × Quarantine α :=
  trim { q with capacity }

/-- The handle of an id; of several, the one closed last. -/
def find? (q : Quarantine α) (id : HandleId) : Option (Handle α) :=
  q.handles.reverse.find? fun h => h.id = id

/-- Whether a handle of this id is kept. -/
def has (q : Quarantine α) (id : HandleId) : Bool := (q.find? id).isSome

end Quarantine

end HandleWatch
