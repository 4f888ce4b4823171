import HandleWatch.Handle

/-!
# The table of open handles

The open handles in the order in which they were opened, no two of them with
one id. Each gets the next sequence number; ids may be used again, sequence
numbers are not.
-/

namespace HandleWatch

/-- The open handles. -/
structure OpenTable (α : Type) where
  /-- The handles, the longest open first. -/
  handles : List (Handle α) := []
  /-- How many handles were ever opened. -/
  nextSequence : Nat := 0

namespace OpenTable

variable {α : Type}

/-- The open handle of an id. -/
def find? (t : OpenTable α) (id : HandleId) : Option (Handle α) :=
  t.handles.find? fun h => h.id = id

/-- Whether there is an open handle of this id. -/
def has (t : OpenTable α) (id : HandleId) : Bool := (t.find? id).isSome

/-- Opens a handle, unless its id is open already. -/
def insert? (t : OpenTable α) (id : HandleId) (referent : Referent α) (generation : Generation) :
    Option (Handle α × OpenTable α) :=
  if t.has id then none
  else
    let h : Handle α := ⟨⟨id, generation, t.nextSequence, .opened⟩, referent⟩
    some (h, ⟨t.handles ++ [h], t.nextSequence + 1⟩)

/-- Takes the handle of an id out of the table, if there is one. -/
def remove? (t : OpenTable α) (id : HandleId) : Option (Handle α × OpenTable α) :=
  match t.find? id with
  | none => none
  | some h => some (h, { t with handles := t.handles.eraseP fun h => h.id = id })

/-- The handles opened in a generation or later, the longest open first. -/
def since (t : OpenTable α) (generation : Generation) : List (Handle α) :=
  t.handles.filter fun h => generation ≤ h.record.generation

end OpenTable

end HandleWatch
