import HandleWatch.Handle

/-!
# The pool of ids

Ids are handed out from `1` on, and again once they come back: the one that
came back last goes out first. The id `0` stands for no handle and is never in
the pool.
-/

namespace HandleWatch

/-- The id that stands for no handle. -/
def HandleId.null : HandleId := ⟨0⟩

/-- A pool of ids. -/
structure IdPool where
  /-- The id to be handed out when none has come back. -/
  next : Nat := 1
  /-- The ids that came back, the last one first. -/
  free : List HandleId := []

namespace IdPool

/-- Hands out an id. -/
def allocate (p : IdPool) : HandleId × IdPool :=
  match p.free with
  | id :: free => (id, { p with free })
  | [] => (⟨UInt64.ofNat p.next⟩, { p with next := p.next + 1 })

/-- Takes an id back, unless it is the null id. -/
def release (p : IdPool) (id : HandleId) : IdPool :=
  if id = .null then p else { p with free := id :: p.free }

/-- Takes back the ids of records, in order. -/
def recycle (p : IdPool) (records : List Record) : IdPool :=
  records.foldl (fun p r => p.release r.id) p

end IdPool

end HandleWatch
