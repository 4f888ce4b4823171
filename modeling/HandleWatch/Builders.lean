import HandleWatch.Outcome
import HandleWatch.Sink

/-!
# Builders

A builder makes a tuple or a list of a fixed size, item by item, and is then
built or cancelled. The ids of open builders are tracked; of those that are
finished a bounded history is kept, so that the report on the use of a builder
that is not open can tell what became of it.
-/

namespace HandleWatch

/-- What a builder makes. -/
inductive BuilderKind where
  | tuple
  | list
  deriving DecidableEq, Repr

/-- How a builder ended. -/
inductive BuilderEnd where
  | built
  | cancelled
  deriving DecidableEq, Repr

/-- What was to be done with a builder. -/
inductive BuilderOperation where
  | setItem
  | build
  | cancel
  deriving DecidableEq, Repr

/-- The report on the use of a builder that was not open. -/
structure InvalidBuilderUse where
  id : HandleId
  operation : BuilderOperation
  /-- What the builder made, if it is remembered. -/
  kind : Option BuilderKind
  /-- How it ended, if it is remembered. -/
  ended : Option BuilderEnd
  deriving DecidableEq, Repr

/-- A builder that is open. -/
structure OpenBuilder where
  id : HandleId
  kind : BuilderKind
  /-- How many items it takes. -/
  size : Nat
  deriving DecidableEq, Repr

/-- A builder that is finished. -/
structure FinishedBuilder where
  id : HandleId
  kind : BuilderKind
  ended : BuilderEnd
  deriving DecidableEq, Repr

/-- The builders of a tracker. -/
structure Builders where
  /-- The open builders, no two of them with one id. -/
  opened : List OpenBuilder := []
  /-- The finished builders that are remembered, the longest finished first. -/
  finished : List FinishedBuilder := []
  /-- How many finished builders are remembered at most. -/
  history : Nat
  sink : Sink InvalidBuilderUse := {}

namespace Builders

/-- The open builder of an id. -/
def find? (b : Builders) (id : HandleId) : Option OpenBuilder :=
  b.opened.find? fun o => o.id = id

/-- The last finished builder of an id, if it is remembered. -/
def past? (b : Builders) (id : HandleId) : Option FinishedBuilder :=
  b.finished.reverse.find? fun f => f.id = id

/-- Forgets the oldest finished builders beyond the history. -/
def trim (b : Builders) : Builders :=
  { b with finished := b.finished.drop (b.finished.length - b.history) }

/-- Changes how many finished builders are remembered. -/
def setHistory (b : Builders) (history : Nat) : Builders := trim { b with history }

/-- Opens a builder, unless its id is open already. -/
def start (b : Builders) (id : HandleId) (kind : BuilderKind) (size : Nat) :
    Outcome Unit × Builders :=
  if (b.find? id).isSome then (.failed (.duplicateHandle id), b)
  else (.done (), { b with opened := b.opened ++ [⟨id, kind, size⟩] })

/-- Reports the use of a builder that is not open; it comes to `false`. -/
def reject (b : Builders) (id : HandleId) (operation : BuilderOperation) :
    Outcome Bool × Builders :=
  let past := b.past? id
  let (delivery, sink) := b.sink.deliver ⟨id, operation, past.map (·.kind), past.map (·.ended)⟩
  let classification := if past.isSome then .useAfterClose else .unknown
  let outcome := match delivery with
    | .unheard | .accepted => .done false
    | .refused reason => .failed (.hookRefused id classification reason)
    | .crashed message => .crashed message
  (outcome, { b with sink })

/-- Whether a builder takes an item at an index. -/
def setItem (b : Builders) (id : HandleId) (index : Nat) : Outcome Bool × Builders :=
  match b.find? id with
  | some o => (.done (decide (index < o.size)), b)
  | none => b.reject id .setItem

/-- Ends a builder. -/
def finish (b : Builders) (id : HandleId) (ended : BuilderEnd) (operation : BuilderOperation) :
    Outcome Bool × Builders :=
  match b.find? id with
  | some o =>
    (.done true, trim
      { b with
        opened := b.opened.eraseP fun o => o.id = id
        finished := b.finished ++ [⟨id, o.kind, ended⟩] })
  | none => b.reject id operation

/-- Ends a builder with what it made. -/
def build (b : Builders) (id : HandleId) : Outcome Bool × Builders := b.finish id .built .build

/-- Ends a builder without a result. -/
def cancel (b : Builders) (id : HandleId) : Outcome Bool × Builders :=
  b.finish id .cancelled .cancel

end Builders

end HandleWatch
