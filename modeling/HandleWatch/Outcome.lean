import HandleWatch.InvalidUse

/-!
# Outcomes

What an operation of a tracker comes to: a value, an error of the tracker, or a
crash that a hook or the release of a referent caused. Besides its outcome an
operation leaves a state behind, and the referents it released
(`Transition`).
-/

namespace HandleWatch

/-- The errors of a tracker. -/
inductive TrackerError where
  /-- The id is open already. -/
  | duplicateHandle (id : HandleId)
  /-- The id is not open. -/
  | notOpen (id : HandleId)
  /-- Records are made by trackers only. -/
  | constructionNotAllowed
  /-- The hook refused the report on an invalid use. -/
  | hookRefused (id : HandleId) (classification : Classification) (reason : String)
  /-- Handles were still open at the end of a leak window. -/
  | leak (records : List Record)
  /-- The leak window was not started. -/
  | windowNotStarted
  deriving DecidableEq, Repr

/-- The message of an error. -/
def TrackerError.message : TrackerError → String
  | duplicateHandle id => "handle " ++ id.text ++ " is already open"
  | notOpen id => "handle " ++ id.text ++ " is not open"
  | constructionNotAllowed => "handle records cannot be constructed directly"
  | hookRefused id classification reason =>
    "invalid-handle callback failed for " ++ id.text ++ " (" ++ classification.title ++ "): " ++
      reason
  | leak records => String.ofList (decimal records.length) ++ " handle(s) leaked"
  | windowNotStarted => "leak detector was not started"

/-- The outcome of an operation. -/
inductive Outcome (β : Type) where
  | done (value : β)
  | failed (error : TrackerError)
  | crashed (message : String)
  deriving DecidableEq, Repr

namespace Outcome

variable {β γ : Type}

/-- The outcome with its value through a function. -/
def map (f : β → γ) : Outcome β → Outcome γ
  | done b => done (f b)
  | failed e => failed e
  | crashed m => crashed m

end Outcome

/-- The outcome of releasing a referent on the way to `next`: the release may
    crash. -/
def Referent.releaseThen {α β : Type} (x : Referent α) (next : Outcome β) : Outcome β :=
  match x.failure with
  | some message => .crashed message
  | none => next

/-- An operation on a state `σ` that holds referents of type `α`. -/
structure Transition (σ α β : Type) where
  outcome : Outcome β
  /-- The state after the operation. -/
  after : σ
  /-- The referents released by it, in order. -/
  released : List (Referent α) := []

/-- The attempt to make a record that no tracker made. -/
def Record.make? (_id : HandleId) : Outcome Record := .failed .constructionNotAllowed

end HandleWatch
