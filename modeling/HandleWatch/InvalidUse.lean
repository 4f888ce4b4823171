import HandleWatch.Handle

/-!
# Invalid uses

How an id is classified when it is used, and the report on a use that is not
valid.
-/

namespace HandleWatch

/-- What an id stands for at the time of its use. -/
inductive Classification where
  /-- An open handle. -/
  | valid
  /-- A handle that was closed and is still in quarantine. -/
  | useAfterClose
  /-- No handle that is known. -/
  | unknown
  deriving DecidableEq, Repr

namespace Classification

/-- The name of a classification. -/
def name : Classification → String
  | valid => "valid"
  | useAfterClose => "use_after_close"
  | unknown => "unknown"

/-- The name of a classification in error messages. -/
def title : Classification → String
  | valid => "Valid"
  | useAfterClose => "UseAfterClose"
  | unknown => "Unknown"

/-- The names of all classifications. -/
def names : List String := [valid.name, useAfterClose.name, unknown.name]

/-- The classification of a name. -/
def ofName? (s : String) : Option Classification :=
  [valid, useAfterClose, unknown].find? fun c => c.name = s

end Classification

/-- What was to be done with a handle. -/
inductive Operation where
  | dereference
  | close
  deriving DecidableEq, Repr

/-- The name of an operation. -/
def Operation.name : Operation → String
  | dereference => "dereference"
  | close => "close"

/-- The report on a use of an id that was not valid. -/
structure InvalidUse where
  id : HandleId
  classification : Classification
  /-- The generation of the handle that was used, if it is known. -/
  generation : Option Generation
  /-- The sequence number of that handle, if it is known. -/
  sequence : Option Nat
  operation : Operation
  deriving DecidableEq, Repr

end HandleWatch
