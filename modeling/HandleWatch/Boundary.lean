import HandleWatch.Session

/-!
# The boundary to C

Sessions as a C program sees them: contexts by number, handles and tokens as
words, and results as codes. A null or freed context, and a report that the
callback of the program answers with anything but zero, give the error code.
-/

namespace HandleWatch

/-- The code of a classification. -/
def Classification.code : Classification → Int
  | valid => 0
  | useAfterClose => 1
  | unknown => 2

/-- The code of an operation. -/
def Operation.code : Operation → Int
  | dereference => 0
  | close => 1

namespace Boundary

/-- The code of an error. -/
def errorCode : Int := -1

/-- A report as the callback of a C program gets it. -/
structure Report where
  handle : UInt64
  classification : Int
  operation : Int
  /-- `1` if the generation and the sequence number are known, and `0` if not. -/
  hasProvenance : Int
  /-- The generation of the handle, or `0`. -/
  generation : Nat
  /-- The sequence number of the handle, or `0`. -/
  sequence : Nat
  deriving DecidableEq, Repr

/-- The report on an invalid use. -/
def Report.ofUse (u : InvalidUse) : Report where
  handle := u.id.raw
  classification := u.classification.code
  operation := u.operation.code
  hasProvenance := if u.sequence.isSome then 1 else 0
  generation := u.generation.getD 0
  sequence := u.sequence.getD 0

/-- The callback of a C program: the code it returns for a report, given the
    earlier ones. -/
abbrev Callback := List Report → Report → Int

/-- A callback as a hook. -/
def Callback.hook (callback : Callback) : Hook InvalidUse where
  answer earlier u :=
    let code := callback (earlier.map .ofUse) (.ofUse u)
    if code = 0 then .accept
    else .refuse ("invalid-handle callback returned " ++ String.ofList (signedDecimal code))

end Boundary

/-- The contexts of a C program, by number; those that were freed are gone. -/
structure Boundary where
  contexts : List (Option (Session UInt64)) := []

namespace Boundary

/-- The session of a context, if it is one. -/
def session? (b : Boundary) (context : Option Nat) : Option (Session UInt64) := do
  (← b.contexts[← context]?)

/-- The boundary with the session of a context changed. -/
def set (b : Boundary) (context : Option Nat) (session : Option (Session UInt64)) : Boundary :=
  match context with
  | some k => { b with contexts := b.contexts.set k session }
  | none => b

/-- A new context. The size overrides the capacity of the settings. -/
def new (b : Boundary) (settings : Settings) (size : Int) : Nat × Boundary :=
  (b.contexts.length,
    ⟨b.contexts ++ [some (.ofSettings { settings with capacity := capacityOf size })]⟩)

/-- Frees a context, and with it all its handles. -/
def free (b : Boundary) (context : Option Nat) : Boundary := b.set context none

/-- A handle for a token, or the null handle. -/
def openToken (b : Boundary) (context : Option Nat) (token : UInt64) : UInt64 × Boundary :=
  match b.session? context with
  | none => (HandleId.null.raw, b)
  | some s =>
    let step := s.openHandle ⟨token, none⟩
    let handle := match step.outcome with
      | .done id => id.raw
      | _ => HandleId.null.raw
    (handle, b.set context step.after)

/-- Closes a handle. -/
def close (b : Boundary) (context : Option Nat) (handle : UInt64) : Int × Boundary :=
  match b.session? context with
  | none => (errorCode, b)
  | some s =>
    let step := s.close ⟨handle⟩
    let code := match step.outcome with
      | .done (.closed _ _) => Classification.valid.code
      | .done (.rejected classification) => classification.code
      | _ => errorCode
    (code, b.set context step.after)

/-- Dereferences a handle: the code, and the token if it was found. -/
def dereference (b : Boundary) (context : Option Nat) (handle : UInt64) :
    (Int × Option UInt64) × Boundary :=
  match b.session? context with
  | none => ((errorCode, none), b)
  | some s =>
    let (outcome, s) := s.dereference ⟨handle⟩
    let result := match outcome with
      | .done (some token) => (Classification.valid.code, some token.value)
      | .done none => ((s.tracker.classify ⟨handle⟩).code, none)
      | _ => (errorCode, none)
    (result, b.set context s)

/-- Begins a new generation; there is none without a context. -/
def newGeneration (b : Boundary) (context : Option Nat) : Generation × Boundary :=
  match b.session? context with
  | none => (0, b)
  | some s =>
    let (generation, s) := s.newGeneration
    (generation, b.set context s)

/-- How many closed handles a context keeps, as a word with a sign. -/
def capacity (b : Boundary) (context : Option Nat) : Nat :=
  match b.session? context with
  | none => 0
  | some s => min s.tracker.quarantine.capacity 0x7fffffffffffffff

/-- Changes how many closed handles a context keeps. -/
def resize (b : Boundary) (context : Option Nat) (size : Int) : Boundary :=
  match b.session? context with
  | none => b
  | some s => b.set context (s.resize size).after

/-- Installs a callback, or removes it. -/
def setCallback (b : Boundary) (context : Option Nat) (callback : Option Callback) : Boundary :=
  match b.session? context with
  | none => b
  | some s =>
    b.set context <| match callback with
      | some callback => s.install callback.hook
      | none => s.uninstall

end Boundary

end HandleWatch
