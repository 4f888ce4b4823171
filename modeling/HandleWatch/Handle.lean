import HandleWatch.Text.Numeral

/-!
# Handles

A handle stands for a referent, under an id, and goes through three states: it
is open, then closed and kept in quarantine, then discarded. It never goes
back (`Handle.advance`).
-/

namespace HandleWatch

/-- The id of a handle, a word of 64 bits. -/
structure HandleId where
  raw : UInt64
  deriving DecidableEq, Repr

/-- An id in hexadecimal digits. -/
def HandleId.text (id : HandleId) : String :=
  "0x" ++ String.ofList (hexadecimal id.raw.toNat)

/-- Generations number the stretches of a run, from `0`. -/
abbrev Generation := Nat

/-- The last generation, which no other follows. -/
def Generation.last : Generation := UInt64.size - 1

/-- The generation after another one, or the last one again. -/
def Generation.next (g : Generation) : Generation := min (g + 1) last

/-- The state of a handle. -/
inductive HandleState where
  | opened
  | quarantined
  | discarded
  deriving DecidableEq, Repr

namespace HandleState

/-- How far along its life a handle is. -/
def rank : HandleState → Nat
  | opened => 0
  | quarantined => 1
  | discarded => 2

/-- The name of a state. -/
def name : HandleState → String
  | opened => "open"
  | quarantined => "quarantined"
  | discarded => "discarded"

/-- The name of a state in the text of a record. -/
def title : HandleState → String
  | opened => "Open"
  | quarantined => "Quarantined"
  | discarded => "Discarded"

end HandleState

/-- What is known of a handle without its referent. -/
structure Record where
  id : HandleId
  /-- The generation in which it was opened. -/
  generation : Generation
  /-- How many handles were opened before it. -/
  sequence : Nat
  state : HandleState
  deriving DecidableEq, Repr

/-- The text of a record. -/
def Record.text (r : Record) : String :=
  "<handle " ++ r.id.text ++ " gen=" ++ String.ofList (decimal r.generation) ++ " seq=" ++
    String.ofList (decimal r.sequence) ++ " " ++ r.state.title ++ ">"

/-- What a handle stands for. Its release may fail, with a message. -/
structure Referent (α : Type) where
  value : α
  /-- The message with which its release fails, if it does. -/
  failure : Option String := none
  deriving DecidableEq, Repr

/-- A handle: its record and its referent. -/
structure Handle (α : Type) where
  record : Record
  referent : Referent α
  deriving DecidableEq, Repr

namespace Handle

variable {α : Type}

/-- The id of a handle. -/
def id (h : Handle α) : HandleId := h.record.id

/-- Whether a handle is no longer open. -/
def isClosed (h : Handle α) : Bool := h.record.state != .opened

/-- A handle moved on to a state, or left in its own if that is no further. -/
def advance (h : Handle α) (state : HandleState) : Handle α :=
  if h.record.state.rank < state.rank then { h with record := { h.record with state } } else h

/-- Whether the release of the referent fails. -/
def failsRelease (h : Handle α) : Bool := h.referent.failure.isSome

end Handle

end HandleWatch
