/-!
# The tally of a tracker

Counters of what happened, each a word of 64 bits that wraps around.
-/

namespace HandleWatch

/-- The counters of a tracker. -/
structure Tally where
  /-- Handles opened. -/
  registers : UInt64 := 0
  /-- Openings refused because the id was open. -/
  duplicateRegisters : UInt64 := 0
  /-- Handles closed. -/
  closes : UInt64 := 0
  /-- Attempts to close an id that was not open. -/
  invalidCloses : UInt64 := 0
  /-- Checks of an id before its use. -/
  validations : UInt64 := 0
  /-- Uses of handles in quarantine. -/
  useAfterClose : UInt64 := 0
  /-- Uses of ids that were not known. -/
  unknownHandles : UInt64 := 0
  /-- Reports that a hook accepted. -/
  reportsDelivered : UInt64 := 0
  /-- Reports that a hook refused. -/
  callbackFailures : UInt64 := 0
  /-- Handles that left the quarantine. -/
  evictions : UInt64 := 0
  /-- Referents whose release failed. -/
  releaseFailures : UInt64 := 0
  deriving DecidableEq, Repr

/-- The name of a counter. -/
inductive Counter where
  | registers
  | duplicateRegisters
  | closes
  | invalidCloses
  | validations
  | useAfterClose
  | unknownHandles
  | reportsDelivered
  | callbackFailures
  | evictions
  | releaseFailures
  deriving DecidableEq, Repr

namespace Tally

/-- The value of a counter. -/
def get (t : Tally) : Counter → UInt64
  | .registers => t.registers
  | .duplicateRegisters => t.duplicateRegisters
  | .closes => t.closes
  | .invalidCloses => t.invalidCloses
  | .validations => t.validations
  | .useAfterClose => t.useAfterClose
  | .unknownHandles => t.unknownHandles
  | .reportsDelivered => t.reportsDelivered
  | .callbackFailures => t.callbackFailures
  | .evictions => t.evictions
  | .releaseFailures => t.releaseFailures

/-- Counts on by `n`, and begins again after the last word. -/
def add (t : Tally) (n : UInt64) : Counter → Tally
  | .registers => { t with registers := t.registers + n }
  | .duplicateRegisters => { t with duplicateRegisters := t.duplicateRegisters + n }
  | .closes => { t with closes := t.closes + n }
  | .invalidCloses => { t with invalidCloses := t.invalidCloses + n }
  | .validations => { t with validations := t.validations + n }
  | .useAfterClose => { t with useAfterClose := t.useAfterClose + n }
  | .unknownHandles => { t with unknownHandles := t.unknownHandles + n }
  | .reportsDelivered => { t with reportsDelivered := t.reportsDelivered + n }
  | .callbackFailures => { t with callbackFailures := t.callbackFailures + n }
  | .evictions => { t with evictions := t.evictions + n }
  | .releaseFailures => { t with releaseFailures := t.releaseFailures + n }

/-- All invalid uses, if their number fits in a word. -/
def invalidUses? (t : Tally) : Option UInt64 :=
  if t.useAfterClose.toNat + t.unknownHandles.toNat < UInt64.size then
    some (t.useAfterClose + t.unknownHandles)
  else none

/-- The counters by name, in their order. -/
def counters (t : Tally) : List (String × UInt64) := [
    ("registers", t.registers),
    ("duplicate_registers", t.duplicateRegisters),
    ("closes", t.closes),
    ("invalid_closes", t.invalidCloses),
    ("validations", t.validations),
    ("use_after_close", t.useAfterClose),
    ("unknown_handles", t.unknownHandles),
    ("reports_delivered", t.reportsDelivered),
    ("callback_failures", t.callbackFailures),
    ("evictions", t.evictions),
    ("release_failures", t.releaseFailures)]

end Tally

end HandleWatch
