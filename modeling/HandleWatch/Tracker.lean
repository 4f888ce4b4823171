import HandleWatch.Builders
import HandleWatch.Detection
import HandleWatch.Settings

/-!
# Trackers

A tracker keeps the handles of a program: those that are open and, in
quarantine, those that were closed. It detects invalid uses, counts what
happens, and tracks builders on the side. At the end it releases every referent
it still holds (`Tracker.releaseAll`).
-/

namespace HandleWatch

/-- What closing an id comes to. -/
inductive CloseOutcome where
  /-- The handle was open; its record as it was, and the records of the handles
      that had to leave the quarantine for it. -/
  | closed (record : Record) (evicted : List Record)
  /-- The id was not open. -/
  | rejected (classification : Classification)
  deriving DecidableEq, Repr

/-- The records that left the quarantine. -/
def CloseOutcome.evicted : CloseOutcome → List Record
  | closed _ evicted => evicted
  | rejected _ => []

/-- What the release of all referents came to. -/
structure ReleaseSummary where
  /-- Referents of open handles. -/
  openReleased : Nat
  /-- Referents of handles in quarantine. -/
  quarantinedReleased : Nat
  /-- Releases that failed. -/
  failures : Nat
  deriving DecidableEq, Repr

/-- A tracker of handles with referents of type `α`. -/
structure Tracker (α : Type) where
  generation : Generation := 0
  table : OpenTable α := {}
  quarantine : Quarantine α
  sink : Sink InvalidUse := {}
  builders : Builders
  tally : Tally := {}

namespace Tracker

variable {α : Type}

/-- A tracker that keeps `capacity` closed handles, and as many finished
    builders. -/
def ofCapacity (capacity : Nat) : Tracker α where
  quarantine := { capacity }
  builders := { history := capacity }

/-- Opens a handle in the current generation. If the id is open already, the
    referent is released at once, which may crash. -/
def register (t : Tracker α) (id : HandleId) (referent : Referent α) :
    Transition (Tracker α) α Record :=
  match t.table.insert? id referent t.generation with
  | some (h, table) =>
    { outcome := .done h.record
      after := { t with table, tally := { t.tally with registers := t.tally.registers + 1 } } }
  | none =>
    match referent.failure with
    | some message => { outcome := .crashed message, after := t, released := [referent] }
    | none =>
      { outcome := .failed (.duplicateHandle id)
        after := { t with
          tally := { t.tally with duplicateRegisters := t.tally.duplicateRegisters + 1 } }
        released := [referent] }

/-- Counts the handles that left the quarantine. -/
def countEviction (tally : Tally) (e : Eviction α) : Tally :=
  { tally with
    evictions := tally.evictions + UInt64.ofNat e.handles.length
    releaseFailures := tally.releaseFailures + UInt64.ofNat e.failures }

/-- Checks the use of an id for an operation. -/
def detect (t : Tracker α) (id : HandleId) (operation : Operation) :
    Outcome Classification × Tracker α :=
  let (outcome, sink, tally) := HandleWatch.detect t.table t.quarantine t.sink t.tally id operation
  (outcome, { t with sink, tally })

/-- Closes a handle, or reports that its id is not open. -/
def close (t : Tracker α) (id : HandleId) : Transition (Tracker α) α CloseOutcome :=
  match t.table.remove? id with
  | some (h, table) =>
    let (eviction, quarantine) := t.quarantine.push h
    let tally := { t.tally with closes := t.tally.closes + 1 }
    { outcome := .done (.closed h.record eviction.records)
      after := { t with table, quarantine, tally := countEviction tally eviction }
      released := eviction.released }
  | none =>
    let counted := { t with tally := { t.tally with invalidCloses := t.tally.invalidCloses + 1 } }
    let (outcome, after) := counted.detect id .close
    { outcome := outcome.map .rejected, after }

/-- Checks an id before it is dereferenced. -/
def validate (t : Tracker α) (id : HandleId) : Outcome Classification × Tracker α :=
  detect { t with tally := { t.tally with validations := t.tally.validations + 1 } } id .dereference

/-- What an id stands for. -/
def classify (t : Tracker α) (id : HandleId) : Classification :=
  (HandleWatch.classify t.table t.quarantine id).1

/-- The referent of an open handle. -/
def referent? (t : Tracker α) (id : HandleId) : Option (Referent α) :=
  (t.table.find? id).map (·.referent)

/-- Begins a new generation. -/
def newGeneration (t : Tracker α) : Generation × Tracker α :=
  (Generation.next t.generation, { t with generation := Generation.next t.generation })

/-- Changes how many closed handles are kept, and gives the records of those
    that had to leave. -/
def resize (t : Tracker α) (size : Int) : Transition (Tracker α) α (List Record) :=
  let (eviction, quarantine) := t.quarantine.resize (capacityOf size)
  { outcome := .done eviction.records
    after := { t with quarantine, tally := countEviction t.tally eviction }
    released := eviction.released }

/-- Changes how many finished builders are remembered. -/
def setBuilderHistory (t : Tracker α) (size : Int) : Tracker α :=
  { t with builders := t.builders.setHistory (capacityOf size) }

/-- Installs a hook for reports on invalid uses. -/
def install (t : Tracker α) (hook : Hook InvalidUse) : Tracker α :=
  { t with sink := t.sink.install hook }

/-- Removes the hook for reports on invalid uses. -/
def uninstall (t : Tracker α) : Tracker α := { t with sink := t.sink.uninstall }

/-- Releases every referent: those of the open handles, the longest open first,
    and then those in quarantine, the longest closed first. A release that
    fails does not keep the others from theirs. -/
def releaseAll (t : Tracker α) : Transition (Tracker α) α ReleaseSummary :=
  let held := t.table.handles ++ t.quarantine.handles
  let failures := held.countP Handle.failsRelease
  { outcome := .done ⟨t.table.handles.length, t.quarantine.handles.length, failures⟩
    after := { t with
      table := { t.table with handles := [] }
      quarantine := { t.quarantine with handles := [] }
      tally := { t.tally with
        releaseFailures := t.tally.releaseFailures + UInt64.ofNat failures } }
    released := held.map (·.referent) }

end Tracker

end HandleWatch
