import HandleWatch.Calendar
import HandleWatch.FileFault
import HandleWatch.Log.Entry
import HandleWatch.Sha256

/-!
# Emitters

An emitter makes the entries of one run, stamps them with the time and a trace
id, and writes them to a medium, one on a line. It counts the lines and hashes
them as they are written.

A medium is where a log is written. It may fail at some of the attempts to
write, and then nothing of that attempt is written; and it may fail to bring
what was written to safety.
-/

namespace HandleWatch.Log

/-- Where a log is written. -/
structure Medium where
  contents : String := ""
  /-- How often it was attempted to write. -/
  attempts : Nat := 0
  /-- The fault of an attempt, by its number from `0`, if it fails. -/
  writeFault : Nat → Option FileFault := fun _ => none
  /-- The fault of bringing the contents to safety, if that fails. -/
  flushFault : Option FileFault := none

/-- Writes a text at the end. -/
def Medium.write (m : Medium) (text : String) : Except FileFault Unit × Medium :=
  match m.writeFault m.attempts with
  | some fault => (.error fault, { m with attempts := m.attempts + 1 })
  | none => (.ok (), { m with contents := m.contents ++ text, attempts := m.attempts + 1 })

/-- The bytes of a text. -/
def textBytes (text : String) : List UInt8 := text.toUTF8.data.toList

/-- An emitter. -/
structure Emitter where
  scenario : String
  runId : String
  clock : Clock
  medium : Medium := {}
  /-- The hasher of what was written. -/
  hasher : Sha256.Hasher := .empty
  /-- The number of the last trace id. -/
  sequence : Nat := 0
  /-- How many lines were written. -/
  lines : Nat := 0

namespace Emitter

/-- The trace id of a number. -/
def traceId (m : Emitter) (n : Nat) : String :=
  m.scenario ++ "::" ++ m.runId ++ "::" ++ String.ofList (paddedDecimal 3 n)

/-- An entry with any trace id, stamped with the time. -/
def stamp (m : Emitter) (traceId : String) (severity : Severity) (event : String) :
    Entry × Emitter :=
  ({ timestamp := m.clock.now.text, traceId, severity, event }, { m with clock := m.clock.next })

/-- The next entry of the run. -/
def entry (m : Emitter) (severity : Severity) (event : String) : Entry × Emitter :=
  let n := m.sequence + 1
  let (e, m) := { m with sequence := n }.stamp (m.traceId n) severity event
  ({ e with scenario := some m.scenario }, m)

/-- The entry with the next trace id, if it has none, and the scenario, if it
    has none. -/
def complete (m : Emitter) (e : Entry) : Entry × Emitter :=
  let (e, m) :=
    if e.traceId.isEmpty then
      let n := m.sequence + 1
      ({ e with traceId := m.traceId n }, { m with sequence := n })
    else (e, m)
  ({ e with scenario := some (e.scenario.getD m.scenario) }, m)

/-- Writes an entry, completed, on a line. -/
def emit (m : Emitter) (e : Entry) : Except FileFault Unit × Emitter :=
  let (e, m) := m.complete e
  let text := e.line ++ "\n"
  match m.medium.write text with
  | (.ok (), medium) =>
    (.ok (), { m with medium, hasher := m.hasher.update (textBytes text), lines := m.lines + 1 })
  | (.error fault, medium) => (.error fault, { m with medium })

/-- Writes the next entry of the run. -/
def emitNext (m : Emitter) (severity : Severity) (event : String) :
    Except FileFault Entry × Emitter :=
  let (e, m) := m.entry severity event
  match m.emit e with
  | (.ok (), m) => (.ok e, m)
  | (.error fault, m) => (.error fault, m)

/-- The hash of all that was written. -/
def sha256 (m : Emitter) : String := Sha256.hex m.hasher.finish

/-- Brings what was written to safety. -/
def flush (m : Emitter) : Except FileFault Unit :=
  match m.medium.flushFault with
  | some fault => .error fault
  | none => .ok ()

end Emitter

end HandleWatch.Log
