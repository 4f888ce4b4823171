import HandleWatch.InvalidUse
import HandleWatch.Json.Printer

/-!
# Log entries

An entry of a log says when something happened in which run, how severe it is,
and what it is; and then, if they apply, the step of the scenario, the report
on an invalid use, the outcome, and any details. An entry is written as a JSON
object on one line (`Entry.line`), its fields in a fixed order and the absent
ones left out.
-/

namespace HandleWatch.Log

/-- How severe an entry is. -/
inductive Severity where
  | trace
  | debug
  | info
  | warn
  | error
  deriving DecidableEq, Repr

namespace Severity

/-- The name of a severity. -/
def name : Severity → String
  | trace => "trace"
  | debug => "debug"
  | info => "info"
  | warn => "warn"
  | error => "error"

/-- All severities, the least severe first. -/
def all : List Severity := [trace, debug, info, warn, error]

/-- The severity of a name. -/
def ofName? (s : String) : Option Severity := all.find? fun x => x.name = s

end Severity

/-- How a step or a run ended. -/
inductive Verdict where
  | pass
  | fail
  | error
  deriving DecidableEq, Repr

namespace Verdict

/-- The name of a verdict. -/
def name : Verdict → String
  | pass => "pass"
  | fail => "fail"
  | error => "error"

/-- All verdicts. -/
def all : List Verdict := [pass, fail, error]

/-- The verdict of a name. -/
def ofName? (s : String) : Option Verdict := all.find? fun x => x.name = s

end Verdict

/-- An entry of a log. -/
structure Entry where
  timestamp : String
  /-- The run and the number of the entry in it. -/
  traceId : String
  severity : Severity
  event : String
  scenario : Option String := none
  /-- The number of the step in its scenario, from `0`. -/
  step : Option UInt64 := none
  /-- What the step does. -/
  op : Option String := none
  handle : Option UInt64 := none
  classification : Option String := none
  operation : Option String := none
  generation : Option UInt64 := none
  sequence : Option UInt64 := none
  verdict : Option Verdict := none
  details : Option Json.Value := none

namespace Entry

/-- The entry with a step. -/
def withStep (e : Entry) (index : Nat) (op : String) : Entry :=
  { e with step := some (UInt64.ofNat index), op := some op }

/-- The entry with the report on an invalid use. -/
def withReport (e : Entry) (u : InvalidUse) : Entry :=
  { e with
    handle := some u.id.raw
    classification := some u.classification.name
    operation := some u.operation.name
    generation := u.generation.map UInt64.ofNat
    sequence := u.sequence.map UInt64.ofNat }

/-- The fields of an entry in their order, the absent ones left out. -/
def fields (e : Entry) : List (String × Json.Value) :=
  let text (s : String) := Json.Value.string s
  let word (n : UInt64) := Json.Value.number (.nonneg n)
  let field {α : Type} (name : String) (write : α → Json.Value) (a : Option α) :
      List (String × Json.Value) := (a.map fun a => (name, write a)).toList
  [("timestamp", text e.timestamp), ("trace_id", text e.traceId),
    ("level", text e.severity.name), ("event", text e.event)] ++
    field "scenario" text e.scenario ++ field "step" word e.step ++ field "op" text e.op ++
    field "handle" word e.handle ++ field "classification" text e.classification ++
    field "operation" text e.operation ++ field "creation_generation" word e.generation ++
    field "sequence" word e.sequence ++ field "outcome" (fun v => text v.name) e.verdict ++
    field "details" id e.details

/-- The entry as a line of a log. -/
def line (e : Entry) : String := (Json.Value.object e.fields).render

end Entry

end HandleWatch.Log
