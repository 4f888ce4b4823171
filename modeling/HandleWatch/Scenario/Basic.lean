import HandleWatch.Settings
import HandleWatch.InvalidUse

/-!
# Scenarios

A scenario is a list of steps to be replayed in a session: handles are opened,
used and closed under names, and the steps in between say what is expected.
-/

namespace HandleWatch

namespace Scenario

/-- What a step does. -/
inductive Op where
  | openHandle
  | close
  | dereference
  | duplicate
  | newGeneration
  | resize
  | expectOpen
  | expectClosed
  | expectReports
  | constructRecord
  deriving DecidableEq, Repr

namespace Op

/-- The name of an operation in a scenario. -/
def name : Op → String
  | openHandle => "open"
  | close => "close"
  | dereference => "deref"
  | duplicate => "dup"
  | newGeneration => "new_generation"
  | resize => "set_queue_max_size"
  | expectOpen => "expect_open"
  | expectClosed => "expect_closed"
  | expectReports => "expect_reports"
  | constructRecord => "construct_record"

/-- The name of an operation in messages about its fields. -/
def title : Op → String
  | openHandle => "Open"
  | close => "Close"
  | dereference => "Deref"
  | duplicate => "Dup"
  | newGeneration => "NewGeneration"
  | resize => "SetQueueMaxSize"
  | expectOpen => "ExpectOpen"
  | expectClosed => "ExpectClosed"
  | expectReports => "ExpectReports"
  | constructRecord => "ConstructRecord"

/-- All operations. -/
def all : List Op :=
  [openHandle, close, dereference, duplicate, newGeneration, resize, expectOpen, expectClosed,
    expectReports, constructRecord]

/-- The operation of a name. -/
def ofName? (s : String) : Option Op := all.find? fun op => op.name = s

end Op

/-- A step of a scenario. Handles are named by a name given to one when it was
    opened, or by `#` and an id. -/
inductive Step where
  /-- Opens a handle for a value, and names it. -/
  | openHandle (name value : String)
  /-- Closes a handle. -/
  | close (handle : String) (expect : Option Classification)
  /-- Uses a handle, and compares the value. -/
  | dereference (handle : String) (expect : Option Classification) (value : Option String)
  /-- Opens a second handle for the value of one, and names it. -/
  | duplicate (handle name : String)
  /-- Begins a new generation, and labels it. -/
  | newGeneration (label : Option String) (expect : Option UInt64)
  /-- Changes how many closed handles are kept. -/
  | resize (size : Int)
  /-- Compares the open handles, of a generation or later, with those named. -/
  | expectOpen (since : Option String) (handles : List String)
  /-- Compares the handles in quarantine with those named. -/
  | expectClosed (handles : List String)
  /-- Compares the number of reports so far, of all and of each kind. -/
  | expectReports (total : UInt64) (useAfterClose unknown : Option UInt64)
  /-- Attempts to make a record, which is not allowed. -/
  | constructRecord
  deriving DecidableEq, Repr

/-- What a step does. -/
def Step.op : Step → Op
  | openHandle _ _ => .openHandle
  | close _ _ => .close
  | dereference _ _ _ => .dereference
  | duplicate _ _ => .duplicate
  | newGeneration _ _ => .newGeneration
  | resize _ => .resize
  | expectOpen _ _ => .expectOpen
  | expectClosed _ => .expectClosed
  | expectReports _ _ _ => .expectReports
  | constructRecord => .constructRecord

end Scenario

/-- A scenario. -/
structure Scenario where
  name : String
  description : Option String
  /-- Whether invalid uses are reported, as text. -/
  mode : Option String
  /-- How many closed handles are kept. -/
  queueMaxSize : Option Int
  steps : List Scenario.Step
  deriving DecidableEq, Repr

/-- The settings of the session of a scenario. -/
def Scenario.settings (s : Scenario) : Settings where
  mode := (s.mode.map Mode.ofText).getD .report
  capacity := (s.queueMaxSize.map capacityOf).getD Quarantine.defaultCapacity

end HandleWatch
