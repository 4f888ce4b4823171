import HandleWatch.Quarantine
import HandleWatch.Text.Blank

/-!
# Settings

Whether invalid uses are reported, and how many closed handles are kept. Both
can be set by the environment, which is read loosely: what makes no sense
counts as not set.
-/

namespace HandleWatch

/-- Whether invalid uses are reported. -/
inductive Mode where
  | report
  | off
  deriving DecidableEq, Repr

namespace Mode

/-- The name of a mode. -/
def name : Mode → String
  | report => "report"
  | off => "off"

/-- The name of a mode in the log of a scenario. -/
def title : Mode → String
  | report => "Report"
  | off => "Off"

/-- Whether uses are checked and invalid ones reported. -/
def validates : Mode → Bool
  | report => true
  | off => false

/-- The words that turn reports off. -/
def offWords : List String := ["off", "none", "universal", "disabled"]

/-- The mode that a text asks for, whatever its case and the blanks around it.
    Reports are on unless they are turned off. -/
def ofText (s : String) : Mode :=
  if String.ofList ((trimBlanks s.toList).map Char.toLower) ∈ offWords then off else report

end Mode

/-- The capacity for a size: there is no negative one. -/
def capacityOf (size : Int) : Nat := size.toNat

/-- The settings of a session. -/
structure Settings where
  mode : Mode := .report
  /-- How many closed handles are kept. -/
  capacity : Nat := Quarantine.defaultCapacity
  deriving DecidableEq, Repr

namespace Settings

/-- The variable that sets the mode. -/
def modeKey : String := "HANDLEGATE_MODE"

/-- The variable that sets the capacity. -/
def capacityKey : String := "HANDLEGATE_CLOSED_HANDLES_QUEUE_MAX_SIZE"

/-- The capacity that a text asks for. -/
def capacityOfText (s : String) : Nat :=
  match readInteger? (trimBlanks s.toList) with
  | some size => capacityOf size.toInt
  | none => Quarantine.defaultCapacity

/-- The settings of an environment. -/
def ofLookup (lookup : String → Option String) : Settings where
  mode := ((lookup modeKey).map Mode.ofText).getD .report
  capacity := ((lookup capacityKey).map capacityOfText).getD Quarantine.defaultCapacity

end Settings

end HandleWatch
