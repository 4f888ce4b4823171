import HandleWatch.FileFault
import HandleWatch.Scenario.Parser

/-!
# Loading scenarios

A scenario is loaded from what was read of a file: from its text, if there is
one.
-/

namespace HandleWatch.Scenario

/-- Why a scenario could not be loaded. -/
inductive LoadError where
  | io (fault : FileFault)
  | json (error : Json.Error)

/-- The sentence for an error. -/
def LoadError.message : LoadError → String
  | io fault => "i/o error: " ++ fault.message
  | json error => "invalid scenario JSON: " ++ error.message

/-- The description of an error. -/
def LoadError.describe : LoadError → String
  | io fault => "Io(" ++ fault.describe ++ ")"
  | json error => "Json(" ++ error.describe ++ ")"

/-- Loads a scenario. -/
def load (text : Except FileFault String) : Except LoadError Scenario :=
  match text with
  | .error fault => .error (.io fault)
  | .ok text => (parse text).mapError .json

end HandleWatch.Scenario
