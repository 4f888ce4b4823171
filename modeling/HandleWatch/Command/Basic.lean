/-!
# Commands

What the command line asks for: to replay a scenario, or to validate a log. The
first argument names the command, and options follow in any order, each with
its value in the next argument or after an equals sign. No option may be given
twice, a value in an argument of its own does not start with a dash, unless it
is one, and paths are not empty. Two dashes end the options, and nothing may
follow them.
-/

namespace HandleWatch

/-- A command. -/
inductive Command where
  /-- Replays a scenario, keeping the log and the report in files if there are
      paths for them. -/
  | run (scenario : String) (log output : Option String) (runId : String)
  /-- Validates a log. -/
  | validateLog (log : String)
  deriving DecidableEq, Repr

namespace Command

/-- The run id, if none is given. -/
def defaultRunId : String := "local"

/-- Splits an option at its first equals sign, if it has one. -/
def splitOption (cs : List Char) : List Char × Option (List Char) :=
  match cs.dropWhile (· != '=') with
  | [] => (cs, none)
  | _ :: value => (cs.takeWhile (· != '='), some value)

/-- Whether an argument can only be an option. -/
def isOption : List Char → Bool
  | '-' :: _ :: _ => true
  | _ => false

/-- The options among arguments, with their values, of those that are known. -/
def options? (known : List String) : List String → Option (List (String × String))
  | [] => some []
  | arg :: args =>
    if arg = "--" then
      if args.isEmpty then some [] else none
    else
      match arg.toList with
      | '-' :: '-' :: cs =>
        let (name, value) := splitOption cs
        let name := String.ofList name
        if name ∈ known then
          match value, args with
          | some value, args => (options? known args).map ((name, String.ofList value) :: ·)
          | none, value :: args =>
            if isOption value.toList then none
            else (options? known args).map ((name, value) :: ·)
          | none, [] => none
        else none
      | _ => none

/-- Whether no option is given twice. -/
def areDistinct : List (String × String) → Bool
  | [] => true
  | o :: os => !(os.any (·.1 == o.1)) && areDistinct os

/-- The path that an option gives, if it is given. -/
def path? (options : List (String × String)) (name : String) : Option (Option String) :=
  match options.lookup name with
  | none => some none
  | some path => if path.isEmpty then none else some (some path)

/-- The command that arguments ask for. -/
def ofArguments? : List String → Option Command
  | [] => none
  | command :: args =>
    if command = "run" then do
      let options ← options? ["scenario", "log", "output", "run-id"] args
      guard (areDistinct options)
      let scenario ← ← path? options "scenario"
      let log ← path? options "log"
      let output ← path? options "output"
      return .run scenario log output ((options.lookup "run-id").getD defaultRunId)
    else if command = "validate-log" then do
      let options ← options? ["log"] args
      guard (areDistinct options)
      let log ← ← path? options "log"
      return .validateLog log
    else none

end Command

end HandleWatch
