import HandleWatch.Command.Basic
import HandleWatch.Command.World
import HandleWatch.Json.Printer
import HandleWatch.Log.Validation
import HandleWatch.Scenario.Load
import HandleWatch.Scenario.Replay

/-!
# Performing commands

What commands do in a world. A command that fails ends with the description of
its error.

The file for a log is emptied before the replay and holds the log after it, also
if the replay stops early. The report comes before the remarks on its failures.
-/

namespace HandleWatch.Command

variable {m : Type → Type} [Monad m]

/-- Remarks a line. -/
def remarkLine (w : World m) (line : String) : m Unit := w.remark (line ++ "\n")

/-- Takes the steps of a replay, with the clock set right before each. -/
def replaySteps (w : World m) :
    List Scenario.Step → Scenario.Replay → m (Except Scenario.RunError Unit × Scenario.Replay)
  | [], r => return (.ok (), r)
  | s :: rest, r => do
    let clock ← w.adjust r.emitter.clock
    match { r with emitter := { r.emitter with clock } }.step s with
    | (.ok (), r) => replaySteps w rest r
    | (.error e, r) => return (.error e, r)

/-- Replays a scenario, with the clock set right before each step. -/
def replay (w : World m) (scenario : Scenario) (runId : String) :
    m (Except Scenario.RunError Scenario.Report × Log.Emitter) := do
  let emitter : Log.Emitter := { scenario := scenario.name, runId, clock := ← w.clock }
  match Scenario.Replay.start scenario emitter with
  | (.error e, r) => return (.error e, r.emitter)
  | (.ok (), r) =>
    match ← replaySteps w scenario.steps r with
    | (.error e, r) => return (.error e, r.emitter)
    | (.ok (), r) =>
      let clock ← w.adjust r.emitter.clock
      return Scenario.Replay.finish scenario { r with emitter := { r.emitter with clock } }

/-- Makes a text the contents of a file, if there is a path for it. -/
def keep (w : World m) (path : Option String) (text : String) : m (Except FileFault Unit) :=
  match path with
  | some path => w.write path text
  | none => return .ok ()

/-- Tells a report, or keeps it in a file. -/
def deliver (w : World m) (path : Option String) (report : Scenario.Report) :
    m (Except FileFault Unit) := do
  let text := report.value.renderIndented ++ "\n"
  match path with
  | some path => w.write path text
  | none => do
    w.tell text
    return .ok ()

/-- Remarks on the verdict of a report. -/
def conclude (w : World m) (report : Scenario.Report) : m (Except String Unit) := do
  for f in report.failures do
    remarkLine w <|
      "FAIL step " ++ String.ofList (decimal f.step) ++ " (" ++ f.op ++ "): " ++ f.message
  if report.passed then do
    remarkLine w ("PASS " ++ report.scenario ++ " (log sha256 " ++ report.logSha256 ++ ")")
    return .ok ()
  else
    return .error <| quoted <|
      "scenario '" ++ report.scenario ++ "' failed: " ++
        String.ofList (decimal report.failures.length) ++ " of " ++
        String.ofList (decimal report.steps) ++ " steps"

/-- Replays the scenario in a file. -/
def performRun (w : World m) (path : String) (log output : Option String) (runId : String) :
    m (Except String Unit) := do
  match Scenario.load (← w.read path) with
  | .error e => return .error e.describe
  | .ok scenario => do
    remarkLine w <|
      "Running scenario '" ++ scenario.name ++ "' (" ++
        String.ofList (decimal scenario.steps.length) ++ " steps) from " ++ path
    match ← keep w log "" with
    | .error fault => return .error fault.describe
    | .ok () => do
      let (result, emitter) ← replay w scenario runId
      match ← keep w log emitter.medium.contents, result with
      | .error fault, _ => return .error (Scenario.RunError.io fault).describe
      | .ok (), .error e => return .error e.describe
      | .ok (), .ok report => do
        match ← deliver w output report with
        | .error fault => return .error fault.describe
        | .ok () => conclude w report

/-- Validates the log in a file. -/
def performValidateLog (w : World m) (path : String) : m (Except String Unit) := do
  match ← w.read path with
  | .error fault => return .error fault.describe
  | .ok text => do
    let (lines, findings) := Log.validate text
    for f in findings do
      remarkLine w f.text
    if findings.isEmpty then do
      remarkLine w (path ++ ": " ++ String.ofList (decimal lines) ++ " lines OK")
      return .ok ()
    else
      return .error <| quoted <|
        String.ofList (decimal findings.length) ++ " errors in " ++
          String.ofList (decimal lines) ++ " lines"

/-- Performs a command. -/
def perform (w : World m) : Command → m (Except String Unit)
  | .run scenario log output runId => performRun w scenario log output runId
  | .validateLog log => performValidateLog w log

/-- How commands are given. -/
def usage : String :=
  "usage: run --scenario PATH [--log PATH] [--output PATH] [--run-id ID]\n" ++
    "       validate-log --log PATH\n"

/-- Performs the command that arguments ask for. The exit code is `2` if they
    ask for none, and `1` if it fails. -/
def performArguments (w : World m) (args : List String) : m UInt32 := do
  match ofArguments? args with
  | none => do
    w.remark usage
    return 2
  | some command => do
    match ← perform w command with
    | .ok () => return 0
    | .error description => do
      remarkLine w ("Error: " ++ description)
      return 1

end HandleWatch.Command
