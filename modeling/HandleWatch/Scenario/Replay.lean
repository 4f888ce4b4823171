import HandleWatch.Capture
import HandleWatch.Log.Emitter
import HandleWatch.Scenario.Basic

/-!
# Replaying scenarios

A scenario is replayed step by step in a new session, in which a capture keeps
the reports on invalid uses. The log has an entry at the start; for each step
an entry for every report that it caused and one for the step itself; and one
at the end. A step whose expectation fails is noted and the replay goes on. It
stops at a step that names what is not there, or if the log cannot be written.
-/

namespace HandleWatch.Scenario

/-- Why a replay stopped. -/
inductive RunError where
  /-- The log could not be written. -/
  | io (fault : FileFault)
  /-- No handle has this name. -/
  | unboundHandle (step : Nat) (name : String)
  /-- No generation has this label. -/
  | unknownGeneration (step : Nat) (label : String)
  /-- The tracker failed. -/
  | tracker (step : Nat) (error : TrackerError)
  /-- The tracker crashed. -/
  | crashed (step : Nat) (message : String)
  deriving DecidableEq, Repr

namespace RunError

/-- The sentence for an error. -/
def message : RunError → String
  | io fault => "i/o error: " ++ fault.message
  | unboundHandle step name =>
    "step " ++ String.ofList (decimal step) ++ ": no handle bound to '" ++ name ++ "'"
  | unknownGeneration step label =>
    "step " ++ String.ofList (decimal step) ++ ": no generation labelled '" ++ label ++ "'"
  | tracker step _ => "step " ++ String.ofList (decimal step) ++ ": tracker error"
  | crashed _ message => message

/-- The description of an error. -/
def describe : RunError → String
  | io fault => "Io(" ++ fault.describe ++ ")"
  | unboundHandle step name =>
    "UnboundHandle \x7b step: " ++ String.ofList (decimal step) ++ ", name: " ++ quoted name ++
      " \x7d"
  | unknownGeneration step label =>
    "UnknownGeneration \x7b step: " ++ String.ofList (decimal step) ++ ", label: " ++
      quoted label ++ " \x7d"
  | tracker step error =>
    "Tracker \x7b step: " ++ String.ofList (decimal step) ++ ", source: " ++ quoted error.message ++
      " \x7d"
  | crashed _ message => quoted message

end RunError

/-- A step whose expectation failed. -/
structure Failure where
  step : Nat
  op : String
  message : String
  deriving DecidableEq, Repr

/-- The report on a replay that came to its end. -/
structure Report where
  scenario : String
  steps : Nat
  passed : Bool
  failures : List Failure
  /-- How many invalid uses were reported. -/
  invalidUses : Nat
  tally : Tally
  openReleased : Nat
  quarantinedReleased : Nat
  logLines : Nat
  logSha256 : String
  deriving DecidableEq, Repr

/-- The counters of a tally, by name. -/
def tallyValue (t : Tally) : Json.Value :=
  .object (t.counters.map fun counter => (counter.1, .number (.nonneg counter.2)))

/-- A failure as a JSON value. -/
def Failure.value (f : Failure) : Json.Value :=
  .object [("step", .ofNat f.step), ("op", .string f.op), ("message", .string f.message)]

/-- A report as a JSON value. -/
def Report.value (r : Report) : Json.Value :=
  .object [
    ("scenario", .string r.scenario),
    ("steps", .ofNat r.steps),
    ("passed", .bool r.passed),
    ("failures", .array (r.failures.map Failure.value)),
    ("invalid_handle_reports", .ofNat r.invalidUses),
    ("metrics", tallyValue r.tally),
    ("open_released", .ofNat r.openReleased),
    ("quarantined_released", .ofNat r.quarantinedReleased),
    ("log_lines", .ofNat r.logLines),
    ("log_sha256", .string r.logSha256)]

/-- A replay under way. -/
structure Replay where
  session : Session String
  emitter : Log.Emitter
  /-- The names of handles, the latest first. -/
  handles : List (String × HandleId) := []
  /-- The labels of generations, the latest first. -/
  generations : List (String × Generation) := []
  /-- How many reports on invalid uses are in the log. -/
  logged : Nat := 0
  /-- How many steps were taken. -/
  index : Nat := 0
  failures : List Failure := []

namespace Replay

/-- The reports on invalid uses so far. -/
def capture (r : Replay) : Capture := ⟨r.session.heard⟩

/-- The handle of a name: one that was given the name, or else, after `#`, that
    of the id. -/
def resolve (r : Replay) (name : String) : Except RunError HandleId :=
  match r.handles.lookup name with
  | some id => .ok id
  | none =>
    match name.toList with
    | '#' :: digits =>
      match readWord? digits with
      | some n => .ok ⟨n⟩
      | none => .error (.unboundHandle r.index name)
    | _ => .error (.unboundHandle r.index name)

/-- The generation of a label, or the first one. -/
def generation (r : Replay) : Option String → Except RunError Generation
  | none => .ok 0
  | some label =>
    match r.generations.lookup label with
    | some g => .ok g
    | none => .error (.unknownGeneration r.index label)

/-- The value of an outcome, if it has one. -/
def settle {β : Type} (r : Replay) : Outcome β → Except RunError β
  | .done b => .ok b
  | .failed e => .error (.tracker r.index e)
  | .crashed m => .error (.crashed r.index m)

/-- What is wrong with a classification, if another was expected. -/
def checkClassification (expect : Option Classification) (got : Classification) : Option String :=
  match expect with
  | some want =>
    if want = got then none
    else some ("expected classification " ++ want.name ++ ", got " ++ got.name)
  | none => none

/-- What is wrong with a list of handles, if another was expected. -/
def checkHandles (what : String) (want got : List HandleId) : Option String :=
  if want = got then none
  else
    some ("expected " ++ what ++ " " ++ quotedList (want.map HandleId.text) ++ ", got " ++
      quotedList (got.map HandleId.text))

/-- What is wrong with a number of reports, if another was expected. -/
def checkCount (what : String) (want : Option UInt64) (got : Nat) : Option String :=
  match want with
  | some want =>
    if want.toNat = got then none
    else
      some ("expected " ++ String.ofList (decimal want.toNat) ++ " " ++ what ++ " reports, got " ++
        String.ofList (decimal got))
  | none => none

/-- Takes a step in the session, and tells what was not as expected. -/
def execute (r : Replay) : Step → Except RunError (Option String × Replay)
  | .openHandle name value => do
    let t := r.session.openHandle ⟨value, none⟩
    let id ← r.settle t.outcome
    return (none, { r with session := t.after, handles := (name, id) :: r.handles })
  | .close handle expect => do
    let id ← r.resolve handle
    let t := r.session.close id
    let got := match ← r.settle t.outcome with
      | .closed _ _ => .valid
      | .rejected classification => classification
    return (checkClassification expect got, { r with session := t.after })
  | .dereference handle expect value => do
    let id ← r.resolve handle
    let (outcome, session) := r.session.dereference id
    let read := (← r.settle outcome).map (·.value)
    let got := match read with
      | some _ => .valid
      | none => session.tracker.classify id
    let failure := match checkClassification expect got, value with
      | some failure, _ => some failure
      | none, some want =>
        if read = some want then none
        else some ("expected referent " ++ quoted want ++ ", got " ++ quotedOption read)
      | none, none => none
    return (failure, { r with session })
  | .duplicate handle name => do
    let id ← r.resolve handle
    let t := r.session.duplicate id
    match ← r.settle t.outcome with
    | some id => return (none, { r with session := t.after, handles := (name, id) :: r.handles })
    | none =>
      return (some ("cannot dup invalid handle '" ++ handle ++ "'"), { r with session := t.after })
  | .newGeneration label expect =>
    let (generation, session) := r.session.newGeneration
    let generations := match label with
      | some label => (label, generation) :: r.generations
      | none => r.generations
    let failure := match expect with
      | some want =>
        if want.toNat = generation then none
        else
          some ("expected generation " ++ String.ofList (decimal want.toNat) ++ ", got " ++
            String.ofList (decimal generation))
      | none => none
    .ok (failure, { r with session, generations })
  | .resize size => .ok (none, { r with session := (r.session.resize size).after })
  | .expectOpen since handles => do
    let generation ← r.generation since
    let want ← handles.mapM r.resolve
    return (checkHandles "open handles" want ((r.session.openRecords generation).map (·.id)), r)
  | .expectClosed handles => do
    let want ← handles.mapM r.resolve
    return (checkHandles "closed handles" want (r.session.closedRecords.map (·.id)), r)
  | .expectReports total useAfterClose unknown =>
    let failure :=
      (checkCount "total" (some total) r.capture.count).or <|
        (checkCount "use_after_close" useAfterClose (r.capture.countOf .useAfterClose)).or <|
          checkCount "unknown" unknown (r.capture.countOf .unknown)
    .ok (failure, r)
  | .constructRecord =>
    let failure := match Record.make? ⟨1⟩ with
      | .failed .constructionNotAllowed => none
      | .failed e => some ("unexpected construction error: " ++ e.message)
      | .done record => some ("record constructed directly: " ++ record.text)
      | .crashed m => some m
    .ok (failure, r)

/-- Writes an entry of the log: the next one, with some more fields. -/
def write (r : Replay) (severity : Log.Severity) (event : String) (fill : Log.Entry → Log.Entry) :
    Except RunError Unit × Replay :=
  let (e, emitter) := r.emitter.entry severity event
  match emitter.emit (fill e) with
  | (.ok (), emitter) => (.ok (), { r with emitter })
  | (.error fault, emitter) => (.error (.io fault), { r with emitter })

/-- Writes the entries of reports on invalid uses. -/
def writeReports (op : Op) : List InvalidUse → Replay → Except RunError Unit × Replay
  | [], r => (.ok (), r)
  | u :: us, r =>
    match r.write .warn "invalid_handle" fun e => (e.withStep r.index op.name).withReport u with
    | (.ok (), r) => writeReports op us { r with logged := r.logged + 1 }
    | (.error e, r) => (.error e, r)

/-- Writes the entry of a step. -/
def writeStep (r : Replay) (op : Op) : Option String → Except RunError Unit × Replay
  | none =>
    r.write .info ("step." ++ op.name) fun e =>
      { e.withStep r.index op.name with verdict := some .pass }
  | some message =>
    r.write .info ("step." ++ op.name) fun e =>
      { e.withStep r.index op.name with
        severity := .error
        verdict := some .fail
        details := some (.object [("message", .string message)]) }

/-- Takes a step: in the session, and in the log. -/
def step (r : Replay) (s : Step) : Except RunError Unit × Replay :=
  match r.execute s with
  | .error e => (.error e, r)
  | .ok (failure, r) =>
    match writeReports s.op (r.capture.since r.logged) r with
    | (.error e, r) => (.error e, r)
    | (.ok (), r) =>
      match r.writeStep s.op failure with
      | (.error e, r) => (.error e, r)
      | (.ok (), r) =>
        let failures := match failure with
          | some message => r.failures ++ [⟨r.index, s.op.name, message⟩]
          | none => r.failures
        (.ok (), { r with failures, index := r.index + 1 })

/-- Takes steps until one stops the replay. -/
def steps : List Step → Replay → Except RunError Unit × Replay
  | [], r => (.ok (), r)
  | s :: rest, r =>
    match r.step s with
    | (.ok (), r) => steps rest r
    | (.error e, r) => (.error e, r)

/-- The beginning of a replay. -/
def start (scenario : Scenario) (emitter : Log.Emitter) : Except RunError Unit × Replay :=
  let session := (Session.ofSettings scenario.settings).install .recorder
  let details : Json.Value := .object [
    ("mode", .string session.mode.title),
    ("queue_max_size", .ofNat session.tracker.quarantine.capacity),
    ("steps", .ofNat scenario.steps.length)]
  let r : Replay := { session, emitter }
  r.write .info "scenario.start" fun e => { e with details := some details }

/-- The end of a replay: the session is torn down and the log brought to safety. -/
def finish (scenario : Scenario) (r : Replay) : Except RunError Report × Log.Emitter :=
  let tally := r.session.tracker.tally
  let summary := match r.session.tracker.releaseAll.outcome with
    | .done summary => summary
    | _ => ⟨0, 0, 0⟩
  let passed := r.failures.isEmpty
  let details : Json.Value := .object [
    ("metrics", (tallyValue tally).canonical),
    ("open_released", .ofNat summary.openReleased),
    ("quarantined_released", .ofNat summary.quarantinedReleased),
    ("release_failures", .ofNat summary.failures)]
  match r.write (if passed then .info else .error) "scenario.end" fun e =>
      { e with verdict := some (if passed then .pass else .fail), details := some details } with
  | (.error e, r) => (.error e, r.emitter)
  | (.ok (), r) =>
    match r.emitter.flush with
    | .error fault => (.error (.io fault), r.emitter)
    | .ok () =>
      (.ok
        { scenario := scenario.name
          steps := scenario.steps.length
          passed
          failures := r.failures
          invalidUses := r.capture.count
          tally
          openReleased := summary.openReleased
          quarantinedReleased := summary.quarantinedReleased
          logLines := r.emitter.lines
          logSha256 := r.emitter.sha256 }, r.emitter)

end Replay

/-- Replays a scenario. -/
def run (scenario : Scenario) (emitter : Log.Emitter) : Except RunError Report × Log.Emitter :=
  match Replay.start scenario emitter with
  | (.error e, r) => (.error e, r.emitter)
  | (.ok (), r) =>
    match Replay.steps scenario.steps r with
    | (.error e, r) => (.error e, r.emitter)
    | (.ok (), r) => Replay.finish scenario r

end HandleWatch.Scenario
