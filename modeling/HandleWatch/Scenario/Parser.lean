import HandleWatch.Json.Parser
import HandleWatch.Json.Schema
import HandleWatch.Scenario.Basic

/-!
# Reading scenarios

A scenario is written in JSON, as an object or as an array of its fields, and so
is each of its steps, by the operation and then the fields of that. The fields
of a scenario are checked as they are read. Those of a step are read first and
then checked, against the schema of its operation.
-/

namespace HandleWatch.Scenario

/-- The fields of a step, after its operation. -/
def Op.schema : Op → Json.Schema
  | openHandle => [{ name := "name", kind := .text }, { name := "value", kind := .text }]
  | close => [
      { name := "handle", kind := .text },
      { name := "expect", kind := .choice Classification.names true, isOptional := true }]
  | dereference => [
      { name := "handle", kind := .text },
      { name := "expect", kind := .choice Classification.names true, isOptional := true },
      { name := "value", kind := .text, isOptional := true }]
  | duplicate => [{ name := "handle", kind := .text }, { name := "name", kind := .text }]
  | newGeneration => [
      { name := "label", kind := .text, isOptional := true },
      { name := "expect", kind := .word "u64", isOptional := true }]
  | resize => [{ name := "size", kind := .integer }]
  | expectOpen => [
      { name := "since", kind := .text, isOptional := true },
      { name := "handles", kind := .texts }]
  | expectClosed => [{ name := "handles", kind := .texts }]
  | expectReports => [
      { name := "total", kind := .word "usize" },
      { name := "use_after_close", kind := .word "usize", isOptional := true },
      { name := "unknown", kind := .word "usize", isOptional := true }]
  | constructRecord => []

/-- A full list of the fields of an operation, in words. -/
def Op.expectedItems (op : Op) : String :=
  let n := op.schema.length
  "struct variant Step::" ++ op.title ++ " with " ++ String.ofList (decimal n) ++
    (if n = 1 then " element" else " elements")

/-- The classification that a value names. -/
def classification? (v : Json.Value) : Except Json.Cause Classification := do
  let name ← v.choice? Classification.names true
  match Classification.ofName? name with
  | some c => .ok c
  | none => .error (.unknownVariant name Classification.names)

/-- A step of fields that fit the schema of its operation. -/
def Step.build (op : Op) (fields : List (String × Json.Value)) : Except Json.Cause Step := do
  match op with
  | .openHandle =>
    return .openHandle (← Json.required fields "name" Json.Value.text?)
      (← Json.required fields "value" Json.Value.text?)
  | .close =>
    return .close (← Json.required fields "handle" Json.Value.text?)
      (← Json.optionalField fields "expect" classification?)
  | .dereference =>
    return .dereference (← Json.required fields "handle" Json.Value.text?)
      (← Json.optionalField fields "expect" classification?)
      (← Json.optionalField fields "value" Json.Value.text?)
  | .duplicate =>
    return .duplicate (← Json.required fields "handle" Json.Value.text?)
      (← Json.required fields "name" Json.Value.text?)
  | .newGeneration =>
    return .newGeneration (← Json.optionalField fields "label" Json.Value.text?)
      (← Json.optionalField fields "expect" (Json.Value.word? "u64"))
  | .resize => return .resize (← Json.required fields "size" Json.Value.integer?)
  | .expectOpen =>
    return .expectOpen (← Json.optionalField fields "since" Json.Value.text?)
      (← Json.required fields "handles" Json.Value.texts?)
  | .expectClosed => return .expectClosed (← Json.required fields "handles" Json.Value.texts?)
  | .expectReports =>
    return .expectReports (← Json.required fields "total" (Json.Value.word? "usize"))
      (← Json.optionalField fields "use_after_close" (Json.Value.word? "usize"))
      (← Json.optionalField fields "unknown" (Json.Value.word? "usize"))
  | .constructRecord => return .constructRecord

/-- A step as it is read: its operation, and the fields or items that follow. -/
inductive RawStep where
  | byName (op : Op) (fields : List (String × Json.Value))
  | inOrder (op : Op) (items : List Json.Value)

/-- The step of what was read. An operation that has no fields passes over any
    that are written by name. -/
def RawStep.step : RawStep → Except Json.Cause Step
  | .byName .constructRecord _ => .ok .constructRecord
  | .byName op fields => do
    op.schema.checkStrict [] fields
    Step.build op fields
  | .inOrder op items => do Step.build op (← op.schema.ofItems op.expectedItems 0 items)

/-- The key of the operation of a step. -/
def opKey : String := "op"

/-- The names of all operations. -/
def opNames : List String := Op.all.map Op.name

/-- The operation that a value names. -/
def op? : Json.Value → Except Json.Cause Op
  | .string s =>
    match Op.ofName? s with
    | some op => .ok op
    | none => .error (.unknownVariant s opNames)
  | v => .error (.wrongKind v.found "variant identifier")

/-- How deeply the values of a step may be nested: a scenario, its list of steps
    and the step itself have a bracket each. -/
def stepNesting : Nat := Json.nestingLimit - 3

/-- A field of a step: the operation, or any other. -/
def stepField (seen : List String) (name : String) : Json.Reader (Op ⊕ (String × Json.Value)) :=
  fun s =>
    if name = opKey then
      if opKey ∈ seen then Json.defer (.duplicateField opKey) s
      else
        match Json.colon s with
        | .error f => .error f
        | .ok s => Json.mapped .inl (Json.scalarAs op? s)
    else Json.mapped .inr (Json.anyField (Json.value stepNesting) seen name s)

/-- The operation among the fields of a step, and the others. -/
def gatherFields (parts : List (Op ⊕ (String × Json.Value))) : Except Json.Cause RawStep :=
  match parts.findSome? Sum.getLeft? with
  | some op => .ok (.byName op (parts.filterMap Sum.getRight?))
  | none => .error (.missingField opKey)

/-- A step as an array, after its opening bracket. -/
def stepItems : Json.Reader RawStep := fun s =>
  Json.closing Json.closeArray <|
    match Json.nextItem true s with
    | .error f => .error f
    | .ok (false, t) => Json.defer (.missingField opKey) t
    | .ok (true, t) =>
      match Json.scalarAs op? t with
      | .error f => .error f
      | .ok (op, t) =>
        Json.mapped (.inOrder op) (Json.itemsUpTo (Json.value stepNesting) s.length false t)

/-- A step. What is wrong with its fields is left pending. -/
def step : Json.Reader Step := fun s =>
  Json.checked RawStep.step
    (Json.bracketed "internally tagged enum Step" stepItems
      (some (Json.members stepField gatherFields)) s)

/-- The steps of a scenario. -/
def stepList : Json.Reader (List Step) :=
  Json.bracketed "a sequence" (Json.items step) none

/-- A field of a scenario. -/
inductive Part where
  | name (s : String)
  | description (s : Option String)
  | mode (s : Option String)
  | queueMaxSize (n : Option Int)
  | steps (steps : List Step)

/-- The names of the fields of a scenario. -/
def fieldNames : List String := ["name", "description", "mode", "queue_max_size", "steps"]

/-- The value of the field of a name. -/
def partOf? (name : String) : Option (Json.Reader Part) :=
  let optionalText := Json.scalarAs (Json.Value.optional Json.Value.text?)
  if name = "name" then some fun s => Json.mapped .name (Json.scalarAs Json.Value.text? s)
  else if name = "description" then some fun s => Json.mapped .description (optionalText s)
  else if name = "mode" then some fun s => Json.mapped .mode (optionalText s)
  else if name = "queue_max_size" then
    some fun s =>
      Json.mapped .queueMaxSize (Json.scalarAs (Json.Value.optional Json.Value.integer?) s)
  else if name = "steps" then some fun s => Json.mapped .steps (stepList s)
  else none

/-- A field of a scenario, which must be known and appear once. -/
def scenarioField (seen : List String) (name : String) : Json.Reader Part := fun s =>
  match partOf? name with
  | none => Json.defer (.unknownField name fieldNames) s
  | some read =>
    if name ∈ seen then Json.defer (.duplicateField name) s
    else
      match Json.colon s with
      | .error f => .error f
      | .ok s => read s

/-- The name among the fields of a scenario. -/
def Part.name? : Part → Option String
  | .name s => some s
  | _ => none

/-- The description among the fields of a scenario. -/
def Part.description? : Part → Option String
  | .description s => s
  | _ => none

/-- The mode among the fields of a scenario. -/
def Part.mode? : Part → Option String
  | .mode s => s
  | _ => none

/-- The number of closed handles among the fields of a scenario. -/
def Part.queueMaxSize? : Part → Option Int
  | .queueMaxSize n => n
  | _ => none

/-- The steps among the fields of a scenario. -/
def Part.steps? : Part → Option (List Step)
  | .steps list => some list
  | _ => none

/-- The scenario of its fields. -/
def gatherParts (parts : List Part) : Except Json.Cause Scenario := do
  let some name := parts.findSome? Part.name? | .error (.missingField "name")
  let some steps := parts.findSome? Part.steps? | .error (.missingField "steps")
  return {
    name
    description := parts.findSome? Part.description?
    mode := parts.findSome? Part.mode?
    queueMaxSize := parts.findSome? Part.queueMaxSize?
    steps }

/-- The next item of an array, or nothing at its end. -/
def itemOr {α : Type} (first : Bool) (read : Json.Reader α) : Json.Reader (Option α) := fun s =>
  match Json.nextItem first s with
  | .error f => .error f
  | .ok (false, s) => .ok (none, s)
  | .ok (true, s) => Json.mapped some (read s)

/-- The fields of a scenario as the items of an array. Those that are optional
    may be missing from its end, but then so are the steps. -/
def scenarioItems : Json.Reader Scenario := fun s =>
  let expected := "struct Scenario with 5 elements"
  let optionalText := Json.scalarAs (Json.Value.optional Json.Value.text?)
  Json.closing Json.closeArray do
    let (name, s) ← itemOr true (Json.scalarAs Json.Value.text?) s
    let some name := name | Json.defer (.wrongLength 0 expected) s
    let (description, s) ← itemOr false optionalText s
    let (mode, s) ← itemOr false optionalText s
    let (size, s) ← itemOr false (Json.scalarAs (Json.Value.optional Json.Value.integer?)) s
    let (steps, s) ← itemOr false stepList s
    let some steps := steps | Json.defer (.wrongLength 4 expected) s
    return ({
      name
      description := description.join
      mode := mode.join
      queueMaxSize := size.join
      steps }, s)

/-- A scenario, as an object or as an array. -/
def read : Json.Reader Scenario :=
  Json.bracketed "struct Scenario" scenarioItems
    (some (Json.members scenarioField gatherParts))

/-- The scenario that a text denotes. -/
def parse (text : String) : Except Json.Error Scenario := Json.whole read text.toList

end HandleWatch.Scenario
