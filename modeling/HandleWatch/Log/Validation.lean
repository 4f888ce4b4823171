import HandleWatch.Json.Parser
import HandleWatch.Json.Schema
import HandleWatch.Log.Entry
import HandleWatch.Text.Blank

/-!
# Validation of logs

A line of a log is checked in three stages. It must be a JSON object; all that
is missing or not allowed in it is listed; and if nothing is, its fields are
read as an entry. A text is checked line by line, and blank lines are passed
over.
-/

namespace HandleWatch.Log

/-- What is wrong with a line. -/
inductive Problem where
  /-- It is not JSON. -/
  | notJson (error : Json.Error)
  /-- It is not an object. -/
  | notAnObject
  /-- A field that every entry has is missing. -/
  | missing (field : String)
  /-- A field has a value that is not one of those allowed. -/
  | notAllowed (field value : String)
  /-- A field that reports on invalid handles have is missing. -/
  | incompleteReport (field : String)
  /-- The trace id has no separator. -/
  | flatTraceId (traceId : String)
  /-- A field is of the wrong kind. -/
  | unreadable (cause : Json.Cause)

namespace Problem

/-- The field that a problem is about. -/
def field : Problem → String
  | notJson _ => "<json>"
  | notAnObject => "<root>"
  | missing field => field
  | notAllowed field _ => field
  | incompleteReport field => field
  | flatTraceId _ => "trace_id"
  | unreadable _ => "<deserialization>"

/-- The wording of a problem. -/
def message : Problem → String
  | notJson error => "invalid JSON: " ++ error.message
  | notAnObject => "expected JSON object"
  | missing _ => "required field missing"
  | notAllowed field value => "invalid " ++ field ++ ": '" ++ value ++ "'"
  | incompleteReport _ => "invalid_handle events must include this field"
  | flatTraceId traceId =>
    "trace_id should follow <scenario>::<run_id>::<seq> format, got: '" ++ traceId ++ "'"
  | unreadable cause => "failed to deserialize: " ++ cause.message

end Problem

/-- A problem on a line, counted from `1`. -/
structure Finding where
  line : Nat
  problem : Problem

/-- The wording of a finding. -/
def Finding.text (f : Finding) : String :=
  "line " ++ String.ofList (decimal f.line) ++ ": field '" ++ f.problem.field ++ "': " ++
    f.problem.message

/-- The event of a report on an invalid use. -/
def invalidHandleEvent : String := "invalid_handle"

/-- The names of all severities. -/
def severityNames : List String := Severity.all.map Severity.name

/-- The names of all verdicts. -/
def verdictNames : List String := Verdict.all.map Verdict.name

/-- The names of the operations on handles. -/
def operationNames : List String := [Operation.dereference.name, Operation.close.name]

/-- What the fields of an entry may hold. -/
def entrySchema : Json.Schema := [
    { name := "timestamp", kind := .text },
    { name := "trace_id", kind := .text },
    { name := "level", kind := .choice severityNames false },
    { name := "event", kind := .text },
    { name := "scenario", kind := .text, isOptional := true },
    { name := "step", kind := .word "usize", isOptional := true },
    { name := "op", kind := .text, isOptional := true },
    { name := "handle", kind := .word "u64", isOptional := true },
    { name := "classification", kind := .text, isOptional := true },
    { name := "operation", kind := .text, isOptional := true },
    { name := "creation_generation", kind := .word "u64", isOptional := true },
    { name := "sequence", kind := .word "u64", isOptional := true },
    { name := "outcome", kind := .choice verdictNames false, isOptional := true },
    { name := "details", kind := .any, isOptional := true }]

/-- The severity that a value names. -/
def severity? (v : Json.Value) : Except Json.Cause Severity := do
  let name ← v.choice? severityNames false
  match Severity.ofName? name with
  | some severity => .ok severity
  | none => .error (.unknownVariant name severityNames)

/-- The verdict that a value names. -/
def verdict? (v : Json.Value) : Except Json.Cause Verdict := do
  let name ← v.choice? verdictNames false
  match Verdict.ofName? name with
  | some verdict => .ok verdict
  | none => .error (.unknownVariant name verdictNames)

/-- The entry that fields denote; other fields are let pass, and null is as good
    as absent. -/
def Entry.ofFields (fields : Json.Fields) : Except Json.Cause Entry := do
  entrySchema.checkKnown fields
  return {
    timestamp := ← Json.required fields "timestamp" Json.Value.text?
    traceId := ← Json.required fields "trace_id" Json.Value.text?
    severity := ← Json.required fields "level" severity?
    event := ← Json.required fields "event" Json.Value.text?
    scenario := ← Json.optionalField fields "scenario" Json.Value.text?
    step := ← Json.optionalField fields "step" (Json.Value.word? "usize")
    op := ← Json.optionalField fields "op" Json.Value.text?
    handle := ← Json.optionalField fields "handle" (Json.Value.word? "u64")
    classification := ← Json.optionalField fields "classification" Json.Value.text?
    operation := ← Json.optionalField fields "operation" Json.Value.text?
    generation := ← Json.optionalField fields "creation_generation" (Json.Value.word? "u64")
    sequence := ← Json.optionalField fields "sequence" (Json.Value.word? "u64")
    verdict := ← Json.optionalField fields "outcome" verdict?
    details := ← Json.optionalField fields "details" fun v => .ok v }

/-- The string in a field, if there is one. -/
def textOf (fields : Json.Fields) (name : String) : Option String :=
  match fields.get? name with
  | some (.string s) => some s
  | _ => none

/-- The problem of a string that is not one of those allowed in a field. -/
def checkAllowed (fields : Json.Fields) (name : String) (allowed : List String) : List Problem :=
  match textOf fields name with
  | some s => if s ∈ allowed then [] else [.notAllowed name s]
  | none => []

/-- The names of the fields that are missing. -/
def absent (fields : Json.Fields) (names : List String) : List String :=
  names.filter fun name => !fields.has name

/-- Whether a text has two colons in a row. -/
def hasSeparator : List Char → Bool
  | [] => false
  | c :: cs => (c == ':' && cs.head? == some ':') || hasSeparator cs

/-- All that is missing or not allowed in the fields of an entry. -/
def problems (fields : Json.Fields) : List Problem :=
  (absent fields ["timestamp", "trace_id", "level", "event"]).map .missing ++
    checkAllowed fields "level" severityNames ++
    checkAllowed fields "outcome" verdictNames ++
    checkAllowed fields "classification" Classification.names ++
    checkAllowed fields "operation" operationNames ++
    (if textOf fields "event" = some invalidHandleEvent then
      (absent fields ["handle", "classification", "operation"]).map .incompleteReport
    else []) ++
    (match textOf fields "trace_id" with
      | some traceId => if hasSeparator traceId.toList then [] else [.flatTraceId traceId]
      | none => [])

/-- The entry on a line of a log, or all that is wrong with the line. -/
def readLine (line : String) : Except (List Problem) Entry :=
  match Json.parse line with
  | .error error => .error [.notJson error]
  | .ok v =>
    match v.canonical with
    | .object fields =>
      match problems fields with
      | [] =>
        match Entry.ofFields fields with
        | .ok e => .ok e
        | .error cause => .error [.unreadable cause]
      | problems => .error problems
    | _ => .error [.notAnObject]

/-- The entry on the line of a number, or all that is wrong with the line. -/
def validateLine (line : String) (number : Nat) : Except (List Finding) Entry :=
  match readLine line with
  | .ok e => .ok e
  | .error problems => .error (problems.map (⟨number, ·⟩))

/-- The lines of a text, without the marks between them. -/
def textLines : List Char → List (List Char)
  | [] => [[]]
  | c :: cs =>
    if c = '\n' then [] :: textLines cs
    else
      match textLines cs with
      | [] => [[c]]
      | line :: lines => (c :: line) :: lines

/-- The number of lines that are not blank, and all that is wrong with them;
    the first of the lines has the number `number`. -/
def validateLines : List (List Char) → (number : Nat) → Nat × List Finding
  | [], _ => (0, [])
  | line :: lines, number =>
    let (count, findings) := validateLines lines (number + 1)
    match trimBlanks line with
    | [] => (count, findings)
    | line =>
      match validateLine (String.ofList line) number with
      | .ok _ => (count + 1, findings)
      | .error found => (count + 1, found ++ findings)

/-- The number of lines of a log that are not blank, and all that is wrong with
    them. -/
def validate (text : String) : Nat × List Finding := validateLines (textLines text.toList) 1

end HandleWatch.Log
