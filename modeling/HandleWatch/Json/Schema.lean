import HandleWatch.Json.Fault

/-!
# Schemas

What the fields of a record may hold (`Kind`), and the check of a value
against it. A record is checked field by field, so that of several faults the
first one counts; once the check has passed, each field is taken out by its
name.
-/

namespace HandleWatch.Json

namespace Value

/-- A string. -/
def text? : Value → Except Cause String
  | .string s => .ok s
  | v => .error (.wrongKind v.found "a string")

/-- An integer without a sign; `type` is its name in messages. -/
def word? (type : String) : Value → Except Cause UInt64
  | .number (.nonneg n) => .ok n
  | .number (.negSucc n) => .error (.wrongValue (.number (.negSucc n)) type)
  | v => .error (.wrongKind v.found type)

/-- An integer with a sign. -/
def integer? : Value → Except Cause Int
  | .number (.nonneg n) =>
    if n.toNat < 0x8000000000000000 then .ok n.toNat
    else .error (.wrongValue (.number (.nonneg n)) "i64")
  | .number (.negSucc n) => .ok (Int.negSucc n.val)
  | v => .error (.wrongKind v.found "i64")

/-- An array of strings. -/
def texts? : Value → Except Cause (List String)
  | .array items => items.mapM text?
  | v => .error (.wrongKind v.found "a sequence")

/-- Nothing at all: the content of a choice that has none. -/
def nothing? (emptyObject : Bool) : Value → Except Cause Unit
  | .null => .ok ()
  | .object [] => if emptyObject then .ok () else .error (.wrongKind .object "unit")
  | v => .error (.wrongKind v.found "unit")

/-- One of some names: a string, or an object whose only key is the name and
    whose value is nothing (or an empty object, where that is allowed). -/
def choice? (names : List String) (emptyObject : Bool) : Value → Except Cause String
  | .string s => if s ∈ names then .ok s else .error (.unknownVariant s names)
  | .object [(k, v)] =>
    if k ∈ names then (v.nothing? emptyObject).map fun _ => k
    else .error (.unknownVariant k names)
  | .object _ => .error (.wrongValue .object "map with a single key")
  | v => .error (.wrongKind v.found "string or map")

/-- A value that may be null instead. -/
def optional {α : Type} (decode : Value → Except Cause α) : Value → Except Cause (Option α)
  | .null => .ok none
  | v => (decode v).map some

end Value

/-- What a field may hold. -/
inductive Kind where
  | text
  | texts
  /-- An integer without a sign, of this name in messages. -/
  | word (type : String)
  | integer
  /-- One of these names; `emptyObject` as in `Value.choice?`. -/
  | choice (names : List String) (emptyObject : Bool)
  /-- Anything. -/
  | any

/-- The check that a value is of a kind. -/
def Kind.check (v : Value) : Kind → Except Cause Unit
  | .text => v.text?.map fun _ => ()
  | .texts => v.texts?.map fun _ => ()
  | .word type => (v.word? type).map fun _ => ()
  | .integer => v.integer?.map fun _ => ()
  | .choice names emptyObject => (v.choice? names emptyObject).map fun _ => ()
  | .any => .ok ()

/-- A field of a record. -/
structure Field where
  name : String
  kind : Kind
  /-- Whether it may be null or absent. -/
  isOptional : Bool := false

/-- The check that a value may stand in a field. -/
def Field.check (field : Field) (v : Value) : Except Cause Unit :=
  match field.isOptional, v with
  | true, .null => .ok ()
  | _, v => field.kind.check v

/-- The fields of a record, in the order of their declaration. -/
abbrev Schema := List Field

namespace Schema

/-- The field of a name. -/
def find (schema : Schema) (name : String) : Option Field :=
  List.find? (fun field => field.name == name) schema

/-- The names of the fields. -/
def names (schema : Schema) : List String := schema.map Field.name

/-- The check of fields as they are written, where every key must be known and
    appear once; `seen` are the keys before. -/
def checkStrict (schema : Schema) : List String → List (String × Value) → Except Cause Unit
  | _, [] => .ok ()
  | seen, (k, v) :: rest =>
    match schema.find k with
    | none => .error (.unknownField k schema.names)
    | some field =>
      if k ∈ seen then .error (.duplicateField k)
      else
        match field.check v with
        | .error cause => .error cause
        | .ok () => checkStrict schema (k :: seen) rest

/-- The check of fields, where unknown keys are let pass. -/
def checkKnown (schema : Schema) : List (String × Value) → Except Cause Unit
  | [] => .ok ()
  | (k, v) :: rest =>
    match schema.find k with
    | none => checkKnown schema rest
    | some field =>
      match field.check v with
      | .error cause => .error cause
      | .ok () => checkKnown schema rest

/-- Items in place of the fields, in the order of their declaration, as
    fields. `index` counts those before; a field that is not there must be
    optional, and `expected` describes a full record. -/
def ofItems (schema : Schema) (expected : String) (index : Nat) (items : List Value) :
    Except Cause (List (String × Value)) :=
  match schema, items with
  | [], [] => .ok []
  | [], items =>
    .error (.wrongLength (index + items.length)
      (String.ofList (decimal index) ++
        (if index = 1 then " element in sequence" else " elements in sequence")))
  | field :: fields, [] =>
    if field.isOptional then ofItems fields expected (index + 1) []
    else .error (.wrongLength index expected)
  | field :: fields, v :: vs =>
    match field.check v with
    | .error cause => .error cause
    | .ok () => (ofItems fields expected (index + 1) vs).map ((field.name, v) :: ·)

end Schema

/-- The value of a field that must be there. -/
def required {α : Type} (fields : List (String × Value)) (name : String)
    (decode : Value → Except Cause α) : Except Cause α :=
  match fields.lookup name with
  | some v => decode v
  | none => .error (.missingField name)

/-- The value of a field that may be null or absent. -/
def optionalField {α : Type} (fields : List (String × Value)) (name : String)
    (decode : Value → Except Cause α) : Except Cause (Option α) :=
  match fields.lookup name with
  | some v => v.optional decode
  | none => .ok none

end HandleWatch.Json
