import HandleWatch.Json.Reader

/-!
# Parsing JSON values

Values of any kind. Brackets may be nested to a limit; the reader of a value
recurses on how many more are allowed.
-/

namespace HandleWatch.Json

/-- How deeply brackets may be nested. -/
def nestingLimit : Nat := 127

/-- A field of any key: a colon and a value. -/
def anyField (nested : Reader Value) (_seen : List String) (name : String) :
    Reader (String × Value) := fun s =>
  match colon s with
  | .error f => .error f
  | .ok s =>
    match nested s with
    | .error f => .error f
    | .ok (v, s) => .ok ((name, v), s)

/-- What a reader gives, through a function. -/
def mapped {α β : Type} (f : α → β) (r : Except Fault (α × List Char)) :
    Except Fault (β × List Char) :=
  match r with
  | .ok (a, s) => .ok (f a, s)
  | .error e => .error e

/-- A value, given how arrays and objects are read after their opening bracket. -/
def valueWith (array object : Char → Reader Value) : Reader Value := fun s =>
  match skipSpace s with
  | [] => stop .missingValue []
  | c :: rest =>
    if c = 'n' then word Value.null ['u', 'l', 'l'] rest
    else if c = 't' then word (Value.bool true) ['r', 'u', 'e'] rest
    else if c = 'f' then word (Value.bool false) ['a', 'l', 's', 'e'] rest
    else if c = '-' then mapped Value.number (number true rest)
    else if c.isDigit then mapped Value.number (number false (c :: rest))
    else if c = '"' then mapped Value.string (stringBody rest)
    else if c = '[' then array c rest
    else if c = '\x7b' then object c rest
    else stopInto .notAValue (c :: rest)

/-- A value with at most `depth` nested brackets. -/
def value : (depth : Nat) → Reader Value
  | 0 => valueWith (fun c s => stopInto .tooDeep (c :: s)) (fun c s => stopInto .tooDeep (c :: s))
  | depth + 1 =>
    valueWith (fun _ s => mapped Value.array (items (value depth) s))
      (fun _ s => members (anyField (value depth)) (fun fields => .ok (.object fields)) s)

/-- A scalar. An array or an object is only looked at, and stands for itself
    without its contents. -/
def scalar : Reader Value :=
  valueWith (fun c s => .ok (.array [], c :: s)) (fun c s => .ok (.object [], c :: s))

/-- A scalar through a check, whose fault is placed after it. -/
def scalarAs {α : Type} (check : Value → Except Cause α) : Reader α := fun s =>
  match scalar s with
  | .error f => .error f
  | .ok (v, s) =>
    match check v with
    | .ok a => .ok (a, s)
    | .error cause => stop cause s

/-- An array or an object, each read after its opening bracket; any other value
    is not what was `expected`. -/
def bracketed {α : Type} (expected : String) (array : Reader α) (object : Option (Reader α)) :
    Reader α := fun s =>
  match skipSpace s with
  | [] => stop .missingValue []
  | c :: rest =>
    if c = '[' then array rest
    else
      match object with
      | some object =>
        if c = '\x7b' then object rest
        else scalarAs (fun v => .error (.wrongKind v.found expected)) (c :: rest)
      | none => scalarAs (fun v => .error (.wrongKind v.found expected)) (c :: rest)

/-- All of a text, with only space after what was read. -/
def whole {α : Type} (read : Reader α) (text : List Char) : Except Error α :=
  match read text with
  | .error f => .error (f.error text)
  | .ok (a, rest) =>
    match skipSpace rest with
    | [] => .ok a
    | c :: rest => .error (Fault.error text ⟨.trailingCharacters, c :: rest, 1, false⟩)

/-- The value that a text denotes. -/
def parse (text : String) : Except Error Value := whole (value nestingLimit) text.toList

end HandleWatch.Json
