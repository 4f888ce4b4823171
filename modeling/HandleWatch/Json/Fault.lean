import HandleWatch.Json.Value
import HandleWatch.Text.Quoted

/-!
# Faults in JSON texts

Why a text is not the JSON that was asked for (`Cause`), with the wording of
each cause, and where (`Place`). A reader that stops reports the part of the
text it had not read, and how far into it the fault reaches (`Fault`); its
place is worked out from that once, at the end.

A fault found in a *value*, rather than in its text, is left `pending` until
the array or object that holds it is closed, and is placed where reading
stands then.
-/

namespace HandleWatch.Json

/-- What stands where something else was expected. -/
inductive Found where
  | null
  | bool (b : Bool)
  | number (n : Number)
  | string (s : String)
  | array
  | object

/-- What a value looks like to one who expected something else. -/
def Value.found : Value → Found
  | .null => .null
  | .bool b => .bool b
  | .number n => .number n
  | .string s => .string s
  | .array _ => .array
  | .object _ => .object

/-- The words for it in a message. -/
def Found.words : Found → String
  | .null => "null"
  | .bool b => "boolean `" ++ (if b then "true" else "false") ++ "`"
  | .number (.float x) => "floating point `" ++ String.ofList (Number.float x).text ++ "`"
  | .number n => "integer `" ++ String.ofList n.text ++ "`"
  | .string s => "string " ++ quoted s
  | .array => "sequence"
  | .object => "map"

/-- Why a text is not the JSON that was asked for. -/
inductive Cause where
  /-- The text ends where a value is due. -/
  | missingValue
  /-- The text ends inside a string. -/
  | unclosedString
  /-- The text ends inside an array. -/
  | unclosedArray
  /-- The text ends inside an object. -/
  | unclosedObject
  /-- No value begins with this character. -/
  | notAValue
  /-- A word begins like `true`, `false` or `null` and goes on otherwise. -/
  | misspeltWord
  /-- A key is not followed by a colon. -/
  | missingColon
  /-- An item of an array is followed neither by a comma nor by the end. -/
  | missingArrayComma
  /-- A field of an object is followed neither by a comma nor by the end. -/
  | missingObjectComma
  /-- A comma comes before the end. -/
  | trailingComma
  /-- Something follows the end. -/
  | trailingCharacters
  /-- A key is not a string. -/
  | keyNotString
  | invalidNumber
  /-- A number is beyond the greatest one. -/
  | numberOutOfRange
  | invalidEscape
  /-- A code unit is half of a pair without the other half. -/
  | loneSurrogate
  /-- The first half of a pair is not followed by an escape. -/
  | unfinishedPair
  | controlCharacter
  /-- Brackets are nested too deeply. -/
  | tooDeep
  /-- A value is not of the kind that was expected. -/
  | wrongKind (found : Found) (expected : String)
  /-- A value is of that kind, but not one of those expected. -/
  | wrongValue (found : Found) (expected : String)
  /-- An array has the wrong number of items. -/
  | wrongLength (length : Nat) (expected : String)
  | missingField (name : String)
  | duplicateField (name : String)
  | unknownField (name : String) (known : List String)
  | unknownVariant (name : String) (known : List String)

/-- Names between backticks: one, two with an "or", or a list. -/
def choiceOf (names : List String) : String :=
  match names.map fun name => "`" ++ name ++ "`" with
  | [] => ""
  | [a] => a
  | [a, b] => a ++ " or " ++ b
  | marked => "one of " ++ ", ".intercalate marked

/-- The wording of a cause. -/
def Cause.message : Cause → String
  | .missingValue => "EOF while parsing a value"
  | .unclosedString => "EOF while parsing a string"
  | .unclosedArray => "EOF while parsing a list"
  | .unclosedObject => "EOF while parsing an object"
  | .notAValue => "expected value"
  | .misspeltWord => "expected ident"
  | .missingColon => "expected `:`"
  | .missingArrayComma => "expected `,` or `]`"
  | .missingObjectComma => "expected `,` or `\x7d`"
  | .trailingComma => "trailing comma"
  | .trailingCharacters => "trailing characters"
  | .keyNotString => "key must be a string"
  | .invalidNumber => "invalid number"
  | .numberOutOfRange => "number out of range"
  | .invalidEscape => "invalid escape"
  | .loneSurrogate => "lone leading surrogate in hex escape"
  | .unfinishedPair => "unexpected end of hex escape"
  | .controlCharacter => "control character (\\u0000-\\u001F) found while parsing a string"
  | .tooDeep => "recursion limit exceeded"
  | .wrongKind found expected => "invalid type: " ++ found.words ++ ", expected " ++ expected
  | .wrongValue found expected => "invalid value: " ++ found.words ++ ", expected " ++ expected
  | .wrongLength n expected =>
    "invalid length " ++ String.ofList (decimal n) ++ ", expected " ++ expected
  | .missingField name => "missing field `" ++ name ++ "`"
  | .duplicateField name => "duplicate field `" ++ name ++ "`"
  | .unknownField name known => "unknown field `" ++ name ++ "`, expected " ++ choiceOf known
  | .unknownVariant name known => "unknown variant `" ++ name ++ "`, expected " ++ choiceOf known

/-- A place in a text: the line, from 1, and the bytes of it that were read. -/
structure Place where
  line : Nat
  column : Nat
  deriving DecidableEq, Repr

/-- The place after the first `bytes` bytes of `text`, from the place `p`. A
    place may be inside a character. -/
def Place.after (p : Place) : List Char → Nat → Place
  | [], _ => p
  | c :: cs, bytes =>
    if bytes = 0 then p
    else if c = '\n' then Place.after ⟨p.line + 1, 0⟩ cs (bytes - 1)
    else if c.utf8Size ≤ bytes then
      Place.after ⟨p.line, p.column + c.utf8Size⟩ cs (bytes - c.utf8Size)
    else ⟨p.line, p.column + bytes⟩

/-- The bytes of a text. -/
def byteCount (text : List Char) : Nat := text.foldr (fun c n => c.utf8Size + n) 0

/-- A fault, as the reader that stopped tells it. -/
structure Fault where
  cause : Cause
  /-- What was not read. -/
  rest : List Char
  /-- How many bytes of it the fault reaches over. -/
  reach : Nat
  /-- Whether its place is still to be settled. -/
  pending : Bool

/-- The place of a fault in a text. -/
def Fault.place (text : List Char) (f : Fault) : Place :=
  Place.after ⟨1, 0⟩ text (byteCount text - byteCount f.rest + f.reach)

/-- A cause with its place. -/
structure Error where
  cause : Cause
  place : Place

/-- The wording of an error. -/
def Error.message (e : Error) : String :=
  e.cause.message ++ " at line " ++ String.ofList (decimal e.place.line) ++ " column " ++
    String.ofList (decimal e.place.column)

/-- The description of an error. -/
def Error.describe (e : Error) : String :=
  "Error(" ++ quoted e.cause.message ++ ", line: " ++ String.ofList (decimal e.place.line) ++
    ", column: " ++ String.ofList (decimal e.place.column) ++ ")"

/-- The error of a fault in a text. -/
def Fault.error (text : List Char) (f : Fault) : Error := ⟨f.cause, f.place text⟩

end HandleWatch.Json
