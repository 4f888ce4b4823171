import HandleWatch.Decimal.Shortest
import HandleWatch.Text.Numeral

/-!
# JSON values

A value as it is written: an object lists its fields in order and may repeat a
key. What an object *means* is a map, in which the last of several fields with
one key counts; `Value.canonical` gives it by listing every key once, in
increasing order.
-/

namespace HandleWatch.Json

/-- A number: an integer of 64 bits, with a sign or without, or else a binary
    floating-point number. Each has one form. -/
inductive Number where
  /-- An integer from `0` to `2 ^ 64 - 1`. -/
  | nonneg (n : UInt64)
  /-- The integer `-(n + 1)`, from `-2 ^ 63` to `-1`. -/
  | negSucc (n : Fin 0x8000000000000000)
  /-- Any other number, as near as the format comes to it. -/
  | float (x : Binary64)
  deriving DecidableEq, Repr

/-- Floating-point numbers are written positionally for decimal exponents from
    `-5` to `15`. -/
def floatLayout : DecimalLayout := ⟨-5, 15⟩

/-- The text of a number. -/
def Number.text : Number → List Char
  | .nonneg n => decimal n.toNat
  | .negSucc n => '-' :: decimal (n.val + 1)
  | .float x => floatLayout.writeBinary x

/-- A value as it is written. -/
inductive Value where
  | null
  | bool (b : Bool)
  | number (n : Number)
  | string (s : String)
  | array (items : List Value)
  /-- The fields of an object in written order, repeated keys included. -/
  | object (fields : List (String × Value))
  deriving Repr

/-- The integer `n` as a value. -/
def Value.ofNat (n : Nat) : Value := .number (.nonneg (UInt64.ofNat n))

/-- The fields of an object that has its keys in increasing order, each once. -/
abbrev Fields := List (String × Value)

namespace Fields

/-- The field of a key set to a value: a field of this key is replaced, and a
    new one put in order. -/
def insert (key : String) (value : Value) : Fields → Fields
  | [] => [(key, value)]
  | (k, v) :: rest =>
    if key < k then (key, value) :: (k, v) :: rest
    else if key = k then (key, value) :: rest
    else (k, v) :: insert key value rest

/-- The value of a key. -/
def get? (fields : Fields) (key : String) : Option Value := fields.lookup key

/-- Whether there is a field of this key. -/
def has (fields : Fields) (key : String) : Bool := (fields.get? key).isSome

/-- The keys in increasing order, each with the value of its last field. -/
def ofList (fields : List (String × Value)) : Fields :=
  fields.foldl (fun acc field => acc.insert field.1 field.2) []

end Fields

mutual
/-- The value with every object in canonical form: keys in increasing order,
    each once, with the value of its last field. -/
def Value.canonical : Value → Value
  | .array items => .array (canonicalItems items)
  | .object fields => .object (Fields.ofList (canonicalFields fields))
  | .null => .null
  | .bool b => .bool b
  | .number n => .number n
  | .string s => .string s

/-- The canonical forms of the items of an array. -/
def canonicalItems : List Value → List Value
  | [] => []
  | v :: vs => v.canonical :: canonicalItems vs

/-- The canonical forms of the values of fields. -/
def canonicalFields : List (String × Value) → List (String × Value)
  | [] => []
  | (k, v) :: fields => (k, v.canonical) :: canonicalFields fields
end

end HandleWatch.Json
