import HandleWatch.Json.Value

/-!
# Printing JSON

The compact text of a value, and an indented one. Every printer takes the
text that follows and puts its own before it (`Value.onto v rest` is the text
of `v` and then `rest`), which is the form that reading undoes.
-/

namespace HandleWatch.Json

/-- A character inside a string: a quote and a backslash after a backslash,
    control characters by name or number, any other as it is. -/
def escaped (c : Char) : List Char :=
  if c = '"' then ['\\', '"']
  else if c = '\\' then ['\\', '\\']
  else if c = '\x08' then ['\\', 'b']
  else if c = '\x0c' then ['\\', 'f']
  else if c = '\n' then ['\\', 'n']
  else if c = '\r' then ['\\', 'r']
  else if c = '\t' then ['\\', 't']
  else if c.toNat < 0x20 then
    ['\\', 'u', '0', '0', Nat.digitChar (c.toNat / 16), Nat.digitChar (c.toNat % 16)]
  else [c]

/-- The characters of a string and the closing quote, before `rest`. -/
def bodyOnto (s : List Char) (rest : List Char) : List Char :=
  match s with
  | [] => '"' :: rest
  | c :: cs => escaped c ++ bodyOnto cs rest

/-- A string between quotes, before `rest`. -/
def stringOnto (s : String) (rest : List Char) : List Char := '"' :: bodyOnto s.toList rest

mutual
/-- The compact text of a value, before `rest`. -/
def Value.onto : Value → List Char → List Char
  | .null, rest => 'n' :: 'u' :: 'l' :: 'l' :: rest
  | .bool true, rest => 't' :: 'r' :: 'u' :: 'e' :: rest
  | .bool false, rest => 'f' :: 'a' :: 'l' :: 's' :: 'e' :: rest
  | .number n, rest => n.text ++ rest
  | .string s, rest => stringOnto s rest
  | .array [], rest => '[' :: ']' :: rest
  | .array (v :: vs), rest => '[' :: v.onto (itemsOnto vs rest)
  | .object [], rest => '{' :: '}' :: rest
  | .object ((k, v) :: fs), rest => '{' :: stringOnto k (':' :: v.onto (fieldsOnto fs rest))

/-- The further items of an array and its end, before `rest`. -/
def itemsOnto : List Value → List Char → List Char
  | [], rest => ']' :: rest
  | v :: vs, rest => ',' :: v.onto (itemsOnto vs rest)

/-- The further fields of an object and its end, before `rest`. -/
def fieldsOnto : List (String × Value) → List Char → List Char
  | [], rest => '}' :: rest
  | (k, v) :: fs, rest => ',' :: stringOnto k (':' :: v.onto (fieldsOnto fs rest))
end

/-- The compact text of a value. -/
def Value.render (v : Value) : String := String.ofList (v.onto [])

/-- A new line at a depth of nesting, before `rest`: two blanks for each level. -/
def newlineOnto (depth : Nat) (rest : List Char) : List Char :=
  '\n' :: (List.replicate (2 * depth) ' ' ++ rest)

mutual
/-- The indented text of a value at a depth of nesting, before `rest`: each
    item and each field on a line of its own, unless there are none. -/
def Value.indentedOnto : Value → Nat → List Char → List Char
  | .null, _, rest => Value.null.onto rest
  | .bool b, _, rest => (Value.bool b).onto rest
  | .number n, _, rest => (Value.number n).onto rest
  | .string s, _, rest => stringOnto s rest
  | .array [], _, rest => '[' :: ']' :: rest
  | .array (v :: vs), d, rest =>
    '[' :: newlineOnto (d + 1) (v.indentedOnto (d + 1) (indentedItemsOnto vs d rest))
  | .object [], _, rest => '{' :: '}' :: rest
  | .object ((k, v) :: fs), d, rest =>
    '{' :: newlineOnto (d + 1) (stringOnto k (':' :: ' ' ::
      v.indentedOnto (d + 1) (indentedFieldsOnto fs d rest)))

/-- The further items of an array at a depth, and its end, before `rest`. -/
def indentedItemsOnto : List Value → Nat → List Char → List Char
  | [], d, rest => newlineOnto d (']' :: rest)
  | v :: vs, d, rest =>
    ',' :: newlineOnto (d + 1) (v.indentedOnto (d + 1) (indentedItemsOnto vs d rest))

/-- The further fields of an object at a depth, and its end, before `rest`. -/
def indentedFieldsOnto : List (String × Value) → Nat → List Char → List Char
  | [], d, rest => newlineOnto d ('}' :: rest)
  | (k, v) :: fs, d, rest =>
    ',' :: newlineOnto (d + 1) (stringOnto k (':' :: ' ' ::
      v.indentedOnto (d + 1) (indentedFieldsOnto fs d rest)))
end

/-- The indented text of a value. -/
def Value.renderIndented (v : Value) : String := String.ofList (v.indentedOnto 0 [])

end HandleWatch.Json
