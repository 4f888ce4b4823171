import HandleWatch.Json.Fault

/-!
# Reading JSON texts

A reader takes what is left of a text, and gives a result with what is left
after it, or a fault. This module has the readers for words, numbers and
strings, and those for arrays and objects of anything (`items`, `members`),
which are given a reader for what they hold.
-/

namespace HandleWatch.Json

/-- Reads an `α` from the front of a text. -/
abbrev Reader (α : Type) := List Char → Except Fault (α × List Char)

/-- A fault at the place that was reached. -/
def stop {α : Type} (cause : Cause) (rest : List Char) : Except Fault α :=
  .error ⟨cause, rest, 0, false⟩

/-- A fault in the next byte. -/
def stopInto {α : Type} (cause : Cause) (rest : List Char) : Except Fault α :=
  .error ⟨cause, rest, 1, false⟩

/-- A fault in a value, to be placed when what holds it is closed. -/
def defer {α : Type} (cause : Cause) (rest : List Char) : Except Fault α :=
  .error ⟨cause, rest, 0, true⟩

/-- Whether a character may stand between the parts of a value. -/
def isSpace (c : Char) : Bool := c == ' ' || c == '\n' || c == '\t' || c == '\r'

/-- The text without the space before its next part. -/
def skipSpace (s : List Char) : List Char := s.dropWhile isSpace

/-! ### Words -/

/-- The characters of a word, with the value that it stands for. -/
def word {α : Type} (a : α) : List Char → Reader α
  | [], s => .ok (a, s)
  | _ :: _, [] => stop .missingValue []
  | c :: cs, d :: s => if c = d then word a cs s else stopInto .misspeltWord (d :: s)

/-! ### Strings -/

/-- The value of a hexadecimal digit. -/
def hexValue? (c : Char) : Option Nat :=
  if c.isDigit then some (c.toNat - '0'.toNat)
  else if 'a' ≤ c ∧ c ≤ 'f' then some (c.toNat - 'a'.toNat + 10)
  else if 'A' ≤ c ∧ c ≤ 'F' then some (c.toNat - 'A'.toNat + 10)
  else none

/-- The code unit that four hexadecimal digits denote. -/
def codeUnit? (a b c d : Char) : Option Nat := do
  return ((← hexValue? a) * 16 + (← hexValue? b)) * 256 + ((← hexValue? c) * 16 + (← hexValue? d))

/-- Whether a code unit is the first half of a pair. -/
def isFirstHalf (n : Nat) : Bool := 0xd800 ≤ n && n ≤ 0xdbff

/-- Whether a code unit is the second half of a pair. -/
def isSecondHalf (n : Nat) : Bool := 0xdc00 ≤ n && n ≤ 0xdfff

/-- The character of a pair of code units. -/
def pairChar (first second : Nat) : Char :=
  Char.ofNat ((first - 0xd800) * 0x400 + (second - 0xdc00) + 0x10000)

/-- The character that a backslash and another one stand for. -/
def unescaped? (c : Char) : Option Char :=
  if c = '"' then some '"'
  else if c = '\\' then some '\\'
  else if c = '/' then some '/'
  else if c = 'b' then some '\x08'
  else if c = 'f' then some '\x0c'
  else if c = 'n' then some '\n'
  else if c = 'r' then some '\r'
  else if c = 't' then some '\t'
  else none

/-- The fault of an escape whose four digits, due at `s`, are not there: they
    are four bytes, or else the text ends before them. -/
def badCodeUnit {α : Type} (s : List Char) : Except Fault α :=
  if 4 ≤ byteCount s then .error ⟨.invalidEscape, s, 4, false⟩ else stop .unclosedString []

/-- The fault of the first half of a pair, with no second half at `s`. -/
def badSecondHalf {α : Type} : List Char → Except Fault α
  | [] => stop .unclosedString []
  | '\\' :: [] => stop .unclosedString []
  | '\\' :: 'u' :: s => badCodeUnit s
  | '\\' :: s => stopInto .unfinishedPair s
  | s => stopInto .unfinishedPair s

/-- A result with a character put before the text that was read. -/
def before (c : Char) (r : Except Fault (List Char × List Char)) :
    Except Fault (List Char × List Char) :=
  match r with
  | .ok (cs, rest) => .ok (c :: cs, rest)
  | .error f => .error f

/-- The characters of a string up to its closing quote. -/
def body : Reader (List Char)
  | [] => stop .unclosedString []
  | c :: s =>
    if c = '"' then .ok ([], s)
    else if c = '\\' then
      match s with
      | [] => stop .unclosedString []
      | e :: s =>
        if e = 'u' then
          match s with
          | a :: b :: c :: d :: s =>
            match codeUnit? a b c d with
            | none => badCodeUnit (a :: b :: c :: d :: s)
            | some n =>
              if isSecondHalf n then stop .loneSurrogate s
              else if isFirstHalf n then
                match s with
                | p :: q :: a' :: b' :: c' :: d' :: s' =>
                  if p = '\\' ∧ q = 'u' then
                    match codeUnit? a' b' c' d' with
                    | none => badCodeUnit (a' :: b' :: c' :: d' :: s')
                    | some m =>
                      if isSecondHalf m then before (pairChar n m) (body s')
                      else stop .loneSurrogate s'
                  else badSecondHalf s
                | s => badSecondHalf s
              else before (Char.ofNat n) (body s)
          | s => badCodeUnit s
        else
          match unescaped? e with
          | some ch => before ch (body s)
          | none => stopInto .invalidEscape (e :: s)
    else if c.toNat < 0x20 then stopInto .controlCharacter (c :: s)
    else before c (body s)

/-- A string after its opening quote. -/
def stringBody : Reader String := fun s =>
  match body s with
  | .ok (cs, rest) => .ok (String.ofList cs, rest)
  | .error f => .error f

/-! ### Numbers -/

/-- The digits at the front of a text, and what follows them. -/
def digits (s : List Char) : List Char × List Char :=
  (s.takeWhile Char.isDigit, s.dropWhile Char.isDigit)

/-- A significand continued by digits as long as it stays below `2 ^ 64`, with
    the digits that are left. -/
def absorb : Nat → List Char → Nat × List Char
  | n, [] => (n, [])
  | n, d :: ds =>
    let n' := 10 * n + (d.toNat - '0'.toNat)
    if n' < UInt64.size then absorb n' ds else (n, d :: ds)

/-- The decimal `± significand · 10 ^ exponent`, read up to `rest`. -/
def decimalNumber (negative : Bool) (significand : Nat) (exponent : Int) : Reader Number :=
  fun rest =>
  match Binary64.ofDecimal? negative significand exponent with
  | some x => .ok (.float x, rest)
  | none => stop .numberOutOfRange rest

/-- The greatest exponent that is read in full. -/
def exponentLimit : Nat := 0x80000000

/-- The value of exponent digits, or, if it reaches the limit, what follows
    the digit at which it does. -/
def exponentValue : Nat → List Char → Nat ⊕ List Char
  | n, [] => .inl n
  | n, d :: s =>
    if d.isDigit then
      let n' := 10 * n + (d.toNat - '0'.toNat)
      if n' < exponentLimit then exponentValue n' s else .inr s
    else .inl n

/-- The exponent of a number after its mark. An exponent that is too great
    makes the number zero, if it is negative or the significand is zero, and
    is out of range else. -/
def exponentPart (negative : Bool) (significand : Nat) (scale : Int) : Reader Number := fun s =>
  let (minus, s) := match s with
    | '+' :: s => (false, s)
    | '-' :: s => (true, s)
    | s => (false, s)
  match s with
  | [] => stop .missingValue []
  | d :: ds =>
    if d.isDigit then
      let after := (digits (d :: ds)).2
      match exponentValue 0 (d :: ds) with
      | .inl e => decimalNumber negative significand (if minus then scale - e else scale + e) after
      | .inr s =>
        if significand = 0 || minus then .ok (.float (Binary64.zero negative), after)
        else stop .numberOutOfRange s
    else stopInto .invalidNumber (d :: ds)

/-- Whether the text goes on with the mark of an exponent. -/
def isExponentMark (c : Char) : Bool := c == 'e' || c == 'E'

/-- The fraction of a number after its point. -/
def fractionPart (negative : Bool) (significand : Nat) (scale : Int) : Reader Number := fun s =>
  let (ds, after) := digits s
  match ds, s with
  | [], [] => stop .missingValue []
  | [], s => stopInto .invalidNumber s
  | ds, _ =>
    let (significand, left) := absorb significand ds
    let scale := scale - (ds.length - left.length : Nat)
    match after with
    | c :: rest =>
      if isExponentMark c then exponentPart negative significand scale rest
      else decimalNumber negative significand scale after
    | [] => decimalNumber negative significand scale after

/-- The integer `± n`, if it is one of 64 bits; minus zero is a float. -/
def integerNumber (negative : Bool) (n : Nat) : Reader Number := fun rest =>
  if negative then
    if h : 0 < n ∧ n ≤ 0x8000000000000000 then .ok (.negSucc ⟨n - 1, by omega⟩, rest)
    else decimalNumber true n 0 rest
  else .ok (.nonneg (UInt64.ofNat n), rest)

/-- A number after its sign. -/
def number (negative : Bool) : Reader Number := fun s =>
  let (ds, after) := digits s
  match ds, s with
  | [], [] => stop .missingValue []
  | [], s => stopInto .invalidNumber s
  | '0' :: _ :: _, s => stopInto .invalidNumber (s.drop 1)
  | ds, _ =>
    let (significand, left) := absorb 0 ds
    match after with
    | c :: rest =>
      if c = '.' then fractionPart negative significand left.length rest
      else if isExponentMark c then exponentPart negative significand left.length rest
      else if left.isEmpty then integerNumber negative significand after
      else decimalNumber negative significand left.length after
    | [] =>
      if left.isEmpty then integerNumber negative significand after
      else decimalNumber negative significand left.length after

/-! ### Arrays and objects -/

/-- What is left after the end of an array, or at the fault that there is none. -/
def closeArray (s : List Char) : List Char × Option Fault :=
  match skipSpace s with
  | [] => ([], some ⟨.unclosedArray, [], 0, false⟩)
  | c :: rest =>
    if c = ']' then (rest, none)
    else if c = ',' then
      let rest := skipSpace rest
      (rest, some ⟨if rest.head? = some ']' then .trailingComma else .trailingCharacters, rest, 1,
        false⟩)
    else (c :: rest, some ⟨.trailingCharacters, c :: rest, 1, false⟩)

/-- What is left after the end of an object, or at the fault that there is none. -/
def closeObject (s : List Char) : List Char × Option Fault :=
  match skipSpace s with
  | [] => ([], some ⟨.unclosedObject, [], 0, false⟩)
  | c :: rest =>
    if c = '\x7d' then (rest, none)
    else if c = ',' then (c :: rest, some ⟨.trailingComma, c :: rest, 1, false⟩)
    else (c :: rest, some ⟨.trailingCharacters, c :: rest, 1, false⟩)

/-- A result that was read inside brackets, with the closing one. A pending
    fault is placed after as much of the end as is there. -/
def closing {α : Type} (close : List Char → List Char × Option Fault)
    (r : Except Fault (α × List Char)) : Except Fault (α × List Char) :=
  match r with
  | .ok (a, s) =>
    match close s with
    | (rest, none) => .ok (a, rest)
    | (_, some f) => .error f
  | .error f =>
    if f.pending then .error ⟨f.cause, (close f.rest).1, 0, false⟩ else .error f

/-- Goes to the next item of an array, if there is one, and else to its end;
    the first item has no comma before it. -/
def nextItem (first : Bool) (s : List Char) : Except Fault (Bool × List Char) :=
  match skipSpace s with
  | [] => stop .unclosedArray []
  | c :: rest =>
    if c = ']' then .ok (false, c :: rest)
    else if first then .ok (true, c :: rest)
    else if c = ',' then
      match skipSpace rest with
      | [] => stop .missingValue []
      | d :: rest =>
        if d = ']' then stopInto .trailingComma (d :: rest) else .ok (true, d :: rest)
    else stopInto .missingArrayComma (c :: rest)

/-- The items of an array up to its end, at most as many as there are characters. -/
def itemsUpTo {α : Type} (item : Reader α) : Nat → Bool → Reader (List α)
  | 0, _, s => .ok ([], s)
  | fuel + 1, first, s =>
    match nextItem first s with
    | .error f => .error f
    | .ok (false, s) => .ok ([], s)
    | .ok (true, s) =>
      match item s with
      | .error f => .error f
      | .ok (a, s) =>
        match itemsUpTo item fuel false s with
        | .error f => .error f
        | .ok (as, s) => .ok (a :: as, s)

/-- A result through a check of its own; a fault that it finds is pending. -/
def checked {α β : Type} (check : α → Except Cause β) (r : Except Fault (α × List Char)) :
    Except Fault (β × List Char) :=
  match r with
  | .error f => .error f
  | .ok (a, s) =>
    match check a with
    | .ok b => .ok (b, s)
    | .error cause => defer cause s

/-- An array after its opening bracket. -/
def items {α : Type} (item : Reader α) : Reader (List α) := fun s =>
  closing closeArray (itemsUpTo item (s.length + 1) true s)

/-- The colon after a key. -/
def colon (s : List Char) : Except Fault (List Char) :=
  match skipSpace s with
  | [] => stop .unclosedObject []
  | c :: rest => if c = ':' then .ok rest else stopInto .missingColon (c :: rest)

/-- The key of a field. -/
def key : Reader String
  | [] => stop .missingValue []
  | c :: rest => if c = '"' then stringBody rest else stopInto .keyNotString (c :: rest)

/-- The next key of an object, if there is one, and else its end; the first
    field has no comma before it. -/
def nextKey (first : Bool) (s : List Char) : Except Fault (Option String × List Char) :=
  match skipSpace s with
  | [] => stop .unclosedObject []
  | c :: rest =>
    if c = '\x7d' then .ok (none, c :: rest)
    else if first then
      match key (c :: rest) with
      | .ok (k, s) => .ok (some k, s)
      | .error f => .error f
    else if c = ',' then
      match skipSpace rest with
      | [] => stop .missingValue []
      | d :: rest =>
        if d = '\x7d' then stopInto .trailingComma (d :: rest)
        else
          match key (d :: rest) with
          | .ok (k, s) => .ok (some k, s)
          | .error f => .error f
    else stopInto .missingObjectComma (c :: rest)

/-- The fields of an object up to its end, at most as many as there are
    characters. The reader of a field is told the keys before it, the latest
    first, and its own, and begins after the key. -/
def membersUpTo {α : Type} (member : List String → String → Reader α) :
    Nat → List String → Reader (List α)
  | 0, _, s => .ok ([], s)
  | fuel + 1, seen, s =>
    match nextKey seen.isEmpty s with
    | .error f => .error f
    | .ok (none, s) => .ok ([], s)
    | .ok (some k, s) =>
      match member seen k s with
      | .error f => .error f
      | .ok (a, s) =>
        match membersUpTo member fuel (k :: seen) s with
        | .error f => .error f
        | .ok (as, s) => .ok (a :: as, s)

/-- An object after its opening bracket: its fields, through a check of them all. -/
def members {α β : Type} (member : List String → String → Reader α)
    (check : List α → Except Cause β) : Reader β := fun s =>
  closing closeObject (checked check (membersUpTo member (s.length + 1) [] s))

end HandleWatch.Json
