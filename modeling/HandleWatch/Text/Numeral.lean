/-!
# Numerals

Integers as text: decimal numerals, padded or signed, and hexadecimal ones.
Writing uses `Nat.toDigits`, reading `Nat.ofDigitChars`, but signed words are read
within words, one digit after the other.
-/

namespace HandleWatch

/-- The decimal numeral of `n`. -/
def decimal (n : Nat) : List Char := Nat.toDigits 10 n

/-- The decimal numeral of `n`, with zeros before it up to `width` characters. -/
def paddedDecimal (width n : Nat) : List Char :=
  List.replicate (width - (decimal n).length) '0' ++ decimal n

/-- The decimal numeral of an integer, after a minus if it is negative. -/
def signedDecimal : Int → List Char
  | .ofNat n => decimal n
  | .negSucc n => '-' :: decimal (n + 1)

/-- The hexadecimal numeral of `n`, in lower case. -/
def hexadecimal (n : Nat) : List Char := Nat.toDigits 16 n

/-- The two hexadecimal digits of a byte. -/
def hexByte (b : UInt8) : List Char :=
  [Nat.digitChar (b.toNat / 16), Nat.digitChar (b.toNat % 16)]

/-- The number that a text of one or more decimal digits denotes. -/
def readDigits? (s : List Char) : Option Nat :=
  if s.isEmpty || !s.all Char.isDigit then none else some (Nat.ofDigitChars 10 s 0)

/-- The number below `2 ^ 64` that a text denotes: digits, perhaps after a plus. -/
def readWord? (s : List Char) : Option UInt64 :=
  let digits := match s with
    | '+' :: rest => rest
    | s => s
  match readDigits? digits with
  | some n => if n < UInt64.size then some (UInt64.ofNat n) else none
  | none => none

/-- The product of two signed words, if it is one. -/
def signedProduct? (a b : Int64) : Option Int64 :=
  if a.toBitVec.smulOverflow b.toBitVec then none else some (a * b)

/-- The sum of two signed words, if it is one. -/
def signedSum? (a b : Int64) : Option Int64 :=
  if a.toBitVec.saddOverflow b.toBitVec then none else some (a + b)

/-- The signed word of a digit, below zero in a numeral with a minus. -/
def signedDigit (negative : Bool) (c : Char) : Int64 :=
  let digit := Int64.ofNat (c.toNat - '0'.toNat)
  if negative then -digit else digit

/-- A signed word with one more digit at its end. -/
def appendDigit? (negative : Bool) (w : Int64) (c : Char) : Option Int64 :=
  if c.isDigit then (signedProduct? w 10).bind fun tens => signedSum? tens (signedDigit negative c)
  else none

/-- The signed word of the digits of a numeral. After a minus it grows downwards,
    as the least word has no opposite. -/
def accumulate? (negative : Bool) (digits : List Char) : Option Int64 :=
  digits.foldlM (appendDigit? negative) 0

/-- Whether a numeral has a minus, and what comes after its sign. -/
def splitSign : List Char → Bool × List Char
  | '+' :: rest => (false, rest)
  | '-' :: rest => (true, rest)
  | s => (false, s)

/-- The signed word that a text denotes: one or more digits, perhaps after one
    sign. -/
def readInteger? (s : List Char) : Option Int64 :=
  let (negative, digits) := splitSign s
  if digits.isEmpty then none else accumulate? negative digits

end HandleWatch
