/-!
# Binary floating-point numbers

The finite numbers of the 64-bit binary format, as exact values
`± mantissa · 2 ^ exponent`, and rounding to them: to the nearest, and to the
even mantissa from halfway. All arithmetic is on natural numbers, so a number
read from a text and its text are functions of the digits alone.
-/

namespace HandleWatch

/-- A finite number of the 64-bit binary format, `± mantissa · 2 ^ exponent`.

    Rounding (`Binary64.round?`) gives every value one representation: the
    mantissa has at most 53 bits, and fewer than 53 only at the least
    exponent, `-1074`. -/
structure Binary64 where
  /-- Whether the sign is a minus. Zero has both signs. -/
  negative : Bool
  /-- The significant bits, at most 53 of them. -/
  mantissa : Nat
  /-- The power of two they are scaled by, between `-1074` and `971`. -/
  exponent : Int
  deriving DecidableEq, Repr

namespace Binary64

/-- The least exponent of a number. -/
def leastExponent : Int := -1074

/-- The greatest exponent of a number. -/
def greatestExponent : Int := 971

/-- The quotient `a / b`, rounded to the nearest integer, and from halfway to
    the even one. -/
def roundDiv (a b : Nat) : Nat :=
  let d := a / b
  let r := a % b
  if b < 2 * r ∨ (2 * r = b ∧ d % 2 = 1) then d + 1 else d

/-- The ratio `num / (den · 2 ^ e)` as a numerator and a denominator. -/
def scaledDown (num den : Nat) (e : Int) : Nat × Nat :=
  if 0 ≤ e then (num, den <<< e.toNat) else (num <<< (-e).toNat, den)

/-- The number nearest to the ratio `num / den`, of which `den` is positive;
    `none` if it is beyond the greatest number. -/
def round? (negative : Bool) (num den : Nat) : Option Binary64 :=
  -- At exponent `e` the mantissa has 53 or 54 bits.
  let e : Int := max ((num.log2 : Int) - den.log2 - 53) leastExponent
  let e := if (scaledDown num den e).1 / (scaledDown num den e).2 < 1 <<< 53 then e else e + 1
  let m := roundDiv (scaledDown num den e).1 (scaledDown num den e).2
  let (m, e) := if m = 1 <<< 53 then (1 <<< 52, e + 1) else (m, e)
  if greatestExponent < e then none else some ⟨negative, m, e⟩

/-- Zero, of either sign. -/
def zero (negative : Bool) : Binary64 := ⟨negative, 0, leastExponent⟩

/-- Whether the number is zero. -/
def isZero (x : Binary64) : Bool := x.mantissa == 0

/-- The size of the number, without its sign, as a numerator and a denominator. -/
def ratio (x : Binary64) : Nat × Nat :=
  if 0 ≤ x.exponent then (x.mantissa <<< x.exponent.toNat, 1)
  else (x.mantissa, 1 <<< (-x.exponent).toNat)

/-- The product of the sizes of two numbers, rounded, with the sign of the first. -/
def mul? (x y : Binary64) : Option Binary64 :=
  round? x.negative (x.ratio.1 * y.ratio.1) (x.ratio.2 * y.ratio.2)

/-- The quotient of the sizes of two numbers, rounded, with the sign of the
    first. The second is not zero. -/
def div? (x y : Binary64) : Option Binary64 :=
  round? x.negative (x.ratio.1 * y.ratio.2) (x.ratio.2 * y.ratio.1)

/-- The greatest power of ten that is a number. -/
def greatestPower : Nat := 308

/-- `10 ^ k`, rounded. -/
def tenPow (k : Nat) : Binary64 := (round? false (Nat.pow 10 k) 1).getD (zero false)

/-- Dividing by `10 ^ k`, in steps of at most `greatestPower`, each of them rounded. -/
def divTenPow (x : Binary64) (k : Nat) : Binary64 :=
  if x.isZero then x
  else if k ≤ greatestPower then (x.div? (tenPow k)).getD x
  else divTenPow ((x.div? (tenPow greatestPower)).getD x) (k - greatestPower)
termination_by k
decreasing_by simp [greatestPower] at *; omega

/-- The decimal `significand · 10 ^ exponent`: the significand is rounded, and
    then its product or quotient with the power of ten. `none` if it is beyond
    the greatest number. -/
def ofDecimal? (negative : Bool) (significand : Nat) (exponent : Int) : Option Binary64 := do
  let x ← round? negative significand 1
  if 0 ≤ exponent then
    if x.isZero then some x
    else if exponent.toNat ≤ greatestPower then x.mul? (tenPow exponent.toNat)
    else none
  else
    some (x.divTenPow (-exponent).toNat)

end Binary64

end HandleWatch
