import HandleWatch.Decimal.Binary64

/-!
# Shortest decimals

The decimal with the fewest digits that reads back as a given binary number,
and how it is laid out.

A binary number stands for an interval of reals: those that round to it. The
multiples of `10 ^ u` form a grid; the coarsest grid with a point in the
interval gives the fewest digits, and of its two points next to the number
the nearer one is taken (`Binary64.shortest`).
-/

namespace HandleWatch

namespace Binary64

/-- The interval of reals that round to a number, in units of a quarter of its
    last bit: the number itself is `4 · mantissa`. Just below a power of two
    the numbers lie twice as close. -/
def lowest (x : Binary64) : Nat :=
  if x.mantissa = 1 <<< 52 ∧ leastExponent < x.exponent then 4 * x.mantissa - 1
  else 4 * x.mantissa - 2

/-- The upper end of the interval, in the same unit. -/
def highest (x : Binary64) : Nat := 4 * x.mantissa + 2

/-- The ratio of `a` quarters of the last bit of `x` to `10 ^ u`, as a
    numerator and a denominator. -/
def onGrid (x : Binary64) (u : Int) (a : Nat) : Nat × Nat :=
  let e := x.exponent - 2
  -- One of the two exponents is zero, in either scale.
  let num := (a <<< e.toNat) * Nat.pow 10 (-u).toNat
  let den := (1 <<< (-e).toNat) * Nat.pow 10 u.toNat
  (num, den)

/-- Whether `c · 10 ^ u` rounds to `x`. The ends of the interval belong to it
    if the mantissa is even. -/
def readsBack (x : Binary64) (u : Int) (c : Nat) : Bool :=
  let (lo, den) := x.onGrid u x.lowest
  let (hi, _) := x.onGrid u x.highest
  if x.mantissa % 2 = 0 then decide (lo ≤ c * den ∧ c * den ≤ hi)
  else decide (lo < c * den ∧ c * den < hi)

/-- The multiple of `10 ^ u` that rounds to `x`, if there is one: of two, the
    nearer, and of two as near, the even one. -/
def gridPoint? (x : Binary64) (u : Int) : Option Nat :=
  let (num, den) := x.onGrid u (4 * x.mantissa)
  let below := num / den
  let nearer := roundDiv num den
  let further := if nearer = below then below + 1 else below
  if nearer ≠ 0 ∧ x.readsBack u nearer then some nearer
  else if further ≠ 0 ∧ x.readsBack u further then some further
  else none

/-- The coarsest of the grids `u`, `u - 1`, … that has a point in the
    interval of `x`, with that point. -/
def coarsest (x : Binary64) : Nat → Int → Nat × Int
  | 0, u => (0, u)
  | fuel + 1, u =>
    match x.gridPoint? u with
    | some c => (c, u)
    | none => x.coarsest fuel (u - 1)

/-- The shortest decimal `c · 10 ^ u` that reads back as `x`, which is not
    zero. The search begins above the greatest number and ends below the
    least. -/
def shortest (x : Binary64) : Nat × Int := x.coarsest 640 309

end Binary64

/-- How a decimal is laid out. -/
structure DecimalLayout where
  /-- The least decimal exponent of a number written positionally. -/
  leastPositional : Int
  /-- The greatest decimal exponent of a number written positionally. -/
  greatestPositional : Int

namespace DecimalLayout

/-- The digits `d` before the point, or a zero if there are none, and after it,
    or again a zero. -/
def positional (whole fraction : List Char) : List Char :=
  (if whole.isEmpty then ['0'] else whole) ++
    '.' :: (if fraction.isEmpty then ['0'] else fraction)

/-- The text of `c · 10 ^ u`. A positional text has at least one digit on
    either side of the point; any other has one digit before it, no point if
    there are no more digits, and an exponent with its sign. -/
def write (layout : DecimalLayout) (c : Nat) (u : Int) : List Char :=
  let digits := Nat.toDigits 10 c
  let e : Int := digits.length + u - 1
  if layout.leastPositional ≤ e ∧ e ≤ layout.greatestPositional then
    if 0 ≤ u then positional (digits ++ List.replicate u.toNat '0') []
    else if 0 ≤ e then positional (digits.take (e.toNat + 1)) (digits.drop (e.toNat + 1))
    else positional [] (List.replicate (-e - 1).toNat '0' ++ digits)
  else
    let mantissa := match digits with
      | [] => []
      | d :: [] => [d]
      | d :: ds => d :: '.' :: ds
    mantissa ++ 'e' :: (if 0 ≤ e then '+' else '-') :: Nat.toDigits 10 e.natAbs

/-- The text of a binary number: its shortest decimal, after its sign. -/
def writeBinary (layout : DecimalLayout) (x : Binary64) : List Char :=
  let text := if x.isZero then positional [] [] else layout.write x.shortest.1 x.shortest.2
  if x.negative then '-' :: text else text

end DecimalLayout

end HandleWatch
