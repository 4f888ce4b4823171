import HandleWatch.Text.Numeral

/-!
# Dates and clocks

The civil date of a day, the text of an instant in coordinated universal time,
to the millisecond, and clocks, which are read again and again.

Days are counted from 1 March of the year 0, so that the day that only leap
years have is the last one of a year, and the years of a 400-year era, each
with its days, repeat exactly.
-/

namespace HandleWatch

/-- A date of the Gregorian calendar. -/
structure Date where
  year : Nat
  month : Nat
  day : Nat
  deriving DecidableEq, Repr

/-- The date that is `days` days after 1 January 1970. -/
def Date.ofDays (days : Nat) : Date :=
  let z := days + 719468
  let era := z / 146097
  let dayOfEra := z % 146097
  let yearOfEra := (dayOfEra - dayOfEra / 1460 + dayOfEra / 36524 - dayOfEra / 146096) / 365
  let dayOfYear := dayOfEra - (365 * yearOfEra + yearOfEra / 4 - yearOfEra / 100)
  -- Months are counted from March.
  let m := (5 * dayOfYear + 2) / 153
  let day := dayOfYear - (153 * m + 2) / 5 + 1
  let month := if m < 10 then m + 3 else m - 9
  let year := yearOfEra + era * 400 + (if month ≤ 2 then 1 else 0)
  ⟨year, month, day⟩

/-- An instant: seconds since the beginning of 1970, and the nanoseconds of the
    second that has begun, less than `10 ^ 9`. -/
structure Instant where
  seconds : Int
  nanos : Nat
  deriving DecidableEq, Repr

/-- The text of the time of day `s` seconds into a day. -/
def timeOfDay (s : Nat) : List Char :=
  paddedDecimal 2 (s / 3600) ++ ':' :: paddedDecimal 2 (s % 3600 / 60) ++
    ':' :: paddedDecimal 2 (s % 60)

/-- The text of a date. -/
def Date.text (d : Date) : List Char :=
  paddedDecimal 4 d.year ++ '-' :: paddedDecimal 2 d.month ++ '-' :: paddedDecimal 2 d.day

/-- The text of an instant, to the millisecond. Instants before 1970 have the
    text of its beginning. -/
def Instant.text (t : Instant) : String :=
  let (seconds, nanos) := if t.seconds < 0 then (0, 0) else (t.seconds.toNat, t.nanos)
  String.ofList <|
    (Date.ofDays (seconds / 86400)).text ++ 'T' :: timeOfDay (seconds % 86400) ++
      '.' :: paddedDecimal 3 (nanos / 1000000) ++ ['Z']

/-- A clock. It may show any instant at any of its readings. -/
structure Clock where
  /-- The instant that is shown, by the number of the reading from `0`. -/
  reading : Nat → Instant
  /-- How often it was read. -/
  reads : Nat := 0

namespace Clock

/-- The instant that a clock shows next. -/
def now (c : Clock) : Instant := c.reading c.reads

/-- The clock after one reading. -/
def next (c : Clock) : Clock := { c with reads := c.reads + 1 }

end Clock

end HandleWatch
