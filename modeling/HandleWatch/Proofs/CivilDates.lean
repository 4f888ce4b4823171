import HandleWatch.Calendar
import Mathlib.Algebra.BigOperators.Intervals
import Mathlib.Tactic.IntervalCases

/-!
# Civil dates

The dates of the Gregorian calendar by its own rules: the length of the years
and months, the day after another one (`Date.next`), and how many days there are
from 1 January 1970 to a date, counted year by year and month by month
(`Date.toDays`). `Date.ofDays` finds the date of a day by a chain of divisions
instead, counting from March (`Date.March`). That these find the right era, year
and month is shown for a day given by its date (`Date.ofDays_toDays`). As every
day has one, the days and the dates follow each other in step:

* `Date.ofDays_eq_iterate`: `Date.ofDays` is the calendar, day after day;
* `Date.ofDays_checked`: none of its intermediate results is negative or exceeds
  a word, for all days that a word of seconds reaches.
-/

namespace HandleWatch

/-! ## The calendar -/

/-- A leap year has a 29 February. -/
def IsLeap (year : Nat) : Prop := year % 4 = 0 ∧ (year % 100 ≠ 0 ∨ year % 400 = 0)

instance (year : Nat) : Decidable (IsLeap year) := inferInstanceAs (Decidable (_ ∧ _))

/-- How many days a year has. -/
def yearLength (year : Nat) : Nat := if IsLeap year then 366 else 365

/-- How many days a month has, of those from `1` to `12`. -/
def monthLength (year : Nat) : Nat → Nat
  | 2 => if IsLeap year then 29 else 28
  | 4 | 6 | 9 | 11 => 30
  | _ => 31

namespace Date

/-- The dates that there are. -/
structure Valid (d : Date) : Prop where
  month_pos : 1 ≤ d.month
  month_le : d.month ≤ 12
  day_pos : 1 ≤ d.day
  day_le : d.day ≤ monthLength d.year d.month

/-- The first day of 1970. -/
def epoch : Date := ⟨1970, 1, 1⟩

/-- The day after another one. -/
def next (d : Date) : Date :=
  if d.day < monthLength d.year d.month then ⟨d.year, d.month, d.day + 1⟩
  else if d.month < 12 then ⟨d.year, d.month + 1, 1⟩
  else ⟨d.year + 1, 1, 1⟩

/-- The days from 1 January 1970 to a date: those of the years before its year,
    of the months before its month, and of its month before it. -/
def toDays (d : Date) : Nat :=
  ∑ y ∈ Finset.Ico 1970 d.year, yearLength y + ∑ m ∈ Finset.Ico 1 d.month, monthLength d.year m +
    (d.day - 1)

/-- The length of a year is that of its months. -/
theorem sum_monthLength (year : Nat) :
    ∑ m ∈ Finset.Ico 1 13, monthLength year m = yearLength year := by
  unfold yearLength
  simp only [Finset.sum_Ico_succ_top, Nat.reduceLeDiff, Finset.Ico_self, Finset.sum_empty,
    monthLength]
  split <;> rfl

theorem monthLength_pos (year month : Nat) : 1 ≤ monthLength year month := by
  unfold monthLength
  split
  · split <;> omega
  all_goals omega

theorem monthLength_le (year month : Nat) : monthLength year month ≤ 31 := by
  unfold monthLength
  split
  · split <;> omega
  all_goals omega

/-- The day after a date is a date. -/
theorem next_valid {d : Date} (h : d.Valid) : d.next.Valid := by
  unfold next
  split
  · next hday => exact ⟨h.month_pos, h.month_le, Nat.le_add_left _ _, hday⟩
  · split
    · next hmonth => exact ⟨Nat.le_add_left _ _, hmonth, le_rfl, monthLength_pos _ _⟩
    · exact ⟨le_rfl, Nat.one_le_ofNat, le_rfl, monthLength_pos _ _⟩

theorem year_le_next (d : Date) : d.year ≤ d.next.year := by
  unfold next
  split
  · exact le_rfl
  · split
    · exact le_rfl
    · exact Nat.le_succ _

/-- The next date is one day later. -/
theorem toDays_next {d : Date} (h : d.Valid) (hyear : 1970 ≤ d.year) :
    d.next.toDays = d.toDays + 1 := by
  have := h.day_pos
  have := h.day_le
  -- The next day is in the same month, or the first of the next month, or of the next year.
  unfold next
  split
  · simp only [toDays]
    omega
  · next hday =>
    split
    · simp only [toDays]
      rw [Finset.sum_Ico_succ_top h.month_pos]
      omega
    · next hmonth =>
      have hlast : d.month = 12 := by
        have := h.month_le
        omega
      simp only [toDays]
      rw [Finset.sum_Ico_succ_top hyear, ← sum_monthLength, Finset.sum_Ico_succ_top (by decide),
        ← hlast, Finset.Ico_self, Finset.sum_empty]
      omega

/-! ## Counting from March -/

/-- The year of an era that a day of the era is in. -/
def yearOfEra (day : Nat) : Nat := (day - day / 1460 + day / 36524 - day / 146096) / 365

/-- The first day of a year of an era. -/
def yearStart (year : Nat) : Nat := 365 * year + year / 4 - year / 100

/-- The month, from March on, that a day of a year is in. -/
def monthOfYear (day : Nat) : Nat := (5 * day + 2) / 153

/-- The first day of a month, from March on, of a year. -/
def monthStart (month : Nat) : Nat := (153 * month + 2) / 5

/-- A date in the count from March: an era of 400 years, a year of it, a month
    and a day, all from `0`. -/
structure March where
  era : Nat
  year : Nat
  month : Nat
  day : Nat

namespace March

/-- The day of the year. -/
def dayOfYear (x : March) : Nat := monthStart x.month + x.day

/-- The day of the era. -/
def dayOfEra (x : March) : Nat := yearStart x.year + x.dayOfYear

/-- The number of a day, from 1 March of the year `0`. -/
def number (x : March) : Nat := 146097 * x.era + x.dayOfEra

/-- The dates in the count from March that there are. February is the last month,
    and its length depends on the year that began in it. -/
structure Valid (x : March) : Prop where
  year_lt : x.year < 400
  month_le : x.month ≤ 11
  day_lt : x.month < 11 → x.dayOfYear < monthStart (x.month + 1)
  last_lt : x.month = 11 → x.dayOfYear < 365 ∨ x.dayOfYear = 365 ∧ IsLeap (x.year + 1)

/-- The date that is meant. -/
def date (x : March) : Date where
  year := x.year + x.era * 400 + (if x.month < 10 then 0 else 1)
  month := if x.month < 10 then x.month + 3 else x.month - 9
  day := x.day + 1

end March

/-- The year of a day of an era, given by centuries, spans of four years, years
    and days. -/
theorem yearOfEra_eq {c q r n : Nat} (hc : c ≤ 3) (hq : q ≤ 24) (hr : r ≤ 3)
    (hn : n < 365 ∨ n = 365 ∧ r = 3 ∧ (q < 24 ∨ c = 3)) :
    yearOfEra (36524 * c + 1461 * q + 365 * r + n) = 100 * c + 4 * q + r := by
  generalize hday : 36524 * c + 1461 * q + 365 * r + n = day
  -- The last day of the era would begin a fifth century, and `day / 146096`
  -- takes that back.
  have hcentury : day / 36524 = c + day / 146096 := by
    by_cases hlast : day = 146096
    · subst hlast
      omega
    · have hrest : 1461 * q + 365 * r + n < 36524 := by omega
      have hdiv : day / 36524 = c := by omega
      have hera : day / 146096 = 0 := by omega
      omega
  unfold yearOfEra
  -- One leap day too many may be taken away, but only late in a fourth year.
  by_cases hover : 24 * c + q + 365 * r + n < 1460
  · have hfour : day / 1460 = 25 * c + q := by omega
    omega
  · have hfour : day / 1460 = 25 * c + q + 1 := by omega
    omega

/-- The year of a day is found from its number in the era, though the years differ in
    length. -/
theorem yearOfEra_yearStart {year n : Nat} (hyear : year < 400)
    (hn : n < 365 ∨ n = 365 ∧ IsLeap (year + 1)) : yearOfEra (yearStart year + n) = year := by
  have hstart : yearStart year =
      36524 * (year / 100) + 1461 * (year % 100 / 4) + 365 * (year % 4) := by
    unfold yearStart
    omega
  unfold IsLeap at hn
  rw [hstart, yearOfEra_eq (by omega) (by omega) (by omega) (by omega)]
  omega

namespace March

variable {x : March}

/-- A year has 365 days, or one more if it ends with a leap day. -/
theorem Valid.dayOfYear_lt (h : x.Valid) :
    x.dayOfYear < 365 ∨ x.dayOfYear = 365 ∧ IsLeap (x.year + 1) := by
  rcases h.month_le.lt_or_eq with hmonth | hmonth
  · have hday := h.day_lt hmonth
    unfold monthStart at hday
    omega
  · exact h.last_lt hmonth

theorem Valid.yearOfEra_dayOfEra (h : x.Valid) : yearOfEra x.dayOfEra = x.year :=
  yearOfEra_yearStart h.year_lt h.dayOfYear_lt

/-- The month of a day is found from its number in the year, though the months differ in
    length. -/
theorem Valid.monthOfYear_dayOfYear (h : x.Valid) : monthOfYear x.dayOfYear = x.month := by
  have hle := h.month_le
  have hday := h.day_lt
  have hlast := h.last_lt
  unfold dayOfYear monthStart at hday hlast
  unfold monthOfYear dayOfYear monthStart
  rcases hle.lt_or_eq with hmonth | hmonth
  · have := hday hmonth
    omega
  · have := hlast hmonth
    omega

/-- An era has 146097 days. -/
theorem Valid.dayOfEra_lt (h : x.Valid) : x.dayOfEra < 146097 := by
  have := h.year_lt
  have := h.dayOfYear_lt
  unfold dayOfEra yearStart
  omega

theorem Valid.number_div (h : x.Valid) : x.number / 146097 = x.era := by
  have := h.dayOfEra_lt
  unfold number
  omega

theorem Valid.number_mod (h : x.Valid) : x.number % 146097 = x.dayOfEra := by
  have := h.dayOfEra_lt
  unfold number
  omega

end March

/-- A date in the count from March. -/
def toMarch (d : Date) : March :=
  if 3 ≤ d.month then ⟨d.year / 400, d.year % 400, d.month - 3, d.day - 1⟩
  else ⟨(d.year - 1) / 400, (d.year - 1) % 400, d.month + 9, d.day - 1⟩

/-- The number of the first day of a year that begins in March. -/
def firstDay (year : Nat) : Nat := 146097 * (year / 400) + yearStart (year % 400)

/-- The first day of a year, with the leap years before it counted out. -/
theorem firstDay_eq (year : Nat) :
    firstDay year + year / 100 = 365 * year + year / 4 + year / 400 := by
  unfold firstDay yearStart
  omega

theorem succ_div_eq (n k : Nat) : (n + 1) / k = n / k + if (n + 1) % k = 0 then 1 else 0 := by
  rw [Nat.succ_div]
  simp only [Nat.dvd_iff_mod_eq_zero]

/-- The rules of the leap years one by one. -/
theorem yearLength_eq (year : Nat) :
    yearLength year + (if year % 100 = 0 then 1 else 0) =
      365 + (if year % 4 = 0 then 1 else 0) + if year % 400 = 0 then 1 else 0 := by
  have hcentury : year % 100 = 0 → year % 4 = 0 := by omega
  have hera : year % 400 = 0 → year % 100 = 0 := by omega
  unfold yearLength IsLeap
  by_cases h4 : year % 4 = 0 <;> by_cases h100 : year % 100 = 0 <;>
    by_cases h400 : year % 400 = 0 <;> simp_all

/-- A year later, the first day is later by the length of the year. -/
theorem firstDay_succ (year : Nat) :
    firstDay (year + 1) = firstDay year + yearLength (year + 1) := by
  have hlength := yearLength_eq (year + 1)
  have hbefore := firstDay_eq year
  have hafter := firstDay_eq (year + 1)
  rw [succ_div_eq, succ_div_eq, succ_div_eq] at hafter
  omega

/-- January begins 306 days after March of the year before, which for 1970 is the
    day from which days are counted. -/
theorem sum_yearLength {year : Nat} (h : 1969 ≤ year) :
    ∑ y ∈ Finset.Ico 1970 (year + 1), yearLength y + 719468 = firstDay year + 306 := by
  induction year, h using Nat.le_induction with
  | base => decide
  | succ year hyear ih =>
    have hfirst : 1970 ≤ year + 1 := Nat.succ_le_succ hyear
    rw [Finset.sum_Ico_succ_top hfirst, firstDay_succ]
    omega

/-- The days of the months before one from March on. -/
theorem sum_monthLength_of_le (year : Nat) {month : Nat} (hge : 3 ≤ month) (hle : month ≤ 12) :
    ∑ m ∈ Finset.Ico 1 month, monthLength year m + 306 =
      yearLength year + monthStart (month - 3) := by
  unfold yearLength
  interval_cases month <;>
    simp only [Finset.sum_Ico_succ_top, Nat.reduceLeDiff, Finset.Ico_self, Finset.sum_empty,
      monthLength] <;>
    split <;> rfl

/-- A month from March on ends before the next one starts. -/
theorem monthStart_add_lt {year month day : Nat} (hge : 3 ≤ month) (hle : month ≤ 12)
    (hday : day ≤ monthLength year month) :
    monthStart (month - 3) + (day - 1) < monthStart (month - 3 + 1) := by
  interval_cases month <;> simp only [monthLength] at hday <;> simp only [monthStart] <;> omega

/-- The months before March are two. -/
theorem Valid.month_cases {d : Date} (h : d.Valid) (hmarch : ¬3 ≤ d.month) :
    d.month = 1 ∨ d.month = 2 := by
  have := h.month_pos
  omega

theorem toMarch_valid {d : Date} (h : d.Valid) (hyear : 1 ≤ d.year) : d.toMarch.Valid := by
  have hle := h.month_le
  have hday := h.day_le
  have hmod : ∀ year, year % 400 < 400 := fun year => Nat.mod_lt _ (by decide)
  by_cases hmarch : 3 ≤ d.month
  · rw [toMarch, if_pos hmarch]
    exact ⟨hmod _, Nat.sub_le_sub_right hle 3 |>.trans (by decide),
      fun _ => monthStart_add_lt hmarch hle hday, fun hlast => by simp only at hlast; omega⟩
  · rw [toMarch, if_neg hmarch]
    rcases h.month_cases hmarch with hmonth | hmonth <;> rw [hmonth] at hday ⊢
    · have hjanuary : d.day ≤ 31 := hday
      refine ⟨hmod _, Nat.le_succ _, fun _ => ?_,
        fun h => absurd h (Nat.ne_of_lt (Nat.lt_succ_self _))⟩
      simp only [March.dayOfYear, monthStart]
      omega
    · refine ⟨hmod _, le_rfl, fun h => absurd h (lt_irrefl _), fun _ => ?_⟩
      -- The year that began in January is a leap year if the last day is the 29th.
      simp only [March.dayOfYear, monthStart]
      simp only [monthLength] at hday
      split at hday <;> rename_i hleap <;> unfold IsLeap at hleap ⊢ <;> omega

/-- Counting from March and back gives the date. -/
theorem toMarch_date {d : Date} (h : d.Valid) (hyear : 1 ≤ d.year) : d.toMarch.date = d := by
  obtain ⟨year, month, day⟩ := d
  have hpos := h.month_pos
  have hle := h.month_le
  have hday := h.day_pos
  simp only at hpos hle hday hyear
  simp only [toMarch]
  split <;> simp only [March.date, Date.mk.injEq] <;> split <;> omega

/-- The number of a day is the same either way, up to where the count begins. -/
theorem toMarch_number {d : Date} (h : d.Valid) (hyear : 1970 ≤ d.year) :
    d.toMarch.number = d.toDays + 719468 := by
  obtain ⟨year, hsucc⟩ : ∃ year, d.year = year + 1 := Nat.exists_eq_add_one.2 (by omega)
  have hyears := sum_yearLength (show 1969 ≤ year by omega)
  rw [toDays, hsucc]
  -- January and February belong to the year before, when years begin in March.
  by_cases hmarch : 3 ≤ d.month
  · have hmonths := sum_monthLength_of_le (year + 1) hmarch h.month_le
    have hfirst := firstDay_succ year
    rw [firstDay] at hfirst
    rw [toMarch, if_pos hmarch, hsucc]
    simp only [March.number, March.dayOfEra, March.dayOfYear]
    omega
  · have hmonths : ∑ m ∈ Finset.Ico 1 d.month, monthLength (year + 1) m + 306 =
        monthStart (d.month + 9) := by
      rcases h.month_cases hmarch with hmonth | hmonth <;> rw [hmonth] <;> rfl
    rw [firstDay] at hyears
    rw [toMarch, if_neg hmarch, hsucc, Nat.add_sub_cancel]
    simp only [March.number, March.dayOfEra, March.dayOfYear]
    omega

/-! ## The divisions -/

/-- `Date.ofDays` by the parts of the count from March. -/
theorem ofDays_eq (days : Nat) :
    ofDays days =
      let z := days + 719468
      let year := yearOfEra (z % 146097)
      let day := z % 146097 - yearStart year
      let month := if monthOfYear day < 10 then monthOfYear day + 3 else monthOfYear day - 9
      ⟨year + z / 146097 * 400 + (if month ≤ 2 then 1 else 0), month,
        day - monthStart (monthOfYear day) + 1⟩ := rfl

/-- The date of a day is found from its number. -/
theorem ofDays_of_number {x : March} (h : x.Valid) {days : Nat}
    (hdays : days + 719468 = x.number) : ofDays days = x.date := by
  have hday : x.dayOfEra - yearStart x.year = x.dayOfYear := Nat.add_sub_cancel_left ..
  have hstart : x.dayOfYear - monthStart x.month = x.day := Nat.add_sub_cancel_left ..
  rw [ofDays_eq, hdays]
  simp only [h.number_mod, h.number_div, h.yearOfEra_dayOfEra, hday, h.monthOfYear_dayOfYear,
    hstart, March.date]
  have := h.month_le
  congr 2
  split <;> split <;> omega

/-- The date of a day, given by its date. -/
theorem ofDays_toDays {d : Date} (h : d.Valid) (hyear : 1970 ≤ d.year) : ofDays d.toDays = d := by
  have hpos : 1 ≤ d.year := le_trans (by decide) hyear
  rw [ofDays_of_number (toMarch_valid h hpos) (toMarch_number h hyear).symm, toMarch_date h hpos]

/-- Every day has a date. -/
theorem iterate_next (days : Nat) :
    (next^[days] epoch).Valid ∧ 1970 ≤ (next^[days] epoch).year ∧
      (next^[days] epoch).toDays = days := by
  induction days with
  | zero => exact ⟨⟨le_rfl, by decide, le_rfl, by decide⟩, le_rfl, rfl⟩
  | succ days ih =>
    obtain ⟨hvalid, hyear, hdays⟩ := ih
    rw [Function.iterate_succ_apply']
    refine ⟨next_valid hvalid, hyear.trans (year_le_next _), ?_⟩
    rw [toDays_next hvalid hyear, hdays]

/-- `Date.ofDays` follows the calendar, day after day. -/
theorem ofDays_eq_iterate (days : Nat) : ofDays days = next^[days] epoch := by
  obtain ⟨hvalid, hyear, hdays⟩ := iterate_next days
  rw [← ofDays_toDays hvalid hyear, hdays]

theorem ofDays_valid (days : Nat) : (ofDays days).Valid :=
  ofDays_eq_iterate days ▸ (iterate_next days).1

theorem year_ofDays (days : Nat) : 1970 ≤ (ofDays days).year :=
  ofDays_eq_iterate days ▸ (iterate_next days).2.1

theorem toDays_ofDays (days : Nat) : (ofDays days).toDays = days :=
  ofDays_eq_iterate days ▸ (iterate_next days).2.2

/-- The next day has the next date. -/
theorem ofDays_succ (days : Nat) : ofDays (days + 1) = (ofDays days).next := by
  rw [ofDays_eq_iterate, ofDays_eq_iterate, Function.iterate_succ_apply']

end Date

/-! ## Words -/

namespace Checked

/-- A sum, if it is a word. -/
def add? (a b : Nat) : Option Nat := if a + b < UInt64.size then some (a + b) else none

/-- A difference, if it is not negative. -/
def sub? (a b : Nat) : Option Nat := if b ≤ a then some (a - b) else none

/-- A product, if it is a word. -/
def mul? (a b : Nat) : Option Nat := if a * b < UInt64.size then some (a * b) else none

theorem add?_eq {a b : Nat} (h : a + b < UInt64.size) : add? a b = some (a + b) := if_pos h

theorem sub?_eq {a b : Nat} (h : b ≤ a) : sub? a b = some (a - b) := if_pos h

theorem mul?_eq {a b : Nat} (h : a * b < UInt64.size) : mul? a b = some (a * b) := if_pos h

end Checked

namespace Date

open Checked

/-- `Date.yearOfEra`, checked. -/
def yearOfEra? (day : Nat) : Option Nat := do
  let a ← sub? day (day / 1460)
  let b ← add? a (day / 36524)
  let c ← sub? b (day / 146096)
  some (c / 365)

/-- `Date.yearStart`, checked. -/
def yearStart? (year : Nat) : Option Nat := do
  let a ← mul? 365 year
  let b ← add? a (year / 4)
  sub? b (year / 100)

/-- `Date.monthOfYear`, checked. -/
def monthOfYear? (day : Nat) : Option Nat := do
  let a ← mul? 5 day
  let b ← add? a 2
  some (b / 153)

/-- `Date.monthStart`, checked. -/
def monthStart? (month : Nat) : Option Nat := do
  let a ← mul? 153 month
  let b ← add? a 2
  some (b / 5)

/-- The month of the calendar that is meant by one from March on, checked. -/
def calendarMonth? (m : Nat) : Option Nat := if m < 10 then add? m 3 else sub? m 9

/-- `Date.ofDays` with a check of each of its sums, differences and products. -/
def ofDays? (days : Nat) : Option Date := do
  let z ← add? days 719468
  let year ← yearOfEra? (z % 146097)
  let start ← yearStart? year
  let day ← sub? (z % 146097) start
  let m ← monthOfYear? day
  let start ← monthStart? m
  let day ← sub? day start
  let day ← add? day 1
  let month ← calendarMonth? m
  let century ← mul? (z / 146097) 400
  let year ← add? year century
  let year ← add? year (if month ≤ 2 then 1 else 0)
  some ⟨year, month, day⟩

/-- What is far below the bound of a word is a word. -/
theorem lt_size_of_le {n : Nat} (h : n ≤ 1000000000000000) : n < UInt64.size :=
  h.trans_lt (by decide)

/-- Within an era no operation leaves a word, and none goes below zero. -/
theorem yearOfEra?_eq {day : Nat} (h : day < 146097) : yearOfEra? day = some (yearOfEra day) := by
  unfold yearOfEra?
  rw [sub?_eq (Nat.div_le_self _ _), Option.bind_eq_bind, Option.bind_some,
    add?_eq (lt_size_of_le (by omega)), Option.bind_some, sub?_eq (by omega)]
  rfl

theorem yearStart?_eq {year : Nat} (h : year < 400) : yearStart? year = some (yearStart year) := by
  unfold yearStart?
  rw [mul?_eq (lt_size_of_le (by omega)), Option.bind_eq_bind, Option.bind_some,
    add?_eq (lt_size_of_le (by omega)), Option.bind_some, sub?_eq (by omega)]
  rfl

theorem monthOfYear?_eq {day : Nat} (h : day ≤ 365) :
    monthOfYear? day = some (monthOfYear day) := by
  unfold monthOfYear?
  rw [mul?_eq (lt_size_of_le (by omega)), Option.bind_eq_bind, Option.bind_some,
    add?_eq (lt_size_of_le (by omega))]
  rfl

theorem monthStart?_eq {month : Nat} (h : month ≤ 11) :
    monthStart? month = some (monthStart month) := by
  unfold monthStart?
  rw [mul?_eq (lt_size_of_le (by omega)), Option.bind_eq_bind, Option.bind_some,
    add?_eq (lt_size_of_le (by omega))]
  rfl

theorem calendarMonth?_eq {m : Nat} (h : m ≤ 11) :
    calendarMonth? m = some (if m < 10 then m + 3 else m - 9) := by
  unfold calendarMonth?
  split
  · exact add?_eq (lt_size_of_le (by omega))
  · exact sub?_eq (by omega)

/-- No check fails on a day that a word of seconds reaches. -/
theorem ofDays_checked {days : Nat} (h : days ≤ (UInt64.size - 1) / 86400) :
    ofDays? days = some (ofDays days) := by
  have hdays : days ≤ 213503982334601 := h.trans (by decide)
  obtain ⟨x, hx, hnumber⟩ : ∃ x : March, x.Valid ∧ days + 719468 = x.number := by
    refine ⟨_, toMarch_valid (ofDays_valid days) (le_trans (by decide) (year_ofDays days)), ?_⟩
    rw [toMarch_number (ofDays_valid days) (year_ofDays days), toDays_ofDays]
  have hera : x.era * 146097 ≤ x.number := by
    rw [← hx.number_div]
    exact Nat.div_mul_le_self _ _
  have hyear := hx.year_lt
  have hday : x.dayOfYear ≤ 365 := by
    have := hx.dayOfYear_lt
    omega
  -- The parts of the day are those of its date, so that no difference is negative.
  have hdayOfYear : x.dayOfEra - yearStart x.year = x.dayOfYear := Nat.add_sub_cancel_left ..
  have hyearStart : yearStart x.year ≤ x.dayOfEra := Nat.le_add_right _ _
  have hmonthStart : monthStart x.month ≤ x.dayOfYear := Nat.le_add_right _ _
  -- And its numbers are small.
  have hnumbers : days + 719468 ≤ 1000000000000000 ∧
      x.year + x.era * 400 + 1 ≤ 1000000000000000 := by omega
  have hstart : days + 719468 < UInt64.size := lt_size_of_le hnumbers.1
  have hdayOfMonth : x.dayOfYear - monthStart x.month + 1 < UInt64.size :=
    lt_size_of_le ((Nat.succ_le_succ ((Nat.sub_le _ _).trans hday)).trans (by decide))
  have hlast : ∀ n ≤ 1, x.year + x.era * 400 + n < UInt64.size := fun n hn =>
    lt_size_of_le ((Nat.add_le_add_left hn _).trans hnumbers.2)
  have hflag : ∀ (p : Prop) [Decidable p], (if p then 1 else 0) ≤ 1 := fun p _ => by
    split <;> decide
  have hyears : x.year + x.era * 400 < UInt64.size := hlast 0 (Nat.zero_le _)
  have heraStart : x.era * 400 < UInt64.size := (Nat.le_add_left _ _).trans_lt hyears
  rw [ofDays_eq, ofDays?, add?_eq hstart, Option.bind_eq_bind, Option.bind_some, hnumber]
  simp only [hx.number_mod, hx.number_div]
  rw [yearOfEra?_eq hx.dayOfEra_lt, Option.bind_some, hx.yearOfEra_dayOfEra, yearStart?_eq hyear,
    Option.bind_some, sub?_eq hyearStart, Option.bind_some, hdayOfYear, monthOfYear?_eq hday,
    Option.bind_some, hx.monthOfYear_dayOfYear, monthStart?_eq hx.month_le, Option.bind_some,
    sub?_eq hmonthStart, Option.bind_some, add?_eq hdayOfMonth, Option.bind_some,
    calendarMonth?_eq hx.month_le, Option.bind_some, mul?_eq heraStart, Option.bind_some,
    add?_eq hyears, Option.bind_some, add?_eq (hlast _ (hflag _)), Option.bind_some]

/-- The day of a second, both counted from the beginning of 1970. -/
def dayOf (seconds : UInt64) : Nat := seconds.toNat / 86400

/-- On every day that a word of seconds reaches, `Date.ofDays` stays within words
    and gives the date of the calendar: the first one is 1 January 1970, each day
    has the date that follows the one before, and the days up to the date are
    those that were asked for. -/
theorem ofDays_follows_calendar (seconds : UInt64) :
    ofDays? (dayOf seconds) = some (ofDays (dayOf seconds)) ∧ (ofDays (dayOf seconds)).Valid ∧
      ofDays 0 = ⟨1970, 1, 1⟩ ∧ ofDays (dayOf seconds + 1) = (ofDays (dayOf seconds)).next ∧
      (ofDays (dayOf seconds)).toDays = dayOf seconds := by
  have hdays : dayOf seconds ≤ (UInt64.size - 1) / 86400 :=
    Nat.div_le_div_right (Nat.le_sub_one_of_lt seconds.toNat_lt)
  exact ⟨ofDays_checked hdays, ofDays_valid _, ofDays_eq_iterate 0, ofDays_succ _,
    toDays_ofDays _⟩

end Date

end HandleWatch
