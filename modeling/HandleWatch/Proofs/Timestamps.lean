import HandleWatch.Proofs.CivilDates
import Mathlib.Data.String.Basic

/-!
# Timestamps

The text of an instant tells its millisecond and no more. To say so, the text is
read back field by field (`Layout.read?`), as the time of a date of the calendar
(`readMillis?`).

Up to the year 9999 the texts are also in the order of time: their fields have
fixed widths then, so that they compare as numbers (`Layout.write_lt`), they go
from the longest period to the shortest, and later days have later dates
(`Date.strictMono_fields_ofDays`).

* `Instant.text_lossless`: equal texts are those of one millisecond, which is
  read back from them, and the order of the texts is that of time; all instants
  before 1970 have the text of its beginning.
-/

namespace HandleWatch

/-! ## Numerals of a fixed width -/

theorem isDigit_of_mem_paddedDecimal {width n : Nat} {c : Char} (h : c ∈ paddedDecimal width n) :
    c.isDigit = true := by
  rcases List.mem_append.1 h with hzero | hdigit
  · rw [(List.mem_replicate.1 hzero).2]
    rfl
  · exact Nat.isDigit_of_mem_toDigits (by decide) (by decide) hdigit

theorem le_length_paddedDecimal (width n : Nat) : width ≤ (paddedDecimal width n).length := by
  rw [paddedDecimal, List.length_append, List.length_replicate]
  omega

/-- A number that fits the width is written in just so many digits. -/
theorem length_paddedDecimal {width n : Nat} (hwidth : 0 < width) (hn : n < 10 ^ width) :
    (paddedDecimal width n).length = width := by
  have hlength : (decimal n).length ≤ width :=
    (Nat.length_toDigits_le_iff (by decide) hwidth).2 hn
  rw [paddedDecimal, List.length_append, List.length_replicate]
  omega

/-- Zeros in front do not change the number. -/
theorem ofDigitChars_paddedDecimal (width n : Nat) :
    Nat.ofDigitChars 10 (paddedDecimal width n) 0 = n := by
  have hzeros : ∀ k, Nat.ofDigitChars 10 (List.replicate k '0' ++ decimal n) 0 = n := by
    intro k
    induction k with
    | zero => exact Nat.ofDigitChars_ten_toDigits
    | succ k ih =>
      rw [List.replicate_succ, List.cons_append, Nat.ofDigitChars_cons]
      exact ih
  exact hzeros _

/-- The last digit of a numeral. -/
theorem paddedDecimal_succ {width : Nat} (hwidth : 0 < width) (n : Nat) :
    paddedDecimal (width + 1) n = paddedDecimal width (n / 10) ++ [Nat.digitChar (n % 10)] := by
  by_cases hn : n < 10
  · have hzero : n / 10 = 0 := Nat.div_eq_of_lt hn
    have hone : decimal n = [Nat.digitChar n] := Nat.toDigits_of_lt_base hn
    have hpad : paddedDecimal width 0 = List.replicate width '0' := by
      obtain ⟨k, rfl⟩ : ∃ k, width = k + 1 := Nat.exists_eq_add_one.2 hwidth
      exact List.replicate_succ'.symm
    rw [hzero, hpad, Nat.mod_eq_of_lt hn, paddedDecimal, hone]
    rfl
  · have hstep : decimal n = decimal (n / 10) ++ [Nat.digitChar (n % 10)] :=
      Nat.toDigits_of_base_le (by decide) (Nat.le_of_not_lt hn)
    rw [paddedDecimal, hstep, List.length_append, List.length_singleton, Nat.add_sub_add_right,
      ← List.append_assoc]
    rfl

theorem digitChar_lt {a b : Nat} (hab : a < b) (hb : b < 10) :
    Nat.digitChar a < Nat.digitChar b := by
  have hnat : (Nat.digitChar a).toNat < (Nat.digitChar b).toNat := by
    rw [Nat.toNat_digitChar_of_lt_ten (hab.trans hb), Nat.toNat_digitChar_of_lt_ten hb]
    exact Nat.add_lt_add_left hab 48
  exact hnat

/-- Lists of one length decide the order before what follows them does. -/
theorem append_lt_append_of_lt {α : Type} [LT α] {l l' : List α} (hlength : l.length = l'.length)
    (h : l < l') (s t : List α) : l ++ s < l' ++ t := by
  induction l generalizing l' with
  | nil =>
    rw [List.eq_nil_of_length_eq_zero hlength.symm] at h
    exact absurd h (List.not_lt_nil _)
  | cons c l ih =>
    obtain ⟨c', l', rfl⟩ := List.exists_cons_of_length_eq_add_one hlength.symm
    rw [List.cons_append, List.cons_append, List.cons_lt_cons_iff]
    rcases List.cons_lt_cons_iff.1 h with hc | ⟨hc, hl⟩
    · exact .inl hc
    · exact .inr ⟨hc, ih (Nat.succ.inj hlength) hl⟩

/-- Numerals of one width are in the order of their numbers. -/
theorem paddedDecimal_lt {width a b : Nat} (hwidth : 0 < width) (hab : a < b)
    (hb : b < 10 ^ width) : paddedDecimal width a < paddedDecimal width b := by
  -- The last digit decides only if the numbers agree without it.
  induction width, hwidth using Nat.le_induction generalizing a b with
  | base =>
    have hdigit : ∀ {n}, n < 10 → paddedDecimal 1 n = [Nat.digitChar n] := by
      intro n hn
      rw [paddedDecimal, decimal, Nat.toDigits_of_lt_base hn]
      rfl
    rw [hdigit (hab.trans hb), hdigit hb, List.cons_lt_cons_iff]
    exact .inl (digitChar_lt hab hb)
  | succ width hwidth ih =>
    have hb' : b / 10 < 10 ^ width := by
      rw [Nat.pow_succ] at hb
      omega
    rw [paddedDecimal_succ hwidth, paddedDecimal_succ hwidth]
    rcases (Nat.div_le_div_right hab.le : a / 10 ≤ b / 10).lt_or_eq with hlt | heq
    · refine append_lt_append_of_lt ?_ (ih hlt hb') _ _
      rw [length_paddedDecimal hwidth (hlt.trans hb'), length_paddedDecimal hwidth hb']
    · rw [heq]
      refine List.append_left_lt (List.cons_lt_cons_iff.2 (.inl (digitChar_lt ?_ ?_)))
      · omega
      · exact Nat.mod_lt _ (by decide)

/-- What follows two numerals of one width decides if the numbers are the same. -/
theorem paddedDecimal_append_lt {width a b : Nat} (hwidth : 0 < width) (hb : b < 10 ^ width)
    {s t : List Char} (h : a < b ∨ a = b ∧ s < t) :
    paddedDecimal width a ++ s < paddedDecimal width b ++ t := by
  rcases h with hab | ⟨rfl, hst⟩
  · refine append_lt_append_of_lt ?_ (paddedDecimal_lt hwidth hab hb) s t
    rw [length_paddedDecimal hwidth (hab.trans hb), length_paddedDecimal hwidth hb]
  · exact List.append_left_lt hst

/-! ## Fields -/

/-- The fields of a text: the width of each numeral, and the separator after it. -/
abbrev Layout := List (Nat × Char)

namespace Layout

/-- The text of some numbers. -/
def write : Layout → List Nat → List Char
  | (width, separator) :: layout, n :: ns =>
    paddedDecimal width n ++ separator :: write layout ns
  | _, _ => []

/-- The numbers that a text has in its fields, each of at least so many digits as
    the field is wide. -/
def read? : Layout → List Char → Option (List Nat)
  | [], s => if s = [] then some [] else none
  | (width, separator) :: layout, s =>
    let digits := s.takeWhile Char.isDigit
    match s.dropWhile Char.isDigit with
    | [] => none
    | c :: rest =>
      if c = separator ∧ width ≤ digits.length then
        (read? layout rest).map (Nat.ofDigitChars 10 digits 0 :: ·)
      else none

/-- The numbers of a layout are read back, as no separator is a digit. -/
theorem read?_write {layout : Layout} (hlayout : ∀ field ∈ layout, field.2.isDigit = false)
    {ns : List Nat} (hlength : ns.length = layout.length) :
    read? layout (write layout ns) = some ns := by
  induction layout generalizing ns with
  | nil =>
    rw [List.eq_nil_of_length_eq_zero hlength]
    rfl
  | cons field layout ih =>
    obtain ⟨width, separator⟩ := field
    obtain ⟨n, ns, rfl⟩ := List.exists_cons_of_length_eq_add_one hlength
    rw [List.forall_mem_cons] at hlayout
    have hdigits : ∀ c ∈ paddedDecimal width n, c.isDigit = true := fun c =>
      isDigit_of_mem_paddedDecimal
    have hstop : ¬separator.isDigit = true := by
      rw [hlayout.1]
      exact Bool.false_ne_true
    -- The digits end where the separator begins.
    rw [write, read?, List.takeWhile_append_of_pos hdigits, List.dropWhile_append_of_pos hdigits,
      List.takeWhile_cons_of_neg hstop, List.dropWhile_cons_of_neg hstop, List.append_nil]
    simp only [true_and]
    rw [if_pos (le_length_paddedDecimal width n), ih hlayout.2 (Nat.succ.inj hlength),
      ofDigitChars_paddedDecimal]
    rfl

/-- Numbers fit a layout if their numerals are as wide as the fields. -/
def Fits (layout : Layout) (ns : List Nat) : Prop :=
  List.Forall₂ (fun field n => 0 < field.1 ∧ n < 10 ^ field.1) layout ns

/-- The texts of numbers that fit are in the order of the numbers. -/
theorem write_lt {layout : Layout} {ns ns' : List Nat} (hfits : Fits layout ns')
    (hlength : ns.length = ns'.length) (h : ns < ns') : write layout ns < write layout ns' := by
  induction hfits generalizing ns with
  | nil => exact absurd h (List.not_lt_nil _)
  | @cons field n' layout ns' hfield _ ih =>
    obtain ⟨width, separator⟩ := field
    obtain ⟨n, ns, rfl⟩ := List.exists_cons_of_length_eq_add_one hlength
    refine paddedDecimal_append_lt hfield.1 hfield.2 ?_
    rcases List.cons_lt_cons_iff.1 h with hn | ⟨hn, hns⟩
    · exact .inl hn
    · exact .inr ⟨hn, List.cons_lt_cons_iff.2 (.inr ⟨rfl, ih (Nat.succ.inj hlength) hns⟩)⟩

end Layout

/-! ## Dates in order -/

namespace Date

/-- The fields of a date, the longest period first. -/
def fields (d : Date) : List Nat := [d.year, d.month, d.day]

theorem length_fields (d : Date) : d.fields.length = 3 := rfl

theorem fields_lt_next (d : Date) : d.fields < d.next.fields := by
  unfold next
  split
  · simp [fields, List.cons_lt_cons_iff]
  · split <;> simp [fields, List.cons_lt_cons_iff]

/-- Later days have later dates. -/
theorem strictMono_fields_ofDays : StrictMono fun days => (ofDays days).fields :=
  strictMono_nat_of_lt_succ fun days => by
    rw [ofDays_succ]
    exact fields_lt_next _

instance (d : Date) : Decidable d.Valid :=
  decidable_of_iff (1 ≤ d.month ∧ d.month ≤ 12 ∧ 1 ≤ d.day ∧ d.day ≤ monthLength d.year d.month)
    ⟨fun h => ⟨h.1, h.2.1, h.2.2.1, h.2.2.2⟩, fun h => ⟨h.1, h.2, h.3, h.4⟩⟩

end Date

/-! ## Timestamps -/

/-- The layout of a timestamp. -/
def timestampLayout : Layout :=
  [(4, '-'), (2, '-'), (2, 'T'), (2, ':'), (2, ':'), (2, '.'), (3, 'Z')]

/-- The fields of the timestamp of a millisecond since the beginning of 1970. -/
def timestampFields (millis : Nat) : List Nat :=
  let second := millis / 1000 % 86400
  (Date.ofDays (millis / 86400000)).fields ++
    [second / 3600, second % 3600 / 60, second % 60, millis % 1000]

theorem length_timestampFields (millis : Nat) : (timestampFields millis).length = 7 := rfl

/-- The millisecond since the beginning of 1970 that a timestamp names, if it is
    the text of a time of a date. -/
def readMillis? (s : String) : Option Nat :=
  match timestampLayout.read? s.toList with
  | some [year, month, day, hour, minute, second, milli] =>
    let date : Date := ⟨year, month, day⟩
    if 1970 ≤ year ∧ date.Valid ∧ hour < 24 ∧ minute < 60 ∧ second < 60 ∧ milli < 1000 then
      some ((((date.toDays * 24 + hour) * 60 + minute) * 60 + second) * 1000 + milli)
    else none
  | _ => none

theorem readMillis?_write (millis : Nat) :
    readMillis? (String.ofList (timestampLayout.write (timestampFields millis))) = some millis := by
  have hread : timestampLayout.read? (timestampLayout.write (timestampFields millis)) =
      some (timestampFields millis) := Layout.read?_write (by decide) (length_timestampFields _)
  rw [readMillis?, String.toList_ofList, hread]
  simp only [timestampFields, Date.fields, List.cons_append, List.nil_append]
  rw [if_pos ⟨Date.year_ofDays _, Date.ofDays_valid _, by omega, by omega, by omega, by omega⟩,
    Date.toDays_ofDays]
  congr 1
  omega

/-- The timestamps of later milliseconds have later fields. -/
theorem strictMono_timestampFields : StrictMono timestampFields := by
  intro a b hab
  simp only [timestampFields]
  rcases (Nat.div_le_div_right hab.le : a / 86400000 ≤ b / 86400000).lt_or_eq with hday | hday
  · refine append_lt_append_of_lt ?_ (Date.strictMono_fields_ofDays hday) _ _
    rw [Date.length_fields, Date.length_fields]
  · rw [hday]
    refine List.append_left_lt ?_
    simp only [List.cons_lt_cons_iff]
    omega

/-- The text of the fields of a date and a time of day. -/
theorem write_fields (d : Date) (second milli : Nat) :
    timestampLayout.write (d.fields ++ [second / 3600, second % 3600 / 60, second % 60, milli]) =
      d.text ++ 'T' :: timeOfDay second ++ '.' :: paddedDecimal 3 milli ++ ['Z'] := by
  simp only [timestampLayout, Layout.write, Date.fields, Date.text, timeOfDay, List.append_assoc,
    List.cons_append, List.nil_append]

/-- The fields of a timestamp fit up to the year 9999. -/
theorem fits_timestampFields {millis : Nat} (h : (Date.ofDays (millis / 86400000)).year ≤ 9999) :
    timestampLayout.Fits (timestampFields millis) := by
  have hvalid := Date.ofDays_valid (millis / 86400000)
  have hmonth := hvalid.month_le
  have hday : (Date.ofDays (millis / 86400000)).day ≤ 31 :=
    hvalid.day_le.trans (Date.monthLength_le _ _)
  simp only [Layout.Fits, timestampLayout, timestampFields, Date.fields, List.cons_append,
    List.nil_append, List.forall₂_cons, List.forall₂_nil_left_iff, Nat.reducePow, and_true]
  omega

/-- Up to the year 9999, later times have greater texts. -/
theorem strictMonoOn_timestamp :
    StrictMonoOn (fun n => String.ofList (timestampLayout.write (timestampFields n)))
      {n | (Date.ofDays (n / 86400000)).year ≤ 9999} := by
  intro a _ b hb hab
  rw [String.lt_iff_toList_lt, String.toList_ofList, String.toList_ofList]
  refine Layout.write_lt (fits_timestampFields hb) ?_ (strictMono_timestampFields hab)
  rw [length_timestampFields, length_timestampFields]

namespace Instant

/-- Instants from the beginning of 1970 on, with the nanoseconds of a second. -/
structure SinceEpoch (t : Instant) : Prop where
  seconds_nonneg : 0 ≤ t.seconds
  nanos_lt : t.nanos < 1000000000

/-- The millisecond since the beginning of 1970 that an instant is in. -/
def millis (t : Instant) : Nat := t.seconds.toNat * 1000 + t.nanos / 1000000

/-- The date of an instant. -/
def date (t : Instant) : Date := Date.ofDays (t.seconds.toNat / 86400)

/-- The day of an instant. -/
theorem millis_day {t : Instant} (h : t.SinceEpoch) :
    t.millis / 86400000 = t.seconds.toNat / 86400 := by
  have := h.nanos_lt
  unfold millis
  omega

theorem millis_second {t : Instant} (h : t.SinceEpoch) :
    t.millis / 1000 % 86400 = t.seconds.toNat % 86400 := by
  have := h.nanos_lt
  unfold millis
  omega

theorem millis_milli {t : Instant} (h : t.SinceEpoch) :
    t.millis % 1000 = t.nanos / 1000000 := by
  have := h.nanos_lt
  unfold millis
  omega

/-- The text of an instant is that of its millisecond. -/
theorem text_eq {t : Instant} (h : t.SinceEpoch) :
    t.text = String.ofList (timestampLayout.write (timestampFields t.millis)) := by
  rw [timestampFields, millis_day h, millis_second h, millis_milli h, write_fields, text,
    if_neg (not_lt.2 h.seconds_nonneg)]

/-- Instants before 1970 have the text of its beginning. -/
theorem text_of_neg {t : Instant} (h : t.seconds < 0) : t.text = (⟨0, 0⟩ : Instant).text := by
  rw [text, text, if_pos h, if_neg (lt_irrefl _)]
  rfl

/-- The text of an instant from 1970 on tells its millisecond and no more, and it
    can be read off it. Up to the year 9999 the texts are in the order of time.
    Instants before 1970 have the text of its beginning. -/
theorem text_lossless (t u : Instant) (ht : t.SinceEpoch) (hu : u.SinceEpoch) :
    (t.text = u.text ↔ t.millis = u.millis) ∧ readMillis? t.text = some t.millis ∧
      (t.date.year ≤ 9999 → u.date.year ≤ 9999 → (t.text < u.text ↔ t.millis < u.millis)) ∧
      ∀ v : Instant, v.seconds < 0 → v.text = (⟨0, 0⟩ : Instant).text := by
  have hread : ∀ v : Instant, v.SinceEpoch → readMillis? v.text = some v.millis := fun v hv =>
    text_eq hv ▸ readMillis?_write _
  refine ⟨⟨fun h => ?_, fun h => ?_⟩, hread t ht, fun hyear hyear' => ?_, fun v => text_of_neg⟩
  · -- Equal texts are read in the same way.
    have hmillis := hread t ht
    rw [h, hread u hu] at hmillis
    exact (Option.some.inj hmillis).symm
  · rw [text_eq ht, text_eq hu, h]
  · rw [date, ← millis_day ht] at hyear
    rw [date, ← millis_day hu] at hyear'
    rw [text_eq ht, text_eq hu]
    exact strictMonoOn_timestamp.lt_iff_lt hyear hyear'

/-- The last millisecond of a 28 February and the first one of the leap day after
    it. -/
theorem text_lossless_leap_day :
    let t : Instant := ⟨951782399, 999999999⟩
    let u : Instant := ⟨951782400, 0⟩
    t.SinceEpoch ∧ u.SinceEpoch ∧ t.text ≠ u.text ∧ t.text < u.text ∧
      readMillis? t.text = some 951782399999 ∧ u.text = "2000-02-29T00:00:00.000Z" := by
  intro t u
  have ht : t.SinceEpoch := ⟨by decide, by decide⟩
  have hu : u.SinceEpoch := ⟨by decide, by decide⟩
  obtain ⟨heq, hread, hlt, -⟩ := text_lossless t u ht hu
  have hmillis : t.millis < u.millis := by decide
  have hvalue : t.millis = 951782399999 := by decide
  rw [hvalue] at hread
  exact ⟨ht, hu, fun h => hmillis.ne (heq.1 h), (hlt (by decide) (by decide)).2 hmillis, hread,
    by decide⟩

end Instant

end HandleWatch
