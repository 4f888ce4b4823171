import HandleWatch.Proofs.Blanks
import HandleWatch.Settings
import Mathlib.Algebra.Group.Int.Defs
import Mathlib.Logic.Function.Basic

/-!
# The capacity that the environment asks for

A text asks for a capacity by a numeral (`Numeral`), with blanks around it or not
(`Settings.Asks`). The numeral is read digit by digit in signed words. Two words have
a product or a sum just if the exact one is a word (`signedProduct?_eq_some_iff`,
`signedSum?_eq_some_iff`), and digits are only ever added away from zero, so that a
number is beyond the words if its first digits are. Hence the digits read so far always
make the word of their exact value, and reading stops before the end only if there is no
word for the whole (`accumulate?_eq_some_iff`).

* `Settings.capacity_exact`: the capacity that every environment gives.
-/

namespace HandleWatch

/-! ## Arithmetic of signed words -/

/-- If a result is exact unless it overflows, then it is given just if the exact value is
    a word. -/
theorem unless_overflow_eq_some_iff {overflow : Bool} {result c : Int64} {v : Int}
    (hexact : ¬overflow → result.toInt = v) (hbeyond : overflow → v ≥ 2 ^ 63 ∨ v < -2 ^ 63) :
    (if overflow then none else some result) = some c ↔ c.toInt = v := by
  split_ifs with h
  · have hlow := c.le_toInt
    have hhigh := c.toInt_lt
    have hv := hbeyond h
    refine iff_of_false not_false ?_
    omega
  · rw [Option.some_inj, ← Int64.toInt_inj, hexact h, eq_comm]

/-- The product is there if and only if it fits, and then it is exact. -/
theorem signedProduct?_eq_some_iff {a b c : Int64} :
    signedProduct? a b = some c ↔ c.toInt = a.toInt * b.toInt := by
  refine unless_overflow_eq_some_iff BitVec.toInt_mul_of_not_smulOverflow fun h => ?_
  simpa only [BitVec.smulOverflow, Int64.toInt_toBitVec, Nat.reduceSub, Bool.or_eq_true,
    decide_eq_true_eq] using h

/-- The sum is there if and only if it fits, and then it is exact. -/
theorem signedSum?_eq_some_iff {a b c : Int64} :
    signedSum? a b = some c ↔ c.toInt = a.toInt + b.toInt := by
  refine unless_overflow_eq_some_iff BitVec.toInt_add_of_not_saddOverflow fun h => ?_
  simpa only [BitVec.saddOverflow, Int64.toInt_toBitVec, Nat.reduceSub, Bool.or_eq_true,
    decide_eq_true_eq] using h

/-- The number `n`, with a minus or without. -/
def signed (negative : Bool) (n : Nat) : Int := if negative then -n else n

@[simp] theorem signed_false (n : Nat) : signed false n = n := rfl

@[simp] theorem signed_true (n : Nat) : signed true n = -n := rfl

theorem signed_add (negative : Bool) (m n : Nat) :
    signed negative (m + n) = signed negative m + signed negative n := by
  cases negative <;> simp only [signed_false, signed_true] <;> omega

theorem signed_mul_ten (negative : Bool) (n : Nat) :
    signed negative (10 * n) = signed negative n * 10 := by
  cases negative <;> simp only [signed_false, signed_true] <;> omega

/-- With a number all those nearer to zero are words. -/
theorem exists_toInt_eq_signed {negative : Bool} {w : Int64} {m n : Nat}
    (hw : w.toInt = signed negative n) (hmn : m ≤ n) :
    ∃ w' : Int64, w'.toInt = signed negative m := by
  have hlow := w.le_toInt
  have hhigh := w.toInt_lt
  refine ⟨Int64.ofInt (signed negative m), Int64.toInt_ofInt_of_le ?_ ?_⟩ <;>
    cases negative <;> simp only [signed_false, signed_true] at hw ⊢ <;> omega

/-! ## Digits -/

/-- The number of a digit. -/
def digitValue (c : Char) : Nat := c.toNat - '0'.toNat

theorem toInt_signedDigit (negative : Bool) {c : Char} (hc : c.isDigit = true) :
    (signedDigit negative c).toInt = signed negative (digitValue c) := by
  have hlt : digitValue c < 10 := by
    obtain ⟨-, hhigh⟩ := Char.isDigit_iff_toNat.1 hc
    exact Nat.lt_succ_of_le (Nat.sub_le_sub_right hhigh _)
  have hall : ∀ negative, ∀ d < 10, (if negative then -Int64.ofNat d else Int64.ofNat d).toInt =
      signed negative d := by decide
  exact hall negative _ hlt

/-- A digit is appended to the word of `n` just if the number with that digit at its
    end is a word as well. -/
theorem appendDigit?_eq_some_iff {negative : Bool} {w w' : Int64} {n : Nat} {c : Char}
    (hw : w.toInt = signed negative n) :
    appendDigit? negative w c = some w' ↔
      c.isDigit = true ∧ w'.toInt = signed negative (10 * n + digitValue c) := by
  have hten : w.toInt * (10 : Int64).toInt = signed negative (10 * n) := by
    rw [hw, signed_mul_ten]
    rfl
  rw [appendDigit?]
  split_ifs with hc
  · simp only [Option.bind_eq_some_iff, signedProduct?_eq_some_iff, signedSum?_eq_some_iff, hten,
      toInt_signedDigit negative hc, signed_add, hc, true_and]
    constructor
    · rintro ⟨tens, htens, hsum⟩
      rw [hsum, htens]
    · -- The product is nearer to zero than the sum.
      intro hsum
      obtain ⟨tens, htens⟩ : ∃ tens : Int64, tens.toInt = signed negative (10 * n) :=
        exists_toInt_eq_signed (hsum.trans (signed_add _ _ _).symm) (Nat.le_add_right _ _)
      exact ⟨tens, htens, by rw [hsum, htens]⟩
  · simp [hc]

theorem accumulate?_concat (negative : Bool) (digits : List Char) (c : Char) :
    accumulate? negative (digits ++ [c]) =
      (accumulate? negative digits).bind (appendDigit? negative · c) := by
  simp [accumulate?]

theorem ofDigitChars_concat (digits : List Char) (c : Char) :
    Nat.ofDigitChars 10 (digits ++ [c]) 0 =
      10 * Nat.ofDigitChars 10 digits 0 + digitValue c := by
  rw [Nat.ofDigitChars_append, Nat.ofDigitChars_cons, Nat.ofDigitChars_nil, digitValue]

/-- Digits make the word of their exact value, and none if that is beyond the words. -/
theorem accumulate?_eq_some_iff {negative : Bool} {digits : List Char} {w : Int64} :
    accumulate? negative digits = some w ↔
      (∀ c ∈ digits, c.isDigit = true) ∧
        w.toInt = signed negative (Nat.ofDigitChars 10 digits 0) := by
  -- Digits are appended at the right, so the last one is split off.
  induction digits using List.reverseRecOn generalizing w with
  | nil =>
    have hzero : signed negative (Nat.ofDigitChars 10 [] 0) = (0 : Int64).toInt := by
      cases negative <;> rfl
    rw [hzero, Int64.toInt_inj, eq_comm (a := w)]
    simp [accumulate?]
  | append_singleton digits c ih =>
    rw [accumulate?_concat, Option.bind_eq_some_iff, ofDigitChars_concat, List.forall_mem_append,
      List.forall_mem_singleton]
    constructor
    · rintro ⟨before, hbefore, happend⟩
      obtain ⟨hdigits, hvalue⟩ := ih.1 hbefore
      obtain ⟨hc, hw⟩ := (appendDigit?_eq_some_iff hvalue).1 happend
      exact ⟨⟨hdigits, hc⟩, hw⟩
    · rintro ⟨⟨hdigits, hc⟩, hw⟩
      obtain ⟨before, hvalue⟩ := exists_toInt_eq_signed (m := Nat.ofDigitChars 10 digits 0) hw
        (by omega)
      exact ⟨before, ih.2 ⟨hdigits, hvalue⟩, (appendDigit?_eq_some_iff hvalue).2 ⟨hc, hw⟩⟩

/-- Reading goes on with the digit `c` after the digits `before`, which made the word `w`,
    and nothing wraps. -/
structure StaysExact (negative : Bool) (before : List Char) (w : Int64) (c : Char) : Prop where
  /-- The word is that of the digits before. -/
  value : w.toInt = signed negative (Nat.ofDigitChars 10 before 0)
  /-- The next word is made by a product and a sum that are both exact. -/
  next : ∀ w', appendDigit? negative w c = some w' →
    w' = w * 10 + signedDigit negative c ∧ (w * 10).toInt = w.toInt * 10 ∧
      w'.toInt = (w * 10).toInt + (signedDigit negative c).toInt
  /-- If there is no next word, no word is the number, whatever digits follow. -/
  stop : appendDigit? negative w c = none → ∀ rest : List Char, (∀ d ∈ rest, d.isDigit = true) →
    ∀ w' : Int64, w'.toInt ≠ signed negative (Nat.ofDigitChars 10 (before ++ c :: rest) 0)

/-- Once a digit does not fit, no further digits help. -/
theorem accumulate?_append_of_stop {negative : Bool} {before : List Char} {w : Int64} {c : Char}
    (hbefore : accumulate? negative before = some w) (hstop : appendDigit? negative w c = none)
    (rest : List Char) : accumulate? negative (before ++ c :: rest) = none := by
  rw [accumulate?] at hbefore ⊢
  rw [List.foldlM_append, hbefore, Option.bind_eq_bind, Option.bind_some, List.foldlM_cons, hstop,
    Option.bind_eq_bind, Option.bind_none]

/-- A digit that was taken made neither of the two steps wrap. -/
theorem exact_of_appendDigit? {negative : Bool} {w w' : Int64} {c : Char}
    (h : appendDigit? negative w c = some w') :
    w' = w * 10 + signedDigit negative c ∧ (w * 10).toInt = w.toInt * 10 ∧
      w'.toInt = (w * 10).toInt + (signedDigit negative c).toInt := by
  rw [appendDigit?, Option.ite_none_right_eq_some, Option.bind_eq_some_iff] at h
  obtain ⟨-, tens, hproduct, hsum⟩ := h
  have htens : w * 10 = tens :=
    Option.some.inj (Option.ite_none_left_eq_some.1 hproduct).2
  have hw' : tens + signedDigit negative c = w' :=
    Option.some.inj (Option.ite_none_left_eq_some.1 hsum).2
  rw [htens, hw']
  exact ⟨rfl, signedProduct?_eq_some_iff.1 hproduct, signedSum?_eq_some_iff.1 hsum⟩

/-- Every step of the reading is exact, or the text is not taken for a number. -/
theorem staysExact {negative : Bool} {before : List Char} {w : Int64} {c : Char}
    (hbefore : accumulate? negative before = some w) (hc : c.isDigit = true) :
    StaysExact negative before w c where
  value := (accumulate?_eq_some_iff.1 hbefore).2
  next _ h := exact_of_appendDigit? h
  stop := by
    intro hstop rest hrest w' hw'
    have hdigits : ∀ d ∈ before ++ c :: rest, d.isDigit = true :=
      List.forall_mem_append.2
        ⟨(accumulate?_eq_some_iff.1 hbefore).1, List.forall_mem_cons.2 ⟨hc, hrest⟩⟩
    have hread := accumulate?_eq_some_iff.2 ⟨hdigits, hw'⟩
    rw [accumulate?_append_of_stop hbefore hstop rest] at hread
    exact Option.some_ne_none w' hread.symm

/-! ## Numerals -/

/-- A numeral of an integer: perhaps one sign, and then decimal digits, one or more, which
    may begin with zeros. -/
inductive Numeral : List Char → Int → Prop where
  | unsigned {digits : List Char} : digits ≠ [] → (∀ c ∈ digits, c.isDigit = true) →
      Numeral digits (Nat.ofDigitChars 10 digits 0)
  | plus {digits : List Char} : digits ≠ [] → (∀ c ∈ digits, c.isDigit = true) →
      Numeral ('+' :: digits) (Nat.ofDigitChars 10 digits 0)
  | minus {digits : List Char} : digits ≠ [] → (∀ c ∈ digits, c.isDigit = true) →
      Numeral ('-' :: digits) (-Nat.ofDigitChars 10 digits 0)

theorem splitSign_of_isDigit {digits : List Char} (h : ∀ c ∈ digits, c.isDigit = true) :
    splitSign digits = (false, digits) := by
  unfold splitSign
  split
  · exact absurd (h '+' List.mem_cons_self) (by decide)
  · exact absurd (h '-' List.mem_cons_self) (by decide)
  · rfl

/-- A numeral is a sign that may be missing, and at least one digit. -/
theorem numeral_iff {t : List Char} {v : Int} :
    Numeral t v ↔ (splitSign t).2 ≠ [] ∧ (∀ c ∈ (splitSign t).2, c.isDigit = true) ∧
      v = signed (splitSign t).1 (Nat.ofDigitChars 10 (splitSign t).2 0) := by
  constructor
  · rintro (⟨hne, hdigits⟩ | ⟨hne, hdigits⟩ | ⟨hne, hdigits⟩)
    · rw [splitSign_of_isDigit hdigits]
      exact ⟨hne, hdigits, rfl⟩
    · exact ⟨hne, hdigits, rfl⟩
    · exact ⟨hne, hdigits, rfl⟩
  · unfold splitSign
    split <;> rintro ⟨hne, hdigits, rfl⟩
    · exact .plus hne hdigits
    · exact .minus hne hdigits
    · exact .unsigned hne hdigits

/-- A word is read from the numerals of its value, and from no other text. -/
theorem readInteger?_eq_some_iff {t : List Char} {w : Int64} :
    readInteger? t = some w ↔ Numeral t w.toInt := by
  rw [numeral_iff, readInteger?]
  obtain ⟨negative, digits⟩ := splitSign t
  cases digits with
  | nil => simp
  | cons c rest =>
    exact accumulate?_eq_some_iff.trans (and_iff_right (List.cons_ne_nil c rest)).symm

theorem isBlank_of_isDigit {c : Char} (hc : c.isDigit = true) : isBlank c = false := by
  obtain ⟨hlow, hhigh⟩ := Char.isDigit_iff_toNat.1 hc
  simp only [Char.reduceToNat] at hlow hhigh
  simp only [isBlank, Bool.or_eq_false_iff, Bool.and_eq_false_iff, decide_eq_false_iff_not,
    beq_eq_false_iff_ne]
  omega

/-- There is no blank in a numeral. -/
theorem Numeral.isBlank_eq_false {t : List Char} {v : Int} (h : Numeral t v) :
    ∀ c ∈ t, isBlank c = false := by
  rcases h with ⟨-, hdigits⟩ | ⟨-, hdigits⟩ | ⟨-, hdigits⟩
  · exact fun c hc => isBlank_of_isDigit (hdigits c hc)
  · exact List.forall_mem_cons.2 ⟨by decide, fun c hc => isBlank_of_isDigit (hdigits c hc)⟩
  · exact List.forall_mem_cons.2 ⟨by decide, fun c hc => isBlank_of_isDigit (hdigits c hc)⟩

namespace Settings

/-- A text asks for the size `v`: it is a numeral of `v`, with blanks around it or not,
    and `v` is a signed word. -/
def Asks (s : String) (v : Int) : Prop :=
  ∃ front numeral back, s.toList = front ++ numeral ++ back ∧ front.all isBlank = true ∧
    back.all isBlank = true ∧ Numeral numeral v ∧ -2 ^ 63 ≤ v ∧ v < 2 ^ 63

/-- A text asks for a number if it is read as that number, the blanks at its ends apart. -/
theorem asks_iff {s : String} {v : Int} :
    Asks s v ↔ (readInteger? (trimBlanks s.toList)).map Int64.toInt = some v := by
  rw [Option.map_eq_some_iff]
  constructor
  · rintro ⟨front, numeral, back, hs, hfront, hback, hnumeral, hlow, hhigh⟩
    have hvalue : (Int64.ofInt v).toInt = v := Int64.toInt_ofInt_of_le hlow hhigh
    have htrim : trimBlanks s.toList = numeral := by
      rw [hs, trimBlanks_append _ hback, trimBlanks_append_left hfront,
        trimBlanks_of_forall hnumeral.isBlank_eq_false]
    refine ⟨Int64.ofInt v, ?_, hvalue⟩
    rwa [htrim, readInteger?_eq_some_iff, hvalue]
  · rintro ⟨w, hread, rfl⟩
    obtain ⟨front, back, hs, hfront, hback⟩ := exists_eq_append_trimBlanks s.toList
    exact ⟨front, trimBlanks s.toList, back, hs, hfront, hback, readInteger?_eq_some_iff.1 hread,
      w.le_toInt, w.toInt_lt⟩

instance (s : String) (v : Int) : Decidable (Asks s v) := decidable_of_iff _ asks_iff.symm

/-- A text that asks for a number gets it, but no less than nothing. -/
theorem capacityOfText_of_asks {s : String} {v : Int} (h : Asks s v) :
    (capacityOfText s : Int) = max 0 v := by
  obtain ⟨w, hread, rfl⟩ := Option.map_eq_some_iff.1 (asks_iff.1 h)
  rw [capacityOfText, hread]
  exact (Int.ofNat_toNat w.toInt).trans (Int.max_comm _ _)

/-- Any other text gets the default. -/
theorem capacityOfText_of_not_asks {s : String} (h : ∀ v, ¬Asks s v) :
    capacityOfText s = Quarantine.defaultCapacity := by
  rw [capacityOfText]
  cases hread : readInteger? (trimBlanks s.toList) with
  | none => rfl
  | some w => exact absurd (asks_iff.2 (by rw [hread]; rfl)) (h w.toInt)

/-- The capacity follows from what the environment has under the key for it. A text that asks
    for a size gives this size, or zero for a negative one. Any other text gives the default
    capacity, and so does an environment without the key. However long the text is, no step of
    reading its digits wraps. What the mode is set to does not matter. -/
theorem capacity_exact (lookup : String → Option String) :
    (∀ s v, lookup capacityKey = some s → Asks s v →
        ((ofLookup lookup).capacity : Int) = max 0 v) ∧
      (∀ s, lookup capacityKey = some s → (∀ v, ¬Asks s v) →
        (ofLookup lookup).capacity = Quarantine.defaultCapacity) ∧
      (lookup capacityKey = none → (ofLookup lookup).capacity = Quarantine.defaultCapacity) ∧
      (∀ negative before w c, accumulate? negative before = some w → c.isDigit = true →
        StaysExact negative before w c) ∧
      ∀ mode, (ofLookup (Function.update lookup modeKey mode)).capacity =
        (ofLookup lookup).capacity := by
  have hsome : ∀ s, lookup capacityKey = some s →
      (ofLookup lookup).capacity = capacityOfText s := by
    intro s hs
    rw [ofLookup, hs]
    rfl
  refine ⟨?_, ?_, ?_, fun _ _ _ _ => staysExact, ?_⟩
  · intro s v hs hasks
    rw [hsome s hs, capacityOfText_of_asks hasks]
  · intro s hs hnone
    rw [hsome s hs, capacityOfText_of_not_asks hnone]
  · intro hnone
    rw [ofLookup, hnone]
    rfl
  · intro mode
    -- The mode is under another key.
    have hkey : Function.update lookup modeKey mode capacityKey = lookup capacityKey :=
      Function.update_of_ne (by decide) _ _
    rw [ofLookup, ofLookup, hkey]

/-- The least word, after zeros and between blanks, and the least number that is beyond the
    words: its last digit is where reading stops. -/
theorem capacity_exact_at_the_ends :
    Asks "\u3000-0009223372036854775808\n" (-2 ^ 63) ∧
      ((ofLookup fun _ => some "\u3000-0009223372036854775808\n").capacity : Int) =
        max 0 (-2 ^ 63) ∧
      (∀ v, ¬Asks "+9223372036854775808" v) ∧
      (ofLookup fun _ => some "+9223372036854775808").capacity = Quarantine.defaultCapacity ∧
      (ofLookup fun _ => none).capacity = Quarantine.defaultCapacity ∧
      StaysExact false "922337203685477580".toList 922337203685477580 '8' := by
  have hleast : Asks "\u3000-0009223372036854775808\n" (-2 ^ 63) := by decide +kernel
  have hbeyond : ∀ v, ¬Asks "+9223372036854775808" v := by
    have hread : readInteger? (trimBlanks "+9223372036854775808".toList) = none := by
      decide +kernel
    intro v hasks
    rw [asks_iff, hread] at hasks
    exact Option.some_ne_none v hasks.symm
  refine ⟨hleast, (capacity_exact _).1 _ _ rfl hleast, hbeyond,
    (capacity_exact _).2.1 _ rfl hbeyond, (capacity_exact _).2.2.1 rfl, ?_⟩
  exact (capacity_exact fun _ => none).2.2.2.1 _ _ _ _ (by decide +kernel) (by decide)

end Settings

end HandleWatch
