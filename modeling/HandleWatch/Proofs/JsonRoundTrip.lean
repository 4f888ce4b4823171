import HandleWatch.Json.Parser
import HandleWatch.Json.Printer
import Mathlib.Data.List.Basic

/-!
# Reading undoes printing

The compact text of a JSON value is read back as the value. Each printer puts its
text before what follows, so for each there is a lemma that the reader takes just
this text off again:

* `body_bodyOnto`: the characters of a string, escaped or not;
* `number_decimal`: the digits of an integer, if what follows does not continue
  it (`EndsNumber`);
* `value_onto`: a value of any kind, by induction on it. The readers of arrays and
  objects have as many attempts as there are characters, and there are more
  characters than items (`length_lt_itemsOnto`, `length_lt_fieldsOnto`).

This is for integers and not for floating-point numbers (`Value.isFloatFree`), and
for values that are not nested too deeply (`Value.depth`):

* `parse_render`: the text of such a value denotes the value.
-/

namespace HandleWatch.Json

/-! ## Strings -/

theorem codeUnit?_of_control :
    ∀ n < 0x20, codeUnit? '0' '0' (Nat.digitChar (n / 16)) (Nat.digitChar (n % 16)) = some n := by
  decide

/-- An escape with a letter of its own is read as its character. -/
theorem body_named {e c : Char} (he : e ≠ 'u') (hc : unescaped? e = some c) (rest : List Char) :
    body ('\\' :: e :: rest) = before c (body rest) := by
  rw [body.eq_def]
  simp only [if_neg he, hc]
  rfl

/-- Any other control character is read from its number. -/
theorem body_control {n : Nat} (hn : n < 0x20) (rest : List Char) :
    body ('\\' :: 'u' :: '0' :: '0' :: Nat.digitChar (n / 16) :: Nat.digitChar (n % 16) :: rest) =
      before (Char.ofNat n) (body rest) := by
  have hsecond : isSecondHalf n = false := by simp [isSecondHalf]; omega
  have hfirst : isFirstHalf n = false := by simp [isFirstHalf]; omega
  rw [body.eq_def]
  simp only [codeUnit?_of_control n hn, hsecond, hfirst]
  rfl

/-- Any other character is read as it is. -/
theorem body_plain {c : Char} (hquote : c ≠ '"') (hslash : c ≠ '\\') (hcontrol : ¬c.toNat < 0x20)
    (rest : List Char) : body (c :: rest) = before c (body rest) := by
  rw [body.eq_def]
  simp only [if_neg hquote, if_neg hslash, if_neg hcontrol]

/-- A character is taken off in whichever way it was written. -/
theorem body_escaped (c : Char) (rest : List Char) :
    body (escaped c ++ rest) = before c (body rest) := by
  unfold escaped
  split_ifs with hquote hslash hbackspace hfeed hline hreturn htab hcontrol
  · subst hquote
    exact body_named (by decide) rfl rest
  · subst hslash
    exact body_named (by decide) rfl rest
  · exact hbackspace ▸ body_named (by decide) rfl rest
  · exact hfeed ▸ body_named (by decide) rfl rest
  · exact hline ▸ body_named (by decide) rfl rest
  · exact hreturn ▸ body_named (by decide) rfl rest
  · exact htab ▸ body_named (by decide) rfl rest
  · exact (body_control hcontrol rest).trans (by rw [Char.ofNat_toNat])
  · exact body_plain hquote hslash hcontrol rest

/-- A text is read as it was written, up to its closing quote. -/
theorem body_bodyOnto (s rest : List Char) : body (bodyOnto s rest) = .ok (s, rest) := by
  induction s with
  | nil =>
    rw [bodyOnto, body.eq_def]
    rfl
  | cons c cs ih =>
    rw [bodyOnto, body_escaped, ih]
    rfl

theorem stringBody_bodyOnto (s : String) (rest : List Char) :
    stringBody (bodyOnto s.toList rest) = .ok (s, rest) := by
  rw [stringBody, body_bodyOnto]
  exact congrArg (fun s => Except.ok (s, rest)) String.ofList_toList

/-! ## Numbers -/

/-- Nothing that continues a number. -/
def EndsNumber (rest : List Char) : Prop :=
  ∀ c ∈ rest.head?, c.isDigit = false ∧ c ≠ '.' ∧ isExponentMark c = false

theorem endsNumber_nil : EndsNumber [] := nofun

theorem endsNumber_cons {c : Char} (h : c.isDigit = false ∧ c ≠ '.' ∧ isExponentMark c = false)
    (rest : List Char) : EndsNumber (c :: rest) := by
  rintro _ ⟨⟩
  exact h

/-- The digits of a number end where something else begins. -/
theorem digits_append {ds rest : List Char} (hds : ∀ d ∈ ds, d.isDigit = true)
    (hrest : EndsNumber rest) : digits (ds ++ rest) = (ds, rest) := by
  have hends : rest.takeWhile Char.isDigit = [] ∧ rest.dropWhile Char.isDigit = rest := by
    cases rest with
    | nil => exact ⟨rfl, rfl⟩
    | cons c rest =>
      have hc := (hrest c rfl).1
      rw [List.takeWhile_cons_of_neg (by simp [hc]), List.dropWhile_cons_of_neg (by simp [hc])]
      exact ⟨rfl, rfl⟩
  rw [digits, List.takeWhile_append_of_pos hds, List.dropWhile_append_of_pos hds, hends.1, hends.2,
    List.append_nil]

theorem le_ofDigitChars (ds : List Char) (n : Nat) : n ≤ Nat.ofDigitChars 10 ds n := by
  induction ds generalizing n with
  | nil => exact Nat.le_refl n
  | cons d ds ih =>
    rw [Nat.ofDigitChars_cons]
    exact Nat.le_trans (by omega) (ih _)

/-- All digits of a number that fits are taken in. -/
theorem absorb_of_lt {ds : List Char} {n : Nat} (h : Nat.ofDigitChars 10 ds n < UInt64.size) :
    absorb n ds = (Nat.ofDigitChars 10 ds n, []) := by
  induction ds generalizing n with
  | nil => rfl
  | cons d ds ih =>
    rw [Nat.ofDigitChars_cons] at h ⊢
    rw [absorb]
    exact (if_pos (Nat.lt_of_le_of_lt (le_ofDigitChars ds _) h)).trans (ih h)

/-- A numeral begins with a digit, which is not a zero unless it is the only one. -/
theorem decimal_eq_cons (n : Nat) :
    ∃ d ds, decimal n = d :: ds ∧ d.isDigit = true ∧ (d = '0' → ds = []) := by
  have hpos : ∀ n, 0 < n → ∃ d ds, decimal n = d :: ds ∧ d ≠ '0' := by
    intro n
    -- By the last digit: the others are those of a smaller number.
    induction n using Nat.strongRecOn with
    | ind n ih =>
      intro hn
      by_cases hlt : n < 10
      · refine ⟨Nat.digitChar n, [], Nat.toDigits_of_lt_base hlt, ?_⟩
        rw [ne_eq, Nat.digitChar_eq_zero]
        omega
      · obtain ⟨d, ds, hds, hd⟩ := ih (n / 10) (by omega) (by omega)
        refine ⟨d, ds ++ [Nat.digitChar (n % 10)], ?_, hd⟩
        rw [decimal, Nat.toDigits_of_base_le (by decide) (by omega), ← List.cons_append]
        exact congrArg (· ++ _) hds
  rcases Nat.eq_zero_or_pos n with rfl | hn
  · exact ⟨'0', [], rfl, rfl, fun _ => rfl⟩
  · obtain ⟨d, ds, hds, hd⟩ := hpos n hn
    refine ⟨d, ds, hds, ?_, fun h => absurd h hd⟩
    exact Nat.isDigit_of_mem_toDigits (by decide) (by decide) (hds ▸ List.mem_cons_self)

/-- The numeral of a word is read as an integer. -/
theorem number_decimal (negative : Bool) {n : Nat} (hn : n < UInt64.size) {rest : List Char}
    (hrest : EndsNumber rest) :
    number negative (decimal n ++ rest) = integerNumber negative n rest := by
  have hdigits : digits (decimal n ++ rest) = (decimal n, rest) :=
    digits_append (fun d hd => Nat.isDigit_of_mem_toDigits (by decide) (by decide) hd) hrest
  have habsorb : absorb 0 (decimal n) = (n, []) := by
    have hvalue : Nat.ofDigitChars 10 (decimal n) 0 = n := Nat.ofDigitChars_ten_toDigits
    rw [absorb_of_lt (hvalue.symm ▸ hn), hvalue]
  obtain ⟨d, ds, hds, -, hzero⟩ := decimal_eq_cons n
  simp only [number, hdigits]
  rw [hds] at habsorb ⊢
  -- The digits are not none, and do not begin with a zero that others follow.
  split
  · next h _ => cases h
  · next h _ => cases h
  · next h =>
    obtain ⟨rfl, rfl⟩ := List.cons.inj h
    cases hzero rfl
  · rw [habsorb]
    cases rest with
    | nil => rfl
    | cons c rest =>
      obtain ⟨-, hpoint, hmark⟩ := hrest c rfl
      simp only [if_neg hpoint, hmark]
      rfl

/-! ## Values -/

/-- Whether a number is an integer. -/
def Number.isInteger : Number → Bool
  | .nonneg _ | .negSucc _ => true
  | .float _ => false

mutual
/-- Whether all numbers in a value are integers. -/
def Value.isFloatFree : Value → Bool
  | .number n => n.isInteger
  | .array items => itemsFloatFree items
  | .object fields => fieldsFloatFree fields
  | .null | .bool _ | .string _ => true

/-- Whether all numbers in the items of an array are integers. -/
def itemsFloatFree : List Value → Bool
  | [] => true
  | v :: vs => v.isFloatFree && itemsFloatFree vs

/-- Whether all numbers in the values of fields are integers. -/
def fieldsFloatFree : List (String × Value) → Bool
  | [] => true
  | (_, v) :: fields => v.isFloatFree && fieldsFloatFree fields
end

mutual
/-- How deeply brackets are nested in a value. -/
def Value.depth : Value → Nat
  | .array items => itemsDepth items + 1
  | .object fields => fieldsDepth fields + 1
  | .null | .bool _ | .number _ | .string _ => 0

/-- How deeply brackets are nested in the items of an array. -/
def itemsDepth : List Value → Nat
  | [] => 0
  | v :: vs => max v.depth (itemsDepth vs)

/-- How deeply brackets are nested in the values of fields. -/
def fieldsDepth : List (String × Value) → Nat
  | [] => 0
  | (_, v) :: fields => max v.depth (fieldsDepth fields)
end

theorem suffix_bodyOnto (s rest : List Char) : '"' :: rest <:+ bodyOnto s rest := by
  induction s with
  | nil => exact List.suffix_rfl
  | cons c cs ih => exact ih.trans (List.suffix_append _ _)

theorem suffix_stringOnto (s : String) (rest : List Char) : rest <:+ stringOnto s rest :=
  ((List.suffix_cons _ _).trans (suffix_bodyOnto s.toList rest)).trans (List.suffix_cons _ _)

mutual
/-- What is to come after a value comes after it. -/
theorem suffix_onto : ∀ (v : Value) (rest : List Char), rest <:+ v.onto rest
  | .null, rest => by
    rw [Value.onto]
    exact List.suffix_append ['n', 'u', 'l', 'l'] rest
  | .bool true, rest => by
    rw [Value.onto]
    exact List.suffix_append ['t', 'r', 'u', 'e'] rest
  | .bool false, rest => by
    rw [Value.onto]
    exact List.suffix_append ['f', 'a', 'l', 's', 'e'] rest
  | .number n, rest => by
    rw [Value.onto]
    exact List.suffix_append _ _
  | .string s, rest => by
    rw [Value.onto]
    exact suffix_stringOnto s rest
  | .array [], rest => by
    rw [Value.onto]
    exact List.suffix_append ['[', ']'] rest
  | .array (v :: vs), rest => by
    rw [Value.onto]
    exact (((List.suffix_cons _ _).trans (suffix_itemsOnto vs rest)).trans
      (suffix_onto v _)).trans (List.suffix_cons _ _)
  | .object [], rest => by
    rw [Value.onto]
    exact List.suffix_append ['{', '}'] rest
  | .object ((k, v) :: fs), rest => by
    rw [Value.onto]
    exact (((((List.suffix_cons _ _).trans (suffix_fieldsOnto fs rest)).trans
      (suffix_onto v _)).trans (List.suffix_cons _ _)).trans (suffix_stringOnto k _)).trans
      (List.suffix_cons _ _)

theorem suffix_itemsOnto : ∀ (vs : List Value) (rest : List Char), ']' :: rest <:+ itemsOnto vs rest
  | [], rest => by
    unfold itemsOnto
    exact List.suffix_rfl
  | v :: vs, rest => by
    rw [itemsOnto]
    exact ((suffix_itemsOnto vs rest).trans (suffix_onto v _)).trans (List.suffix_cons _ _)

theorem suffix_fieldsOnto : ∀ (fs : List (String × Value)) (rest : List Char),
    '}' :: rest <:+ fieldsOnto fs rest
  | [], rest => by
    unfold fieldsOnto
    exact List.suffix_rfl
  | (k, v) :: fs, rest => by
    rw [fieldsOnto]
    exact ((((suffix_fieldsOnto fs rest).trans (suffix_onto v _)).trans
      (List.suffix_cons _ _)).trans (suffix_stringOnto k _)).trans (List.suffix_cons _ _)
end

/-- The text of items is longer than there are items, so that there is fuel for them all. -/
theorem length_lt_itemsOnto (vs : List Value) (rest : List Char) :
    vs.length < (itemsOnto vs rest).length := by
  induction vs with
  | nil =>
    rw [itemsOnto]
    exact Nat.succ_pos _
  | cons v vs ih =>
    rw [itemsOnto]
    exact Nat.succ_lt_succ (Nat.lt_of_lt_of_le ih (suffix_onto v _).length_le)

theorem length_lt_fieldsOnto (fs : List (String × Value)) (rest : List Char) :
    fs.length < (fieldsOnto fs rest).length := by
  induction fs with
  | nil =>
    rw [fieldsOnto]
    exact Nat.succ_pos _
  | cons f fs ih =>
    rw [fieldsOnto]
    have hsuffix : fieldsOnto fs rest <:+ stringOnto f.1 (':' :: f.2.onto (fieldsOnto fs rest)) :=
      ((suffix_onto f.2 _).trans (List.suffix_cons _ _)).trans (suffix_stringOnto f.1 _)
    exact Nat.succ_lt_succ (Nat.lt_of_lt_of_le ih hsuffix.length_le)

/-- A number among items ends at the comma or the bracket. -/
theorem endsNumber_itemsOnto (vs : List Value) (rest : List Char) :
    EndsNumber (itemsOnto vs rest) := by
  cases vs <;> rw [itemsOnto] <;> exact endsNumber_cons (by decide) _

theorem endsNumber_fieldsOnto (fs : List (String × Value)) (rest : List Char) :
    EndsNumber (fieldsOnto fs rest) := by
  cases fs <;> rw [fieldsOnto] <;> exact endsNumber_cons (by decide) _

theorem skipSpace_cons {c : Char} (hc : isSpace c = false) (s : List Char) :
    skipSpace (c :: s) = c :: s :=
  List.dropWhile_cons_of_neg (by simp [hc])

/-- A digit begins a number and nothing else. -/
theorem ne_of_isDigit {d c : Char} (hd : d.isDigit = true) (hc : c.isDigit = false) : d ≠ c := by
  rintro rfl
  exact absurd hd (by simp [hc])

theorem isSpace_of_isDigit {d : Char} (hd : d.isDigit = true) : isSpace d = false := by
  simp [isSpace, ne_of_isDigit hd]

/-- The text of a value begins with a character that is neither space nor the end
    of an array. -/
theorem onto_eq_cons {v : Value} (hv : v.isFloatFree = true) (rest : List Char) :
    ∃ c s, v.onto rest = c :: s ∧ isSpace c = false ∧ c ≠ ']' := by
  match v with
  | .null => exact ⟨_, _, by rw [Value.onto], by decide⟩
  | .bool true => exact ⟨_, _, by rw [Value.onto], by decide⟩
  | .bool false => exact ⟨_, _, by rw [Value.onto], by decide⟩
  | .string s => exact ⟨_, _, by rw [Value.onto, stringOnto], by decide⟩
  | .array [] => exact ⟨_, _, by rw [Value.onto], by decide⟩
  | .array (_ :: _) => exact ⟨_, _, by rw [Value.onto], by decide⟩
  | .object [] => exact ⟨_, _, by rw [Value.onto], by decide⟩
  | .object ((_, _) :: _) => exact ⟨_, _, by rw [Value.onto], by decide⟩
  | .number (.negSucc n) => exact ⟨_, _, by rw [Value.onto]; rfl, by decide⟩
  | .number (.nonneg n) =>
    obtain ⟨d, ds, hds, hd, -⟩ := decimal_eq_cons n.toNat
    refine ⟨d, ds ++ rest, ?_, isSpace_of_isDigit hd, ne_of_isDigit hd (by decide)⟩
    rw [Value.onto, Number.text, hds]
    rfl

/-- The text of an integer is read back, whatever the readers of brackets are. -/
theorem valueWith_number (array object : Char → Reader Value) {n : Number}
    (hn : n.isInteger = true) {rest : List Char} (hrest : EndsNumber rest) :
    valueWith array object (n.text ++ rest) = .ok (.number n, rest) := by
  match n with
  | .nonneg n =>
    have hnumber : number false (decimal n.toNat ++ rest) = .ok (.nonneg n, rest) := by
      rw [number_decimal false n.toNat_lt hrest]
      exact congrArg (fun n => Except.ok (Number.nonneg n, rest)) UInt64.ofNat_toNat
    obtain ⟨d, ds, hds, hd, -⟩ := decimal_eq_cons n.toNat
    rw [hds] at hnumber
    rw [Number.text, hds, valueWith, List.cons_append, skipSpace_cons (isSpace_of_isDigit hd)]
    simp only [if_neg (ne_of_isDigit (c := 'n') hd (by decide)),
      if_neg (ne_of_isDigit (c := 't') hd (by decide)),
      if_neg (ne_of_isDigit (c := 'f') hd (by decide)),
      if_neg (ne_of_isDigit (c := '-') hd (by decide)), if_pos hd]
    exact congrArg (mapped Value.number) hnumber
  | .negSucc n =>
    have hlt : n.val + 1 < UInt64.size := Nat.lt_of_lt_of_le (Nat.succ_lt_succ n.isLt) (by decide)
    have hnumber : number true (decimal (n.val + 1) ++ rest) = .ok (.negSucc n, rest) := by
      rw [number_decimal true hlt hrest]
      exact dif_pos ⟨Nat.succ_pos _, n.isLt⟩
    exact congrArg (mapped Value.number) hnumber

theorem nextItem_first {c : Char} (hc : isSpace c = false ∧ c ≠ ']') (s : List Char) :
    nextItem true (c :: s) = .ok (true, c :: s) := by
  rw [nextItem, skipSpace_cons hc.1]
  exact if_neg hc.2

theorem nextItem_comma {c : Char} (hc : isSpace c = false ∧ c ≠ ']') (s : List Char) :
    nextItem false (',' :: c :: s) = .ok (true, c :: s) := by
  have hskip : skipSpace (',' :: c :: s) = ',' :: c :: s := skipSpace_cons rfl _
  rw [nextItem, hskip]
  simp only [skipSpace_cons hc.1, if_neg hc.2]
  rfl

theorem key_stringOnto (k : String) (s : List Char) : key (stringOnto k s) = .ok (k, s) :=
  stringBody_bodyOnto k s

theorem nextKey_first (k : String) (s : List Char) :
    nextKey true (stringOnto k s) = .ok (some k, s) := by
  have hskip : skipSpace (stringOnto k s) = '"' :: bodyOnto k.toList s := skipSpace_cons rfl _
  have hkey : key ('"' :: bodyOnto k.toList s) = .ok (k, s) := key_stringOnto k s
  rw [nextKey, hskip]
  simp only [hkey]
  rfl

theorem nextKey_comma (k : String) (s : List Char) :
    nextKey false (',' :: stringOnto k s) = .ok (some k, s) := by
  have hskip : skipSpace (',' :: stringOnto k s) = ',' :: stringOnto k s := skipSpace_cons rfl _
  have hskip' : skipSpace (stringOnto k s) = '"' :: bodyOnto k.toList s := skipSpace_cons rfl _
  have hkey : key ('"' :: bodyOnto k.toList s) = .ok (k, s) := key_stringOnto k s
  rw [nextKey, hskip]
  simp only [hskip', hkey]
  rfl

theorem anyField_colon {nested : Reader Value} {s rest : List Char} {v : Value}
    (hv : nested s = .ok (v, rest)) (seen : List String) (k : String) :
    anyField nested seen k (':' :: s) = .ok ((k, v), rest) := by
  have hcolon : colon (':' :: s) = .ok s := rfl
  simp only [anyField, hcolon, hv]

section Step

variable {α : Type} {fuel : Nat} {s s' t e : List Char} {a : α} {as : List α}

/-- Items are read one after the other. -/
theorem itemsUpTo_step {item : Reader α} {first : Bool} (hnext : nextItem first s = .ok (true, s'))
    (hitem : item s' = .ok (a, t)) (hitems : itemsUpTo item fuel false t = .ok (as, e)) :
    itemsUpTo item (fuel + 1) first s = .ok (a :: as, e) := by
  rw [itemsUpTo, hnext]
  simp only [hitem, hitems]

/-- Fields are read one after the other, each with the keys before it. -/
theorem membersUpTo_step {member : List String → String → Reader α} (seen : List String)
    {k : String}
    (hnext : nextKey seen.isEmpty s = .ok (some k, s')) (hmember : member seen k s' = .ok (a, t))
    (hmembers : membersUpTo member fuel (k :: seen) t = .ok (as, e)) :
    membersUpTo member (fuel + 1) seen s = .ok (a :: as, e) := by
  rw [membersUpTo, hnext]
  simp only [hmember, hmembers]

end Step

-- The induction is on the value, its items and its fields; what follows them, the
-- brackets that are still allowed and the attempts that are left are arbitrary.
mutual
/-- The reader of values takes the text of a value off again. -/
theorem value_onto : ∀ (v : Value) (depth : Nat) {rest : List Char}, v.isFloatFree = true →
    v.depth ≤ depth → EndsNumber rest → value depth (v.onto rest) = .ok (v, rest)
  | .null, depth, rest, _, _, _ => by
    rw [Value.onto]
    cases depth <;> rfl
  | .bool true, depth, rest, _, _, _ => by
    rw [Value.onto]
    cases depth <;> rfl
  | .bool false, depth, rest, _, _, _ => by
    rw [Value.onto]
    cases depth <;> rfl
  | .number n, depth, rest, hv, _, hrest => by
    rw [Value.onto]
    rw [Value.isFloatFree] at hv
    cases depth <;> exact valueWith_number _ _ hv hrest
  | .string s, depth, rest, _, _, _ => by
    rw [Value.onto]
    cases depth <;> exact congrArg (mapped Value.string) (stringBody_bodyOnto s rest)
  | .array [], depth + 1, rest, _, _, _ => by
    rw [Value.onto]
    rfl
  | .array (v :: vs), depth + 1, rest, hv, hdepth, _ => by
    rw [Value.isFloatFree, itemsFloatFree, Bool.and_eq_true] at hv
    rw [Value.depth, itemsDepth, Nat.add_le_add_iff_right, Nat.max_le] at hdepth
    have hitem := value_onto v depth hv.1 hdepth.1 (endsNumber_itemsOnto vs rest)
    obtain ⟨c, s, hs, hc⟩ := onto_eq_cons hv.1 (itemsOnto vs rest)
    -- The text that is left is fuel enough for the items that are.
    have hlength := Nat.lt_of_lt_of_le (length_lt_itemsOnto vs rest) (suffix_onto v _).length_le
    rw [hs] at hitem hlength
    have hread := itemsUpTo_step (nextItem_first hc s) hitem
      (items_onto vs depth _ rest hv.2 hdepth.2 hlength)
    rw [Value.onto, hs]
    exact congrArg (fun r => mapped Value.array (closing closeArray r)) hread
  | .object [], depth + 1, rest, _, _, _ => by
    rw [Value.onto]
    rfl
  | .object ((k, v) :: fs), depth + 1, rest, hv, hdepth, _ => by
    rw [Value.isFloatFree, fieldsFloatFree, Bool.and_eq_true] at hv
    rw [Value.depth, fieldsDepth, Nat.add_le_add_iff_right, Nat.max_le] at hdepth
    have hvalue := value_onto v depth hv.1 hdepth.1 (endsNumber_fieldsOnto fs rest)
    have hsuffix := ((suffix_onto v (fieldsOnto fs rest)).trans (List.suffix_cons ':' _)).trans
      (suffix_stringOnto k _)
    have hlength := Nat.lt_of_lt_of_le (length_lt_fieldsOnto fs rest) hsuffix.length_le
    have hread := membersUpTo_step [] (nextKey_first k _) (anyField_colon hvalue [] k)
      (fields_onto fs depth _ [k] rest hv.2 hdepth.2 hlength rfl)
    rw [Value.onto]
    exact congrArg (fun r => closing closeObject (checked (.ok ∘ Value.object) r)) hread

/-- The reader of items takes the further items of an array off again. -/
theorem items_onto : ∀ (vs : List Value) (depth fuel : Nat) (rest : List Char),
    itemsFloatFree vs = true → itemsDepth vs ≤ depth → vs.length < fuel →
    itemsUpTo (value depth) fuel false (itemsOnto vs rest) = .ok (vs, ']' :: rest)
  | [], depth, fuel + 1, rest, _, _, _ => by
    rw [itemsOnto]
    rfl
  | v :: vs, depth, fuel + 1, rest, hvs, hdepth, hfuel => by
    rw [itemsFloatFree, Bool.and_eq_true] at hvs
    rw [itemsDepth, Nat.max_le] at hdepth
    have hitem := value_onto v depth hvs.1 hdepth.1 (endsNumber_itemsOnto vs rest)
    obtain ⟨c, s, hs, hc⟩ := onto_eq_cons hvs.1 (itemsOnto vs rest)
    rw [hs] at hitem
    rw [itemsOnto, hs]
    exact itemsUpTo_step (nextItem_comma hc s) hitem
      (items_onto vs depth fuel rest hvs.2 hdepth.2 (Nat.lt_of_succ_lt_succ hfuel))

/-- The reader of fields takes the further fields of an object off again. -/
theorem fields_onto : ∀ (fs : List (String × Value)) (depth fuel : Nat) (seen : List String)
    (rest : List Char), fieldsFloatFree fs = true → fieldsDepth fs ≤ depth → fs.length < fuel →
    seen.isEmpty = false →
    membersUpTo (anyField (value depth)) fuel seen (fieldsOnto fs rest) = .ok (fs, '}' :: rest)
  | [], depth, fuel + 1, seen, rest, _, _, _, _ => by
    rw [fieldsOnto]
    rfl
  | (k, v) :: fs, depth, fuel + 1, seen, rest, hfs, hdepth, hfuel, hseen => by
    rw [fieldsFloatFree, Bool.and_eq_true] at hfs
    rw [fieldsDepth, Nat.max_le] at hdepth
    have hvalue := value_onto v depth hfs.1 hdepth.1 (endsNumber_fieldsOnto fs rest)
    rw [fieldsOnto]
    exact membersUpTo_step seen (hseen.symm ▸ nextKey_comma k _) (anyField_colon hvalue seen k)
      (fields_onto fs depth fuel (k :: seen) rest hfs.2 hdepth.2 (Nat.lt_of_succ_lt_succ hfuel) rfl)
end

/-- The text of a value denotes the value, if its numbers are integers and it is
    not nested too deeply. -/
theorem parse_render {v : Value} (hv : v.isFloatFree = true) (hdepth : v.depth ≤ nestingLimit) :
    parse v.render = .ok v := by
  have hread := value_onto v nestingLimit hv hdepth endsNumber_nil
  rw [parse, Value.render, String.toList_ofList, whole, hread]
  rfl

end HandleWatch.Json
