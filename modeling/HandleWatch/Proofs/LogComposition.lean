import HandleWatch.Proofs.LogIntegrity

/-!
# Logs are validated part by part

A log that is made of two parts, with a line break between them, has the lines of
the first part and then those of the second. So the lines that are not blank are
those of both parts, and what is wrong with them is what is wrong with the first
part and then with the second, whose lines come after all those of the first
(`Log.validate_append`).

Nothing depends on how exactly a line ends: the carriage return before a line break
is trimmed off with the other blanks, and an empty line after the last line break is
blank (`Log.validate_eq_endedLines`).

* `Log.validate_composes`: what the validation of a text comes to, by its parts.
-/

namespace HandleWatch

namespace Log

/-! ## Lines -/

/-- There is one more line than there are line breaks. -/
theorem length_textLines (s : List Char) : (textLines s).length = s.count '\n' + 1 := by
  induction s with
  | nil => rfl
  | cons c s ih =>
    by_cases hc : c = '\n'
    · rw [textLines, if_pos hc, List.length_cons, ih, hc, List.count_cons_self]
    · obtain ⟨line, lines, hlines, hcons⟩ := textLines_cons_of_ne hc s
      rw [hcons, List.count_cons_of_ne hc, ← ih, hlines, List.length_cons, List.length_cons]

/-- What has no line break belongs to the last line. -/
theorem textLines_append_of_not_mem (a : List Char) {b : List Char} (hb : '\n' ∉ b) :
    ∃ lines line, textLines a = lines ++ [line] ∧ textLines (a ++ b) = lines ++ [line ++ b] := by
  induction a with
  | nil => exact ⟨[], [], rfl, textLines_of_not_mem hb⟩
  | cons c a ih =>
    obtain ⟨lines, line, ha, hab⟩ := ih
    by_cases hc : c = '\n'
    · refine ⟨[] :: lines, line, ?_, ?_⟩
      · rw [textLines, if_pos hc, ha, List.cons_append]
      · rw [List.cons_append, textLines, if_pos hc, hab, List.cons_append]
    · rw [List.cons_append, textLines, textLines, if_neg hc, if_neg hc, ha, hab]
      cases lines with
      | nil => exact ⟨[], c :: line, rfl, rfl⟩
      | cons first lines => exact ⟨(c :: first) :: lines, line, rfl, rfl⟩

/-- The characters of a line are those of the text. -/
theorem mem_of_mem_textLines {s line : List Char} (hline : line ∈ textLines s) {c : Char}
    (hc : c ∈ line) : c ∈ s := by
  induction s generalizing line with
  | nil =>
    cases List.mem_singleton.1 hline
    exact hc
  | cons d s ih =>
    by_cases hd : d = '\n'
    · rw [textLines, if_pos hd] at hline
      rcases List.mem_cons.1 hline with rfl | hline
      · exact absurd hc List.not_mem_nil
      · exact List.mem_cons_of_mem d (ih hline hc)
    · obtain ⟨first, lines, hlines, hcons⟩ := textLines_cons_of_ne hd s
      rw [hcons] at hline
      rw [hlines] at ih
      rcases List.mem_cons.1 hline with rfl | hline
      · rcases List.mem_cons.1 hc with rfl | hc
        · exact List.mem_cons_self
        · exact List.mem_cons_of_mem d (ih List.mem_cons_self hc)
      · exact List.mem_cons_of_mem d (ih (List.mem_cons_of_mem first hline) hc)

/-! ## Findings -/

/-- The finding `n` lines further down. -/
def Finding.down (f : Finding) (n : Nat) : Finding := { f with line := f.line + n }

/-- What is wrong with a line does not depend on where it stands. -/
theorem lineFindings_add (line : List Char) (number n : Nat) :
    lineFindings line (number + n) = (lineFindings line number).map (·.down n) := by
  unfold lineFindings validateLine
  cases readLine (String.ofList (trimBlanks line)) with
  | ok e => rfl
  | error problems =>
    simp only [List.map_map]
    rfl

/-- The lines of two parts are looked at one part after the other. -/
theorem validateLines_append (lines lines' : List (List Char)) (number : Nat) :
    validateLines (lines ++ lines') number =
      ((validateLines lines number).1 + (validateLines lines' (number + lines.length)).1,
        (validateLines lines number).2 ++ (validateLines lines' (number + lines.length)).2) := by
  induction lines generalizing number with
  | nil => simp [validateLines]
  | cons line lines ih =>
    -- The second part begins where the first ends.
    have hnumber : number + 1 + lines.length = number + (line :: lines).length := by
      rw [List.length_cons]
      omega
    rw [List.cons_append, validateLines_cons, validateLines_cons, ih, hnumber]
    split_ifs
    · rfl
    · rw [List.append_assoc, Nat.add_right_comm]

/-- Only the numbers of the findings depend on the number of the first line. -/
theorem validateLines_add (lines : List (List Char)) (number n : Nat) :
    validateLines lines (number + n) =
      ((validateLines lines number).1, (validateLines lines number).2.map (·.down n)) := by
  induction lines generalizing number with
  | nil => rfl
  | cons line lines ih =>
    rw [validateLines_cons, validateLines_cons, Nat.add_right_comm, ih, lineFindings_add]
    split_ifs
    · rfl
    · rw [List.map_append]

/-- Lines that differ only in the blanks at their ends are alike. -/
theorem validateLines_congr {lines lines' : List (List Char)}
    (h : lines.map trimBlanks = lines'.map trimBlanks) (number : Nat) :
    validateLines lines number = validateLines lines' number := by
  induction lines generalizing lines' number with
  | nil =>
    rw [List.map_nil, eq_comm, List.map_eq_nil_iff] at h
    rw [h]
  | cons line lines ih =>
    obtain ⟨line', lines'', rfl, hline, hlines⟩ := List.map_eq_cons_iff.1 h.symm
    simp only [validateLines, ih hlines.symm, hline]

/-! ## Texts -/

/-- A log of two parts: the counts add up, and the findings of the second part come
    after those of the first, further down by the lines of the first. -/
theorem validate_append (a b : String) :
    validate (a ++ "\n" ++ b) =
      ((validate a).1 + (validate b).1,
        (validate a).2 ++ (validate b).2.map (·.down (a.toList.count '\n' + 1))) := by
  have hlist : (a ++ "\n" ++ b).toList = a.toList ++ '\n' :: b.toList := by simp
  rw [validate, hlist, textLines_append_newline, validateLines_append, length_textLines,
    validateLines_add]
  rfl

/-- A carriage return at the end makes no difference. -/
theorem validate_append_return (a : String) : validate (a ++ "\r") = validate a := by
  have hlist : (a ++ "\r").toList = a.toList ++ ['\r'] := by simp
  obtain ⟨lines, line, ha, hreturn⟩ := textLines_append_of_not_mem a.toList
    (b := ['\r']) (by decide)
  rw [validate, hlist, hreturn, validate, ha]
  refine validateLines_congr ?_ 1
  rw [List.map_append, List.map_append, List.map_singleton, List.map_singleton,
    trimBlanks_concat line (by decide)]

/-- A line without the carriage return at its end. -/
def dropReturn (line : List Char) : List Char :=
  if line.getLast? = some '\r' then line.dropLast else line

/-- The lines of a text, if each of them ends with a line break, perhaps after a
    carriage return: the last one may go without, but then it is not empty. -/
def endedLines (s : List Char) : List (List Char) :=
  (textLines s).dropLast.map dropReturn ++ (textLines s).getLast?.toList.filter (· ≠ [])

/-- A carriage return is a blank, so it makes no difference whether it is dropped. -/
theorem trimBlanks_dropReturn (line : List Char) :
    trimBlanks (dropReturn line) = trimBlanks line := by
  unfold dropReturn
  split_ifs with h
  · obtain ⟨s, rfl⟩ := List.getLast?_eq_some_iff.1 h
    rw [List.dropLast_concat, trimBlanks_concat s (by decide)]
  · rfl

/-- The lines are the same to the validation if they are told by their ends. -/
theorem validate_eq_endedLines (text : String) :
    validate text = validateLines (endedLines text.toList) 1 := by
  obtain ⟨lines, line, hlines, -⟩ := textLines_append_of_not_mem text.toList List.not_mem_nil
  have hended : validateLines (lines.map dropReturn) 1 = validateLines lines 1 := by
    refine validateLines_congr ?_ 1
    rw [List.map_map]
    exact List.map_congr_left fun line _ => trimBlanks_dropReturn line
  rw [validate, endedLines, hlines, List.dropLast_concat, List.getLast?_concat, Option.toList_some,
    validateLines_append, validateLines_append, hended, List.length_map]
  cases line with
  | nil => rfl
  | cons c line => simp

/-- A text of blanks has no line that counts. -/
theorem validate_of_blank {text : String} (h : text.toList.all isBlank = true) :
    validate text = (0, []) := by
  have hlines : ∀ line ∈ textLines text.toList, line.all isBlank = true := by
    intro line hline
    rw [List.all_eq_true] at h ⊢
    exact fun c hc => h c (mem_of_mem_textLines hline hc)
  suffices ∀ (lines : List (List Char)) (number : Nat), (∀ line ∈ lines, line.all isBlank = true) →
      validateLines lines number = (0, []) from this _ 1 hlines
  intro lines
  induction lines with
  | nil => exact fun _ _ => rfl
  | cons line lines ih =>
    intro number hlines
    obtain ⟨hline, hlines⟩ := List.forall_mem_cons.1 hlines
    rw [validateLines_cons, if_pos hline, ih (number + 1) hlines]

/-- A text of one line that is not blank. -/
theorem validate_of_line {text : String} (hline : '\n' ∉ text.toList)
    (hblank : text.toList.all isBlank = false) :
    validate text = (1, lineFindings text.toList 1) := by
  rw [validate, textLines_of_not_mem hline, validateLines_cons, hblank, validateLines]
  simp

/-- A log is validated part by part. With a line break between the parts `a` and `b`, the
    lines that are not blank add up, and what is wrong with them is what is wrong with
    `a`, and then what is wrong with `b`, with line numbers that go on from those of `a`;
    and so it is if the line break comes after a carriage return, or if the lines are told
    by their ends. The parts may be empty: blanks, of any kind and on any number of
    lines, make no line that counts, and a line that is not blank counts as one, with all
    that is wrong with it. -/
theorem validate_composes (a b : String) :
    validate (a ++ "\n" ++ b) =
        ((validate a).1 + (validate b).1,
          (validate a).2 ++ (validate b).2.map (·.down (a.toList.count '\n' + 1))) ∧
      validate (a ++ "\r\n" ++ b) = validate (a ++ "\n" ++ b) ∧
      validate a = validateLines (endedLines a.toList) 1 ∧
      (a.toList.all isBlank = true → validate a = (0, [])) ∧
      ('\n' ∉ a.toList → a.toList.all isBlank = false →
        validate a = (1, lineFindings a.toList 1)) := by
  have hreturn : a ++ "\r" ++ "\n" = a ++ "\r\n" := String.append_assoc
  have hcount : (a ++ "\r").toList.count '\n' = a.toList.count '\n' := by simp
  refine ⟨validate_append a b, ?_, validate_eq_endedLines a, validate_of_blank, validate_of_line⟩
  rw [← hreturn, validate_append, validate_append, validate_append_return, hcount]

end Log

end HandleWatch
