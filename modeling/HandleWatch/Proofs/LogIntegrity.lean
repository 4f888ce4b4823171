import HandleWatch.Proofs.Blanks
import HandleWatch.Proofs.LogRoundTrip
import HandleWatch.Proofs.ReplayRun

/-!
# Logs pass their own validation

A log is a text, and the entries in it are found again by its line breaks. So
there must be none in the line of an entry, whatever texts the entry holds: they
are escaped (`Json.newline_not_mem_onto`). And the line must begin and end with
a character that is not trimmed off, which are the brackets of an object
(`Log.Entry.trimBlanks_line`). Then the lines of a log are those of its entries,
and it passes the validation if they are valid (`Log.validate_logText`).

A replay writes valid entries only (`Log.Emitter.Sound`), whether it comes to
its end, or stops at a step, or fails to write:

* `Scenario.validate_run`: what a replay wrote so far passes the validation, with
  as many lines as were counted.
-/

namespace HandleWatch

namespace Json

/-! ## Line breaks -/

/-- A line break in a text is escaped. -/
theorem newline_not_mem_escaped (c : Char) : '\n' ∉ escaped c := by
  unfold escaped
  split_ifs with _ _ _ _ hline
  any_goals decide
  · simp
  · exact fun h => hline (List.mem_singleton.1 h).symm

theorem newline_not_mem_bodyOnto (s : List Char) {rest : List Char} (h : '\n' ∉ rest) :
    '\n' ∉ bodyOnto s rest := by
  induction s with
  | nil => exact List.not_mem_cons_of_ne_of_not_mem (by decide) h
  | cons c cs ih =>
    rw [bodyOnto, List.mem_append]
    exact not_or.2 ⟨newline_not_mem_escaped c, ih⟩

theorem newline_not_mem_stringOnto (s : String) {rest : List Char} (h : '\n' ∉ rest) :
    '\n' ∉ stringOnto s rest :=
  List.not_mem_cons_of_ne_of_not_mem (by decide) (newline_not_mem_bodyOnto s.toList h)

theorem newline_not_mem_decimal (n : Nat) : '\n' ∉ decimal n := fun h =>
  absurd (Nat.isDigit_of_mem_toDigits (by decide) (by decide) h) (by decide)

theorem newline_not_mem_positional {whole fraction : List Char} (hwhole : '\n' ∉ whole)
    (hfraction : '\n' ∉ fraction) : '\n' ∉ DecimalLayout.positional whole fraction := by
  have hdigits {ds : List Char} (h : '\n' ∉ ds) : '\n' ∉ if ds.isEmpty then ['0'] else ds := by
    split_ifs
    · decide
    · exact h
  rw [DecimalLayout.positional, List.mem_append]
  exact not_or.2 ⟨hdigits hwhole,
    List.not_mem_cons_of_ne_of_not_mem (by decide) (hdigits hfraction)⟩

/-- A number has no line break, however it is laid out. -/
theorem newline_not_mem_write (layout : DecimalLayout) (c : Nat) (u : Int) :
    '\n' ∉ layout.write c u := by
  have hzeros (n : Nat) : '\n' ∉ List.replicate n '0' := fun h =>
    absurd (List.eq_of_mem_replicate h) (by decide)
  have hdigits : '\n' ∉ Nat.toDigits 10 c := newline_not_mem_decimal c
  have hexponent (e : Int) :
      '\n' ∉ 'e' :: (if 0 ≤ e then '+' else '-') :: Nat.toDigits 10 e.natAbs := by
    refine List.not_mem_cons_of_ne_of_not_mem (by decide)
      (List.not_mem_cons_of_ne_of_not_mem ?_ (newline_not_mem_decimal e.natAbs))
    -- With a point, where the point may be after, within or before the digits; or with an
    -- exponent.
    split_ifs <;> decide
  unfold DecimalLayout.write
  generalize Nat.toDigits 10 c = digits at hdigits ⊢
  extract_lets _ e mantissa
  split
  · split
    · refine newline_not_mem_positional ?_ List.not_mem_nil
      exact fun h => (List.mem_append.1 h).elim hdigits (hzeros _)
    · split
      · exact newline_not_mem_positional (fun h => hdigits (List.mem_of_mem_take h))
          fun h => hdigits (List.mem_of_mem_drop h)
      · refine newline_not_mem_positional List.not_mem_nil ?_
        exact fun h => (List.mem_append.1 h).elim (hzeros _) hdigits
  · have hmantissa : '\n' ∉ mantissa := by
      rcases digits with _ | ⟨d, _ | ⟨d', ds⟩⟩
      · exact List.not_mem_nil
      · exact hdigits
      · obtain ⟨hd, hds⟩ := List.ne_and_not_mem_of_not_mem_cons hdigits
        exact List.not_mem_cons_of_ne_of_not_mem hd
          (List.not_mem_cons_of_ne_of_not_mem (by decide) hds)
    exact fun h => (List.mem_append.1 h).elim hmantissa (hexponent e)

theorem newline_not_mem_text (n : Number) : '\n' ∉ n.text := by
  cases n with
  | nonneg n => exact newline_not_mem_decimal n.toNat
  | negSucc n =>
    exact List.not_mem_cons_of_ne_of_not_mem (by decide) (newline_not_mem_decimal (n.val + 1))
  | float x =>
    have htext : '\n' ∉ if x.isZero then DecimalLayout.positional [] []
        else floatLayout.write x.shortest.1 x.shortest.2 := by
      split
      · decide
      · exact newline_not_mem_write _ _ _
    rw [Number.text, DecimalLayout.writeBinary]
    split
    · exact List.not_mem_cons_of_ne_of_not_mem (by decide) htext
    · exact htext

mutual
/-- There is no line break in the text of a value. -/
theorem newline_not_mem_onto : ∀ (v : Value) {rest : List Char}, '\n' ∉ rest → '\n' ∉ v.onto rest
  | .null, rest, h => by simp [Value.onto, h]
  | .bool true, rest, h => by simp [Value.onto, h]
  | .bool false, rest, h => by simp [Value.onto, h]
  | .number n, rest, h => by
    rw [Value.onto, List.mem_append]
    exact not_or.2 ⟨newline_not_mem_text n, h⟩
  | .string s, rest, h => by
    rw [Value.onto]
    exact newline_not_mem_stringOnto s h
  | .array [], rest, h => by simp [Value.onto, h]
  | .array (v :: vs), rest, h => by
    rw [Value.onto]
    exact List.not_mem_cons_of_ne_of_not_mem (by decide)
      (newline_not_mem_onto v (newline_not_mem_itemsOnto vs h))
  | .object [], rest, h => by simp [Value.onto, h]
  | .object ((k, v) :: fs), rest, h => by
    rw [Value.onto]
    exact List.not_mem_cons_of_ne_of_not_mem (by decide) (newline_not_mem_stringOnto k
      (List.not_mem_cons_of_ne_of_not_mem (by decide)
        (newline_not_mem_onto v (newline_not_mem_fieldsOnto fs h))))

theorem newline_not_mem_itemsOnto : ∀ (vs : List Value) {rest : List Char}, '\n' ∉ rest →
    '\n' ∉ itemsOnto vs rest
  | [], rest, h => by simp [itemsOnto, h]
  | v :: vs, rest, h => by
    rw [itemsOnto]
    exact List.not_mem_cons_of_ne_of_not_mem (by decide)
      (newline_not_mem_onto v (newline_not_mem_itemsOnto vs h))

theorem newline_not_mem_fieldsOnto : ∀ (fs : List (String × Value)) {rest : List Char},
    '\n' ∉ rest → '\n' ∉ fieldsOnto fs rest
  | [], rest, h => by simp [fieldsOnto, h]
  | (k, v) :: fs, rest, h => by
    rw [fieldsOnto]
    exact List.not_mem_cons_of_ne_of_not_mem (by decide) (newline_not_mem_stringOnto k
      (List.not_mem_cons_of_ne_of_not_mem (by decide)
        (newline_not_mem_onto v (newline_not_mem_fieldsOnto fs h))))
end

/-- The text of an object stands between brackets. -/
theorem object_onto (fields : List (String × Value)) (rest : List Char) :
    ∃ s, (Value.object fields).onto rest = '{' :: s ∧ '}' :: rest <:+ s := by
  cases fields with
  | nil =>
    refine ⟨'}' :: rest, ?_, List.suffix_rfl⟩
    rw [Value.onto]
  | cons f fs =>
    refine ⟨stringOnto f.1 (':' :: f.2.onto (fieldsOnto fs rest)), ?_, ?_⟩
    · rw [Value.onto]
    · exact (((suffix_fieldsOnto fs rest).trans (suffix_onto f.2 _)).trans
        (List.suffix_cons _ _)).trans (suffix_stringOnto f.1 _)

end Json

namespace Log

open Json

/-! ## Lines of a text -/

theorem textLines_ne_nil (s : List Char) : textLines s ≠ [] := by
  cases s with
  | nil => exact List.cons_ne_nil _ _
  | cons c s =>
    rw [textLines]
    split_ifs
    · exact List.cons_ne_nil _ _
    · split <;> exact List.cons_ne_nil _ _

/-- A character that is no line break belongs to the first line. -/
theorem textLines_cons_of_ne {c : Char} (hc : c ≠ '\n') (s : List Char) :
    ∃ line lines, textLines s = line :: lines ∧ textLines (c :: s) = (c :: line) :: lines := by
  obtain ⟨line, lines, hlines⟩ := List.exists_cons_of_ne_nil (textLines_ne_nil s)
  refine ⟨line, lines, hlines, ?_⟩
  rw [textLines, if_neg hc, hlines]

/-- A line break stands between the lines before it and those after it. -/
theorem textLines_append_newline (a b : List Char) :
    textLines (a ++ '\n' :: b) = textLines a ++ textLines b := by
  induction a with
  | nil => rfl
  | cons c a ih =>
    by_cases hc : c = '\n'
    · rw [List.cons_append, textLines, if_pos hc, ih, textLines, if_pos hc, List.cons_append]
    · obtain ⟨line, lines, hlines, hcons⟩ := textLines_cons_of_ne hc a
      rw [hlines, List.cons_append] at ih
      rw [List.cons_append, textLines, if_neg hc, ih, hcons, List.cons_append]

/-- A text without a line break is one line. -/
theorem textLines_of_not_mem {s : List Char} (h : '\n' ∉ s) : textLines s = [s] := by
  induction s with
  | nil => rfl
  | cons c s ih =>
    obtain ⟨hc, hs⟩ := List.ne_and_not_mem_of_not_mem_cons h
    rw [textLines, if_neg hc.symm, ih hs]

/-- What is wrong with a line, the blanks at its ends apart. -/
def lineFindings (line : List Char) (number : Nat) : List Finding :=
  match validateLine (String.ofList (trimBlanks line)) number with
  | .ok _ => []
  | .error found => found

/-- A line adds to the count and to the findings, unless it is blank. -/
theorem validateLines_cons (line : List Char) (lines : List (List Char)) (number : Nat) :
    validateLines (line :: lines) number =
      if line.all isBlank then validateLines lines (number + 1)
      else ((validateLines lines (number + 1)).1 + 1,
        lineFindings line number ++ (validateLines lines (number + 1)).2) := by
  simp only [validateLines]
  split
  · next htrim => rw [if_pos (trimBlanks_eq_nil_iff.1 htrim)]
  · next htrim =>
    rw [if_neg fun h => htrim (trimBlanks_eq_nil_iff.2 h), lineFindings]
    cases validateLine (String.ofList (trimBlanks line)) number <;> rfl

/-- The text of a log with these entries. -/
def logText (entries : List Entry) : String := String.join (entries.map fun e => e.line ++ "\n")

theorem logText_append (entries entries' : List Entry) :
    logText (entries ++ entries') = logText entries ++ logText entries' := by
  rw [logText, List.map_append, String.join_append]
  rfl

theorem toList_logText_cons (e : Entry) (entries : List Entry) :
    (logText (e :: entries)).toList = e.line.toList ++ '\n' :: (logText entries).toList := by
  simp [logText]

namespace Entry

/-- An entry is on one line. -/
theorem newline_not_mem_line (e : Entry) : '\n' ∉ e.line.toList := by
  rw [line, Value.render, String.toList_ofList]
  exact newline_not_mem_onto _ List.not_mem_nil

/-- The line of an entry is not blank, and begins and ends with its brackets. -/
theorem trimBlanks_line (e : Entry) :
    trimBlanks e.line.toList = e.line.toList ∧ e.line.toList ≠ [] := by
  obtain ⟨s, hline, hlast⟩ := object_onto e.fields []
  rw [line, Value.render, String.toList_ofList, hline]
  exact ⟨trimBlanks_eq_self (by decide) (by decide) hlast, List.cons_ne_nil _ _⟩

end Entry

/-- A log of valid entries passes the validation, line by line. -/
theorem validate_logText {entries : List Entry} (h : ∀ e ∈ entries, e.Readable ∧ e.Valid) :
    validate (logText entries) = (entries.length, []) := by
  suffices ∀ number, validateLines (textLines (logText entries).toList) number =
      (entries.length, []) from this 1
  induction entries with
  | nil => exact fun _ => rfl
  | cons e entries ih =>
    intro number
    obtain ⟨he, hentries⟩ := List.forall_mem_cons.1 h
    obtain ⟨htrim, hne⟩ := e.trimBlanks_line
    have hblank : ¬e.line.toList.all isBlank = true := fun hall =>
      hne (htrim.symm.trans (trimBlanks_eq_nil_iff.2 hall))
    have hfindings : lineFindings e.line.toList number = [] := by
      rw [lineFindings, htrim, String.ofList_toList, validateLine,
        Entry.readLine_line_of_valid he.1 he.2]
    rw [toList_logText_cons, textLines_append_newline, textLines_of_not_mem e.newline_not_mem_line,
      List.singleton_append, validateLines_cons, if_neg hblank, hfindings, ih hentries]
    rfl

/-! ## What an emitter writes -/

namespace Emitter

/-- An emitter that wrote valid entries only, and counted them. -/
def Sound (m : Emitter) : Prop :=
  ∃ entries, (∀ e ∈ entries, e.Readable ∧ e.Valid) ∧ m.medium.contents = logText entries ∧
    m.lines = entries.length

/-- The emitter `m'` is `m` after it wrote some entries. It may have failed to
    write others. -/
structure Wrote (m : Emitter) (entries : List Entry) (m' : Emitter) : Prop where
  scenario : m'.scenario = m.scenario
  runId : m'.runId = m.runId
  contents : m'.medium.contents = m.medium.contents ++ logText entries
  lines : m'.lines = m.lines + entries.length

/-- Writing valid entries keeps an emitter sound. -/
theorem Sound.wrote {m m' : Emitter} {entries : List Entry} (hm : m.Sound)
    (hw : m.Wrote entries m') (h : ∀ e ∈ entries, e.Readable ∧ e.Valid) : m'.Sound := by
  obtain ⟨before, hbefore, hcontents, hlines⟩ := hm
  refine ⟨before ++ entries, List.forall_mem_append.2 ⟨hbefore, h⟩, ?_, ?_⟩
  · rw [hw.contents, hcontents, logText_append]
  · rw [hw.lines, hlines, List.length_append]

/-- A trace id has its separator, whatever the name of the scenario is. -/
theorem separator_infix_traceId (m : Emitter) (n : Nat) :
    "::".toList <:+: (m.traceId n).toList := by
  refine ⟨m.scenario.toList, (m.runId ++ "::" ++ String.ofList (paddedDecimal 3 n)).toList, ?_⟩
  simp only [traceId, String.toList_append, List.append_assoc]

theorem traceId_isEmpty (m : Emitter) (n : Nat) : (m.traceId n).isEmpty = false := by
  rw [Bool.eq_false_iff, ne_eq, String.isEmpty_iff]
  intro h
  have hinfix := m.separator_infix_traceId n
  rw [h] at hinfix
  exact absurd (List.infix_nil.1 hinfix) (by decide)

/-- An entry that has its trace id and scenario is written as it is. -/
theorem complete_eq_self {m : Emitter} {e : Entry} {n : Nat} (htrace : e.traceId = m.traceId n)
    (hscenario : e.scenario = some m.scenario) : m.complete e = (e, m) := by
  have hempty : e.traceId.isEmpty = false := htrace ▸ m.traceId_isEmpty n
  rw [complete, hempty]
  simp only [Bool.false_eq_true, if_false, hscenario, Option.getD_some]
  rw [← hscenario]

/-- An entry is written and counted, or there is a fault. Then the log is as it
    was. -/
theorem emit_cases {m : Emitter} {e : Entry} {n : Nat} (htrace : e.traceId = m.traceId n)
    (hscenario : e.scenario = some m.scenario) :
    (∃ m', m.emit e = (.ok (), m') ∧ m'.sequence = m.sequence ∧ m.Wrote [e] m') ∨
      ∃ m' fault, m.emit e = (.error fault, m') ∧ m.Wrote [] m' := by
  rw [emit, complete_eq_self htrace hscenario]
  simp only [Medium.write]
  cases m.medium.writeFault m.medium.attempts with
  | none => exact .inl ⟨_, rfl, rfl, rfl, rfl, by simp [logText], rfl⟩
  | some fault => exact .inr ⟨_, fault, rfl, rfl, rfl, by simp [logText], rfl⟩

end Emitter

end Log

/-! ## What a replay writes -/

namespace Scenario

open Log

namespace Replay

/-- An entry of a replay is written, or there is a fault. -/
theorem write_cases (r : Replay) (severity : Severity) (event : String) {fill : Entry → Entry}
    (hfill : ∀ e, (fill e).traceId = e.traceId ∧ (fill e).scenario = e.scenario) :
    (∃ m, r.write severity event fill = (.ok (), { r with emitter := m }) ∧
      m.sequence = r.emitter.sequence + 1 ∧
      r.emitter.Wrote [fill (r.emitter.entry severity event).1] m) ∨
    ∃ m fault, r.write severity event fill = (.error (.io fault), { r with emitter := m }) ∧
      r.emitter.Wrote [] m := by
  obtain ⟨htrace, hscenario⟩ := hfill (r.emitter.entry severity event).1
  rcases Emitter.emit_cases (m := (r.emitter.entry severity event).2) (n := r.emitter.sequence + 1)
    htrace hscenario with ⟨m, hemit, hsequence, hw⟩ | ⟨m, fault, hemit, hw⟩
  · refine .inl ⟨m, ?_, hsequence, hw.scenario, hw.runId, hw.contents, hw.lines⟩
    simp only [write, hemit]
  · refine .inr ⟨m, fault, ?_, hw.scenario, hw.runId, hw.contents, hw.lines⟩
    simp only [write, hemit]

/-- Writing an entry that is valid keeps the emitter sound, even if there is a fault. -/
theorem write_sound {r : Replay} (hr : r.emitter.Sound) (severity : Severity) (event : String)
    {fill : Entry → Entry}
    (hfill : ∀ e, (fill e).traceId = e.traceId ∧ (fill e).scenario = e.scenario)
    (hreadable : (fill (r.emitter.entry severity event).1).Readable)
    (hvalid : (fill (r.emitter.entry severity event).1).Valid) :
    (r.write severity event fill).2.emitter.Sound := by
  rcases r.write_cases severity event hfill with ⟨m, h, -, hw⟩ | ⟨m, fault, h, hw⟩ <;> rw [h]
  · exact hr.wrote hw (List.forall_mem_singleton.2 ⟨hreadable, hvalid⟩)
  · exact hr.wrote hw (List.forall_mem_nil _)

/-- The entry of a report is complete. -/
theorem valid_report (m : Emitter) (index : Nat) (op : Op) (use : InvalidUse) :
    (((m.entry .warn "invalid_handle").1.withStep index op.name).withReport use).Valid where
  separated := m.separator_infix_traceId (m.sequence + 1)
  classification := by
    rintro _ ⟨⟩
    cases use.classification <;> decide
  operation := by
    rintro _ ⟨⟩
    cases use.operation <;> decide
  complete _ := ⟨nofun, nofun, nofun⟩

/-- An entry without a report is valid if it does not pretend to have one. -/
theorem valid_of_no_report {m : Emitter} {e : Entry} {n : Nat} (htrace : e.traceId = m.traceId n)
    (hclassification : e.classification = none) (hoperation : e.operation = none)
    (hevent : e.event ≠ "invalid_handle") : e.Valid where
  separated := htrace ▸ m.separator_infix_traceId n
  classification := by simp [hclassification]
  operation := by simp [hoperation]
  complete h := absurd h hevent

theorem stepEvent_ne (op : Op) : "step." ++ op.name ≠ "invalid_handle" := by
  cases op <;> decide

/-- Details that are an object of plain values can be read. -/
theorem readable_of_fields {e : Entry} {fields : List (String × Json.Value)}
    (hdetails : e.details = some (.object fields))
    (hfields : ∀ f ∈ fields, f.2.isFloatFree = true ∧ f.2.depth ≤ 1) : e.Readable := by
  intro v hv
  cases hdetails.symm.trans hv
  refine ⟨nofun, ?_, ?_⟩
  · rw [Json.Value.isFloatFree, Json.fieldsFloatFree_iff]
    exact fun f hf => (hfields f hf).1
  · have hdepth : Json.fieldsDepth fields ≤ 1 :=
      Json.fieldsDepth_le_iff.2 fun f hf => (hfields f hf).2
    rw [Json.Value.depth, Json.nestingLimit]
    omega

/-- The entries of reports are valid. -/
theorem writeReports_sound (op : Op) (uses : List InvalidUse) {r : Replay}
    (hr : r.emitter.Sound) : (writeReports op uses r).2.emitter.Sound := by
  -- By the reports, each of which is written or is the last one that was tried.
  induction uses generalizing r with
  | nil => exact hr
  | cons use uses ih =>
    have hwrite : (r.write .warn "invalid_handle" fun e =>
        (e.withStep r.index op.name).withReport use).2.emitter.Sound :=
      write_sound hr _ _ (fun _ => ⟨rfl, rfl⟩) nofun (valid_report _ _ _ _)
    rw [writeReports]
    split
    · next r' h =>
      rw [h] at hwrite
      exact ih hwrite
    · next h =>
      rw [h] at hwrite
      exact hwrite

/-- The entry of a step is valid. -/
theorem writeStep_sound {r : Replay} (hr : r.emitter.Sound) (op : Op) (failure : Option String) :
    (r.writeStep op failure).2.emitter.Sound := by
  have htrace : (r.emitter.entry .info ("step." ++ op.name)).1.traceId =
      r.emitter.traceId (r.emitter.sequence + 1) := rfl
  cases failure with
  | none =>
    rw [writeStep]
    exact write_sound hr _ _ (fun _ => ⟨rfl, rfl⟩) nofun
      (valid_of_no_report htrace rfl rfl (stepEvent_ne op))
  | some message =>
    rw [writeStep]
    refine write_sound hr _ _ (fun _ => ⟨rfl, rfl⟩) (readable_of_fields rfl ?_)
      (valid_of_no_report htrace rfl rfl (stepEvent_ne op))
    refine List.forall_mem_singleton.2 ⟨by rw [Json.Value.isFloatFree], ?_⟩
    rw [Json.Value.depth]
    exact Nat.zero_le 1

/-- A step keeps the log sound, however far it gets. -/
theorem step_sound {r : Replay} (hr : r.emitter.Sound) (s : Step) :
    (r.step s).2.emitter.Sound := by
  rw [step]
  -- A step ends early if it cannot be taken, or if the log fails; the entries so far are in
  -- the log.
  split
  · exact hr
  · next failure r' hexecute =>
    have hr' : r'.emitter.Sound := by
      obtain ⟨handles, generations, rfl⟩ := execute_ok hexecute
      exact hr
    have hreports := writeReports_sound s.op (r'.capture.since r'.logged) hr'
    split
    · next h =>
      rw [h] at hreports
      exact hreports
    · next h =>
      rw [h] at hreports
      have hstep := writeStep_sound hreports s.op failure
      split
      · next h =>
        rw [h] at hstep
        exact hstep
      · next h =>
        rw [h] at hstep
        exact hstep

/-- The log is sound after the steps of a replay, whether or not they all were taken. -/
theorem steps_sound (steps : List Step) {r : Replay} (hr : r.emitter.Sound) :
    (Replay.steps steps r).2.emitter.Sound := by
  induction steps generalizing r with
  | nil => exact hr
  | cons s steps ih =>
    have hstep := step_sound hr s
    rw [Replay.steps]
    split
    · next r' h =>
      rw [h] at hstep
      exact ih hstep
    · next h =>
      rw [h] at hstep
      exact hstep

/-- The entry at the start is valid. -/
theorem start_sound (scenario : Scenario) {m : Emitter} (hm : m.Sound) :
    (start scenario m).2.emitter.Sound := by
  have htrace : (m.entry .info "scenario.start").1.traceId = m.traceId (m.sequence + 1) := rfl
  have hevent : "scenario.start" ≠ "invalid_handle" := by decide
  rw [start]
  refine write_sound hm _ _ (fun _ => ⟨rfl, rfl⟩) (readable_of_fields rfl ?_)
    (valid_of_no_report htrace rfl rfl hevent)
  simp [Json.Value.isFloatFree, Json.Value.depth, Json.Value.ofNat, Json.Number.isInteger]

/-- The counters are numbers, in whatever order they are written. -/
theorem tallyValue_canonical (t : Tally) :
    (tallyValue t).canonical.isFloatFree = true ∧ (tallyValue t).canonical.depth ≤ 1 := by
  have hcounters : ∀ f ∈ Json.Fields.ofList (Json.canonicalFields
      (t.counters.map fun counter => (counter.1, .number (.nonneg counter.2)))),
      f.2.isFloatFree = true ∧ f.2.depth ≤ 0 := by
    intro f hf
    have hmem := Json.Fields.mem_of_mem_ofList hf
    rw [Json.canonicalFields_eq_map, List.map_map] at hmem
    obtain ⟨counter, -, rfl⟩ := List.mem_map.1 hmem
    simp [Json.Value.canonical, Json.Value.isFloatFree, Json.Value.depth, Json.Number.isInteger]
  rw [tallyValue, Json.Value.canonical, Json.Value.isFloatFree, Json.Value.depth]
  refine ⟨Json.fieldsFloatFree_iff.2 fun f hf => (hcounters f hf).1, ?_⟩
  exact Nat.succ_le_succ (Json.fieldsDepth_le_iff.2 fun f hf => (hcounters f hf).2)

/-- The last entry: the verdict, the counters, and what is released. -/
def lastEntry (r : Replay) : Entry :=
  let passed := r.failures.isEmpty
  let held := r.session.tracker.table.handles ++ r.session.tracker.quarantine.handles
  { (r.emitter.entry (if passed then .info else .error) "scenario.end").1 with
    verdict := some (if passed then .pass else .fail)
    details := some (.object [
      ("metrics", (tallyValue r.session.tracker.tally).canonical),
      ("open_released", .ofNat r.session.tracker.table.handles.length),
      ("quarantined_released", .ofNat r.session.tracker.quarantine.handles.length),
      ("release_failures", .ofNat (held.countP Handle.failsRelease))]) }

/-- The report on a replay, at its end. -/
def reportWith (r : Replay) (scenario : Scenario) (m : Emitter) : Report where
  scenario := scenario.name
  steps := scenario.steps.length
  passed := r.failures.isEmpty
  failures := r.failures
  invalidUses := r.session.heard.length
  tally := r.session.tracker.tally
  openReleased := r.session.tracker.table.handles.length
  quarantinedReleased := r.session.tracker.quarantine.handles.length
  logLines := m.lines
  logSha256 := m.sha256

/-- The end of a replay in terms of its last entry: all that is held is released. -/
theorem finish_eq (scenario : Scenario) (r : Replay) :
    finish scenario r =
      match r.write (if r.failures.isEmpty then .info else .error) "scenario.end" fun e =>
          { e with verdict := r.lastEntry.verdict, details := r.lastEntry.details } with
      | (.error e, r) => (.error e, r.emitter)
      | (.ok (), r') =>
        match r'.emitter.flush with
        | .error fault => (.error (.io fault), r'.emitter)
        | .ok () => (.ok { r.reportWith scenario r'.emitter with
            failures := r'.failures
            invalidUses := r'.capture.count }, r'.emitter) := rfl

/-- A replay ends with its last entry and a report, unless there is a fault. -/
theorem finish_cases (scenario : Scenario) (r : Replay) :
    (∃ m, r.emitter.Wrote [r.lastEntry] m ∧ m.sequence = r.emitter.sequence + 1 ∧
      (finish scenario r = (.ok (r.reportWith scenario m), m) ∨
        ∃ fault, finish scenario r = (.error (.io fault), m))) ∨
    ∃ m fault, r.emitter.Wrote [] m ∧ finish scenario r = (.error (.io fault), m) := by
  let fill (e : Entry) : Entry :=
    { e with verdict := r.lastEntry.verdict, details := r.lastEntry.details }
  have hfill : ∀ e, (fill e).traceId = e.traceId ∧ (fill e).scenario = e.scenario :=
    fun _ => ⟨rfl, rfl⟩
  rw [finish_eq]
  rcases r.write_cases (if r.failures.isEmpty then .info else .error) "scenario.end" hfill with
    ⟨m, h, hsequence, hw⟩ | ⟨m, fault, h, hw⟩ <;> rw [h]
  · refine .inl ⟨m, hw, hsequence, ?_⟩
    cases hflush : m.flush with
    | ok _ => exact .inl (by simp only [hflush]; rfl)
    | error fault => exact .inr ⟨fault, by simp only [hflush]⟩
  · exact .inr ⟨m, fault, hw, rfl⟩

/-- The entry at the end is valid. -/
theorem finish_sound (scenario : Scenario) {r : Replay} (hr : r.emitter.Sound) :
    (finish scenario r).2.Sound := by
  have htrace : r.lastEntry.traceId = r.emitter.traceId (r.emitter.sequence + 1) := rfl
  have hevent : r.lastEntry.event ≠ "invalid_handle" :=
    (by decide : "scenario.end" ≠ "invalid_handle")
  have hreadable : r.lastEntry.Readable := by
    refine readable_of_fields rfl (List.forall_mem_cons.2 ⟨tallyValue_canonical _, ?_⟩)
    simp [Json.Value.isFloatFree, Json.Value.depth, Json.Value.ofNat, Json.Number.isInteger]
  have hvalid : r.lastEntry.Valid := valid_of_no_report htrace rfl rfl hevent
  rcases finish_cases scenario r with ⟨m, hw, -, h | ⟨fault, h⟩⟩ | ⟨m, fault, hw, h⟩ <;> rw [h]
  · exact hr.wrote hw (List.forall_mem_singleton.2 ⟨hreadable, hvalid⟩)
  · exact hr.wrote hw (List.forall_mem_singleton.2 ⟨hreadable, hvalid⟩)
  · exact hr.wrote hw (List.forall_mem_nil _)

end Replay

/-- What a replay wrote so far passes the validation, with as many lines as were
    counted: whatever names and values the scenario has, whatever the clock shows,
    and whether the replay comes to its end, stops at a step or fails to write. -/
theorem validate_run (scenario : Scenario) (name runId : String) (clock : Clock)
    (writeFault : Nat → Option FileFault) (flushFault : Option FileFault) :
    let m : Emitter := { scenario := name, runId, clock, medium := { writeFault, flushFault } }
    let m' := (scenario.run m).2
    validate m'.medium.contents = (m'.lines, []) := by
  intro m m'
  have hsound : m'.Sound := by
    have hm : m.Sound := ⟨[], List.forall_mem_nil _, rfl, rfl⟩
    have hstart := Replay.start_sound scenario hm
    simp only [m', run]
    split
    · next h =>
      rw [h] at hstart
      exact hstart
    · next r h =>
      rw [h] at hstart
      have hsteps := Replay.steps_sound scenario.steps hstart
      split
      · next h =>
        rw [h] at hsteps
        exact hsteps
      · next h =>
        rw [h] at hsteps
        exact Replay.finish_sound scenario hsteps
  -- Wherever the replay ended, the log is that of valid entries.
  obtain ⟨entries, hentries, hcontents, hlines⟩ := hsound
  rw [hcontents, hlines]
  exact validate_logText hentries

end Scenario

end HandleWatch
