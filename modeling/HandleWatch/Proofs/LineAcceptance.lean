import HandleWatch.Proofs.CanonicalJson

/-!
# What an accepted line says

A line is looked at twice. What is missing in its fields or not allowed is listed, and
then the fields are read as an entry. A field that is null is there for the first look
and is as good as absent for the second. So a report on an invalid use is accepted even if
it is null of which handle it is, what was wrong with it or how it was used; and as its
entry leaves such a field out when it is written again, that line is not accepted.

Nothing else goes wrong: the two looks agree on all other fields (`Log.ReadAs`), and the
details of an entry that was read are in canonical form.

* `Log.accepted_again_unless_null`: the entry of an accepted line is a complete report if
  no field of the report is null, and then its own line gives the entry back; otherwise
  just these fields are found to be missing in it.
-/

namespace HandleWatch

namespace Json

/-! ## Fields that were read -/

theorem Value.text?_ok {v : Value} {s : String} (h : v.text? = .ok s) : v = .string s := by
  cases v with
  | string t =>
    cases h
    rfl
  | _ => cases h

theorem required_text_ok {fields : Fields} {name s : String}
    (h : required fields name Value.text? = .ok s) : fields.lookup name = some (.string s) := by
  unfold required at h
  split at h
  · next v hv => rw [hv, Value.text?_ok h]
  · cases h

/-- A field is read as absent if it is, or if it is null. -/
theorem optionalField_ok {α : Type} {fields : Fields} {name : String}
    {decode : Value → Except Cause α} {a : Option α}
    (h : optionalField fields name decode = .ok a) :
    (a = none ∧ (fields.lookup name = none ∨ fields.lookup name = some .null)) ∨
      ∃ v x, a = some x ∧ fields.lookup name = some v ∧ v ≠ .null ∧ decode v = .ok x := by
  unfold optionalField at h
  split at h
  · next v hv =>
    -- Null is as good as absent here, which the check before did not see.
    by_cases hnull : v = .null
    · subst hnull
      cases h
      exact .inl ⟨rfl, .inr hv⟩
    · have hoptional : v.optional decode = (decode v).map some := by
        cases v with
        | null => exact absurd rfl hnull
        | _ => rfl
      rw [hoptional] at h
      cases hdecode : decode v with
      | error cause =>
        rw [hdecode] at h
        cases h
      | ok x =>
        rw [hdecode] at h
        cases h
        exact .inr ⟨v, x, rfl, hv, hnull, hdecode⟩
  · next hnone =>
    cases h
    exact .inl ⟨rfl, .inl hnone⟩

/-- A field that was read as a value was there, and was not null. -/
theorem optionalField_some_ok {α : Type} {fields : Fields} {name : String}
    {decode : Value → Except Cause α} {x : α}
    (h : optionalField fields name decode = .ok (some x)) :
    ∃ v, fields.lookup name = some v ∧ v ≠ .null ∧ decode v = .ok x := by
  rcases optionalField_ok h with ⟨⟨⟩, -⟩ | ⟨v, _, ⟨⟩, hv⟩
  exact ⟨v, hv⟩

/-- Whether a field is there and is null. -/
def Fields.isNull (fields : Fields) (name : String) : Bool :=
  match fields.get? name with
  | some .null => true
  | _ => false

theorem Fields.isNull_iff {fields : Fields} {name : String} :
    fields.isNull name = true ↔ fields.lookup name = some .null := by
  unfold isNull get?
  split
  · next h => exact iff_of_true rfl h
  · next h => exact iff_of_false Bool.false_ne_true (h ·)

/-- A field that was there is left out when it is written again if and only if it was
    null. -/
theorem not_has_eq_isNull {α : Type} {fields fields' : Fields} {name : String} {a : Option α}
    {decode : Value → Except Cause α} {write : α → Value} (hthere : fields.lookup name ≠ none)
    (hread : optionalField fields name decode = .ok a)
    (hwritten : fields'.lookup name = a.map write) :
    (!fields'.has name) = fields.isNull name := by
  rw [Bool.eq_iff_iff, Fields.isNull_iff, Fields.has, Fields.get?, hwritten]
  rcases optionalField_ok hread with ⟨rfl, hnone | hnull⟩ | ⟨v, x, rfl, hv, hne, -⟩
  · exact absurd hnone hthere
  · exact iff_of_true rfl hnull
  · rw [hv]
    simpa using hne

end Json

namespace Log

open Json
open Except (bind_eq_ok)

/-! ## The entry of an accepted line -/

/-- The fields of a report on an invalid use that are null. -/
def nullReportFields (fields : Fields) : List String :=
  if textOf fields "event" = some invalidHandleEvent then
    ["handle", "classification", "operation"].filter fields.isNull
  else []

/-- The entry was read from the fields, as far as they are checked or may differ from what
    is written. -/
structure ReadAs (fields : Fields) (e : Entry) : Prop where
  traceId : fields.lookup "trace_id" = some (.string e.traceId)
  event : fields.lookup "event" = some (.string e.event)
  handle : optionalField fields "handle" (Value.word? "u64") = .ok e.handle
  classification : optionalField fields "classification" Value.text? = .ok e.classification
  operation : optionalField fields "operation" Value.text? = .ok e.operation
  details : optionalField fields "details" (fun v => .ok v) = .ok e.details

/-- What was read from fields, field by field. -/
theorem readAs_of_ofFields {fields : Fields} {e : Entry} (h : Entry.ofFields fields = .ok e) :
    ReadAs fields e := by
  -- One line for each field that is read, in their order.
  obtain ⟨_, -, h⟩ := bind_eq_ok h
  obtain ⟨timestamp, -, h⟩ := bind_eq_ok h
  obtain ⟨traceId, htrace, h⟩ := bind_eq_ok h
  obtain ⟨severity, -, h⟩ := bind_eq_ok h
  obtain ⟨event, hevent, h⟩ := bind_eq_ok h
  obtain ⟨scenario, -, h⟩ := bind_eq_ok h
  obtain ⟨step, -, h⟩ := bind_eq_ok h
  obtain ⟨op, -, h⟩ := bind_eq_ok h
  obtain ⟨handle, hhandle, h⟩ := bind_eq_ok h
  obtain ⟨classification, hclassification, h⟩ := bind_eq_ok h
  obtain ⟨operation, hoperation, h⟩ := bind_eq_ok h
  obtain ⟨generation, -, h⟩ := bind_eq_ok h
  obtain ⟨sequence, -, h⟩ := bind_eq_ok h
  obtain ⟨verdict, -, h⟩ := bind_eq_ok h
  obtain ⟨details, hdetails, h⟩ := bind_eq_ok h
  cases h
  exact ⟨required_text_ok htrace, required_text_ok hevent, hhandle, hclassification, hoperation,
    hdetails⟩

/-- What is in the fields of a line that is accepted. -/
theorem validateLine_ok {line : String} {number : Nat} {e : Entry}
    (h : validateLine line number = .ok e) :
    ∃ v fields, parse line = .ok v ∧ v.canonical = .object fields ∧ problems fields = [] ∧
      Entry.ofFields fields = .ok e := by
  have hread : readLine line = .ok e := by
    unfold validateLine at h
    split at h
    · next hread =>
      cases h
      exact hread
    · cases h
  unfold readLine at hread
  split at hread
  · cases hread
  · next v hparse =>
    split at hread
    · next fields hfields =>
      split at hread
      · next hproblems =>
        split at hread
        · next hentry =>
          cases hread
          exact ⟨v, fields, hparse, hfields, hproblems, hentry⟩
        · cases hread
      · cases hread
    · cases hread

/-! ## The two looks at a line -/

/-- Nothing is wrong with the fields that an entry was read from. -/
structure Sound (fields : Fields) (e : Entry) : Prop extends ReadAs fields e where
  classification_allowed : ∀ s ∈ e.classification, s ∈ Classification.names
  operation_allowed : ∀ s ∈ e.operation, s ∈ operationNames
  report_there : e.event = invalidHandleEvent →
    absent fields ["handle", "classification", "operation"] = []
  separated : hasSeparator e.traceId.toList = true

/-- A text that was read from a field that takes some values only is one of these. -/
theorem allowed_of_read {fields : Fields} {name : String} {allowed : List String}
    {a : Option String} (hallowed : checkAllowed fields name allowed = [])
    (hread : optionalField fields name Value.text? = .ok a) : ∀ s ∈ a, s ∈ allowed := by
  rintro s rfl
  obtain ⟨v, hv, -, htext⟩ := optionalField_some_ok hread
  have hs : textOf fields name = some s := textOf_eq (hv.trans (Value.text?_ok htext ▸ rfl))
  exact checkAllowed_eq_nil_iff.1 hallowed s hs

/-- If nothing was found wrong with the fields, nothing is wrong with the entry. -/
theorem ReadAs.sound {fields : Fields} {e : Entry} (h : ReadAs fields e)
    (hproblems : problems fields = []) : Sound fields e := by
  have hevent : textOf fields "event" = some e.event := textOf_eq h.event
  have htrace : textOf fields "trace_id" = some e.traceId := textOf_eq h.traceId
  simp only [problems, List.append_eq_nil_iff, hevent, htrace, Option.some.injEq,
    ite_eq_right_iff, List.map_eq_nil_iff] at hproblems
  obtain ⟨⟨⟨⟨-, hclassification⟩, hoperation⟩, hreport⟩, hseparated⟩ := hproblems
  refine ⟨h, allowed_of_read hclassification h.classification,
    allowed_of_read hoperation h.operation, hreport, ?_⟩
  by_contra hflat
  rw [if_neg hflat] at hseparated
  cases hseparated

/-- What is known of a line that is accepted. -/
theorem sound_of_validateLine {line : String} {number : Nat} {e : Entry}
    (h : validateLine line number = .ok e) :
    ∃ v fields, parse line = .ok v ∧ v.canonical = .object fields ∧ Sound fields e := by
  obtain ⟨v, fields, hparse, hfields, hproblems, hentry⟩ := validateLine_ok h
  exact ⟨v, fields, hparse, hfields, (readAs_of_ofFields hentry).sound hproblems⟩

namespace Sound

variable {fields : Fields} {e : Entry}

/-- The fields of a report that were null are those that the entry leaves out. -/
theorem absent_again (h : Sound fields e) (hevent : e.event = invalidHandleEvent) :
    absent (Fields.ofList e.fields) ["handle", "classification", "operation"] =
      ["handle", "classification", "operation"].filter fields.isNull := by
  have hagain := tells_fields e
  have hthere := absent_eq_nil_iff.1 (h.report_there hevent)
  refine List.filter_congr ?_
  simp only [List.forall_mem_cons] at hthere ⊢
  obtain ⟨hhandle, hclassification, hoperation, -⟩ := hthere
  exact ⟨not_has_eq_isNull hhandle h.handle hagain.handle,
    not_has_eq_isNull hclassification h.classification hagain.classification,
    not_has_eq_isNull hoperation h.operation hagain.operation, List.forall_mem_nil _⟩

/-- When the entry is written again, the fields of a report that were null are missing, and
    nothing else is wrong. -/
theorem problems_again (h : Sound fields e) :
    problems (Fields.ofList e.fields) = (nullReportFields fields).map .incompleteReport := by
  have hagain := tells_fields e
  have hclassification : checkAllowed (Fields.ofList e.fields) "classification"
      Classification.names = [] := by
    rw [checkAllowed_eq_nil_iff, textOf_eq hagain.classification]
    exact h.classification_allowed
  have hoperation : checkAllowed (Fields.ofList e.fields) "operation" operationNames = [] := by
    rw [checkAllowed_eq_nil_iff, textOf_eq hagain.operation]
    exact h.operation_allowed
  have hevent : textOf fields "event" = some e.event := textOf_eq h.event
  rw [hagain.problems_eq, hclassification, hoperation, if_pos h.separated, List.append_nil,
    List.nil_append, List.nil_append, nullReportFields, hevent]
  by_cases hreport : e.event = invalidHandleEvent
  · rw [if_pos hreport, if_pos (congrArg some hreport), h.absent_again hreport]
  · rw [if_neg hreport, if_neg fun heq => hreport (Option.some.inj heq), List.map_nil]

/-- The entry is valid if and only if no field of a report was null. -/
theorem valid_iff (h : Sound fields e) : e.Valid ↔ nullReportFields fields = [] := by
  rw [← (tells_fields e).problems_eq_nil_iff, h.problems_again, List.map_eq_nil_iff]

theorem complete_iff (h : Sound fields e) : e.Complete ↔ nullReportFields fields = [] := by
  rw [← h.valid_iff]
  exact ⟨fun hcomplete => ⟨hasSeparator_iff.1 h.separated, h.classification_allowed,
    h.operation_allowed, hcomplete⟩, Entry.Valid.complete⟩

end Sound

/-! ## The line written again -/

/-- The details of an entry were there, and were not null. -/
theorem ReadAs.mem_details {fields : Fields} {e : Entry} (h : ReadAs fields e) {v : Value}
    (hv : v ∈ e.details) : v ≠ .null ∧ ("details", v) ∈ fields := by
  have hdetails := h.details
  rw [Option.mem_def.1 hv] at hdetails
  obtain ⟨_, hlookup, hne, ⟨⟩⟩ := optionalField_some_ok hdetails
  obtain ⟨before, after, rfl, -⟩ := List.lookup_eq_some_iff.1 hlookup
  exact ⟨hne, List.mem_append_right _ List.mem_cons_self⟩

/-- The entry gives itself back when it is written, or what was null is missing. -/
theorem Sound.validateLine_line {line : String} {v : Value} {fields : Fields} {e : Entry}
    (h : Sound fields e) (hparse : parse line = .ok v) (hfields : v.canonical = .object fields)
    (hfloats : ∀ w ∈ e.details, w.isFloatFree = true) (number : Nat) :
    validateLine e.line number =
      if nullReportFields fields = [] then .ok e
      else .error ((nullReportFields fields).map fun name =>
        ⟨number, .incompleteReport name⟩) := by
  have hreadable : e.Readable := fun w hw => by
    obtain ⟨hne, hmem⟩ := h.mem_details hw
    exact ⟨hne, hfloats w hw, depth_lt_of_mem hparse hfields hmem⟩
  have hcanonical : e.canonical = e := by
    have hdetails : e.details.map Value.canonical = e.details :=
      (Option.map_congr fun w hw => canonical_of_mem hfields (h.mem_details hw).2).trans
        Option.map_id'
    rw [Entry.canonical, hdetails]
  rw [validateLine]
  split_ifs with hnull
  · rw [Entry.readLine_line_of_valid hreadable (h.valid_iff.2 hnull), hcanonical]
  · rw [Entry.readLine_line_of_not_valid hreadable fun hv => hnull (h.valid_iff.1 hv),
      hcanonical, h.problems_again]
    simp only [List.map_map]
    rfl

/-- A line that is accepted is accepted again when its entry is written, unless null was
    written in a field of a report on an invalid use. The report is complete in just this
    case; otherwise what was null is found to be missing. This is for details without
    floating-point numbers, which need not be read as they were written. -/
theorem accepted_again_unless_null {line : String} {number : Nat} {e : Entry}
    (h : validateLine line number = .ok e) :
    ∃ fields : Fields, (parse line).map Value.canonical = .ok (.object fields) ∧
      (e.Complete ↔ nullReportFields fields = []) ∧
      ((∀ v ∈ e.details, v.isFloatFree = true) → ∀ again,
        validateLine e.line again =
          if nullReportFields fields = [] then .ok e
          else .error ((nullReportFields fields).map fun name =>
            ⟨again, .incompleteReport name⟩)) := by
  obtain ⟨v, fields, hparse, hfields, hsound⟩ := sound_of_validateLine h
  refine ⟨fields, ?_, hsound.complete_iff, hsound.validateLine_line hparse hfields⟩
  rw [hparse, ← hfields]
  rfl

/-- Of the two events the last one counts, the level is not a text, and the keys of the
    details are not in order. None of this shows when the entry is written again, but that
    the classification was null does. -/
theorem accepted_again_unless_null_classification :
    let line := (Value.object [("event", .string "x"), ("event", .string "invalid_handle"),
      ("level", .object [("warn", .null)]), ("timestamp", .string "t"),
      ("trace_id", .string "a::1"), ("handle", .ofNat 7), ("classification", .null),
      ("operation", .string "close"), ("note", .ofNat 1),
      ("details", .object [("b", .ofNat 2), ("a", .array [])])]).render
    ∃ e, validateLine line 1 = .ok e ∧ e.handle = some 7 ∧ ¬e.Complete ∧
      validateLine e.line 2 = .error [⟨2, .incompleteReport "classification"⟩] := by
  intro line
  let e : Entry :=
    { timestamp := "t", traceId := "a::1", severity := .warn, event := "invalid_handle",
      handle := some 7, operation := some "close",
      details := some (.object [("a", .array []), ("b", .ofNat 2)]) }
  have hparse : parse line = .ok _ := parse_render rfl (by decide)
  have haccepted : validateLine line 1 = .ok e := by
    rw [validateLine, readLine, hparse]
    rfl
  obtain ⟨fields, hfields, hcomplete, hagain⟩ := accepted_again_unless_null haccepted
  have hnull : nullReportFields fields = ["classification"] := by
    rw [hparse] at hfields
    obtain rfl := Value.object.inj (Except.ok.inj hfields)
    decide +kernel
  rw [hnull] at hcomplete hagain
  have hfloats : ∀ v ∈ e.details, v.isFloatFree = true := by
    rintro _ ⟨⟩
    rfl
  exact ⟨e, haccepted, rfl, fun h => absurd (hcomplete.1 h) (List.cons_ne_nil _ _),
    hagain hfloats 2⟩

/-- A report in which all is null is accepted, and is not when it is written again. -/
theorem null_report_accepted :
    let line := "\x7b\"timestamp\":\"t\",\"trace_id\":\"a::b::1\",\"level\":\"warn\"," ++
      "\"event\":\"invalid_handle\",\"handle\":null,\"classification\":null," ++
      "\"operation\":null\x7d"
    ∃ e, validateLine line 1 = .ok e ∧ e.event = "invalid_handle" ∧ e.handle = none ∧
      e.classification = none ∧ e.operation = none ∧
      validateLine e.line 1 = .error [⟨1, .incompleteReport "handle"⟩,
        ⟨1, .incompleteReport "classification"⟩, ⟨1, .incompleteReport "operation"⟩] := by
  intro line
  let e : Entry :=
    { timestamp := "t", traceId := "a::b::1", severity := .warn, event := "invalid_handle" }
  have hline : line = (Value.object [("timestamp", .string "t"), ("trace_id", .string "a::b::1"),
      ("level", .string "warn"), ("event", .string "invalid_handle"), ("handle", .null),
      ("classification", .null), ("operation", .null)]).render := by decide +kernel
  have hparse : parse line = .ok _ := hline ▸ parse_render rfl (by decide)
  have haccepted : validateLine line 1 = .ok e := by
    rw [validateLine, readLine, hparse]
    rfl
  obtain ⟨_, fields, hwritten, hfields, hsound⟩ := sound_of_validateLine haccepted
  have hnull : nullReportFields fields = ["handle", "classification", "operation"] := by
    cases hparse.symm.trans hwritten
    obtain rfl := Value.object.inj hfields
    decide +kernel
  have hagain := hsound.validateLine_line hwritten hfields (by rintro _ ⟨⟩) 1
  rw [hnull] at hagain
  exact ⟨e, haccepted, rfl, rfl, rfl, rfl, hagain⟩

end Log

end HandleWatch
