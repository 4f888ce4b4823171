import HandleWatch.Log.Validation
import HandleWatch.Proofs.Basic
import HandleWatch.Proofs.JsonRoundTrip

/-!
# Log entries are read as they were written

An entry is written as the text of an object, and a line is read by parsing the
object, listing what is wrong with its fields, and taking each field out by its
name. So reading undoes writing for the reason that parsing undoes rendering,
once it is clear what is found under each name: what the entry holds
(`Log.Tells`), whatever the order of the fields.

Not every entry can be written to be read. The trace id must have its
separator, two fields take some values only, and a report must be complete
(`Log.Entry.Valid`). These are all the conditions:

* `Log.validateLine_line_iff`: the line of an entry passes the validation if and
  only if the entry is valid, and gives the entry back.
-/

namespace HandleWatch

namespace Json

/-! ## Fields -/

theorem fieldsFloatFree_iff {fields : List (String × Value)} :
    fieldsFloatFree fields = true ↔ ∀ f ∈ fields, f.2.isFloatFree = true := by
  induction fields with
  | nil => simp [fieldsFloatFree]
  | cons f fields ih => rw [fieldsFloatFree, Bool.and_eq_true, ih, List.forall_mem_cons]

theorem fieldsDepth_le_iff {fields : List (String × Value)} {n : Nat} :
    fieldsDepth fields ≤ n ↔ ∀ f ∈ fields, f.2.depth ≤ n := by
  induction fields with
  | nil => simp [fieldsDepth]
  | cons f fields ih => rw [fieldsDepth, Nat.max_le, ih, List.forall_mem_cons]

theorem canonicalFields_eq_map (fields : List (String × Value)) :
    canonicalFields fields = fields.map fun f => (f.1, f.2.canonical) := by
  induction fields with
  | nil => rw [canonicalFields, List.map_nil]
  | cons f fields ih => rw [canonicalFields, ih, List.map_cons]

/-- Only null is null in canonical form. -/
theorem Value.canonical_eq_null_iff {v : Value} : v.canonical = .null ↔ v = .null := by
  cases v <;> simp [canonical]

namespace Fields

/-- Setting a field changes what is found under its key and nothing else. -/
theorem lookup_insert (fields : Fields) (key : String) (value : Value) (k : String) :
    (fields.insert key value).lookup k = if k = key then some value else fields.lookup k := by
  induction fields with
  | nil => rw [insert, List.lookup_cons_eq_ite]
  | cons f fields ih =>
    obtain ⟨k', v'⟩ := f
    rw [insert]
    split
    · rw [List.lookup_cons_eq_ite]
    · split
      · next heq =>
        subst heq
        rw [List.lookup_cons_eq_ite, List.lookup_cons_eq_ite]
        by_cases h : k = key
        · rw [if_pos h, if_pos h]
        · rw [if_neg h, if_neg h, if_neg h]
      · next hne =>
        rw [List.lookup_cons_eq_ite, List.lookup_cons_eq_ite, ih]
        by_cases h : k = k'
        · rw [if_pos h, if_pos h, if_neg fun hk => hne (hk.symm.trans h)]
        · rw [if_neg h, if_neg h]

/-- Of several fields with one key the last one counts. -/
theorem lookup_ofList (fields : List (String × Value)) (k : String) :
    (ofList fields).lookup k = fields.reverse.lookup k := by
  rw [ofList, ← List.foldr_reverse]
  induction fields.reverse with
  | nil => rfl
  | cons f fields ih => rw [List.foldr_cons, lookup_insert, ih, ← List.lookup_cons_eq_ite]

theorem mem_of_mem_insert {fields : Fields} {key : String} {value : Value} {f : String × Value}
    (h : f ∈ fields.insert key value) : f = (key, value) ∨ f ∈ fields := by
  induction fields with
  | nil => exact List.mem_cons.1 h
  | cons g fields ih =>
    obtain ⟨k', v'⟩ := g
    rw [insert] at h
    split at h
    · exact List.mem_cons.1 h
    · split at h
      · exact (List.mem_cons.1 h).imp_right (List.mem_cons_of_mem _)
      · rcases List.mem_cons.1 h with rfl | h
        · exact .inr List.mem_cons_self
        · exact (ih h).imp_right (List.mem_cons_of_mem _)

/-- No field is in canonical fields that was not written. -/
theorem mem_of_mem_ofList {fields : List (String × Value)} {f : String × Value}
    (h : f ∈ ofList fields) : f ∈ fields := by
  rw [ofList, ← List.foldr_reverse] at h
  rw [← List.mem_reverse]
  generalize fields.reverse = written at h ⊢
  induction written with
  | nil => exact h
  | cons g written ih =>
    rcases mem_of_mem_insert h with rfl | h
    · exact List.mem_cons_self
    · exact List.mem_cons_of_mem _ (ih h)

end Fields

theorem required_of_lookup {α : Type} {fields : Fields} {name : String} {v : Value}
    {decode : Value → Except Cause α} (h : fields.lookup name = some v) :
    required fields name decode = decode v := by
  rw [required, h]

/-- A field that is absent or reads as it was written is read as it was. -/
theorem optionalField_of_lookup {α : Type} {fields : Fields} {name : String} {a : Option α}
    {write : α → Value} {decode : Value → Except Cause α} (h : fields.lookup name = a.map write)
    (hread : ∀ x ∈ a, (write x).optional decode = .ok (some x)) :
    optionalField fields name decode = .ok a := by
  rw [optionalField, h]
  cases a with
  | none => rfl
  | some x => exact hread x rfl

/-- Fields pass a check that lets unknown keys pass, if each known one does. -/
theorem Schema.checkKnown_eq_ok {schema : Schema} {fields : List (String × Value)}
    (h : ∀ f ∈ fields, ∀ field, schema.find f.1 = some field → field.check f.2 = .ok ()) :
    schema.checkKnown fields = .ok () := by
  induction fields with
  | nil => rfl
  | cons f fields ih =>
    obtain ⟨hf, hfields⟩ := List.forall_mem_cons.1 h
    rw [checkKnown]
    split
    · exact ih hfields
    · next field hfield =>
      rw [hf field hfield]
      exact ih hfields

end Json

namespace Log

open Json

/-! ## What is found in the fields of an entry -/

/-- The entry with its details in canonical form. -/
def Entry.canonical (e : Entry) : Entry := { e with details := e.details.map Value.canonical }

/-- Fields tell an entry if what it holds is found in them under the names. -/
structure Tells (fields : Fields) (e : Entry) : Prop where
  timestamp : fields.lookup "timestamp" = some (.string e.timestamp)
  traceId : fields.lookup "trace_id" = some (.string e.traceId)
  severity : fields.lookup "level" = some (.string e.severity.name)
  event : fields.lookup "event" = some (.string e.event)
  scenario : fields.lookup "scenario" = e.scenario.map .string
  step : fields.lookup "step" = e.step.map fun n => .number (.nonneg n)
  op : fields.lookup "op" = e.op.map .string
  handle : fields.lookup "handle" = e.handle.map fun n => .number (.nonneg n)
  classification : fields.lookup "classification" = e.classification.map .string
  operation : fields.lookup "operation" = e.operation.map .string
  generation : fields.lookup "creation_generation" = e.generation.map fun n => .number (.nonneg n)
  sequence : fields.lookup "sequence" = e.sequence.map fun n => .number (.nonneg n)
  verdict : fields.lookup "outcome" = e.verdict.map fun v => .string v.name
  details : fields.lookup "details" = e.details

/-- A field is found under its name if it is there, and under no other. -/
theorem lookup_field {α : Type} (name : String) (write : α → Value) (a : Option α) (k : String) :
    ((a.map fun a => (name, write a)).toList).reverse.lookup k =
      if k = name then a.map write else none := by
  cases a with
  | none => exact (ite_self _).symm
  | some a => exact List.lookup_cons_eq_ite k name (write a) []

/-- The fields of an entry tell it, in whatever order they are. -/
theorem tells_fields (e : Entry) : Tells (Fields.ofList e.fields) e := by
  constructor <;>
    simp [Fields.lookup_ofList, Entry.fields, List.lookup_append, lookup_field,
      List.lookup_cons_eq_ite, -id_eq]
  exact id_eq _

/-- Of an entry, only the details can change in canonical form. -/
theorem canonicalFields_fields (e : Entry) : canonicalFields e.fields = e.canonical.fields := by
  simp [canonicalFields_eq_map, Entry.fields, Entry.canonical, Value.canonical, Option.toList_map,
    Function.comp_def]

/-- What may stand in a field of an entry. -/
def Fits (f : String × Value) : Prop :=
  ∀ field, entrySchema.find f.1 = some field → field.check f.2 = .ok ()

theorem fits_of_find {name : String} {v : Value} {field : Field}
    (hfind : entrySchema.find name = some field) (hcheck : field.check v = .ok ()) :
    Fits (name, v) := by
  intro other hother
  cases hfind.symm.trans hother
  exact hcheck

theorem fits_optional {α : Type} {name : String} {write : α → Value}
    (h : ∀ x, Fits (name, write x)) (a : Option α) :
    ∀ f ∈ (a.map fun a => (name, write a)).toList, Fits f := by
  cases a with
  | none => exact List.forall_mem_nil _
  | some x => exact List.forall_mem_singleton.2 (h x)

theorem Severity.name_mem (s : Severity) : s.name ∈ severityNames := by cases s <;> decide

theorem Verdict.name_mem (v : Verdict) : v.name ∈ verdictNames := by cases v <;> decide

/-- The fields of an entry hold what they may. -/
theorem fits_fields (e : Entry) : ∀ f ∈ e.fields, Fits f := by
  simp only [Entry.fields, List.forall_mem_append, List.forall_mem_cons]
  refine ⟨⟨⟨⟨⟨⟨⟨⟨⟨⟨⟨fits_of_find rfl rfl, fits_of_find rfl rfl, ?_, fits_of_find rfl rfl,
    List.forall_mem_nil _⟩, ?_⟩, ?_⟩, ?_⟩, ?_⟩, ?_⟩, ?_⟩, ?_⟩, ?_⟩, ?_⟩, ?_⟩
  -- Any text and any number will do, but for the names of severities and verdicts.
  any_goals exact fits_optional (fun _ => fits_of_find rfl rfl) _
  · exact fits_of_find rfl (congrArg (Except.map fun _ => ()) (if_pos e.severity.name_mem))
  · refine fits_optional (fun v => ?_) e.verdict
    exact fits_of_find rfl (congrArg (Except.map fun _ => ()) (if_pos v.name_mem))
  · refine fits_optional (fun v => fits_of_find rfl ?_) e.details
    cases v <;> rfl

/-! ## Valid entries -/

/-- The separator is found wherever it stands. -/
theorem hasSeparator_iff {s : List Char} : hasSeparator s = true ↔ "::".toList <:+: s := by
  induction s with
  | nil => simp [hasSeparator]
  | cons c cs ih =>
    have hhead : ":".toList <+: cs ↔ cs.head? = some ':' := by cases cs <;> simp [eq_comm]
    have hfirst : "::".toList <+: c :: cs ↔ ':' = c ∧ ":".toList <+: cs := List.cons_prefix_cons
    rw [hasSeparator, Bool.or_eq_true, ih, List.infix_cons_iff, hfirst, hhead, Bool.and_eq_true,
      beq_iff_eq, beq_iff_eq, eq_comm (a := c)]

/-- A report on an invalid use says of which handle it is, what was wrong and how the
    handle was used. -/
def Entry.Complete (e : Entry) : Prop :=
  e.event = "invalid_handle" → e.handle ≠ none ∧ e.classification ≠ none ∧ e.operation ≠ none

/-- What an entry must hold to pass the validation when it is written. -/
structure Entry.Valid (e : Entry) : Prop where
  separated : "::".toList <:+: e.traceId.toList
  classification : ∀ s ∈ e.classification, s ∈ ["valid", "use_after_close", "unknown"]
  operation : ∀ s ∈ e.operation, s ∈ ["dereference", "close"]
  complete : e.Complete

theorem textOf_eq {fields : Fields} {name : String} {a : Option String}
    (h : fields.lookup name = a.map .string) : textOf fields name = a := by
  rw [textOf, Fields.get?, h]
  cases a <;> rfl

/-- Nothing is wrong with a field if its text is allowed. -/
theorem checkAllowed_eq_nil_iff {fields : Fields} {name : String} {allowed : List String} :
    checkAllowed fields name allowed = [] ↔ ∀ s ∈ textOf fields name, s ∈ allowed := by
  unfold checkAllowed
  cases textOf fields name <;> simp

theorem absent_eq_nil_iff {fields : Fields} {names : List String} :
    absent fields names = [] ↔ ∀ name ∈ names, fields.lookup name ≠ none := by
  simp [absent, Fields.has, Fields.get?]

namespace Tells

variable {fields : Fields} {e : Entry}

/-- In the fields of an entry two that take some values only, those of a report and the
    trace id can be wrong. -/
theorem problems_eq (h : Tells fields e) :
    problems fields =
      checkAllowed fields "classification" Classification.names ++
        checkAllowed fields "operation" operationNames ++
        (if e.event = invalidHandleEvent then
          (absent fields ["handle", "classification", "operation"]).map .incompleteReport
        else []) ++
        (if hasSeparator e.traceId.toList then [] else [.flatTraceId e.traceId]) := by
  have hlevel : textOf fields "level" = some e.severity.name := textOf_eq h.severity
  have hevent : textOf fields "event" = some e.event := textOf_eq h.event
  have htrace : textOf fields "trace_id" = some e.traceId := textOf_eq h.traceId
  have hverdict : textOf fields "outcome" = e.verdict.map Verdict.name :=
    textOf_eq (h.verdict.trans (Option.map_map ..).symm)
  have hrequired : absent fields ["timestamp", "trace_id", "level", "event"] = [] := by
    simp only [absent_eq_nil_iff, List.forall_mem_cons, h.timestamp, h.traceId, h.severity, h.event]
    simp
  have hseverity : checkAllowed fields "level" severityNames = [] := by
    simp [checkAllowed_eq_nil_iff, hlevel, Severity.name_mem]
  have houtcome : checkAllowed fields "outcome" verdictNames = [] := by
    simp [checkAllowed_eq_nil_iff, hverdict, Verdict.name_mem]
  simp only [problems, hrequired, hseverity, houtcome, hevent, htrace, List.map_nil,
    List.nil_append, Option.some.injEq]

/-- Nothing is wrong with the fields of an entry if and only if it is valid. -/
theorem problems_eq_nil_iff (h : Tells fields e) : problems fields = [] ↔ e.Valid := by
  have hclassification : checkAllowed fields "classification" Classification.names = [] ↔
      ∀ s ∈ e.classification, s ∈ ["valid", "use_after_close", "unknown"] := by
    rw [checkAllowed_eq_nil_iff, textOf_eq h.classification]
    rfl
  have hoperation : checkAllowed fields "operation" operationNames = [] ↔
      ∀ s ∈ e.operation, s ∈ ["dereference", "close"] := by
    rw [checkAllowed_eq_nil_iff, textOf_eq h.operation]
    rfl
  have hcomplete : absent fields ["handle", "classification", "operation"] = [] ↔
      e.handle ≠ none ∧ e.classification ≠ none ∧ e.operation ≠ none := by
    simp only [absent_eq_nil_iff, List.forall_mem_cons, h.handle, h.classification, h.operation]
    simp
  have hseparated : (if hasSeparator e.traceId.toList then [] else [Problem.flatTraceId e.traceId])
      = [] ↔ "::".toList <:+: e.traceId.toList := by
    rw [ite_eq_left_iff, ← hasSeparator_iff]
    simp
  simp only [h.problems_eq, List.append_eq_nil_iff, hclassification, hoperation, ite_eq_right_iff,
    List.map_eq_nil_iff, hcomplete, hseparated]
  exact ⟨fun ⟨⟨⟨hc, ho⟩, hr⟩, hs⟩ => ⟨hs, hc, ho, hr⟩,
    fun hv => ⟨⟨⟨hv.classification, hv.operation⟩, hv.complete⟩, hv.separated⟩⟩

theorem severity?_name (s : Severity) : severity? (.string s.name) = .ok s := by
  cases s <;> rfl

theorem verdict?_name (v : Verdict) : verdict? (.string v.name) = .ok v := by
  cases v <;> rfl

/-- The entry is read from its fields. Details that are null are as good as absent. -/
theorem ofFields_eq (h : Tells fields e) (hfits : ∀ f ∈ fields, Fits f)
    (hdetails : e.details ≠ some .null) : Entry.ofFields fields = .ok e := by
  have hcheck : entrySchema.checkKnown fields = .ok () := Schema.checkKnown_eq_ok hfits
  have htimestamp : required fields "timestamp" Value.text? = .ok e.timestamp :=
    required_of_lookup h.timestamp
  have htrace : required fields "trace_id" Value.text? = .ok e.traceId :=
    required_of_lookup h.traceId
  have hseverity : required fields "level" severity? = .ok e.severity :=
    (required_of_lookup h.severity).trans (severity?_name e.severity)
  have hevent : required fields "event" Value.text? = .ok e.event := required_of_lookup h.event
  have hany : optionalField fields "details" (fun v => .ok v) = .ok e.details := by
    refine optionalField_of_lookup (h.details.trans Option.map_id'.symm) fun v hv => ?_
    cases v with
    | null => exact absurd hv hdetails
    | _ => rfl
  rw [Entry.ofFields, hcheck, htimestamp, htrace, hseverity, hevent, hany,
    optionalField_of_lookup h.scenario fun _ _ => rfl,
    optionalField_of_lookup h.step fun _ _ => rfl,
    optionalField_of_lookup h.op fun _ _ => rfl,
    optionalField_of_lookup h.handle fun _ _ => rfl,
    optionalField_of_lookup h.classification fun _ _ => rfl,
    optionalField_of_lookup h.operation fun _ _ => rfl,
    optionalField_of_lookup h.generation fun _ _ => rfl,
    optionalField_of_lookup h.sequence fun _ _ => rfl,
    optionalField_of_lookup h.verdict fun v _ => congrArg (Except.map some) (verdict?_name v)]
  rfl

end Tells

/-! ## Lines -/

/-- The details of an entry can be read from a line: null would be as good as
    absent, a floating-point number is rounded, and the entry is a bracket more
    than they have. -/
def Entry.Readable (e : Entry) : Prop :=
  ∀ v ∈ e.details, v ≠ .null ∧ v.isFloatFree = true ∧ v.depth < nestingLimit

/-- What holds of texts, of numbers and of the details holds of the values of all fields. -/
theorem Entry.forall_mem_fields {e : Entry} {P : Value → Prop} (htext : ∀ s, P (.string s))
    (hword : ∀ n, P (.number (.nonneg n))) (hdetails : ∀ v ∈ e.details, P v) :
    ∀ f ∈ e.fields, P f.2 := by
  have hfield {α : Type} {name : String} {write : α → Value} {a : Option α}
      (h : ∀ x ∈ a, P (write x)) : ∀ f ∈ (a.map fun a => (name, write a)).toList, P f.2 := by
    cases a with
    | none => exact List.forall_mem_nil _
    | some x => exact List.forall_mem_singleton.2 (h x rfl)
  simp only [Entry.fields, List.forall_mem_append, List.forall_mem_cons]
  exact ⟨⟨⟨⟨⟨⟨⟨⟨⟨⟨⟨htext _, htext _, htext _, htext _, List.forall_mem_nil _⟩,
    hfield fun _ _ => htext _⟩, hfield fun _ _ => hword _⟩, hfield fun _ _ => htext _⟩,
    hfield fun _ _ => hword _⟩, hfield fun _ _ => htext _⟩, hfield fun _ _ => htext _⟩,
    hfield fun _ _ => hword _⟩, hfield fun _ _ => hword _⟩, hfield fun _ _ => htext _⟩,
    hfield hdetails⟩

namespace Entry

variable {e : Entry}

theorem isFloatFree_fields (he : e.Readable) : (Value.object e.fields).isFloatFree = true := by
  rw [Value.isFloatFree, fieldsFloatFree_iff]
  exact forall_mem_fields (fun _ => rfl) (fun _ => rfl) fun v hv => (he v hv).2.1

/-- The line of an entry is parsed as its fields. -/
theorem parse_line (he : e.Readable) : parse e.line = .ok (.object e.fields) := by
  have hdepth : fieldsDepth e.fields ≤ nestingLimit - 1 :=
    fieldsDepth_le_iff.2 (forall_mem_fields (fun _ => Nat.zero_le _) (fun _ => Nat.zero_le _)
      fun v hv => Nat.le_pred_of_lt (he v hv).2.2)
  refine parse_render (isFloatFree_fields he) ?_
  rw [Value.depth]
  exact Nat.succ_le_succ hdepth

/-- Nothing is found wrong with the line of an entry if and only if the entry is valid. -/
theorem problems_fields_eq_nil_iff : problems (Fields.ofList e.canonical.fields) = [] ↔ e.Valid :=
  (tells_fields e.canonical).problems_eq_nil_iff.trans
    ⟨fun h => ⟨h.separated, h.classification, h.operation, h.complete⟩,
      fun h => ⟨h.separated, h.classification, h.operation, h.complete⟩⟩

/-- The line of a valid entry gives it back. -/
theorem readLine_line_of_valid (he : e.Readable) (hv : e.Valid) :
    readLine e.line = .ok e.canonical := by
  have hdetails : e.canonical.details ≠ some .null := by
    intro h
    obtain ⟨v, hv, hnull⟩ := Option.map_eq_some_iff.1 h
    exact (he v hv).1 (Value.canonical_eq_null_iff.1 hnull)
  have hread : ofFields (Fields.ofList e.canonical.fields) = .ok e.canonical :=
    (tells_fields e.canonical).ofFields_eq
      (fun f hf => fits_fields e.canonical f (Fields.mem_of_mem_ofList hf)) hdetails
  simp only [readLine, parse_line he, Value.canonical, canonicalFields_fields,
    problems_fields_eq_nil_iff.2 hv, hread]

/-- The line of an entry that is not valid gives what is wrong with it. -/
theorem readLine_line_of_not_valid (he : e.Readable) (hv : ¬e.Valid) :
    readLine e.line = .error (problems (Fields.ofList e.canonical.fields)) := by
  simp only [readLine, parse_line he, Value.canonical, canonicalFields_fields]
  split
  · next hnil => exact absurd (problems_fields_eq_nil_iff.1 hnil) hv
  · rfl

end Entry

/-- The line of an entry passes the validation if and only if the entry is valid,
    and then it gives the entry back, whatever texts and numbers that holds. Only
    the details may come back in another form, if they are not in canonical form. -/
theorem validateLine_line_iff (e : Entry) (he : e.Readable) (number : Nat) :
    ((∃ e', validateLine e.line number = .ok e') ↔ e.Valid) ∧
      ∀ e', validateLine e.line number = .ok e' →
        e' = e.canonical ∧ ((∀ v ∈ e.details, v.canonical = v) → e' = e) := by
  have hcanonical (h : ∀ v ∈ e.details, v.canonical = v) : e.canonical = e := by
    have hdetails : e.details.map Value.canonical = e.details :=
      (Option.map_congr h).trans Option.map_id'
    rw [Entry.canonical, hdetails]
  -- Reading the line ends in the entry or in what is wrong with it, by whether it is valid.
  by_cases hv : e.Valid
  · have hok : validateLine e.line number = .ok e.canonical := by
      rw [validateLine, Entry.readLine_line_of_valid he hv]
    refine ⟨⟨fun _ => hv, fun _ => ⟨e.canonical, hok⟩⟩, fun e' h => ?_⟩
    cases hok.symm.trans h
    exact ⟨rfl, hcanonical⟩
  · have herror (e' : Entry) : validateLine e.line number ≠ .ok e' := by
      simp only [validateLine, Entry.readLine_line_of_not_valid he hv, ne_eq, reduceCtorEq,
        not_false_eq_true]
    exact ⟨⟨fun ⟨e', h⟩ => absurd h (herror e'), fun h => absurd h hv⟩,
      fun e' h => absurd h (herror e')⟩

/-- A report with a line break and quotes in its trace id, and the same without its
    operation. -/
theorem validateLine_line_report :
    let e : Entry :=
      { timestamp := "2026-01-05T00:00:00Z", traceId := "a\n\"b\"::1::003", severity := .warn,
        event := "invalid_handle", handle := some 0xffffffffffffffff,
        classification := some "unknown", operation := some "close",
        details := some (.object [("\t", .array [.null, .number (.negSucc 4)])]) }
    e.Readable ∧ validateLine e.line 3 = .ok e ∧
      ∀ e', validateLine { e with operation := none }.line 3 ≠ .ok e' := by
  intro e
  have he : e.Readable := by rintro _ ⟨⟩; exact ⟨nofun, rfl, by decide⟩
  have hvalid : e.Valid := by
    refine ⟨hasSeparator_iff.1 (by decide), ?_, ?_, fun _ => ⟨nofun, nofun, nofun⟩⟩
    · rintro _ ⟨⟩; decide
    · rintro _ ⟨⟩; decide
  obtain ⟨e', hok⟩ := (validateLine_line_iff e he 3).1.2 hvalid
  obtain rfl : e' = e := ((validateLine_line_iff e he 3).2 e' hok).2 (by rintro _ ⟨⟩; rfl)
  refine ⟨he, hok, fun e' hok' => ?_⟩
  -- A report that does not say what the handle was used for is incomplete.
  have hincomplete := (validateLine_line_iff { e with operation := none } he 3).1.1 ⟨e', hok'⟩
  exact (hincomplete.complete rfl).2.2 rfl

end Log

end HandleWatch
