import HandleWatch.Proofs.Basic
import HandleWatch.Proofs.TypedReaders
import HandleWatch.Scenario.Parser
import Mathlib.Data.List.Nodup

/-!
# The keys of a scenario

The fields of a scenario are checked as they are read, each with the keys before it. Those
of a step are gathered first, since its operation may be any of them, and then they are
checked against the schema of the operation. So no field is read that is not known, and
none twice, but for one operation: where there are no fields, nothing is checked, and any
field is passed over.

* `Scenario.reads_step`: what is read as a step and is an object has the key of its
  operation, once, and else only keys of its fields, unless it makes a record;
* `Scenario.keys_of_parse`: so the keys of a scenario that is accepted are all known, and
  a key that is not known is refused, in the scenario as in its steps.
-/

namespace HandleWatch

namespace Json

theorem anyField_key {nested : Reader Value} {seen : List String} {k : String} {s : List Char}
    {f : String × Value} {rest : List Char} (h : anyField nested seen k s = .ok (f, rest)) :
    f.1 = k := by
  unfold anyField at h
  split at h
  · cases h
  · split at h
    · cases h
    · cases h
      rfl

/-- A key that is there at most once has one value. -/
theorem value_eq_of_count_le_one {fields : List (String × Value)} {k : String} {v w : Value}
    (h : (fields.map Prod.fst).count k ≤ 1) (hv : (k, v) ∈ fields) (hw : (k, w) ∈ fields) :
    v = w := by
  induction fields with
  | nil => exact absurd hv List.not_mem_nil
  | cons f fields ih =>
    have hrest : ∀ u, (k, u) ∈ fields → 1 ≤ (fields.map Prod.fst).count k := fun u hu =>
      List.count_pos_iff.2 (List.mem_map.2 ⟨_, hu, rfl⟩)
    rw [List.map_cons, List.count_cons] at h
    rcases List.mem_cons.1 hv with rfl | hv'
    · rcases List.mem_cons.1 hw with hw' | hw'
      · exact (Prod.mk.inj hw').2.symm
      · have hlater := hrest w hw'
        rw [beq_self_eq_true, if_pos rfl] at h
        omega
    · rcases List.mem_cons.1 hw with rfl | hw'
      · have hlater := hrest v hv'
        rw [beq_self_eq_true, if_pos rfl] at h
        omega
      · exact ih (Nat.le_of_add_right_le h) hv' hw'

/-- The keys of fields are among those that are known, and none is there twice. -/
def KeysIn (known : List String) (fields : List (String × Value)) : Prop :=
  (fields.map Prod.fst).Nodup ∧ ∀ k ∈ fields.map Prod.fst, k ∈ known

instance (known : List String) (fields : List (String × Value)) :
    Decidable (KeysIn known fields) :=
  inferInstanceAs (Decidable (_ ∧ _))

/-- What passes the check has only known keys, each once. -/
theorem Schema.checkStrict_ok {schema : Schema} {seen : List String}
    {fields : List (String × Value)} (h : schema.checkStrict seen fields = .ok ()) :
    (fields.map Prod.fst).Nodup ∧
      ∀ k ∈ fields.map Prod.fst, k ∈ schema.names ∧ k ∉ seen := by
  -- The keys that were seen grow by each member, so none comes twice.
  induction fields generalizing seen with
  | nil => exact ⟨List.nodup_nil, List.forall_mem_nil _⟩
  | cons f fields ih =>
    obtain ⟨k, v⟩ := f
    rw [checkStrict] at h
    split at h
    · cases h
    · next field hfind =>
      split_ifs at h with hseen
      split at h
      · cases h
      · obtain ⟨hnodup, hkeys⟩ := ih h
        have hname : field.name = k := by simpa using List.find?_some hfind
        have hknown : k ∈ schema.names :=
          List.mem_map.2 ⟨field, List.mem_of_find?_eq_some hfind, hname⟩
        have hnew : k ∉ fields.map Prod.fst := fun hk => (hkeys k hk).2 List.mem_cons_self
        refine ⟨List.nodup_cons.2 ⟨hnew, hnodup⟩, List.forall_mem_cons.2 ⟨⟨hknown, hseen⟩, ?_⟩⟩
        exact fun k hk => ⟨(hkeys k hk).1, fun hmem => (hkeys k hk).2 (List.mem_cons_of_mem _ hmem)⟩

end Json

namespace Scenario

open Json (Value)
open Except (bind_eq_ok eq_ok_of_toOption)

/-! ## Steps -/

/-- The keys that a step of an operation may have besides that of the operation. -/
def Op.keys : Op → List String
  | openHandle => ["name", "value"]
  | close => ["handle", "expect"]
  | dereference => ["handle", "expect", "value"]
  | duplicate => ["handle", "name"]
  | newGeneration => ["label", "expect"]
  | resize => ["size"]
  | expectOpen => ["since", "handles"]
  | expectClosed => ["handles"]
  | expectReports => ["total", "use_after_close", "unknown"]
  | constructRecord => []

/-- The schema of an operation has these keys and no others. -/
theorem Op.schema_names (op : Op) : op.schema.names = op.keys := by
  cases op <;> rfl

theorem Op.name_of_ofName? {s : String} {op : Op} (h : Op.ofName? s = some op) : op.name = s := by
  simpa using List.find?_some h

theorem eq_string_of_op? {v : Value} {op : Op} (h : op? v = .ok op) : v = .string op.name := by
  unfold op? at h
  split at h
  · split at h
    · next hop =>
      cases h
      rw [Op.name_of_ofName? hop]
    · cases h
  · cases h

/-- A step is of the operation that it was built for. -/
theorem Step.op_of_build {op : Op} {fields : List (String × Value)} {step : Step}
    (h : Step.build op fields = .ok step) : step.op = op := by
  -- By how many members a step is built from.
  cases op with
  | constructRecord =>
    cases h
    rfl
  | resize =>
    obtain ⟨size, -, h⟩ := bind_eq_ok h
    cases h
    rfl
  | expectClosed =>
    obtain ⟨handles, -, h⟩ := bind_eq_ok h
    cases h
    rfl
  | dereference =>
    obtain ⟨handle, -, h⟩ := bind_eq_ok h
    obtain ⟨expect, -, h⟩ := bind_eq_ok h
    obtain ⟨value, -, h⟩ := bind_eq_ok h
    cases h
    rfl
  | expectReports =>
    obtain ⟨total, -, h⟩ := bind_eq_ok h
    obtain ⟨useAfterClose, -, h⟩ := bind_eq_ok h
    obtain ⟨unknown, -, h⟩ := bind_eq_ok h
    cases h
    rfl
  | _ =>
    obtain ⟨first, -, h⟩ := bind_eq_ok h
    obtain ⟨second, -, h⟩ := bind_eq_ok h
    cases h
    rfl

/-- What a field of a step was read as: its operation, for which there was none before, or
    itself. -/
def FieldRead (seen : List String) (k : String) (v : Value) : Op ⊕ (String × Value) → Prop
  | .inl op => k = opKey ∧ opKey ∉ seen ∧ v = .string op.name
  | .inr f => k ≠ opKey ∧ f = (k, v)

theorem reads_op : Json.Reads stepNesting (Json.scalarAs op?) fun v op => op? v = .ok op :=
  Json.reads_scalarAs stepNesting (fun _ => by rintro ⟨⟩) fun _ => by rintro ⟨⟩

/-- The reader of a member of a step reads the operation, or any value. -/
theorem readsFields_stepField : Json.ReadsFields stepNesting stepField FieldRead := by
  intro seen k s part rest h
  unfold stepField at h
  split_ifs at h with hk hseen
  · cases h
  · split at h
    · cases h
    · next t hcolon =>
      obtain ⟨v, hv, op, rfl, hR⟩ := (reads_op.mapped Sum.inl).anyField hcolon h seen k
      exact ⟨v, hv, hk, hseen, eq_string_of_op? hR⟩
  · obtain ⟨f, hf, rfl⟩ := Json.mapped_ok h
    obtain rfl := Json.anyField_key hf
    exact ⟨f.2, hf, hk, rfl⟩

/-- The fields that were read as themselves are those of any other key. -/
theorem filterMap_getRight? {seen : List String} {fields : List (String × Value)}
    {parts : List (Op ⊕ (String × Value))} (h : Json.Listed FieldRead seen fields parts) :
    parts.filterMap Sum.getRight? = fields.filter fun f => f.1 ≠ opKey := by
  induction h with
  | nil => rfl
  | @cons seen k v part fields parts hfield _ ih =>
    cases part with
    | inl op =>
      rw [List.filterMap_cons_none rfl, ih, List.filter_cons_of_neg]
      simpa using hfield.1
    | inr f =>
      have hright : Sum.getRight? (Sum.inr f : Op ⊕ (String × Value)) = some f := rfl
      rw [List.filterMap_cons_some hright, ih, List.filter_cons_of_pos (by simpa using hfield.1),
        hfield.2]

/-- The keys of a step of an operation, written as an object: the operation stands there
    once, and the other keys are those of its fields, each at most once. Where an operation
    has no fields at all, nothing is said of the other keys. -/
structure OpKeys (op : Op) (fields : List (String × Value)) : Prop where
  named : ("op", .string op.name) ∈ fields
  once : (fields.map Prod.fst).count "op" = 1
  strict : op ≠ .constructRecord → Json.KeysIn ("op" :: op.keys) fields

/-- A step by name has its keys checked before it is built. -/
theorem RawStep.step_byName {op : Op} (h : op ≠ .constructRecord)
    (fields : List (String × Value)) :
    (RawStep.byName op fields).step =
      (op.schema.checkStrict [] fields >>= fun _ => Step.build op fields) := by
  cases op with
  | constructRecord => exact absurd rfl h
  | _ => rfl

/-- The members that a step is gathered from have the keys of its operation. -/
theorem opKeys_of_listed {fields : List (String × Value)}
    {parts : List (Op ⊕ (String × Value))} (h : Json.Listed FieldRead [] fields parts)
    {raw : RawStep} (hraw : gatherFields parts = .ok raw) {step : Step}
    (hstep : raw.step = .ok step) : OpKeys step.op fields := by
  unfold gatherFields at hraw
  split at hraw
  · next op hop =>
    cases hraw
    rw [filterMap_getRight? h] at hstep
    have hnamed : (opKey, .string op.name) ∈ fields := by
      obtain ⟨part, hmem, hpart⟩ := List.exists_of_findSome?_eq_some hop
      obtain rfl := Sum.getLeft?_eq_some_iff.1 hpart
      obtain ⟨seen, k, v, hfield, rfl, -, rfl⟩ := h.exists_field hmem
      exact hfield
    have honce : (fields.map Prod.fst).count opKey = 1 := by
      refine Nat.le_antisymm (h.count_key fun seen v part hpart => ?_).1
        (List.count_pos_iff.2 (List.mem_map.2 ⟨_, hnamed, rfl⟩))
      cases part with
      | inl op => exact hpart.2.1
      | inr f => exact absurd rfl hpart.1
    -- A constructed record takes any members. The others are checked against their schema,
    -- without the key of the operation.
    by_cases hrecord : op = .constructRecord
    · subst hrecord
      cases hstep
      exact ⟨hnamed, honce, fun hne => absurd rfl hne⟩
    · rw [RawStep.step_byName hrecord] at hstep
      obtain ⟨⟨⟩, hcheck, hbuild⟩ := bind_eq_ok hstep
      obtain rfl := Step.op_of_build hbuild
      obtain ⟨hnodup, hknown⟩ := Json.Schema.checkStrict_ok hcheck
      have hothers : (fields.filter fun f => f.1 ≠ opKey).map Prod.fst =
          (fields.map Prod.fst).filter (· ≠ opKey) := by
        rw [List.filter_map]
        rfl
      rw [hothers] at hnodup hknown
      rw [Op.schema_names] at hknown
      refine ⟨hnamed, honce, fun _ => ⟨List.nodup_iff_count_le_one.2 fun k => ?_, fun k hk => ?_⟩⟩
      · by_cases hop : k = opKey
        · rw [hop, honce]
        · rw [← List.count_filter (p := (· ≠ opKey)) (by simpa using hop)]
          exact List.nodup_iff_count_le_one.1 hnodup k
      · by_cases hop : k = opKey
        · exact hop ▸ List.mem_cons_self
        · exact List.mem_cons_of_mem _ (hknown k (List.mem_filter.2 ⟨hk, by simpa using hop⟩)).1
  · cases hraw

/-- The value of a step has the keys of its operation, if it is an object. -/
def StepKeys (v : Value) (step : Step) : Prop :=
  ∀ fields, v = .object fields → OpKeys step.op fields

theorem stepItems_ok {s rest : List Char} {raw : RawStep} (h : stepItems s = .ok (raw, rest)) :
    ∃ vs, Json.items (Json.value stepNesting) s = .ok (vs, rest) := by
  obtain ⟨t, hread, hclose⟩ := Json.closing_eq_ok_iff.1 h
  split at hread
  · cases hread
  · cases hread
  · next hnext =>
    split at hread
    · cases hread
    · next hop =>
      obtain ⟨v, hv, -⟩ := reads_op hop
      obtain ⟨vs, hvs, -⟩ := Json.mapped_ok hread
      exact ⟨v :: vs, Json.closing_eq_ok_iff.2
        ⟨t, Json.itemsUpTo_step hnext hv hvs, hclose⟩⟩

theorem reads_step : Json.Reads (stepNesting + 1) step StepKeys := by
  intro s st rest h
  obtain ⟨raw, hread, hstep⟩ := Json.checked_ok h
  rcases Json.bracketed_ok hread with ⟨t, hs, hitems⟩ | ⟨read, t, ⟨⟩, hs, hfields⟩
  · obtain ⟨vs, hvs⟩ := stepItems_ok hitems
    refine ⟨.array vs, ?_, fun fields => by rintro ⟨⟩⟩
    rw [Json.value_of_bracket hs, hvs]
    rfl
  · obtain ⟨fields, parts, hmembers, hlisted, hraw⟩ := readsFields_stepField.members hfields
    refine ⟨.object fields, ?_, ?_⟩
    · rw [Json.value_of_brace hs, hmembers]
    · rintro fields ⟨⟩
      exact opKeys_of_listed hlisted hraw hstep

theorem reads_stepList : Json.Reads (stepNesting + 2) stepList fun v steps =>
    ∃ items, v = .array items ∧ List.Forall₂ StepKeys items steps := by
  intro s steps rest h
  rcases Json.bracketed_ok h with ⟨t, hs, hitems⟩ | ⟨_, _, ⟨⟩, _, _⟩
  obtain ⟨items, hitems, hkeys⟩ := reads_step.items hitems
  refine ⟨.array items, ?_, items, rfl, hkeys⟩
  rw [Json.value_of_bracket hs, hitems]
  rfl

/-! ## Scenarios -/

/-- What a field of a scenario was read as: its key is known, and was not there before, and
    the steps were read from an array of them. -/
structure PartRead (seen : List String) (k : String) (v : Value) (part : Part) : Prop where
  known : k ∈ fieldNames
  new : k ∉ seen
  steps : ∀ steps, part = .steps steps →
    k = "steps" ∧ ∃ items, v = .array items ∧ List.Forall₂ StepKeys items steps

theorem reads_scalarPart {α : Type} {check : Value → Except Json.Cause α}
    (harray : ∀ a, check (.array []) ≠ .ok a) (hobject : ∀ a, check (.object []) ≠ .ok a)
    {f : α → Part} (hf : ∀ a, (f a).steps? = none) (P : Value → List Step → Prop) :
    Json.Reads (stepNesting + 2) (fun s => Json.mapped f (Json.scalarAs check s))
      fun v part => ∀ steps, part = .steps steps → P v steps := by
  intro s part rest h
  obtain ⟨v, hv, a, rfl, -⟩ := (Json.reads_scalarAs _ harray hobject).mapped f h
  refine ⟨v, hv, fun steps hsteps => ?_⟩
  have hnone := hf a
  rw [hsteps] at hnone
  cases hnone

/-- Each known key has a reader, and only that of the steps reads steps. -/
theorem reads_partOf? {k : String} {read : Json.Reader Part} (h : partOf? k = some read) :
    k ∈ fieldNames ∧ Json.Reads (stepNesting + 2) read fun v part => ∀ steps,
      part = .steps steps →
        k = "steps" ∧ ∃ items, v = .array items ∧ List.Forall₂ StepKeys items steps := by
  unfold partOf? at h
  -- One case for each key, in the order in which they are compared.
  split_ifs at h with hname hdescription hmode hsize hsteps
  · cases h
    exact ⟨by simp [fieldNames, hname], reads_scalarPart (fun _ => by rintro ⟨⟩)
      (fun _ => by rintro ⟨⟩) (fun _ => rfl) _⟩
  · cases h
    exact ⟨by simp [fieldNames, hdescription], reads_scalarPart (fun _ => by rintro ⟨⟩)
      (fun _ => by rintro ⟨⟩) (fun _ => rfl) _⟩
  · cases h
    exact ⟨by simp [fieldNames, hmode], reads_scalarPart (fun _ => by rintro ⟨⟩)
      (fun _ => by rintro ⟨⟩) (fun _ => rfl) _⟩
  · cases h
    exact ⟨by simp [fieldNames, hsize], reads_scalarPart (fun _ => by rintro ⟨⟩)
      (fun _ => by rintro ⟨⟩) (fun _ => rfl) _⟩
  · cases h
    refine ⟨by simp [fieldNames, hsteps], ?_⟩
    intro s part rest hread
    obtain ⟨v, hv, steps, rfl, hR⟩ := reads_stepList.mapped Part.steps hread
    refine ⟨v, hv, ?_⟩
    rintro steps ⟨⟩
    exact ⟨hsteps, hR⟩

/-- The reader of a member of a scenario knows its key. -/
theorem readsFields_scenarioField :
    Json.ReadsFields (stepNesting + 2) scenarioField PartRead := by
  intro seen k s part rest h
  unfold scenarioField at h
  split at h
  · cases h
  · next read hpart =>
    obtain ⟨hknown, hreads⟩ := reads_partOf? hpart
    split_ifs at h with hseen
    · cases h
    · split at h
      · cases h
      · next t hcolon =>
        obtain ⟨v, hv, hR⟩ := hreads.anyField hcolon h seen k
        exact ⟨v, hv, hknown, hseen, hR⟩

/-- The steps of a scenario are among the parts it is gathered from. -/
theorem mem_of_gatherParts {parts : List Part} {scenario : Scenario}
    (h : gatherParts parts = .ok scenario) : .steps scenario.steps ∈ parts := by
  unfold gatherParts at h
  split at h
  · split at h
    · next steps hsteps =>
      cases h
      obtain ⟨part, hmem, hpart⟩ := List.exists_of_findSome?_eq_some hsteps
      cases part with
      | steps list =>
        cases hpart
        exact hmem
      | _ => cases hpart
    · cases h
  · cases h

/-- The value of a scenario that is accepted: the keys are known, and the steps are those
    of an array. -/
structure ScenarioKeys (scenario : Scenario) (fields : List (String × Value)) : Prop where
  known : Json.KeysIn ["name", "description", "mode", "queue_max_size", "steps"] fields
  steps : ∃ items, ("steps", .array items) ∈ fields ∧
    List.Forall₂ StepKeys items scenario.steps

/-- The members that a scenario is gathered from have its keys. -/
theorem scenarioKeys_of_listed {fields : List (String × Value)} {parts : List Part}
    (h : Json.Listed PartRead [] fields parts) {scenario : Scenario}
    (hgather : gatherParts parts = .ok scenario) : ScenarioKeys scenario fields where
  known := by
    refine ⟨List.nodup_iff_count_le_one.2 fun k =>
      (h.count_key fun seen v part hpart => hpart.new).1, fun k hk => ?_⟩
    obtain ⟨f, hf, rfl⟩ := List.mem_map.1 hk
    obtain ⟨seen, part, hpart⟩ := h.exists_made hf
    exact hpart.known
  steps := by
    obtain ⟨seen, k, v, hfield, hpart⟩ := h.exists_field (mem_of_gatherParts hgather)
    obtain ⟨rfl, items, rfl, hkeys⟩ := hpart.steps _ rfl
    exact ⟨items, hfield, hkeys⟩

/-- A text that is accepted is an array of fields, or a JSON object with the keys of a
    scenario. -/
theorem object_of_parse {text : String} {scenario : Scenario} (h : parse text = .ok scenario) :
    (Json.skipSpace text.toList).head? = some '[' ∨
      ∃ fields, Json.parse text = .ok (.object fields) ∧ ScenarioKeys scenario fields := by
  obtain ⟨rest, hread, hrest⟩ := Json.whole_eq_ok_iff.1 h
  rcases Json.bracketed_ok hread with ⟨t, hs, -⟩ | ⟨read, t, ⟨⟩, hs, hfields⟩
  · exact .inl (by rw [hs]; rfl)
  · obtain ⟨fields, parts, hmembers, hlisted, hgather⟩ :=
      readsFields_scenarioField.members hfields
    refine .inr ⟨fields, Json.whole_eq_ok_iff.2 ⟨rest, ?_, hrest⟩,
      scenarioKeys_of_listed hlisted hgather⟩
    rw [← hmembers]
    exact Json.value_of_brace hs

/-- If the text is an object, these are its keys. -/
theorem scenarioKeys_of_parse {text : String} {scenario : Scenario}
    (h : parse text = .ok scenario) {fields : List (String × Value)}
    (hfields : Json.parse text = .ok (.object fields)) : ScenarioKeys scenario fields := by
  rcases object_of_parse h with harray | ⟨fields', hfields', hkeys⟩
  · obtain ⟨t, hs⟩ := List.head?_eq_some_iff.1 harray
    obtain ⟨rest, hvalue, -⟩ := Json.whole_eq_ok_iff.1 hfields
    rw [Json.nestingLimit, Json.value_of_bracket hs] at hvalue
    obtain ⟨items, -, ⟨⟩⟩ := Json.mapped_ok hvalue
  · cases hfields.symm.trans hfields'
    exact hkeys

theorem Op.ofName?_name (op : Op) : Op.ofName? op.name = some op := by
  cases op <;> rfl

/-- An object of a step of this operation has the keys of the operation. -/
theorem StepKeys.of_named {fields : List (String × Value)} {step : Step}
    (h : StepKeys (.object fields) step) {op : Op} (hop : ("op", .string op.name) ∈ fields) :
    OpKeys op fields := by
  have hkeys := h fields rfl
  have hname := Json.value_eq_of_count_le_one (Nat.le_of_eq hkeys.once) hop hkeys.named
  have hsame : some op = some step.op := by
    rw [← op.ofName?_name, ← step.op.ofName?_name, Value.string.inj hname]
  exact Option.some.inj hsame ▸ hkeys

/-- The keys of the scenario that is accepted, if it is an object, are those of a scenario,
    and those of its steps are those of their operations. In other words, a text is refused
    if a key in it is strange or comes twice; except in steps that make a record. -/
theorem keys_of_parse (text : String) :
    (∀ scenario, parse text = .ok scenario →
      (Json.skipSpace text.toList).head? = some '[' ∨
        ∃ fields, Json.parse text = .ok (.object fields) ∧ ScenarioKeys scenario fields) ∧
    ∀ fields, Json.parse text = .ok (.object fields) →
      (¬ Json.KeysIn ["name", "description", "mode", "queue_max_size", "steps"] fields ∨
        ∃ items step, ("steps", .array items) ∈ fields ∧ Value.object step ∈ items ∧
          ∃ op : Op, ("op", .string op.name) ∈ step ∧ op ≠ .constructRecord ∧
            ¬ Json.KeysIn ("op" :: op.keys) step) →
      ∃ e, parse text = .error e := by
  refine ⟨fun scenario h => object_of_parse h, fun fields hfields hstrange => ?_⟩
  cases hparse : parse text with
  | error e => exact ⟨e, rfl⟩
  | ok scenario =>
    have hkeys : ScenarioKeys scenario fields := scenarioKeys_of_parse hparse hfields
    rcases hstrange with hroot | ⟨items, step, hitems, hstep, op, hop, hrecord, hstrange⟩
    · exact absurd hkeys.known hroot
    · -- The steps are there only once, and so is the operation of a step.
      obtain ⟨items', hitems', hsteps⟩ := hkeys.steps
      have hcount := List.nodup_iff_count_le_one.1 hkeys.known.1 "steps"
      obtain rfl := Value.array.inj (Json.value_eq_of_count_le_one hcount hitems hitems')
      obtain ⟨i, hi, hget⟩ := List.mem_iff_getElem.1 hstep
      have hread := hsteps.get hi (hsteps.length_eq ▸ hi)
      rw [List.get_eq_getElem, hget] at hread
      exact absurd ((hread.of_named hop).strict hrecord) hstrange

/-- A step with its operation among its fields, and the same with one of them misspelt. -/
theorem keys_of_parse_close :
    (∃ text scenario fields,
      text = "\x7b\"name\":\"x\",\"steps\":[\x7b\"handle\":\"a\",\"op\":\"close\"," ++
        "\"expect\":\"valid\"\x7d]\x7d" ∧
      parse text = .ok scenario ∧ Json.parse text = .ok (.object fields) ∧
        ScenarioKeys scenario fields) ∧
    ∃ text e,
      text = "\x7b\"name\":\"x\",\"steps\":[\x7b\"handle\":\"a\",\"op\":\"close\"," ++
        "\"expekt\":\"valid\"\x7d]\x7d" ∧ parse text = .error e := by
  have hparse : parse ("\x7b\"name\":\"x\",\"steps\":[\x7b\"handle\":\"a\",\"op\":\"close\"," ++
      "\"expect\":\"valid\"\x7d]\x7d") = .ok ⟨"x", none, none, none, [.close "a" (some .valid)]⟩ :=
    eq_ok_of_toOption (by decide +kernel)
  have hmisspelt : "\x7b\"name\":\"x\",\"steps\":[\x7b\"handle\":\"a\",\"op\":\"close\"," ++
      "\"expekt\":\"valid\"\x7d]\x7d" = (Value.object [("name", .string "x"),
        ("steps", .array [.object [("handle", .string "a"), ("op", .string "close"),
          ("expekt", .string "valid")]])]).render := by decide +kernel
  constructor
  · rcases (keys_of_parse _).1 _ hparse with harray | ⟨fields, hfields, hkeys⟩
    · exact absurd harray (by decide +kernel)
    · exact ⟨_, _, fields, rfl, hparse, hfields, hkeys⟩
  · obtain ⟨e, he⟩ := (keys_of_parse _).2 _ (hmisspelt ▸ Json.parse_render rfl (by decide))
      (.inr ⟨_, _, List.mem_cons_of_mem _ List.mem_cons_self, List.mem_cons_self, .close,
        List.mem_cons_of_mem _ List.mem_cons_self, by decide, by decide⟩)
    exact ⟨_, e, rfl, he⟩

/-- A step that makes a record is accepted with a key that it does not have. -/
theorem record_key_passed_over :
    ∃ text scenario step,
      text = "\x7b\"name\":\"x\",\"steps\":[\x7b\"op\":\"construct_record\"," ++
        "\"expect\":\"valid\"\x7d]\x7d" ∧
      parse text = .ok scenario ∧ scenario.steps = [.constructRecord] ∧
      Json.parse text = .ok (.object [("name", .string "x"), ("steps", .array [.object step])]) ∧
      ("op", .string Op.constructRecord.name) ∈ step ∧
      ¬ Json.KeysIn ("op" :: Op.constructRecord.keys) step := by
  have htext : "\x7b\"name\":\"x\",\"steps\":[\x7b\"op\":\"construct_record\"," ++
      "\"expect\":\"valid\"\x7d]\x7d" = (Value.object [("name", .string "x"),
        ("steps", .array [.object [("op", .string "construct_record"),
          ("expect", .string "valid")]])]).render := by decide +kernel
  refine ⟨_, ⟨"x", none, none, none, [.constructRecord]⟩, _, rfl,
    eq_ok_of_toOption (by decide +kernel), rfl, htext ▸ Json.parse_render rfl (by decide),
    List.mem_cons_self, by decide⟩

end Scenario

end HandleWatch
