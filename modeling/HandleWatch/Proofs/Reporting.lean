import HandleWatch.Proofs.TrackerRun

/-!
# Reports and the answers to them

A use of an id that is not open makes a report (`Tracker.report?`). It is
answered by the hook that is installed (`Tracker.answer?`), and only a hook that
refuses it or crashes changes what the use comes to (`InvalidUse.overrule`,
`Tracker.detect_outcome`). Whatever the hook answers, the sink remembers the
report and the hook has heard it (`Sink.told`, `Tracker.detect_of_report?`).
-/

namespace HandleWatch

/-- The hook does not accept the report. -/
def Answer.Objects : Answer → Prop
  | accept => False
  | refuse _ | crash _ => True

/-- What an operation with the outcome `plain` comes to, given the answer to the
    report on its invalid use. -/
def InvalidUse.overrule {β : Type} (use : InvalidUse) (answer : Option Answer)
    (plain : Outcome β) : Outcome β :=
  match answer with
  | some (.refuse reason) => .failed (.hookRefused use.id use.classification reason)
  | some (.crash message) => .crashed message
  | some .accept | none => plain

theorem InvalidUse.overrule_map {β γ : Type} (use : InvalidUse) (answer : Option Answer)
    (plain : Outcome β) (f : β → γ) :
    (use.overrule answer plain).map f = use.overrule answer (plain.map f) := by
  rcases answer with _ | _ | _ | _ <;> rfl

/-- A hook that does not object changes nothing. -/
theorem InvalidUse.overrule_of_not_objects {β : Type} {use : InvalidUse} {answer : Option Answer}
    (h : ∀ a ∈ answer, ¬a.Objects) (plain : Outcome β) : use.overrule answer plain = plain := by
  rcases answer with _ | _ | reason | message
  · rfl
  · rfl
  · exact absurd trivial (h (.refuse reason) rfl)
  · exact absurd trivial (h (.crash message) rfl)

/-- The sink after a report: it remembers the report, and the hook, if there is
    one, has heard it. -/
def Sink.told {ρ : Type} (s : Sink ρ) (r : ρ) : Sink ρ where
  hook := s.hook.map (·.hear r)
  last := some r

/-- What becomes of a report, given the answer to it if there is a hook. -/
def Delivery.ofAnswer (answer : Option Answer) : Delivery := answer.elim .unheard Answer.delivery

/-- The answer of the installed hook to a report. -/
def Sink.answer? {ρ : Type} (s : Sink ρ) (r : ρ) : Option Answer :=
  s.hook.map fun hook => hook.answer hook.heard r

theorem Sink.deliver_eq {ρ : Type} (s : Sink ρ) (r : ρ) :
    s.deliver r = (.ofAnswer (s.answer? r), s.told r) := by
  rw [answer?, deliver, told]
  cases s.hook <;> rfl

namespace Tracker

variable {α : Type}

/-- The report on the use of an id, unless it is open. -/
def report? (t : Tracker α) (id : HandleId) (operation : Operation) : Option InvalidUse :=
  match HandleWatch.classify t.table t.quarantine id with
  | (.valid, _) => none
  | (classification, known) => some
    { id
      classification
      generation := known.map (·.record.generation)
      sequence := known.map (·.record.sequence)
      operation }

/-- The answer of the installed hook to a report. -/
def answer? (t : Tracker α) (use : InvalidUse) : Option Answer := t.sink.answer? use

/-- No report is made on an id that is open. -/
theorem report?_eq_none_iff {t : Tracker α} {id : HandleId} {operation : Operation} :
    t.report? id operation = none ↔ id ∈ t.table.ids := by
  rw [← classify_eq_valid_iff, classify, report?]
  rcases HandleWatch.classify t.table t.quarantine id with ⟨_ | _ | _, known⟩ <;> simp

/-- A report says of which id it is, and what that stands for. -/
theorem report?_eq_some {t : Tracker α} {id : HandleId} {operation : Operation} {use : InvalidUse}
    (h : t.report? id operation = some use) :
    use.id = id ∧ use.classification = t.classify id ∧ id ∉ t.table.ids := by
  have hopen : id ∉ t.table.ids := fun hid => by
    rw [report?_eq_none_iff.2 hid] at h
    cases h
  rw [report?] at h
  rw [classify]
  rcases hc : HandleWatch.classify t.table t.quarantine id with ⟨_ | _ | _, known⟩ <;>
    rw [hc] at h <;> cases h <;> exact ⟨rfl, rfl, hopen⟩

/-- A report says what the id was used for. It tells the generation and the number
    of a handle that was closed, and of no other. -/
theorem report?_provenance {t : Tracker α} {id : HandleId} {operation : Operation}
    {use : InvalidUse} (h : t.report? id operation = some use) :
    use.operation = operation ∧ (use.sequence.isSome ↔ use.classification = .useAfterClose) ∧
      (use.sequence = none → use.generation = none) := by
  rw [report?, HandleWatch.classify] at h
  cases htable : t.table.find? id with
  | some found =>
    rw [htable] at h
    cases h
  | none =>
    rw [htable] at h
    cases hquarantine : t.quarantine.find? id with
    | some found =>
      rw [hquarantine] at h
      cases h
      exact ⟨rfl, ⟨fun _ => rfl, fun _ => rfl⟩, by rintro ⟨⟩⟩
    | none =>
      rw [hquarantine] at h
      cases h
      exact ⟨rfl, ⟨by rintro ⟨⟩, by rintro ⟨⟩⟩, fun _ => rfl⟩

/-- What the delivery of a report comes to. -/
theorem deliver_outcome (t : Tracker α) (use : InvalidUse) :
    (t.sink.deliver use).1.outcome use.id use.classification =
      use.overrule (t.answer? use) (.done use.classification) := by
  rw [answer?, Sink.answer?, Sink.deliver]
  cases t.sink.hook with
  | none => rfl
  | some hook =>
    simp only [Option.map_some]
    cases hook.answer hook.heard use <;> rfl

/-- A check comes to what the id stands for, unless the hook objects to the
    report on it. -/
theorem detect_outcome (t : Tracker α) (id : HandleId) (operation : Operation) :
    (t.detect id operation).1 =
      match t.report? id operation with
      | none => .done (t.classify id)
      | some use => use.overrule (t.answer? use) (.done (t.classify id)) := by
  simp only [detect, report?, HandleWatch.detect, classify]
  rcases HandleWatch.classify t.table t.quarantine id with ⟨_ | _ | _, known⟩
  · rfl
  · exact t.deliver_outcome _
  · exact t.deliver_outcome _

theorem deliver_eq (t : Tracker α) (use : InvalidUse) :
    t.sink.deliver use = (.ofAnswer (t.answer? use), t.sink.told use) :=
  t.sink.deliver_eq use

/-- A check of an open id changes nothing. -/
theorem detect_of_mem {t : Tracker α} {id : HandleId} (hid : id ∈ t.table.ids)
    (operation : Operation) : t.detect id operation = (.done .valid, t) := by
  have hvalid : (HandleWatch.classify t.table t.quarantine id).1 = .valid :=
    classify_eq_valid_iff.2 hid
  simp only [detect, HandleWatch.detect]
  rcases hc : HandleWatch.classify t.table t.quarantine id with ⟨_ | _ | _, known⟩
  · rfl
  · cases hc ▸ hvalid
  · cases hc ▸ hvalid

/-- A check of an id that is not open leaves the report on it in the sink, and
    counts the use and the answer. -/
theorem detect_of_report? {t : Tracker α} {id : HandleId} {operation : Operation}
    {use : InvalidUse} (huse : t.report? id operation = some use) :
    t.detect id operation =
      (use.overrule (t.answer? use) (.done (t.classify id)),
        { t with
          sink := t.sink.told use
          tally := (t.tally.countUse use.classification).countDelivery
            (.ofAnswer (t.answer? use)) }) := by
  refine Prod.ext (by rw [detect_outcome, huse]) ?_
  simp only [detect, HandleWatch.detect]
  rw [report?] at huse
  rcases hc : HandleWatch.classify t.table t.quarantine id with ⟨_ | _ | _, known⟩ <;>
    rw [hc] at huse <;> cases huse <;> simp only [t.deliver_eq]

theorem validate_outcome (t : Tracker α) (id : HandleId) :
    (t.validate id).1 = (t.detect id .dereference).1 := by
  rw [validate, detect_outcome, detect_outcome]
  rfl

/-- Closing an id that is not open comes to a check of it. -/
theorem close_outcome_of_not_mem {t : Tracker α} {id : HandleId} (hid : id ∉ t.table.ids) :
    (t.close id).outcome = (t.detect id .close).1.map .rejected := by
  rw [close, OpenTable.remove?_eq_none_iff.2 hid]
  simp only [detect_outcome]
  rfl

theorem close_tracking_of_not_mem {t : Tracker α} {id : HandleId} (hid : id ∉ t.table.ids) :
    (t.close id).after.tracking = t.tracking := by
  rw [close, OpenTable.remove?_eq_none_iff.2 hid]
  rfl

end Tracker

/-! ## Checks -/

namespace Operation

/-- The call that checks an id for an operation. -/
def call {α : Type} (operation : Operation) (id : HandleId) : Tracker.Call α :=
  match operation with
  | dereference => .validate id
  | close => .close id

/-- The value of a check of an id that is not open. -/
def rejection (operation : Operation) (classification : Classification) : Tracker.Reply :=
  match operation with
  | dereference => .classification classification
  | close => .close (.rejected classification)

/-- The counter of such checks. -/
def counter : Operation → Counter
  | dereference => .validations
  | close => .invalidCloses

end Operation

namespace Tracker

variable {α : Type}

/-- A check before a use lets an open id pass. -/
theorem perform_validate_of_mem {t : Tracker α} {id : HandleId} (hid : id ∈ t.table.ids) :
    t.perform (.validate id) =
      { outcome := .done (.classification .valid)
        after := { t with tally := t.tally.add 1 .validations } } := by
  have hcheck : t.validate id = (.done .valid, _) :=
    detect_of_mem (t := { t with tally := t.tally.add 1 .validations }) hid .dereference
  simp only [perform, hcheck]
  rfl

/-- Closing an open id. -/
theorem perform_close_of_remove? {t : Tracker α} {id : HandleId} {h : Handle α}
    {table : OpenTable α} (hr : t.table.remove? id = some (h, table)) :
    t.perform (.close id) =
      { outcome := .done (.close (.closed h.record (t.quarantine.push h).1.records))
        after := { t with
          table
          quarantine := (t.quarantine.push h).2
          tally := countEviction (t.tally.add 1 .closes) (t.quarantine.push h).1 }
        released := (t.quarantine.push h).1.released } := by
  simp only [perform, close, hr]
  rfl

/-- A check of an id that is not open, for either operation, makes a report, and
    the hook hears it. It comes to what the id stands for, unless the hook
    objects. -/
theorem perform_of_report? {t : Tracker α} {id : HandleId} {operation : Operation}
    {use : InvalidUse} (huse : t.report? id operation = some use) :
    t.perform (operation.call id) =
      { outcome := use.overrule (t.answer? use) (.done (operation.rejection (t.classify id)))
        after := { t with
          sink := t.sink.told use
          tally := ((t.tally.add 1 operation.counter).countUse use.classification).countDelivery
            (.ofAnswer (t.answer? use)) } } := by
  have hcheck : detect { t with tally := t.tally.add 1 operation.counter } id operation =
      (use.overrule (t.answer? use) (.done (t.classify id)), _) := detect_of_report? huse
  cases operation with
  | dereference =>
    have hvalidate : t.validate id = _ := hcheck
    simp only [Operation.call, perform, hvalidate, Transition.ofPair, Transition.map,
      InvalidUse.overrule_map]
    rfl
  | close =>
    have hid := (report?_eq_some huse).2.2
    have hclose : t.close id = Transition.map .rejected (.ofPair (detect { t with
        tally := t.tally.add 1 .invalidCloses } id .close)) := by
      rw [close, OpenTable.remove?_eq_none_iff.2 hid]
      rfl
    rw [Operation.counter] at hcheck
    simp only [Operation.call, perform, hclose, hcheck, Transition.ofPair, Transition.map,
      InvalidUse.overrule_map]
    rfl

end Tracker

end HandleWatch
