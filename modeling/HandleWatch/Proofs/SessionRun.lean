import HandleWatch.Proofs.Reporting
import HandleWatch.Session

/-!
# Runs of a session

A run of a session is a sequence of its calls, in any order, with any hooks and
any referents (`Session.Call`, `Session.run`). What a session tracks is its
`Session.Core`: the handles and the pool of ids. A call acts on the core as it
would with reports off and no hook (`Session.Core.quiet`), and its outcome is
the same too unless a hook objects to the report that the call makes:

* `Session.perform_core`: the core after a call does not depend on the rest;
* `Session.perform_outcome`: the outcome depends on it by objections only.
-/

namespace HandleWatch.Session

variable {α : Type}

/-! ## Calls -/

/-- The calls of a session. -/
inductive Call (α : Type) where
  | openHandle (referent : Referent α)
  | close (id : HandleId)
  | dereference (id : HandleId)
  | validate (id : HandleId)
  | duplicate (id : HandleId)
  | newGeneration
  | resize (size : Int)
  | install (hook : Hook InvalidUse)
  | uninstall
  | openRecords (generation : Generation)
  | closedRecords
  | capacity

/-- The value of a call. -/
inductive Reply (α : Type) where
  | opened (id : HandleId)
  | close (outcome : CloseOutcome)
  | referent (referent : Option (Referent α))
  | classification (classification : Classification)
  | duplicated (id : Option HandleId)
  | generation (generation : Generation)
  | records (records : List Record)
  | capacity (capacity : Nat)
  | unit

/-- One call. -/
def perform (s : Session α) : Call α → Transition (Session α) α (Reply α)
  | .openHandle x => (s.openHandle x).map .opened
  | .close id => (s.close id).map .close
  | .dereference id => (Transition.ofPair (s.dereference id)).map .referent
  | .validate id => (Transition.ofPair (s.validate id)).map .classification
  | .duplicate id => (s.duplicate id).map .duplicated
  | .newGeneration => { outcome := .done (.generation s.newGeneration.1), after := s.newGeneration.2 }
  | .resize size => (s.resize size).map fun _ => .unit
  | .install hook => { outcome := .done .unit, after := s.install hook }
  | .uninstall => { outcome := .done .unit, after := s.uninstall }
  | .openRecords generation => { outcome := .done (.records (s.openRecords generation)), after := s }
  | .closedRecords => { outcome := .done (.records s.closedRecords), after := s }
  | .capacity => { outcome := .done (.capacity s.tracker.quarantine.capacity), after := s }

/-- The session after some calls. -/
def run (s : Session α) (calls : List (Call α)) : Session α :=
  calls.foldl (fun s call => (s.perform call).after) s

@[simp]
theorem run_concat (s : Session α) (calls : List (Call α)) (call : Call α) :
    s.run (calls ++ [call]) = ((s.run calls).perform call).after := by
  rw [run, List.foldl_append]
  rfl

/-- The id that a call uses, and what for. -/
def Call.use? : Call α → Option (HandleId × Operation)
  | .close id => some (id, .close)
  | .dereference id | .validate id | .duplicate id => some (id, .dereference)
  | _ => none

/-- The value of a call that uses an id which stands for no open handle. -/
def Call.rejection (classification : Classification) : Call α → Reply α
  | .close _ => .close (.rejected classification)
  | .dereference _ => .referent none
  | .duplicate _ => .duplicated none
  | .validate _ => .classification classification
  | _ => .unit

/-- The report that a call makes. -/
def report? (s : Session α) (call : Call α) : Option InvalidUse :=
  if s.mode.validates then call.use?.bind fun (id, operation) => s.tracker.report? id operation
  else none

/-- The call of a report uses an id that is not open. -/
theorem report?_eq_some {s : Session α} {call : Call α} {use : InvalidUse}
    (h : s.report? call = some use) :
    ∃ operation, call.use? = some (use.id, operation) ∧ use.id ∉ s.tracker.table.ids ∧
      use.classification = s.tracker.classify use.id := by
  unfold report? at h
  split at h
  · obtain ⟨⟨id, operation⟩, hcall, huse⟩ := Option.bind_eq_some_iff.1 h
    obtain ⟨rfl, hclassification, hid⟩ := Tracker.report?_eq_some huse
    exact ⟨operation, hcall, hid, hclassification⟩
  · cases h

/-- What a call with the outcome `plain` comes to, given the answer of the
    installed hook to its report. -/
def overruled (s : Session α) (call : Call α) {β : Type} (plain : Outcome β) : Outcome β :=
  match s.report? call with
  | some use => use.overrule (s.tracker.answer? use) plain
  | none => plain

theorem overruled_map (s : Session α) (call : Call α) {β γ : Type} (plain : Outcome β)
    (f : β → γ) : (s.overruled call plain).map f = s.overruled call (plain.map f) := by
  unfold overruled
  split
  · exact InvalidUse.overrule_map _ _ _ _
  · rfl

/-- Whatever a hook answers, a call keeps its outcome, or is refused, or crashes. -/
theorem overruled_cases (s : Session α) (call : Call α) {β : Type} (plain : Outcome β) :
    s.overruled call plain = plain ∨
      (∃ id classification reason,
        s.overruled call plain = .failed (.hookRefused id classification reason)) ∨
      ∃ message, s.overruled call plain = .crashed message := by
  unfold overruled
  split
  · next use _ =>
    rcases s.tracker.answer? use with _ | _ | reason | message
    · exact .inl rfl
    · exact .inl rfl
    · exact .inr (.inl ⟨_, _, reason, rfl⟩)
    · exact .inr (.inr ⟨message, rfl⟩)
  · exact .inl rfl

/-! ## Cores -/

/-- What a session tracks: the session without its mode, hooks and counters. -/
structure Core (α : Type) where
  tracking : Tracking α
  ids : IdPool

/-- The core of a session. -/
def core (s : Session α) : Core α := ⟨s.tracker.tracking, s.ids⟩

/-- A session with reports off, no hook and nothing counted. -/
def Core.quiet (c : Core α) : Session α where
  mode := .off
  tracker :=
    { generation := c.tracking.generation
      table := c.tracking.table
      quarantine := c.tracking.quarantine
      builders := { history := 0 } }
  ids := c.ids

@[simp]
theorem core_quiet (c : Core α) : c.quiet.core = c := rfl

/-! ## What a call depends on -/

theorem openHandle_core (s : Session α) (x : Referent α) :
    (s.openHandle x).after.core = (s.core.quiet.openHandle x).after.core := by
  simp only [openHandle, Tracker.register, core, Core.quiet, Tracker.tracking]
  cases s.tracker.table.insert? s.ids.allocate.1 x s.tracker.generation with
  | some opened => rfl
  | none => cases x.failure <;> rfl

/-- To open a handle comes to what it does with reports off. -/
theorem openHandle_outcome (s : Session α) (x : Referent α) :
    (s.openHandle x).outcome = (s.core.quiet.openHandle x).outcome := by
  simp only [openHandle, Tracker.register, core, Core.quiet, Tracker.tracking]
  cases s.tracker.table.insert? s.ids.allocate.1 x s.tracker.generation with
  | some opened => rfl
  | none => cases x.failure <;> rfl

@[simp]
theorem validate_core (s : Session α) (id : HandleId) : (s.validate id).2.core = s.core := by
  unfold validate
  split <;> rfl

/-- With reports on, a call comes to the outcome of a check of its id. -/
theorem overruled_of_validates {s : Session α} (hmode : s.mode.validates = true) {call : Call α}
    {id : HandleId} {operation : Operation} (hcall : call.use? = some (id, operation)) :
    s.overruled call (.done (s.tracker.classify id)) = (s.tracker.detect id operation).1 := by
  rw [overruled, report?, if_pos hmode, hcall, Option.bind_some, Tracker.detect_outcome]
  split <;> simp_all

theorem overruled_of_not_validates {s : Session α} (hmode : ¬s.mode.validates = true)
    (call : Call α) {β : Type} (plain : Outcome β) : s.overruled call plain = plain := by
  rw [overruled, report?, if_neg hmode]

theorem overruled_quiet (c : Core α) (call : Call α) {β : Type} (plain : Outcome β) :
    c.quiet.overruled call plain = plain := by
  have hmode : ¬c.quiet.mode.validates = true := Bool.false_ne_true
  exact overruled_of_not_validates hmode call plain

/-- A call that uses no id makes no report. -/
theorem overruled_of_use?_eq_none (s : Session α) {call : Call α} (hcall : call.use? = none)
    {β : Type} (plain : Outcome β) : s.overruled call plain = plain := by
  rw [overruled, report?, hcall, Option.bind_none, ite_self]

/-- A call that uses an open id makes none either. -/
theorem overruled_of_mem {s : Session α} {call : Call α} {id : HandleId} {operation : Operation}
    (hcall : call.use? = some (id, operation)) (hid : id ∈ s.tracker.table.ids) {β : Type}
    (plain : Outcome β) : s.overruled call plain = plain := by
  have hnone : s.report? call = none := by
    rw [report?, hcall]
    exact (if_congr Iff.rfl (Tracker.report?_eq_none_iff.2 hid) rfl).trans (ite_self _)
  rw [overruled, hnone]

/-- A check comes to the classification, unless the hook objects. -/
theorem validate_outcome (s : Session α) (id : HandleId) :
    (s.validate id).1 = s.overruled (.validate id) (.done (s.tracker.classify id)) := by
  unfold validate
  split
  · next hmode =>
    rw [overruled_of_validates hmode rfl]
    exact s.tracker.validate_outcome id
  · next hmode => exact (overruled_of_not_validates hmode _ _).symm

theorem dereference_core (s : Session α) (id : HandleId) : (s.dereference id).2.core = s.core :=
  s.validate_core id

/-- A dereference comes to what the id refers to, unless the hook objects. -/
theorem dereference_outcome (s : Session α) (id : HandleId) :
    (s.dereference id).1 = s.overruled (.dereference id) (.done (s.tracker.referent? id)) := by
  have hreferent : (s.validate id).2.tracker.referent? id = s.tracker.referent? id :=
    congrArg (fun c : Core α => (c.tracking.table.find? id).map Handle.referent)
      (s.validate_core id)
  calc (s.dereference id).1
    _ = (s.validate id).1.map fun _ => (s.validate id).2.tracker.referent? id := rfl
    _ = s.overruled (.dereference id) (.done (s.tracker.referent? id)) := by
      rw [validate_outcome, hreferent, overruled_map]
      rfl

/-- Closing an open id: the ids of the handles that leave the quarantine for its
    handle go back to the pool. -/
theorem close_of_remove? {s : Session α} {id : HandleId} {h : Handle α} {table : OpenTable α}
    (hr : s.tracker.table.remove? id = some (h, table)) :
    (s.close id).outcome = .done (.closed h.record (s.tracker.quarantine.push h).1.records) ∧
      (s.close id).after.core =
        { tracking :=
            { generation := s.tracker.generation
              table
              quarantine := (s.tracker.quarantine.push h).2 }
          ids := s.ids.recycle (s.tracker.quarantine.push h).1.records } := by
  have hhas := OpenTable.has_iff.2 (OpenTable.mem_ids_of_remove? hr)
  rw [close, if_neg (by simp [hhas]), Tracker.close, hr]
  exact ⟨rfl, rfl⟩

/-- Closing an id that is not open. -/
theorem close_of_not_mem {s : Session α} {id : HandleId} (hid : id ∉ s.tracker.table.ids) :
    (s.close id).outcome = s.overruled (.close id) (.done (.rejected (s.tracker.classify id))) ∧
      (s.close id).after.core = s.core := by
  by_cases hmode : s.mode.validates = true
  · have houtcome : (s.tracker.close id).outcome =
        s.overruled (.close id) (.done (.rejected (s.tracker.classify id))) := by
      have hcheck : s.overruled (.close id) (.done (s.tracker.classify id)) = _ :=
        overruled_of_validates hmode rfl
      rw [Tracker.close_outcome_of_not_mem hid, ← hcheck, overruled_map]
      rfl
    rw [close, if_neg (by simp [hmode])]
    refine ⟨houtcome, ?_⟩
    simp only [core, Tracker.close_tracking_of_not_mem hid, houtcome]
    -- Nothing goes back to the pool, whatever the hook makes of the report.
    rcases s.overruled_cases (.close id) (.done (CloseOutcome.rejected (s.tracker.classify id)))
      with h | ⟨_, _, _, h⟩ | ⟨_, h⟩ <;> rw [h]
    rfl
  · have hhas : ¬s.tracker.table.has id = true := fun h => hid (OpenTable.has_iff.1 h)
    rw [overruled_of_not_validates hmode, close, if_pos (by simp [hmode, hhas])]
    exact ⟨rfl, rfl⟩

theorem close_core (s : Session α) (id : HandleId) :
    (s.close id).after.core = (s.core.quiet.close id).after.core := by
  cases hr : s.tracker.table.remove? id with
  | none =>
    have hid := OpenTable.remove?_eq_none_iff.1 hr
    rw [(close_of_not_mem hid).2, (close_of_not_mem (s := s.core.quiet) hid).2, core_quiet]
  | some found =>
    rw [(close_of_remove? hr).2, (close_of_remove? (s := s.core.quiet) hr).2]
    rfl

/-- A close comes to what it does with reports off, unless the hook objects. -/
theorem close_outcome (s : Session α) (id : HandleId) :
    (s.close id).outcome = s.overruled (.close id) (s.core.quiet.close id).outcome := by
  cases hr : s.tracker.table.remove? id with
  | none =>
    have hid := OpenTable.remove?_eq_none_iff.1 hr
    rw [(close_of_not_mem hid).1, (close_of_not_mem (s := s.core.quiet) hid).1, overruled_quiet]
    rfl
  | some found =>
    rw [(close_of_remove? hr).1, (close_of_remove? (s := s.core.quiet) hr).1,
      overruled_of_mem rfl (OpenTable.mem_ids_of_remove? hr)]
    rfl

/-- A referent is found if its id is open. -/
theorem referent?_eq_none_iff {t : Tracker α} {id : HandleId} :
    t.referent? id = none ↔ id ∉ t.table.ids := by
  rw [Tracker.referent?, Option.map_eq_none_iff, OpenTable.find?_eq_none_iff]

theorem mem_of_referent? {t : Tracker α} {id : HandleId} {x : Referent α}
    (h : t.referent? id = some x) : id ∈ t.table.ids := by
  by_contra hid
  rw [referent?_eq_none_iff.2 hid] at h
  cases h

/-- A second handle for the referent of an open id. -/
theorem duplicate_of_referent? {s : Session α} {id : HandleId} {x : Referent α}
    (hx : s.tracker.referent? id = some x) :
    (s.duplicate id).outcome = (s.core.quiet.openHandle x).outcome.map some ∧
      (s.duplicate id).after.core = (s.core.quiet.openHandle x).after.core := by
  have hid := mem_of_referent? hx
  have hdone : s.dereference id = (.done (some x), (s.dereference id).2) := by
    refine Prod.ext ?_ rfl
    rw [dereference_outcome, overruled_of_mem rfl hid, hx]
  rw [duplicate, hdone]
  refine ⟨?_, ?_⟩
  · exact congrArg (Outcome.map some)
      ((openHandle_outcome _ x).trans (by rw [s.dereference_core id]))
  · exact (openHandle_core _ x).trans (by rw [s.dereference_core id])

/-- Nothing is opened for an id that is not open. -/
theorem duplicate_of_not_mem {s : Session α} {id : HandleId} (hid : id ∉ s.tracker.table.ids) :
    (s.duplicate id).outcome = s.overruled (.duplicate id) (.done none) ∧
      (s.duplicate id).after.core = s.core := by
  have houtcome := s.dereference_outcome id
  have hcore := s.dereference_core id
  rw [referent?_eq_none_iff.2 hid] at houtcome
  have hplain : (s.dereference id).1.map (fun _ => none) =
      s.overruled (.duplicate id) (.done (none : Option HandleId)) := by
    rw [houtcome, overruled_map]
    rfl
  have hcases := s.overruled_cases (.dereference id) (.done (none : Option (Referent α)))
  rw [← houtcome] at hcases
  rcases hstep : s.dereference id with ⟨outcome, after⟩
  rw [hstep] at hcore hplain hcases
  rw [duplicate, hstep]
  rcases hcases with rfl | ⟨_, _, _, rfl⟩ | ⟨_, rfl⟩ <;> exact ⟨hplain, hcore⟩

/-- The core after a call depends on the core before it only. -/
theorem perform_core (s : Session α) (call : Call α) :
    (s.perform call).after.core = (s.core.quiet.perform call).after.core := by
  cases call with
  | openHandle x => exact s.openHandle_core x
  | close id => exact s.close_core id
  | dereference id => exact s.dereference_core id
  | validate id => exact s.validate_core id
  | duplicate id =>
    cases hx : s.tracker.referent? id with
    | none =>
      have hid := referent?_eq_none_iff.1 hx
      exact (duplicate_of_not_mem hid).2.trans
        (duplicate_of_not_mem (s := s.core.quiet) hid).2.symm
    | some x =>
      exact (duplicate_of_referent? hx).2.trans
        (duplicate_of_referent? (s := s.core.quiet) hx).2.symm
  | _ => rfl

/-- The outcome of a call depends on the core, unless a hook objects to its
    report. -/
theorem perform_outcome (s : Session α) (call : Call α) :
    (s.perform call).outcome = s.overruled call (s.core.quiet.perform call).outcome := by
  -- The calls that use an id may be overruled. To open a handle makes no report, and neither
  -- do the others.
  cases call with
  | openHandle x =>
    rw [overruled_of_use?_eq_none s rfl]
    exact congrArg (Outcome.map Reply.opened) (s.openHandle_outcome x)
  | close id =>
    exact (congrArg (Outcome.map Reply.close) (s.close_outcome id)).trans (s.overruled_map _ _ _)
  | dereference id =>
    refine (congrArg (Outcome.map Reply.referent) (s.dereference_outcome id)).trans ?_
    rw [overruled_map]
    rfl
  | validate id =>
    refine (congrArg (Outcome.map Reply.classification) (s.validate_outcome id)).trans ?_
    rw [overruled_map]
    rfl
  | duplicate id =>
    cases hx : s.tracker.referent? id with
    | none =>
      have hid := referent?_eq_none_iff.1 hx
      refine (congrArg (Outcome.map Reply.duplicated) (duplicate_of_not_mem hid).1).trans ?_
      rw [overruled_map]
      refine congrArg _ (congrArg (Outcome.map Reply.duplicated) ?_)
      rw [(duplicate_of_not_mem (s := s.core.quiet) hid).1, overruled_quiet]
    | some x =>
      rw [overruled_of_mem rfl (mem_of_referent? hx)]
      exact congrArg (Outcome.map Reply.duplicated) ((duplicate_of_referent? hx).1.trans
        (duplicate_of_referent? (s := s.core.quiet) hx).1.symm)
  | _ =>
    rw [overruled_of_use?_eq_none s rfl]
    rfl

/-- A call that uses an id which is not open is rejected, if nobody objects. -/
theorem quiet_perform_of_not_mem {c : Core α} {call : Call α} {id : HandleId}
    {operation : Operation} (hcall : call.use? = some (id, operation))
    (hid : id ∉ c.tracking.table.ids) :
    (c.quiet.perform call).outcome = .done (call.rejection (c.quiet.tracker.classify id)) := by
  cases call with
  | close _ =>
    cases hcall
    exact congrArg (Outcome.map Reply.close)
      ((close_of_not_mem (s := c.quiet) hid).1.trans (overruled_quiet _ _ _))
  | dereference _ =>
    cases hcall
    have hnone : c.quiet.tracker.referent? id = none := referent?_eq_none_iff.2 hid
    have houtcome := c.quiet.dereference_outcome id
    rw [hnone, overruled_quiet] at houtcome
    exact congrArg (Outcome.map Reply.referent) houtcome
  | validate _ =>
    cases hcall
    exact congrArg (Outcome.map Reply.classification)
      ((c.quiet.validate_outcome id).trans (overruled_quiet _ _ _))
  | duplicate _ =>
    cases hcall
    exact congrArg (Outcome.map Reply.duplicated)
      ((duplicate_of_not_mem (s := c.quiet) hid).1.trans (overruled_quiet _ _ _))
  | _ => cases hcall

end HandleWatch.Session
