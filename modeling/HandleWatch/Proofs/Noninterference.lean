import HandleWatch.Proofs.SessionRun
import Mathlib.Data.List.Induction

/-!
# Modes and hooks do not influence tracking

Two runs of a session make the same calls, but with different modes, and with
different hooks that are installed and removed at different times. They track
the same handles throughout, and their calls have the same values, except where
a hook objects to the report on an invalid use:

* `Session.runs_agree`: the cores of the runs are equal, and every further call
  is answered alike (`Session.RepliesMatch`); with reports off no hook is ever
  told anything and no invalid use is counted (`Session.Silent`).
-/

namespace HandleWatch.Session

variable {α : Type}

/-- Whether a call is more than a change of the hook. -/
def Call.tracks : Call α → Bool
  | .install _ | .uninstall => false
  | _ => true

/-- The hook that is installed after some calls, as it was then. -/
def lastHook (calls : List (Call α)) : Option (Hook InvalidUse) :=
  calls.foldl (fun hook call =>
    match call with
    | .install hook => some hook
    | .uninstall => none
    | _ => hook) none

/-! ## Equal cores -/

/-- The core after a run depends on the core before it, and on the calls that are
    more than changes of the hook. -/
theorem run_core (s : Session α) (calls : List (Call α)) :
    (s.run calls).core = (s.core.quiet.run (calls.filter Call.tracks)).core := by
  induction calls using List.reverseRecOn with
  | nil => rfl
  | append_singleton calls call ih =>
    rw [run_concat, List.filter_append]
    by_cases htracks : call.tracks = true
    · rw [List.filter_cons_of_pos htracks, List.filter_nil, run_concat, perform_core,
        perform_core (s.core.quiet.run _), ih]
    · rw [List.filter_cons_of_neg htracks, List.filter_nil, List.append_nil, ← ih]
      cases call with
      | install hook => rfl
      | uninstall => rfl
      | _ => exact absurd rfl htracks

/-! ## Matching replies -/

/-- The hook objects to the report of a call. -/
def Objects (s : Session α) (call : Call α) : Prop :=
  ∃ use answer, s.report? call = some use ∧ s.tracker.answer? use = some answer ∧ answer.Objects

/-- How the outcome of a call in `s` relates to that in `s'`. -/
structure RepliesMatch (s s' : Session α) (call : Call α) : Prop where
  /-- A report is on the id that the call uses, which is not valid, and tells what
      the id stands for in `s'`. -/
  reported : ∀ use, s.report? call = some use →
    (∃ operation, call.use? = some (use.id, operation)) ∧
      use.classification = s'.tracker.classify use.id ∧ use.classification ≠ .valid
  /-- Where no hook objects, the outcomes are the same. -/
  same : ¬s.Objects call → ¬s'.Objects call → (s.perform call).outcome = (s'.perform call).outcome
  /-- A hook that refuses a report fails the call, with the classification. -/
  refused : ∀ use reason, s.report? call = some use →
    s.tracker.answer? use = some (.refuse reason) →
    (s.perform call).outcome = .failed (.hookRefused use.id use.classification reason)
  /-- A hook that crashes crashes the call. -/
  crashed : ∀ use message, s.report? call = some use →
    s.tracker.answer? use = some (.crash message) → (s.perform call).outcome = .crashed message
  /-- Where only the hook of `s` objects, the call in `s'` is rejected with the
      same classification. -/
  rejected : ∀ use, s.report? call = some use → s.Objects call → ¬s'.Objects call →
    (s'.perform call).outcome = .done (call.rejection use.classification)

/-- A call to which no hook objects comes to what it does with reports off. -/
theorem overruled_of_not_objects {s : Session α} {call : Call α} (h : ¬s.Objects call) {β : Type}
    (plain : Outcome β) : s.overruled call plain = plain := by
  unfold overruled
  split
  · next use huse =>
    exact InvalidUse.overrule_of_not_objects
      (fun answer hanswer hobjects => h ⟨use, answer, huse, hanswer, hobjects⟩) plain
  · rfl

/-- What a call that would be reported comes to if nobody objects. -/
theorem quiet_perform_of_report? {s : Session α} {call : Call α} {use : InvalidUse}
    (h : s.report? call = some use) :
    (s.core.quiet.perform call).outcome = .done (call.rejection use.classification) := by
  obtain ⟨operation, hcall, hid, hclassification⟩ := report?_eq_some h
  rw [hclassification]
  exact quiet_perform_of_not_mem hcall hid

/-- Sessions with one core reply alike. -/
theorem repliesMatch_of_core_eq {s s' : Session α} (hcore : s.core = s'.core) (call : Call α) :
    RepliesMatch s s' call where
  reported use huse := by
    obtain ⟨operation, hcall, hid, hclassification⟩ := report?_eq_some huse
    have hclassify : s.tracker.classify use.id = s'.tracker.classify use.id :=
      congrArg (fun c : Core α => c.quiet.tracker.classify use.id) hcore
    refine ⟨⟨operation, hcall⟩, hclassification.trans hclassify, ?_⟩
    rw [hclassification, ne_eq, Tracker.classify_eq_valid_iff]
    exact hid
  same h h' := by
    rw [perform_outcome s, perform_outcome s', overruled_of_not_objects h,
      overruled_of_not_objects h', hcore]
  refused use reason huse hanswer := by
    rw [perform_outcome, overruled, huse]
    simp only [hanswer, InvalidUse.overrule]
  crashed use message huse hanswer := by
    rw [perform_outcome, overruled, huse]
    simp only [hanswer, InvalidUse.overrule]
  rejected use huse _ h' := by
    rw [perform_outcome, overruled_of_not_objects h', ← hcore, quiet_perform_of_report? huse]

/-! ## Silence -/

/-- No invalid use was counted, and none was reported: the hook that is installed
    is as it was given. -/
structure Silent (s : Session α) (hook : Option (Hook InvalidUse)) : Prop where
  mode : s.mode = .off
  hook : s.tracker.sink.hook = hook
  last : s.tracker.sink.last = none
  validations : s.tracker.tally.validations = 0
  invalidCloses : s.tracker.tally.invalidCloses = 0
  useAfterClose : s.tracker.tally.useAfterClose = 0
  unknownHandles : s.tracker.tally.unknownHandles = 0
  reportsDelivered : s.tracker.tally.reportsDelivered = 0
  callbackFailures : s.tracker.tally.callbackFailures = 0

/-- Opening a handle is not reported. -/
theorem Silent.openHandle {s : Session α} {hook : Option (Hook InvalidUse)} (h : s.Silent hook)
    (x : Referent α) : (s.openHandle x).after.Silent hook := by
  simp only [Session.openHandle, Tracker.register]
  cases s.tracker.table.insert? s.ids.allocate.1 x s.tracker.generation with
  | some opened => exact { h with }
  | none => cases x.failure <;> exact { h with }

theorem Silent.validate {s : Session α} {hook : Option (Hook InvalidUse)} (h : s.Silent hook)
    (id : HandleId) : (s.validate id).2.Silent hook := by
  rw [Session.validate, h.mode]
  exact h

theorem Silent.duplicate {s : Session α} {hook : Option (Hook InvalidUse)} (h : s.Silent hook)
    (id : HandleId) : (s.duplicate id).after.Silent hook := by
  have hafter : (s.dereference id).2.Silent hook := h.validate id
  rw [Session.duplicate]
  rcases hstep : s.dereference id with ⟨(_ | x) | _ | _, after⟩ <;> rw [hstep] at hafter
  · exact hafter
  · exact hafter.openHandle x
  · exact hafter
  · exact hafter

/-- Closing an id that is not open is not reported either. -/
theorem Silent.close {s : Session α} {hook : Option (Hook InvalidUse)} (h : s.Silent hook)
    (id : HandleId) : (s.close id).after.Silent hook := by
  obtain ⟨mode, tracker, ids⟩ := s
  obtain rfl : mode = .off := h.mode
  rw [Session.close]
  cases hr : tracker.table.remove? id with
  | none =>
    have hhas : ¬tracker.table.has id = true := fun hhas =>
      OpenTable.remove?_eq_none_iff.1 hr (OpenTable.has_iff.1 hhas)
    rw [if_pos (by simp [hhas, Mode.validates])]
    exact h
  | some found =>
    have hhas := OpenTable.has_iff.2 (OpenTable.mem_ids_of_remove? hr)
    rw [if_neg (by simp [hhas]), Tracker.close, hr]
    exact { h with }

/-- With reports off, a call changes the hook at most. -/
theorem Silent.perform {s : Session α} {calls : List (Call α)} (h : s.Silent (lastHook calls))
    (call : Call α) : (s.perform call).after.Silent (lastHook (calls ++ [call])) := by
  rw [lastHook, List.foldl_append]
  cases call with
  | openHandle x => exact h.openHandle x
  | close id => exact h.close id
  | dereference id => exact h.validate id
  | validate id => exact h.validate id
  | duplicate id => exact h.duplicate id
  | install hook => exact { h with hook := rfl }
  | uninstall => exact { h with hook := rfl }
  | newGeneration => exact { h with }
  | resize size => exact { h with }
  | openRecords _ => exact h
  | closedRecords => exact h
  | capacity => exact h

/-- With reports off, no hook hears anything in a run. -/
theorem silent_run (capacity : Nat) (calls : List (Call α)) :
    ((ofSettings ⟨.off, capacity⟩ : Session α).run calls).Silent (lastHook calls) := by
  induction calls using List.reverseRecOn with
  | nil => exact ⟨rfl, rfl, rfl, rfl, rfl, rfl, rfl, rfl, rfl⟩
  | append_singleton calls call ih =>
    rw [run_concat]
    exact ih.perform call

/-! ## Two runs -/

/-- Two runs from one capacity that differ in the mode and in the changes of the
    hook track the same handles under the same ids, and whatever is called next
    is answered alike in both, unless a hook objects. A run with reports off
    tells no hook anything and counts no use. -/
theorem runs_agree (capacity : Nat) (mode mode' : Mode) (calls calls' : List (Call α))
    (same : calls.filter Call.tracks = calls'.filter Call.tracks) :
    let s := (ofSettings ⟨mode, capacity⟩ : Session α).run calls
    let s' := (ofSettings ⟨mode', capacity⟩ : Session α).run calls'
    s.core = s'.core ∧
    (∀ call, RepliesMatch s s' call ∧ RepliesMatch s' s call) ∧
    (mode = .off → s.Silent (lastHook calls)) ∧
    (mode' = .off → s'.Silent (lastHook calls')) := by
  intro s s'
  have hcore : s.core = s'.core :=
    calc s.core
      _ = ((ofSettings ⟨mode, capacity⟩ : Session α).core.quiet.run
            (calls.filter Call.tracks)).core := run_core _ _
      _ = ((ofSettings ⟨mode', capacity⟩ : Session α).core.quiet.run
            (calls'.filter Call.tracks)).core := by rw [same]; rfl
      _ = s'.core := (run_core _ _).symm
  refine ⟨hcore, fun call => ⟨repliesMatch_of_core_eq hcore call,
    repliesMatch_of_core_eq hcore.symm call⟩, ?_, ?_⟩
  · rintro rfl
    exact silent_run capacity calls
  · rintro rfl
    exact silent_run capacity calls'

/-- A close of a closed id that a hook refuses in one run, and that is rejected
    in the other, where reports are off. -/
theorem runs_agree_refused_close :
    let refusing : Hook InvalidUse := { answer := fun _ _ => .refuse "no" }
    let calls : List (Call Nat) := [.openHandle ⟨7, none⟩, .install refusing, .close ⟨1⟩]
    let calls' : List (Call Nat) := [.openHandle ⟨7, none⟩, .close ⟨1⟩]
    let s := (ofSettings ⟨.report, 1⟩).run calls
    let s' := (ofSettings ⟨.off, 1⟩).run calls'
    calls.filter Call.tracks = calls'.filter Call.tracks ∧ s.core = s'.core ∧
      (s.perform (.close ⟨1⟩)).outcome = .failed (.hookRefused ⟨1⟩ .useAfterClose "no") ∧
      (s'.perform (.close ⟨1⟩)).outcome = .done (.close (.rejected .useAfterClose)) ∧
      s'.Silent none := by
  intro refusing calls calls' s s'
  obtain ⟨hcore, hreplies, -, hsilent⟩ := runs_agree 1 .report .off calls calls' rfl
  let use : InvalidUse := ⟨⟨1⟩, .useAfterClose, some 0, some 0, .close⟩
  have hreport : s.report? (.close ⟨1⟩) = some use := rfl
  have hobjects : s.Objects (.close ⟨1⟩) := ⟨use, .refuse "no", hreport, rfl, trivial⟩
  have hquiet : ¬s'.Objects (.close ⟨1⟩) := by
    rintro ⟨use, answer, huse, -⟩
    cases huse
  exact ⟨rfl, hcore, (hreplies _).1.refused use "no" hreport rfl,
    (hreplies _).1.rejected use hreport hobjects hquiet, hsilent rfl⟩

end HandleWatch.Session
