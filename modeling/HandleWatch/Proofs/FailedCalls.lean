import HandleWatch.Proofs.BuilderProtocol

/-!
# Failed calls change nothing

A call of a tracker may fail at once, as when a handle is opened under an id that is
open already, or late: the use of an id that is not open is counted, and the report on
it remembered, before the hook refuses it or crashes. Either way nothing that is
tracked has changed by then, which is all of the tracker but its counters and its sinks
(`Tracker.bare`).

* `Tracker.kept_of_failed`: a call that does not succeed leaves the tracker as it was
  but for the counters, the last reports and what the hooks have heard
  (`Tracker.Kept`);
* `Tracker.perform_bare`: what a call does to all that is tracked depends on nothing
  else, so a failed call does not show in what the later ones do;
* `Tracker.failed_calls_change_nothing`: this holds after every run. A call that failed
  comes to the same when it is tried again without the hook (`Tracker.TriedAgain`), and
  a run leaves what those of its calls that succeeded would have left.
-/

namespace HandleWatch

/-- The same hook is installed, or none: what it has heard may differ. -/
def Sink.SameHook {ρ : Type} (s s' : Sink ρ) : Prop :=
  s'.hook.map Hook.answer = s.hook.map Hook.answer

theorem Sink.sameHook_told {ρ : Type} (s : Sink ρ) (r : ρ) : s.SameHook (s.told r) := by
  rw [SameHook, told, Option.map_map]
  rfl

/-- The builders with no hook and no report. -/
def Builders.bare (b : Builders) : Builders := { b with sink := {} }

/-- What a call does to the builders depends on nothing else. -/
theorem Builders.perform_bare (b : Builders) (call : Call) :
    (b.perform call).2.bare = (b.bare.perform call).2.bare := by
  -- A rejected call only tells the hook, and that is what is left out.
  have hrejected : ∀ id operation, call.use? = some (id, operation) → b.find? id = none →
      (b.perform call).2.bare = (b.bare.perform call).2.bare := by
    intro id operation uses absent
    rw [perform_of_absent uses absent, perform_of_absent (b := b.bare) uses absent]
    rfl
  have hfinished : ∀ id ended, call.finish? = some (id, ended) →
      (b.perform call).2.bare = (b.bare.perform call).2.bare := by
    intro id ended ends
    cases hfound : b.find? id with
    | some o =>
      rw [perform_of_finish? ends hfound, perform_of_finish? (b := b.bare) ends hfound]
      rfl
    | none =>
      obtain ⟨operation, uses⟩ := Call.use?_of_finish? ends
      exact hrejected id operation uses hfound
  cases call with
  | start id kind size =>
    cases hfound : b.find? id with
    | some o =>
      rw [perform_start_of_found hfound, perform_start_of_found (b := b.bare) hfound]
      rfl
    | none =>
      rw [perform_start_of_absent hfound, perform_start_of_absent (b := b.bare) hfound]
      rfl
  | setItem id index =>
    cases hfound : b.find? id with
    | some o =>
      rw [perform_setItem hfound, perform_setItem (b := b.bare) hfound]
      rfl
    | none => exact hrejected id .setItem rfl hfound
  | build id => exact hfinished id .built rfl
  | cancel id => exact hfinished id .cancelled rfl
  | _ => rfl

namespace Tracker

variable {α : Type}

/-! ## Success and failure -/

/-- Whether a value says that the call did what it was to do. -/
def Reply.isSuccess : Reply → Bool
  | .close (.rejected _) => false
  | .classification c => c = .valid
  | .builders (.flag value) => value
  | _ => true

/-- Whether a call did what it was to do. -/
def isSuccess : Outcome Reply → Bool
  | .done reply => reply.isSuccess
  | .failed _ | .crashed _ => false

/-- The classification of the used id that an outcome tells. -/
def classification? : Outcome Reply → Option Classification
  | .done (.classification c) => some c
  | .done (.close (.rejected c)) => some c
  | .failed (.hookRefused _ c _) => some c
  | _ => none

/-- The calls of a run that succeeded in it. -/
def successes (t : Tracker α) : List (Call α) → List (Call α)
  | [] => []
  | call :: calls =>
    if isSuccess (t.perform call).outcome then call :: (t.perform call).after.successes calls
    else (t.perform call).after.successes calls

/-! ## What is tracked -/

/-- The tracker with nothing counted, no hooks and no reports. -/
def bare (t : Tracker α) : Tracker α :=
  { t with sink := {}, tally := {}, builders := t.builders.bare }

/-- `t'` is `t` but for the counters, the last reports and what the hooks have heard. -/
structure Kept (t t' : Tracker α) : Prop where
  bare : t'.bare = t.bare
  sink : t.sink.SameHook t'.sink
  builders : t.builders.sink.SameHook t'.builders.sink

/-- A report leaves everything in its place but the counters and what was heard. -/
theorem kept_told (t : Tracker α) (use : InvalidUse) (tally : Tally) :
    t.Kept { t with sink := t.sink.told use, tally } where
  bare := rfl
  sink := t.sink.sameHook_told use
  builders := rfl

/-! ## Calls that fail -/

/-- The opening of a handle fails if its id is open, and then only counts. -/
theorem perform_register_of_mem {t : Tracker α} {id : HandleId} (hid : id ∈ t.table.ids)
    (x : Referent α) :
    ∃ tally, t.perform (.register id x) =
      { outcome := x.releaseThen (.failed (.duplicateHandle id))
        after := { t with tally }
        released := [x] } := by
  have hnone : t.table.insert? id x t.generation = none := by
    rw [OpenTable.insert?, OpenTable.has_iff.2 hid, if_pos rfl]
  simp only [perform, register, hnone, Transition.map, Referent.releaseThen]
  cases x.failure with
  | some message => exact ⟨t.tally, rfl⟩
  | none => exact ⟨_, rfl⟩

/-- A registration fails only because its id is taken. -/
theorem mem_of_register_failed {t : Tracker α} {id : HandleId} {x : Referent α}
    (h : isSuccess (t.perform (.register id x)).outcome = false) : id ∈ t.table.ids := by
  by_contra hid
  have hhas : ¬t.table.has id = true := fun h => hid (OpenTable.has_iff.1 h)
  simp only [perform, register, OpenTable.insert?, if_neg hhas] at h
  cases h

/-- The check of an id fails only if the id is not open, and then a report is made. -/
theorem report?_of_check_failed {t : Tracker α} {id : HandleId} {operation : Operation}
    (h : isSuccess (t.perform (operation.call id)).outcome = false) :
    ∃ use, t.report? id operation = some use := by
  rw [← Option.ne_none_iff_exists', ne_eq, report?_eq_none_iff]
  intro hid
  cases operation with
  | dereference =>
    rw [Operation.call, perform_validate_of_mem hid] at h
    cases h
  | close =>
    cases hr : t.table.remove? id with
    | none => exact OpenTable.remove?_eq_none_iff.1 hr hid
    | some found =>
      rw [Operation.call, perform_close_of_remove? hr] at h
      cases h

/-- Builders are kept, and a hook may have heard a report. -/
theorem kept_of_builders_failed {t : Tracker α} {call : Builders.Call}
    (h : isSuccess (t.perform (.builders call)).outcome = false) :
    t.Kept (t.perform (.builders call)).after := by
  have hunit : (t.builders.perform call).1 ≠ .done .unit := fun hdone => by
    rw [perform, hdone] at h
    cases h
  have htrue : (t.builders.perform call).1 ≠ .done (.flag true) := fun hdone => by
    rw [perform, hdone] at h
    cases h
  simp only [perform]
  rcases (t.builders.perform_effect call).kept_or_told hunit htrue with hkept | ⟨report, htold⟩
  · rw [hkept]
    exact ⟨rfl, rfl, rfl⟩
  · rw [htold]
    exact ⟨rfl, rfl, t.builders.sink.sameHook_told report⟩

/-- A call that does not succeed leaves all that is tracked as it was. -/
theorem kept_of_failed {t : Tracker α} {call : Call α}
    (h : isSuccess (t.perform call).outcome = false) : t.Kept (t.perform call).after := by
  have hcheck : ∀ operation id, call = Operation.call operation id →
      t.Kept (t.perform call).after := by
    rintro operation id rfl
    obtain ⟨use, huse⟩ := report?_of_check_failed h
    rw [perform_of_report? huse]
    exact t.kept_told use _
  cases call with
  | register id x =>
    obtain ⟨tally, hperform⟩ := perform_register_of_mem (mem_of_register_failed h) x
    rw [hperform]
    exact ⟨rfl, rfl, rfl⟩
  | close id => exact hcheck .close id rfl
  | validate id => exact hcheck .dereference id rfl
  | builders call => exact kept_of_builders_failed h
  | _ => cases h

/-- Only the calls of builders touch these. -/
theorem perform_builders_of_failed {t : Tracker α} {call : Call α}
    (h : isSuccess (t.perform call).outcome = false) (hcall : ∀ c, call ≠ .builders c) :
    (t.perform call).after.builders = t.builders := by
  cases call with
  | register id x =>
    obtain ⟨tally, hperform⟩ := perform_register_of_mem (mem_of_register_failed h) x
    rw [hperform]
  | close id =>
    have h : isSuccess (t.perform (Operation.call .close id)).outcome = false := h
    obtain ⟨use, huse⟩ := report?_of_check_failed h
    exact congrArg (·.after.builders) (perform_of_report? huse)
  | validate id => rfl
  | builders c => exact absurd rfl (hcall c)
  | _ => cases h

/-! ## Trying again -/

/-- What becomes of a call at `t` that failed, when it is tried again after the hook is
    removed. -/
structure TriedAgain (t : Tracker α) (call : Call α) : Prop where
  /-- A handle cannot be opened, for the same reason. -/
  register : ∀ id x, call = .register id x →
    ((t.perform call).after.uninstall.perform call).outcome = (t.perform call).outcome
  /-- A check comes to what the id stood for before, which is also what the failure told. -/
  check : ∀ operation id, call = Operation.call operation id →
    ((t.perform call).after.uninstall.perform call).outcome =
        .done (operation.rejection (t.classify id)) ∧
      ∀ c ∈ classification? (t.perform call).outcome, c = t.classify id

/-- Whatever the hook answers, an outcome tells what the id stands for, if anything. -/
theorem classification?_overrule {use : InvalidUse} (answer : Option Answer)
    (operation : Operation) :
    ∀ c ∈ classification? (use.overrule answer (.done (operation.rejection use.classification))),
      c = use.classification := by
  rcases answer with _ | _ | reason | message
  · cases operation <;> rintro _ ⟨⟩ <;> rfl
  · cases operation <;> rintro _ ⟨⟩ <;> rfl
  · rintro _ ⟨⟩
    rfl
  · rintro _ ⟨⟩

/-- A call that failed comes to the same classification when it is tried again. -/
theorem triedAgain_of_failed {t : Tracker α} {call : Call α}
    (h : isSuccess (t.perform call).outcome = false) : t.TriedAgain call := by
  constructor
  · rintro id x rfl
    have hid := mem_of_register_failed h
    obtain ⟨tally, hperform⟩ := perform_register_of_mem hid x
    have hopen : id ∈ (t.perform (.register id x)).after.uninstall.table.ids := by
      rw [hperform]
      exact hid
    obtain ⟨tally', hagain⟩ := perform_register_of_mem hopen x
    rw [hagain, hperform]
  · rintro operation id rfl
    obtain ⟨use, huse⟩ := report?_of_check_failed h
    obtain ⟨-, hclassification, -⟩ := report?_eq_some huse
    rw [perform_of_report? huse]
    -- The report is the same again, as nothing that it tells has changed.
    have hagain : Tracker.report? (uninstall { t with
        sink := t.sink.told use
        tally := ((t.tally.add 1 operation.counter).countUse use.classification).countDelivery
          (.ofAnswer (t.answer? use)) }) id operation = some use := huse
    refine ⟨?_, ?_⟩
    · rw [perform_of_report? hagain]
      rfl
    · rw [← hclassification]
      exact classification?_overrule (t.answer? use) operation

/-! ## Runs -/

/-- What a call does to all that is tracked depends on nothing else. -/
theorem perform_bare (t : Tracker α) (call : Call α) :
    (t.perform call).after.bare = (t.bare.perform call).after.bare := by
  -- The hook is asked last, if at all, and nothing depends on its answer but the outcome.
  cases call with
  | register id x =>
    simp only [perform, register, Transition.map]
    rw [show t.bare.table = t.table from rfl, show t.bare.generation = t.generation from rfl]
    cases t.table.insert? id x t.generation with
    | some opened => rfl
    | none => cases x.failure <;> rfl
  | close id =>
    cases hr : t.table.remove? id with
    | none =>
      simp only [perform, close, show t.bare.table = t.table from rfl, hr]
      rfl
    | some found =>
      rw [perform_close_of_remove? hr, perform_close_of_remove? (t := t.bare) hr]
      rfl
  | builders call =>
    simp only [perform, bare]
    rw [Builders.perform_bare]
  | _ => rfl

/-- A run leaves what those of its calls that succeeded leave, where as much is tracked
    at first. -/
theorem run_successes_bare {t t' : Tracker α} (h : t.bare = t'.bare) (calls : List (Call α)) :
    (t.run calls).bare = (t'.run (t.successes calls)).bare := by
  induction calls generalizing t t' with
  | nil => exact h
  | cons call calls ih =>
    rw [successes]
    split
    · -- The call does the same after the failed ones are left out.
      have hafter : (t.perform call).after.bare = (t'.perform call).after.bare := by
        rw [perform_bare, h, ← perform_bare]
      exact ih hafter
    · next hfailed =>
      exact ih ((kept_of_failed (Bool.eq_false_iff.2 hfailed)).bare.trans h)

/-- After every run, a call that does not succeed leaves the open handles, the
    quarantine, the numbering, the generation and the builders as they were, and comes
    to the same when it is tried again without the hook. So a run leaves what those of
    its calls that succeeded would have left. -/
theorem failed_calls_change_nothing (capacity : Nat) (calls : List (Call α)) :
    let t := (ofCapacity capacity : Tracker α).run calls
    (∀ call, isSuccess (t.perform call).outcome = false →
      t.Kept (t.perform call).after ∧
      ((∀ c, call ≠ .builders c) → (t.perform call).after.builders = t.builders) ∧
      t.TriedAgain call) ∧
    t.bare = ((ofCapacity capacity).run ((ofCapacity capacity).successes calls)).bare := by
  intro t
  refine ⟨fun call failed => ?_, run_successes_bare rfl calls⟩
  exact ⟨kept_of_failed failed, perform_builders_of_failed failed, triedAgain_of_failed failed⟩

/-- A second close whose hook crashes, and a second opening whose referent cannot be
    released. -/
theorem failed_calls_change_nothing_crashed :
    let hook : Hook InvalidUse := { answer := fun _ _ => .crash "no" }
    let x : Referent Nat := ⟨7, some "stuck"⟩
    let t := (ofCapacity 1).run
      [.register ⟨1⟩ x, .register ⟨2⟩ x, .close ⟨1⟩, .install hook]
    (t.perform (.close ⟨1⟩)).outcome = .crashed "no" ∧
      t.Kept (t.perform (.close ⟨1⟩)).after ∧
      ((t.perform (.close ⟨1⟩)).after.uninstall.perform (.close ⟨1⟩)).outcome =
        .done (.close (.rejected .useAfterClose)) ∧
      (t.perform (.register ⟨2⟩ x)).outcome = .crashed "stuck" ∧
      t.Kept (t.perform (.register ⟨2⟩ x)).after := by
  intro hook x t
  obtain ⟨hfailed, -⟩ := failed_calls_change_nothing 1
    [.register ⟨1⟩ x, .register ⟨2⟩ x, .close ⟨1⟩, .install hook]
  obtain ⟨hkept, -, hagain⟩ := hfailed (.close ⟨1⟩) (by decide +kernel)
  obtain ⟨hkept', -, -⟩ := hfailed (.register ⟨2⟩ x) (by decide +kernel)
  exact ⟨by decide +kernel, hkept, (hagain.check .close ⟨1⟩ rfl).1, by decide +kernel, hkept'⟩

end Tracker

end HandleWatch
