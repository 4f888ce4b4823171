import HandleWatch.Proofs.Holdings
import HandleWatch.Tracker
import Mathlib.Data.List.Induction

/-!
# Runs of a tracker

A run is a sequence of calls of a tracker, in any order, with any hooks and any
referents (`Tracker.Call`, `Tracker.run`). A call changes the handles that are
tracked (`Tracking`) in one of a few ways, whatever the hooks do and whatever is
counted: `Tracker.perform_effect` says which, and with which outcome and
releases. All that holds of every run is proved from it by induction on the run.

The `Tracker.history` of a run is what its caller saw: the calls and their
outcomes.
-/

namespace HandleWatch

/-- The transition with the value of its outcome through a function. -/
def Transition.map {σ α β γ : Type} (f : β → γ) (step : Transition σ α β) : Transition σ α γ where
  outcome := step.outcome.map f
  after := step.after
  released := step.released

/-- The transition of an operation that releases nothing. -/
def Transition.ofPair {σ α β : Type} (step : Outcome β × σ) : Transition σ α β where
  outcome := step.1
  after := step.2

theorem Referent.releaseThen_ne_done {α β : Type} (x : Referent α) (e : TrackerError) (b : β) :
    x.releaseThen (.failed e) ≠ .done b := by
  unfold releaseThen
  split <;> exact nofun

/-! ## Calls -/

namespace Builders

/-- The calls of the builders of a tracker. -/
inductive Call where
  | start (id : HandleId) (kind : BuilderKind) (size : Nat)
  | setItem (id : HandleId) (index : Nat)
  | build (id : HandleId)
  | cancel (id : HandleId)
  | setHistory (history : Nat)
  | install (hook : Hook InvalidBuilderUse)
  | uninstall

/-- The value of a call. -/
inductive Reply where
  | unit
  | flag (value : Bool)
  deriving DecidableEq, Repr

/-- One call. -/
def perform (b : Builders) : Call → Outcome Reply × Builders
  | .start id kind size => let (outcome, b) := b.start id kind size; (outcome.map fun _ => .unit, b)
  | .setItem id index => let (outcome, b) := b.setItem id index; (outcome.map .flag, b)
  | .build id => let (outcome, b) := b.build id; (outcome.map .flag, b)
  | .cancel id => let (outcome, b) := b.cancel id; (outcome.map .flag, b)
  | .setHistory history => (.done .unit, b.setHistory history)
  | .install hook => (.done .unit, { b with sink := b.sink.install hook })
  | .uninstall => (.done .unit, { b with sink := b.sink.uninstall })

end Builders

/-- The handles that are tracked, and the current generation: a tracker without
    its hooks, its counters and its builders. -/
structure Tracking (α : Type) where
  generation : Generation
  table : OpenTable α
  quarantine : Quarantine α

namespace Tracker

variable {α : Type}

/-- The calls of a tracker. -/
inductive Call (α : Type) where
  | register (id : HandleId) (referent : Referent α)
  | close (id : HandleId)
  | validate (id : HandleId)
  | newGeneration
  | resize (size : Int)
  | install (hook : Hook InvalidUse)
  | uninstall
  | setBuilderHistory (size : Int)
  | builders (call : Builders.Call)

/-- The calls that leave the tracked handles alone. -/
def Call.IsAside : Call α → Prop
  | .register _ _ | .close _ | .newGeneration | .resize _ => False
  | .validate _ | .install _ | .uninstall | .setBuilderHistory _ | .builders _ => True

/-- The value of a call. -/
inductive Reply where
  | record (record : Record)
  | close (outcome : CloseOutcome)
  | classification (classification : Classification)
  | generation (generation : Generation)
  | evicted (records : List Record)
  | unit
  | builders (reply : Builders.Reply)
  deriving DecidableEq, Repr

/-- One call. -/
def perform (t : Tracker α) : Call α → Transition (Tracker α) α Reply
  | .register id referent => (t.register id referent).map .record
  | .close id => (t.close id).map .close
  | .validate id => (Transition.ofPair (t.validate id)).map .classification
  | .newGeneration => { outcome := .done (.generation t.newGeneration.1), after := t.newGeneration.2 }
  | .resize size => (t.resize size).map .evicted
  | .install hook => { outcome := .done .unit, after := t.install hook }
  | .uninstall => { outcome := .done .unit, after := t.uninstall }
  | .setBuilderHistory size => { outcome := .done .unit, after := t.setBuilderHistory size }
  | .builders call =>
    { outcome := (t.builders.perform call).1.map .builders
      after := { t with builders := (t.builders.perform call).2 } }

/-- The handles that a tracker tracks. -/
def tracking (t : Tracker α) : Tracking α := ⟨t.generation, t.table, t.quarantine⟩

/-! ## What a call does -/

/-- What a call may do to the tracked handles `k`, with its outcome, the
    referents that it releases and the handles tracked after it. -/
inductive Effect (k : Tracking α) :
    Call α → Outcome Reply → List (Referent α) → Tracking α → Prop
  /-- A handle is opened. -/
  | registered {id : HandleId} {x : Referent α} (fresh : id ∉ k.table.ids) :
    Effect k (.register id x)
      (.done (.record ⟨id, k.generation, k.table.nextSequence, .opened⟩)) []
      { k with
        table :=
          { handles := k.table.handles ++
              [⟨⟨id, k.generation, k.table.nextSequence, .opened⟩, x⟩]
            nextSequence := k.table.nextSequence + 1 } }
  /-- The id is open already, and the referent is released. -/
  | refused {id : HandleId} {x : Referent α} (opened : id ∈ k.table.ids) :
    Effect k (.register id x) (x.releaseThen (.failed (.duplicateHandle id))) [x] k
  /-- A handle goes to the quarantine, and others may have to leave it. -/
  | closed {id : HandleId} {h : Handle α} {before after : List (Handle α)} (hid : h.id = id)
      (split : k.table.handles = before ++ h :: after) (first : ∀ x ∈ before, x.id ≠ id) :
    Effect k (.close id) (.done (.close (.closed h.record (k.quarantine.push h).1.records)))
      (k.quarantine.push h).1.released
      { k with
        table := { k.table with handles := before ++ after }
        quarantine := (k.quarantine.push h).2 }
  /-- The id is not open. -/
  | rejected {id : HandleId} {outcome : Outcome Reply} (absent : id ∉ k.table.ids)
      (failed : ∀ record evicted, outcome ≠ .done (.close (.closed record evicted))) :
    Effect k (.close id) outcome [] k
  | advanced :
    Effect k .newGeneration (.done (.generation (Generation.next k.generation))) []
      { k with generation := Generation.next k.generation }
  /-- The capacity changes, and some handles may have to leave the quarantine. -/
  | resized {size : Int} :
    Effect k (.resize size)
      (.done (.evicted (k.quarantine.resize (capacityOf size)).1.records))
      (k.quarantine.resize (capacityOf size)).1.released
      { k with quarantine := (k.quarantine.resize (capacityOf size)).2 }
  | aside {call : Call α} {outcome : Outcome Reply} (aside : call.IsAside) :
    Effect k call outcome [] k

/-- The effect of a registration, which is refused if the id is open. -/
theorem register_effect (t : Tracker α) (id : HandleId) (x : Referent α) :
    Effect t.tracking (.register id x) (t.perform (.register id x)).outcome
      (t.perform (.register id x)).released (t.perform (.register id x)).after.tracking := by
  by_cases hid : id ∈ t.table.ids
  · have hnone : t.table.insert? id x t.generation = none := by
      rw [OpenTable.insert?, OpenTable.has_iff.2 hid, if_pos rfl]
    have hrefused : Effect t.tracking (.register id x) _ [x] t.tracking := .refused hid
    rw [Referent.releaseThen] at hrefused
    simp only [perform, register, hnone, Transition.map]
    cases hx : x.failure <;> rw [hx] at hrefused <;> exact hrefused
  · have hhas : ¬t.table.has id = true := fun h => hid (OpenTable.has_iff.1 h)
    simp only [perform, register, OpenTable.insert?, if_neg hhas, Transition.map]
    exact .registered hid

/-- The effect of a close, which is rejected if the id is not open. -/
theorem close_effect (t : Tracker α) (id : HandleId) :
    Effect t.tracking (.close id) (t.perform (.close id)).outcome
      (t.perform (.close id)).released (t.perform (.close id)).after.tracking := by
  simp only [perform, close, Transition.map]
  cases hr : t.table.remove? id with
  | none =>
    refine .rejected (OpenTable.remove?_eq_none_iff.1 hr) fun record evicted => ?_
    -- A rejection is a rejection, whatever the hook makes of its report.
    cases (detect _ id .close).1 <;> simp [Outcome.map]
  | some found =>
    obtain ⟨h, table⟩ := found
    obtain ⟨hid, before, after, hsplit, hfirst, rfl⟩ := OpenTable.remove?_eq_some_iff.1 hr
    exact .closed hid hsplit hfirst

/-- What a call does to the tracked handles. -/
theorem perform_effect (t : Tracker α) (call : Call α) :
    Effect t.tracking call (t.perform call).outcome (t.perform call).released
      (t.perform call).after.tracking := by
  cases call with
  | register id x => exact t.register_effect id x
  | close id => exact t.close_effect id
  | newGeneration => exact .advanced
  | resize size => exact .resized
  | validate _ => exact .aside trivial
  | install _ => exact .aside trivial
  | uninstall => exact .aside trivial
  | setBuilderHistory _ => exact .aside trivial
  | builders _ => exact .aside trivial

/-! ## What an id stands for -/

/-- Valid ids are those in the table. -/
theorem classify_eq_valid_iff {t : Tracker α} {id : HandleId} :
    t.classify id = .valid ↔ id ∈ t.table.ids := by
  rw [← OpenTable.has_iff, OpenTable.has, classify, HandleWatch.classify]
  cases t.table.find? id with
  | some h => simp
  | none => cases t.quarantine.find? id <;> simp

/-- Ids used after close are those in the quarantine, and not in the table. -/
theorem classify_eq_useAfterClose_iff {t : Tracker α} {id : HandleId} :
    t.classify id = .useAfterClose ↔ id ∉ t.table.ids ∧ id ∈ t.quarantine.ids := by
  rw [← OpenTable.find?_eq_none_iff, ← Classical.not_not (a := id ∈ t.quarantine.ids),
    ← Quarantine.find?_eq_none_iff, classify, HandleWatch.classify]
  cases t.table.find? id with
  | some h => simp
  | none => cases t.quarantine.find? id <;> simp

theorem classify_eq_unknown_iff {t : Tracker α} {id : HandleId} :
    t.classify id = .unknown ↔ id ∉ t.table.ids ∧ id ∉ t.quarantine.ids := by
  rw [← OpenTable.find?_eq_none_iff, ← Quarantine.find?_eq_none_iff, classify,
    HandleWatch.classify]
  cases t.table.find? id with
  | some h => simp
  | none => cases t.quarantine.find? id <;> simp

/-! ## Runs -/

/-- The tracker after some calls. -/
def run (t : Tracker α) (calls : List (Call α)) : Tracker α :=
  calls.foldl (fun t call => (t.perform call).after) t

@[simp]
theorem run_concat (t : Tracker α) (calls : List (Call α)) (call : Call α) :
    t.run (calls ++ [call]) = ((t.run calls).perform call).after := by
  rw [run, List.foldl_append]
  rfl

/-- A call and its outcome. -/
structure Event (α : Type) where
  call : Call α
  outcome : Outcome Reply

/-- The events of a run, the first one first. -/
def history (t : Tracker α) : List (Call α) → List (Event α)
  | [] => []
  | call :: calls => ⟨call, (t.perform call).outcome⟩ :: (t.perform call).after.history calls

@[simp]
theorem history_concat (t : Tracker α) (calls : List (Call α)) (call : Call α) :
    t.history (calls ++ [call]) =
      t.history calls ++ [⟨call, ((t.run calls).perform call).outcome⟩] := by
  induction calls generalizing t with
  | nil => rfl
  | cons first calls ih =>
    rw [List.cons_append, history, ih]
    rfl

/-- The referents released in a run, in order. -/
def released (t : Tracker α) : List (Call α) → List (Referent α)
  | [] => []
  | call :: calls => (t.perform call).released ++ (t.perform call).after.released calls

@[simp]
theorem released_concat (t : Tracker α) (calls : List (Call α)) (call : Call α) :
    t.released (calls ++ [call]) = t.released calls ++ ((t.run calls).perform call).released := by
  induction calls generalizing t with
  | nil => exact List.append_nil _
  | cons first calls ih =>
    rw [List.cons_append, released, ih, ← List.append_assoc]
    rfl

end Tracker

end HandleWatch
