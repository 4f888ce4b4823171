import HandleWatch.Proofs.History

/-!
# Every referent is released once

A tracker owns the referents handed over to it until it releases them. That it
releases each of them once is a conservation law: at every point of a run, the
referents released so far and those still held are, together, the ones handed
over (`Tracker.released_append_held_perm`). A referent is released when its
handle is refused or leaves the quarantine (`Tracker.Cause`), and the rest at
the end, by `Tracker.releaseAll`:

* `Tracker.released_exactly_once`: over a whole run and its end, each referent
  is released once, for one of these causes, the open handles in the order of
  their opening and then those in quarantine in the order of their closing,
  whether or not some of the releases fail.
-/

namespace HandleWatch

open scoped List

variable {α : Type}

/-- The referents that the tracked handles hold. -/
def Tracking.held (k : Tracking α) : List (Referent α) :=
  (k.table.handles ++ k.quarantine.handles).map (·.referent)

/-- The record of a handle that was discarded. -/
def Record.discarded (r : Record) : Record := { r with state := .discarded }

theorem Handle.advance_discarded (h : Handle α) :
    (h.advance .discarded).record = h.record.discarded := by
  obtain ⟨⟨id, generation, sequence, state⟩, x⟩ := h
  cases state <;> rfl

namespace Tracker

/-- The referent that a call hands over. -/
def Call.passed? : Call α → Option (Referent α)
  | .register _ x => some x
  | _ => none

/-- The referents handed over in some calls, in order. -/
def passed (calls : List (Call α)) : List (Referent α) := calls.filterMap Call.passed?

theorem passed_concat (calls : List (Call α)) (call : Call α) :
    passed (calls ++ [call]) = passed calls ++ call.passed?.toList := by
  rw [passed, List.filterMap_append]
  cases h : call.passed? <;> simp [passed, h]

theorem Call.passed?_of_isAside {call : Call α} (h : call.IsAside) : call.passed? = none := by
  cases call with
  | register _ _ => exact h.elim
  | _ => rfl

/-! ## Conservation -/

/-- A call releases, of the referents held before and the one handed over, those
    that are not held after it. -/
theorem Effect.released_append_held_perm {k k' : Tracking α} {call : Call α}
    {outcome : Outcome Reply} {released : List (Referent α)}
    (he : Effect k call outcome released k') :
    released ++ k'.held ~ k.held ++ call.passed?.toList := by
  -- A referent is passed in, moves to the quarantine or is released, and is never copied.
  cases he with
  | @registered id x fresh =>
    simp only [Tracking.held, Call.passed?, Option.toList_some, List.map_append, List.nil_append,
      List.append_assoc, List.map_singleton]
    exact .append_left _ List.perm_append_comm
  | refused _ => exact List.perm_append_comm
  | @closed id h before after hid split first =>
    have hheld :
        (before ++ h :: after ++ k.quarantine.handles).map (·.referent) = k.held ++ [] := by
      rw [← split, List.append_nil, Tracking.held]
    exact (k.quarantine.push_perm Handle.stateless_referent before after h).trans (.of_eq hheld)
  | rejected _ _ => exact .of_eq (List.append_nil _).symm
  | advanced => exact .of_eq (List.append_nil _).symm
  | resized =>
    exact (k.quarantine.resize_perm Handle.stateless_referent k.table.handles _).trans
      (.of_eq (List.append_nil _).symm)
  | aside h =>
    rw [Call.passed?_of_isAside h]
    exact .of_eq (List.append_nil _).symm

/-- At every point of a run, the referents released and those still held are the
    ones handed over. -/
theorem released_append_held_perm (capacity : Nat) (calls : List (Call α)) :
    (ofCapacity capacity).released calls ++ ((ofCapacity capacity).run calls).tracking.held ~
      passed calls := by
  induction calls using List.reverseRecOn with
  | nil => exact .refl _
  | append_singleton calls call ih =>
    rw [released_concat, run_concat, passed_concat, List.append_assoc]
    refine ((perform_effect _ call).released_append_held_perm.append_left _).trans ?_
    rw [← List.append_assoc]
    exact ih.append_right _

/-! ## Causes -/

/-- Why a call releases referents, if it does, when `k` is tracked. -/
inductive Cause (k : Tracking α) : Call α → Outcome Reply → List (Referent α) → Prop
  /-- The id is open already. -/
  | rejection {id : HandleId} {x : Referent α} (opened : id ∈ k.table.ids) :
    Cause k (.register id x) (x.releaseThen (.failed (.duplicateHandle id))) [x]
  /-- The handles closed first have to leave the quarantine for another one, or
      this one itself. -/
  | closing {h : Handle α} {evicted : List (Handle α)} (opened : h ∈ k.table.handles)
      (first : evicted <+: k.quarantine.handles ++ [h]) :
    Cause k (.close h.id) (.done (.close (.closed h.record (evicted.map (·.record.discarded)))))
      (evicted.map (·.referent))
  /-- The handles closed first have to leave the quarantine as it shrinks. -/
  | shrinking {size : Int} {evicted : List (Handle α)}
      (first : evicted <+: k.quarantine.handles) :
    Cause k (.resize size) (.done (.evicted (evicted.map (·.record.discarded))))
      (evicted.map (·.referent))
  /-- There is nothing to release. -/
  | none {call : Call α} {outcome : Outcome Reply} : Cause k call outcome []

theorem stateless_discarded : Handle.Stateless fun h : Handle α => h.record.discarded :=
  fun h state => by
    unfold Handle.advance
    split <;> rfl

/-- The records of evicted handles say that they were discarded. -/
theorem records_eq_map_discarded (handles : List (Handle α)) :
    Eviction.records ⟨handles.map (·.advance .discarded)⟩ =
      (handles.map (·.advance .discarded)).map (·.record.discarded) := by
  rw [Eviction.records, List.map_map, List.map_map]
  refine List.map_congr_left fun h _ => ?_
  exact (Handle.advance_discarded h).trans (stateless_discarded h .discarded).symm

/-- A call only releases referents for a cause. -/
theorem Effect.cause {k k' : Tracking α} {call : Call α} {outcome : Outcome Reply}
    {released : List (Referent α)} (he : Effect k call outcome released k') :
    Cause k call outcome released := by
  -- Only what leaves the quarantine is released, and a referent that could not be registered.
  cases he with
  | registered _ => exact .none
  | refused opened => exact .rejection opened
  | @closed _ h before after hid split first =>
    have hmem : h ∈ k.table.handles := split ▸ List.mem_append_right _ List.mem_cons_self
    have hcause := Cause.closing hmem (List.take_prefix
      (k.quarantine.handles.length + 1 - k.quarantine.capacity) (k.quarantine.handles ++ [h]))
    rw [← k.quarantine.push_evicted_map Handle.stateless_referent h,
      ← k.quarantine.push_evicted_map stateless_discarded h] at hcause
    subst hid
    rw [show (k.quarantine.push h).1.records = _ from records_eq_map_discarded _]
    exact hcause
  | rejected _ _ => exact .none
  | advanced => exact .none
  | @resized size =>
    have hcause : Cause k (.resize size) _ _ := .shrinking (List.take_prefix
      (k.quarantine.handles.length - capacityOf size) k.quarantine.handles)
    rw [← k.quarantine.resize_evicted_map Handle.stateless_referent,
      ← k.quarantine.resize_evicted_map stateless_discarded] at hcause
    rw [show (k.quarantine.resize (capacityOf size)).1.records = _ from records_eq_map_discarded _]
    exact hcause
  | aside _ => exact .none

/-! ## The end of a run -/

/-- At the end the handles that are open are released, and then the quarantined ones. -/
theorem releaseAll_released (t : Tracker α) : t.releaseAll.released = t.tracking.held := rfl

/-- The summary counts what was held, and the releases that failed. -/
theorem releaseAll_outcome (t : Tracker α) :
    t.releaseAll.outcome = .done
      { openReleased := t.table.handles.length
        quarantinedReleased := t.quarantine.handles.length
        failures := t.releaseAll.released.countP (·.failure.isSome) } := by
  rw [releaseAll_released, Tracking.held, List.countP_map]
  rfl

/-- Afterwards there is nothing left to release. -/
theorem releaseAll_after_held (t : Tracker α) : t.releaseAll.after.tracking.held = [] := rfl

/-- Over a run and its end, every referent handed over is released once.

    The referents that are not released yet are those of the handles that are
    open or in quarantine. At the end, those of the open handles are released
    in the order of their opening, and then those in quarantine in the order of
    their closing. -/
theorem released_exactly_once (capacity : Nat) (calls : List (Call α)) :
    let start : Tracker α := ofCapacity capacity
    let events := start.history calls
    let t := start.run calls
    -- Everything is released once, by the run or at its end.
    start.released calls ++ t.releaseAll.released ~ passed calls ∧
    -- What is not released yet is held, at every point of the run.
    (∀ n, start.released (calls.take n) ++ (start.run (calls.take n)).tracking.held ~
      passed (calls.take n)) ∧
    -- There is a cause for every release.
    (∀ call, Cause t.tracking call (t.perform call).outcome (t.perform call).released) ∧
    -- The end releases the open handles, numbered as they were opened, in that order,
    -- and then the handles in quarantine as they were closed.
    t.releaseAll.released =
      t.table.handles.map (·.referent) ++ t.quarantine.handles.map (·.referent) ∧
    t.table.handles <+ opened events ∧
    (opened events).map (·.record.sequence) = List.range (opened events).length ∧
    t.quarantine.handles.map (·.record) <:+ (closed events).map Record.quarantined ∧
    (∀ h ∈ t.quarantine.handles, h.original ∈ opened events) ∧
    t.releaseAll.outcome = .done
      { openReleased := t.table.handles.length
        quarantinedReleased := t.quarantine.handles.length
        failures := t.releaseAll.released.countP (·.failure.isSome) } ∧
    -- A second end releases nothing.
    t.releaseAll.after.releaseAll.released = [] := by
  intro start events t
  have haccounts := accounts_run (α := α) capacity calls
  refine ⟨released_append_held_perm capacity calls,
    fun n => released_append_held_perm capacity (calls.take n),
    fun call => (perform_effect t call).cause, ?_, haccounts.table, haccounts.sequences,
    haccounts.quarantine, haccounts.referents, t.releaseAll_outcome, t.releaseAll_after_held⟩
  rw [releaseAll_released, Tracking.held, List.map_append]
  rfl

end Tracker

end HandleWatch
