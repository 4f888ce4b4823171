import HandleWatch.Proofs.Holdings

/-!
# Runs of the quarantine

The quarantine on its own, under any calls that push handles and change its
capacity. No handle is lost in it and none overtakes another: those that were
pushed are, in their order, those that were evicted and then those still there
(`Quarantine.run_map`).

A call lets the oldest handles go one at a time until the rest fits
(`Quarantine.letGo`), and goes on when a release fails. That it evicts them all
at once (`Quarantine.trim`) comes to the same (`Quarantine.letGo_offered`). So
the failures are counted, but they change nothing else
(`Quarantine.evictions_quieted`).
-/

namespace HandleWatch

variable {α β : Type}

/-- What is known of a handle without its state. -/
def Record.identity (r : Record) : HandleId × Generation × Nat := (r.id, r.generation, r.sequence)

/-- What is known of a handle without its state. -/
def Handle.identity (h : Handle α) : HandleId × Generation × Nat := h.record.identity

theorem Handle.stateless_identity :
    Stateless (identity : Handle α → HandleId × Generation × Nat) := fun h state => by
  unfold advance
  split <;> rfl

namespace Quarantine

/-- What can be asked of a quarantine. -/
inductive Call (α : Type) where
  | push (h : Handle α)
  | resize (capacity : Nat)

namespace Call

/-- The handle that a call pushes, if it does. -/
def pushed? : Call α → Option (Handle α)
  | push h => some h
  | resize _ => none

/-- The capacity after a call, given the one before. -/
def bound : Call α → Nat → Nat
  | push _, capacity => capacity
  | resize capacity, _ => capacity

end Call

/-- What a call evicts, and the quarantine after it. -/
def perform (q : Quarantine α) : Call α → Eviction α × Quarantine α
  | .push h => q.push h
  | .resize capacity => q.resize capacity

/-- The quarantine after some calls. -/
def run (q : Quarantine α) (calls : List (Call α)) : Quarantine α :=
  calls.foldl (fun q call => (q.perform call).2) q

/-- What each of some calls evicts. -/
def evictions (q : Quarantine α) : List (Call α) → List (Eviction α)
  | [] => []
  | call :: calls => (q.perform call).1 :: evictions (q.perform call).2 calls

/-- The handles that some calls push, in this order. -/
def pushed (calls : List (Call α)) : List (Handle α) := calls.filterMap Call.pushed?

/-- The handles there are in a call before any is evicted. -/
def offered (q : Quarantine α) (call : Call α) : List (Handle α) :=
  q.handles ++ (call.pushed?.map (·.advance .quarantined)).toList

/-- A call adds a handle or sets the bound, and then the quarantine is trimmed. -/
theorem perform_eq (q : Quarantine α) (call : Call α) :
    q.perform call = trim ⟨q.offered call, call.bound q.capacity⟩ := by
  cases call with
  | push h => rfl
  | resize capacity =>
    rw [offered, Call.pushed?, Option.map_none, Option.toList_none, List.append_nil]
    rfl

/-! ## First in, first out -/

theorem perform_map {f : Handle α → β} (hf : Handle.Stateless f) (q : Quarantine α)
    (call : Call α) :
    (q.perform call).1.handles.map f ++ (q.perform call).2.handles.map f =
      q.handles.map f ++ call.pushed?.toList.map f := by
  cases call with
  | push h => exact push_map hf q h
  | resize capacity => exact (resize_map hf q capacity).trans (List.append_nil _).symm

theorem pushed_cons (call : Call α) (calls : List (Call α)) :
    pushed (call :: calls) = call.pushed?.toList ++ pushed calls := by
  cases call <;> rfl

/-- Nothing is lost over a run, and nothing overtakes anything. -/
theorem run_map {f : Handle α → β} (hf : Handle.Stateless f) (q : Quarantine α)
    (calls : List (Call α)) :
    (q.evictions calls).flatMap (·.handles.map f) ++ (q.run calls).handles.map f =
      q.handles.map f ++ (pushed calls).map f := by
  induction calls generalizing q with
  | nil => exact (List.append_nil _).symm
  | cons call calls ih =>
    calc (q.evictions (call :: calls)).flatMap (·.handles.map f) ++
          (q.run (call :: calls)).handles.map f
      _ = (q.perform call).1.handles.map f ++ ((q.perform call).2.handles.map f ++
            (pushed calls).map f) := by
        rw [← ih, evictions, List.flatMap_cons, List.append_assoc]
        rfl
      _ = q.handles.map f ++ (pushed (call :: calls)).map f := by
        rw [← List.append_assoc, perform_map hf, pushed_cons, List.map_append, List.append_assoc]

/-! ## One at a time -/

/-- What has become of the handles that were let go so far. -/
structure Departures (α : Type) where
  records : List Record := []
  /-- The referents that were released, in this order. -/
  released : List (Referent α) := []
  /-- How many of the releases failed. -/
  failures : Nat := 0

/-- One more handle is let go. Its release may fail, which is only counted. -/
def Departures.add (gone : Departures α) (h : Handle α) : Departures α where
  records := gone.records ++ [(h.advance .discarded).record]
  released := gone.released ++ [h.referent]
  failures := if h.failsRelease then gone.failures + 1 else gone.failures

/-- Lets the oldest handles go one at a time, while there are more of them than
    the limit. -/
def letGo (limit : Nat) (gone : Departures α) :
    List (Handle α) → Departures α × List (Handle α)
  | [] => (gone, [])
  | oldest :: handles =>
    if limit < handles.length + 1 then letGo limit (gone.add oldest) handles
    else (gone, oldest :: handles)

/-- An eviction, as what has become of its handles. -/
def departures (e : Eviction α) : Departures α where
  records := e.records
  released := e.released
  failures := e.failures

theorem foldl_add (gone : Departures α) (handles : List (Handle α)) :
    handles.foldl Departures.add gone =
      { records := gone.records ++ handles.map fun h => (h.advance .discarded).record
        released := gone.released ++ handles.map Handle.referent
        failures := gone.failures + handles.countP Handle.failsRelease } := by
  induction handles generalizing gone with
  | nil => simp
  | cons h handles ih =>
    rw [List.foldl_cons, ih, Departures.add, List.countP_cons]
    congr 1
    · exact List.append_assoc _ _ _
    · exact List.append_assoc _ _ _
    · dsimp only
      split <;> omega

/-- Those that go are the first ones beyond the limit. -/
theorem letGo_eq (limit : Nat) (gone : Departures α) (handles : List (Handle α)) :
    letGo limit gone handles =
      ((handles.take (handles.length - limit)).foldl Departures.add gone,
        handles.drop (handles.length - limit)) := by
  induction handles generalizing gone with
  | nil => rw [letGo, List.take_nil, List.drop_nil, List.foldl_nil]
  | cons oldest handles ih =>
    rw [letGo, List.length_cons]
    split
    · next hover =>
      rw [ih, Nat.succ_sub (Nat.le_of_lt_succ hover), List.take_succ_cons, List.drop_succ_cons,
        List.foldl_cons]
    · next hfits =>
      rw [Nat.sub_eq_zero_of_le (Nat.le_of_not_lt hfits)]
      rfl

/-- The handles that trimming lets go are the oldest. -/
theorem departures_trim (q : Quarantine α) :
    departures q.trim.1 =
      (q.handles.take (q.handles.length - q.capacity)).foldl Departures.add {} := by
  have hfails : Handle.Stateless (Handle.failsRelease : Handle α → Bool) := fun h state =>
    congrArg (·.failure.isSome) (Handle.stateless_referent h state)
  rw [foldl_add, departures, Eviction.records, Eviction.released, Eviction.failures, trim,
    List.map_map, List.map_map, List.countP_map, Handle.stateless_referent.comp_advance,
    hfails.comp_advance, Nat.zero_add]
  rfl

/-- What a call evicts, and what stays, is what letting the handles go one at a
    time comes to. -/
theorem letGo_offered (q : Quarantine α) (call : Call α) :
    letGo (call.bound q.capacity) {} (q.offered call) =
      (departures (q.perform call).1, (q.perform call).2.handles) := by
  rw [letGo_eq, perform_eq, departures_trim]
  rfl

/-- A call on `q` evicts what does not fit, from the oldest on, and no more. -/
structure EvictsExcess (q : Quarantine α) (call : Call α) : Prop where
  capacity : (q.perform call).2.capacity = call.bound q.capacity
  fits : (q.perform call).2.handles.length ≤ call.bound q.capacity
  excess : (q.perform call).1.records.length = (q.offered call).length - call.bound q.capacity
  failures : (q.perform call).1.failures =
    (q.perform call).1.released.countP (·.failure.isSome)
  oneByOne : letGo (call.bound q.capacity) {} (q.offered call) =
    (departures (q.perform call).1, (q.perform call).2.handles)

theorem evictsExcess (q : Quarantine α) (call : Call α) : q.EvictsExcess call where
  capacity := by
    rw [perform_eq]
    rfl
  fits := by
    rw [perform_eq, trim_length]
    exact Nat.min_le_right _ _
  excess := by
    rw [perform_eq, Eviction.records, trim, List.length_map, List.length_map, List.length_take]
    exact Nat.min_eq_left (Nat.sub_le _ _)
  failures := by
    rw [Eviction.failures, Eviction.released, List.countP_map]
    rfl
  oneByOne := letGo_offered q call

end Quarantine

/-! ## Failing releases -/

/-- A handle whose release does not fail. -/
def Handle.quieted (h : Handle α) : Handle α :=
  { h with referent := { h.referent with failure := none } }

theorem Handle.quieted_advance (h : Handle α) (state : HandleState) :
    (h.advance state).quieted = h.quieted.advance state := by
  rw [advance, advance]
  split
  · next hlt => exact (if_pos hlt).symm
  · next hlt => exact (if_neg hlt).symm

/-- An eviction without the failures. -/
def Eviction.quieted (e : Eviction α) : Eviction α := ⟨e.handles.map Handle.quieted⟩

theorem Eviction.records_quieted (e : Eviction α) : e.quieted.records = e.records :=
  List.map_map

namespace Quarantine

/-- A quarantine of handles whose releases do not fail. -/
def quieted (q : Quarantine α) : Quarantine α :=
  { q with handles := q.handles.map Handle.quieted }

/-- A call of which no release fails. -/
def Call.quieted : Call α → Call α
  | push h => push h.quieted
  | resize capacity => resize capacity

theorem trim_quieted (q : Quarantine α) :
    q.quieted.trim = (q.trim.1.quieted, q.trim.2.quieted) := by
  have hadvance : Handle.quieted ∘ (·.advance .discarded : Handle α → Handle α) =
      (·.advance .discarded) ∘ Handle.quieted :=
    funext fun h => h.quieted_advance .discarded
  simp only [trim, quieted, Eviction.quieted, List.length_map, List.map_take, List.map_drop,
    List.map_map, hadvance]

theorem offered_quieted (q : Quarantine α) (call : Call α) :
    q.quieted.offered call.quieted = (q.offered call).map Handle.quieted := by
  rw [offered, offered, List.map_append]
  cases call with
  | push h => exact congrArg (_ ++ [·]) (h.quieted_advance .quarantined).symm
  | resize capacity => rfl

theorem perform_quieted (q : Quarantine α) (call : Call α) :
    q.quieted.perform call.quieted =
      ((q.perform call).1.quieted, (q.perform call).2.quieted) := by
  have hbound : call.quieted.bound q.quieted.capacity = call.bound q.capacity := by
    cases call <;> rfl
  rw [perform_eq, perform_eq, ← trim_quieted, offered_quieted, hbound]
  rfl

/-- Over a run, failures change nothing else. -/
theorem evictions_quieted (q : Quarantine α) (calls : List (Call α)) :
    q.quieted.evictions (calls.map Call.quieted) = (q.evictions calls).map Eviction.quieted := by
  induction calls generalizing q with
  | nil => rfl
  | cons call calls ih =>
    rw [List.map_cons, evictions, evictions, List.map_cons, perform_quieted, ih]

/-- The records of what is evicted can be told from the calls without their
    failures. -/
theorem records_evictions (q : Quarantine α) (calls : List (Call α)) :
    (q.evictions calls).map Eviction.records =
      (q.quieted.evictions (calls.map Call.quieted)).map Eviction.records := by
  have hrecords : Eviction.records ∘ (Eviction.quieted : Eviction α → Eviction α) =
      Eviction.records := funext Eviction.records_quieted
  rw [evictions_quieted, List.map_map, hrecords]

/-- **The quarantine loses nothing, and first in is first out.** Over any calls,
    the handles that were pushed are, in their order, those that were evicted
    and then those that are kept, and their referents are released in that order
    too; after them any further call evicts what does not fit and no more; and
    what each call evicted does not depend on which releases fail. -/
theorem lossless_fifo (capacity : Nat) (calls : List (Call α)) :
    let start : Quarantine α := { capacity }
    (pushed calls).map Handle.identity =
        (start.evictions calls).flatMap (fun e => e.records.map Record.identity) ++
          (start.run calls).handles.map Handle.identity ∧
      (pushed calls).map Handle.referent =
        (start.evictions calls).flatMap Eviction.released ++
          (start.run calls).handles.map Handle.referent ∧
      (∀ call, (start.run calls).EvictsExcess call) ∧
      ∀ calls' : List (Call α), calls'.map Call.quieted = calls.map Call.quieted →
        (start.evictions calls').map Eviction.records =
          (start.evictions calls).map Eviction.records := by
  intro start
  have hrecords : (fun e : Eviction α => e.records.map Record.identity) =
      (·.handles.map Handle.identity) := funext fun _ => List.map_map
  refine ⟨?_, (run_map Handle.stateless_referent start calls).symm, evictsExcess _, ?_⟩
  · rw [hrecords]
    exact (run_map Handle.stateless_identity start calls).symm
  · intro calls' hsame
    rw [records_evictions, hsame, ← records_evictions]

/-- With room for one handle, a push evicts the handle before it, and a change to
    no room the last one; that both releases fail changes neither record. -/
theorem lossless_fifo_failing :
    let start : Quarantine Nat := { capacity := 1 }
    let calls (failure : Option String) : List (Call Nat) :=
      [.push ⟨⟨⟨7⟩, 0, 0, .opened⟩, ⟨10, failure⟩⟩, .push ⟨⟨⟨7⟩, 0, 1, .opened⟩, ⟨11, failure⟩⟩,
        .resize 0]
    (calls (some "stuck")).map Call.quieted = (calls none).map Call.quieted ∧
      (start.evictions (calls (some "stuck"))).map Eviction.failures = [0, 1, 1] ∧
      (start.evictions (calls (some "stuck"))).map Eviction.records =
        (start.evictions (calls none)).map Eviction.records :=
  ⟨rfl, rfl, (lossless_fifo 1 _).2.2.2 _ rfl⟩

end Quarantine

end HandleWatch
