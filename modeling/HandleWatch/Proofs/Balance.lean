import HandleWatch.Proofs.History
import HandleWatch.Proofs.Reporting

/-!
# The counters balance

A tracker bumps its counters at different points of its operations, some before
and some after a hook that can refuse or crash. What they count, however, can be
read from a run: from its events, and from its steps, the calls with the tracker
before each of them (`Tracker.counted`). So a single table says what every
counter stands for, and it is shown once that a call moves the tally on by what
the table says of it (`Tracker.perform_counts`), and then a run
(`Tracker.run_tally_get`).

The counters are related since the steps are. A handle goes from the table to
the quarantine and from there out of it (`Tracker.Sized`), and a use of an id
that is not open makes one report, which is accepted or refused, or not heard,
or crashes the hook (`Tracker.reports_length`, `Tracker.length_eq_answered`):

* `Tracker.tally_balances`: after every run too short for a counter to wrap
  around, the counters balance.
-/

namespace HandleWatch

/-- Whether a hook refuses a report. -/
def Answer.isRefusal : Answer → Bool
  | refuse _ => true
  | _ => false

/-- Whether a hook crashes on a report. -/
def Answer.isCrash : Answer → Bool
  | crash _ => true
  | _ => false

namespace Tracker

variable {α : Type}

/-! ## What a run shows -/

/-- The calls of a run, each with the tracker before it. -/
def steps (t : Tracker α) : List (Call α) → List (Tracker α × Call α)
  | [] => []
  | call :: calls => (t, call) :: (t.perform call).after.steps calls

/-- The records that an event gave as those of evicted handles. -/
def Event.evicted : Event α → List Record
  | ⟨.close _, .done (.close (.closed _ records))⟩ => records
  | ⟨.resize _, .done (.evicted records)⟩ => records
  | _ => []

/-- The records of the handles evicted in a history, in order. -/
def evicted (events : List (Event α)) : List Record := events.flatMap Event.evicted

/-- Whether an event is a refusal to open an id again. -/
def Event.isDuplicate : Event α → Bool
  | ⟨.register _ _, .failed _⟩ => true
  | _ => false

/-- The referents of evicted handles that a call releases. -/
def evictedReferents (t : Tracker α) (call : Call α) : List (Referent α) :=
  match call with
  | .close _ | .resize _ => (t.perform call).released
  | _ => []

/-- The referents of the handles evicted in some steps, in order. -/
def evictedIn (steps : List (Tracker α × Call α)) : List (Referent α) :=
  steps.flatMap fun (t, call) => t.evictedReferents call

/-- Whether a call is a check of an id before its use. -/
def Call.isValidate : Call α → Bool
  | .validate _ => true
  | _ => false

/-- The id that a call uses, and what for. -/
def Call.use? : Call α → Option (HandleId × Operation)
  | .close id => some (id, .close)
  | .validate id => some (id, .dereference)
  | _ => none

/-- Whether a call uses an id that is not open, for an operation. -/
def misuses (operation : Operation) (t : Tracker α) (call : Call α) : Bool :=
  match call.use? with
  | some (id, operation') => operation' = operation && !t.table.has id
  | none => false

/-- The report that a call makes, and the answer to it if there is a hook. -/
def reportOf? (t : Tracker α) (call : Call α) : Option (InvalidUse × Option Answer) :=
  (call.use?.bind fun (id, operation) => t.report? id operation).map fun use =>
    (use, t.answer? use)

/-- The reports of some steps, each with the answer to it. -/
def reports (steps : List (Tracker α × Call α)) : List (InvalidUse × Option Answer) :=
  steps.filterMap fun (t, call) => t.reportOf? call

/-- What a counter counts, in the events and the steps of a run. -/
def counted (events : List (Event α)) (steps : List (Tracker α × Call α)) : Counter → Nat
  | .registers => (opened events).length
  | .duplicateRegisters => events.countP Event.isDuplicate
  | .closes => (closed events).length
  | .invalidCloses => steps.countP fun (t, call) => t.misuses .close call
  | .validations => steps.countP fun (_, call) => call.isValidate
  | .useAfterClose => (reports steps).countP fun (use, _) => use.classification = .useAfterClose
  | .unknownHandles => (reports steps).countP fun (use, _) => use.classification = .unknown
  | .reportsDelivered => (reports steps).countP fun (_, answer) => answer = some .accept
  | .callbackFailures => (reports steps).countP fun (_, answer) => answer.any Answer.isRefusal
  | .evictions => (evicted events).length
  | .releaseFailures => (evictedIn steps).countP (·.failure.isSome)

theorem counted_append (events events' : List (Event α)) (steps steps' : List (Tracker α × Call α))
    (c : Counter) :
    counted (events ++ events') (steps ++ steps') c =
      counted events steps c + counted events' steps' c := by
  cases c <;> simp [counted, opened, closed, evicted, evictedIn, reports]

@[simp]
theorem steps_concat (t : Tracker α) (calls : List (Call α)) (call : Call α) :
    t.steps (calls ++ [call]) = t.steps calls ++ [(t.run calls, call)] := by
  induction calls generalizing t with
  | nil => rfl
  | cons first calls ih =>
    rw [List.cons_append, steps, ih]
    rfl

/-! ## What a call counts -/

/-- One more of a counter. -/
def one (c c' : Counter) : Nat := if c = c' then 1 else 0

/-- What the counters count of an eviction. -/
def countedEviction (e : Eviction α) : Counter → Nat
  | .evictions => e.records.length
  | .releaseFailures => e.released.countP (·.failure.isSome)
  | _ => 0

/-- What the counters count of an invalid use and the answer to the report on it. -/
def countedUse (use : InvalidUse) (answer : Option Answer) : Counter → Nat
  | .useAfterClose => (decide (use.classification = .useAfterClose)).toNat
  | .unknownHandles => (decide (use.classification = .unknown)).toNat
  | .reportsDelivered => (decide (answer = some .accept)).toNat
  | .callbackFailures => (answer.any Answer.isRefusal).toNat
  | _ => 0

theorem add_one_get (tally : Tally) (c c' : Counter) :
    (tally.add 1 c).get c' = tally.get c' + UInt64.ofNat (one c c') := by
  cases c <;> cases c' <;> simp [Tally.add, Tally.get, one]

/-- Each counter goes on by what an eviction adds to it. -/
theorem countEviction_get (tally : Tally) (e : Eviction α) (c : Counter) :
    (countEviction tally e).get c = tally.get c + UInt64.ofNat (countedEviction e c) := by
  have hrecords : e.records.length = e.handles.length := List.length_map _
  have hfailures : e.released.countP (·.failure.isSome) = e.failures := List.countP_map
  cases c
  case evictions => rw [countedEviction, hrecords]; rfl
  case releaseFailures => rw [countedEviction, hfailures]; rfl
  all_goals exact (UInt64.add_zero _).symm

/-- Each counter goes on by what a reported use and its answer add to it. -/
theorem countUse_get (tally : Tally) (use : InvalidUse) (answer : Option Answer) (c : Counter) :
    ((tally.countUse use.classification).countDelivery (.ofAnswer answer)).get c =
      tally.get c + UInt64.ofNat (countedUse use answer c) := by
  obtain ⟨id, classification, generation, sequence, operation⟩ := use
  cases classification <;> rcases answer with _ | _ | _ | _ <;> cases c <;>
    simp [Tally.countUse, Tally.countDelivery, Delivery.ofAnswer, Answer.delivery, Tally.get,
      countedUse, Answer.isRefusal]

theorem toNat_eq_ite (b : Bool) : b.toNat = if b then 1 else 0 := by
  cases b <;> rfl

/-- What a counter counts of one step. -/
theorem counted_singleton (e : Event α) (t : Tracker α) (call : Call α) (c : Counter) :
    counted [e] [(t, call)] c =
      match c with
      | .registers => e.opened?.toList.length
      | .duplicateRegisters => e.isDuplicate.toNat
      | .closes => e.closed?.toList.length
      | .invalidCloses => (t.misuses .close call).toNat
      | .validations => call.isValidate.toNat
      | .evictions => e.evicted.length
      | .releaseFailures => (t.evictedReferents call).countP (·.failure.isSome)
      | c => (t.reportOf? call).elim 0 fun (use, answer) => countedUse use answer c := by
  have hreports : reports [(t, call)] = (t.reportOf? call).toList := by
    cases h : t.reportOf? call <;> simp [reports, h]
  cases c
  case registers => cases h : e.opened? <;> simp [counted, opened, h]
  case closes => cases h : e.closed? <;> simp [counted, closed, h]
  case evictions => simp [counted, evicted]
  case releaseFailures => simp [counted, evictedIn]
  case duplicateRegisters => cases h : e.isDuplicate <;> simp [counted, h]
  case invalidCloses => cases h : t.misuses .close call <;> simp [counted, h]
  case validations => cases h : call.isValidate <;> simp [counted, h]
  -- The counters that are left count reports, of which a step makes one at most.
  all_goals
    rw [counted, hreports]
    cases t.reportOf? call with
    | none => rfl
    | some report => simp [countedUse, List.countP_cons, toNat_eq_ite]

/-- The tally of a tracker moves on by what a call counts. -/
def Counts (t : Tracker α) (call : Call α) : Prop :=
  ∀ c, (t.perform call).after.tally.get c =
    t.tally.get c + UInt64.ofNat (counted [⟨call, (t.perform call).outcome⟩] [(t, call)] c)

/-- A registration is counted as one or as a duplicate, as its outcome says. -/
theorem register_counts (t : Tracker α) (id : HandleId) (x : Referent α) :
    t.Counts (.register id x) := by
  intro c
  simp only [counted_singleton, perform, register, Transition.map]
  cases t.table.insert? id x t.generation with
  | some opened =>
    refine (add_one_get t.tally .registers c).trans ?_
    cases c <;> rfl
  | none =>
    cases x.failure with
    | some message => cases c <;> exact (UInt64.add_zero _).symm
    | none =>
      refine (add_one_get t.tally .duplicateRegisters c).trans ?_
      cases c <;> rfl

theorem resize_counts (t : Tracker α) (size : Int) : t.Counts (.resize size) := by
  intro c
  rw [counted_singleton]
  refine (countEviction_get t.tally (t.quarantine.resize (capacityOf size)).1 c).trans ?_
  cases c <;> rfl

/-- Closing an open handle counts it, and those that have to leave the quarantine. -/
theorem close_counts_of_remove? {t : Tracker α} {id : HandleId} {found : Handle α × OpenTable α}
    (hr : t.table.remove? id = some found) : t.Counts (.close id) := by
  intro c
  have hid := OpenTable.mem_ids_of_remove? hr
  have hmisuses : t.misuses .close (.close id) = false := by
    simp [misuses, Call.use?, OpenTable.has_iff.2 hid]
  have hreport : t.reportOf? (.close id) = none :=
    congrArg (Option.map _) (report?_eq_none_iff.2 hid)
  simp only [counted_singleton, hmisuses, hreport, evictedReferents, perform_close_of_remove? hr]
  rw [countEviction_get, add_one_get, UInt64.add_assoc, ← UInt64.ofNat_add]
  congr 2
  cases c
  case evictions | releaseFailures => exact Nat.zero_add _
  all_goals rfl

/-- A check of an open id counts itself. -/
theorem validate_counts_of_mem {t : Tracker α} {id : HandleId} (hid : id ∈ t.table.ids) :
    t.Counts (.validate id) := by
  intro c
  have hreport : t.reportOf? (.validate id) = none :=
    congrArg (Option.map _) (report?_eq_none_iff.2 hid)
  simp only [counted_singleton, hreport, perform_validate_of_mem hid]
  rw [add_one_get]
  cases c <;> rfl

/-- A check of an id that is not open counts itself, and an invalid use. -/
theorem check_counts_of_not_mem {t : Tracker α} {id : HandleId} (hid : id ∉ t.table.ids)
    (operation : Operation) : t.Counts (operation.call id) := by
  intro c
  obtain ⟨use, huse⟩ : ∃ use, t.report? id operation = some use :=
    Option.ne_none_iff_exists'.1 fun h => hid (report?_eq_none_iff.1 h)
  have hmisuses : t.misuses .close (operation.call id) = decide (operation = .close) := by
    cases operation <;>
      simp [misuses, Operation.call, Call.use?, OpenTable.has_eq_false_iff.2 hid]
  have hreport : t.reportOf? (operation.call id) = some (use, t.answer? use) := by
    cases operation <;> exact congrArg (Option.map _) huse
  have hreferents : t.evictedReferents (operation.call id) = [] := by
    cases operation with
    | dereference => rfl
    | close => exact congrArg Transition.released (perform_of_report? huse)
  simp only [counted_singleton, hmisuses, hreport, hreferents, perform_of_report? huse]
  rw [countUse_get, add_one_get, UInt64.add_assoc, ← UInt64.ofNat_add]
  -- What is left compares what a rejected use adds to each counter, for either operation and
  -- every answer.
  congr 2
  cases operation <;> rcases t.answer? use with _ | _ | reason | message
  all_goals
    cases c
    case useAfterClose | unknownHandles | reportsDelivered | callbackFailures =>
      exact Nat.zero_add _
    all_goals rfl

/-- Every call moves the tally on by what it counts. -/
theorem perform_counts (t : Tracker α) (call : Call α) : t.Counts call := by
  cases call with
  | register id x => exact t.register_counts id x
  | close id =>
    cases hr : t.table.remove? id with
    | none => exact check_counts_of_not_mem (OpenTable.remove?_eq_none_iff.1 hr) .close
    | some found => exact close_counts_of_remove? hr
  | validate id =>
    by_cases hid : id ∈ t.table.ids
    · exact validate_counts_of_mem hid
    · exact check_counts_of_not_mem hid .dereference
  | resize size => exact t.resize_counts size
  | _ =>
    intro c
    cases c <;> exact (UInt64.add_zero _).symm

/-- The tally of a run counts what there is to count. -/
theorem run_tally_get (t : Tracker α) (calls : List (Call α)) (c : Counter) :
    (t.run calls).tally.get c =
      t.tally.get c + UInt64.ofNat (counted (t.history calls) (t.steps calls) c) := by
  induction calls using List.reverseRecOn with
  | nil => cases c <;> exact (UInt64.add_zero _).symm
  | append_singleton calls call ih =>
    rw [run_concat, history_concat, steps_concat, counted_append, UInt64.ofNat_add,
      ← UInt64.add_assoc, ← ih]
    exact perform_counts _ call c

/-! ## Handles -/

/-- An event that is neither a close nor a change of the capacity evicts nothing. -/
theorem Event.evicted_eq_nil {call : Call α} {outcome : Outcome Reply}
    (hclose : ∀ id record records, call = .close id →
      outcome ≠ .done (.close (.closed record records)))
    (hresize : ∀ size, call ≠ .resize size) : Event.evicted ⟨call, outcome⟩ = [] := by
  unfold Event.evicted
  split
  · next he =>
    obtain ⟨rfl, rfl⟩ := Event.mk.inj he
    exact absurd rfl (hclose _ _ _ rfl)
  · next he =>
    obtain ⟨rfl, rfl⟩ := Event.mk.inj he
    exact absurd rfl (hresize _)
  · rfl

/-- A handle moves from the table to the quarantine, and from there out of it,
    and its referent is released then. -/
theorem Effect.lengths {k k' : Tracking α} {call : Call α} {outcome : Outcome Reply}
    {released : List (Referent α)} (he : Effect k call outcome released k') :
    let e : Event α := ⟨call, outcome⟩
    k'.table.handles.length + e.closed?.toList.length =
        k.table.handles.length + e.opened?.toList.length ∧
      k'.quarantine.handles.length + e.evicted.length =
        k.quarantine.handles.length + e.closed?.toList.length ∧
      ((∀ id x, call ≠ .register id x) → released.length = e.evicted.length) := by
  intro e
  cases he with
  | registered _ => exact ⟨List.length_append, rfl, fun h => absurd rfl (h _ _)⟩
  | @refused _ x _ =>
    have hopen : e.opened? = none :=
      Event.opened?_eq_none fun _ _ reply _ => x.releaseThen_ne_done _ reply
    rw [hopen]
    exact ⟨rfl, rfl, fun h => absurd rfl (h _ _)⟩
  | @closed _ h before after hid split first =>
    have hlength := congrArg List.length (k.quarantine.push_map Handle.stateless_id h)
    have hrecords : e.evicted.length = (k.quarantine.push h).1.handles.length := List.length_map _
    have hclose : e.closed?.toList.length = 1 := rfl
    have hopen : e.opened?.toList.length = 0 := rfl
    rw [List.length_append, List.length_append, List.length_map, List.length_map, List.length_map,
      List.length_singleton] at hlength
    rw [hrecords, hclose, hopen, split, List.length_append, List.length_append, List.length_cons]
    exact ⟨rfl, (Nat.add_comm _ _).trans hlength, fun _ => List.length_map _⟩
  | rejected _ failed =>
    have hclose : e.closed? = none :=
      Event.closed?_eq_none fun _ record evicted _ => failed record evicted
    have hevicted : e.evicted = [] :=
      Event.evicted_eq_nil (fun _ record evicted _ => failed record evicted) nofun
    rw [hclose, hevicted]
    exact ⟨rfl, rfl, fun _ => rfl⟩
  | advanced => exact ⟨rfl, rfl, fun _ => rfl⟩
  | @resized size =>
    have hlength := congrArg List.length
      (k.quarantine.resize_map Handle.stateless_id (capacityOf size))
    have hrecords : e.evicted.length =
        (k.quarantine.resize (capacityOf size)).1.handles.length := List.length_map _
    rw [List.length_append, List.length_map, List.length_map, List.length_map] at hlength
    rw [hrecords]
    exact ⟨rfl, (Nat.add_comm _ _).trans hlength, fun _ => List.length_map _⟩
  | aside haside =>
    cases call with
    | register _ _ => exact haside.elim
    | close _ => exact haside.elim
    | resize _ => exact haside.elim
    | _ => exact ⟨rfl, rfl, fun _ => rfl⟩

/-- How many handles there are, by the history of a run. -/
structure Sized (events : List (Event α)) (k : Tracking α) : Prop where
  table : (opened events).length = k.table.handles.length + (closed events).length
  quarantine : (closed events).length = k.quarantine.handles.length + (evicted events).length

/-- Every call keeps the sizes in step with the history. -/
theorem Sized.step {events : List (Event α)} {k k' : Tracking α} {call : Call α}
    {outcome : Outcome Reply} {released : List (Referent α)} (hs : Sized events k)
    (he : Effect k call outcome released k') : Sized (events ++ [⟨call, outcome⟩]) k' := by
  obtain ⟨htable, hquarantine, -⟩ := he.lengths
  have hevicted : evicted (events ++ [⟨call, outcome⟩]) =
      evicted events ++ Event.evicted ⟨call, outcome⟩ := by
    rw [evicted, List.flatMap_append, List.flatMap_singleton]
    rfl
  constructor
  · rw [opened_concat, closed_concat, List.length_append, List.length_append, hs.table]
    omega
  · rw [closed_concat, hevicted, List.length_append, List.length_append, hs.quarantine]
    omega

/-- After every run the table has the handles that were opened and not closed, and the
    quarantine those that were closed and not evicted. -/
theorem sized_run (capacity : Nat) (calls : List (Call α)) :
    Sized ((ofCapacity capacity).history calls)
      ((ofCapacity capacity : Tracker α).run calls).tracking :=
  run_invariant ⟨rfl, rfl⟩ Sized.step calls

/-! ## Reports -/

/-- A call makes a report if it uses an id that is not open. -/
theorem reportOf?_length (t : Tracker α) (call : Call α) :
    (t.reportOf? call).toList.length =
      (t.misuses .close call).toNat + (t.misuses .dereference call).toNat := by
  have hreport : ∀ id operation,
      ((t.report? id operation).map fun use => (use, t.answer? use)).toList.length =
        (!t.table.has id).toNat := by
    intro id operation
    cases huse : t.report? id operation with
    | none =>
      rw [OpenTable.has_iff.2 (report?_eq_none_iff.1 huse)]
      rfl
    | some use =>
      rw [OpenTable.has_eq_false_iff.2 (report?_eq_some huse).2.2]
      rfl
  cases call with
  | close id => simp [reportOf?, misuses, Call.use?, hreport]
  | validate id => simp [reportOf?, misuses, Call.use?, hreport]
  | _ => rfl

/-- Every use of an id that is not open is reported once. -/
theorem reports_length (steps : List (Tracker α × Call α)) :
    (reports steps).length = steps.countP (fun (t, call) => t.misuses .close call) +
      steps.countP (fun (t, call) => t.misuses .dereference call) := by
  induction steps with
  | nil => rfl
  | cons step steps ih =>
    obtain ⟨t, call⟩ := step
    have hcons : reports ((t, call) :: steps) = (t.reportOf? call).toList ++ reports steps := by
      cases h : t.reportOf? call <;> simp [reports, h]
    rw [hcons, List.length_append, ih, reportOf?_length, List.countP_cons, List.countP_cons]
    simp only [toNat_eq_ite]
    omega

/-- A report is on a use after close, or on one of an unknown id. -/
theorem reports_length_eq_classified (steps : List (Tracker α × Call α)) :
    (reports steps).length =
      (reports steps).countP (fun (use, _) => use.classification = .useAfterClose) +
        (reports steps).countP (fun (use, _) => use.classification = .unknown) := by
  -- There is no report on a valid use, so the two classifications are all there are.
  have hvalid : ∀ report ∈ reports steps, report.1.classification ≠ .valid := by
    intro report hreport
    obtain ⟨⟨t, call⟩, -, hstep⟩ := List.mem_filterMap.1 hreport
    obtain ⟨use, huse, rfl⟩ := Option.map_eq_some_iff.1 hstep
    obtain ⟨⟨id, operation⟩, -, huse⟩ := Option.bind_eq_some_iff.1 huse
    obtain ⟨-, hclassification, hid⟩ := report?_eq_some huse
    rw [hclassification, ne_eq, classify_eq_valid_iff]
    exact hid
  rw [List.length_eq_countP_add_countP fun r : InvalidUse × Option Answer =>
    r.1.classification = .useAfterClose]
  refine congrArg _ (List.countP_congr fun report hreport => ?_)
  have hne := hvalid report hreport
  rcases hc : report.1.classification with _ | _ | _
  · exact absurd hc hne
  · simp [hc]
  · simp [hc]

/-- A report is accepted, refused, or not heard, or the hook crashes on it. -/
theorem length_eq_answered (reports : List (InvalidUse × Option Answer)) :
    reports.length =
      reports.countP (fun (_, answer) => answer = some .accept) +
      reports.countP (fun (_, answer) => answer.any Answer.isRefusal) +
      reports.countP (fun (_, answer) => answer = none) +
      reports.countP (fun (_, answer) => answer.any Answer.isCrash) := by
  induction reports with
  | nil => rfl
  | cons report reports ih =>
    obtain ⟨use, answer⟩ := report
    simp only [List.length_cons, List.countP_cons, ih]
    rcases answer with _ | _ | reason | message <;>
      simp [Answer.isRefusal, Answer.isCrash] <;> omega

/-! ## Balance -/

theorem history_eq_map (t : Tracker α) (calls : List (Call α)) :
    t.history calls =
      (t.steps calls).map fun (t, call) => ⟨call, (t.perform call).outcome⟩ := by
  induction calls generalizing t with
  | nil => rfl
  | cons call calls ih => exact congrArg _ (ih _)

theorem steps_map_snd (t : Tracker α) (calls : List (Call α)) :
    (t.steps calls).map Prod.snd = calls := by
  induction calls generalizing t with
  | nil => rfl
  | cons call calls ih => exact congrArg _ (ih _)

/-- For each record that is given as evicted, a referent is released. -/
theorem evictedReferents_length (t : Tracker α) (call : Call α) :
    (t.evictedReferents call).length = (Event.evicted ⟨call, (t.perform call).outcome⟩).length := by
  cases call with
  | close id => exact (t.perform_effect (.close id)).lengths.2.2 nofun
  | resize size => exact (t.perform_effect (.resize size)).lengths.2.2 nofun
  | _ => rfl

/-- A referent is released for each record that is evicted. -/
theorem evictedIn_length (t : Tracker α) (calls : List (Call α)) :
    (evictedIn (t.steps calls)).length = (evicted (t.history calls)).length := by
  rw [evictedIn, evicted, history_eq_map, List.flatMap_map, List.length_flatMap,
    List.length_flatMap]
  exact congrArg _ (List.map_congr_left fun step _ => evictedReferents_length step.1 step.2)

/-- No counter counts more than there are calls. -/
theorem counted_le (capacity : Nat) (calls : List (Call α)) (c : Counter) :
    let start : Tracker α := ofCapacity capacity
    counted (start.history calls) (start.steps calls) c ≤ calls.length := by
  intro start
  have hsized := sized_run (α := α) capacity calls
  have hsteps : (start.steps calls).length = calls.length := by
    rw [← List.length_map Prod.snd, steps_map_snd]
  have hevents : (start.history calls).length = calls.length := by
    rw [history_eq_map, List.length_map, hsteps]
  have hclosed : (closed (start.history calls)).length ≤ calls.length :=
    hevents ▸ List.length_filterMap_le _ _
  -- Nothing is evicted that was not closed before.
  have hevicted : (evicted (start.history calls)).length ≤ calls.length :=
    Nat.le_trans (Nat.le_add_left _ _) (hsized.quarantine ▸ hclosed)
  have hreports : (reports (start.steps calls)).length ≤ calls.length :=
    hsteps ▸ List.length_filterMap_le _ _
  cases c
  case registers => exact hevents ▸ List.length_filterMap_le _ _
  case duplicateRegisters => exact hevents ▸ List.countP_le_length
  case closes => exact hclosed
  case invalidCloses | validations => exact hsteps ▸ List.countP_le_length
  case evictions => exact hevicted
  case releaseFailures =>
    exact Nat.le_trans List.countP_le_length (evictedIn_length start calls ▸ hevicted)
  all_goals exact Nat.le_trans List.countP_le_length hreports

/-- The counters of a tracker balance, after the calls of a run and what it
    shows. -/
structure Balanced (calls : List (Call α)) (events : List (Event α))
    (steps : List (Tracker α × Call α)) (t : Tracker α) (n : Counter → Nat) : Prop where
  /-- A handle that was opened is open, in quarantine or evicted. -/
  registers : n .registers = t.table.handles.length + t.quarantine.handles.length + n .evictions
  closes : n .closes = t.quarantine.handles.length + n .evictions
  evictions : n .evictions = (evicted events).length
  /-- There is a referent for each record that was given as evicted. -/
  referents : (evictedIn steps).length = (evicted events).length
  releaseFailures : n .releaseFailures = (evictedIn steps).countP (·.failure.isSome)
  validations : n .validations = calls.countP Call.isValidate
  invalidCloses : n .invalidCloses = steps.countP fun (t, call) => t.misuses .close call
  /-- Every use of an id that is not open is counted, by what the id stands for. -/
  uses : n .useAfterClose + n .unknownHandles =
    n .invalidCloses + steps.countP fun (t, call) => t.misuses .dereference call
  reportsDelivered : n .reportsDelivered =
    (reports steps).countP fun (_, answer) => answer = some .accept
  callbackFailures : n .callbackFailures =
    (reports steps).countP fun (_, answer) => answer.any Answer.isRefusal
  /-- The rest of the uses were made without a hook, or the hook crashed. -/
  answers : n .useAfterClose + n .unknownHandles = n .reportsDelivered + n .callbackFailures +
    (reports steps).countP (fun (_, answer) => answer = none) +
    (reports steps).countP (fun (_, answer) => answer.any Answer.isCrash)

/-- After every run of fewer calls than a counter can count, the counters
    balance. -/
theorem tally_balances (capacity : Nat) (calls : List (Call α)) (few : calls.length < UInt64.size) :
    let start : Tracker α := ofCapacity capacity
    let t := start.run calls
    Balanced calls (start.history calls) (start.steps calls) t fun c => (t.tally.get c).toNat := by
  intro start t
  let events := start.history calls
  let steps := start.steps calls
  -- No counter wraps, as there are fewer calls than a word can count.
  have hn : (fun c => (t.tally.get c).toNat) = counted events steps := by
    funext c
    have hget : t.tally.get c = UInt64.ofNat (counted events steps c) :=
      (start.run_tally_get calls c).trans (by cases c <;> exact UInt64.zero_add _)
    have hlt : counted events steps c < UInt64.size :=
      Nat.lt_of_le_of_lt (counted_le capacity calls c) few
    rw [hget, UInt64.toNat_ofNat_of_lt' hlt]
  have hsized : Sized events t.tracking := sized_run capacity calls
  have huses := reports_length_eq_classified steps
  rw [hn]
  exact
    { registers := hsized.table.trans (by rw [hsized.quarantine, ← Nat.add_assoc]; rfl)
      closes := hsized.quarantine
      evictions := rfl
      referents := evictedIn_length start calls
      releaseFailures := rfl
      validations := by
        have hcalls := congrArg (List.countP Call.isValidate) (start.steps_map_snd calls)
        rw [List.countP_map] at hcalls
        exact hcalls
      invalidCloses := rfl
      uses := huses.symm.trans (reports_length steps)
      reportsDelivered := rfl
      callbackFailures := rfl
      answers := huses.symm.trans (length_eq_answered (reports steps)) }

/-- Of five reports one finds no hook, and the hook refuses the second of them,
    crashes on the third and accepts the rest. The handle is evicted in between,
    and its release fails. -/
theorem tally_balances_after_crash :
    let x : Referent Nat := ⟨7, some "stuck"⟩
    let hook : Hook InvalidUse := { answer := fun heard _ => match heard.length with
      | 0 => .refuse "no"
      | 1 => .crash "down"
      | _ => .accept }
    let calls := [.register ⟨1⟩ x, .close ⟨1⟩, .validate ⟨1⟩, .install hook, .close ⟨1⟩,
      .validate ⟨1⟩, .resize 0, .validate ⟨1⟩, .close ⟨2⟩, .register ⟨1⟩ x]
    let start : Tracker Nat := ofCapacity 1
    let t := start.run calls
    calls.length < UInt64.size ∧
      Balanced calls (start.history calls) (start.steps calls) t
        (fun c => (t.tally.get c).toNat) ∧
      t.tally =
        { registers := 2, closes := 1, invalidCloses := 2, validations := 3, useAfterClose := 3,
          unknownHandles := 2, reportsDelivered := 2, callbackFailures := 1, evictions := 1,
          releaseFailures := 1 } := by
  intro x hook calls start t
  have few : calls.length < UInt64.size := by decide
  exact ⟨few, tally_balances 1 calls few, by decide +kernel⟩

end Tracker

end HandleWatch
