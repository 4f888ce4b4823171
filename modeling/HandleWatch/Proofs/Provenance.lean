import HandleWatch.Proofs.History
import HandleWatch.Proofs.Reporting

/-!
# Where the handle of a report comes from

A use of an id that is not open is reported once. If a closed handle of this id
is in quarantine, the report tells its generation and its sequence number. There
may be several, as ids are used again; the one that is told is the one closed
last, and this is the one opened last under this id in the whole run
(`Tracker.Latest`): a handle is closed before its id is opened again.

* `Tracker.reported_once`: after every run, a check of an id that is not open
  makes one report, which tells what the history does (`Tracker.Faithful`), and
  a check of an open id makes none.
-/

namespace HandleWatch

/-- What is found from the end of a list is found from the end of one that ends
    with it. -/
theorem find?_reverse_of_suffix {β : Type} {p : β → Bool} {l l' : List β} {x : β}
    (hl : l <:+ l') (hx : l.reverse.find? p = some x) : l'.reverse.find? p = some x := by
  obtain ⟨before, rfl⟩ := hl
  rw [List.reverse_append, List.find?_append, hx]
  rfl

namespace Tracker

variable {α : Type}

/-! ## The last handle of an id -/

/-- The handle that was opened last under an id. -/
def lastOpened? (events : List (Event α)) (id : HandleId) : Option (Handle α) :=
  (opened events).reverse.find? fun h => h.id = id

/-- The record of the handle that was closed last under an id. -/
def lastClosed? (events : List (Event α)) (id : HandleId) : Option Record :=
  (closed events).reverse.find? fun r => r.id = id

/-- The last registration of an id, after one more. -/
theorem lastOpened?_of_concat {events events' : List (Event α)} {h : Handle α}
    (hopened : opened events' = opened events ++ [h]) (id : HandleId) :
    lastOpened? events' id = if h.id = id then some h else lastOpened? events id := by
  rw [lastOpened?, hopened, List.reverse_concat, List.find?_cons, lastOpened?]
  by_cases hid : h.id = id <;> simp [hid]

theorem lastClosed?_of_concat {events events' : List (Event α)} {r : Record}
    (hclosed : closed events' = closed events ++ [r]) (id : HandleId) :
    lastClosed? events' id = if r.id = id then some r else lastClosed? events id := by
  rw [lastClosed?, hclosed, List.reverse_concat, List.find?_cons, lastClosed?]
  by_cases hid : r.id = id <;> simp [hid]

theorem lastOpened?_congr {events events' : List (Event α)}
    (hopened : opened events' = opened events) (id : HandleId) :
    lastOpened? events' id = lastOpened? events id := by
  rw [lastOpened?, hopened, lastOpened?]

theorem lastClosed?_congr {events events' : List (Event α)}
    (hclosed : closed events' = closed events) (id : HandleId) :
    lastClosed? events' id = lastClosed? events id := by
  rw [lastClosed?, hclosed, lastClosed?]

/-- The handle opened last under an id is open, or it is the one closed last. -/
structure Latest (events : List (Event α)) (k : Tracking α) : Prop where
  opened : ∀ id h, k.table.find? id = some h → lastOpened? events id = some h
  closed : ∀ id, k.table.find? id = none →
    lastClosed? events id = (lastOpened? events id).map Handle.record

namespace Latest

variable {events events' : List (Event α)} {k : Tracking α}

/-- A handle that is opened is the last one of its id. -/
theorem of_opened (hl : Latest events k) {h : Handle α} (fresh : h.id ∉ k.table.ids) (n : Nat)
    (hopened : Tracker.opened events' = Tracker.opened events ++ [h])
    (hclosed : Tracker.closed events' = Tracker.closed events) :
    Latest events' { k with table := ⟨k.table.handles ++ [h], n⟩ } := by
  constructor
  · intro id h' hfound
    rw [OpenTable.find?_concat fresh] at hfound
    rw [lastOpened?_of_concat hopened]
    split at hfound
    · next hid => rw [if_pos hid, hfound]
    · next hid => rw [if_neg hid, hl.opened id h' hfound]
  · intro id hnone
    rw [OpenTable.find?_concat fresh] at hnone
    rw [lastOpened?_of_concat hopened, lastClosed?_congr hclosed]
    split at hnone
    · cases hnone
    · next hid => rw [if_neg hid, hl.closed id hnone]

/-- A handle that is closed was open, so it is the last one of its id. -/
theorem of_closed (hl : Latest events k) (distinct : k.table.ids.Nodup) {h : Handle α}
    {before after : List (Handle α)} (hsplit : k.table.handles = before ++ h :: after)
    (hfound : k.table.find? h.id = some h) (quarantine : Quarantine α)
    (hopened : Tracker.opened events' = Tracker.opened events)
    (hclosed : Tracker.closed events' = Tracker.closed events ++ [h.record]) :
    Latest events'
      { k with table := { k.table with handles := before ++ after }, quarantine } := by
  constructor
  · intro id h' hfound'
    rw [OpenTable.find?_removed distinct hsplit] at hfound'
    split at hfound'
    · cases hfound'
    · rw [lastOpened?_congr hopened, hl.opened id h' hfound']
  · intro id hnone
    rw [OpenTable.find?_removed distinct hsplit] at hnone
    rw [lastOpened?_congr hopened, lastClosed?_of_concat hclosed]
    by_cases hid : h.id = id
    · subst hid
      rw [hl.opened h.id h hfound]
      exact if_pos rfl
    · rw [if_neg hid] at hnone
      exact (if_neg hid).trans (hl.closed id hnone)

/-- Every call keeps track of the last handles. -/
theorem step {k' : Tracking α} {call : Call α} {outcome : Outcome Reply}
    {released : List (Referent α)} (hl : Latest events k) (distinct : k.table.ids.Nodup)
    (he : Effect k call outcome released k') : Latest (events ++ [⟨call, outcome⟩]) k' := by
  have hopened := opened_concat events ⟨call, outcome⟩
  have hclosed := closed_concat events ⟨call, outcome⟩
  rcases he.moves with ⟨h, fresh, -, -, hopen, hclose, rfl⟩ |
    ⟨h, before, after, hsplit, hfirst, -, hopen, hclose, rfl⟩ | ⟨hopen, hclose, htable, -⟩
    <;> rw [hopen] at hopened <;> rw [hclose] at hclosed
  · exact hl.of_opened fresh _ hopened (hclosed.trans (List.append_nil _))
  · have hfound := OpenTable.find?_eq_some_iff.2 ⟨rfl, before, after, hsplit, hfirst⟩
    exact hl.of_closed distinct hsplit hfound _ (hopened.trans (List.append_nil _)) hclosed
  · rw [Option.toList_none, List.append_nil] at hopened hclosed
    constructor
    · intro id h hfound
      rw [lastOpened?_congr hopened, hl.opened id h (htable ▸ hfound)]
    · intro id hnone
      rw [lastOpened?_congr hopened, lastClosed?_congr hclosed, hl.closed id (htable ▸ hnone)]

end Latest

/-- After every run the handles are those of the last registrations of their ids. -/
theorem latest_run (capacity : Nat) (calls : List (Call α)) :
    let events := (ofCapacity capacity : Tracker α).history calls
    let k := ((ofCapacity capacity : Tracker α).run calls).tracking
    Accounts events k ∧ Latest events k :=
  run_invariant (P := fun events k => Accounts events k ∧ Latest events k)
    ⟨accounts_run capacity [], nofun, fun _ _ => rfl⟩
    (fun h he => ⟨h.1.step he, h.2.step h.1.distinct he⟩) calls

/-- A closed handle that is found under an id has the generation and the number
    of the one opened last. -/
theorem Latest.of_quarantined {events : List (Event α)} {k : Tracking α} (hl : Latest events k)
    (ha : Accounts events k) {id : HandleId} (hnone : k.table.find? id = none) {h : Handle α}
    (hfound : k.quarantine.find? id = some h) :
    ∃ h', lastOpened? events id = some h' ∧ h.record = h'.record.quarantined := by
  -- The quarantine holds the last ones of the closed handles.
  have hrecord : (k.quarantine.handles.map Handle.record).reverse.find? (fun r => r.id = id) =
      some h.record := by
    rw [← List.map_reverse, List.find?_map]
    exact congrArg (Option.map Handle.record) hfound
  have hlast := find?_reverse_of_suffix ha.quarantine hrecord
  rw [← List.map_reverse, List.find?_map] at hlast
  obtain ⟨r, hr, hquarantined⟩ := Option.map_eq_some_iff.1 hlast
  obtain ⟨h', hopened, rfl⟩ := Option.map_eq_some_iff.1 ((hl.closed id hnone).symm.trans hr)
  exact ⟨h', hopened, hquarantined.symm⟩

/-! ## Reports -/

/-- The report on the use of an id for an operation says what the history
    tells. -/
structure Faithful (events : List (Event α)) (id : HandleId) (classification : Classification)
    (operation : Operation) (use : InvalidUse) : Prop where
  id_eq : use.id = id
  classification_eq : use.classification = classification
  operation_eq : use.operation = operation
  /-- Nothing is known of an unknown handle. -/
  unknown : classification = .unknown → use.generation = none ∧ use.sequence = none
  /-- A closed handle is the one opened last under its id. -/
  closed : classification = .useAfterClose → ∃ h, lastOpened? events id = some h ∧
    use.generation = some h.record.generation ∧ use.sequence = some h.record.sequence

/-- The report on an id that is not open is faithful to the history. -/
theorem Latest.faithful {events : List (Event α)} {t : Tracker α} (hl : Latest events t.tracking)
    (ha : Accounts events t.tracking) {id : HandleId} (hopen : t.classify id ≠ .valid)
    (operation : Operation) :
    ∃ use, t.report? id operation = some use ∧
      Faithful events id (t.classify id) operation use := by
  rw [classify, HandleWatch.classify] at hopen ⊢
  rw [report?, HandleWatch.classify]
  cases htable : t.table.find? id with
  | some h =>
    rw [htable] at hopen
    exact absurd rfl hopen
  | none =>
    cases hquarantine : t.quarantine.find? id with
    | none => exact ⟨_, rfl, rfl, rfl, rfl, fun _ => ⟨rfl, rfl⟩, by rintro ⟨⟩⟩
    | some h =>
      obtain ⟨h', hopened, hrecord⟩ := hl.of_quarantined ha htable hquarantine
      refine ⟨_, rfl, rfl, rfl, rfl, by rintro ⟨⟩, fun _ => ⟨h', hopened, ?_⟩⟩
      rw [Option.map_some, Option.map_some, hrecord]
      exact ⟨rfl, rfl⟩

/-- A check makes no report on an open id, and lets it pass. -/
theorem perform_of_valid {t : Tracker α} {id : HandleId} (hvalid : t.classify id = .valid)
    (operation : Operation) :
    let step := t.perform (operation.call id)
    step.after.sink = t.sink ∧
      (operation = .dereference → step.outcome = .done (.classification .valid)) ∧
      (operation = .close → ∃ record evicted,
        step.outcome = .done (.close (.closed record evicted))) := by
  intro step
  have hid := classify_eq_valid_iff.1 hvalid
  cases operation with
  | dereference =>
    simp only [step, Operation.call, perform_validate_of_mem hid]
    exact ⟨trivial, fun _ => trivial, by rintro ⟨⟩⟩
  | close =>
    cases hr : t.table.remove? id with
    | none => exact absurd hid (OpenTable.remove?_eq_none_iff.1 hr)
    | some found =>
      simp only [step, Operation.call, perform_close_of_remove? hr]
      exact ⟨trivial, by rintro ⟨⟩, fun _ => ⟨_, _, rfl⟩⟩

/-- After every run, a check of an open id makes no report. One of an id that is
    not open makes one, which tells the id, what it stands for and what it was
    to be used for, and of a closed handle the generation and the number with
    which its id was opened last. The report is the last one and the hook hears
    it once; only a hook that objects changes what the check comes to. -/
theorem reported_once (capacity : Nat) (calls : List (Call α)) (id : HandleId)
    (operation : Operation) :
    let events := (ofCapacity capacity : Tracker α).history calls
    let t := (ofCapacity capacity : Tracker α).run calls
    let step := t.perform (operation.call id)
    (t.classify id = .valid →
      step.after.sink = t.sink ∧
        (operation = .dereference → step.outcome = .done (.classification .valid)) ∧
        (operation = .close → ∃ record evicted,
          step.outcome = .done (.close (.closed record evicted)))) ∧
    (t.classify id ≠ .valid →
      ∃ use, Faithful events id (t.classify id) operation use ∧
        step.after.sink.last = some use ∧
        step.after.sink.hook = t.sink.hook.map (fun hook =>
          { hook with heard := hook.heard ++ [use] }) ∧
        step.outcome =
          match t.answer? use with
          | some (.refuse reason) => .failed (.hookRefused id (t.classify id) reason)
          | some (.crash message) => .crashed message
          | some .accept | none => .done (operation.rejection (t.classify id))) := by
  intro events t step
  refine ⟨fun hvalid => perform_of_valid hvalid operation, fun hinvalid => ?_⟩
  obtain ⟨ha, hl⟩ := latest_run (α := α) capacity calls
  obtain ⟨use, huse, hfaithful⟩ := hl.faithful ha hinvalid operation
  have hstep : step = _ := perform_of_report? huse
  rw [hstep]
  refine ⟨use, hfaithful, rfl, rfl, ?_⟩
  simp only [InvalidUse.overrule.eq_def, hfaithful.id_eq, hfaithful.classification_eq]
  rfl

-- Of two handles with one id in quarantine, a report tells the one opened last.
example :
    let x : Referent Nat := ⟨7, none⟩
    let t := (ofCapacity 2).run
      [.register ⟨1⟩ x, .close ⟨1⟩, .newGeneration, .register ⟨1⟩ x, .close ⟨1⟩]
    t.quarantine.ids = [⟨1⟩, ⟨1⟩] ∧
      t.report? ⟨1⟩ .dereference = some ⟨⟨1⟩, .useAfterClose, some 1, some 1, .dereference⟩ := by
  decide +kernel

end Tracker

end HandleWatch
