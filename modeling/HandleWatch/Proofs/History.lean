import HandleWatch.Proofs.TrackerRun

/-!
# The handles of a run and its history

The history of a run tells which handles were opened, and which were closed, in
order (`Tracker.opened`, `Tracker.closed`). The open handles are some of those
opened, in the order of their opening, which is that of their sequence numbers;
the handles in quarantine are the last ones of those closed, in the order of
their closing (`Tracker.Accounts`, `Tracker.accounts_run`).
-/

namespace HandleWatch

/-- The record of a handle that is in quarantine. -/
def Record.quarantined (r : Record) : Record := { r with state := .quarantined }

/-- The handle as it was opened. -/
def Handle.original {α : Type} (h : Handle α) : Handle α :=
  { h with record := { h.record with state := .opened } }

/-- An open handle can be put into quarantine. -/
theorem Handle.advance_of_opened {α : Type} {h : Handle α} (hopen : h.record.state = .opened) :
    h.advance .quarantined = { h with record := h.record.quarantined } := by
  rw [Handle.advance, hopen]
  rfl

theorem Handle.original_of_opened {α : Type} {h : Handle α} (hopen : h.record.state = .opened) :
    h.original = h := by
  obtain ⟨⟨id, generation, sequence, state⟩, x⟩ := h
  cases hopen
  rfl

namespace Tracker

variable {α : Type}

/-- The handle that an event opened. -/
def Event.opened? : Event α → Option (Handle α)
  | ⟨.register _ x, .done (.record r)⟩ => some ⟨r, x⟩
  | _ => none

/-- The record of the handle that an event closed. -/
def Event.closed? : Event α → Option Record
  | ⟨.close _, .done (.close (.closed r _))⟩ => some r
  | _ => none

/-- The handles opened in a history, in order. -/
def opened (events : List (Event α)) : List (Handle α) := events.filterMap Event.opened?

/-- The records of the handles closed in a history, in order. -/
def closed (events : List (Event α)) : List Record := events.filterMap Event.closed?

theorem opened_concat (events : List (Event α)) (e : Event α) :
    opened (events ++ [e]) = opened events ++ e.opened?.toList := by
  rw [opened, List.filterMap_append]
  cases h : e.opened? <;> simp [opened, h]

theorem closed_concat (events : List (Event α)) (e : Event α) :
    closed (events ++ [e]) = closed events ++ e.closed?.toList := by
  rw [closed, List.filterMap_append]
  cases h : e.closed? <;> simp [closed, h]

/-- An event that did not open a handle. -/
theorem Event.opened?_eq_none {call : Call α} {outcome : Outcome Reply}
    (h : ∀ id x reply, call = .register id x → outcome ≠ .done reply) :
    Event.opened? ⟨call, outcome⟩ = none := by
  unfold Event.opened?
  split
  · next he =>
    obtain ⟨rfl, rfl⟩ := Event.mk.inj he
    exact absurd rfl (h _ _ _ rfl)
  · rfl

/-- An event that did not close a handle. -/
theorem Event.closed?_eq_none {call : Call α} {outcome : Outcome Reply}
    (h : ∀ id record evicted, call = .close id →
      outcome ≠ .done (.close (.closed record evicted))) :
    Event.closed? ⟨call, outcome⟩ = none := by
  unfold Event.closed?
  split
  · next he =>
    obtain ⟨rfl, rfl⟩ := Event.mk.inj he
    exact absurd rfl (h _ _ _ rfl)
  · rfl

/-- What a call does to the tracked handles, and what its event tells of it: it
    opens a handle, or closes one, or neither. -/
theorem Effect.moves {k k' : Tracking α} {call : Call α} {outcome : Outcome Reply}
    {released : List (Referent α)} (he : Effect k call outcome released k') :
    let e : Event α := ⟨call, outcome⟩
    (∃ h : Handle α, h.id ∉ k.table.ids ∧ call = .register h.id h.referent ∧
      h.record = ⟨h.id, k.generation, k.table.nextSequence, .opened⟩ ∧
      e.opened? = some h ∧ e.closed? = none ∧
      k' = { k with table := ⟨k.table.handles ++ [h], k.table.nextSequence + 1⟩ }) ∨
    (∃ h before after, k.table.handles = before ++ h :: after ∧ (∀ x ∈ before, x.id ≠ h.id) ∧
      call = .close h.id ∧ e.opened? = none ∧ e.closed? = some h.record ∧
      k' = { k with
        table := { k.table with handles := before ++ after }
        quarantine := (k.quarantine.push h).2 }) ∨
    (e.opened? = none ∧ e.closed? = none ∧ k'.table = k.table ∧
      ((∃ size, call = .resize size ∧
          k'.quarantine = (k.quarantine.resize (capacityOf size)).2) ∨
        ((∀ size, call ≠ .resize size) ∧ k'.quarantine = k.quarantine))) := by
  -- A handle is opened or closed, or neither, and then the quarantine may be given another
  -- capacity.
  cases he with
  | @registered id x fresh =>
    exact .inl ⟨⟨⟨id, k.generation, k.table.nextSequence, .opened⟩, x⟩, fresh, rfl, rfl, rfl, rfl,
      rfl⟩
  | @closed _ h before after hid split first =>
    subst hid
    exact .inr (.inl ⟨h, before, after, split, first, rfl, rfl, rfl, rfl⟩)
  | @refused _ x _ =>
    exact .inr (.inr ⟨Event.opened?_eq_none fun _ _ reply _ => x.releaseThen_ne_done _ reply,
      Event.closed?_eq_none nofun, rfl, .inr ⟨nofun, rfl⟩⟩)
  | rejected _ failed =>
    exact .inr (.inr ⟨Event.opened?_eq_none nofun,
      Event.closed?_eq_none fun _ record evicted _ => failed record evicted, rfl,
      .inr ⟨nofun, rfl⟩⟩)
  | advanced => exact .inr (.inr ⟨rfl, rfl, rfl, .inr ⟨nofun, rfl⟩⟩)
  | @resized size => exact .inr (.inr ⟨rfl, rfl, rfl, .inl ⟨size, rfl, rfl⟩⟩)
  | aside haside =>
    refine .inr (.inr ⟨Event.opened?_eq_none ?_, Event.closed?_eq_none ?_, rfl, .inr ⟨?_, rfl⟩⟩)
    · rintro _ _ _ rfl
      exact haside.elim
    · rintro _ _ _ rfl
      exact haside.elim
    · rintro _ rfl
      exact haside.elim

/-- What holds at first, and is kept by whatever a call may do, holds of the
    history and the tracked handles of every run. -/
theorem run_invariant {P : List (Event α) → Tracking α → Prop} {t : Tracker α}
    (init : P [] t.tracking)
    (step : ∀ {events k call outcome released k'}, P events k →
      Effect k call outcome released k' → P (events ++ [⟨call, outcome⟩]) k')
    (calls : List (Call α)) : P (t.history calls) (t.run calls).tracking := by
  induction calls using List.reverseRecOn with
  | nil => exact init
  | append_singleton calls call ih =>
    rw [history_concat, run_concat]
    exact step ih (perform_effect _ call)

/-- How the tracked handles `k` follow from a history. -/
structure Accounts (events : List (Event α)) (k : Tracking α) : Prop where
  /-- The handles opened are numbered in order. -/
  sequences : (opened events).map (·.record.sequence) = List.range (opened events).length
  nextSequence : k.table.nextSequence = (opened events).length
  state : ∀ h ∈ opened events, h.record.state = .opened
  /-- The open handles are some of those opened, in that order. -/
  table : k.table.handles.Sublist (opened events)
  /-- No two open handles have one id. -/
  distinct : k.table.ids.Nodup
  /-- The handles in quarantine are the last ones of those closed, in that order. -/
  quarantine : k.quarantine.handles.map (·.record) <:+ (closed events).map Record.quarantined
  /-- They hold the referents for which they were opened. -/
  referents : ∀ h ∈ k.quarantine.handles, h.original ∈ opened events

namespace Accounts

variable {events events' : List (Event α)} {k k' : Tracking α}

/-- A handle that is opened is the last one in the table, and has the next number. -/
theorem of_opened (ha : Accounts events k) {h : Handle α} (fresh : h.id ∉ k.table.ids)
    (hrecord : h.record = ⟨h.id, k.generation, k.table.nextSequence, .opened⟩)
    (hopened : opened events' = opened events ++ [h]) (hclosed : closed events' = closed events) :
    Accounts events'
      { k with table := ⟨k.table.handles ++ [h], k.table.nextSequence + 1⟩ } := by
  constructor
  · rw [hopened, List.map_append, ha.sequences, List.length_append, List.length_singleton,
      List.range_succ, List.map_singleton, hrecord, ← ha.nextSequence]
  · rw [hopened, List.length_append, List.length_singleton, ← ha.nextSequence]
  · rw [hopened]
    exact List.forall_mem_append.2 ⟨ha.state, List.forall_mem_singleton.2 (by rw [hrecord])⟩
  · rw [hopened]
    exact ha.table.append (List.Sublist.refl _)
  · rw [OpenTable.ids, List.map_append, List.nodup_append]
    refine ⟨ha.distinct, List.pairwise_singleton _ _, fun a hold b hnew => ?_⟩
    rw [List.mem_singleton.1 hnew]
    rintro rfl
    exact fresh hold
  · rw [hclosed]
    exact ha.quarantine
  · rw [hopened]
    exact fun h' hmem => List.mem_append_left _ (ha.referents h' hmem)

/-- A handle that is closed was open, so it goes to the quarantine as the last one. -/
theorem of_closed (ha : Accounts events k) {h : Handle α} {before after : List (Handle α)}
    (hsplit : k.table.handles = before ++ h :: after)
    (hopened : opened events' = opened events)
    (hclosed : closed events' = closed events ++ [h.record]) :
    Accounts events'
      { k with
        table := { k.table with handles := before ++ after }
        quarantine := (k.quarantine.push h).2 } := by
  -- The handle was opened before, so it goes to the quarantine as it was registered.
  have hmem : h ∈ opened events :=
    ha.table.subset (hsplit ▸ List.mem_append_right _ List.mem_cons_self)
  have hstate := ha.state h hmem
  have hremoved : (before ++ after).Sublist k.table.handles := by
    rw [hsplit]
    exact (List.Sublist.refl before).append (List.sublist_cons_self h after)
  have hstays := k.quarantine.push_suffix h
  rw [Handle.advance_of_opened hstate] at hstays
  refine ⟨hopened ▸ ha.sequences, hopened ▸ ha.nextSequence, hopened ▸ ha.state,
    hopened ▸ hremoved.trans ha.table, ha.distinct.sublist (hremoved.map _), ?_, ?_⟩
  · rw [hclosed, List.map_append]
    refine (hstays.map _).trans ?_
    obtain ⟨gone, hgone⟩ := ha.quarantine
    exact ⟨gone, by rw [List.map_append, ← List.append_assoc, hgone]; rfl⟩
  · rw [hopened]
    intro h' hmem'
    rcases List.mem_append.1 (hstays.subset hmem') with hold | hnew
    · exact ha.referents h' hold
    · rw [List.mem_singleton.1 hnew]
      exact (Handle.original_of_opened hstate).symm ▸ hmem

/-- Handles may leave the quarantine, the ones closed first first. -/
theorem of_suffix (ha : Accounts events k) (hopened : opened events' = opened events)
    (hclosed : closed events' = closed events) (htable : k'.table = k.table)
    (hsuffix : k'.quarantine.handles <:+ k.quarantine.handles) : Accounts events' k' := by
  constructor
  · exact hopened ▸ ha.sequences
  · rw [hopened, htable]
    exact ha.nextSequence
  · exact hopened ▸ ha.state
  · rw [hopened, htable]
    exact ha.table
  · exact htable ▸ ha.distinct
  · rw [hclosed]
    exact (hsuffix.map _).trans ha.quarantine
  · rw [hopened]
    exact fun h hh => ha.referents h (hsuffix.subset hh)

/-- Every call keeps account of the handles. -/
theorem step {call : Call α} {outcome : Outcome Reply} {released : List (Referent α)}
    (ha : Accounts events k) (he : Effect k call outcome released k') :
    Accounts (events ++ [⟨call, outcome⟩]) k' := by
  have hopened := opened_concat events ⟨call, outcome⟩
  have hclosed := closed_concat events ⟨call, outcome⟩
  rcases he.moves with ⟨h, fresh, -, hrecord, hopen, hclose, rfl⟩ |
    ⟨h, before, after, hsplit, -, -, hopen, hclose, rfl⟩ | ⟨hopen, hclose, htable, hquarantine⟩
    <;> rw [hopen] at hopened <;> rw [hclose] at hclosed
  · exact ha.of_opened fresh hrecord hopened (hclosed.trans (List.append_nil _))
  · exact ha.of_closed hsplit (hopened.trans (List.append_nil _)) hclosed
  · refine ha.of_suffix (hopened.trans (List.append_nil _)) (hclosed.trans (List.append_nil _))
      htable ?_
    rcases hquarantine with ⟨size, -, hresize⟩ | ⟨-, hsame⟩
    · rw [hresize]
      exact k.quarantine.resize_suffix _
    · exact hsame ▸ List.suffix_rfl

end Accounts

/-- The tracked handles of a run follow from its history. -/
theorem accounts_run (capacity : Nat) (calls : List (Call α)) :
    Accounts ((ofCapacity capacity).history calls)
      ((ofCapacity capacity : Tracker α).run calls).tracking :=
  run_invariant
    ⟨rfl, rfl, nofun, List.Sublist.refl _, List.nodup_nil, List.suffix_rfl, nofun⟩
    Accounts.step calls

end Tracker

end HandleWatch
