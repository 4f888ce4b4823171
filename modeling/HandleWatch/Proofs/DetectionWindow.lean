import HandleWatch.Proofs.History
import HandleWatch.Proofs.Recency
import Mathlib.Data.List.Nodup

/-!
# The window of detection

What an id stands for can be told from the history of a run alone:

* it is open if it was registered, and not closed since (`Tracker.StillOpen`);
* else its use is a use after close as long as its last close is in the window
  of the quarantine (`Tracker.InWindow`): at every point since then, fewer
  handles were closed after it than the quarantine could keep.

The capacity may change at any time, and a handle that fell out of a window that
was small for a while does not come back (`Tracker.Stays`). The proof relates
the number of handles in quarantine to the window: it is the number of closes
that are in it (`Tracker.Window`).
-/

namespace HandleWatch.Tracker

variable {α : Type}

/-! ## What the history tells -/

/-- The id that a call is about. -/
def Call.id? : Call α → Option HandleId
  | .register id _ | .close id | .validate id => some id
  | _ => none

/-- The id that an event registered. -/
def Event.registeredId? (e : Event α) : Option HandleId :=
  if e.opened?.isSome then e.call.id? else none

/-- The id that an event closed. -/
def Event.closedId? (e : Event α) : Option HandleId :=
  if e.closed?.isSome then e.call.id? else none

/-- The capacity of the quarantine after an event. -/
def Event.resize (capacity : Nat) (e : Event α) : Nat :=
  match e.call with
  | .resize size => capacityOf size
  | _ => capacity

/-- The ids closed in a history, in order. -/
def closedIds (events : List (Event α)) : List HandleId := events.filterMap Event.closedId?

/-- The capacity of the quarantine after a history. -/
def capacityAfter (capacity : Nat) (events : List (Event α)) : Nat :=
  events.foldl Event.resize capacity

/-- The id was registered, and not closed since the last time. -/
def StillOpen (events : List (Event α)) (id : HandleId) : Prop :=
  ∃ before e after, events = before ++ e :: after ∧ e.registeredId? = some id ∧
    (∀ e' ∈ after, e'.registeredId? ≠ some id) ∧ ∀ e' ∈ after, e'.closedId? ≠ some id

/-- What was closed last in `before` stays in quarantine throughout `after`: at
    every point, fewer handles were closed after it than could be kept. -/
def Stays (capacity : Nat) (before after : List (Event α)) : Prop :=
  ∀ upto, upto <+: after → (closedIds upto).length < capacityAfter capacity (before ++ upto)

/-- The id was closed, and has stayed in quarantine since the last time. -/
def InWindow (capacity : Nat) (events : List (Event α)) (id : HandleId) : Prop :=
  ∃ before e after, events = before ++ e :: after ∧ e.closedId? = some id ∧
    (∀ e' ∈ after, e'.closedId? ≠ some id) ∧ Stays capacity (before ++ [e]) after

theorem closedIds_append (events events' : List (Event α)) :
    closedIds (events ++ events') = closedIds events ++ closedIds events' :=
  List.filterMap_append

theorem closedIds_singleton (e : Event α) : closedIds [e] = e.closedId?.toList := by
  cases h : e.closedId? <;> simp [closedIds, h]

theorem not_mem_closedIds {events : List (Event α)} {id : HandleId}
    (h : ∀ e ∈ events, e.closedId? ≠ some id) : id ∉ closedIds events := fun hmem =>
  let ⟨e, he, hid⟩ := List.mem_filterMap.1 hmem
  h e he hid

/-- The capacity changes with the last call that sets it. -/
theorem capacityAfter_concat (capacity : Nat) (events : List (Event α)) (e : Event α) :
    capacityAfter capacity (events ++ [e]) = e.resize (capacityAfter capacity events) := by
  rw [capacityAfter, List.foldl_append]
  rfl

/-- One more event. -/
theorem stays_concat {capacity : Nat} {before after : List (Event α)} {e : Event α} :
    Stays capacity before (after ++ [e]) ↔ Stays capacity before after ∧
      (closedIds (after ++ [e])).length < capacityAfter capacity (before ++ (after ++ [e])) :=
  Recency.stays_concat

/-- An id is open once it is registered, and until it is closed. -/
theorem stillOpen_concat {events : List (Event α)} {e : Event α} {id : HandleId} :
    StillOpen (events ++ [e]) id ↔
      e.registeredId? = some id ∨ (StillOpen events id ∧ e.closedId? ≠ some id) := by
  constructor
  · rintro ⟨before, e', after, hsplit, hreg, hlast, hopen⟩
    rcases Recency.concat_eq_append_cons hsplit with ⟨-, rfl, -⟩ | ⟨rest, hevents, rfl⟩
    · exact .inl hreg
    · rw [List.forall_mem_append] at hlast hopen
      exact .inr ⟨⟨before, e', rest, hevents, hreg, hlast.1, hopen.1⟩,
        hopen.2 e List.mem_cons_self⟩
  · intro h
    -- If the id is registered again, that is the registration which counts.
    by_cases hreg : e.registeredId? = some id
    · exact ⟨events, e, [], rfl, hreg, List.forall_mem_nil _, List.forall_mem_nil _⟩
    · obtain ⟨⟨before, e', after, rfl, hreg', hlast, hopen⟩, hnot⟩ := h.resolve_left hreg
      refine ⟨before, e', after ++ [e], by rw [List.append_assoc, List.cons_append], hreg', ?_, ?_⟩
      · exact List.forall_mem_append.2 ⟨hlast, List.forall_mem_singleton.2 hreg⟩
      · exact List.forall_mem_append.2 ⟨hopen, List.forall_mem_singleton.2 hnot⟩

/-! ## What a call does to it -/

section Step

variable {k k' : Tracking α} {call : Call α} {outcome : Outcome Reply}
  {released : List (Referent α)}

theorem Event.registeredId?_eq_none {e : Event α} (h : e.opened? = none) :
    e.registeredId? = none := by
  rw [registeredId?, h]
  rfl

theorem Event.closedId?_eq_none {e : Event α} (h : e.closed? = none) : e.closedId? = none := by
  rw [closedId?, h]
  rfl

theorem Event.closedId?_eq_some {e : Event α} {r : Record} {id : HandleId} (h : e.closed? = some r)
    (hcall : e.call = .close id) : e.closedId? = some id := by
  rw [closedId?, h, hcall]
  rfl

/-- An id is open after a call if the call registers it, or it was open and the
    call does not close it. -/
theorem Effect.mem_ids_iff (he : Effect k call outcome released k') (distinct : k.table.ids.Nodup)
    (id : HandleId) :
    id ∈ k'.table.ids ↔ Event.registeredId? ⟨call, outcome⟩ = some id ∨
      (id ∈ k.table.ids ∧ Event.closedId? ⟨call, outcome⟩ ≠ some id) := by
  rcases he.moves with ⟨h, -, rfl, -, hopen, hclose, rfl⟩ |
    ⟨h, before, after, hsplit, -, rfl, hopen, hclose, rfl⟩ | ⟨hopen, hclose, htable, -⟩
  · rw [Event.registeredId?, hopen, Event.closedId?_eq_none hclose, OpenTable.ids, List.map_append,
      List.mem_append]
    simp [Call.id?, eq_comm, or_comm, OpenTable.ids]
  · -- The id is not left in the table, as no other handle has it.
    have hunique := (OpenTable.nodup_of_split distinct hsplit).1
    have hids : id ∈ k.table.ids ↔ id = h.id ∨ id ∈ (before ++ after).map Handle.id := by
      rw [OpenTable.ids, hsplit]
      simp only [List.map_append, List.map_cons, List.mem_append, List.mem_cons, or_left_comm]
    rw [Event.registeredId?_eq_none hopen, Event.closedId?_eq_some hclose rfl, hids]
    constructor
    · intro hmem
      refine .inr ⟨.inr hmem, fun heq => ?_⟩
      rw [Option.some.inj heq] at hunique
      exact hunique hmem
    · rintro (hnone | ⟨rfl | hmem, hne⟩)
      · cases hnone
      · exact absurd rfl hne
      · exact hmem
  · rw [Event.registeredId?_eq_none hopen, Event.closedId?_eq_none hclose, htable]
    simp

/-- The quarantine after a call. -/
theorem Effect.window (he : Effect k call outcome released k')
    (bounded : k.quarantine.handles.length ≤ k.quarantine.capacity) :
    let e : Event α := ⟨call, outcome⟩
    k'.quarantine.capacity = e.resize k.quarantine.capacity ∧
      k'.quarantine.ids <:+ k.quarantine.ids ++ e.closedId?.toList ∧
      k'.quarantine.handles.length =
        min (k.quarantine.handles.length + e.closedId?.toList.length) k'.quarantine.capacity := by
  intro e
  -- The quarantine takes the handle that is closed, is given another capacity, or is left
  -- alone.
  rcases he.moves with ⟨h, -, rfl, -, -, hclose, rfl⟩ |
    ⟨h, before, after, -, -, rfl, -, hclose, rfl⟩ | ⟨-, hclose, -, hquarantine⟩
  · rw [Event.closedId?_eq_none hclose, Option.toList_none, List.append_nil, List.length_nil,
      Nat.add_zero]
    exact ⟨rfl, List.suffix_rfl, (Nat.min_eq_left bounded).symm⟩
  · rw [Event.closedId?_eq_some hclose rfl, Option.toList_some, List.length_singleton]
    refine ⟨rfl, ?_, k.quarantine.push_length h⟩
    have hmap := (k.quarantine.push_suffix h).map Handle.id
    rw [List.map_append, List.map_singleton, Handle.stateless_id] at hmap
    exact hmap
  · rw [Event.closedId?_eq_none hclose, Option.toList_none, List.append_nil, List.length_nil,
      Nat.add_zero]
    rcases hquarantine with ⟨size, rfl, hresize⟩ | ⟨hcall, hsame⟩
    · rw [hresize]
      exact ⟨rfl, (k.quarantine.resize_suffix _).map _, k.quarantine.resize_length _⟩
    · rw [hsame]
      refine ⟨?_, List.suffix_rfl, (Nat.min_eq_left bounded).symm⟩
      unfold Event.resize
      split
      · next size hsize => exact absurd hsize (hcall size)
      · rfl

end Step

/-! ## The window of a run -/

/-- How the open ids and the quarantine follow from a history. -/
structure Window (capacity : Nat) (events : List (Event α)) (k : Tracking α) : Prop where
  accounts : Accounts events k
  opened : ∀ id, id ∈ k.table.ids ↔ StillOpen events id
  room : k.quarantine.capacity = capacityAfter capacity events
  bounded : k.quarantine.handles.length ≤ k.quarantine.capacity
  suffix : k.quarantine.ids <:+ closedIds events
  /-- A close is in the window if fewer handles were closed after it than are in
      quarantine. -/
  stays : ∀ {before e after id}, events = before ++ e :: after → e.closedId? = some id →
    (Stays capacity (before ++ [e]) after ↔
      (closedIds after).length < k.quarantine.handles.length)

/-- Every call moves the window on. -/
theorem Window.step {capacity : Nat} {events : List (Event α)} {k k' : Tracking α}
    {call : Call α} {outcome : Outcome Reply} {released : List (Referent α)}
    (hw : Window capacity events k) (he : Effect k call outcome released k') :
    Window capacity (events ++ [⟨call, outcome⟩]) k' := by
  obtain ⟨hcapacity, hsuffix, hlength⟩ := he.window hw.bounded
  rw [hw.room, ← capacityAfter_concat] at hcapacity
  refine ⟨hw.accounts.step he, fun id => ?_, hcapacity, by omega, ?_, ?_⟩
  · rw [he.mem_ids_iff hw.accounts.distinct, stillOpen_concat, hw.opened]
  · rw [closedIds_append, closedIds_singleton]
    obtain ⟨gone, hgone⟩ := hw.suffix
    exact hsuffix.trans ⟨gone, by rw [← List.append_assoc, hgone]⟩
  · intro before e after id hsplit hclosed
    rcases Recency.concat_eq_append_cons hsplit with ⟨rfl, rfl, rfl⟩ | ⟨rest, hevents, rfl⟩
    · -- The handle that was closed just now stays if there is room for it.
      have hstays : Stays capacity (events ++ [⟨call, outcome⟩]) [] ↔
          0 < k'.quarantine.capacity := by
        rw [hcapacity, Stays]
        simp [closedIds]
      rw [hstays, hlength, hclosed, closedIds, List.filterMap_nil, List.length_nil,
        Option.toList_some, List.length_singleton]
      omega
    · -- The others stay if they did before and there is still room for them.
      have hlater := congrArg List.length
        ((closedIds_append rest [⟨call, outcome⟩]).trans (by rw [closedIds_singleton]))
      rw [List.length_append] at hlater
      have hall : before ++ [e] ++ (rest ++ [⟨call, outcome⟩]) = events ++ [⟨call, outcome⟩] := by
        rw [hevents, List.append_assoc, List.append_assoc]
        rfl
      rw [stays_concat, hw.stays hevents hclosed, hall, ← hcapacity]
      omega

/-- After every run the window is as the history says. -/
theorem window_run (capacity : Nat) (calls : List (Call α)) :
    Window capacity ((ofCapacity capacity).history calls)
      ((ofCapacity capacity : Tracker α).run calls).tracking := by
  refine run_invariant ⟨accounts_run capacity [], fun id => ?_, rfl, Nat.zero_le _,
    List.suffix_rfl, ?_⟩ Window.step calls
  · refine ⟨nofun, ?_⟩
    rintro ⟨before, e, after, hsplit, -⟩
    exact absurd hsplit (List.append_ne_nil_of_right_ne_nil _ (List.cons_ne_nil _ _)).symm
  · intro before e after id hsplit
    exact absurd hsplit (List.append_ne_nil_of_right_ne_nil _ (List.cons_ne_nil _ _)).symm

/-- An element of the end `l` of a list is not further from the end of the list
    than `l` is long. -/
theorem mem_suffix_iff {β : Type} {l before after : List β} {x : β}
    (hl : l <:+ before ++ x :: after) (hx : x ∉ after) : x ∈ l ↔ after.length < l.length := by
  constructor
  · intro hmem
    by_contra hlength
    have hafter : after <:+ before ++ x :: after :=
      (List.suffix_cons x after).trans (List.suffix_append _ _)
    exact hx ((List.suffix_of_suffix_length_le hl hafter (by omega)).subset hmem)
  · intro hlength
    exact (List.suffix_of_suffix_length_le (List.suffix_append _ _) hl hlength).subset
      List.mem_cons_self

/-- An id that was closed was closed a last time. -/
theorem exists_last_close {events : List (Event α)} {id : HandleId} (h : id ∈ closedIds events) :
    ∃ before e after, events = before ++ e :: after ∧ e.closedId? = some id ∧
      ∀ e' ∈ after, e'.closedId? ≠ some id := by
  induction events using List.reverseRecOn with
  | nil => cases h
  | append_singleton events last ih =>
    by_cases hlast : last.closedId? = some id
    · exact ⟨events, last, [], rfl, hlast, List.forall_mem_nil _⟩
    · have hmem : id ∈ closedIds events := by
        rw [closedIds_append, List.mem_append] at h
        refine h.resolve_right (not_mem_closedIds (List.forall_mem_singleton.2 hlast))
      obtain ⟨before, e, after, rfl, hclosed, hlater⟩ := ih hmem
      exact ⟨before, e, after ++ [last], by rw [List.append_assoc, List.cons_append], hclosed,
        List.forall_mem_append.2 ⟨hlater, List.forall_mem_singleton.2 hlast⟩⟩

/-- The ids in quarantine are those in the window. -/
theorem Window.mem_ids_iff {capacity : Nat} {events : List (Event α)} {k : Tracking α}
    (hw : Window capacity events k) (id : HandleId) :
    id ∈ k.quarantine.ids ↔ InWindow capacity events id := by
  -- The last close of the id is as far from the end of the history as the id is
  -- from the end of the quarantine.
  have hlast : ∀ {before e after}, events = before ++ e :: after → e.closedId? = some id →
      (∀ e' ∈ after, e'.closedId? ≠ some id) →
      (id ∈ k.quarantine.ids ↔ Stays capacity (before ++ [e]) after) := by
    intro before e after hsplit hclosed hlater
    have hids : closedIds events = closedIds before ++ id :: closedIds after := by
      rw [hsplit, closedIds_append]
      exact congrArg _ (List.filterMap_cons_some hclosed)
    rw [hw.stays hsplit hclosed, mem_suffix_iff (hids ▸ hw.suffix) (not_mem_closedIds hlater),
      Quarantine.ids, List.length_map]
  constructor
  · intro hmem
    obtain ⟨before, e, after, hsplit, hclosed, hlater⟩ :=
      exists_last_close (hw.suffix.subset hmem)
    exact ⟨before, e, after, hsplit, hclosed, hlater, (hlast hsplit hclosed hlater).1 hmem⟩
  · rintro ⟨before, e, after, hsplit, hclosed, hlater, hstays⟩
    exact (hlast hsplit hclosed hlater).2 hstays

/-- After every run, what an id stands for follows from the history: it is valid
    if it is still open, used after close if it is not and its last close is in
    the window, and unknown else. -/
theorem classify_run (capacity : Nat) (calls : List (Call α)) (id : HandleId) :
    let events := (ofCapacity capacity : Tracker α).history calls
    let classification := ((ofCapacity capacity : Tracker α).run calls).classify id
    (classification = .valid ↔ StillOpen events id) ∧
    (classification = .useAfterClose ↔
      ¬StillOpen events id ∧ InWindow capacity events id) ∧
    (classification = .unknown ↔ ¬StillOpen events id ∧ ¬InWindow capacity events id) := by
  intro events classification
  have hw := window_run (α := α) capacity calls
  refine ⟨?_, ?_, ?_⟩
  · rw [classify_eq_valid_iff]
    exact hw.opened id
  · rw [classify_eq_useAfterClose_iff, ← hw.opened id, ← hw.mem_ids_iff id]
    rfl
  · rw [classify_eq_unknown_iff, ← hw.opened id, ← hw.mem_ids_iff id]
    rfl

end HandleWatch.Tracker
