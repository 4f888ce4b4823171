import HandleWatch.Proofs.DetectionWindow

/-!
# Generations and open handles

A handle is opened in the generation that is current then, and generations only
go up. So the open handles stand in the order of their generations, and those
opened in a generation or later are the last ones.

The history of a run tells which they are (`Tracker.openSince`): a handle is
among them if the current generation was late enough when it was opened, and its
id was not closed afterwards.

* `Tracker.open_since_run`: after every run the table lists, for each
  generation, the handles that the history tells, in the order of their opening.
-/

namespace HandleWatch

/-- What satisfies `p`, if all that follows does so too, is the end of the list. -/
theorem filter_suffix {β : Type} {p : β → Bool} {l : List β}
    (h : l.Pairwise fun x y => p x = true → p y = true) : l.filter p <:+ l := by
  induction l with
  | nil => exact List.suffix_rfl
  | cons x l ih =>
    rw [List.pairwise_cons] at h
    by_cases hx : p x = true
    · have hall : ∀ y ∈ x :: l, p y = true :=
        List.forall_mem_cons.2 ⟨hx, fun y hy => h.1 y hy hx⟩
      exact ⟨[], List.filter_eq_self.2 hall⟩
    · rw [List.filter_cons_of_neg hx]
      exact (ih h.2).trans (List.suffix_cons x l)

theorem Generation.le_next {g : Generation} (h : g ≤ Generation.last) : g ≤ Generation.next g :=
  Nat.le_min.2 ⟨Nat.le_succ g, h⟩

namespace Tracker

variable {α : Type}

/-! ## What the history tells -/

/-- The current generation after an event. -/
def Event.advance (generation : Generation) (e : Event α) : Generation :=
  match e.call with
  | .newGeneration => Generation.next generation
  | _ => generation

/-- The current generation after a history. -/
def generationAfter (generation : Generation) (events : List (Event α)) : Generation :=
  events.foldl Event.advance generation

/-- The handles that were opened in the generation `since` or later and whose
    ids were not closed afterwards, in the order of their opening. The history
    begins in the generation `now`. -/
def openSince (since : Generation) : Generation → List (Event α) → List (Handle α)
  | _, [] => []
  | now, e :: events =>
    (e.opened?.toList.filter fun h => since ≤ now && h.id ∉ closedIds events) ++
      openSince since (e.advance now) events

/-- Generations only go up. -/
theorem Event.le_advance {generation : Generation} (h : generation ≤ Generation.last)
    (e : Event α) : generation ≤ e.advance generation ∧ e.advance generation ≤ Generation.last := by
  unfold Event.advance
  split
  · exact ⟨Generation.le_next h, Nat.min_le_right _ _⟩
  · exact ⟨Nat.le_refl _, h⟩

/-- The generation changes with the calls that start another. -/
theorem generationAfter_concat (generation : Generation) (events : List (Event α)) (e : Event α) :
    generationAfter generation (events ++ [e]) = e.advance (generationAfter generation events) := by
  rw [generationAfter, List.foldl_append]
  rfl

/-- One more event takes out the handle that it closes, and puts the one that it
    opens at the end. -/
theorem openSince_concat (since now : Generation) (events : List (Event α)) (e : Event α) :
    openSince since now (events ++ [e]) =
      (openSince since now events).filter (fun h => e.closedId? ≠ some h.id) ++
        e.opened?.toList.filter (fun _ => since ≤ generationAfter now events) := by
  induction events generalizing now with
  | nil =>
    have hnow : generationAfter now ([] : List (Event α)) = now := rfl
    rw [hnow]
    simp [openSince, closedIds]
  | cons first events ih =>
    have hclosed : ∀ h : Handle α, (h.id ∉ closedIds (events ++ [e])) ↔
        e.closedId? ≠ some h.id ∧ h.id ∉ closedIds events := fun h => by
      rw [closedIds_append, closedIds_singleton, List.mem_append, not_or, Option.mem_toList,
        and_comm]
    rw [List.cons_append, openSince, ih, openSince, List.filter_append, List.filter_filter,
      List.append_assoc]
    simp only [hclosed, Bool.decide_and, Bool.and_left_comm]
    rfl

/-! ## What a call does to it -/

section Step

variable {events : List (Event α)} {k k' : Tracking α} {call : Call α} {outcome : Outcome Reply}
  {released : List (Referent α)}

/-- A call starts another generation if it says so, and then only. -/
theorem Effect.generation (he : Effect k call outcome released k') :
    k'.generation = Event.advance k.generation ⟨call, outcome⟩ := by
  cases he with
  | aside haside =>
    cases call with
    | newGeneration => exact haside.elim
    | _ => rfl
  | _ => rfl

/-- The handles opened since a generation, after a call. -/
theorem Effect.since (he : Effect k call outcome released k') (distinct : k.table.ids.Nodup)
    (g : Generation) :
    let e : Event α := ⟨call, outcome⟩
    k'.table.since g = (k.table.since g).filter (fun h => e.closedId? ≠ some h.id) ++
      e.opened?.toList.filter (fun _ => g ≤ k.generation) := by
  intro e
  -- A handle comes to the end of the list, or goes from it, or the table is left alone.
  rcases he.moves with ⟨h, -, rfl, hrecord, hopen, hclose, rfl⟩ |
    ⟨h, before, after, hsplit, -, rfl, hopen, hclose, rfl⟩ | ⟨hopen, hclose, htable, -⟩
  · rw [hopen, Event.closedId?_eq_none hclose, OpenTable.since, List.filter_append]
    simp [OpenTable.since, hrecord, List.filter_cons]
  · -- No other handle has the id that is closed.
    have hunique := (OpenTable.nodup_of_split distinct hsplit).1
    have hrest : (before ++ h :: after).filter (fun x => some h.id ≠ some x.id) =
        before ++ after := by
      rw [List.filter_append, List.filter_cons_of_neg (by simp), ← List.filter_append,
        List.filter_eq_self]
      intro x hx
      have hne : h.id ≠ x.id := fun heq => hunique (heq ▸ List.mem_map_of_mem hx)
      simpa using hne
    rw [hopen, Event.closedId?_eq_some hclose rfl, OpenTable.since, OpenTable.since, hsplit,
      List.filter_comm, hrest]
    exact (List.append_nil _).symm
  · rw [hopen, Event.closedId?_eq_none hclose, htable]
    simp

end Step

/-! ## The generations of a run -/

/-- How the generations follow from a history. -/
structure Dated (events : List (Event α)) (k : Tracking α) : Prop where
  accounts : Accounts events k
  current : k.generation = generationAfter 0 events
  le_last : k.generation ≤ Generation.last
  /-- No handle is of a later generation than the current one. -/
  bounded : ∀ h ∈ opened events, h.record.generation ≤ k.generation
  /-- A handle is of no later generation than those opened after it. -/
  sorted : (opened events).Pairwise fun h h' => h.record.generation ≤ h'.record.generation
  since : ∀ g, k.table.since g = openSince g 0 events

/-- No generation is before the one it follows, and none is after the last. -/
theorem Dated.le_advance {events : List (Event α)} {k : Tracking α} (hd : Dated events k)
    (e : Event α) :
    k.generation ≤ e.advance k.generation ∧ e.advance k.generation ≤ Generation.last :=
  e.le_advance hd.le_last

/-- Every call keeps the handles in the order of their generations. -/
theorem Dated.step {events : List (Event α)} {k k' : Tracking α} {call : Call α}
    {outcome : Outcome Reply} {released : List (Referent α)} (hd : Dated events k)
    (he : Effect k call outcome released k') : Dated (events ++ [⟨call, outcome⟩]) k' := by
  obtain ⟨hup, hlast⟩ := hd.le_advance ⟨call, outcome⟩
  rw [← he.generation] at hup hlast
  -- A handle is opened in the generation that is current before the call.
  have hnew : ∀ h ∈ (Event.opened? ⟨call, outcome⟩).toList, h.record.generation = k.generation := by
    rcases he.moves with ⟨h, -, -, hrecord, hopen, -, -⟩ | ⟨_, _, _, -, -, -, hopen, -, -⟩ |
      ⟨hopen, -, -, -⟩ <;> rw [hopen]
    · exact List.forall_mem_singleton.2 (by rw [hrecord])
    · exact List.forall_mem_nil _
    · exact List.forall_mem_nil _
  refine ⟨hd.accounts.step he, ?_, hlast, ?_, ?_, fun g => ?_⟩
  · rw [he.generation, hd.current, generationAfter_concat]
  · rw [opened_concat, List.forall_mem_append]
    exact ⟨fun h hh => Nat.le_trans (hd.bounded h hh) hup, fun h hh => hnew h hh ▸ hup⟩
  · rw [opened_concat, List.pairwise_append]
    refine ⟨hd.sorted, ?_, fun h hh h' hh' => hnew h' hh' ▸ hd.bounded h hh⟩
    cases Event.opened? ⟨call, outcome⟩ with
    | none => exact List.Pairwise.nil
    | some h => exact List.pairwise_singleton _ _
  · rw [he.since hd.accounts.distinct, openSince_concat, hd.since, hd.current]

/-- After every run the handles have the generations of their registrations. -/
theorem dated_run (capacity : Nat) (calls : List (Call α)) :
    Dated ((ofCapacity capacity).history calls)
      ((ofCapacity capacity : Tracker α).run calls).tracking :=
  run_invariant ⟨accounts_run capacity [], rfl, Nat.zero_le _, nofun, List.Pairwise.nil,
    fun _ => rfl⟩ Dated.step calls

/-- The open handles of a later generation are the last ones. -/
theorem Dated.since_suffix {events : List (Event α)} {k : Tracking α} (hd : Dated events k)
    (g : Generation) : k.table.since g <:+ k.table.since 0 := by
  have hall : k.table.since 0 = k.table.handles :=
    List.filter_eq_self.2 fun h _ => decide_eq_true (Nat.zero_le h.record.generation)
  rw [hall]
  refine filter_suffix ((hd.sorted.sublist hd.accounts.table).imp fun hle hg => ?_)
  rw [decide_eq_true_eq] at hg ⊢
  exact Nat.le_trans hg hle

/-- A handle is opened with its id, the current generation and the next number. -/
theorem Dated.record_of_registered {events : List (Event α)} {t : Tracker α}
    (hd : Dated events t.tracking) {id : HandleId} {x : Referent α} {r : Record}
    (h : (t.perform (.register id x)).outcome = .done (.record r)) :
    r = ⟨id, generationAfter 0 events, (opened events).length, .opened⟩ := by
  have he := t.register_effect id x
  rw [h] at he
  rcases he.moves with ⟨h', -, hcall, hrecord, hopen, -, -⟩ | ⟨_, _, _, -, -, hcall, -⟩ | ⟨hopen, -⟩
  · cases hcall
    have hr : r = h'.record := Option.some.inj (congrArg (Option.map Handle.record) hopen)
    rw [hr, hrecord, hd.current, hd.accounts.nextSequence]
  · cases hcall
  · cases hopen

/-- After every run, the open handles of a generation or later are those that the
    history tells, in the order of their opening. Handles are numbered in this
    order, whatever was refused, closed or opened again in between, and those of
    a later generation are the last ones. -/
theorem open_since_run (capacity : Nat) (calls : List (Call α)) :
    let events := (ofCapacity capacity : Tracker α).history calls
    let t := (ofCapacity capacity : Tracker α).run calls
    (∀ g, t.table.since g = openSince g 0 events) ∧
    (opened events).map (·.record.sequence) = List.range (opened events).length ∧
    (∀ id x r, (t.perform (.register id x)).outcome = .done (.record r) →
      r = ⟨id, generationAfter 0 events, (opened events).length, .opened⟩) ∧
    ∀ g, t.table.since g <:+ t.table.since 0 := by
  intro events t
  have hd := dated_run (α := α) capacity calls
  exact ⟨hd.since, hd.accounts.sequences, fun _ _ _ => hd.record_of_registered, hd.since_suffix⟩

end Tracker

end HandleWatch
