import HandleWatch.Proofs.SessionRun
import Mathlib.Data.List.Induction
import Mathlib.Data.List.Nodup
import Mathlib.Data.List.Range

/-!
# Ids are conserved

A session hands out ids from `1` on. Each id that was handed out is open, in
quarantine or free to be handed out again, and only one of these: the three
lists together are a permutation of the ids handed out (`Session.Core.Conserved`),
which every call keeps, as the ids of the handles that leave the quarantine go
back to the pool and no others do. The calls keep as much where some ids were
lost by other means (`Session.Core.Accounted`).

* `Session.ids_conserved`: this holds throughout every run in which the ids do
  not run out; so a handle can always be opened, and its id is never `0`, open
  or still in quarantine.
-/

namespace HandleWatch

open scoped List

/-! ## The pool -/

namespace IdPool

/-- How many ids were handed out for the first time. -/
def issued (p : IdPool) : Nat := p.next - 1

/-- The ids from `1` to `n`. -/
def firstIds (n : Nat) : List HandleId := (List.range n).map fun i => ⟨UInt64.ofNat (i + 1)⟩

theorem firstIds_succ (n : Nat) :
    firstIds (n + 1) = firstIds n ++ [⟨UInt64.ofNat (n + 1)⟩] := by
  rw [firstIds, List.range_succ, List.map_append]
  rfl

/-- The ids from `1` to `n`, as long as they fit into a word. -/
theorem mem_firstIds {n : Nat} (hn : n < UInt64.size) {id : HandleId} :
    id ∈ firstIds n ↔ 1 ≤ id.raw.toNat ∧ id.raw.toNat ≤ n := by
  rw [firstIds, List.mem_map]
  constructor
  · rintro ⟨i, hi, rfl⟩
    rw [List.mem_range] at hi
    rw [UInt64.toNat_ofNat_of_lt' (show i + 1 < UInt64.size by omega)]
    omega
  · rintro ⟨hpos, hle⟩
    refine ⟨id.raw.toNat - 1, List.mem_range.2 (by omega), ?_⟩
    rw [Nat.sub_add_cancel hpos, UInt64.ofNat_toNat]

/-- They are distinct, as none of them wraps. -/
theorem firstIds_nodup {n : Nat} (hn : n < UInt64.size) : (firstIds n).Nodup := by
  refine List.nodup_range.map_on fun i hi j hj heq => ?_
  rw [List.mem_range] at hi hj
  have hraw := congrArg (fun id : HandleId => id.raw.toNat) heq
  simp only at hraw
  rw [UInt64.toNat_ofNat_of_lt' (show i + 1 < UInt64.size by omega),
    UInt64.toNat_ofNat_of_lt' (show j + 1 < UInt64.size by omega)] at hraw
  omega

/-- The id `0` is none of them. -/
theorem ne_null_of_mem_firstIds {n : Nat} (hn : n < UInt64.size) {id : HandleId}
    (h : id ∈ firstIds n) : id ≠ .null := by
  rintro rfl
  exact absurd ((mem_firstIds hn).1 h).1 (by decide)

theorem recycle_cons (p : IdPool) (r : Record) (records : List Record) :
    p.recycle (r :: records) = (p.release r.id).recycle records := rfl

/-- Ids that come back are not fresh. -/
@[simp]
theorem recycle_next (p : IdPool) (records : List Record) : (p.recycle records).next = p.next := by
  induction records generalizing p with
  | nil => rfl
  | cons r records ih =>
    rw [recycle_cons, ih, release]
    split <;> rfl

/-- The ids that come back are handed out again, the last one first. -/
theorem recycle_free {p : IdPool} {records : List Record} (h : ∀ r ∈ records, r.id ≠ .null) :
    (p.recycle records).free = (records.map (·.id)).reverse ++ p.free := by
  induction records generalizing p with
  | nil => rfl
  | cons r records ih =>
    rw [List.forall_mem_cons] at h
    rw [recycle_cons, ih h.2, release, if_neg h.1, List.map_cons, List.reverse_cons,
      List.append_assoc]
    rfl

theorem next_le_allocate (p : IdPool) : p.next ≤ p.allocate.2.next := by
  unfold allocate
  split
  · exact Nat.le_refl _
  · exact Nat.le_succ _

/-- Handing out an id takes one fresh id at most. -/
theorem allocate_issued_le (p : IdPool) : p.allocate.2.issued ≤ p.issued + 1 := by
  unfold allocate issued
  split <;> simp only <;> omega

end IdPool

namespace Session

variable {α : Type}

/-! ## What a call does to the core -/

/-- A handle is opened, under the next id of the pool, if that is not open. -/
theorem openHandle_of_not_mem {c : Core α} (hid : c.ids.allocate.1 ∉ c.tracking.table.ids)
    (x : Referent α) :
    (c.quiet.openHandle x).outcome = .done c.ids.allocate.1 ∧
      (c.quiet.openHandle x).after.core =
        { tracking := { c.tracking with
            table :=
              { handles := c.tracking.table.handles ++
                  [⟨⟨c.ids.allocate.1, c.tracking.generation, c.tracking.table.nextSequence,
                    .opened⟩, x⟩]
                nextSequence := c.tracking.table.nextSequence + 1 } }
          ids := c.ids.allocate.2 } := by
  have hhas : ¬c.tracking.table.has c.ids.allocate.1 = true := fun h => hid (OpenTable.has_iff.1 h)
  have hinsert : c.tracking.table.insert? c.ids.allocate.1 x c.tracking.generation = some _ :=
    if_neg hhas
  simp only [openHandle, Core.quiet, Tracker.register, hinsert]
  exact ⟨rfl, rfl⟩

/-- A call opens a handle, or closes one, or changes the capacity, or it leaves
    the handles and the pool alone. -/
theorem perform_core_cases (s : Session α) (call : Call α) :
    let c := s.core
    let c' := (s.perform call).after.core
    (∃ x, (call = .openHandle x ∨
        ∃ id, call = .duplicate id ∧ s.tracker.referent? id = some x) ∧
      c' = (c.quiet.openHandle x).after.core) ∨
    (∃ id h table, call = .close id ∧ c.tracking.table.remove? id = some (h, table) ∧
      c' =
        { tracking :=
            { c.tracking with table, quarantine := (c.tracking.quarantine.push h).2 }
          ids := c.ids.recycle (c.tracking.quarantine.push h).1.records }) ∨
    (∃ size, call = .resize size ∧
      c' =
        { tracking := { c.tracking with
            quarantine := (c.tracking.quarantine.resize (capacityOf size)).2 }
          ids := c.ids.recycle (c.tracking.quarantine.resize (capacityOf size)).1.records }) ∨
    (c'.tracking.table = c.tracking.table ∧ c'.tracking.quarantine = c.tracking.quarantine ∧
      c'.ids = c.ids) := by
  intro c c'
  have hsame : c' = c → c'.tracking.table = c.tracking.table ∧
      c'.tracking.quarantine = c.tracking.quarantine ∧ c'.ids = c.ids := fun h => by
    rw [h]
    exact ⟨rfl, rfl, rfl⟩
  -- A call that uses an id does nothing to the core unless the id is open.
  cases call with
  | openHandle x => exact .inl ⟨x, .inl rfl, s.openHandle_core x⟩
  | close id =>
    cases hr : s.tracker.table.remove? id with
    | none =>
      exact .inr (.inr (.inr (hsame (close_of_not_mem (OpenTable.remove?_eq_none_iff.1 hr)).2)))
    | some found =>
      exact .inr (.inl ⟨id, found.1, found.2, rfl, hr, (close_of_remove? hr).2⟩)
  | dereference id => exact .inr (.inr (.inr (hsame (s.dereference_core id))))
  | validate id => exact .inr (.inr (.inr (hsame (s.validate_core id))))
  | duplicate id =>
    cases hx : s.tracker.referent? id with
    | none =>
      exact .inr (.inr (.inr (hsame (duplicate_of_not_mem (referent?_eq_none_iff.1 hx)).2)))
    | some x => exact .inl ⟨x, .inr ⟨id, rfl, hx⟩, (duplicate_of_referent? hx).2⟩
  | resize size => exact .inr (.inr (.inl ⟨size, rfl, rfl⟩))
  | newGeneration => exact .inr (.inr (.inr ⟨rfl, rfl, rfl⟩))
  | _ => exact .inr (.inr (.inr (hsame rfl)))

/-- No call takes back a fresh id. -/
theorem next_le_perform (s : Session α) (call : Call α) :
    s.ids.next ≤ (s.perform call).after.ids.next := by
  have hnext : ∀ c', (s.perform call).after.core = c' → s.ids.next ≤ c'.ids.next →
      s.ids.next ≤ (s.perform call).after.ids.next := by
    rintro _ rfl h
    exact h
  rcases s.perform_core_cases call with ⟨x, -, h⟩ | ⟨id, h, table, -, -, hc⟩ | ⟨size, -, h⟩ |
    ⟨-, -, h⟩
  · exact hnext _ h (IdPool.next_le_allocate _)
  · exact hnext _ hc (IdPool.recycle_next _ _).ge
  · exact hnext _ h (IdPool.recycle_next _ _).ge
  · exact (congrArg IdPool.next h).ge

theorem run_append (s : Session α) (calls calls' : List (Call α)) :
    s.run (calls ++ calls') = (s.run calls).run calls' := List.foldl_append

theorem next_le_run (s : Session α) (calls : List (Call α)) :
    s.ids.next ≤ (s.run calls).ids.next := by
  induction calls using List.reverseRecOn with
  | nil => exact Nat.le_refl _
  | append_singleton calls call ih =>
    rw [run_concat]
    exact ih.trans (next_le_perform _ call)

/-! ## Conservation -/

/-- An id that can be handed out: it is not `0`, and no handle that is open or in
    quarantine has it. -/
structure Fresh (s : Session α) (id : HandleId) : Prop where
  ne_null : id ≠ .null
  not_open : id ∉ s.tracker.table.ids
  not_quarantined : id ∉ s.tracker.quarantine.ids

/-- The ids of the handles, open or in quarantine. -/
def Core.heldIds (c : Core α) : List HandleId :=
  (c.tracking.table.handles ++ c.tracking.quarantine.handles).map Handle.id

/-- The ids that were handed out are those of the handles and those that are
    free. -/
structure Core.Conserved (c : Core α) : Prop where
  next_pos : 0 < c.ids.next
  perm : c.heldIds ++ c.ids.free ~ IdPool.firstIds c.ids.issued

/-- The ids that were handed out are those of the handles, those that are free
    and the `lost` ones, which never come back. -/
structure Core.Accounted (c : Core α) (lost : List HandleId) : Prop where
  next_pos : 0 < c.ids.next
  perm : c.heldIds ++ c.ids.free ++ lost ~ IdPool.firstIds c.ids.issued

/-- Ids are conserved if none is lost. -/
theorem Core.conserved_iff {c : Core α} : c.Conserved ↔ c.Accounted [] :=
  ⟨fun h => ⟨h.next_pos, (List.append_nil _).symm ▸ h.perm⟩,
    fun h => ⟨h.next_pos, List.append_nil (c.heldIds ++ c.ids.free) ▸ h.perm⟩⟩

namespace Core.Accounted

variable {c c' : Core α} {lost : List HandleId}

/-- Handing out an id moves it from the free ones, or adds the first one that
    was not handed out yet. -/
theorem allocate_perm (hc : c.Accounted lost) :
    c.heldIds ++ c.ids.allocate.1 :: (c.ids.allocate.2.free ++ lost) ~
      IdPool.firstIds c.ids.allocate.2.issued := by
  have hperm := hc.perm
  cases hfree : c.ids.free with
  | nil =>
    obtain ⟨n, hn⟩ : ∃ n, c.ids.next = n + 1 := Nat.exists_eq_add_one.2 hc.next_pos
    rw [hfree, IdPool.issued, hn, Nat.add_sub_cancel, List.append_nil] at hperm
    rw [IdPool.allocate, hfree, IdPool.issued]
    simp only [hn, Nat.add_sub_cancel, List.nil_append]
    rw [IdPool.firstIds_succ]
    exact List.perm_middle.trans
      ((List.perm_append_singleton _ _).symm.trans (hperm.append_right _))
  | cons id free =>
    rw [hfree, List.append_assoc] at hperm
    rw [IdPool.allocate, hfree]
    exact hperm

/-- The next id of the pool is fresh. -/
theorem fresh {s : Session α} (hs : s.core.Accounted lost)
    (few : s.ids.issued < UInt64.size - 1) : s.Fresh s.ids.allocate.1 := by
  have hissued : s.ids.allocate.2.issued < UInt64.size := by
    have := s.ids.allocate_issued_le
    omega
  have hperm := hs.allocate_perm
  -- What was handed out has no duplicates, and the next id is in it beside those
  -- of the handles.
  have hnodup := hperm.nodup_iff.2 (IdPool.firstIds_nodup hissued)
  have hfirst := hperm.subset (List.mem_append_right _ List.mem_cons_self)
  rw [List.nodup_middle, List.nodup_cons, heldIds, List.map_append, List.mem_append,
    List.mem_append, not_or, not_or] at hnodup
  exact ⟨IdPool.ne_null_of_mem_firstIds hissued hfirst, hnodup.1.1.1, hnodup.1.1.2⟩

/-- A handle that is opened takes the next id of the pool. -/
theorem openHandle (hc : c.Accounted lost) (few : c.ids.issued < UInt64.size - 1)
    (x : Referent α) : (c.quiet.openHandle x).after.core.Accounted lost := by
  rw [(openHandle_of_not_mem (fresh (s := c.quiet) hc few).not_open x).2]
  refine ⟨hc.next_pos.trans_le c.ids.next_le_allocate, List.Perm.trans ?_ hc.allocate_perm⟩
  simp only [heldIds, List.map_append, List.append_assoc, List.singleton_append]
  exact List.perm_middle.symm.append_left _

/-- The ids of the handles that are let go come back to the pool, which would not take
    back the id `0`. -/
theorem recycle_free (hc : c.Accounted lost) (few : c.ids.issued < UInt64.size - 1)
    {evicted : List (Handle α)} (hheld : evicted.map Handle.id ++ c'.heldIds ~ c.heldIds) :
    (c.ids.recycle (evicted.map Handle.record)).free =
      (evicted.map Handle.id).reverse ++ c.ids.free := by
  have hnull : ∀ r ∈ evicted.map Handle.record, r.id ≠ .null := by
    rw [List.forall_mem_map]
    intro h hmem
    have hid : h.id ∈ c.heldIds :=
      hheld.subset (List.mem_append_left _ (List.mem_map_of_mem hmem))
    exact IdPool.ne_null_of_mem_firstIds (few.trans_le (Nat.sub_le _ _))
      (hc.perm.subset (List.mem_append_left _ (List.mem_append_left _ hid)))
  rw [IdPool.recycle_free hnull, List.map_map]
  rfl

/-- The ids of the handles that are let go are free. -/
theorem recycle (hc : c.Accounted lost) (few : c.ids.issued < UInt64.size - 1)
    {evicted : List (Handle α)} (hheld : evicted.map Handle.id ++ c'.heldIds ~ c.heldIds)
    (hids : c'.ids = c.ids.recycle (evicted.map Handle.record)) : c'.Accounted lost := by
  have hnext : c'.ids.next = c.ids.next := by rw [hids, IdPool.recycle_next]
  have hfree : c'.ids.free = (evicted.map Handle.id).reverse ++ c.ids.free := by
    rw [hids, hc.recycle_free few hheld]
  refine ⟨hnext ▸ hc.next_pos, ?_⟩
  calc c'.heldIds ++ c'.ids.free ++ lost
    _ = c'.heldIds ++ (evicted.map Handle.id).reverse ++ c.ids.free ++ lost := by
      rw [hfree, ← List.append_assoc c'.heldIds]
    _ ~ c.heldIds ++ c.ids.free ++ lost :=
      ((((List.reverse_perm _).append_left _).trans
        (List.perm_append_comm.trans hheld)).append_right _).append_right _
    _ ~ IdPool.firstIds c.ids.issued := hc.perm
    _ = IdPool.firstIds c'.ids.issued := by rw [IdPool.issued, IdPool.issued, hnext]

/-- No call of the session loses an id, or brings back a lost one. -/
theorem perform {s : Session α} (hs : s.core.Accounted lost)
    (few : s.ids.issued < UInt64.size - 1) (call : Call α) :
    (s.perform call).after.core.Accounted lost := by
  rcases s.perform_core_cases call with ⟨x, -, hcore⟩ | ⟨id, h, table, -, hr, hcore⟩ |
    ⟨size, -, hcore⟩ | ⟨htable, hquarantine, hids⟩
  · rw [hcore]
    exact hs.openHandle few x
  · -- The handle moves to the quarantine, from which others, or itself, leave.
    obtain ⟨-, before, after, hhandles, -, rfl⟩ := OpenTable.remove?_eq_some_iff.1 hr
    refine hs.recycle few ?_ (congrArg Core.ids hcore)
    rw [hcore, heldIds, heldIds, hhandles]
    exact Quarantine.push_perm Handle.stateless_id _ before after h
  · refine hs.recycle few ?_ (congrArg Core.ids hcore)
    rw [hcore]
    exact Quarantine.resize_perm Handle.stateless_id _ _ _
  · refine ⟨?_, ?_⟩
    · rw [hids]
      exact hs.next_pos
    · rw [heldIds, htable, hquarantine, hids]
      exact hs.perm

end Core.Accounted

namespace Core.Conserved

/-- If none is lost, the next id of the pool is fresh. -/
theorem fresh {s : Session α} (hs : s.core.Conserved) (few : s.ids.issued < UInt64.size - 1) :
    s.Fresh s.ids.allocate.1 := (conserved_iff.1 hs).fresh few

/-- Every call keeps the ids. -/
theorem perform {s : Session α} (hs : s.core.Conserved) (few : s.ids.issued < UInt64.size - 1)
    (call : Call α) : (s.perform call).after.core.Conserved :=
  conserved_iff.2 ((conserved_iff.1 hs).perform few call)

end Core.Conserved

/-- The ids are conserved in every run in which they do not run out. -/
theorem conserved_run (settings : Settings) (calls : List (Call α))
    (few : ((ofSettings settings : Session α).run calls).ids.issued < UInt64.size - 1) :
    ((ofSettings settings : Session α).run calls).core.Conserved := by
  induction calls using List.reverseRecOn with
  | nil => exact ⟨Nat.one_pos, .refl _⟩
  | append_singleton calls call ih =>
    rw [run_concat] at few ⊢
    -- The ids had not run out before the call either.
    have hbefore := (Nat.sub_le_sub_right (next_le_perform _ call) 1).trans_lt few
    exact (ih hbefore).perform hbefore call

/-! ## Where an id is -/

/-- An id that was handed out is open, in quarantine or free. -/
def Knows (s : Session α) (id : HandleId) : Prop :=
  id ∈ s.tracker.table.ids ∨ id ∈ s.tracker.quarantine.ids ∨ id ∈ s.ids.free

/-- The ids are kept apart: none is in two places, or twice in one, and each of
    them was handed out. -/
structure Separated (s : Session α) : Prop where
  open_nodup : s.tracker.table.ids.Nodup
  quarantine_nodup : s.tracker.quarantine.ids.Nodup
  free_nodup : s.ids.free.Nodup
  open_quarantine : s.tracker.table.ids.Disjoint s.tracker.quarantine.ids
  open_free : s.tracker.table.ids.Disjoint s.ids.free
  quarantine_free : s.tracker.quarantine.ids.Disjoint s.ids.free
  issued : ∀ id, s.Knows id → 1 ≤ id.raw.toNat ∧ id.raw.toNat < s.ids.next

/-- The ids are where they belong: each of those from `1` to before the next one
    is in one place, once, and there are no others. -/
structure Partitioned (s : Session α) : Prop extends s.Separated where
  knows_iff : ∀ id, s.Knows id ↔ 1 ≤ id.raw.toNat ∧ id.raw.toNat < s.ids.next

theorem knows_iff_mem {s : Session α} {id : HandleId} :
    s.Knows id ↔ id ∈ s.tracker.table.ids ++ s.tracker.quarantine.ids ++ s.ids.free := by
  rw [List.mem_append, List.mem_append, or_assoc]
  rfl

namespace Core.Accounted

variable {s : Session α} {lost : List HandleId}

/-- The ids that were handed out are those in the three places and the lost ones. -/
theorem parts_perm (hs : s.core.Accounted lost) :
    s.tracker.table.ids ++ s.tracker.quarantine.ids ++ s.ids.free ++ lost ~
      IdPool.firstIds s.ids.issued := List.map_append ▸ hs.perm

/-- Each id that was handed out is known or lost. -/
theorem knows_or_lost_iff (hs : s.core.Accounted lost) (few : s.ids.issued < UInt64.size - 1)
    (id : HandleId) :
    s.Knows id ∨ id ∈ lost ↔ 1 ≤ id.raw.toNat ∧ id.raw.toNat < s.ids.next := by
  rw [knows_iff_mem, ← List.mem_append, hs.parts_perm.mem_iff,
    IdPool.mem_firstIds (few.trans_le (Nat.sub_le _ _)), IdPool.issued]
  omega

/-- No id is both, or known twice. -/
theorem separated (hs : s.core.Accounted lost) (few : s.ids.issued < UInt64.size - 1) :
    s.Separated ∧ ∀ id ∈ lost, ¬s.Knows id := by
  -- One list without duplicates: its parts have none, and no two share an id.
  have hnodup := hs.parts_perm.nodup_iff.2
    (IdPool.firstIds_nodup (few.trans_le (Nat.sub_le _ _)))
  rw [List.nodup_append'] at hnodup
  obtain ⟨hknown, -, hlost⟩ := hnodup
  rw [List.nodup_append', List.nodup_append', List.disjoint_append_left] at hknown
  obtain ⟨⟨hopen, hquarantine, hopenQuarantine⟩, hfree, hopenFree, hquarantineFree⟩ := hknown
  exact ⟨⟨hopen, hquarantine, hfree, hopenQuarantine, hopenFree, hquarantineFree, fun id hid =>
    (hs.knows_or_lost_iff few id).1 (.inl hid)⟩, fun id hid hknows =>
      hlost (knows_iff_mem.1 hknows) hid⟩

end Core.Accounted

/-- If no id is lost, each of them is where it belongs. -/
theorem Core.Conserved.partitioned {s : Session α} (hs : s.core.Conserved)
    (few : s.ids.issued < UInt64.size - 1) : s.Partitioned := by
  have hs := conserved_iff.1 hs
  refine ⟨(hs.separated few).1, fun id => ?_⟩
  rw [← hs.knows_or_lost_iff few id, List.mem_nil_iff, or_false]

/-! ## Opening handles -/

/-- Whether a call is there to open a handle: always, or for an open id. -/
def Opens (s : Session α) : Call α → Prop
  | .openHandle _ => True
  | .duplicate id => id ∈ s.tracker.table.ids
  | _ => False

/-- The id that a call gave to a new handle, by its outcome. -/
def newId? : Outcome (Reply α) → Option HandleId
  | .done (.opened id) => some id
  | .done (.duplicated id) => id
  | _ => none

theorem newId?_map {β : Type} {f : β → Reply α} (hf : ∀ b, newId? (.done (f b)) = none)
    (outcome : Outcome β) : newId? (outcome.map f) = none := by
  cases outcome with
  | done b => exact hf b
  | _ => rfl

/-- A call that is not there to open a handle gives out no id, whatever its hook answers. -/
theorem newId?_of_not_opens {s : Session α} {call : Call α} (h : ¬s.Opens call) :
    newId? (s.perform call).outcome = none := by
  cases call with
  | openHandle x => exact absurd trivial h
  | close id => exact newId?_map (fun _ => rfl) (s.close id).outcome
  | dereference id => exact newId?_map (fun _ => rfl) (s.dereference id).1
  | validate id => exact newId?_map (fun _ => rfl) (s.validate id).1
  | duplicate id =>
    have houtcome : (s.perform (.duplicate id)).outcome = _ :=
      congrArg (Outcome.map Reply.duplicated) (duplicate_of_not_mem h).1
    rw [houtcome]
    rcases s.overruled_cases (.duplicate id) (.done (none : Option HandleId))
      with h | ⟨_, _, _, h⟩ | ⟨_, h⟩ <;> rw [h] <;> rfl
  | _ => rfl

/-- A call opens a handle if it is to, under a fresh id, and never fails because
    its id is taken. -/
structure OpensFresh (s : Session α) (call : Call α) : Prop where
  opens : s.Opens call → ∃ id, newId? (s.perform call).outcome = some id
  fresh : ∀ id, newId? (s.perform call).outcome = some id → s.Fresh id
  never_taken : ∀ id, (s.perform call).outcome ≠ .failed (.duplicateHandle id)

/-- No report is made when a handle is opened. -/
theorem overruled_of_opens {s : Session α} {call : Call α} (h : s.Opens call) {β : Type}
    (plain : Outcome β) : s.overruled call plain = plain := by
  cases call with
  | openHandle x => exact overruled_of_use?_eq_none s rfl plain
  | duplicate id => exact overruled_of_mem rfl h plain
  | _ => exact h.elim

namespace Core.Conserved

/-- With reports off every call comes to a value, and a handle is opened under
    the next id of the pool. -/
theorem quiet_outcome {c : Core α} (hc : c.Conserved) (few : c.ids.issued < UInt64.size - 1)
    (call : Call α) :
    ∃ reply, (c.quiet.perform call).outcome = .done reply ∧
      (c.quiet.Opens call → newId? (.done reply) = some c.ids.allocate.1) := by
  have hopened := fun x => (openHandle_of_not_mem (fresh (s := c.quiet) hc few).not_open x).1
  cases call with
  | openHandle x =>
    exact ⟨_, congrArg (Outcome.map Reply.opened) (hopened x), fun _ => rfl⟩
  | close id =>
    cases hr : c.quiet.tracker.table.remove? id with
    | none =>
      have houtcome := (close_of_not_mem (OpenTable.remove?_eq_none_iff.1 hr)).1
      rw [overruled_quiet] at houtcome
      exact ⟨_, congrArg (Outcome.map Reply.close) houtcome, False.elim⟩
    | some found =>
      exact ⟨_, congrArg (Outcome.map Reply.close) (close_of_remove? hr).1, False.elim⟩
  | duplicate id =>
    cases hx : c.quiet.tracker.referent? id with
    | none =>
      have hid := referent?_eq_none_iff.1 hx
      have houtcome := (duplicate_of_not_mem hid).1
      rw [overruled_quiet] at houtcome
      exact ⟨_, congrArg (Outcome.map Reply.duplicated) houtcome, fun h => absurd h hid⟩
    | some x =>
      have houtcome := (duplicate_of_referent? hx).1
      rw [core_quiet, hopened] at houtcome
      exact ⟨_, congrArg (Outcome.map Reply.duplicated) houtcome, fun _ => rfl⟩
  | _ => exact ⟨_, rfl, False.elim⟩

/-- The outcome of a call tells the id of the handle that it opens, if it opens one. -/
theorem newId?_perform {s : Session α} (hs : s.core.Conserved)
    (few : s.ids.issued < UInt64.size - 1) (call : Call α) :
    s.Opens call ∧ newId? (s.perform call).outcome = some s.ids.allocate.1 ∨
      ¬s.Opens call ∧ newId? (s.perform call).outcome = none := by
  by_cases hopens : s.Opens call
  · obtain ⟨reply, hplain, hnew⟩ := hs.quiet_outcome few call
    refine .inl ⟨hopens, ?_⟩
    rw [s.perform_outcome, hplain, overruled_of_opens hopens]
    exact hnew hopens
  · exact .inr ⟨hopens, newId?_of_not_opens hopens⟩

/-- If no id is lost, a handle can be opened, and its id is fresh. -/
theorem opensFresh {s : Session α} (hs : s.core.Conserved) (few : s.ids.issued < UInt64.size - 1)
    (call : Call α) : s.OpensFresh call := by
  have hnew := hs.newId?_perform few call
  refine ⟨fun hopens => ?_, fun id hid => ?_, fun id hfailed => ?_⟩
  · rcases hnew with ⟨-, hid⟩ | ⟨hnot, -⟩
    · exact ⟨_, hid⟩
    · exact absurd hopens hnot
  · rcases hnew with ⟨-, hnew⟩ | ⟨-, hnew⟩ <;> rw [hid] at hnew <;> cases hnew
    exact hs.fresh few
  · -- With reports off the call comes to a value, and a hook objects in other ways.
    obtain ⟨reply, hplain, -⟩ := hs.quiet_outcome few call
    have hcases := s.overruled_cases call (.done reply)
    rw [← hplain, ← s.perform_outcome, hfailed] at hcases
    rcases hcases with hplain' | ⟨_, _, _, ⟨⟩⟩ | ⟨_, ⟨⟩⟩
    cases hplain'.trans hplain

end Core.Conserved

/-- In every run in which the ids do not run out, each id that was handed out is
    open, in quarantine or free after every call, and in one of these places
    only. So no id is lost, and handles are opened under fresh ids. -/
theorem ids_conserved (settings : Settings) (calls : List (Call α))
    (few : ((ofSettings settings : Session α).run calls).ids.issued < UInt64.size - 1) :
    let s := fun calls : List (Call α) => (ofSettings settings).run calls
    (∀ before, before <+: calls →
      (s before).Partitioned ∧ ∀ id, (s before).Knows id → (s calls).Knows id) ∧
    ∀ before call, before ++ [call] <+: calls → (s before).OpensFresh call := by
  intro s
  have hle : ∀ before, before <+: calls → (s before).ids.next ≤ (s calls).ids.next := by
    rintro before ⟨after, rfl⟩
    simp only [s, run_append]
    exact next_le_run _ after
  have hfew : ∀ before, before <+: calls → (s before).ids.issued < UInt64.size - 1 :=
    fun before h => (Nat.sub_le_sub_right (hle before h) 1).trans_lt few
  have hpartitioned : ∀ before, before <+: calls → (s before).Partitioned := fun before h =>
    (conserved_run settings before (hfew before h)).partitioned (hfew before h)
  refine ⟨fun before h => ⟨hpartitioned before h, fun id hid => ?_⟩, fun before call h => ?_⟩
  · rw [(hpartitioned before h).knows_iff] at hid
    rw [(hpartitioned calls List.prefix_rfl).knows_iff]
    exact ⟨hid.1, hid.2.trans_le (hle before h)⟩
  · have hbefore := hfew before ((List.prefix_append before [call]).trans h)
    exact (conserved_run settings before hbefore).opensFresh hbefore call

/-- Two ids come back when the quarantine is emptied, and the one that came back
    last goes to the second handle of the referent that is still open. -/
theorem ids_conserved_after_resize :
    let x : Referent Nat := ⟨7, some "stuck"⟩
    let before : List (Call Nat) :=
      [.openHandle x, .openHandle x, .openHandle x, .close ⟨1⟩, .close ⟨2⟩, .resize 0]
    let calls := before ++ [.duplicate ⟨3⟩]
    let s := (ofSettings ⟨.report, 2⟩).run before
    let s' := (ofSettings ⟨.report, 2⟩).run calls
    s'.ids.issued = 3 ∧ s.OpensFresh (.duplicate ⟨3⟩) ∧ s'.Partitioned ∧
      s'.tracker.table.ids = [⟨3⟩, ⟨2⟩] ∧ s'.ids.free = [⟨1⟩] := by
  intro x before calls s s'
  have hissued : s'.ids.issued = 3 := by decide +kernel
  have few : s'.ids.issued < UInt64.size - 1 := by
    rw [hissued]
    decide
  obtain ⟨hpartitioned, hopens⟩ := ids_conserved ⟨.report, 2⟩ calls few
  exact ⟨hissued, hopens before _ List.prefix_rfl, (hpartitioned calls List.prefix_rfl).1,
    by decide +kernel, by decide +kernel⟩

end Session

end HandleWatch
