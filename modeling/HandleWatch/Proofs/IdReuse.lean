import HandleWatch.Proofs.IdConservation
import HandleWatch.Proofs.Recency
import Mathlib.Data.List.MinMax
import Mathlib.Order.Bounds.Defs
import Mathlib.Order.Nat

/-!
# No more ids than handles at one time

The pool hands out a fresh id only when none has come back. As the ids that were handed
out are those of the handles and those that are free (`Session.Core.Conserved`), the
fresh ones are as many as there were handles, open or in quarantine, when there were the
most of them. Which id is handed out can be told without the pool, from what became of
the ids so far (`Session.idHistory`): it is the one that came back last, of those that
wait to be handed out again (`IdEvent.LastReturned`).

* `IdEvent.lastReturned_iff`: the id that came back last is the first one of a list in
  which each id that comes back is put in front (`IdEvent.waiting`);
* `Session.follows_run`: this list is that of the free ids of the pool;
* `Session.ids_are_few`: in every run in which the ids do not run out, the ids handed out
  are those from `1` to the greatest number of handles at one time, and each call that
  opens a handle gives it the id that came back last, or else the next one.
-/

namespace HandleWatch

/-- What becomes of an id. -/
inductive IdEvent where
  /-- It is handed out, with a handle. -/
  | issued (id : HandleId)
  /-- It comes back, as its handle is let go. -/
  | returned (id : HandleId)
  deriving DecidableEq, Repr

namespace IdEvent

/-- The id came back just before the events `after`, and was not handed out since. -/
def WaitsSince (id : HandleId) (events after : List IdEvent) : Prop :=
  Recency.Since (· = .returned id) (· = .issued id) events after

/-- The id came back last, of those that were not handed out again. -/
def LastReturned (events : List IdEvent) (id : HandleId) : Prop :=
  ∃ after, WaitsSince id events after ∧ ∀ id' after', ¬WaitsSince id' after after'

/-- The number of an id that is handed out. -/
def number : IdEvent → Nat
  | issued id => id.raw.toNat
  | returned _ => 0

/-- The greatest id that was handed out, or `0`. -/
def greatest (events : List IdEvent) : Nat := (events.map number).foldr max 0

/-! ## The ids that wait -/

/-- The ids that wait, the one that came back last first, after one more event. -/
def queue (ids : List HandleId) : IdEvent → List HandleId
  | issued id => ids.filter (· ≠ id)
  | returned id => id :: ids

/-- The ids that came back and were not handed out since, the last one first. -/
def waiting (events : List IdEvent) : List HandleId := events.foldl queue []

theorem waiting_concat (events : List IdEvent) (e : IdEvent) :
    waiting (events ++ [e]) = queue (waiting events) e := by
  rw [waiting, List.foldl_append]
  rfl

/-- Of several ids that come back, the last one is handed out first. -/
theorem waiting_append_returned (events : List IdEvent) (ids : List HandleId) :
    waiting (events ++ ids.map returned) = ids.reverse ++ waiting events := by
  induction ids using List.reverseRecOn with
  | nil => rw [List.map_nil, List.append_nil, List.reverse_nil, List.nil_append]
  | append_singleton ids id ih =>
    rw [List.map_append, ← List.append_assoc, List.map_singleton, waiting_concat, ih,
      List.reverse_append]
    rfl

/-- An id waits after another has come back if it did before, or if it is that one. -/
theorem waitsSince_returned {id id' : HandleId} {events after : List IdEvent} :
    WaitsSince id (events ++ [.returned id']) after ↔
      (after = [] ∧ id' = id) ∨
        ∃ rest, after = rest ++ [.returned id'] ∧ WaitsSince id events rest := by
  rw [WaitsSince, Recency.since_concat]
  simp [WaitsSince]

/-- An id waits after another was handed out if it did before, and is not that one. -/
theorem waitsSince_issued {id id' : HandleId} {events after : List IdEvent} :
    WaitsSince id (events ++ [.issued id']) after ↔
      ∃ rest, after = rest ++ [.issued id'] ∧ WaitsSince id events rest ∧ id' ≠ id := by
  rw [WaitsSince, Recency.since_concat]
  simp [WaitsSince]

/-- Of the ids with `p`, the one that came back last is the first one that waits. -/
theorem lastReturned_filter_iff (events : List IdEvent) (p : HandleId → Bool) (id : HandleId) :
    (∃ after, WaitsSince id events after ∧ p id = true ∧
      ∀ id' after', p id' = true → ¬WaitsSince id' after after') ↔
    ((waiting events).filter p).head? = some id := by
  -- The set is arbitrary, since an id that is handed out leaves it for the events before.
  induction events using List.reverseRecOn generalizing p with
  | nil =>
    constructor
    · rintro ⟨after, h, -⟩
      exact absurd h (Recency.not_since_nil _ _ _)
    · rintro ⟨⟩
  | append_singleton events e ih =>
    rw [waiting_concat]
    cases e with
    | issued i =>
      -- The id that is handed out does not wait any more: one id less to look at.
      have hfilter : (queue (waiting events) (.issued i)).filter p =
          (waiting events).filter fun id => p id && id ≠ i := List.filter_filter
      rw [hfilter, ← ih]
      constructor
      · rintro ⟨_, h, hp, hlast⟩
        obtain ⟨rest, rfl, hrest, hne⟩ := waitsSince_issued.1 h
        refine ⟨rest, hrest, by simp [hp, hne.symm], fun id' after' hp' h' => ?_⟩
        simp only [Bool.and_eq_true, decide_eq_true_eq] at hp'
        exact hlast id' _ hp'.1 (waitsSince_issued.2 ⟨after', rfl, h', Ne.symm hp'.2⟩)
      · rintro ⟨rest, hrest, hp, hlast⟩
        simp only [Bool.and_eq_true, decide_eq_true_eq] at hp
        refine ⟨_, waitsSince_issued.2 ⟨rest, rfl, hrest, hp.2.symm⟩, hp.1,
          fun id' after' hp' h' => ?_⟩
        obtain ⟨after'', -, h'', hne⟩ := waitsSince_issued.1 h'
        exact hlast id' after'' (by simp [hp', hne.symm]) h''
    | returned i =>
      by_cases hi : p i = true
      · rw [queue, List.filter_cons_of_pos hi, List.head?_cons, Option.some_inj]
        constructor
        · rintro ⟨after, h, -, hlast⟩
          rcases waitsSince_returned.1 h with ⟨-, hid⟩ | ⟨rest, rfl, -⟩
          · exact hid
          · exact absurd (waitsSince_returned.2 (.inl ⟨rfl, rfl⟩)) (hlast i [] hi)
        · rintro rfl
          exact ⟨[], waitsSince_returned.2 (.inl ⟨rfl, rfl⟩), hi, fun _ _ _ =>
            Recency.not_since_nil _ _ _⟩
      · rw [queue, List.filter_cons_of_neg hi, ← ih]
        constructor
        · rintro ⟨_, h, hp, hlast⟩
          rcases waitsSince_returned.1 h with ⟨-, rfl⟩ | ⟨rest, rfl, hrest⟩
          · exact absurd hp hi
          · exact ⟨rest, hrest, hp, fun id' after' hp' h' =>
              hlast id' _ hp' (waitsSince_returned.2 (.inr ⟨after', rfl, h'⟩))⟩
        · rintro ⟨rest, hrest, hp, hlast⟩
          refine ⟨_, waitsSince_returned.2 (.inr ⟨rest, rfl, hrest⟩), hp,
            fun id' after' hp' h' => ?_⟩
          rcases waitsSince_returned.1 h' with ⟨-, rfl⟩ | ⟨after'', -, h''⟩
          · exact hi hp'
          · exact hlast id' after'' hp' h''

/-- The id that came back last is the first one that waits. -/
theorem lastReturned_iff {events : List IdEvent} {id : HandleId} :
    LastReturned events id ↔ (waiting events).head? = some id := by
  have hall := lastReturned_filter_iff events (fun _ => true) id
  rw [List.filter_true] at hall
  rw [← hall]
  simp [LastReturned]

/-- The greatest id, if those from `1` to `n` were handed out. -/
theorem greatest_eq {events : List IdEvent} {n : Nat} (hn : n < UInt64.size)
    (h : ∀ id, .issued id ∈ events ↔ 1 ≤ id.raw.toNat ∧ id.raw.toNat ≤ n) :
    greatest events = n := by
  have hmax : greatest events = (events.map number).foldr max ⊥ := rfl
  rw [hmax]
  refine Nat.le_antisymm (List.max_le_of_forall_le _ _ ?_) ?_
  · rw [List.forall_mem_map]
    rintro (id | id) he
    · exact ((h id).1 he).2
    · exact Nat.zero_le n
  · rcases Nat.eq_zero_or_pos n with rfl | hpos
    · exact Nat.zero_le _
    · have hnumber : (UInt64.ofNat n).toNat = n := UInt64.toNat_ofNat_of_lt' hn
      have hmem := (h ⟨UInt64.ofNat n⟩).2 ⟨hnumber.symm ▸ hpos, hnumber.le⟩
      exact List.le_max_of_le (List.mem_map_of_mem hmem) hnumber.ge

end IdEvent

/-! ## The pool -/

namespace IdPool

theorem allocate_eq_of_head? {p : IdPool} {id : HandleId} (h : p.free.head? = some id) :
    p.allocate.1 = id := by
  cases hfree : p.free with
  | nil =>
    rw [hfree] at h
    cases h
  | cons first free =>
    rw [hfree, List.head?_cons, Option.some_inj] at h
    rw [allocate, hfree, ← h]

theorem allocate_eq_next {p : IdPool} (h : p.free = []) :
    p.allocate.1 = ⟨UInt64.ofNat p.next⟩ := by rw [allocate, h]

/-- An id that is handed out is not free any more. -/
theorem allocate_free {p : IdPool} (h : p.free.Nodup) :
    p.allocate.2.free = p.free.filter (· ≠ p.allocate.1) := by
  cases hfree : p.free with
  | nil => rw [allocate, hfree, List.filter_nil]
  | cons id free =>
    rw [hfree, List.nodup_cons] at h
    rw [allocate, hfree, List.filter_cons_of_neg (by simp), eq_comm, List.filter_eq_self]
    intro id' hid'
    simpa using ne_of_mem_of_not_mem hid' h.1

/-- A fresh id is handed out only when no other is free. -/
theorem allocate_issued_or (p : IdPool) :
    p.allocate.2.issued = p.issued ∨ p.allocate.2.free = [] := by
  cases hfree : p.free with
  | nil => exact .inr (by rw [allocate, hfree])
  | cons id free => exact .inl (by rw [allocate, hfree, issued, issued])

/-- The ids that wait are the free ones, and those that were handed out are the first
    ones. -/
structure Follows (p : IdPool) (events : List IdEvent) : Prop where
  free : p.free = IdEvent.waiting events
  issued : ∀ id, .issued id ∈ events ↔ id ∈ firstIds p.issued

end IdPool

/-! ## The ids of a run -/

namespace Session

open scoped List

variable {α : Type}

/-- How many handles there are, open or in quarantine. -/
def held (s : Session α) : Nat :=
  s.tracker.table.handles.length + s.tracker.quarantine.handles.length

/-- The ids of the handles that there are in `s` and not in `s'`, the longest closed
    first. -/
def letGo (s s' : Session α) : List HandleId :=
  (s.tracker.quarantine.ids ++ s.tracker.table.ids).filter fun id => id ∉ s'.core.heldIds

/-- What becomes of the ids in a call. -/
def idEvents (s : Session α) (call : Call α) : List IdEvent :=
  (s.letGo (s.perform call).after).map .returned ++
    (newId? (s.perform call).outcome).toList.map .issued

/-- What becomes of the ids in a run, in order. -/
def idHistory (s : Session α) : List (Call α) → List IdEvent
  | [] => []
  | call :: calls => s.idEvents call ++ (s.perform call).after.idHistory calls

theorem idHistory_concat (s : Session α) (calls : List (Call α)) (call : Call α) :
    s.idHistory (calls ++ [call]) = s.idHistory calls ++ (s.run calls).idEvents call := by
  induction calls generalizing s with
  | nil => exact List.append_nil _
  | cons first calls ih =>
    rw [List.cons_append, idHistory, ih, ← List.append_assoc]
    rfl

/-! ## What a call does to the ids -/

theorem heldIds_eq (s : Session α) :
    s.core.heldIds = s.tracker.table.ids ++ s.tracker.quarantine.ids := List.map_append

theorem mem_heldIds {s : Session α} {id : HandleId} :
    id ∈ s.core.heldIds ↔ id ∈ s.tracker.table.ids ∨ id ∈ s.tracker.quarantine.ids := by
  rw [heldIds_eq, List.mem_append]

/-- The handles that leave the quarantine for those that were `moved` there are let go,
    and no others. -/
theorem letGo_eq {s s' : Session α} {before moved after evicted : List HandleId}
    (htable : s.tracker.table.ids = before ++ moved ++ after)
    (hstay : before ++ after ⊆ s'.tracker.table.ids)
    (hquarantine : evicted ++ s'.tracker.quarantine.ids = s.tracker.quarantine.ids ++ moved)
    (hgone : ∀ id ∈ evicted, id ∉ s'.core.heldIds) : s.letGo s' = evicted := by
  have hkept : ∀ ids : List HandleId, (∀ id ∈ ids, id ∈ s'.core.heldIds) →
      ids.filter (fun id => id ∉ s'.core.heldIds) = [] := by
    intro ids hids
    rw [List.filter_eq_nil_iff]
    intro id hid
    simpa only [decide_eq_true_eq, Classical.not_not] using hids id hid
  have hbefore := hkept before fun id hid =>
    mem_heldIds.2 (.inl (hstay (List.mem_append_left _ hid)))
  have hafter := hkept after fun id hid =>
    mem_heldIds.2 (.inl (hstay (List.mem_append_right _ hid)))
  have hquarantined := hkept s'.tracker.quarantine.ids fun id hid => mem_heldIds.2 (.inr hid)
  rw [letGo, htable, List.filter_append, List.filter_append, List.filter_append, hbefore, hafter,
    List.nil_append, List.append_nil, ← List.filter_append, ← hquarantine, List.filter_append,
    hquarantined, List.append_nil, List.filter_eq_self]
  intro id hid
  simpa only [decide_eq_true_eq] using hgone id hid

/-- No handle is lost when some are moved to the quarantine and others leave it. -/
theorem heldIds_perm {s s' : Session α} {before moved after evicted : List HandleId}
    (htable : s.tracker.table.ids = before ++ moved ++ after)
    (htable' : s'.tracker.table.ids = before ++ after)
    (hquarantine : evicted ++ s'.tracker.quarantine.ids = s.tracker.quarantine.ids ++ moved) :
    evicted ++ s'.core.heldIds ~ s.core.heldIds := by
  rw [heldIds_eq, heldIds_eq, htable, htable']
  calc evicted ++ (before ++ after ++ s'.tracker.quarantine.ids)
    _ ~ before ++ after ++ (evicted ++ s'.tracker.quarantine.ids) :=
      List.perm_append_comm_assoc _ _ _
    _ = before ++ ((after ++ s.tracker.quarantine.ids) ++ moved) := by
      rw [hquarantine, List.append_assoc, List.append_assoc]
    _ ~ before ++ (moved ++ (after ++ s.tracker.quarantine.ids)) :=
      List.perm_append_comm.append_left _
    _ = before ++ moved ++ after ++ s.tracker.quarantine.ids := by
      rw [List.append_assoc, List.append_assoc]

/-- The table as it is split when no handle leaves it. -/
theorem table_ids_split (s : Session α) :
    s.tracker.table.ids = s.tracker.table.ids ++ [] ++ [] := by
  rw [List.append_nil, List.append_nil]

/-- The ids of the handles that are let go come back. -/
theorem free_of_recycle {s s' : Session α} (hs : s.core.Conserved)
    (few : s.ids.issued < UInt64.size - 1) {before moved after : List HandleId}
    {evicted : List (Handle α)} (htable : s.tracker.table.ids = before ++ moved ++ after)
    (htable' : s'.tracker.table.ids = before ++ after)
    (hquarantine : evicted.map Handle.id ++ s'.tracker.quarantine.ids =
      s.tracker.quarantine.ids ++ moved)
    (hids : s'.ids = s.ids.recycle (evicted.map Handle.record)) :
    s'.ids.next = s.ids.next ∧ s'.ids.free = (s.letGo s').reverse ++ s.ids.free := by
  have hheld := heldIds_perm htable htable' hquarantine
  have hnodup : (evicted.map Handle.id ++ s'.core.heldIds).Nodup :=
    hheld.nodup_iff.2 (hs.perm.nodup_iff.2
      (IdPool.firstIds_nodup (few.trans_le (Nat.sub_le _ _)))).of_append_left
  have hgone : s.letGo s' = evicted.map Handle.id :=
    letGo_eq htable (htable' ▸ List.Subset.refl _) hquarantine fun id hid hid' =>
      (List.nodup_append'.1 hnodup).2.2 hid hid'
  rw [hids, hgone]
  exact ⟨IdPool.recycle_next _ _, (Core.conserved_iff.1 hs).recycle_free few hheld⟩

/-- A call that opens a handle does so for some referent. -/
theorem perform_core_of_opens {s : Session α} {call : Call α} (h : s.Opens call) :
    ∃ x, (s.perform call).after.core = (s.core.quiet.openHandle x).after.core := by
  cases call with
  | openHandle x => exact ⟨x, s.openHandle_core x⟩
  | duplicate id =>
    cases hx : s.tracker.referent? id with
    | none => exact absurd h (referent?_eq_none_iff.1 hx)
    | some x => exact ⟨x, (duplicate_of_referent? hx).2⟩
  | _ => exact h.elim

/-- A call that opens a handle takes the next id of the pool and lets no handle go. -/
theorem perform_of_opens {s : Session α} (hs : s.core.Conserved)
    (few : s.ids.issued < UInt64.size - 1) {call : Call α} (h : s.Opens call) :
    s.letGo (s.perform call).after = [] ∧ (s.perform call).after.ids = s.ids.allocate.2 := by
  obtain ⟨x, hcore⟩ := perform_core_of_opens h
  rw [(openHandle_of_not_mem (hs.fresh few).not_open x).2] at hcore
  have htable : (s.perform call).after.tracker.table.ids = s.tracker.table.ids ++ [_] :=
    (congrArg (fun c : Core α => c.tracking.table.ids) hcore).trans List.map_append
  have hquarantine : [] ++ (s.perform call).after.tracker.quarantine.ids =
      s.tracker.quarantine.ids ++ [] :=
    (congrArg (fun c : Core α => c.tracking.quarantine.ids) hcore).trans (List.append_nil _).symm
  refine ⟨letGo_eq s.table_ids_split ?_ hquarantine (List.forall_mem_nil _),
    congrArg Core.ids hcore⟩
  rw [List.append_nil, htable]
  exact List.subset_append_left _ _

/-- Any other call takes no id, and the ids of the handles that it lets go come back. -/
theorem perform_of_not_opens {s : Session α} (hs : s.core.Conserved)
    (few : s.ids.issued < UInt64.size - 1) {call : Call α} (h : ¬s.Opens call) :
    (s.perform call).after.ids.next = s.ids.next ∧
      (s.perform call).after.ids.free =
        (s.letGo (s.perform call).after).reverse ++ s.ids.free := by
  rcases s.perform_core_cases call with ⟨x, hcall, -⟩ | ⟨id, found, table, -, hr, hcore⟩ |
    ⟨size, -, hcore⟩ | ⟨htable, hquarantine, hids⟩
  · rcases hcall with rfl | ⟨id, rfl, hx⟩
    · exact absurd trivial h
    · exact absurd (mem_of_referent? hx) h
  · obtain ⟨-, before, after, hsplit, -, rfl⟩ := OpenTable.remove?_eq_some_iff.1 hr
    have htable : s.tracker.table.ids =
        before.map Handle.id ++ [found.id] ++ after.map Handle.id := by
      have hids : s.tracker.table.ids = (before ++ found :: after).map Handle.id :=
        congrArg (List.map Handle.id) hsplit
      rw [hids, List.map_append, List.map_cons, List.append_assoc]
      rfl
    refine free_of_recycle hs few htable ?_ ?_ (congrArg Core.ids hcore)
    · exact (congrArg (fun c : Core α => c.tracking.table.ids) hcore).trans List.map_append
    · exact (congrArg (_ ++ ·) (congrArg (fun c : Core α => c.tracking.quarantine.ids) hcore)).trans
        (Quarantine.push_map Handle.stateless_id _ found)
  · refine free_of_recycle hs few s.table_ids_split ?_ ?_ (congrArg Core.ids hcore)
    · rw [List.append_nil]
      exact congrArg (fun c : Core α => c.tracking.table.ids) hcore
    · rw [List.append_nil]
      exact (congrArg (_ ++ ·) (congrArg (fun c : Core α => c.tracking.quarantine.ids) hcore)).trans
        (Quarantine.resize_map Handle.stateless_id _ _)
  · have hkept : ([] : List (Handle α)).map Handle.id ++
        (s.perform call).after.tracker.quarantine.ids = s.tracker.quarantine.ids ++ [] :=
      (congrArg Quarantine.ids hquarantine).trans (List.append_nil _).symm
    refine free_of_recycle hs few s.table_ids_split ?_ hkept hids
    rw [List.append_nil]
    exact congrArg OpenTable.ids htable

/-! ## The pool of a run -/

/-- An id that is handed out was handed out before, or is the next one. -/
theorem mem_firstIds_allocate {s : Session α} (hs : s.core.Conserved) {id : HandleId} :
    id ∈ IdPool.firstIds s.ids.allocate.2.issued ↔
      id ∈ IdPool.firstIds s.ids.issued ∨ id = s.ids.allocate.1 := by
  cases hfree : s.ids.free with
  | nil =>
    obtain ⟨n, hn⟩ : ∃ n, s.ids.next = n + 1 := Nat.exists_eq_add_one.2 hs.next_pos
    have hissued : s.ids.issued = n := by rw [IdPool.issued, hn, Nat.add_sub_cancel]
    have hissued' : s.ids.allocate.2.issued = n + 1 := by
      rw [IdPool.allocate, hfree, IdPool.issued, hn, Nat.add_sub_cancel]
    rw [hissued, hissued', IdPool.firstIds_succ, List.mem_append, List.mem_singleton,
      IdPool.allocate_eq_next hfree, hn]
  | cons first free =>
    have hfirst : s.ids.allocate.1 = first := IdPool.allocate_eq_of_head? (hfree ▸ rfl)
    have hissued : s.ids.allocate.2.issued = s.ids.issued := by
      rw [IdPool.allocate, hfree, IdPool.issued, IdPool.issued]
    have hmem : s.ids.allocate.1 ∈ IdPool.firstIds s.ids.issued := by
      refine hs.perm.subset (List.mem_append_right _ ?_)
      rw [hfirst]
      exact hfree ▸ List.mem_cons_self
    rw [hissued, or_iff_left_of_imp]
    rintro rfl
    exact hmem

/-- When no id is free, the next one is the one after those that were handed out. -/
theorem allocate_number {s : Session α} (hs : s.core.Conserved)
    (few : s.ids.issued < UInt64.size - 1) (hfree : s.ids.free = []) :
    s.ids.allocate.1.raw.toNat = s.ids.issued + 1 := by
  have hnext : s.ids.issued + 1 = s.ids.next := Nat.sub_add_cancel hs.next_pos
  rw [IdPool.allocate_eq_next hfree, hnext]
  exact UInt64.toNat_ofNat_of_lt' (by omega)

/-- Every call keeps what can be told of the pool. -/
theorem follows_perform {s : Session α} (hs : s.core.Conserved)
    (few : s.ids.issued < UInt64.size - 1) {events : List IdEvent} (h : s.ids.Follows events)
    (call : Call α) : (s.perform call).after.ids.Follows (events ++ s.idEvents call) := by
  rcases hs.newId?_perform few call with ⟨hopens, hid⟩ | ⟨hnot, hid⟩
  · obtain ⟨hgone, hids⟩ := perform_of_opens hs few hopens
    have hevents : s.idEvents call = [.issued s.ids.allocate.1] := by
      rw [idEvents, hgone, hid]
      rfl
    rw [hids, hevents]
    refine ⟨?_, fun id => ?_⟩
    · rw [IdEvent.waiting_concat, ← h.free, IdPool.allocate_free (hs.partitioned few).free_nodup]
      rfl
    · rw [List.mem_append, List.mem_singleton, IdEvent.issued.injEq, h.issued,
        mem_firstIds_allocate hs]
  · obtain ⟨hnext, hfree⟩ := perform_of_not_opens hs few hnot
    have hevents : s.idEvents call = (s.letGo (s.perform call).after).map .returned := by
      rw [idEvents, hid]
      exact List.append_nil _
    rw [hevents]
    refine ⟨?_, fun id => ?_⟩
    · rw [hfree, IdEvent.waiting_append_returned, h.free]
    · rw [IdPool.issued, hnext, ← IdPool.issued, ← h.issued]
      simp

/-- The fresh ids of a run are no fewer than those of its beginning. -/
theorem issued_mono (s : Session α) {before calls : List (Call α)} (h : before <+: calls) :
    (s.run before).ids.issued ≤ (s.run calls).ids.issued := by
  obtain ⟨after, rfl⟩ := h
  rw [run_append]
  exact Nat.sub_le_sub_right (next_le_run _ after) 1

/-- What becomes of the ids in a run tells the pool, if the ids do not run out. -/
theorem follows_run (settings : Settings) (calls : List (Call α))
    (few : ((ofSettings settings : Session α).run calls).ids.issued < UInt64.size - 1) :
    ((ofSettings settings : Session α).run calls).ids.Follows
      ((ofSettings settings : Session α).idHistory calls) := by
  induction calls using List.reverseRecOn with
  | nil => exact ⟨rfl, fun id => iff_of_false List.not_mem_nil List.not_mem_nil⟩
  | append_singleton calls call ih =>
    have hbefore := (issued_mono _ (List.prefix_append calls [call])).trans_lt few
    rw [run_concat, idHistory_concat]
    exact follows_perform (conserved_run settings calls hbefore) hbefore (ih hbefore) call

/-! ## How many ids there are -/

/-- There are as many ids as handles and free ids. -/
theorem held_add_free {s : Session α} (hs : s.core.Conserved) :
    s.held + s.ids.free.length = s.ids.issued := by
  have hlength := hs.perm.length_eq
  rw [List.length_append, Core.heldIds, List.length_map, List.length_append, IdPool.firstIds,
    List.length_map, List.length_range] at hlength
  exact hlength

/-- There were as many handles at some time as there are ids. -/
theorem exists_held_eq_issued (settings : Settings) (calls : List (Call α))
    (few : ((ofSettings settings : Session α).run calls).ids.issued < UInt64.size - 1) :
    ∃ before, before <+: calls ∧ ((ofSettings settings : Session α).run before).held =
      ((ofSettings settings : Session α).run calls).ids.issued := by
  induction calls using List.reverseRecOn with
  | nil => exact ⟨[], List.prefix_rfl, rfl⟩
  | append_singleton calls call ih =>
    have hstart := List.prefix_append calls [call]
    have hbefore := (issued_mono _ hstart).trans_lt few
    have hs := conserved_run settings calls hbefore
    -- Either no id is fresh, and the time is an earlier one, or none is free, and it is now.
    have hcases : ((ofSettings settings).run (calls ++ [call])).ids.issued =
        ((ofSettings settings).run calls).ids.issued ∨
        ((ofSettings settings).run (calls ++ [call])).ids.free = [] := by
      rw [run_concat]
      by_cases hopens : ((ofSettings settings).run calls).Opens call
      · rw [(perform_of_opens hs hbefore hopens).2]
        exact IdPool.allocate_issued_or _
      · exact .inl (congrArg (· - 1) (perform_of_not_opens hs hbefore hopens).1)
    rcases hcases with hissued | hfree
    · obtain ⟨before, h, hheld⟩ := ih hbefore
      exact ⟨before, h.trans hstart, hheld.trans hissued.symm⟩
    · refine ⟨calls ++ [call], List.prefix_rfl, ?_⟩
      have hlength := held_add_free (conserved_run settings _ few)
      rw [hfree, List.length_nil, Nat.add_zero] at hlength
      exact hlength

/-- In every run in which the ids do not run out, the ids that are handed out are those
    from `1` to the greatest number of handles that there were after a call, open or in
    quarantine. A handle that is opened gets the id that came back last, of those that
    were not handed out again, and if there is none it gets the one after the greatest so
    far. -/
theorem ids_are_few (settings : Settings) (calls : List (Call α))
    (few : ((ofSettings settings : Session α).run calls).ids.issued < UInt64.size - 1) :
    let s := fun calls : List (Call α) => (ofSettings settings).run calls
    let events := fun calls : List (Call α) => (ofSettings settings).idHistory calls
    (∃ peak, IsGreatest {n | ∃ before, before <+: calls ∧ (s before).held = n} peak ∧
      ∀ id, .issued id ∈ events calls ↔ 1 ≤ id.raw.toNat ∧ id.raw.toNat ≤ peak) ∧
    ∀ before call, before ++ [call] <+: calls →
      ((s before).Opens call → ∃ id, newId? ((s before).perform call).outcome = some id) ∧
      ∀ id, newId? ((s before).perform call).outcome = some id →
        (∀ id', IdEvent.LastReturned (events before) id' → id = id') ∧
        ((∀ id', ¬IdEvent.LastReturned (events before) id') →
          id.raw.toNat = IdEvent.greatest (events before) + 1) := by
  intro s events
  have hfew : ∀ before, before <+: calls → (s before).ids.issued < UInt64.size - 1 :=
    fun before h => (issued_mono _ h).trans_lt few
  -- The ids that were handed out are the first ones, by what can be told of the pool.
  have hissued : ∀ before, before <+: calls → ∀ id, .issued id ∈ events before ↔
      1 ≤ id.raw.toNat ∧ id.raw.toNat ≤ (s before).ids.issued := fun before h id => by
    rw [(follows_run settings before (hfew before h)).issued,
      IdPool.mem_firstIds ((hfew before h).trans_le (Nat.sub_le _ _))]
  refine ⟨⟨(s calls).ids.issued, ⟨exists_held_eq_issued settings calls few, ?_⟩,
    hissued calls List.prefix_rfl⟩, fun before call h => ?_⟩
  · rintro _ ⟨before, h, rfl⟩
    have hheld := held_add_free (conserved_run settings before (hfew before h))
    exact (Nat.le_of_add_right_le hheld.le).trans (issued_mono _ h)
  · have h := (List.prefix_append before [call]).trans h
    have hs := conserved_run settings before (hfew before h)
    have hfree := (follows_run settings before (hfew before h)).free
    rcases hs.newId?_perform (hfew before h) call with ⟨-, hid⟩ | ⟨hnot, hid⟩
    · refine ⟨fun _ => ⟨_, hid⟩, fun id hid' => ?_⟩
      obtain rfl : (s before).ids.allocate.1 = id := Option.some.inj (hid.symm.trans hid')
      refine ⟨fun id' hlast => ?_, fun hnone => ?_⟩
      · rw [IdEvent.lastReturned_iff, ← hfree] at hlast
        exact IdPool.allocate_eq_of_head? hlast
      · -- Nothing waits, so that the pool hands out a fresh id.
        have hempty : (s before).ids.free = [] := by
          rw [← List.head?_eq_none_iff, hfree, Option.eq_none_iff_forall_ne_some]
          exact fun id' h' => hnone id' (IdEvent.lastReturned_iff.2 h')
        rw [IdEvent.greatest_eq ((hfew before h).trans_le (Nat.sub_le _ _)) (hissued before h)]
        exact allocate_number hs (hfew before h) hempty
    · refine ⟨fun hopens => absurd hopens hnot, fun id hid' => ?_⟩
      rw [hid] at hid'
      cases hid'

/-- The second handle that is closed takes the place of the first in quarantine, whose id
    goes to the next handle; then no id waits, and a second handle for that one gets the
    third id, as there have never been more handles. -/
theorem ids_are_few_after_eviction :
    let x : Referent Nat := ⟨7, none⟩
    let before : List (Call Nat) := [.openHandle x, .openHandle x, .close ⟨1⟩, .close ⟨2⟩]
    let calls := before ++ [.openHandle x] ++ [.duplicate ⟨1⟩]
    let s := fun calls : List (Call Nat) => (ofSettings ⟨.report, 1⟩).run calls
    let events := fun calls : List (Call Nat) => (ofSettings ⟨.report, 1⟩).idHistory calls
    (s calls).ids.issued = 3 ∧
    (∃ peak, IsGreatest {n | ∃ before, before <+: calls ∧ (s before).held = n} peak ∧
      ∀ id, .issued id ∈ events calls ↔ 1 ≤ id.raw.toNat ∧ id.raw.toNat ≤ peak) ∧
    (IdEvent.LastReturned (events before) ⟨1⟩ ∧
      ∃ id, newId? ((s before).perform (.openHandle x)).outcome = some id ∧ id = ⟨1⟩) ∧
    ((∀ id', ¬IdEvent.LastReturned (events (before ++ [.openHandle x])) id') ∧
      ∃ id, newId? ((s (before ++ [.openHandle x])).perform (.duplicate ⟨1⟩)).outcome = some id ∧
        id.raw.toNat = IdEvent.greatest (events (before ++ [.openHandle x])) + 1) := by
  intro x before calls s events
  have hissued : (s calls).ids.issued = 3 := by decide +kernel
  have few : (s calls).ids.issued < UInt64.size - 1 := by
    rw [hissued]
    decide
  obtain ⟨hpeak, hopened⟩ := ids_are_few ⟨.report, 1⟩ calls few
  have hlast : IdEvent.LastReturned (events before) ⟨1⟩ :=
    IdEvent.lastReturned_iff.2 (by decide +kernel)
  have hnone : ∀ id', ¬IdEvent.LastReturned (events (before ++ [.openHandle x])) id' := by
    intro id'
    have hempty : IdEvent.waiting (events (before ++ [.openHandle x])) = [] := by decide +kernel
    rw [IdEvent.lastReturned_iff, hempty]
    rintro ⟨⟩
  have hfirst := hopened before (.openHandle x) (List.prefix_append _ _)
  have hsecond := hopened (before ++ [.openHandle x]) (.duplicate ⟨1⟩) List.prefix_rfl
  obtain ⟨id, hid⟩ := hfirst.1 trivial
  obtain ⟨id', hid'⟩ := hsecond.1 (show (⟨1⟩ : HandleId) ∈ _ by decide +kernel)
  exact ⟨hissued, hpeak, ⟨hlast, id, hid, (hfirst.2 id hid).1 _ hlast⟩,
    hnone, id', hid', (hsecond.2 id' hid').2 hnone⟩

end Session

end HandleWatch
