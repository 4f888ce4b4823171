import HandleWatch.LeakWindow
import HandleWatch.Proofs.TrackerRun

/-!
# The order in which the table is kept does not show

A table need not keep its handles in the order of their opening. It may keep them in any
order, and change that at any time, as a hash table does, if it sorts them by their
numbers whenever they are listed; and the sorting need not be stable. The handles of a
table have numbers of their own, whatever ids are used again and whatever openings are
refused (`OpenTable.Sequenced`), so there is one way to sort them
(`OpenTable.Sequenced.sort_eq`), and as their ids are distinct, every handle is found
under its id in any order (`OpenTable.Rearranged.find?_eq`).

* `Tracker.order_does_not_show`: whenever the handles of a table or of a tracker are
  rearranged (`OpenTable.Reaches`, `Tracker.Reaches`), what is listed is the same. So the
  open handles, the leaks and the order of the releases at the end follow from the calls.
-/

namespace HandleWatch

open scoped List

variable {α : Type}

/-- A routine that sorts handles by their numbers. Those with one number may come in any
    order. -/
def Sorts (sort : List (Handle α) → List (Handle α)) : Prop :=
  ∀ handles, sort handles ~ handles ∧
    (sort handles).Pairwise fun h h' => h.record.sequence ≤ h'.record.sequence

/-! ## Tables -/

namespace OpenTable

/-- The calls of a table. -/
inductive Call (α : Type) where
  | insert (id : HandleId) (referent : Referent α) (generation : Generation)
  | remove (id : HandleId)

/-- The handle that a call puts in or takes out, and the table after it. -/
def change? (t : OpenTable α) : Call α → Option (Handle α × OpenTable α)
  | .insert id referent generation => t.insert? id referent generation
  | .remove id => t.remove? id

/-- One call. -/
def perform (t : OpenTable α) (call : Call α) : OpenTable α :=
  match t.change? call with
  | some (_, t') => t'
  | none => t

/-- The handles are numbered in their order, and their ids are distinct. -/
structure Sequenced (t : OpenTable α) : Prop where
  distinct : t.ids.Nodup
  sorted : t.handles.Pairwise fun h h' => h.record.sequence < h'.record.sequence
  below : ∀ h ∈ t.handles, h.record.sequence < t.nextSequence

/-- The same handles, perhaps in another order. -/
structure Rearranged (t t' : OpenTable α) : Prop where
  handles : t'.handles ~ t.handles
  nextSequence : t'.nextSequence = t.nextSequence

/-- The tables that some calls may lead to, from an empty one, when the handles can be
    rearranged at any time. -/
inductive Reaches : List (Call α) → OpenTable α → Prop
  | start : Reaches [] {}
  | perform {calls : List (Call α)} {t : OpenTable α} (h : Reaches calls t) (call : Call α) :
    Reaches (calls ++ [call]) (t.perform call)
  | rearrange {calls : List (Call α)} {t t' : OpenTable α} (h : Reaches calls t)
      (arranged : t.Rearranged t') : Reaches calls t'

/-- The table after some calls. -/
def run (t : OpenTable α) (calls : List (Call α)) : OpenTable α :=
  calls.foldl perform t

theorem run_concat (t : OpenTable α) (calls : List (Call α)) (call : Call α) :
    t.run (calls ++ [call]) = (t.run calls).perform call := by
  rw [run, List.foldl_append]
  rfl

namespace Sequenced

variable {t : OpenTable α}

theorem empty : Sequenced ({} : OpenTable α) where
  distinct := List.nodup_nil
  sorted := .nil
  below := List.forall_mem_nil _

/-- A new handle gets a number that no other has. -/
theorem insert? (ht : t.Sequenced) {id : HandleId} {x : Referent α} {g : Generation}
    {h : Handle α} {t' : OpenTable α} (hinsert : t.insert? id x g = some (h, t')) :
    t'.Sequenced := by
  unfold OpenTable.insert? at hinsert
  split at hinsert
  · cases hinsert
  · next hhas =>
    cases hinsert
    have hfresh : id ∉ t.ids := fun hid => hhas (has_iff.2 hid)
    constructor
    · rw [ids, List.map_append, List.map_singleton, ← List.concat_eq_append]
      exact ht.distinct.concat hfresh
    · refine List.pairwise_append.2 ⟨ht.sorted, List.pairwise_singleton _ _, fun h hh h' hh' => ?_⟩
      rw [List.mem_singleton.1 hh']
      exact ht.below h hh
    · refine List.forall_mem_append.2 ⟨fun h hh => ?_, List.forall_mem_singleton.2 ?_⟩
      · exact Nat.lt_succ_of_lt (ht.below h hh)
      · exact Nat.lt_succ_self _

theorem remove? (ht : t.Sequenced) {id : HandleId} {h : Handle α} {t' : OpenTable α}
    (hremove : t.remove? id = some (h, t')) : t'.Sequenced := by
  obtain ⟨-, before, after, hsplit, -, rfl⟩ := remove?_eq_some_iff.1 hremove
  have hremoved : (before ++ after).Sublist t.handles := by
    rw [hsplit]
    exact (List.Sublist.refl before).append (List.sublist_cons_self h after)
  exact ⟨ht.distinct.sublist (hremoved.map _), ht.sorted.sublist hremoved,
    fun h hh => ht.below h (hremoved.subset hh)⟩

theorem perform (ht : t.Sequenced) (call : Call α) : (t.perform call).Sequenced := by
  unfold OpenTable.perform
  split
  · next h t' hchange =>
    cases call with
    | insert id x g => exact ht.insert? hchange
    | remove id => exact ht.remove? hchange
  · exact ht

/-- After every run of a table its handles are numbered in their order. -/
theorem run (ht : t.Sequenced) (calls : List (Call α)) : (t.run calls).Sequenced := by
  induction calls generalizing t with
  | nil => exact ht
  | cons call calls ih => exact ih (ht.perform call)

/-- There is one way to sort some handles of a table. -/
theorem sort_eq (ht : t.Sequenced) {sort : List (Handle α) → List (Handle α)} (hsort : Sorts sort)
    {part handles : List (Handle α)} (hpart : part.Sublist t.handles) (hperm : handles ~ part) :
    sort handles = part := by
  obtain ⟨hsorted, hle⟩ := hsort handles
  have hall := ht.sorted.sublist hpart
  refine List.Perm.eq_of_pairwise ?_ hle (hall.imp Nat.le_of_lt) (hsorted.trans hperm)
  intro h h' hh hh' hle hle'
  -- Two handles with one number are one.
  have hnodup : (part.map (·.record.sequence)).Nodup :=
    List.pairwise_map.2 (hall.imp Nat.ne_of_lt)
  exact List.inj_on_of_nodup_map hnodup ((hsorted.trans hperm).subset hh) hh'
    (Nat.le_antisymm hle hle')

end Sequenced

/-- The handle of an id is the one that has it, if ids are distinct. -/
theorem find?_eq_some_iff_mem {t : OpenTable α} (distinct : t.ids.Nodup) {id : HandleId}
    {h : Handle α} : t.find? id = some h ↔ h ∈ t.handles ∧ h.id = id := by
  constructor
  · intro hfound
    obtain ⟨hid, before, after, hsplit, -⟩ := find?_eq_some_iff.1 hfound
    exact ⟨hsplit ▸ List.mem_append_right _ List.mem_cons_self, hid⟩
  · rintro ⟨hh, hid⟩
    cases hfound : t.find? id with
    | none => exact absurd (List.mem_map_of_mem hh) (hid ▸ find?_eq_none_iff.1 hfound)
    | some h' =>
      obtain ⟨hid', before, after, hsplit, -⟩ := find?_eq_some_iff.1 hfound
      have hh' : h' ∈ t.handles := hsplit ▸ List.mem_append_right _ List.mem_cons_self
      rw [List.inj_on_of_nodup_map distinct hh' hh (hid'.trans hid.symm)]

namespace Rearranged

variable {t t' t'' : OpenTable α}

theorem refl (t : OpenTable α) : t.Rearranged t := ⟨.refl _, rfl⟩

theorem trans (h : t.Rearranged t') (h' : t'.Rearranged t'') : t.Rearranged t'' :=
  ⟨h'.handles.trans h.handles, h'.nextSequence.trans h.nextSequence⟩

theorem ids (h : t.Rearranged t') : t'.ids ~ t.ids := h.handles.map _

/-- The handle of an id is found in any order. -/
theorem find?_eq (h : t.Rearranged t') (distinct : t.ids.Nodup) (id : HandleId) :
    t'.find? id = t.find? id := by
  refine Option.ext fun x => ?_
  rw [find?_eq_some_iff_mem distinct, find?_eq_some_iff_mem (h.ids.nodup_iff.2 distinct),
    h.handles.mem_iff]

theorem has_eq (h : t.Rearranged t') (distinct : t.ids.Nodup) (id : HandleId) :
    t'.has id = t.has id := by rw [has, has, h.find?_eq distinct]

/-- A handle is put into both tables, or into none. -/
theorem insert? (h : t.Rearranged t') (distinct : t.ids.Nodup) (id : HandleId) (x : Referent α)
    (g : Generation) :
    (t.insert? id x g = none ∧ t'.insert? id x g = none) ∨
      ∃ new u u', t.insert? id x g = some (new, u) ∧ t'.insert? id x g = some (new, u') ∧
        u.Rearranged u' := by
  unfold OpenTable.insert?
  rw [h.has_eq distinct, h.nextSequence]
  split
  · exact .inl ⟨rfl, rfl⟩
  · exact .inr ⟨_, _, _, rfl, rfl, h.handles.append_right _, rfl⟩

/-- The same handle is taken out of both tables, or none. -/
theorem remove? (h : t.Rearranged t') (distinct : t.ids.Nodup) (id : HandleId) :
    (t.remove? id = none ∧ t'.remove? id = none) ∨
      ∃ old u u', t.remove? id = some (old, u) ∧ t'.remove? id = some (old, u') ∧
        u.Rearranged u' := by
  unfold OpenTable.remove?
  rw [h.find?_eq distinct]
  cases t.find? id with
  | none => exact .inl ⟨rfl, rfl⟩
  | some old =>
    have hunique : t'.handles.Pairwise fun x y => decide (x.id = id) = true →
        decide (y.id = id) = true → False := by
      have hne := List.pairwise_map.1 (h.ids.nodup_iff.2 distinct)
      refine hne.imp fun hxy hx hy => hxy ?_
      rw [of_decide_eq_true hx, of_decide_eq_true hy]
    exact .inr ⟨_, _, _, rfl, rfl, h.handles.eraseP _ hunique, h.nextSequence⟩

/-- A call does the same to both tables. -/
theorem perform (h : t.Rearranged t') (distinct : t.ids.Nodup) (call : Call α) :
    (t.perform call).Rearranged (t'.perform call) := by
  have hchange : (t.change? call = none ∧ t'.change? call = none) ∨
      ∃ x u u', t.change? call = some (x, u) ∧ t'.change? call = some (x, u') ∧
        u.Rearranged u' := by
    cases call with
    | insert id x g => exact h.insert? distinct id x g
    | remove id => exact h.remove? distinct id
  unfold OpenTable.perform
  rcases hchange with ⟨hnone, hnone'⟩ | ⟨x, u, u', hsome, hsome', hu⟩
  · rw [hnone, hnone']
    exact h
  · rw [hsome, hsome']
    exact hu

/-- The handles of some generations are the same, if sorted. -/
theorem sort_since (h : t.Rearranged t') (ht : t.Sequenced)
    {sort : List (Handle α) → List (Handle α)} (hsort : Sorts sort) (g : Generation) :
    sort (t'.since g) = t.since g :=
  ht.sort_eq hsort List.filter_sublist (h.handles.filter _)

theorem sort_handles (h : t.Rearranged t') (ht : t.Sequenced)
    {sort : List (Handle α) → List (Handle α)} (hsort : Sorts sort) :
    sort t'.handles = t.handles :=
  ht.sort_eq hsort (List.Sublist.refl _) h.handles

end Rearranged

/-- However the handles are rearranged meanwhile, the table after some calls has those
    that it would have in the order of their opening. -/
theorem Reaches.rearranged {calls : List (Call α)} {t : OpenTable α} (h : Reaches calls t) :
    (run {} calls).Rearranged t := by
  induction h with
  | start => exact .refl _
  | perform _ call ih =>
    rw [run_concat]
    exact ih.perform (Sequenced.empty.run _).distinct call
  | rearrange _ arranged ih => exact ih.trans arranged

end OpenTable

/-! ## Trackers -/

namespace Tracker

/-- The trackers that some calls may lead to, with the events and the released referents
    on the way, when the handles of the table can be rearranged at any time. -/
inductive Reaches (capacity : Nat) :
    List (Call α) → List (Event α) → List (Referent α) → Tracker α → Prop
  | start : Reaches capacity [] [] [] (ofCapacity capacity)
  | perform {calls : List (Call α)} {events : List (Event α)} {released : List (Referent α)}
      {t : Tracker α} (h : Reaches capacity calls events released t) (call : Call α) :
    Reaches capacity (calls ++ [call]) (events ++ [⟨call, (t.perform call).outcome⟩])
      (released ++ (t.perform call).released) (t.perform call).after
  | rearrange {calls : List (Call α)} {events : List (Event α)} {released : List (Referent α)}
      {t : Tracker α} {table : OpenTable α} (h : Reaches capacity calls events released t)
      (arranged : t.table.Rearranged table) :
    Reaches capacity calls events released { t with table }

/-- The tracker with the handles of its table sorted. -/
def sortedBy (sort : List (Handle α) → List (Handle α)) (t : Tracker α) : Tracker α :=
  { t with table := { t.table with handles := sort t.table.handles } }

/-- A call does the same, with the same outcome and releases, if the handles of the table
    are rearranged before it. -/
theorem perform_of_rearranged {t : Tracker α} (distinct : t.table.ids.Nodup)
    {table : OpenTable α} (h : t.table.Rearranged table) (call : Call α) :
    let step := t.perform call
    let step' := perform { t with table } call
    step'.outcome = step.outcome ∧ step'.released = step.released ∧
      ∃ table', step.after.table.Rearranged table' ∧
        step'.after = { step.after with table := table' } := by
  have hdetect : ∀ (tally : Tally) id operation,
      HandleWatch.detect table t.quarantine t.sink tally id operation =
        HandleWatch.detect t.table t.quarantine t.sink tally id operation := by
    intro tally id operation
    rw [HandleWatch.detect, HandleWatch.detect, HandleWatch.classify, HandleWatch.classify,
      h.find?_eq distinct]
  -- The three calls that look an id up find the same handle, since no id is open twice.
  cases call with
  | register id x =>
    rcases h.insert? distinct id x t.generation with
      ⟨hnone, hnone'⟩ | ⟨new, u, u', hsome, hsome', hu⟩
    · simp only [perform, register, hnone, hnone']
      cases x.failure <;> exact ⟨rfl, rfl, table, h, rfl⟩
    · simp only [perform, register, hsome, hsome']
      exact ⟨rfl, rfl, u', hu, rfl⟩
  | close id =>
    rcases h.remove? distinct id with ⟨hnone, hnone'⟩ | ⟨old, u, u', hsome, hsome', hu⟩
    · simp only [perform, close, detect, hnone, hnone', hdetect]
      exact ⟨rfl, rfl, table, h, rfl⟩
    · simp only [perform, close, hsome, hsome']
      exact ⟨rfl, rfl, u', hu, rfl⟩
  | validate id =>
    simp only [perform, validate, detect, hdetect]
    exact ⟨rfl, rfl, table, h, rfl⟩
  | _ => exact ⟨rfl, rfl, table, h, rfl⟩

theorem perform_sequenced {t : Tracker α} (ht : t.table.Sequenced) (call : Call α) :
    (t.perform call).after.table.Sequenced := by
  cases call with
  | register id x =>
    simp only [perform, register, Transition.map]
    cases hinsert : t.table.insert? id x t.generation with
    | some opened => exact ht.insert? hinsert
    | none => cases x.failure <;> exact ht
  | close id =>
    simp only [perform, close, Transition.map]
    cases hremove : t.table.remove? id with
    | some found => exact ht.remove? hremove
    | none => exact ht
  | _ => exact ht

/-- So they are after every run of a tracker. -/
theorem sequenced_run (capacity : Nat) (calls : List (Call α)) :
    ((ofCapacity capacity : Tracker α).run calls).table.Sequenced := by
  induction calls using List.reverseRecOn with
  | nil => exact .empty
  | append_singleton calls call ih =>
    rw [run_concat]
    exact perform_sequenced ih call

/-- However the handles are rearranged meanwhile, the calls have the outcomes and the
    releases that they would have, and lead to the same tracker but for the order. -/
theorem Reaches.rearranged {capacity : Nat} {calls : List (Call α)} {events : List (Event α)}
    {released : List (Referent α)} {t : Tracker α} (h : Reaches capacity calls events released t) :
    events = (ofCapacity capacity).history calls ∧
      released = (ofCapacity capacity).released calls ∧
      ∃ table, ((ofCapacity capacity : Tracker α).run calls).table.Rearranged table ∧
        t = { (ofCapacity capacity).run calls with table } := by
  induction h with
  | start => exact ⟨rfl, rfl, _, .refl _, rfl⟩
  | @perform calls events released t h call ih =>
    obtain ⟨rfl, rfl, table, htable, rfl⟩ := ih
    obtain ⟨houtcome, hreleased, table', htable', hafter⟩ :=
      perform_of_rearranged (sequenced_run capacity calls).distinct htable call
    rw [history_concat, released_concat, run_concat, houtcome, hreleased]
    exact ⟨rfl, rfl, table', htable', hafter⟩
  | rearrange h arranged ih =>
    obtain ⟨hevents, hreleased, table, htable, rfl⟩ := ih
    exact ⟨hevents, hreleased, _, htable.trans arranged, rfl⟩

/-- Whatever order the handles of a table are kept in, and however that changes on the
    way, a routine that sorts them by their numbers lists the same ones in the same order.
    So in every run of a tracker the outcomes of the calls, the referents that they
    release, the open handles since a generation, the leaks and the order of the releases
    at the end are what the calls alone make them. -/
theorem order_does_not_show {sort sort' : List (Handle α) → List (Handle α)} (hsort : Sorts sort)
    (hsort' : Sorts sort') :
    (∀ (calls : List (OpenTable.Call α)) (t t' : OpenTable α),
      OpenTable.Reaches calls t → OpenTable.Reaches calls t' →
        (∀ g, sort (t.since g) = sort' (t'.since g)) ∧ sort t.handles = sort' t'.handles) ∧
    ∀ capacity (calls : List (Call α)) events released t,
      Reaches capacity calls events released t →
        events = (ofCapacity capacity).history calls ∧
        released = (ofCapacity capacity).released calls ∧
        (∀ g, sort (t.table.since g) = ((ofCapacity capacity).run calls).table.since g) ∧
        (∀ g, LeakWindow.leaks ⟨some g⟩ ((ofCapacity capacity : Tracker α).run calls) =
          .done ((sort (t.table.since g)).map (·.record))) ∧
        (t.sortedBy sort).releaseAll.released =
          ((ofCapacity capacity).run calls).releaseAll.released := by
  constructor
  · intro calls t t' h h'
    have hsequenced := OpenTable.Sequenced.empty.run calls
    refine ⟨fun g => ?_, ?_⟩
    · rw [h.rearranged.sort_since hsequenced hsort, h'.rearranged.sort_since hsequenced hsort']
    · rw [h.rearranged.sort_handles hsequenced hsort, h'.rearranged.sort_handles hsequenced hsort']
  · intro capacity calls events released t h
    obtain ⟨hevents, hreleased, table, htable, rfl⟩ := h.rearranged
    have hsequenced := sequenced_run capacity calls
    have hsince := htable.sort_since hsequenced hsort
    have hhandles := htable.sort_handles hsequenced hsort
    refine ⟨hevents, hreleased, hsince, fun g => ?_, ?_⟩
    · rw [hsince]
      rfl
    · simp only [releaseAll, sortedBy, hhandles]

/-- An id is used again, and of the two handles that are open then the one opened later
    is kept in front. -/
theorem order_does_not_show_reversed :
    let sort : List (Handle Nat) → List (Handle Nat) :=
      fun handles => handles.mergeSort fun h h' => h.record.sequence ≤ h'.record.sequence
    let calls : List (OpenTable.Call Nat) :=
      [.insert ⟨5⟩ ⟨1, none⟩ 0, .remove ⟨5⟩, .insert ⟨5⟩ ⟨2, none⟩ 3, .insert ⟨4⟩ ⟨3, none⟩ 1]
    let t := OpenTable.run {} calls
    Sorts sort ∧ t.handles.map (·.record.sequence) = [1, 2] ∧
      sort { t with handles := t.handles.reverse }.handles = sort t.handles := by
  intro sort calls t
  have hsort : Sorts sort := by
    intro handles
    refine ⟨List.mergeSort_perm _ _, ?_⟩
    let le (h h' : Handle Nat) : Bool := h.record.sequence ≤ h'.record.sequence
    have htrans : ∀ a b c, le a b = true → le b c = true → le a c = true := fun a b c hab hbc =>
      decide_eq_true (Nat.le_trans (of_decide_eq_true hab) (of_decide_eq_true hbc))
    have htotal : ∀ a b, (le a b || le b a) = true := fun a b => by
      simpa [le] using Nat.le_total a.record.sequence b.record.sequence
    exact (List.pairwise_mergeSort htrans htotal handles).imp of_decide_eq_true
  have hreaches : OpenTable.Reaches calls t :=
    (((OpenTable.Reaches.start.perform _).perform _).perform _).perform _
  have hreversed : t.Rearranged { t with handles := t.handles.reverse } :=
    ⟨List.reverse_perm _, rfl⟩
  refine ⟨hsort, by decide +kernel, ?_⟩
  exact ((order_does_not_show hsort hsort).1 calls _ _ (hreaches.rearrange hreversed) hreaches).2

end Tracker

end HandleWatch
