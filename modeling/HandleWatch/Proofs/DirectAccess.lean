import HandleWatch.Proofs.Balance
import HandleWatch.Proofs.IdConservation

/-!
# Access past the session

The tracker of a session can also be used directly, in between the calls of the
session, for everything but opening handles (`Session.Access`). The session does
not see which handles leave the quarantine then, so that their ids do not go
back to the pool: they are lost (`Session.lostIds`). This is all that comes of
it. The ids of the handles, those that are free and the lost ones are together
those that were handed out (`Session.accounted_accessAll`), a lost id is never
found again, and the pool goes on with the others:

* `Session.ids_safe`: throughout every run in which the ids do not run out, the
  ids stay apart, handles are opened under fresh ids whenever they are to be,
  and the ids that are missing are the lost ones.
-/

namespace HandleWatch

open scoped List

variable {α : Type}

/-- The calls of a tracker that open a handle. -/
def Tracker.Call.Registers : Call α → Prop
  | .register _ _ => True
  | _ => False

theorem Eviction.records_map_id (e : Eviction α) :
    e.records.map (·.id) = e.handles.map Handle.id := List.map_map

namespace Session

/-! ## Accesses -/

/-- A call of the tracker of a session, past the session. -/
def direct (s : Session α) (call : Tracker.Call α) : Transition (Session α) α Tracker.Reply where
  outcome := (s.tracker.perform call).outcome
  after := { s with tracker := (s.tracker.perform call).after }
  released := (s.tracker.perform call).released

/-- A call of a session, or one of its tracker that opens no handle. -/
inductive Access (α : Type) where
  | call (call : Call α)
  | direct (call : Tracker.Call α) (opensNone : ¬call.Registers)

/-- The session after an access. -/
def access (s : Session α) : Access α → Session α
  | .call call => (s.perform call).after
  | .direct call _ => (s.direct call).after

/-- The session after some accesses. -/
def accessAll (s : Session α) (accesses : List (Access α)) : Session α := accesses.foldl access s

/-- The ids of the handles that leave the quarantine past the session. -/
def lostIn (s : Session α) : Access α → List HandleId
  | .call _ => []
  | .direct call _ => (Tracker.Event.evicted ⟨call, (s.direct call).outcome⟩).map (·.id)

/-- The ids lost in some accesses, in order. -/
def lostIds (s : Session α) : List (Access α) → List HandleId
  | [] => []
  | a :: accesses => s.lostIn a ++ (s.access a).lostIds accesses

theorem accessAll_append (s : Session α) (accesses accesses' : List (Access α)) :
    s.accessAll (accesses ++ accesses') = (s.accessAll accesses).accessAll accesses' :=
  List.foldl_append

theorem accessAll_concat (s : Session α) (accesses : List (Access α)) (a : Access α) :
    s.accessAll (accesses ++ [a]) = (s.accessAll accesses).access a := s.accessAll_append _ _

/-- The ids that are lost in one more access are added to the others. -/
theorem lostIds_concat (s : Session α) (accesses : List (Access α)) (a : Access α) :
    s.lostIds (accesses ++ [a]) = s.lostIds accesses ++ (s.accessAll accesses).lostIn a := by
  induction accesses generalizing s with
  | nil => exact List.append_nil _
  | cons first accesses ih =>
    rw [List.cons_append, lostIds, ih, ← List.append_assoc]
    rfl

/-! ## Accounting for the lost ids -/

namespace Core.Accounted

variable {lost : List HandleId}

/-- The ids of the handles that are let go are lost if the pool stays as it is. -/
theorem lose {c c' : Core α} (hc : c.Accounted lost) {evicted : List (Handle α)}
    (hheld : evicted.map Handle.id ++ c'.heldIds ~ c.heldIds) (hids : c'.ids = c.ids) :
    c'.Accounted (lost ++ evicted.map Handle.id) := by
  refine ⟨hids ▸ hc.next_pos, ?_⟩
  rw [hids]
  calc c'.heldIds ++ c.ids.free ++ (lost ++ evicted.map Handle.id)
    _ ~ evicted.map Handle.id ++ (c'.heldIds ++ c.ids.free ++ lost) := by
      rw [← List.append_assoc]
      exact List.perm_append_comm
    _ = evicted.map Handle.id ++ c'.heldIds ++ (c.ids.free ++ lost) := by
      rw [List.append_assoc, List.append_assoc]
    _ ~ c.heldIds ++ (c.ids.free ++ lost) := hheld.append_right _
    _ ~ IdPool.firstIds c.ids.issued := by
      rw [← List.append_assoc]
      exact hc.perm

/-- A call of the tracker that opens no handle loses the ids of the handles that
    it evicts. -/
theorem of_effect {k k' : Tracking α} {ids : IdPool} {call : Tracker.Call α}
    {outcome : Outcome Tracker.Reply} {released : List (Referent α)}
    (hc : Core.Accounted ⟨k, ids⟩ lost) (he : Tracker.Effect k call outcome released k')
    (hcall : ¬call.Registers) :
    Core.Accounted ⟨k', ids⟩
      (lost ++ (Tracker.Event.evicted ⟨call, outcome⟩).map (·.id)) := by
  -- Without an eviction the handles and the lost ids stay as they are.
  have hkeep : Tracker.Event.evicted ⟨call, outcome⟩ = [] → k'.table = k.table →
      k'.quarantine = k.quarantine → Core.Accounted ⟨k', ids⟩
        (lost ++ (Tracker.Event.evicted ⟨call, outcome⟩).map (·.id)) := by
    intro hevicted htable hquarantine
    rw [hevicted, List.map_nil, List.append_nil]
    refine ⟨hc.next_pos, ?_⟩
    rw [heldIds, htable, hquarantine]
    exact hc.perm
  cases he with
  | registered _ => exact absurd trivial hcall
  | refused _ => exact absurd trivial hcall
  | @closed _ h before after hid split first =>
    have hlost : Core.Accounted
        ⟨⟨k.generation, ⟨before ++ after, k.table.nextSequence⟩, (k.quarantine.push h).2⟩, ids⟩
        (lost ++ (k.quarantine.push h).1.handles.map Handle.id) := by
      refine hc.lose ?_ rfl
      rw [heldIds, heldIds, split]
      exact k.quarantine.push_perm Handle.stateless_id before after h
    rw [← Eviction.records_map_id] at hlost
    exact hlost
  | rejected _ failed =>
    exact hkeep (Tracker.Event.evicted_eq_nil (fun _ record evicted _ => failed record evicted)
      (by rintro _ ⟨⟩)) rfl rfl
  | advanced => exact hkeep rfl rfl rfl
  | @resized size =>
    have hlost : Core.Accounted
        ⟨{ k with quarantine := (k.quarantine.resize (capacityOf size)).2 }, ids⟩
        (lost ++ (k.quarantine.resize (capacityOf size)).1.handles.map Handle.id) :=
      hc.lose (k.quarantine.resize_perm Handle.stateless_id k.table.handles (capacityOf size)) rfl
    rw [← Eviction.records_map_id] at hlost
    exact hlost
  | aside haside =>
    refine hkeep (Tracker.Event.evicted_eq_nil ?_ ?_) rfl rfl
    · rintro _ _ _ rfl
      exact haside.elim
    · rintro _ rfl
      exact haside.elim

/-- An access loses the ids that it is said to lose. -/
theorem access {s : Session α} (hs : s.core.Accounted lost) (few : s.ids.issued < UInt64.size - 1)
    (a : Access α) : (s.access a).core.Accounted (lost ++ s.lostIn a) := by
  cases a with
  | call call =>
    rw [lostIn, List.append_nil]
    exact hs.perform few call
  | direct call hcall => exact hs.of_effect (s.tracker.perform_effect call) hcall

end Core.Accounted

theorem next_le_access (s : Session α) (a : Access α) : s.ids.next ≤ (s.access a).ids.next := by
  cases a with
  | call call => exact s.next_le_perform call
  | direct call _ => exact Nat.le_refl _

/-- The fresh ids of a run are no fewer than those of its beginning. -/
theorem next_le_accessAll (s : Session α) (accesses : List (Access α)) :
    s.ids.next ≤ (s.accessAll accesses).ids.next := by
  induction accesses using List.reverseRecOn with
  | nil => exact Nat.le_refl _
  | append_singleton accesses a ih =>
    rw [accessAll_concat]
    exact ih.trans (next_le_access _ a)

/-- The ids are accounted for in every run in which they do not run out. -/
theorem accounted_accessAll (settings : Settings) (accesses : List (Access α))
    (few : ((ofSettings settings : Session α).accessAll accesses).ids.issued < UInt64.size - 1) :
    ((ofSettings settings : Session α).accessAll accesses).core.Accounted
      ((ofSettings settings).lostIds accesses) := by
  induction accesses using List.reverseRecOn with
  | nil => exact ⟨Nat.one_pos, .refl _⟩
  | append_singleton accesses a ih =>
    rw [accessAll_concat] at few ⊢
    have hbefore := (Nat.sub_le_sub_right (next_le_access _ a) 1).trans_lt few
    rw [lostIds_concat]
    exact (ih hbefore).access hbefore a

/-! ## Opening handles -/

/-- A session opens handles whenever it is to, under fresh ids. -/
structure Serves (s : Session α) : Prop where
  opens : ∀ x, ∃ id, (s.openHandle x).outcome = .done id ∧ s.Fresh id
  duplicates : ∀ id ∈ s.tracker.table.ids,
    ∃ copy, (s.duplicate id).outcome = .done (some copy) ∧ s.Fresh copy
  /-- There is nothing to open for other ids, whatever a hook says of their use. -/
  declines : ∀ id, id ∉ s.tracker.table.ids →
    (s.duplicate id).outcome = s.overruled (.duplicate id) (.done none)

/-- A session with lost ids still opens handles, under fresh ids. -/
theorem Core.Accounted.serves {s : Session α} {lost : List HandleId} (hs : s.core.Accounted lost)
    (few : s.ids.issued < UInt64.size - 1) : s.Serves := by
  have hfresh := hs.fresh few
  have hopens : ∀ x, (s.core.quiet.openHandle x).outcome = .done s.ids.allocate.1 := fun x =>
    (openHandle_of_not_mem (c := s.core) hfresh.not_open x).1
  refine ⟨fun x => ⟨_, ?_, hfresh⟩, fun id hid => ?_, fun id hid => (duplicate_of_not_mem hid).1⟩
  · rw [openHandle_outcome, hopens]
  · obtain ⟨x, hx⟩ : ∃ x, s.tracker.referent? id = some x :=
      Option.ne_none_iff_exists'.1 fun h => referent?_eq_none_iff.1 h hid
    refine ⟨_, ?_, hfresh⟩
    rw [(duplicate_of_referent? hx).1, hopens]
    rfl

/-- In every run of calls of a session and of its tracker past it, in which the
    ids do not run out, the ids stay apart after every access, handles are opened
    under fresh ids, and the ids that were handed out and are neither open nor in
    quarantine nor free are those lost in the accesses past the session. -/
theorem ids_safe (settings : Settings) (accesses : List (Access α))
    (few : ((ofSettings settings : Session α).accessAll accesses).ids.issued < UInt64.size - 1) :
    ∀ before, before <+: accesses →
      let s := (ofSettings settings : Session α).accessAll before
      s.Separated ∧ s.Serves ∧
        ∀ id, (1 ≤ id.raw.toNat ∧ id.raw.toNat < s.ids.next) ∧ ¬s.Knows id ↔
          id ∈ (ofSettings settings).lostIds before := by
  rintro before ⟨after, rfl⟩ s
  have hfew : s.ids.issued < UInt64.size - 1 := by
    rw [accessAll_append] at few
    exact (Nat.sub_le_sub_right (next_le_accessAll s after) 1).trans_lt few
  have hs : s.core.Accounted _ := accounted_accessAll settings before hfew
  obtain ⟨hseparated, hlost⟩ := hs.separated hfew
  refine ⟨hseparated, hs.serves hfew, fun id => ?_⟩
  rw [← hs.knows_or_lost_iff hfew id]
  -- An id that was handed out is known or lost, and not both.
  constructor
  · rintro ⟨hknows | hid, hunknown⟩
    · exact absurd hknows hunknown
    · exact hid
  · exact fun hid => ⟨.inr hid, hlost id hid⟩

/-- Two handles are closed past the session, and their ids are lost. The one that
    the session closes after that comes back, and is used for a second handle. -/
theorem ids_safe_after_loss :
    let x : Referent Nat := ⟨7, some "stuck"⟩
    let accesses : List (Access Nat) :=
      [.call (.openHandle x), .call (.openHandle x), .call (.openHandle x),
        .direct (.close ⟨1⟩) not_false, .direct (.close ⟨2⟩) not_false,
        .direct (.resize 0) not_false, .call (.openHandle x), .call (.close ⟨3⟩),
        .call (.duplicate ⟨4⟩)]
    let s := (ofSettings ⟨.report, 1⟩).accessAll accesses
    s.ids.issued = 4 ∧ s.tracker.table.ids = [⟨4⟩, ⟨3⟩] ∧
      (ofSettings ⟨.report, 1⟩).lostIds accesses = [⟨1⟩, ⟨2⟩] ∧ s.Separated ∧ s.Serves ∧
      ¬s.Knows ⟨1⟩ ∧ ¬s.Knows ⟨2⟩ := by
  intro x accesses s
  have hissued : s.ids.issued = 4 := by decide +kernel
  have few : s.ids.issued < UInt64.size - 1 := by
    rw [hissued]
    decide
  have hlost : (ofSettings ⟨.report, 1⟩).lostIds accesses = [⟨1⟩, ⟨2⟩] := by decide +kernel
  obtain ⟨hseparated, hserves, hmissing⟩ := ids_safe ⟨.report, 1⟩ accesses few accesses
    List.prefix_rfl
  rw [hlost] at hmissing
  exact ⟨hissued, by decide +kernel, hlost, hseparated, hserves,
    ((hmissing ⟨1⟩).2 (by decide)).2, ((hmissing ⟨2⟩).2 (by decide)).2⟩

end Session

end HandleWatch
