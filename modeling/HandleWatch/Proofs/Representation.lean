import HandleWatch.Proofs.Balance
import HandleWatch.Proofs.Generations
import HandleWatch.Proofs.Releases

/-!
# The tracked handles are well formed

A handle gets its number and its generation when it is opened, and keeps both on
its way from the table to the quarantine and out of it. So among the handles that
are tracked the numbers are distinct, and a handle is of no later generation than
one with a higher number (`Numbered`). An id is open once at most, and opened
again only after it was closed, so of the handles with one id the numbers tell
the order of closing (`Tracking.WellFormed`).

A handle never goes back in its life. The moves of a handle can be checked for
that (`Handle.advance?`), and so can those that the quarantine makes
(`Quarantine.push?`, `Quarantine.resize?`), but no check ever fails
(`Tracker.MovesForward`).

* `Tracker.representation_run`: after every run the tracked handles are well
  formed, the handles evicted in it were discarded, and no handle can be moved
  back.
-/

namespace HandleWatch

open scoped List

variable {α : Type}

/-! ## Numbers and generations -/

/-- The number and the generation that a handle was opened with. -/
def Handle.stamp (h : Handle α) : Nat × Generation := (h.record.sequence, h.record.generation)

theorem Handle.stateless_stamp : Stateless (stamp : Handle α → Nat × Generation) :=
  fun h state => by
    unfold advance
    split <;> rfl

/-- The handles have numbers of their own below `next`, and generations up to
    `now` that go up with the numbers. -/
structure Numbered (handles : List (Handle α)) (next : Nat) (now : Generation) : Prop where
  distinct : (handles.map (·.record.sequence)).Nodup
  below : ∀ h ∈ handles, h.record.sequence < next
  current : ∀ h ∈ handles, h.record.generation ≤ now
  sorted : ∀ h ∈ handles, ∀ h' ∈ handles, h.record.sequence < h'.record.sequence →
    h.record.generation ≤ h'.record.generation

namespace Numbered

variable {handles handles' : List (Handle α)} {next : Nat} {now : Generation}

/-- Whatever state the handles are in, and in which order, those that are left
    are still numbered. -/
theorem of_perm (hn : Numbered handles next now) (gone : List (Handle α))
    (hperm : gone.map Handle.stamp ++ handles'.map Handle.stamp ~ handles.map Handle.stamp) :
    Numbered handles' next now := by
  have hmem : ∀ h' ∈ handles', ∃ h ∈ handles, h.record.sequence = h'.record.sequence ∧
      h.record.generation = h'.record.generation := by
    intro h' hh'
    obtain ⟨h, hh, hstamp⟩ := List.mem_map.1
      (hperm.subset (List.mem_append_right _ (List.mem_map_of_mem hh')))
    exact ⟨h, hh, Prod.mk.inj hstamp⟩
  constructor
  · have hsequences := hperm.map Prod.fst
    rw [List.map_append, List.map_map, List.map_map, List.map_map] at hsequences
    exact (List.nodup_append.1 (hsequences.nodup_iff.2 hn.distinct)).2.1
  · intro h' hh'
    obtain ⟨h, hh, hsequence, -⟩ := hmem h' hh'
    exact hsequence ▸ hn.below h hh
  · intro h' hh'
    obtain ⟨h, hh, -, hgeneration⟩ := hmem h' hh'
    exact hgeneration ▸ hn.current h hh
  · intro h₁' hh₁' h₂' hh₂' hlt
    obtain ⟨h₁, hh₁, hsequence₁, hgeneration₁⟩ := hmem h₁' hh₁'
    obtain ⟨h₂, hh₂, hsequence₂, hgeneration₂⟩ := hmem h₂' hh₂'
    rw [← hsequence₁, ← hsequence₂] at hlt
    rw [← hgeneration₁, ← hgeneration₂]
    exact hn.sorted h₁ hh₁ h₂ hh₂ hlt

/-- One more handle, with the next number and of the current generation. -/
theorem cons (hn : Numbered handles next now) {h : Handle α} (hstamp : h.stamp = (next, now)) :
    Numbered (h :: handles) (next + 1) now := by
  obtain ⟨hsequence, hgeneration⟩ := Prod.mk.inj hstamp
  constructor
  · rw [List.map_cons, List.nodup_cons, List.mem_map]
    refine ⟨?_, hn.distinct⟩
    rintro ⟨h', hh', heq⟩
    exact absurd (hn.below h' hh') (by omega)
  · rw [List.forall_mem_cons]
    exact ⟨by omega, fun h' hh' => Nat.lt_succ_of_lt (hn.below h' hh')⟩
  · exact List.forall_mem_cons.2 ⟨Nat.le_of_eq hgeneration, hn.current⟩
  · intro h₁ hh₁ h₂ hh₂ hlt
    rcases List.mem_cons.1 hh₁ with rfl | hold₁ <;> rcases List.mem_cons.1 hh₂ with rfl | hold₂
    · exact Nat.le_refl _
    · -- No handle has a higher number than the new one.
      exact absurd (hn.below h₂ hold₂) (by omega)
    · exact hgeneration ▸ hn.current h₁ hold₁
    · exact hn.sorted h₁ hold₁ h₂ hold₂ hlt

end Numbered

/-! ## The invariant -/

namespace Tracking

/-- All handles that are tracked. -/
def handles (k : Tracking α) : List (Handle α) := k.table.handles ++ k.quarantine.handles

/-- The tracked handles are where they belong, in the state that is due there,
    and in order. -/
structure WellFormed (k : Tracking α) : Prop where
  /-- Each handle of the table is the one that is found under its id. -/
  stored : ∀ id h, k.table.find? id = some h ↔ h ∈ k.table.handles ∧ h.id = id
  opened : ∀ h ∈ k.table.handles, h.record.state = .opened
  quarantined : ∀ h ∈ k.quarantine.handles, h.record.state = .quarantined
  bounded : k.quarantine.handles.length ≤ k.quarantine.capacity
  numbered : Numbered k.handles k.table.nextSequence k.generation
  le_last : k.generation ≤ Generation.last
  /-- Of the closed handles with one id, those closed later were opened later. -/
  reused : k.quarantine.handles.Pairwise fun h h' =>
    h.id = h'.id → h.record.sequence < h'.record.sequence
  /-- An open handle was opened after the closed ones with its id. -/
  reopened : ∀ h ∈ k.table.handles, ∀ h' ∈ k.quarantine.handles, h'.id = h.id →
    h'.record.sequence < h.record.sequence

namespace WellFormed

variable {k : Tracking α}

theorem distinct (hk : k.WellFormed) : k.table.ids.Nodup := by
  have hsequences : k.table.handles.Nodup := by
    have hall := hk.numbered.distinct
    rw [handles, List.map_append] at hall
    exact (List.nodup_append.1 hall).1.of_map _
  refine hsequences.map_on fun h hh h' hh' hid => ?_
  have hfound := (hk.stored h'.id h).2 ⟨hh, hid⟩
  exact Option.some.inj (hfound.symm.trans ((hk.stored h'.id h').2 ⟨hh', rfl⟩))

/-- A registration keeps the tracker well-formed. -/
theorem of_registered (hk : k.WellFormed) {h : Handle α} (fresh : h.id ∉ k.table.ids)
    (hrecord : h.record = ⟨h.id, k.generation, k.table.nextSequence, .opened⟩) :
    WellFormed { k with table := ⟨k.table.handles ++ [h], k.table.nextSequence + 1⟩ } where
  stored id h' := by
    rw [OpenTable.find?_concat fresh, List.mem_append, List.mem_singleton]
    split
    · next hid =>
      -- No handle that was there before has the new id.
      have hnew : ∀ x ∈ k.table.handles, x.id ≠ id := fun x hx hxid =>
        fresh (hid ▸ hxid ▸ List.mem_map_of_mem hx)
      constructor
      · rintro ⟨⟩
        exact ⟨.inr rfl, hid⟩
      · rintro ⟨hh' | rfl, hid'⟩
        · exact absurd hid' (hnew h' hh')
        · rfl
    · next hid =>
      rw [hk.stored]
      constructor
      · exact fun ⟨hh', hid'⟩ => ⟨.inl hh', hid'⟩
      · rintro ⟨hh' | rfl, hid'⟩
        · exact ⟨hh', hid'⟩
        · exact absurd hid' hid
  opened := List.forall_mem_append.2 ⟨hk.opened, List.forall_mem_singleton.2 (by rw [hrecord])⟩
  quarantined := hk.quarantined
  bounded := hk.bounded
  numbered := by
    have hstamp : h.stamp = (k.table.nextSequence, k.generation) := by rw [Handle.stamp, hrecord]
    refine (hk.numbered.cons hstamp).of_perm [] ?_
    refine List.Perm.map _ ?_
    rw [handles, handles, List.append_assoc, List.singleton_append]
    exact List.perm_middle
  le_last := hk.le_last
  reused := hk.reused
  reopened := by
    refine List.forall_mem_append.2 ⟨hk.reopened, List.forall_mem_singleton.2 fun h' hh' _ => ?_⟩
    rw [hrecord]
    exact hk.numbered.below h' (List.mem_append_right _ hh')

/-- So does a close. -/
theorem of_closed (hk : k.WellFormed) {h : Handle α} {before after : List (Handle α)}
    (hsplit : k.table.handles = before ++ h :: after) :
    WellFormed
      { k with
        table := { k.table with handles := before ++ after }
        quarantine := (k.quarantine.push h).2 } := by
  have hh : h ∈ k.table.handles := hsplit ▸ List.mem_append_right _ List.mem_cons_self
  have hremoved : (before ++ after).Sublist k.table.handles := by
    rw [hsplit]
    exact (List.Sublist.refl before).append (List.sublist_cons_self h after)
  -- What the quarantine keeps is the end of what it held and the closed handle.
  have hstays := k.quarantine.push_suffix h
  have hid : (h.advance .quarantined).id = h.id := Handle.stateless_id h _
  have hsequence : (h.advance .quarantined).record.sequence = h.record.sequence :=
    congrArg Prod.fst (Handle.stateless_stamp h _)
  have hunique := (OpenTable.nodup_of_split hk.distinct hsplit).1
  constructor
  · intro id h'
    rw [OpenTable.find?_removed hk.distinct hsplit]
    split
    · next heq =>
      refine ⟨nofun, fun ⟨hh', hid'⟩ => ?_⟩
      exact absurd (List.mem_map_of_mem hh') (hid' ▸ heq ▸ hunique)
    · next hne =>
      rw [hk.stored, hsplit]
      refine and_congr_left fun hid' => ?_
      have hother : h' ≠ h := fun heq => hne (heq ▸ hid')
      simp only [List.mem_append, List.mem_cons, hother, false_or]
  · exact fun h' hh' => hk.opened h' (hremoved.subset hh')
  · intro h' hh'
    rcases List.mem_append.1 (hstays.subset hh') with hold | hnew
    · exact hk.quarantined h' hold
    · rw [List.mem_singleton.1 hnew, Handle.advance_of_opened (hk.opened h hh)]
      rfl
  · exact k.quarantine.push_length h ▸ Nat.min_le_right _ _
  · refine hk.numbered.of_perm (k.quarantine.push h).1.handles ?_
    rw [handles, handles, hsplit]
    exact k.quarantine.push_perm Handle.stateless_stamp before after h
  · exact hk.le_last
  · refine List.Pairwise.sublist hstays.sublist
      (List.pairwise_append.2 ⟨hk.reused, List.pairwise_singleton _ _, fun h' hh' x hx => ?_⟩)
    rw [List.mem_singleton.1 hx, hid, hsequence]
    exact hk.reopened h hh h' hh'
  · intro h₁ hh₁ h' hh'
    rcases List.mem_append.1 (hstays.subset hh') with hold | hnew
    · exact hk.reopened h₁ (hremoved.subset hh₁) h' hold
    · -- The handle that was closed has an id that is not open any more.
      rw [List.mem_singleton.1 hnew, hid]
      exact fun heq => absurd (List.mem_map_of_mem hh₁) (heq ▸ hunique)

/-- So does another capacity. -/
theorem of_resized (hk : k.WellFormed) (capacity : Nat) :
    WellFormed { k with quarantine := (k.quarantine.resize capacity).2 } where
  stored := hk.stored
  opened := hk.opened
  quarantined h hh := hk.quarantined h ((k.quarantine.resize_suffix capacity).subset hh)
  bounded := k.quarantine.resize_length capacity ▸ Nat.min_le_right _ _
  numbered := hk.numbered.of_perm _
    (k.quarantine.resize_perm Handle.stateless_stamp k.table.handles capacity)
  le_last := hk.le_last
  reused := hk.reused.sublist (k.quarantine.resize_suffix capacity).sublist
  reopened h hh h' hh' :=
    hk.reopened h hh h' ((k.quarantine.resize_suffix capacity).subset hh')

/-- So does a new generation. -/
theorem of_advanced (hk : k.WellFormed) :
    WellFormed { k with generation := Generation.next k.generation } where
  __ := hk
  numbered :=
    { hk.numbered with
      current := fun h hh =>
        Nat.le_trans (hk.numbered.current h hh) (Generation.le_next hk.le_last) }
  le_last := Nat.min_le_right _ _

/-- Whatever a call does, the tracked handles stay well formed. -/
theorem step {k' : Tracking α} {call : Tracker.Call α} {outcome : Outcome Tracker.Reply}
    {released : List (Referent α)} (hk : k.WellFormed)
    (he : Tracker.Effect k call outcome released k') : k'.WellFormed := by
  cases he with
  | registered fresh => exact hk.of_registered fresh rfl
  | closed _ split _ => exact hk.of_closed split
  | advanced => exact hk.of_advanced
  | resized => exact hk.of_resized _
  | refused _ => exact hk
  | rejected _ _ => exact hk
  | aside _ => exact hk

end WellFormed

end Tracking

/-! ## Moves -/

/-- A handle moved on to a state, checked that this is not before its own. -/
def Handle.advance? (h : Handle α) (state : HandleState) : Option (Handle α) :=
  if h.record.state.rank ≤ state.rank then some (h.advance state) else none

/-- A handle can always be discarded. -/
theorem Handle.advance?_discarded (h : Handle α) :
    h.advance? .discarded = some (h.advance .discarded) := by
  have hrank : h.record.state.rank ≤ HandleState.discarded.rank := by
    cases h.record.state <;> decide
  exact if_pos hrank

theorem Handle.mapM_advance?_discarded (handles : List (Handle α)) :
    handles.mapM (Handle.advance? · .discarded) = some (handles.map (·.advance .discarded)) := by
  rw [funext Handle.advance?_discarded]
  exact List.mapM_pure

namespace Quarantine

/-- Evicts the oldest handles beyond the capacity, each of them checked. -/
def trim? (q : Quarantine α) : Option (Eviction α × Quarantine α) :=
  let excess := q.handles.length - q.capacity
  ((q.handles.take excess).mapM (Handle.advance? · .discarded)).map fun evicted =>
    (⟨evicted⟩, { q with handles := q.handles.drop excess })

/-- Takes in a handle, checked like those that leave. -/
def push? (q : Quarantine α) (h : Handle α) : Option (Eviction α × Quarantine α) :=
  (h.advance? .quarantined).bind fun h => trim? { q with handles := q.handles ++ [h] }

/-- Changes the capacity, the handles that leave being checked. -/
def resize? (q : Quarantine α) (capacity : Nat) : Option (Eviction α × Quarantine α) :=
  trim? { q with capacity }

theorem trim?_eq_some (q : Quarantine α) : q.trim? = some q.trim := by
  rw [trim?, Handle.mapM_advance?_discarded]
  rfl

/-- A handle that is still open can be taken in. -/
theorem push?_eq_some (q : Quarantine α) {h : Handle α} (hopen : h.record.state = .opened) :
    q.push? h = some (q.push h) := by
  have hadvance : h.advance? .quarantined = some (h.advance .quarantined) := by
    rw [Handle.advance?, hopen]
    exact if_pos (Nat.zero_le _)
  rw [push?, hadvance]
  exact trim?_eq_some _

end Quarantine

namespace Tracker

/-- No move of a handle that the tracker can make goes back: not when a handle is
    closed, nor when the capacity changes, nor at the end. -/
structure MovesForward (t : Tracker α) : Prop where
  close : ∀ id h table, t.table.remove? id = some (h, table) →
    t.quarantine.push? h = some (t.quarantine.push h)
  resize : ∀ capacity, t.quarantine.resize? capacity = some (t.quarantine.resize capacity)
  release : t.tracking.handles.mapM (Handle.advance? · .discarded) =
    some (t.tracking.handles.map (·.advance .discarded))

/-- No move of a handle in a well-formed tracker goes back. -/
theorem movesForward_of_wellFormed {t : Tracker α} (ht : t.tracking.WellFormed) :
    t.MovesForward where
  close id h table hr := by
    obtain ⟨-, before, after, hsplit, -⟩ := OpenTable.remove?_eq_some_iff.1 hr
    have hh : h ∈ t.table.handles := hsplit ▸ List.mem_append_right _ List.mem_cons_self
    exact t.quarantine.push?_eq_some (ht.opened h hh)
  resize capacity := Quarantine.trim?_eq_some _
  release := Handle.mapM_advance?_discarded _

/-- The handles that a call evicts are discarded. -/
theorem Effect.evicted_discarded {k k' : Tracking α} {call : Call α} {outcome : Outcome Reply}
    {released : List (Referent α)} (he : Effect k call outcome released k') :
    ∀ r ∈ Event.evicted ⟨call, outcome⟩, r.state = .discarded := by
  have hrecords : ∀ (q : Quarantine α), ∀ r ∈ q.trim.1.records, r.state = .discarded := by
    intro q r hr
    obtain ⟨_, hh, rfl⟩ := List.mem_map.1 hr
    obtain ⟨h, -, rfl⟩ := List.mem_map.1 hh
    rw [Handle.advance_discarded]
    rfl
  -- Only a close and a change of capacity can evict.
  cases he with
  | closed _ _ _ => exact hrecords _
  | resized => exact hrecords _
  | registered _ => exact List.forall_mem_nil _
  | refused _ => exact List.forall_mem_nil _
  | advanced => exact List.forall_mem_nil _
  | @rejected id _ _ failed =>
    have hnil : Event.evicted (α := α) ⟨.close id, outcome⟩ = [] :=
      Event.evicted_eq_nil (fun _ record evicted _ => failed record evicted) nofun
    rw [hnil]
    exact List.forall_mem_nil _
  | aside haside =>
    cases call with
    | close _ => exact haside.elim
    | resize _ => exact haside.elim
    | _ => exact List.forall_mem_nil _

/-- After every run the open handles are open and found under their ids, those in
    quarantine are quarantined and no more than there is room for, and all are
    in the order of their numbers, generations and reuse of ids. What was evicted
    is discarded, and no handle can be moved back. -/
theorem representation_run (capacity : Nat) (calls : List (Call α)) :
    let t := (ofCapacity capacity : Tracker α).run calls
    t.tracking.WellFormed ∧
      (∀ r ∈ evicted ((ofCapacity capacity : Tracker α).history calls), r.state = .discarded) ∧
      t.MovesForward := by
  intro t
  have hrun : t.tracking.WellFormed ∧
      ∀ r ∈ evicted ((ofCapacity capacity : Tracker α).history calls), r.state = .discarded := by
    refine run_invariant (P := fun events k => k.WellFormed ∧
      ∀ r ∈ evicted events, r.state = .discarded) ⟨?_, List.forall_mem_nil _⟩ ?_ calls
    · exact ⟨by simp [OpenTable.find?, tracking, ofCapacity], nofun, nofun, Nat.zero_le _,
        ⟨List.nodup_nil, nofun, nofun, nofun⟩, Nat.zero_le _, List.Pairwise.nil, nofun⟩
    · rintro events k call outcome released k' ⟨hk, hevicted⟩ he
      refine ⟨hk.step he, ?_⟩
      rw [evicted, List.flatMap_append, List.flatMap_singleton]
      exact List.forall_mem_append.2 ⟨hevicted, he.evicted_discarded⟩
  exact ⟨hrun.1, hrun.2, movesForward_of_wellFormed hrun.1⟩

end Tracker

end HandleWatch
