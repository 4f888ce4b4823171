import HandleWatch.Proofs.IdConservation
import Mathlib.Logic.Function.Basic

/-!
# Sessions refine partial maps

From the outside a session is a partial map from ids to referents: a handle that
is opened binds its id, a second handle for it binds another id to the same
referent, and closing a handle unbinds its id. Which ids are bound to what can be
told from the outcomes of the calls alone (`Session.Event.bind`), without a look
at the table, the quarantine or the pool.

What the session keeps is related to this map by `OpenTable.Represents`: the ids
in the table are distinct, and the map is what is found under them. Every call
preserves this (`Session.perform_binds`), whatever the mode, the hooks and
the quarantine are, since an id that is open is never bound again. So a run does
(`Session.represents_run`), and the outcomes follow the map:

* `Session.refines_bindings`: after every run, the calls find what the map has
  and are declined otherwise (`Session.Refines`), a closed id stands for nothing
  until it is handed out again, and the handles of a referent are closed
  independently of each other.
-/

namespace HandleWatch

variable {α : Type}

/-- A partial map from ids to referents. -/
abbrev Bindings (α : Type) := HandleId → Option (Referent α)

theorem Outcome.map_ne_done {β γ : Type} {outcome : Outcome β} (h : ∀ b, outcome ≠ .done b)
    (f : β → γ) (c : γ) : outcome.map f ≠ .done c := by
  cases outcome with
  | done b => exact absurd rfl (h b)
  | failed _ => exact nofun
  | crashed _ => exact nofun

/-! ## Tables -/

/-- A table stands for the referents of its handles by their ids, which are
    distinct. -/
structure OpenTable.Represents (t : OpenTable α) (m : Bindings α) : Prop where
  distinct : t.ids.Nodup
  referent : ∀ id, (t.find? id).map Handle.referent = m id

namespace OpenTable.Represents

variable {t : OpenTable α} {m : Bindings α}

/-- The ids that are not bound are those that are not in the table. -/
theorem eq_none_iff (ht : t.Represents m) {id : HandleId} : m id = none ↔ id ∉ t.ids := by
  rw [← ht.referent, Option.map_eq_none_iff, find?_eq_none_iff]

/-- Where one id is found in another way, it alone is bound in another way. -/
theorem update (ht : t.Represents m) (changed id : HandleId) (found : Option (Handle α)) :
    (if changed = id then found else t.find? id).map Handle.referent =
      Function.update m changed (found.map Handle.referent) id := by
  split
  · next hid =>
    subst hid
    rw [Function.update_self]
  · next hid => rw [Function.update_of_ne (Ne.symm hid), ht.referent]

/-- A handle that is opened binds its id. -/
theorem concat (ht : t.Represents m) {h : Handle α} (fresh : h.id ∉ t.ids) (n : Nat) :
    Represents ⟨t.handles ++ [h], n⟩ (Function.update m h.id (some h.referent)) where
  distinct := by
    have hids : ids ⟨t.handles ++ [h], n⟩ = t.ids.concat h.id := by
      rw [ids, List.map_append, List.concat_eq_append]
      rfl
    rw [hids]
    exact ht.distinct.concat fresh
  referent id := by
    rw [find?_concat fresh]
    exact ht.update h.id id (some h)

/-- A handle that is taken out unbinds its id. -/
theorem removed (ht : t.Represents m) {h : Handle α} {before after : List (Handle α)}
    (hsplit : t.handles = before ++ h :: after) (n : Nat) :
    Represents ⟨before ++ after, n⟩ (Function.update m h.id none) where
  distinct := (nodup_of_split ht.distinct hsplit).2
  referent id := by
    rw [find?_removed ht.distinct hsplit]
    exact ht.update h.id id none

end OpenTable.Represents

namespace Session

/-! ## The bindings of a history -/

/-- A call and its outcome. -/
structure Event (α : Type) where
  call : Call α
  outcome : Outcome (Reply α)

/-- The calls of a run with their outcomes. -/
def history (s : Session α) : List (Call α) → List (Event α)
  | [] => []
  | call :: calls => ⟨call, (s.perform call).outcome⟩ :: (s.perform call).after.history calls

/-- The id of the handle that an event closed. -/
def Event.closedId? : Event α → Option HandleId
  | ⟨.close id, .done (.close (.closed _ _))⟩ => some id
  | _ => none

/-- What is bound after an event, by its outcome. -/
def Event.bind (m : Bindings α) : Event α → Bindings α
  | ⟨.openHandle x, .done (.opened id)⟩ => Function.update m id (some x)
  | ⟨.duplicate source, .done (.duplicated (some id))⟩ => Function.update m id (m source)
  | ⟨.close id, .done (.close (.closed _ _))⟩ => Function.update m id none
  | _ => m

/-- What is bound after the events of a history, if nothing was before. -/
def bindings (events : List (Event α)) : Bindings α := events.foldl Event.bind fun _ => none

/-- A call without a value binds nothing. -/
theorem Event.bind_of_not_done {call : Call α} {outcome : Outcome (Reply α)}
    (h : ∀ reply, outcome ≠ .done reply) (m : Bindings α) :
    Event.bind m ⟨call, outcome⟩ = m ∧ newId? outcome = none := by
  cases outcome with
  | done reply => exact absurd rfl (h reply)
  | failed _ => cases call <;> exact ⟨rfl, rfl⟩
  | crashed _ => cases call <;> exact ⟨rfl, rfl⟩

theorem Event.bind_of_closed {e : Event α} {id : HandleId} (h : e.closedId? = some id)
    (m : Bindings α) : e.bind m id = none := by
  unfold closedId? at h
  split at h
  · cases h
    exact Function.update_self _ _ _
  · cases h

/-- An event only concerns the id that it hands out or closes. -/
theorem Event.bind_of_ne {e : Event α} {id : HandleId} (hnew : newId? e.outcome ≠ some id)
    (hclosed : e.closedId? ≠ some id) (m : Bindings α) : e.bind m id = m id := by
  unfold bind
  split
  · exact Function.update_of_ne (fun h => hnew (congrArg some h.symm)) _ _
  · exact Function.update_of_ne (fun h => hnew (congrArg some h.symm)) _ _
  · exact Function.update_of_ne (fun h => hclosed (congrArg some h.symm)) _ _
  · rfl

/-- An id that is not bound stays so until it is handed out. -/
theorem Event.bind_eq_none {m : Bindings α} {id : HandleId} (hid : m id = none) {e : Event α}
    (hnew : newId? e.outcome ≠ some id) : e.bind m id = none := by
  by_cases hclosed : e.closedId? = some id
  · exact bind_of_closed hclosed m
  · exact (bind_of_ne hnew hclosed m).trans hid

/-- An id that is not bound stays so through a history that does not hand it out. -/
theorem foldl_bind_eq_none {m : Bindings α} {id : HandleId} (hid : m id = none)
    {events : List (Event α)} (hnew : ∀ e ∈ events, newId? e.outcome ≠ some id) :
    events.foldl Event.bind m id = none := by
  induction events generalizing m with
  | nil => exact hid
  | cons e events ih =>
    rw [List.forall_mem_cons] at hnew
    exact ih (Event.bind_eq_none hid hnew.1) hnew.2

/-! ## Calls that are declined -/

/-- The outcomes of a call that uses an id which is not open: the call is
    rejected or, with reports on, the hook refuses the report or crashes on it. -/
inductive Declined (s : Session α) (id : HandleId) (call : Call α) : Outcome (Reply α) → Prop
  | rejected : Declined s id call (.done (call.rejection (s.tracker.classify id)))
  | refused (reports : s.mode.validates = true) (reason : String) :
    Declined s id call (.failed (.hookRefused id (s.tracker.classify id) reason))
  | crashed (reports : s.mode.validates = true) (message : String) :
    Declined s id call (.crashed message)

/-- A call that uses an id which is not open is declined. -/
theorem perform_declined {s : Session α} {call : Call α} {id : HandleId} {operation : Operation}
    (hcall : call.use? = some (id, operation)) (hid : id ∉ s.tracker.table.ids) :
    s.Declined id call (s.perform call).outcome := by
  rw [perform_outcome, quiet_perform_of_not_mem (c := s.core) hcall hid]
  cases huse : s.report? call with
  | none =>
    rw [overruled, huse]
    exact .rejected
  | some use =>
    have hmode : s.mode.validates = true := by
      by_contra h
      rw [report?, if_neg h] at huse
      cases huse
    obtain ⟨_, hcall', -, hclassification⟩ := report?_eq_some huse
    obtain rfl : use.id = id := congrArg Prod.fst (Option.some.inj (hcall'.symm.trans hcall))
    simp only [overruled, huse]
    rw [InvalidUse.overrule.eq_def, hclassification]
    -- Without a hook, or if the hook accepts the report, the call is just rejected.
    rcases s.tracker.answer? use with _ | _ | reason | message
    · exact .rejected
    · exact .rejected
    · exact .refused hmode reason
    · exact .crashed hmode message

/-- A call that is declined binds nothing. -/
theorem Declined.bind {s : Session α} {id : HandleId} {call : Call α} {outcome : Outcome (Reply α)}
    (h : s.Declined id call outcome) (m : Bindings α) :
    Event.bind m ⟨call, outcome⟩ = m ∧ newId? outcome = none := by
  cases h <;> cases call <;> exact ⟨rfl, rfl⟩

/-! ## Runs -/

theorem represents_of_core {s : Session α} {c : Core α} {m : Bindings α} (h : s.core = c)
    (hc : c.tracking.table.Represents m) : s.tracker.table.Represents m := by
  subst h
  exact hc

/-- Opening a handle binds an id that is not bound, or it fails. -/
theorem openHandle_represents {c : Core α} {m : Bindings α}
    (hc : c.tracking.table.Represents m) (x : Referent α) :
    let step := c.quiet.openHandle x
    (∃ id, step.outcome = .done id ∧ m id = none ∧
      step.after.tracker.table.Represents (Function.update m id (some x))) ∨
    (∀ id, step.outcome ≠ .done id) ∧ step.after.tracker.table.Represents m := by
  by_cases hid : c.ids.allocate.1 ∈ c.tracking.table.ids
  · right
    have hinsert : c.tracking.table.insert? c.ids.allocate.1 x c.tracking.generation = none :=
      if_pos (OpenTable.has_iff.2 hid)
    simp only [openHandle, Core.quiet, Tracker.register, hinsert]
    cases x.failure <;> exact ⟨by rintro _ ⟨⟩, hc⟩
  · left
    obtain ⟨houtcome, hcore⟩ := openHandle_of_not_mem hid x
    refine ⟨_, houtcome, hc.eq_none_iff.2 hid, ?_⟩
    exact represents_of_core hcore (hc.concat (h := ⟨⟨_, _, _, _⟩, x⟩) hid _)

/-- A call binds and unbinds what its outcome says, and the id of a new handle
    was not bound before. -/
structure Binds (s : Session α) (m : Bindings α) (call : Call α) : Prop where
  represents : (s.perform call).after.tracker.table.Represents
    (Event.bind m ⟨call, (s.perform call).outcome⟩)
  fresh : ∀ id, newId? (s.perform call).outcome = some id → m id = none

section Binds

variable {s : Session α} {m : Bindings α}

/-- Calls that are declined change nothing. -/
theorem binds_of_declined (hs : s.tracker.table.Represents m) {call : Call α} {id : HandleId}
    (hdeclined : s.Declined id call (s.perform call).outcome)
    (hcore : (s.perform call).after.core = s.core) : s.Binds m call := by
  obtain ⟨hbind, hnew⟩ := hdeclined.bind m
  constructor
  · rw [hbind]
    exact represents_of_core hcore hs
  · rw [hnew]
    exact nofun

/-- Calls that open a handle, and give its id by `f`. -/
theorem binds_of_openHandle (hs : s.tracker.table.Represents m) {call : Call α} {x : Referent α}
    {f : HandleId → Reply α}
    (houtcome : (s.perform call).outcome = (s.core.quiet.openHandle x).outcome.map f)
    (hcore : (s.perform call).after.core = (s.core.quiet.openHandle x).after.core)
    (hf : ∀ id, Event.bind m ⟨call, .done (f id)⟩ = Function.update m id (some x) ∧
      newId? (.done (f id)) = some id) : s.Binds m call := by
  rcases openHandle_represents (c := s.core) hs x with ⟨id, hdone, hid, hafter⟩ |
    ⟨hfailed, hafter⟩
  · obtain ⟨hbind, hnew⟩ := hf id
    rw [hdone, Outcome.map] at houtcome
    constructor
    · rw [houtcome, hbind]
      exact represents_of_core hcore hafter
    · rw [houtcome, hnew]
      rintro _ ⟨⟩
      exact hid
  · -- The id that was to be handed out is open: there is no new handle.
    have hnone : ∀ reply, (s.perform call).outcome ≠ .done reply := by
      rw [houtcome]
      exact Outcome.map_ne_done hfailed f
    obtain ⟨hbind, hnew⟩ := Event.bind_of_not_done hnone m
    constructor
    · rw [hbind]
      exact represents_of_core hcore hafter
    · rw [hnew]
      rintro _ ⟨⟩

/-- Closing an open id unbinds it. -/
theorem close_binds_of_remove? (hs : s.tracker.table.Represents m) {id : HandleId} {h : Handle α}
    {table : OpenTable α} (hr : s.tracker.table.remove? id = some (h, table)) :
    s.Binds m (.close id) := by
  obtain ⟨houtcome, hcore⟩ := close_of_remove? hr
  have hdone : (s.perform (.close id)).outcome = _ := congrArg (Outcome.map Reply.close) houtcome
  obtain ⟨rfl, before, after, hsplit, -, rfl⟩ := OpenTable.remove?_eq_some_iff.1 hr
  constructor
  · rw [hdone]
    exact represents_of_core hcore (hs.removed hsplit _)
  · rw [hdone]
    exact nofun

/-- Calls that open no handle and close none change nothing. -/
theorem binds_of_core (hs : s.tracker.table.Represents m) {call : Call α} (hopens : ¬s.Opens call)
    (hbind : Event.bind m ⟨call, (s.perform call).outcome⟩ = m)
    (htable : (s.perform call).after.tracker.table = s.tracker.table) : s.Binds m call := by
  constructor
  · rw [hbind, htable]
    exact hs
  · rw [newId?_of_not_opens hopens]
    rintro _ ⟨⟩

/-- Every call binds and unbinds what its outcome says. -/
theorem perform_binds (hs : s.tracker.table.Represents m) (call : Call α) : s.Binds m call := by
  -- A call that uses an id is split by whether the id is open: if it is not, the call is
  -- declined.
  cases call with
  | openHandle x =>
    exact binds_of_openHandle hs (congrArg (Outcome.map Reply.opened) (s.openHandle_outcome x))
      (s.openHandle_core x) fun _ => ⟨rfl, rfl⟩
  | close id =>
    cases hr : s.tracker.table.remove? id with
    | none =>
      have hid := OpenTable.remove?_eq_none_iff.1 hr
      exact binds_of_declined hs (perform_declined rfl hid) (close_of_not_mem hid).2
    | some found => exact close_binds_of_remove? hs hr
  | duplicate source =>
    cases hx : s.tracker.referent? source with
    | none =>
      have hid := referent?_eq_none_iff.1 hx
      exact binds_of_declined hs (perform_declined rfl hid) (duplicate_of_not_mem hid).2
    | some x =>
      have hsource : m source = some x := (hs.referent source).symm.trans hx
      obtain ⟨houtcome, hcore⟩ := duplicate_of_referent? hx
      have hdone : (s.perform (.duplicate source)).outcome =
          (s.core.quiet.openHandle x).outcome.map (Reply.duplicated ∘ some) := by
        refine (congrArg (Outcome.map Reply.duplicated) houtcome).trans ?_
        cases (s.core.quiet.openHandle x).outcome <;> rfl
      exact binds_of_openHandle hs hdone hcore fun id => ⟨hsource ▸ rfl, rfl⟩
  | dereference id =>
    exact binds_of_core hs not_false rfl (congrArg (·.tracking.table) (s.dereference_core id))
  | validate id =>
    exact binds_of_core hs not_false rfl (congrArg (·.tracking.table) (s.validate_core id))
  | _ => exact binds_of_core hs not_false rfl rfl

end Binds

/-- A run binds and unbinds what its history says. -/
theorem represents_run {s : Session α} {m : Bindings α} (hs : s.tracker.table.Represents m)
    (calls : List (Call α)) :
    (s.run calls).tracker.table.Represents ((s.history calls).foldl Event.bind m) := by
  induction calls generalizing s m with
  | nil => exact hs
  | cons call calls ih => exact ih (perform_binds hs call).represents

/-- A bound id is not handed out, so it stays bound until it is closed. -/
theorem foldl_bind_history_eq_some {s : Session α} {m : Bindings α}
    (hs : s.tracker.table.Represents m) {id : HandleId} {x : Referent α} (hid : m id = some x)
    {calls : List (Call α)} (hclosed : ∀ e ∈ s.history calls, e.closedId? ≠ some id) :
    (s.history calls).foldl Event.bind m id = some x := by
  induction calls generalizing s m with
  | nil => exact hid
  | cons call calls ih =>
    rw [history, List.forall_mem_cons] at hclosed
    have hbinds := perform_binds hs call
    have hnew : newId? (s.perform call).outcome ≠ some id := by
      intro h
      rw [hbinds.fresh id h] at hid
      cases hid
    exact ih hbinds.represents ((Event.bind_of_ne hnew hclosed.1 m).trans hid) hclosed.2

/-! ## Refinement -/

/-- A session answers as the bindings `m` say. -/
structure Refines (s : Session α) (m : Bindings α) : Prop where
  /-- A bound id has its referent. -/
  dereference : ∀ id x,
    (s.perform (.dereference id)).outcome = .done (.referent (some x)) ↔ m id = some x
  /-- A bound id can be closed. -/
  close : ∀ id, (∃ record evicted,
    (s.perform (.close id)).outcome = .done (.close (.closed record evicted))) ↔ m id ≠ none
  /-- There can be a second handle for a bound id, as long as the ids do not run
      out. -/
  duplicate : s.ids.issued < UInt64.size - 1 → ∀ id, (∃ new,
    (s.perform (.duplicate id)).outcome = .done (.duplicated (some new))) ↔ m id ≠ none
  /-- Every use of another id is declined. -/
  declined : ∀ id, m id = none → ∀ call operation, call.use? = some (id, operation) →
    s.Declined id call (s.perform call).outcome
  /-- The id of a new handle is not bound. -/
  fresh : ∀ call id, newId? (s.perform call).outcome = some id → m id = none

section Refines

variable {s : Session α} {m : Bindings α}

theorem declined_of_unbound (hs : s.tracker.table.Represents m) {id : HandleId} (hid : m id = none)
    (call : Call α) {operation : Operation} (hcall : call.use? = some (id, operation)) :
    s.Declined id call (s.perform call).outcome :=
  perform_declined hcall (hs.eq_none_iff.1 hid)

/-- An id has the referent that it is bound to. -/
theorem dereference_iff (hs : s.tracker.table.Represents m) (id : HandleId) (x : Referent α) :
    (s.perform (.dereference id)).outcome = .done (.referent (some x)) ↔ m id = some x := by
  cases hid : m id with
  | none =>
    refine ⟨fun h => ?_, nofun⟩
    have hdeclined := declined_of_unbound hs hid (.dereference id) rfl
    rw [h] at hdeclined
    cases hdeclined
  | some y =>
    have hy : s.tracker.referent? id = some y := (hs.referent id).trans hid
    have hdone : (s.dereference id).1 = .done (some y) := by
      rw [dereference_outcome, overruled_of_mem rfl (mem_of_referent? hy), hy]
    have houtcome : (s.perform (.dereference id)).outcome = .done (.referent (some y)) :=
      congrArg (Outcome.map Reply.referent) hdone
    rw [houtcome, Outcome.done.injEq, Reply.referent.injEq]

/-- An id can be closed if and only if it is bound. -/
theorem close_iff (hs : s.tracker.table.Represents m) (id : HandleId) :
    (∃ record evicted,
      (s.perform (.close id)).outcome = .done (.close (.closed record evicted))) ↔
        m id ≠ none := by
  constructor
  · rintro ⟨record, evicted, h⟩ hid
    have hdeclined := declined_of_unbound hs hid (.close id) rfl
    rw [h] at hdeclined
    cases hdeclined
  · intro hid
    cases hr : s.tracker.table.remove? id with
    | none => exact absurd (hs.eq_none_iff.2 (OpenTable.remove?_eq_none_iff.1 hr)) hid
    | some found => exact ⟨_, _, congrArg (Outcome.map Reply.close) (close_of_remove? hr).1⟩

/-- The source of a second handle is bound. -/
theorem bound_of_duplicated (hs : s.tracker.table.Represents m) {id new : HandleId}
    (h : (s.perform (.duplicate id)).outcome = .done (.duplicated (some new))) : m id ≠ none := by
  intro hid
  have hdeclined := declined_of_unbound hs hid (.duplicate id) rfl
  rw [h] at hdeclined
  cases hdeclined

/-- There can be a second handle if and only if the id is bound, as long as a fresh id is
    there for it. -/
theorem duplicate_iff (hs : s.tracker.table.Represents m) (fresh : s.Fresh s.ids.allocate.1)
    (id : HandleId) :
    (∃ new, (s.perform (.duplicate id)).outcome = .done (.duplicated (some new))) ↔
      m id ≠ none := by
  constructor
  · rintro ⟨new, h⟩
    exact bound_of_duplicated hs h
  · intro hid
    obtain ⟨x, hx⟩ := Option.ne_none_iff_exists'.1 ((hs.referent id).trans_ne hid)
    have houtcome := (duplicate_of_referent? hx).1
    rw [(openHandle_of_not_mem (c := s.core) fresh.not_open x).1] at houtcome
    exact ⟨_, congrArg (Outcome.map Reply.duplicated) houtcome⟩

/-- A closed id has no referent until it is handed out again. -/
theorem dereference_after_close (hs : s.tracker.table.Represents m) {id : HandleId}
    {record : Record} {evicted : List Record}
    (hdone : (s.perform (.close id)).outcome = .done (.close (.closed record evicted)))
    {after : List (Call α)}
    (hnew : ∀ e ∈ (s.perform (.close id)).after.history after, newId? e.outcome ≠ some id)
    (x : Referent α) :
    (((s.perform (.close id)).after.run after).perform (.dereference id)).outcome ≠
      .done (.referent (some x)) := by
  have hstep := (perform_binds hs (.close id)).represents
  rw [hdone] at hstep
  rw [ne_eq, dereference_iff (represents_run hstep after),
    foldl_bind_eq_none (Event.bind_of_closed rfl m) hnew]
  exact nofun

/-- A second handle has the referent of the first until it is closed. -/
theorem dereference_after_duplicate (hs : s.tracker.table.Represents m) {source new : HandleId}
    (hdone : (s.perform (.duplicate source)).outcome = .done (.duplicated (some new)))
    {after : List (Call α)}
    (hclosed : ∀ e ∈ (s.perform (.duplicate source)).after.history after,
      e.closedId? ≠ some new) :
    new ≠ source ∧ ∃ x,
      (s.perform (.dereference source)).outcome = .done (.referent (some x)) ∧
      (((s.perform (.duplicate source)).after.run after).perform (.dereference new)).outcome =
        .done (.referent (some x)) := by
  obtain ⟨x, hx⟩ := Option.ne_none_iff_exists'.1 (bound_of_duplicated hs hdone)
  obtain ⟨hstep, hfresh⟩ := perform_binds hs (.duplicate source)
  rw [hdone] at hstep hfresh
  -- The new id was not bound, while its source was; so they differ.
  have hnew : m new = none := hfresh new rfl
  have hbound : Event.bind m ⟨.duplicate source, .done (.duplicated (some new))⟩ new = some x :=
    (Function.update_self _ _ _).trans hx
  refine ⟨?_, x, (dereference_iff hs source x).2 hx, ?_⟩
  · rintro rfl
    rw [hnew] at hx
    cases hx
  · exact (dereference_iff (represents_run hstep after) new x).2
      (foldl_bind_history_eq_some hstep hbound hclosed)

end Refines

/-- After every run, a session answers as the bindings of its history say.

    In particular, a closed id stands for nothing until it is handed out again,
    and a second handle for a referent keeps it, whatever becomes of the first. -/
theorem refines_bindings (settings : Settings) (calls : List (Call α)) :
    let start : Session α := ofSettings settings
    let s := start.run calls
    s.Refines (bindings (start.history calls)) ∧
    -- Whatever is called after an id was closed: unless this hands it out, it has no referent.
    (∀ id record evicted after,
      let step := s.perform (.close id)
      step.outcome = .done (.close (.closed record evicted)) →
      (∀ e ∈ step.after.history after, newId? e.outcome ≠ some id) →
      ∀ x, ((step.after.run after).perform (.dereference id)).outcome ≠
        .done (.referent (some x))) ∧
    -- Whatever is called after a second handle was opened: unless this closes it, it has
    -- the referent of the first.
    ∀ source new after,
      let step := s.perform (.duplicate source)
      step.outcome = .done (.duplicated (some new)) →
      (∀ e ∈ step.after.history after, e.closedId? ≠ some new) →
      new ≠ source ∧ ∃ x,
        (s.perform (.dereference source)).outcome = .done (.referent (some x)) ∧
        ((step.after.run after).perform (.dereference new)).outcome =
          .done (.referent (some x)) := by
  intro start s
  have hstart : start.tracker.table.Represents fun _ => none := ⟨List.nodup_nil, fun _ => rfl⟩
  have hs : s.tracker.table.Represents (bindings (start.history calls)) :=
    represents_run hstart calls
  refine ⟨?_, ?_, ?_⟩
  · exact
      { dereference := dereference_iff hs
        close := close_iff hs
        duplicate := fun few => duplicate_iff hs ((conserved_run settings calls few).fresh few)
        declined := fun _ hid call _ => declined_of_unbound hs hid call
        fresh := fun call => (perform_binds hs call).fresh }
  · intro id record evicted after step hdone hnew
    exact dereference_after_close hs hdone hnew
  · intro source new after step hdone hclosed
    exact dereference_after_duplicate hs hdone hclosed

-- An id that is handed out again stands for the new referent, and the second
-- handle, opened before, for the old one.
example :
    let x : Referent Nat := ⟨7, none⟩
    let y : Referent Nat := ⟨8, some "stuck"⟩
    let m := bindings ((ofSettings ⟨.report, 0⟩).history
      [.openHandle x, .duplicate ⟨1⟩, .close ⟨1⟩, .dereference ⟨1⟩, .openHandle y])
    m ⟨1⟩ = some y ∧ m ⟨2⟩ = some x := by
  decide +kernel

end Session

end HandleWatch
