import HandleWatch.Proofs.Recency
import HandleWatch.Proofs.Reporting

/-!
# The protocol of builders

A builder is opened, takes items, and is built or cancelled. All that a tracker of
builders answers follows from the history of its calls:

* a builder is open if it was opened, and neither built nor cancelled since
  (`Builders.StillOpen`);
* the use of one that is not open is reported. The report tells what became of the
  builder as long as its end is remembered (`Builders.Remembered`): at every point
  since then, fewer builders were finished after it than could be remembered.

An id may be opened again while earlier ends of it are still remembered, and the
bound of the memory may change at any time. So the proof says of every place in
the memory what stands there: the builder finished last is the first one, and the
one at place `n` was finished `n` ends ago (`Builders.Recalls`, `Builders.Remembers`).

* `Builders.protocol_run`: after every run, the builders follow the protocol.
-/

namespace HandleWatch.Builders

/-! ## Runs -/

/-- The builders after some calls. -/
def run (b : Builders) (calls : List Call) : Builders :=
  calls.foldl (fun b call => (b.perform call).2) b

/-- A call and its outcome. -/
structure Event where
  call : Call
  outcome : Outcome Reply

/-- The events of a run, the first one first. -/
def events (b : Builders) : List Call → List Event
  | [] => []
  | call :: calls => ⟨call, (b.perform call).1⟩ :: (b.perform call).2.events calls

theorem run_concat (b : Builders) (calls : List Call) (call : Call) :
    b.run (calls ++ [call]) = ((b.run calls).perform call).2 := by
  rw [run, List.foldl_append]
  rfl

theorem events_concat (b : Builders) (calls : List Call) (call : Call) :
    b.events (calls ++ [call]) = b.events calls ++ [⟨call, ((b.run calls).perform call).1⟩] := by
  induction calls generalizing b with
  | nil => rfl
  | cons first calls ih =>
    rw [List.cons_append, events, ih]
    rfl

/-! ## What a call does -/

/-- The id that a call uses, and what for. -/
def Call.use? : Call → Option (HandleId × BuilderOperation)
  | .setItem id _ => some (id, .setItem)
  | .build id => some (id, .build)
  | .cancel id => some (id, .cancel)
  | _ => none

/-- The id whose builder a call is to end, and how. -/
def Call.finish? : Call → Option (HandleId × BuilderEnd)
  | .build id => some (id, .built)
  | .cancel id => some (id, .cancelled)
  | _ => none

/-- The calls that install or remove a hook. -/
def Call.ChangesHook : Call → Prop
  | .install _ | .uninstall => True
  | _ => False

/-- The report on the use of a builder that is not open, given what is remembered
    of it. -/
def reportOn (id : HandleId) (operation : BuilderOperation) (past : Option FinishedBuilder) :
    InvalidBuilderUse :=
  ⟨id, operation, past.map (·.kind), past.map (·.ended)⟩

/-- What such a use comes to, given the answer to the report. -/
def rejection (id : HandleId) (past : Option FinishedBuilder) : Option Answer → Outcome Reply
  | none | some .accept => .done (.flag false)
  | some (.refuse reason) =>
    .failed (.hookRefused id (if past.isSome then .useAfterClose else .unknown) reason)
  | some (.crash message) => .crashed message

/-- What a call may do, with its outcome and the builders after it. -/
inductive Effect (b : Builders) : Call → Outcome Reply → Builders → Prop
  | started {id : HandleId} {kind : BuilderKind} {size : Nat} (absent : b.find? id = none) :
    Effect b (.start id kind size) (.done .unit)
      { b with opened := b.opened ++ [⟨id, kind, size⟩] }
  /-- The id is open already. -/
  | taken {id : HandleId} {kind : BuilderKind} {size : Nat} {o : OpenBuilder}
      (found : b.find? id = some o) :
    Effect b (.start id kind size) (.failed (.duplicateHandle id)) b
  | item {id : HandleId} {index : Nat} {o : OpenBuilder} (found : b.find? id = some o) :
    Effect b (.setItem id index) (.done (.flag (decide (index < o.size)))) b
  | finished {call : Call} {id : HandleId} {ended : BuilderEnd} {o : OpenBuilder}
      (ends : call.finish? = some (id, ended)) (found : b.find? id = some o) :
    Effect b call (.done (.flag true)) <| trim
      { b with
        opened := b.opened.eraseP fun o => o.id = id
        finished := b.finished ++ [⟨id, o.kind, ended⟩] }
  /-- The id is not open, and its use is reported. -/
  | rejected {call : Call} {id : HandleId} {operation : BuilderOperation}
      (uses : call.use? = some (id, operation)) (absent : b.find? id = none) :
    Effect b call
      (rejection id (b.past? id) (b.sink.answer? (reportOn id operation (b.past? id))))
      { b with sink := b.sink.told (reportOn id operation (b.past? id)) }
  | bounded {history : Nat} : Effect b (.setHistory history) (.done .unit) (b.setHistory history)
  | hooked {call : Call} {sink : Sink InvalidBuilderUse} (changes : call.ChangesHook) :
    Effect b call (.done .unit) { b with sink }

/-- A use that is rejected comes to the answer to its report. -/
theorem reject_eq (b : Builders) (id : HandleId) (operation : BuilderOperation) :
    let report := reportOn id operation (b.past? id)
    ((b.reject id operation).1.map .flag, (b.reject id operation).2) =
      (rejection id (b.past? id) (b.sink.answer? report),
        { b with sink := b.sink.told report }) := by
  intro report
  have hdeliver : b.sink.deliver report = _ := b.sink.deliver_eq report
  simp only [reject]
  rw [show (⟨id, operation, _, _⟩ : InvalidBuilderUse) = report from rfl, hdeliver]
  rcases b.sink.answer? report with _ | _ | _ | _ <;> rfl

/-- The use of a builder that is not open. -/
theorem perform_of_absent {b : Builders} {call : Call} {id : HandleId}
    {operation : BuilderOperation} (uses : call.use? = some (id, operation))
    (absent : b.find? id = none) :
    b.perform call =
      (rejection id (b.past? id) (b.sink.answer? (reportOn id operation (b.past? id))),
        { b with sink := b.sink.told (reportOn id operation (b.past? id)) }) := by
  -- The three calls that use an id look it up first and reject it in the same way.
  cases call with
  | setItem _ index =>
    cases uses
    simp only [perform, setItem, absent]
    exact b.reject_eq id .setItem
  | build _ =>
    cases uses
    simp only [perform, build, finish, absent]
    exact b.reject_eq id .build
  | cancel _ =>
    cases uses
    simp only [perform, cancel, finish, absent]
    exact b.reject_eq id .cancel
  | _ => cases uses

/-- The end of a builder that is open. -/
theorem perform_of_finish? {b : Builders} {call : Call} {id : HandleId} {ended : BuilderEnd}
    {o : OpenBuilder} (ends : call.finish? = some (id, ended)) (found : b.find? id = some o) :
    b.perform call =
      (.done (.flag true), trim
        { b with
          opened := b.opened.eraseP fun o => o.id = id
          finished := b.finished ++ [⟨id, o.kind, ended⟩] }) := by
  cases call with
  | build _ =>
    cases ends
    simp only [perform, build, finish, found]
    rfl
  | cancel _ =>
    cases ends
    simp only [perform, cancel, finish, found]
    rfl
  | _ => cases ends

theorem perform_setItem {b : Builders} {id : HandleId} {o : OpenBuilder}
    (found : b.find? id = some o) (index : Nat) :
    b.perform (.setItem id index) = (.done (.flag (decide (index < o.size))), b) := by
  simp only [perform, setItem, found]
  rfl

/-- An id that is not open can be taken for a new builder. -/
theorem perform_start_of_absent {b : Builders} {id : HandleId} (absent : b.find? id = none)
    (kind : BuilderKind) (size : Nat) :
    b.perform (.start id kind size) =
      (.done .unit, { b with opened := b.opened ++ [⟨id, kind, size⟩] }) := by
  simp only [perform, start, absent]
  rfl

theorem perform_start_of_found {b : Builders} {id : HandleId} {o : OpenBuilder}
    (found : b.find? id = some o) (kind : BuilderKind) (size : Nat) :
    b.perform (.start id kind size) = (.failed (.duplicateHandle id), b) := by
  simp only [perform, start, found]
  rfl

/-- A call that ends a builder uses its id. -/
theorem Call.use?_of_finish? {call : Call} {id : HandleId} {ended : BuilderEnd}
    (h : call.finish? = some (id, ended)) : ∃ operation, call.use? = some (id, operation) := by
  cases call with
  | build _ =>
    cases h
    exact ⟨_, rfl⟩
  | cancel _ =>
    cases h
    exact ⟨_, rfl⟩
  | _ => cases h

/-- Building and cancelling end an open builder, and are rejected for another. -/
theorem finish_effect (b : Builders) {call : Call} {id : HandleId} {ended : BuilderEnd}
    (ends : call.finish? = some (id, ended)) :
    Effect b call (b.perform call).1 (b.perform call).2 := by
  cases hfound : b.find? id with
  | some o =>
    rw [perform_of_finish? ends hfound]
    exact .finished ends hfound
  | none =>
    obtain ⟨operation, uses⟩ := Call.use?_of_finish? ends
    rw [perform_of_absent uses hfound]
    exact .rejected uses hfound

/-- Every call has one of these effects. -/
theorem perform_effect (b : Builders) (call : Call) :
    Effect b call (b.perform call).1 (b.perform call).2 := by
  cases call with
  | start id kind size =>
    cases hfound : b.find? id with
    | some o =>
      rw [perform_start_of_found hfound]
      exact .taken hfound
    | none =>
      rw [perform_start_of_absent hfound]
      exact .started hfound
  | setItem id index =>
    cases hfound : b.find? id with
    | some o =>
      rw [perform_setItem hfound]
      exact .item hfound
    | none =>
      rw [perform_of_absent rfl hfound]
      exact .rejected rfl hfound
  | build id => exact b.finish_effect rfl
  | cancel id => exact b.finish_effect rfl
  | setHistory history => exact .bounded
  | install hook => exact .hooked trivial
  | uninstall => exact .hooked trivial

/-- A call that fails, or comes to `false`, leaves the builders as they were, or
    reports the use of one. -/
theorem Effect.kept_or_told {b b' : Builders} {call : Call} {outcome : Outcome Reply}
    (he : Effect b call outcome b') (hunit : outcome ≠ .done .unit)
    (htrue : outcome ≠ .done (.flag true)) :
    b' = b ∨ ∃ report, b' = { b with sink := b.sink.told report } := by
  cases he with
  | started _ => exact absurd rfl hunit
  | taken _ => exact .inl rfl
  | item _ => exact .inl rfl
  | finished _ _ => exact absurd rfl htrue
  | rejected _ _ => exact .inr ⟨_, rfl⟩
  | bounded => exact absurd rfl hunit
  | hooked _ => exact absurd rfl hunit

/-- A call that fails, or comes to `false`, leaves everything but the sink as it was. -/
theorem Effect.unchanged {b b' : Builders} {call : Call} {outcome : Outcome Reply}
    (he : Effect b call outcome b') (hunit : outcome ≠ .done .unit)
    (htrue : outcome ≠ .done (.flag true)) : ∃ sink, b' = { b with sink } := by
  rcases he.kept_or_told hunit htrue with rfl | ⟨report, rfl⟩
  · exact ⟨b'.sink, rfl⟩
  · exact ⟨b.sink.told report, rfl⟩

/-! ## What the history tells -/

/-- The builder that an event opened. -/
def Event.started? : Event → Option OpenBuilder
  | ⟨.start id kind size, .done _⟩ => some ⟨id, kind, size⟩
  | _ => none

/-- The id of the builder that an event ended, and how. -/
def Event.finished? : Event → Option (HandleId × BuilderEnd)
  | ⟨call, .done (.flag true)⟩ => call.finish?
  | _ => none

/-- An event opened or ended a builder of this id. -/
def Event.Concerns (id : HandleId) (e : Event) : Prop :=
  (∃ o, e.started? = some o ∧ o.id = id) ∨ ∃ ended, e.finished? = some (id, ended)

/-- How many ends are remembered, after an event. -/
def Event.bound (history : Nat) (e : Event) : Nat :=
  match e.call with
  | .setHistory history => history
  | _ => history

/-- How many ends are remembered, after a history. -/
def boundAfter (history : Nat) (events : List Event) : Nat := events.foldl Event.bound history

/-- The builder was opened, and its id was neither opened nor finished since. -/
def StillOpen (events : List Event) (o : OpenBuilder) : Prop :=
  ∃ after, Recency.Since (·.started? = some o) (·.Concerns o.id) events after

/-- There is a builder of this id that is still open. -/
def IsOpen (events : List Event) (id : HandleId) : Prop := ∃ o, o.id = id ∧ StillOpen events o

/-- The event `e` ended the builder `f`, which was open after `before`. -/
def Ends (before : List Event) (e : Event) (f : FinishedBuilder) : Prop :=
  e.finished? = some (f.id, f.ended) ∧ ∃ size, StillOpen before ⟨f.id, f.kind, size⟩

/-- What was ended last in `before` is remembered throughout `after`: at every point,
    fewer builders were ended after it than are remembered. -/
def Stays (history : Nat) (before after : List Event) : Prop :=
  Recency.Stays Event.finished? (boundAfter history) before after

/-- The builder was the last one of its id to end, and its end has been remembered
    since. -/
def Remembered (history : Nat) (events : List Event) (f : FinishedBuilder) : Prop :=
  ∃ before e after, events = before ++ e :: after ∧ Ends before e f ∧
    (∀ e' ∈ after, ∀ ended, e'.finished? ≠ some (f.id, ended)) ∧ Stays history (before ++ [e]) after

/-- The builder ended `n` ends ago, and its end has been remembered since. -/
def Recalls (history : Nat) (events : List Event) (n : Nat) (f : FinishedBuilder) : Prop :=
  ∃ before e after, events = before ++ e :: after ∧ Ends before e f ∧
    (after.filterMap Event.finished?).length = n ∧ Stays history (before ++ [e]) after

/-- The use of a builder opens none and leaves the bound as it is. -/
theorem Event.of_use? {call : Call} {use : HandleId × BuilderOperation} (h : call.use? = some use)
    (outcome : Outcome Reply) :
    Event.started? ⟨call, outcome⟩ = none ∧
      ∀ history, Event.bound history ⟨call, outcome⟩ = history := by
  cases call with
  | setItem _ _ => exact ⟨rfl, fun _ => rfl⟩
  | build _ => exact ⟨rfl, fun _ => rfl⟩
  | cancel _ => exact ⟨rfl, fun _ => rfl⟩
  | _ => cases h

/-- The bound changes with the last call that sets it. -/
theorem boundAfter_concat (history : Nat) (events : List Event) (e : Event) :
    boundAfter history (events ++ [e]) = e.bound (boundAfter history events) := by
  rw [boundAfter, List.foldl_append]
  rfl

/-- A builder is open after one more event if that started it, or it was open and the event
    did not concern it. -/
theorem stillOpen_concat {events : List Event} {e : Event} {o : OpenBuilder} :
    StillOpen (events ++ [e]) o ↔
      e.started? = some o ∨ (StillOpen events o ∧ ¬e.Concerns o.id) := by
  simp only [StillOpen, Recency.since_concat]
  constructor
  · rintro ⟨after, ⟨-, hstart⟩ | ⟨rest, -, hrest, hnot⟩⟩
    · exact .inl hstart
    · exact .inr ⟨⟨rest, hrest⟩, hnot⟩
  · rintro (hstart | ⟨⟨rest, hrest⟩, hnot⟩)
    · exact ⟨[], .inl ⟨rfl, hstart⟩⟩
    · exact ⟨rest ++ [e], .inr ⟨rest, rfl, hrest, hnot⟩⟩

/-- What was ended `n` ends ago, after one more event: the builder that this event
    ended, or one that was ended before. -/
theorem recalls_concat {history n : Nat} {events : List Event} {e : Event} {f : FinishedBuilder} :
    Recalls history (events ++ [e]) n f ↔ n < boundAfter history (events ++ [e]) ∧
      ((n = 0 ∧ Ends events e f) ∨
        ∃ m, Recalls history events m f ∧ n = m + e.finished?.toList.length) := by
  have hcount (rest : List Event) : ((rest ++ [e]).filterMap Event.finished?).length =
      (rest.filterMap Event.finished?).length + e.finished?.toList.length := by
    rw [List.filterMap_append, List.length_append]
    cases he : e.finished? <;> simp [he]
  -- The builder ended with the new event, or before; then one more end may have come in
  -- between.
  constructor
  · rintro ⟨before, e', after, hsplit, hends, rfl, hstays⟩
    rcases Recency.concat_eq_append_cons hsplit with ⟨rfl, rfl, rfl⟩ | ⟨rest, rfl, rfl⟩
    · exact ⟨Recency.stays_nil.1 hstays, .inl ⟨rfl, hends⟩⟩
    · obtain ⟨hrest, hroom⟩ := Recency.stays_concat.1 hstays
      refine ⟨?_, .inr ⟨_, ⟨before, e', rest, rfl, hends, rfl, hrest⟩, hcount rest⟩⟩
      rw [List.append_assoc, List.cons_append]
      rwa [List.append_assoc, List.singleton_append] at hroom
  · rintro ⟨hroom, ⟨rfl, hends⟩ | ⟨m, ⟨before, e', rest, rfl, hends, rfl, hrest⟩, rfl⟩⟩
    · exact ⟨events, e, [], rfl, hends, rfl, Recency.stays_nil.2 hroom⟩
    · rw [List.append_assoc, List.cons_append] at hroom ⊢
      refine ⟨before, e', rest ++ [e], rfl, hends, hcount rest, ?_⟩
      refine Recency.stays_concat.2 ⟨hrest, ?_⟩
      rwa [hcount, List.append_assoc, List.singleton_append]

/-! ## What a call does to it -/

/-- The finished builders that are remembered, the last one first. -/
def recent (b : Builders) : List FinishedBuilder := b.finished.reverse

/-- The ids that are open. -/
def openIds (b : Builders) : List HandleId := b.opened.map (·.id)

theorem find?_eq_none_iff {b : Builders} {id : HandleId} : b.find? id = none ↔ id ∉ b.openIds := by
  simp [find?, openIds]

/-- No two open builders have one id, so one that is open is found under its id. -/
theorem find?_eq_some_iff {b : Builders} (distinct : b.openIds.Nodup) {id : HandleId}
    {o : OpenBuilder} : b.find? id = some o ↔ o.id = id ∧ o ∈ b.opened := by
  constructor
  · intro h
    exact ⟨by simpa using List.find?_some h, List.mem_of_find?_eq_some h⟩
  · rintro ⟨rfl, hmem⟩
    cases hfound : b.find? o.id with
    | none => exact absurd (List.mem_map_of_mem hmem) (find?_eq_none_iff.1 hfound)
    | some o' =>
      have hid : o'.id = o.id := by simpa using List.find?_some hfound
      rw [List.inj_on_of_nodup_map distinct (List.mem_of_find?_eq_some hfound) hmem hid]

/-- As the ids are distinct, erasing the first builder of an id erases all of them. -/
theorem eraseP_eq_filter {l : List OpenBuilder} (distinct : (l.map (·.id)).Nodup) (id : HandleId) :
    l.eraseP (fun o => o.id = id) = l.filter fun o => o.id ≠ id := by
  induction l with
  | nil => rfl
  | cons o l ih =>
    rw [List.map_cons, List.nodup_cons] at distinct
    by_cases hid : o.id = id
    · -- The others have other ids.
      have hothers : ∀ o' ∈ l, o'.id ≠ id := fun o' ho' heq =>
        distinct.1 (hid.trans heq.symm ▸ List.mem_map_of_mem ho')
      rw [List.eraseP_cons_of_pos (by simpa using hid),
        List.filter_cons_of_neg (by simpa using hid), List.filter_eq_self.2 (by simpa using hothers)]
    · rw [List.eraseP_cons_of_neg (by simpa using hid),
        List.filter_cons_of_pos (by simpa using hid), ih distinct.2]

/-- Of the builders that ended, the latest ones are kept. -/
theorem recent_trim (b : Builders) : b.trim.recent = b.recent.take b.history := by
  rw [recent, trim, List.reverse_drop, recent, List.take_eq_take_iff, List.length_reverse]
  omega

/-- A call opens a builder, or ends one, or neither; and it may change how many ends
    are remembered. -/
theorem Effect.moves {b b' : Builders} {call : Call} {outcome : Outcome Reply}
    (he : Effect b call outcome b') (bounded : b.recent.length ≤ b.history) :
    let e : Event := ⟨call, outcome⟩
    b'.history = e.bound b.history ∧
    ((∃ o, b.find? o.id = none ∧ e.started? = some o ∧ e.finished? = none ∧
        b'.opened = b.opened ++ [o] ∧ b'.recent = b.recent.take b'.history) ∨
      (∃ o f, b.find? f.id = some o ∧ f.kind = o.kind ∧ e.started? = none ∧
        e.finished? = some (f.id, f.ended) ∧
        b'.opened = b.opened.eraseP (fun o => o.id = f.id) ∧
        b'.recent = (f :: b.recent).take b'.history) ∨
      (e.started? = none ∧ e.finished? = none ∧ b'.opened = b.opened ∧
        b'.recent = b.recent.take b'.history)) := by
  -- What is remembered is within the bound, so trimming it changes nothing unless a builder
  -- ends or the bound changes.
  have hsame : b.recent = b.recent.take b.history := (List.take_of_length_le bounded).symm
  -- A builder is opened, or one ends, or neither: all other calls leave the lists alone.
  cases he with
  | @started id kind size absent =>
    exact ⟨rfl, .inl ⟨⟨id, kind, size⟩, absent, rfl, rfl, rfl, hsame⟩⟩
  | taken found => exact ⟨rfl, .inr (.inr ⟨rfl, rfl, rfl, hsame⟩)⟩
  | @item id index o found =>
    refine ⟨rfl, .inr (.inr ⟨rfl, ?_, rfl, hsame⟩)⟩
    cases decide (index < o.size) <;> rfl
  | @finished _ id ended o ends found =>
    obtain ⟨operation, uses⟩ := Call.use?_of_finish? ends
    obtain ⟨hstarted, hbound⟩ := Event.of_use? uses (.done (.flag true))
    refine ⟨(hbound _).symm,
      .inr (.inl ⟨o, ⟨id, o.kind, ended⟩, found, rfl, hstarted, ends, rfl, ?_⟩)⟩
    rw [recent_trim, recent, List.reverse_concat]
    rfl
  | @rejected _ id operation uses absent =>
    obtain ⟨hstarted, hbound⟩ := Event.of_use? uses
      (rejection id (b.past? id) (b.sink.answer? (reportOn id operation (b.past? id))))
    refine ⟨(hbound _).symm, .inr (.inr ⟨hstarted, ?_, rfl, hsame⟩)⟩
    rcases b.sink.answer? (reportOn id operation (b.past? id)) with _ | _ | _ | _ <;> rfl
  | bounded => exact ⟨rfl, .inr (.inr ⟨rfl, rfl, rfl, recent_trim _⟩)⟩
  | hooked changes =>
    cases call with
    | install hook => exact ⟨rfl, .inr (.inr ⟨rfl, rfl, rfl, hsame⟩)⟩
    | uninstall => exact ⟨rfl, .inr (.inr ⟨rfl, rfl, rfl, hsame⟩)⟩
    | _ => exact changes.elim

/-- What was ended later is remembered if what was ended earlier is, and it was ended
    fewer ends ago. -/
theorem recalls_of_later {history : Nat} {before between rest : List Event} {e e' : Event}
    {f : FinishedBuilder} (hstays : Stays history (before ++ [e]) (between ++ e' :: rest))
    (hends : Ends (before ++ e :: between) e' f) :
    Recalls history (before ++ e :: (between ++ e' :: rest))
        (rest.filterMap Event.finished?).length f ∧
      (rest.filterMap Event.finished?).length <
        ((between ++ e' :: rest).filterMap Event.finished?).length := by
  constructor
  · refine ⟨before ++ e :: between, e', rest, by simp, hends, rfl, ?_⟩
    have hboth : Stays history (before ++ [e]) ((between ++ [e']) ++ rest) := by
      rw [List.append_assoc]
      exact hstays
    have hlater : Stays history (before ++ [e] ++ (between ++ [e'])) rest :=
      Recency.Stays.later hboth
    rw [List.append_assoc, List.singleton_append, ← List.cons_append, ← List.append_assoc] at hlater
    exact hlater
  · rw [List.filterMap_append, List.filterMap_cons_some hends.1, List.length_append,
      List.length_cons]
    omega

/-- An event after which fewer builders were ended stands later in the history. -/
theorem mem_of_fewer {before before' after after' : List Event} {e e' : Event}
    (hsplit : before ++ e :: after = before' ++ e' :: after')
    (hfewer : (after'.filterMap Event.finished?).length <
      (after.filterMap Event.finished?).length) : e' ∈ after := by
  have hafter : after <:+ before ++ e :: after := (List.suffix_cons e after).trans
    (List.suffix_append _ _)
  have hafter' : e' :: after' <:+ before ++ e :: after := hsplit ▸ List.suffix_append _ _
  by_cases hlength : (e' :: after').length ≤ after.length
  · exact (List.suffix_of_suffix_length_le hafter' hafter hlength).subset List.mem_cons_self
  · rw [List.length_cons] at hlength
    have hshorter : after <:+ after' := List.suffix_of_suffix_length_le hafter
      ((List.suffix_cons e' after').trans hafter') (by omega)
    have hle := (hshorter.filterMap Event.finished?).length_le
    omega

/-- What is found under an id is the first one in the memory. -/
theorem past?_eq_some_iff_getElem? {b : Builders} {id : HandleId} {f : FinishedBuilder} :
    b.past? id = some f ↔ f.id = id ∧ ∃ n, b.recent[n]? = some f ∧
      ∀ (m : Nat) (g : FinishedBuilder), b.recent[m]? = some g → m < n → g.id ≠ id := by
  have hpast : b.past? id = b.recent.find? fun f => f.id = id := rfl
  rw [hpast, List.find?_eq_some_iff_getElem, decide_eq_true_eq]
  refine and_congr_right fun _ => exists_congr fun n => ?_
  rw [List.getElem?_eq_some_iff]
  constructor
  · rintro ⟨hn, hf, hfirst⟩
    refine ⟨⟨hn, hf⟩, fun m g hg hm => ?_⟩
    obtain ⟨hlt, rfl⟩ := List.getElem?_eq_some_iff.1 hg
    simpa using hfirst m hm
  · rintro ⟨⟨hn, hf⟩, hfirst⟩
    refine ⟨hn, hf, fun m hm => ?_⟩
    simpa using hfirst m _ (List.getElem?_eq_getElem (Nat.lt_trans hm hn)) hm

/-! ## The builders of a run -/

/-- How the builders follow from a history. -/
structure Remembers (history : Nat) (events : List Event) (b : Builders) : Prop where
  distinct : b.openIds.Nodup
  opened : ∀ o, o ∈ b.opened ↔ StillOpen events o
  bound : b.history = boundAfter history events
  bounded : b.recent.length ≤ b.history
  /-- Every end is that of a builder which was open. -/
  ends : ∀ {before e after id ended}, events = before ++ e :: after →
    e.finished? = some (id, ended) → ∃ kind, Ends before e ⟨id, kind, ended⟩
  /-- The builder at a place of the memory is the one that ended so many ends ago. -/
  recent : ∀ n f, b.recent[n]? = some f ↔ Recalls history events n f

namespace Remembers

variable {history : Nat} {events : List Event} {b b' : Builders} {e : Event}

/-- What is found under an id is the builder of the history that is still open. -/
theorem find?_eq_some_iff (hb : Remembers history events b) {id : HandleId} {o : OpenBuilder} :
    b.find? id = some o ↔ o.id = id ∧ StillOpen events o := by
  rw [Builders.find?_eq_some_iff hb.distinct, hb.opened]

/-- An id is open by the history if a builder is found under it. -/
theorem isOpen_iff (hb : Remembers history events b) {id : HandleId} :
    IsOpen events id ↔ ∃ o, b.find? id = some o :=
  exists_congr fun _ => hb.find?_eq_some_iff.symm

/-- The event ended no builder but `f`, if any. -/
theorem ends_iff (hb : Remembers history events b) {o : OpenBuilder} {f g : FinishedBuilder}
    (found : b.find? f.id = some o) (hkind : f.kind = o.kind)
    (hfinished : e.finished? = some (f.id, f.ended)) : Ends events e g ↔ f = g := by
  obtain ⟨hid, hopen⟩ := hb.find?_eq_some_iff.1 found
  constructor
  · rintro ⟨hends, size, hsize⟩
    obtain ⟨hgid, hgended⟩ := Prod.mk.inj (Option.some.inj (hfinished.symm.trans hends))
    -- Only one builder of this id is open.
    have hother := found.symm.trans (hb.find?_eq_some_iff.2 ⟨hgid.symm, hsize⟩)
    obtain ⟨id, kind, ended⟩ := f
    obtain ⟨id', kind', ended'⟩ := g
    cases hother
    cases hgid
    cases hgended
    cases hkind
    rfl
  · rintro rfl
    refine ⟨hfinished, o.size, ?_⟩
    rw [hkind, ← hid]
    exact hopen

/-- The places of the memory after an event that ended no builder. -/
theorem recent_of_aside (hb : Remembers history events b) (hfinished : e.finished? = none)
    {n : Nat} {f : FinishedBuilder} :
    (b.recent.take (boundAfter history (events ++ [e])))[n]? = some f ↔
      Recalls history (events ++ [e]) n f := by
  have hends : ¬Ends events e f := fun h => Option.some_ne_none _ (h.1.symm.trans hfinished)
  rw [recalls_concat, hfinished, List.getElem?_take, Option.ite_none_right_eq_some, hb.recent]
  simp [hends]

/-- The places of the memory after a builder ended: it is the first one, and the
    others are further on. -/
theorem recent_of_finished (hb : Remembers history events b) {o : OpenBuilder}
    {f g : FinishedBuilder} (found : b.find? f.id = some o) (hkind : f.kind = o.kind)
    (hfinished : e.finished? = some (f.id, f.ended)) {n : Nat} :
    ((f :: b.recent).take (boundAfter history (events ++ [e])))[n]? = some g ↔
      Recalls history (events ++ [e]) n g := by
  rw [recalls_concat, hfinished, hb.ends_iff found hkind hfinished, List.getElem?_take,
    Option.ite_none_right_eq_some]
  cases n with
  | zero => simp
  | succ n => simp [hb.recent]

/-- The open builders after one more was opened. -/
theorem opened_of_started (hb : Remembers history events b) {o : OpenBuilder}
    (absent : b.find? o.id = none) (hstarted : e.started? = some o) (hfinished : e.finished? = none)
    (o' : OpenBuilder) : o' ∈ b.opened ++ [o] ↔ StillOpen (events ++ [e]) o' := by
  have hother : StillOpen events o' → o.id ≠ o'.id := fun hopen heq => by
    rw [hb.find?_eq_some_iff.2 ⟨heq.symm, hopen⟩] at absent
    cases absent
  rw [List.mem_append, List.mem_singleton, hb.opened, stillOpen_concat, hstarted,
    Option.some.injEq, or_comm, eq_comm]
  refine or_congr_right ⟨fun hopen => ⟨hopen, ?_⟩, And.left⟩
  rintro (⟨o'', ho'', hid⟩ | ⟨ended, hended⟩)
  · cases hstarted.symm.trans ho''
    exact hother hopen hid
  · cases hfinished.symm.trans hended

/-- The open builders after one of them ended. -/
theorem opened_of_finished (hb : Remembers history events b) {f : FinishedBuilder}
    (hstarted : e.started? = none) (hfinished : e.finished? = some (f.id, f.ended))
    (o : OpenBuilder) :
    o ∈ b.opened.eraseP (fun o => o.id = f.id) ↔ StillOpen (events ++ [e]) o := by
  have hconcerns : e.Concerns o.id ↔ o.id = f.id := by
    simp [Event.Concerns, hstarted, hfinished, eq_comm]
  rw [eraseP_eq_filter hb.distinct, List.mem_filter, hb.opened, stillOpen_concat, hstarted,
    hconcerns]
  simp

/-- The open builders after any other event. -/
theorem opened_of_aside (hb : Remembers history events b) (hstarted : e.started? = none)
    (hfinished : e.finished? = none) (o : OpenBuilder) :
    o ∈ b.opened ↔ StillOpen (events ++ [e]) o := by
  have hconcerns : ¬e.Concerns o.id := by simp [Event.Concerns, hstarted, hfinished]
  rw [hb.opened, stillOpen_concat, hstarted]
  simp [hconcerns]

/-- Every end up to now is that of a builder which was open, if the last one is. -/
theorem ends_concat (hb : Remembers history events b)
    (hnew : ∀ id ended, e.finished? = some (id, ended) → ∃ kind, Ends events e ⟨id, kind, ended⟩)
    {before after : List Event} {e' : Event} {id : HandleId} {ended : BuilderEnd}
    (hsplit : events ++ [e] = before ++ e' :: after) (hended : e'.finished? = some (id, ended)) :
    ∃ kind, Ends before e' ⟨id, kind, ended⟩ := by
  rcases Recency.concat_eq_append_cons hsplit with ⟨rfl, rfl, -⟩ | ⟨rest, hevents, -⟩
  · exact hnew id ended hended
  · exact hb.ends hevents hended

/-- Every call keeps the builders as the history tells. -/
theorem step {call : Call} {outcome : Outcome Reply} (hb : Remembers history events b)
    (he : Effect b call outcome b') : Remembers history (events ++ [⟨call, outcome⟩]) b' := by
  obtain ⟨hbound, hmoves⟩ := he.moves hb.bounded
  rw [hb.bound, ← boundAfter_concat] at hbound
  have hbounded {l : List FinishedBuilder} (h : b'.recent = l.take b'.history) :
      b'.recent.length ≤ b'.history := h ▸ List.length_take_le _ _
  -- A builder is opened, or one ends, or neither.
  rcases hmoves with ⟨o, absent, hstarted, hfinished, hopened, hrecent⟩ |
    ⟨o, f, found, hkind, hstarted, hfinished, hopened, hrecent⟩ |
    ⟨hstarted, hfinished, hopened, hrecent⟩
  · refine ⟨?_, fun o' => ?_, hbound, hbounded hrecent, hb.ends_concat fun id ended h => ?_,
      fun n f => ?_⟩
    · rw [openIds, hopened, List.map_append]
      refine List.nodup_append.2 ⟨hb.distinct, List.nodup_singleton _, fun id hid id' hid' => ?_⟩
      rw [List.mem_singleton.1 hid']
      rintro rfl
      exact find?_eq_none_iff.1 absent hid
    · exact hopened ▸ hb.opened_of_started absent hstarted hfinished o'
    · cases hfinished.symm.trans h
    · rw [hrecent, hbound]
      exact hb.recent_of_aside hfinished
  · refine ⟨?_, fun o' => ?_, hbound, hbounded hrecent, hb.ends_concat fun id ended h => ?_,
      fun n g => ?_⟩
    · rw [openIds, hopened]
      exact hb.distinct.sublist (List.eraseP_sublist.map _)
    · exact hopened ▸ hb.opened_of_finished hstarted hfinished o'
    · cases hfinished.symm.trans h
      exact ⟨f.kind, (hb.ends_iff found hkind hfinished).2 rfl⟩
    · rw [hrecent, hbound]
      exact hb.recent_of_finished found hkind hfinished
  · refine ⟨?_, fun o' => ?_, hbound, hbounded hrecent, hb.ends_concat fun id ended h => ?_,
      fun n f => ?_⟩
    · rw [openIds, hopened]
      exact hb.distinct
    · exact hopened ▸ hb.opened_of_aside hstarted hfinished o'
    · cases hfinished.symm.trans h
    · rw [hrecent, hbound]
      exact hb.recent_of_aside hfinished

/-- What is remembered of an id is its last end, while this is remembered. -/
theorem past?_eq_some_iff (hb : Remembers history events b) {id : HandleId} {f : FinishedBuilder} :
    b.past? id = some f ↔ f.id = id ∧ Remembered history events f := by
  have hplace : b.past? id = some f ↔ f.id = id ∧ ∃ n, Recalls history events n f ∧
      ∀ m g, Recalls history events m g → m < n → g.id ≠ id := by
    simp only [← hb.recent]
    exact past?_eq_some_iff_getElem?
  rw [hplace]
  refine and_congr_right fun hid => ⟨?_, ?_⟩
  · rintro ⟨n, ⟨before, e, after, rfl, hends, rfl, hstays⟩, hfirst⟩
    refine ⟨before, e, after, rfl, hends, fun e' he' ended hended => ?_, hstays⟩
    -- A later end of the id would be remembered too, and stand before this one.
    obtain ⟨between, rest, rfl⟩ := List.append_of_mem he'
    have hsplit : before ++ e :: (between ++ e' :: rest) = (before ++ e :: between) ++ e' :: rest :=
      by rw [List.append_assoc, List.cons_append]
    obtain ⟨kind, hends'⟩ := hb.ends hsplit hended
    obtain ⟨hrecalls, hlt⟩ := recalls_of_later hstays hends'
    exact hfirst _ _ hrecalls hlt hid
  · rintro ⟨before, e, after, rfl, hends, hlast, hstays⟩
    refine ⟨_, ⟨before, e, after, rfl, hends, rfl, hstays⟩, ?_⟩
    rintro m g ⟨before', e', after', hsplit, hends', rfl, -⟩ hlt hgid
    refine hlast e' (mem_of_fewer hsplit hlt) g.ended ?_
    rw [hid, ← hgid]
    exact hends'.1

end Remembers

/-- After every run the builders remember its history. -/
theorem remembers_run (history : Nat) (calls : List Call) :
    Remembers history (events { history } calls) (run { history } calls) := by
  induction calls using List.reverseRecOn with
  | nil =>
    have hempty : ∀ {before after : List Event} {e : Event}, [] ≠ before ++ e :: after := by simp
    refine ⟨List.nodup_nil, fun o => ?_, rfl, Nat.zero_le _, fun h => absurd h hempty,
      fun n f => ?_⟩
    · refine iff_of_false List.not_mem_nil ?_
      rintro ⟨after, h⟩
      exact Recency.not_since_nil _ _ _ h
    · refine iff_of_false (by simp [recent, run]) ?_
      rintro ⟨before, e, after, h, -⟩
      exact hempty h
  | append_singleton calls call ih =>
    rw [events_concat, run_concat]
    exact ih.step (perform_effect _ call)

/-! ## The protocol -/

/-- The builders answer as the history tells. -/
structure Follows (history : Nat) (events : List Event) (b : Builders) : Prop where
  isOpen_iff : ∀ id, (b.find? id).isSome = true ↔ IsOpen events id
  /-- An id that is open cannot be opened. -/
  taken : ∀ id kind size, IsOpen events id →
    b.perform (.start id kind size) = (.failed (.duplicateHandle id), b)
  started : ∀ id kind size, ¬IsOpen events id →
    (b.perform (.start id kind size)).1 = .done .unit
  /-- An item is taken at an index below the size with which the builder was opened. -/
  setItem_iff : ∀ id index, (b.perform (.setItem id index)).1 = .done (.flag true) ↔
    ∃ o, o.id = id ∧ StillOpen events o ∧ index < o.size
  finish_iff : ∀ call id ended, call.finish? = some (id, ended) →
    ((b.perform call).1 = .done (.flag true) ↔ IsOpen events id)
  /-- The use of a builder that is open is not reported. -/
  unreported : ∀ call id operation, call.use? = some (id, operation) → IsOpen events id →
    (b.perform call).2.sink = b.sink
  /-- The use of one that is not is reported once, with what is remembered of its last
      end, and comes to the answer to the report. -/
  reported : ∀ call id operation, call.use? = some (id, operation) → ¬IsOpen events id →
    ∃ past, (∀ f, past = some f ↔ f.id = id ∧ Remembered history events f) ∧
      b.perform call =
        (rejection id past (b.sink.answer? (reportOn id operation past)),
          { b with sink := b.sink.told (reportOn id operation past) })
  /-- What is refused, or fails, leaves the builders and the memory as they were. -/
  unchanged : ∀ call, (b.perform call).1 ≠ .done .unit →
    (b.perform call).1 ≠ .done (.flag true) → ∃ sink, (b.perform call).2 = { b with sink }

/-- A use that is rejected does not come to `true`. -/
theorem rejection_ne_true (id : HandleId) (past : Option FinishedBuilder)
    (answer : Option Answer) : rejection id past answer ≠ .done (.flag true) := by
  rcases answer with _ | _ | _ | _ <;> simp [rejection]

namespace Remembers

variable {history : Nat} {events : List Event} {b : Builders}

theorem absent_iff (hb : Remembers history events b) {id : HandleId} :
    ¬IsOpen events id ↔ b.find? id = none := by
  rw [hb.isOpen_iff, ← Option.ne_none_iff_exists', not_not]

/-- An item can be set just in a builder that is still open, below its size. -/
theorem setItem_iff (hb : Remembers history events b) (id : HandleId) (index : Nat) :
    (b.perform (.setItem id index)).1 = .done (.flag true) ↔
      ∃ o, o.id = id ∧ StillOpen events o ∧ index < o.size := by
  cases hfound : b.find? id with
  | none =>
    rw [perform_of_absent rfl hfound]
    refine iff_of_false (rejection_ne_true _ _ _) ?_
    rintro ⟨o, hid, hopen, -⟩
    exact hb.absent_iff.2 hfound ⟨o, hid, hopen⟩
  | some o =>
    obtain ⟨hid, hopen⟩ := hb.find?_eq_some_iff.1 hfound
    rw [perform_setItem hfound, Outcome.done.injEq, Reply.flag.injEq, decide_eq_true_eq]
    refine ⟨fun hlt => ⟨o, hid, hopen, hlt⟩, ?_⟩
    rintro ⟨o', hid', hopen', hlt⟩
    cases hfound.symm.trans (hb.find?_eq_some_iff.2 ⟨hid', hopen'⟩)
    exact hlt

/-- A builder can be ended just as long as it is open. -/
theorem finish_iff (hb : Remembers history events b) {call : Call} {id : HandleId}
    {ended : BuilderEnd} (ends : call.finish? = some (id, ended)) :
    (b.perform call).1 = .done (.flag true) ↔ IsOpen events id := by
  cases hfound : b.find? id with
  | none =>
    obtain ⟨operation, uses⟩ := Call.use?_of_finish? ends
    rw [perform_of_absent uses hfound]
    exact iff_of_false (rejection_ne_true _ _ _) (hb.absent_iff.2 hfound)
  | some o =>
    rw [perform_of_finish? ends hfound]
    exact iff_of_true rfl (hb.isOpen_iff.2 ⟨o, hfound⟩)

/-- A use of an open builder makes no report. -/
theorem unreported (hb : Remembers history events b) {call : Call} {id : HandleId}
    {operation : BuilderOperation} (uses : call.use? = some (id, operation))
    (hopen : IsOpen events id) : (b.perform call).2.sink = b.sink := by
  obtain ⟨o, hfound⟩ := hb.isOpen_iff.1 hopen
  cases call with
  | setItem _ index =>
    cases uses
    rw [perform_setItem hfound]
  | build _ =>
    cases uses
    rw [perform_of_finish? rfl hfound]
    rfl
  | cancel _ =>
    cases uses
    rw [perform_of_finish? rfl hfound]
    rfl
  | _ => cases uses

/-- Builders that remember a history answer by it. -/
theorem follows (hb : Remembers history events b) : Follows history events b where
  isOpen_iff id := by rw [hb.isOpen_iff, Option.isSome_iff_exists]
  taken id kind size hopen := by
    obtain ⟨o, hfound⟩ := hb.isOpen_iff.1 hopen
    exact perform_start_of_found hfound kind size
  started id kind size hopen := by rw [perform_start_of_absent (hb.absent_iff.1 hopen)]
  setItem_iff := hb.setItem_iff
  finish_iff _ _ _ := hb.finish_iff
  unreported _ _ _ := hb.unreported
  reported _ id _ uses hopen :=
    ⟨b.past? id, fun _ => hb.past?_eq_some_iff, perform_of_absent uses (hb.absent_iff.1 hopen)⟩
  unchanged call := (perform_effect b call).unchanged

end Remembers

/-- After every run, whatever hooks were installed and whatever they answered, the
    builders follow the protocol: which of them are open, what a use comes to, and what
    the report on one that is not open tells, can be read off the history. -/
theorem protocol_run (history : Nat) (calls : List Call) :
    Follows history (events { history } calls) (run { history } calls) :=
  (remembers_run history calls).follows

-- Of two ends of one id a report tells the later one, and none once it is forgotten.
example :
    let calls : List Call := [.start ⟨1⟩ .list 1, .build ⟨1⟩, .start ⟨1⟩ .tuple 0, .cancel ⟨1⟩]
    let b := run { history := 2 } calls
    ((b.perform (.setItem ⟨1⟩ 0)).2.sink.last =
        some ⟨⟨1⟩, .setItem, some .tuple, some .cancelled⟩) ∧
      ((b.run [.setHistory 0, .setHistory 2, .build ⟨1⟩]).sink.last =
        some ⟨⟨1⟩, .build, none, none⟩) := by
  decide +kernel

end HandleWatch.Builders
