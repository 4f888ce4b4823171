import HandleWatch.Proofs.IdConservation
import HandleWatch.Proofs.ReplayAccount
import Mathlib.Data.Nat.Find

/-!
# Replays stop at what is not there

A step of a replay can be taken if the names and the label that it uses are there
(`Scenario.Replay.execute_of_not_lacks`): its call comes to a value, since no id is
handed out twice and the recorder accepts every report (`Session.perform_done`).
Otherwise the first of them that is not there is the error
(`Scenario.Replay.execute_of_stuck`).

Which names are there depends on the replay itself, as a second handle for one that
is closed is not opened, and so not named (`Scenario.Replay.Names`). What is there
before a step is what the steps before it have named and labelled
(`Scenario.Reaches`).

* `Scenario.run_stops`: a replay whose log does not fail stops at the first step that
  uses what is not there, if there is one, and at no other. The log has the entries of
  the steps before, each of which was taken.
-/

namespace HandleWatch

/-! ## Media without faults -/

namespace Log.Emitter

/-- The medium of an emitter never fails, as when a log is kept in memory. -/
structure Faultless (m : Emitter) : Prop where
  write : ∀ n, m.medium.writeFault n = none
  flush : m.medium.flushFault = none

theorem complete_medium (m : Emitter) (e : Entry) : (m.complete e).2.medium = m.medium := by
  rw [complete]
  cases e.traceId.isEmpty <;> rfl

/-- A medium that never fails takes every entry, and stays so. -/
theorem Faultless.emit {m : Emitter} (h : m.Faultless) (e : Entry) :
    ∃ m', m.emit e = (.ok (), m') ∧ m'.Faultless := by
  simp only [Emitter.emit, Medium.write, m.complete_medium e, h.write]
  exact ⟨_, rfl, h.write, h.flush⟩

end Log.Emitter

namespace Scenario.Replay

open Log

theorem write_faultless {r : Replay} (h : r.emitter.Faultless) (severity : Severity)
    (event : String) (fill : Entry → Entry) :
    ∃ m, r.write severity event fill = (.ok (), { r with emitter := m }) ∧ m.Faultless := by
  have hentry : (r.emitter.entry severity event).2.Faultless := ⟨h.write, h.flush⟩
  obtain ⟨m, hemit, hm⟩ := hentry.emit (fill (r.emitter.entry severity event).1)
  refine ⟨m, ?_, hm⟩
  simp only [write, hemit]

/-- Without faults, the entries of all reports are written. -/
theorem writeReports_faultless (op : Op) (uses : List InvalidUse) {r : Replay}
    (h : r.emitter.Faultless) :
    ∃ m n, writeReports op uses r = (.ok (), { r with emitter := m, logged := n }) ∧
      m.Faultless := by
  induction uses generalizing r with
  | nil => exact ⟨_, _, rfl, h⟩
  | cons use uses ih =>
    obtain ⟨m, hwrite, hm⟩ := write_faultless h .warn "invalid_handle" fun e =>
      (e.withStep r.index op.name).withReport use
    rw [writeReports, hwrite]
    exact ih (r := { r with emitter := m, logged := r.logged + 1 }) hm

theorem writeStep_faultless {r : Replay} (h : r.emitter.Faultless) (op : Op)
    (failure : Option String) :
    ∃ m, r.writeStep op failure = (.ok (), { r with emitter := m }) ∧ m.Faultless := by
  cases failure with
  | none =>
    rw [writeStep]
    exact write_faultless h _ _ _
  | some message =>
    rw [writeStep]
    exact write_faultless h _ _ _

/-- Without faults, a step that can be taken is. -/
theorem step_of_execute {r r₁ : Replay} (h : r.emitter.Faultless) {s : Step}
    {failure : Option String} (hexecute : r.execute s = .ok (failure, r₁)) :
    ∃ r', r.step s = (.ok (), r') ∧ r'.emitter.Faultless ∧ r'.handles = r₁.handles ∧
      r'.generations = r₁.generations := by
  -- What a step does is done before anything is written.
  have h₁ : r₁.emitter.Faultless := by
    obtain ⟨handles, generations, rfl⟩ := execute_ok hexecute
    exact h
  obtain ⟨m₂, n, hreports, h₂⟩ := writeReports_faultless s.op (r₁.capture.since r₁.logged) h₁
  obtain ⟨m₃, hstep, h₃⟩ :=
    writeStep_faultless (r := { r₁ with emitter := m₂, logged := n }) h₂ s.op failure
  simp only [step, hexecute, hreports, hstep]
  exact ⟨_, rfl, h₃, rfl, rfl⟩

/-- Without faults, a replay starts. -/
theorem start_faultless (scenario : Scenario) {m : Emitter} (h : m.Faultless) :
    start scenario m = (.ok (), (start scenario m).2) ∧
      (start scenario m).2.emitter.Faultless := by
  obtain ⟨m', hwrite, hm'⟩ := write_faultless
    (r := { session := (Session.ofSettings scenario.settings).install .recorder, emitter := m })
    h .info "scenario.start" _
  rw [start, hwrite]
  exact ⟨rfl, hm'⟩

/-- Without faults, a replay that gets to its end has a report. -/
theorem finish_faultless (scenario : Scenario) {r : Replay} (h : r.emitter.Faultless) :
    ∃ report, (finish scenario r).1 = .ok report := by
  obtain ⟨m, hwrite, hm⟩ := write_faultless h (if r.failures.isEmpty then .info else .error)
    "scenario.end" fun e =>
      { e with verdict := r.lastEntry.verdict, details := r.lastEntry.details }
  have hflush : m.flush = .ok () := by rw [Emitter.flush, hm.flush]
  rw [finish_eq, hwrite]
  simp only [hflush]
  exact ⟨_, rfl⟩

end Scenario.Replay

/-! ## Calls that come to a value -/

theorem Outcome.eq_done_of_map {β γ : Type} {outcome : Outcome β} {f : β → γ} {c : γ}
    (h : outcome.map f = .done c) : ∃ b, outcome = .done b := by
  cases outcome with
  | done b => exact ⟨b, rfl⟩
  | failed _ => cases h
  | crashed _ => cases h

namespace Session

variable {α : Type}

/-- As long as the ids do not run out, every call comes to a value if a recorder is
    installed: no id is handed out twice, and nobody objects. -/
theorem perform_done {s : Session α} (hs : s.core.Conserved) (few : s.ids.issued < UInt64.size - 1)
    {heard : List InvalidUse} (hrecording : s.tracker.Recording heard) (call : Call α) :
    ∃ reply, (s.perform call).outcome = .done reply := by
  obtain ⟨reply, hplain, -⟩ := hs.quiet_outcome few call
  refine ⟨reply, ?_⟩
  rw [perform_outcome, hplain, overruled]
  -- What is left is the answer to the report, if there is one.
  cases s.report? call with
  | none => rfl
  | some use =>
    simp only [hrecording.answer?_eq]
    rfl

/-- A call hands out one fresh id at most. -/
theorem issued_perform_le (s : Session α) (call : Call α) :
    (s.perform call).after.ids.issued ≤ s.ids.issued + 1 := by
  have hissued : ∀ c', (s.perform call).after.core = c' → c'.ids.issued ≤ s.ids.issued + 1 →
      (s.perform call).after.ids.issued ≤ s.ids.issued + 1 := by
    rintro _ rfl h
    exact h
  rcases s.perform_core_cases call with ⟨x, -, h⟩ | ⟨id, h, table, -, -, hc⟩ | ⟨size, -, h⟩ |
    ⟨-, -, h⟩
  · exact hissued _ h (IdPool.allocate_issued_le _)
  · refine hissued _ hc ?_
    rw [IdPool.issued, IdPool.recycle_next]
    exact Nat.le_succ _
  · refine hissued _ h ?_
    rw [IdPool.issued, IdPool.recycle_next]
    exact Nat.le_succ _
  · exact (congrArg IdPool.issued h).trans_le (Nat.le_succ _)

end Session

/-! ## Names and labels -/

namespace Scenario

open Log
open Except (bind_eq_ok bind_of_ok mapM_eq_ok mapM_eq_error)

/-- The names of the handles that a step uses, in their order. -/
def Step.handles : Step → List String
  | .close handle _ | .dereference handle _ _ | .duplicate handle _ => [handle]
  | .expectOpen _ handles | .expectClosed handles => handles
  | _ => []

/-- The label of the generation that a step uses. -/
def Step.since? : Step → Option String
  | .expectOpen since _ => since
  | _ => none

/-- The name that a step has for a new handle. -/
def Step.name? : Step → Option String
  | .openHandle name _ | .duplicate _ name => some name
  | _ => none

/-- The label that a step gives to a generation. -/
def Step.label? : Step → Option String
  | .newGeneration label _ => label
  | _ => none

/-- `#` and an id, as a number. -/
def IsIdText (name : String) : Prop :=
  ∃ digits n, name.toList = '#' :: digits ∧ readWord? digits = some n

/-- A step uses a name or a label that is not there. -/
def Step.Lacks (s : Step) (named labelled : String → Prop) : Prop :=
  (∃ label, s.since? = some label ∧ ¬labelled label) ∨ ∃ name ∈ s.handles, ¬named name

/-- The error of a step that uses what is not there: the label of the generation is
    looked up first, then the names one after the other. -/
inductive Step.Stuck (s : Step) (index : Nat) (named labelled : String → Prop) : RunError → Prop
  | label {label : String} (hsince : s.since? = some label) (hnot : ¬labelled label) :
    Stuck s index named labelled (.unknownGeneration index label)
  | name {earlier later : List String} {name : String}
    (hsince : ∀ label, s.since? = some label → labelled label)
    (hhandles : s.handles = earlier ++ name :: later) (hearlier : ∀ n ∈ earlier, named n)
    (hnot : ¬named name) : Stuck s index named labelled (.unboundHandle index name)

/-- A step uses what is not there if and only if it has an error. -/
theorem Step.lacks_iff {s : Step} {index : Nat} {named labelled : String → Prop} :
    s.Lacks named labelled ↔ ∃ e, s.Stuck index named labelled e := by
  constructor
  · intro hlacks
    by_cases hlabel : ∃ label, s.since? = some label ∧ ¬labelled label
    · obtain ⟨label, hsince, hnot⟩ := hlabel
      exact ⟨_, .label hsince hnot⟩
    · have hname := hlacks.resolve_left hlabel
      push Not at hlabel
      -- The first of the names that is not there.
      classical
      obtain ⟨name, hfind⟩ : ∃ name, s.handles.find? (fun n => ¬named n) = some name := by
        rw [← Option.isSome_iff_exists, List.find?_isSome]
        simpa using hname
      obtain ⟨hnot, earlier, later, hhandles, hearlier⟩ := List.find?_eq_some_iff_append.1 hfind
      exact ⟨_, .name hlabel hhandles (by simpa using hearlier) (by simpa using hnot)⟩
  · rintro ⟨_, ⟨hsince, hnot⟩ | ⟨-, hhandles, -, hnot⟩⟩
    · exact .inl ⟨_, hsince, hnot⟩
    · exact .inr ⟨_, by simp [hhandles], hnot⟩

namespace Replay

/-- The names that stand for a handle. -/
def Resolves (r : Replay) (name : String) : Prop := ∃ id, r.resolve name = .ok id

/-- The labels that stand for a generation. -/
def Labels (r : Replay) (label : String) : Prop := r.generations.lookup label ≠ none

/-- A label that was given, or none at all, stands for a generation. -/
theorem generation_of_labels {r : Replay} {since : Option String}
    (h : ∀ label, since = some label → r.Labels label) : ∃ g, r.generation since = .ok g := by
  cases since with
  | none => exact ⟨0, rfl⟩
  | some label =>
    obtain ⟨g, hg⟩ := Option.ne_none_iff_exists'.1 (h label rfl)
    rw [generation, hg]
    exact ⟨g, rfl⟩

/-- A name stands for a handle if it was given to one, or is `#` and an id. -/
theorem resolve_cases (r : Replay) (name : String) :
    (∃ id, r.resolve name = .ok id ∧ (r.handles.lookup name ≠ none ∨ IsIdText name)) ∨
      (r.resolve name = .error (.unboundHandle r.index name) ∧ r.handles.lookup name = none ∧
        ¬IsIdText name) := by
  rw [resolve]
  cases hlookup : r.handles.lookup name with
  | some id => exact .inl ⟨id, rfl, .inl (Option.some_ne_none id)⟩
  | none =>
    dsimp only
    split
    · next digits hname =>
      split
      · next n hn => exact .inl ⟨_, rfl, .inr ⟨digits, n, hname, hn⟩⟩
      · next hn =>
        refine .inr ⟨rfl, rfl, ?_⟩
        rintro ⟨digits', n, hname', hn'⟩
        cases hname.symm.trans hname'
        cases hn.symm.trans hn'
    · next hname =>
      refine .inr ⟨rfl, rfl, ?_⟩
      rintro ⟨digits, n, hname', -⟩
      exact hname digits hname'

/-- The names that stand for a handle are those that were given, and the ids. -/
theorem resolves_iff {r : Replay} {name : String} :
    r.Resolves name ↔ r.handles.lookup name ≠ none ∨ IsIdText name := by
  rcases r.resolve_cases name with ⟨id, hid, hname⟩ | ⟨herror, hlookup, hname⟩
  · exact iff_of_true ⟨id, hid⟩ hname
  · refine iff_of_false ?_ (not_or.2 ⟨not_not.2 hlookup, hname⟩)
    rintro ⟨id, hid⟩
    cases herror.symm.trans hid

theorem resolve_of_not_resolves {r : Replay} {name : String} (h : ¬r.Resolves name) :
    r.resolve name = .error (.unboundHandle r.index name) := by
  rcases r.resolve_cases name with ⟨id, hid, -⟩ | ⟨herror, -⟩
  · exact absurd ⟨id, hid⟩ h
  · exact herror

/-! ## When a step can be taken -/

/-- Every call of the session of a replay comes to a value. -/
structure Steady (r : Replay) : Prop where
  conserved : r.session.core.Conserved
  few : r.session.ids.issued < UInt64.size - 1
  recording : r.session.tracker.Recording r.session.heard

/-- What a call of the session comes to is a value for the step. -/
theorem settle_of_perform {r : Replay} {β : Type} {outcome : Outcome β}
    {f : β → Session.Reply String} {reply : Session.Reply String}
    (h : outcome.map f = .done reply) : ∃ b, r.settle outcome = .ok b := by
  obtain ⟨b, rfl⟩ := Outcome.eq_done_of_map h
  exact ⟨b, rfl⟩

/-- A step that lacks nothing can be taken. -/
theorem execute_of_not_lacks {r : Replay} (hr : r.Steady) {s : Step}
    (h : ¬s.Lacks r.Resolves r.Labels) : ∃ taken, r.execute s = .ok taken := by
  have hdone := Session.perform_done hr.conserved hr.few hr.recording
  have hnames : ∀ name ∈ s.handles, ∃ id, r.resolve name = .ok id := by
    intro name hname
    by_contra hnot
    exact h (.inr ⟨name, hname, hnot⟩)
  -- A step looks up its names, makes its call and keeps what it was given. None of the three
  -- can fail.
  cases s with
  | openHandle name value =>
    obtain ⟨reply, hreply⟩ := hdone (.openHandle ⟨value, none⟩)
    obtain ⟨id, hid⟩ := settle_of_perform (r := r) hreply
    exact bind_of_ok hid ⟨_, rfl⟩
  | close handle expect =>
    obtain ⟨id, hid⟩ := hnames handle (List.mem_singleton_self _)
    obtain ⟨reply, hreply⟩ := hdone (.close id)
    obtain ⟨outcome, houtcome⟩ := settle_of_perform (r := r) hreply
    exact bind_of_ok hid (bind_of_ok houtcome ⟨_, rfl⟩)
  | dereference handle expect value =>
    obtain ⟨id, hid⟩ := hnames handle (List.mem_singleton_self _)
    obtain ⟨reply, hreply⟩ := hdone (.dereference id)
    obtain ⟨read, hread⟩ := settle_of_perform (r := r) hreply
    exact bind_of_ok hid (bind_of_ok hread ⟨_, rfl⟩)
  | duplicate handle name =>
    obtain ⟨id, hid⟩ := hnames handle (List.mem_singleton_self _)
    obtain ⟨reply, hreply⟩ := hdone (.duplicate id)
    obtain ⟨copy, hcopy⟩ := settle_of_perform (r := r) hreply
    refine bind_of_ok hid (bind_of_ok hcopy ?_)
    cases copy <;> exact ⟨_, rfl⟩
  | expectOpen since handles =>
    have hsince : ∀ label, since = some label → r.Labels label := by
      intro label hlabel
      by_contra hnot
      exact h (.inl ⟨label, hlabel, hnot⟩)
    obtain ⟨generation, hgeneration⟩ := generation_of_labels hsince
    obtain ⟨ids, hids⟩ := mapM_eq_ok hnames
    exact bind_of_ok hgeneration (bind_of_ok hids ⟨_, rfl⟩)
  | expectClosed handles =>
    obtain ⟨ids, hids⟩ := mapM_eq_ok hnames
    exact bind_of_ok hids ⟨_, rfl⟩
  | _ => exact ⟨_, rfl⟩

/-- A step that uses what is not there cannot be taken. -/
theorem execute_of_stuck {r : Replay} {s : Step} {e : RunError}
    (h : s.Stuck r.index r.Resolves r.Labels e) : r.execute s = .error e := by
  -- Only `expectOpen` has a label, and it is looked up before the names.
  cases h with
  | @label label hsince hnot =>
    cases s with
    | expectOpen since handles =>
      obtain rfl : since = some label := hsince
      have hgeneration : r.generation (some label) = .error (.unknownGeneration r.index label) := by
        rw [generation, not_not.1 hnot]
      rw [execute, hgeneration]
      rfl
    | _ => cases hsince
  | @name earlier later name hsince hhandles hearlier hnot =>
    have herror := resolve_of_not_resolves hnot
    -- A step with one name, and a step with a list of them.
    have hsingle {handle : String} (h : [handle] = earlier ++ name :: later) :
        r.resolve handle = .error (.unboundHandle r.index name) := by
      obtain ⟨-, hname⟩ | ⟨-, hname⟩ := List.append_eq_singleton_iff.1 h.symm
      · cases hname
        exact herror
      · cases hname
    have hall : (earlier ++ name :: later).mapM r.resolve = .error (.unboundHandle r.index name) :=
      mapM_eq_error hearlier herror
    cases s with
    | close handle expect =>
      rw [execute, hsingle hhandles]
      rfl
    | dereference handle expect value =>
      rw [execute, hsingle hhandles]
      rfl
    | duplicate handle copy =>
      rw [execute, hsingle hhandles]
      rfl
    | expectOpen since handles =>
      obtain rfl : handles = earlier ++ name :: later := hhandles
      have hsince : ∀ label, since = some label → r.Labels label := hsince
      obtain ⟨generation, hgeneration⟩ := generation_of_labels hsince
      rw [execute, hgeneration, hall]
      rfl
    | expectClosed handles =>
      obtain rfl : handles = earlier ++ name :: later := hhandles
      rw [execute, hall]
      rfl
    | _ => exact absurd hhandles (by simp [Step.handles])

/-! ## What a step names -/

/-- A step names a new handle: it has a name for it, and its call gives one. -/
def Names (r : Replay) (s : Step) (name : String) : Prop :=
  s.name? = some name ∧ ∃ call id, r.call? s = some call ∧
    Session.newId? (r.session.perform call).outcome = some id

/-- What is named and labelled after a step that was taken. -/
structure Learns (r : Replay) (s : Step) (r' : Replay) : Prop where
  handles : ∀ name, r'.handles.lookup name ≠ none ↔
    r.Names s name ∨ r.handles.lookup name ≠ none
  generations : ∀ label, r'.generations.lookup label ≠ none ↔
    s.label? = some label ∨ r.generations.lookup label ≠ none

theorem eq_done_of_settle {r : Replay} {β : Type} {outcome : Outcome β} {b : β}
    (h : r.settle outcome = .ok b) : outcome = .done b := by
  cases outcome with
  | done _ => cases h; rfl
  | failed _ => cases h
  | crashed _ => cases h

/-- A step that has nothing to name leaves the names and labels as they are. -/
theorem Learns.of_unnamed {r r' : Replay} {s : Step} (hname : s.name? = none)
    (hlabel : s.label? = none) (hhandles : r'.handles = r.handles)
    (hgenerations : r'.generations = r.generations) : r.Learns s r' where
  handles name := by
    simp [Names, hname, hhandles]
  generations label := by
    simp [hlabel, hgenerations]

/-- A step that was taken gives a name if it opened a handle, and its label. -/
theorem execute_learns {r r' : Replay} {s : Step} {failure : Option String}
    (h : r.execute s = .ok (failure, r')) : r.Learns s r' := by
  -- Two operations can name a handle and one can label a generation. The others leave both
  -- lists as they are.
  cases s with
  | openHandle new value =>
    obtain ⟨id, hid, h⟩ := bind_eq_ok h
    cases h
    have hnames (name : String) : r.Names (.openHandle new value) name ↔ new = name := by
      refine ⟨fun h => Option.some.inj h.1, fun hname => ⟨congrArg some hname, ?_⟩⟩
      exact ⟨_, id, rfl, congrArg (fun outcome => Session.newId? (outcome.map .opened))
        (eq_done_of_settle hid)⟩
    refine ⟨fun name => ?_, fun label => ?_⟩
    · rw [hnames]
      exact List.lookup_cons_ne_none_iff
    · exact (or_iff_right (by rintro ⟨⟩)).symm
  | close handle expect =>
    obtain ⟨id, -, h⟩ := bind_eq_ok h
    obtain ⟨outcome, -, h⟩ := bind_eq_ok h
    cases h
    exact .of_unnamed rfl rfl rfl rfl
  | dereference handle expect value =>
    obtain ⟨id, -, h⟩ := bind_eq_ok h
    obtain ⟨read, -, h⟩ := bind_eq_ok h
    cases h
    exact .of_unnamed rfl rfl rfl rfl
  | duplicate handle new =>
    obtain ⟨id, hid, h⟩ := bind_eq_ok h
    obtain ⟨copy, hcopy, h⟩ := bind_eq_ok h
    have houtcome : (r.session.perform (.duplicate id)).outcome = .done (.duplicated copy) :=
      congrArg (Outcome.map Session.Reply.duplicated) (eq_done_of_settle hcopy)
    have hcall : r.call? (.duplicate handle new) = some (.duplicate id) := by
      rw [call?, hid]
      rfl
    -- The step names a handle if the call gave one.
    have hnames (name : String) :
        r.Names (.duplicate handle new) name ↔ new = name ∧ copy ≠ none := by
      constructor
      · rintro ⟨hname, call, new, hcall', hnew⟩
        cases hcall.symm.trans hcall'
        rw [houtcome] at hnew
        exact ⟨Option.some.inj hname, Option.ne_none_iff_exists'.2 ⟨new, hnew⟩⟩
      · rintro ⟨hname, hcopy⟩
        obtain ⟨id', hid'⟩ := Option.ne_none_iff_exists'.1 hcopy
        exact ⟨congrArg some hname, _, id', hcall, (congrArg Session.newId? houtcome).trans hid'⟩
    cases copy with
    | none =>
      cases h
      refine ⟨fun name => ?_, fun label => ?_⟩
      · rw [hnames]
        exact (or_iff_right fun h => h.2 rfl).symm
      · exact (or_iff_right (by rintro ⟨⟩)).symm
    | some copy =>
      cases h
      refine ⟨fun name => ?_, fun label => ?_⟩
      · rw [hnames, and_iff_left (Option.some_ne_none copy)]
        exact List.lookup_cons_ne_none_iff
      · exact (or_iff_right (by rintro ⟨⟩)).symm
  | newGeneration label expect =>
    cases h
    have hnames (name : String) : ¬r.Names (.newGeneration label expect) name := by
      rintro ⟨⟨⟩, -⟩
    refine ⟨fun name => (or_iff_right (hnames name)).symm, fun other => ?_⟩
    cases label with
    | none => exact (or_iff_right (by rintro ⟨⟩)).symm
    | some label =>
      rw [Step.label?, Option.some.injEq]
      exact List.lookup_cons_ne_none_iff
  | expectOpen since handles =>
    obtain ⟨generation, -, h⟩ := bind_eq_ok h
    obtain ⟨want, -, h⟩ := bind_eq_ok h
    cases h
    exact .of_unnamed rfl rfl rfl rfl
  | expectClosed handles =>
    obtain ⟨want, -, h⟩ := bind_eq_ok h
    cases h
    exact .of_unnamed rfl rfl rfl rfl
  | _ =>
    cases h
    exact .of_unnamed rfl rfl rfl rfl

/-- Steps that were all taken are followed by the others. -/
theorem steps_append_of_ok {first rest : List Step} {r r' : Replay}
    (h : Replay.steps first r = (.ok (), r')) :
    Replay.steps (first ++ rest) r = Replay.steps rest r' := by
  induction first generalizing r with
  | nil => exact congrArg (Replay.steps rest) (congrArg Prod.snd h)
  | cons s first ih =>
    rw [List.cons_append, Replay.steps]
    rw [Replay.steps] at h
    split at h
    · exact ih h
    · cases h

end Replay

/-! ## How far a replay gets -/

/-- The replay before a step, if it gets there. -/
def before (scenario : Scenario) (m : Emitter) (k : Nat) : Replay :=
  (Replay.steps (scenario.steps.take k) (Replay.start scenario m).2).2

/-- An earlier step gave the name to a handle. -/
def Bound (scenario : Scenario) (m : Emitter) (k : Nat) (name : String) : Prop :=
  ∃ j s, j < k ∧ scenario.steps[j]? = some s ∧ (scenario.before m j).Names s name

/-- A name stands for a handle: an earlier step gave it to one, or it is `#` and an
    id. -/
def Named (scenario : Scenario) (m : Emitter) (k : Nat) (name : String) : Prop :=
  scenario.Bound m k name ∨ IsIdText name

/-- An earlier step gave the label to a generation. -/
def Labelled (scenario : Scenario) (k : Nat) (label : String) : Prop :=
  ∃ j s, j < k ∧ scenario.steps[j]? = some s ∧ s.label? = some label

/-- A replay gets to a step, and knows the names and labels of the steps before. -/
structure Reaches (scenario : Scenario) (m : Emitter) (k : Nat) : Prop where
  steps : Replay.steps (scenario.steps.take k) (Replay.start scenario m).2 =
    (.ok (), scenario.before m k)
  index : (scenario.before m k).index = k
  abreast : (scenario.before m k).Abreast
  conserved : (scenario.before m k).session.core.Conserved
  /-- A step takes one id at most. -/
  issued : (scenario.before m k).session.ids.issued ≤ k
  faultless : (scenario.before m k).emitter.Faultless
  handles : ∀ name, (scenario.before m k).handles.lookup name ≠ none ↔ scenario.Bound m k name
  generations : ∀ label,
    (scenario.before m k).generations.lookup label ≠ none ↔ scenario.Labelled k label

section Reaches

variable {scenario : Scenario} {m : Emitter} {k : Nat} {s : Step}

/-- An earlier step than the next one is this step, or earlier than this. -/
theorem exists_step_succ {P : Nat → Step → Prop} (hs : scenario.steps[k]? = some s) :
    (∃ j s', j < k + 1 ∧ scenario.steps[j]? = some s' ∧ P j s') ↔
      P k s ∨ ∃ j s', j < k ∧ scenario.steps[j]? = some s' ∧ P j s' := by
  constructor
  · rintro ⟨j, s', hj, hs', h⟩
    rcases Nat.lt_succ_iff_lt_or_eq.1 hj with hj | rfl
    · exact .inr ⟨j, s', hj, hs', h⟩
    · cases hs.symm.trans hs'
      exact .inl h
  · rintro (h | ⟨j, s', hj, hs', h⟩)
    · exact ⟨k, s, Nat.lt_succ_self k, hs, h⟩
    · exact ⟨j, s', Nat.lt_succ_of_lt hj, hs', h⟩

/-- A replay gets to its first step, and knows no name and no label there. -/
theorem reaches_zero (hm : m.Faultless) : scenario.Reaches m 0 := by
  obtain ⟨hstart, hfaultless⟩ := Replay.start_faultless scenario hm
  obtain ⟨e, m', hr, -, -⟩ := Replay.start_ok hstart
  have hbefore : scenario.before m 0 = (Replay.start scenario m).2 := rfl
  refine ⟨rfl, ?_, ?_, ?_, ?_, hfaultless, ?_, ?_⟩ <;> rw [hbefore, hr]
  · exact ⟨rfl, rfl⟩
  · exact ⟨Nat.one_pos, .refl _⟩
  · exact Nat.le_refl 0
  · exact fun name => iff_of_false (not_not.2 rfl) (by rintro ⟨_, _, ⟨⟩, -⟩)
  · exact fun label => iff_of_false (not_not.2 rfl) (by rintro ⟨_, _, ⟨⟩, -⟩)

namespace Reaches

/-- The names that stand for a handle before a step are those of the steps before. -/
theorem resolves (h : scenario.Reaches m k) :
    (scenario.before m k).Resolves = scenario.Named m k := by
  funext name
  rw [Named, ← h.handles]
  exact propext Replay.resolves_iff

theorem labels (h : scenario.Reaches m k) :
    (scenario.before m k).Labels = scenario.Labelled k := by
  funext label
  exact propext (h.generations label)

/-- A step that lacks nothing is taken. -/
theorem succ (h : scenario.Reaches m k) (few : k < UInt64.size - 1)
    (hs : scenario.steps[k]? = some s)
    (hlacks : ¬s.Lacks (scenario.Named m k) (scenario.Labelled k)) :
    scenario.Reaches m (k + 1) ∧
      ∃ failure, (scenario.before m k).Takes s failure (scenario.before m (k + 1)) := by
  have hsteady : (scenario.before m k).Steady :=
    ⟨h.conserved, Nat.lt_of_le_of_lt h.issued few, h.abreast.recording⟩
  rw [← h.resolves, ← h.labels] at hlacks
  -- The session takes the step, and then nothing keeps it out of the log.
  obtain ⟨⟨failure, r₁⟩, hexecute⟩ := Replay.execute_of_not_lacks hsteady hlacks
  obtain ⟨r', hstep, hfaultless, hhandles, hgenerations⟩ :=
    Replay.step_of_execute h.faultless hexecute
  have hlearns := Replay.execute_learns hexecute
  obtain ⟨reports, e, noted, htakes, -, -⟩ := Replay.step_ok h.abreast hstep
  -- The next step is the last of one more.
  have hsteps : Replay.steps (scenario.steps.take (k + 1)) (Replay.start scenario m).2 =
      (.ok (), r') := by
    rw [List.take_add_one, hs, Option.toList_some, Replay.steps_append_of_ok h.steps, Replay.steps,
      hstep]
    rfl
  have hbefore : scenario.before m (k + 1) = r' := congrArg Prod.snd hsteps
  rw [← hbefore] at hsteps htakes hfaultless hhandles hgenerations
  refine ⟨⟨hsteps, ?_, htakes.abreast, ?_, ?_, hfaultless, ?_, ?_⟩, noted, htakes⟩
  · rw [htakes.index, h.index]
  · -- Some steps make no call, and then the session stays as it is.
    rw [htakes.session]
    cases (scenario.before m k).call? s with
    | none => exact h.conserved
    | some call => exact h.conserved.perform hsteady.few call
  · rw [htakes.session]
    cases (scenario.before m k).call? s with
    | none => exact Nat.le_succ_of_le h.issued
    | some call =>
      exact Nat.le_trans (Session.issued_perform_le _ call) (Nat.succ_le_succ h.issued)
  · intro name
    rw [hhandles, hlearns.handles, h.handles]
    exact (exists_step_succ (P := fun j s => (scenario.before m j).Names s name) hs).symm
  · intro label
    rw [hgenerations, hlearns.generations, h.generations]
    exact (exists_step_succ (P := fun _ s => s.label? = some label) hs).symm

/-- A step that is stuck stops the replay. -/
theorem stops (h : scenario.Reaches m k) (hm : m.Faultless) (hs : scenario.steps[k]? = some s)
    {e : RunError} (hstuck : s.Stuck k (scenario.Named m k) (scenario.Labelled k) e) :
    scenario.run m = (.error e, (scenario.before m k).emitter) := by
  have hstart := (Replay.start_faultless scenario hm).1
  have hexecute : (scenario.before m k).execute s = .error e := by
    refine Replay.execute_of_stuck ?_
    rw [h.index, h.resolves, h.labels]
    exact hstuck
  have hstep : (scenario.before m k).step s = (.error e, scenario.before m k) := by
    rw [Replay.step, hexecute]
  -- The steps are those before, the one that is stuck and those after, which are not taken.
  obtain ⟨hk, rfl⟩ := List.getElem?_eq_some_iff.1 hs
  have hsteps : Replay.steps scenario.steps (Replay.start scenario m).2 =
      (.error e, scenario.before m k) := by
    rw [← List.take_append_drop k scenario.steps, List.drop_eq_getElem_cons hk,
      Replay.steps_append_of_ok h.steps, Replay.steps, hstep]
  rw [run, hstart]
  simp only [hsteps]

/-- A replay that gets past its last step has a report. -/
theorem finishes (h : scenario.Reaches m scenario.steps.length) (hm : m.Faultless) :
    ∃ report, (scenario.run m).1 = .ok report := by
  have hstart := (Replay.start_faultless scenario hm).1
  have hsteps := h.steps
  rw [List.take_length] at hsteps
  rw [run, hstart]
  simp only [hsteps]
  exact Replay.finish_faultless scenario h.faultless

end Reaches

/-- A replay gets to a step if no earlier one lacks anything. -/
theorem reaches_of_not_lacks (hm : m.Faultless) (few : scenario.steps.length < UInt64.size - 1)
    (hk : k ≤ scenario.steps.length)
    (hfree : ∀ j s, j < k → scenario.steps[j]? = some s →
      ¬s.Lacks (scenario.Named m j) (scenario.Labelled j)) : scenario.Reaches m k := by
  -- A step that lacks nothing takes the replay one further.
  induction k with
  | zero => exact reaches_zero hm
  | succ k ih =>
    have hreaches := ih (Nat.le_of_succ_le hk) fun j s hj => hfree j s (Nat.lt_succ_of_lt hj)
    have hs : scenario.steps[k]? = some scenario.steps[k] := List.getElem?_eq_getElem hk
    exact (hreaches.succ (Nat.lt_trans hk few) hs (hfree k _ (Nat.lt_succ_self k) hs)).1

end Reaches

/-! ## Where a replay stops -/

/-- The log of a replay that was stopped by a step: its first entry, and the entries of
    the steps before. -/
structure LogUpTo (scenario : Scenario) (m : Emitter) (k : Nat) (first : Entry)
    (groups : List (List Entry × Entry)) : Prop where
  begins : first.event = "scenario.start"
  length : groups.length = k
  leaves : ∀ j s g, scenario.steps[j]? = some s → groups[j]? = some g →
    (scenario.before m j).Leaves scenario.settings.mode j s
      (∃ f ∈ (scenario.before m k).failures, f.step = j) g.1 g.2
  logged : m.Logged (first :: Replay.entries groups) (scenario.run m).2

/-- A replay is stopped by a step, with this error. -/
structure StoppedAt (scenario : Scenario) (m : Emitter) (k : Nat) (e : RunError) : Prop where
  stuck : ∃ s, scenario.steps[k]? = some s ∧
    s.Stuck k (scenario.Named m k) (scenario.Labelled k) e
  /-- No earlier step lacks anything. -/
  first : ∀ j s, j < k → scenario.steps[j]? = some s →
    ¬s.Lacks (scenario.Named m j) (scenario.Labelled j)
  /-- The earlier steps are taken, whether or not they fail. -/
  taken : ∀ j s, j < k → scenario.steps[j]? = some s →
    ∃ failure, (scenario.before m j).Takes s failure (scenario.before m (j + 1))
  log : ∃ first groups, scenario.LogUpTo m k first groups

section Stops

variable {scenario : Scenario} {m : Emitter} {k : Nat}

/-- A replay that ends where a step begins has logged the steps before it. -/
theorem Reaches.logUpTo (h : scenario.Reaches m k) (hm : m.Faultless)
    (hk : k ≤ scenario.steps.length) (hrun : (scenario.run m).2 = (scenario.before m k).emitter) :
    ∃ first groups, scenario.LogUpTo m k first groups := by
  have hstart := (Replay.start_faultless scenario hm).1
  obtain ⟨first, m₁, hr, hfirst, hevent⟩ := Replay.start_ok hstart
  have habreast : (Replay.start scenario m).2.Abreast := by rw [hr]; exact ⟨rfl, rfl⟩
  -- The steps before are a replay of their own, which was not stopped.
  obtain ⟨groups, failures, hrecords⟩ := Replay.steps_ok habreast h.steps
  have hlength : groups.length = k := by
    rw [hrecords.length, List.length_take, Nat.min_eq_left hk]
  have hfailures : (scenario.before m k).failures = failures := by
    rw [hrecords.noted, hr]
    rfl
  refine ⟨first, groups, hevent, hlength, fun j s g hs hg => ?_, ?_⟩
  · have hj : j < k := hlength ▸ (List.getElem?_eq_some_iff.1 hg).1
    have hs' : (scenario.steps.take k)[j]? = some s := by rw [List.getElem?_take_of_lt hj, hs]
    have hl := hrecords.leaves j s g hs' hg
    rw [List.take_take, Nat.min_eq_left (Nat.le_of_lt hj)] at hl
    have hindex : (Replay.start scenario m).2.index = 0 := by rw [hr]
    have hmode : (Replay.start scenario m).2.session.mode = scenario.settings.mode := by
      rw [hr]
      rfl
    rw [hindex, hmode, Nat.zero_add] at hl
    rw [hfailures]
    exact hl
  · have hrest := hrecords.logged
    rw [hr] at hrest
    rw [hrun]
    exact hfirst.trans hrest

/-- A replay that gets to a step which is stuck stops there. -/
theorem Reaches.stoppedAt (h : scenario.Reaches m k) (hm : m.Faultless)
    (few : scenario.steps.length < UInt64.size - 1)
    (hfirst : ∀ j s, j < k → scenario.steps[j]? = some s →
      ¬s.Lacks (scenario.Named m j) (scenario.Labelled j))
    {s : Step} (hs : scenario.steps[k]? = some s) {e : RunError}
    (hstuck : s.Stuck k (scenario.Named m k) (scenario.Labelled k) e) :
    scenario.StoppedAt m k e := by
  have hk : k < scenario.steps.length := (List.getElem?_eq_some_iff.1 hs).1
  refine ⟨⟨s, hs, hstuck⟩, hfirst, fun j s' hj hs' => ?_, ?_⟩
  · have hlength : j < scenario.steps.length := Nat.lt_trans hj hk
    have hreaches : scenario.Reaches m j :=
      reaches_of_not_lacks hm few (Nat.le_of_lt hlength) fun i s'' hi =>
        hfirst i s'' (Nat.lt_trans hi hj)
    exact (hreaches.succ (Nat.lt_trans hlength few) hs' (hfirst j s' hj hs')).2
  · exact h.logUpTo hm (Nat.le_of_lt hk) (congrArg Prod.snd (h.stops hm hs hstuck))

end Stops

/-- A replay whose log does not fail stops if a step uses a name or a label that is not
    there, at the first such step, and for no other reason. A scenario has fewer steps
    than there are ids. -/
theorem run_stops (scenario : Scenario) (m : Emitter) (hm : m.Faultless)
    (few : scenario.steps.length < UInt64.size - 1) :
    ((∃ e, (scenario.run m).1 = .error e) ↔
      ∃ (k : Nat) (s : Step), scenario.steps[k]? = some s ∧
        s.Lacks (scenario.Named m k) (scenario.Labelled k)) ∧
    ∀ e, (scenario.run m).1 = .error e → ∃ k, scenario.StoppedAt m k e := by
  by_cases hlacks : ∃ (k : Nat) (s : Step), scenario.steps[k]? = some s ∧
      s.Lacks (scenario.Named m k) (scenario.Labelled k)
  · -- The first of these steps is reached, and stops the replay.
    classical
    obtain ⟨s, hs, hs'⟩ := Nat.find_spec hlacks
    have hfirst : ∀ j s, j < Nat.find hlacks → scenario.steps[j]? = some s →
        ¬s.Lacks (scenario.Named m j) (scenario.Labelled j) := fun j s hj hs h =>
      Nat.find_min hlacks hj ⟨s, hs, h⟩
    have hk := Nat.le_of_lt (List.getElem?_eq_some_iff.1 hs).1
    have hreaches := reaches_of_not_lacks hm few hk hfirst
    obtain ⟨e, hstuck⟩ := Step.lacks_iff.1 hs'
    have hrun := hreaches.stops hm hs hstuck
    refine ⟨iff_of_true ⟨e, congrArg Prod.fst hrun⟩ hlacks, fun e' he' => ?_⟩
    rw [hrun] at he'
    cases he'
    exact ⟨_, hreaches.stoppedAt hm few hfirst hs hstuck⟩
  · have hfree : ∀ j s, j < scenario.steps.length → scenario.steps[j]? = some s →
        ¬s.Lacks (scenario.Named m j) (scenario.Labelled j) := fun j s _ hs h =>
      hlacks ⟨j, s, hs, h⟩
    obtain ⟨report, hrun⟩ :=
      (reaches_of_not_lacks hm few (Nat.le_refl _) hfree).finishes hm
    rw [hrun]
    exact ⟨iff_of_false (by rintro ⟨_, ⟨⟩⟩) hlacks, by rintro _ ⟨⟩⟩

/-- The first step that is stuck uses both a label and a name that are not there: the
    second handle for a closed one was not opened. Three steps before it fail. -/
theorem run_stops_at_label :
    let scenario : Scenario :=
      { name := "stuck", description := none, mode := none, queueMaxSize := none
        steps := [.openHandle "a" "x", .close "a" (some .unknown), .duplicate "a" "b",
          .expectClosed ["#7"], .expectOpen (some "later") ["b"], .close "c" none] }
    let m : Emitter :=
      { scenario := "stuck", runId := "1", clock := { reading := fun _ => ⟨0, 0⟩ } }
    (scenario.run m).1 = .error (.unknownGeneration 4 "later") ∧ (scenario.run m).2.lines = 6 ∧
      (scenario.before m 4).failures.map Failure.step = [1, 2, 3] ∧
      scenario.StoppedAt m 4 (.unknownGeneration 4 "later") := by
  intro scenario m
  have hrun : (scenario.run m).1 = .error (.unknownGeneration 4 "later") := by decide +kernel
  have few : scenario.steps.length < UInt64.size - 1 := by decide
  obtain ⟨k, hstopped⟩ := (run_stops scenario m ⟨fun _ => rfl, rfl⟩ few).2 _ hrun
  obtain ⟨s, hs, hstuck⟩ := hstopped.stuck
  obtain rfl : k = 4 := by
    cases hstuck
    rfl
  exact ⟨hrun, by decide +kernel, by decide +kernel, hstopped⟩

end Scenario

end HandleWatch
