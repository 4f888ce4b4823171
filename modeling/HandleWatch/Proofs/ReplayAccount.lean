import HandleWatch.Proofs.LogIntegrity

/-!
# The log of a replay accounts for it

A replay that comes to its end leaves one entry at the start, then for every step
the entries of the reports that it caused and one entry of its own, and one entry
at the end. The entries of reports are written by a cursor into what the recorder
heard, so it is to be shown that the cursor neither skips nor repeats a report:
before every step it stands at the end (`Scenario.Replay.Abreast`), and a step
causes at most one report, namely the one that is due (`Scenario.Replay.due?`).

What a step leaves is described once (`Scenario.Replay.step_ok`), then what the
steps of a replay leave (`Scenario.Replay.steps_ok`), and at last what the log and
the report say of the replay as a whole:

* `Scenario.run_account`: the log of a replay that comes to its end is one
  well-formed account of it, and the report agrees with the log and the counters.
-/

namespace HandleWatch

/-! ## Entries in a row -/

namespace Log.Emitter

/-- The emitter `m'` is `m` after it wrote some entries, one after the other and
    without a fault. -/
structure Logged (m : Emitter) (entries : List Entry) (m' : Emitter) : Prop
    extends m.Wrote entries m' where
  sequence : m'.sequence = m.sequence + entries.length
  /-- The entries are numbered from the next number on. -/
  traceIds : entries.map (·.traceId) = (List.range' (m.sequence + 1) entries.length).map m.traceId

namespace Logged

variable {m m' m'' : Emitter} {entries entries' : List Entry}

/-- Nothing written. -/
theorem refl (m : Emitter) : m.Logged [] m :=
  ⟨⟨rfl, rfl, by simp [logText], rfl⟩, rfl, rfl⟩

/-- Some entries and then others. -/
theorem trans (h : m.Logged entries m') (h' : m'.Logged entries' m'') :
    m.Logged (entries ++ entries') m'' := by
  have htraceId : m'.traceId = m.traceId := by
    funext n
    rw [traceId, traceId, h.scenario, h.runId]
  refine ⟨⟨h'.scenario.trans h.scenario, h'.runId.trans h.runId, ?_, ?_⟩, ?_, ?_⟩
  · rw [h'.contents, h.contents, logText_append, String.append_assoc]
  · rw [h'.lines, h.lines, List.length_append, Nat.add_assoc]
  · rw [h'.sequence, h.sequence, List.length_append, Nat.add_assoc]
  · rw [List.map_append, h.traceIds, h'.traceIds, htraceId, h.sequence, List.length_append,
      ← List.map_append, Nat.add_right_comm, List.range'_append_1]

/-- The number in a trace id is that of the line. -/
theorem traceId_eq (h : m.Logged entries m') {n : Nat} {e : Entry} (he : entries[n]? = some e) :
    e.traceId = m.traceId (m.sequence + 1 + n) := by
  have hn := congrArg (·[n]?) h.traceIds
  have hlt : n < entries.length := (List.getElem?_eq_some_iff.1 he).1
  simp only [List.getElem?_map, he, List.getElem?_range' hlt, Option.map_some, Nat.one_mul] at hn
  exact Option.some.inj hn

end Logged

end Log.Emitter

/-! ## Counters -/

/-- What the counters of a tracker count, when a recorder was installed from the
    start and has heard these reports. -/
structure Tracker.Recorded {α : Type} (t : Tracker α) (heard : List InvalidUse)
    (n : Counter → Nat) : Prop where
  tally : ∀ c, t.tally.get c = UInt64.ofNat (n c)
  delivered : n .reportsDelivered = heard.length
  uses : n .useAfterClose + n .unknownHandles = heard.length
  callbackFailures : n .callbackFailures = 0
  registers : n .registers =
    n .evictions + t.table.handles.length + t.quarantine.handles.length

/-- After every run under a recorder, the counters balance with what it heard. -/
theorem Tracker.recorded_run {α : Type} (capacity : Nat) {calls : List (Call α)}
    (hcalls : ∀ call ∈ calls, call.KeepsHook) {heard : List InvalidUse}
    (hheard : (((ofCapacity capacity : Tracker α).install .recorder).run calls).Recording heard) :
    ∃ n, (((ofCapacity capacity : Tracker α).install .recorder).run calls).Recorded heard n ∧
      ∀ c, n c ≤ calls.length + 1 := by
  let start : Tracker α := ofCapacity capacity
  let all : List (Call α) := .install .recorder :: calls
  have hinstalled : (start.install .recorder).Recording [] := rfl
  -- To install the recorder is a call as well, and makes no report.
  obtain ⟨hrun, haccept⟩ := hinstalled.run hcalls
  have hreports : reports (start.steps all) = reports ((start.install .recorder).steps calls) :=
    reports_cons start (.install .recorder) calls
  rw [← hreports] at hrun haccept
  -- The recorder heard the reports of the run, and accepted them all.
  have hlength : (reports (start.steps all)).length = heard.length := by
    have hsame : heard = (reports (start.steps all)).map Prod.fst := by
      have := hheard.symm.trans hrun
      simpa using this
    rw [hsame, List.length_map]
  have hsized := sized_run (α := α) capacity all
  refine ⟨counted (start.history all) (start.steps all), ⟨fun c => ?_, ?_, ?_, ?_, ?_⟩,
    counted_le capacity all⟩
  · exact (start.run_tally_get all c).trans (by cases c <;> exact UInt64.zero_add _)
  · rw [← hlength]
    exact List.countP_eq_length.2 fun report hreport => decide_eq_true (haccept report hreport)
  · rw [← hlength]
    exact (reports_length_eq_classified (start.steps all)).symm
  · refine List.countP_eq_zero.2 fun report hreport => ?_
    obtain ⟨use, answer⟩ := report
    cases haccept _ hreport
    exact Bool.false_ne_true
  · calc (opened (start.history all)).length
      _ = (start.run all).table.handles.length + ((start.run all).quarantine.handles.length +
          (evicted (start.history all)).length) := hsized.quarantine ▸ hsized.table
      _ = _ := by rw [← Nat.add_assoc, Nat.add_comm, ← Nat.add_assoc]; rfl

/-! ## Reports that are due -/

namespace Scenario

open Log

/-- The name of the handle that a step uses, and what for. -/
def Step.use? : Step → Option (String × Operation)
  | .close handle _ => some (handle, .close)
  | .dereference handle _ _ | .duplicate handle _ => some (handle, .dereference)
  | _ => none

namespace Replay

/-- The report that a step is to make: on the use of an id that is not open, if
    reports are on. -/
def due? (r : Replay) (s : Step) : Option InvalidUse :=
  if r.session.mode = .report then
    s.use?.bind fun (name, operation) =>
      (r.resolve name).toOption.bind fun id => r.session.tracker.report? id operation
  else none

/-- A report is due if reports are on and the step uses a handle that is not open. -/
theorem due?_ne_none_iff {r : Replay} {s : Step} :
    r.due? s ≠ none ↔ r.session.mode = .report ∧
      ∃ name operation id, s.use? = some (name, operation) ∧ r.resolve name = .ok id ∧
        id ∉ r.session.tracker.table.ids := by
  have hopen (id : HandleId) (operation : Operation) :
      r.session.tracker.report? id operation ≠ none ↔ id ∉ r.session.tracker.table.ids :=
    not_congr Tracker.report?_eq_none_iff
  unfold due?
  by_cases hmode : r.session.mode = .report
  · rw [if_pos hmode]
    cases s.use? with
    | none => simp
    | some use =>
      obtain ⟨name, operation⟩ := use
      cases hid : r.resolve name with
      | error e => simp [hid, Except.toOption]
      | ok id => simp [hid, hmode, Except.toOption, ← hopen id operation]
  · simp [hmode]

/-- A report that is due is on the use that the step makes of the handle which it names. -/
theorem due?_eq_some {r : Replay} {s : Step} {use : InvalidUse} (h : r.due? s = some use) :
    ∃ name, s.use? = some (name, use.operation) ∧ r.resolve name = .ok use.id ∧
      use.classification = r.session.tracker.classify use.id ∧ use.classification ≠ .valid := by
  unfold due? at h
  split_ifs at h
  obtain ⟨⟨name, operation⟩, huse, h⟩ := Option.bind_eq_some_iff.1 h
  obtain ⟨id, hid, hreport⟩ := Option.bind_eq_some_iff.1 h
  obtain ⟨rfl, hclassification, hopen⟩ := Tracker.report?_eq_some hreport
  obtain ⟨rfl, -⟩ := Tracker.report?_provenance hreport
  refine ⟨name, huse, Except.eq_ok_of_toOption hid, hclassification, fun hvalid => ?_⟩
  exact hopen (Tracker.classify_eq_valid_iff.1 (hclassification.symm.trans hvalid))

/-- The id that the call of a step uses is that of the handle which the step names. -/
theorem call?_use? (r : Replay) (s : Step) :
    (r.call? s).bind Session.Call.use? =
      s.use?.bind fun (name, operation) => (r.resolve name).toOption.map (·, operation) := by
  cases s with
  | close handle expect =>
    simp only [call?, Step.use?, Option.bind_some]
    cases r.resolve handle <;> rfl
  | dereference handle expect value =>
    simp only [call?, Step.use?, Option.bind_some]
    cases r.resolve handle <;> rfl
  | duplicate handle name =>
    simp only [call?, Step.use?, Option.bind_some]
    cases r.resolve handle <;> rfl
  | _ => rfl

/-- The report that is due is the one that the call of the step makes. -/
theorem due?_eq (r : Replay) (s : Step) : r.due? s = (r.call? s).bind r.session.report? := by
  have hreport : r.session.report? = fun call =>
      if r.session.mode.validates then
        call.use?.bind fun use => r.session.tracker.report? use.1 use.2
      else none := rfl
  have huse := congrArg (Option.bind · fun use => r.session.tracker.report? use.1 use.2)
    (r.call?_use? s)
  rw [hreport, due?]
  cases r.session.mode with
  | off => simp [Mode.validates]
  | report =>
    simp only [Mode.validates, if_true]
    simp only [Option.bind_assoc] at huse
    rw [huse]
    simp only [Option.bind_map, Function.comp_def]

/-! ## What a step leaves -/

/-- An entry on a report of an invalid use in a step: it carries the step, what that
    does, and the report. -/
structure Reports (index : Nat) (op : Op) (e : Entry) (use : InvalidUse) : Prop where
  event : e.event = "invalid_handle"
  step : e.step = some (UInt64.ofNat index)
  op : e.op = some op.name
  handle : e.handle = some use.id.raw
  classification : e.classification = some
    (if use.classification = .valid then "valid"
    else if use.classification = .useAfterClose then "use_after_close" else "unknown")
  operation : e.operation = some (if use.operation = .close then "close" else "dereference")
  /-- What is known of the handle is there, and nothing else. -/
  generation : e.generation = use.generation.map UInt64.ofNat
  sequence : e.sequence = use.sequence.map UInt64.ofNat

/-- Filling in the step and the report gives such an entry. -/
theorem reports_withReport {e : Entry} (he : e.event = "invalid_handle") (index : Nat) (op : Op)
    (use : InvalidUse) : Reports index op ((e.withStep index op.name).withReport use) use where
  event := he
  step := rfl
  op := rfl
  handle := rfl
  classification := by
    rw [Entry.withReport]
    cases use.classification <;> rfl
  operation := by
    rw [Entry.withReport]
    cases use.operation <;> rfl
  generation := rfl
  sequence := rfl

/-- What a step leaves in the log: the entry of a report, if one is due, and then its
    own entry. -/
structure Leaves (mode : Mode) (r : Replay) (index : Nat) (s : Step) (failed : Prop)
    (reports : List Entry) (e : Entry) : Prop where
  reports : List.Forall₂ (Reports index s.op) reports (r.due? s).toList
  due_iff : r.due? s ≠ none ↔ mode = .report ∧
    ∃ name operation id, s.use? = some (name, operation) ∧ r.resolve name = .ok id ∧
      id ∉ r.session.tracker.table.ids
  /-- The report is on what the step did, and tells what the id stood for. -/
  due : ∀ use ∈ r.due? s, ∃ name, s.use? = some (name, use.operation) ∧
    r.resolve name = .ok use.id ∧ use.classification = r.session.tracker.classify use.id ∧
      use.classification ≠ .valid
  event : e.event = "step." ++ s.op.name
  step : e.step = some (UInt64.ofNat index)
  op : e.op = some s.op.name
  failed_iff : failed ↔ e.verdict = some .fail ∧ e.severity = .error
  passed_iff : ¬failed ↔ e.verdict = some .pass ∧ e.severity = .info

theorem Leaves.of_iff {mode : Mode} {r : Replay} {index : Nat} {s : Step} {failed failed' : Prop}
    {reports : List Entry} {e : Entry} (h : r.Leaves mode index s failed reports e)
    (hiff : failed ↔ failed') : r.Leaves mode index s failed' reports e :=
  ⟨h.reports, h.due_iff, h.due, h.event, h.step, h.op, hiff.symm.trans h.failed_iff,
    (not_congr hiff.symm).trans h.passed_iff⟩

/-- The log is abreast of the recorder: all that was heard is in it. -/
structure Abreast (r : Replay) : Prop where
  recording : r.session.tracker.Recording r.session.heard
  logged : r.logged = r.session.heard.length

/-- A write without a fault leaves one entry. -/
theorem write_ok {r r' : Replay} {severity : Severity} {event : String} {fill : Entry → Entry}
    (h : r.write severity event fill = (.ok (), r'))
    (hfill : ∀ e, (fill e).traceId = e.traceId ∧ (fill e).scenario = e.scenario) :
    ∃ m, r' = { r with emitter := m } ∧
      r.emitter.Logged [fill (r.emitter.entry severity event).1] m := by
  rcases r.write_cases severity event hfill with ⟨m, h', hsequence, hw⟩ | ⟨m, fault, h', hw⟩
  · cases h'.symm.trans h
    refine ⟨m, rfl, hw, hsequence, ?_⟩
    exact congrArg (fun id => [id]) (hfill _).1
  · cases h'.symm.trans h

/-- The entries of reports, one for each. -/
theorem writeReports_ok {op : Op} {uses : List InvalidUse} {r r' : Replay}
    (h : writeReports op uses r = (.ok (), r')) :
    ∃ entries m, r' = { r with emitter := m, logged := r.logged + uses.length } ∧
      r.emitter.Logged entries m ∧ List.Forall₂ (Reports r.index op) entries uses := by
  -- Each report moves the cursor on by one.
  induction uses generalizing r with
  | nil =>
    obtain rfl : r = r' := congrArg Prod.snd h
    exact ⟨[], r.emitter, rfl, .refl _, .nil⟩
  | cons use uses ih =>
    rw [writeReports] at h
    split at h
    · next r₁ hwrite =>
      obtain ⟨m₁, rfl, hfirst⟩ := write_ok hwrite fun _ => ⟨rfl, rfl⟩
      obtain ⟨entries, m, rfl, hrest, hreports⟩ := ih h
      refine ⟨_, m, ?_, hfirst.trans hrest, .cons (reports_withReport rfl _ _ _) hreports⟩
      simp only [List.length_cons]
      rw [Nat.add_assoc, Nat.add_comm 1]
    · cases h

/-- The entry of a step. -/
theorem writeStep_ok {op : Op} {failure : Option String} {r r' : Replay}
    (h : r.writeStep op failure = (.ok (), r')) :
    ∃ e m, r' = { r with emitter := m } ∧ r.emitter.Logged [e] m ∧
      e.event = "step." ++ op.name ∧ e.step = some (UInt64.ofNat r.index) ∧
      e.op = some op.name ∧
      e.verdict = some (if failure = none then .pass else .fail) ∧
      e.severity = if failure = none then .info else .error := by
  cases failure with
  | none =>
    rw [writeStep] at h
    obtain ⟨m, rfl, hm⟩ := write_ok h fun _ => ⟨rfl, rfl⟩
    exact ⟨_, m, rfl, hm, rfl, rfl, rfl, rfl, rfl⟩
  | some message =>
    rw [writeStep] at h
    obtain ⟨m, rfl, hm⟩ := write_ok h fun _ => ⟨rfl, rfl⟩
    exact ⟨_, m, rfl, hm, rfl, rfl, rfl, rfl, rfl⟩

/-- A step of a replay, with the failure that it notes. -/
structure Takes (r : Replay) (s : Step) (failure : Option Failure) (r' : Replay) : Prop where
  session : r'.session = r.session.run (r.call? s).toList
  heard : r'.session.heard = r.session.heard ++ (r.due? s).toList
  abreast : r'.Abreast
  index : r'.index = r.index + 1
  failures : r'.failures = r.failures ++ failure.toList
  failure : ∀ f ∈ failure, f.step = r.index ∧ f.op = s.op.name

theorem Takes.mode {r r' : Replay} {s : Step} {failure : Option Failure}
    (ht : r.Takes s failure r') : r'.session.mode = r.session.mode := by
  rw [ht.session]
  cases r.call? s with
  | none => rfl
  | some call => exact r.session.perform_mode call

/-- A step calls the tracker twice at most, and leaves the hook alone. -/
theorem Takes.tracker {r r' : Replay} {s : Step} {failure : Option Failure}
    (ht : r.Takes s failure r') :
    ∃ calls, (∀ call ∈ calls, Tracker.Call.KeepsHook call) ∧ calls.length ≤ 2 ∧
      r'.session.tracker = r.session.tracker.run calls := by
  rw [ht.session]
  cases hcall : r.call? s with
  | none => exact ⟨[], List.forall_mem_nil _, Nat.zero_le 2, rfl⟩
  | some call =>
    exact ⟨r.session.trackerCalls call, r.session.trackerCalls_keepsHook (call?_keepsHook hcall),
      r.session.length_trackerCalls_le call, r.session.perform_tracker call⟩

/-- After its call, the recorder has heard the report that was due. -/
theorem recording_run {r : Replay} (hr : r.session.tracker.Recording r.session.heard) (s : Step) :
    (r.session.run (r.call? s).toList).tracker.Recording
      (r.session.heard ++ (r.due? s).toList) := by
  rw [due?_eq]
  cases hcall : r.call? s with
  | none =>
    rw [← List.append_nil r.session.heard] at hr
    exact hr
  | some call => exact Session.perform_recording hr (call?_keepsHook hcall)

/-- A step that does not stop the replay leaves the report that is due, and its own entry.
    -/
theorem step_ok {r r' : Replay} {s : Step} (hr : r.Abreast) (h : r.step s = (.ok (), r')) :
    ∃ reports e failure, r.Takes s failure r' ∧ r.emitter.Logged (reports ++ [e]) r'.emitter ∧
      r.Leaves r.session.mode r.index s (failure ≠ none) reports e := by
  rw [step] at h
  split at h
  · cases h
  · next message r₁ hexecute =>
    obtain ⟨handles, generations, rfl⟩ := execute_ok hexecute
    have hrecording := recording_run hr.recording s
    have hheard := Session.heard_of_recording hrecording
    -- The cursor stands where the recorder stood before the step.
    have hsince : Capture.since ⟨(r.session.run (r.call? s).toList).heard⟩ r.logged =
        (r.due? s).toList := by
      rw [Capture.since, hheard, hr.logged, List.drop_left]
    simp only [capture, hsince] at h
    split at h
    · cases h
    · next r₂ hreports =>
      obtain ⟨reports, m₂, rfl, hlog₂, hforall⟩ := writeReports_ok hreports
      split at h
      · cases h
      · next r₃ hstep =>
        obtain ⟨e, m₃, rfl, hlog₃, hevent, hindex, hop, hverdict, hseverity⟩ :=
          writeStep_ok hstep
        obtain rfl := congrArg Prod.snd h
        refine ⟨reports, e, message.map fun message => ⟨r.index, s.op.name, message⟩,
          ⟨rfl, hheard, ⟨hheard ▸ hrecording, ?_⟩, rfl, ?_, ?_⟩, hlog₂.trans hlog₃,
          ⟨hforall, due?_ne_none_iff, fun _ huse => due?_eq_some huse, hevent, hindex, hop, ?_, ?_⟩⟩
        · simp only [hr.logged, hheard, List.length_append]
        · cases message with
          | none => exact (List.append_nil _).symm
          | some message => rfl
        · intro f hf
          obtain ⟨message, -, rfl⟩ := Option.map_eq_some_iff.1 hf
          exact ⟨rfl, rfl⟩
        · rw [hverdict, hseverity]
          cases message <;> simp
        · rw [hverdict, hseverity]
          cases message <;> simp

/-! ## What the steps of a replay leave -/

/-- The entries of steps, in order. -/
def entries (groups : List (List Entry × Entry)) : List Entry :=
  groups.flatMap fun (reports, e) => reports ++ [e]

/-- There is an entry for every step, and one for every report. -/
theorem length_entries (groups : List (List Entry × Entry)) :
    (entries groups).length = groups.length + (groups.flatMap Prod.fst).length := by
  induction groups with
  | nil => rfl
  | cons g groups ih =>
    rw [entries] at ih ⊢
    simp only [List.flatMap_cons, List.length_append, ih, List.length_cons, List.length_nil]
    omega

/-- What some steps leave in the log, and the failures that they note. -/
structure Records (r : Replay) (steps : List Step) (groups : List (List Entry × Entry))
    (failures : List Failure) (r' : Replay) : Prop where
  logged : r.emitter.Logged (entries groups) r'.emitter
  length : groups.length = steps.length
  leaves : ∀ k s g, steps[k]? = some s → groups[k]? = some g →
    (Replay.steps (steps.take k) r).2.Leaves r.session.mode (r.index + k) s
      (∃ f ∈ failures, f.step = r.index + k) g.1 g.2
  /-- There is an entry for each report that was heard. -/
  heard : r'.session.heard.length = r.session.heard.length + (groups.flatMap Prod.fst).length
  abreast : r'.Abreast
  /-- The steps are a run of the tracker. -/
  tracker : ∃ calls, (∀ call ∈ calls, Tracker.Call.KeepsHook call) ∧
    calls.length ≤ 2 * steps.length ∧ r'.session.tracker = r.session.tracker.run calls
  noted : r'.failures = r.failures ++ failures
  increasing : failures.Pairwise fun f f' => f.step < f'.step
  failed : ∀ f ∈ failures, ∃ k s, f.step = r.index + k ∧ steps[k]? = some s ∧ f.op = s.op.name

theorem Records.nil {r : Replay} (hr : r.Abreast) : r.Records [] [] [] r where
  logged := .refl _
  length := rfl
  leaves _ _ _ hs := by simp at hs
  heard := rfl
  abreast := hr
  tracker := ⟨[], List.forall_mem_nil _, Nat.le_refl 0, rfl⟩
  noted := (List.append_nil _).symm
  increasing := .nil
  failed := List.forall_mem_nil _

section Records

variable {r r₁ r' : Replay} {s : Step} {steps : List Step} {reports : List Entry} {e : Entry}
  {failure : Option Failure} {groups : List (List Entry × Entry)} {failures : List Failure}

/-- The failures of the steps after a step have later numbers. -/
theorem Records.later (hr : r₁.Records steps groups failures r') (ht : r.Takes s failure r₁) :
    ∀ f ∈ failures, r.index < f.step := by
  intro f hf
  obtain ⟨k, -, hk, -⟩ := hr.failed f hf
  rw [hk, ht.index]
  omega

/-- A step leaves what it does whatever comes after it, and so does each of the steps after
    it. -/
theorem Records.leaves_cons (hr : r₁.Records steps groups failures r')
    (hstep : r.step s = (.ok (), r₁)) (ht : r.Takes s failure r₁)
    (hl : r.Leaves r.session.mode r.index s (failure ≠ none) reports e) (k : Nat) (s' : Step)
    (g : List Entry × Entry) (hs' : (s :: steps)[k]? = some s')
    (hg : ((reports, e) :: groups)[k]? = some g) :
    (Replay.steps ((s :: steps).take k) r).2.Leaves r.session.mode (r.index + k) s'
      (∃ f ∈ failure.toList ++ failures, f.step = r.index + k) g.1 g.2 := by
  cases k with
  | zero =>
    cases hs'
    cases hg
    refine hl.of_iff ?_
    constructor
    · intro hne
      obtain ⟨f, hf⟩ := Option.ne_none_iff_exists'.1 hne
      exact ⟨f, List.mem_append_left _ (Option.mem_toList.2 hf), (ht.failure f hf).1⟩
    · rintro ⟨f, hf, hindex⟩ hnone
      rw [hnone] at hf
      exact Nat.ne_of_gt (hr.later ht f hf) hindex
  | succ k =>
    have hl' := hr.leaves k s' g hs' hg
    have hindex : r₁.index + k = r.index + (k + 1) := by
      rw [ht.index]
      omega
    have hbefore : Replay.steps ((s :: steps).take (k + 1)) r = Replay.steps (steps.take k) r₁ := by
      rw [List.take_succ_cons, Replay.steps, hstep]
    rw [hbefore]
    rw [ht.mode, hindex] at hl'
    refine hl'.of_iff ?_
    constructor
    · rintro ⟨f, hf, hk⟩
      exact ⟨f, List.mem_append_right _ hf, hk⟩
    · rintro ⟨f, hf, hk⟩
      -- The failure of the step itself has an earlier number.
      rcases List.mem_append.1 hf with hf | hf
      · have hfirst := (ht.failure f (Option.mem_toList.1 hf)).1
        omega
      · exact ⟨f, hf, hk⟩

/-- A step and the steps after it. -/
theorem Records.cons (hr : r₁.Records steps groups failures r')
    (hstep : r.step s = (.ok (), r₁)) (ht : r.Takes s failure r₁)
    (hlog : r.emitter.Logged (reports ++ [e]) r₁.emitter)
    (hl : r.Leaves r.session.mode r.index s (failure ≠ none) reports e) :
    r.Records (s :: steps) ((reports, e) :: groups) (failure.toList ++ failures) r' where
  logged := hlog.trans hr.logged
  length := congrArg Nat.succ hr.length
  leaves := hr.leaves_cons hstep ht hl
  heard := by
    have hreports : reports.length = (r.due? s).toList.length := hl.reports.length_eq
    rw [hr.heard, ht.heard, List.flatMap_cons, List.length_append, List.length_append, hreports,
      Nat.add_assoc]
  abreast := hr.abreast
  tracker := by
    obtain ⟨calls, hkeeps, hcalls, htracker⟩ := ht.tracker
    obtain ⟨calls', hkeeps', hcalls', htracker'⟩ := hr.tracker
    refine ⟨calls ++ calls', List.forall_mem_append.2 ⟨hkeeps, hkeeps'⟩, ?_, ?_⟩
    · rw [List.length_append, List.length_cons]
      omega
    · rw [htracker', htracker, Tracker.run_append]
  noted := by rw [hr.noted, ht.failures, List.append_assoc]
  increasing := by
    refine List.pairwise_append.2 ⟨?_, hr.increasing, fun f hf f' hf' => ?_⟩
    · cases failure with
      | none => exact .nil
      | some f => exact List.pairwise_singleton _ _
    · rw [(ht.failure f (Option.mem_toList.1 hf)).1]
      exact hr.later ht f' hf'
  failed := by
    intro f hf
    rcases List.mem_append.1 hf with hf | hf
    · obtain ⟨hindex, hop⟩ := ht.failure f (Option.mem_toList.1 hf)
      exact ⟨0, s, hindex, rfl, hop⟩
    · obtain ⟨k, s', hk, hs', hop⟩ := hr.failed f hf
      refine ⟨k + 1, s', ?_, hs', hop⟩
      rw [hk, ht.index]
      omega

end Records

/-- The steps of a replay, if none of them stops it. -/
theorem steps_ok {steps : List Step} {r r' : Replay} (hr : r.Abreast)
    (h : Replay.steps steps r = (.ok (), r')) :
    ∃ groups failures, r.Records steps groups failures r' := by
  induction steps generalizing r with
  | nil =>
    obtain rfl : r = r' := congrArg Prod.snd h
    exact ⟨[], [], .nil hr⟩
  | cons s steps ih =>
    rw [Replay.steps] at h
    split at h
    · next r₁ hstep =>
      obtain ⟨reports, e, failure, ht, hlog, hl⟩ := step_ok hr hstep
      obtain ⟨groups, failures, hrecords⟩ := ih ht.abreast h
      exact ⟨_, _, hrecords.cons hstep ht hlog hl⟩
    · cases h

/-- What the counters count at the end, if nothing was done before the steps but to
    install the recorder. A step makes at most two calls of the tracker. -/
theorem Records.recorded {r r' : Replay} {steps : List Step} {groups : List (List Entry × Entry)}
    {failures : List Failure} (h : r.Records steps groups failures r') {capacity : Nat}
    (hr : r.session.tracker = (Tracker.ofCapacity capacity).install .recorder) :
    ∃ n, r'.session.tracker.Recorded r'.session.heard n ∧ ∀ c, n c ≤ 2 * steps.length + 1 := by
  obtain ⟨calls, hkeeps, hcalls, htracker⟩ := h.tracker
  have hrecording := h.abreast.recording
  rw [htracker, hr] at hrecording
  obtain ⟨n, hn, hle⟩ := Tracker.recorded_run capacity hkeeps hrecording
  rw [← hr, ← htracker] at hn
  exact ⟨n, hn, fun c => Nat.le_trans (hle c) (Nat.succ_le_succ hcalls)⟩

/-! ## The start and the end -/

/-- The start of a replay installs the recorder and leaves one entry. -/
theorem start_ok {scenario : Scenario} {m : Emitter} {r : Replay}
    (h : start scenario m = (.ok (), r)) :
    ∃ e m', r =
      { session := (Session.ofSettings scenario.settings).install .recorder, emitter := m' } ∧
      m.Logged [e] m' ∧ e.event = "scenario.start" := by
  rw [start] at h
  obtain ⟨m', rfl, hm⟩ := write_ok h fun _ => ⟨rfl, rfl⟩
  exact ⟨_, m', rfl, hm, rfl⟩

/-- The end of a replay leaves the last entry, and gives the report. -/
theorem finish_ok {scenario : Scenario} {r : Replay} {report : Report}
    (h : (finish scenario r).1 = .ok report) :
    ∃ m, r.emitter.Logged [r.lastEntry] m ∧ finish scenario r = (.ok report, m) ∧
      report = r.reportWith scenario m := by
  rcases finish_cases scenario r with
    ⟨m, hw, hsequence, hok | ⟨fault, herror⟩⟩ | ⟨m, fault, -, herror⟩
  · rw [hok] at h
    cases h
    exact ⟨m, ⟨hw, hsequence, rfl⟩, hok, rfl⟩
  · rw [herror] at h
    cases h
  · rw [herror] at h
    cases h

end Replay

/-! ## The account -/

/-- The account that a log gives of a replay: its first entry, the entries of each
    step, and the last one. -/
structure Account (scenario : Scenario) (m : Emitter) (report : Report) (first : Entry)
    (groups : List (List Entry × Entry)) (last : Entry) : Prop where
  begins : first.event = "scenario.start"
  length : groups.length = scenario.steps.length
  leaves : ∀ k s g, scenario.steps[k]? = some s → groups[k]? = some g →
    (Replay.steps (scenario.steps.take k) (Replay.start scenario m).2).2.Leaves
      scenario.settings.mode k s (∃ f ∈ report.failures, f.step = k) g.1 g.2
  ends : last.event = "scenario.end"
  /-- The entries are numbered as the lines are. -/
  traceIds : ∀ n e, (first :: Replay.entries groups ++ [last])[n]? = some e →
    e.traceId =
      m.scenario ++ "::" ++ m.runId ++ "::" ++ String.ofList (paddedDecimal 3 (n + 1))
  lines : report.logLines = 2 + scenario.steps.length + report.invalidUses
  increasing : report.failures.Pairwise fun f f' => f.step < f'.step
  failed : ∀ f ∈ report.failures, ∃ s, scenario.steps[f.step]? = some s ∧ f.op = s.op.name
  passed_iff : report.passed = true ↔ report.failures = []
  last_iff : last.verdict = some .pass ↔ report.failures = []
  /-- The counters balance. They are exact unless a word is too small for them. -/
  counted : ∃ n : Counter → Nat, (∀ c, report.tally.get c = UInt64.ofNat (n c)) ∧
    (2 * scenario.steps.length + 1 < UInt64.size → ∀ c, (report.tally.get c).toNat = n c) ∧
    n .reportsDelivered = report.invalidUses ∧
    n .useAfterClose + n .unknownHandles = report.invalidUses ∧
    n .callbackFailures = 0 ∧
    n .registers = n .evictions + report.openReleased + report.quarantinedReleased

/-- A replay comes to its end through all its steps. -/
theorem run_ok {scenario : Scenario} {m : Emitter} {report : Report}
    (h : (scenario.run m).1 = .ok report) :
    ∃ r r', Replay.start scenario m = (.ok (), r) ∧
      Replay.steps scenario.steps r = (.ok (), r') ∧
      scenario.run m = Replay.finish scenario r' := by
  rw [run] at h ⊢
  split at h
  · cases h
  · next r hstart =>
    split at h
    · cases h
    · next r' hsteps => exact ⟨r, r', hstart, hsteps, rfl⟩

/-- The log of a replay that comes to its end is one account of it. -/
theorem run_account (scenario : Scenario) (name runId : String) (clock : Clock)
    (writeFault : Nat → Option FileFault) (flushFault : Option FileFault) (report : Report) :
    let m : Emitter := { scenario := name, runId, clock, medium := { writeFault, flushFault } }
    (scenario.run m).1 = .ok report →
    ∃ first groups last, Account scenario m report first groups last ∧
      (scenario.run m).2.medium.contents =
        logText (first :: Replay.entries groups ++ [last]) := by
  intro m h
  obtain ⟨r, r', hstart, hsteps, hrun⟩ := run_ok h
  rw [hrun] at h ⊢
  obtain ⟨first, m₁, hr, hfirst, hevent⟩ := Replay.start_ok hstart
  have hindex : r.index = 0 := by rw [hr]
  have hmode : r.session.mode = scenario.settings.mode := by rw [hr]; rfl
  have habreast : r.Abreast := by rw [hr]; exact ⟨rfl, rfl⟩
  obtain ⟨groups, failures, hrecords⟩ := Replay.steps_ok habreast hsteps
  obtain ⟨m', hlast, hfinish, rfl⟩ := Replay.finish_ok h
  -- The three parts of the log follow each other without a gap.
  have hlog : m.Logged (first :: Replay.entries groups ++ [r'.lastEntry]) m' := by
    have hrest := hrecords.logged.trans hlast
    rw [hr] at hrest
    exact hfirst.trans hrest
  have hfailures : (r'.reportWith scenario m').failures = failures := by
    refine hrecords.noted.trans ?_
    rw [hr]
    rfl
  have hheard : r'.session.heard.length = (groups.flatMap Prod.fst).length := by
    rw [hrecords.heard, hr]
    exact Nat.zero_add _
  refine ⟨first, groups, r'.lastEntry,
    ⟨hevent, hrecords.length, ?_, rfl, ?_, ?_, ?_, ?_, List.isEmpty_iff, ?_, ?_⟩, ?_⟩
  · intro k s g hs hg
    have hl := hrecords.leaves k s g hs hg
    rw [hindex, hmode, Nat.zero_add] at hl
    rw [hstart, hfailures]
    exact hl
  · intro n e he
    rw [hlog.traceId_eq he, Nat.add_comm]
    rfl
  · have hlines : (r'.reportWith scenario m').logLines =
        0 + (first :: Replay.entries groups ++ [r'.lastEntry]).length := hlog.lines
    have huses : (r'.reportWith scenario m').invalidUses = r'.session.heard.length := rfl
    rw [hlines, huses, hheard, List.length_append, List.length_cons, List.length_singleton,
      Replay.length_entries, hrecords.length]
    omega
  · exact hfailures ▸ hrecords.increasing
  · intro f hf
    obtain ⟨k, s, hk, hs, hop⟩ := hrecords.failed f (hfailures ▸ hf)
    rw [hindex, Nat.zero_add] at hk
    exact ⟨s, hk ▸ hs, hop⟩
  · have hverdict : r'.lastEntry.verdict =
        some (if r'.failures.isEmpty then .pass else .fail) := rfl
    rw [hverdict, ← List.isEmpty_iff]
    cases hempty : r'.failures.isEmpty <;> simp [Replay.reportWith, hempty]
  · -- The tracker began empty, with the recorder installed.
    have hinstalled : r.session.tracker =
        (Tracker.ofCapacity scenario.settings.capacity).install .recorder := by rw [hr]; rfl
    obtain ⟨n, hn, hle⟩ := hrecords.recorded hinstalled
    refine ⟨n, hn.tally, fun few c => ?_, hn.delivered, hn.uses, hn.callbackFailures, hn.registers⟩
    have hlt : n c < UInt64.size := Nat.lt_of_le_of_lt (hle c) few
    exact (congrArg UInt64.toNat (hn.tally c)).trans (UInt64.toNat_ofNat_of_lt' hlt)
  · rw [hfinish, hlog.contents]
    exact String.empty_append

/-- A handle is used after it was closed, and an id that never was. The replay goes on
    after the step that fails. -/
theorem run_account_misuse :
    let scenario : Scenario :=
      { name := "misuse", description := none, mode := none, queueMaxSize := none
        steps := [.openHandle "a" "x", .close "a" none, .dereference "a" none none,
          .duplicate "#9" "b", .newGeneration none none] }
    let m : Emitter :=
      { scenario := "misuse", runId := "1", clock := { reading := fun _ => ⟨0, 0⟩ } }
    ∃ report, (scenario.run m).1 = .ok report ∧ report.invalidUses = 2 ∧
      report.failures.map Failure.step = [3] ∧
      ∃ first groups last, Account scenario m report first groups last ∧
        (scenario.run m).2.medium.contents =
          logText (first :: Replay.entries groups ++ [last]) := by
  intro scenario m
  have hrun : (scenario.run m).1.toOption.map
      (fun report => (report.invalidUses, report.failures.map Failure.step)) = some (2, [3]) := by
    decide +kernel
  obtain ⟨report, hreport, hvalues⟩ := Option.map_eq_some_iff.1 hrun
  have hok : (scenario.run m).1 = .ok report := Except.eq_ok_of_toOption hreport
  obtain ⟨huses, hfailures⟩ := Prod.mk.inj hvalues
  -- With the emitter spelled out the two sides agree as terms, and no run is evaluated.
  subst m
  exact ⟨report, hok, huses, hfailures, run_account scenario "misuse" "1"
    { reading := fun _ => ⟨0, 0⟩ } (fun _ => none) none report hok⟩

end Scenario

end HandleWatch
