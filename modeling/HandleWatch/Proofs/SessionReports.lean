import HandleWatch.Proofs.Balance
import HandleWatch.Proofs.SessionRun

/-!
# What a session reports

A call of a session makes a few calls of its tracker (`Session.trackerCalls`,
`Session.perform_tracker`), and these make the report of the call, if it is to
make one. Unless a call changes the hook, the sink is told this report and nothing
else:

* `Session.perform_sink`: the sink of a session, after a call;
* `Session.perform_recording`: what a recorder heard, after a call. It accepts every
  report.
-/

namespace HandleWatch

/-! ## Recorders -/

namespace Tracker

variable {α : Type}

/-- The calls that leave the installed hook in its place. -/
def Call.KeepsHook : Call α → Prop
  | .install _ | .uninstall => False
  | _ => True

/-- A recorder is installed, and has heard these reports. -/
def Recording (t : Tracker α) (heard : List InvalidUse) : Prop :=
  t.sink.hook = some { Hook.recorder with heard }

theorem reportOf?_eq {t : Tracker α} {call : Call α} {id : HandleId} {operation : Operation}
    (hcall : call.use? = some (id, operation)) :
    t.reportOf? call = (t.report? id operation).map fun use => (use, t.answer? use) := by
  rw [reportOf?, hcall, Option.bind_some]

/-- The sink after a call: it is told of the report that the call makes. -/
theorem perform_sink (t : Tracker α) {call : Call α} (hcall : call.KeepsHook) :
    (t.perform call).after.sink =
      (t.reportOf? call).elim t.sink fun report => t.sink.told report.1 := by
  -- Only a close and a check can make a report, and they do if the id is not open.
  cases call with
  | register id x =>
    simp only [perform, register, Transition.map]
    cases t.table.insert? id x t.generation with
    | some opened => rfl
    | none => cases x.failure <;> rfl
  | close id =>
    rw [reportOf?_eq rfl]
    cases huse : t.report? id .close with
    | some use => exact congrArg (·.after.sink) (perform_of_report? huse)
    | none =>
      have hid := report?_eq_none_iff.1 huse
      obtain ⟨found, hr⟩ : ∃ found, t.table.remove? id = some found :=
        Option.ne_none_iff_exists'.1 fun h => OpenTable.remove?_eq_none_iff.1 h hid
      rw [perform_close_of_remove? hr]
      rfl
  | validate id =>
    rw [reportOf?_eq rfl]
    cases huse : t.report? id .dereference with
    | some use => exact congrArg (·.after.sink) (perform_of_report? huse)
    | none =>
      rw [perform_validate_of_mem (report?_eq_none_iff.1 huse)]
      rfl
  | install _ => exact hcall.elim
  | uninstall => exact hcall.elim
  | _ => rfl

/-- The reports of a run are the report of its first call and those of the others. -/
theorem reports_cons (t : Tracker α) (call : Call α) (calls : List (Call α)) :
    reports (t.steps (call :: calls)) =
      (t.reportOf? call).toList ++ reports ((t.perform call).after.steps calls) := by
  cases hreport : t.reportOf? call <;> simp [reports, steps, hreport]

theorem run_append (t : Tracker α) (calls calls' : List (Call α)) :
    t.run (calls ++ calls') = (t.run calls).run calls' :=
  List.foldl_append

/-- The sink after a run: it is told of the reports that the run makes. -/
theorem run_sink (t : Tracker α) {calls : List (Call α)} (hcalls : ∀ call ∈ calls, call.KeepsHook) :
    (t.run calls).sink = ((reports (t.steps calls)).map Prod.fst).foldl Sink.told t.sink := by
  induction calls generalizing t with
  | nil => rfl
  | cons call calls ih =>
    obtain ⟨hcall, hcalls⟩ := List.forall_mem_cons.1 hcalls
    rw [reports_cons, List.map_append, List.foldl_append]
    refine (ih (t.perform call).after hcalls).trans ?_
    rw [t.perform_sink hcall]
    cases t.reportOf? call <;> rfl

namespace Recording

variable {t : Tracker α} {heard : List InvalidUse}

/-- A recorder accepts whatever it is told. -/
theorem answer?_eq (h : t.Recording heard) (use : InvalidUse) : t.answer? use = some .accept := by
  rw [answer?, Sink.answer?, h]
  rfl

/-- A recorder has heard one report more, if the call makes one. -/
theorem perform (h : t.Recording heard) {call : Call α} (hcall : call.KeepsHook) :
    (t.perform call).after.Recording (heard ++ ((t.reportOf? call).map Prod.fst).toList) := by
  rw [Recording, perform_sink t hcall]
  cases t.reportOf? call with
  | none =>
    rw [Option.map_none, Option.toList_none, List.append_nil]
    exact h
  | some report => exact congrArg (Option.map (·.hear report.1)) h

/-- After a run, the recorder has heard the reports of the run besides. It accepted
    all of them. -/
theorem run (h : t.Recording heard) {calls : List (Call α)}
    (hcalls : ∀ call ∈ calls, call.KeepsHook) :
    (t.run calls).Recording (heard ++ (reports (t.steps calls)).map Prod.fst) ∧
      ∀ report ∈ reports (t.steps calls), report.2 = some .accept := by
  induction calls generalizing t heard with
  | nil => exact ⟨(List.append_nil heard).symm ▸ h, List.forall_mem_nil _⟩
  | cons call calls ih =>
    obtain ⟨hcall, hcalls⟩ := List.forall_mem_cons.1 hcalls
    obtain ⟨hrun, haccept⟩ := ih (h.perform hcall) hcalls
    have hfirst : ∀ report ∈ (t.reportOf? call).toList, report.2 = some .accept := by
      intro report hreport
      obtain ⟨use, -, rfl⟩ := Option.map_eq_some_iff.1 (Option.mem_toList.1 hreport)
      exact h.answer?_eq use
    rw [reports_cons]
    refine ⟨?_, List.forall_mem_append.2 ⟨hfirst, haccept⟩⟩
    rw [List.map_append, ← List.append_assoc]
    rw [Option.toList_map] at hrun
    exact hrun

end Recording

end Tracker

/-! ## Sessions -/

namespace Session

variable {α : Type}

/-- The calls of the tracker that a call of a session makes. -/
def trackerCalls (s : Session α) : Call α → List (Tracker.Call α)
  | .openHandle x => [.register s.ids.allocate.1 x]
  | .close id => if s.mode.validates || s.tracker.table.has id then [.close id] else []
  | .dereference id | .validate id => if s.mode.validates then [.validate id] else []
  | .duplicate id =>
    (if s.mode.validates then [.validate id] else []) ++
      (s.tracker.referent? id).toList.map fun x => .register s.ids.allocate.1 x
  | .newGeneration => [.newGeneration]
  | .resize size => [.resize size]
  | .install hook => [.install hook]
  | .uninstall => [.uninstall]
  | .openRecords _ | .closedRecords | .capacity => []

theorem validate_tracker (s : Session α) (id : HandleId) :
    (s.validate id).2.tracker = s.tracker.run (s.trackerCalls (.validate id)) := by
  rw [validate, trackerCalls]
  split <;> rfl

/-- The session after a handle was duplicated, whether or not a hook objects. -/
theorem duplicate_after (s : Session α) (id : HandleId) :
    (s.duplicate id).after =
      match s.tracker.referent? id with
      | some x => ((s.dereference id).2.openHandle x).after
      | none => (s.dereference id).2 := by
  have houtcome := s.dereference_outcome id
  rcases hstep : s.dereference id with ⟨outcome, after⟩
  rw [hstep] at houtcome
  cases hx : s.tracker.referent? id with
  | some x =>
    rw [hx, overruled_of_mem rfl (mem_of_referent? hx)] at houtcome
    cases houtcome
    rw [duplicate, hstep]
  | none =>
    rw [hx] at houtcome
    rcases s.overruled_cases (.dereference id) (.done (none : Option (Referent α)))
      with h | ⟨_, _, _, h⟩ | ⟨_, h⟩ <;> cases houtcome.trans h <;> rw [duplicate, hstep]

theorem duplicate_tracker (s : Session α) (id : HandleId) :
    (s.duplicate id).after.tracker = s.tracker.run (s.trackerCalls (.duplicate id)) := by
  have hids : (s.dereference id).2.ids = s.ids := congrArg Core.ids (s.dereference_core id)
  have hcheck : (s.dereference id).2.tracker = s.tracker.run (s.trackerCalls (.validate id)) :=
    s.validate_tracker id
  rw [duplicate_after, trackerCalls, Tracker.run_append]
  cases s.tracker.referent? id with
  | some x =>
    have hopen : ((s.dereference id).2.openHandle x).after.tracker =
        ((s.dereference id).2.tracker.register (s.dereference id).2.ids.allocate.1 x).after := rfl
    exact hopen.trans (by rw [hids, hcheck]; rfl)
  | none => exact hcheck

/-- A call of a session is a run of its tracker. -/
theorem perform_tracker (s : Session α) (call : Call α) :
    (s.perform call).after.tracker = s.tracker.run (s.trackerCalls call) := by
  cases call with
  | close id =>
    simp only [perform, close, trackerCalls]
    cases s.mode.validates <;> cases s.tracker.table.has id <;> rfl
  | dereference id => exact s.validate_tracker id
  | validate id => exact s.validate_tracker id
  | duplicate id => exact s.duplicate_tracker id
  | _ => rfl

theorem validate_mode (s : Session α) (id : HandleId) : (s.validate id).2.mode = s.mode := by
  rw [validate]
  split <;> rfl

/-- No call changes the mode. -/
theorem perform_mode (s : Session α) (call : Call α) : (s.perform call).after.mode = s.mode := by
  cases call with
  | close id =>
    simp only [perform, close]
    split <;> rfl
  | dereference id => exact s.validate_mode id
  | validate id => exact s.validate_mode id
  | duplicate id =>
    have hafter : (s.perform (.duplicate id)).after = _ := s.duplicate_after id
    rw [hafter]
    split <;> exact s.validate_mode id
  | _ => rfl

/-- The calls that leave the installed hook in its place. -/
def Call.KeepsHook : Call α → Prop
  | .install _ | .uninstall => False
  | _ => True

/-- A call that leaves the hook alone does so in all its calls of the tracker. -/
theorem trackerCalls_keepsHook (s : Session α) {call : Call α} (hcall : call.KeepsHook) :
    ∀ c ∈ s.trackerCalls call, c.KeepsHook := by
  have hcheck : ∀ (b : Bool) (c : Tracker.Call α), c.KeepsHook →
      ∀ c' ∈ (if b then [c] else []), c'.KeepsHook := by
    rintro (_ | _) c hc
    · exact List.forall_mem_nil _
    · exact List.forall_mem_singleton.2 hc
  cases call with
  | close id => exact hcheck _ _ trivial
  | dereference id => exact hcheck _ _ trivial
  | validate id => exact hcheck _ _ trivial
  | duplicate id =>
    refine List.forall_mem_append.2 ⟨hcheck _ _ trivial, List.forall_mem_map.2 fun x _ => trivial⟩
  | install _ => exact hcall.elim
  | uninstall => exact hcall.elim
  | openRecords _ => exact List.forall_mem_nil _
  | closedRecords => exact List.forall_mem_nil _
  | capacity => exact List.forall_mem_nil _
  | _ => exact List.forall_mem_singleton.2 trivial

/-- A call of a session makes two calls of the tracker at most. -/
theorem length_trackerCalls_le (s : Session α) (call : Call α) :
    (s.trackerCalls call).length ≤ 2 := by
  have hcheck (b : Bool) (c : Tracker.Call α) : (if b then [c] else []).length ≤ 1 := by
    cases b <;> simp
  cases call with
  | close id => exact Nat.le_succ_of_le (hcheck _ _)
  | dereference id => exact Nat.le_succ_of_le (hcheck _ _)
  | validate id => exact Nat.le_succ_of_le (hcheck _ _)
  | duplicate id =>
    rw [trackerCalls, List.length_append, List.length_map]
    exact Nat.add_le_add (hcheck _ _) Option.length_toList_le
  | _ => simp [trackerCalls]

theorem report?_of_use?_eq_none (s : Session α) {call : Call α} (hcall : call.use? = none) :
    s.report? call = none := by
  rw [report?, hcall, Option.bind_none, ite_self]

/-- The tracker makes the report of a call of the session. -/
theorem reports_trackerCalls (s : Session α) (call : Call α) :
    (Tracker.reports (s.tracker.steps (s.trackerCalls call))).map Prod.fst =
      (s.report? call).toList := by
  have huse {c : Tracker.Call α} {id : HandleId} {operation : Operation}
      (hc : c.use? = some (id, operation)) (calls : List (Tracker.Call α)) :
      (Tracker.reports (s.tracker.steps (c :: calls))).map Prod.fst =
        (s.tracker.report? id operation).toList ++
          (Tracker.reports ((s.tracker.perform c).after.steps calls)).map Prod.fst := by
    rw [Tracker.reports_cons, Tracker.reportOf?_eq hc, List.map_append, ← Option.toList_map,
      Option.map_map, Function.comp_def, Option.map_id']
  cases call with
  | close id =>
    rw [trackerCalls, report?]
    cases hmode : s.mode.validates with
    | true => exact (huse rfl []).trans (List.append_nil _)
    | false =>
      cases hhas : s.tracker.table.has id with
      | false => rfl
      | true =>
        -- The id is open, so there is nothing to report.
        refine (huse rfl []).trans ?_
        rw [Tracker.report?_eq_none_iff.2 (OpenTable.has_iff.1 hhas)]
        rfl
  | dereference id =>
    rw [trackerCalls, report?]
    split
    · exact (huse rfl []).trans (List.append_nil _)
    · rfl
  | validate id =>
    rw [trackerCalls, report?]
    split
    · exact (huse rfl []).trans (List.append_nil _)
    · rfl
  | duplicate id =>
    have hopen (t : Tracker α) : Tracker.reports (t.steps
        ((s.tracker.referent? id).toList.map fun x => .register s.ids.allocate.1 x)) = [] := by
      cases s.tracker.referent? id <;> rfl
    rw [trackerCalls, report?]
    split
    · rw [List.singleton_append, huse rfl, hopen]
      exact List.append_nil _
    · rw [List.nil_append, hopen]
      rfl
  | _ =>
    rw [report?_of_use?_eq_none s rfl]
    rfl

/-- The sink after a call: it is told of the report that the call makes. -/
theorem perform_sink (s : Session α) {call : Call α} (hcall : call.KeepsHook) :
    (s.perform call).after.tracker.sink =
      (s.report? call).elim s.tracker.sink s.tracker.sink.told := by
  rw [perform_tracker, Tracker.run_sink _ (s.trackerCalls_keepsHook hcall), reports_trackerCalls]
  cases s.report? call <;> rfl

/-- A call adds the report that it makes to what the recorder heard. -/
theorem perform_recording {s : Session α} {heard : List InvalidUse}
    (h : s.tracker.Recording heard) {call : Call α} (hcall : call.KeepsHook) :
    (s.perform call).after.tracker.Recording (heard ++ (s.report? call).toList) := by
  rw [perform_tracker, ← reports_trackerCalls]
  exact (h.run (s.trackerCalls_keepsHook hcall)).1

theorem heard_of_recording {s : Session α} {heard : List InvalidUse}
    (h : s.tracker.Recording heard) : s.heard = heard := by
  rw [Session.heard, h]

end Session

end HandleWatch
