import HandleWatch.Capture
import HandleWatch.Proofs.SessionReports

/-!
# Captures split the reports of a session

A session makes a report for each invalid use, unless reports are off
(`Session.report?`), and it goes to the hook that is installed then. In a run with
captures (`CapturedSession.run`), the steps alone tell which of them is installed at
what time, if any is (`CapturedSession.installed`), and the calls alone tell which
report is made at what time (`CapturedSession.reportAt`). A capture has the reports of
the times at which it was installed:

* `CapturedSession.Holds`, `CapturedSession.Holds.run`: what the captures hold at the
  end of a run. As only the latest of them can be installed, each report of a time at
  which one is goes to the end of the last capture, and the others stay as they are;
* `CapturedSession.captures_split_reports`: so the captures, one after the other, are
  the reports that were made while one was installed, cut where another took its
  place.
-/

namespace HandleWatch

variable {α : Type}

namespace Capture

/-- What is asked of a capture agrees with the reports that it has: the counts by
    classification add up, the last report is the one at the end, and those since some
    time follow the ones before it. -/
structure Consistent (c : Capture) : Prop where
  length : c.count = c.reports.length
  counts : ∀ k, c.countOf k = (c.reports.filter (·.classification = k)).length
  count : c.count = c.countOf .useAfterClose + c.countOf .unknown
  valid : c.countOf .valid = 0
  last : c.last? = c.reports[c.count - 1]?
  since : ∀ n, c.reports.take n ++ c.since n = c.reports

/-- A capture is consistent if all its reports are on invalid uses. -/
theorem consistent_of_invalid {c : Capture} (h : ∀ use ∈ c.reports, use.classification ≠ .valid) :
    c.Consistent where
  length := rfl
  counts _ := List.countP_eq_length_filter
  count := by
    obtain ⟨reports⟩ := c
    -- Each report is counted under one of the two classifications, as it is not valid.
    induction reports with
    | nil => rfl
    | cons use reports ih =>
      obtain ⟨huse, hreports⟩ := List.forall_mem_cons.1 h
      have hcount := ih hreports
      simp only [count, countOf, List.length_cons, List.countP_cons] at hcount ⊢
      rcases hc : use.classification
      · exact absurd hc huse
      · simp only [reduceCtorEq, decide_true, decide_false, if_true, Bool.false_eq_true, if_false]
        omega
      · simp only [reduceCtorEq, decide_true, decide_false, if_true, Bool.false_eq_true, if_false]
        omega
  valid := List.countP_eq_zero.2 fun use huse => by simpa using h use huse
  last := List.getLast?_eq_getElem?
  since n := List.take_append_drop n c.reports

/-- Reports that come later are added to those since any earlier time. -/
theorem since_of_append {c c' : Capture} {later : List InvalidUse}
    (h : c'.reports = c.reports ++ later) {n : Nat} (hn : n ≤ c.count) :
    c'.since n = c.since n ++ c'.reports.drop c.count := by
  rw [since, since, h, List.drop_append_of_le_length hn, count, List.drop_left]

end Capture

namespace CapturedSession

/-! ## Runs -/

/-- A step of a run with captures. -/
inductive Step (α : Type) where
  /-- A call of the session, which may install another hook or remove the one that is. -/
  | call (call : Session.Call α)
  /-- Installing a new capture. -/
  | capture

namespace Step

/-- What a step is to the session. -/
def sessionCall : Step α → Session.Call α
  | call c => c
  | capture => .install .recorder

/-- How many captures there are after a step, and the number of the one that is
    installed, if one is; `before` tells the same of the time before it. -/
def installations (before : Nat × Option Nat) : Step α → Nat × Option Nat
  | capture => (before.1 + 1, some before.1)
  | call (.install _) | call .uninstall => (before.1, none)
  | call _ => before

/-- A call that leaves the hook in its place installs nothing. -/
theorem installations_of_keepsHook {call : Session.Call α} (hcall : call.KeepsHook)
    (before : Nat × Option Nat) : (Step.call call).installations before = before := by
  cases call with
  | install _ => exact hcall.elim
  | uninstall => exact hcall.elim
  | _ => rfl

end Step

/-- A session without captures. -/
def ofSettings (settings : Settings) : CapturedSession α where
  session := .ofSettings settings

/-- One step. -/
def perform (c : CapturedSession α) : Step α → CapturedSession α
  | .capture => c.capture
  | .call (.install hook) => c.install hook
  | .call .uninstall => c.uninstall
  | .call call => c.update (c.session.perform call).after

/-- The session and its captures after some steps. -/
def run (c : CapturedSession α) (steps : List (Step α)) : CapturedSession α :=
  steps.foldl perform c

/-- The captures that are left after the end of the session, which releases all
    referents. -/
def teardown (c : CapturedSession α) : List Capture :=
  (c.update { c.session with tracker := c.session.tracker.releaseAll.after }).captures

theorem run_append (c : CapturedSession α) (steps steps' : List (Step α)) :
    c.run (steps ++ steps') = (c.run steps).run steps' := List.foldl_append

theorem run_concat (c : CapturedSession α) (steps : List (Step α)) (step : Step α) :
    c.run (steps ++ [step]) = (c.run steps).perform step := c.run_append steps [step]

/-! ## Who is told what -/

/-- How many captures there are after some steps, and the number of the one that is
    installed, if one is. -/
def installations (steps : List (Step α)) : Nat × Option Nat :=
  steps.foldl Step.installations (0, none)

/-- The number of the capture that is installed after some steps, if one is. -/
def installed (steps : List (Step α)) : Option Nat := (installations steps).2

theorem installations_concat (steps : List (Step α)) (step : Step α) :
    installations (steps ++ [step]) = step.installations (installations steps) :=
  List.foldl_append

/-- The session before a step of a run. -/
def sessionAt (s : Session α) (steps : List (Step α)) (i : Nat) : Session α :=
  s.run ((steps.take i).map Step.sessionCall)

/-- The report that is made at a step of a run. -/
def reportAt (s : Session α) (steps : List (Step α)) (i : Nat) : Option InvalidUse :=
  steps[i]?.bind fun step => (sessionAt s steps i).report? step.sessionCall

/-- The reports that are made in a run while a condition holds of what is installed. -/
def reportsWhile (s : Session α) (steps : List (Step α)) (p : Option Nat → Bool) :
    List InvalidUse :=
  (List.range steps.length).filterMap fun i =>
    if p (installed (steps.take i)) then reportAt s steps i else none

/-- What was reported is not changed by later steps. -/
theorem reportAt_append (s : Session α) (steps later : List (Step α)) {i : Nat}
    (hi : i < steps.length) : reportAt s (steps ++ later) i = reportAt s steps i := by
  rw [reportAt, reportAt, sessionAt, sessionAt, List.getElem?_append_left hi,
    List.take_append_of_le_length (Nat.le_of_lt hi)]

theorem reportAt_length (s : Session α) (steps : List (Step α)) (step : Step α) :
    reportAt s (steps ++ [step]) steps.length =
      (s.run (steps.map Step.sessionCall)).report? step.sessionCall := by
  rw [reportAt, sessionAt, List.getElem?_concat_length, List.take_left]
  rfl

/-- One more step adds the report that it makes, if the condition holds then. -/
theorem reportsWhile_concat (s : Session α) (steps : List (Step α)) (step : Step α)
    (p : Option Nat → Bool) :
    reportsWhile s (steps ++ [step]) p = reportsWhile s steps p ++
      (if p (installed steps) then
        (s.run (steps.map Step.sessionCall)).report? step.sessionCall else none).toList := by
  have hbefore : (List.range steps.length).filterMap (fun i =>
      if p (installed ((steps ++ [step]).take i)) then reportAt s (steps ++ [step]) i else none) =
      reportsWhile s steps p := by
    refine List.filterMap_congr fun i hi => ?_
    have hlt : i < steps.length := List.mem_range.1 hi
    rw [reportAt_append s steps [step] hlt, List.take_append_of_le_length (Nat.le_of_lt hlt)]
  rw [reportsWhile, List.length_append, List.length_singleton, List.range_succ,
    List.filterMap_append, hbefore, List.filterMap_cons, List.filterMap_nil, List.take_left,
    reportAt_length]
  cases if p (installed steps) then
      (s.run (steps.map Step.sessionCall)).report? step.sessionCall else none with
  | none => rfl
  | some use => rfl

/-- All these reports are on invalid uses. -/
theorem classification_of_mem_reportsWhile {s : Session α} {steps : List (Step α)}
    {p : Option Nat → Bool} {use : InvalidUse} (h : use ∈ reportsWhile s steps p) :
    use.classification ≠ .valid := by
  obtain ⟨i, -, hi⟩ := List.mem_filterMap.1 h
  split_ifs at hi
  obtain ⟨step, -, hreport⟩ := Option.bind_eq_some_iff.1 hi
  obtain ⟨operation, -, hid, hclassification⟩ := Session.report?_eq_some hreport
  rw [hclassification]
  exact fun hvalid => hid (Tracker.classify_eq_valid_iff.1 hvalid)

/-! ## What the captures hold -/

/-- The captures of a run with these steps, in which the session began as `s`. -/
structure Holds (s : Session α) (steps : List (Step α)) (c : CapturedSession α) : Prop where
  session : c.session = s.run (steps.map Step.sessionCall)
  installations : (c.captures.length, c.active) = installations steps
  /-- Only the latest capture can be installed, and then it is a record of what the
      hook of the session heard. -/
  active : ∀ k, c.active = some k → ∃ earlier last, c.captures = earlier ++ [last] ∧
    k = earlier.length ∧ c.session.tracker.Recording last.reports
  reports : ∀ k, (c.get k).reports = reportsWhile s steps (· = some k)
  stream : c.captures.flatMap Capture.reports = reportsWhile s steps Option.isSome

/-- The capture of a number, if the last one is known. -/
theorem get_of_concat {c : CapturedSession α} {earlier : List Capture} {last : Capture}
    (h : c.captures = earlier ++ [last]) (k : Nat) :
    c.get k = if k = earlier.length then last else (earlier[k]?).getD {} := by
  rw [get, h]
  split_ifs with hk
  · rw [hk, List.getElem?_concat_length]
    rfl
  · rcases Nat.lt_or_gt_of_ne hk with hlt | hgt
    · rw [List.getElem?_append_left hlt]
    · have hlength : (earlier ++ [last]).length ≤ k := by
        rw [List.length_append]
        exact hgt
      rw [List.getElem?_eq_none hlength, List.getElem?_eq_none (Nat.le_of_lt hgt)]

namespace Holds

variable {s : Session α} {steps : List (Step α)} {c : CapturedSession α}

theorem start (settings : Settings) :
    Holds (.ofSettings settings) [] (ofSettings settings : CapturedSession α) :=
  ⟨rfl, rfl, by rintro _ ⟨⟩, fun _ => rfl, rfl⟩

theorem active_eq (h : Holds s steps c) : c.active = installed steps :=
  congrArg Prod.snd h.installations

/-- A step that uses no id is reported to nobody. -/
theorem of_use?_eq_none (h : Holds s steps c) {step : Step α}
    (hstep : step.sessionCall.use? = none) {c' : CapturedSession α}
    (hsession : c'.session = (c.session.perform step.sessionCall).after)
    (hinstallations : (c'.captures.length, c'.active) =
      step.installations (c.captures.length, c.active))
    (hactive : ∀ k, c'.active = some k → ∃ earlier last, c'.captures = earlier ++ [last] ∧
      k = earlier.length ∧ c'.session.tracker.Recording last.reports)
    (hreports : ∀ k, (c'.get k).reports = (c.get k).reports)
    (hstream : c'.captures.flatMap Capture.reports = c.captures.flatMap Capture.reports) :
    Holds s (steps ++ [step]) c' := by
  have hnone (p : Option Nat → Bool) :
      reportsWhile s (steps ++ [step]) p = reportsWhile s steps p := by
    rw [reportsWhile_concat, Session.report?_of_use?_eq_none _ hstep, ite_self]
    exact List.append_nil _
  refine ⟨?_, ?_, hactive, fun k => ?_, ?_⟩
  · rw [hsession, h.session, List.map_append, List.map_singleton, Session.run_concat]
  · rw [hinstallations, h.installations, installations_concat]
  · rw [hreports, h.reports, hnone]
  · rw [hstream, h.stream, hnone]

/-- A new capture is empty, and takes the place of the hook before it. -/
theorem capture (h : Holds s steps c) : Holds s (steps ++ [.capture]) c.capture := by
  refine h.of_use?_eq_none rfl rfl ?_ ?_ (fun k => ?_) ?_
  · rw [CapturedSession.capture, List.length_append]
    rfl
  · rintro _ ⟨⟩
    exact ⟨c.captures, {}, rfl, rfl, rfl⟩
  · rw [get_of_concat (c := c.capture) rfl]
    split_ifs with hk
    · rw [get, hk, List.getElem?_eq_none (Nat.le_refl _)]
      rfl
    · rfl
  · rw [CapturedSession.capture, List.flatMap_append]
    exact List.append_nil _

/-- Another hook is told from now on, and no capture. -/
theorem install (h : Holds s steps c) (hook : Hook InvalidUse) :
    Holds s (steps ++ [.call (.install hook)]) (c.install hook) :=
  h.of_use?_eq_none rfl rfl rfl (by rintro _ ⟨⟩) (fun _ => rfl) rfl

theorem uninstall (h : Holds s steps c) :
    Holds s (steps ++ [.call .uninstall]) c.uninstall :=
  h.of_use?_eq_none rfl rfl rfl (by rintro _ ⟨⟩) (fun _ => rfl) rfl

/-- A call that leaves the hook in its place is reported to it. -/
theorem update (h : Holds s steps c) {call : Session.Call α} (hcall : call.KeepsHook) :
    Holds s (steps ++ [.call call]) (c.update (c.session.perform call).after) := by
  have hreports (p : Option Nat → Bool) : reportsWhile s (steps ++ [.call call]) p =
      reportsWhile s steps p ++ (if p c.active then c.session.report? call else none).toList := by
    rw [reportsWhile_concat, h.active_eq, h.session]
    rfl
  have hsession : (c.session.perform call).after =
      s.run ((steps ++ [Step.call call]).map Step.sessionCall) := by
    rw [h.session, List.map_append, List.map_singleton, Session.run_concat]
    rfl
  have hinstallations : (c.captures.length, c.active) =
      CapturedSession.installations (steps ++ [.call call]) := by
    rw [installations_concat, ← h.installations, Step.installations_of_keepsHook hcall]
  -- With no capture installed nobody is told; otherwise the last capture is the one that is.
  cases hactive : c.active with
  | none =>
    have hupdate : c.update (c.session.perform call).after =
        { c with session := (c.session.perform call).after } := by
      rw [CapturedSession.update, hactive]
    rw [hupdate]
    rw [hactive] at hreports
    refine ⟨hsession, hinstallations, by simp [hactive], fun k => ?_, ?_⟩
    · exact (h.reports k).trans ((hreports _).trans (List.append_nil _)).symm
    · exact h.stream.trans ((hreports _).trans (List.append_nil _)).symm
  | some k =>
    obtain ⟨earlier, last, hcaptures, rfl, hrecording⟩ := h.active k hactive
    have hafter := Session.perform_recording hrecording hcall
    have hupdate : c.update (c.session.perform call).after =
        { c with
          session := (c.session.perform call).after
          captures := earlier ++ [⟨last.reports ++ (c.session.report? call).toList⟩] } := by
      rw [CapturedSession.update, hactive, hcaptures, Session.heard_of_recording hafter]
      simp
    rw [hupdate]
    refine ⟨hsession, ?_, ?_, fun j => ?_, ?_⟩
    · rw [← hinstallations, hcaptures, List.length_append, List.length_append]
      rfl
    · intro j hj
      cases hactive.symm.trans hj
      exact ⟨earlier, _, rfl, rfl, hafter⟩
    · rw [hreports, ← h.reports, get_of_concat rfl, get_of_concat hcaptures, hactive]
      by_cases hj : j = earlier.length
      · rw [if_pos hj, if_pos hj, if_pos (decide_eq_true (congrArg some hj.symm))]
      · have hne : ¬decide (some earlier.length = some j) = true := by simp [Ne.symm hj]
        rw [if_neg hj, if_neg hj, if_neg hne]
        exact (List.append_nil _).symm
    · rw [hreports, ← h.stream, hactive, hcaptures, List.flatMap_append, List.flatMap_append,
        List.append_assoc]
      simp

/-- One step: only what is installed hears of it. -/
theorem perform (h : Holds s steps c) (step : Step α) :
    Holds s (steps ++ [step]) (c.perform step) := by
  cases step with
  | capture => exact h.capture
  | call call =>
    cases call with
    | install hook => exact h.install hook
    | uninstall => exact h.uninstall
    | _ => exact h.update trivial

/-- The captures of a run hold what was reported while they were installed. -/
theorem run (h : Holds s steps c) (later : List (Step α)) :
    Holds s (steps ++ later) (c.run later) := by
  -- The steps are taken off from the end, as the captures tell of those before.
  induction later using List.reverseRecOn with
  | nil => exact (List.append_nil steps).symm ▸ h
  | append_singleton later step ih =>
    rw [run_concat, ← List.append_assoc]
    exact ih.perform step

/-- The end of the session leaves the captures as they are. -/
theorem teardown_eq (h : Holds s steps c) : c.teardown = c.captures := by
  rw [teardown, CapturedSession.update]
  split
  · next k hactive =>
    obtain ⟨earlier, last, hcaptures, rfl, hrecording⟩ := h.active k hactive
    have hheard : Session.heard { c.session with tracker := c.session.tracker.releaseAll.after } =
        last.reports := Session.heard_of_recording hrecording
    rw [hheard, hcaptures]
    simp
  · rfl

end Holds

/-! ## What becomes of a capture -/

/-- Later steps add reports to the earlier ones. -/
theorem reportsWhile_prefix (s : Session α) (steps later : List (Step α)) (p : Option Nat → Bool) :
    reportsWhile s steps p <+: reportsWhile s (steps ++ later) p := by
  induction later using List.reverseRecOn with
  | nil => exact (List.append_nil steps).symm ▸ List.prefix_rfl
  | append_singleton later step ih =>
    rw [← List.append_assoc, reportsWhile_concat]
    exact ih.trans (List.prefix_append _ _)

/-- A capture that is not installed any more is never installed again. -/
theorem Step.installations_ne {k : Nat} {before : Nat × Option Nat}
    (h : k < before.1 ∧ before.2 ≠ some k) (step : Step α) :
    k < (step.installations before).1 ∧ (step.installations before).2 ≠ some k := by
  cases step with
  | capture => exact ⟨Nat.lt_succ_of_lt h.1, fun hk => absurd (Option.some.inj hk) (by omega)⟩
  | call call =>
    cases call with
    | install _ => exact ⟨h.1, by rintro ⟨⟩⟩
    | uninstall => exact ⟨h.1, by rintro ⟨⟩⟩
    | _ => exact h

/-- A capture that is not installed any more is told no more. -/
theorem reportsWhile_append_of_ne (s : Session α) {steps : List (Step α)} {k : Nat}
    (h : k < (installations steps).1 ∧ installed steps ≠ some k) (later : List (Step α)) :
    reportsWhile s (steps ++ later) (· = some k) = reportsWhile s steps (· = some k) := by
  suffices (k < (installations (steps ++ later)).1 ∧ installed (steps ++ later) ≠ some k) ∧
      reportsWhile s (steps ++ later) (· = some k) = reportsWhile s steps (· = some k) from this.2
  induction later using List.reverseRecOn with
  | nil =>
    rw [List.append_nil]
    exact ⟨h, rfl⟩
  | append_singleton later step ih =>
    rw [← List.append_assoc, installed, installations_concat, reportsWhile_concat,
      decide_eq_false ih.1.2]
    exact ⟨step.installations_ne ih.1, (List.append_nil _).trans ih.2⟩

/-- The captures of a run split the reports that were made while one was installed: put
    one after the other they are all of them, in order, and each has those of the time
    at which it was installed. It only grows while it is, so that what it has since some
    time is added to, and once another hook has taken its place, or none, it stays as it
    is, whatever comes after; and so do all of them at the end of the session. -/
theorem captures_split_reports (settings : Settings) (steps : List (Step α)) :
    let s : Session α := .ofSettings settings
    let c := (ofSettings settings).run steps
    (c.captures.length, c.active) = installations steps ∧
      c.captures.flatMap Capture.reports = reportsWhile s steps Option.isSome ∧
      c.teardown = c.captures ∧
      ∀ k, (c.get k).reports = reportsWhile s steps (· = some k) ∧ (c.get k).Consistent ∧
        ∀ later,
          (∀ n ≤ (c.get k).count, ((c.run later).get k).since n =
            (c.get k).since n ++ ((c.run later).get k).reports.drop (c.get k).count) ∧
          (k < c.captures.length → installed steps ≠ some k → (c.run later).get k = c.get k) := by
  intro s c
  have hc : Holds s steps c := (Holds.start settings).run steps
  refine ⟨hc.installations, hc.stream, hc.teardown_eq, fun k => ⟨hc.reports k, ?_, fun later => ?_⟩⟩
  · refine Capture.consistent_of_invalid fun use huse => ?_
    rw [hc.reports] at huse
    exact classification_of_mem_reportsWhile huse
  · have hlater := hc.run later
    refine ⟨fun n hn => ?_, fun hk hinstalled => ?_⟩
    · -- While it is installed a capture is only added to.
      obtain ⟨new, hnew⟩ := reportsWhile_prefix s steps later (· = some k)
      rw [← hc.reports, ← hlater.reports] at hnew
      exact Capture.since_of_append hnew.symm hn
    · have hlength : c.captures.length = (installations steps).1 :=
        congrArg Prod.fst hc.installations
      have hreports := reportsWhile_append_of_ne s ⟨hlength ▸ hk, hinstalled⟩ later
      rw [← hc.reports, ← hlater.reports] at hreports
      exact congrArg Capture.mk hreports

end CapturedSession

end HandleWatch
