import HandleWatch.Proofs.BoundaryRun

/-!
# The codes at the boundary are truthful

A C program uses a handle in two ways (`Boundary.use`), and learns from the code what
the handle stands for. Dereferencing a handle looks at it twice, once to find the token
and once more for the code; both looks see the same (`Boundary.dereference_eq`). A use
of a handle that is not open is reported to the callback of the context, which may
object to it (`Session.Installed.codeOf_overruled`).

* `Boundary.codes_truthful`: after every run, a use of a handle gives the code of
  what the handle stands for, unless the callback objects to the report on it. The
  callback is given this report and no other.
-/

namespace HandleWatch

/-! ## Reports and codes -/

namespace Boundary

/-- The code of what a use of a handle comes to. -/
def codeOf : Outcome Classification → Int
  | .done classification => classification.code
  | _ => errorCode

/-- The codes of the interface. -/
theorem classification_code (c : Classification) :
    c.code = if c = .valid then 0 else if c = .useAfterClose then 1 else 2 := by
  cases c <;> rfl

theorem operation_code (operation : Operation) :
    operation.code = if operation = .close then 1 else 0 := by
  cases operation <;> rfl

theorem code_ne_errorCode (c : Classification) : c.code ≠ errorCode := by
  cases c <;> decide

/-- What a report says about the use of a handle that stands for `classification`. -/
structure Report.Describes (r : Report) (handle : UInt64) (classification : Classification)
    (operation : Operation) : Prop where
  handle_eq : r.handle = handle
  classification_eq : r.classification =
    if classification = .valid then 0 else if classification = .useAfterClose then 1 else 2
  operation_eq : r.operation = if operation = .close then 1 else 0
  hasProvenance_eq : r.hasProvenance = if classification = .useAfterClose then 1 else 0
  unknown : r.hasProvenance = 0 → r.generation = 0 ∧ r.sequence = 0

/-- The report that a callback is given describes the use of the handle. -/
theorem Report.ofUse_describes {t : Tracker UInt64} {handle : UInt64} {operation : Operation}
    {use : InvalidUse} (h : t.report? ⟨handle⟩ operation = some use) :
    (Report.ofUse use).Describes handle (t.classify ⟨handle⟩) operation := by
  obtain ⟨hid, hclassification, -⟩ := Tracker.report?_eq_some h
  obtain ⟨hoperation, hsequence, hgeneration⟩ := Tracker.report?_provenance h
  -- A report has a sequence number if and only if the handle was closed and is still known.
  rw [hclassification] at hsequence
  refine ⟨congrArg HandleId.raw hid, ?_, ?_, if_congr hsequence rfl rfl, ?_⟩
  · exact (congrArg Classification.code hclassification).trans (classification_code _)
  · exact (congrArg Operation.code hoperation).trans (operation_code _)
  · intro hnone
    cases hseq : use.sequence with
    | some n =>
      rw [ofUse, hseq] at hnone
      cases hnone
    | none =>
      rw [ofUse, hseq, hgeneration hseq]
      exact ⟨rfl, rfl⟩

end Boundary

/-- The call that a use of an id makes. -/
def Operation.use {α : Type} (operation : Operation) (id : HandleId) : Session.Call α :=
  match operation with
  | dereference => .dereference id
  | close => .close id

namespace Session

open Boundary

theorem report?_use {α : Type} (s : Session α) (operation : Operation) (id : HandleId) :
    s.report? (operation.use id) =
      if s.mode.validates then s.tracker.report? id operation else none := by
  cases operation <;> rfl

/-- A use is reported if reports are on and the id is not open. -/
theorem report?_use_isSome_iff {α : Type} (s : Session α) (operation : Operation)
    (id : HandleId) :
    (s.report? (operation.use id)).isSome ↔ s.mode = .report ∧ id ∉ s.tracker.table.ids := by
  have hopen : s.tracker.report? id operation = none ↔ id ∈ s.tracker.table.ids :=
    Tracker.report?_eq_none_iff
  rw [report?_use, ← hopen]
  cases s.mode with
  | off => simp [Mode.validates]
  | report => simp [Mode.validates, Option.isSome_iff_ne_none]

/-- The callback returns anything but zero for the report of a call. -/
def Refuses (s : Session UInt64) (callback : Option Callback) (call : Call UInt64) : Prop :=
  ∃ f ∈ callback, ∃ use ∈ s.report? call, f (s.heard.map .ofUse) (.ofUse use) ≠ 0

namespace Installed

variable {s : Session UInt64} {callback : Option Callback}

/-- The installed callback gives the answer to a report. -/
theorem answer?_eq (h : s.Installed callback) (use : InvalidUse) :
    s.tracker.answer? use = callback.map fun callback => callback.hook.answer s.heard use := by
  rw [Tracker.answer?, Sink.answer?, h, Option.map_map]
  rfl

/-- A call comes to its value, unless the callback objects to its report. -/
theorem codeOf_overruled (h : s.Installed callback) (call : Call UInt64)
    (classification : Classification) :
    (s.Refuses callback call ∧
      codeOf (s.overruled call (.done classification)) = errorCode) ∨
    (¬s.Refuses callback call ∧
      codeOf (s.overruled call (.done classification)) = classification.code) := by
  unfold overruled Refuses
  cases s.report? call with
  | none => simp [codeOf]
  | some use =>
    -- The hook refuses the report just if the callback does not return zero.
    simp only [h.answer?_eq]
    cases callback with
    | none => simp [InvalidUse.overrule, codeOf]
    | some f =>
      by_cases hcode : f (s.heard.map .ofUse) (.ofUse use) = 0
      · simp [Callback.hook, hcode, InvalidUse.overrule, codeOf]
      · simp [Callback.hook, hcode, InvalidUse.overrule, codeOf]

end Installed

end Session

namespace Boundary

/-! ## Uses -/

/-- A use of a handle: the code, and the boundary after it. -/
def use (b : Boundary) (context : Option Nat) (operation : Operation) (handle : UInt64) :
    Int × Boundary :=
  match operation with
  | .dereference => ((b.dereference context handle).1.1, (b.dereference context handle).2)
  | .close => b.close context handle

/-- The reports that the callback of a context was given. -/
def given (b : Boundary) (context : Option Nat) : List Report :=
  (b.session? context).elim [] fun s => s.heard.map .ofUse

section Uses

variable {b : Boundary} {k : Nat} {s : Session UInt64}

/-- What the callback was given is what the hook of the session heard. -/
theorem given_eq (live : b.session? (some k) = some s) :
    b.given (some k) = s.heard.map .ofUse := by
  rw [given, live, Option.elim_some]

/-- A use of a handle changes the session of the context. -/
theorem session?_use (live : b.session? (some k) = some s) (operation : Operation)
    (handle : UInt64) :
    (b.use (some k) operation handle).2.session? (some k) =
      some (s.perform (operation.use ⟨handle⟩)).after := by
  cases operation with
  | dereference => exact session?_perform_of_live live (.dereference (some k) handle) rfl
  | close => exact session?_perform_of_live live (.close (some k) handle) rfl

/-- A callback that is installed was not given any report yet. -/
theorem given_setCallback (live : b.session? (some k) = some s) (callback : Option Callback) :
    (b.setCallback (some k) callback).given (some k) = [] := by
  cases callback with
  | none => exact given_eq (session?_perform_of_live live (.setCallback (some k) none) rfl)
  | some f => exact given_eq (session?_perform_of_live live (.setCallback (some k) (some f)) rfl)

/-- Dereferencing a handle: the code is found by a second look at the handle, which
    has not changed since the first. -/
theorem dereference_eq (live : b.session? (some k) = some s) (handle : UInt64) :
    (b.dereference (some k) handle).1 =
      (codeOf (s.overruled (.dereference ⟨handle⟩) (.done (s.tracker.classify ⟨handle⟩))),
        (s.tracker.referent? ⟨handle⟩).map Referent.value) := by
  have houtcome := s.dereference_outcome ⟨handle⟩
  have hclassify : (s.dereference ⟨handle⟩).2.tracker.classify ⟨handle⟩ =
      s.tracker.classify ⟨handle⟩ :=
    congrArg (fun c : Session.Core UInt64 => c.quiet.tracker.classify ⟨handle⟩)
      (s.dereference_core ⟨handle⟩)
  simp only [dereference, live]
  cases hx : s.tracker.referent? ⟨handle⟩ with
  | some x =>
    have hid := Session.mem_of_referent? hx
    rw [hx, Session.overruled_of_mem rfl hid] at houtcome
    rw [houtcome, Session.overruled_of_mem rfl hid, Tracker.classify_eq_valid_iff.2 hid]
    rfl
  | none =>
    -- What the first look comes to depends on the callback in the same way as the code.
    have hplain : s.overruled (.dereference ⟨handle⟩) (.done (none : Option (Referent UInt64))) =
        (s.overruled (.dereference ⟨handle⟩) (.done (s.tracker.classify ⟨handle⟩))).map
          fun _ => none := by
      rw [Session.overruled_map]
      rfl
    rw [houtcome, hx, hplain, hclassify]
    rcases s.overruled_cases (.dereference ⟨handle⟩) (.done (s.tracker.classify ⟨handle⟩))
      with h | ⟨_, _, _, h⟩ | ⟨_, h⟩ <;> rw [h] <;> rfl

/-- The code of closing a handle is that of what it stands for, unless the callback objects.
    -/
theorem close_code (live : b.session? (some k) = some s) (handle : UInt64) :
    (b.close (some k) handle).1 =
      codeOf (s.overruled (.close ⟨handle⟩) (.done (s.tracker.classify ⟨handle⟩))) := by
  simp only [close, live]
  cases hr : s.tracker.table.remove? ⟨handle⟩ with
  | some found =>
    have hid := OpenTable.mem_ids_of_remove? hr
    rw [(Session.close_of_remove? hr).1, Session.overruled_of_mem rfl hid,
      Tracker.classify_eq_valid_iff.2 hid]
    rfl
  | none =>
    -- The outcome of closing a handle that is not open only wraps the classification.
    have hplain : s.overruled (.close ⟨handle⟩) (.done (.rejected (s.tracker.classify ⟨handle⟩))) =
        (s.overruled (.close ⟨handle⟩) (.done (s.tracker.classify ⟨handle⟩))).map
          CloseOutcome.rejected := by
      rw [Session.overruled_map]
      rfl
    rw [(Session.close_of_not_mem (OpenTable.remove?_eq_none_iff.1 hr)).1, hplain]
    rcases s.overruled_cases (.close ⟨handle⟩) (.done (s.tracker.classify ⟨handle⟩))
      with h | ⟨_, _, _, h⟩ | ⟨_, h⟩ <;> rw [h] <;> rfl

/-- A use of a handle comes to what the handle stands for, unless the callback
    objects. -/
theorem use_code (live : b.session? (some k) = some s) (operation : Operation) (handle : UInt64) :
    (b.use (some k) operation handle).1 =
      codeOf (s.overruled (operation.use ⟨handle⟩) (.done (s.tracker.classify ⟨handle⟩))) := by
  cases operation with
  | dereference => exact congrArg Prod.fst (dereference_eq live handle)
  | close => exact close_code live handle

end Uses

/-- What the use of a handle comes to in a live context with this callback, and
    the report on it, if there is one. -/
structure Used (b : Boundary) (k : Nat) (s : Session UInt64) (callback : Option Callback)
    (operation : Operation) (handle : UInt64) (report? : Option Report) : Prop where
  /-- A report is made if reports are on and the handle is not open. -/
  reports_iff : report?.isSome ↔ s.mode = .report ∧ ⟨handle⟩ ∉ s.tracker.table.ids
  describes : ∀ report ∈ report?, report.Describes handle (s.tracker.classify ⟨handle⟩) operation
  /-- The callback is given this report, and no other. -/
  given_eq : (b.use (some k) operation handle).2.given (some k) =
    b.given (some k) ++ (callback.bind fun _ => report?).toList
  error_iff : (b.use (some k) operation handle).1 = -1 ↔
    ∃ f ∈ callback, ∃ report ∈ report?, f (b.given (some k)) report ≠ 0
  code_eq : (b.use (some k) operation handle).1 ≠ -1 →
    (b.use (some k) operation handle).1 =
      if s.tracker.classify ⟨handle⟩ = .valid then 0
      else if s.tracker.classify ⟨handle⟩ = .useAfterClose then 1 else 2

/-- The calls that use no handle of a context and leave its callback in place. -/
def Call.Spares (k : Nat) : Call → Prop
  | .free context | .close context _ | .dereference context _ | .setCallback context _ =>
    context ≠ some k
  | _ => True

/-- Such a call does not use an id of the session either. -/
theorem Call.Spares.of_target? {call : Call} {k : Nat} {c : Session.Call UInt64}
    (hcall : call.Spares k) (htarget : call.target? = some (k, c)) :
    c.use? = none ∧ c.KeepsHook := by
  cases call with
  | openToken context _ | newGeneration context | resize context _ =>
    cases context with
    | none => cases htarget
    | some j =>
      cases htarget
      exact ⟨rfl, trivial⟩
  | close context _ | dereference context _ =>
    cases context with
    | none => cases htarget
    | some j =>
      cases htarget
      exact absurd rfl hcall
  | setCallback context callback =>
    cases context with
    | none => cases callback <;> cases htarget
    | some j => cases callback <;> cases htarget <;> exact absurd rfl hcall
  | _ => cases htarget

/-- What a C program is told in a live context is true. -/
structure Truthful (events : List Event) (b : Boundary) (k : Nat) (s : Session UInt64) :
    Prop where
  uses : ∀ operation handle, ∃ report?,
    b.Used k s (callbackOf k events) operation handle report?
  /-- A token is written if the code is zero. -/
  written_iff : ∀ handle,
    (b.dereference (some k) handle).1.2.isSome ↔ (b.dereference (some k) handle).1.1 = 0
  /-- It is the one for which the handle was returned last. -/
  written_eq : ∀ handle, ∀ token ∈ (b.dereference (some k) handle).1.2,
    tokenOf k handle events = some token
  /-- Other calls do not run the callback. -/
  spared : ∀ call : Call, call.Spares k → (b.perform call).2.given (some k) = b.given (some k)
  replaced : ∀ callback, (b.setCallback (some k) callback).given (some k) = []
  opened_ne : ∀ token, (b.openToken (some k) token).1 ≠ 0

namespace Live

variable {events : List Event} {b : Boundary} {k : Nat} {s : Session UInt64}

/-- What a use of a handle comes to, in the code it returns and in what the callback is
    given. -/
theorem used (h : Live events k s) (live : b.session? (some k) = some s) (operation : Operation)
    (handle : UInt64) :
    b.Used k s (callbackOf k events) operation handle
      ((s.report? (operation.use ⟨handle⟩)).map .ofUse) := by
  have hkeeps : (operation.use ⟨handle⟩ : Session.Call UInt64).KeepsHook := by
    cases operation <;> trivial
  have hrefuses : s.Refuses (callbackOf k events) (operation.use ⟨handle⟩) ↔
      ∃ f ∈ callbackOf k events, ∃ report ∈ (s.report? (operation.use ⟨handle⟩)).map .ofUse,
        f (b.given (some k)) report ≠ 0 := by
    simp [Session.Refuses, given_eq live]
  -- The code is the error code if the callback refuses the report, and that of the handle
  -- otherwise.
  have hcode := h.installed.codeOf_overruled (operation.use ⟨handle⟩)
    (s.tracker.classify ⟨handle⟩)
  rw [← use_code live, hrefuses] at hcode
  refine ⟨?_, ?_, ?_, ?_, ?_⟩
  · rw [Option.isSome_map]
    exact s.report?_use_isSome_iff operation ⟨handle⟩
  · intro report hreport
    obtain ⟨use, huse, rfl⟩ := Option.map_eq_some_iff.1 hreport
    rw [Session.report?_use] at huse
    exact Report.ofUse_describes (Option.ite_none_right_eq_some.1 huse).2
  · rw [given_eq live, given_eq (session?_use live operation handle),
      (h.installed.perform hkeeps).2, List.map_append]
    cases callbackOf k events with
    | none => rfl
    | some f => rw [Option.bind_some, Option.bind_some, Option.toList_map]
  · rcases hcode with ⟨hrefuses, herror⟩ | ⟨hnot, hcode⟩
    · exact iff_of_true herror hrefuses
    · exact iff_of_false (hcode.trans_ne (code_ne_errorCode _)) hnot
  · intro hne
    rcases hcode with ⟨-, herror⟩ | ⟨-, hcode⟩
    · exact absurd herror hne
    · rw [hcode, classification_code]

/-- A token is written for an open handle, and for no other. -/
theorem written (h : Live events k s) (live : b.session? (some k) = some s) (handle : UInt64) :
    ((b.dereference (some k) handle).1.2.isSome ↔ (b.dereference (some k) handle).1.1 = 0) ∧
      ∀ token ∈ (b.dereference (some k) handle).1.2, tokenOf k handle events = some token := by
  rw [dereference_eq live]
  cases hx : s.tracker.referent? ⟨handle⟩ with
  | some x =>
    have hid := Session.mem_of_referent? hx
    rw [Session.overruled_of_mem rfl hid, Tracker.classify_eq_valid_iff.2 hid]
    refine ⟨iff_of_true rfl rfl, ?_⟩
    rintro _ ⟨⟩
    obtain ⟨m, hm, htoken⟩ := h.tokens
    exact htoken ⟨handle⟩ x ((hm.referent ⟨handle⟩).symm.trans hx)
  | none =>
    have hid := Session.referent?_eq_none_iff.1 hx
    have hclassify := mt Tracker.classify_eq_valid_iff.1 hid
    refine ⟨iff_of_false (by rintro ⟨⟩) ?_, by rintro _ ⟨⟩⟩
    -- Neither the error code nor that of a handle which is not open is zero.
    rcases h.installed.codeOf_overruled (.dereference ⟨handle⟩) (s.tracker.classify ⟨handle⟩)
      with ⟨-, hcode⟩ | ⟨-, hcode⟩ <;> rw [hcode]
    · decide
    · cases hc : s.tracker.classify ⟨handle⟩ with
      | valid => exact absurd hc hclassify
      | useAfterClose => decide
      | unknown => decide

/-- A call that uses no handle of the context makes no report to its callback. -/
theorem given_of_spares (h : Live events k s) (live : b.session? (some k) = some s) {call : Call}
    (hcall : call.Spares k) : (b.perform call).2.given (some k) = b.given (some k) := by
  rw [given_eq live]
  by_cases htarget : ∃ c, call.target? = some (k, c)
  · obtain ⟨c, htarget⟩ := htarget
    obtain ⟨huse, hkeeps⟩ := hcall.of_target? htarget
    rw [given_eq (session?_perform_of_live live call htarget), (h.installed.perform hkeeps).2,
      s.report?_of_use?_eq_none huse, Option.bind_fun_none, Option.toList_none, List.append_nil]
  · have hfree : call ≠ .free (some k) := by
      rintro rfl
      exact hcall rfl
    have hnew : ∀ settings size, call = .new settings size → k ≠ b.contexts.length :=
      fun _ _ _ => (lt_length_of_session? live).ne
    rw [given, session?_perform_of_aside (not_exists.1 htarget) hfree hnew]
    exact given_eq live

end Live

/-- After every run, what a C program is told in a live context is true, as long as
    the ids of the context do not run out. -/
theorem codes_truthful (calls : List Call) {k : Nat} {s : Session UInt64}
    (live : (run {} calls).session? (some k) = some s) (few : s.ids.issued < UInt64.size - 1) :
    Truthful (history {} calls) (run {} calls) k s := by
  have h := live_run calls live few
  exact
    { uses := fun operation handle => ⟨_, h.used live operation handle⟩
      written_iff := fun handle => (h.written live handle).1
      written_eq := fun handle => (h.written live handle).2
      spared := fun call hcall => h.given_of_spares live hcall
      replaced := given_setCallback live
      opened_ne := fun token hnull => by
        rw [h.openToken_eq few live] at hnull
        exact (h.openHandle_outcome few ⟨token, none⟩).2 (congrArg HandleId.mk hnull) }

/-- A context that keeps no closed handle: the handle is unknown as soon as it is
    closed, and the callback, which accepts a report on closing it and one on
    dereferencing it, objects to the next use of one. -/
theorem codes_truthful_without_quarantine :
    let calls : List Call :=
      [.new ⟨.report, 5⟩ 0, .openToken (some 0) 77, .openToken (some 0) 78,
        .setCallback (some 0) (some fun earlier _ => earlier.length / 2), .close (some 0) 1,
        .close (some 0) 1, .dereference (some 0) 1, .openToken (some 0) 79, .close (some 0) 2]
    let b := run {} calls
    ∃ s, b.session? (some 0) = some s ∧ s.ids.issued = 2 ∧ Truthful (history {} calls) b 0 s ∧
      (b.dereference (some 0) 1).1 = (0, some 79) ∧ (b.dereference (some 0) 2).1 = (-1, none) ∧
      b.given (some 0) = [⟨1, 2, 1, 0, 0, 0⟩, ⟨1, 2, 0, 0, 0, 0⟩] := by
  intro calls b
  have hissued : (b.session? (some 0)).map (·.ids.issued) = some 2 := by decide +kernel
  obtain ⟨s, live, hs⟩ := Option.map_eq_some_iff.1 hissued
  have few : s.ids.issued < UInt64.size - 1 := by
    rw [hs]
    decide
  exact ⟨s, live, hs, codes_truthful calls live few, by decide +kernel, by decide +kernel,
    by decide +kernel⟩

end Boundary

end HandleWatch
