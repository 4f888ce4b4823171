import HandleWatch.Boundary
import HandleWatch.Proofs.Bindings
import HandleWatch.Proofs.SessionReports

/-!
# Runs at the boundary

A C program makes calls with any contexts, handles and callbacks
(`Boundary.Call`, `Boundary.run`), and what it was told is the history of the run
(`Boundary.history`). A context that is live after a call is new, or its session has
made the call, or the call did not concern it (`Boundary.perform_became`).

The history tells which token a handle was returned for (`Boundary.tokenOf`) and which
callback is installed in a context (`Boundary.callbackOf`). The session of a live
context agrees with both (`Boundary.Live`), as every call keeps them together:

* `Boundary.live_run`: this holds of every context that is live after a run, as long
  as its ids do not run out.
-/

namespace HandleWatch

/-! ## Callbacks -/

namespace Session

open Boundary

/-- The callback is installed in a session, or there is none. -/
def Installed (s : Session UInt64) (callback : Option Callback) : Prop :=
  s.tracker.sink.hook = callback.map fun callback => { callback.hook with heard := s.heard }

/-- A call leaves the callback in its place, and the callback is given its report. -/
theorem Installed.perform {s : Session UInt64} {callback : Option Callback}
    (h : s.Installed callback) {call : Call UInt64} (hcall : call.KeepsHook) :
    (s.perform call).after.Installed callback ∧
      (s.perform call).after.heard =
        s.heard ++ (callback.bind fun _ => s.report? call).toList := by
  have hsink := s.perform_sink hcall
  -- The sink is told of the report either way, but only a callback keeps what it hears.
  cases callback with
  | none =>
    have hhook : (s.perform call).after.tracker.sink.hook = none := by
      rw [hsink]
      cases s.report? call with
      | none => exact h
      | some use => exact congrArg (Option.map (·.hear use)) h
    exact ⟨hhook, by rw [heard, heard, hhook, h]; rfl⟩
  | some f =>
    have hhook : (s.perform call).after.tracker.sink.hook =
        some { f.hook with heard := s.heard ++ (s.report? call).toList } := by
      rw [hsink]
      cases s.report? call with
      | none =>
        rw [Option.toList_none, List.append_nil]
        exact h
      | some use => exact congrArg (Option.map (·.hear use)) h
    have hheard : (s.perform call).after.heard = s.heard ++ (s.report? call).toList := by
      rw [heard, hhook]
    exact ⟨hhook.trans (by rw [hheard]; rfl), hheard⟩

end Session

namespace Boundary

/-! ## Runs -/

/-- The calls of a C program. -/
inductive Call where
  | new (settings : Settings) (size : Int)
  | free (context : Option Nat)
  | openToken (context : Option Nat) (token : UInt64)
  | close (context : Option Nat) (handle : UInt64)
  | dereference (context : Option Nat) (handle : UInt64)
  | newGeneration (context : Option Nat)
  | capacity (context : Option Nat)
  | resize (context : Option Nat) (size : Int)
  | setCallback (context : Option Nat) (callback : Option Callback)

/-- What a C program is told by a call. -/
inductive Reply where
  | context (context : Nat)
  | handle (handle : UInt64)
  | code (code : Int)
  | token (code : Int) (token : Option UInt64)
  | generation (generation : Generation)
  | capacity (capacity : Nat)
  | unit

/-- One call. -/
def perform (b : Boundary) : Call → Reply × Boundary
  | .new settings size => (b.new settings size).map .context id
  | .free context => (.unit, b.free context)
  | .openToken context token => (b.openToken context token).map .handle id
  | .close context handle => (b.close context handle).map .code id
  | .dereference context handle =>
    (b.dereference context handle).map (fun (code, token) => .token code token) id
  | .newGeneration context => (b.newGeneration context).map .generation id
  | .capacity context => (.capacity (b.capacity context), b)
  | .resize context size => (.unit, b.resize context size)
  | .setCallback context callback => (.unit, b.setCallback context callback)

/-- A call and what it told. -/
structure Event where
  call : Call
  reply : Reply

/-- The boundary after some calls. -/
def run (b : Boundary) (calls : List Call) : Boundary :=
  calls.foldl (fun b call => (b.perform call).2) b

/-- The calls of a run with what they told. -/
def history (b : Boundary) : List Call → List Event
  | [] => []
  | call :: calls => ⟨call, (b.perform call).1⟩ :: (b.perform call).2.history calls

theorem run_concat (b : Boundary) (calls : List Call) (call : Call) :
    b.run (calls ++ [call]) = ((b.run calls).perform call).2 := by
  rw [run, List.foldl_append]
  rfl

theorem history_concat (b : Boundary) (calls : List Call) (call : Call) :
    b.history (calls ++ [call]) = b.history calls ++ [⟨call, ((b.run calls).perform call).1⟩] := by
  induction calls generalizing b with
  | nil => rfl
  | cons first calls ih => exact congrArg _ (ih (b.perform first).2)

/-! ## What a history tells -/

/-- The token of a handle after an event: the one for which the event returned the
    handle, or the token that it had. -/
def Event.token (context : Nat) (handle : UInt64) (token : Option UInt64) :
    Event → Option UInt64
  | ⟨.openToken (some k) new, .handle h⟩ => if k = context ∧ h = handle then some new else token
  | _ => token

/-- The token for which a handle was returned last. -/
def tokenOf (context : Nat) (handle : UInt64) (events : List Event) : Option UInt64 :=
  events.foldl (Event.token context handle) none

/-- The callback of a context after an event. -/
def Event.callback (context : Nat) (callback : Option Callback) : Event → Option Callback
  | ⟨.new _ _, .context k⟩ => if k = context then none else callback
  | ⟨.setCallback (some k) new, _⟩ => if k = context then new else callback
  | _ => callback

/-- The callback that was installed in a context last, and not removed. -/
def callbackOf (context : Nat) (events : List Event) : Option Callback :=
  events.foldl (Event.callback context) none

theorem tokenOf_concat (context : Nat) (handle : UInt64) (events : List Event) (e : Event) :
    tokenOf context handle (events ++ [e]) =
      e.token context handle (tokenOf context handle events) := by
  rw [tokenOf, List.foldl_append]
  rfl

theorem callbackOf_concat (context : Nat) (events : List Event) (e : Event) :
    callbackOf context (events ++ [e]) = e.callback context (callbackOf context events) := by
  rw [callbackOf, List.foldl_append]
  rfl

/-! ## What a call does to a context -/

/-- The context that a call may change, and the call that its session makes. -/
def Call.target? : Call → Option (Nat × Session.Call UInt64)
  | .openToken (some k) token => some (k, .openHandle ⟨token, none⟩)
  | .close (some k) handle => some (k, .close ⟨handle⟩)
  | .dereference (some k) handle => some (k, .dereference ⟨handle⟩)
  | .newGeneration (some k) => some (k, .newGeneration)
  | .resize (some k) size => some (k, .resize size)
  | .setCallback (some k) (some callback) => some (k, .install callback.hook)
  | .setCallback (some k) none => some (k, .uninstall)
  | _ => none

theorem session?_some (b : Boundary) (k : Nat) : b.session? (some k) = b.contexts[k]?.join := by
  have hbind : b.session? (some k) = b.contexts[k]?.bind id := rfl
  rw [hbind, Option.bind_id_eq_join]

/-- A live context is one that was made. -/
theorem lt_length_of_session? {b : Boundary} {k : Nat} {s : Session UInt64}
    (h : b.session? (some k) = some s) : k < b.contexts.length := by
  by_contra hlt
  rw [session?_some, List.getElem?_eq_none (Nat.le_of_not_lt hlt)] at h
  cases h

/-- Setting a context leaves the others as they are. -/
theorem session?_set_of_ne (b : Boundary) {j k : Nat} (hne : j ≠ k)
    (session : Option (Session UInt64)) :
    (b.set (some j) session).session? (some k) = b.session? (some k) := by
  rw [session?_some, session?_some, set, List.getElem?_set_ne hne]

theorem session?_set_self {b : Boundary} {k : Nat} (hk : k < b.contexts.length)
    (session : Option (Session UInt64)) :
    (b.set (some k) session).session? (some k) = session := by
  rw [session?_some, set, List.getElem?_set_self hk]
  rfl

section Perform

variable {b : Boundary} {call : Call} {k : Nat} {s : Session UInt64}

/-- The session of a context makes the calls on it. -/
theorem perform_of_target? {c : Session.Call UInt64} (htarget : call.target? = some (k, c)) :
    (b.perform call).2 =
      (b.session? (some k)).elim b fun s => b.set (some k) (s.perform c).after := by
  -- All these calls look up the session and put back what it became.
  unfold Call.target? at htarget
  split at htarget <;> cases htarget <;>
    simp only [perform, openToken, close, dereference, newGeneration, resize, setCallback] <;>
    cases b.session? (some k) <;> rfl

/-- A call on a context is a call on its session, if it has one. -/
theorem session?_perform_of_target? {c : Session.Call UInt64}
    (htarget : call.target? = some (k, c)) :
    (b.perform call).2.session? (some k) =
      (b.session? (some k)).map fun s => (s.perform c).after := by
  rw [perform_of_target? htarget]
  cases hs : b.session? (some k) with
  | none => exact hs
  | some s => exact session?_set_self (lt_length_of_session? hs) _

theorem session?_perform_of_live (live : b.session? (some k) = some s) (call : Call)
    {c : Session.Call UInt64} (htarget : call.target? = some (k, c)) :
    (b.perform call).2.session? (some k) = some (s.perform c).after := by
  rw [session?_perform_of_target? htarget, live, Option.map_some]

theorem session?_new_self (b : Boundary) (settings : Settings) (size : Int) :
    (b.new settings size).2.session? (some b.contexts.length) =
      some (.ofSettings { settings with capacity := capacityOf size }) := by
  rw [session?_some, new, List.getElem?_concat_length]
  rfl

theorem session?_new_of_ne (hk : k ≠ b.contexts.length) (settings : Settings) (size : Int) :
    (b.new settings size).2.session? (some k) = b.session? (some k) := by
  rw [session?_some, session?_some, new]
  rcases Nat.lt_or_gt_of_ne hk with hlt | hgt
  · rw [List.getElem?_append_left hlt]
  · rw [List.getElem?_eq_none (Nat.le_of_lt hgt), List.getElem?_eq_none]
    rw [List.length_append]
    exact hgt

/-- Nothing is left of a context that was freed. -/
theorem session?_free_self (b : Boundary) (k : Nat) :
    (b.free (some k)).session? (some k) = none := by
  by_cases hk : k < b.contexts.length
  · exact session?_set_self hk none
  · rw [session?_some, free, set, List.getElem?_eq_none]
    · rfl
    · rw [List.length_set]
      exact Nat.le_of_not_lt hk

/-- A context stays as it is until a call is made on it or it is freed. -/
theorem session?_perform_of_aside (htarget : ∀ c, call.target? ≠ some (k, c))
    (hfree : call ≠ .free (some k))
    (hnew : ∀ settings size, call = .new settings size → k ≠ b.contexts.length) :
    (b.perform call).2.session? (some k) = b.session? (some k) := by
  cases hother : call.target? with
  | some target =>
    -- The call is made on another context.
    obtain ⟨j, c⟩ := target
    have hj : j ≠ k := by
      rintro rfl
      exact htarget c hother
    rw [perform_of_target? hother]
    cases b.session? (some j) with
    | none => rfl
    | some _ => exact session?_set_of_ne b hj _
  | none =>
    cases call with
    | new settings size => exact session?_new_of_ne (hnew settings size rfl) settings size
    | free context =>
      cases context with
      | none => rfl
      | some j =>
        have hj : j ≠ k := by
          rintro rfl
          exact hfree rfl
        exact session?_set_of_ne b hj none
    | capacity context => rfl
    | openToken context _ | close context _ | dereference context _ | newGeneration context
    | resize context _ =>
      cases context with
      | none => rfl
      | some j => cases hother
    | setCallback context callback =>
      cases context with
      | none => rfl
      | some j => cases callback <;> cases hother

/-- The session of a context that is live after a call: the context is new, or its
    session has made the call, or the call did not concern it. -/
inductive Became (b : Boundary) (call : Call) (k : Nat) : Session UInt64 → Prop
  | made {settings : Settings} {size : Int} (hcall : call = .new settings size)
    (hk : k = b.contexts.length) :
    Became b call k (.ofSettings { settings with capacity := capacityOf size })
  | performed {s : Session UInt64} {c : Session.Call UInt64} (live : b.session? (some k) = some s)
    (htarget : call.target? = some (k, c)) : Became b call k (s.perform c).after
  | kept {s : Session UInt64} (live : b.session? (some k) = some s)
    (htarget : ∀ c, call.target? ≠ some (k, c)) : Became b call k s

/-- A context that is live after a call was made by it, was its target, or was live before.
    -/
theorem perform_became (live : (b.perform call).2.session? (some k) = some s) :
    b.Became call k s := by
  by_cases htarget : ∃ c, call.target? = some (k, c)
  · obtain ⟨c, htarget⟩ := htarget
    rw [session?_perform_of_target? htarget] at live
    obtain ⟨before, hs, rfl⟩ := Option.map_eq_some_iff.1 live
    exact .performed hs htarget
  · by_cases hnew : ∃ settings size, call = .new settings size ∧ k = b.contexts.length
    · obtain ⟨settings, size, rfl, rfl⟩ := hnew
      cases (session?_new_self b settings size).symm.trans live
      exact .made rfl rfl
    · have hfree : call ≠ .free (some k) := by
        rintro rfl
        cases (session?_free_self b k).symm.trans live
      rw [session?_perform_of_aside (not_exists.1 htarget) hfree fun settings size hcall hk =>
        hnew ⟨settings, size, hcall, hk⟩] at live
      exact .kept live (not_exists.1 htarget)

end Perform

/-! ## Live contexts -/

/-- An event that does not concern a context, and is not its start. -/
structure Event.Aside (e : Event) (k : Nat) : Prop where
  token : ∀ handle token, e.token k handle token = token
  callback : ∀ callback, e.callback k callback = callback

/-- A call on another context, or on none, tells nothing about this one. -/
theorem aside_of_target? {b : Boundary} {call : Call} {k : Nat} {s : Session UInt64}
    (live : b.session? (some k) = some s) (htarget : ∀ c, call.target? ≠ some (k, c)) :
    Event.Aside ⟨call, (b.perform call).1⟩ k := by
  cases call with
  -- A new context takes the number after the last one, so it is not this one.
  | new settings size =>
    exact ⟨fun _ _ => rfl, fun _ => if_neg (lt_length_of_session? live).ne'⟩
  | openToken context token =>
    cases context with
    | none => exact ⟨fun _ _ => rfl, fun _ => rfl⟩
    | some j =>
      have hj : j ≠ k := by
        rintro rfl
        exact htarget _ rfl
      exact ⟨fun _ _ => if_neg fun h => hj h.1, fun _ => rfl⟩
  | setCallback context callback =>
    cases context with
    | none => exact ⟨fun _ _ => rfl, fun _ => rfl⟩
    | some j =>
      have hj : j ≠ k := by
        rintro rfl
        cases callback <;> exact htarget _ rfl
      exact ⟨fun _ _ => rfl, fun _ => if_neg hj⟩
  | _ => exact ⟨fun _ _ => rfl, fun _ => rfl⟩

/-- The handles that are open were returned for their tokens, and not for others
    since. -/
def Tokens (events : List Event) (k : Nat) (s : Session UInt64) : Prop :=
  ∃ m, s.tracker.table.Represents m ∧
    ∀ id x, m id = some x → tokenOf k id.raw events = some x.value

namespace Tokens

variable {events : List Event} {k : Nat} {s : Session UInt64} {e : Event}

/-- A call that returns no handle of the context leaves the tokens as they are. -/
theorem concat (h : Tokens events k s) (he : ∀ handle token, e.token k handle token = token) :
    Tokens (events ++ [e]) k s := by
  obtain ⟨m, hm, htoken⟩ := h
  refine ⟨m, hm, fun id x hid => ?_⟩
  rw [tokenOf_concat, he]
  exact htoken id x hid

/-- A call that returns no handle opens none. -/
theorem perform (h : Tokens events k s) {c : Session.Call UInt64}
    (hc : ¬s.Opens c) :
    Tokens events k (s.perform c).after := by
  obtain ⟨m, hm, htoken⟩ := h
  refine ⟨_, (Session.perform_binds hm c).represents, fun id x hid => htoken id x ?_⟩
  have hnew : Session.newId? (s.perform c).outcome ≠ some id := by
    rw [Session.newId?_of_not_opens hc]
    rintro ⟨⟩
  -- A call that binds no id can only unbind one.
  by_cases hclosed : Session.Event.closedId? ⟨c, (s.perform c).outcome⟩ = some id
  · rw [Session.Event.bind_of_closed hclosed] at hid
    cases hid
  · rw [Session.Event.bind_of_ne hnew hclosed] at hid
    exact hid

/-- A handle that is opened is returned for its token. -/
theorem openToken (h : Tokens events k s) {token : UInt64} {id : HandleId}
    (hdone : (s.perform (.openHandle ⟨token, none⟩)).outcome = .done (.opened id)) :
    Tokens (events ++ [⟨.openToken (some k) token, .handle id.raw⟩]) k
      (s.perform (.openHandle ⟨token, none⟩)).after := by
  obtain ⟨m, hm, htoken⟩ := h
  have hbinds := (Session.perform_binds hm (.openHandle ⟨token, none⟩)).represents
  rw [hdone] at hbinds
  refine ⟨Function.update m id (some ⟨token, none⟩), hbinds, fun id' x hid' => ?_⟩
  rw [tokenOf_concat]
  -- The id may have been another token's before; it is this one's now.
  by_cases hid : id' = id
  · subst hid
    rw [Function.update_self] at hid'
    cases hid'
    exact if_pos ⟨rfl, rfl⟩
  · rw [Function.update_of_ne hid] at hid'
    have hraw : id.raw ≠ id'.raw := fun h => hid (congrArg HandleId.mk h.symm)
    exact (if_neg fun h => hraw h.2).trans (htoken id' x hid')

end Tokens

/-- A live context: its ids are conserved, its handles have the tokens of the
    history, and its callback is the one that was installed last. -/
structure Live (events : List Event) (k : Nat) (s : Session UInt64) : Prop where
  conserved : s.core.Conserved
  tokens : Tokens events k s
  installed : s.Installed (callbackOf k events)

namespace Live

variable {events : List Event} {b : Boundary} {k : Nat} {s : Session UInt64} {call : Call}

/-- A new context is live, with no handles and no callback. -/
theorem made (settings : Settings) (size : Int) :
    Live (events ++ [⟨.new settings size, .context k⟩]) k
      (.ofSettings { settings with capacity := capacityOf size }) where
  conserved := ⟨Nat.one_pos, .refl _⟩
  tokens := ⟨fun _ => none, ⟨List.nodup_nil, fun _ => rfl⟩, by rintro _ _ ⟨⟩⟩
  installed := by
    have hnone : callbackOf k (events ++ [⟨.new settings size, .context k⟩]) = none :=
      (callbackOf_concat k events _).trans (if_pos rfl)
    rw [hnone]
    rfl

/-- A context stays live when something else is called. -/
theorem kept (h : Live events k s) {e : Event} (he : e.Aside k) : Live (events ++ [e]) k s where
  conserved := h.conserved
  tokens := h.tokens.concat he.token
  installed := by
    rw [callbackOf_concat, he.callback]
    exact h.installed

/-- A handle is opened under an id that is not null. -/
theorem openHandle_outcome (h : Live events k s) (few : s.ids.issued < UInt64.size - 1)
    (x : Referent UInt64) :
    (s.openHandle x).outcome = .done s.ids.allocate.1 ∧ s.ids.allocate.1 ≠ .null := by
  have hfresh := h.conserved.fresh few
  rw [s.openHandle_outcome]
  exact ⟨(Session.openHandle_of_not_mem (c := s.core) hfresh.not_open x).1, hfresh.ne_null⟩

theorem openToken_eq (h : Live events k s) (few : s.ids.issued < UInt64.size - 1)
    (live : b.session? (some k) = some s) (token : UInt64) :
    (b.openToken (some k) token).1 = s.ids.allocate.1.raw := by
  simp only [openToken, live, (h.openHandle_outcome few ⟨token, none⟩).1]

/-- A call on a live context that opens nothing and leaves the callback in its
    place. -/
theorem performed_of_plain (h : Live events k s) (few : s.ids.issued < UInt64.size - 1)
    {c : Session.Call UInt64} (hc : ¬s.Opens c)
    (hkeeps : c.KeepsHook) {e : Event} (he : e.Aside k) :
    Live (events ++ [e]) k (s.perform c).after :=
  kept ⟨h.conserved.perform few c, h.tokens.perform hc, (h.installed.perform hkeeps).1⟩ he

/-- A call on a live context. -/
theorem performed (h : Live events k s) (few : s.ids.issued < UInt64.size - 1)
    (live : b.session? (some k) = some s) {c : Session.Call UInt64}
    (htarget : call.target? = some (k, c)) :
    Live (events ++ [⟨call, (b.perform call).1⟩]) k (s.perform c).after := by
  cases call with
  | openToken context token =>
    cases context with
    | none => cases htarget
    | some j =>
      cases htarget
      -- The handle that is returned is the id under which the token is found from now on.
      have hdone := (h.openHandle_outcome few ⟨token, none⟩).1
      have hreply : (b.perform (.openToken (some k) token)).1 = .handle s.ids.allocate.1.raw :=
        congrArg Reply.handle (h.openToken_eq few live token)
      rw [hreply]
      refine ⟨h.conserved.perform few _, h.tokens.openToken ?_, ?_⟩
      · exact congrArg (Outcome.map Session.Reply.opened) hdone
      · rw [callbackOf_concat]
        refine (h.installed.perform ?_).1
        trivial
  | close context _ | dereference context _ | newGeneration context | resize context _ =>
    cases context with
    | none => cases htarget
    | some j =>
      cases htarget
      refine h.performed_of_plain few ?_ ?_ ⟨fun _ _ => rfl, fun _ => rfl⟩
      · exact not_false
      · trivial
  | setCallback context callback =>
    cases context with
    | none => cases callback <;> cases htarget
    | some j =>
      -- The callback has not been given any report yet.
      have hcallback : j = k → callbackOf k (events ++
          [⟨.setCallback (some j) callback, (b.perform (.setCallback (some j) callback)).1⟩]) =
            callback := fun hj => (callbackOf_concat k events _).trans (if_pos hj)
      cases callback with
      | none =>
        cases htarget
        have htokens := h.tokens.perform (c := .uninstall) not_false
        refine ⟨h.conserved.perform few _, htokens.concat fun _ _ => rfl, ?_⟩
        rw [hcallback rfl]
        rfl
      | some callback =>
        cases htarget
        have htokens := h.tokens.perform (c := .install callback.hook) not_false
        refine ⟨h.conserved.perform few _, htokens.concat fun _ _ => rfl, ?_⟩
        rw [hcallback rfl]
        rfl
  | _ => cases htarget

end Live

/-- The contexts that are live after a run. -/
theorem live_run (calls : List Call) {k : Nat} {s : Session UInt64}
    (live : (run {} calls).session? (some k) = some s) (few : s.ids.issued < UInt64.size - 1) :
    Live (history {} calls) k s := by
  -- The session may be another one after each call, and need not have been there before.
  induction calls using List.reverseRecOn generalizing s with
  | nil => cases live
  | append_singleton calls call ih =>
    rw [run_concat] at live
    rw [history_concat]
    cases perform_became live with
    | made hcall hk =>
      subst hcall hk
      exact .made _ _
    | kept hs htarget => exact (ih hs few).kept (aside_of_target? hs htarget)
    | @performed before c hs htarget =>
      -- The ids had not run out before the call either.
      have hbefore := (Nat.sub_le_sub_right (before.next_le_perform c) 1).trans_lt few
      exact (ih hs hbefore).performed hbefore hs htarget

end Boundary

end HandleWatch
