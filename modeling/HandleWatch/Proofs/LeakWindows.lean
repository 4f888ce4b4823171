import HandleWatch.LeakWindow
import HandleWatch.Proofs.Generations
import Mathlib.Logic.Function.Basic

/-!
# Leak windows are exact

A leak window keeps no more than the number of a generation, and all windows of a
tracker share the generations with each other and with whoever else begins one.
Still, each of them sees exactly the handles that were opened since its own start
and not closed (`Tracker.leftOpen`): its start begins a generation, which is later
than that of every handle before and not later than that of any handle after it.

* `Tracker.openSince_start`: the handles of the generation that begins at some
  point of a history, or later, are those opened after this point;
* `Watch.leaks_exact`: in every run of a tracker and any number of windows over it,
  a window that is running tells the handles left open since its start, whatever
  the others do. One that is not running tells nothing, and nothing changes.

The generations must not run out, as the last one is never followed by another.
-/

namespace HandleWatch

/-! ## Generations of a history -/

namespace Tracker

variable {α : Type}

/-- Whether an event began a generation. -/
def Event.advances (e : Event α) : Bool :=
  match e.call with
  | .newGeneration => true
  | _ => false

/-- The handles that were opened in a history and whose ids were not closed
    afterwards, in the order of their opening. -/
def leftOpen (events : List (Event α)) : List (Handle α) := openSince 0 0 events

theorem Event.advance_eq (now : Generation) (e : Event α) :
    e.advance now = if e.advances then Generation.next now else now := by
  obtain ⟨call, outcome⟩ := e
  cases call <;> rfl

/-- A history ends in no earlier generation than it begins in. -/
theorem le_generationAfter {now : Generation} (hnow : now ≤ Generation.last)
    (events : List (Event α)) :
    now ≤ generationAfter now events ∧ generationAfter now events ≤ Generation.last := by
  induction events generalizing now with
  | nil => exact ⟨Nat.le_refl now, hnow⟩
  | cons e events ih =>
    obtain ⟨hup, hlast⟩ := e.le_advance hnow
    exact ⟨Nat.le_trans hup (ih hlast).1, (ih hlast).2⟩

/-- There are no more generations than were begun. -/
theorem generationAfter_le (now : Generation) (events : List (Event α)) :
    generationAfter now events ≤ now + events.countP Event.advances := by
  induction events generalizing now with
  | nil => exact Nat.le_refl now
  | cons e events ih =>
    have hone : e.advance now ≤ now + e.advances.toNat := by
      rw [Event.advance_eq]
      cases e.advances with
      | true => exact Nat.min_le_left _ _
      | false => exact Nat.le_refl now
    have hcount : (e :: events).countP Event.advances =
        e.advances.toNat + events.countP Event.advances := by
      cases h : e.advances <;> simp [h, Nat.add_comm]
    rw [hcount, ← Nat.add_assoc]
    exact Nat.le_trans (ih (e.advance now)) (Nat.add_le_add_right hone _)

/-- Of the handles opened in the first part of a history, those stay that are not
    closed in the second. -/
theorem openSince_append (since now : Generation) (events events' : List (Event α)) :
    openSince since now (events ++ events') =
      (openSince since now events).filter (fun h => h.id ∉ closedIds events') ++
        openSince since (generationAfter now events) events' := by
  induction events generalizing now with
  | nil => rfl
  | cons e events ih =>
    have hclosed (h : Handle α) : (h.id ∉ closedIds (events ++ events')) ↔
        h.id ∉ closedIds events' ∧ h.id ∉ closedIds events := by
      rw [closedIds_append, List.mem_append, not_or, and_comm]
    rw [List.cons_append, openSince, ih, openSince, List.filter_append, List.filter_filter,
      List.append_assoc]
    simp only [hclosed, Bool.decide_and, Bool.and_left_comm]
    rfl

/-- A handle that is opened before a generation is not of it. -/
theorem openSince_of_lt {since now : Generation} (hnow : now ≤ Generation.last)
    {events : List (Event α)} (h : generationAfter now events < since) :
    openSince since now events = [] := by
  induction events generalizing now with
  | nil => rfl
  | cons e events ih =>
    have hlt : now < since := Nat.lt_of_le_of_lt (le_generationAfter hnow (e :: events)).1 h
    rw [openSince, ih (e.le_advance hnow).2 h, List.append_nil, List.filter_eq_nil_iff]
    simp [Nat.not_le.2 hlt]

/-- A handle that is opened in a generation or after it is of this generation or a
    later one. -/
theorem openSince_of_le {since now : Generation} (hle : since ≤ now)
    (hnow : now ≤ Generation.last) (events : List (Event α)) :
    openSince since now events = leftOpen events := by
  suffices ∀ {since' now' : Generation}, since' ≤ now' → now' ≤ Generation.last →
      openSince since now events = openSince since' now' events from
    this (Nat.le_refl 0) (Nat.zero_le _)
  induction events generalizing now with
  | nil => exact fun _ _ => rfl
  | cons e events ih =>
    intro since' now' hle' hnow'
    obtain ⟨hup, hlast⟩ := e.le_advance hnow
    obtain ⟨hup', hlast'⟩ := e.le_advance hnow'
    rw [openSince, openSince, ih (Nat.le_trans hle hup) hlast (Nat.le_trans hle' hup') hlast']
    simp only [hle, hle']

/-- The generation that begins with an event is later than those before it, if the
    generations did not run out. -/
theorem generationAfter_lt {before : List (Event α)} {e : Event α} (he : e.advances = true)
    (few : before.countP Event.advances < Generation.last) :
    generationAfter 0 before < generationAfter 0 (before ++ [e]) := by
  have hbegun := generationAfter_le 0 before
  rw [Nat.zero_add] at hbegun
  have hroom : generationAfter 0 before + 1 ≤ Generation.last := Nat.lt_of_le_of_lt hbegun few
  rw [generationAfter_concat, Event.advance_eq, if_pos he]
  exact Nat.le_min.2 ⟨Nat.le_refl _, hroom⟩

/-- The handles of the generation that begins with an event, or of a later one, are
    those opened after this event, if the generations do not run out. -/
theorem openSince_start {before after : List (Event α)} {e : Event α} (he : e.advances = true)
    (few : (before ++ e :: after).countP Event.advances ≤ Generation.last) :
    openSince (generationAfter 0 (before ++ [e])) 0 (before ++ e :: after) = leftOpen after := by
  rw [List.countP_append, List.countP_cons_of_pos he] at few
  have hlater : generationAfter 0 before < generationAfter 0 (before ++ [e]) :=
    generationAfter_lt he (by omega)
  have hnone : openSince (generationAfter 0 (before ++ [e])) 0 (before ++ [e]) = [] := by
    rw [openSince_concat, openSince_of_lt (Nat.zero_le _) hlater, List.filter_nil,
      List.nil_append, List.filter_eq_nil_iff]
    simp [Nat.not_le.2 hlater]
  have hlast := (le_generationAfter (Nat.zero_le _) (before ++ [e])).2
  have hsplit : before ++ e :: after = (before ++ [e]) ++ after := List.append_cons before e after
  rw [hsplit, openSince_append, hnone, List.filter_nil, List.nil_append]
  exact openSince_of_le (Nat.le_refl _) hlast after

end Tracker

/-! ## Windows over a tracker -/

/-- A tracker and the leak windows over it, by number. -/
structure Watch (α : Type) where
  tracker : Tracker α
  windows : Nat → LeakWindow := fun _ => {}

namespace Watch

variable {α : Type}

/-- The calls of a tracker and of the windows over it. -/
inductive Call (α : Type) where
  | tracker (call : Tracker.Call α)
  | start (w : Nat)
  | leaks (w : Nat)
  | finish (w : Nat)

/-- A call and what it came to. -/
inductive Event (α : Type) where
  | tracker (event : Tracker.Event α)
  | start (w : Nat) (generation : Generation)
  | leaks (w : Nat) (outcome : Outcome (List Record))
  | finish (w : Nat) (outcome : Outcome Unit)

/-- One call. -/
def perform (s : Watch α) : Call α → Event α × Watch α
  | .tracker call =>
    (.tracker ⟨call, (s.tracker.perform call).outcome⟩,
      { s with tracker := (s.tracker.perform call).after })
  | .start w =>
    let (generation, window, tracker) := (s.windows w).start s.tracker
    (.start w generation, ⟨tracker, Function.update s.windows w window⟩)
  | .leaks w => (.leaks w ((s.windows w).leaks s.tracker), s)
  | .finish w =>
    let (outcome, window) := (s.windows w).finish s.tracker
    (.finish w outcome, { s with windows := Function.update s.windows w window })

/-- The tracker and the windows after some calls. -/
def run (s : Watch α) (calls : List (Call α)) : Watch α :=
  calls.foldl (fun s call => (s.perform call).2) s

/-- The events of a run, the first one first. -/
def history (s : Watch α) : List (Call α) → List (Event α)
  | [] => []
  | call :: calls => (s.perform call).1 :: (s.perform call).2.history calls

theorem run_concat (s : Watch α) (calls : List (Call α)) (call : Call α) :
    s.run (calls ++ [call]) = ((s.run calls).perform call).2 := by
  rw [run, List.foldl_append]
  rfl

theorem history_concat (s : Watch α) (calls : List (Call α)) (call : Call α) :
    s.history (calls ++ [call]) = s.history calls ++ [((s.run calls).perform call).1] := by
  induction calls generalizing s with
  | nil => rfl
  | cons first calls ih =>
    rw [List.cons_append, history, ih]
    rfl

/-- Whether a call begins a generation. -/
def Call.advances : Call α → Bool
  | .tracker .newGeneration | .start _ => true
  | _ => false

/-- The event of the tracker that an event comes with. -/
def Event.tracker? : Event α → Option (Tracker.Event α)
  | .tracker event => some event
  | .start _ generation => some ⟨.newGeneration, .done (.generation generation)⟩
  | .leaks _ _ | .finish _ _ => none

/-- The events of the tracker in a history. -/
def trackerEvents (events : List (Event α)) : List (Tracker.Event α) :=
  events.filterMap Event.tracker?

/-- An event started this window. -/
def Event.Starts (w : Nat) : Event α → Prop
  | .start w' _ => w' = w
  | _ => False

/-- An event started this window or finished it. -/
def Event.Turns (w : Nat) : Event α → Prop
  | .start w' _ | .finish w' _ => w' = w
  | _ => False

/-- The window was started, and neither started nor finished in the events `after`
    that. -/
def Running (w : Nat) (events after : List (Event α)) : Prop :=
  Recency.Since (Event.Starts w) (Event.Turns w) events after

theorem trackerEvents_concat (events : List (Event α)) (e : Event α) :
    trackerEvents (events ++ [e]) = trackerEvents events ++ e.tracker?.toList := by
  rw [trackerEvents, List.filterMap_append]
  cases h : e.tracker? <;> simp [trackerEvents, h]

/-- The generations that begin in a run are those of its calls. -/
theorem countP_trackerEvents (s : Watch α) (calls : List (Call α)) :
    (trackerEvents (s.history calls)).countP Tracker.Event.advances =
      calls.countP Call.advances := by
  induction calls generalizing s with
  | nil => rfl
  | cons call calls ih =>
    have hcall : (trackerEvents [(s.perform call).1]).countP Tracker.Event.advances =
        [call].countP Call.advances := by
      rcases call with (_ | _ | _ | _ | _ | _ | _ | _ | _) | _ | _ | _ <;> rfl
    have hcons : trackerEvents ([(s.perform call).1] ++ (s.perform call).2.history calls) =
        trackerEvents [(s.perform call).1] ++ trackerEvents ((s.perform call).2.history calls) :=
      List.filterMap_append
    calc (trackerEvents (s.history (call :: calls))).countP Tracker.Event.advances
      _ = (trackerEvents [(s.perform call).1] ++
            trackerEvents ((s.perform call).2.history calls)).countP Tracker.Event.advances :=
        congrArg _ hcons
      _ = ([call] ++ calls).countP Call.advances := by
        rw [List.countP_append, hcall, ih, List.countP_append]

/-! ## What a call does to the windows -/

/-- A window that is running ends well if there are no leaks. -/
theorem finish_of_leaks {w : LeakWindow} {t : Tracker α} {records : List Record}
    (h : w.leaks t = .done records) :
    w.finish t = (if records = [] then .done () else .failed (.leak records), {}) := by
  rw [LeakWindow.finish, h]
  cases records with
  | nil => rfl
  | cons r records => rfl

/-- A window that is finished is not running, whatever it came to. -/
theorem finish_window (w : LeakWindow) (t : Tracker α) : (w.finish t).2 = {} := by
  obtain ⟨_ | generation⟩ := w
  · rfl
  · exact congrArg Prod.snd (finish_of_leaks (w := ⟨some generation⟩) rfl)

/-- A detector that stops tells what leaked, and starts anew. -/
theorem perform_finish (s : Watch α) (w : Nat) :
    s.perform (.finish w) =
      (.finish w ((s.windows w).finish s.tracker).1,
        { s with windows := Function.update s.windows w {} }) := by
  simp only [perform, finish_window]

/-- A call leaves alone the windows that it neither starts nor finishes. -/
theorem perform_windows {s : Watch α} {call : Call α} {w : Nat}
    (h : ¬(s.perform call).1.Turns w) : (s.perform call).2.windows w = s.windows w := by
  cases call with
  | tracker call => rfl
  | start w' => exact Function.update_of_ne (Ne.symm h) _ _
  | leaks w' => rfl
  | finish w' => exact Function.update_of_ne (Ne.symm h) _ _

/-- How the windows follow from a history. -/
structure Timed (events : List (Event α)) (s : Watch α) : Prop where
  dated : Tracker.Dated (trackerEvents events) s.tracker.tracking
  /-- A window that is running keeps the generation that began at its start. -/
  running : ∀ {w after}, Running w events after →
    ∃ before e, trackerEvents events = before ++ e :: trackerEvents after ∧
      Tracker.Event.advances e = true ∧
      (s.windows w).since = some (Tracker.generationAfter 0 (before ++ [e]))
  stopped : ∀ {w}, (∀ after, ¬Running w events after) → (s.windows w).since = none

namespace Timed

variable {events : List (Event α)} {s : Watch α}

/-- The handles have the generations of their registrations after each call. -/
theorem dated_perform (hs : Timed events s) (call : Call α) :
    Tracker.Dated (trackerEvents (events ++ [(s.perform call).1]))
      (s.perform call).2.tracker.tracking := by
  rw [trackerEvents_concat]
  cases call with
  | tracker call => exact hs.dated.step (s.tracker.perform_effect call)
  | start w => exact hs.dated.step (s.tracker.perform_effect .newGeneration)
  | leaks w => exact (List.append_nil (trackerEvents events)).symm ▸ hs.dated
  | finish w => exact (List.append_nil (trackerEvents events)).symm ▸ hs.dated

/-- Every call keeps the windows as the history tells. -/
theorem perform (hs : Timed events s) (call : Call α) :
    Timed (events ++ [(s.perform call).1]) (s.perform call).2 := by
  -- A window is running or stopped by the last call that turned it.
  refine ⟨hs.dated_perform call, ?_, ?_⟩
  · intro w after hrunning
    rcases Recency.since_concat.1 hrunning with ⟨rfl, hstarts⟩ | ⟨rest, rfl, hrest, hturns⟩
    · -- The window was started just now.
      cases call with
      | start w' =>
        obtain rfl : w' = w := hstarts
        refine ⟨trackerEvents events,
          ⟨.newGeneration, .done (.generation (Generation.next s.tracker.generation))⟩,
          trackerEvents_concat _ _, rfl, ?_⟩
        have hcurrent : s.tracker.generation = _ := hs.dated.current
        rw [Tracker.generationAfter_concat, ← hcurrent]
        exact congrArg LeakWindow.since (Function.update_self _ _ _)
      | _ => exact hstarts.elim
    · obtain ⟨before, e, hsplit, hadvances, hsince⟩ := hs.running hrest
      refine ⟨before, e, ?_, hadvances, ?_⟩
      · rw [trackerEvents_concat, trackerEvents_concat, hsplit, List.append_assoc,
          List.cons_append]
      · rw [perform_windows hturns, hsince]
  · intro w hstopped
    by_cases hturns : (s.perform call).1.Turns w
    · -- A window that was started just now would be running.
      cases call with
      | start w' =>
        have hstarts : (s.perform (.start w')).1.Starts w := hturns
        exact (hstopped [] (Recency.since_concat.2 (.inl ⟨rfl, hstarts⟩))).elim
      | finish w' =>
        obtain rfl : w' = w := hturns
        rw [perform_finish]
        exact congrArg LeakWindow.since (Function.update_self _ _ _)
      | _ => exact hturns.elim
    · rw [perform_windows hturns]
      refine hs.stopped fun rest hrest => ?_
      exact hstopped _ (Recency.since_concat.2 (.inr ⟨rest, rfl, hrest, hturns⟩))

end Timed

/-- After every run the windows are those of the history. -/
theorem timed_run (capacity : Nat) (calls : List (Call α)) :
    let start : Watch α := { tracker := .ofCapacity capacity }
    Timed (start.history calls) (start.run calls) := by
  intro start
  induction calls using List.reverseRecOn with
  | nil =>
    exact ⟨Tracker.dated_run capacity [], fun h => absurd h (Recency.not_since_nil _ _ _),
      fun _ => rfl⟩
  | append_singleton calls call ih =>
    rw [history_concat, run_concat]
    exact ih.perform call

/-! ## What a window tells -/

/-- The records of the handles opened in a history and not closed afterwards. -/
def leaked (events : List (Event α)) : List Record :=
  (Tracker.leftOpen (trackerEvents events)).map Handle.record

/-- What a window tells is what the history does. -/
structure Exact (events : List (Event α)) (s : Watch α) (w : Nat) : Prop where
  isRunning_iff : (s.windows w).isRunning = true ↔ ∃ after, Running w events after
  /-- The leaks are the handles left open since the start of the window. -/
  leaks : ∀ after, Running w events after →
    s.perform (.leaks w) = (.leaks w (.done (leaked after)), s)
  /-- A window ends well if there are none. It does not run any more in either case. -/
  finish : ∀ after, Running w events after →
    s.perform (.finish w) =
      (.finish w (if leaked after = [] then .done () else .failed (.leak (leaked after))),
        { s with windows := Function.update s.windows w {} })
  leaks_stopped : (∀ after, ¬Running w events after) →
    s.perform (.leaks w) = (.leaks w (.failed .windowNotStarted), s)
  finish_stopped : (∀ after, ¬Running w events after) →
    s.perform (.finish w) = (.finish w (.failed .windowNotStarted), s)

/-- A detector tells the handles that were registered since its start and are open. -/
theorem Timed.leaks {events : List (Event α)} {s : Watch α} (hs : Timed events s)
    (few : (trackerEvents events).countP Tracker.Event.advances ≤ Generation.last) {w : Nat}
    {after : List (Event α)} (h : Running w events after) :
    (s.windows w).leaks s.tracker = .done (leaked after) := by
  obtain ⟨before, e, hsplit, hadvances, hsince⟩ := hs.running h
  have htable : s.tracker.table.since _ = _ :=
    hs.dated.since (Tracker.generationAfter 0 (before ++ [e]))
  -- The generation of the window separates what was opened before it from what came after.
  rw [hsplit] at few htable
  rw [Tracker.openSince_start hadvances few] at htable
  rw [LeakWindow.leaks, hsince]
  simp only [htable]
  rfl

/-- So what a detector tells is exact. -/
theorem Timed.exact {events : List (Event α)} {s : Watch α} (hs : Timed events s)
    (few : (trackerEvents events).countP Tracker.Event.advances ≤ Generation.last) (w : Nat) :
    Exact events s w where
  isRunning_iff := by
    constructor
    · intro h
      by_contra hnone
      rw [LeakWindow.isRunning, hs.stopped (not_exists.1 hnone)] at h
      cases h
    · rintro ⟨after, h⟩
      obtain ⟨_, _, -, -, hsince⟩ := hs.running h
      rw [LeakWindow.isRunning, hsince]
      rfl
  leaks after h := by rw [Watch.perform, hs.leaks few h]
  finish after h := by rw [perform_finish, finish_of_leaks (hs.leaks few h)]
  leaks_stopped h := by rw [Watch.perform, LeakWindow.leaks, hs.stopped h]
  finish_stopped h := by
    have hwindow : s.windows w = {} := congrArg LeakWindow.mk (hs.stopped h)
    rw [perform_finish, LeakWindow.finish, LeakWindow.leaks, hs.stopped h, ← hwindow,
      Function.update_eq_self]

/-- In every run of a tracker and any windows over it in which the generations do not
    run out, a window tells exactly the handles left open since its own start, in the
    order of their opening. -/
theorem leaks_exact (capacity : Nat) (calls : List (Call α))
    (few : calls.countP Call.advances ≤ Generation.last) (w : Nat) :
    let start : Watch α := { tracker := .ofCapacity capacity }
    Exact (start.history calls) (start.run calls) w := by
  intro start
  rw [← start.countP_trackerEvents calls] at few
  exact (timed_run capacity calls).exact few w

/-- Two windows, one inside the other: the id `2` is closed and opened again in the
    inner one, and the handle that was open before is no leak. -/
theorem leaks_exact_nested :
    let x : Referent Nat := ⟨7, none⟩
    let calls : List (Call Nat) :=
      [.tracker (.register ⟨1⟩ x), .start 0, .tracker (.register ⟨2⟩ x),
        .tracker (.register ⟨3⟩ x), .start 1, .tracker (.close ⟨2⟩), .tracker .newGeneration,
        .tracker (.register ⟨2⟩ x)]
    let start : Watch Nat := { tracker := .ofCapacity 1 }
    let s := start.run calls
    calls.countP Call.advances = 3 ∧
      Exact (start.history calls) s 0 ∧ Exact (start.history calls) s 1 ∧
      (s.windows 0).leaks s.tracker = .done [⟨⟨3⟩, 1, 2, .opened⟩, ⟨⟨2⟩, 3, 3, .opened⟩] ∧
      (s.windows 1).leaks s.tracker = .done [⟨⟨2⟩, 3, 3, .opened⟩] := by
  intro x calls start s
  have hcount : calls.countP Call.advances = 3 := rfl
  have few : calls.countP Call.advances ≤ Generation.last := by
    rw [hcount]
    decide
  exact ⟨hcount, leaks_exact 1 calls few 0, leaks_exact 1 calls few 1, by decide +kernel,
    by decide +kernel⟩

end Watch

end HandleWatch
