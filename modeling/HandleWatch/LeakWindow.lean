import HandleWatch.Tracker

/-!
# Leak windows

A leak window watches a stretch of a run: the handles opened since its start
that are still open are leaks. Each start begins a new generation, so windows
do not disturb each other.
-/

namespace HandleWatch

/-- A leak window, with the generation that began at its start if it is running. -/
structure LeakWindow where
  since : Option Generation := none
  deriving DecidableEq, Repr

namespace LeakWindow

variable {α : Type}

/-- Starts the window, again if it is running. -/
def start (_w : LeakWindow) (t : Tracker α) : Generation × LeakWindow × Tracker α :=
  let (generation, t) := t.newGeneration
  (generation, ⟨some generation⟩, t)

/-- Whether the window is running. -/
def isRunning (w : LeakWindow) : Bool := w.since.isSome

/-- The records of the handles opened since the start and still open. -/
def leaks (w : LeakWindow) (t : Tracker α) : Outcome (List Record) :=
  match w.since with
  | none => .failed .windowNotStarted
  | some generation => .done ((t.table.since generation).map (·.record))

/-- Ends the window, which fails if there are leaks. -/
def finish (w : LeakWindow) (t : Tracker α) : Outcome Unit × LeakWindow :=
  match w.leaks t with
  | .done [] => (.done (), {})
  | .done records => (.failed (.leak records), {})
  | .failed e => (.failed e, w)
  | .crashed m => (.crashed m, w)

end LeakWindow

end HandleWatch
