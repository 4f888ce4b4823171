import HandleWatch.IdPool
import HandleWatch.Tracker

/-!
# Sessions

A session hands out ids for referents and tracks their handles. An id comes
back to the pool when its handle leaves the quarantine, so it is not used again
while its closed handle can still be told apart. With reports turned off the
handles are tracked as well, but invalid uses are neither counted nor reported.
-/

namespace HandleWatch

/-- A session. -/
structure Session (α : Type) where
  mode : Mode
  tracker : Tracker α
  ids : IdPool := {}

namespace Session

variable {α : Type}

/-- A new session. -/
def ofSettings (settings : Settings) : Session α where
  mode := settings.mode
  tracker := .ofCapacity settings.capacity

/-- Opens a handle for a referent, under the next id of the pool. -/
def openHandle (s : Session α) (referent : Referent α) : Transition (Session α) α HandleId :=
  let (id, ids) := s.ids.allocate
  let step := s.tracker.register id referent
  { outcome := step.outcome.map fun _ => id
    after := { s with tracker := step.after, ids }
    released := step.released }

/-- Closes a handle; the ids of those that leave the quarantine go back to the
    pool. -/
def close (s : Session α) (id : HandleId) : Transition (Session α) α CloseOutcome :=
  if !s.mode.validates && !s.tracker.table.has id then
    { outcome := .done (.rejected (s.tracker.classify id)), after := s }
  else
    let step := s.tracker.close id
    let ids := match step.outcome with
      | .done outcome => s.ids.recycle outcome.evicted
      | _ => s.ids
    { outcome := step.outcome
      after := { s with tracker := step.after, ids }
      released := step.released }

/-- Checks an id, and reports it if it is not valid and reports are on. -/
def validate (s : Session α) (id : HandleId) : Outcome Classification × Session α :=
  if s.mode.validates then
    let (outcome, tracker) := s.tracker.validate id
    (outcome, { s with tracker })
  else (.done (s.tracker.classify id), s)

/-- The referent of an id, if it is open, after a check of the id. -/
def dereference (s : Session α) (id : HandleId) : Outcome (Option (Referent α)) × Session α :=
  let (outcome, s) := s.validate id
  (outcome.map fun _ => s.tracker.referent? id, s)

/-- Opens a second handle for the referent of an id, if that is open. -/
def duplicate (s : Session α) (id : HandleId) :
    Transition (Session α) α (Option HandleId) :=
  match s.dereference id with
  | (.done (some referent), s) =>
    let step := s.openHandle referent
    { outcome := step.outcome.map some, after := step.after, released := step.released }
  | (.done none, s) => { outcome := .done none, after := s }
  | (.failed e, s) => { outcome := .failed e, after := s }
  | (.crashed m, s) => { outcome := .crashed m, after := s }

/-- Begins a new generation. -/
def newGeneration (s : Session α) : Generation × Session α :=
  let (generation, tracker) := s.tracker.newGeneration
  (generation, { s with tracker })

/-- Changes how many closed handles are kept; the ids of those that have to
    leave go back to the pool. -/
def resize (s : Session α) (size : Int) : Transition (Session α) α Unit :=
  let step := s.tracker.resize size
  let ids := match step.outcome with
    | .done evicted => s.ids.recycle evicted
    | _ => s.ids
  { outcome := step.outcome.map fun _ => ()
    after := { s with tracker := step.after, ids }
    released := step.released }

/-- Installs a hook for reports on invalid uses. -/
def install (s : Session α) (hook : Hook InvalidUse) : Session α :=
  { s with tracker := s.tracker.install hook }

/-- Removes the hook for reports on invalid uses. -/
def uninstall (s : Session α) : Session α := { s with tracker := s.tracker.uninstall }

/-- The records of the handles opened in a generation or later. -/
def openRecords (s : Session α) (generation : Generation) : List Record :=
  (s.tracker.table.since generation).map (·.record)

/-- The records of the handles in quarantine. -/
def closedRecords (s : Session α) : List Record := s.tracker.quarantine.handles.map (·.record)

/-- The reports that the installed hook was given. -/
def heard (s : Session α) : List InvalidUse :=
  match s.tracker.sink.hook with
  | some hook => hook.heard
  | none => []

end Session

end HandleWatch
