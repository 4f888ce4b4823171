/-!
# Reports and hooks

Reports go to a sink, which remembers the last one and passes each on to a
hook, if one is installed. A hook may accept a report, refuse it, or crash; it
may answer each report in view of those before it, which is all that a
deterministic hook can depend on.
-/

namespace HandleWatch

/-- The answer of a hook to a report. -/
inductive Answer where
  | accept
  | refuse (reason : String)
  | crash (message : String)
  deriving DecidableEq, Repr

/-- A hook for reports of type `ρ`. -/
structure Hook (ρ : Type) where
  /-- The answer to a report, given the earlier ones, the first one first. -/
  answer : List ρ → ρ → Answer
  /-- The reports that it was given. -/
  heard : List ρ := []

namespace Hook

variable {ρ : Type}

/-- The hook that accepts every report, and so is a record of them. -/
def recorder : Hook ρ := { answer := fun _ _ => .accept }

/-- The hook after one more report. -/
def hear (h : Hook ρ) (r : ρ) : Hook ρ := { h with heard := h.heard ++ [r] }

end Hook

/-- Where reports of type `ρ` go. -/
structure Sink (ρ : Type) where
  hook : Option (Hook ρ) := none
  /-- The last report. -/
  last : Option ρ := none

/-- What became of a report. -/
inductive Delivery where
  /-- There was no hook. -/
  | unheard
  | accepted
  | refused (reason : String)
  | crashed (message : String)
  deriving DecidableEq, Repr

/-- What an answer makes of a report. -/
def Answer.delivery : Answer → Delivery
  | accept => .accepted
  | refuse reason => .refused reason
  | crash message => .crashed message

namespace Sink

variable {ρ : Type}

/-- Whether a hook is installed. -/
def hasHook (s : Sink ρ) : Bool := s.hook.isSome

/-- Installs a hook in place of any other. -/
def install (s : Sink ρ) (hook : Hook ρ) : Sink ρ := { s with hook := some hook }

/-- Removes the hook. -/
def uninstall (s : Sink ρ) : Sink ρ := { s with hook := none }

/-- Delivers a report. It is the last one whatever the hook makes of it. -/
def deliver (s : Sink ρ) (r : ρ) : Delivery × Sink ρ :=
  match s.hook with
  | none => (.unheard, { s with last := some r })
  | some hook =>
    ((hook.answer hook.heard r).delivery, { hook := some (hook.hear r), last := some r })

/-- A description of a sink. -/
def describe (s : Sink ρ) : String :=
  "ReportSink \x7b hook: " ++ (if s.hasHook then "Some(\"<hook>\")" else "None") ++
    ", has_last: " ++ (if s.last.isSome then "true" else "false") ++ " \x7d"

end Sink

end HandleWatch
