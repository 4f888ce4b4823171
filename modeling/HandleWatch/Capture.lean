import HandleWatch.Session

/-!
# Captures

A capture is a hook that keeps the reports it is given. Installing one takes
the place of the hook before it, whose reports, if it was a capture too, stay
as they are from then on.
-/

namespace HandleWatch

/-- The reports that were captured, the first one first. -/
structure Capture where
  reports : List InvalidUse := []
  deriving DecidableEq, Repr

namespace Capture

/-- How many reports there are. -/
def count (c : Capture) : Nat := c.reports.length

/-- How many reports are on uses of a classification. -/
def countOf (c : Capture) (classification : Classification) : Nat :=
  c.reports.countP fun r => r.classification = classification

/-- The last report. -/
def last? (c : Capture) : Option InvalidUse := c.reports.getLast?

/-- The reports after the first `n`. -/
def since (c : Capture) (n : Nat) : List InvalidUse := c.reports.drop n

end Capture

/-- A session and the captures that were installed in it. -/
structure CapturedSession (α : Type) where
  session : Session α
  /-- The captures, the first one installed first. -/
  captures : List Capture := []
  /-- The capture that is installed now, if any is. -/
  active : Option Nat := none

namespace CapturedSession

variable {α : Type}

/-- Goes on with the session after an operation that did not change its hook;
    what the hook was told since is in the active capture. -/
def update (c : CapturedSession α) (session : Session α) : CapturedSession α :=
  match c.active with
  | some k => { c with session, captures := c.captures.set k ⟨session.heard⟩ }
  | none => { c with session }

/-- Installs a new capture. -/
def capture (c : CapturedSession α) : CapturedSession α where
  session := c.session.install .recorder
  captures := c.captures ++ [{}]
  active := some c.captures.length

/-- Installs another hook. -/
def install (c : CapturedSession α) (hook : Hook InvalidUse) : CapturedSession α :=
  { c with session := c.session.install hook, active := none }

/-- Removes the hook. -/
def uninstall (c : CapturedSession α) : CapturedSession α :=
  { c with session := c.session.uninstall, active := none }

/-- The capture of a number. -/
def get (c : CapturedSession α) (k : Nat) : Capture := (c.captures[k]?).getD {}

end CapturedSession

end HandleWatch
