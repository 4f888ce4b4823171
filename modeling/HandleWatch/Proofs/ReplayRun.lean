import HandleWatch.Proofs.Basic
import HandleWatch.Proofs.SessionReports
import HandleWatch.Scenario.Replay

/-!
# Replays are runs

A step of a replay makes at most one call of its session (`Scenario.Replay.call?`,
`Scenario.Replay.execute_ok`), which is a run of a tracker. So a replay is one too,
and what holds of every run holds of it.
-/

namespace HandleWatch

namespace Scenario.Replay

open Except (bind_eq_ok)

/-- The call of the session that a step makes, if it makes one. -/
def call? (r : Replay) : Step → Option (Session.Call String)
  | .openHandle _ value => some (.openHandle ⟨value, none⟩)
  | .close handle _ => (r.resolve handle).toOption.map .close
  | .dereference handle _ _ => (r.resolve handle).toOption.map .dereference
  | .duplicate handle _ => (r.resolve handle).toOption.map .duplicate
  | .newGeneration _ _ => some .newGeneration
  | .resize size => some (.resize size)
  | .expectOpen _ _ | .expectClosed _ | .expectReports _ _ _ | .constructRecord => none

/-- A step that can be taken makes its call, and may name a handle or label a
    generation. It does nothing else. -/
theorem execute_ok {r r' : Replay} {s : Step} {failure : Option String}
    (h : r.execute s = .ok (failure, r')) :
    ∃ handles generations,
      r' = { r with session := r.session.run (r.call? s).toList, handles, generations } := by
  cases s with
  | openHandle name value =>
    obtain ⟨id, -, h⟩ := bind_eq_ok h
    cases h
    exact ⟨_, _, rfl⟩
  | close handle expect =>
    obtain ⟨id, hid, h⟩ := bind_eq_ok h
    obtain ⟨outcome, -, h⟩ := bind_eq_ok h
    rw [call?, hid]
    cases h
    exact ⟨_, _, rfl⟩
  | dereference handle expect value =>
    obtain ⟨id, hid, h⟩ := bind_eq_ok h
    obtain ⟨read, -, h⟩ := bind_eq_ok h
    rw [call?, hid]
    cases h
    exact ⟨_, _, rfl⟩
  | duplicate handle name =>
    obtain ⟨id, hid, h⟩ := bind_eq_ok h
    obtain ⟨copy, -, h⟩ := bind_eq_ok h
    rw [call?, hid]
    cases copy <;> cases h <;> exact ⟨_, _, rfl⟩
  | expectOpen since handles =>
    obtain ⟨generation, -, h⟩ := bind_eq_ok h
    obtain ⟨want, -, h⟩ := bind_eq_ok h
    cases h
    exact ⟨_, _, rfl⟩
  | expectClosed handles =>
    obtain ⟨want, -, h⟩ := bind_eq_ok h
    cases h
    exact ⟨_, _, rfl⟩
  | _ =>
    cases h
    exact ⟨_, _, rfl⟩

/-- The calls of steps leave the recorder in its place. -/
theorem call?_keepsHook {r : Replay} {s : Step} {call : Session.Call String}
    (h : r.call? s = some call) : call.KeepsHook := by
  cases s with
  | openHandle name value => cases h; trivial
  | close handle expect =>
    obtain ⟨id, -, rfl⟩ := Option.map_eq_some_iff.1 h
    trivial
  | dereference handle expect value =>
    obtain ⟨id, -, rfl⟩ := Option.map_eq_some_iff.1 h
    trivial
  | duplicate handle name =>
    obtain ⟨id, -, rfl⟩ := Option.map_eq_some_iff.1 h
    trivial
  | newGeneration label expect => cases h; trivial
  | resize size => cases h; trivial
  | _ => cases h

end Scenario.Replay

end HandleWatch
