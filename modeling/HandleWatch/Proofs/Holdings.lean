import HandleWatch.OpenTable
import HandleWatch.Quarantine
import Mathlib.Data.List.Nodup
import Mathlib.Tactic.ByContra

/-!
# What the table and the quarantine hold

Handles move from the table of open handles to the quarantine and out of it.
On the way only their state changes, so whatever is read off the handles
without it moves along unchanged:

* `OpenTable.remove?_eq_some_iff`: taking out a handle splits the table there;
* `Quarantine.push_map`, `Quarantine.resize_map`: the handles that leave the
  quarantine, followed by those that stay, are the ones that were there before,
  in their order (and so, with the table, `Quarantine.push_perm`);
* `Quarantine.push_length`, `Quarantine.resize_length`: no handle leaves that
  there is room for.
-/

namespace HandleWatch

open scoped List

variable {α β : Type}

namespace Handle

/-- What is read off a handle without its state. -/
def Stateless (f : Handle α → β) : Prop := ∀ h state, f (advance h state) = f h

theorem Stateless.comp_advance {f : Handle α → β} (hf : Stateless f) (state : HandleState) :
    f ∘ (·.advance state) = f := funext fun h => hf h state

/-- The id of a handle does not depend on its state. -/
theorem stateless_id : Stateless (id : Handle α → HandleId) := fun h state => by
  unfold advance
  split <;> rfl

theorem stateless_referent : Stateless (referent : Handle α → Referent α) := fun h state => by
  unfold advance
  split <;> rfl

end Handle

namespace OpenTable

/-- The ids that are open, the longest open first. -/
def ids (t : OpenTable α) : List HandleId := t.handles.map Handle.id

theorem find?_eq_none_iff {t : OpenTable α} {id : HandleId} :
    t.find? id = none ↔ id ∉ t.ids := by
  simp only [find?, List.find?_eq_none, ids, List.mem_map, decide_eq_true_eq]
  exact ⟨fun h ⟨x, hx, he⟩ => h x hx he, fun h x hx he => h ⟨x, hx, he⟩⟩

theorem has_iff {t : OpenTable α} {id : HandleId} : t.has id = true ↔ id ∈ t.ids := by
  rw [has, Option.isSome_iff_ne_none, ne_eq, find?_eq_none_iff, Classical.not_not]

theorem has_eq_false_iff {t : OpenTable α} {id : HandleId} : t.has id = false ↔ id ∉ t.ids := by
  rw [← has_iff, Bool.not_eq_true]

/-- The handle that is found is the first one of its id. -/
theorem find?_eq_some_iff {t : OpenTable α} {id : HandleId} {h : Handle α} :
    t.find? id = some h ↔ h.id = id ∧ ∃ before after,
      t.handles = before ++ h :: after ∧ ∀ x ∈ before, x.id ≠ id := by
  simp [find?, List.find?_eq_some_iff_append]

/-- Taking out a handle splits the table there. -/
theorem remove?_eq_some_iff {t t' : OpenTable α} {id : HandleId} {h : Handle α} :
    t.remove? id = some (h, t') ↔ h.id = id ∧ ∃ before after,
      t.handles = before ++ h :: after ∧ (∀ x ∈ before, x.id ≠ id) ∧
        t' = { t with handles := before ++ after } := by
  have herase : ∀ before after, h.id = id → (∀ x ∈ before, x.id ≠ id) →
      (before ++ h :: after).eraseP (fun x => x.id = id) = before ++ after := by
    intro before after hid hbefore
    rw [List.eraseP_append_right _ (by simpa using hbefore), List.eraseP_cons_of_pos (by simpa)]
  constructor
  · intro hr
    unfold remove? at hr
    split at hr
    · cases hr
    · next found hf =>
      obtain ⟨rfl, rfl⟩ := Prod.mk.inj (Option.some.inj hr)
      obtain ⟨hid, before, after, hsplit, hbefore⟩ := find?_eq_some_iff.1 hf
      exact ⟨hid, before, after, hsplit, hbefore, by rw [hsplit, herase before after hid hbefore]⟩
  · rintro ⟨hid, before, after, hsplit, hbefore, rfl⟩
    rw [remove?, find?_eq_some_iff.2 ⟨hid, before, after, hsplit, hbefore⟩]
    simp only [hsplit, herase before after hid hbefore]

theorem remove?_eq_none_iff {t : OpenTable α} {id : HandleId} :
    t.remove? id = none ↔ id ∉ t.ids := by
  rw [← find?_eq_none_iff, remove?]
  cases t.find? id <;> simp

theorem mem_ids_of_remove? {t : OpenTable α} {id : HandleId} {removed : Handle α × OpenTable α}
    (h : t.remove? id = some removed) : id ∈ t.ids := by
  by_contra hid
  rw [remove?_eq_none_iff.2 hid] at h
  cases h

/-- A handle with a fresh id is found under it, and the others as before. -/
theorem find?_concat {t : OpenTable α} {h : Handle α} (fresh : h.id ∉ t.ids) (n : Nat)
    (id : HandleId) :
    find? ⟨t.handles ++ [h], n⟩ id = if h.id = id then some h else t.find? id := by
  have happend : find? ⟨t.handles ++ [h], n⟩ id =
      (t.find? id).or ([h].find? fun x => x.id = id) := List.find?_append
  rw [happend]
  split
  · next hid =>
    rw [find?_eq_none_iff.2 (hid ▸ fresh), List.find?_cons_of_pos (by simpa using hid)]
    rfl
  · next hid =>
    rw [List.find?_cons_of_neg (by simpa using hid), List.find?_nil, Option.or_none]

/-- Where the ids are distinct, no other handle has the id of one. -/
theorem nodup_of_split {t : OpenTable α} {h : Handle α} {before after : List (Handle α)}
    (distinct : t.ids.Nodup) (hsplit : t.handles = before ++ h :: after) :
    h.id ∉ (before ++ after).map Handle.id ∧ ((before ++ after).map Handle.id).Nodup := by
  rw [ids, hsplit, List.map_append, List.map_cons, List.nodup_middle, List.nodup_cons,
    ← List.map_append] at distinct
  exact distinct

/-- A handle that is taken out is not found any more, and the others as before. -/
theorem find?_removed {t : OpenTable α} {h : Handle α} {before after : List (Handle α)}
    (distinct : t.ids.Nodup) (hsplit : t.handles = before ++ h :: after) (n : Nat)
    (id : HandleId) :
    find? ⟨before ++ after, n⟩ id = if h.id = id then none else t.find? id := by
  split
  · next hid =>
    subst hid
    exact find?_eq_none_iff.2 (nodup_of_split distinct hsplit).1
  · next hid =>
    rw [find?, find?, hsplit, List.find?_append, List.find?_append,
      List.find?_cons_of_neg (by simpa using hid)]

end OpenTable

namespace Quarantine

/-- The ids in quarantine, the longest closed first. -/
def ids (q : Quarantine α) : List HandleId := q.handles.map Handle.id

theorem find?_eq_none_iff {q : Quarantine α} {id : HandleId} :
    q.find? id = none ↔ id ∉ q.ids := by
  simp only [find?, List.find?_eq_none, ids, List.mem_map, List.mem_reverse, decide_eq_true_eq]
  exact ⟨fun h ⟨x, hx, he⟩ => h x hx he, fun h x hx he => h ⟨x, hx, he⟩⟩

/-- Nothing is lost, and nothing overtakes anything, on the way out. -/
theorem trim_map {f : Handle α → β} (hf : Handle.Stateless f) (q : Quarantine α) :
    q.trim.1.handles.map f ++ q.trim.2.handles.map f = q.handles.map f := by
  rw [trim, List.map_map, hf.comp_advance, ← List.map_append, List.take_append_drop]

/-- The handles that leave are the first ones. -/
theorem trim_evicted_map {f : Handle α → β} (hf : Handle.Stateless f) (q : Quarantine α) :
    q.trim.1.handles.map f = (q.handles.map f).take (q.handles.length - q.capacity) := by
  rw [trim, List.map_map, hf.comp_advance, List.map_take]

/-- What a handle drives out of the quarantine are the oldest ones, itself included if there
    is no room at all. -/
theorem push_evicted_map {f : Handle α → β} (hf : Handle.Stateless f) (q : Quarantine α)
    (h : Handle α) :
    (q.push h).1.handles.map f =
      ((q.handles ++ [h]).take (q.handles.length + 1 - q.capacity)).map f := by
  rw [push, trim_evicted_map hf, List.map_append, List.map_singleton, hf, List.map_take,
    List.map_append, List.map_singleton, List.length_append, List.length_singleton]

/-- What a smaller capacity drives out are the oldest ones. -/
theorem resize_evicted_map {f : Handle α → β} (hf : Handle.Stateless f) (q : Quarantine α)
    (n : Nat) :
    (q.resize n).1.handles.map f = (q.handles.take (q.handles.length - n)).map f := by
  rw [resize, trim_evicted_map hf, List.map_take]

/-- A handle that is put into quarantine leaves it or stays, after those before it. -/
theorem push_map {f : Handle α → β} (hf : Handle.Stateless f) (q : Quarantine α)
    (h : Handle α) :
    (q.push h).1.handles.map f ++ (q.push h).2.handles.map f = q.handles.map f ++ [f h] := by
  rw [push, trim_map hf, List.map_append, List.map_singleton, hf]

/-- A change of the capacity loses no handle. -/
theorem resize_map {f : Handle α → β} (hf : Handle.Stateless f) (q : Quarantine α) (n : Nat) :
    (q.resize n).1.handles.map f ++ (q.resize n).2.handles.map f = q.handles.map f :=
  trim_map hf _

/-- A handle that goes from between `before` and `after` to the quarantine, and
    those that leave it for that: nothing is lost. -/
theorem push_perm {f : Handle α → β} (hf : Handle.Stateless f) (q : Quarantine α)
    (before after : List (Handle α)) (h : Handle α) :
    (q.push h).1.handles.map f ++ (before ++ after ++ (q.push h).2.handles).map f ~
      (before ++ h :: after ++ q.handles).map f := by
  rw [List.map_append]
  calc (q.push h).1.handles.map f ++ ((before ++ after).map f ++ (q.push h).2.handles.map f)
    _ ~ (before ++ after).map f ++
          ((q.push h).1.handles.map f ++ (q.push h).2.handles.map f) :=
      List.perm_append_comm_assoc _ _ _
    _ = before.map f ++ (after.map f ++ q.handles.map f ++ [f h]) := by
      rw [push_map hf, List.map_append, List.append_assoc, List.append_assoc]
    _ ~ before.map f ++ f h :: (after.map f ++ q.handles.map f) :=
      (List.perm_append_singleton _ _).append_left _
    _ = (before ++ h :: after ++ q.handles).map f := by
      rw [List.map_append, List.map_append, List.map_cons, List.append_assoc, List.cons_append]

/-- Handles that leave the quarantine when its capacity changes: nothing is
    lost. -/
theorem resize_perm {f : Handle α → β} (hf : Handle.Stateless f) (q : Quarantine α)
    (others : List (Handle α)) (n : Nat) :
    (q.resize n).1.handles.map f ++ (others ++ (q.resize n).2.handles).map f ~
      (others ++ q.handles).map f := by
  rw [List.map_append]
  calc (q.resize n).1.handles.map f ++ (others.map f ++ (q.resize n).2.handles.map f)
    _ ~ others.map f ++ ((q.resize n).1.handles.map f ++ (q.resize n).2.handles.map f) :=
      List.perm_append_comm_assoc _ _ _
    _ = (others ++ q.handles).map f := by rw [resize_map hf, List.map_append]

/-- The quarantine is filled as far as the capacity goes. -/
theorem trim_length (q : Quarantine α) :
    q.trim.2.handles.length = min q.handles.length q.capacity := by
  rw [trim, List.length_drop]
  omega

theorem push_length (q : Quarantine α) (h : Handle α) :
    (q.push h).2.handles.length = min (q.handles.length + 1) q.capacity := by
  rw [push, trim_length, List.length_append, List.length_singleton]

theorem resize_length (q : Quarantine α) (n : Nat) :
    (q.resize n).2.handles.length = min q.handles.length n := trim_length _

/-- What stays after a push are the last ones of those before and the new one. -/
theorem push_suffix (q : Quarantine α) (h : Handle α) :
    (q.push h).2.handles <:+ q.handles ++ [h.advance .quarantined] := List.drop_suffix _ _

theorem resize_suffix (q : Quarantine α) (n : Nat) :
    (q.resize n).2.handles <:+ q.handles := List.drop_suffix _ _

end Quarantine

end HandleWatch
