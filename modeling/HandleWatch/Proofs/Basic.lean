import Mathlib.Tactic.SplitIfs

/-!
# Results and lists of pairs

Facts on `Except` and on looking up a key that have nothing to do with handles. What a
sequence of steps comes to is told by the steps: if it succeeds they all did
(`Except.bind_eq_ok`), and over a list it fails as the first item that does
(`Except.mapM_eq_error`).
-/

namespace Except

variable {ε α β : Type}

/-- If two steps succeed, the first one did, and then the second with what it gave. -/
theorem bind_eq_ok {x : Except ε α} {f : α → Except ε β} {b : β} (h : x >>= f = .ok b) :
    ∃ a, x = .ok a ∧ f a = .ok b := by
  cases x with
  | error e => cases h
  | ok a => exact ⟨a, rfl, h⟩

/-- Two steps succeed if both do. -/
theorem bind_of_ok {x : Except ε α} {f : α → Except ε β} {a : α} (hx : x = .ok a)
    (hf : ∃ b, f a = .ok b) : ∃ b, x >>= f = .ok b := by
  rw [hx]
  exact hf

/-- A step succeeds on a list if it does on every item. -/
theorem mapM_eq_ok {f : α → Except ε β} {l : List α} (h : ∀ a ∈ l, ∃ b, f a = .ok b) :
    ∃ bs, l.mapM f = .ok bs := by
  induction l with
  | nil => exact ⟨[], rfl⟩
  | cons a l ih =>
    obtain ⟨⟨b, hb⟩, hl⟩ := List.forall_mem_cons.1 h
    obtain ⟨bs, hbs⟩ := ih hl
    rw [List.mapM_cons, hb, hbs]
    exact ⟨b :: bs, rfl⟩

/-- A step fails on a list as it does on the first item on which it fails. -/
theorem mapM_eq_error {f : α → Except ε β} {earlier later : List α} {a : α} {e : ε}
    (hearlier : ∀ a ∈ earlier, ∃ b, f a = .ok b) (ha : f a = .error e) :
    (earlier ++ a :: later).mapM f = .error e := by
  obtain ⟨bs, hbs⟩ := mapM_eq_ok hearlier
  rw [List.mapM_append, hbs, List.mapM_cons, ha]
  rfl

/-- So that a result without its error, which may not be decidable, can be evaluated. -/
theorem eq_ok_of_toOption {x : Except ε α} {a : α} (h : x.toOption = some a) : x = .ok a := by
  cases x with
  | error e => cases h
  | ok a' => exact congrArg _ (Option.some.inj h)

end Except

namespace List

variable {κ β : Type} [DecidableEq κ]

theorem lookup_cons_eq_ite (k name : κ) (b : β) (l : List (κ × β)) :
    ((name, b) :: l).lookup k = if k = name then some b else l.lookup k := by
  by_cases h : k = name
  · rw [if_pos h, h, lookup_cons_self]
  · rw [if_neg h, lookup_cons, beq_false_of_ne h]

/-- A key is found if it is the first one, or is found further on. -/
theorem lookup_cons_ne_none_iff {k name : κ} {b : β} {l : List (κ × β)} :
    ((name, b) :: l).lookup k ≠ none ↔ name = k ∨ l.lookup k ≠ none := by
  rw [lookup_cons_eq_ite, eq_comm (a := name)]
  split_ifs with h <;> simp [h]

end List
