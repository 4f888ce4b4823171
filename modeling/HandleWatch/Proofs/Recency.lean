import Mathlib.Data.List.Induction

/-!
# What is recent in a history

A history is a list of events, and grows at its end. Two notions are shared by the
histories of handles, of builders and of leak windows:

* `Recency.Since`: the events after one of a kind, if none of another kind is
  among them, such as those since a builder was opened and not finished;
* `Recency.Stays`: a memory of bounded size takes in something at some of the
  events and gives up the oldest first; what it took in last stays as long as, at
  every point since then, fewer things came after it than could be kept.

Both are followed along a history by what one more event does to them
(`Recency.since_concat`, `Recency.stays_concat`).
-/

namespace HandleWatch.Recency

variable {ε γ : Type}

/-- Where an event stands in a history with one more at its end: it is that one,
    or it stood there before. -/
theorem concat_eq_append_cons {events before after : List ε} {e e' : ε}
    (h : events ++ [e] = before ++ e' :: after) :
    (events = before ∧ e = e' ∧ after = []) ∨
      ∃ rest, events = before ++ e' :: rest ∧ after = rest ++ [e] := by
  induction after using List.reverseRecOn with
  | nil =>
    obtain ⟨hevents, hlast⟩ := List.append_inj' h rfl
    exact .inl ⟨hevents, List.singleton_inj.1 hlast, rfl⟩
  | append_singleton rest last _ =>
    rw [← List.cons_append, ← List.append_assoc] at h
    obtain ⟨hevents, hlast⟩ := List.append_inj' h rfl
    exact .inr ⟨rest, hevents, by rw [List.singleton_inj.1 hlast]⟩

/-! ## Since an event -/

/-- The events `after` are those since one with `p`, and none of them has `q`. -/
def Since (p q : ε → Prop) (events after : List ε) : Prop :=
  ∃ before e, events = before ++ e :: after ∧ p e ∧ ∀ e' ∈ after, ¬q e'

theorem not_since_nil (p q : ε → Prop) (after : List ε) : ¬Since p q [] after := by
  rintro ⟨before, e, hsplit, -⟩
  exact absurd hsplit (List.append_ne_nil_of_right_ne_nil _ (List.cons_ne_nil _ _)).symm

/-- One more event. -/
theorem since_concat {p q : ε → Prop} {events after : List ε} {e : ε} :
    Since p q (events ++ [e]) after ↔
      (after = [] ∧ p e) ∨ ∃ rest, after = rest ++ [e] ∧ Since p q events rest ∧ ¬q e := by
  constructor
  · rintro ⟨before, e', hsplit, hp, hq⟩
    rcases concat_eq_append_cons hsplit with ⟨-, rfl, rfl⟩ | ⟨rest, hevents, rfl⟩
    · exact .inl ⟨rfl, hp⟩
    · rw [List.forall_mem_append] at hq
      exact .inr ⟨rest, rfl, ⟨before, e', hevents, hp, hq.1⟩, hq.2 e List.mem_cons_self⟩
  · rintro (⟨rfl, hp⟩ | ⟨rest, rfl, ⟨before, e', rfl, hp, hq⟩, hnot⟩)
    · exact ⟨events, e, rfl, hp, List.forall_mem_nil _⟩
    · refine ⟨before, e', by rw [List.append_assoc, List.cons_append], hp, ?_⟩
      exact List.forall_mem_append.2 ⟨hq, List.forall_mem_singleton.2 hnot⟩

/-! ## Memories of bounded size -/

/-- What was taken in last in `before` stays throughout `after`: at every point,
    fewer things were taken in after it than the bound allows. -/
def Stays (adds : ε → Option γ) (bound : List ε → Nat) (before after : List ε) : Prop :=
  ∀ upto, upto <+: after → (upto.filterMap adds).length < bound (before ++ upto)

/-- It stays at first if there is room for anything. -/
theorem stays_nil {adds : ε → Option γ} {bound : List ε → Nat} {before : List ε} :
    Stays adds bound before [] ↔ 0 < bound before := by
  simp [Stays]

/-- One more event. -/
theorem stays_concat {adds : ε → Option γ} {bound : List ε → Nat} {before after : List ε} {e : ε} :
    Stays adds bound before (after ++ [e]) ↔ Stays adds bound before after ∧
      ((after ++ [e]).filterMap adds).length < bound (before ++ (after ++ [e])) := by
  constructor
  · exact fun h => ⟨fun upto hupto => h upto (hupto.trans (List.prefix_append _ _)),
      h _ List.prefix_rfl⟩
  · rintro ⟨hold, hnew⟩ upto hupto
    rcases List.prefix_concat_iff.1 hupto with rfl | hupto
    · exact hnew
    · exact hold upto hupto

/-- What was taken in later stays if what was taken in earlier does. -/
theorem Stays.later {adds : ε → Option γ} {bound : List ε → Nat} {before between after : List ε}
    (h : Stays adds bound before (between ++ after)) :
    Stays adds bound (before ++ between) after := by
  intro upto hupto
  have hlonger := h (between ++ upto) ((List.prefix_append_right_inj between).2 hupto)
  rw [List.filterMap_append, List.length_append] at hlonger
  rw [List.append_assoc]
  omega

end HandleWatch.Recency
