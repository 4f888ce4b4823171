import HandleWatch.Text.Blank
import Mathlib.Data.List.DropRight

/-!
# Blanks at the ends of a text

What is left of a text without the blanks at its ends. Nothing else is taken away
(`exists_eq_append_trimBlanks`), and all blanks are, on either side
(`trimBlanks_append`, `trimBlanks_append_left`).
-/

namespace HandleWatch

theorem trimBlanks_eq (s : List Char) :
    trimBlanks s = (s.dropWhile isBlank).rdropWhile isBlank := rfl

/-- Nothing is left of a text of blanks, and of no other. -/
theorem trimBlanks_eq_nil_iff {s : List Char} : trimBlanks s = [] ↔ s.all isBlank = true := by
  rw [trimBlanks_eq, List.rdropWhile_eq_nil_iff, List.all_eq_true]
  constructor
  · intro h c hc
    rw [← List.takeWhile_append_dropWhile (p := isBlank) (l := s), List.mem_append] at hc
    rcases hc with hc | hc
    · exact List.mem_takeWhile_imp hc
    · exact h c hc
  · exact fun h c hc => h c ((List.dropWhile_sublist isBlank).subset hc)

/-- A blank at the end is trimmed off. -/
theorem trimBlanks_concat (s : List Char) {c : Char} (hc : isBlank c = true) :
    trimBlanks (s ++ [c]) = trimBlanks s := by
  by_cases hs : s.all isBlank = true
  · have hall : (s ++ [c]).all isBlank = true := by simp [hs, hc]
    rw [trimBlanks_eq_nil_iff.2 hs, trimBlanks_eq_nil_iff.2 hall]
  · have hfront : (s ++ [c]).dropWhile isBlank = s.dropWhile isBlank ++ [c] := by
      rw [List.dropWhile_append, if_neg]
      rw [List.isEmpty_iff, List.dropWhile_eq_nil_iff, ← List.all_eq_true]
      exact hs
    rw [trimBlanks_eq, hfront, List.rdropWhile_concat_pos _ _ _ hc, trimBlanks_eq]

/-- Blanks at the end make no difference. -/
theorem trimBlanks_append (s : List Char) {back : List Char} (hback : back.all isBlank = true) :
    trimBlanks (s ++ back) = trimBlanks s := by
  induction back using List.reverseRecOn with
  | nil => rw [List.append_nil]
  | append_singleton back c ih =>
    rw [List.all_append, Bool.and_eq_true] at hback
    have hc : isBlank c = true := by simpa using hback.2
    rw [← List.append_assoc, trimBlanks_concat _ hc, ih hback.1]

/-- Blanks at the beginning make no difference. -/
theorem trimBlanks_append_left {front : List Char} (hfront : front.all isBlank = true)
    (s : List Char) : trimBlanks (front ++ s) = trimBlanks s := by
  rw [trimBlanks_eq, List.dropWhile_append_of_pos (List.all_eq_true.1 hfront), trimBlanks_eq]

/-- Nothing is trimmed off if the first and the last character are not blank. -/
theorem trimBlanks_eq_self {c d : Char} {s : List Char} (hc : isBlank c = false)
    (hd : isBlank d = false) (hlast : [d] <:+ s) : trimBlanks (c :: s) = c :: s := by
  obtain ⟨inner, rfl⟩ := hlast
  have hfront : (c :: (inner ++ [d])).dropWhile isBlank = c :: (inner ++ [d]) :=
    List.dropWhile_cons_of_neg (by simp [hc])
  have hback : (d :: (c :: inner).reverse).dropWhile isBlank = d :: (c :: inner).reverse :=
    List.dropWhile_cons_of_neg (by simp [hd])
  rw [trimBlanks, hfront, ← List.cons_append, List.reverse_concat, hback, List.reverse_cons,
    List.reverse_reverse]

theorem trimBlanks_of_forall {s : List Char} (h : ∀ c ∈ s, isBlank c = false) :
    trimBlanks s = s := by
  have hfront : s.dropWhile isBlank = s :=
    List.dropWhile_eq_self_iff.2 fun hs => by simp [h _ (List.getElem_mem hs)]
  rw [trimBlanks_eq, hfront, List.rdropWhile_eq_self_iff]
  exact fun hs => by simp [h _ (List.getLast_mem hs)]

/-- Only blanks are trimmed off, on either side. -/
theorem exists_eq_append_trimBlanks (s : List Char) :
    ∃ front back, s = front ++ trimBlanks s ++ back ∧ front.all isBlank = true ∧
      back.all isBlank = true := by
  refine ⟨s.takeWhile isBlank, (s.dropWhile isBlank).rtakeWhile isBlank, ?_, ?_, ?_⟩
  · rw [trimBlanks_eq, List.append_assoc, List.rdropWhile_append_rtakeWhile,
      List.takeWhile_append_dropWhile]
  · exact List.all_eq_true.2 fun c hc => List.mem_takeWhile_imp hc
  · exact List.all_eq_true.2 fun c hc => List.mem_rtakeWhile_imp hc

end HandleWatch
