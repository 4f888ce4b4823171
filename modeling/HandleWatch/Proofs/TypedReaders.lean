import HandleWatch.Proofs.CanonicalJson
import Mathlib.Data.List.Forall2

/-!
# Readers of other things than values

A scenario is not read as a JSON value that is looked at later: its readers give steps
and fields as they go on, and stop as soon as one is not as it should be. Still, where
such a reader gives something there is a JSON value, and it ends where the reader stopped
(`Reads`). This carries over from the readers of items and fields to those of arrays and
objects, which read the same brackets, commas and keys as the reader of values:

* `reads_scalarAs`, `Reads.items`, `ReadsFields.members`: scalars, arrays and objects;
* `Listed`: the fields of an object with what was made of each, which may depend on the
  keys before it.
-/

namespace HandleWatch.Json

variable {α β : Type} {depth : Nat} {s t rest : List Char}

/-- Where the reader gives something, there is a value with at most `depth` nested
    brackets, which is in a relation to it. -/
def Reads (depth : Nat) (read : Reader α) (R : Value → α → Prop) : Prop :=
  ∀ ⦃s : List Char⦄ ⦃a : α⦄ ⦃rest : List Char⦄, read s = .ok (a, rest) →
    ∃ v, value depth s = .ok (v, rest) ∧ R v a

/-- A reader followed by a function reads what the reader does. -/
theorem Reads.mapped {read : Reader α} {R : Value → α → Prop} (h : Reads depth read R)
    (f : α → β) :
    Reads depth (fun s => Json.mapped f (read s)) fun v b => ∃ a, b = f a ∧ R v a := by
  intro s b rest hread
  obtain ⟨a, ha, hb⟩ := mapped_ok hread
  obtain ⟨v, hv, hR⟩ := h ha
  exact ⟨v, hv, a, hb, hR⟩

/-! ## Scalars -/

/-- How arrays and objects are read makes no difference to scalars. -/
theorem valueWith_of_scalar {array array' object object' : Char → Reader Value} {v : Value}
    (h : valueWith array object s = .ok (v, rest))
    (harray : ∀ c s, array c s ≠ .ok (v, rest)) (hobject : ∀ c s, object c s ≠ .ok (v, rest)) :
    valueWith array' object' s = .ok (v, rest) := by
  unfold valueWith at h ⊢
  cases hs : skipSpace s with
  | nil =>
    rw [hs] at h
    cases h
  | cons c t =>
    simp only [hs] at h ⊢
    by_cases hbracket : c = '['
    · subst hbracket
      exact absurd h (harray _ t)
    · by_cases hbrace : c = '\x7b'
      · subst hbrace
        exact absurd h (hobject _ t)
      · simp only [if_neg hbracket, if_neg hbrace] at h ⊢
        exact h

theorem value_eq_valueWith (depth : Nat) :
    ∃ array object, value depth = valueWith array object := by
  cases depth with
  | zero => exact ⟨_, _, rfl⟩
  | succ depth => exact ⟨_, _, rfl⟩

/-- A reader of scalars that accepts neither arrays nor objects reads a value and checks it.
    -/
theorem reads_scalarAs {check : Value → Except Cause α} (depth : Nat)
    (harray : ∀ a, check (.array []) ≠ .ok a) (hobject : ∀ a, check (.object []) ≠ .ok a) :
    Reads depth (scalarAs check) fun v a => check v = .ok a := by
  intro s a rest hread
  unfold scalarAs at hread
  split at hread
  · cases hread
  · next v t hscalar =>
    split at hread
    · next hcheck =>
      cases hread
      obtain ⟨array, object, hvalue⟩ := value_eq_valueWith depth
      refine ⟨v, ?_, hcheck⟩
      rw [hvalue]
      refine valueWith_of_scalar hscalar ?_ ?_
      · rintro c s ⟨⟩
        exact harray a hcheck
      · rintro c s ⟨⟩
        exact hobject a hcheck
    · cases hread

/-! ## Arrays -/

theorem value_of_bracket (hs : skipSpace s = '[' :: t) :
    value (depth + 1) s = Json.mapped Value.array (Json.items (value depth) t) := by
  rw [value, valueWith, hs]
  rfl

theorem value_of_brace (hs : skipSpace s = '\x7b' :: t) :
    value (depth + 1) s =
      members (anyField (value depth)) (fun fields => .ok (.object fields)) t := by
  rw [value, valueWith, hs]
  rfl

/-- What is read in brackets is an array or an object. -/
theorem bracketed_ok {expected : String} {array : Reader α} {object : Option (Reader α)} {a : α}
    (h : bracketed expected array object s = .ok (a, rest)) :
    (∃ t, skipSpace s = '[' :: t ∧ array t = .ok (a, rest)) ∨
      ∃ read t, object = some read ∧ skipSpace s = '\x7b' :: t ∧ read t = .ok (a, rest) := by
  have hscalar : ∀ {s : List Char},
      scalarAs (fun v => Except.error (Cause.wrongKind v.found expected)) s ≠ .ok (a, rest) := by
    intro s hs
    obtain ⟨v, -, hv⟩ := reads_scalarAs 0 (fun _ => by rintro ⟨⟩) (fun _ => by rintro ⟨⟩) hs
    cases hv
  unfold bracketed at h
  split at h
  · cases h
  · next c t hs =>
    split at h
    · next hc => exact .inl ⟨t, hc ▸ hs, h⟩
    · split at h
      · next read =>
        split at h
        · next hc => exact .inr ⟨read, t, rfl, hc ▸ hs, h⟩
        · exact absurd h hscalar
      · exact absurd h hscalar

/-- A reader of items reads the items of an array, one by one. -/
theorem Reads.itemsUpTo {item : Reader α} {R : Value → α → Prop} (h : Reads depth item R)
    {fuel : Nat} {first : Bool} {as : List α}
    (hread : Json.itemsUpTo item fuel first s = .ok (as, rest)) :
    ∃ vs, Json.itemsUpTo (value depth) fuel first s = .ok (vs, rest) ∧ List.Forall₂ R vs as := by
  induction fuel generalizing first s as with
  | zero =>
    cases hread
    exact ⟨[], rfl, .nil⟩
  | succ fuel ih =>
    -- The array ends, or there is an item and the rest follows.
    rw [Json.itemsUpTo] at hread
    split at hread
    · cases hread
    · next hnext =>
      cases hread
      refine ⟨[], ?_, .nil⟩
      rw [Json.itemsUpTo, hnext]
    · next hnext =>
      split at hread
      · cases hread
      · next a t hitem =>
        split at hread
        · cases hread
        · next as hitems =>
          cases hread
          obtain ⟨v, hv, hR⟩ := h hitem
          obtain ⟨vs, hvs, hRs⟩ := ih hitems
          exact ⟨v :: vs, itemsUpTo_step hnext hv hvs, .cons hR hRs⟩

theorem Reads.items {item : Reader α} {R : Value → α → Prop} (h : Reads depth item R)
    {as : List α} (hread : Json.items item s = .ok (as, rest)) :
    ∃ vs, Json.items (value depth) s = .ok (vs, rest) ∧ List.Forall₂ R vs as := by
  obtain ⟨t, hitems, hclose⟩ := closing_eq_ok_iff.1 hread
  obtain ⟨vs, hvs, hR⟩ := h.itemsUpTo hitems
  exact ⟨vs, closing_eq_ok_iff.2 ⟨t, hvs, hclose⟩, hR⟩

/-! ## Objects -/

/-- The fields of an object with what was made of each. The relation may depend on the
    keys before, the latest first. -/
inductive Listed (R : List String → String → Value → α → Prop) :
    List String → List (String × Value) → List α → Prop
  | nil {seen : List String} : Listed R seen [] []
  | cons {seen : List String} {k : String} {v : Value} {a : α} {fields : List (String × Value)}
      {as : List α} (field : R seen k v a) (rest : Listed R (k :: seen) fields as) :
      Listed R seen ((k, v) :: fields) (a :: as)

/-- What a reader of fields gives is in a relation to the values of the fields. -/
def ReadsFields (depth : Nat) (member : List String → String → Reader α)
    (R : List String → String → Value → α → Prop) : Prop :=
  ∀ ⦃seen : List String⦄ ⦃k : String⦄ ⦃s : List Char⦄ ⦃a : α⦄ ⦃rest : List Char⦄,
    member seen k s = .ok (a, rest) →
      ∃ v, anyField (value depth) seen k s = .ok ((k, v), rest) ∧ R seen k v a

/-- A reader of one value reads the member that has it. -/
theorem Reads.anyField {read : Reader α} {R : Value → α → Prop} (h : Reads depth read R) {a : α}
    (hcolon : colon s = .ok t) (hread : read t = .ok (a, rest)) (seen : List String)
    (k : String) : ∃ v, Json.anyField (value depth) seen k s = .ok ((k, v), rest) ∧ R v a := by
  obtain ⟨v, hv, hR⟩ := h hread
  refine ⟨v, ?_, hR⟩
  simp only [Json.anyField, hcolon, hv]

section Members

variable {member : List String → String → Reader α}
  {R : List String → String → Value → α → Prop}

/-- A reader of members reads the members of an object, one by one. -/
theorem ReadsFields.membersUpTo (h : ReadsFields depth member R) {fuel : Nat}
    {seen : List String} {as : List α}
    (hread : Json.membersUpTo member fuel seen s = .ok (as, rest)) :
    ∃ fields, Json.membersUpTo (anyField (value depth)) fuel seen s = .ok (fields, rest) ∧
      Listed R seen fields as := by
  induction fuel generalizing seen s as with
  | zero =>
    cases hread
    exact ⟨[], rfl, .nil⟩
  | succ fuel ih =>
    -- The keys that were seen are the same for both readers.
    rw [Json.membersUpTo] at hread
    split at hread
    · cases hread
    · next hnext =>
      cases hread
      refine ⟨[], ?_, .nil⟩
      rw [Json.membersUpTo, hnext]
    · next k t hnext =>
      split at hread
      · cases hread
      · next a t hmember =>
        split at hread
        · cases hread
        · next as hmembers =>
          cases hread
          obtain ⟨v, hv, hR⟩ := h hmember
          obtain ⟨fields, hfields, hRs⟩ := ih hmembers
          exact ⟨(k, v) :: fields, membersUpTo_step seen hnext hv hfields, .cons hR hRs⟩

theorem ReadsFields.members (h : ReadsFields depth member R) {check : List α → Except Cause β}
    {b : β} (hread : Json.members member check s = .ok (b, rest)) :
    ∃ fields as,
      Json.members (anyField (value depth)) (fun fields => .ok (Value.object fields)) s =
        .ok (.object fields, rest) ∧ Listed R [] fields as ∧ check as = .ok b := by
  obtain ⟨t, hchecked, hclose⟩ := closing_eq_ok_iff.1 hread
  obtain ⟨as, hmembers, hcheck⟩ := checked_ok hchecked
  obtain ⟨fields, hfields, hR⟩ := h.membersUpTo hmembers
  refine ⟨fields, as, closing_eq_ok_iff.2 ⟨t, ?_, hclose⟩, hR, hcheck⟩
  rw [hfields]
  rfl

end Members

namespace Listed

variable {R : List String → String → Value → α → Prop} {seen : List String}
  {fields : List (String × Value)} {as : List α}

/-- What was read of members was read of one of them. -/
theorem exists_field (h : Listed R seen fields as) {a : α} (ha : a ∈ as) :
    ∃ seen k v, (k, v) ∈ fields ∧ R seen k v a := by
  induction h with
  | nil => exact absurd ha List.not_mem_nil
  | cons hfield _ ih =>
    rcases List.mem_cons.1 ha with rfl | ha
    · exact ⟨_, _, _, List.mem_cons_self, hfield⟩
    · obtain ⟨seen, k, v, hmem, hR⟩ := ih ha
      exact ⟨seen, k, v, List.mem_cons_of_mem _ hmem, hR⟩

/-- Every member was read. -/
theorem exists_made (h : Listed R seen fields as) {k : String} {v : Value}
    (hf : (k, v) ∈ fields) : ∃ seen a, R seen k v a := by
  induction h with
  | nil => exact absurd hf List.not_mem_nil
  | cons hfield _ ih =>
    rcases List.mem_cons.1 hf with heq | hf
    · cases heq
      exact ⟨_, _, hfield⟩
    · exact ih hf

/-- A key that may not come again is there at most once. -/
theorem count_key (h : Listed R seen fields as) {k : String}
    (honce : ∀ seen v a, R seen k v a → k ∉ seen) :
    (fields.map Prod.fst).count k ≤ 1 ∧ (k ∈ seen → (fields.map Prod.fst).count k = 0) := by
  induction h with
  | nil => exact ⟨Nat.zero_le 1, fun _ => rfl⟩
  | @cons seen k' v a fields as hfield _ ih =>
    rw [List.map_cons]
    by_cases hk : k' = k
    · subst hk
      rw [List.count_cons_self, ih.2 List.mem_cons_self]
      exact ⟨Nat.le_refl 1, fun hseen => absurd hseen (honce _ _ _ hfield)⟩
    · rw [List.count_cons_of_ne hk]
      exact ⟨ih.1, fun hseen => ih.2 (List.mem_cons_of_mem _ hseen)⟩

end Listed

end HandleWatch.Json
