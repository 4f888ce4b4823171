import HandleWatch.Proofs.LogRoundTrip
import Mathlib.Data.List.Induction
import Mathlib.Data.String.Basic

/-!
# Canonical forms

What is read from a text has no more nested brackets than the reader allows, which is
seen by turning the readers around: what a reader of arrays or objects gives holds only
what the reader of their parts gave (`itemsUpTo_ok`, `membersUpTo_ok`). Its canonical form
has no more brackets, and is its own canonical form, as keys that are in increasing order
stay where they are (`Fields.ofList_of_sorted`).

* `depth_le_of_parse`: how deeply a value that is read may be nested;
* `Value.canonical_canonical`, `Value.depth_canonical_le`: what canonical forms are like;
* `canonical_of_mem`, `depth_lt_of_mem`: so, what the fields of an object that is read are
  like.
-/

namespace HandleWatch.Json

/-! ## Values -/

/-- What holds of arrays and objects whenever it does of what they hold, and of scalars,
    holds of all values. -/
theorem Value.nested_induction {P : Value → Prop} (null : P .null) (bool : ∀ b, P (.bool b))
    (number : ∀ n, P (.number n)) (string : ∀ s, P (.string s))
    (array : ∀ items, (∀ v ∈ items, P v) → P (.array items))
    (object : ∀ fields, (∀ f ∈ fields, P f.2) → P (.object fields)) : ∀ v : Value, P v
  | .null => null
  | .bool b => bool b
  | .number n => number n
  | .string s => string s
  | .array items => array items fun v _ =>
    nested_induction null bool number string array object v
  | .object fields => object fields fun f _ =>
    nested_induction null bool number string array object f.2
termination_by v => sizeOf v
decreasing_by
  · next h =>
    have hitems := List.sizeOf_lt_of_mem h
    rw [Value.array.sizeOf_spec]
    omega
  · next h =>
    have hfields := List.sizeOf_lt_of_mem h
    have hvalue : sizeOf f.2 < sizeOf f := by
      cases f
      simp only [Prod.mk.sizeOf_spec]
      omega
    rw [Value.object.sizeOf_spec]
    omega

theorem itemsDepth_le_iff {items : List Value} {n : Nat} :
    itemsDepth items ≤ n ↔ ∀ v ∈ items, v.depth ≤ n := by
  induction items with
  | nil => simp [itemsDepth]
  | cons v items ih => rw [itemsDepth, Nat.max_le, ih, List.forall_mem_cons]

theorem canonicalItems_eq_map (items : List Value) :
    canonicalItems items = items.map Value.canonical := by
  induction items with
  | nil => rw [canonicalItems, List.map_nil]
  | cons v items ih => rw [canonicalItems, ih, List.map_cons]

namespace Fields

/-! ## Fields in order -/

/-- The keys are in increasing order, each once. -/
def Sorted (fields : Fields) : Prop := fields.Pairwise fun f g => f.1 < g.1

theorem ofList_concat (fields : List (String × Value)) (f : String × Value) :
    ofList (fields ++ [f]) = (ofList fields).insert f.1 f.2 := by
  rw [ofList, List.foldl_append]
  rfl

/-- Setting a field keeps the keys in order. -/
theorem Sorted.insert {fields : Fields} (h : fields.Sorted) (key : String) (value : Value) :
    (fields.insert key value).Sorted := by
  -- The new key goes before the first one, takes its place or goes further down, by how the
  -- two compare.
  induction fields with
  | nil => exact List.pairwise_singleton _ _
  | cons f fields ih =>
    obtain ⟨k, v⟩ := f
    obtain ⟨hfirst, hfields⟩ := List.pairwise_cons.1 h
    rw [Fields.insert]
    split
    · next hlt =>
      refine List.pairwise_cons.2 ⟨fun g hg => ?_, h⟩
      rcases List.mem_cons.1 hg with rfl | hg
      · exact hlt
      · exact hlt.trans (hfirst g hg)
    · split
      · next heq =>
        subst heq
        exact List.pairwise_cons.2 ⟨hfirst, hfields⟩
      · next hge hne =>
        refine List.pairwise_cons.2 ⟨fun g hg => ?_, ih hfields⟩
        rcases mem_of_mem_insert hg with rfl | hg
        · exact lt_of_le_of_ne (not_lt.1 hge) (Ne.symm hne)
        · exact hfirst g hg

/-- The keys of canonical fields are in order, however they were written. -/
theorem sorted_ofList (fields : List (String × Value)) : (ofList fields).Sorted := by
  induction fields using List.reverseRecOn with
  | nil => exact List.Pairwise.nil
  | append_singleton fields f ih =>
    rw [ofList_concat]
    exact ih.insert f.1 f.2

/-- A field with the greatest key is put at the end. -/
theorem insert_of_forall_lt {fields : Fields} {key : String} (h : ∀ f ∈ fields, f.1 < key)
    (value : Value) : fields.insert key value = fields ++ [(key, value)] := by
  induction fields with
  | nil => rfl
  | cons f fields ih =>
    obtain ⟨k, v⟩ := f
    obtain ⟨hfirst, hfields⟩ := List.forall_mem_cons.1 h
    rw [Fields.insert, if_neg hfirst.not_gt, if_neg hfirst.ne', ih hfields]
    rfl

/-- Keys that are in order stay where they are. -/
theorem ofList_of_sorted {fields : Fields} (h : fields.Sorted) : ofList fields = fields := by
  induction fields using List.reverseRecOn with
  | nil => rfl
  | append_singleton fields f ih =>
    obtain ⟨hfields, -, hlast⟩ := List.pairwise_append.1 h
    rw [ofList_concat, ih hfields,
      insert_of_forall_lt fun g hg => hlast g hg f (List.mem_singleton_self f)]

end Fields

/-! ## Canonical forms -/

/-- The values of a canonical object are the canonical forms of those that were written. -/
theorem exists_of_mem_canonical {fields : List (String × Value)} {f : String × Value}
    (h : f ∈ Fields.ofList (canonicalFields fields)) :
    ∃ g ∈ fields, f = (g.1, g.2.canonical) := by
  have hmem := Fields.mem_of_mem_ofList h
  rw [canonicalFields_eq_map, List.mem_map] at hmem
  obtain ⟨g, hg, hf⟩ := hmem
  exact ⟨g, hg, hf.symm⟩

namespace Value

/-- A canonical form is its own canonical form. -/
theorem canonical_canonical (v : Value) : v.canonical.canonical = v.canonical := by
  induction v using nested_induction with
  | null => rw [canonical, canonical]
  | bool b => rw [canonical, canonical]
  | number n => rw [canonical, canonical]
  | string s => rw [canonical, canonical]
  | array items ih =>
    rw [canonical, canonical, canonicalItems_eq_map, canonicalItems_eq_map, List.map_map]
    exact congrArg array (List.map_congr_left ih)
  | object fields ih =>
    -- The values are canonical already; that the keys are in order is what is left.
    have hvalues : canonicalFields (Fields.ofList (canonicalFields fields)) =
        Fields.ofList (canonicalFields fields) := by
      rw [canonicalFields_eq_map (Fields.ofList _), List.map_congr_left (g := id), List.map_id]
      intro f hf
      obtain ⟨g, hg, rfl⟩ := exists_of_mem_canonical hf
      exact Prod.ext rfl (ih g hg)
    rw [canonical, canonical, hvalues, Fields.ofList_of_sorted (Fields.sorted_ofList _)]

/-- A canonical form is nested no deeper. -/
theorem depth_canonical_le (v : Value) : v.canonical.depth ≤ v.depth := by
  induction v using nested_induction with
  | null => rw [canonical]
  | bool b => rw [canonical]
  | number n => rw [canonical]
  | string s => rw [canonical]
  | array items ih =>
    rw [canonical, depth, depth, canonicalItems_eq_map]
    refine Nat.succ_le_succ (itemsDepth_le_iff.2 (List.forall_mem_map.2 fun v hv => ?_))
    exact (ih v hv).trans (itemsDepth_le_iff.1 (Nat.le_refl _) v hv)
  | object fields ih =>
    rw [canonical, depth, depth]
    refine Nat.succ_le_succ (fieldsDepth_le_iff.2 fun f hf => ?_)
    obtain ⟨g, hg, rfl⟩ := exists_of_mem_canonical hf
    exact (ih g hg).trans (fieldsDepth_le_iff.1 (Nat.le_refl _) g hg)

end Value

/-! ## What a reader gives -/

section Readers

variable {α β : Type} {s rest : List Char}

theorem word_ok {a b : α} {cs : List Char} (h : word a cs s = .ok (b, rest)) : b = a := by
  induction cs generalizing s with
  | nil =>
    cases h
    rfl
  | cons c cs ih =>
    cases s with
    | nil => cases h
    | cons d s =>
      rw [word] at h
      split at h
      · exact ih h
      · cases h

/-- What was read through a function was read before it. -/
theorem mapped_ok {f : α → β} {r : Except Fault (α × List Char)} {b : β}
    (h : mapped f r = .ok (b, rest)) : ∃ a, r = .ok (a, rest) ∧ b = f a := by
  cases r with
  | error e => cases h
  | ok found =>
    cases h
    exact ⟨found.1, rfl, rfl⟩

/-- What passed a check was read, and is what the check makes of it. -/
theorem checked_ok {check : α → Except Cause β} {r : Except Fault (α × List Char)} {b : β}
    (h : checked check r = .ok (b, rest)) : ∃ a, r = .ok (a, rest) ∧ check a = .ok b := by
  unfold checked at h
  split at h
  · cases h
  · next a s =>
    split at h
    · next b' hb =>
      cases h
      exact ⟨a, rfl, hb⟩
    · cases h

/-- What stands in brackets was read, and the closing bracket was there. -/
theorem closing_eq_ok_iff {close : List Char → List Char × Option Fault}
    {r : Except Fault (α × List Char)} {a : α} :
    closing close r = .ok (a, rest) ↔ ∃ s, r = .ok (a, s) ∧ close s = (rest, none) := by
  constructor
  · intro h
    unfold closing at h
    split at h
    · next a' s =>
      split at h
      · next hclose =>
        cases h
        exact ⟨s, rfl, hclose⟩
      · cases h
    · split at h <;> cases h
  · rintro ⟨s, rfl, hclose⟩
    simp only [closing, hclose]

theorem closing_ok {close : List Char → List Char × Option Fault}
    {r : Except Fault (α × List Char)} {a : α} (h : closing close r = .ok (a, rest)) :
    ∃ s, r = .ok (a, s) :=
  (closing_eq_ok_iff.1 h).imp fun _ => And.left

/-- A text is read as a whole if only space is left of it. -/
theorem whole_eq_ok_iff {read : Reader α} {a : α} :
    whole read s = .ok a ↔ ∃ rest, read s = .ok (a, rest) ∧ skipSpace rest = [] := by
  constructor
  · intro h
    unfold whole at h
    split at h
    · cases h
    · next rest hread =>
      split at h
      · next hrest =>
        cases h
        exact ⟨rest, hread, hrest⟩
      · cases h
  · rintro ⟨rest, hread, hrest⟩
    simp only [whole, hread, hrest]

/-- What is in an array was read as an item. -/
theorem itemsUpTo_ok {item : Reader α} {fuel : Nat} {first : Bool} {as : List α}
    (h : itemsUpTo item fuel first s = .ok (as, rest)) :
    ∀ a ∈ as, ∃ s s', item s = .ok (a, s') := by
  -- By the fuel, one for each item at most; where it ends, so does the array.
  induction fuel generalizing first s as with
  | zero =>
    cases h
    exact List.forall_mem_nil _
  | succ fuel ih =>
    rw [itemsUpTo] at h
    split at h
    · cases h
    · cases h
      exact List.forall_mem_nil _
    · split at h
      · cases h
      · next a t hitem =>
        split at h
        · cases h
        · next hitems =>
          cases h
          exact List.forall_mem_cons.2 ⟨⟨_, _, hitem⟩, ih hitems⟩

/-- What is in an object was read as a field. -/
theorem membersUpTo_ok {member : List String → String → Reader α} {fuel : Nat}
    {seen : List String} {as : List α} (h : membersUpTo member fuel seen s = .ok (as, rest)) :
    ∀ a ∈ as, ∃ seen k s s', member seen k s = .ok (a, s') := by
  induction fuel generalizing seen s as with
  | zero =>
    cases h
    exact List.forall_mem_nil _
  | succ fuel ih =>
    rw [membersUpTo] at h
    split at h
    · cases h
    · cases h
      exact List.forall_mem_nil _
    · split at h
      · cases h
      · next a t hmember =>
        split at h
        · cases h
        · next hmembers =>
          cases h
          exact List.forall_mem_cons.2 ⟨⟨_, _, _, _, hmember⟩, ih hmembers⟩

/-- The value of a field was read as any value is. -/
theorem anyField_ok {nested : Reader Value} {seen : List String} {name : String}
    {f : String × Value} (h : anyField nested seen name s = .ok (f, rest)) :
    ∃ s, nested s = .ok (f.2, rest) := by
  unfold anyField at h
  split at h
  · cases h
  · next s _ =>
    split at h
    · cases h
    · next hnested =>
      cases h
      exact ⟨s, hnested⟩

/-- A value is a scalar, or was read as an array or as an object. -/
theorem valueWith_ok {array object : Char → Reader Value} {v : Value}
    (h : valueWith array object s = .ok (v, rest)) :
    v.depth = 0 ∨ (∃ c s, array c s = .ok (v, rest)) ∨ ∃ c s, object c s = .ok (v, rest) := by
  unfold valueWith at h
  split at h
  · cases h
  · next c s _ =>
    split_ifs at h
    · exact .inl (word_ok h ▸ rfl)
    · exact .inl (word_ok h ▸ rfl)
    · exact .inl (word_ok h ▸ rfl)
    · obtain ⟨n, -, rfl⟩ := mapped_ok h
      exact .inl rfl
    · obtain ⟨n, -, rfl⟩ := mapped_ok h
      exact .inl rfl
    · obtain ⟨t, -, rfl⟩ := mapped_ok h
      exact .inl rfl
    · exact .inr (.inl ⟨c, s, h⟩)
    · exact .inr (.inr ⟨c, s, h⟩)
    · cases h

end Readers

/-- The reader gives no value with more nested brackets than it is allowed. -/
theorem depth_le_of_value {depth : Nat} {s rest : List Char} {v : Value}
    (h : value depth s = .ok (v, rest)) : v.depth ≤ depth := by
  -- A bracket takes one off the depth that is left, and the values in it are read with the
  -- rest.
  induction depth generalizing s rest v with
  | zero =>
    rcases valueWith_ok h with hscalar | ⟨c, s, ⟨⟩⟩ | ⟨c, s, ⟨⟩⟩
    exact hscalar.le
  | succ depth ih =>
    rcases valueWith_ok h with hscalar | ⟨-, s, harray⟩ | ⟨-, s, hobject⟩
    · exact hscalar.le.trans (Nat.zero_le _)
    · obtain ⟨items, hitems, rfl⟩ := mapped_ok harray
      obtain ⟨s', hread⟩ := closing_ok hitems
      refine Nat.succ_le_succ (itemsDepth_le_iff.2 fun v hv => ?_)
      obtain ⟨_, _, hitem⟩ := itemsUpTo_ok hread v hv
      exact ih hitem
    · obtain ⟨s', hchecked⟩ := closing_ok hobject
      obtain ⟨fields, hread, hfields⟩ := checked_ok hchecked
      cases hfields
      refine Nat.succ_le_succ (fieldsDepth_le_iff.2 fun f hf => ?_)
      obtain ⟨_, _, _, _, hmember⟩ := membersUpTo_ok hread f hf
      obtain ⟨_, hvalue⟩ := anyField_ok hmember
      exact ih hvalue

/-- What is read from a text is nested no deeper than the limit. -/
theorem depth_le_of_parse {text : String} {v : Value} (h : parse text = .ok v) :
    v.depth ≤ nestingLimit := by
  obtain ⟨rest, hread, -⟩ := whole_eq_ok_iff.1 h
  exact depth_le_of_value hread

/-! ## The fields of an object that is read -/

/-- Each value in a canonical object is its own canonical form. -/
theorem canonical_of_mem {v : Value} {fields : Fields} (h : v.canonical = .object fields)
    {f : String × Value} (hf : f ∈ fields) : f.2.canonical = f.2 := by
  have hobject := v.canonical_canonical
  rw [h, Value.canonical, Value.object.injEq] at hobject
  rw [← hobject] at hf
  obtain ⟨g, -, rfl⟩ := exists_of_mem_canonical hf
  exact g.2.canonical_canonical

/-- The object is a bracket more than its values have. -/
theorem depth_lt_of_mem {text : String} {v : Value} {fields : Fields} (hparse : parse text = .ok v)
    (h : v.canonical = .object fields) {f : String × Value} (hf : f ∈ fields) :
    f.2.depth < nestingLimit := by
  have hdepth := v.depth_canonical_le.trans (depth_le_of_parse hparse)
  rw [h, Value.depth] at hdepth
  exact Nat.lt_of_lt_of_le (Nat.lt_succ_of_le (fieldsDepth_le_iff.1 (Nat.le_refl _) f hf)) hdepth

end HandleWatch.Json
