import HandleWatch.Sha256

/-!
# Hashing piece by piece

The state after the blocks of a message can be reached in two goes, if the first of
them ends with a block (`absorb_append`). A hasher always stops there and keeps the
rest (`Hasher.Took`), so that it makes no difference how a message is cut into pieces,
nor how long they are; and as the padding is not part of what it keeps, it can go on
after it has told the hash:

* `Hasher.Took.update`, `Hasher.Took.finish`: a piece is added to what a hasher has taken,
  and what it tells is the hash of all that.
-/

namespace HandleWatch.Sha256

/-! ## Blocks -/

theorem length_words (bytes : List UInt8) : (words bytes).length = bytes.length / 4 := by
  fun_induction words bytes with
  | case1 a b c d rest ih =>
    simp only [List.length_cons, ih]
    omega
  | case2 bytes hshort =>
    rcases bytes with _ | ⟨a, _ | ⟨b, _ | ⟨c, _ | ⟨d, rest⟩⟩⟩⟩
    case cons.cons.cons.cons => exact absurd rfl (hshort a b c d rest)
    all_goals simp

/-- Words do not go across a cut after whole words. -/
theorem words_append {a : List UInt8} (ha : 4 ∣ a.length) (b : List UInt8) :
    words (a ++ b) = words a ++ words b := by
  fun_induction words a with
  | case1 x y z w rest ih =>
    have hrest : 4 ∣ rest.length := by
      simp only [List.length_cons] at ha
      omega
    simp only [List.cons_append, words, ih hrest]
  | case2 a hshort =>
    rcases a with _ | ⟨x, _ | ⟨y, _ | ⟨z, _ | ⟨w, rest⟩⟩⟩⟩
    case nil => rfl
    case cons.cons.cons.cons => exact absurd rfl (hshort x y z w rest)
    all_goals exact absurd ha (by simp)

theorem absorbBlocks_nil (fuel : Nat) (s : State) : absorbBlocks fuel s [] = s := by
  cases fuel <;> rfl

/-- It makes no difference how many blocks there may be, if they are enough. -/
theorem absorbBlocks_congr {m n : Nat} {ws : List UInt32} (hm : ws.length ≤ m)
    (hn : ws.length ≤ n) (s : State) : absorbBlocks m s ws = absorbBlocks n s ws := by
  -- By the first number, one for each block at most; a block is sixteen words, so the rest is
  -- shorter.
  induction m generalizing n ws s with
  | zero =>
    rw [List.eq_nil_of_length_eq_zero (Nat.le_zero.1 hm), absorbBlocks_nil, absorbBlocks_nil]
  | succ m ih =>
    cases ws with
    | nil => rw [absorbBlocks_nil, absorbBlocks_nil]
    | cons w ws =>
      cases n with
      | zero => exact absurd hn (Nat.not_succ_le_zero _)
      | succ n =>
        have hdrop : ((w :: ws).drop 16).length ≤ ws.length := by
          rw [List.length_drop, List.length_cons]
          omega
        exact ih (Nat.le_trans hdrop (Nat.le_of_succ_le_succ hm))
          (Nat.le_trans hdrop (Nat.le_of_succ_le_succ hn)) _

/-- The first block comes first. -/
theorem absorbBlocks_cons (s : State) {ws : List UInt32} (h : ws ≠ []) :
    absorbBlocks ws.length s ws =
      absorbBlocks (ws.drop 16).length (compress s (ws.take 16)) (ws.drop 16) := by
  obtain ⟨w, ws, rfl⟩ := List.exists_cons_of_ne_nil h
  refine absorbBlocks_congr (m := ws.length) ?_ (Nat.le_refl _) _
  rw [List.length_drop, List.length_cons]
  omega

/-- Blocks do not go across a cut after whole blocks. -/
theorem absorbBlocks_append {k : Nat} {a : List UInt32} (ha : a.length = 16 * k)
    (b : List UInt32) (s : State) :
    absorbBlocks (a ++ b).length s (a ++ b) =
      absorbBlocks b.length (absorbBlocks a.length s a) b := by
  induction k generalizing a s with
  | zero => rw [List.eq_nil_of_length_eq_zero ha, List.nil_append, absorbBlocks_nil]
  | succ k ih =>
    have ha' : a ≠ [] := List.ne_nil_of_length_pos (by omega)
    have hlong : 16 ≤ a.length := by omega
    rw [absorbBlocks_cons s (List.append_ne_nil_of_left_ne_nil ha' b), absorbBlocks_cons s ha',
      List.take_append_of_le_length hlong, List.drop_append_of_le_length hlong]
    exact ih (by rw [List.length_drop]; omega) _

/-- Whole blocks can be taken first. -/
theorem absorb_append {a : List UInt8} (ha : 64 ∣ a.length) (b : List UInt8) (s : State) :
    absorb s (a ++ b) = absorb (absorb s a) b := by
  obtain ⟨k, hk⟩ := ha
  rw [absorb, words_append (by omega), absorbBlocks_append (k := k)]
  · rfl
  · rw [length_words]
    omega

theorem length_bytes (s : State) : s.bytes.length = 32 := by
  simp [State.bytes, bigEndian]

theorem length_digest (message : List UInt8) : (digest message).length = 32 := length_bytes _

/-! ## Pieces -/

namespace Hasher

/-- What a hasher has taken: whole blocks, which are in its state, and what is left. -/
structure Took (h : Hasher) (message : List UInt8) : Prop where
  blocks : ∃ blocks, 64 ∣ blocks.length ∧ message = blocks ++ h.pending ∧
    h.state = absorb start blocks
  length : h.length = message.length

theorem Took.empty : Took .empty [] := ⟨⟨[], Nat.dvd_zero 64, rfl, rfl⟩, rfl⟩

/-- A piece is added to what was taken: the blocks that it fills are absorbed, and the rest
    waits. -/
theorem Took.update {h : Hasher} {message : List UInt8} (hh : h.Took message)
    (bytes : List UInt8) : (h.update bytes).Took (message ++ bytes) := by
  obtain ⟨⟨blocks, hdvd, rfl, hstate⟩, hlength⟩ := hh
  have hfilled : 64 ∣ ((h.pending ++ bytes).take
      (64 * ((h.pending ++ bytes).length / 64))).length := by
    rw [List.length_take, Nat.min_eq_left (Nat.mul_div_le _ _)]
    exact Nat.dvd_mul_right _ _
  -- Whole blocks are as many bytes as can be divided by 64.
  refine ⟨⟨blocks ++ (h.pending ++ bytes).take (64 * ((h.pending ++ bytes).length / 64)),
    ?_, ?_, ?_⟩, ?_⟩
  · rw [List.length_append]
    exact Nat.dvd_add hdvd hfilled
  · rw [Hasher.update, List.append_assoc, List.append_assoc, List.take_append_drop]
  · rw [Hasher.update, hstate, absorb_append hdvd]
  · rw [List.length_append, ← hlength]
    rfl

/-- What a hasher tells is the hash of what it has taken, however that was cut. -/
theorem Took.finish {h : Hasher} {message : List UInt8} (hh : h.Took message) :
    h.finish = digest message := by
  obtain ⟨⟨blocks, hdvd, rfl, hstate⟩, hlength⟩ := hh
  rw [Hasher.finish, digest, hstate, ← absorb_append hdvd, hlength, List.append_assoc]

/-- The letters `abc` in two pieces. -/
example : hex ((empty.update [97]).update [98, 99]).finish =
    "ba7816bf8f01cfea414140de5dae2223b00361a396177a9cb410ff61f20015ad" := by decide +kernel

-- A message of two blocks. It is cut within the first one, and the second piece goes over
-- into the other, which has the padding.
example :
    let bytes (s : String) : List UInt8 := s.toList.map fun c => c.val.toUInt8
    hex ((empty.update (bytes "abcdefghbcdefghicdefghijdefghijk")).update
      (bytes ("efghijklfghijklmghijklmnhijklmnoijklmnopjklmnopq" ++
        "klmnopqrlmnopqrsmnopqrstnopqrstu"))).finish =
      "cf5b16a778af8380036ce59e7b0492370b249b11e8f07a51afac45037afee9d1" := by decide +kernel

end Hasher

/-! ## Hexadecimal digits -/

theorem length_hex (bytes : List UInt8) : (hex bytes).length = 2 * bytes.length := by
  rw [hex, String.length_ofList, List.length_flatMap]
  induction bytes with
  | nil => rfl
  | cons b bytes ih =>
    rw [List.map_cons, List.sum_cons, ih, List.length_cons, Nat.mul_succ, Nat.add_comm]
    rfl

theorem digitChar_mem {n : Nat} (h : n < 16) :
    Nat.digitChar n ∈ "0123456789abcdef".toList := by
  revert n
  decide

theorem mem_hex {bytes : List UInt8} {c : Char} (h : c ∈ (hex bytes).toList) :
    c ∈ "0123456789abcdef".toList := by
  rw [hex, String.toList_ofList, List.mem_flatMap] at h
  obtain ⟨b, -, hc⟩ := h
  have hb : b.toNat < 256 := b.toNat_lt
  rw [hexByte, List.mem_cons, List.mem_singleton] at hc
  rcases hc with rfl | rfl
  · exact digitChar_mem (by omega)
  · exact digitChar_mem (by omega)

end HandleWatch.Sha256
