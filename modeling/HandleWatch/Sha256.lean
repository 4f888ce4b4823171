import HandleWatch.Text.Numeral

/-!
# SHA-256

The secure hash of a list of bytes. The message is padded to whole blocks of 64
bytes; each block is stretched to a schedule of 64 words, and 64 rounds mix
them into a state of eight words.

A message can be hashed at once (`digest`) or piece by piece (`Hasher`).
-/

namespace HandleWatch.Sha256

/-- The words that a round adds: the fractions of the cube roots of the first
    64 primes. -/
def roundWords : List UInt32 := [
    0x428a2f98, 0x71374491, 0xb5c0fbcf, 0xe9b5dba5, 0x3956c25b, 0x59f111f1, 0x923f82a4, 0xab1c5ed5,
    0xd807aa98, 0x12835b01, 0x243185be, 0x550c7dc3, 0x72be5d74, 0x80deb1fe, 0x9bdc06a7, 0xc19bf174,
    0xe49b69c1, 0xefbe4786, 0x0fc19dc6, 0x240ca1cc, 0x2de92c6f, 0x4a7484aa, 0x5cb0a9dc, 0x76f988da,
    0x983e5152, 0xa831c66d, 0xb00327c8, 0xbf597fc7, 0xc6e00bf3, 0xd5a79147, 0x06ca6351, 0x14292967,
    0x27b70a85, 0x2e1b2138, 0x4d2c6dfc, 0x53380d13, 0x650a7354, 0x766a0abb, 0x81c2c92e, 0x92722c85,
    0xa2bfe8a1, 0xa81a664b, 0xc24b8b70, 0xc76c51a3, 0xd192e819, 0xd6990624, 0xf40e3585, 0x106aa070,
    0x19a4c116, 0x1e376c08, 0x2748774c, 0x34b0bcb5, 0x391c0cb3, 0x4ed8aa4a, 0x5b9cca4f, 0x682e6ff3,
    0x748f82ee, 0x78a5636f, 0x84c87814, 0x8cc70208, 0x90befffa, 0xa4506ceb, 0xbef9a3f7, 0xc67178f2]

/-- The eight words that blocks are mixed into. -/
structure State where
  a : UInt32
  b : UInt32
  c : UInt32
  d : UInt32
  e : UInt32
  f : UInt32
  g : UInt32
  h : UInt32

/-- The state before the first block: the fractions of the square roots of the
    first eight primes. -/
def start : State :=
  ⟨0x6a09e667, 0xbb67ae85, 0x3c6ef372, 0xa54ff53a, 0x510e527f, 0x9b05688c, 0x1f83d9ab, 0x5be0cd19⟩

/-- A word turned to the right by `n` bits. -/
def rotate (x : UInt32) (n : UInt32) : UInt32 := (x >>> n) ||| (x <<< (32 - n))

/-- The mixing of an earlier word into the schedule, 15 words back. -/
def smallSigma0 (x : UInt32) : UInt32 := rotate x 7 ^^^ rotate x 18 ^^^ (x >>> 3)

/-- The mixing of an earlier word into the schedule, 2 words back. -/
def smallSigma1 (x : UInt32) : UInt32 := rotate x 17 ^^^ rotate x 19 ^^^ (x >>> 10)

/-- The next word of a schedule of which `w` are the latest 16, the oldest first. -/
def nextWord : List UInt32 → UInt32
  | w0 :: w1 :: _ :: _ :: _ :: _ :: _ :: _ :: _ :: w9 :: _ :: _ :: _ :: _ :: w14 :: _ =>
    smallSigma1 w14 + w9 + smallSigma0 w1 + w0
  | _ => 0

/-- One round, with a word of the schedule and one of the round. -/
def mix (s : State) (w k : UInt32) : State :=
  let sigma1 := rotate s.e 6 ^^^ rotate s.e 11 ^^^ rotate s.e 25
  let choose := (s.e &&& s.f) ^^^ (~~~s.e &&& s.g)
  let t1 := s.h + sigma1 + choose + k + w
  let sigma0 := rotate s.a 2 ^^^ rotate s.a 13 ^^^ rotate s.a 22
  let majority := (s.a &&& s.b) ^^^ (s.a &&& s.c) ^^^ (s.b &&& s.c)
  ⟨t1 + (sigma0 + majority), s.a, s.b, s.c, s.d + t1, s.e, s.f, s.g⟩

/-- The rounds with the words `ks`, the schedule going on from the 16 words `w`. -/
def rounds : List UInt32 → List UInt32 → State → State
  | k :: ks, w :: ws, s => rounds ks (ws ++ [nextWord (w :: ws)]) (mix s w k)
  | _, _, s => s

/-- The state after a block of 16 words. -/
def compress (s : State) (block : List UInt32) : State :=
  let r := rounds roundWords block s
  ⟨s.a + r.a, s.b + r.b, s.c + r.c, s.d + r.d, s.e + r.e, s.f + r.f, s.g + r.g, s.h + r.h⟩

/-- The bytes of a word or a length, the highest first. -/
def bigEndian (width n : Nat) : List UInt8 :=
  (List.range width).map fun i => UInt8.ofNat (n >>> (8 * (width - 1 - i)))

/-- The padding of a message of `n` bytes: a one bit, zeros up to eight bytes
    before the end of a block, and the length in bits. -/
def padding (n : Nat) : List UInt8 :=
  0x80 :: (List.replicate ((119 - n % 64) % 64) 0 ++ bigEndian 8 (8 * n))

/-- Bytes as words, four for each, the highest first. -/
def words : List UInt8 → List UInt32
  | a :: b :: c :: d :: rest =>
    ((a.toUInt32 <<< 24) ||| (b.toUInt32 <<< 16) ||| (c.toUInt32 <<< 8) ||| d.toUInt32) ::
      words rest
  | _ => []

/-- The state after all the blocks of a list of words, at most `fuel` of them. -/
def absorbBlocks : Nat → State → List UInt32 → State
  | 0, s, _ => s
  | _ + 1, s, [] => s
  | fuel + 1, s, ws => absorbBlocks fuel (compress s (ws.take 16)) (ws.drop 16)

/-- The state after all the blocks of a list of bytes. -/
def absorb (s : State) (bytes : List UInt8) : State :=
  absorbBlocks (words bytes).length s (words bytes)

/-- The bytes of a state. -/
def State.bytes (s : State) : List UInt8 :=
  [s.a, s.b, s.c, s.d, s.e, s.f, s.g, s.h].flatMap fun w => bigEndian 4 w.toNat

/-- The hash of a message. -/
def digest (message : List UInt8) : List UInt8 :=
  (absorb start (message ++ padding message.length)).bytes

/-- A hasher takes a message in pieces. It keeps the state after the whole blocks
    that there were, and the bytes that do not fill another one yet. -/
structure Hasher where
  state : State
  pending : List UInt8
  /-- How many bytes there were. -/
  length : Nat
  pending_lt : pending.length < 64

namespace Hasher

/-- A hasher before the first piece. -/
def empty : Hasher := ⟨start, [], 0, Nat.zero_lt_succ 63⟩

/-- Takes the next piece of the message. -/
def update (h : Hasher) (bytes : List UInt8) : Hasher :=
  let all := h.pending ++ bytes
  let filled := 64 * (all.length / 64)
  { state := absorb h.state (all.take filled)
    pending := all.drop filled
    length := h.length + bytes.length
    pending_lt := by
      rw [List.length_drop]
      omega }

/-- The hash of the message so far. -/
def finish (h : Hasher) : List UInt8 := (absorb h.state (h.pending ++ padding h.length)).bytes

end Hasher

/-- Bytes in hexadecimal digits. -/
def hex (bytes : List UInt8) : String := String.ofList (bytes.flatMap hexByte)

end HandleWatch.Sha256
