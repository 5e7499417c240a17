import LendingClient.Bytes.Endian

/-!
# The SHA-2 digests

SHA-256 and SHA-512 are one construction over words of 32 and 64 bits: the message is filled up to
whole blocks of sixteen words, each block is spread over one word per round, and the rounds mix the
words into a state of eight. A `Variant` holds what the two differ in.
-/

namespace LendingClient.Sha2

/-- Three amounts by which a word is turned or shifted. -/
structure Turns where
  first : Nat
  second : Nat
  third : Nat

/-- What distinguishes one digest of the family: words of `w` bits, the state it starts from, one
constant per round, and the turns of its four mixing functions. -/
structure Variant (w : Nat) where
  /-- The state before the first block, eight words. -/
  initial : List (BitVec w)
  /-- The constant of each round. -/
  constants : List (BitVec w)
  /-- Turns of the mixing of the first state word. -/
  upper : Turns
  /-- Turns of the mixing of the fifth state word. -/
  lower : Turns
  /-- Turns of the spreading from fifteen words back; the third is a shift. -/
  far : Turns
  /-- Turns of the spreading from two words back; the third is a shift. -/
  near : Turns

/-- The eight words that the rounds mix. -/
structure State (w : Nat) where
  a : BitVec w
  b : BitVec w
  c : BitVec w
  d : BitVec w
  e : BitVec w
  f : BitVec w
  g : BitVec w
  h : BitVec w

variable {w : Nat}

/-- The sum, without carries, of a word turned by three amounts. -/
def mix (turns : Turns) (x : BitVec w) : BitVec w :=
  x.rotateRight turns.first ^^^ x.rotateRight turns.second ^^^ x.rotateRight turns.third

/-- The sum, without carries, of a word turned by two amounts and shifted by a third. -/
def spread (turns : Turns) (x : BitVec w) : BitVec w :=
  x.rotateRight turns.first ^^^ x.rotateRight turns.second ^^^ (x >>> turns.third)

/-- The state whose words are given in order. -/
def State.ofWords (words : List (BitVec w)) : State w :=
  ⟨words.getD 0 0, words.getD 1 0, words.getD 2 0, words.getD 3 0,
    words.getD 4 0, words.getD 5 0, words.getD 6 0, words.getD 7 0⟩

/-- The words of a state in order. -/
def State.words (s : State w) : List (BitVec w) :=
  [s.a, s.b, s.c, s.d, s.e, s.f, s.g, s.h]

/-- One round, with the sum of the round's constant and word. -/
def round (v : Variant w) (s : State w) (input : BitVec w) : State w :=
  let chosen := (s.e &&& s.f) ^^^ (~~~s.e &&& s.g)
  let majority := (s.a &&& s.b) ^^^ (s.a &&& s.c) ^^^ (s.b &&& s.c)
  let first := s.h + mix v.lower s.e + chosen + input
  let second := mix v.upper s.a + majority
  ⟨first + second, s.a, s.b, s.c, s.d + first, s.e, s.f, s.g⟩

/-- Puts `count` further words in front of the newest sixteen. -/
def extend (v : Variant w) : (count : Nat) → List (BitVec w) → List (BitVec w)
  | 0, newest => newest
  | count + 1, newest =>
    let word := spread v.near (newest.getD 1 0) + newest.getD 6 0 +
      spread v.far (newest.getD 14 0) + newest.getD 15 0
    extend v count (word :: newest)

/-- The word of each round, from the sixteen words of a block. -/
def schedule (v : Variant w) (block : List (BitVec w)) : List (BitVec w) :=
  (extend v (v.constants.length - 16) block.reverse).reverse

/-- Mixes one block into a state. -/
def compress (v : Variant w) (s : State w) (block : List (BitVec w)) : State w :=
  let mixed := (List.zipWith (· + ·) v.constants (schedule v block)).foldl (round v) s
  .ofWords (List.zipWith (· + ·) s.words mixed.words)

/-- A message filled up to whole blocks: one bit, zeros, and the number of bits in two words. -/
def fill (w : Nat) (message : Bytes) : Bytes :=
  let block := 2 * w
  let used := (message.length + 1 + w / 4) % block
  message ++ 0x80 :: List.replicate ((block - used) % block) 0 ++
    bigEndian (w / 4) (8 * message.length)

/-- The words of a block. -/
def blockWords (w : Nat) (block : Bytes) : List (BitVec w) :=
  (block.pieces (w / 8)).map fun bytes => BitVec.ofNat w (ofBigEndian bytes)

/-- The digest of a message. -/
def digest (v : Variant w) (message : Bytes) : Bytes :=
  let blocks := (fill w message).pieces (2 * w)
  let final := blocks.foldl (fun s block => compress v s (blockWords w block)) (.ofWords v.initial)
  final.words.flatMap fun word => bigEndian (w / 8) word.toNat

@[simp] theorem length_digest (v : Variant w) (message : Bytes) :
    (digest v message).length = 8 * (w / 8) := by
  simp [digest, State.words]
  omega

end LendingClient.Sha2
