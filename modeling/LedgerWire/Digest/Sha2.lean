import LedgerWire.Bytes

/-!
# The SHA-2 digests

SHA-256 and SHA-512 differ in the width of their words, in the rotations that mix a word, and in
the number of rounds. The message is padded to whole blocks of sixteen words; each block drives
one round per constant, and the result is added to the state before it.
-/

namespace LedgerWire

/-- The eight words of the state between two blocks. -/
structure Sha2.State (ω : Type) where
  a : ω
  b : ω
  c : ω
  d : ω
  e : ω
  f : ω
  g : ω
  h : ω

/-- What distinguishes one digest of the family: the number of bytes in a word, the functions
that mix one word, the state before the first block and the constant of each round. -/
structure Sha2 (ω : Type) where
  wordSize : Nat
  ofNat : Nat → ω
  toNat : ω → Nat
  sum0 : ω → ω
  sum1 : ω → ω
  spread0 : ω → ω
  spread1 : ω → ω
  first : Sha2.State ω
  constants : List ω

namespace Sha2

variable {ω : Type} [Add ω] [XorOp ω] [AndOp ω] [Complement ω]

/-- The words of a state in order. -/
def State.words (s : State ω) : List ω := [s.a, s.b, s.c, s.d, s.e, s.f, s.g, s.h]

/-- Adds two states word by word. -/
def State.add (s t : State ω) : State ω :=
  ⟨s.a + t.a, s.b + t.b, s.c + t.c, s.d + t.d, s.e + t.e, s.f + t.f, s.g + t.g, s.h + t.h⟩

/-- The message followed by a one bit, zeros, and its length in bits, which fill whole blocks. -/
def pad (sha : Sha2 ω) (message : Bytes) : Bytes :=
  let blockSize := 16 * sha.wordSize
  let used := (message.length + 1 + 2 * sha.wordSize) % blockSize
  message ++ 0x80 :: List.replicate ((blockSize - used) % blockSize) 0 ++
    Bytes.bigEndian (2 * sha.wordSize) (8 * message.length)

/-- A given number of pieces of the same size, cut off the front of a list. -/
def cut {α : Type} (size : Nat) : Nat → List α → List (List α)
  | 0, _ => []
  | count + 1, items => items.take size :: cut size count (items.drop size)

/-- The sixteen words of a block. -/
def wordsOf (sha : Sha2 ω) (block : Bytes) : List ω :=
  (cut sha.wordSize 16 block).map fun bytes => sha.ofNat (Bytes.ofBigEndian bytes)

/-- One round on the state, with the constant and the message word of that round. -/
def round (sha : Sha2 ω) (s : State ω) (constant word : ω) : State ω :=
  let choice := (s.e &&& s.f) ^^^ (~~~s.e &&& s.g)
  let majority := (s.a &&& s.b) ^^^ (s.a &&& s.c) ^^^ (s.b &&& s.c)
  let left := s.h + sha.sum1 s.e + choice + constant + word
  let right := sha.sum0 s.a + majority
  ⟨left + right, s.a, s.b, s.c, s.d + left, s.e, s.f, s.g⟩

/-- The sixteen message words of the next round: the first one leaves, and one made from four of
them comes in at the end. -/
def advance (sha : Sha2 ω) (window : List ω) : List ω :=
  match window with
  | [w0, w1, w2, w3, w4, w5, w6, w7, w8, w9, w10, w11, w12, w13, w14, w15] =>
    [w1, w2, w3, w4, w5, w6, w7, w8, w9, w10, w11, w12, w13, w14, w15,
      sha.spread1 w14 + w9 + sha.spread0 w1 + w0]
  | window => window

/-- Runs one round for each constant. -/
def rounds (sha : Sha2 ω) : List ω → List ω → State ω → State ω
  | [], _, s => s
  | _ :: _, [], s => s
  | constant :: rest, word :: others, s =>
    rounds sha rest (advance sha (word :: others)) (round sha s constant word)

/-- Takes one block into the state. -/
def absorb (sha : Sha2 ω) (s : State ω) (block : Bytes) : State ω :=
  s.add (rounds sha sha.constants (wordsOf sha block) s)

/-- The digest of a message: the words of the last state, the highest byte of each first. -/
def digest (sha : Sha2 ω) (message : Bytes) : Bytes :=
  let padded := sha.pad message
  let blockSize := 16 * sha.wordSize
  let last := (cut blockSize (padded.length / blockSize) padded).foldl (absorb sha) sha.first
  last.words.flatMap fun word => Bytes.bigEndian sha.wordSize (sha.toNat word)

/-- As many bytes are written, the high ones first, as are asked for. -/
@[simp] theorem length_bigEndian (width number : Nat) :
    (Bytes.bigEndian width number).length = width := by
  simp [Bytes.bigEndian]

/-- A digest is eight words long, whatever the message. -/
theorem length_digest (sha : Sha2 ω) (message : Bytes) :
    (sha.digest message).length = 8 * sha.wordSize := by
  simp [digest, State.words]
  omega

end Sha2

end LedgerWire
