import LedgerWire.Text.Radix

/-!
# Bytes, and numbers as bytes

A buffer is a list of bytes. This file holds blocks of a fixed length and the two orders in
which a number is spread over bytes. Writing a number in a fixed width and reading it back
gives the number modulo the range of that width.
-/

namespace LedgerWire

/-- A buffer of bytes. -/
abbrev Bytes := List UInt8

/-- A buffer of exactly `size` bytes. -/
structure Block (size : Nat) where
  bytes : Bytes
  length_bytes : bytes.length = size
  deriving DecidableEq

namespace Block

variable {size : Nat}

/-- The buffer as a block, when it has the right length. -/
def ofBytes? (size : Nat) (bytes : Bytes) : Option (Block size) :=
  if h : bytes.length = size then some ⟨bytes, h⟩ else none

/-- The block whose bytes are all zero. -/
def zero (size : Nat) : Block size := ⟨List.replicate size 0, List.length_replicate⟩

/-- Whether every byte of the block is zero. -/
def isZero (block : Block size) : Bool := block.bytes.all (· == 0)

/-- The bytes of a block are those of the block. -/
theorem ofBytes?_bytes (block : Block size) : ofBytes? size block.bytes = some block := by
  simp [ofBytes?, block.length_bytes]

/-- A block that some bytes make has these bytes. -/
theorem bytes_of_ofBytes? {bytes : Bytes} {block : Block size}
    (h : ofBytes? size bytes = some block) : block.bytes = bytes := by
  unfold ofBytes? at h
  split at h
  · cases h; rfl
  · cases h

/-- The first `count` bytes of a block. -/
def leading (block : Block size) (count : Nat) (le : count ≤ size) : Block count :=
  ⟨block.bytes.take count, by simp [block.length_bytes, le]⟩

/-- What follows the first `count` bytes of a block. -/
def trailing (block : Block size) (count : Nat) : Block (size - count) :=
  ⟨block.bytes.drop count, by simp [block.length_bytes]⟩

/-- Two blocks, one after the other. -/
def join {first second : Nat} (left : Block first) (right : Block second) :
    Block (first + second) :=
  ⟨left.bytes ++ right.bytes, by simp [left.length_bytes, right.length_bytes]⟩

end Block

namespace Bytes

/-- The number spread over `width` bytes, the lowest byte first. -/
def littleEndian : Nat → Nat → Bytes
  | 0, _ => []
  | width + 1, number => UInt8.ofNat number :: littleEndian width (number / 256)

/-- The number whose lowest byte comes first. -/
def ofLittleEndian : Bytes → Nat
  | [] => 0
  | byte :: rest => byte.toNat + 256 * ofLittleEndian rest

/-- The number spread over `width` bytes, the highest byte first. -/
def bigEndian (width number : Nat) : Bytes := (littleEndian width number).reverse

/-- The number whose highest byte comes first. -/
def ofBigEndian (bytes : Bytes) : Nat :=
  bytes.foldl (fun number byte => number * 256 + byte.toNat) 0

/-- As many bytes are written as are asked for. -/
@[simp] theorem length_littleEndian (width number : Nat) :
    (littleEndian width number).length = width := by
  induction width generalizing number with
  | zero => rfl
  | succ width ih => simp [littleEndian, ih]

/-- The bytes of a number read back as the number, as far as they go. -/
theorem ofLittleEndian_littleEndian (width number : Nat) :
    ofLittleEndian (littleEndian width number) = number % 256 ^ width := by
  induction width generalizing number with
  | zero => simp [littleEndian, ofLittleEndian, Nat.mod_one]
  | succ width ih =>
    have low : (UInt8.ofNat number).toNat = number % 256 := by simp
    rw [littleEndian, ofLittleEndian, ih, low, Nat.pow_succ, Nat.mul_comm (256 ^ width) 256,
      Nat.mod_mul]

/-- The number that some bytes are has these bytes again. -/
theorem littleEndian_ofLittleEndian (bytes : Bytes) :
    littleEndian bytes.length (ofLittleEndian bytes) = bytes := by
  induction bytes with
  | nil => rfl
  | cons byte rest ih =>
    have low : (byte.toNat + 256 * ofLittleEndian rest) / 256 = ofLittleEndian rest := by
      have := byte.toNat_lt
      omega
    have high : UInt8.ofNat (byte.toNat + 256 * ofLittleEndian rest) = byte := by
      apply UInt8.toNat_inj.mp
      have := byte.toNat_lt
      simp only [UInt8.toNat_ofNat']
      omega
    simp [littleEndian, ofLittleEndian, low, high, ih]

/-- Bytes are a number below the power of 256 that their length gives. -/
theorem ofLittleEndian_lt (bytes : Bytes) : ofLittleEndian bytes < 256 ^ bytes.length := by
  induction bytes with
  | nil => simp [ofLittleEndian]
  | cons byte rest ih =>
    have := byte.toNat_lt
    simp only [ofLittleEndian, List.length_cons, Nat.pow_succ]
    omega

end Bytes

end LedgerWire
