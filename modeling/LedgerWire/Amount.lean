import LedgerWire.Bytes
import LedgerWire.Text.Decimal

/-!
# Amounts

Amounts of the token, in its smallest unit, are natural numbers below 2¹²⁸. Their text is
decimal, because no JSON number holds them all.
-/

namespace LedgerWire

/-- An amount of the token in its smallest unit. -/
structure Amount where
  units : Nat
  units_lt : units < 2 ^ 128
  deriving DecidableEq

namespace Amount

/-- The amount of a given number of units, when it is in range. -/
def ofNat? (units : Nat) : Option Amount :=
  if h : units < 2 ^ 128 then some ⟨units, h⟩ else none

/-- The amount of a 64-bit number of units. -/
def ofUInt64 (units : UInt64) : Amount :=
  ⟨units.toNat, by have := units.toNat_lt; omega⟩

/-- The amount whose sixteen bytes are given, the lowest first. -/
def ofBlock (block : Block 16) : Amount :=
  ⟨Bytes.ofLittleEndian block.bytes, by
    have := Bytes.ofLittleEndian_lt block.bytes
    rw [block.length_bytes] at this
    exact Nat.lt_of_lt_of_eq this (by decide)⟩

/-- The decimal text of an amount. -/
def text (amount : Amount) : String := Decimal.write amount.units

/-- Reads the decimal text of an amount. -/
def ofText (text : String) : Except Decimal.Fault Amount :=
  match Decimal.read (2 ^ 128) text with
  | .error fault => .error fault
  | .ok units => if h : units < 2 ^ 128 then .ok ⟨units, h⟩ else .error .tooLarge

end Amount

end LedgerWire
