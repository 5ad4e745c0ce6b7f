import LedgerWire.Bytes

/-!
# Bytes in hexadecimal

Each byte is written as two lower-case digits, the high half first. Digits of either case are
read.
-/

namespace LedgerWire.Hex

/-- The lower-case digit of a value below sixteen. -/
def digitChar (digit : Nat) : Char :=
  if digit < 10 then Char.ofNat (48 + digit) else Char.ofNat (87 + digit)

/-- The value of a hexadecimal digit. -/
def digit? (c : Char) : Option Nat :=
  if '0' ≤ c ∧ c ≤ '9' then some (c.toNat - 48)
  else if 'a' ≤ c ∧ c ≤ 'f' then some (c.toNat - 87)
  else if 'A' ≤ c ∧ c ≤ 'F' then some (c.toNat - 55)
  else none

/-- The two characters of a byte. -/
def pair (byte : UInt8) : List Char := [digitChar (byte.toNat / 16), digitChar (byte.toNat % 16)]

/-- The hexadecimal text of a buffer. -/
def encode (bytes : Bytes) : String := String.ofList (bytes.flatMap pair)

/-- Reads pairs of digits. -/
def decodeChars : List Char → Option Bytes
  | [] => some []
  | [_] => none
  | high :: low :: rest =>
    match digit? high, digit? low, decodeChars rest with
    | some high, some low, some bytes => some (UInt8.ofNat (16 * high + low) :: bytes)
    | _, _, _ => none

/-- Reads a hexadecimal text. -/
def decode? (text : String) : Option Bytes := decodeChars text.toList

/-- The digits of a number, without leading zeros. -/
def ofNat (number : Nat) : String := String.ofList (Nat.toDigits 16 number)

end LedgerWire.Hex
