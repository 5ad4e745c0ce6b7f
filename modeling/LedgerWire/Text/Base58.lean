import LedgerWire.Bytes
import LedgerWire.Text.Decimal
import LedgerWire.Text.Quoted
import LedgerWire.Text.Radix

/-!
# Base58 text

A buffer is read as one number, highest byte first, and written with the 58 characters that
remain of the digits and letters when `0`, `O`, `I` and `l` are left out. Each leading zero byte
is written as one leading `1`, so the length of the buffer is kept.
-/

namespace LedgerWire.Base58

/-- Why a text is not base58. The index counts bytes from the start of the text. -/
inductive Fault where
  | invalidCharacter (c : Char) (index : Nat)
  | notAscii (index : Nat)
  deriving DecidableEq

/-- The wording of a fault. -/
def Fault.message : Fault → String
  | .invalidCharacter c index =>
    "provided string contained invalid character " ++ Quoted.char c ++ " at byte " ++
      Decimal.write index
  | .notAscii index =>
    "provided string contained non-ascii character starting at byte " ++ Decimal.write index

/-- The characters in the order of their values. -/
def alphabet : List Char := "123456789ABCDEFGHJKLMNPQRSTUVWXYZabcdefghijkmnopqrstuvwxyz".toList

/-- The character of a value below 58. -/
def digitChar (digit : Nat) : Char := alphabet.getD digit '1'

/-- The value of a character of the alphabet. -/
def digit? (c : Char) : Option Nat := alphabet.idxOf? c

/-- The characters of a buffer. -/
def encodeBytes (bytes : Bytes) : List Char :=
  List.replicate (bytes.takeWhile (· == 0)).length '1' ++
    (Radix.digits 58 (Bytes.ofBigEndian bytes)).map digitChar

/-- The base58 text of a buffer. -/
def encode (bytes : Bytes) : String := String.ofList (encodeBytes bytes)

/-- The values of the characters, the first one being at the given index. All characters before
a faulty one are ASCII, so its index counts bytes as well as characters. -/
def digitsFrom (index : Nat) : List Char → Except Fault (List Nat)
  | [] => .ok []
  | c :: rest =>
    if c.toNat > 127 then .error (.notAscii index)
    else
      match digit? c with
      | none => .error (.invalidCharacter c index)
      | some digit => (digitsFrom (index + 1) rest).map (digit :: ·)

/-- The buffer that a list of characters stands for. -/
def decodeChars (chars : List Char) : Except Fault Bytes :=
  (digitsFrom 0 chars).map fun digits =>
    List.replicate (digits.takeWhile (· == 0)).length 0 ++
      (Radix.digits 256 (Radix.value 58 digits)).map UInt8.ofNat

/-- Reads a base58 text. -/
def decode (text : String) : Except Fault Bytes := decodeChars text.toList

end LedgerWire.Base58
