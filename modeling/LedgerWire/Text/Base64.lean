import LedgerWire.Bytes
import LedgerWire.Text.Decimal
import LedgerWire.Text.Utf8

/-!
# Base64 text

Three bytes become four characters of the standard alphabet, and a shorter last group is filled
up with `=`. The reader accepts a text whose padding is cut short or missing, but nothing else
that the writer does not write: the padding has to complete the last group and the bits of the
last character that stand for no byte have to be zero.
-/

namespace LedgerWire.Base64

/-- Why a text is not base64. Offsets count bytes from the start of the text. -/
inductive Fault where
  | invalidByte (byte : UInt8) (offset : Nat)
  | invalidLength
  | invalidLastSymbol (byte : UInt8) (offset : Nat)
  deriving DecidableEq

/-- The wording of a fault. -/
def Fault.message : Fault → String
  | .invalidByte byte offset =>
    "Invalid byte " ++ Decimal.write byte.toNat ++ ", offset " ++ Decimal.write offset ++ "."
  | .invalidLength => "Encoded text cannot have a 6-bit remainder."
  | .invalidLastSymbol byte offset =>
    "Invalid last symbol " ++ Decimal.write byte.toNat ++ ", offset " ++ Decimal.write offset ++ "."

/-- The padding character. -/
def pad : UInt8 := 61

/-- The character of a value below 64. -/
def symbol (value : Nat) : UInt8 :=
  if value < 26 then UInt8.ofNat (65 + value)
  else if value < 52 then UInt8.ofNat (71 + value)
  else if value < 62 then UInt8.ofNat (value - 4)
  else if value = 62 then 43
  else 47

/-- The value of a character of the alphabet. -/
def value? (byte : UInt8) : Option Nat :=
  let n := byte.toNat
  if 65 ≤ n ∧ n ≤ 90 then some (n - 65)
  else if 97 ≤ n ∧ n ≤ 122 then some (n - 71)
  else if 48 ≤ n ∧ n ≤ 57 then some (n + 4)
  else if n = 43 then some 62
  else if n = 47 then some 63
  else none

/-- The characters of a buffer, as ASCII bytes. -/
def encodeBytes : Bytes → Bytes
  | [] => []
  | [a] => [symbol (a.toNat / 4), symbol (a.toNat % 4 * 16), pad, pad]
  | [a, b] =>
    [symbol (a.toNat / 4), symbol (a.toNat % 4 * 16 + b.toNat / 16),
      symbol (b.toNat % 16 * 4), pad]
  | a :: b :: c :: rest =>
    symbol (a.toNat / 4) :: symbol (a.toNat % 4 * 16 + b.toNat / 16) ::
      symbol (b.toNat % 16 * 4 + c.toNat / 64) :: symbol (c.toNat % 64) :: encodeBytes rest

/-- The base64 text of a buffer. -/
def encode (bytes : Bytes) : String :=
  String.ofList ((encodeBytes bytes).map fun byte => Char.ofNat byte.toNat)

/-- The values of the characters, the first one being at the given offset. -/
def valuesFrom (offset : Nat) : Bytes → Except Fault (List Nat)
  | [] => .ok []
  | byte :: rest =>
    match value? byte with
    | none => .error (.invalidByte byte offset)
    | some value => (valuesFrom (offset + 1) rest).map (value :: ·)

/-- The bytes that a list of values stands for, or nothing when a bit is left over that is not
zero. -/
def unpack : List Nat → Option Bytes
  | [] => some []
  | [_] => none
  | [a, b] => if b % 16 = 0 then some [UInt8.ofNat (a * 4 + b / 16)] else none
  | [a, b, c] =>
    if c % 4 = 0 then
      some [UInt8.ofNat (a * 4 + b / 16), UInt8.ofNat (b % 16 * 16 + c / 4)]
    else none
  | a :: b :: c :: d :: rest =>
    (unpack rest).map fun bytes =>
      UInt8.ofNat (a * 4 + b / 16) :: UInt8.ofNat (b % 16 * 16 + c / 4) ::
        UInt8.ofNat (c % 4 * 64 + d) :: bytes

/-- Whether `tail` may stand after `count` characters: it is empty, or it is padding that stays
inside the group that those characters begin. -/
def isPadding (count : Nat) (tail : Bytes) : Bool :=
  tail.isEmpty ||
    (tail.all (· == pad) && 2 ≤ count % 4 && count % 4 + tail.length ≤ 4)

/-- The fault of a text that is one character longer than whole groups. A foreign character at
its end is what is reported, otherwise the length itself. -/
def lengthFault (text : Bytes) : Fault :=
  match text.getLast? with
  | none => .invalidLength
  | some byte =>
    if byte ≠ pad ∧ (value? byte).isNone then .invalidByte byte (text.length - 1)
    else .invalidLength

/-- Reads ASCII bytes as base64. -/
def decodeBytes (text : Bytes) : Except Fault Bytes :=
  if text.length % 4 = 1 then .error (lengthFault text)
  else
    let symbols := text.takeWhile (· != pad)
    match valuesFrom 0 symbols with
    | .error fault => .error fault
    | .ok values =>
      if isPadding symbols.length (text.dropWhile (· != pad)) then
        match unpack values with
        | some bytes => .ok bytes
        | none => .error (.invalidLastSymbol (symbols.getLastD pad) (symbols.length - 1))
      else .error (.invalidByte pad symbols.length)

/-- Reads a base64 text. -/
def decode (text : String) : Except Fault Bytes := decodeBytes (Utf8.encode text)

end LedgerWire.Base64
