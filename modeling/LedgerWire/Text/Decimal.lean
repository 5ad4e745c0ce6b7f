import LedgerWire.Text.Radix

/-!
# Decimal text

Numbers are written with the digits `0` to `9` and no leading zero. Reading is a little more
liberal: one leading `+` and any number of leading zeros are accepted, and the number has to
stay below a limit.
-/

namespace LedgerWire.Decimal

/-- Why a text is no decimal number below the limit. -/
inductive Fault where
  | empty
  | invalidDigit
  | tooLarge
  deriving DecidableEq

/-- The wording of a fault. -/
def Fault.message : Fault → String
  | .empty => "cannot parse integer from empty string"
  | .invalidDigit => "invalid digit found in string"
  | .tooLarge => "number too large to fit in target type"

/-- The character of a digit below ten. -/
def digitChar (digit : Nat) : Char := Char.ofNat (48 + digit)

/-- The value of a decimal digit. -/
def digit? (c : Char) : Option Nat :=
  if '0' ≤ c ∧ c ≤ '9' then some (c.toNat - 48) else none

/-- The characters of a number, `0` being the one number written with a zero in front. -/
def chars (number : Nat) : List Char :=
  if number = 0 then ['0'] else (Radix.digits 10 number).map digitChar

/-- The decimal text of a number. -/
def write (number : Nat) : String := String.ofList (chars number)

/-- The decimal text of an integer. -/
def writeInt : Int → String
  | .ofNat number => write number
  | .negSucc number => "-" ++ write (number + 1)

/-- Adds one digit at the low end, staying below the limit. A character that is no digit is
reported before the limit is looked at. -/
def extend (limit number : Nat) (c : Char) : Except Fault Nat :=
  match digit? c with
  | none => .error .invalidDigit
  | some digit =>
    if number * 10 + digit < limit then .ok (number * 10 + digit) else .error .tooLarge

/-- Reads digits from the left, the first fault ending the reading. -/
def readDigits (limit : Nat) : Nat → List Char → Except Fault Nat
  | number, [] => .ok number
  | number, c :: rest =>
    match extend limit number c with
    | .ok number => readDigits limit number rest
    | .error fault => .error fault

/-- Reads a whole text. A sign that stands alone is a faulty digit. -/
def readChars (limit : Nat) : List Char → Except Fault Nat
  | [] => .error .empty
  | ['+'] => .error .invalidDigit
  | '+' :: digits => readDigits limit 0 digits
  | digits => readDigits limit 0 digits

/-- Reads a number below the limit. -/
def read (limit : Nat) (text : String) : Except Fault Nat := readChars limit text.toList

end LedgerWire.Decimal
