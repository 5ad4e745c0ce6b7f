import LedgerWire.Json.Value

/-!
# JSON text

The reader takes one value between blanks and nothing else. Containers nest at most 127 deep, a
string holds no raw control character and no half of a surrogate pair, and a number out of the
range of doubles is refused. A member that is repeated keeps its first place and its last value.
There are two writers: one without any blanks, and one that indents by two columns.
-/

namespace LedgerWire.Json

/-- A blank between tokens. -/
def isBlank (c : Char) : Bool := c == ' ' || c == '\n' || c == '\t' || c == '\r'

/-- The text after its leading blanks. -/
def skipBlanks (text : List Char) : List Char := text.dropWhile isBlank

/-- The number of four hexadecimal digits, and what follows them. -/
def readCodeUnit : List Char → Option (Nat × List Char)
  | a :: b :: c :: d :: rest => do
    let a ← Hex.digit? a
    let b ← Hex.digit? b
    let c ← Hex.digit? c
    let d ← Hex.digit? d
    return (((a * 16 + b) * 16 + c) * 16 + d, rest)
  | _ => none

/-- The character of an escape that has one letter. -/
def simpleEscape? : Char → Option Char
  | '"' => some '"'
  | '\\' => some '\\'
  | '/' => some '/'
  | 'b' => some '\x08'
  | 'f' => some '\x0c'
  | 'n' => some '\n'
  | 'r' => some '\r'
  | 't' => some '\t'
  | _ => none

/-- The character of an escape by code units, which follow the `u`. A leading surrogate needs
the trailing one right after it. -/
def readUnicodeEscape (text : List Char) : Option (Char × List Char) := do
  let (unit, rest) ← readCodeUnit text
  if 0xD800 ≤ unit ∧ unit ≤ 0xDBFF then
    match rest with
    | '\\' :: 'u' :: rest =>
      let (low, rest) ← readCodeUnit rest
      if 0xDC00 ≤ low ∧ low ≤ 0xDFFF then
        return (Char.ofNat (0x10000 + (unit - 0xD800) * 0x400 + (low - 0xDC00)), rest)
      else none
    | _ => none
  else if 0xDC00 ≤ unit ∧ unit ≤ 0xDFFF then none
  else return (Char.ofNat unit, rest)

/-- Reads the inside of a string up to its closing quote. The first argument bounds the number
of characters; `read` holds the characters so far, the last one first. -/
def readString : Nat → List Char → List Char → Option (String × List Char)
  | 0, _, _ => none
  | bound + 1, read, text =>
    match text with
    | [] => none
    | '"' :: rest => some (String.ofList read.reverse, rest)
    | '\\' :: 'u' :: rest => do
      let (c, rest) ← readUnicodeEscape rest
      readString bound (c :: read) rest
    | '\\' :: c :: rest => do
      let c ← simpleEscape? c
      readString bound (c :: read) rest
    | '\\' :: [] => none
    | c :: rest => if c.toNat < 0x20 then none else readString bound (c :: read) rest

/-- A significand that is gathered digit by digit. Once another digit would not fit 64 bits no
digit is taken any more; `dropped` counts the digits left out. -/
structure Significand where
  value : Nat
  taken : Nat
  dropped : Nat

/-- Takes one more digit. -/
def Significand.push (s : Significand) (digit : Nat) : Significand :=
  if s.dropped = 0 ∧ s.value * 10 + digit < 2 ^ 64 then
    ⟨s.value * 10 + digit, s.taken + 1, 0⟩
  else ⟨s.value, s.taken, s.dropped + 1⟩

/-- Takes all digits of a text in turn. -/
def Significand.pushAll (s : Significand) (digits : List Char) : Significand :=
  digits.foldl (fun s c => s.push ((Decimal.digit? c).getD 0)) s

/-- Whether a character is a decimal digit. -/
def isDigit (c : Char) : Bool := (Decimal.digit? c).isSome

/-- The digits at the front of a text, and what follows them. -/
def splitDigits (text : List Char) : List Char × List Char := text.span isDigit

/-- The signed exponent at the front of a text that follows an `e`, and what follows it. -/
def readExponent (text : List Char) : Option (Int × List Char) :=
  let (negative, text) := match text with
    | '+' :: rest => (false, rest)
    | '-' :: rest => (true, rest)
    | rest => (false, rest)
  let (digits, rest) := splitDigits text
  if digits.isEmpty then none
  else
    let size := Radix.value 10 (digits.filterMap Decimal.digit?)
    some (if negative then -(size : Int) else size, rest)

/-- The double of a significand, a power of ten and a sign. -/
def signedDouble? (negative : Bool) (significand : Nat) (exponent : Int) : Option Number := do
  let x ← Double.ofDecimal? significand exponent
  return .double (if negative then x.negate else x)

/-- The number of an integer text. It is a double when it fits no 64-bit integer, and so is the
negative zero. -/
def integerNumber? (negative : Bool) (s : Significand) : Option Number :=
  if s.dropped = 0 then
    let value : Int := if negative then -(s.value : Int) else s.value
    if h : (-2 ^ 63 ≤ value ∧ value < 2 ^ 64) ∧ ¬ (negative ∧ s.value = 0) then
      some (.integer value h.1)
    else signedDouble? negative s.value 0
  else signedDouble? negative s.value s.dropped

/-- Reads a number after its sign. -/
def readUnsigned (negative : Bool) (text : List Char) : Option (Number × List Char) := do
  let (whole, rest) := splitDigits text
  guard (!whole.isEmpty && (whole.head? != some '0' || whole.length == 1))
  let s := Significand.pushAll ⟨0, 0, 0⟩ whole
  match rest with
  | '.' :: rest =>
    let (fraction, rest) := splitDigits rest
    guard (!fraction.isEmpty)
    let t := Significand.pushAll ⟨s.value, 0, 0⟩ fraction
    let shift : Int := s.dropped - t.taken
    match rest with
    | 'e' :: rest | 'E' :: rest =>
      let (exponent, rest) ← readExponent rest
      return (← signedDouble? negative t.value (shift + exponent), rest)
    | rest => return (← signedDouble? negative t.value shift, rest)
  | 'e' :: rest | 'E' :: rest =>
    let (exponent, rest) ← readExponent rest
    return (← signedDouble? negative s.value (s.dropped + exponent), rest)
  | rest => return (← integerNumber? negative s, rest)

/-- Reads a number. -/
def readNumber : List Char → Option (Number × List Char)
  | '-' :: rest => readUnsigned true rest
  | text => readUnsigned false text

mutual

/-- Reads one value that begins right here. The first argument bounds the steps, the second one
is how many containers may still be opened. -/
def readValue : Nat → Nat → List Char → Option (Json × List Char)
  | 0, _, _ => none
  | bound + 1, depth, text =>
    match text with
    | 'n' :: 'u' :: 'l' :: 'l' :: rest => some (.null, rest)
    | 't' :: 'r' :: 'u' :: 'e' :: rest => some (.bool true, rest)
    | 'f' :: 'a' :: 'l' :: 's' :: 'e' :: rest => some (.bool false, rest)
    | '"' :: rest => (readString (rest.length + 1) [] rest).map fun (s, rest) => (.string s, rest)
    | '[' :: rest =>
      match depth with
      | 0 => none
      | depth + 1 =>
        match skipBlanks rest with
        | ']' :: rest => some (.array [], rest)
        | rest => (readItems bound depth [] rest).map fun (items, rest) => (.array items, rest)
    | '\x7b' :: rest =>
      match depth with
      | 0 => none
      | depth + 1 =>
        match skipBlanks rest with
        | '\x7d' :: rest => some (.object [], rest)
        | rest =>
          (readMembers bound depth [] rest).map fun (members, rest) => (.object members, rest)
    | text => (readNumber text).map fun (n, rest) => (.number n, rest)

/-- Reads the items of an array up to its closing bracket, after the ones in `read`. -/
def readItems : Nat → Nat → List Json → List Char → Option (List Json × List Char)
  | 0, _, _, _ => none
  | bound + 1, depth, read, text => do
    let (item, rest) ← readValue bound depth (skipBlanks text)
    match skipBlanks rest with
    | ',' :: rest => readItems bound depth (item :: read) rest
    | ']' :: rest => return ((item :: read).reverse, rest)
    | _ => none

/-- Reads the members of an object up to its closing brace, after the ones in `read`. -/
def readMembers :
    Nat → Nat → List (String × Json) → List Char → Option (List (String × Json) × List Char)
  | 0, _, _, _ => none
  | bound + 1, depth, read, text => do
    match skipBlanks text with
    | '"' :: rest =>
      let (name, rest) ← readString (rest.length + 1) [] rest
      match skipBlanks rest with
      | ':' :: rest =>
        let (value, rest) ← readValue bound depth (skipBlanks rest)
        let read := setMember name value read
        match skipBlanks rest with
        | ',' :: rest => readMembers bound depth read rest
        | '\x7d' :: rest => return (read, rest)
        | _ => none
      | _ => none
    | _ => none

end

/-- How many containers may stand inside one another. -/
def maxDepth : Nat := 127

/-- Reads a whole text as one value. -/
def ofText? (text : String) : Option Json := do
  let chars := text.toList
  let (value, rest) ← readValue (2 * chars.length + 2) maxDepth (skipBlanks chars)
  if (skipBlanks rest).isEmpty then some value else none

/-- One character of a string as it is written. -/
def escape (c : Char) : List Char :=
  match c with
  | '"' => ['\\', '"']
  | '\\' => ['\\', '\\']
  | '\x08' => ['\\', 'b']
  | '\x0c' => ['\\', 'f']
  | '\n' => ['\\', 'n']
  | '\r' => ['\\', 'r']
  | '\t' => ['\\', 't']
  | c =>
    if c.toNat < 0x20 then
      ['\\', 'u', '0', '0', Hex.digitChar (c.toNat / 16), Hex.digitChar (c.toNat % 16)]
    else [c]

/-- A string between quotes. -/
def writeString (text : String) : String :=
  String.ofList ('"' :: text.toList.flatMap escape ++ ['"'])

mutual

/-- The text of a value, without blanks. -/
def write : Json → String
  | .null => "null"
  | .bool value => if value then "true" else "false"
  | .number value => value.write
  | .string value => writeString value
  | .array items => "[" ++ String.intercalate "," (writeItems items) ++ "]"
  | .object members => "\x7b" ++ String.intercalate "," (writeMembers members) ++ "\x7d"

/-- The text of each value. -/
def writeItems : List Json → List String
  | [] => []
  | item :: rest => write item :: writeItems rest

/-- The text of each member. -/
def writeMembers : List (String × Json) → List String
  | [] => []
  | (name, value) :: rest => (writeString name ++ ":" ++ write value) :: writeMembers rest

end

/-- The margin of a line, two columns for each level. -/
def margin (depth : Nat) : String := String.ofList (List.replicate (2 * depth) ' ')

/-- Lines between an opening and a closing bracket, one level deeper than `depth`. -/
def spread (depth : Nat) (opening closing : String) : List String → String
  | [] => opening ++ closing
  | items =>
    opening ++ "\n" ++
      String.intercalate ",\n" (items.map fun item => margin (depth + 1) ++ item) ++ "\n" ++
      margin depth ++ closing

mutual

/-- The text of a value over several lines, for a value that begins at the given depth. -/
def layoutAt (depth : Nat) : Json → String
  | .null => "null"
  | .bool value => if value then "true" else "false"
  | .number value => value.write
  | .string value => writeString value
  | .array items => spread depth "[" "]" (layoutItems (depth + 1) items)
  | .object members => spread depth "\x7b" "\x7d" (layoutMembers (depth + 1) members)

/-- Each value over several lines. -/
def layoutItems (depth : Nat) : List Json → List String
  | [] => []
  | item :: rest => layoutAt depth item :: layoutItems depth rest

/-- Each member over several lines. -/
def layoutMembers (depth : Nat) : List (String × Json) → List String
  | [] => []
  | (name, value) :: rest =>
    (writeString name ++ ": " ++ layoutAt depth value) :: layoutMembers depth rest

end

/-- The text of a value over several lines, indented by two columns. -/
def layout (value : Json) : String := layoutAt 0 value

end LedgerWire.Json
