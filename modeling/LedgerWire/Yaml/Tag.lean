import LedgerWire.Text.Hex
import LedgerWire.Yaml.Cursor

/-!
# YAML tags

A tag tells the type of a node by a handle and a suffix. Few characters may stand in a suffix; a
percent sign with two hexadecimal digits is an octet, and a character may be written as octets.
The first octet tells how many there are, and the number of the character is that of all octets
in a row, with their leading bits.
-/

namespace LedgerWire.Yaml

/-- The tag of a node. -/
structure Tag where
  handle : String
  suffix : String
  deriving DecidableEq

namespace Tag

/-- The tag of a type of the core schema. -/
def core (name : String) : Tag := ⟨"!!", name⟩

/-- Whether a character may stand for itself in a suffix. -/
def isSuffixChar (c : Char) : Bool :=
  isNameChar c || ";/?:@&=+$,.!~*'()[]".toList.contains c

/-- How many octets a character has that begins with the given one. -/
def octetCount? (octet : Nat) : Option Nat :=
  if octet < 0x80 then some 1
  else if octet < 0xC0 then none
  else if octet < 0xE0 then some 2
  else if octet < 0xF0 then some 3
  else if octet < 0xF8 then some 4
  else none

/-- Reads an octet, from its percent sign on. -/
def readOctet (c : Cursor) : Option (Nat × Cursor) :=
  if c.char = '%' then do
    let high ← Hex.digit? c.next
    let low ← Hex.digit? (c.ahead 2)
    return (16 * high + low, c.skip 3)
  else none

/-- Reads the octets of a character after those with the given number. -/
def readOctets : Nat → Nat → Cursor → Option (Nat × Cursor)
  | 0, number, c => some (number, c)
  | count + 1, number, c => do
    let (octet, c) ← readOctet c
    if 0x80 ≤ octet ∧ octet < 0xC0 then readOctets count (256 * number + octet) c else none

/-- Reads a character that is written as octets. -/
def readEscape (c : Cursor) : Option (Char × Cursor) := do
  let (octet, c) ← readOctet c
  let count ← octetCount? octet
  let (number, c) ← readOctets (count - 1) octet c
  return (← charOf? number, c)

/-- Reads a suffix, which may be empty. The first argument bounds the number of characters. -/
def readSuffix : Nat → List Char → Cursor → Option (List Char × Cursor)
  | 0, suffix, c => some (suffix, c)
  | bound + 1, suffix, c =>
    if isSuffixChar c.char then readSuffix bound (suffix ++ [c.char]) c.advance
    else if c.char = '%' then do
      let (char, c) ← readEscape c
      readSuffix bound (suffix ++ [char]) c
    else some (suffix, c)

/-- Reads a suffix that is not empty. -/
def readSomeSuffix (c : Cursor) : Option (List Char × Cursor) := do
  let (suffix, c) ← readSuffix c.rest.length [] c
  if suffix.isEmpty then none else return (suffix, c)

/-- Reads a tag in angle brackets. -/
def readVerbatim (c : Cursor) : Option (Tag × Cursor) := do
  let (suffix, c) ← readSomeSuffix c
  if c.char = '>' then return (⟨"", String.ofList suffix⟩, c.advance) else none

/-- Reads a tag after its exclamation mark. What comes before a second one is the handle; where
there is none the whole tag is the suffix, and the exclamation mark alone is a tag too. -/
def readShorthand (c : Cursor) : Option (Tag × Cursor) := do
  let (name, after) := c.takeWhile isNameChar
  if after.char = '!' then
    let (suffix, c) ← readSomeSuffix after.advance
    return (⟨"!" ++ String.ofList name ++ "!", String.ofList suffix⟩, c)
  else
    let (suffix, c) ← readSuffix after.rest.length name after
    return (if suffix.isEmpty then ⟨"", "!"⟩ else ⟨"!", String.ofList suffix⟩, c)

/-- Reads a tag, from its exclamation mark to the gap after it. -/
def read (c : Cursor) : Option (Tag × Cursor) := do
  let (tag, c) ← if c.next = '<' then readVerbatim (c.skip 2) else readShorthand c.advance
  if isGap c.char then return (tag, c) else none

end Tag

end LedgerWire.Yaml
