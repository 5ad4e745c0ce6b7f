/-!
# Places in a YAML text

A cursor is what is left of a text together with the index, line and column it begins at. The
text ends at its first NUL, so NUL stands for the end when characters are looked at.
-/

namespace LedgerWire.Yaml

/-- Whether a character is a line break. -/
def isBreak (c : Char) : Bool := c == '\n' || c == '\r'

/-- Whether a character is a blank inside a line. -/
def isBlank (c : Char) : Bool := c == ' ' || c == '\t'

/-- Whether a character ends a line. -/
def isLineEnd (c : Char) : Bool := c == '\x00' || isBreak c

/-- Whether a character ends a word. -/
def isGap (c : Char) : Bool := isBlank c || isLineEnd c

/-- Whether a character stands for itself inside flow collections. -/
def isFlowMark (c : Char) : Bool :=
  c == ',' || c == '[' || c == ']' || c == '\x7b' || c == '\x7d'

/-- Whether a character may stand in the name of an anchor. -/
def isNameChar (c : Char) : Bool :=
  ('0' ≤ c && c ≤ '9') || ('a' ≤ c && c ≤ 'z') || ('A' ≤ c && c ≤ 'Z') || c == '_' || c == '-'

/-- The character of a code point. Surrogates are none. -/
def charOf? (code : Nat) : Option Char :=
  if h : code.isValidChar then some (Char.ofNatAux code h) else none

/-- What is left of a text, and where it begins. -/
structure Cursor where
  rest : List Char
  index : Nat := 0
  line : Nat := 0
  column : Nat := 0

namespace Cursor

/-- The start of a text. -/
def ofText (text : String) : Cursor := { rest := text.toList.takeWhile (· != '\x00') }

/-- The character at a distance. -/
def ahead (c : Cursor) (distance : Nat) : Char := (c.rest.drop distance).headD '\x00'

/-- The character here. -/
def char (c : Cursor) : Char := c.ahead 0

/-- The character after the one here. -/
def next (c : Cursor) : Char := c.ahead 1

/-- The place one character further on. Only a line feed begins a new line. -/
def advance (c : Cursor) : Cursor :=
  match c.rest with
  | [] => c
  | '\n' :: rest => ⟨rest, c.index + 1, c.line + 1, 0⟩
  | _ :: rest => ⟨rest, c.index + 1, c.line, c.column + 1⟩

/-- The place some characters further on. -/
def skip : Nat → Cursor → Cursor
  | 0, c => c
  | count + 1, c => skip count c.advance

/-- The characters here that satisfy a condition, and the place after them. -/
def takeWhile (p : Char → Bool) (c : Cursor) : List Char × Cursor :=
  let taken := c.rest.takeWhile p
  (taken, c.skip taken.length)

/-- The place after the characters that satisfy a condition. -/
def skipWhile (p : Char → Bool) (c : Cursor) : Cursor := (c.takeWhile p).2

/-- The place after a line break. A carriage return and a line feed are one break. -/
def skipBreak (c : Cursor) : Cursor :=
  if c.char == '\r' && c.next == '\n' then c.skip 2
  else if isBreak c.char then c.advance
  else c

/-- Whether three characters at the start of a line mark the border of a document. -/
def atBorder (c : Cursor) (mark : Char) : Bool :=
  c.column == 0 && c.ahead 0 == mark && c.ahead 1 == mark && c.ahead 2 == mark &&
    isGap (c.ahead 3)

/-- Whether a document begins or ends here. -/
def atDocumentBorder (c : Cursor) : Bool := c.atBorder '-' || c.atBorder '.'

/-- The end of a line that holds only blanks and a comment. -/
def skipComment (c : Cursor) : Option Cursor :=
  let c := c.skipWhile isBlank
  let c := if c.char == '#' then c.skipWhile (!isLineEnd ·) else c
  if isLineEnd c.char then some c.skipBreak else none

end Cursor

end LedgerWire.Yaml
