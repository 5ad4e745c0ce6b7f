import LedgerWire.Text.Hex
import LedgerWire.Text.Radix
import LedgerWire.Yaml.Cursor

/-!
# YAML scalars

A scalar is written plainly, between quotes or as a block. Line breaks inside the first two are
folded: a single one becomes a blank, and of several all but the first are kept. The readers here
begin at the first character of a scalar and end after its last.
-/

namespace LedgerWire.Yaml

/-- The blanks and line breaks between two words of a scalar. -/
structure Gap where
  /-- The blanks, when there is no break. -/
  blanks : List Char := []
  /-- Whether there is a break. -/
  broken : Bool := false
  /-- Whether the first break is still to be folded, and not escaped. -/
  folding : Bool := false
  /-- How many breaks there are besides the one that is folded. -/
  breaks : Nat := 0

/-- What a gap stands for. -/
def Gap.text (gap : Gap) : List Char :=
  if !gap.broken then gap.blanks
  else if gap.folding && gap.breaks == 0 then [' ']
  else List.replicate gap.breaks '\n'

/-- Reads on to the next word. After a break no tab may stand before the given column. The first
argument bounds the number of characters. -/
def Gap.read (margin : Nat) : Nat → Gap → Cursor → Option (Gap × Cursor)
  | 0, gap, c => some (gap, c)
  | bound + 1, gap, c =>
    if isBlank c.char then
      if gap.broken then
        if c.char == '\t' && decide (c.column < margin) then none
        else Gap.read margin bound gap c.advance
      else Gap.read margin bound { gap with blanks := gap.blanks ++ [c.char] } c.advance
    else if isBreak c.char then
      if gap.broken then Gap.read margin bound { gap with breaks := gap.breaks + 1 } c.skipBreak
      else Gap.read margin bound { blanks := [], broken := true, folding := true } c.skipBreak
    else some (gap, c)

/-- A scalar that was read. -/
structure Scanned where
  text : List Char
  /-- Whether a line break was passed after the last word. -/
  broken : Bool
  cursor : Cursor

namespace Plain

/-- Whether a plain scalar ends here: before the colon of a mapping, and inside a flow
collection before its marks. -/
def ends (flow : Bool) (c : Cursor) : Bool :=
  (c.char == ':' && (isGap c.next || (flow && isFlowMark c.next))) || (flow && isFlowMark c.char)

/-- Reads one word. -/
def readWord (flow : Bool) : Nat → List Char → Cursor → List Char × Cursor
  | 0, word, c => (word, c)
  | bound + 1, word, c =>
    if isGap c.char || ends flow c then (word, c)
    else readWord flow bound (word ++ [c.char]) c.advance

/-- Reads words until a comment, the border of a document, or a line that begins before the
given column. -/
def readFrom (flow : Bool) (margin : Nat) : Nat → List Char → Gap → Cursor → Option Scanned
  | 0, text, gap, c => some ⟨text, gap.broken, c⟩
  | bound + 1, text, gap, c =>
    if c.atDocumentBorder || c.char == '#' then some ⟨text, gap.broken, c⟩
    else
      let (word, c) := readWord flow c.rest.length [] c
      let text := if word.isEmpty then text else text ++ gap.text ++ word
      let gap := if word.isEmpty then gap else {}
      if isBlank c.char || isBreak c.char then do
        let (gap, c) ← gap.read margin c.rest.length c
        if !flow && decide (c.column < margin) then return ⟨text, gap.broken, c⟩
        readFrom flow margin bound text gap c
      else some ⟨text, gap.broken, c⟩

/-- Reads a plain scalar. -/
def read (flow : Bool) (margin : Nat) (c : Cursor) : Option Scanned :=
  readFrom flow margin (c.rest.length + 1) [] {} c

end Plain

namespace Quote

/-- The character of an escape that has one letter. -/
def simpleEscape? : Char → Option Char
  | '0' => some '\x00'
  | 'a' => some '\x07'
  | 'b' => some '\x08'
  | 't' => some '\t'
  | '\t' => some '\t'
  | 'n' => some '\n'
  | 'v' => some '\x0b'
  | 'f' => some '\x0c'
  | 'r' => some '\r'
  | 'e' => some '\x1b'
  | ' ' => some ' '
  | '"' => some '"'
  | '\'' => some '\''
  | '\\' => some '\\'
  | 'N' => some '\u0085'
  | '_' => some '\u00a0'
  | 'L' => some '\u2028'
  | 'P' => some '\u2029'
  | _ => none

/-- How many hexadecimal digits follow the letter of an escape by code point. -/
def codeLength? : Char → Option Nat
  | 'x' => some 2
  | 'u' => some 4
  | 'U' => some 8
  | _ => none

/-- Reads an escape, from its backslash on. -/
def readEscape (c : Cursor) : Option (Char × Cursor) :=
  match simpleEscape? c.next with
  | some char => some (char, c.skip 2)
  | none => do
    let length ← codeLength? c.next
    let digits ← ((c.rest.drop 2).take length).mapM Hex.digit?
    if digits.length = length then
      return (← charOf? (Radix.value 16 digits), c.skip (2 + length))
    else none

/-- Reads one word between quotes. The flag tells that it ends in an escaped line break. -/
def readWord (quote : Char) : Nat → List Char → Cursor → Option (List Char × Bool × Cursor)
  | 0, word, c => some (word, false, c)
  | bound + 1, word, c =>
    if isGap c.char then some (word, false, c)
    else if quote == '\'' && c.char == '\'' && c.next == '\'' then
      readWord quote bound (word ++ ['\'']) (c.skip 2)
    else if c.char == quote then some (word, false, c)
    else if quote == '"' && c.char == '\\' then
      if isBreak c.next then some (word, true, c.advance.skipBreak)
      else do
        let (char, c) ← readEscape c
        readWord quote bound (word ++ [char]) c
    else readWord quote bound (word ++ [c.char]) c.advance

/-- Reads words up to the closing quote, which has to come within the document. -/
def readFrom (quote : Char) : Nat → List Char → Cursor → Option Scanned
  | 0, _, _ => none
  | bound + 1, text, c =>
    if c.atDocumentBorder || c.char == '\x00' then none
    else do
      let (word, escaped, c) ← readWord quote (c.rest.length + 1) [] c
      let text := text ++ word
      if c.char == quote then return ⟨text, false, c.advance⟩
      let (gap, c) ← Gap.read 0 c.rest.length { broken := escaped } c
      readFrom quote bound (text ++ gap.text) c

/-- Reads a quoted scalar, from its opening quote on. -/
def read (c : Cursor) : Option Scanned := readFrom c.char (c.rest.length + 1) [] c.advance

end Quote

namespace Block

/-- What happens to the line breaks at the end of a block. -/
inductive Chomping where
  | strip
  | clip
  | keep
  deriving DecidableEq

/-- The chomping that a character asks for. -/
def chomping? : Char → Option Chomping
  | '+' => some .keep
  | '-' => some .strip
  | _ => none

/-- The indentation that a digit asks for. Zero is refused. -/
def readIncrement (c : Cursor) : Option (Nat × Cursor) :=
  if '0' ≤ c.char ∧ c.char ≤ '9' then
    if c.char = '0' then none else some (c.char.toNat - 48, c.advance)
  else some (0, c)

/-- Reads the header after its mark: chomping and indentation in either order, none of which has
to be there. -/
def readHeader (c : Cursor) : Option (Chomping × Nat × Cursor) :=
  match chomping? c.char with
  | some chomping => do
    let (increment, c) ← readIncrement c.advance
    let c ← c.skipComment
    return (chomping, increment, c)
  | none => do
    let (increment, c) ← readIncrement c
    let (chomping, c) := match chomping? c.char with
      | some chomping => (chomping, c.advance)
      | none => (.clip, c)
    let c ← c.skipComment
    return (chomping, increment, c)

/-- Skips indentation and empty lines. The width of the indentation is zero as long as it is not
known; it becomes that of the widest line. -/
def readBreaks (width : Nat) : Nat → Nat → Nat → Cursor → Option (Nat × Nat × Cursor)
  | 0, widest, breaks, c => some (widest, breaks, c)
  | bound + 1, widest, breaks, c =>
    let spaces := (c.rest.takeWhile (· == ' ')).length
    let c := c.skip (if width = 0 then spaces else min spaces (width - c.column))
    let widest := max widest c.column
    if (width = 0 ∨ c.column < width) ∧ c.char = '\t' then none
    else if isBreak c.char then readBreaks width bound widest (breaks + 1) c.skipBreak
    else some (widest, breaks, c)

/-- The lines of a block so far. -/
structure Lines where
  text : List Char
  /-- Whether the break after the last line is still to be written or folded. -/
  pending : Bool
  /-- Whether the last line begins with a blank. -/
  indented : Bool
  /-- How many empty lines came after it. -/
  breaks : Nat

/-- The text with one more line. In a folded block the break between two lines that begin with
no blank becomes a blank. -/
def Lines.add (literal : Bool) (lines : Lines) (line : List Char) : Lines :=
  let indented := isBlank (line.headD '\n')
  let gap :=
    if !lines.pending then []
    else if !literal && !lines.indented && !indented then
      if lines.breaks = 0 then [' '] else []
    else ['\n']
  ⟨lines.text ++ gap ++ List.replicate lines.breaks '\n' ++ line, false, indented, 0⟩

/-- Reads the lines that are indented by the given width. -/
def readLines (literal : Bool) (width : Nat) : Nat → Lines → Cursor → Option (Lines × Cursor)
  | 0, lines, c => some (lines, c)
  | bound + 1, lines, c =>
    if c.column = width ∧ c.char ≠ '\x00' then
      let (line, c) := c.takeWhile (!isLineEnd ·)
      let lines := lines.add literal line
      if c.char = '\x00' then some (lines, c)
      else do
        let c := c.skipBreak
        let (_, breaks, c) ← readBreaks width (c.rest.length + 1) 0 0 c
        readLines literal width bound { lines with pending := true, breaks := breaks } c
    else some (lines, c)

/-- The text of a block with the breaks at its end. -/
def Lines.chomp (chomping : Chomping) (lines : Lines) : List Char :=
  let last := if lines.pending then ['\n'] else []
  match chomping with
  | .strip => lines.text
  | .clip => lines.text ++ last
  | .keep => lines.text ++ last ++ List.replicate lines.breaks '\n'

/-- Reads a block scalar, from its mark on. The indentation of what holds it is -1 outside of
all collections. -/
def read (parent : Int) (c : Cursor) : Option Scanned := do
  let literal := c.char == '|'
  let (chomping, increment, c) ← readHeader c.advance
  let width := if increment = 0 then 0 else (max parent 0).toNat + increment
  let (widest, breaks, c) ← readBreaks width (c.rest.length + 1) 0 0 c
  let width := if width = 0 then max (max widest (parent + 1).toNat) 1 else width
  let (lines, c) ← readLines literal width (c.rest.length + 1) ⟨[], false, false, breaks⟩ c
  return ⟨lines.chomp chomping, true, c⟩

end Block

end LedgerWire.Yaml
