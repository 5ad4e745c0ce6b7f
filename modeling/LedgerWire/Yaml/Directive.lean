import LedgerWire.Yaml.Tag

/-!
# YAML directives

A directive stands on a line of its own before a document. That of the version and those that
declare a handle for tags have to be well formed. None of them has any effect: all versions are
read alike, and a tag is compared by its handle.
-/

namespace LedgerWire.Yaml.Directive

/-- How many digits a part of a version may have. -/
def maxVersionDigits : Nat := 9

/-- Passes over a part of a version. -/
def readVersionPart (c : Cursor) : Option Cursor :=
  let (digits, c) := c.takeWhile Char.isDigit
  if digits.isEmpty || decide (maxVersionDigits < digits.length) then none else some c

/-- Passes over a version: two numbers with a point between them. -/
def readVersion (c : Cursor) : Option Cursor := do
  let c ← readVersionPart c
  if c.char = '.' then readVersionPart c.advance else none

/-- Passes over a handle. A name in it ends in an exclamation mark. -/
def readHandle (c : Cursor) : Option Cursor :=
  if c.char = '!' then
    let (name, c) := c.advance.takeWhile isNameChar
    if c.char = '!' then some c.advance else if name.isEmpty then some c else none
  else none

/-- Passes over the declaration of a handle, which stands for the beginning of a suffix. -/
def readDeclaration (c : Cursor) : Option Cursor := do
  let c ← readHandle c
  let (_, c) ← Tag.readSomeSuffix (c.skipWhile isBlank)
  if isGap c.char then return c else none

/-- Passes over a directive, from its percent sign to the end of its line. -/
def read (c : Cursor) : Option Cursor := do
  let (name, c) := c.advance.takeWhile isNameChar
  if name.isEmpty || !isGap c.char then none
  let value := c.skipWhile isBlank
  let c ←
    if name = ['Y', 'A', 'M', 'L'] then readVersion value
    else if name = ['T', 'A', 'G'] then readDeclaration value
    else some (c.skipWhile (!isLineEnd ·))
  c.skipComment

end LedgerWire.Yaml.Directive
