import LedgerWire.Text.Hex
import LedgerWire.Text.Printable

/-!
# Quoted text

Diagnostics show text between quotes. Inside them a backslash, the enclosing quote, the usual
controls and every character that would not be seen as itself are written as escapes, so the
quoted form is always a single visible line.
-/

namespace LedgerWire.Quoted

/-- The escape by code point, in braces. -/
def codePoint (c : Char) : List Char :=
  ['\\', 'u', '\x7b'] ++ (Hex.ofNat c.toNat).toList ++ ['\x7d']

/-- One character as it appears between two `quote` characters. -/
def escape (quote c : Char) : List Char :=
  if c = '\x00' then ['\\', '0']
  else if c = '\t' then ['\\', 't']
  else if c = '\r' then ['\\', 'r']
  else if c = '\n' then ['\\', 'n']
  else if c = '\\' ∨ c = quote then ['\\', c]
  else if Printable.isExtending c ∨ ¬ Printable.isVisible c then codePoint c
  else [c]

/-- A text between double quotes. -/
def text (text : String) : String :=
  String.ofList ('"' :: text.toList.flatMap (escape '"') ++ ['"'])

/-- A character between single quotes. -/
def char (c : Char) : String := String.ofList ('\'' :: escape '\'' c ++ ['\''])

end LedgerWire.Quoted
