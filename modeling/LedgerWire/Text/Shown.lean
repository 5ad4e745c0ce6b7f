import LedgerWire.Text.Quoted
import LedgerWire.Text.Decimal

/-!
# Values in diagnostics

A value is shown as a tree of named records, tuples, lists and maps. The tree has two layouts:
on one line, and over several lines where every item has a line of its own, ends in a comma and
is indented by four more columns.
-/

namespace LedgerWire

/-- The shape of a value in a diagnostic. -/
inductive Shown where
  /-- A text that is shown as it stands. -/
  | atom (text : String)
  /-- A name and named items. -/
  | record (name : String) (fields : List (String × Shown))
  /-- A name and items by position. -/
  | tuple (name : String) (items : List Shown)
  /-- Items in square brackets, after a leading text. -/
  | list (lead : String) (items : List Shown)
  /-- Keyed items in braces, after a leading text. -/
  | map (lead : String) (entries : List (String × Shown))

namespace Shown

/-- A quoted text. -/
def text (content : String) : Shown := .atom (Quoted.text content)

/-- A number in decimal. -/
def nat (number : Nat) : Shown := .atom (Decimal.write number)

/-- A truth value. -/
def bool (value : Bool) : Shown := .atom (if value then "true" else "false")

/-- A value that may be absent. -/
def option : Option Shown → Shown
  | none => .atom "None"
  | some value => .tuple "Some" [value]

/-- Joins texts with commas, on one line. -/
def joined (items : List String) : String := String.intercalate ", " items

mutual

/-- The layout on one line. -/
def line : Shown → String
  | .atom text => text
  | .record name fields =>
    match fields with
    | [] => name
    | fields => name ++ " \x7b " ++ joined (fieldLines fields) ++ " \x7d"
  | .tuple name items => name ++ "(" ++ joined (itemLines items) ++ ")"
  | .list lead items => lead ++ "[" ++ joined (itemLines items) ++ "]"
  | .map lead entries => lead ++ "\x7b" ++ joined (fieldLines entries) ++ "\x7d"

/-- Each item on one line. -/
def itemLines : List Shown → List String
  | [] => []
  | item :: rest => line item :: itemLines rest

/-- Each keyed item on one line. -/
def fieldLines : List (String × Shown) → List String
  | [] => []
  | (name, item) :: rest => (name ++ ": " ++ line item) :: fieldLines rest

end

/-- The margin of an indentation depth. -/
def margin (depth : Nat) : String := String.ofList (List.replicate (4 * depth) ' ')

/-- Items between an opening and a closing text, each on a line of its own one level deeper. -/
def spread (depth : Nat) (opening closing : String) : List String → String
  | [] => opening ++ closing
  | items =>
    opening ++ "\n" ++
      String.join (items.map fun item => margin (depth + 1) ++ item ++ ",\n") ++
      margin depth ++ closing

mutual

/-- The layout over several lines, for a value that begins at the given depth. -/
def blockAt (depth : Nat) : Shown → String
  | .atom text => text
  | .record name fields =>
    match fields with
    | [] => name
    | fields => spread depth (name ++ " \x7b") "\x7d" (fieldBlocks (depth + 1) fields)
  | .tuple name items => spread depth (name ++ "(") ")" (itemBlocks (depth + 1) items)
  | .list lead items => spread depth (lead ++ "[") "]" (itemBlocks (depth + 1) items)
  | .map lead entries => spread depth (lead ++ "\x7b") "\x7d" (fieldBlocks (depth + 1) entries)

/-- Each item laid out over several lines. -/
def itemBlocks (depth : Nat) : List Shown → List String
  | [] => []
  | item :: rest => blockAt depth item :: itemBlocks depth rest

/-- Each keyed item laid out over several lines. -/
def fieldBlocks (depth : Nat) : List (String × Shown) → List String
  | [] => []
  | (name, item) :: rest => (name ++ ": " ++ blockAt depth item) :: fieldBlocks depth rest

end

/-- The layout over several lines. -/
def block (value : Shown) : String := blockAt 0 value

end Shown

end LedgerWire
