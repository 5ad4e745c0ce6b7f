import LedgerWire.Yaml.Scalar
import LedgerWire.Yaml.Directive

/-!
# YAML tokens

Indentation and the keys of mappings are turned into tokens of their own. A key is known for one
only when its colon is met, so the lexer remembers where the last token began that could be a
key, and puts the missing tokens in front of it. There is one such place for the block level and
one for each open flow collection.
-/

namespace LedgerWire.Yaml

/-- A token of a YAML text. -/
inductive Token where
  | directive
  | documentStart
  | documentEnd
  | blockSequenceStart
  | blockMappingStart
  | blockEnd
  | flowSequenceStart
  | flowSequenceEnd
  | flowMappingStart
  | flowMappingEnd
  | blockEntry
  | flowEntry
  | key
  | value
  | alias (name : String)
  | anchor (name : String)
  | tag (tag : Tag)
  | scalar (text : String) (plain : Bool)
  deriving DecidableEq

/-- A place where a key may have begun. -/
structure KeyPlace where
  /-- How many tokens come before it. -/
  position : Nat
  index : Nat
  line : Nat
  column : Nat
  /-- Whether the token there has to be a key. -/
  required : Bool

/-- The state of the lexer. -/
structure Lexer where
  cursor : Cursor
  tokens : List Token := []
  /-- Whether a key may begin here. -/
  keyAllowed : Bool := true
  /-- Where the last key may have begun, on the present level. -/
  keyPlace : Option KeyPlace := none
  /-- The same for the levels around it, the nearest first. -/
  outerPlaces : List (Option KeyPlace) := []
  /-- The column of the present block collection, -1 outside of all. -/
  indent : Int := -1
  /-- The columns of the block collections around it, the nearest first. -/
  outerIndents : List Int := []
  /-- The index right after the last quoted scalar, where a colon needs no blank after it. -/
  adjacent : Nat := 0

namespace Lexer

/-- Whether a flow collection is open. -/
def inFlow (lexer : Lexer) : Bool := !lexer.outerPlaces.isEmpty

/-- How deep flow collections may stand inside one another. -/
def maxFlowDepth : Nat := 255

/-- Adds a token. -/
def push (lexer : Lexer) (token : Token) : Lexer :=
  { lexer with tokens := lexer.tokens ++ [token] }

/-- Puts a token before the one at a position. -/
def insert (lexer : Lexer) (position : Nat) (token : Token) : Lexer :=
  { lexer with tokens := lexer.tokens.take position ++ token :: lexer.tokens.drop position }

/-- Moves on by some characters. -/
def skip (lexer : Lexer) (count : Nat) : Lexer := { lexer with cursor := lexer.cursor.skip count }

/-- Allows or forbids a key here. -/
def allowKey (lexer : Lexer) (allowed : Bool) : Lexer := { lexer with keyAllowed := allowed }

/-- Passes over blanks, comments and line breaks. The first argument bounds their number. -/
def skipGap : Nat → Lexer → Lexer
  | 0, lexer => lexer
  | bound + 1, lexer =>
    let c := lexer.cursor
    if c.char == ' ' || (c.char == '\t' && (lexer.inFlow || !lexer.keyAllowed)) then
      skipGap bound { lexer with cursor := c.advance }
    else if isBreak c.char then
      skipGap bound
        { lexer with cursor := c.skipBreak, keyAllowed := lexer.keyAllowed || !lexer.inFlow }
    else if c.char == '#' then
      skipGap bound { lexer with cursor := c.skipWhile (!isLineEnd ·) }
    else lexer

/-- A key ends on the line it begins on, and within so many characters. -/
def maxKeyLength : Nat := 1024

/-- Forgets a place whose key can no longer end. A place that had to be a key is a failure. -/
def KeyPlace.refresh (c : Cursor) : Option KeyPlace → Option (Option KeyPlace)
  | none => some none
  | some place =>
    if place.line < c.line || place.index + maxKeyLength < c.index then
      if place.required then none else some none
    else some (some place)

/-- Forgets all places whose keys can no longer end. -/
def refresh (lexer : Lexer) : Option Lexer := do
  let keyPlace ← KeyPlace.refresh lexer.cursor lexer.keyPlace
  let outerPlaces ← lexer.outerPlaces.mapM (KeyPlace.refresh lexer.cursor)
  return { lexer with keyPlace := keyPlace, outerPlaces := outerPlaces }

/-- Forgets the place on the present level. -/
def dropKey (lexer : Lexer) : Option Lexer :=
  match lexer.keyPlace with
  | some place => if place.required then none else some { lexer with keyPlace := none }
  | none => some lexer

/-- Remembers that a key may begin here, if one is allowed. -/
def markKey (lexer : Lexer) : Option Lexer := do
  if lexer.keyAllowed then
    let c := lexer.cursor
    let lexer ← lexer.dropKey
    let required := lexer.inFlow && lexer.indent == (c.column : Int)
    return { lexer with
      keyPlace := some ⟨lexer.tokens.length, c.index, c.line, c.column, required⟩ }
  else return lexer

/-- Opens a block collection at a column that is further to the right, its token going to the
given position. -/
def openBlock (lexer : Lexer) (column position : Nat) (token : Token) : Lexer :=
  if !lexer.inFlow && decide (lexer.indent < (column : Int)) then
    { lexer.insert position token with
      indent := column, outerIndents := lexer.indent :: lexer.outerIndents }
  else lexer

/-- Closes blocks until one is not to the right of the column. -/
def closeBlocksFrom (column : Int) : Int → List Int → Nat × Int × List Int
  | indent, [] => (0, indent, [])
  | indent, outer :: rest =>
    if column < indent then
      let (closed, indent, rest) := closeBlocksFrom column outer rest
      (closed + 1, indent, rest)
    else (0, indent, outer :: rest)

/-- Closes the block collections that are to the right of a column. -/
def closeBlocks (lexer : Lexer) (column : Int) : Lexer :=
  if lexer.inFlow then lexer
  else
    let (closed, indent, outer) := closeBlocksFrom column lexer.indent lexer.outerIndents
    { lexer with
      tokens := lexer.tokens ++ List.replicate closed .blockEnd
      indent := indent
      outerIndents := outer }

/-- Reads the name of an anchor, from its mark on. -/
def readName (c : Cursor) : Option (String × Cursor) :=
  let (name, c) := c.advance.takeWhile isNameChar
  let ended := isGap c.char || ['?', ':', ',', ']', '\x7d', '%', '@', '\x60'].contains c.char
  if name.isEmpty || !ended then none else some (String.ofList name, c)

/-- Adds a scalar that has been read. -/
def pushScalar (lexer : Lexer) (plain : Bool) (scanned : Scanned) : Lexer :=
  { lexer.push (.scalar (String.ofList scanned.text) plain) with
    cursor := scanned.cursor, keyAllowed := scanned.broken }

/-- Reads a plain scalar. -/
def readPlain (lexer : Lexer) : Option Lexer := do
  let lexer ← lexer.markKey
  let scanned ← Plain.read lexer.inFlow (lexer.indent + 1).toNat lexer.cursor
  return lexer.pushScalar true scanned

/-- Reads a quoted scalar. -/
def readQuoted (lexer : Lexer) : Option Lexer := do
  let lexer ← lexer.markKey
  let scanned ← Quote.read lexer.cursor
  return { lexer.pushScalar false scanned with adjacent := scanned.cursor.index }

/-- Reads a block scalar. -/
def readBlock (lexer : Lexer) : Option Lexer := do
  let lexer ← lexer.markKey
  let scanned ← Block.read lexer.indent lexer.cursor
  return lexer.pushScalar false scanned

/-- Reads an alias or an anchor. -/
def readAnchor (lexer : Lexer) (make : String → Token) : Option Lexer := do
  let lexer ← lexer.markKey
  let (name, c) ← readName lexer.cursor
  return { (lexer.push (make name)).allowKey false with cursor := c }

/-- Reads a tag. -/
def readTagged (lexer : Lexer) : Option Lexer := do
  let lexer ← lexer.markKey
  let (tag, c) ← Tag.read lexer.cursor
  return { (lexer.push (.tag tag)).allowKey false with cursor := c }

/-- Opens a flow collection, which may itself be a key. -/
def openFlow (lexer : Lexer) (token : Token) : Option Lexer := do
  let lexer ← lexer.markKey
  if maxFlowDepth ≤ lexer.outerPlaces.length then none
  return { ((lexer.push token).allowKey true).skip 1 with
    keyPlace := none, outerPlaces := lexer.keyPlace :: lexer.outerPlaces }

/-- Closes a flow collection. -/
def closeFlow (lexer : Lexer) (token : Token) : Option Lexer := do
  let lexer ← lexer.dropKey
  let lexer := ((lexer.push token).allowKey false).skip 1
  match lexer.outerPlaces with
  | [] => return lexer
  | keyPlace :: outerPlaces =>
    return { lexer with keyPlace := keyPlace, outerPlaces := outerPlaces }

/-- Reads the comma of a flow collection. -/
def readFlowEntry (lexer : Lexer) : Option Lexer := do
  let lexer ← lexer.dropKey
  return ((lexer.push .flowEntry).allowKey true).skip 1

/-- Reads the dash of a block sequence. -/
def readBlockEntry (lexer : Lexer) : Option Lexer := do
  if lexer.inFlow || !lexer.keyAllowed then none
  let lexer := lexer.openBlock lexer.cursor.column lexer.tokens.length .blockSequenceStart
  let lexer ← lexer.dropKey
  return ((lexer.push .blockEntry).allowKey true).skip 1

/-- Reads the question mark before a key. -/
def readKey (lexer : Lexer) : Option Lexer := do
  if !lexer.inFlow && !lexer.keyAllowed then none
  let lexer := lexer.openBlock lexer.cursor.column lexer.tokens.length .blockMappingStart
  let lexer ← lexer.dropKey
  return ((lexer.push .key).allowKey (!lexer.inFlow)).skip 1

/-- Reads the colon after a key. -/
def readValue (lexer : Lexer) : Option Lexer :=
  match lexer.keyPlace with
  | some place =>
    let lexer := lexer.insert place.position .key
    let lexer := lexer.openBlock place.column place.position .blockMappingStart
    some (({ lexer with keyPlace := none }.push .value).allowKey false |>.skip 1)
  | none =>
    if !lexer.inFlow && !lexer.keyAllowed then none
    else
      let lexer := lexer.openBlock lexer.cursor.column lexer.tokens.length .blockMappingStart
      some (((lexer.push .value).allowKey (!lexer.inFlow)).skip 1)

/-- Leaves all block collections, before a directive, the border of a document or the end. -/
def leaveBlocks (lexer : Lexer) : Option Lexer :=
  ((lexer.closeBlocks (-1)).dropKey).map (·.allowKey false)

/-- Whether the colon here ends a key. -/
def atValue (lexer : Lexer) : Bool :=
  let c := lexer.cursor
  isGap c.next || (lexer.inFlow && (isFlowMark c.next || c.index == lexer.adjacent))

/-- Reads one token, or several that come together. -/
def readToken (lexer : Lexer) : Option Lexer :=
  let c := lexer.cursor
  match c.char with
  | '[' => lexer.openFlow .flowSequenceStart
  | '\x7b' => lexer.openFlow .flowMappingStart
  | ']' => lexer.closeFlow .flowSequenceEnd
  | '\x7d' => lexer.closeFlow .flowMappingEnd
  | ',' => lexer.readFlowEntry
  | '-' => if isGap c.next then lexer.readBlockEntry else lexer.readPlain
  | '?' => if isGap c.next then lexer.readKey else lexer.readPlain
  | ':' => if lexer.atValue then lexer.readValue else lexer.readPlain
  | '*' => lexer.readAnchor .alias
  | '&' => lexer.readAnchor .anchor
  | '!' => lexer.readTagged
  | '|' => if lexer.inFlow then lexer.readPlain else lexer.readBlock
  | '>' => if lexer.inFlow then lexer.readPlain else lexer.readBlock
  | '\'' => lexer.readQuoted
  | '"' => lexer.readQuoted
  | '%' => none
  | '@' => none
  | '\x60' => none
  | _ => lexer.readPlain

/-- Reads on. The answer is empty on a malformed text. -/
def step (lexer : Lexer) : Option Lexer := do
  let lexer ← (lexer.skipGap lexer.cursor.rest.length).refresh
  let lexer := lexer.closeBlocks lexer.cursor.column
  let c := lexer.cursor
  if c.char == '\x00' then lexer.leaveBlocks
  else if c.column == 0 && c.char == '%' then
    let lexer ← lexer.leaveBlocks
    return { lexer.push .directive with cursor := ← Directive.read c }
  else if c.atBorder '-' then
    let lexer ← lexer.leaveBlocks
    return (lexer.push .documentStart).skip 3
  else if c.atBorder '.' then
    let lexer ← lexer.leaveBlocks
    return (lexer.push .documentEnd).skip 3
  else lexer.readToken

/-- Reads to the end of the text. The first argument bounds the number of steps. -/
def run : Nat → Lexer → Option Lexer
  | 0, lexer => some lexer
  | bound + 1, lexer =>
    match lexer.step with
    | none => none
    | some lexer => if lexer.cursor.rest.isEmpty then lexer.step else run bound lexer

end Lexer

/-- The tokens of a text. Each step but the last reads at least one character. -/
def Token.ofText? (text : String) : Option (List Token) :=
  let cursor := Cursor.ofText text
  (Lexer.run (cursor.rest.length + 1) { cursor := cursor }).map (·.tokens)

end LedgerWire.Yaml
