import LedgerWire.Amount
import LedgerWire.Json.ReadError
import LedgerWire.Text.Base64

/-!
# Typed values in JSON

A schema says three things about a type: how its values are read from JSON, how they are written
to JSON, and how they appear in a diagnostic. A record is described once, by its fields in the
order of their declaration, and its schema follows from that description.
-/

namespace LedgerWire

open Json (ReadError)

/-- How the values of a type are read from JSON, written to JSON and shown. -/
structure Schema (α : Type) where
  read : Json → Except ReadError α
  write : α → Json
  shown : α → Shown

namespace Schema

/-- The failure to find a value of the expected kind. -/
def unexpected {α : Type} (value : Json) (expected : String) : Except ReadError α :=
  .error (.invalidType value.found expected)

/-- Any JSON value, kept as it is. -/
def json : Schema Json where
  read := .ok
  write := id
  shown := Json.shown

/-- A text. -/
def text : Schema String where
  read
    | .string text => .ok text
    | value => unexpected value "a string"
  write := .string
  shown := .text

/-- A truth value. -/
def bool : Schema Bool where
  read
    | .bool value => .ok value
    | value => unexpected value "a boolean"
  write := .bool
  shown := .bool

/-- Reads a natural number below a limit. Negative integers and integers past the limit are out
of range; doubles are of the wrong kind, even when they are whole. -/
def readBelow (limit : Nat) (expected : String) : Json → Except ReadError Nat
  | .number (.integer value range) =>
    if 0 ≤ value ∧ value.toNat < limit then .ok value.toNat
    else .error (.invalidValue (.number (.integer value range)) expected)
  | value => unexpected value expected

/-- An unsigned 64-bit word. -/
def uint64 : Schema UInt64 where
  read value := (readBelow (2 ^ 64) "u64" value).map UInt64.ofNat
  write := Json.ofUInt64
  shown word := .nat word.toNat

/-- An unsigned 32-bit word. -/
def uint32 : Schema UInt32 where
  read value := (readBelow (2 ^ 32) "u32" value).map UInt32.ofNat
  write word := Json.ofUInt64 word.toUInt64
  shown word := .nat word.toNat

/-- A byte. -/
def uint8 : Schema UInt8 where
  read value := (readBelow (2 ^ 8) "u8" value).map UInt8.ofNat
  write byte := Json.ofUInt64 byte.toUInt64
  shown byte := .nat byte.toNat

/-- Reads an amount from decimal text, or from a natural number that fits 64 bits. -/
def readAmount : Json → Except ReadError Amount
  | .string text =>
    match Amount.ofText text with
    | .ok amount => .ok amount
    | .error fault =>
      .error (.refused ("invalid u128 " ++ Json.marked text ++ ": " ++ fault.message))
  | value =>
    match value.uint64? with
    | some units => .ok (.ofUInt64 units)
    | none => unexpected value "a u128 as a decimal string"

/-- An amount, written as decimal text. -/
def amount : Schema Amount where
  read := readAmount
  write amount := .string amount.text
  shown amount := .nat amount.units

/-- A buffer, written as base64 text. -/
def base64 : Schema Bytes where
  read value := do
    let encoded ← text.read value
    match Base64.decode encoded with
    | .ok bytes => .ok bytes
    | .error fault => .error (.refused fault.message)
  write bytes := .string (Base64.encode bytes)
  shown bytes := .list "" (bytes.map fun byte => .nat byte.toNat)

/-- A value that may be absent, which is written as null. -/
def optional {α : Type} (schema : Schema α) : Schema (Option α) where
  read
    | .null => .ok none
    | value => (schema.read value).map some
  write
    | none => .null
    | some value => schema.write value
  shown value := .option (value.map schema.shown)

/-- Reads every item in turn, the first failure being the failure of the list. -/
def readItems {α : Type} (schema : Schema α) : List Json → Except ReadError (List α)
  | [] => .ok []
  | item :: rest => do
    let item ← schema.read item
    let rest ← readItems schema rest
    return item :: rest

/-- A list. -/
def list {α : Type} (schema : Schema α) : Schema (List α) where
  read
    | .array items => readItems schema items
    | value => unexpected value "a sequence"
  write items := .array (items.map schema.write)
  shown items := .list "" (items.map schema.shown)

/-- A value that is written as one text. The reader sees the text and refuses it in the words of
its failure. -/
def ofText {α ε : Type} (parse : String → Except ε α) (refusal : ε → String) (write : α → String)
    (shown : α → Shown) : Schema α where
  read value := do
    let text ← text.read value
    match parse text with
    | .ok parsed => .ok parsed
    | .error failure => .error (.refused (refusal failure))
  write value := .string (write value)
  shown := shown

end Schema

/-- The fields of a record in the order of their declaration, over the row of their values. A
field may have a value that stands in when it is missing. -/
inductive Fields : Type → Type 1 where
  | done : Fields Unit
  | field {α τ : Type} (name : String) (schema : Schema α) (missing : Option α)
      (rest : Fields τ) : Fields (α × τ)

/-- A record type seen as the row of its field values. -/
structure Row (ρ τ : Type) where
  toRow : ρ → τ
  ofRow : τ → ρ
  ofRow_toRow : ∀ record, ofRow (toRow record) = record := by intros; rfl
  toRow_ofRow : ∀ row, toRow (ofRow row) = row := by intros; rfl

namespace Fields

/-- The names of the fields. -/
def names {τ : Type} : Fields τ → List String
  | .done => []
  | .field name _ _ rest => name :: names rest

/-- Reads a member only to see whether it fails. In a strict record a member with an undeclared
name fails too; otherwise it is passed over. -/
def checkMember {τ : Type} (fields : Fields τ) (strict : Bool) (declared : List String)
    (name : String) (value : Json) : Except ReadError Unit :=
  match fields with
  | .done => if strict then .error (.unknownField name declared) else .ok ()
  | .field own schema _ rest =>
    if own = name then (schema.read value).map fun _ => ()
    else checkMember rest strict declared name value

/-- Reads the members in the order of the text, only to find the first that fails. -/
def checkMembers {τ : Type} (fields : Fields τ) (strict : Bool) :
    List (String × Json) → Except ReadError Unit
  | [] => .ok ()
  | (name, value) :: rest => do
    checkMember fields strict fields.names name value
    checkMembers fields strict rest

/-- Fills the row from the members by name. -/
def fill {τ : Type} (fields : Fields τ) (members : List (String × Json)) : Except ReadError τ :=
  match fields with
  | .done => .ok ()
  | .field name schema missing rest => do
    let value ← match members.lookup name with
      | some value => schema.read value
      | none =>
        match missing with
        | some value => .ok value
        | none => .error (.missingField name)
    let row ← fill rest members
    return (value, row)

/-- Fills the row from the items of a sequence by position, and gives the items left over. The
failure on a short sequence tells the position and what a complete one looks like. -/
def fillFrom {τ : Type} (fields : Fields τ) (expected : String) (position : Nat)
    (items : List Json) : Except ReadError (τ × List Json) :=
  match fields with
  | .done => .ok ((), items)
  | .field _ schema missing rest => do
    let (value, items) ← match items with
      | item :: items => (schema.read item).map fun value => (value, items)
      | [] =>
        match missing with
        | some value => .ok (value, [])
        | none => .error (.invalidLength position expected)
    let (row, items) ← fillFrom rest expected (position + 1) items
    return ((value, row), items)

/-- The members of a row. -/
def write {τ : Type} : Fields τ → τ → List (String × Json)
  | .done, _ => []
  | .field name schema _ rest, (value, row) => (name, schema.write value) :: write rest row

/-- The row as it appears in a diagnostic. -/
def shown {τ : Type} : Fields τ → τ → List (String × Shown)
  | .done, _ => []
  | .field name schema _ rest, (value, row) => (name, schema.shown value) :: shown rest row

end Fields

/-- The wording of a complete sequence of `count` fields. -/
def Schema.elements (name : String) (count : Nat) : String :=
  "struct " ++ name ++ " with " ++ Decimal.write count ++
    (if count = 1 then " element" else " elements")

/-- A record, written as an object with its fields in the order of their declaration. An object
is read by member name: the first failing member in the order of the text is reported, and only
when none fails the first missing field. A sequence is read by position. -/
def Schema.record {ρ τ : Type} (name : String) (fields : Fields τ) (row : Row ρ τ)
    (strict : Bool) : Schema ρ where
  read
    | .object members => do
      fields.checkMembers strict members
      let filled ← fields.fill members
      return row.ofRow filled
    | .array items => do
      let (filled, rest) ← fields.fillFrom (elements name fields.names.length) 0 items
      if rest.isEmpty then return row.ofRow filled
      else .error (.invalidLength items.length "fewer elements in array")
    | value => unexpected value ("struct " ++ name)
  write record := .object (fields.write (row.toRow record))
  shown record := .record name (fields.shown (row.toRow record))

end LedgerWire
