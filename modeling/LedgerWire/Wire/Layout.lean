import LedgerWire.Amount
import LedgerWire.CodecError
import LedgerWire.Json.Schema

/-!
# The binary layout

The ledger hashes and signs values in one canonical layout. Words are little-endian, a text or
list is preceded by its length in four bytes, a value that may be absent by one byte, and a block
of fixed length stands alone. Readers take a value from the front of a buffer and give what is
left, so layouts can be chained. A list has a layout if its items have more than one value: the
items of any other list take no room, so a few bytes could ask for a list of any length.
-/

namespace LedgerWire

/-- A reader takes a value from the front of a buffer and gives the rest. -/
abbrev Reader (α : Type) := Bytes → Except CodecError (α × Bytes)

/-- The binary layout of a type. `fits` tells that every text and list in a value is short
enough for its count; only such values are written in full. -/
class Wire (α : Type) where
  write : α → Bytes
  read : Reader α
  fits : α → Bool

/-- A type with more than one value, whose values take room in memory. -/
class Wire.Sized (α : Type) : Prop where
  exists_ne : ∃ first second : α, first ≠ second

namespace Wire

/-- The canonical bytes of a value. -/
def encode {α : Type} [Wire α] (value : α) : Except CodecError Bytes :=
  if fits value then .ok (write value) else .error (.format .tooLong)

/-- Reads a whole buffer. Bytes left over are a failure. -/
def decode {α : Type} [Wire α] (bytes : Bytes) : Except CodecError α := do
  let (value, rest) ← read bytes
  if rest.isEmpty then return value else throw (.format .trailingBytes)

/-- Takes a block of a given size. -/
def take (size : Nat) : Reader (Block size) := fun bytes =>
  if h : (bytes.take size).length = size then .ok (⟨bytes.take size, h⟩, bytes.drop size)
  else .error (.format .unexpectedEnd)

/-- Takes a little-endian number of a given width. -/
def takeNat (width : Nat) : Reader Nat := fun bytes =>
  (take width bytes).map fun (front, rest) => (Bytes.ofLittleEndian front.bytes, rest)

/-- Reads a value a given number of times. -/
def readMany {α : Type} (read : Reader α) : Nat → Reader (List α)
  | 0, bytes => .ok ([], bytes)
  | count + 1, bytes => do
    let (value, rest) ← read bytes
    let (values, rest) ← readMany read count rest
    return (value :: values, rest)

/-- Writes the length of a text or list. -/
def writeCount (count : Nat) : Bytes := Bytes.littleEndian 4 count

/-- Whether a length fits the four bytes it is written in. -/
def countFits (count : Nat) : Bool := count < 2 ^ 32

/-- The layout of a record, field by field in the order of their declaration. -/
@[reducible]
def ofRow {ρ τ : Type} [Wire τ] (row : Row ρ τ) : Wire ρ where
  write record := write (row.toRow record)
  read bytes := (read bytes).map fun (filled, rest) => (row.ofRow filled, rest)
  fits record := fits (row.toRow record)

end Wire

instance : Wire Unit where
  write _ := []
  read bytes := .ok ((), bytes)
  fits _ := true

instance {α β : Type} [Wire α] [Wire β] : Wire (α × β) where
  write pair := Wire.write pair.1 ++ Wire.write pair.2
  read bytes := do
    let (first, rest) ← Wire.read bytes
    let (second, rest) ← Wire.read rest
    return ((first, second), rest)
  fits pair := Wire.fits pair.1 && Wire.fits pair.2

instance : Wire UInt8 where
  write byte := [byte]
  read
    | [] => .error (.format .unexpectedEnd)
    | byte :: rest => .ok (byte, rest)
  fits _ := true

instance : Wire UInt32 where
  write word := Bytes.littleEndian 4 word.toNat
  read bytes := (Wire.takeNat 4 bytes).map fun (number, rest) => (UInt32.ofNat number, rest)
  fits _ := true

instance : Wire UInt64 where
  write word := Bytes.littleEndian 8 word.toNat
  read bytes := (Wire.takeNat 8 bytes).map fun (number, rest) => (UInt64.ofNat number, rest)
  fits _ := true

instance : Wire Amount where
  write amount := Bytes.littleEndian 16 amount.units
  read bytes := (Wire.take 16 bytes).map fun (block, rest) => (.ofBlock block, rest)
  fits _ := true

instance : Wire Bool where
  write value := [if value then 1 else 0]
  read
    | [] => .error (.format .unexpectedEnd)
    | byte :: rest =>
      if byte = 0 then .ok (false, rest)
      else if byte = 1 then .ok (true, rest)
      else .error (.format (.invalidBool byte))
  fits _ := true

instance {size : Nat} : Wire (Block size) where
  write block := block.bytes
  read := Wire.take size
  fits _ := true

instance {α : Type} [Wire α] [Wire.Sized α] : Wire (List α) where
  write values := Wire.writeCount values.length ++ values.flatMap Wire.write
  read bytes := do
    let (count, rest) ← Wire.takeNat 4 bytes
    Wire.readMany Wire.read count rest
  fits values := Wire.countFits values.length && values.all Wire.fits

instance : Wire String where
  write text := Wire.writeCount (Utf8.encode text).length ++ Utf8.encode text
  read bytes := do
    let (count, rest) ← Wire.takeNat 4 bytes
    let (front, rest) ← Wire.take count rest
    match Utf8.decode front.bytes with
    | .ok text => return (text, rest)
    | .error fault => throw (.format (.utf8 fault))
  fits text := Wire.countFits (Utf8.encode text).length

instance {α : Type} [Wire α] : Wire (Option α) where
  write
    | none => [0]
    | some value => 1 :: Wire.write value
  read
    | [] => .error (.format .unexpectedEnd)
    | byte :: rest =>
      if byte = 0 then .ok (none, rest)
      else if byte = 1 then (Wire.read rest).map fun (value, rest) => (some value, rest)
      else .error (.format (.invalidOption byte))
  fits value := value.all Wire.fits

/-! ### Types that take room -/

instance : Wire.Sized UInt8 := ⟨0, 1, by decide⟩

instance : Wire.Sized UInt32 := ⟨0, 1, by decide⟩

instance : Wire.Sized UInt64 := ⟨0, 1, by decide⟩

instance : Wire.Sized Bool := ⟨false, true, by decide⟩

instance : Wire.Sized String := ⟨"", "0", by decide⟩

instance {α : Type} [nonempty : Nonempty α] : Wire.Sized (List α) where
  exists_ne := nonempty.elim fun item => ⟨[], [item], by simp⟩

instance {α : Type} [nonempty : Nonempty α] : Wire.Sized (Option α) where
  exists_ne := nonempty.elim fun value => ⟨none, some value, by simp⟩

end LedgerWire
