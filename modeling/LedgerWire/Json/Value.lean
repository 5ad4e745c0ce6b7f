import LedgerWire.Json.Double
import LedgerWire.Text.Shown

/-!
# JSON values

Objects keep their members in the order of the text, because the order decides which of two
faulty members is reported. Reading a text never yields two members of one name.
-/

namespace LedgerWire

/-- A JSON number: an integer that fits 64 bits, signed or unsigned, or a double. -/
inductive Json.Number where
  | integer (value : Int) (range : -2 ^ 63 ≤ value ∧ value < 2 ^ 64)
  | double (value : Double)
  deriving DecidableEq

/-- A JSON value. -/
inductive Json where
  | null
  | bool (value : Bool)
  | number (value : Json.Number)
  | string (value : String)
  | array (items : List Json)
  | object (members : List (String × Json))

namespace Json

/-- The number of an unsigned 64-bit word. -/
def Number.ofUInt64 (word : UInt64) : Number :=
  .integer word.toNat ⟨by have := word.toNat_lt; omega, by have := word.toNat_lt; omega⟩

/-- The unsigned 64-bit word of a number, when it is a natural number in range. Doubles are
never words, even when they are whole. -/
def Number.toUInt64? : Number → Option UInt64
  | .integer value _ => if 0 ≤ value then some (UInt64.ofNat value.toNat) else none
  | .double _ => none

/-- The text of a number. -/
def Number.write : Number → String
  | .integer value _ => Decimal.writeInt value
  | .double value => value.write

/-- An unsigned 64-bit word as a value. -/
def ofUInt64 (word : UInt64) : Json := .number (.ofUInt64 word)

/-- The name of the kind of a value. -/
def kind : Json → String
  | .null => "null"
  | .bool _ => "boolean"
  | .number _ => "number"
  | .string _ => "string"
  | .array _ => "array"
  | .object _ => "object"

/-- The member of an object with the given name. Other values have no members. -/
def get? (value : Json) (name : String) : Option Json :=
  match value with
  | .object members => members.lookup name
  | _ => none

/-- The text of a string value. -/
def string? : Json → Option String
  | .string text => some text
  | _ => none

/-- The unsigned 64-bit word of a value. -/
def uint64? : Json → Option UInt64
  | .number n => n.toUInt64?
  | _ => none

/-- Sets a member: in place when the name is there already, otherwise at the end. -/
def setMember (name : String) (value : Json) : List (String × Json) → List (String × Json)
  | [] => [(name, value)]
  | (other, old) :: rest =>
    if other = name then (other, value) :: rest else (other, old) :: setMember name value rest

mutual

/-- Whether two values are the same, with the members of objects in the same order. -/
def decEq : (a b : Json) → Decidable (a = b)
  | .null, .null => isTrue rfl
  | .bool a, .bool b => if h : a = b then isTrue (h ▸ rfl) else isFalse (by simpa using h)
  | .number a, .number b => if h : a = b then isTrue (h ▸ rfl) else isFalse (by simpa using h)
  | .string a, .string b => if h : a = b then isTrue (h ▸ rfl) else isFalse (by simpa using h)
  | .array a, .array b =>
    match decEqItems a b with
    | isTrue h => isTrue (h ▸ rfl)
    | isFalse h => isFalse (by simpa using h)
  | .object a, .object b =>
    match decEqMembers a b with
    | isTrue h => isTrue (h ▸ rfl)
    | isFalse h => isFalse (by simpa using h)
  | .null, .bool _ => isFalse nofun
  | .null, .number _ => isFalse nofun
  | .null, .string _ => isFalse nofun
  | .null, .array _ => isFalse nofun
  | .null, .object _ => isFalse nofun
  | .bool _, .null => isFalse nofun
  | .bool _, .number _ => isFalse nofun
  | .bool _, .string _ => isFalse nofun
  | .bool _, .array _ => isFalse nofun
  | .bool _, .object _ => isFalse nofun
  | .number _, .null => isFalse nofun
  | .number _, .bool _ => isFalse nofun
  | .number _, .string _ => isFalse nofun
  | .number _, .array _ => isFalse nofun
  | .number _, .object _ => isFalse nofun
  | .string _, .null => isFalse nofun
  | .string _, .bool _ => isFalse nofun
  | .string _, .number _ => isFalse nofun
  | .string _, .array _ => isFalse nofun
  | .string _, .object _ => isFalse nofun
  | .array _, .null => isFalse nofun
  | .array _, .bool _ => isFalse nofun
  | .array _, .number _ => isFalse nofun
  | .array _, .string _ => isFalse nofun
  | .array _, .object _ => isFalse nofun
  | .object _, .null => isFalse nofun
  | .object _, .bool _ => isFalse nofun
  | .object _, .number _ => isFalse nofun
  | .object _, .string _ => isFalse nofun
  | .object _, .array _ => isFalse nofun

/-- Whether two lists of values are the same. -/
def decEqItems : (a b : List Json) → Decidable (a = b)
  | [], [] => isTrue rfl
  | [], _ :: _ => isFalse nofun
  | _ :: _, [] => isFalse nofun
  | a :: as, b :: bs =>
    match decEq a b, decEqItems as bs with
    | isTrue h, isTrue hs => isTrue (h ▸ hs ▸ rfl)
    | isFalse h, _ => isFalse fun e => h (by injection e)
    | _, isFalse hs => isFalse fun e => hs (by injection e)

/-- Whether two lists of members are the same. -/
def decEqMembers : (a b : List (String × Json)) → Decidable (a = b)
  | [], [] => isTrue rfl
  | [], _ :: _ => isFalse nofun
  | _ :: _, [] => isFalse nofun
  | (m, a) :: as, (n, b) :: bs =>
    if h : m = n then
      match decEq a b, decEqMembers as bs with
      | isTrue ha, isTrue hs => isTrue (h ▸ ha ▸ hs ▸ rfl)
      | isFalse ha, _ => isFalse fun e => ha (by injection e with e; injection e)
      | _, isFalse hs => isFalse fun e => hs (by injection e)
    else isFalse fun e => h (by injection e with e; injection e)

end

instance : DecidableEq Json := decEq

mutual

/-- The value as it appears in a diagnostic. -/
def shown : Json → Shown
  | .null => .atom "Null"
  | .bool value => .atom ("Bool(" ++ (if value then "true" else "false") ++ ")")
  | .number value => .atom ("Number(" ++ value.write ++ ")")
  | .string value => .atom ("String(" ++ Quoted.text value ++ ")")
  | .array items => .list "Array " (shownItems items)
  | .object members => .map "Object " (shownMembers members)

/-- Each value as it appears in a diagnostic. -/
def shownItems : List Json → List Shown
  | [] => []
  | item :: rest => shown item :: shownItems rest

/-- Each member as it appears in a diagnostic, with its name quoted. -/
def shownMembers : List (String × Json) → List (String × Shown)
  | [] => []
  | (name, value) :: rest => (Quoted.text name, shown value) :: shownMembers rest

end

end Json

end LedgerWire
