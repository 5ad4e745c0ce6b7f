import LedgerWire.Json.Value

/-!
# Why a JSON value does not read as a typed one

Each cause has one wording. A reader for a field may also refuse a value in its own words.
-/

namespace LedgerWire.Json

/-- What was found in place of the expected value. -/
inductive Found where
  | bool (value : Bool)
  | number (value : Number)
  | string (value : String)
  | null
  | sequence
  | map
  deriving DecidableEq

/-- What a value is found to be. -/
def found : Json → Found
  | .null => .null
  | .bool value => .bool value
  | .number value => .number value
  | .string value => .string value
  | .array _ => .sequence
  | .object _ => .map

/-- The wording of what was found. -/
def Found.describe : Found → String
  | .bool value => "boolean `" ++ (if value then "true" else "false") ++ "`"
  | .number (.integer value range) => "integer `" ++ (Number.integer value range).write ++ "`"
  | .number (.double value) => "floating point `" ++ value.write ++ "`"
  | .string value => "string " ++ Quoted.text value
  | .null => "null"
  | .sequence => "sequence"
  | .map => "map"

/-- Why a JSON value does not read as a typed one. -/
inductive ReadError where
  /-- The value is of the wrong kind. -/
  | invalidType (found : Found) (expected : String)
  /-- The value is of the right kind and out of range. -/
  | invalidValue (found : Found) (expected : String)
  /-- A sequence has the wrong number of items. -/
  | invalidLength (length : Nat) (expected : String)
  /-- A member that has to be there is not. -/
  | missingField (name : String)
  /-- A member has a name that is not declared. -/
  | unknownField (name : String) (declared : List String)
  /-- A name is none of the declared choices. -/
  | unknownVariant (name : String) (declared : List String)
  /-- The reader of a field refuses the value in its own words. -/
  | refused (reason : String)
  deriving DecidableEq

/-- A name between backquotes. -/
def marked (name : String) : String := "`" ++ name ++ "`"

/-- The wording of a list of choices. -/
def choices : List String → String
  | [] => "there are no choices"
  | [only] => "expected " ++ marked only
  | [first, second] => "expected " ++ marked first ++ " or " ++ marked second
  | names => "expected one of " ++ String.intercalate ", " (names.map marked)

/-- The wording of a cause. -/
def ReadError.message : ReadError → String
  | .invalidType found expected => "invalid type: " ++ found.describe ++ ", expected " ++ expected
  | .invalidValue found expected => "invalid value: " ++ found.describe ++ ", expected " ++ expected
  | .invalidLength length expected =>
    "invalid length " ++ Decimal.write length ++ ", expected " ++ expected
  | .missingField name => "missing field " ++ marked name
  | .unknownField name declared => "unknown field " ++ marked name ++ ", " ++ choices declared
  | .unknownVariant name declared => "unknown variant " ++ marked name ++ ", " ++ choices declared
  | .refused reason => reason

end LedgerWire.Json
