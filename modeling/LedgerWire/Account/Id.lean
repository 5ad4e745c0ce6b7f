import LedgerWire.Text.Utf8

/-!
# Account names

An account name is two to 64 bytes of lower-case letters, digits and separators, where each
separator stands between two characters that are none. `AccountId.fault?` finds the first
violation, and an `AccountId` is a text in which there is none.
-/

namespace LedgerWire

/-- The first thing wrong with an account name. -/
inductive AccountId.Fault where
  | length (name : String)
  | character (name : String) (c : Char)
  | trailingSeparator (name : String)
  deriving DecidableEq

namespace AccountId

/-- The least and the greatest length of an account name, in bytes. -/
def minLength : Nat := 2

/-- The greatest length of an account name, in bytes. -/
def maxLength : Nat := 64

/-- The wording of a fault. -/
def Fault.message : Fault → String
  | .length name =>
    "account id `" ++ name ++ "` must be " ++ Decimal.write minLength ++ "..=" ++
      Decimal.write maxLength ++ " characters"
  | .character name c =>
    "account id `" ++ name ++ "` contains invalid character sequence at `" ++ c.toString ++ "`"
  | .trailingSeparator name => "account id `" ++ name ++ "` ends with a separator"

/-- Whether a character may stand anywhere in a name. -/
def isPlain (c : Char) : Bool := ('a' ≤ c && c ≤ 'z') || ('0' ≤ c && c ≤ '9')

/-- Whether a character separates two parts of a name. -/
def isSeparator (c : Char) : Bool := c == '.' || c == '-' || c == '_'

/-- What is wrong from some point of the name on. The flag tells that no separator may come
next: at the start and right after another one. -/
def faultAfter (name : String) : Bool → List Char → Option Fault
  | true, [] => some (.trailingSeparator name)
  | false, [] => none
  | afterSeparator, c :: rest =>
    if isPlain c then faultAfter name false rest
    else if isSeparator c && !afterSeparator then faultAfter name true rest
    else some (.character name c)

/-- The first thing wrong with a name. Its length is looked at first. -/
def fault? (name : String) : Option Fault :=
  let length := (Utf8.encode name).length
  if length < minLength ∨ maxLength < length then some (.length name)
  else faultAfter name true name.toList

end AccountId

/-- The name of an account. -/
structure AccountId where
  text : String
  fault?_text : AccountId.fault? text = none
  deriving DecidableEq

namespace AccountId

/-- Reads an account name. -/
def ofText (name : String) : Except Fault AccountId :=
  match h : fault? name with
  | none => .ok ⟨name, h⟩
  | some fault => .error fault

/-- Account names are ordered by their bytes. -/
def le (a b : AccountId) : Bool := !(Utf8.encode b.text < Utf8.encode a.text)

end AccountId

end LedgerWire
