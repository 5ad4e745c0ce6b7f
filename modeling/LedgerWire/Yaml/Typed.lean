import LedgerWire.Yaml.Node

/-!
# Typed values in YAML

A text is what any scalar says. Numbers and nulls are told by plain scalars, and by any scalar
with the tag of their type; another tag makes a text. A number with a superfluous zero in front
is a text too. A record is a mapping, or a sequence that gives its fields by position. An alias
is read as the node that it refers to.
-/

namespace LedgerWire.Yaml

/-- The value of a digit in a base of at most sixteen. -/
def digitBelow? (base : Nat) (c : Char) : Option Nat :=
  (Hex.digit? c).filter (· < base)

/-- The number of some digits, of which there is at least one. -/
def digitsValue? (base : Nat) (digits : List Char) : Option Nat :=
  if digits.isEmpty then none else (digits.mapM (digitBelow? base)).map (Radix.value base)

/-- The number of some digits, with or without a plus sign. -/
def positive? (base : Nat) : List Char → Option Nat
  | '+' :: digits => digitsValue? base digits
  | digits => digitsValue? base digits

/-- The number of a text without sign, in the base that its first characters tell. What follows
these is read as given. -/
def magnitude? (read : Nat → List Char → Option Nat) : List Char → Option Nat
  | '0' :: 'x' :: digits => read 16 digits
  | '0' :: 'o' :: digits => read 8 digits
  | '0' :: 'b' :: digits => read 2 digits
  | '0' :: _ :: _ => none
  | digits => digitsValue? 10 digits

/-- The number of a text with an optional sign, of which only zero may be negative. The reader of
the number without its sign is told whether it is negative. -/
def signed? (read : Bool → List Char → Option Nat) : List Char → Option Nat
  | '+' :: rest => read false rest
  | '-' :: rest => (read true rest).filter (· = 0)
  | rest => read false rest

/-- The word of a plain scalar. A number that is not negative may have a sign after the
characters that tell its base. -/
def word? (text : String) : Option UInt64 :=
  let number := signed? (fun negative => magnitude? (if negative then digitsValue? else positive?))
    text.toList
  (number.filter (· < 2 ^ 64)).map UInt64.ofNat

/-- The word of a scalar with the tag of an integer, which is decimal and has 63 bits besides its
sign. -/
def integer? (text : String) : Option UInt64 :=
  let number := signed? (fun _ => digitsValue? 10) text.toList
  (number.filter (· < 2 ^ 63)).map UInt64.ofNat

namespace Node

/-- The node itself, or the one that it refers to. -/
def target : Node → Node
  | .reference node => node
  | node => node

/-- The text of a scalar. -/
def text? (node : Node) : Option String :=
  match node.target with
  | .scalar text _ _ => some text
  | _ => none

/-- Whether a text stands for null. -/
def isNullText (text : String) : Bool := text == "~" || text == "null"

/-- Whether a node is null. -/
def isNull (node : Node) : Bool :=
  match node.target with
  | .scalar text plain none => plain && isNullText text
  | .scalar text _ (some tag) => tag == .core "null" && isNullText text
  | _ => false

/-- Whether a node says that an optional value is absent, which no quoted scalar and no block
does. A plain one that is tagged as null and is not is a failure. -/
def absent? (node : Node) : Option Bool :=
  match node.target with
  | .scalar text true none => some (isNullText text)
  | .scalar text true (some tag) =>
    if tag = .core "null" then if isNullText text then some true else none else some false
  | _ => some false

/-- The word of a scalar. -/
def word? (node : Node) : Option UInt64 :=
  match node.target with
  | .scalar text plain none => if plain then Yaml.word? text else none
  | .scalar text _ (some tag) => if tag = .core "int" then integer? text else none
  | _ => none

/-- A value that may be absent. -/
def optional? {α : Type} (read : Node → Option α) (node : Node) : Option (Option α) := do
  if ← node.absent? then return none else return some (← read node)

/-- The entries of a mapping by name, when each name is declared and none is repeated. -/
def namedEntries? (declared : List String) :
    List (Node × Node) → Option (List (String × Node))
  | [] => some []
  | (key, value) :: rest => do
    let name ← key.text?
    let rest ← namedEntries? declared rest
    if declared.contains name && (rest.lookup name).isNone then some ((name, value) :: rest)
    else none

/-- The fields of a record by name, as far as they are there. -/
def fields? (declared : List String) (node : Node) : Option (List (String × Node)) :=
  match node.target with
  | .mapping entries => namedEntries? declared entries
  | .sequence items =>
    if items.length ≤ declared.length then some (declared.zip items) else none
  | _ => none

/-- The field of the given name, or what stands in for it when it is missing. -/
def field? {α : Type} (read : Node → Option α) (missing : Option α) (name : String)
    (fields : List (String × Node)) : Option α :=
  match fields.lookup name with
  | some node => read node
  | none => missing

end Node

end LedgerWire.Yaml
