import LedgerWire.Yaml.Token

/-!
# YAML nodes

A document is one node: a scalar, a sequence or a mapping. An alias refers to the node that was
last given the name. One inside the very node that it names refers to nothing that could be read.
What is left out is the scalar `~`.
-/

namespace LedgerWire.Yaml

/-- A node of a document. Only scalars keep their tag, because it plays no part elsewhere. -/
inductive Node where
  | scalar (text : String) (plain : Bool) (tag : Option Tag)
  | sequence (items : List Node)
  | mapping (entries : List (Node × Node))
  /-- An alias, with the node that it refers to. -/
  | reference (node : Node)
  /-- An alias inside the node that it names. -/
  | unfinished

/-- The node that stands where nothing is written. -/
def Node.absent : Node := .scalar "~" true none

/-- The tokens that are left, and the anchors so far, the last one first. An anchor has no node
as long as its node is being read. -/
structure Parser where
  tokens : List Token
  anchors : List (String × Option Node) := []

/-- Reads something from the front of the tokens. -/
abbrev Parse (α : Type) := Parser → Option (α × Parser)

namespace Parser

/-- The next token. -/
def next? (parser : Parser) : Option Token := parser.tokens.head?

/-- Whether the next token is one of the given ones. -/
def nextIn (parser : Parser) (tokens : List Token) : Bool := parser.next?.any tokens.contains

/-- Passes over the next token. -/
def skip (parser : Parser) : Parser := { parser with tokens := parser.tokens.tail }

/-- Names the node that is about to be read. -/
def openAnchor (parser : Parser) (name : String) : Parser :=
  { parser with anchors := (name, none) :: parser.anchors }

/-- Gives the anchor opened when there were `before` others its node. -/
def closeAnchor (parser : Parser) (before : Nat) (node : Node) : Parser :=
  let position := parser.anchors.length - 1 - before
  { parser with anchors := parser.anchors.modify position fun (name, _) => (name, some node) }

/-- Reads the properties of a node: an anchor and a tag, in either order. -/
def readProperties (parser : Parser) : Option String × Option Tag × Parser :=
  match parser.tokens with
  | .anchor name :: .tag tag :: rest => (some name, some tag, { parser with tokens := rest })
  | .anchor name :: rest => (some name, none, { parser with tokens := rest })
  | .tag tag :: .anchor name :: rest => (some name, some tag, { parser with tokens := rest })
  | .tag tag :: rest => (none, some tag, { parser with tokens := rest })
  | _ => (none, none, parser)

mutual

/-- Reads a node. Block collections are read only where they are allowed, and so are sequences
without indentation of their own. The first argument bounds how deep the reading goes. -/
def readNode : Nat → Bool → Bool → Parse Node
  | 0, _, _, _ => none
  | bound + 1, block, flush, parser =>
    match parser.next? with
    | some (.alias name) => do
      match ← parser.anchors.lookup name with
      | some node => return (.reference node, parser.skip)
      | none => return (.unfinished, parser.skip)
    | _ =>
      let before := parser.anchors.length
      match readProperties parser with
      | (some name, tag, parser) => do
        let (node, parser) ← readContent bound block flush true tag (parser.openAnchor name)
        return (node, parser.closeAnchor before node)
      | (none, tag, parser) => readContent bound block flush tag.isSome tag parser

/-- Reads a node after its properties. If it has any, it may be empty. -/
def readContent : Nat → Bool → Bool → Bool → Option Tag → Parse Node
  | 0, _, _, _, _, _ => none
  | bound + 1, block, flush, named, tag, parser =>
    let empty := if named then some (.scalar "" true tag, parser) else none
    match parser.next? with
    | some (.scalar text plain) => some (.scalar text plain tag, parser.skip)
    | some .flowSequenceStart => readFlowSequence bound true [] parser.skip
    | some .flowMappingStart => readFlowMapping bound true [] parser.skip
    | some .blockSequenceStart =>
      if block then readBlockSequence bound [] parser.skip else empty
    | some .blockMappingStart => if block then readBlockMapping bound [] parser.skip else empty
    | some .blockEntry => if flush then readFlushSequence bound [] parser else empty
    | _ => empty

/-- Reads a node, unless one of the given tokens comes next. -/
def readOptional : Nat → List Token → Bool → Bool → Parse Node
  | 0, _, _, _, _ => none
  | bound + 1, ends, block, flush, parser =>
    if parser.nextIn ends then some (.absent, parser) else readNode bound block flush parser

/-- Reads the items of a block sequence. -/
def readBlockSequence : Nat → List Node → Parse Node
  | 0, _, _ => none
  | bound + 1, items, parser =>
    match parser.next? with
    | some .blockEnd => some (.sequence items, parser.skip)
    | some .blockEntry => do
      let (item, parser) ← readOptional bound [.blockEntry, .blockEnd] true false parser.skip
      readBlockSequence bound (items ++ [item]) parser
    | _ => none

/-- Reads the items of a sequence that is not indented more than the mapping around it. -/
def readFlushSequence : Nat → List Node → Parse Node
  | 0, _, _ => none
  | bound + 1, items, parser =>
    match parser.next? with
    | some .blockEntry => do
      let (item, parser) ←
        readOptional bound [.blockEntry, .key, .value, .blockEnd] true false parser.skip
      readFlushSequence bound (items ++ [item]) parser
    | _ => some (.sequence items, parser)

/-- Reads the value of an entry, if its colon comes next. -/
def readEntryValue : Nat → List Token → Bool → Parse Node
  | 0, _, _, _ => none
  | bound + 1, ends, block, parser =>
    match parser.next? with
    | some .value => readOptional bound ends block block parser.skip
    | _ => some (.absent, parser)

/-- Reads the entries of a block mapping. -/
def readBlockMapping : Nat → List (Node × Node) → Parse Node
  | 0, _, _ => none
  | bound + 1, entries, parser =>
    let ends : List Token := [.key, .value, .blockEnd]
    match parser.next? with
    | some .blockEnd => some (.mapping entries, parser.skip)
    | some .key => do
      let (key, parser) ← readOptional bound ends true true parser.skip
      let (value, parser) ← readEntryValue bound ends true parser
      readBlockMapping bound (entries ++ [(key, value)]) parser
    | some .value => do
      let (value, parser) ← readEntryValue bound ends true parser
      readBlockMapping bound (entries ++ [(.absent, value)]) parser
    | _ => none

/-- Reads the entries of a flow mapping. All but the first come after a comma, and one without
a colon has no value. -/
def readFlowMapping : Nat → Bool → List (Node × Node) → Parse Node
  | 0, _, _, _ => none
  | bound + 1, first, entries, parser =>
    if parser.nextIn [.flowMappingEnd] then some (.mapping entries, parser.skip)
    else if !first && !parser.nextIn [.flowEntry] then none
    else
      let parser := if first then parser else parser.skip
      let ends : List Token := [.flowEntry, .flowMappingEnd]
      match parser.next? with
      | some .flowMappingEnd => some (.mapping entries, parser.skip)
      | some .key => do
        let (key, parser) ← readOptional bound (.value :: ends) false false parser.skip
        let (value, parser) ← readEntryValue bound ends false parser
        readFlowMapping bound false (entries ++ [(key, value)]) parser
      | some .value => do
        let (value, parser) ← readEntryValue bound ends false parser
        readFlowMapping bound false (entries ++ [(.absent, value)]) parser
      | _ => do
        let (key, parser) ← readNode bound false false parser
        readFlowMapping bound false (entries ++ [(key, .absent)]) parser

/-- Reads the items of a flow sequence. An item with a colon is a mapping of one entry. -/
def readFlowSequence : Nat → Bool → List Node → Parse Node
  | 0, _, _, _ => none
  | bound + 1, first, items, parser =>
    if parser.nextIn [.flowSequenceEnd] then some (.sequence items, parser.skip)
    else if !first && !parser.nextIn [.flowEntry] then none
    else
      let parser := if first then parser else parser.skip
      let ends : List Token := [.flowEntry, .flowSequenceEnd]
      match parser.next? with
      | some .flowSequenceEnd => some (.sequence items, parser.skip)
      | some .key => do
        let (key, parser) ← readOptional bound (.value :: ends) false false parser.skip
        let (value, parser) ← readEntryValue bound ends false parser
        readFlowSequence bound false (items ++ [.mapping [(key, value)]]) parser
      | _ => do
        let (item, parser) ← readNode bound false false parser
        readFlowSequence bound false (items ++ [item]) parser

end

/-- Passes over directives. -/
def skipDirectives (tokens : List Token) : List Token := tokens.dropWhile (· == .directive)

/-- Passes over the ends of documents. -/
def skipDocumentEnds (tokens : List Token) : List Token := tokens.dropWhile (· == .documentEnd)

/-- Reads the node of a document that begins with its mark. -/
def readMarked (bound : Nat) (tokens : List Token) : Option (Node × Parser) :=
  match skipDirectives tokens with
  | .documentStart :: rest =>
    match rest with
    | [] | .directive :: _ | .documentStart :: _ | .documentEnd :: _ => some (.absent, ⟨rest, []⟩)
    | _ => readNode bound true false ⟨rest, []⟩
  | _ => none

/-- Reads the node of the first document, which needs no mark. -/
def readFirst (bound : Nat) (tokens : List Token) : Option (Node × Parser) :=
  match tokens with
  | .directive :: _ | .documentStart :: _ => readMarked bound tokens
  | _ => readNode bound true false ⟨tokens, []⟩

/-- How deep the reading of some tokens can go. -/
def depthBound (tokens : List Token) : Nat := 4 * tokens.length + 4

/-- The tokens after a document. -/
def afterDocument (parser : Parser) : List Token :=
  match parser.tokens with
  | .documentEnd :: rest => skipDocumentEnds rest
  | rest => rest

end Parser

/-- Reads a text that is one document. -/
def Node.ofText? (text : String) : Option Node := do
  let tokens ← Token.ofText? text
  let (node, parser) ← Parser.readFirst (Parser.depthBound tokens) tokens
  if parser.afterDocument.isEmpty then some node else none

end LedgerWire.Yaml
