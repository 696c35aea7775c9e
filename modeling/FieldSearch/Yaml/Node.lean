import FieldSearch.Yaml.Tokens

namespace FieldSearch.Yaml

/-!
# YAML documents

A YAML text holds a tree of scalars, sequences and mappings. `ofString?` reads
texts of a single document. A node may be given a name and be repeated under it
later in the document, also inside itself, so a document keeps the named nodes
beside its tree and the tree refers to them by number.
-/

/-- A node of a document. -/
inductive Node where
  /-- A scalar with its tag in full. -/
  | scalar (style : Style) (tag : Option String) (text : String)
  | sequence (items : List Node)
  | mapping (entries : List (Node × Node))
  /-- A named node stands here. -/
  | repeated (number : Nat)
  deriving Repr

namespace Node

/-- There is nothing where a node could stand. -/
def absent : Node :=
  scalar .plain none ""

mutual

/-- The number of marks that nodes are read from: one for a scalar, two for a collection. -/
def size : Node → Nat
  | scalar _ _ _ => 1
  | sequence items => 2 + itemsSize items
  | mapping entries => 2 + entriesSize entries
  | repeated _ => 1

/-- The number of marks of items. -/
def itemsSize : List Node → Nat
  | [] => 0
  | item :: rest => item.size + itemsSize rest

/-- The number of marks of entries. -/
def entriesSize : List (Node × Node) → Nat
  | [] => 0
  | (key, value) :: rest => key.size + value.size + entriesSize rest

end

end Node

/-- A name for a node: its number, and the place of the node among the named ones. -/
structure Anchor where
  name : String
  number : Nat
  place : Nat
  deriving Repr, DecidableEq

/--
The tokens still to be read, the prefixes of handles, the names given so far,
latest first, and the named nodes by their places.
-/
structure Input where
  tokens : List Token
  handles : Handles := []
  anchors : List Anchor := []
  named : List (Nat × Node) := []

namespace Input

/-- The input without its first token. -/
def next (input : Input) : Input :=
  { input with tokens := input.tokens.drop 1 }

/-- The first token is one of those given. -/
def startsWith (input : Input) (candidates : List Token) : Bool :=
  input.tokens.head?.any candidates.contains

/-- The input after an expected token. -/
def after? (input : Input) (token : Token) : Option Input :=
  if input.startsWith [token] then some input.next else none

/-- The number of different names given so far. -/
def nameCount (input : Input) : Nat :=
  (input.anchors.map (·.name)).eraseDups.length

/-- Give a name to the node that follows; its number counts the names given before. -/
def giveName (input : Input) (name : String) : Input :=
  let anchor : Anchor := {
    name := name
    number := input.nameCount
    place := input.anchors.length
  }
  { input with anchors := anchor :: input.anchors }

/-- The node for a name given earlier. -/
def named? (input : Input) (name : String) : Option Node :=
  (input.anchors.find? (·.name == name)).map fun anchor => .repeated anchor.number

/-- Keep a node under a place. -/
def keep (input : Input) (place : Nat) (node : Node) : Input :=
  { input with named := (place, node) :: input.named }

end Input

/-- What may precede the content of a node. -/
structure Properties where
  name : Option String := none
  tag : Option WrittenTag := none

/-- The properties of a node, each at most once. -/
def readProperties : Properties → List Token → Properties × List Token
  | properties, .anchor name :: rest =>
      if properties.name.isNone then
        readProperties { properties with name := some name } rest
      else
        (properties, .anchor name :: rest)
  | properties, .tag tag :: rest =>
      if properties.tag.isNone then
        readProperties { properties with tag := some tag } rest
      else
        (properties, .tag tag :: rest)
  | properties, tokens => (properties, tokens)

/-- The tag of a node in full, if it has one; none at all if its handle is unknown. -/
def Properties.tagIn? (properties : Properties) (handles : Handles) : Option (Option String) :=
  properties.tag.mapM handles.resolve?

/-- Where a node stands, which decides the forms it may take. -/
inductive Position where
  /-- In a flow collection. -/
  | flow
  /-- In a block sequence or at the top. -/
  | block
  /-- In a block mapping, where a sequence need not be indented. -/
  | entry
  deriving Repr, DecidableEq

/-- Tokens that leave the place of a key or value empty in a block mapping. -/
def entryEnds : List Token := [.key, .value, .blockEnd]

/-- Tokens that leave the place of an item empty in an unindented sequence. -/
def unindentedEnds : List Token := [.blockEntry, .key, .value, .blockEnd]

mutual

/-- A node, with a bound on the depth of calls. -/
def readNode? : Nat → Position → Input → Option (Node × Input)
  | 0, _, _ => none
  | fuel + 1, position, input =>
      match input.tokens with
      | .alias name :: _ => (input.named? name).map (·, input.next)
      | _ => do
          let (properties, tokens) := readProperties {} input.tokens
          let input := { input with tokens := tokens }
          let tag ← properties.tagIn? input.handles
          match properties.name with
          | none => readContent? fuel position tag (properties.tag.isSome) input
          | some name => do
              let place := input.anchors.length
              let (node, input) ← readContent? fuel position tag true (input.giveName name)
              return (node, input.keep place node)

/-- The content of a node with a tag; it may be missing where a name or tag precedes it. -/
def readContent? : Nat → Position → Option String → Bool → Input → Option (Node × Input)
  | 0, _, _, _, _ => none
  | fuel + 1, position, tag, mayMiss, input =>
      match input.tokens, position with
      | .blockEntry :: _, .entry =>
          (readUnindented? fuel input).map fun (items, input) => (.sequence items, input)
      | .scalar style text :: _, _ => some (.scalar style tag text, input.next)
      | .flowSequenceStart :: _, _ =>
          (readFlowItems? fuel true input.next).map fun (items, input) => (.sequence items, input)
      | .flowMappingStart :: _, _ =>
          (readFlowEntries? fuel true input.next).map fun (entries, input) =>
            (.mapping entries, input)
      | .blockSequenceStart :: _, .block | .blockSequenceStart :: _, .entry =>
          (readItems? fuel input.next).map fun (items, input) => (.sequence items, input)
      | .blockMappingStart :: _, .block | .blockMappingStart :: _, .entry =>
          (readEntries? fuel input.next).map fun (entries, input) => (.mapping entries, input)
      | _, _ => if mayMiss then some (.scalar .plain tag "", input) else none

/-- A node, or nothing before one of the tokens that leave its place empty. -/
def readUnless? : Nat → Position → List Token → Input → Option (Node × Input)
  | 0, _, _, _ => none
  | fuel + 1, position, ends, input =>
      if input.tokens.isEmpty || input.startsWith ends then
        some (.absent, input)
      else
        readNode? fuel position input

/-- The items of a block sequence, up to its end. -/
def readItems? : Nat → Input → Option (List Node × Input)
  | 0, _ => none
  | fuel + 1, input =>
      if input.startsWith [.blockEntry] then do
        let (item, input) ← readUnless? fuel .block [.blockEntry, .blockEnd] input.next
        let (items, input) ← readItems? fuel input
        return (item :: items, input)
      else do
        let input ← input.after? .blockEnd
        return ([], input)

/-- The items of a sequence that is not indented. -/
def readUnindented? : Nat → Input → Option (List Node × Input)
  | 0, _ => none
  | fuel + 1, input =>
      if input.startsWith [.blockEntry] then do
        let (item, input) ← readUnless? fuel .block unindentedEnds input.next
        let (items, input) ← readUnindented? fuel input
        return (item :: items, input)
      else
        some ([], input)

/-- The value of an entry in a block mapping, possibly absent. -/
def readEntryValue? : Nat → Input → Option (Node × Input)
  | 0, _ => none
  | fuel + 1, input =>
      if input.startsWith [.value] then
        readUnless? fuel .entry entryEnds input.next
      else
        some (.absent, input)

/-- The entries of a block mapping, up to its end. -/
def readEntries? : Nat → Input → Option (List (Node × Node) × Input)
  | 0, _ => none
  | fuel + 1, input =>
      if input.startsWith [.key] then do
        let (key, input) ← readUnless? fuel .entry entryEnds input.next
        let (value, input) ← readEntryValue? fuel input
        let (entries, input) ← readEntries? fuel input
        return ((key, value) :: entries, input)
      else do
        let input ← input.after? .blockEnd
        return ([], input)

/-- The value of an entry in a flow collection with the given end, possibly absent. -/
def readFlowValue? : Nat → Token → Input → Option (Node × Input)
  | 0, _, _ => none
  | fuel + 1, closing, input =>
      if input.startsWith [.value] then
        readUnless? fuel .flow [.flowEntry, closing] input.next
      else
        some (.absent, input)

/-- The key of a pair in a flow sequence; a token that leaves its place empty is lost. -/
def readPairKey? : Nat → Input → Option (Node × Input)
  | 0, _ => none
  | fuel + 1, input =>
      if input.startsWith [.value, .flowEntry, .flowSequenceEnd] then
        some (.absent, input.next)
      else
        readNode? fuel .flow input

/-- The items of a flow sequence, up to its end; a pair is a mapping of one entry. -/
def readFlowItems? : Nat → Bool → Input → Option (List Node × Input)
  | 0, _, _ => none
  | fuel + 1, isFirst, input =>
      if input.startsWith [.flowSequenceEnd] then
        some ([], input.next)
      else do
        let input ← if isFirst then some input else input.after? .flowEntry
        if input.startsWith [.flowSequenceEnd] then
          return ([], input.next)
        else if input.startsWith [.key] then
          let (key, input) ← readPairKey? fuel input.next
          let (value, input) ← readFlowValue? fuel .flowSequenceEnd input
          let (items, input) ← readFlowItems? fuel false input
          return (.mapping [(key, value)] :: items, input)
        else
          let (item, input) ← readNode? fuel .flow input
          let (items, input) ← readFlowItems? fuel false input
          return (item :: items, input)

/-- The entries of a flow mapping, up to its end; a lone node is a key without value. -/
def readFlowEntries? : Nat → Bool → Input → Option (List (Node × Node) × Input)
  | 0, _, _ => none
  | fuel + 1, isFirst, input =>
      if input.startsWith [.flowMappingEnd] then
        some ([], input.next)
      else do
        let input ← if isFirst then some input else input.after? .flowEntry
        if input.startsWith [.flowMappingEnd] then
          return ([], input.next)
        else if input.startsWith [.key] then
          let (key, input) ←
            readUnless? fuel .flow [.value, .flowEntry, .flowMappingEnd] input.next
          let (value, input) ← readFlowValue? fuel .flowMappingEnd input
          let (entries, input) ← readFlowEntries? fuel false input
          return ((key, value) :: entries, input)
        else
          let (key, input) ← readNode? fuel .flow input
          let (entries, input) ← readFlowEntries? fuel false input
          return ((key, .absent) :: entries, input)

end

/-- A document: its tree and the nodes that it may repeat. -/
structure Document where
  root : Node
  anchors : List Anchor := []
  named : List (Nat × Node) := []

namespace Document

/-- A node itself, or the named node that is repeated at it: the latest with its number. -/
def resolve? (document : Document) : Node → Option Node
  | .repeated number => do
      let anchor ← document.anchors.find? (·.number == number)
      document.named.lookup anchor.place
  | node => some node

/-- The directives at the start, and the tokens after them. -/
def splitDirectives : List Token → List Directive × List Token
  | .directive directive :: rest =>
      let (directives, rest) := splitDirectives rest
      (directive :: directives, rest)
  | tokens => ([], tokens)

/-- The tokens from the start mark of a document on, and the handles that it uses. -/
def start? (tokens : List Token) : Option (Handles × List Token) := do
  let (directives, rest) := splitDirectives tokens
  match rest with
  | .documentStart :: rest => return (← handlesOf? directives, rest)
  | rest => if directives.isEmpty then return ([], rest) else none

/-- The tokens leave a document with a start mark empty. -/
def isEmptyAt : List Token → Bool
  | [] | .directive _ :: _ | .documentStart :: _ | .documentEnd :: _ => true
  | _ => false

/-- The document of some tokens, which may be ended explicitly; none at all counts as absent. -/
def ofTokens? (tokens : List Token) : Option Document := do
  let (handles, body) ← start? tokens
  let input : Input := { tokens := body, handles := handles }
  let hasMark := body.length < tokens.length
  let (root, input) ←
    if body.isEmpty || (hasMark && isEmptyAt body) then
      some (.absent, input)
    else
      readNode? (8 * body.length + 8) .block input
  if (input.tokens.dropWhile (· == .documentEnd)).isEmpty then
    return { root := root, anchors := input.anchors, named := input.named }
  else
    none

/-- The document of a text; a text without one counts as absent. -/
def ofString? (text : String) : Option Document :=
  tokens? text >>= ofTokens?

end Document

end FieldSearch.Yaml
