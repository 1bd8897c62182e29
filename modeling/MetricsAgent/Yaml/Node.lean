import MetricsAgent.Yaml.Token

/-!
# Nodes of YAML

A document is a tree of scalars, sequences and mappings.  A node may be anchored under a name, and
an alias stands for the latest node with its name.  Scalars keep their text; what it means is
decided when it is asked for (`MetricsAgent.Yaml.Typed`).

The reader goes through the tokens of `MetricsAgent.Yaml.Token`.  Its state is what is left of them,
the nodes that have names, and the meanings of the tag handles.  `Reader.read` reads a node, in a
block context or in a flow collection, and each kind of collection has a function of its own; they
call each other, and every step takes one of a budget that is the number of tokens.

Places where a node may be left out hold a blank one: a key without a value, an item without
anything behind its mark.  A text holds at most one document, and a text without any content has
none (`Node.parse`).
-/

set_option autoImplicit false

namespace MetricsAgent.Yaml

/-- A node of a document. -/
inductive Node where
  | scalar (text : String) (style : ScalarStyle) (tag : Option String)
  | sequence (items : List Node)
  | mapping (entries : List (Node × Node))
  /-- An alias for a collection that it stands in. -/
  | endless
  deriving Inhabited

namespace Node

/-- A plain scalar without characters. -/
def blank : Node := .scalar "" .plain none

/-- What is left to be read, the nodes with names, and the meanings of the tag handles. -/
structure Reader where
  tokens : List Token
  anchors : List (List Char × Node)
  handles : List (List Char × List Char)

/-- A step of reading. -/
abbrev Reading := StateT Reader (Except YamlError)

/-- The next token. -/
def peek : Reading Token := do return (← get).tokens.headD .streamEnd

/-- Go past the next token. -/
def advance : Reading Unit := modify fun r ↦ { r with tokens := r.tokens.drop 1 }

/-- Give a node a name. -/
def anchor (name : Option (List Char)) (node : Node) : Reading Unit :=
  match name with
  | none => pure ()
  | some name => modify fun r ↦ { r with anchors := (name, node) :: r.anchors }

/-- The node with a name. -/
def named (name : List Char) : Reading Node := do
  match (← get).anchors.lookup name with
  | some node => return node
  | none => throw (.unknownAnchor (String.ofList name))

/-- A tag with its handle replaced by what it stands for. -/
def resolve (t : TagName) : Reading String := do
  if t.handle.isEmpty then return String.ofList t.suffix
  else
    match (← get).handles.lookup t.handle with
    | some lead => return String.ofList (lead ++ t.suffix)
    | none => throw (.unknownTagHandle (String.ofList t.handle))

/-- Read the anchor and the tag in front of a node, in either order. -/
def properties : Reading (Option (List Char) × Option TagName) := do
  match ← peek with
  | .anchor name =>
    advance
    match ← peek with
    | .tag t => do
      advance
      return (some name, some t)
    | _ => return (some name, none)
  | .tag t =>
    advance
    match ← peek with
    | .anchor name => do
      advance
      return (some name, some t)
    | _ => return (none, some t)
  | _ => return (none, none)

/-- Whether a token ends a block node that has nothing in it. -/
def endsBlockNode : Token → Bool
  | .key | .value | .blockEnd => true
  | _ => false

/-- Whether a token ends a node of a flow collection that has nothing in it. -/
def endsFlowNode (inMapping : Bool) : Token → Bool
  | .flowEntry => true
  | .flowSequenceEnd => !inMapping
  | .flowMappingEnd => inMapping
  | _ => false

mutual

/-- Read a node: in a block context, and possibly a sequence that is not indented. Every step takes
one of the budget. -/
def read : Nat → Bool → Bool → Reading Node
  | 0, _, _ => throw .contentExpected
  | n + 1, block, indentless => do
    match ← peek with
    | .alias name => do
      advance
      named name
    | _ =>
      let (name, tag) ← properties
      let tag ← match tag with
        | some t => some <$> resolve t
        | none => pure none
      let collection (content : Reading Node) : Reading Node := do
        anchor name .endless
        let node ← content
        anchor name node
        return node
      match ← peek with
      | .scalar text style => do
        advance
        let node := Node.scalar (String.ofList text) style tag
        anchor name node
        return node
      | .flowSequenceStart => collection do
        advance
        return .sequence (← readFlowItems n true)
      | .flowMappingStart => collection do
        advance
        return .mapping (← readFlowEntries n true)
      | t =>
        if t = .blockEntry && indentless then collection do return .sequence (← readLooseItems n)
        else if t = .blockSequenceStart && block then collection do
          advance
          return .sequence (← readItems n)
        else if t = .blockMappingStart && block then collection do
          advance
          return .mapping (← readEntries n)
        else if name.isSome || tag.isSome then do
          let node := Node.scalar "" .plain tag
          anchor name node
          return node
        else throw .contentExpected

/-- Read the items of a block sequence. -/
def readItems : Nat → Reading (List Node)
  | 0 => throw .entryExpected
  | n + 1 => do
    match ← peek with
    | .blockEntry =>
      advance
      let next ← peek
      let item ← if next = .blockEntry || next = .blockEnd then pure blank else read n true false
      return item :: (← readItems n)
    | .blockEnd => do
      advance
      return []
    | _ => throw .entryExpected

/-- Read the items of a block sequence that is not indented. -/
def readLooseItems : Nat → Reading (List Node)
  | 0 => throw .entryExpected
  | n + 1 => do
    match ← peek with
    | .blockEntry =>
      advance
      let next ← peek
      let item ← if next = .blockEntry || endsBlockNode next then pure blank else read n true false
      return item :: (← readLooseItems n)
    | _ => return []

/-- Read the entries of a block mapping. -/
def readEntries : Nat → Reading (List (Node × Node))
  | 0 => throw .keyExpected
  | n + 1 => do
    match ← peek with
    | .key =>
      advance
      let key ← if endsBlockNode (← peek) then pure blank else read n true true
      let value ← readValue n
      return (key, value) :: (← readEntries n)
    | .blockEnd => do
      advance
      return []
    | _ => throw .keyExpected

/-- Read the value of an entry of a block mapping. -/
def readValue : Nat → Reading Node
  | 0 => throw .contentExpected
  | n + 1 => do
    match ← peek with
    | .value =>
      advance
      if endsBlockNode (← peek) then return blank else read n true true
    | _ => return blank

/-- Read the value of an entry of a flow mapping, or of a pair in a flow sequence. -/
def readFlowValue : Nat → Bool → Reading Node
  | 0, _ => throw .contentExpected
  | n + 1, inMapping => do
    match ← peek with
    | .value =>
      advance
      if endsFlowNode inMapping (← peek) then return blank else read n false false
    | _ => return blank

/-- Read the items of a flow sequence. A key makes an item a mapping of one entry. -/
def readFlowItems : Nat → Bool → Reading (List Node)
  | 0, _ => throw .commaExpected
  | n + 1, first => do
    if (← peek) = .flowSequenceEnd then do
      advance
      return []
    else
      if !first then
        if (← peek) = .flowEntry then advance else throw .commaExpected
      match ← peek with
      | .flowSequenceEnd => do
        advance
        return []
      | .key =>
        advance
        let next ← peek
        let key ← if next = .value || endsFlowNode false next then do
            advance
            pure blank
          else read n false false
        let value ← readFlowValue n false
        return .mapping [(key, value)] :: (← readFlowItems n false)
      | _ =>
        let item ← read n false false
        return item :: (← readFlowItems n false)

/-- Read the entries of a flow mapping. -/
def readFlowEntries : Nat → Bool → Reading (List (Node × Node))
  | 0, _ => throw .commaExpected
  | n + 1, first => do
    if (← peek) = .flowMappingEnd then do
      advance
      return []
    else
      if !first then
        if (← peek) = .flowEntry then advance else throw .commaExpected
      match ← peek with
      | .flowMappingEnd => do
        advance
        return []
      | .key =>
        advance
        let next ← peek
        let key ← if next = .value || endsFlowNode true next then pure blank else read n false false
        let value ← readFlowValue n true
        return (key, value) :: (← readFlowEntries n false)
      | _ =>
        let key ← read n false false
        return (key, blank) :: (← readFlowEntries n false)

end

/-- The tag handles that have a meaning without a directive. -/
def defaultHandles : List (List Char × List Char) :=
  [(['!'], ['!']), (['!', '!'], "tag:yaml.org,2002:".toList)]

/-- Read the directives in front of a document: at most one version, which has to be known, and each
handle once. Answers whether there were any. -/
def readDirectives : Nat → Bool → List (List Char) → Reading Bool
  | 0, _, _ => throw .badDirective
  | n + 1, versioned, seen => do
    match ← peek with
    | .versionDirective major minor =>
      advance
      if versioned || major ≠ 1 || (minor ≠ 1 && minor ≠ 2) then throw .badDirective
      else readDirectives n true seen
    | .tagDirective handle lead =>
      advance
      if seen.contains handle then throw .badDirective
      else
        modify fun r ↦ { r with handles := (handle, lead) :: r.handles }
        readDirectives n versioned (handle :: seen)
    | _ => return versioned || !seen.isEmpty

/-- Go past the marks of the ends of documents. -/
def skipDocumentEnds : Reading Unit :=
  modify fun r ↦ { r with tokens := r.tokens.dropWhile (· = .documentEnd) }

/-- Read the only document of a text; `none` when there is none. -/
def readDocument (budget : Nat) : Reading (Option Node) := do
  if (← peek) = .streamEnd then return none
  else
    let directed ← readDirectives budget false []
    let explicit := (← peek) = .documentStart
    if directed && !explicit then throw .documentStartExpected
    else
      if explicit then advance
      let next ← peek
      let isEmpty := explicit && (next = .documentStart || next = .documentEnd || next = .streamEnd)
      let node ← if isEmpty then pure blank else read budget true false
      skipDocumentEnds
      if (← peek) = .streamEnd then return some node else throw .severalDocuments

/-- The document that a text holds; `none` when it holds nothing. -/
def parse (text : String) : Except YamlError (Option Node) := do
  let ts ← tokens text
  return (← (readDocument (4 * ts.length + 8)).run ⟨ts, [], defaultHandles⟩).1

end Node

end MetricsAgent.Yaml
