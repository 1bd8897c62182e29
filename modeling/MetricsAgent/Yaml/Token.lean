import MetricsAgent.Yaml.Scalar

/-!
# Tokens of YAML

Indentation becomes tokens that open and close block collections.  A key that is not marked as one
is recognised only at its colon; then the tokens that mark it are put in front of it.  So the
scanner remembers, for each level of flow collections, the place at which a key may have begun.
Such a key is confined to one line and to 1024 characters.

* `Scanner` is the state: the place, the tokens so far, the depth of flow collections, the
  indentation of the open block collections, and the possible keys.
* `Scanner.rollIndent` opens a block collection where a line is indented more deeply, and
  `Scanner.unrollIndent` closes those that are deeper than the present column.
* `Scanner.saveKey` remembers a place, `Scanner.dropStaleKeys` forgets the places that are too far
  back, and `Scanner.readValue` is where such a place turns out to have been a key, or not.
* `Scanner.readToken` is one case for each character that a token may begin with, and
  `Scanner.readAll` reads them all.  Every turn takes at least one character of its budget.

Tokens have positions in the list, not in the text: putting one in front of a key is an insertion at
the position that was remembered.
-/

set_option autoImplicit false

namespace MetricsAgent.Yaml

/-- A tag: a handle between exclamation marks, or nothing, and what follows it. -/
structure TagName where
  handle : List Char
  suffix : List Char
  deriving DecidableEq, Repr

/-- A part of a document. -/
inductive Token where
  | versionDirective (major minor : Nat)
  | tagDirective (handle lead : List Char)
  | documentStart
  | documentEnd
  | streamEnd
  | blockSequenceStart
  | blockMappingStart
  | blockEnd
  | flowSequenceStart
  | flowSequenceEnd
  | flowMappingStart
  | flowMappingEnd
  | blockEntry
  | flowEntry
  | key
  | value
  | alias (name : List Char)
  | anchor (name : List Char)
  | tag (t : TagName)
  | scalar (text : List Char) (style : ScalarStyle)
  deriving DecidableEq, Repr

/-- A place at which a key may have begun. -/
structure PossibleKey where
  /-- Nothing but a key can stand there. -/
  required : Bool
  /-- The number of tokens before the key. -/
  position : Nat
  line : Nat
  column : Nat
  index : Nat

/-- The scanner: its place, the tokens so far, the depth of flow collections, the indentation of the
open block collections, the innermost one first, and the possible key of each level of flow
collections. -/
structure Scanner where
  cursor : Cursor
  tokens : Array Token
  flow : Nat
  /-- The indentation of the innermost block collection; -1 outside of all. -/
  indent : Int
  outer : List Int
  /-- Whether a key may begin here. -/
  keyAllowed : Bool
  keys : List (Option PossibleKey)

namespace Scanner

/-- The start of a text. -/
def start (cs : List Char) : Scanner := ⟨.start cs, #[], 0, -1, [], true, [none]⟩

/-- Add a token. -/
def push (s : Scanner) (t : Token) : Scanner := { s with tokens := s.tokens.push t }

/-- Put a token in front of those from a position on. -/
def insert (s : Scanner) (position : Nat) (t : Token) : Scanner :=
  { s with tokens := s.tokens.insertIdxIfInBounds position t }

/-- Go on by so many characters. -/
def skip (s : Scanner) (n : Nat) : Scanner := { s with cursor := s.cursor.skip n }

/-- Replace the possible key of the innermost level. -/
def setKey (s : Scanner) (k : Option PossibleKey) : Scanner := { s with keys := k :: s.keys.drop 1 }

/-- The possible key of the innermost level. -/
def possibleKey (s : Scanner) : Option PossibleKey := s.keys.head?.join

/-- Give up the possible key of the innermost level. -/
def removeKey (s : Scanner) : Except YamlError Scanner :=
  if s.possibleKey.any (·.required) then .error .colonExpected else .ok (s.setKey none)

/-- Remember this place if a key may begin here. -/
def saveKey (s : Scanner) : Except YamlError Scanner :=
  if s.keyAllowed then do
    let c := s.cursor
    let s ← s.removeKey
    let required := s.flow = 0 && s.indent = c.column
    return s.setKey (some ⟨required, s.tokens.size, c.line, c.column, c.index⟩)
  else .ok s

/-- Give up the possible keys that have become too long. -/
def dropStaleKeys (s : Scanner) : Except YamlError Scanner :=
  let isStale (k : PossibleKey) : Bool :=
    k.line < s.cursor.line || k.index + 1024 < s.cursor.index
  if s.keys.any fun k ↦ k.any fun k ↦ isStale k && k.required then .error .colonExpected
  else .ok { s with keys := s.keys.map fun k ↦ k.bind fun k ↦ if isStale k then none else some k }

/-- Open a block collection at a column, in front of the tokens from a position on, if it is deeper
than the innermost one. -/
def rollIndent (s : Scanner) (column position : Nat) (t : Token) : Scanner :=
  if s.flow = 0 && s.indent < column then
    { s with outer := s.indent :: s.outer, indent := column }.insert position t
  else s

/-- Close the block collections that are deeper than a column. -/
def unrollIndent (column : Int) : Nat → Scanner → Scanner
  | 0, s => s
  | n + 1, s =>
    if s.flow = 0 && column < s.indent then
      unrollIndent column n
        ({ s with indent := s.outer.headD (-1), outer := s.outer.drop 1 }.push .blockEnd)
    else s

/-- Close the block collections that are deeper than a column. -/
def closeTo (s : Scanner) (column : Int) : Scanner := unrollIndent column (s.outer.length + 1) s

/-- Go to the next token: past blanks, comments and line ends. A byte order mark in front of the
text takes up a column. -/
def skipToToken : Nat → Scanner → Scanner
  | 0, s => s
  | n + 1, s =>
    let c := s.cursor
    let c := if c.index = 0 && c.peek 0 = some '\uFEFF' then c.skip 1 else c
    let c := c.skipWhile fun x ↦ x = ' ' || (x = '\t' && (s.flow ≠ 0 || !s.keyAllowed))
    let c := if c.peek 0 = some '#' then c.skipWhile (!isBreak ·) else c
    if (c.peek 0).any isBreak then
      skipToToken n { s with cursor := c.skipLine.2, keyAllowed := s.keyAllowed || s.flow = 0 }
    else { s with cursor := c }

/-- A character of a name. -/
def isNameChar (x : Char) : Bool := isAsciiAlnum x || x = '_' || x = '-'

/-- A token that may be the start of a key. -/
def startKey (s : Scanner) : Except YamlError Scanner := do
  return { ← s.saveKey with keyAllowed := false }

/-- Read an anchor, or an alias for one. -/
def readAnchor (s : Scanner) (make : List Char → Token) : Except YamlError Scanner := do
  let s ← s.startKey
  let (name, c) := (s.cursor.skip 1).takeWhile isNameChar
  if name.isEmpty || (c.isVisibleAt 0 && !(c.peek 0).any ("?:,]\x7d%@\x60".toList.contains ·)) then
    .error .badAnchor
  else return { s with cursor := c }.push (make name)

/-- The bytes of a text as characters below 256, put together as UTF-8 again. -/
def ofBytes? (bytes : List Nat) : Option (List Char) :=
  (String.fromUTF8? (ByteArray.mk (bytes.map (·.toUInt8)).toArray)).map (·.toList)

/-- Read the rest of a tag, in which a percent sign and two digits stand for a byte. -/
def readTagText (inBrackets : Bool) : Nat → List Nat → Cursor → Option (List Char × Cursor)
  | 0, _, _ => none
  | n + 1, bytes, c =>
    match c.rest with
    | '%' :: a :: b :: _ => do
      readTagText inBrackets n (bytes ++ [16 * (← hexValue? a) + (← hexValue? b)]) (c.skip 3)
    | x :: _ =>
      if isNameChar x || ";/?:@&=+$.!~*'()".toList.contains x
          || (inBrackets && (x = ',' || x = '[' || x = ']')) then
        readTagText inBrackets n (bytes ++ [x.toNat]) (c.skip 1)
      else (ofBytes? bytes).map (·, c)
    | [] => (ofBytes? bytes).map (·, c)

/-- Read a tag. -/
def tagName? (c : Cursor) : Option (TagName × Cursor) := do
  let text (c : Cursor) (inBrackets : Bool) := readTagText inBrackets (c.rest.length + 1) [] c
  if c.peek 1 = some '<' then
    let (suffix, c) ← text (c.skip 2) true
    if c.peek 0 = some '>' && !suffix.isEmpty then return (⟨[], suffix⟩, c.skip 1) else none
  else
    let (name, d) := (c.skip 1).takeWhile isNameChar
    if d.peek 0 = some '!' then
      let (suffix, d) ← text (d.skip 1) false
      if suffix.isEmpty then none else return (⟨'!' :: name ++ ['!'], suffix⟩, d)
    else
      let (suffix, c) ← text (c.skip 1) false
      return (if suffix.isEmpty then ⟨[], ['!']⟩ else ⟨['!'], suffix⟩, c)

/-- Read a tag. -/
def readTag (s : Scanner) : Except YamlError Scanner := do
  let s ← s.startKey
  match tagName? s.cursor with
  | none => .error .badTag
  | some (t, c) =>
    if c.isVisibleAt 0 && !(s.flow ≠ 0 && c.peek 0 = some ',') then .error .badTag
    else return { s with cursor := c }.push (.tag t)

/-- Read a directive: the version, or the meaning of a tag handle. -/
def readDirective (s : Scanner) : Except YamlError Scanner := do
  let s ← (s.closeTo (-1)).removeKey
  let s := { s with keyAllowed := false }
  let (line, c) := (s.cursor.skip 1).takeWhile (!isBreak ·)
  let words := ((String.ofList line).map fun x ↦ if x = '\t' then ' ' else x).splitOn " "
  let words := (words.filter (!·.isEmpty)).takeWhile (!·.startsWith "#")
  let s := { s with cursor := c }
  match words with
  | ["YAML", version] =>
    match (version.splitOn ".").map (decimalNat? ·.toList) with
    | [some major, some minor] => return s.push (.versionDirective major minor)
    | _ => .error .badDirective
  | ["TAG", handle, lead] =>
    let name := (handle.toList.drop 1).dropLast
    if handle = "!" || (handle.startsWith "!" && handle.endsWith "!" && name.all isNameChar) then
      match readTagText true (lead.length + 1) [] (.start lead.toList) with
      | some (text, c) =>
        if c.rest.isEmpty && !text.isEmpty then return s.push (.tagDirective handle.toList text)
        else .error .badDirective
      | none => .error .badDirective
    else .error .badDirective
  | _ => .error .badDirective

/-- Read the end of the text. -/
def readEnd (s : Scanner) : Except YamlError Scanner := do
  return { ← (s.closeTo (-1)).removeKey with keyAllowed := false }.push .streamEnd

/-- Read the mark of a document. -/
def readDocumentMark (s : Scanner) (t : Token) : Except YamlError Scanner := do
  return ({ ← (s.closeTo (-1)).removeKey with keyAllowed := false }.skip 3).push t

/-- Read the start of a flow collection. -/
def readFlowStart (s : Scanner) (t : Token) : Except YamlError Scanner := do
  let s ← s.saveKey
  return ({ s with flow := s.flow + 1, keys := none :: s.keys, keyAllowed := true }.skip 1).push t

/-- Read the end of a flow collection. -/
def readFlowEnd (s : Scanner) (t : Token) : Except YamlError Scanner := do
  let s ← s.removeKey
  let s := if s.flow = 0 then s else { s with flow := s.flow - 1, keys := s.keys.drop 1 }
  return ({ s with keyAllowed := false }.skip 1).push t

/-- Read the mark between two entries of a flow collection. -/
def readFlowEntry (s : Scanner) : Except YamlError Scanner := do
  return ({ ← s.removeKey with keyAllowed := true }.skip 1).push .flowEntry

/-- Read the mark of an entry of a block sequence. -/
def readBlockEntry (s : Scanner) : Except YamlError Scanner := do
  if s.flow = 0 && !s.keyAllowed then .error .entryNotAllowed
  else
    let s ← (s.rollIndent s.cursor.column s.tokens.size .blockSequenceStart).removeKey
    return ({ s with keyAllowed := true }.skip 1).push .blockEntry

/-- Read the mark of a key. -/
def readKey (s : Scanner) : Except YamlError Scanner := do
  if s.flow = 0 && !s.keyAllowed then .error .keyNotAllowed
  else
    let s ← (s.rollIndent s.cursor.column s.tokens.size .blockMappingStart).removeKey
    return ({ s with keyAllowed := s.flow = 0 }.skip 1).push .key

/-- Read the mark of a value. What it follows may turn out to be a key. -/
def readValue (s : Scanner) : Except YamlError Scanner :=
  match s.possibleKey with
  | some k =>
    let s := (s.insert k.position .key).rollIndent k.column k.position .blockMappingStart
    .ok (({ s.setKey none with keyAllowed := false }.skip 1).push .value)
  | none =>
    if s.flow = 0 && !s.keyAllowed then .error .valueNotAllowed
    else
      let s := s.rollIndent s.cursor.column s.tokens.size .blockMappingStart
      .ok (({ s with keyAllowed := s.flow = 0 }.skip 1).push .value)

/-- Read a block scalar. -/
def readBlock (s : Scanner) (folded : Bool) : Except YamlError Scanner := do
  let s := { ← s.removeKey with keyAllowed := true }
  let (text, c) ← blockScalar folded s.indent s.cursor
  return { s with cursor := c }.push (.scalar text (if folded then .folded else .literal))

/-- Read a scalar in quotes. -/
def readQuoted (s : Scanner) (single : Bool) : Except YamlError Scanner := do
  let s ← s.startKey
  let (text, c) ← quotedScalar single s.cursor
  return { s with cursor := c }.push (.scalar text .quoted)

/-- Read a plain scalar. After a line end a key may begin. -/
def readPlain (s : Scanner) : Except YamlError Scanner := do
  let s ← s.startKey
  let (text, broken, c) ← plainScalar (s.flow ≠ 0) (s.indent + 1).toNat s.cursor
  return { s with cursor := c, keyAllowed := broken }.push (.scalar text .plain)

/-- Whether a plain scalar may begin with a character. -/
def startsPlain (s : Scanner) (x : Char) : Bool :=
  if x = '-' then !(s.cursor.peek 1).any isSpace
  else if x = '?' || x = ':' then s.flow = 0 && s.cursor.isVisibleAt 1
  else isVisible x && !"-?:,[]\x7b\x7d#&*!|>'\"%@\x60".toList.contains x

/-- Read the next token, of which the first character is given. -/
def readToken (s : Scanner) (x : Char) : Except YamlError Scanner :=
  let c := s.cursor
  let ends := !c.isVisibleAt 1
  if c.column = 0 && x = '%' then s.readDirective
  else if c.isAtMark '-' then s.readDocumentMark .documentStart
  else if c.isAtMark '.' then s.readDocumentMark .documentEnd
  else
    match x with
    | '[' => s.readFlowStart .flowSequenceStart
    | '{' => s.readFlowStart .flowMappingStart
    | ']' => s.readFlowEnd .flowSequenceEnd
    | '}' => s.readFlowEnd .flowMappingEnd
    | ',' => s.readFlowEntry
    | '*' => s.readAnchor .alias
    | '&' => s.readAnchor .anchor
    | '!' => s.readTag
    | '\'' => s.readQuoted true
    | '"' => s.readQuoted false
    | _ =>
      if x = '-' && ends then s.readBlockEntry
      else if x = '?' && (s.flow ≠ 0 || ends) then s.readKey
      else if x = ':' && (s.flow ≠ 0 || ends) then s.readValue
      else if (x = '|' || x = '>') && s.flow = 0 then s.readBlock (x = '>')
      else if s.startsPlain x then s.readPlain
      else .error .unexpectedCharacter

/-- Read all tokens. Every turn takes at least one character of the budget. -/
def readAll : Nat → Scanner → Except YamlError Scanner
  | 0, s => s.readEnd
  | n + 1, s => do
    let s := skipToToken (s.cursor.rest.length + 1) s
    let s ← s.dropStaleKeys
    let s := s.closeTo s.cursor.column
    match s.cursor.peek 0 with
    | none => s.readEnd
    | some x => readAll n (← s.readToken x)

end Scanner

/-- The tokens of a text. -/
def tokens (text : String) : Except YamlError (List Token) := do
  let cs := text.toList
  if cs.any (!isAllowed ·) then .error .badCharacter
  else return (← Scanner.readAll (cs.length + 1) (.start cs)).tokens.toList

end MetricsAgent.Yaml
