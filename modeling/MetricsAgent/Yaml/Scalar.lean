import MetricsAgent.Yaml.Cursor

/-!
# Scalars of YAML

A scalar is written plainly, in quotes of two kinds, or as an indented block.  Line breaks inside a
scalar are folded: a single one becomes a space, and of several the first one goes.

All kinds of scalars are stretches of visible characters with gaps between them.  A `Gap` is the
blanks and line breaks in between, and `Gap.text` is what it stands for: its blanks where no line
has ended, else the line breaks folded.  How a stretch is read differs from kind to kind.

Readers answer a `Cursor` behind what they have read, and take a budget that is the number of
characters left.
-/

set_option autoImplicit false

namespace MetricsAgent.Yaml

/-- How a scalar is written. -/
inductive ScalarStyle where
  | plain
  | quoted
  | literal
  | folded
  deriving DecidableEq, Repr

/-- Blanks and line breaks between two stretches of a scalar. -/
structure Gap where
  blanks : List Char
  /-- Whether a line has ended; blanks after that do not count. -/
  broken : Bool
  first : List Char
  /-- The line breaks after the first one. -/
  more : List Char

namespace Gap

/-- Nothing. -/
def empty : Gap := ⟨[], false, [], []⟩

/-- A line break that has already been taken out. -/
def continued : Gap := ⟨[], true, [], []⟩

/-- What a gap stands for. -/
def text (g : Gap) : List Char :=
  if !g.broken then g.blanks
  else if g.first = ['\n'] then (if g.more.isEmpty then [' '] else g.more)
  else g.first ++ g.more

/-- Read a gap. Where a line has ended, tabs are an error before the given column. -/
def read (indent : Nat) : Nat → Gap → Cursor → Except YamlError (Gap × Cursor)
  | 0, g, c => .ok (g, c)
  | n + 1, g, c =>
    match c.peek 0 with
    | none => .ok (g, c)
    | some x =>
      if isSpace x then
        if g.broken && x = '\t' && c.column < indent then .error .tabInIndentation
        else read indent n (if g.broken then g else { g with blanks := g.blanks ++ [x] }) (c.skip 1)
      else if isBreak x then
        let (b, c) := c.skipLine
        read indent n (if g.broken then { g with more := g.more ++ b } else ⟨[], true, b, []⟩) c
      else .ok (g, c)

end Gap

/-! ## Plain scalars

A plain scalar ends where something follows that structures the document: a colon or a hash sign
with a blank on the right side of it, a mark of a flow collection if it stands in one, a line that
is not indented deeply enough, the mark of a document. -/

/-- The characters that structure a flow collection. -/
def isFlowMark (x : Char) : Bool := x = ',' || x = '[' || x = ']' || x = '{' || x = '}'

/-- Read the visible characters of a plain scalar. In a flow collection its marks end the scalar. -/
def plainStretch (flow : Bool) : Nat → Cursor → Except YamlError (List Char × Cursor)
  | 0, c => .ok ([], c)
  | n + 1, c =>
    match c.peek 0 with
    | none => .ok ([], c)
    | some x =>
      let next := c.peek 1
      if !isVisible x then .ok ([], c)
      else if flow && x = ':' && next.any fun y ↦
      isFlowMark y || y = '?' then .error .colonInPlainText
      else if (x = ':' && !c.isVisibleAt 1) || (flow && isFlowMark x) then .ok ([], c)
      else do
        let (cs, c) ← plainStretch flow n (c.skip 1)
        return (x :: cs, c)

/-- Read a plain scalar. Answers whether a line has ended after it, too. -/
def plainLoop (flow : Bool) (indent : Nat) :
    Nat → List Char → Gap → Cursor → Except YamlError (List Char × Bool × Cursor)
  | 0, text, g, c => .ok (text, g.broken, c)
  | n + 1, text, g, c => do
    if c.isAtDocumentMark || c.peek 0 = some '#' then return (text, g.broken, c)
    else
      let (cs, c) ← plainStretch flow c.rest.length c
      let (text, g) := if cs.isEmpty then (text, g) else (text ++ g.text ++ cs, .empty)
      if (c.peek 0).all isVisible then return (text, g.broken, c)
      else
        let (g, c) ← g.read indent c.rest.length c
        if !flow && c.column < indent then return (text, g.broken, c)
        else plainLoop flow indent n text g c

/-- Read a plain scalar that continues only in lines indented to a column. -/
def plainScalar (flow : Bool) (indent : Nat) (c : Cursor) :
    Except YamlError (List Char × Bool × Cursor) :=
  plainLoop flow indent (c.rest.length + 1) [] .empty c

/-! ## Quoted scalars

Single quotes know one escape, the quote itself written twice.  Between double quotes a backslash
and what follows it stand for a character, and a line break can be escaped too, which joins the two
lines without a space. -/

/-- The character that a letter after a backslash stands for. -/
def escapedChar? : Char → Option Char
  | '0' => some '\x00'
  | 'a' => some '\x07'
  | 'b' => some '\x08'
  | 't' | '\t' => some '\t'
  | 'n' => some '\n'
  | 'v' => some '\x0b'
  | 'f' => some '\x0c'
  | 'r' => some '\r'
  | 'e' => some '\x1b'
  | ' ' => some ' '
  | '"' => some '"'
  | '/' => some '/'
  | '\\' => some '\\'
  | 'N' => some '\u0085'
  | '_' => some '\u00a0'
  | 'L' => some '\u2028'
  | 'P' => some '\u2029'
  | _ => none

/-- The number of hexadecimal digits that follow a letter after a backslash. -/
def codeLength? : Char → Option Nat
  | 'x' => some 2
  | 'u' => some 4
  | 'U' => some 8
  | _ => none

/-- The character with a code written by so many digits. -/
def codedChar? (count : Nat) (cs : List Char) : Option Char :=
  let ds := (cs.take count).filterMap hexValue?
  let n := ds.foldl (fun n d ↦ 16 * n + d) 0
  if ds.length = count && n.isValidChar then some (Char.ofNat n) else none

/-- Read the visible characters of a scalar in quotes. Answers whether its line break is escaped,
too. -/
def quotedStretch (single : Bool) : Nat → Cursor → Except YamlError (List Char × Bool × Cursor)
  | 0, c => .ok ([], false, c)
  | n + 1, c =>
    let read (x : Char) (count : Nat) : Except YamlError (List Char × Bool × Cursor) := do
      let (cs, escaped, c) ← quotedStretch single n (c.skip count)
      return (x :: cs, escaped, c)
    match c.rest with
    | [] => .ok ([], false, c)
    | x :: rest =>
      if !isVisible x then .ok ([], false, c)
      else if single then
        if x = '\'' then (if rest.head? = some '\'' then read '\'' 2 else .ok ([], false, c))
        else read x 1
      else if x = '"' then .ok ([], false, c)
      else if x = '\\' then
        match rest with
        | [] => .error .badEscape
        | y :: rest =>
          if isBreak y then .ok ([], true, (c.skip 1).skipLine.2)
          else
            match escapedChar? y, codeLength? y with
            | some z, _ => read z 2
            | none, some count =>
              match codedChar? count rest with
              | some z => read z (2 + count)
              | none => .error .badEscape
            | none, none => .error .badEscape
      else read x 1

/-- Read a scalar in quotes, behind the opening one. -/
def quotedLoop (single : Bool) : Nat → List Char → Cursor → Except YamlError (List Char × Cursor)
  | 0, _, _ => .error .unclosedQuote
  | n + 1, text, c => do
    if c.isAtDocumentMark then .error .documentMarkInQuote
    else if c.rest.isEmpty then .error .unclosedQuote
    else
      let (cs, escaped, c) ← quotedStretch single c.rest.length c
      let text := text ++ cs
      if !escaped && c.peek 0 = some (if single then '\'' else '"') then return (text, c.skip 1)
      else
        let (g, c) ← (if escaped then Gap.continued else .empty).read 0 c.rest.length c
        quotedLoop single n (text ++ g.text) c

/-- Read a scalar in quotes. -/
def quotedScalar (single : Bool) (c : Cursor) : Except YamlError (List Char × Cursor) :=
  quotedLoop single (c.rest.length + 1) [] (c.skip 1)

/-! ## Block scalars

A block keeps its lines, or folds them.  Its indentation is given in its header or found at its
first line that is not empty, and its header also says what becomes of the line breaks at its
end. -/

/-- What becomes of the line breaks at the end of a block. -/
inductive Chomping where
  | strip
  | clip
  | keep
  deriving DecidableEq, Repr

/-- What a chomping mark asks for. -/
def Chomping.ofMark? : Char → Option Chomping
  | '+' => some keep
  | '-' => some strip
  | _ => none

/-- Read the header of a block, behind its mark: the chomping and the depth of the indentation, in
either order. -/
def blockHeader (c : Cursor) : Except YamlError (Chomping × Option Nat × Cursor) :=
  let depth (c : Cursor) : Except YamlError (Option Nat × Cursor) :=
    match (c.peek 0).bind digitValue? with
    | some 0 => .error .badBlockHeader
    | some d => .ok (some d, c.skip 1)
    | none => .ok (none, c)
  match (c.peek 0).bind Chomping.ofMark? with
  | some k => do
    let (d, c) ← depth (c.skip 1)
    return (k, d, c)
  | none => do
    let (d, c) ← depth c
    match d, (c.peek 0).bind Chomping.ofMark? with
    | some d, some k => return (k, some d, c.skip 1)
    | d, _ => return (.clip, d, c)

/-- Read the spaces and the empty lines in front of a line of a block. The indentation is found
where it is not given: the deepest of these lines, but at least `least`. -/
def blockBreaks (least : Nat) :
    Nat → Option Nat → Nat → List Char → Cursor → Except YamlError (Nat × List Char × Cursor)
  | 0, indent, deepest, breaks, c => .ok (indent.getD (max deepest least), breaks, c)
  | n + 1, indent, deepest, breaks, c =>
    let isShallow (column : Nat) : Bool := indent.all (column < ·)
    let spaces := (c.rest.takeWhile (· = ' ')).length
    let c := c.skip (match indent with
      | some i => min spaces (i - c.column)
      | none => spaces)
    let deepest := max deepest c.column
    if isShallow c.column && c.peek 0 = some '\t' then .error .tabInIndentation
    else if (c.peek 0).any isBreak then
      let (b, c) := c.skipLine
      blockBreaks least n indent deepest (breaks ++ b) c
    else .ok (indent.getD (max deepest least), breaks, c)

/-- Read the lines of a block. -/
def blockLines (folded : Bool) (chomping : Chomping) (indent : Nat) :
    Nat → List Char → Bool → List Char → List Char → Cursor → Except YamlError (List Char × Cursor)
  | 0, text, _, _, _, c => .ok (text, c)
  | n + 1, text, wasIndented, first, more, c => do
    if c.column ≠ indent || c.rest.isEmpty then
      let text := if chomping = .strip then text else text ++ first
      return (if chomping = .keep then text ++ more else text, c)
    else
      let isIndented := (c.peek 0).any isSpace
      let folds := folded && first = ['\n'] && !wasIndented && !isIndented
      let gap := if folds then (if more.isEmpty then [' '] else more) else first ++ more
      let (line, c) := c.takeWhile (!isBreak ·)
      let (first, c) := c.skipLine
      let (_, more, c) ← blockBreaks 0 (c.rest.length + 1) (some indent) 0 [] c
      blockLines folded chomping indent n (text ++ gap ++ line) isIndented first more c

/-- Read a block that stands in a node indented to `parent`. -/
def blockScalar (folded : Bool) (parent : Int) (c : Cursor) :
    Except YamlError (List Char × Cursor) := do
  let (chomping, depth, c) ← blockHeader (c.skip 1)
  let c := c.skipWhile isSpace
  let c := if c.peek 0 = some '#' then c.skipWhile (!isBreak ·) else c
  if !c.isAtLineEnd then .error .badBlockHeader
  else
    let c := c.skipLine.2
    let given := depth.map fun d ↦ (max parent 0).toNat + d
    let (indent, more, c) ←
      blockBreaks (max (parent + 1) 1).toNat (c.rest.length + 1) given 0 [] c
    blockLines folded chomping indent (c.rest.length + 1) [] false [] more c

end MetricsAgent.Yaml
