import MetricsAgent.Text.Blank

/-!
# Positions in a YAML text

A `Cursor` is a place in a text: what follows it, its line and column, and how many characters stand
before it.  Columns are what indentation is about, and the number of characters bounds how far a key
may reach.

Lines may end with a carriage return, a line feed, both together, or one of three Unicode
separators.  The first four are read as a line feed, and `Cursor.skipLine` answers the line break as
it is read.

* `Cursor.peek` looks ahead without moving, also past the end.
* `Cursor.skip` and `Cursor.takeWhile` move within a line and do not touch line breaks.
* `Cursor.isAtDocumentMark` tells whether a document begins or ends here, which three of a character
  at the start of a line do.

`YamlError` is everything that can be wrong with a text, whichever pass finds it, with its wording.
-/

set_option autoImplicit false

namespace MetricsAgent.Yaml

/-- Why a text is no YAML document. -/
inductive YamlError where
  /-- A character that no text may hold. -/
  | badCharacter
  /-- A character that no part of a document begins with. -/
  | unexpectedCharacter
  | tabInIndentation
  | unclosedQuote
  | documentMarkInQuote
  | badEscape
  | badBlockHeader
  | colonInPlainText
  | entryNotAllowed
  | keyNotAllowed
  | valueNotAllowed
  | colonExpected
  | badAnchor
  | badTag
  | badDirective
  | documentStartExpected
  | contentExpected
  | entryExpected
  | keyExpected
  | commaExpected
  | unknownAnchor (name : String)
  | unknownTagHandle (handle : String)
  | severalDocuments
  deriving DecidableEq, Repr

/-- The wording of an error. -/
def YamlError.message : YamlError → String
  | badCharacter => "control characters are not allowed"
  | unexpectedCharacter => "found character that cannot start any token"
  | tabInIndentation => "found a tab character that violates indentation"
  | unclosedQuote => "found unexpected end of stream"
  | documentMarkInQuote => "found unexpected document indicator"
  | badEscape => "found unknown escape character"
  | badBlockHeader => "did not find expected comment or line break"
  | colonInPlainText => "found unexpected ':'"
  | entryNotAllowed => "block sequence entries are not allowed in this context"
  | keyNotAllowed => "mapping keys are not allowed in this context"
  | valueNotAllowed => "mapping values are not allowed in this context"
  | colonExpected => "could not find expected ':'"
  | badAnchor => "did not find expected alphabetic or numeric character"
  | badTag => "did not find expected tag"
  | badDirective => "found unknown directive name"
  | documentStartExpected => "did not find expected <document start>"
  | contentExpected => "did not find expected node content"
  | entryExpected => "did not find expected '-' indicator"
  | keyExpected => "did not find expected key"
  | commaExpected => "did not find expected ',' or closing bracket"
  | unknownAnchor name => "unknown anchor " ++ name
  | unknownTagHandle handle => "found undefined tag handle " ++ handle
  | severalDocuments => "deserializing from YAML containing more than one document is not supported"

/-- A character that ends a line. -/
def isBreak (c : Char) : Bool :=
  c = '\n' || c = '\r' || c = '\u0085' || c = '\u2028' || c = '\u2029'

/-- A blank within a line. -/
def isSpace (c : Char) : Bool := c = ' ' || c = '\t'

/-- Neither a blank nor the end of a line. -/
def isVisible (c : Char) : Bool := !isSpace c && !isBreak c

/-- A character that a text may hold. -/
def isAllowed (c : Char) : Bool :=
  let n := c.toNat
  n = 9 || n = 10 || n = 13 || n = 0x85 || (0x20 ≤ n && n ≤ 0x7E) || (0xA0 ≤ n && n ≤ 0xD7FF)
    || (0xE000 ≤ n && n ≤ 0xFFFD) || 0x10000 ≤ n

/-- A place in a text: what follows it, its line and column, and how many characters stand before
it. -/
structure Cursor where
  rest : List Char
  line : Nat
  column : Nat
  index : Nat

namespace Cursor

/-- The start of a text. -/
def start (cs : List Char) : Cursor := ⟨cs, 0, 0, 0⟩

/-- The character so many places on. -/
def peek (c : Cursor) (n : Nat) : Option Char := c.rest[n]?

/-- Go on by so many characters of the line. -/
def skip (c : Cursor) (n : Nat) : Cursor :=
  { c with rest := c.rest.drop n, column := c.column + n, index := c.index + n }

/-- Go to the next line. Answers the line break as it is read. -/
def skipLine (c : Cursor) : List Char × Cursor :=
  match c.rest with
  | '\r' :: '\n' :: rest => (['\n'], ⟨rest, c.line + 1, 0, c.index + 2⟩)
  | x :: rest =>
    (if x = '\u2028' || x = '\u2029' then [x] else ['\n'], ⟨rest, c.line + 1, 0, c.index + 1⟩)
  | [] => ([], c)

/-- Read the characters of the line that have a property. -/
def takeWhile (c : Cursor) (p : Char → Bool) : List Char × Cursor :=
  let cs := c.rest.takeWhile p
  (cs, c.skip cs.length)

/-- Go past the characters of the line that have a property. -/
def skipWhile (c : Cursor) (p : Char → Bool) : Cursor := (c.takeWhile p).2

/-- Whether the character so many places on is visible. -/
def isVisibleAt (c : Cursor) (n : Nat) : Bool := (c.peek n).any isVisible

/-- Whether a line break or the end of the text follows. -/
def isAtLineEnd (c : Cursor) : Bool := (c.peek 0).all isBreak

/-- Whether the line begins here with three of a character that are followed by nothing visible. -/
def isAtMark (c : Cursor) (x : Char) : Bool :=
  c.column = 0 && c.rest.take 3 = [x, x, x] && !c.isVisibleAt 3

/-- Whether a document begins or ends here. -/
def isAtDocumentMark (c : Cursor) : Bool := c.isAtMark '-' || c.isAtMark '.'

end Cursor

end MetricsAgent.Yaml
